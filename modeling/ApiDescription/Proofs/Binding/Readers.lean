import ApiDescription.Proofs.Binding.Places

/-!
# Reading in other ways

Schemas, path items and callbacks are read inside of each other, and everything around them is
defined over arbitrary ways to read these three.  So one can ask what happens if the depth of the
recursion is limited in another way than it is for the usual ones.  Nothing happens if the other
ways agree with the usual ones at the nodes of the registry: `Registry.bindBy_eq`.
-/

namespace ApiDescription

/-! ## Ways that agree -/

/-- What is done after a step that only adds findings matters only for the result of the step. -/
theorem Binding.OnlyTells.bind_congr {α β : Type} {m : Binding α} (hm : m.OnlyTells)
    {f f' : α → Binding β} (h : f m.result = f' m.result) : m >>= f = m >>= f' := by
  obtain ⟨found, hrun⟩ := hm.run
  funext w
  change f (m w).1 (m w).2 = f' (m w).1 (m w).2
  rw [hrun w, h]

theorem Binding.collect_congr {α β : Type} {step step' : α → Binding (Option β)} {l : List α}
    (h : ∀ a ∈ l, step a = step' a) : Binding.collect step l = Binding.collect step' l := by
  induction l with
  | nil => rfl
  | cons a rest ih =>
    simp only [Binding.collect, h a List.mem_cons_self,
      ih fun b hb => h b (List.mem_cons_of_mem _ hb)]

theorem Record.readFields_congr {α : Type} {fields : List (String × Node)}
    {step step' : String → Node → Binding (Option α)}
    (h : ∀ field ∈ fields, step field.1 field.2 = step' field.1 field.2) :
    Record.readFields fields step = Record.readFields fields step' :=
  Binding.collect_congr fun field hfield => by simp only [h field hfield]

variable {S : Setting} {r : Record} {n : Node} {β : Type}

/-- What is done with the object that a node is. -/
theorem Node.record?_congr {P : Node → Prop} (hn : P n) (what : String)
    {f f' : Option Record → Binding β} (hnone : f none = f' none)
    (hsome : ∀ r : Record, P r.node → f (some r) = f' (some r)) :
    n.record? what >>= f = n.record? what >>= f' := by
  refine (n.onlyTells_record? what).bind_congr ?_
  rw [result_record?]
  cases hr : n.object? with
  | none => exact hnone
  | some r => exact hsome r (node_of_object? hr ▸ hn)

/-- What is done with the object in a field. -/
theorem Record.Sited.record?_congr (hr : r.Sited S) (key : String)
    {f f' : Option Record → Binding β} (hnone : f none = f' none)
    (hsome : ∀ r : Record, r.Sited S → f (some r) = f' (some r)) :
    r.record? key >>= f = r.record? key >>= f' := by
  refine (r.onlyTells_record? key).bind_congr ?_
  rw [result_record?]
  cases hinner : (r.field? key).bind Node.object? with
  | none => exact hnone
  | some inner => exact hsome inner ((of_field?_object? hinner).2.2 hr)

/-- What is done with the object that a node stands for. -/
theorem Node.Sited.resolvedRecord?_congr (hn : n.Sited S) (what : String)
    {f f' : Option ResolvedRecord → Binding β} (hnone : f none = f' none)
    (hsome : ∀ (r : Record) (reference : Option String), r.Sited S →
      f (some ⟨r, reference⟩) = f' (some ⟨r, reference⟩)) :
    n.resolvedRecord? what >>= f = n.resolvedRecord? what >>= f' := by
  refine (n.onlyTells_resolvedRecord? what).bind_congr ?_
  rcases n.result_resolvedRecord?_cases what with hlost | ⟨target, r, ht, hr, hfound⟩
  · exact hlost ▸ hnone
  · exact hfound ▸ hsome r _ ((hn.resolved ht).object hr)

theorem Record.Sited.readAll_congr (hr : r.Sited S) (key : String)
    {step step' : Node → Binding (Option β)} (h : ∀ {n : Node}, n.Sited S → step n = step' n) :
    r.readAll key step = r.readAll key step' :=
  hr.record?_congr key rfl fun _ hinner =>
    Record.readFields_congr fun _ hfield => h (hinner.fields hfield)

namespace SchemaReader

/-- A way to read schemas agrees with the usual one at the nodes of the registry. -/
def Agrees (S : Setting) (read : SchemaReader) : Prop := ∀ {n : Node}, n.Sited S → read n = n.schema

variable {read : SchemaReader} (hread : read.Agrees S)
include hread

/-! ### Contents -/

theorem schema?_eq (hr : r.Sited S) (key : String) : r.schema? read key = r.outerSchema? key := by
  unfold Record.outerSchema? Record.schema?
  cases hn : r.field? key with
  | none => rfl
  | some n =>
    dsimp only
    rw [hread (hr.field hn)]

theorem mediaType?_eq (hn : n.Sited S) : read.mediaType? n = n.mediaType? := by
  refine Node.record?_congr hn _ rfl fun r hr => ?_
  dsimp only
  rw [schema?_eq hread hr]

theorem content_eq (hr : r.Sited S) : read.content r = r.content := by
  unfold Record.content content
  cases hn : r.field? "content" with
  | none => rfl
  | some n =>
    refine Node.record?_congr (hr.field hn) _ rfl fun formats hformats => ?_
    exact Record.readFields_congr fun field hfield =>
      mediaType?_eq hread (Record.Sited.fields hformats hfield)

theorem header?_eq (hn : n.Sited S) : read.header? n = n.header? := by
  refine hn.resolvedRecord?_congr _ rfl fun r reference hr => ?_
  dsimp only
  rw [schema?_eq hread hr, content_eq hread hr]

theorem response?_eq (hn : n.Sited S) : read.response? n = n.response? := by
  refine hn.resolvedRecord?_congr _ rfl fun r reference hr => ?_
  dsimp only
  rw [hr.readAll_congr "headers" (header?_eq hread), content_eq hread hr]

theorem responses_eq (hn : n.Sited S) : read.responses n = n.responses :=
  Node.record?_congr hn _ rfl fun _ hr =>
    Record.readFields_congr fun _ hfield => response?_eq hread (Record.Sited.plainFields hr hfield)

theorem requestBody?_eq (hn : n.Sited S) : read.requestBody? n = n.requestBody? := by
  refine hn.resolvedRecord?_congr _ rfl fun r reference hr => ?_
  dsimp only
  rw [content_eq hread hr]

theorem parameter_eq (hr : r.Sited S) (name : String) (place : ParameterPlace)
    (reference : Option String) (location : Pointer) :
    read.parameter r name place reference location =
      r.parameter name place reference location := by
  unfold Record.parameter parameter
  rw [schema?_eq hread hr, content_eq hread hr]

theorem parameter?_eq (hn : n.Sited S) : read.parameter? n = n.parameter? := by
  refine hn.resolvedRecord?_congr _ rfl fun r reference hr => ?_
  have hparameter : read.parameter r = r.parameter := by
    funext name place reference location
    exact parameter_eq hread hr name place reference location
  dsimp only
  exact hparameter ▸ rfl

theorem parameters_eq (hr : r.Sited S) : read.parameters r = r.parameters := by
  unfold Record.parameters parameters
  cases hn : r.field? "parameters" with
  | none => rfl
  | some n =>
    refine (n.onlyTells_items _).bind_congr ?_
    rw [Node.result_items]
    exact Binding.collect_congr fun item hitem => parameter?_eq hread ((hr.field hn).item hitem)

/-! ### Operations -/

theorem responses?_eq (hr : r.Sited S) : read.responses? r = r.responses? := by
  unfold Record.responses? responses?
  cases hn : r.field? "responses" with
  | none => rfl
  | some n =>
    dsimp only
    rw [responses_eq hread (hr.field hn)]

theorem bodyOf?_eq (hr : r.Sited S) : read.bodyOf? r = r.requestBody? := by
  unfold Record.requestBody? bodyOf?
  cases hn : r.field? "requestBody" with
  | none => rfl
  | some n => exact requestBody?_eq hread (hr.field hn)

section Operations

/-! Callbacks are read in two ways that agree at the nodes of some kind, and the members of a node of
that kind are of it, too. -/

variable {P : Node → Prop} (hP : Inherited P) (hsited : ∀ {m : Node}, P m → m.Sited S)
include hP hsited

variable {callback callback' : CallbackReader} (hcallback : ∀ m, P m → callback m = callback' m)
include hcallback

theorem operation?_eq (hn : P n) (method : Method) (path : String) :
    read.operation? n callback method path = n.operation? callback' method path := by
  refine Node.record?_congr hn _ rfl fun r hr => ?_
  have hcallbacks : r.callbacks callback = r.callbacks callback' := by
    unfold Record.callbacks
    cases hm : r.field? "callbacks" with
    | none => rfl
    | some m =>
      refine Node.record?_congr (hP.field hr hm) _ rfl fun entries hentries => ?_
      exact Record.readFields_congr fun field hfield =>
        hcallback _ (hP.fields hentries hfield)
  dsimp only
  rw [responses?_eq hread (hsited hr), bodyOf?_eq hread (hsited hr),
    parameters_eq hread (hsited hr), hcallbacks]

theorem pathItem?_eq {target : Resolved} (ht : P target.node) (path : String)
    (location : Pointer) :
    read.pathItem? target callback path location =
      target.pathItem? callback' path location := by
  refine Node.record?_congr ht _ rfl fun r hr => ?_
  have hoperations : ∀ method, read.operationOf? r callback path method =
      r.operationOf? callback' path method := by
    intro method
    unfold Record.operationOf? operationOf?
    cases hm : r.field? method.name with
    | none => rfl
    | some m =>
      dsimp only
      rw [operation?_eq hread hP hsited hcallback (hP.field hr hm)]
  dsimp only
  rw [parameters_eq hread (hsited hr), Binding.collect_congr fun method _ => hoperations method]

end Operations

/-! ### Components -/

theorem componentSchemas_eq (hr : r.Sited S) : read.componentSchemas r = r.componentSchemas := by
  refine hr.record?_congr _ rfl fun entries hentries => ?_
  refine Record.readFields_congr fun field hfield => ?_
  unfold namedSchema
  rw [hread (hentries.fields hfield)]

end SchemaReader

/-- The path items of a callback are read in two ways that agree. -/
theorem Resolved.callback?_congr {P : Node → Prop} (hP : Inherited P) {read read' : PathItemReader}
    (hread : ∀ path m, P m → read path m = read' path m) {target : Resolved}
    (ht : P target.node) : target.callback? read = target.callback? read' := by
  refine Node.record?_congr ht _ rfl fun r hr => ?_
  dsimp only
  rw [Record.readFields_congr fun field hfield => hread _ _ (hP.plainFields hr hfield)]

namespace Readers

/-- Ways to read agree with the usual ones at the nodes of the registry. -/
structure Agree (S : Setting) (R : Readers) : Prop where
  /-- Schemas are read in the usual way. -/
  schema {n : Node} (hn : n.Sited S) : R.schema n = n.schema
  /-- Path items are read in the usual way. -/
  pathItem {n : Node} (hn : n.Sited S) (path : String) : R.pathItem path n = n.pathItem? path
  /-- Callbacks are read in the usual way. -/
  callback {n : Node} (hn : n.Sited S) : R.callback n = n.callback?

variable {R : Readers} (hR : R.Agree S)
include hR

theorem componentPathItems_eq (hr : r.Sited S) :
    R.componentPathItems r = r.componentPathItems := by
  unfold Record.componentPathItems componentPathItems
  congr 1
  refine hr.record?_congr _ rfl fun entries hentries => ?_
  exact Record.readFields_congr fun field hfield => hR.pathItem (hentries.fields hfield) field.1

theorem componentsWith_eq (hr : r.Sited S) (schemas : Entries SchemaId) :
    R.componentsWith r schemas = r.componentsWith schemas := by
  have hread : R.schema.Agrees S := hR.schema
  unfold Record.componentsWith componentsWith
  rw [hr.readAll_congr "responses" (SchemaReader.response?_eq hread),
    hr.readAll_congr "parameters" (SchemaReader.parameter?_eq hread),
    hr.readAll_congr "requestBodies" (SchemaReader.requestBody?_eq hread),
    hr.readAll_congr "headers" (SchemaReader.header?_eq hread),
    hr.readAll_congr "callbacks" hR.callback, componentPathItems_eq hR hr]

theorem components_eq (hn : n.Sited S) : R.components n = n.components := by
  refine Node.record?_congr hn _ rfl fun r (hr : r.Sited S) => ?_
  have hread : R.schema.Agrees S := hR.schema
  have hwith : R.componentsWith r = r.componentsWith := funext (componentsWith_eq hR hr)
  dsimp only
  rw [SchemaReader.componentSchemas_eq hread hr, hwith]

theorem componentsOf_eq (hr : r.Sited S) : R.componentsOf r = r.components := by
  unfold Record.components componentsOf
  cases hn : r.field? "components" with
  | none => rfl
  | some n => exact components_eq hR (hr.field hn)

theorem pathItems_eq (hn : n.Sited S) : R.pathItems n = n.pathItems :=
  Node.record?_congr hn _ rfl fun _ hr => Record.readFields_congr fun field hfield =>
    hR.pathItem (Record.Sited.plainFields hr hfield) field.1

theorem paths_eq (hr : r.Sited S) : R.paths r = r.paths := by
  unfold Record.paths paths
  cases hn : r.field? "paths" with
  | none => rfl
  | some n => exact pathItems_eq hR (hr.field hn)

theorem webhooks_eq (hr : r.Sited S) : R.webhooks r = r.webhooks := by
  unfold Record.webhooks webhooks
  cases hn : r.field? "webhooks" with
  | none => rfl
  | some n =>
    dsimp only
    rw [pathItems_eq hR (hr.field hn)]

theorem descriptionWith_eq (hr : r.Sited S) (declared : String) (info : Info)
    (jsonSchemaDialect : Option String) (servers : List Server) (components : Components) :
    R.descriptionWith r declared info jsonSchemaDialect servers components =
      r.descriptionWith declared info jsonSchemaDialect servers components := by
  unfold Record.descriptionWith descriptionWith
  rw [paths_eq hR hr, webhooks_eq hR hr]

theorem description_eq (hr : r.Sited S) (declared : String) :
    R.description r declared = r.description declared := by
  unfold Record.description description
  simp only [componentsOf_eq hR hr, descriptionWith_eq hR hr]

theorem bind_eq {d : RegisteredDocument} (hd : S.registry.documents[S.entry]? = some d)
    (declared : String) : R.bind d S declared = d.bind S declared := by
  unfold RegisteredDocument.bind bind
  cases hroot : d.root with
  | object members =>
    have hrecord : S.root? = some ⟨⟨S, S.entry, d⟩, .root, members⟩ := by
      rw [Setting.root?, hd, Option.bind_some, hroot]
      rfl
    dsimp only
    rw [description_eq hR (Setting.sited_root hrecord)]
  | _ => rfl

end Readers

/-- Where the chosen ways to read agree with the usual ones, one gets the usual description and the
usual report. -/
theorem Registry.bindBy_eq {r : Registry} {readers : Setting → Readers}
    (h : ∀ S, S.registry = r → (readers S).Agree S) (entry : String) (options : Options)
    (version : Version) (declared : String) :
    r.bindBy readers entry options version declared = r.bind entry options version declared := by
  unfold bind bindBy
  congr 1
  refine Option.bind_congr fun place _ => ?_
  cases hd : r.documents[place]? with
  | none => rfl
  | some d => exact congrArg some (Readers.bind_eq (h _ rfl) hd declared)

end ApiDescription
