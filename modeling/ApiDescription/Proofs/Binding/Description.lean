import ApiDescription.Proofs.Binding.Schema
import ApiDescription.Proofs.SchemaIds

/-!
# Reading descriptions

Outside of schemas, nothing is done to the workspace but to read schemas at nodes, to give names to
them and to add findings.  So every function that reads a part of a description keeps the workspace
sound, the schemas that the part names are in the graph, and after the whole of it no schema is
open.
-/

namespace ApiDescription

open Binding

namespace Binding

variable {α β : Type} {S : Setting} {given : List SchemaId}

/-- In every sound workspace whose graph has the given schemas, the step is a whole step, leaves the
workspace sound, and its result names schemas that the graph has then. -/
def Keeps (S : Setting) (given : List SchemaId) (m : Binding α) (ids : α → List SchemaId) : Prop :=
  ∀ w : Workspace, w.Sound S → (∀ id ∈ given, id < w.graph.size) →
    Ensures S w m fun a w' => ∀ id ∈ ids a, id < w'.graph.size

variable {m : Binding α} {f : α → Binding β} {ids : α → List SchemaId} {ids' : β → List SchemaId}

namespace Keeps

protected theorem pure {a : α} (h : ids a ⊆ given) : Keeps S given (pure a) ids :=
  fun _ hw hgiven => .pure hw fun id hid => hgiven id (h hid)

/-- What is named by a first result is still there when a second step is done. -/
protected theorem bind (hm : Keeps S given m ids)
    (hf : ∀ a, Keeps S (ids a ++ given) (f a) ids') : Keeps S given (m >>= f) ids' := by
  intro w hw hgiven
  refine (hm w hw hgiven).bind fun a w' hw' hext hids => hf a w' hw' fun id hid => ?_
  rcases List.mem_append.mp hid with hnew | hold
  · exact hids id hnew
  · exact Nat.lt_of_lt_of_le (hgiven id hold) hext.size_le

theorem get_bind {f : Workspace → Binding β} (hf : ∀ w, Keeps S given (f w) ids') :
    Keeps S given (get >>= f) ids' := by
  intro w hw hgiven
  have h := hf w w hw hgiven
  exact ⟨h.sound, h.ext, h.holds⟩

/-- A step that only adds findings comes first. -/
theorem tells_bind (hm : m.OnlyTells) (hf : Keeps S given (f m.result) ids') :
    Keeps S given (m >>= f) ids' :=
  fun _ hw hgiven => .tells_bind hw hm fun w' hw' hext =>
    hf w' hw' fun id hid => Nat.lt_of_lt_of_le (hgiven id hid) hext.size_le

protected theorem ite {c : Prop} [Decidable c] {m m' : Binding α} (hm : Keeps S given m ids)
    (hm' : Keeps S given m' ids) : Keeps S given (if c then m else m') ids := by
  split
  · exact hm
  · exact hm'

/-- A choice with something after it: what is shown of it behind a step that only adds findings is
at hand in the other arm. -/
theorem ite_bind {c : Prop} [Decidable c] {k : Binding β} (hm : m.OnlyTells)
    (hf : ∀ a, Keeps S given (f a) ids')
    (hk : (∀ a, Keeps S given (f a) ids') → Keeps S given k ids') :
    Keeps S given (if c then m >>= f else k) ids' :=
  .ite (.tells_bind hm (hf _)) (hk hf)

protected theorem collect {step : α → Binding (Option β)} {l : List α}
    (h : ∀ a ∈ l, ∀ given, Keeps S given (step a) fun b? => b?.elim [] ids') :
    Keeps S given (collect step l) fun bs => bs.flatMap ids' := by
  induction l generalizing given with
  | nil => exact .pure (by simp)
  | cons a rest ih =>
    refine (h a List.mem_cons_self given).bind fun first => ?_
    refine (ih fun a ha => h a (List.mem_cons_of_mem _ ha)).bind fun others => .pure ?_
    cases first with
    | none => simp
    | some b => simp

theorem readFields {fields : List (String × Node)} {step : String → Node → Binding (Option α)}
    (h : ∀ field ∈ fields, ∀ given,
      Keeps S given (step field.1 field.2) fun a? => a?.elim [] ids) :
    Keeps S given (Record.readFields fields step) fun entries =>
      entries.flatMap fun entry => ids entry.2 := by
  refine .collect fun field hfield given => (h field hfield given).bind fun a? => .pure ?_
  cases a? with
  | none => simp
  | some a => simp

end Keeps

end Binding

variable {S : Setting} {given : List SchemaId} {r : Record} {n : Node} {β : Type}
  {ids : β → List SchemaId}

/-! ## Objects -/

/-- What is done with the object that a node is. -/
theorem Node.Sited.keeps_record? (hn : n.Sited S) (what : String)
    {f : Option Record → Binding β} (hnone : Keeps S given (f none) ids)
    (hsome : ∀ r, r.Sited S → Keeps S given (f (some r)) ids) :
    Keeps S given (n.record? what >>= f) ids := by
  refine .tells_bind (n.onlyTells_record? what) ?_
  rw [result_record?]
  cases hr : n.object? with
  | none => exact hnone
  | some r => exact hsome r (hn.object hr)

/-- What is done with the object in a field. -/
theorem Record.Sited.keeps_record? (hr : r.Sited S) (key : String)
    {f : Option Record → Binding β} (hnone : Keeps S given (f none) ids)
    (hsome : ∀ r, r.Sited S → Keeps S given (f (some r)) ids) :
    Keeps S given (r.record? key >>= f) ids := by
  refine .tells_bind (r.onlyTells_record? key) ?_
  rw [result_record?]
  cases hinner : (r.field? key).bind Node.object? with
  | none => exact hnone
  | some inner => exact hsome inner ((of_field?_object? hinner).2.2 hr)

theorem Node.result_resolvedRecord? (n : Node) (what : String) :
    (n.resolvedRecord? what).result =
      n.resolved.toOption.bind fun t => t.node.object?.map (⟨·, t.reference⟩) := by
  unfold resolvedRecord?
  cases n.resolved with
  | error p => rfl
  | ok t =>
    have h := t.node.result_record? what
    unfold Binding.result at h ⊢
    rw [Except.toOption, Option.bind_some, ← h]
    rfl

/-- A node stands for an object if its chain of references ends at one. -/
theorem Node.result_resolvedRecord?_cases (n : Node) (what : String) :
    (n.resolvedRecord? what).result = none ∨
      ∃ target r, n.resolved = .ok target ∧ target.node.object? = some r ∧
        (n.resolvedRecord? what).result = some ⟨r, target.reference⟩ := by
  rw [result_resolvedRecord?]
  cases n.resolved with
  | error p => exact .inl rfl
  | ok target =>
    rw [Except.toOption, Option.bind_some]
    cases hr : target.node.object? with
    | none => exact .inl rfl
    | some r => exact .inr ⟨target, r, rfl, hr, rfl⟩

/-- What is done with the object that a node stands for. -/
theorem Node.Sited.keeps_resolvedRecord? (hn : n.Sited S) (what : String)
    {f : Option ResolvedRecord → Binding β} (hnone : Keeps S given (f none) ids)
    (hsome : ∀ r reference, r.Sited S → Keeps S given (f (some ⟨r, reference⟩)) ids) :
    Keeps S given (n.resolvedRecord? what >>= f) ids := by
  refine .tells_bind (n.onlyTells_resolvedRecord? what) ?_
  rcases n.result_resolvedRecord?_cases what with hlost | ⟨target, r, ht, hr, hfound⟩
  · exact hlost ▸ hnone
  · exact hfound ▸ hsome r _ ((hn.resolved ht).object hr)

theorem Record.Sited.keeps_readAll (hr : r.Sited S) (key : String)
    {step : Node → Binding (Option β)}
    (h : ∀ n, n.Sited S → ∀ given, Keeps S given (step n) fun b? => b?.elim [] ids) :
    Keeps S given (r.readAll key step) fun entries => entries.flatMap fun entry => ids entry.2 :=
  hr.keeps_record? key (.pure (by simp)) fun _ hinner =>
    .readFields fun _ hfield => h _ (hinner.fields hfield)

/-! ## Contents -/

theorem Record.Sited.keeps_outerSchema? (hr : r.Sited S) (key : String) :
    Keeps S given (r.outerSchema? key) Option.toList := by
  intro w hw _
  refine (Record.ensures_schema? (Node.reads_schema S) hr hw key).imp ?_
  intro id? w' hw' _ hmet id hid
  obtain ⟨n, -, hmet⟩ := hmet.exists_of_mem (Option.mem_toList.mp hid)
  exact hw'.lt_size_of_met hmet

theorem Node.Sited.keeps_mediaType? (hn : n.Sited S) :
    Keeps S given n.mediaType? fun m? => m?.elim [] MediaType.schemaIds := by
  refine hn.keeps_record? _ (.pure (by simp)) fun r hr => ?_
  refine .tells_bind (r.onlyTells_readAll _ Node.onlyTells_example?) ?_
  exact (hr.keeps_outerSchema? _).bind fun schema => .pure (by simp [MediaType.schemaIds])

theorem Record.Sited.keeps_content (hr : r.Sited S) : Keeps S given r.content contentIds := by
  change Keeps S given r.content fun content => content.flatMap fun entry => entry.2.schemaIds
  unfold content SchemaReader.content
  split
  · exact .pure (by simp)
  · next n hn =>
    refine (hr.field hn).keeps_record? _ (.pure (by simp)) fun formats hformats => ?_
    exact .readFields fun field hfield given => (hformats.fields hfield).keeps_mediaType?

theorem Node.Sited.keeps_header? (hn : n.Sited S) :
    Keeps S given n.header? fun h? => h?.elim [] Header.schemaIds := by
  refine hn.keeps_resolvedRecord? _ (.pure (by simp)) fun r reference hr => ?_
  refine .tells_bind (r.onlyTells_text? _) (.tells_bind (r.onlyTells_flag _) ?_)
  refine .tells_bind (r.onlyTells_flag _) ((hr.keeps_outerSchema? _).bind fun schema => ?_)
  exact hr.keeps_content.bind fun content => .pure (by grind [Header.schemaIds])

theorem Node.Sited.keeps_response? (hn : n.Sited S) :
    Keeps S given n.response? fun r? => r?.elim [] Response.schemaIds := by
  refine hn.keeps_resolvedRecord? _ (.pure (by simp)) fun r reference hr => ?_
  refine .tells_bind r.onlyTells_responseText? ?_
  refine (hr.keeps_readAll _ fun _ hn given => hn.keeps_header?).bind fun headers => ?_
  refine .tells_bind (r.onlyTells_readAll _ Node.onlyTells_link?) ?_
  exact hr.keeps_content.bind fun content => .pure (by grind [Response.schemaIds])

theorem Node.Sited.keeps_responses (hn : n.Sited S) :
    Keeps S given n.responses fun rs => rs.flatMap fun entry => entry.2.schemaIds := by
  refine hn.keeps_record? _ (.pure (by simp)) fun r hr => ?_
  exact .readFields fun field hfield given => (hr.plainFields hfield).keeps_response?

theorem Node.Sited.keeps_requestBody? (hn : n.Sited S) :
    Keeps S given n.requestBody? fun b? => b?.elim [] RequestBody.schemaIds := by
  refine hn.keeps_resolvedRecord? _ (.pure (by simp)) fun r reference hr => ?_
  refine .ite_bind (r.onlyTells_tell _) (fun _ => ?_) fun hrest => hrest ()
  refine .tells_bind (r.onlyTells_text? _) (.tells_bind (r.onlyTells_flag _) ?_)
  exact hr.keeps_content.bind fun content => .pure (by grind [RequestBody.schemaIds])

theorem Record.Sited.keeps_parameter (hr : r.Sited S) (name : String) (place : ParameterPlace)
    (reference : Option String) (location : Pointer) :
    Keeps S given (r.parameter name place reference location) Parameter.schemaIds := by
  refine .ite_bind (r.onlyTells_tell _) (fun _ => ?_) fun hrest => hrest ()
  refine .tells_bind (r.onlyTells_text? _) (.tells_bind (r.onlyTells_flag _) ?_)
  refine .tells_bind (r.onlyTells_flag _) (.tells_bind (r.onlyTells_flag _) ?_)
  refine .tells_bind (r.onlyTells_text? _) (.tells_bind (r.onlyTells_flag? _) ?_)
  refine (hr.keeps_outerSchema? _).bind fun schema => ?_
  exact hr.keeps_content.bind fun content => .pure (by grind [Parameter.schemaIds])

theorem Node.Sited.keeps_parameter? (hn : n.Sited S) :
    Keeps S given n.parameter? fun p? => p?.elim [] Parameter.schemaIds := by
  refine hn.keeps_resolvedRecord? _ (.pure (by simp)) fun r reference hr => ?_
  refine .tells_bind (r.onlyTells_requiredText? _ _) (.tells_bind r.onlyTells_parameterPlace? ?_)
  split
  · exact (hr.keeps_parameter _ _ _ _).bind fun p => .pure (by simp)
  · exact .pure (by simp)

theorem Record.Sited.keeps_parameters (hr : r.Sited S) :
    Keeps S given r.parameters fun ps => ps.flatMap Parameter.schemaIds := by
  unfold parameters SchemaReader.parameters
  split
  · exact .pure (by simp)
  · next n hn =>
    refine .tells_bind (n.onlyTells_items _) ?_
    rw [Node.result_items]
    exact .collect fun item hitem given => ((hr.field hn).item hitem).keeps_parameter?

/-! ## Path items, operations and callbacks -/

/-- A way to read what stands at nodes gives what names schemas of the graph. -/
def ReadsSited {α : Type} (S : Setting) (read : Node → Binding (Option α))
    (ids : α → List SchemaId) : Prop :=
  ∀ {n : Node}, n.Sited S → ∀ given, Keeps S given (read n) fun a? => a?.elim [] ids

namespace Record.Sited

theorem keeps_responses? (hr : r.Sited S) :
    Keeps S given r.responses? fun rs? => (rs?.getD []).flatMap fun entry => entry.2.schemaIds := by
  unfold responses? SchemaReader.responses?
  split
  · next n hn => exact (hr.field hn).keeps_responses.bind fun rs => .pure (by simp)
  · exact .ite (.tells_bind (r.onlyTells_tell _) (.pure (by simp))) (.pure (by simp))

theorem keeps_requestBody? (hr : r.Sited S) :
    Keeps S given r.requestBody? fun b? => b?.elim [] RequestBody.schemaIds := by
  unfold requestBody? SchemaReader.bodyOf?
  split
  · exact .pure (by simp)
  · next n hn => exact (hr.field hn).keeps_requestBody?

theorem keeps_callbacks (hr : r.Sited S) {read : CallbackReader}
    (hread : ReadsSited S read Callback.schemaIds) :
    Keeps S given (r.callbacks read) fun cs => cs.flatMap fun entry => entry.2.schemaIds := by
  unfold callbacks
  split
  · exact .pure (by simp)
  · next n hn =>
    refine (hr.field hn).keeps_record? _ (.pure (by simp)) fun entries hentries => ?_
    exact .readFields fun field hfield => hread (hentries.fields hfield)

end Record.Sited

theorem Node.Sited.keeps_operation? (hn : n.Sited S) {read : CallbackReader}
    (hread : ReadsSited S read Callback.schemaIds) (method : Method) (path : String) :
    Keeps S given (n.operation? read method path) fun o? => o?.elim [] Operation.schemaIds := by
  refine hn.keeps_record? _ (.pure (by simp)) fun r hr => ?_
  refine hr.keeps_responses?.bind fun responses => hr.keeps_requestBody?.bind fun body => ?_
  refine .tells_bind r.onlyTells_security? (.tells_bind (r.onlyTells_text? _) ?_)
  refine .tells_bind (r.onlyTells_text? _) (.tells_bind (r.onlyTells_text? _) ?_)
  refine .tells_bind (r.onlyTells_texts _) (hr.keeps_parameters.bind fun parameters => ?_)
  refine (hr.keeps_callbacks hread).bind fun callbacks => ?_
  refine .tells_bind (r.onlyTells_flag _) (.tells_bind r.onlyTells_servers (.pure ?_))
  rw [Option.elim_some, Operation.schemaIds, schemaIdsOfCallbacks_eq]
  cases body with
  | none => grind
  | some body => grind

theorem Record.Sited.keeps_operationOf? (hr : r.Sited S) {read : CallbackReader}
    (hread : ReadsSited S read Callback.schemaIds) (path : String) (method : Method) :
    Keeps S given (r.operationOf? read path method) fun o? =>
      o?.elim [] fun entry => entry.2.schemaIds := by
  unfold operationOf? SchemaReader.operationOf?
  split
  · exact .pure (by simp)
  · next n hn =>
    refine ((hr.field hn).keeps_operation? hread _ _).bind fun o? => .pure ?_
    cases o? with
    | none => simp
    | some o => simp

theorem Resolved.keeps_pathItem? {target : Resolved} (ht : target.node.Sited S)
    {read : CallbackReader} (hread : ReadsSited S read Callback.schemaIds) (path : String)
    (location : Pointer) :
    Keeps S given (target.pathItem? read path location) fun item? =>
      item?.elim [] PathItem.schemaIds := by
  refine ht.keeps_record? _ (.pure (by simp)) fun r hr => ?_
  refine .tells_bind (r.onlyTells_text? _) (.tells_bind (r.onlyTells_text? _) ?_)
  refine .tells_bind r.onlyTells_servers (hr.keeps_parameters.bind fun parameters => ?_)
  refine Keeps.bind (.collect fun method _ given => hr.keeps_operationOf? hread path method)
    fun operations => .pure ?_
  rw [Option.elim_some, PathItem.schemaIds, schemaIdsOfOperations_eq]
  grind

theorem Resolved.keeps_callback? {target : Resolved} (ht : target.node.Sited S)
    {read : PathItemReader} (hread : ∀ key, ReadsSited S (read key) PathItem.schemaIds) :
    Keeps S given (target.callback? read) fun c? => c?.elim [] Callback.schemaIds := by
  refine ht.keeps_record? _ (.pure (by simp)) fun r hr => ?_
  refine Keeps.bind (.readFields fun field hfield => hread field.1 (hr.plainFields hfield))
    fun items => .pure ?_
  rw [Option.elim_some, Callback.schemaIds, schemaIdsOfPathItems_eq]
  grind

theorem Node.Sited.keeps_enter (hn : n.Sited S) (enclosing : Enclosing)
    {read : Enclosing → Resolved → Binding (Option β)}
    (hread : ∀ enclosing target, target.node.Sited S →
      Keeps S given (read enclosing target) fun b? => b?.elim [] ids) :
    Keeps S given (n.enter enclosing read) fun b? => b?.elim [] ids := by
  refine .tells_bind (onlyTells_orTell n.resolved) ?_
  cases ht : n.resolved with
  | error p => exact .pure (by simp)
  | ok target =>
    exact .ite (.tells_bind (n.onlyTells_tell _) (.pure (by simp))) (hread _ _ (hn.resolved ht))

/-- Path items and callbacks are read inside of each other, as deep as there is room. -/
theorem Node.Sited.keeps_within (room : Nat) :
    (∀ enclosing path,
      ReadsSited S (Node.pathItemWithin room enclosing path) PathItem.schemaIds) ∧
      ∀ enclosing, ReadsSited S (Node.callbackWithin room enclosing) Callback.schemaIds := by
  induction room with
  | zero =>
    constructor
    · intro enclosing path n _ given
      unfold pathItemWithin
      exact .pure (by simp)
    · intro enclosing n _ given
      unfold callbackWithin
      exact .pure (by simp)
  | succ room ih =>
    obtain ⟨hpathItem, hcallback⟩ := ih
    constructor
    · intro enclosing path n hn given
      unfold pathItemWithin
      exact hn.keeps_enter enclosing fun inner _ ht =>
        Resolved.keeps_pathItem? ht (hcallback inner) path n.pointer
    · intro enclosing n hn given
      unfold callbackWithin
      exact hn.keeps_enter enclosing fun inner _ ht =>
        Resolved.keeps_callback? ht (hpathItem inner)

theorem Node.reads_pathItem? (path : String) :
    ReadsSited S (Node.pathItem? path) PathItem.schemaIds := fun hn =>
  (Sited.keeps_within _).1 [] path hn

theorem Node.reads_callback? : ReadsSited S Node.callback? Callback.schemaIds := fun hn =>
  (Sited.keeps_within _).2 [] hn

/-! ## Components -/

/-- Giving a name to a schema is a whole step. -/
theorem Binding.keeps_change (id : SchemaId) (name : String) :
    Keeps S given (Binding.change id (Schema.named name)) fun _ => [] := fun w hw _ =>
  have hext := Workspace.Extends.rename w id (Schema.named name) fun _ => rfl
  ⟨hw.of_size_eq hext rfl (SchemaGraph.size_modify _ _ _), hext, by simp⟩

theorem Node.Sited.keeps_schema (hn : n.Sited S) : Keeps S given n.schema fun id => [id] := by
  intro w hw _
  refine (Node.reads_schema S hw hn).imp fun id w' hw' _ hmet other hother => ?_
  rw [List.mem_singleton.mp hother]
  exact hw'.lt_size_of_met hmet.1

theorem Node.Sited.keeps_namedSchema (hn : n.Sited S) (name : String) :
    Keeps S given (Record.namedSchema name n) fun id? => id?.elim [] fun id => [id] :=
  hn.keeps_schema.bind fun id => (Binding.keeps_change id name).bind fun _ => .pure (by simp)

namespace Record.Sited

theorem keeps_componentSchemas (hr : r.Sited S) :
    Keeps S given r.componentSchemas fun entries => entries.flatMap fun entry => [entry.2] := by
  refine hr.keeps_record? _ (.pure (by simp)) fun entries hentries => ?_
  exact .readFields fun field hfield given =>
    (hentries.fields hfield).keeps_namedSchema field.1

theorem keeps_componentPathItems (hr : r.Sited S) :
    Keeps S given r.componentPathItems fun items =>
      items.flatMap fun entry => entry.2.schemaIds := by
  refine .ite ?_ (.tells_bind (r.onlyTells_refuse _) (.pure (by simp)))
  refine hr.keeps_record? _ (.pure (by simp)) fun entries hentries => ?_
  exact .readFields fun field hfield => Node.reads_pathItem? field.1 (hentries.fields hfield)

end Record.Sited

theorem Node.Sited.keeps_components (hn : n.Sited S) :
    Keeps S given n.components Components.schemaIds := by
  refine hn.keeps_record? _ (.pure (by simp [Components.schemaIds, Components.empty]))
    fun r hr => ?_
  refine hr.keeps_componentSchemas.bind fun schemas => ?_
  refine (hr.keeps_readAll _ fun _ h given => h.keeps_response?).bind fun responses => ?_
  refine (hr.keeps_readAll _ fun _ h given => h.keeps_parameter?).bind fun parameters => ?_
  refine .tells_bind (r.onlyTells_readAll _ Node.onlyTells_example?) ?_
  refine (hr.keeps_readAll _ fun _ h given => h.keeps_requestBody?).bind fun bodies => ?_
  refine (hr.keeps_readAll _ fun _ h given => h.keeps_header?).bind fun headers => ?_
  refine .tells_bind (r.onlyTells_readAll _ Node.onlyTells_securityScheme?) ?_
  refine .tells_bind (r.onlyTells_readAll _ Node.onlyTells_link?) ?_
  refine (hr.keeps_readAll _ fun _ => Node.reads_callback?).bind fun callbacks => ?_
  refine hr.keeps_componentPathItems.bind fun pathItems => .pure ?_
  unfold Components.schemaIds
  grind

/-! ## The root -/

theorem Node.Sited.keeps_pathItems (hn : n.Sited S) :
    Keeps S given n.pathItems fun items => items.flatMap fun entry => entry.2.schemaIds := by
  refine hn.keeps_record? _ (.pure (by simp)) fun r hr => ?_
  exact .readFields fun field hfield => Node.reads_pathItem? field.1 (hr.plainFields hfield)

namespace Record.Sited

theorem keeps_components (hr : r.Sited S) : Keeps S given r.components Components.schemaIds := by
  unfold components Readers.componentsOf
  split
  · exact .pure (by simp [Components.schemaIds, Components.empty])
  · next n hn => exact (hr.field hn).keeps_components

theorem keeps_paths (hr : r.Sited S) :
    Keeps S given r.paths fun items => items.flatMap fun entry => entry.2.schemaIds := by
  unfold paths Readers.paths
  split
  · next n hn => exact (hr.field hn).keeps_pathItems
  · exact .ite (.tells_bind (r.onlyTells_tell _) (.pure (by simp))) (.pure (by simp))

theorem keeps_webhooks (hr : r.Sited S) :
    Keeps S given r.webhooks fun items => items.flatMap fun entry => entry.2.schemaIds := by
  unfold webhooks Readers.webhooks
  split
  · exact .pure (by simp)
  · next n hn =>
    exact .ite (hr.field hn).keeps_pathItems
      (.tells_bind (r.onlyTells_refuse _) (.pure (by simp)))

end Record.Sited

theorem Record.Sited.keeps_description (hr : r.Sited S) (declared : String) :
    Keeps S given (r.description declared) Description.outerSchemaIds := by
  refine .tells_bind (r.onlyTells_checkDeclaration _) (.tells_bind r.onlyTells_info ?_)
  refine .tells_bind r.onlyTells_jsonSchemaDialect? (.tells_bind r.onlyTells_servers ?_)
  refine hr.keeps_components.bind fun components => hr.keeps_paths.bind fun paths => ?_
  refine hr.keeps_webhooks.bind fun webhooks => .tells_bind r.onlyTells_checkContents ?_
  refine .tells_bind r.onlyTells_security (.tells_bind r.onlyTells_tags ?_)
  refine .tells_bind r.onlyTells_externalDocs? (.get_bind fun w => .pure ?_)
  unfold Description.outerSchemaIds
  grind

/-- The schemas of a description are those of the workspace that is left. -/
theorem Record.schemas_description (r : Record) (declared : String) (w : Workspace) :
    (r.description declared w).1.schemas = (r.description declared w).2.graph := rfl

/-! ## Whole runs -/

/-- The root of the entry document. -/
def Setting.root? (S : Setting) : Option Record :=
  S.registry.documents[S.entry]?.bind fun source =>
    Node.object? ⟨⟨S, S.entry, source⟩, .root, source.root⟩

/-- The description of a document of a registry, and the workspace that is left. -/
def RegisteredDocument.run (d : RegisteredDocument) (setting : Setting) (declared : String) :
    Except BindingFault (Description × Workspace) :=
  match d.root with
  | .object members =>
    .ok ((Record.description ⟨⟨setting, setting.entry, d⟩, .root, members⟩ declared).run .fresh)
  | other => .error (.rootNotObject other.kind)

/-- The description of the document that a text stands for, and the workspace that is left. -/
def Registry.run (r : Registry) (entry : String) (options : Options) (version : Version)
    (declared : String) : Except BindingFault (Description × Workspace) :=
  ((r.place? entry).bind fun place =>
    r.documents[place]?.map fun d => d.run ⟨r, place, options, version⟩ declared).getD
      (.error (.notRegistered entry))

/-- Binding a document is a run of which only the report of the workspace is kept. -/
theorem Registry.bind_eq_map_run (r : Registry) (entry : String) (options : Options)
    (version : Version) (declared : String) :
    r.bind entry options version declared =
      (r.run entry options version declared).map fun left => (left.1, left.2.report) := by
  unfold bind bindBy run
  cases r.place? entry with
  | none => rfl
  | some place =>
    cases hd : r.documents[place]? with
    | none => simp only [Option.bind_some, hd]; rfl
    | some d =>
      simp only [Option.bind_some, hd, Option.map_some, Option.getD_some]
      unfold Readers.bind RegisteredDocument.run
      cases d.root <;> rfl

/-- What holds when a run has come to its end. -/
structure Workspace.Complete (S : Setting) (w : Workspace) : Prop where
  /-- The workspace is sound. -/
  sound : w.Sound S
  /-- No schema is open. -/
  not_open : ∀ id, ¬ w.Open id

theorem Workspace.not_open_fresh (id : SchemaId) : ¬ Workspace.fresh.Open id := by
  rintro ⟨⟨site, hmem⟩, -⟩
  simp [Workspace.fresh] at hmem

/-- The workspace that a run over a document leaves is complete, and holds the schemas of the
description and all schemas that it names outside of schemas. -/
theorem RegisteredDocument.complete_of_run {source : RegisteredDocument} {declared : String}
    {d : Description} {w : Workspace} (hsource : S.registry.documents[S.entry]? = some source)
    (h : source.run S declared = .ok (d, w)) :
    w.Complete S ∧ d.schemas = w.graph ∧ ∀ id ∈ d.outerSchemaIds, id < w.graph.size := by
  unfold run at h
  cases hroot : source.root with
  | object members =>
    have hr : Record.Sited S ⟨⟨S, S.entry, source⟩, .root, members⟩ := by
      refine ⟨⟨⟨rfl, hsource⟩, hroot ▸ .root⟩, fun hwf => ?_⟩
      have hvalue := hwf source (List.mem_of_getElem? hsource)
      rw [hroot] at hvalue
      exact ⟨by simp [Record.node, Json.at?, hroot], hvalue⟩
    have hkeeps : Binding.Keeps S [] (Record.description _ declared) Description.outerSchemaIds :=
      hr.keeps_description declared
    have hrun := hkeeps .fresh .fresh (by simp)
    rw [hroot] at h
    obtain ⟨rfl, rfl⟩ := Prod.mk.inj (Except.ok.inj h).symm
    exact ⟨⟨hrun.sound, fun id ho => Workspace.not_open_fresh id (hrun.ext.closed id ho)⟩,
      Record.schemas_description _ declared .fresh, hrun.holds⟩
  | _ => simp [hroot] at h

/-- A run in a registry is a run over one of its documents. -/
theorem Registry.exists_source_of_run {r : Registry} {entry : String} {options : Options}
    {version : Version} {declared : String} {d : Description} {w : Workspace}
    (h : r.run entry options version declared = .ok (d, w)) :
    ∃ place source, r.place? entry = some place ∧ r.documents[place]? = some source ∧
      source.run ⟨r, place, options, version⟩ declared = .ok (d, w) := by
  unfold run at h
  cases hplace : r.place? entry with
  | none => simp [hplace] at h
  | some place =>
    cases hsource : r.documents[place]? with
    | none => simp [hplace, hsource] at h
    | some source =>
      simp only [hplace, Option.bind_some, hsource, Option.map_some, Option.getD_some] at h
      exact ⟨place, source, rfl, hsource, h⟩

/-- The workspace that a run leaves is complete, and holds the schemas of the description. -/
theorem Registry.complete_of_run {r : Registry} {entry : String} {options : Options}
    {version : Version} {declared : String} {d : Description} {w : Workspace}
    (h : r.run entry options version declared = .ok (d, w)) :
    ∃ place, r.place? entry = some place ∧
      w.Complete ⟨r, place, options, version⟩ ∧ d.schemas = w.graph := by
  obtain ⟨place, source, hplace, hsource, hrun⟩ := exists_source_of_run h
  obtain ⟨hcomplete, hgraph, -⟩ := RegisteredDocument.complete_of_run hsource hrun
  exact ⟨place, hplace, hcomplete, hgraph⟩

/-- What a description names outside of schemas is among its schemas. -/
theorem Registry.named_of_run {r : Registry} {entry : String} {options : Options}
    {version : Version} {declared : String} {d : Description} {w : Workspace}
    (h : r.run entry options version declared = .ok (d, w)) :
    ∀ id ∈ d.outerSchemaIds, id < d.schemas.size := by
  obtain ⟨place, source, -, hsource, hrun⟩ := exists_source_of_run h
  obtain ⟨-, hgraph, hnamed⟩ := RegisteredDocument.complete_of_run hsource hrun
  rw [hgraph]
  exact hnamed

/-- A description that was bound comes from a run. -/
theorem Registry.exists_run_of_bind {r : Registry} {entry : String} {options : Options}
    {version : Version} {declared : String} {d : Description} {report : Report}
    (h : r.bind entry options version declared = .ok (d, report)) :
    ∃ w, r.run entry options version declared = .ok (d, w) ∧ w.report = report := by
  rw [bind_eq_map_run] at h
  cases hrun : r.run entry options version declared with
  | error fault => simp [hrun, Except.map] at h
  | ok left =>
    rw [hrun] at h
    obtain ⟨rfl, rfl⟩ := Prod.mk.inj (Except.ok.inj h)
    exact ⟨left.2, rfl, rfl⟩

/-! ## A run -/

/-- The registry with one document, under the placeholder. -/
def Registry.single (root : Json) : Registry :=
  empty.add (.ofLoaded Uri.placeholder ⟨.json, root⟩)

/-- An object that is a reference. -/
def Json.referenceTo (text : String) : Json := .object [(referenceKey, .string text)]

/-- A description in which a property of a schema is referred to before the schema is read, and
refers back to the schema. -/
def partFirst : Json :=
  .object [("openapi", .string "3.1.0"), ("components", .object [("schemas", .object [
    ("First", .referenceTo "#/components/schemas/A/properties/x"),
    ("A", .object [("properties", .object [("x", .referenceTo "#/components/schemas/A")])])])])]

theorem wellFormed_partFirst : partFirst.WellFormed := by
  simp [partFirst, Json.referenceTo, referenceKey, Json.WellFormed, Json.WellFormedMembers,
    Entries.names]

theorem Registry.wellFormed_single {root : Json} (h : root.WellFormed) :
    (single root).WellFormed := by
  intro document hdocument
  obtain rfl := List.mem_singleton.mp hdocument
  exact h

/-- The property of the second schema in `partFirst` is read first, and the reference that it is
says of the schema, which is read because of it, that it closes no cycle. -/
theorem Registry.exists_bind_partFirst :
    ∃ d report, (single partFirst).bind "http://example.invalid/" .standard .v31 "3.1.0" =
        .ok (d, report) ∧
      d.schemas.Refers 1 2 ∧ d.schemas.Holds 2 1 := by
  have hleft : ((single partFirst).bind "http://example.invalid/" .standard .v31
      "3.1.0").toOption.map (fun left =>
        ((left.1.schemas.get? 1).map (·.shape.references),
          (left.1.schemas.get? 2).map (·.shape.children))) =
      some (some [⟨"#/components/schemas/A", .resolved 2⟩], some [1]) := by decide +kernel
  cases hbind : (single partFirst).bind "http://example.invalid/" .standard .v31 "3.1.0" with
  | error fault => simp [hbind, Except.toOption] at hleft
  | ok left =>
    rw [hbind] at hleft
    obtain ⟨hreferences, hchildren⟩ := Prod.mk.inj (Option.some.inj hleft)
    obtain ⟨s, hs, hshape⟩ := Option.map_eq_some_iff.mp hreferences
    obtain ⟨t, ht, hparts⟩ := Option.map_eq_some_iff.mp hchildren
    have hmem : ⟨"#/components/schemas/A", .resolved 2⟩ ∈ s.shape.references := by
      rw [hshape]
      exact List.mem_singleton_self _
    have hchild : 1 ∈ t.shape.children := by
      rw [hparts]
      exact List.mem_singleton_self _
    exact ⟨left.1, left.2, rfl, ⟨s, hs, _, hmem, rfl⟩, ⟨t, ht, hchild⟩⟩

end ApiDescription
