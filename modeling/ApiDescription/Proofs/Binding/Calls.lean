import ApiDescription.Proofs.Binding.Binder
import ApiDescription.Proofs.Binding.Inner

/-!
# What is put together from calls

A step that is written over the ways to read does nothing to the memo by itself: all else that it
does is to call them, one after the other, and at what nodes it calls them may depend on what came
before.  `Binding.Calls` is the least class of steps of which this is so.  What is done inside of
schemas is in it, `Binding.Inner.calls`, and so is everything that is read around schemas, path
items and callbacks, up to the whole description, `Readers.calls_description`.

Path items and callbacks are called only at nodes of a kind that members inherit.
-/

namespace ApiDescription

open Binding

/-- Steps that leave the memo as it is, and calls: of schemas at any nodes, and of path items and
callbacks at nodes of some kind. -/
inductive Binding.Calls (P : Node → Prop) : {α : Type} → (Readers → Binding α) → Prop
  /-- The memo is left as it is. -/
  | plain {α : Type} {m : Binding α} (hm : m.KeepsSlots) : Calls P fun _ => m
  /-- The schema at a node is read. -/
  | schema (n : Node) : Calls P fun R => R.schema n
  /-- The path item at a node is read. -/
  | pathItem (path : String) {n : Node} (hn : P n) : Calls P fun R => R.pathItem path n
  /-- The callback at a node is read. -/
  | callback {n : Node} (hn : P n) : Calls P fun R => R.callback n
  /-- One step after the other. -/
  | bind {α β : Type} {F : Readers → Binding α} {G : α → Readers → Binding β} (hF : Calls P F)
      (hG : ∀ a, Calls P (G a)) : Calls P fun R => F R >>= fun a => G a R
  /-- A step after one whose result is the same in every workspace. -/
  | after {α β : Type} {m : Binding α} {G : α → Readers → Binding β} (hm : m.OnlyTells)
      (hG : Calls P (G m.result)) : Calls P fun R => m >>= fun a => G a R

namespace Binding

variable {α β : Type} {P : Node → Prop}

theorem OnlyTells.keepsSlots {m : Binding α} (hm : m.OnlyTells) : m.KeepsSlots := by
  obtain ⟨found, hrun⟩ := hm.run
  intro w
  rw [hrun w]

namespace Calls

protected theorem pure (a : α) : Calls P fun _ => (pure a : Binding α) := .plain fun _ => rfl

/-- A step that only adds findings. -/
protected theorem tells {m : Binding α} (hm : m.OnlyTells) : Calls P fun _ => m :=
  .plain hm.keepsSlots

protected theorem ite {c : Prop} [Decidable c] {F G : Readers → Binding α} (hF : Calls P F)
    (hG : Calls P G) : Calls P fun R => if c then F R else G R := by
  by_cases hc : c
  · simpa only [if_pos hc] using hF
  · simpa only [if_neg hc] using hG

/-- A choice with something after it: what is shown of it behind the one arm is at hand in the
other. -/
protected theorem ite_bind {c : Prop} [Decidable c] {F : Readers → Binding β}
    {G : β → Readers → Binding α} {K : Readers → Binding α} (hF : Calls P F)
    (hG : ∀ b, Calls P (G b)) (hK : (∀ b, Calls P (G b)) → Calls P K) :
    Calls P fun R => if c then F R >>= fun b => G b R else K R :=
  .ite (hF.bind hG) (hK hG)

protected theorem collect {step : Readers → α → Binding (Option β)} {l : List α}
    (h : ∀ a ∈ l, Calls P fun R => step R a) : Calls P fun R => Binding.collect (step R) l := by
  induction l with
  | nil => exact .pure []
  | cons a rest ih =>
    refine (h a List.mem_cons_self).bind fun _ => ?_
    exact (ih fun a ha => h a (List.mem_cons_of_mem _ ha)).bind fun _ => .pure _

theorem readFields {fields : List (String × Node)}
    {step : Readers → String → Node → Binding (Option α)}
    (h : ∀ field ∈ fields, Calls P fun R => step R field.1 field.2) :
    Calls P fun R => Record.readFields fields (step R) :=
  .collect fun field hfield => (h field hfield).bind fun _ => .pure _

end Calls

/-- What is done inside of schemas is put together from calls of schemas. -/
theorem Inner.calls {F : SchemaReader → Binding α} (hF : Inner F) : Calls P fun R => F R.schema := by
  induction hF with
  | tells hm => exact .tells hm
  | slot? _ => exact .plain fun _ => rfl
  | part _ _ => exact .plain fun _ => rfl
  | read n => exact .schema n
  | bind _ _ ihF ihG => exact .bind ihF ihG

end Binding

variable {P : Node → Prop}

/-! ## Objects -/

/-- What is done with the object that a node is. -/
theorem Node.calls_record? {β : Type} {n : Node} (hn : P n) (what : String)
    {G : Option Record → Readers → Binding β} (hnone : Calls P (G none))
    (hsome : ∀ r : Record, P r.node → Calls P (G (some r))) :
    Calls P fun R => n.record? what >>= fun r? => G r? R := by
  refine .after (n.onlyTells_record? what) ?_
  rw [result_record?]
  cases hr : n.object? with
  | none => exact hnone
  | some r => exact hsome r (node_of_object? hr ▸ hn)

/-- What is done with the object in a field. -/
theorem Record.calls_record? {β : Type} (r : Record) (key : String)
    {G : Option Record → Readers → Binding β} (hnone : Calls P (G none))
    (hsome : ∀ inner : Record, inner.fields = r.fieldsOf key → Calls P (G (some inner))) :
    Calls P fun R => r.record? key >>= fun inner? => G inner? R := by
  refine .after (r.onlyTells_record? key) ?_
  rw [result_record?]
  cases hinner : (r.field? key).bind Node.object? with
  | none => exact hnone
  | some inner => exact hsome inner (by rw [fieldsOf, hinner, Option.elim_some])

theorem Record.calls_readAll {α : Type} (r : Record) (key : String)
    {step : Readers → Node → Binding (Option α)}
    (h : ∀ field ∈ r.fieldsOf key, Calls P fun R => step R field.2) :
    Calls P fun R => r.readAll key (step R) :=
  r.calls_record? key (.pure _) fun _ hinner => .readFields fun field hfield =>
    h field (hinner ▸ hfield)

/-! ## Contents -/

namespace SchemaReader

variable (n : Node) (r : Record)

theorem calls_mediaType? : Calls P fun R => R.schema.mediaType? n := by
  refine .bind (.tells (n.onlyTells_record? _)) fun r? => ?_
  rcases r? with - | r
  · exact .pure _
  refine .bind (.tells (r.onlyTells_readAll _ Node.onlyTells_example?)) fun _ => ?_
  exact (r.inner_schema? _).calls.bind fun _ => .pure _

theorem calls_content : Calls P fun R => R.schema.content r := by
  cases hn : r.field? "content" with
  | none =>
    simp only [content, hn]
    exact .pure _
  | some n =>
    simp only [content, hn]
    refine .bind (.tells (n.onlyTells_record? _)) fun formats? => ?_
    cases formats? with
    | none => exact .pure _
    | some formats => exact .readFields fun field _ => calls_mediaType? field.2

theorem calls_header? : Calls P fun R => R.schema.header? n := by
  refine .bind (.tells (n.onlyTells_resolvedRecord? _)) fun resolved? => ?_
  rcases resolved? with - | ⟨r, reference⟩
  · exact .pure _
  refine .bind (.tells (r.onlyTells_text? _)) fun _ => ?_
  refine .bind (.tells (r.onlyTells_flag _)) fun _ => ?_
  refine .bind (.tells (r.onlyTells_flag _)) fun _ => (r.inner_schema? _).calls.bind fun _ => ?_
  exact (calls_content r).bind fun _ => .pure _

theorem calls_response? : Calls P fun R => R.schema.response? n := by
  refine .bind (.tells (n.onlyTells_resolvedRecord? _)) fun resolved? => ?_
  rcases resolved? with - | ⟨r, reference⟩
  · exact .pure _
  refine .bind (.tells r.onlyTells_responseText?) fun _ => ?_
  refine (r.calls_readAll _ fun field _ => calls_header? field.2).bind fun _ => ?_
  refine .bind (.tells (r.onlyTells_readAll _ Node.onlyTells_link?)) fun _ => ?_
  exact (calls_content r).bind fun _ => .pure _

theorem calls_responses : Calls P fun R => R.schema.responses n := by
  refine .bind (.tells (n.onlyTells_record? _)) fun r? => ?_
  cases r? with
  | none => exact .pure _
  | some r => exact .readFields fun field _ => calls_response? field.2

theorem calls_requestBody? : Calls P fun R => R.schema.requestBody? n := by
  refine .bind (.tells (n.onlyTells_resolvedRecord? _)) fun resolved? => ?_
  rcases resolved? with - | ⟨r, reference⟩
  · exact .pure _
  refine .ite_bind (.tells (r.onlyTells_tell _)) (fun _ => ?_) fun hrest => hrest ()
  refine .bind (.tells (r.onlyTells_text? _)) fun _ => ?_
  refine .bind (.tells (r.onlyTells_flag _)) fun _ => ?_
  exact (calls_content r).bind fun _ => .pure _

theorem calls_parameter (name : String) (place : ParameterPlace) (reference : Option String)
    (location : Pointer) :
    Calls P fun R => R.schema.parameter r name place reference location := by
  refine .ite_bind (.tells (r.onlyTells_tell _)) (fun _ => ?_) fun hrest => hrest ()
  refine .bind (.tells (r.onlyTells_text? _)) fun _ => ?_
  refine .bind (.tells (r.onlyTells_flag _)) fun _ => ?_
  refine .bind (.tells (r.onlyTells_flag _)) fun _ => ?_
  refine .bind (.tells (r.onlyTells_flag _)) fun _ => ?_
  refine .bind (.tells (r.onlyTells_text? _)) fun _ => ?_
  refine .bind (.tells (r.onlyTells_flag? _)) fun _ => (r.inner_schema? _).calls.bind fun _ => ?_
  exact (calls_content r).bind fun _ => .pure _

theorem calls_parameter? : Calls P fun R => R.schema.parameter? n := by
  refine .bind (.tells (n.onlyTells_resolvedRecord? _)) fun resolved? => ?_
  rcases resolved? with - | ⟨r, reference⟩
  · exact .pure _
  refine .bind (.tells (r.onlyTells_requiredText? _ _)) fun name? => ?_
  refine .bind (.tells r.onlyTells_parameterPlace?) fun place? => ?_
  rcases name? with - | name
  · exact .pure _
  rcases place? with - | place
  · exact .pure _
  exact (calls_parameter r name place reference n.pointer).bind fun _ => .pure _

theorem calls_parameters : Calls P fun R => R.schema.parameters r := by
  cases hn : r.field? "parameters" with
  | none =>
    simp only [parameters, hn]
    exact .pure _
  | some n =>
    simp only [parameters, hn]
    exact .bind (.tells (n.onlyTells_items _)) fun _ => .collect fun item _ => calls_parameter? item

/-! ## Operations, path items and callbacks -/

theorem calls_responses? : Calls P fun R => R.schema.responses? r := by
  cases hn : r.field? "responses" with
  | none =>
    simp only [responses?, hn]
    exact .ite (.bind (.tells (r.onlyTells_tell _)) fun _ => .pure _) (.pure _)
  | some n =>
    simp only [responses?, hn]
    exact (calls_responses n).bind fun _ => .pure _

theorem calls_bodyOf? : Calls P fun R => R.schema.bodyOf? r := by
  cases hn : r.field? "requestBody" with
  | none =>
    simp only [bodyOf?, hn]
    exact .pure _
  | some n => simpa only [bodyOf?, hn] using calls_requestBody? n

/-- The schema of a component. -/
theorem calls_namedSchema (name : String) : Calls P fun R => R.schema.namedSchema name n :=
  .bind (.schema n) fun _ => .bind (.plain fun _ => rfl) fun _ => .pure _

theorem calls_componentSchemas : Calls P fun R => R.schema.componentSchemas r :=
  r.calls_record? _ (.pure _) fun _ _ => .readFields fun field _ =>
    calls_namedSchema field.2 field.1

end SchemaReader

section Inherited

variable (hP : Inherited P)
include hP

variable {r : Record} {n : Node}

theorem Record.calls_callbacks (hr : P r.node) : Calls P fun R => r.callbacks R.callback := by
  cases hn : r.field? "callbacks" with
  | none =>
    simp only [callbacks, hn]
    exact .pure _
  | some n =>
    simp only [callbacks, hn]
    refine n.calls_record? (Inherited.field hP hr hn) _ (.pure _) fun _ hentries => ?_
    exact .readFields fun field hfield => .callback (Inherited.fields hP hentries hfield)

theorem SchemaReader.calls_operation? (hn : P n) (method : Method) (path : String) :
    Calls P fun R => R.schema.operation? n R.callback method path := by
  refine n.calls_record? hn _ (.pure _) fun r hr => ?_
  refine (calls_responses? r).bind fun _ => (calls_bodyOf? r).bind fun _ => ?_
  refine .bind (.tells r.onlyTells_security?) fun _ => ?_
  refine .bind (.tells (r.onlyTells_text? _)) fun _ => ?_
  refine .bind (.tells (r.onlyTells_text? _)) fun _ => ?_
  refine .bind (.tells (r.onlyTells_text? _)) fun _ => ?_
  refine .bind (.tells (r.onlyTells_texts _)) fun _ => (calls_parameters r).bind fun _ => ?_
  refine (Record.calls_callbacks hP hr).bind fun _ => ?_
  refine .bind (.tells (r.onlyTells_flag _)) fun _ => ?_
  exact .bind (.tells r.onlyTells_servers) fun _ => .pure _

theorem SchemaReader.calls_operationOf? (hr : P r.node) (path : String) (method : Method) :
    Calls P fun R => R.schema.operationOf? r R.callback path method := by
  cases hn : r.field? method.name with
  | none =>
    simp only [operationOf?, hn]
    exact .pure _
  | some n =>
    simp only [operationOf?, hn]
    exact (calls_operation? hP (Inherited.field hP hr hn) method path).bind fun _ => .pure _

theorem SchemaReader.calls_pathItem? {target : Resolved} (ht : P target.node) (path : String)
    (location : Pointer) :
    Calls P fun R => R.schema.pathItem? target R.callback path location := by
  refine target.node.calls_record? ht _ (.pure _) fun r hr => ?_
  refine .bind (.tells (r.onlyTells_text? _)) fun _ => ?_
  refine .bind (.tells (r.onlyTells_text? _)) fun _ => ?_
  refine .bind (.tells r.onlyTells_servers) fun _ => (calls_parameters r).bind fun _ => ?_
  exact .bind (.collect fun method _ => calls_operationOf? hP hr path method) fun _ => .pure _

theorem Resolved.calls_callback? {target : Resolved} (ht : P target.node) :
    Calls P fun R => target.callback? R.pathItem := by
  refine target.node.calls_record? ht _ (.pure _) fun r hr => ?_
  exact .bind (.readFields fun field hfield =>
    .pathItem field.1 (Inherited.plainFields hP hr hfield)) fun _ => .pure _

/-! ## Descriptions -/

namespace Readers

theorem calls_componentPathItems (hr : P r.node) : Calls P fun R => R.componentPathItems r := by
  refine .ite (r.calls_record? _ (.pure _) fun entries hentries => ?_) ?_
  · exact .readFields fun field hfield =>
      .pathItem field.1 (Inherited.fieldsOf hP hr (hentries ▸ hfield))
  · exact .bind (.tells (r.onlyTells_refuse _)) fun _ => .pure _

theorem calls_components (hn : P n) : Calls P fun R => R.components n := by
  refine n.calls_record? hn _ (.pure _) fun r hr => ?_
  refine (SchemaReader.calls_componentSchemas r).bind fun _ => ?_
  refine (r.calls_readAll _ fun field _ => SchemaReader.calls_response? field.2).bind fun _ => ?_
  refine (r.calls_readAll _ fun field _ => SchemaReader.calls_parameter? field.2).bind fun _ => ?_
  refine .bind (.tells (r.onlyTells_readAll _ Node.onlyTells_example?)) fun _ => ?_
  refine (r.calls_readAll _ fun field _ => SchemaReader.calls_requestBody? field.2).bind fun _ => ?_
  refine (r.calls_readAll _ fun field _ => SchemaReader.calls_header? field.2).bind fun _ => ?_
  refine .bind (.tells (r.onlyTells_readAll _ Node.onlyTells_securityScheme?)) fun _ => ?_
  refine .bind (.tells (r.onlyTells_readAll _ Node.onlyTells_link?)) fun _ => ?_
  refine .bind (r.calls_readAll _ fun field hfield =>
    .callback (Inherited.fieldsOf hP hr hfield)) fun _ => ?_
  exact (calls_componentPathItems hP hr).bind fun _ => .pure _

theorem calls_componentsOf (hr : P r.node) : Calls P fun R => R.componentsOf r := by
  cases hn : r.field? "components" with
  | none =>
    simp only [componentsOf, hn]
    exact .pure _
  | some n => simpa only [componentsOf, hn] using calls_components hP (Inherited.field hP hr hn)

theorem calls_pathItems (hn : P n) : Calls P fun R => R.pathItems n :=
  n.calls_record? hn _ (.pure _) fun _ hr => .readFields fun field hfield =>
    .pathItem field.1 (Inherited.plainFields hP hr hfield)

theorem calls_paths (hr : P r.node) : Calls P fun R => R.paths r := by
  cases hn : r.field? "paths" with
  | none =>
    simp only [paths, hn]
    exact .ite (.bind (.tells (r.onlyTells_tell _)) fun _ => .pure _) (.pure _)
  | some n => simpa only [paths, hn] using calls_pathItems hP (Inherited.field hP hr hn)

theorem calls_webhooks (hr : P r.node) : Calls P fun R => R.webhooks r := by
  cases hn : r.field? "webhooks" with
  | none =>
    simp only [webhooks, hn]
    exact .pure _
  | some n =>
    simp only [webhooks, hn]
    refine .ite (calls_pathItems hP (Inherited.field hP hr hn)) ?_
    exact .bind (.tells (r.onlyTells_refuse _)) fun _ => .pure _

theorem calls_description (hr : P r.node) (declared : String) :
    Calls P fun R => R.description r declared := by
  refine .bind (.tells (r.onlyTells_checkDeclaration _)) fun _ => ?_
  refine .bind (.tells r.onlyTells_info) fun _ => ?_
  refine .bind (.tells r.onlyTells_jsonSchemaDialect?) fun _ => ?_
  refine .bind (.tells r.onlyTells_servers) fun _ => (calls_componentsOf hP hr).bind fun _ => ?_
  refine (calls_paths hP hr).bind fun _ => (calls_webhooks hP hr).bind fun _ => ?_
  refine .bind (.tells r.onlyTells_checkContents) fun _ => ?_
  refine .bind (.tells r.onlyTells_security) fun _ => .bind (.tells r.onlyTells_tags) fun _ => ?_
  refine .bind (.tells r.onlyTells_externalDocs?) fun _ => ?_
  exact .bind (.plain fun _ => rfl) fun _ => .pure _

end Readers

end Inherited

end ApiDescription
