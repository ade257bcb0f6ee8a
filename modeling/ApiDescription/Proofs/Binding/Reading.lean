import ApiDescription.Proofs.Binding.OnlyTells
import ApiDescription.Proofs.Binding.Sited
import ApiDescription.Proofs.Binding.Workspace
import ApiDescription.Proofs.Schema.Edges
import Mathlib.Data.List.Forall2

/-!
# What a node is read as

`Workspace.Yields` relates a node to the schema that it is read as.  It says which parts of the
node the children of the schema were met at, and what became of its references, but not when: the
parts may have been read before, they may be open, or they may have been read on the way.

All relations here stay true while the workspace grows.
-/

namespace ApiDescription

namespace Node

/-- The object that a node is. -/
def object? (n : Node) : Option Record :=
  match n.value with
  | .object members => some ⟨n.scope, n.pointer, members⟩
  | _ => none

theorem of_object? {n : Node} {r : Record} (h : n.object? = some r) :
    r.scope = n.scope ∧ r.pointer = n.pointer ∧ n.value = .object r.members := by
  unfold object? at h
  split at h
  · next members hvalue =>
    obtain rfl := Option.some.inj h
    exact ⟨rfl, rfl, hvalue⟩
  · simp at h

theorem node_of_object? {n : Node} {r : Record} (h : n.object? = some r) : r.node = n := by
  obtain ⟨hscope, hpointer, hvalue⟩ := of_object? h
  cases n
  cases r
  simp only [Record.node] at hscope hpointer hvalue ⊢
  rw [hscope, hpointer, hvalue]

theorem result_record? (n : Node) (what : String) : (n.record? what).result = n.object? := by
  unfold record? object?
  cases n.value <;> rfl

theorem result_items (n : Node) (what : String) : (n.items what).result = n.itemNodes := by
  unfold items itemNodes
  cases n.value <;> rfl

theorem Inside.object {S : Setting} {n : Node} (h : n.Inside S) {r : Record}
    (hr : n.object? = some r) : r.node.Inside S :=
  node_of_object? hr ▸ h

theorem Sited.object {S : Setting} {n : Node} (h : n.Sited S) {r : Record}
    (hr : n.object? = some r) : r.Sited S := by
  unfold object? at hr
  split at hr
  · next members hvalue => exact Option.some.inj hr ▸ h.record hvalue
  · simp at hr

end Node

namespace Record

/-- The fields of the object in a field; no other value has fields. -/
def fieldsOf (r : Record) (key : String) : List (String × Node) :=
  ((r.field? key).bind Node.object?).elim [] Record.fields

/-- The items of the array in a field; no other value has items. -/
def itemsOf (r : Record) (key : String) : List Node := (r.field? key).elim [] Node.itemNodes

/-- The node of the schema that says what may stand besides the properties. -/
def additionalNode? (r : Record) : Option Node :=
  (r.field? "additionalProperties").filter fun n => n.value.members?.isSome

/-- The node of the schema of the items; a list of schemas is none. -/
def itemNode? (r : Record) : Option Node :=
  (r.field? "items").filter fun n => n.value.items?.isNone

theorem result_record? (r : Record) (key : String) :
    (r.record? key).result = (r.field? key).bind Node.object? := by
  unfold record?
  split
  · next h => rw [h]; rfl
  · next n h => rw [h, Node.result_record?]; rfl

theorem of_field? {r : Record} {key : String} {n : Node} (h : r.field? key = some n) :
    n.scope = r.scope ∧ n.pointer = r.pointer.push key := by
  simp only [field?, Option.map_eq_some_iff] at h
  obtain ⟨value, -, rfl⟩ := h
  exact ⟨rfl, rfl⟩

theorem of_mem_fieldsOf {r : Record} {key : String} {field : String × Node}
    (h : field ∈ r.fieldsOf key) :
    field.2.scope = r.scope ∧ field.2.pointer = (r.pointer.push key).push field.1 := by
  unfold fieldsOf at h
  cases hn : r.field? key with
  | none => simp [hn] at h
  | some n =>
    obtain ⟨hscope, hpointer⟩ := of_field? hn
    rw [hn, Option.bind_some] at h
    unfold Node.object? at h
    split at h
    · obtain ⟨member, -, rfl⟩ := List.mem_map.mp h
      exact ⟨hscope, congrArg (·.push member.1) hpointer⟩
    · simp at h

theorem of_getElem?_itemsOf {r : Record} {key : String} {i : Nat} {n : Node}
    (h : (r.itemsOf key)[i]? = some n) :
    n.scope = r.scope ∧ n.pointer = (r.pointer.push key).item i := by
  unfold itemsOf at h
  cases hn : r.field? key with
  | none => simp [hn] at h
  | some parent =>
    obtain ⟨hscope, hpointer⟩ := of_field? hn
    rw [hn, Option.elim_some] at h
    unfold Node.itemNodes at h
    split at h
    · simp only [List.getElem?_map, List.getElem?_zipIdx, Option.map_map,
        Option.map_eq_some_iff] at h
      obtain ⟨item, -, rfl⟩ := h
      exact ⟨hscope, by simp [hpointer]⟩
    · simp at h

/-- The node is in the document of the object, and below it. -/
def Below (r : Record) (n : Node) : Prop :=
  n.scope = r.scope ∧ r.pointer.segments.length < n.pointer.segments.length

theorem below_of_field? {r : Record} {key : String} {n : Node} (h : r.field? key = some n) :
    r.Below n := by
  obtain ⟨hscope, hpointer⟩ := of_field? h
  exact ⟨hscope, by simp [hpointer]⟩

theorem below_of_mem_fieldsOf {r : Record} {key : String} {field : String × Node}
    (h : field ∈ r.fieldsOf key) : r.Below field.2 := by
  obtain ⟨hscope, hpointer⟩ := of_mem_fieldsOf h
  exact ⟨hscope, by simp [hpointer]⟩

theorem below_of_mem_itemsOf {r : Record} {key : String} {n : Node} (h : n ∈ r.itemsOf key) :
    r.Below n := by
  obtain ⟨i, hi⟩ := List.mem_iff_getElem?.mp h
  obtain ⟨hscope, hpointer⟩ := of_getElem?_itemsOf hi
  exact ⟨hscope, by simp [hpointer, Pointer.item]⟩

theorem result_withDiscriminator (r : Record) (shape : Shape) (d : Discriminator) :
    (r.withDiscriminator shape d).result = shape.discriminated d := by
  cases shape <;> rfl

end Record

/-- What an object passes on to its members, it passes on to the members of the objects in its
fields. -/
theorem Inherited.fieldsOf {P : Node → Prop} (h : Inherited P) {r : Record} (hr : P r.node)
    {key : String} {field : String × Node} (hmem : field ∈ r.fieldsOf key) : P field.2 := by
  unfold Record.fieldsOf at hmem
  cases hinner : (r.field? key).bind Node.object? with
  | none => simp [hinner] at hmem
  | some inner =>
    rw [hinner] at hmem
    obtain ⟨parent, hparent, hobject⟩ := Option.bind_eq_some_iff.mp hinner
    exact h.fields (Node.node_of_object? hobject ▸ h.field hr hparent) hmem

namespace Workspace

variable {S : Setting} {w w' : Workspace} {r : Record}

/-! ## Parts and references -/

/-- At each of several nodes, the schema of the number beside it was met. -/
def MetEach (w : Workspace) (nodes : List Node) (ids : List SchemaId) : Prop :=
  List.Forall₂ (fun n id => w.Met n.site id) nodes ids

/-- At each of several fields, the schema under the same name was met. -/
def MetFields (w : Workspace) (fields : List (String × Node)) (entries : Entries SchemaId) : Prop :=
  List.Forall₂ (fun field entry => field.1 = entry.1 ∧ w.Met field.2.site entry.2) fields entries

/-- At a node there may be, the schema there may be was met. -/
def MetIf (w : Workspace) (n? : Option Node) (id? : Option SchemaId) : Prop :=
  Option.Rel (fun n id => w.Met n.site id) n? id?

theorem MetEach.grows {nodes : List Node} {ids : List SchemaId} (h : w.MetEach nodes ids)
    (hw : w.Grows w') : w'.MetEach nodes ids :=
  List.Forall₂.imp (fun _ _ => hw.met) h

theorem MetFields.grows {fields : List (String × Node)} {entries : Entries SchemaId}
    (h : w.MetFields fields entries) (hw : w.Grows w') : w'.MetFields fields entries :=
  List.Forall₂.imp (fun _ _ => And.imp_right hw.met) h

theorem MetIf.grows {n? : Option Node} {id? : Option SchemaId} (h : w.MetIf n? id?)
    (hw : w.Grows w') : w'.MetIf n? id? := by
  cases h with
  | some hmet => exact .some (hw.met hmet)
  | none => exact .none

/-- What became of a reference that is written in a document: it cannot be located, and a finding
says so; or a schema was read at its target, or was open there. -/
inductive Settles (w : Workspace) (c : Scope) (at_ : Pointer) (text : String) :
    ReferenceState → Prop
  | unresolved {f : Finding} (hlocate : c.locate text = .error f)
      (hfound : f.diagnostic c.label at_ ∈ w.report.diagnostics) : Settles w c at_ text .unresolved
  | resolved {target : Node} {id : SchemaId} (hlocate : c.locate text = .ok target)
      (hslot : (target.site, .bound id) ∈ w.slots) : Settles w c at_ text (.resolved id)
  | cyclic {target : Node} {id : SchemaId} (hlocate : c.locate text = .ok target)
      (hslot : (target.site, .opened id) ∈ w.slots) : Settles w c at_ text (.cyclic id)

theorem Settles.grows {c : Scope} {at_ : Pointer} {text : String} {state : ReferenceState}
    (h : w.Settles c at_ text state) (hw : w.Grows w') : w'.Settles c at_ text state := by
  cases h with
  | unresolved hlocate hfound => exact .unresolved hlocate (hw.diagnostics hfound)
  | resolved hlocate hslot => exact .resolved hlocate (hw.slots hslot)
  | cyclic hlocate hslot => exact .cyclic hlocate (hw.slots hslot)

/-- An entry of the mapping of a discriminator is written in the object, and what became of it. -/
def Maps (S : Setting) (w : Workspace) (r : Record) (entry : String × Reference) : Prop :=
  ∃ (n : Node) (name : String), n.Sited S ∧ n.scope = r.scope ∧
    n.pointer = ((r.pointer.push "discriminator").push "mapping").push entry.1 ∧
    n.value = .string name ∧ entry.2.text = componentReference name ∧
    w.Settles r.scope n.pointer entry.2.text entry.2.state

/-- The entries of the mapping of a discriminator are written in the object. -/
def Discriminates (S : Setting) (w : Workspace) (r : Record) (d : Discriminator) : Prop :=
  ∀ entry ∈ d.mapping, Maps S w r entry

theorem Maps.grows {entry : String × Reference} (h : Maps S w r entry) (hw : w.Grows w') :
    Maps S w' r entry := by
  obtain ⟨n, name, hsited, hscope, hpointer, hvalue, htext, hsettles⟩ := h
  exact ⟨n, name, hsited, hscope, hpointer, hvalue, htext, hsettles.grows hw⟩

theorem Discriminates.grows {d : Discriminator} (h : Discriminates S w r d) (hw : w.Grows w') :
    Discriminates S w' r d :=
  fun entry hentry => (h entry hentry).grows hw

/-! ## Shapes -/

/-- The shape of an object. -/
structure ReadsObject (w : Workspace) (r : Record) (o : ObjectShape) : Prop where
  /-- The properties are those that are written, in their order. -/
  properties : w.MetFields (r.fieldsOf "properties") o.properties
  /-- What may stand besides them. -/
  additional : w.MetIf r.additionalNode? o.additionalProperties.schema?
  /-- Nothing tells alternatives apart. -/
  discriminator : o.discriminator = none

/-- The shape of an array. -/
structure ReadsArray (w : Workspace) (r : Record) (a : ArrayShape) : Prop where
  /-- The schema of the items. -/
  items : w.MetIf r.itemNode? a.items
  /-- The schemas of the first items, for versions that have them. -/
  prefixItems :
    w.MetEach (if r.scope.followsJsonSchema then r.itemsOf "prefixItems" else []) a.prefixItems

/-- The shape that a type gives. -/
inductive Typed (w : Workspace) (r : Record) : String → Shape → Prop
  | object {o : ObjectShape} (h : w.ReadsObject r o) : Typed w r "object" (.object o)
  | array {a : ArrayShape} (h : w.ReadsArray r a) : Typed w r "array" (.array a)
  | scalar {name : String} {s : ScalarShape} (hobject : name ≠ "object") (harray : name ≠ "array")
      (htype : ScalarType.ofName? name = some s.type) (hread : s = (r.scalarShape s.type).result) :
      Typed w r name (.scalar s)
  | any {name : String} (hobject : name ≠ "object") (harray : name ≠ "array")
      (htype : ScalarType.ofName? name = none) : Typed w r name .any

/-- The shape without a type. -/
inductive Untyped (w : Workspace) (r : Record) : Shape → Prop
  | object {o : ObjectShape} (hkeys : r.hasAny Record.objectKeys) (h : w.ReadsObject r o) :
      Untyped w r (.object o)
  | array {a : ArrayShape} (hobject : ¬ r.hasAny Record.objectKeys)
      (hkeys : r.hasAny Record.arrayKeys) (h : w.ReadsArray r a) : Untyped w r (.array a)
  | any (hobject : ¬ r.hasAny Record.objectKeys) (harray : ¬ r.hasAny Record.arrayKeys) :
      Untyped w r .any

/-- The schema of a number is part of the schema of an object, and has no node of its own. -/
structure Part (w : Workspace) (r : Record) (id : SchemaId) (shape : Shape) : Prop where
  /-- It has the shape, and nothing else is said about it. -/
  schema : ∃ s, w.graph.get? id = some s ∧ s.unnamed = { r.blankSchema with shape }
  /-- It was not begun at any node. -/
  not_begun : ¬ w.Begun id
  /-- It was not finished at any node. -/
  not_finished : ¬ w.Finished id

/-- A part has the place of the object, and the shape that it is part with. -/
theorem Part.of_get? {id : SchemaId} {shape : Shape} (h : w.Part r id shape) {s : Schema}
    (hs : w.graph.get? id = some s) :
    s.document = r.scope.label ∧ s.location = r.pointer ∧ s.shape = shape := by
  obtain ⟨s', hs', hunnamed⟩ := h.schema
  obtain rfl := Option.some.inj (hs.symm.trans hs')
  exact ⟨congrArg Schema.document hunnamed, congrArg Schema.location hunnamed,
    congrArg Schema.shape hunnamed⟩

/-- The shape that types give: that without a type, that of the one type, or an alternative for each
of several. -/
inductive Structural (w : Workspace) (r : Record) : List String → Shape → Prop
  | untyped {shape : Shape} (h : w.Untyped r shape) : Structural w r [] shape
  | typed {name : String} {shape : Shape} (h : w.Typed r name shape) : Structural w r [name] shape
  | several {names : List String} {ids : List SchemaId} (hnames : 2 ≤ names.length)
      (h : List.Forall₂ (fun name id => ∃ shape, w.Typed r name shape ∧ w.Part r id shape)
        names ids) :
      Structural w r names (.composed (.ofAny ids))

/-- What is said besides a composition is put into a part of it. -/
inductive Inlines (w : Workspace) (r : Record) : Shape → Option SchemaId → Prop
  | any : Inlines w r .any none
  | part {shape : Shape} {id : SchemaId} (hshape : shape ≠ .any) (h : w.Part r id shape) :
      Inlines w r shape (some id)

/-- The parts of a composition. -/
structure ReadsComposed (w : Workspace) (r : Record) (c : ComposedShape) : Prop where
  /-- Schemas that all accept the value. -/
  allOf : w.MetEach (r.itemsOf "allOf") c.allOf
  /-- Schemas of which exactly one accepts it. -/
  oneOf : w.MetEach (r.itemsOf "oneOf") c.oneOf
  /-- Schemas of which at least one accepts it. -/
  anyOf : w.MetEach (r.itemsOf "anyOf") c.anyOf
  /-- A schema that does not accept it. -/
  negated : w.MetIf (r.field? "not") c.negated

/-- The shape of an object of which the types are known. -/
inductive Shaped (S : Setting) (w : Workspace) (r : Record) (names : List String) : Shape → Prop
  | structural {shape : Shape} (hkeys : ¬ r.hasAny Record.compositionKeys)
      (h : w.Structural r names shape) : Shaped S w r names shape
  | discriminated {shape : Shape} {d : Discriminator} (hkeys : ¬ r.hasAny Record.compositionKeys)
      (h : w.Structural r names shape) (hd : Discriminates S w r d) :
      Shaped S w r names (shape.discriminated d)
  | composed {shape : Shape} {c : ComposedShape} (hkeys : r.hasAny Record.compositionKeys)
      (h : w.Structural r names shape) (hparts : w.ReadsComposed r c)
      (hinlined : w.Inlines r shape c.inlined)
      (hd : ∀ d ∈ c.discriminator, Discriminates S w r d) : Shaped S w r names (.composed c)

/-- The schema that a node is read as. -/
inductive Yields (S : Setting) (w : Workspace) (n : Node) : Schema → Prop
  /-- A truth value accepts everything or nothing. -/
  | truth {accepts : Bool} (hvalue : n.value = .bool accepts)
      (hversion : n.scope.followsJsonSchema) :
      Yields S w n { n.blankSchema with shape := if accepts then .any else .never }
  /-- Nothing is known about what cannot be used. -/
  | unusable (hobject : n.object? = none)
      (hversion : ∀ accepts, n.value = .bool accepts → ¬ n.scope.followsJsonSchema) :
      Yields S w n n.blankSchema
  /-- Nothing is known about a reference that is no text. -/
  | misreferenced {r : Record} {value : Json} (hobject : n.object? = some r)
      (hvalue : r.members.get? referenceKey = some value) (htext : ∀ text, value ≠ .string text) :
      Yields S w n n.blankSchema
  /-- A reference. -/
  | reference {r : Record} {text : String} {state : ReferenceState} {s : Schema}
      (hobject : n.object? = some r) (hvalue : r.members.get? referenceKey = some (.string text))
      (hsettles : w.Settles r.scope (r.pointer.push referenceKey) text state)
      (hdocument : s.document = n.scope.label) (hlocation : s.location = n.pointer)
      (hshape : s.shape = .reference ⟨text, state⟩)
      (hsaid : ¬ r.scope.followsJsonSchema → s.title = none ∧ s.description = none) : Yields S w n s
  /-- Any other object. -/
  | shaped {r : Record} {s : Schema} (hobject : n.object? = some r)
      (hvalue : r.members.get? referenceKey = none)
      (hshape : Shaped S w r r.types.result.names s.shape)
      (hdocument : s.document = n.scope.label) (hlocation : s.location = n.pointer)
      (hnullable : s.nullable = (r.annotated.result.nullable || r.types.result.withNull)) :
      Yields S w n s

/-! ## Growing workspaces -/

section Grows

variable {shape : Shape} {names : List String} (hw : w.Grows w')

include hw

theorem ReadsObject.grows {o : ObjectShape} (h : w.ReadsObject r o) : w'.ReadsObject r o :=
  ⟨h.properties.grows hw, h.additional.grows hw, h.discriminator⟩

theorem ReadsArray.grows {a : ArrayShape} (h : w.ReadsArray r a) : w'.ReadsArray r a :=
  ⟨h.items.grows hw, h.prefixItems.grows hw⟩

theorem Typed.grows {name : String} (h : w.Typed r name shape) : w'.Typed r name shape := by
  cases h with
  | object h => exact .object (h.grows hw)
  | array h => exact .array (h.grows hw)
  | scalar hobject harray htype hread => exact .scalar hobject harray htype hread
  | any hobject harray htype => exact .any hobject harray htype

theorem Untyped.grows (h : w.Untyped r shape) : w'.Untyped r shape := by
  cases h with
  | object hkeys h => exact .object hkeys (h.grows hw)
  | array hobject hkeys h => exact .array hobject hkeys (h.grows hw)
  | any hobject harray => exact .any hobject harray

theorem Part.grows {id : SchemaId} (h : w.Part r id shape) : w'.Part r id shape := by
  obtain ⟨⟨s, hs, hshape⟩, hbegun, hfinished⟩ := h
  have hid : id < w.graph.size := SchemaGraph.lt_size_iff.mpr ⟨s, hs⟩
  obtain ⟨s', hs', hunnamed⟩ := hw.kept id s hs fun ho => hbegun ho.1
  exact ⟨⟨s', hs', hunnamed.trans hshape⟩, hw.not_begun hid hbegun,
    hw.not_finished hid hbegun hfinished⟩

theorem Structural.grows (h : w.Structural r names shape) : w'.Structural r names shape := by
  cases h with
  | untyped h => exact .untyped (h.grows hw)
  | typed h => exact .typed (h.grows hw)
  | several hnames h =>
    refine .several hnames (h.imp fun name id => ?_)
    rintro ⟨shape, htyped, hpart⟩
    exact ⟨shape, htyped.grows hw, hpart.grows hw⟩

theorem Inlines.grows {id? : Option SchemaId} (h : w.Inlines r shape id?) :
    w'.Inlines r shape id? := by
  cases h with
  | any => exact .any
  | part hshape h => exact .part hshape (h.grows hw)

theorem ReadsComposed.grows {c : ComposedShape} (h : w.ReadsComposed r c) :
    w'.ReadsComposed r c :=
  ⟨h.allOf.grows hw, h.oneOf.grows hw, h.anyOf.grows hw, h.negated.grows hw⟩

theorem Shaped.grows (h : Shaped S w r names shape) : Shaped S w' r names shape := by
  cases h with
  | structural hkeys h => exact .structural hkeys (h.grows hw)
  | discriminated hkeys h hd => exact .discriminated hkeys (h.grows hw) (hd.grows hw)
  | composed hkeys h hparts hinlined hd =>
    exact .composed hkeys (h.grows hw) (hparts.grows hw) (hinlined.grows hw)
      fun d hmem => (hd d hmem).grows hw

theorem Yields.grows {n : Node} {s : Schema} (h : Yields S w n s) : Yields S w' n s := by
  cases h with
  | truth hvalue hversion => exact .truth hvalue hversion
  | unusable hobject hversion => exact .unusable hobject hversion
  | misreferenced hobject hvalue htext => exact .misreferenced hobject hvalue htext
  | reference hobject hvalue hsettles hdocument hlocation hshape hsaid =>
    exact .reference hobject hvalue (hsettles.grows hw) hdocument hlocation hshape hsaid
  | shaped hobject hvalue hshape hdocument hlocation hnullable =>
    exact .shaped hobject hvalue (hshape.grows hw) hdocument hlocation hnullable

end Grows

/-! ## Children and references -/

/-- The schema of a number was met at a node below an object, or it is part of the object. -/
def Held (w : Workspace) (r : Record) (id : SchemaId) : Prop :=
  (∃ n, r.Below n ∧ w.Met n.site id) ∨ ∃ shape, w.Part r id shape

theorem exists_of_forall₂ {α β : Type} {R : α → β → Prop} {as : List α} {bs : List β}
    (h : List.Forall₂ R as bs) {b : β} (hb : b ∈ bs) : ∃ a ∈ as, R a b := by
  induction h with
  | nil => simp at hb
  | cons hfirst _ ih =>
    rcases List.mem_cons.mp hb with rfl | hrest
    · exact ⟨_, List.mem_cons_self, hfirst⟩
    · obtain ⟨a, ha, hR⟩ := ih hrest
      exact ⟨a, List.mem_cons_of_mem _ ha, hR⟩

theorem MetIf.exists_of_mem {n? : Option Node} {id? : Option SchemaId} (h : w.MetIf n? id?)
    {id : SchemaId} (hid : id ∈ id?) : ∃ n ∈ n?, w.Met n.site id := by
  cases h with
  | some hmet => exact ⟨_, rfl, Option.some.inj hid ▸ hmet⟩
  | none => simp at hid

theorem ReadsObject.held {o : ObjectShape} (h : w.ReadsObject r o) {id : SchemaId}
    (hid : id ∈ o.children) : w.Held r id := by
  rcases List.mem_append.mp hid with hproperty | hadditional
  · obtain ⟨entry, hentry, rfl⟩ := List.mem_map.mp hproperty
    obtain ⟨field, hfield, -, hmet⟩ := exists_of_forall₂ h.properties hentry
    exact .inl ⟨field.2, Record.below_of_mem_fieldsOf hfield, hmet⟩
  · obtain ⟨n, hn, hmet⟩ := h.additional.exists_of_mem (Option.mem_toList.mp hadditional)
    exact .inl ⟨n, Record.below_of_field? (Option.eq_some_of_filter_eq_some hn), hmet⟩

theorem MetEach.held {key : String} {ids : List SchemaId} (h : w.MetEach (r.itemsOf key) ids)
    {id : SchemaId} (hid : id ∈ ids) : w.Held r id := by
  obtain ⟨n, hn, hmet⟩ := exists_of_forall₂ h hid
  exact .inl ⟨n, Record.below_of_mem_itemsOf hn, hmet⟩

theorem ReadsArray.held {a : ArrayShape} (h : w.ReadsArray r a) {id : SchemaId}
    (hid : id ∈ a.children) : w.Held r id := by
  rcases List.mem_append.mp hid with hitems | hprefix
  · obtain ⟨n, hn, hmet⟩ := h.items.exists_of_mem (Option.mem_toList.mp hitems)
    exact .inl ⟨n, Record.below_of_field? (Option.eq_some_of_filter_eq_some hn), hmet⟩
  · have hparts := h.prefixItems
    split at hparts
    · exact hparts.held hprefix
    · obtain ⟨n, hn, -⟩ := exists_of_forall₂ hparts hprefix
      simp at hn

theorem Inlines.held {shape : Shape} {id? : Option SchemaId} (h : w.Inlines r shape id?)
    {id : SchemaId} (hid : id ∈ id?) : w.Held r id := by
  cases h with
  | any => simp at hid
  | part _ hpart => exact .inr ⟨shape, Option.some.inj hid ▸ hpart⟩

theorem ReadsComposed.held {shape : Shape} {c : ComposedShape} (h : w.ReadsComposed r c)
    (hinlined : w.Inlines r shape c.inlined) {id : SchemaId} (hid : id ∈ c.children) :
    w.Held r id := by
  simp only [ComposedShape.children, List.mem_append, Option.mem_toList] at hid
  rcases hid with (((hid | hid) | hid) | hid) | hid
  · exact h.allOf.held hid
  · exact h.oneOf.held hid
  · exact h.anyOf.held hid
  · obtain ⟨n, hn, hmet⟩ := h.negated.exists_of_mem hid
    exact .inl ⟨n, Record.below_of_field? hn, hmet⟩
  · exact hinlined.held hid

theorem Typed.held {name : String} {shape : Shape} (h : w.Typed r name shape) {id : SchemaId}
    (hid : id ∈ shape.children) : w.Held r id := by
  cases h with
  | object h => exact h.held hid
  | array h => exact h.held hid
  | _ => simp [Shape.children] at hid

theorem Structural.held {names : List String} {shape : Shape} (h : w.Structural r names shape)
    {id : SchemaId} (hid : id ∈ shape.children) : w.Held r id := by
  cases h with
  | untyped h =>
    cases h with
    | object _ h => exact h.held hid
    | array _ _ h => exact h.held hid
    | any => simp [Shape.children] at hid
  | typed h => exact h.held hid
  | @several _ ids _ h =>
    have hmember : id ∈ ids := by
      simpa [Shape.children, ComposedShape.children, ComposedShape.ofAny] using hid
    obtain ⟨name, -, shape, -, hpart⟩ := exists_of_forall₂ h hmember
    exact .inr ⟨shape, hpart⟩

/-- The shape that types give has no discriminator, and is no reference. -/
theorem Structural.plain {names : List String} {shape : Shape}
    (h : w.Structural r names shape) :
    shape.discriminator? = none ∧ ∀ reference, shape ≠ .reference reference := by
  cases h with
  | untyped h =>
    cases h with
    | object _ h => exact ⟨h.discriminator, fun _ => Shape.noConfusion⟩
    | _ => exact ⟨rfl, fun _ => Shape.noConfusion⟩
  | typed h =>
    cases h with
    | object h => exact ⟨h.discriminator, fun _ => Shape.noConfusion⟩
    | _ => exact ⟨rfl, fun _ => Shape.noConfusion⟩
  | several _ _ => exact ⟨rfl, fun _ => Shape.noConfusion⟩

theorem Structural.references_eq_nil {names : List String} {shape : Shape}
    (h : w.Structural r names shape) : shape.references = [] := by
  refine List.eq_nil_iff_forall_not_mem.mpr fun reference hreference => ?_
  rcases Shape.mem_references hreference with heq | ⟨d, hd, -⟩
  · exact h.plain.2 reference heq
  · simp [h.plain.1] at hd

theorem Shaped.held {names : List String} {shape : Shape} (h : Shaped S w r names shape)
    {id : SchemaId} (hid : id ∈ shape.children) : w.Held r id := by
  cases h with
  | structural _ h => exact h.held hid
  | discriminated _ h _ => exact h.held (by simpa using hid)
  | composed _ _ hparts hinlined _ => exact hparts.held hinlined hid

theorem Shaped.ne_reference {names : List String} {shape : Shape} (h : Shaped S w r names shape)
    (reference : Reference) : shape ≠ .reference reference := by
  cases h with
  | structural _ h => exact h.plain.2 reference
  | discriminated _ h _ => exact Shape.discriminated_ne_reference _ h.plain.2 _
  | composed => exact Shape.noConfusion

theorem Shaped.discriminates {names : List String} {shape : Shape}
    (h : Shaped S w r names shape) {d : Discriminator} (hd : d ∈ shape.discriminator?) :
    Discriminates S w r d := by
  cases h with
  | structural _ h => simp [h.plain.1] at hd
  | discriminated _ _ h => exact Shape.eq_of_mem_discriminator?_discriminated hd ▸ h
  | composed _ _ _ _ h => exact h d hd

/-- The children of the schema of a node were met in its document, or are part of it. -/
theorem Yields.held {n : Node} {s : Schema} (h : Yields S w n s) {id : SchemaId}
    (hid : id ∈ s.shape.children) : ∃ r, n.object? = some r ∧ w.Held r id := by
  cases h with
  | @truth accepts _ _ => cases accepts <;> simp at hid
  | unusable => simp [Node.blankSchema, Schema.blank] at hid
  | misreferenced => simp [Node.blankSchema, Schema.blank] at hid
  | reference _ _ _ _ _ hshape _ => simp [hshape] at hid
  | @shaped r _ hobject _ hshape _ _ _ => exact ⟨r, hobject, hshape.held hid⟩

/-- What became of each reference of the schema of a node is settled, in its document. -/
theorem Yields.settles {n : Node} {s : Schema} (h : Yields S w n s) {reference : Reference}
    (hreference : reference ∈ s.shape.references) :
    ∃ at_, w.Settles n.scope at_ reference.text reference.state := by
  cases h with
  | @truth accepts _ _ => cases accepts <;> simp at hreference
  | unusable => simp [Node.blankSchema, Schema.blank] at hreference
  | misreferenced => simp [Node.blankSchema, Schema.blank] at hreference
  | reference hobject _ hsettles _ _ hshape _ =>
    rw [hshape] at hreference
    obtain rfl := List.mem_singleton.mp hreference
    exact ⟨_, (Node.of_object? hobject).1 ▸ hsettles⟩
  | shaped hobject _ hshape _ _ _ =>
    rcases Shape.mem_references hreference with heq | ⟨d, hd, key, hentry⟩
    · exact absurd heq (hshape.ne_reference reference)
    · obtain ⟨m, name, -, -, -, -, -, hsettles⟩ := hshape.discriminates hd _ hentry
      exact ⟨_, (Node.of_object? hobject).1 ▸ hsettles⟩

/-- The schema of a node has the place of the node. -/
theorem Yields.place {n : Node} {s : Schema} (h : Yields S w n s) :
    s.document = n.scope.label ∧ s.location = n.pointer := by
  cases h with
  | truth => exact ⟨rfl, rfl⟩
  | unusable => exact ⟨rfl, rfl⟩
  | misreferenced => exact ⟨rfl, rfl⟩
  | reference _ _ _ hdocument hlocation _ _ => exact ⟨hdocument, hlocation⟩
  | shaped _ _ _ hdocument hlocation _ => exact ⟨hdocument, hlocation⟩

end Workspace

end ApiDescription
