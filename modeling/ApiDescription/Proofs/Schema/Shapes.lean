import ApiDescription.Proofs.Binding.Description

/-!
# What a value dictates

`SchemaGraph.Dictated` says, in terms of the value at the place of a schema alone, what its shape is
put together from: which properties an object has, which schemas a composition lists, and at which
places their schemas stand.  `Registry.shapes_dictated` says that this holds of all schemas of a
description but those for which there was no room.
-/

namespace ApiDescription

/-! ## Places -/

namespace SchemaGraph

variable (g : SchemaGraph) (document : Option String) (p : Pointer) (v : Json)

/-- The schemas of a list stand at the items of an array, one at each; no other value has items. -/
structure AtItems (value? : Option Json) (ids : List SchemaId) : Prop where
  /-- There are as many schemas as items. -/
  length : ids.length = ((value?.bind Json.items?).getD []).length
  /-- Each stands at its item. -/
  item : ∀ i id, ids[i]? = some id → g.At document (p.item i) id

/-- There is a schema if there is a value, and it stands at its place. -/
structure AtIf (value? : Option Json) (id? : Option SchemaId) : Prop where
  /-- There is a schema exactly if there is a value. -/
  isSome : id?.isSome = value?.isSome
  /-- It stands at its place. -/
  place : ∀ id ∈ id?, g.At document p id

/-- The schemas that an object is put together from. -/
structure ObjectOf (o : ObjectShape) : Prop where
  /-- The properties are those that are written, in their order. -/
  names : o.properties.names = ((v.member? "properties").bind Json.members?).elim [] Entries.names
  /-- Each stands at its place. -/
  property : ∀ entry ∈ o.properties, g.At document ((p.push "properties").push entry.1) entry.2
  /-- An object says what may stand besides the properties. -/
  additional : g.AtIf document (p.push "additionalProperties")
    ((v.member? "additionalProperties").filter (·.members?.isSome)) o.additionalProperties.schema?

/-- The schemas that an array is put together from, in versions that follow JSON Schema or not. -/
structure ArrayOf (json : Bool) (a : ArrayShape) : Prop where
  /-- The schema of the items; a list is none. -/
  items : g.AtIf document (p.push "items") ((v.member? "items").filter (·.items?.isNone)) a.items
  /-- The schemas of the first items. -/
  prefixItems : g.AtItems document (p.push "prefixItems")
    (if json then v.member? "prefixItems" else none) a.prefixItems

/-- The schemas that a composition is put together from. -/
structure ComposedOf (c : ComposedShape) : Prop where
  /-- Schemas that all accept the value. -/
  allOf : g.AtItems document (p.push "allOf") (v.member? "allOf") c.allOf
  /-- Schemas of which exactly one accepts it. -/
  oneOf : g.AtItems document (p.push "oneOf") (v.member? "oneOf") c.oneOf
  /-- Schemas of which at least one accepts it. -/
  anyOf : g.AtItems document (p.push "anyOf") (v.member? "anyOf") c.anyOf
  /-- A schema that does not accept it. -/
  negated : g.AtIf document (p.push "not") (v.member? "not") c.negated
  /-- What is said besides stands at the place of the composition. -/
  inlined : ∀ id ∈ c.inlined, g.At document p id

/-- The schemas of several types, which stand at the place of the schema that has them all. -/
structure TypesOf (c : ComposedShape) : Prop where
  /-- There are several types. -/
  several : 2 ≤ c.anyOf.length
  /-- Each stands at the place of the schema. -/
  place : ∀ id ∈ c.anyOf, g.At document p id
  /-- There is nothing else. -/
  others : c.allOf = [] ∧ c.oneOf = [] ∧ c.negated = none ∧ c.inlined = none

/-- What a value dictates of a shape that is no composition of its fields. -/
structure Plain (json : Bool) (shape : Shape) : Prop where
  /-- An object has the properties that are written. -/
  object : ∀ o, shape = .object o → g.ObjectOf document p v o
  /-- An array has the items that are written. -/
  array : ∀ a, shape = .array a → g.ArrayOf document p v json a
  /-- A composition lists types. -/
  types : ∀ c, shape = .composed c → g.TypesOf document p c

/-- What the value at a place dictates of the shape of a schema there; `own` tells whether the
schema is that of the place itself, rather than part of it. -/
structure Dictated (json : Bool) (own : Prop) (shape : Shape) : Prop where
  /-- An object has the properties that are written. -/
  object : ∀ o, shape = .object o → g.ObjectOf document p v o
  /-- An array has the items that are written. -/
  array : ∀ a, shape = .array a → g.ArrayOf document p v json a
  /-- An object that is no reference and has a field of compositions is a composition. -/
  composed : own → v.member? "$ref" = none →
    (∃ key ∈ ["allOf", "oneOf", "anyOf", "not"], (v.member? key).isSome) →
    ∃ c, shape = .composed c ∧ g.ComposedOf document p v c
  /-- Any other composition lists types. -/
  types : ∀ c, shape = .composed c →
    ¬ (own ∧ ∃ key ∈ ["allOf", "oneOf", "anyOf", "not"], (v.member? key).isSome) →
    g.TypesOf document p c
  /-- All that the schema is put together from is in the same document. -/
  document : ∀ child ∈ shape.children, ∃ t, g.get? child = some t ∧ t.document = document

end SchemaGraph

/-! ## Fields and items -/

namespace Record

variable {r : Record}

/-- The value that an object is. -/
def value (r : Record) : Json := .object r.members

theorem member?_value (r : Record) (key : String) : r.value.member? key = r.members.get? key := rfl

theorem isSome_member?_value (r : Record) (key : String) :
    (r.value.member? key).isSome = r.has key := by
  rw [member?_value, has, Entries.contains]

theorem map_value_field? (r : Record) (key : String) :
    (r.field? key).map Node.value = r.value.member? key := by
  simp [field?, child, member?_value, Function.comp_def]

theorem names_fieldsOf (r : Record) (key : String) :
    (r.fieldsOf key).map (·.1) =
      ((r.value.member? key).bind Json.members?).elim [] Entries.names := by
  rw [← map_value_field?]
  unfold fieldsOf
  cases r.field? key with
  | none => rfl
  | some n =>
    simp only [Option.bind_some, Option.map_some, Node.object?]
    cases n.value <;> simp [Json.members?, fields, Entries.names, Function.comp_def]

theorem length_itemsOf (r : Record) (key : String) :
    (r.itemsOf key).length = (((r.value.member? key).bind Json.items?).getD []).length := by
  rw [← map_value_field?]
  unfold itemsOf
  cases r.field? key with
  | none => rfl
  | some n =>
    simp only [Option.elim_some, Option.bind_some, Option.map_some, Node.itemNodes]
    cases n.value <;> simp [Json.items?]

end Record

namespace Workspace

variable {S : Setting} {w : Workspace} {r : Record} {id : SchemaId} {shape : Shape}

theorem MetFields.names {fields : List (String × Node)} {entries : Entries SchemaId}
    (h : w.MetFields fields entries) : entries.names = fields.map (·.1) := by
  have hnames : List.Forall₂ (· = ·) (fields.map (·.1)) (entries.map (·.1)) :=
    List.forall₂_map_left_iff.mpr (List.forall₂_map_right_iff.mpr (h.imp fun _ _ => And.left))
  rw [List.forall₂_eq_eq_eq] at hnames
  exact hnames.symm

theorem MetEach.atItems (hw : w.Sound S) (hr : r.Sited S) {key : String} {ids : List SchemaId}
    (h : w.MetEach (r.itemsOf key) ids) :
    w.graph.AtItems r.scope.label (r.pointer.push key) (r.value.member? key) ids where
  length := by rw [← r.length_itemsOf, List.Forall₂.length_eq h]
  item i id hid := by
    have hlt : i < (r.itemsOf key).length := by
      rw [List.Forall₂.length_eq h]
      exact (List.getElem?_eq_some_iff.mp hid).1
    have hn : (r.itemsOf key)[i]? = some (r.itemsOf key)[i] := List.getElem?_eq_getElem hlt
    obtain ⟨hscope, hpointer⟩ := Record.of_getElem?_itemsOf hn
    have hmet : w.Met (r.itemsOf key)[i].site id := by
      have hget := List.Forall₂.get h hlt (List.Forall₂.length_eq h ▸ hlt)
      rwa [List.get_eq_getElem, List.get_eq_getElem,
        (List.getElem?_eq_some_iff.mp hid).2] at hget
    have hat := hw.at_of_met (hr.itemsOf (List.mem_of_getElem? hn)) hmet
    rwa [hscope, hpointer] at hat

theorem MetIf.atIf (hw : w.Sound S) (hr : r.Sited S) {key : String} {n? : Option Node}
    {id? : Option SchemaId} (h : w.MetIf n? id?) (hn : ∀ n ∈ n?, r.field? key = some n) :
    w.graph.AtIf r.scope.label (r.pointer.push key) (n?.map Node.value) id? where
  isSome := by cases h <;> rfl
  place id hid := by
    obtain ⟨n, hmem, hmet⟩ := h.exists_of_mem hid
    obtain ⟨hscope, hpointer⟩ := Record.of_field? (hn n hmem)
    have hat := hw.at_of_met (hr.field (hn n hmem)) hmet
    rwa [hscope, hpointer] at hat

theorem Part.at (h : w.Part r id shape) : w.graph.At r.scope.label r.pointer id := by
  obtain ⟨s, hs, hunnamed⟩ := h.schema
  exact ⟨s, hs, congrArg Schema.document hunnamed, congrArg Schema.location hunnamed⟩

theorem Inlines.at {id? : Option SchemaId} (h : w.Inlines r shape id?) (hid : id ∈ id?) :
    w.graph.At r.scope.label r.pointer id := by
  cases h with
  | any => simp at hid
  | part _ hpart => exact Option.some.inj hid ▸ hpart.at

/-! ## Shapes -/

theorem ReadsObject.objectOf (hw : w.Sound S) (hr : r.Sited S) {o : ObjectShape}
    (h : w.ReadsObject r o) : w.graph.ObjectOf r.scope.label r.pointer r.value o where
  names := by rw [h.properties.names, r.names_fieldsOf]
  property entry hentry := by
    obtain ⟨field, hfield, hname, hmet⟩ := exists_of_forall₂ h.properties hentry
    obtain ⟨hscope, hpointer⟩ := Record.of_mem_fieldsOf hfield
    have hat := hw.at_of_met (hr.fieldsOf hfield) hmet
    rwa [hscope, hpointer, hname] at hat
  additional := by
    have hfilter : r.additionalNode?.map Node.value =
        (r.value.member? "additionalProperties").filter (·.members?.isSome) := by
      rw [← Record.map_value_field?, Option.filter_map]
      rfl
    exact hfilter ▸ h.additional.atIf hw hr fun n hn => Option.eq_some_of_filter_eq_some hn

theorem ReadsArray.arrayOf (hw : w.Sound S) (hr : r.Sited S) {a : ArrayShape}
    (h : w.ReadsArray r a) :
    w.graph.ArrayOf r.scope.label r.pointer r.value r.scope.followsJsonSchema a where
  items := by
    have hfilter : r.itemNode?.map Node.value =
        (r.value.member? "items").filter (·.items?.isNone) := by
      rw [← Record.map_value_field?, Option.filter_map]
      rfl
    exact hfilter ▸ h.items.atIf hw hr fun n hn => Option.eq_some_of_filter_eq_some hn
  prefixItems := by
    have hparts := h.prefixItems
    split at hparts
    · next hversion => simpa [hversion] using hparts.atItems hw hr
    · next hversion =>
      rw [List.forall₂_nil_left_iff.mp hparts]
      exact ⟨by simp [hversion], by simp⟩

theorem ReadsComposed.composedOf (hw : w.Sound S) (hr : r.Sited S) {c : ComposedShape}
    (h : w.ReadsComposed r c) (hinlined : w.Inlines r shape c.inlined) :
    w.graph.ComposedOf r.scope.label r.pointer r.value c where
  allOf := h.allOf.atItems hw hr
  oneOf := h.oneOf.atItems hw hr
  anyOf := h.anyOf.atItems hw hr
  negated := r.map_value_field? "not" ▸ h.negated.atIf hw hr fun _ hn => hn
  inlined _ hid := hinlined.at hid

section Plain

variable {names : List String} (hw : w.Sound S) (hr : r.Sited S)

include hw hr

theorem Typed.plainOf {name : String} (h : w.Typed r name shape) :
    w.graph.Plain r.scope.label r.pointer r.value r.scope.followsJsonSchema shape := by
  cases h with
  | object h => exact ⟨fun _ ho => Shape.object.inj ho ▸ h.objectOf hw hr, nofun, nofun⟩
  | array h => exact ⟨nofun, fun _ ha => Shape.array.inj ha ▸ h.arrayOf hw hr, nofun⟩
  | _ => exact ⟨nofun, nofun, nofun⟩

theorem Structural.plainOf (h : w.Structural r names shape) :
    w.graph.Plain r.scope.label r.pointer r.value r.scope.followsJsonSchema shape := by
  cases h with
  | untyped h =>
    cases h with
    | object _ h => exact ⟨fun _ ho => Shape.object.inj ho ▸ h.objectOf hw hr, nofun, nofun⟩
    | array _ _ h => exact ⟨nofun, fun _ ha => Shape.array.inj ha ▸ h.arrayOf hw hr, nofun⟩
    | any => exact ⟨nofun, nofun, nofun⟩
  | typed h => exact h.plainOf hw hr
  | @several _ ids hnames h =>
    refine ⟨nofun, nofun, fun c hc => ?_⟩
    obtain rfl := Shape.composed.inj hc
    refine ⟨?_, fun id hid => ?_, rfl, rfl, rfl, rfl⟩
    · exact h.length_eq ▸ hnames
    · obtain ⟨_, -, _, -, hpart⟩ := exists_of_forall₂ h hid
      exact hpart.at

omit hw hr in
/-- An object that accepts everything has none of the fields of objects. -/
theorem Structural.has_eq_false (h : w.Structural r names .any)
    (hnames : names = ["null"] ∨ ∀ name ∈ names, name ∈ Record.typeNames) {key : String}
    (hkey : key ∈ Record.objectKeys) : r.has key = false := by
  cases h with
  | untyped h =>
    cases h with
    | any hobject _ =>
      rw [Record.hasAny, List.any_eq_true, not_exists] at hobject
      simpa [hkey] using hobject key
  | @typed name _ h =>
    cases h with
    | any hobject harray htype =>
      -- every type of values has a shape of its own
      have htypes : ∀ name ∈ "null" :: Record.typeNames, name = "object" ∨ name = "array" ∨
          (ScalarType.ofName? name).isSome := by decide
      have hname : name ∈ "null" :: Record.typeNames := by
        rcases hnames with heq | hall
        · rw [(List.cons.inj heq).1]
          exact List.mem_cons_self
        · exact List.mem_cons_of_mem _ (hall name List.mem_cons_self)
      rcases htypes name hname with heq | heq | hsome
      · exact absurd heq hobject
      · exact absurd heq harray
      · simp [htype] at hsome

theorem Structural.plainOf_discriminated (h : w.Structural r names shape)
    (hnames : names = ["null"] ∨ ∀ name ∈ names, name ∈ Record.typeNames) (d : Discriminator) :
    w.graph.Plain r.scope.label r.pointer r.value r.scope.followsJsonSchema
      (shape.discriminated d) := by
  have hplain := h.plainOf hw hr
  cases shape with
  | object o =>
    obtain ⟨hwritten, hproperty, hadditional⟩ := hplain.object o rfl
    exact ⟨fun _ ho => Shape.object.inj ho ▸ ⟨hwritten, hproperty, hadditional⟩, nofun, nofun⟩
  | composed c =>
    obtain ⟨hseveral, hplace, hothers⟩ := hplain.types c rfl
    exact ⟨nofun, nofun, fun _ hc => Shape.composed.inj hc ▸ ⟨hseveral, hplace, hothers⟩⟩
  | any =>
    -- it becomes an object without properties, and so none may be written
    have hnone : ∀ key ∈ Record.objectKeys, r.value.member? key = none := by
      intro key hkey
      have hhas := r.isSome_member?_value key
      rw [h.has_eq_false hnames hkey] at hhas
      simpa using hhas
    refine ⟨fun _ ho => Shape.object.inj ho ▸ ⟨?_, nofun, ?_, nofun⟩, nofun, nofun⟩
    · rw [hnone _ (by decide)]
      rfl
    · rw [hnone _ (by decide)]
      rfl
  | _ => exact hplain

end Plain

/-! ## Schemas -/

theorem Held.document (hw : w.Sound S) (hr : r.Sited S) (h : w.Held r id) :
    ∃ t, w.graph.get? id = some t ∧ t.document = r.scope.label := by
  rcases h with ⟨n, ⟨hscope, -⟩, slot, hslot, rfl⟩ | ⟨shape, hpart⟩
  · obtain ⟨m, hm, hsite, t, ht, hdocument, -⟩ := hw.stands _ hslot
    have hplace : m.scope.place = r.scope.place :=
      (congrArg Site.document hsite).trans (congrArg Scope.place hscope)
    have hsame : m.scope = r.scope := hm.scope.ext hr.scope hplace
    exact ⟨t, ht, hsame ▸ hdocument⟩
  · obtain ⟨t, ht, hdocument, -⟩ := hpart.at
    exact ⟨t, ht, hdocument⟩

theorem isSome_member?_iff (r : Record) :
    (∃ key ∈ ["allOf", "oneOf", "anyOf", "not"], (r.value.member? key).isSome) ↔
      r.hasAny Record.compositionKeys := by
  simp only [Record.isSome_member?_value, Record.hasAny, List.any_eq_true]
  rfl

theorem dictated_of_plain (hw : w.Sound S) (hr : r.Sited S)
    (h : w.graph.Plain r.scope.label r.pointer r.value r.scope.followsJsonSchema shape)
    (hheld : ∀ child ∈ shape.children, w.Held r child) {own : Prop}
    (hown : ¬ (own ∧ r.hasAny Record.compositionKeys)) :
    w.graph.Dictated r.scope.label r.pointer r.value r.scope.followsJsonSchema own shape where
  object := h.object
  array := h.array
  composed ho _ hkeys := absurd ⟨ho, (isSome_member?_iff r).mp hkeys⟩ hown
  types c hc _ := h.types c hc
  document child hchild := (hheld child hchild).document hw hr

theorem Shaped.dictated (hw : w.Sound S) (hr : r.Sited S) {names : List String}
    (hnames : names = ["null"] ∨ ∀ name ∈ names, name ∈ Record.typeNames)
    (h : w.Shaped S r names shape) {own : Prop} (hown : own) :
    w.graph.Dictated r.scope.label r.pointer r.value r.scope.followsJsonSchema own shape := by
  have hheld : ∀ child ∈ shape.children, w.Held r child := fun _ hchild => h.held hchild
  cases h with
  -- without a field of compositions, the only composition is that of several types
  | structural hkeys h =>
    exact dictated_of_plain hw hr (h.plainOf hw hr) hheld fun hkeys' => hkeys hkeys'.2
  | discriminated hkeys h _ =>
    exact dictated_of_plain hw hr (h.plainOf_discriminated hw hr hnames _) hheld
      fun hkeys' => hkeys hkeys'.2
  | @composed _ c hkeys h hparts hinlined _ =>
    refine ⟨nofun, nofun, fun _ _ _ => ⟨c, rfl, hparts.composedOf hw hr hinlined⟩, ?_, ?_⟩
    · exact fun _ _ hkeys' => absurd ⟨hown, (isSome_member?_iff r).mpr hkeys⟩ hkeys'
    · exact fun child hchild => (hheld child hchild).document hw hr

/-- A shape without children that is no object, array or composition is dictated by a value that is
a reference, or has no fields. -/
theorem dictated_of_simple {g : SchemaGraph} {document : Option String} {p : Pointer} {v : Json}
    {json : Bool} {own : Prop}
    (hshape : shape = .any ∨ shape = .never ∨ ∃ reference, shape = .reference reference)
    (hv : v.member? "$ref" = none → ∀ key, v.member? key = none) :
    g.Dictated document p v json own shape := by
  have hkeys : v.member? "$ref" = none →
      ¬ ∃ key ∈ ["allOf", "oneOf", "anyOf", "not"], (v.member? key).isSome := by
    rintro hreference ⟨key, -, hkey⟩
    simp [hv hreference key] at hkey
  rcases hshape with rfl | rfl | ⟨reference, rfl⟩
  all_goals exact ⟨nofun, nofun, fun _ h h' => absurd h' (hkeys h), nofun, nofun⟩

theorem Yields.dictated (hw : w.Sound S) {n : Node} (hn : n.Sited S) {s : Schema}
    (h : w.Yields S n s) {own : Prop} (hown : own) :
    w.graph.Dictated s.document s.location n.value n.scope.followsJsonSchema own s.shape := by
  cases h with
  | @truth accepts hvalue _ =>
    refine dictated_of_simple ?_ (by simp [hvalue, Json.member?])
    cases accepts
    · exact .inr (.inl rfl)
    · exact .inl rfl
  | unusable hobject _ =>
    refine dictated_of_simple (.inl rfl) fun _ key => ?_
    unfold Node.object? at hobject
    cases hvalue : n.value <;> simp_all [Json.member?]
  | misreferenced hobject hvalue _ =>
    obtain ⟨-, -, hmembers⟩ := Node.of_object? hobject
    refine dictated_of_simple (.inl rfl) fun hnone => ?_
    rw [hmembers] at hnone
    exact absurd (hvalue.symm.trans hnone) nofun
  | reference hobject hvalue _ _ _ hshape _ =>
    obtain ⟨-, -, hmembers⟩ := Node.of_object? hobject
    refine dictated_of_simple (.inr (.inr ⟨_, hshape⟩)) fun hnone => ?_
    rw [hmembers] at hnone
    exact absurd (hvalue.symm.trans hnone) nofun
  | @shaped r _ hobject _ hshape hdocument hlocation _ =>
    obtain ⟨hscope, hpointer, hmembers⟩ := Node.of_object? hobject
    have h := hshape.dictated hw (hn.object hobject) r.types_gives.result hown
    rwa [hscope, hpointer, ← hdocument, ← hlocation, Record.value, ← hmembers] at h

/-- There was no room for the schema of a number: it was finished without being begun. -/
def Cut (w : Workspace) (id : SchemaId) : Prop := w.Finished id ∧ ¬ w.Begun id

theorem Account.dictated (hw : w.Sound S) (hwf : S.registry.WellFormed) {s : Schema}
    (h : w.Account S id s) (hs : w.graph.get? id = some s) :
    (w.Cut id ∧ (Finding.nestingTooDeep S.options.maxDepth).diagnostic s.document s.location ∈
        w.report.diagnostics) ∨
      ∃ c : Scope, c.Registered S ∧ c.label = s.document ∧ ∃ v,
        c.source.root.at? s.location = some v ∧
          w.graph.Dictated s.document s.location v c.followsJsonSchema (w.Begun id) s.shape := by
  cases h with
  | @read n t hn hbegun _ hread hunnamed =>
    right
    rw [← Schema.document_eq_of_unnamed hunnamed, ← Schema.location_eq_of_unnamed hunnamed,
      ← Schema.shape_eq_of_unnamed hunnamed]
    obtain ⟨hdocument, hlocation⟩ := hread.place
    refine ⟨n.scope, hn.scope, hdocument.symm, n.value, ?_, hread.dictated hw hn hbegun⟩
    rw [hlocation]
    exact (hn.value hwf).1
  | @cut n hn hbegun hslot hunnamed htold =>
    left
    have hdocument : s.document = n.scope.label := congrArg Schema.document hunnamed
    have hlocation : s.location = n.pointer := congrArg Schema.location hunnamed
    rw [hdocument, hlocation, ← hn.scope.setting]
    exact ⟨⟨⟨_, hslot⟩, hbegun⟩, htold⟩
  | @part r names shape hr _ hstructural hpart _ =>
    right
    obtain ⟨hdocument, hlocation, hshape⟩ := hpart.of_get? hs
    rw [hdocument, hlocation, hshape]
    exact ⟨r.scope, hr.scope, rfl, r.value, (hr.value hwf).1,
      dictated_of_plain hw hr (hstructural.plainOf hw hr) (fun _ hchild => hstructural.held hchild)
        fun hown => hpart.not_begun hown.1⟩

end Workspace

/-- A schema of a description is what the value at its place dictates, and is put together from the
schemas of the parts of the value; unless there was no room for it, and a finding says so. -/
theorem Registry.shapes_dictated {r : Registry} {entry : String} {options : Options}
    {version : Version} {declared : String} {d : Description} {report : Report}
    (hwf : r.WellFormed) (h : r.bind entry options version declared = .ok (d, report)) :
    ∃ place w, r.place? entry = some place ∧ r.run entry options version declared = .ok (d, w) ∧
      ∀ id s, d.schemas.get? id = some s →
        (w.Cut id ∧ (Finding.nestingTooDeep options.maxDepth).diagnostic s.document s.location ∈
            report.diagnostics) ∨
          ∃ c : Scope, c.Registered ⟨r, place, options, version⟩ ∧ c.label = s.document ∧ ∃ v,
            c.source.root.at? s.location = some v ∧
              d.schemas.Dictated s.document s.location v version.followsJsonSchema (w.Begun id)
                s.shape := by
  obtain ⟨w, hrun, rfl⟩ := Registry.exists_run_of_bind h
  obtain ⟨place, hplace, hw, hgraph⟩ := Registry.complete_of_run hrun
  refine ⟨place, w, hplace, hrun, fun id s hs => ?_⟩
  rw [hgraph] at hs ⊢
  refine ((hw.sound.account id s hs (hw.not_open id)).dictated hw.sound hwf hs).imp_right ?_
  rintro ⟨c, hc, hlabel, v, hv, hdictated⟩
  have hversion : c.followsJsonSchema = version.followsJsonSchema := by
    rw [Scope.followsJsonSchema, Scope.version, hc.setting]
  exact ⟨c, hc, hlabel, v, hv, hversion ▸ hdictated⟩

/-- In `partFirst` the second schema is put together from the schema of its property. -/
theorem Registry.shapes_dictated_partFirst :
    (Registry.single partFirst).WellFormed ∧ ∃ d report,
      (Registry.single partFirst).bind "http://example.invalid/" .standard .v31 "3.1.0" =
        .ok (d, report) ∧
      ∃ place w, (Registry.single partFirst).place? "http://example.invalid/" = some place ∧
        (Registry.single partFirst).run "http://example.invalid/" .standard .v31 "3.1.0" =
          .ok (d, w) ∧
        ∀ id s, d.schemas.get? id = some s →
          (w.Cut id ∧ (Finding.nestingTooDeep Options.standard.maxDepth).diagnostic s.document
              s.location ∈ report.diagnostics) ∨
            ∃ c : Scope, c.Registered ⟨Registry.single partFirst, place, .standard, .v31⟩ ∧
              c.label = s.document ∧ ∃ v, c.source.root.at? s.location = some v ∧
                d.schemas.Dictated s.document s.location v Version.v31.followsJsonSchema
                  (w.Begun id) s.shape := by
  have hwf := wellFormed_single wellFormed_partFirst
  obtain ⟨d, report, h, -⟩ := exists_bind_partFirst
  exact ⟨hwf, d, report, h, shapes_dictated hwf h⟩

end ApiDescription
