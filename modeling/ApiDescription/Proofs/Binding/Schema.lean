import ApiDescription.Proofs.Binding.Ensures

/-!
# Reading schemas

What each function that reads a part of a schema ensures.  They are stated over an arbitrary way to
read the schemas below, of which `Reads` says what it must ensure itself; `Node.reads_schemaWithin`
closes the circle, by induction on the room for levels below.
-/

namespace ApiDescription

open Binding

variable {S : Setting} {w : Workspace} {read : SchemaReader} {r : Record}

/-- A way to read schemas gives the schema that was met at the node.  If none was met before, it is
finished afterwards. -/
def SchemaReader.Reads (S : Setting) (read : SchemaReader) : Prop :=
  ∀ {w n}, Workspace.Sound S w → Node.Sited S n →
    Ensures S w (read n) fun id w' =>
      w'.Met n.site id ∧ (w.slot? n.site = none → (n.site, .bound id) ∈ w'.slots)

namespace Record

/-! ## Sites of parts -/

theorem Sited.fieldsOf (hr : r.Sited S) {key : String} {field : String × Node}
    (h : field ∈ r.fieldsOf key) : field.2.Sited S := by
  unfold Record.fieldsOf at h
  cases hn : r.field? key with
  | none => simp [hn] at h
  | some n =>
    rw [hn, Option.bind_some] at h
    cases hinner : n.object? with
    | none => simp [hinner] at h
    | some inner =>
      rw [hinner] at h
      exact ((hr.field hn).object hinner).fields h

theorem Sited.itemsOf (hr : r.Sited S) {key : String} {n : Node} (h : n ∈ r.itemsOf key) :
    n.Sited S := by
  unfold Record.itemsOf at h
  cases hn : r.field? key with
  | none => simp [hn] at h
  | some parent =>
    rw [hn] at h
    exact (hr.field hn).item h

/-! ## References -/

theorem ensures_referenceState (hread : read.Reads S) (hr : r.Sited S) (hw : w.Sound S)
    (text : String) (at_ : Pointer) :
    Ensures S w (r.referenceState read text at_) fun state w' =>
      w'.Settles r.scope at_ text state := by
  unfold referenceState
  cases hlocate : r.scope.locate text with
  | error f =>
    refine (Ensures.tell hw r.scope at_ f).bind fun _ w₁ hw₁ _ hfound => ?_
    exact .pure hw₁ (.unresolved hlocate hfound)
  | ok target =>
    have htarget : target.Sited S := Scope.Registered.locate hr.scope hlocate
    refine .slot?_bind ?_
    cases hslot : w.slot? target.site with
    | some slot =>
      have hmem := Workspace.mem_slots_of_slot? hslot
      cases slot with
      -- the schema at the target is being read: the reference stands inside of it
      | opened id => exact .pure hw (.cyclic hlocate hmem)
      | bound id => exact .pure hw (.resolved hlocate hmem)
    | none =>
      refine (hread hw htarget).bind fun id w' hw' _ hid => ?_
      exact .pure hw' (.resolved hlocate (hid.2 hslot))

/-- What is said next to a reference is not looked at by the rest of the reading. -/
theorem ensures_referenceSchema (hread : read.Reads S) (hr : r.Sited S) (hw : w.Sound S)
    (text : String) :
    Ensures S w (r.referenceSchema read text) fun s w' =>
      s.document = r.scope.label ∧ s.location = r.pointer ∧
        (¬ r.scope.followsJsonSchema → s.title = none ∧ s.description = none) ∧ ∃ state,
          s.shape = .reference ⟨text, state⟩ ∧
            w'.Settles r.scope (r.pointer.push referenceKey) text state := by
  have hstate : ∀ {w₁ : Workspace}, w₁.Sound S → _ := fun hw₁ =>
    ensures_referenceState hread hr hw₁ text (r.pointer.push referenceKey)
  unfold referenceSchema
  dsimp only
  split
  · next hversion =>
    refine .tells_bind hw (r.onlyTells_text? _) fun w₁ hw₁ _ => ?_
    refine .tells_bind hw₁ (r.onlyTells_text? _) fun w₂ hw₂ _ => ?_
    refine .tells_bind hw₂ (.pure _) fun w₃ hw₃ _ => (hstate hw₃).bind fun state w₄ hw₄ _ h => ?_
    exact .pure hw₄ ⟨rfl, rfl, absurd hversion, state, rfl, h⟩
  · split
    · refine .tells_bind hw (r.onlyTells_tell _) fun w₁ hw₁ _ => ?_
      refine .tells_bind hw₁ (.pure _) fun w₂ hw₂ _ => (hstate hw₂).bind fun state w₃ hw₃ _ h => ?_
      exact .pure hw₃ ⟨rfl, rfl, fun _ => ⟨rfl, rfl⟩, state, rfl, h⟩
    · refine .tells_bind hw (.pure _) fun w₁ hw₁ _ => (hstate hw₁).bind fun state w₂ hw₂ _ h => ?_
      exact .pure hw₂ ⟨rfl, rfl, fun _ => ⟨rfl, rfl⟩, state, rfl, h⟩

/-! ## Parts -/

theorem ensures_schemaList (hread : read.Reads S) (hr : r.Sited S) (hw : w.Sound S)
    (key : String) :
    Ensures S w (r.schemaList read key) fun ids w' => w'.MetEach (r.itemsOf key) ids := by
  unfold schemaList itemsOf
  cases hn : r.field? key with
  | none => exact .pure hw .nil
  | some n =>
    refine .tells_bind hw (n.onlyTells_items _) fun w₁ hw₁ _ => ?_
    rw [Node.result_items]
    refine .each (R := fun (m : Node) id w => w.Met m.site id) (fun m id => stable_met m.site id)
      (fun m hm w₂ hw₂ => ?_) hw₁
    exact (hread hw₂ ((hr.field hn).item hm)).imp fun _ _ _ _ h => h.1

theorem ensures_schema? (hread : read.Reads S) (hr : r.Sited S) (hw : w.Sound S) (key : String) :
    Ensures S w (r.schema? read key) fun id? w' => w'.MetIf (r.field? key) id? := by
  unfold schema?
  cases hn : r.field? key with
  | none => exact .pure hw .none
  | some n =>
    refine (hread hw (hr.field hn)).bind fun id w₁ hw₁ _ h => ?_
    exact .pure hw₁ (.some h.1)

/-- Every field of the object in a field is read, and what is said about the results stays true. -/
theorem ensures_readAll {α : Type} {R : Node → α → Workspace → Prop}
    (hR : ∀ n a, Stable (R n a)) {step : Node → Binding (Option α)}
    (hstep : ∀ {n w}, n.Sited S → w.Sound S →
      Ensures S w (step n) fun a? w' => ∃ a, a? = some a ∧ R n a w')
    (hr : r.Sited S) (hw : w.Sound S) (key : String) :
    Ensures S w (r.readAll key step) fun entries w' =>
      List.Forall₂ (fun field entry => field.1 = entry.1 ∧ R field.2 entry.2 w')
        (r.fieldsOf key) entries := by
  refine .tells_bind hw (r.onlyTells_record? key) fun w₁ hw₁ _ => ?_
  have hfields : ∀ field ∈ r.fieldsOf key, field.2.Sited S := fun _ h => hr.fieldsOf h
  unfold fieldsOf at hfields ⊢
  rw [result_record?]
  cases hinner : (r.field? key).bind Node.object? with
  | none => exact .pure hw₁ .nil
  | some inner =>
    rw [hinner] at hfields
    refine .collect (fun _ _ _ _ h hgrows => ⟨h.1, hR _ _ h.2 hgrows⟩)
      (fun field hfield w₂ hw₂ => ?_) hw₁
    refine (hstep (hfields field hfield) hw₂).bind fun a? w₃ hw₃ _ h => ?_
    obtain ⟨a, rfl, ha⟩ := h
    exact .pure hw₃ ⟨(field.1, a), rfl, rfl, ha⟩

theorem ensures_additionalProperties (hread : read.Reads S) (hr : r.Sited S) (hw : w.Sound S) :
    Ensures S w (r.additionalProperties read) fun a w' =>
      w'.MetIf r.additionalNode? a.schema? := by
  unfold additionalProperties additionalNode?
  simp only
  cases hn : r.field? "additionalProperties" with
  | none => exact .pure hw .none
  | some n =>
    simp only [Option.filter_some]
    cases hvalue : n.value with
    | object members =>
      refine (hread hw (hr.field hn)).bind fun id w₁ hw₁ _ h => ?_
      exact .pure hw₁ (.some h.1)
    | bool value => exact .pure hw .none
    | _ => exact .tells_bind hw (r.onlyTells_tellMistyped _ _ _) fun _ hw₁ _ => .pure hw₁ .none

theorem ensures_objectShape (hread : read.Reads S) (hr : r.Sited S) (hw : w.Sound S) :
    Ensures S w (r.objectShape read) fun o w' => w'.ReadsObject r o := by
  have hproperty : ∀ {n w}, n.Sited S → w.Sound S →
      Ensures S w (do return some (← read n)) fun id? w' =>
        ∃ id, id? = some id ∧ w'.Met n.site id := fun hn hw =>
    (hread hw hn).bind fun id _ hw₁ _ h => .pure hw₁ ⟨id, rfl, h.1⟩
  refine (ensures_readAll (fun n id => stable_met n.site id) hproperty hr hw _).bind
    fun properties w₁ hw₁ _ hproperties => ?_
  refine .tells_bind hw₁ (r.onlyTells_texts _) fun w₂ hw₂ hext₂ => ?_
  refine (ensures_additionalProperties hread hr hw₂).bind fun a w₃ hw₃ hext₃ hadditional => ?_
  refine .tells_bind hw₃ (r.onlyTells_count? _) fun w₄ hw₄ hext₄ => ?_
  refine .tells_bind hw₄ (r.onlyTells_count? _) fun w₅ hw₅ hext₅ => ?_
  have hext := hext₄.trans hext₅
  refine .pure hw₅ ⟨?_, hadditional.grows hext.grows, rfl⟩
  exact Workspace.MetFields.grows hproperties ((hext₂.trans hext₃).trans hext).grows

theorem ensures_itemSchema? (hread : read.Reads S) (hr : r.Sited S) (hw : w.Sound S) :
    Ensures S w (r.itemSchema? read) fun id? w' => w'.MetIf r.itemNode? id? := by
  unfold itemSchema? itemNode?
  cases hn : r.field? "items" with
  | none => exact .pure hw .none
  | some n =>
    simp only [Option.filter_some]
    have hsome : Ensures S w (do return some (← read n)) fun id? w' => w'.MetIf (some n) id? :=
      (hread hw (hr.field hn)).bind fun id w₁ hw₁ _ h => .pure hw₁ (.some h.1)
    cases hvalue : n.value with
    | array _ => exact .tells_bind hw (n.onlyTells_tell _) fun _ hw₁ _ => .pure hw₁ .none
    | _ => exact hsome

theorem ensures_arrayShape (hread : read.Reads S) (hr : r.Sited S) (hw : w.Sound S) :
    Ensures S w (r.arrayShape read) fun a w' => w'.ReadsArray r a := by
  unfold arrayShape
  refine (ensures_itemSchema? hread hr hw).bind fun items w₁ hw₁ _ hitems => ?_
  have hlist (hversion : r.scope.followsJsonSchema) :
      Ensures S w₁ (r.schemaList read "prefixItems") fun prefixItems w' =>
        w'.MetEach (if r.scope.followsJsonSchema then r.itemsOf "prefixItems" else [])
          prefixItems := by
    simpa only [if_pos hversion] using ensures_schemaList hread hr hw₁ "prefixItems"
  refine .ite_bind hlist (fun prefixItems w₂ hw₂ hext₂ hprefix => ?_) fun hversion hrest => ?_
  · refine .tells_bind hw₂ (r.onlyTells_count? _) fun w₃ hw₃ hext₃ => ?_
    refine .tells_bind hw₃ (r.onlyTells_count? _) fun w₄ hw₄ hext₄ => ?_
    refine .tells_bind hw₄ (r.onlyTells_flag _) fun w₅ hw₅ hext₅ => ?_
    have hext := (hext₃.trans hext₄).trans hext₅
    exact .pure hw₅ ⟨hitems.grows (hext₂.trans hext).grows, hprefix.grows hext.grows⟩
  · refine .tells_bind hw₁ (r.onlyTells_refuse _) fun w₂ hw₂ hext₂ => ?_
    refine .tells_bind hw₂ (.pure _) fun w₃ hw₃ hext₃ => hrest [] w₃ hw₃ (hext₂.trans hext₃) ?_
    rw [if_neg hversion]
    exact .nil

/-! ## Types -/

theorem ensures_untypedShape (hread : read.Reads S) (hr : r.Sited S) (hw : w.Sound S) :
    Ensures S w (r.untypedShape read) fun shape w' => w'.Untyped r shape := by
  unfold untypedShape
  split
  · next hobject =>
    refine (ensures_objectShape hread hr hw).bind fun o w₁ hw₁ _ ho => ?_
    exact .pure hw₁ (.object hobject ho)
  · next hobject =>
    split
    · next harray =>
      refine (ensures_arrayShape hread hr hw).bind fun a w₁ hw₁ _ ha => ?_
      exact .pure hw₁ (.array hobject harray ha)
    · next harray => exact .pure hw (.any hobject harray)

/-- The shape of a scalar is of the type that was asked for. -/
theorem type_result_scalarShape (r : Record) (type : ScalarType) :
    (r.scalarShape type).result.type = type :=
  rfl

theorem ensures_typedShape (hread : read.Reads S) (hr : r.Sited S) (hw : w.Sound S)
    (name : String) :
    Ensures S w (r.typedShape read name) fun shape w' => w'.Typed r name shape := by
  unfold typedShape
  split
  · next hname =>
    refine (ensures_objectShape hread hr hw).bind fun o w₁ hw₁ _ ho => ?_
    exact .pure hw₁ (hname ▸ .object ho)
  · next hobject =>
    split
    · next hname =>
      refine .ite_bind (fun _ => .tells hw (r.onlyTells_tell _)) (fun _ w₁ hw₁ _ _ => ?_)
        fun _ hrest => hrest () w hw (.refl w) rfl
      refine (ensures_arrayShape hread hr hw₁).bind fun a w₂ hw₂ _ ha => ?_
      exact .pure hw₂ (hname ▸ .array ha)
    · next harray =>
      split
      · next type htype =>
        refine .tells_bind hw (r.onlyTells_scalarShape type) fun w₁ hw₁ _ => ?_
        exact .pure hw₁ (.scalar hobject harray (type_result_scalarShape r type ▸ htype) rfl)
      · next htype => exact .pure hw (.any hobject harray htype)

/-- A part of the schema of an object is added. -/
theorem ensures_allocate (hr : r.Sited S) (hw : w.Sound S) {names : List String} {shape : Shape}
    (hnames : names.Sublist r.types.result.names) (hshape : w.Structural r names shape) :
    Ensures S w (allocate { r.blankSchema with shape }) fun id w' => w'.Part r id shape :=
  ⟨hw.adding hr hnames hshape, w.extends_adding r shape, hw.part_adding r shape⟩

theorem ensures_memberOfType (hread : read.Reads S) (hr : r.Sited S) (hw : w.Sound S)
    {name : String} (hname : name ∈ r.types.result.names) :
    Ensures S w (r.memberOfType read name) fun id w' =>
      ∃ shape, w'.Typed r name shape ∧ w'.Part r id shape := by
  refine (ensures_typedShape hread hr hw name).bind fun shape w₁ hw₁ _ hshape => ?_
  have hnames : [name].Sublist r.types.result.names := List.singleton_sublist.mpr hname
  refine (ensures_allocate hr hw₁ hnames (.typed hshape)).imp fun id w₂ _ hext hpart => ?_
  exact ⟨shape, hshape.grows hext.grows, hpart⟩

theorem ensures_shapeOfTypes (hread : read.Reads S) (hr : r.Sited S) (hw : w.Sound S)
    {names : List String} (hnames : names.Sublist r.types.result.names) :
    Ensures S w (r.shapeOfTypes read names) fun shape w' => w'.Structural r names shape := by
  match names with
  | [] => exact (ensures_untypedShape hread hr hw).imp fun _ _ _ _ h => .untyped h
  | [name] => exact (ensures_typedShape hread hr hw name).imp fun _ _ _ _ h => .typed h
  | first :: second :: rest =>
    have hstable : ∀ name id, Stable fun w => ∃ shape, w.Typed r name shape ∧ w.Part r id shape :=
      fun _ _ _ _ ⟨shape, htyped, hpart⟩ hgrows =>
        ⟨shape, htyped.grows hgrows, hpart.grows hgrows⟩
    refine (Ensures.each hstable (fun name hname w₁ hw₁ => ?_) hw).bind fun ids w₁ hw₁ _ hids => ?_
    · exact ensures_memberOfType hread hr hw₁ (hnames.subset hname)
    · exact .pure hw₁ (.several (by simp) hids)

/-! ## Discriminators and compositions -/

/-- An object in a field of an object is at its place below it. -/
theorem of_field?_object? {key : String} {inner : Record}
    (h : (r.field? key).bind Node.object? = some inner) :
    inner.scope = r.scope ∧ inner.pointer = r.pointer.push key ∧
      (r.Sited S → inner.Sited S) := by
  obtain ⟨n, hn, hinner⟩ := Option.bind_eq_some_iff.mp h
  obtain ⟨hscope, hpointer⟩ := of_field? hn
  obtain ⟨hscope', hpointer', -⟩ := Node.of_object? hinner
  exact ⟨hscope'.trans hscope, hpointer'.trans hpointer, fun hr => (hr.field hn).object hinner⟩

theorem ensures_mappingEntry (hread : read.Reads S) (hr : r.Sited S) (hw : w.Sound S)
    (entries : Record) {key : String} {n : Node} (hn : n.Sited S) (hscope : n.scope = r.scope)
    (hpointer : n.pointer = ((r.pointer.push "discriminator").push "mapping").push key) :
    Ensures S w (mappingEntry read r entries key n) fun reference? w' =>
      ∀ reference ∈ reference?, w'.Maps S r (key, reference) := by
  unfold mappingEntry
  cases hvalue : n.value with
  | string name =>
    refine (ensures_referenceState hread hr hw _ _).bind fun state w₁ hw₁ _ hsettles => ?_
    refine .pure hw₁ fun reference hreference => ?_
    obtain rfl := Option.some.inj hreference
    exact ⟨n, name, hn, hscope, hpointer, hvalue, rfl, hsettles⟩
  | _ =>
    exact .tells_bind hw (entries.onlyTells_tellMistyped _ _ _) fun _ hw₁ _ => .pure hw₁ (by simp)

/-- The entries of a mapping are read one by one. -/
theorem ensures_mapping (hread : read.Reads S) (hr : r.Sited S) (hw : w.Sound S)
    {entries : Record} (hentries : entries.Sited S) (hscope : entries.scope = r.scope)
    (hpointer : entries.pointer = (r.pointer.push "discriminator").push "mapping") :
    Ensures S w (readFields entries.fields (mappingEntry read r entries)) fun mapping w' =>
      ∀ entry ∈ mapping, w'.Maps S r entry := by
  unfold readFields
  refine .collect_some (fun entry w w' h hgrows => h.grows hgrows)
    (fun field hfield w₁ hw₁ => ?_) hw
  have hn : field.2.Sited S := hentries.fields hfield
  obtain ⟨member, -, rfl⟩ := List.mem_map.mp hfield
  have hplace : (entries.child member).pointer =
      ((r.pointer.push "discriminator").push "mapping").push member.1 :=
    congrArg (·.push member.1) hpointer
  refine (ensures_mappingEntry hread hr hw₁ entries hn hscope hplace).bind
    fun reference? w₂ hw₂ _ h => .pure hw₂ fun entry hentry => ?_
  obtain ⟨reference, hreference, rfl⟩ := Option.map_eq_some_iff.mp hentry
  exact h reference hreference

theorem ensures_discriminator? (hread : read.Reads S) (hr : r.Sited S) (hw : w.Sound S) :
    Ensures S w (r.discriminator? read) fun d? w' => ∀ d ∈ d?, w'.Discriminates S r d := by
  refine .tells_bind hw (r.onlyTells_record? _) fun w₁ hw₁ _ => ?_
  rw [result_record?]
  cases hd : (r.field? "discriminator").bind Node.object? with
  | none => exact .pure hw₁ (by simp)
  | some d =>
    obtain ⟨hscope, hpointer, hsited⟩ := of_field?_object? hd
    refine .tells_bind hw₁ (d.onlyTells_requiredText? _ _) fun w₂ hw₂ _ => ?_
    cases (d.requiredText? "discriminator" "propertyName").result with
    | none => exact .pure hw₂ (by simp)
    | some propertyName =>
      have hresult : ∀ {mapping : Entries Reference} {w₃ : Workspace},
          (∀ entry ∈ mapping, w₃.Maps S r entry) →
          ∀ d' ∈ some (⟨propertyName, mapping⟩ : Discriminator), w₃.Discriminates S r d' :=
        fun hmapping _ hd' => Option.some.inj hd' ▸ hmapping
      refine .tells_bind hw₂ (d.onlyTells_record? _) fun w₃ hw₃ _ => ?_
      rw [result_record?]
      cases hentries : (d.field? "mapping").bind Node.object? with
      | none =>
        exact .tells_bind hw₃ (.pure _) fun w₄ hw₄ _ =>
          .pure hw₄ (hresult fun _ hmem => absurd hmem List.not_mem_nil)
      | some entries =>
        obtain ⟨hscope', hpointer', hsited'⟩ := of_field?_object? hentries
        exact (ensures_mapping hread hr hw₃ (hsited' (hsited hr)) (hscope'.trans hscope)
          (hpointer'.trans (congrArg (·.push "mapping") hpointer))).bind
            fun mapping w₄ hw₄ _ hmapping => .pure hw₄ (hresult hmapping)

theorem ensures_inlined? (hr : r.Sited S) (hw : w.Sound S) {names : List String} {shape : Shape}
    (hnames : names.Sublist r.types.result.names) (hshape : w.Structural r names shape) :
    Ensures S w (r.inlined? shape) fun id? w' => w'.Inlines r shape id? := by
  unfold inlined?
  split
  · exact .pure hw .any
  · next hany =>
    refine (ensures_allocate hr hw hnames hshape).bind fun id w₁ hw₁ _ hpart => ?_
    exact .pure hw₁ (.part hany hpart)

theorem ensures_shape (hread : read.Reads S) (hr : r.Sited S) (hw : w.Sound S)
    {names : List String} (hnames : names.Sublist r.types.result.names) :
    Ensures S w (r.shape read names) fun shape w' => w'.Shaped S r names shape := by
  unfold shape
  refine (ensures_shapeOfTypes hread hr hw hnames).bind fun structural w₁ hw₁ _ hstructural => ?_
  refine (ensures_discriminator? hread hr hw₁).bind fun d? w₂ hw₂ hext₂ hd => ?_
  have hstructural := hstructural.grows hext₂.grows
  split
  · next hkeys =>
    have hkeys : ¬ r.hasAny compositionKeys := by simpa using hkeys
    cases d? with
    | none => exact .pure hw₂ (.structural hkeys hstructural)
    | some d =>
      have htells := r.onlyTells_withDiscriminator structural d
      refine (Ensures.tells hw₂ htells).imp fun shape w₃ _ hext₃ hshape => ?_
      rw [hshape, result_withDiscriminator]
      exact .discriminated hkeys (hstructural.grows hext₃.grows) ((hd d rfl).grows hext₃.grows)
  · next hkeys =>
    have hkeys : r.hasAny compositionKeys := by simpa using hkeys
    refine (ensures_schemaList hread hr hw₂ _).bind fun allOf w₃ hw₃ hext₃ hallOf => ?_
    refine (ensures_schemaList hread hr hw₃ _).bind fun oneOf w₄ hw₄ hext₄ honeOf => ?_
    refine (ensures_schemaList hread hr hw₄ _).bind fun anyOf w₅ hw₅ hext₅ hanyOf => ?_
    refine (ensures_schema? hread hr hw₅ _).bind fun negated w₆ hw₆ hext₆ hnegated => ?_
    -- what was read before stays true while the later parts are read
    have hstructural := hstructural.grows
      (((hext₃.trans hext₄).trans hext₅).trans hext₆).grows
    refine (ensures_inlined? hr hw₆ hnames hstructural).bind fun inlined w₇ hw₇ hext₇ hinlined => ?_
    have hext₆₇ := hext₆.trans hext₇
    have hext₅₇ := hext₅.trans hext₆₇
    have hext₄₇ := hext₄.trans hext₅₇
    refine .pure hw₇ (.composed hkeys (hstructural.grows hext₇.grows) ?_ hinlined ?_)
    · exact ⟨hallOf.grows hext₄₇.grows, honeOf.grows hext₅₇.grows, hanyOf.grows hext₆₇.grows,
        hnegated.grows hext₇.grows⟩
    · exact fun d hmem => (hd d hmem).grows (hext₃.trans hext₄₇).grows

/-! ## Schemas -/

theorem ensures_schemaHere (hread : read.Reads S) (hr : r.Sited S) (hw : w.Sound S) :
    Ensures S w (r.schemaHere read) fun s w' => w'.Yields S r.node s := by
  unfold schemaHere
  cases hvalue : r.members.get? referenceKey with
  | none =>
    refine .tells_bind hw r.onlyTells_annotated fun w₁ hw₁ _ => ?_
    refine .tells_bind hw₁ r.onlyTells_types fun w₂ hw₂ _ => ?_
    refine (ensures_shape hread hr hw₂ (List.Sublist.refl _)).bind fun shape w₃ hw₃ _ hshape => ?_
    obtain ⟨-, hdocument, hlocation⟩ := r.annotated_gives.result
    exact .pure hw₃ (.shaped rfl hvalue hshape hdocument hlocation rfl)
  | some value =>
    cases value with
    | string text =>
      refine (ensures_referenceSchema hread hr hw text).imp fun s w₁ _ _ hs => ?_
      obtain ⟨hdocument, hlocation, hsaid, state, hshape, hsettles⟩ := hs
      exact .reference rfl hvalue hsettles hdocument hlocation hshape hsaid
    | _ =>
      exact .tells_bind hw (r.onlyTells_tellMistyped _ _ _) fun _ hw₁ _ =>
        .pure hw₁ (.misreferenced rfl hvalue fun _ => Json.noConfusion)

end Record

namespace Node

variable {n : Node}

theorem ensures_schemaHere (hread : read.Reads S) (hn : n.Sited S) (hw : w.Sound S) :
    Ensures S w (n.schemaHere read) fun s w' => w'.Yields S n s := by
  obtain ⟨scope, pointer, value⟩ := n
  cases value with
  | object members => exact Record.ensures_schemaHere (r := ⟨scope, pointer, members⟩) hread hn hw
  | bool accepts =>
    unfold schemaHere
    dsimp only
    split
    · next hversion => exact .pure hw (.truth rfl hversion)
    · next hversion =>
      exact .tells_bind hw (onlyTells_tell _ _) fun _ hw₁ _ =>
        .pure hw₁ (.unusable rfl fun _ _ => hversion)
  | _ =>
    exact .tells_bind hw (onlyTells_tell _ _) fun _ hw₁ _ =>
      .pure hw₁ (.unusable rfl fun _ => Json.noConfusion)

/-! ## Levels -/

/-- The schema at a node for which there is no room is finished at once. -/
theorem ensures_cut (hn : n.Sited S) (hw : w.Sound S) (hslot : w.slot? n.site = none) :
    Ensures S w (n.schemaWithin 0) fun id w' => (n.site, .bound id) ∈ w'.slots :=
  have htell := Ensures.tell hw n.scope n.pointer
    (.nestingTooDeep n.scope.setting.options.maxDepth)
  .of_run (schemaWithin_zero hslot) (htell.sound.cutting hn htell.holds)
    (htell.ext.trans (Workspace.extends_cutting _ n)) List.mem_cons_self

/-- The schema at a node is begun, its parts are read, and it is finished. -/
theorem ensures_read {room : Nat} (hread : SchemaReader.Reads S (schemaWithin room))
    (hn : n.Sited S) (hw : w.Sound S) (hslot : w.slot? n.site = none) :
    Ensures S w (n.schemaWithin (room + 1)) fun id w' => (n.site, .bound id) ∈ w'.slots :=
  have h := ensures_schemaHere hread hn (hw.opening hn)
  .of_run (schemaWithin_succ hslot room) (hw.closing hn h.ext h.sound h.holds)
    (Workspace.extends_closing h.ext _) List.mem_cons_self

/-- A schema that was met is looked up; otherwise it is finished. -/
theorem ensures_lookup {room : Nat} (hw : w.Sound S) (hnew : w.slot? n.site = none →
      Ensures S w (n.schemaWithin room) fun id w' => (n.site, .bound id) ∈ w'.slots) :
    Ensures S w (n.schemaWithin room) fun id w' =>
      w'.Met n.site id ∧ (w.slot? n.site = none → (n.site, .bound id) ∈ w'.slots) := by
  cases hslot : w.slot? n.site with
  | some slot =>
    exact .of_run (schemaWithin_of_met hslot room) hw (.refl w)
      ⟨⟨slot, Workspace.mem_slots_of_slot? hslot, rfl⟩, nofun⟩
  | none => exact (hnew hslot).imp fun id w' _ _ hid => ⟨⟨.bound id, hid, rfl⟩, fun _ => hid⟩

/-- Whatever room there is for levels below, the schema at a node is the one that was met there. -/
theorem reads_schemaWithin (S : Setting) (room : Nat) :
    SchemaReader.Reads S (schemaWithin room) := by
  induction room with
  | zero => exact fun hw hn => ensures_lookup hw (ensures_cut hn hw)
  | succ room ih => exact fun hw hn => ensures_lookup hw (ensures_read ih hn hw)

theorem reads_schema (S : Setting) : SchemaReader.Reads S schema := fun hw hn =>
  reads_schemaWithin S _ hw hn

end Node

end ApiDescription
