import ApiDescription.Proofs.Binding.Sound
import ApiDescription.Proofs.Binding.Traced

/-!
# Schemas that can be traced to nodes

What is read of a schema keeps everything traced to nodes, over an arbitrary way to read the
schemas below that does.  A schema is told apart only by a field that its node has, and requires
properties only by one; this is so from the field that is read up to the schema that is written
into the graph.
-/

namespace ApiDescription

open Binding

variable {P : Node → Prop} {n : Node} {r : Record}

/-- A way to read schemas keeps what can be traced to nodes of some kind. -/
def SchemaReader.Traces (P : Node → Prop) (read : SchemaReader) : Prop :=
  ∀ {n : Node}, P n → Binding.Traces P (read n) fun _ => True

/-! ## Shapes -/

namespace Shape

variable {value : Json}

theorem Suits.of_plain {shape : Shape} (hdiscriminator : shape.discriminator? = none)
    (hobject : ∀ o, shape ≠ .object o) : shape.Suits value where
  discriminator h := by simp [hdiscriminator] at h
  required o ho := absurd ho (hobject o)

theorem Suits.of_object {o : ObjectShape} (hdiscriminator : o.discriminator = none)
    (hrequired : o.required ≠ [] → (value.member? "required").isSome) :
    (Shape.object o).Suits value where
  discriminator h := by simp [discriminator?, hdiscriminator] at h
  required o' ho' := by
    obtain rfl := Shape.object.inj ho'
    exact hrequired

/-- What tells alternatives apart may be added where it is written. -/
theorem Suits.discriminated {shape : Shape} (h : shape.Suits value)
    (hvalue : (value.member? "discriminator").isSome) (d : Discriminator) :
    (shape.discriminated d).Suits value where
  discriminator _ := hvalue
  required o ho := by
    cases shape with
    | object o' =>
      obtain rfl := Shape.object.inj ho
      exact h.required o' rfl
    | any =>
      obtain rfl := Shape.object.inj ho
      exact fun hrequired => absurd rfl hrequired
    | _ => cases ho

end Shape

/-! ## Loose parts -/

/-- From a number on, every schema is homed, or it is one of some loose ones, which have the place of
a node. -/
def Workspace.LooseAt (w : Workspace) (n : Node) (first : SchemaId) (loose : List SchemaId) : Prop :=
  ∀ id, first ≤ id → id < w.graph.size →
    w.Homed id ∨ id ∈ loose ∧ w.graph.At n.scope.label n.pointer id

theorem Workspace.LooseAt.leads {w w' : Workspace} {first : SchemaId} {loose : List SchemaId}
    (h : w.LooseAt n first loose) (hw : w.Leads P w' fun _ => False) : w'.LooseAt n first loose := by
  intro id hfirst hlt
  by_cases hold : id < w.graph.size
  · exact (h id hfirst hold).imp hw.homed_of_homed (And.imp_right hw.at_)
  · exact .inl ((hw.homed id (Nat.le_of_not_lt hold) hlt).resolve_right not_false)

namespace Binding

variable {α β : Type} {m : Binding α} {f : α → Binding β} {Q R : α → Prop} {U : β → Prop}
  {before : List SchemaId} {after : α → List SchemaId}

/-- While the schema of a node is read, parts of it are added before what holds them.  The step keeps
what can be traced to nodes of some kind, and says which parts are loose before it and after it. -/
def Leaves (P : Node → Prop) (n : Node) (before : List SchemaId) (m : Binding α) (Q : α → Prop)
    (after : α → List SchemaId) : Prop :=
  ∀ w : Workspace, w.Traced P → ∀ first, w.LooseAt n first before →
    (m w).2.Traced P ∧ w.Frames P (m w).2 ∧ (m w).2.LooseAt n first (after (m w).1) ∧ Q (m w).1

/-- A step after which no schema is loose leaves those loose that were. -/
theorem Traces.leaves (hm : Traces P m Q) : Leaves P n before m Q fun _ => before := by
  intro w hw first hloose
  obtain ⟨hleft, hleads, hresult⟩ := hm w hw
  exact ⟨hleft, hleads.toFrames, hloose.leads hleads, hresult⟩

namespace Leaves

protected theorem pure {a : α} (h : Q a) (hafter : before ⊆ after a) :
    Leaves P n before (pure a) Q after := fun _ hw _ hloose =>
  ⟨hw, .of_slots_eq (List.Subset.refl _) rfl fun _ s hs => ⟨s, hs, rfl⟩,
    fun id hfirst hlt => (hloose id hfirst hlt).imp_right (And.imp_left (@hafter id)), h⟩

protected theorem bind {last : β → List SchemaId} (hm : Leaves P n before m R after)
    (hf : ∀ a, R a → Leaves P n (after a) (f a) U last) : Leaves P n before (m >>= f) U last := by
  intro w hw first hloose
  obtain ⟨hbetween, hframes, hloose', hresult⟩ := hm w hw first hloose
  obtain ⟨hleft, hframes', hlast⟩ := hf _ hresult _ hbetween first hloose'
  exact ⟨hleft, hframes.trans hframes', hlast⟩

theorem imp {after' : α → List SchemaId} (hm : Leaves P n before m R after)
    (h : ∀ a, R a → Q a ∧ after a ⊆ after' a) : Leaves P n before m Q after' := by
  intro w hw first hloose
  obtain ⟨hleft, hframe, hloose', hresult⟩ := hm w hw first hloose
  obtain ⟨hQ, hafter⟩ := h _ hresult
  exact ⟨hleft, hframe,
    fun id hfirst hlt => (hloose' id hfirst hlt).imp_right (And.imp_left (@hafter id)), hQ⟩

end Leaves

end Binding

namespace Record

/-! ## What is said about a schema -/

section Annotations

variable (hP : Node.Closed P) (hr : P r.node)
include hP hr

theorem traces_enumeration? : Traces P r.enumeration? fun _ => True := by
  refine (traces_read? hP hr _ _ _).seq fun listed => ?_
  split
  · exact .pure trivial
  · exact .ite (fun _ => .pure trivial) fun _ => (traces_refuse hP hr _).seq fun _ => .pure trivial

theorem traces_exampleList : Traces P r.exampleList fun _ => True := by
  unfold exampleList
  split
  · exact .pure trivial
  · next hother =>
    refine .ite (fun _ => ?_) fun _ => .pure trivial
    exact (traces_tellField hP hr (has_of_get? hother) rfl).seq fun _ => .pure trivial
  · exact .pure trivial

theorem traces_annotated : Traces P r.annotated fun _ => True := by
  refine (traces_text? hP hr _).seq fun _ => (traces_text? hP hr _).seq fun _ => ?_
  refine (traces_flag hP hr _).seq fun _ => (traces_flag hP hr _).seq fun _ => ?_
  refine (traces_flag hP hr _).seq fun _ => (traces_exampleList hP hr).seq fun _ => ?_
  refine (traces_enumeration? hP hr).seq fun _ => (traces_flag? hP hr _).bind fun nullable? h => ?_
  refine .ite (fun hnullable => ?_) fun _ => .pure trivial
  have hkey : r.has "nullable" = true := h (Bool.and_eq_true_iff.mp hnullable).1
  exact (traces_tellField hP hr hkey rfl).seq fun _ => .pure trivial

/-! ## Types -/

/-- Types are given only by the field for them. -/
theorem traces_givenTypes :
    Traces P r.givenTypes fun names => names ≠ [] → r.has "type" = true := by
  unfold givenTypes
  cases hn : r.field? "type" with
  | none => exact .pure fun h => absurd rfl h
  | some n =>
    have hkey := has_of_field? hn
    have hnode := hP.field hr hn
    dsimp only
    split
    · exact .pure fun _ => hkey
    · refine .ite (fun _ => (Node.traces_tell hnode rfl).seq fun _ => .pure fun _ => hkey)
        fun _ => ?_
      refine Node.traces_items hP hnode _ fun hitems => ?_
      refine (Traces.collect_all (U := fun _ => True) fun item hitem => ?_).imp fun _ _ _ => hkey
      split
      · exact .pure fun _ _ => trivial
      · exact (Node.traces_tell (hitems item hitem) rfl).seq fun _ => .pure fun _ _ => trivial
    · exact (traces_tellField hP hr hkey rfl).seq fun _ => .pure fun _ => hkey

theorem traces_sortTypes (types : Types) {names : List String}
    (hkey : names ≠ [] → r.has "type" = true) :
    Traces P (r.sortTypes types names) fun _ => True := by
  induction names generalizing types with
  | nil => exact .pure trivial
  | cons name rest ih =>
    have hkey := hkey (List.cons_ne_nil name rest)
    have ih := fun types => ih types fun _ => hkey
    unfold sortTypes
    refine .ite (fun _ => ih _) fun _ => .ite (fun _ => ih _) fun _ => ?_
    exact (traces_tellField hP hr hkey rfl).seq fun _ => ih types

theorem traces_types : Traces P r.types fun _ => True :=
  (traces_givenTypes hP hr).bind fun _ hkey => (traces_sortTypes hP hr _ hkey).seq fun _ =>
    .ite (fun _ => .pure trivial) fun _ => .pure trivial

/-! ## Scalars -/

theorem traces_exclusiveBound (key : String) (bound : Option Float) :
    Traces P (r.exclusiveBound key bound) fun _ => True := by
  unfold exclusiveBound
  cases hvalue : r.members.get? key with
  | none => exact .pure trivial
  | some value =>
    have htell : ∀ {f : Finding}, f.isRead = true → ∀ bounds : Option Float × Option Float,
        Traces P (r.tellField key f >>= fun _ => pure bounds) fun _ => True := fun hf _ =>
      (traces_tellField hP hr (has_of_get? hvalue) hf).seq fun _ => .pure trivial
    split
    · exact .pure trivial
    · exact .ite (fun _ => htell rfl _) fun _ => .pure trivial
    · exact .ite (fun _ => .pure trivial) fun _ => htell rfl _
    · exact htell rfl _

theorem traces_scalarShape (type : ScalarType) :
    Traces P (r.scalarShape type) fun _ => True := by
  refine (traces_text? hP hr _).seq fun _ => (traces_number? hP hr _).seq fun minimum => ?_
  refine (traces_number? hP hr _).seq fun maximum => ?_
  refine (traces_exclusiveBound hP hr _ minimum).seq fun _ => ?_
  refine (traces_exclusiveBound hP hr _ maximum).seq fun _ => ?_
  refine (traces_number? hP hr _).seq fun _ => (traces_count? hP hr _).seq fun _ => ?_
  exact (traces_count? hP hr _).seq fun _ => (traces_text? hP hr _).seq fun _ => .pure trivial

end Annotations

section Parts

variable (hP : Node.Closed P) {read : SchemaReader} (hread : read.Traces P)
include hP hread

/-! ## References -/

/-- What becomes of a reference that a node writes, perhaps as the name of a component. -/
theorem traces_referenceState (hn : P n) {name text : String} (hvalue : n.value = .string name)
    (htext : text = name ∨ text = componentReference name) (hscope : n.scope = r.scope) :
    Traces P (r.referenceState read text n.pointer) fun _ => True := by
  unfold referenceState
  cases hlocate : r.scope.locate text with
  | error f =>
    rw [← hscope]
    have hf := (Scope.of_locate_eq_error hlocate).isRead
    exact (Binding.traces_tell hn hf).seq fun _ => .pure trivial
  | ok target =>
    have hnext : n.scope.locate name = .ok target ∨
        n.scope.locate (componentReference name) = .ok target := by
      rw [hscope]
      rcases htext with rfl | rfl
      · exact .inl hlocate
      · exact .inr hlocate
    have htarget := hP.target hn hvalue hnext
    have hslot : Traces P (slot? target.site) fun _ => True :=
      fun w hw => ⟨hw, .refl w, trivial⟩
    refine hslot.seq fun slot? => ?_
    split
    · exact .pure trivial
    · exact .pure trivial
    · exact (hread htarget).seq fun _ => .pure trivial

variable (hr : P r.node)
include hr

theorem traces_referenceSchema {text : String}
    (htext : r.members.get? referenceKey = some (.string text)) :
    Traces P (r.referenceSchema read text) fun s => s.Suits r.node := by
  have hmember := hP.member (r := r) hr (Entries.mem_of_get? htext)
  have hstate := traces_referenceState hP hread (r := r) hmember rfl (.inl rfl) rfl
  unfold referenceSchema
  refine .ite (fun _ => ?_) fun _ => .ite (fun _ => ?_) fun _ => ?_
  · refine (traces_text? hP hr _).seq fun _ => (traces_text? hP hr _).seq fun _ => ?_
    refine (Traces.pure (Q := fun _ => True) trivial).seq fun _ => hstate.seq fun _ => ?_
    exact .pure ⟨rfl, rfl, .of_plain rfl nofun⟩
  · refine (traces_tell hr rfl).seq fun _ => ?_
    refine (Traces.pure (Q := fun _ => True) trivial).seq fun _ => hstate.seq fun _ => ?_
    exact .pure ⟨rfl, rfl, .of_plain rfl nofun⟩
  · refine (Traces.pure (Q := fun _ => True) trivial).seq fun _ => hstate.seq fun _ => ?_
    exact .pure ⟨rfl, rfl, .of_plain rfl nofun⟩

/-! ## Parts -/

theorem traces_schemaList (key : String) : Traces P (r.schemaList read key) fun _ => True := by
  unfold schemaList
  split
  · exact .pure trivial
  · next hn =>
    refine Node.traces_items hP (hP.field hr hn) _ fun hitems => ?_
    exact .each fun item hitem => hread (hitems item hitem)

theorem traces_schema? (key : String) : Traces P (r.schema? read key) fun _ => True := by
  unfold schema?
  split
  · exact .pure trivial
  · next hn => exact (hread (hP.field hr hn)).seq fun _ => .pure trivial

theorem traces_additionalProperties : Traces P (r.additionalProperties read) fun _ => True := by
  unfold additionalProperties
  dsimp only
  split
  · exact .pure trivial
  · next hn =>
    split
    · exact .pure trivial
    · exact (hread (hP.field hr hn)).seq fun _ => .pure trivial
    · exact (traces_tellField hP hr (has_of_field? hn) rfl).seq fun _ => .pure trivial

/-- The shape of an object requires properties only if the object does. -/
theorem traces_objectShape :
    Traces P (r.objectShape read) fun o => (Shape.object o).Suits r.node.value := by
  have hproperties : Traces P (r.readAll "properties" fun n => return some (← read n))
      fun _ => True :=
    Traces.imp (traces_readAll (R := fun _ => True) hP hr _ fun hn =>
      (hread hn).seq fun _ => .pure fun _ _ => trivial) fun _ _ => trivial
  refine hproperties.seq fun _ => (traces_texts hP hr _).bind fun required hrequired => ?_
  refine (traces_additionalProperties hP hread hr).seq fun _ => ?_
  refine (traces_count? hP hr _).seq fun _ => (traces_count? hP hr _).seq fun _ => .pure ?_
  exact .of_object rfl hrequired

theorem traces_itemSchema? : Traces P (r.itemSchema? read) fun _ => True := by
  unfold itemSchema?
  split
  · exact .pure trivial
  · next hn =>
    have hnode := hP.field hr hn
    split
    · exact (Node.traces_tell hnode rfl).seq fun _ => .pure trivial
    · exact (hread hnode).seq fun _ => .pure trivial

theorem traces_arrayShape : Traces P (r.arrayShape read) fun _ => True := by
  refine (traces_itemSchema? hP hread hr).seq fun items =>
    .ite_bind (fun _ => traces_schemaList hP hread hr _) (fun _ _ => ?_) fun _ hrest => ?_
  · exact (traces_count? hP hr _).seq fun _ => (traces_count? hP hr _).seq fun _ =>
      (traces_flag hP hr _).seq fun _ => .pure trivial
  · exact (traces_refuse hP hr _).seq fun _ => (Traces.pure trivial).bind hrest

/-! ## Shapes -/

theorem traces_untypedShape :
    Traces P (r.untypedShape read) fun shape => shape.Suits r.node.value := by
  refine .ite (fun _ => ?_) fun _ => .ite (fun _ => ?_) fun _ => .pure (.of_plain rfl nofun)
  · exact (traces_objectShape hP hread hr).bind fun _ ho => .pure ho
  · exact (traces_arrayShape hP hread hr).seq fun _ => .pure (.of_plain rfl nofun)

theorem traces_typedShape (name : String) :
    Traces P (r.typedShape read name) fun shape => shape.Suits r.node.value := by
  refine .ite (fun _ => ?_) fun _ => .ite (fun _ => ?_) fun _ => ?_
  · exact (traces_objectShape hP hread hr).bind fun _ ho => .pure ho
  · refine .ite_bind (fun _ => traces_tell hr rfl) (fun _ _ => ?_) fun _ hrest => hrest () trivial
    exact (traces_arrayShape hP hread hr).seq fun _ => .pure (.of_plain rfl nofun)
  · split
    · exact (traces_scalarShape hP hr _).seq fun _ => .pure (.of_plain rfl nofun)
    · exact .pure (.of_plain rfl nofun)

omit hP hread in
/-- A part of the schema of an object is added, with a shape that suits the object.  It is loose, and
the parts of its shape no longer are. -/
theorem leaves_allocate {shape : Shape} (hshape : shape.Suits r.node.value)
    {before : List SchemaId} {after : SchemaId → List SchemaId} (hself : ∀ id, id ∈ after id)
    (hbefore : ∀ id, ∀ part ∈ before, part ∈ shape.parts ∨ part ∈ after id) :
    Leaves P r.node before (allocate { r.blankSchema with shape }) (fun _ => True) after := by
  intro w hw first hloose
  have hnew : (w.graph.push { r.blankSchema with shape }).get? w.graph.size =
      some { r.blankSchema with shape } := by
    rw [SchemaGraph.get?_push, if_pos rfl]
  have hleads : w.Leads P (w.adding r shape) fun id => id = w.graph.size := by
    refine ⟨.of_slots_eq (List.Subset.refl _) rfl fun id s hs => ?_, fun id hold hlt => ?_⟩
    · exact ⟨s, Workspace.get?_push_of_eq_some hs _, rfl⟩
    · rw [Workspace.adding, SchemaGraph.size_push] at hlt
      exact .inr (Nat.le_antisymm (Nat.le_of_lt_succ hlt) hold)
  refine ⟨⟨hw.findings, fun id s hs => ?_, hw.sites⟩, hleads.toFrames, ?_, trivial⟩
  · simp only [allocate, SchemaGraph.get?_push] at hs
    split at hs
    · exact Option.some.inj hs ▸ ⟨r.node, hr, rfl, rfl, hshape⟩
    · exact hw.schemas id s hs
  · intro id hfirst hlt
    change (w.adding r shape).Homed id ∨ _
    by_cases hold : id < w.graph.size
    · rcases hloose id hfirst hold with hhomed | ⟨hpart, hat⟩
      · exact .inl (hleads.homed_of_homed hhomed)
      · rcases hbefore w.graph.size id hpart with hheld | hstill
        · exact .inl (.inr ⟨_, _, hnew, hheld, hleads.at_ hat⟩)
        · exact .inr ⟨hstill, hleads.at_ hat⟩
    · rcases hleads.homed id (Nat.le_of_not_lt hold) hlt with hhomed | rfl
      · exact .inl hhomed
      · exact .inr ⟨hself _, _, hnew, rfl, rfl⟩

theorem leaves_memberOfType {before : List SchemaId} (name : String) :
    Leaves P r.node before (r.memberOfType read name) (fun _ => True) fun id => id :: before :=
  (traces_typedShape hP hread hr name).leaves.bind fun _ hshape =>
    leaves_allocate hr hshape (fun _ => List.mem_cons_self)
      fun _ _ hpart => .inr (List.mem_cons_of_mem _ hpart)

/-- The schemas for several types are loose. -/
theorem leaves_membersOfTypes {before : List SchemaId} (names : List String) :
    Leaves P r.node before (Binding.each (r.memberOfType read) names) (fun _ => True)
      fun ids => ids ++ before := by
  induction names generalizing before with
  | nil => exact .pure trivial (List.Subset.refl _)
  | cons name rest ih =>
    refine (leaves_memberOfType hP hread hr name).bind fun id _ => ih.bind fun ids _ => ?_
    refine .pure trivial fun part hpart => ?_
    simp only [List.mem_append, List.mem_cons] at hpart ⊢
    tauto

theorem leaves_shapeOfTypes (names : List String) :
    Leaves P r.node [] (r.shapeOfTypes read names) (fun shape => shape.Suits r.node.value)
      Shape.parts := by
  match names with
  | [] =>
    exact (traces_untypedShape hP hread hr).leaves.imp fun _ h => ⟨h, List.nil_subset _⟩
  | [name] =>
    exact (traces_typedShape hP hread hr name).leaves.imp fun _ h => ⟨h, List.nil_subset _⟩
  | first :: second :: rest =>
    refine (leaves_membersOfTypes hP hread hr (first :: second :: rest)).bind fun ids _ => ?_
    exact .pure (.of_plain rfl nofun) (by simp [Shape.parts, ComposedShape.ofAny])

/-- Alternatives are told apart only by the field for it. -/
theorem traces_discriminator? :
    Traces P (r.discriminator? read) fun d? => d?.isSome → r.has "discriminator" = true := by
  refine traces_record? hP hr _ (.pure nofun) fun d hd hdnode => ?_
  have hkey : r.has "discriminator" = true := has_of_field? hd
  have hscope : d.scope = r.scope := (of_field? hd).1
  refine (traces_requiredText? hP hdnode _ _).seq fun
    | none => .pure nofun
    | some propertyName => ?_
  refine traces_record? hP hdnode _ ?_ fun entries hentries hnode => ?_
  · exact (Traces.pure (Q := fun _ => True) trivial).seq fun _ => .pure fun _ => hkey
  have hscope' : entries.scope = r.scope := (of_field? hentries).1.trans hscope
  refine Traces.seq (traces_readFields (R := fun _ _ _ => True) fun field hfield => ?_)
    fun _ => .pure fun _ => hkey
  have hfieldNode := hP.fields hnode hfield
  obtain ⟨member, -, rfl⟩ := List.mem_map.mp hfield
  unfold mappingEntry
  split
  · next name hname =>
    refine (traces_referenceState hP hread hfieldNode hname (.inr rfl) hscope').seq
      fun _ => .pure fun _ _ => trivial
  · exact (Binding.traces_tell hfieldNode rfl).seq fun _ => .pure fun _ _ => trivial

omit hread in
theorem leaves_withDiscriminator {shape : Shape} (hshape : shape.Suits r.node.value)
    (hkey : r.has "discriminator" = true) (d : Discriminator) :
    Leaves P r.node shape.parts (r.withDiscriminator shape d)
      (fun shape => shape.Suits r.node.value) Shape.parts := by
  have hresult : Traces P (r.withDiscriminator shape d) fun shape' =>
      True ∧ shape' = shape.discriminated d := by
    rw [← result_withDiscriminator]
    refine Traces.result ?_ (r.onlyTells_withDiscriminator shape d)
    unfold withDiscriminator
    cases shape with
    | object o => exact .pure trivial
    | any => exact .pure trivial
    | composed c => exact .pure trivial
    | _ => exact (traces_tellField hP hr hkey rfl).seq fun _ => .pure trivial
  refine hresult.leaves.imp fun shape' hshape' => ?_
  rw [hshape'.2]
  refine ⟨hshape.discriminated hkey d, ?_⟩
  cases shape <;> exact List.Subset.refl _

omit hP hread in
theorem leaves_inlined? {shape : Shape} (hshape : shape.Suits r.node.value) :
    Leaves P r.node shape.parts (r.inlined? shape) (fun _ => True) Option.toList := by
  unfold inlined?
  split
  · exact .pure trivial (List.nil_subset _)
  · have hpart : Leaves P r.node shape.parts (allocate { r.blankSchema with shape }) (fun _ => True)
        fun id => [id] := leaves_allocate hr hshape (by simp) fun _ _ h => .inl h
    exact hpart.bind fun id _ => .pure trivial (by simp)

theorem leaves_shape (names : List String) :
    Leaves P r.node [] (r.shape read names) (fun shape => shape.Suits r.node.value)
      Shape.parts := by
  refine (leaves_shapeOfTypes hP hread hr names).bind fun structural hstructural => ?_
  refine (traces_discriminator? hP hread hr).leaves.bind fun d? hd => ?_
  split
  · cases d? with
    | none => exact .pure hstructural (List.Subset.refl _)
    | some d => exact leaves_withDiscriminator hP hr hstructural (hd rfl) d
  · refine (traces_schemaList hP hread hr _).leaves.bind fun allOf _ => ?_
    refine (traces_schemaList hP hread hr _).leaves.bind fun oneOf _ => ?_
    refine (traces_schemaList hP hread hr _).leaves.bind fun anyOf _ => ?_
    refine (traces_schema? hP hread hr _).leaves.bind fun negated _ => ?_
    refine (leaves_inlined? hr hstructural).bind fun inlined _ => ?_
    exact .pure ⟨hd, nofun⟩ (List.subset_append_right _ _)

/-- The parts of the schema of an object are loose until the schema is finished. -/
theorem leaves_schemaHere :
    Leaves P r.node [] (r.schemaHere read) (fun s => s.Suits r.node) fun s => s.shape.parts := by
  unfold schemaHere
  split
  · next text htext =>
    exact (traces_referenceSchema hP hread hr htext).leaves.imp
      fun _ h => ⟨h, List.nil_subset _⟩
  · next other _ hother =>
    refine (traces_tellField hP hr (has_of_get? hother) rfl).leaves.bind fun _ _ => ?_
    exact .pure ⟨rfl, rfl, .of_plain rfl nofun⟩ (List.nil_subset _)
  · refine ((traces_annotated hP hr).gives r.annotated_gives).leaves.bind fun s hs => ?_
    refine (traces_types hP hr).leaves.bind fun types _ => ?_
    refine (leaves_shape hP hread hr _).bind fun shape hshape => ?_
    exact .pure ⟨hs.2.2.1, hs.2.2.2, hshape⟩ (List.Subset.refl _)

end Parts

end Record

/-! ## Levels -/

namespace Node

theorem leaves_schemaHere (hP : Node.Closed P) {read : SchemaReader} (hread : read.Traces P)
    (hn : P n) :
    Leaves P n [] (n.schemaHere read) (fun s => s.Suits n) fun s => s.shape.parts := by
  have hblank : n.blankSchema.Suits n := ⟨rfl, rfl, .of_plain rfl nofun⟩
  obtain ⟨scope, pointer, value⟩ := n
  cases value with
  | object members =>
    exact Record.leaves_schemaHere (r := ⟨scope, pointer, members⟩) hP hread hn
  | bool accepts =>
    unfold schemaHere
    dsimp only
    split
    · refine .pure ⟨rfl, rfl, ?_⟩ (List.nil_subset _)
      cases accepts <;> exact .of_plain rfl nofun
    · exact (traces_tell hn rfl).leaves.bind fun _ _ => .pure hblank (List.nil_subset _)
  | _ => exact (traces_tell hn rfl).leaves.bind fun _ _ => .pure hblank (List.nil_subset _)

end Node

namespace Workspace

variable {w w' : Workspace}

theorem not_mem_of_slot?_eq_none {site : Site} (h : w.slot? site = none) {entry : Site × Slot}
    (hentry : entry ∈ w.slots) : entry.1 ≠ site := by
  simp only [slot?, Option.map_eq_none_iff, List.find?_eq_none, decide_eq_true_eq] at h
  exact h entry hentry

/-- At every site there is one slot, also after one was added where nothing was met. -/
theorem Traced.sites_cons (hw : w.Traced P) {site : Site} (hslot : w.slot? site = none)
    {slot : Slot} :
    ∀ entry ∈ (site, slot) :: w.slots, ∀ other ∈ (site, slot) :: w.slots,
      entry.1 = other.1 → entry.2.id = other.2.id := by
  intro entry hentry other hother heq
  rcases List.mem_cons.mp hentry with rfl | hold
  · rcases List.mem_cons.mp hother with rfl | hold'
    · rfl
    · exact absurd heq.symm (not_mem_of_slot?_eq_none hslot hold')
  · rcases List.mem_cons.mp hother with rfl | hold'
    · exact absurd heq (not_mem_of_slot?_eq_none hslot hold)
    · exact hw.sites entry hold other hold' heq

/-- Beginning with a node at which nothing was met keeps everything traced. -/
theorem Traced.opening (hw : w.Traced P) (hn : P n) (hslot : w.slot? n.site = none) :
    (w.opening n).Traced P where
  findings := hw.findings
  schemas id s hs := by
    simp only [Workspace.opening, SchemaGraph.get?_push] at hs
    split at hs
    · exact Option.some.inj hs ▸ ⟨n, hn, rfl, rfl, .of_plain rfl fun _ h => by cases h⟩
    · exact hw.schemas id s hs
  sites := hw.sites_cons hslot

/-- Finishing a node at once, like beginning with it, keeps everything traced. -/
theorem Traced.cutting (hw : w.Traced P) (hn : P n) (hslot : w.slot? n.site = none) :
    (w.cutting n).Traced P where
  findings := hw.findings
  schemas := (hw.opening hn hslot).schemas
  sites := hw.sites_cons hslot

/-- A node is finished at once when some schema was cut off. -/
theorem leads_cutting (hcut : ∃ limit label p,
      (Finding.nestingTooDeep limit).diagnostic label p ∈ w.report.diagnostics) (n : Node) :
    w.Leads P (w.cutting n) fun _ => False where
  findings := List.Subset.refl _
  slots := List.subset_cons_self _ _
  readings _ _ := .inr (.inr hcut)
  kept _ s hs := ⟨s, get?_push_of_eq_some hs _, rfl⟩
  homed id hold hlt := by
    rw [Workspace.cutting, SchemaGraph.size_push] at hlt
    obtain rfl := Nat.le_antisymm (Nat.le_of_lt_succ hlt) hold
    exact .inl (.inl ⟨n.site, .bound _, List.mem_cons_self, rfl⟩)

section Closing

variable {s : Schema} (hw' : w'.Traced P) (hframes : (w.opening n).Frames P w')

include hw' hframes in
/-- Finishing a node that was begun keeps everything traced. -/
theorem Traced.closing (hn : P n) (hs : s.Suits n) : (w'.closing n w.graph.size s).Traced P where
  findings := hw'.findings
  schemas id t ht := by
    simp only [Workspace.closing, SchemaGraph.get?_modify] at ht
    split at ht
    · obtain ⟨-, -, rfl⟩ := Option.map_eq_some_iff.mp ht
      exact ⟨n, hn, hs⟩
    · exact hw'.schemas id t ht
  sites entry hentry other hother heq := by
    -- the node was begun with the schema that is finished
    have hopened : (n.site, Slot.opened w.graph.size) ∈ w'.slots := hframes.slots List.mem_cons_self
    rcases List.mem_cons.mp hentry with rfl | hold
    · rcases List.mem_cons.mp hother with rfl | hold'
      · rfl
      · exact hw'.sites _ hopened other hold' heq
    · rcases List.mem_cons.mp hother with rfl | hold'
      · exact hw'.sites entry hold (n.site, .opened w.graph.size) hopened heq
      · exact hw'.sites entry hold other hold' heq

include hframes in
/-- From when a node is begun until it is finished, schemas stay as they were, and the parts that were
loose are homed. -/
theorem leads_closing (hs : s.Suits n) (hloose : w'.LooseAt n (w.opening n).graph.size s.shape.parts)
    (hread : w'.Remembers P n.site) : w.Leads P (w'.closing n w.graph.size s) fun _ => False where
  findings := hframes.findings
  slots := List.Subset.trans (List.Subset.trans (List.subset_cons_self _ _) hframes.slots)
    (List.subset_cons_self _ _)
  readings entry hentry := by
    have hbefore : w'.Before (w'.closing n w.graph.size s) :=
      ⟨List.Subset.refl _, List.subset_cons_self _ _⟩
    rcases List.mem_cons.mp hentry with rfl | hbetween
    · exact .inr (hread.before hbefore)
    · rcases hframes.readings entry hbetween with hbegun | hold
      · rcases List.mem_cons.mp hbegun with rfl | hold
        · exact .inr (hread.before hbefore)
        · exact .inl hold
      · exact .inr (hold.before hbefore)
  kept id t ht := by
    have hlt : id < w.graph.size := SchemaGraph.lt_size_iff.mpr ⟨t, ht⟩
    obtain ⟨t', ht', hunnamed⟩ := hframes.kept id t (get?_push_of_eq_some ht _)
    exact ⟨t', (get?_closing_of_ne (Nat.ne_of_gt hlt)).trans ht', hunnamed⟩
  homed id hold hlt := by
    left
    obtain ⟨blank, hblank, hunnamed⟩ := hframes.kept _ _ (w.get?_size_opening n)
    have hhere := get?_closing_self (n := n) (s := s) (SchemaGraph.lt_size_iff.mpr ⟨blank, hblank⟩)
    have hlt : id < w'.graph.size := by
      rwa [Workspace.closing, SchemaGraph.size_modify] at hlt
    rcases Nat.eq_or_lt_of_le hold with rfl | hgt
    · exact .inl ⟨n.site, .bound _, List.mem_cons_self, rfl⟩
    · have hother : ∀ {document p}, w'.graph.At document p id →
          (w'.closing n w.graph.size s).graph.At document p id := by
        rintro document p ⟨t, ht, hplace⟩
        exact ⟨t, (get?_closing_of_ne (Nat.ne_of_lt hgt)).trans ht, hplace⟩
      rcases hloose id (by rwa [size_opening]) hlt with hhomed | ⟨hpart, hat⟩
      · rcases hhomed with ⟨site, slot, hslot, rfl⟩ | ⟨holder, t, ht, hpart, hat⟩
        · exact .inl ⟨site, slot, List.mem_cons_of_mem _ hslot, rfl⟩
        · -- the schema that is finished now was blank, and held nothing
          have hne : w.graph.size ≠ holder := by
            rintro rfl
            obtain rfl := Option.some.inj (ht.symm.trans hblank)
            rw [Schema.shape_eq_of_unnamed hunnamed] at hpart
            cases hpart
          exact .inr ⟨holder, t, (get?_closing_of_ne hne).trans ht, hpart, hother hat⟩
      · refine .inr ⟨_, s, hhere, hpart, ?_⟩
        rw [hs.document, hs.location]
        exact hother hat

end Closing

end Workspace

namespace Node

/-- A schema that is changed still suits a node if what it is changed to does. -/
theorem traces_change (id : SchemaId) {by_ : Schema → Schema}
    (h : ∀ s : Schema, s.Traced P → (by_ s).Traced P) (hunnamed : ∀ s, (by_ s).unnamed = s.unnamed) :
    Traces P (change id by_) fun _ => True := by
  intro w hw
  refine ⟨⟨hw.findings, fun other s hs => ?_, hw.sites⟩, ?_, trivial⟩
  · have hs : (w.graph.modify id by_).get? other = some s := hs
    rw [SchemaGraph.get?_modify] at hs
    split at hs
    · obtain ⟨s', hs', rfl⟩ := Option.map_eq_some_iff.mp hs
      exact h s' (hw.schemas other s' hs')
    · exact hw.schemas other s hs
  · have hext := Workspace.Extends.rename w id by_ hunnamed
    refine ⟨.of_slots_eq (List.Subset.refl _) rfl hext.kept, fun other hold hlt => ?_⟩
    have hlt : other < (w.graph.modify id by_).size := hlt
    rw [SchemaGraph.size_modify] at hlt
    exact absurd hlt (Nat.not_lt.mpr hold)

/-- A schema that was met is looked up; otherwise it is read. -/
theorem traces_lookup {room : Nat} (hnew : ∀ w : Workspace, w.Traced P → w.slot? n.site = none →
      (n.schemaWithin room w).2.Traced P ∧
        w.Leads P (n.schemaWithin room w).2 fun _ => False) :
    Traces P (n.schemaWithin room) fun _ => True := by
  intro w hw
  cases hslot : w.slot? n.site with
  | some slot =>
    rw [schemaWithin_of_met hslot]
    exact ⟨hw, .refl w, trivial⟩
  | none =>
    obtain ⟨hleft, hleads⟩ := hnew w hw hslot
    exact ⟨hleft, hleads, trivial⟩

/-- Schemas are read at nodes of the kind, however much room there is for levels below. -/
theorem traces_schemaWithin (hP : Node.Closed P) (room : Nat) :
    SchemaReader.Traces P (schemaWithin room) := by
  induction room with
  | zero =>
    refine fun {n} hn => traces_lookup fun w hw hslot => ?_
    have htell := (traces_tell hn (f := .nestingTooDeep n.scope.setting.options.maxDepth) rfl) w hw
    have hcut : ∃ limit label p, (Finding.nestingTooDeep limit).diagnostic label p ∈
        (n.tell (.nestingTooDeep n.scope.setting.options.maxDepth) w).2.report.diagnostics :=
      ⟨_, _, _, List.mem_append_right _ (List.mem_singleton_self _)⟩
    rw [schemaWithin_zero hslot]
    exact ⟨htell.1.cutting hn hslot, htell.2.1.trans (Workspace.leads_cutting hcut n) fun _ h => h⟩
  | succ room ih =>
    refine fun {n} hn => traces_lookup fun w hw hslot => ?_
    obtain ⟨hleft, hframes, hloose, hs⟩ := leaves_schemaHere hP ih hn (w.opening n)
      (hw.opening hn hslot) (w.opening n).graph.size
      fun id hold hlt => absurd hlt (Nat.not_lt.mpr hold)
    have hread : (n.schemaHere (schemaWithin room) (w.opening n)).2.Remembers P n.site :=
      .inl ⟨n, room, w.opening n, hn, rfl, List.Subset.refl _, List.Subset.refl _⟩
    rw [schemaWithin_succ hslot]
    exact ⟨hleft.closing hframes hn hs, Workspace.leads_closing hframes hs hloose hread⟩

theorem traces_schema (hP : Node.Closed P) : SchemaReader.Traces P schema :=
  fun hn => traces_schemaWithin hP _ hn

end Node

end ApiDescription
