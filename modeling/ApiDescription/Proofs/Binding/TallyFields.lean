import ApiDescription.Proofs.Binding.Tally
import Mathlib.Algebra.Order.BigOperators.Group.List
import Mathlib.Algebra.Order.Group.Nat

/-!
# What reading a field costs

Reading a field costs a `Spot` of the object, which a diagnostic hits if it is about the field.  No
diagnostic hits two spots that are apart, so an object whose fields are read once each costs no more
than its share, which is one if the diagnostic is about the object or something below it.
-/

namespace ApiDescription

open Binding

/-! ## Spots -/

/-- What a step may find something about when an object is read. -/
inductive Spot where
  /-- A field, or something below it. -/
  | below (key : String)
  /-- A field. -/
  | at (key : String)
  /-- A field with a schema, before that is read. -/
  | held (key : String)
  /-- The object, with one finding. -/
  | about (f : Finding)
  /-- The object, with some finding of a category. -/
  | kind (category : Category)
deriving DecidableEq

namespace Spot

/-- The diagnostic is found at a spot of an object; it is told whether that is within a schema. -/
def Hit (D : Diagnostic) (inner : Bool) (r : Record) (s : Spot) : Prop :=
  D.pointer.role.inSchema = inner ∧
    match s with
    | .below key => D.Below r.scope (r.pointer.push key)
    | .at key => D.At r.scope (r.pointer.push key)
    | .held key => D.At r.scope (r.pointer.push key) ∧ D.ByHolder
    | .about f => D = f.diagnostic r.scope.label r.pointer
    | .kind category => D.At r.scope r.pointer ∧ D.category = category

/-- The field that a spot is about, if it is not about the object. -/
def key? : Spot → Option String
  | .below key | .at key | .held key => some key
  | .about _ | .kind _ => none

/-- The category of what is found about the object. -/
def category? : Spot → Option Category
  | .about f => some f.category
  | .kind category => some category
  | .below _ | .at _ | .held _ => none

/-- No diagnostic hits both of two spots. -/
def apart : Spot → Spot → Bool
  | .about f, .about g => f.category ≠ g.category ∨ f.message ≠ g.message
  | s, t => s.key? ≠ t.key? ∨ s.category? ≠ t.category?

variable {D : Diagnostic} {inner : Bool} {r : Record} {s t : Spot}

theorem Hit.below_of_key (h : s.Hit D inner r) {key : String} (hkey : s.key? = some key) :
    D.Below r.scope (r.pointer.push key) := by
  cases s with
  | below _ =>
    obtain rfl := Option.some.inj hkey
    exact h.2
  | «at» _ =>
    obtain rfl := Option.some.inj hkey
    exact h.2.below
  | held _ =>
    obtain rfl := Option.some.inj hkey
    exact h.2.1.below
  | about _ | kind _ => cases hkey

/-- What is not about a field is about the object. -/
theorem Hit.at_of_key (h : s.Hit D inner r) (hkey : s.key? = none) : D.At r.scope r.pointer := by
  cases s with
  | about f => exact Diagnostic.at_of_eq h.2
  | kind category => exact h.2.1
  | below _ | «at» _ | held _ => cases hkey

/-- What is found at a spot of an object is below the object. -/
theorem Hit.below (h : s.Hit D inner r) : D.Below r.scope r.pointer := by
  cases hkey : s.key? with
  | some key => exact (h.below_of_key hkey).of_push
  | none => exact (h.at_of_key hkey).below

theorem Hit.category_eq (h : s.Hit D inner r) {category : Category}
    (hcategory : s.category? = some category) : D.category = category := by
  cases s with
  | about f =>
    obtain rfl := Option.some.inj hcategory
    exact congrArg Diagnostic.category h.2
  | kind _ =>
    obtain rfl := Option.some.inj hcategory
    exact h.2.2
  | below _ | «at» _ | held _ => cases hcategory

theorem Hit.key?_eq (h : s.Hit D inner r) (h' : t.Hit D inner r) : s.key? = t.key? := by
  cases hs : s.key? with
  | some key =>
    cases ht : t.key? with
    | some other => rw [(h.below_of_key hs).key_eq (h'.below_of_key ht)]
    | none => exact absurd (h'.at_of_key ht) (h.below_of_key hs).not_at
  | none =>
    cases ht : t.key? with
    | some other => exact absurd (h.at_of_key hs) (h'.below_of_key ht).not_at
    | none => rfl

theorem Hit.category?_eq (h : s.Hit D inner r) (h' : t.Hit D inner r) :
    s.category? = t.category? := by
  have hkeys := h.key?_eq h'
  have hcategory : ∀ {category other : Category}, s.category? = some category →
      t.category? = some other → s.category? = t.category? := by
    intro category other hs ht
    rw [hs, ht, ← h.category_eq hs, ← h'.category_eq ht]
  cases s <;> cases t <;> first | rfl | exact hcategory rfl rfl | cases hkeys

theorem Hit.not_apart (h : s.Hit D inner r) (h' : t.Hit D inner r) : s.apart t = false := by
  have hkeys := h.key?_eq h'
  have hcategories := h.category?_eq h'
  unfold apart
  split
  · have heq := h.2.symm.trans h'.2
    simp only [Finding.diagnostic, Diagnostic.mk.injEq] at heq
    simp [heq.2.1, heq.2.2.2.2]
  · simp [hkeys, hcategories]

end Spot

variable {S : Setting} {D : Diagnostic}

/-- What it costs to find something at several spots of an object. -/
noncomputable def Record.cost (D : Diagnostic) (inner : Bool) (r : Record) (spots : List Spot) :
    Nat :=
  (spots.map fun s => weight (s.Hit D inner r)).sum

/-- What it may cost to read a node. -/
noncomputable def Node.share (D : Diagnostic) (inner : Bool) (n : Node) : Nat :=
  weight (D.pointer.role.inSchema = inner ∧ D.Below n.scope n.pointer)

/-- What it costs to find something about a node itself. -/
noncomputable def Node.here (D : Diagnostic) (inner : Bool) (n : Node) : Nat :=
  weight (D.pointer.role.inSchema = inner ∧ D.At n.scope n.pointer)

theorem Node.here_le_share {inner : Bool} {n : Node} : n.here D inner ≤ n.share D inner :=
  weight_mono fun hit => ⟨hit.1, hit.2.below⟩

theorem Record.cost_append (inner : Bool) (r : Record) (spots others : List Spot) :
    r.cost D inner (spots ++ others) = r.cost D inner spots + r.cost D inner others := by
  rw [cost, List.map_append, List.sum_append]
  rfl

/-- Leaving out spots saves costs. -/
theorem Record.cost_le_of_sublist {inner : Bool} {r : Record} {spots others : List Spot}
    (h : spots.Sublist others) : r.cost D inner spots ≤ r.cost D inner others :=
  (h.map _).sum_le_sum fun _ _ => Nat.zero_le _

/-- The spots of two steps add up. -/
theorem Binding.Costs.append {α β : Type} {inner : Bool} {r : Record} {spots others : List Spot}
    {m : Binding α} {f : α → Binding β} (hm : Costs S D (r.cost D inner spots) m)
    (hf : ∀ a, Costs S D (r.cost D inner others) (f a)) :
    Costs S D (r.cost D inner (spots ++ others)) (m >>= f) := by
  rw [Record.cost_append]
  exact hm.bind hf

/-- A choice with something after it: what is shown of it behind the one arm is at hand in the
other. -/
theorem Binding.Costs.ite_append {α β : Type} {inner : Bool} {r : Record}
    {spots others : List Spot} {P : Prop} [Decidable P] {m : Binding α} {f : α → Binding β}
    {k : Binding β} (hm : Costs S D (r.cost D inner spots) m)
    (hf : ∀ a, Costs S D (r.cost D inner others) (f a))
    (hk : (∀ a, Costs S D (r.cost D inner others) (f a)) →
      Costs S D (r.cost D inner (spots ++ others)) k) :
    Costs S D (r.cost D inner (spots ++ others)) (if P then m >>= f else k) :=
  .ite (fun _ => hm.append hf) fun _ => hk hf

/-- Of several things one holds at the most. -/
theorem sum_weight_le {α : Type} {P : α → Prop} {Q : Prop} {l : List α}
    (hpair : l.Pairwise fun a b => ¬ (P a ∧ P b)) (h : ∀ a ∈ l, P a → Q) :
    (l.map fun a => weight (P a)).sum ≤ weight Q := by
  induction l with
  | nil => exact Nat.zero_le _
  | cons a rest ih =>
    obtain ⟨hfirst, hrest⟩ := List.pairwise_cons.mp hpair
    rw [List.map_cons, List.sum_cons]
    refine add_weight_le (fun ha => ?_) (ih hrest fun b hb => h b (List.mem_cons_of_mem _ hb))
      (h a List.mem_cons_self)
    refine List.sum_eq_zero fun c hc => ?_
    obtain ⟨b, hb, rfl⟩ := List.mem_map.mp hc
    exact weight_of_not fun hpb => hfirst b hb ⟨ha, hpb⟩

/-- An object whose spots are apart costs no more than something that all of them bring about. -/
theorem Record.cost_le {inner : Bool} {r : Record} {spots : List Spot} {Q : Prop}
    (hapart : spots.Pairwise fun s t => s.apart t = true)
    (h : ∀ s ∈ spots, s.Hit D inner r → Q) : r.cost D inner spots ≤ weight Q :=
  sum_weight_le (hapart.imp fun hst => fun ⟨hit, hit'⟩ =>
    Bool.false_ne_true ((hit.not_apart hit').symm.trans hst)) h

/-- An object whose spots are apart costs no more than its share. -/
theorem Record.cost_le_share {inner : Bool} {r : Record} {spots : List Spot}
    (hapart : spots.Pairwise fun s t => s.apart t = true) :
    r.cost D inner spots ≤ r.node.share D inner :=
  cost_le hapart fun _ _ hit => ⟨hit.1, hit.below⟩

/-- What costs spots of an object that are apart costs no more than its share. -/
theorem Binding.Costs.share {α : Type} {inner : Bool} {r : Record} {m : Binding α}
    (spots : List Spot) (hm : Costs S D (r.cost D inner spots) m)
    (hapart : spots.Pairwise fun s t => s.apart t = true) : Costs S D (r.node.share D inner) m :=
  hm.le (Record.cost_le_share hapart)

/-- What is below a field costs what is below its key. -/
theorem Record.share_of_field? {inner : Bool} {r : Record} {key : String} {n : Node}
    (hfield : r.field? key = some n) : n.share D inner = r.cost D inner [.below key] := by
  obtain ⟨hscope, hpointer⟩ := of_field? hfield
  rw [Node.share, hscope, hpointer]
  rfl

theorem Record.here_of_field? {inner : Bool} {r : Record} {key : String} {n : Node}
    (hfield : r.field? key = some n) : n.here D inner = r.cost D inner [.at key] := by
  obtain ⟨hscope, hpointer⟩ := of_field? hfield
  rw [Node.here, hscope, hpointer]
  rfl

/-- What costs the share of a field costs the spot. -/
theorem Binding.Costs.field {α : Type} {inner : Bool} {r : Record} {key : String} {n : Node}
    {m : Binding α} (hm : Costs S D (n.share D inner) m) (hfield : r.field? key = some n) :
    Costs S D (r.cost D inner [.below key]) m :=
  hm.le (Nat.le_of_eq (Record.share_of_field? hfield))

theorem Record.sum_share_fields_le (h : S.Sole D) {inner : Bool} {r : Record} (hr : r.Sited S) :
    (r.fields.map fun field => field.2.share D inner).sum ≤ r.node.share D inner := by
  have hnames : (r.members.map Prod.fst).Nodup := by
    have hvalue := (hr.value h.wellFormed).2
    simp only [node, Json.WellFormed] at hvalue
    exact hvalue.1
  refine sum_weight_le ?_ fun field hfield hit => ?_
  · refine List.pairwise_map.mpr ((List.pairwise_map.mp hnames).imp fun hne hboth => hne ?_)
    exact hboth.1.2.key_eq hboth.2.2
  · obtain ⟨member, -, rfl⟩ := List.mem_map.mp hfield
    exact ⟨hit.1, hit.2.of_push⟩

theorem Node.sum_share_items_le {inner : Bool} (n : Node) :
    (n.itemNodes.map (share D inner)).sum ≤ n.share D inner := by
  refine sum_weight_le ?_ fun m hm hit => ?_
  · unfold itemNodes
    split
    · next items _ =>
      refine List.pairwise_map.mpr ?_
      have hplaces : items.zipIdx.Pairwise fun a b => a.2 ≠ b.2 := by
        have hnodup : (items.zipIdx.map Prod.snd).Nodup := by
          rw [List.zipIdx_map_snd]
          exact List.nodup_range'
        exact List.pairwise_map.mp hnodup
      refine hplaces.imp fun hne hboth => hne ?_
      have hkey := hboth.1.2.key_eq hboth.2.2
      exact Option.some.inj ((Json.index?_toString _).symm.trans
        ((congrArg Json.index? hkey).trans (Json.index?_toString _)))
    · exact .nil
  · obtain ⟨-, i, -, -, hscope, hpointer⟩ := of_mem_itemNodes hm
    rw [hscope, hpointer] at hit
    exact ⟨hit.1, hit.2.of_push⟩

/-- What is below the items of a list is not about the list. -/
theorem Record.sum_share_items_add_le {inner : Bool} (r : Record) (member : String × Json) :
    ((r.child member).itemNodes.map (Node.share D inner)).sum + r.cost D inner [.at member.1] ≤
      r.cost D inner [.below member.1] := by
  rw [Nat.add_comm]
  refine add_weight_le (fun hit => List.sum_eq_zero fun c hc => ?_)
    (Node.sum_share_items_le (r.child member)) fun hit => ⟨hit.1, hit.2.below⟩
  obtain ⟨m, hm, rfl⟩ := List.mem_map.mp hc
  obtain ⟨-, i, -, -, hscope, hpointer⟩ := Node.of_mem_itemNodes hm
  refine weight_of_not fun hbelow => ?_
  rw [hscope, hpointer] at hbelow
  exact hbelow.2.not_at hit.2

/-! ## Fields -/

variable {inner : Bool} {role : Role} {α β : Type}

namespace Record

variable {r : Record} {key : String}

theorem costs_tell (hinner : role.inSchema = inner) (h : S.Sole D) (hr : r.Plays S role)
    (f : Finding) : Costs S D (r.cost D inner [.about f]) (r.tell f) := by
  refine (Binding.costs_tell r.scope r.pointer f).le (weight_mono fun heq => ⟨?_, heq⟩)
  rw [h.role_of_at hr (Diagnostic.at_of_eq heq), hinner]

theorem costs_tellKind (hinner : role.inSchema = inner) (h : S.Sole D) (hr : r.Plays S role)
    (f : Finding) : Costs S D (r.cost D inner [.kind f.category]) (r.tell f) := by
  refine (costs_tell hinner h hr f).le (weight_mono fun hit => ?_)
  exact ⟨hit.1, Diagnostic.at_of_eq hit.2, congrArg Diagnostic.category hit.2⟩

section Fields

variable (h : S.Sole D) (hr : r.Plays S role) (hinner : (role.under key).inSchema = inner)
include h hr hinner

theorem costs_tellField (f : Finding) : Costs S D (r.cost D inner [.at key]) (r.tellField key f) := by
  refine (Binding.costs_tell r.scope (r.pointer.push key) f).le (weight_mono fun heq => ?_)
  have hat := Diagnostic.at_of_eq heq
  exact ⟨(congrArg Role.inSchema (h.role_of_at_push hr hat)).trans hinner, hat⟩

theorem costs_tellMistyped (expected : String) (found : Json) :
    Costs S D (r.cost D inner [.at key]) (r.tellMistyped key expected found) :=
  costs_tellField h hr hinner _

omit h hr hinner in
/-- What is found about a field is found at it or below it. -/
theorem cost_at_le : r.cost D inner [.at key] ≤ r.cost D inner [.below key] :=
  weight_mono fun hit => ⟨hit.1, hit.2.below⟩

theorem costsOr_read? (expected : String) (form : Json → Option α) :
    CostsOr S D (r.cost D inner [.at key]) (r.read? key expected form) := by
  unfold read?
  cases r.members.get? key with
  | none => exact fun w => Nat.le_add_right _ _
  | some value =>
    dsimp only
    cases form value with
    | some a => exact fun w => Nat.le_refl _
    | none => exact costs_tellField h hr hinner _

theorem costsOr_text? : CostsOr S D (r.cost D inner [.at key]) (r.text? key) :=
  costsOr_read? h hr hinner _ _

theorem costs_text? : Costs S D (r.cost D inner [.at key]) (r.text? key) :=
  (costsOr_text? h hr hinner).costs

theorem costsOr_flag? : CostsOr S D (r.cost D inner [.at key]) (r.flag? key) :=
  costsOr_read? h hr hinner _ _

theorem costs_flag? : Costs S D (r.cost D inner [.at key]) (r.flag? key) :=
  (costsOr_flag? h hr hinner).costs

theorem costs_flag : Costs S D (r.cost D inner [.at key]) (r.flag key) :=
  (costs_flag? h hr hinner).bind fun _ => .pure

theorem costs_number? : Costs S D (r.cost D inner [.at key]) (r.number? key) :=
  (costsOr_read? h hr hinner _ _).costs

theorem costs_count? : Costs S D (r.cost D inner [.at key]) (r.count? key) :=
  (costsOr_read? h hr hinner _ _).costs

theorem costs_refuse : Costs S D (r.cost D inner [.at key]) (r.refuse key) :=
  .ite (fun _ => costs_tellField h hr hinner _) fun _ => Costs.pure.le (Nat.zero_le _)

/-- A text that must be there is missing, or it is of another kind. -/
theorem costsOr_requiredText? (hrole : role.inSchema = inner) (owner : String) :
    CostsOr S D (r.cost D inner [.about (.missing owner key), .at key])
      (r.requiredText? owner key) := by
  unfold requiredText?
  intro w
  split
  · refine Nat.le_trans (costsOr_text? h hr hinner w) (Nat.add_le_add_left ?_ _)
    split
    · exact Nat.le_refl 0
    · exact Nat.le_add_left _ _
  · exact Nat.le_trans (costs_tell hrole h hr _ w)
      (Nat.add_le_add_left (Nat.add_le_add_left (Nat.zero_le _) _) _)

theorem costs_requiredText? (hrole : role.inSchema = inner) (owner : String) :
    Costs S D (r.cost D inner [.about (.missing owner key), .at key])
      (r.requiredText? owner key) :=
  (costsOr_requiredText? h hr hinner hrole owner).costs

end Fields

end Record

/-! ## Objects and lists -/

namespace Node

variable {n : Node} (h : S.Sole D) (hn : n.Plays S role) (hinner : role.inSchema = inner)
include h hn hinner

theorem costs_tell (f : Finding) : Costs S D (n.here D inner) (n.tell f) := by
  refine (Binding.costs_tell n.scope n.pointer f).le (weight_mono fun heq => ?_)
  have hat := Diagnostic.at_of_eq heq
  exact ⟨(congrArg Role.inSchema (h.role_of_at hn hat)).trans hinner, hat⟩

/-- A node is no object, or what is read of the object costs nothing. -/
theorem costs_emptyRecord? (what : String) {f : Option Record → Binding β}
    (hnone : Costs S D 0 (f none))
    (hsome : ∀ r : Record, r.Plays S role → Costs S D 0 (f (some r))) :
    Costs S D (n.here D inner) (n.record? what >>= f) := by
  obtain ⟨scope, pointer, value⟩ := n
  cases value with
  | object members => exact (hsome ⟨scope, pointer, members⟩ hn).le (Nat.zero_le _)
  | _ =>
    unfold record?
    dsimp only
    rw [bind_assoc]
    exact (costs_tell h hn hinner _).bind fun _ => hnone

/-- A node is no object, or what is read of the object costs its share, besides what comes
afterwards. -/
theorem costs_recordThere? (what : String) {c : Nat} {f : Option Record → Binding β}
    (hnone : Costs S D c (f none))
    (hsome : ∀ r : Record, r.Plays S role → r.scope = n.scope → r.pointer = n.pointer →
      Costs S D (r.node.share D inner + c) (f (some r))) :
    Costs S D (n.share D inner + c) (n.record? what >>= f) := by
  obtain ⟨scope, pointer, value⟩ := n
  cases value with
  | object members => exact hsome ⟨scope, pointer, members⟩ hn rfl rfl
  | _ =>
    unfold record?
    dsimp only
    rw [bind_assoc]
    exact ((costs_tell h hn hinner _).le here_le_share).bind fun _ => hnone

/-- A node is no object, or what is read of the object costs its share. -/
theorem costs_record? (what : String) {f : Option Record → Binding β}
    (hnone : Costs S D 0 (f none))
    (hsome : ∀ r : Record, r.Plays S role → Costs S D (r.node.share D inner) (f (some r))) :
    Costs S D (n.share D inner) (n.record? what >>= f) :=
  costs_recordThere? h hn hinner what hnone fun r hr _ _ => hsome r hr

/-- A node is no list, or what is read of its items costs nothing. -/
theorem costs_emptyItems (what : String) {f : List Node → Binding β} (hnil : Costs S D 0 (f []))
    (hitems : Costs S D 0 (f n.itemNodes)) :
    Costs S D (n.here D inner) (n.items what >>= f) := by
  obtain ⟨scope, pointer, value⟩ := n
  cases value with
  | array items => exact hitems.le (Nat.zero_le _)
  | _ =>
    unfold items
    dsimp only
    rw [bind_assoc]
    exact (costs_tell h hn hinner _).bind fun _ => hnil

/-- A node is no list, or what is read of its items costs their shares. -/
theorem costs_items (what : String) {step : Node → Binding (Option α)}
    (hstep : ∀ (i : Nat) (m : Node), m.Plays S (role.under (toString i)) →
      Costs S D (m.share D inner) (step m)) :
    Costs S D (n.share D inner) (n.items what >>= fun items => collect step items) := by
  have hitems : Costs S D (n.share D inner) (collect step n.itemNodes) := by
    refine (Costs.collect (k := share D inner) fun m hm => ?_).le n.sum_share_items_le
    obtain ⟨i, hm⟩ := hn.item hm
    exact hstep i m hm
  obtain ⟨scope, pointer, value⟩ := n
  cases value with
  | array items => exact hitems
  | _ =>
    unfold items
    dsimp only
    rw [bind_assoc]
    exact ((costs_tell h hn hinner _).le here_le_share).bind fun _ => .pure

end Node

namespace Record

variable {r : Record} {key : String} (h : S.Sole D) (hr : r.Plays S role)
include h hr

/-- What all fields of an object are read as costs their shares. -/
theorem costs_readFields {step : String → Node → Binding (Option α)}
    (hstep : ∀ member : String × Json, (r.child member).Plays S (role.under member.1) →
      Costs S D ((r.child member).share D inner) (step member.1 (r.child member))) :
    Costs S D (r.node.share D inner) (readFields r.fields step) := by
  refine (Costs.collect (k := fun field => field.2.share D inner) fun field hfield => ?_).le
    (sum_share_fields_le h hr.sited)
  obtain ⟨member, hmember, rfl⟩ := List.mem_map.mp hfield
  exact (hstep member (hr.child hmember)).bind fun _ => .pure

/-- Leaving out extensions saves costs. -/
theorem costs_readPlainFields {step : String → Node → Binding (Option α)}
    (hstep : ∀ member : String × Json, (r.child member).Plays S (role.under member.1) →
      Costs S D ((r.child member).share D inner) (step member.1 (r.child member))) :
    Costs S D (r.node.share D inner) (readFields r.plainFields step) := by
  have hsub : r.plainFields.Sublist r.fields := List.filter_sublist
  refine (Costs.collect (k := fun field => field.2.share D inner) fun field hfield => ?_).le
    (Nat.le_trans ((hsub.map _).sum_le_sum fun _ _ => Nat.zero_le _)
      (sum_share_fields_le h hr.sited))
  obtain ⟨member, hmember, rfl⟩ := List.mem_map.mp (hsub.subset hfield)
  exact (hstep member (hr.child hmember)).bind fun _ => .pure

omit h in
/-- What is read of a field costs its share, which is what the spot costs. -/
theorem costs_field {b : β} {k : Node → Binding β}
    (hsome : ∀ n, n.Plays S (role.under key) → Costs S D (n.share D inner) (k n)) :
    Costs S D (r.cost D inner [.below key])
      (match r.field? key with
      | none => pure b
      | some n => k n) := by
  split
  · exact Costs.pure.le (Nat.zero_le _)
  · next hfield => exact (hsome _ (hr.field hfield)).field hfield

omit h in
/-- What is found about a field itself is what the spot costs. -/
theorem costs_fieldHere {b : β} {k : Node → Binding β}
    (hsome : ∀ n, n.Plays S (role.under key) → Costs S D (n.here D inner) (k n)) :
    Costs S D (r.cost D inner [.at key])
      (match r.field? key with
      | none => pure b
      | some n => k n) := by
  split
  · exact Costs.pure.le (Nat.zero_le _)
  · next hfield => exact (hsome _ (hr.field hfield)).le (Nat.le_of_eq (here_of_field? hfield))

variable (hinner : (role.under key).inSchema = inner)
include hinner

/-- A field is no object, or what is read of the object costs nothing. -/
theorem costs_emptyRecord? {f : Option Record → Binding β} (hnone : Costs S D 0 (f none))
    (hsome : ∀ r : Record, r.Plays S (role.under key) → Costs S D 0 (f (some r))) :
    Costs S D (r.cost D inner [.at key]) (r.record? key >>= f) := by
  unfold record?
  cases hfield : r.field? key with
  | none => exact hnone.le (Nat.zero_le _)
  | some n =>
    rw [← here_of_field? hfield]
    exact Node.costs_emptyRecord? h (hr.field hfield) hinner _ hnone hsome

/-- A field is no object, or what is read of the object costs its share, besides what comes
afterwards. -/
theorem costs_recordThere? {c : Nat} {f : Option Record → Binding β} (hnone : Costs S D c (f none))
    (hsome : ∀ there : Record, there.Plays S (role.under key) → there.scope = r.scope →
      there.pointer = r.pointer.push key →
        Costs S D (there.node.share D inner + c) (f (some there))) :
    Costs S D (r.cost D inner [.below key] + c) (r.record? key >>= f) := by
  unfold record?
  cases hfield : r.field? key with
  | none => exact hnone.le (Nat.le_add_left _ _)
  | some n =>
    obtain ⟨hscope, hpointer⟩ := of_field? hfield
    rw [← share_of_field? hfield]
    refine Node.costs_recordThere? h (hr.field hfield) hinner _ hnone
      fun there hthere hscope' hpointer' => ?_
    exact hsome there hthere (hscope'.trans hscope) (hpointer'.trans hpointer)

/-- A field is no object, or what is read of the object costs its share. -/
theorem costs_record? {f : Option Record → Binding β} (hnone : Costs S D 0 (f none))
    (hsome : ∀ r : Record, r.Plays S (role.under key) →
      Costs S D (r.node.share D inner) (f (some r))) :
    Costs S D (r.cost D inner [.below key]) (r.record? key >>= f) :=
  costs_recordThere? h hr hinner hnone fun r hr _ _ => hsome r hr

theorem costs_readAll {step : Node → Binding (Option α)}
    (hstep : ∀ (name : String) (m : Node), m.Plays S ((role.under key).under name) →
      Costs S D (m.share D inner) (step m)) :
    Costs S D (r.cost D inner [.below key]) (r.readAll key step) :=
  costs_record? h hr hinner .pure fun _ hinnerRecord =>
    costs_readFields h hinnerRecord fun member hm => hstep member.1 _ hm

/-- What the items of the list in a field are read as costs their shares. -/
theorem costs_list (what : String) {step : Node → Binding (Option α)}
    (hstep : ∀ (i : Nat) (m : Node), m.Plays S ((role.under key).under (toString i)) →
      Costs S D (m.share D inner) (step m)) :
    Costs S D (r.cost D inner [.below key]) (match r.field? key with
      | none => pure []
      | some n => n.items what >>= fun items => Binding.collect step items) :=
  costs_field hr fun _ hn => Node.costs_items h hn hinner what hstep

theorem costs_texts (hitem : ∀ i : Nat, ((role.under key).under (toString i)).inSchema = inner) :
    Costs S D (r.cost D inner [.below key]) (r.texts key) := by
  refine costs_list h hr hinner _ fun i m hm => ?_
  split
  · exact Costs.pure.le (Nat.zero_le _)
  · exact ((Node.costs_tell h hm (hitem i) _).le Node.here_le_share).bind fun _ => .pure

end Record

/-! ## References -/

/-- What keeps a chain of references from ending is about the node where it starts, or about a
reference of the chain. -/
theorem Node.of_chase_eq_error {P : Node → Prop}
    (hstep : ∀ {n next : Node} {text : String}, P n →
      n.value.member? referenceKey = some (.string text) → n.scope.locate text = .ok next → P next)
    {n origin : Node} {first : Option String} {seen : List Site} {room : Nat} (hn : P n)
    {p : Problem} (hchase : chase origin first seen room n = .error p) :
    p.scope = origin.scope ∧ p.pointer = origin.pointer ∨
      ∃ m, P m ∧ p.scope = m.scope ∧ p.pointer = m.pointer.push referenceKey := by
  induction room generalizing n first seen with
  | zero =>
    unfold chase at hchase
    split at hchase
    · cases hchase
    · simp only at hchase
      split at hchase <;> exact Except.error.inj hchase ▸ .inl ⟨rfl, rfl⟩
    · exact Except.error.inj hchase ▸ .inr ⟨n, hn, rfl, rfl⟩
  | succ room ih =>
    unfold chase at hchase
    split at hchase
    · cases hchase
    · next text htext =>
      simp only at hchase
      split at hchase
      · exact Except.error.inj hchase ▸ .inl ⟨rfl, rfl⟩
      · split at hchase
        · next next hnext => exact ih (hstep hn htext hnext) hchase
        · exact Except.error.inj hchase ▸ .inr ⟨n, hn, rfl, rfl⟩
    · exact Except.error.inj hchase ▸ .inr ⟨n, hn, rfl, rfl⟩

namespace Node

variable {n : Node} (h : S.Sole D) (hn : n.Plays S role) (hrefers : role.refers = true)
  (houter : role.inSchema = false)
include h hrefers houter

/-- The nodes that a chain of references leads to are read as the node is where it starts, and only
that one may have the diagnostic below it. -/
theorem chain_step {m next : Node} {text : String}
    (hm : m.Plays S role ∧ (m = n ∨ (D.Below m.scope m.pointer → D.pointer.role.inSchema = true)))
    (htext : m.value.member? referenceKey = some (.string text))
    (hnext : m.scope.locate text = .ok next) : next.Plays S role ∧
      (next = n ∨ (D.Below next.scope next.pointer → D.pointer.role.inSchema = true)) :=
  ⟨.reference hm.1 hrefers htext hnext, .inr (h.apart hm.1 houter hrefers htext hnext)⟩

include hn

/-- What is done with what a node stands for costs the share of the node. -/
theorem costs_resolved (houterReference : (role.under referenceKey).inSchema = false)
    {f : Option Resolved → Binding β} (hnone : Costs S D 0 (f none))
    (hsome : ∀ target : Resolved, target.node.Plays S role →
      target.node.share D false ≤ n.share D false →
        Costs S D (n.share D false) (f (some target))) :
    Costs S D (n.share D false) (orTell n.resolved >>= f) := by
  have hstart : n.Plays S role ∧
      (n = n ∨ (D.Below n.scope n.pointer → D.pointer.role.inSchema = true)) := ⟨hn, .inl rfl⟩
  cases hresolved : n.resolved with
  | ok target =>
    obtain ⟨hplays, hfar⟩ := of_chase (chain_step h hrefers houter) hstart hresolved
    refine hsome target hplays ?_
    rcases hfar with heq | hfar
    · rw [heq]
    · exact weight_mono fun hit => absurd (hfar hit.2) (by simp [hit.1])
  | error p =>
    change Costs S D _ (Binding.tell p.scope p.pointer p.finding >>= fun _ => f none)
    refine Costs.bind ((Binding.costs_tell p.scope p.pointer p.finding).le
      (weight_mono fun heq => ?_)) fun _ => hnone
    have hat := Diagnostic.at_of_eq heq
    rcases of_chase_eq_error (chain_step h hrefers houter) hstart hresolved with
      ⟨hscope, hpointer⟩ | ⟨m, ⟨hm, hfar⟩, hscope, hpointer⟩
    · rw [hscope, hpointer] at hat
      exact ⟨(congrArg Role.inSchema (h.role_of_at hn hat)).trans houter, hat.below⟩
    · rw [hscope, hpointer] at hat
      have houterD : D.pointer.role.inSchema = false :=
        (congrArg Role.inSchema (h.role_of_at_push hm hat)).trans houterReference
      rcases hfar with rfl | hfar
      · exact ⟨houterD, hat.below.of_push⟩
      · exact absurd (hfar hat.below.of_push) (by simp [houterD])

/-- What is done with the object that a node stands for costs the share of the node. -/
theorem costs_resolvedRecord? (houterReference : (role.under referenceKey).inSchema = false)
    (what : String) {f : Option ResolvedRecord → Binding β} (hnone : Costs S D 0 (f none))
    (hsome : ∀ (r : Record) (reference : Option String), r.Plays S role →
      Costs S D (r.node.share D false) (f (some ⟨r, reference⟩))) :
    Costs S D (n.share D false) (n.resolvedRecord? what >>= f) := by
  unfold resolvedRecord?
  rw [bind_assoc]
  refine costs_resolved h hn hrefers houter houterReference hnone fun target ht hshare => ?_
  dsimp only
  rw [bind_assoc]
  refine (costs_record? h ht houter what hnone fun r hr => ?_).le hshare
  exact hsome r target.reference hr

end Node

end ApiDescription
