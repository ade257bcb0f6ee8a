import ApiDescription.Proofs.Schema.Edges
import Mathlib.Data.Fintype.Pigeonhole

/-!
# Chains of references

The chain from a schema goes from each reference to its target, and ends at a schema that is no
reference or at a reference without a target.  `SchemaGraph.follow` gives up after as many steps as
there are schemas and one; `SchemaGraph.follow_eq_closed_iff` says that it gives up only on chains
that never end, and `SchemaGraph.resolve?_eq_some_iff` that it comes to the end of all others.
-/

namespace ApiDescription.SchemaGraph

variable {g : SchemaGraph} {id target : SchemaId} {n : Nat}

/-- The target of a schema that is a reference. -/
def next? (g : SchemaGraph) (id : SchemaId) : Option SchemaId :=
  ((g.get? id).bind Schema.reference?).bind (·.state.target?)

/-- The schema that a number of steps lead to, if the chain does not end before. -/
def chain (g : SchemaGraph) (id : SchemaId) : Nat → Option SchemaId
  | 0 => some id
  | n + 1 => (g.chain id n).bind g.next?

theorem lt_size_of_next? (h : g.next? id = some target) : id < g.size := by
  obtain ⟨r, hr, -⟩ := Option.bind_eq_some_iff.mp h
  obtain ⟨s, hs, -⟩ := Option.bind_eq_some_iff.mp hr
  exact lt_size_iff.mpr ⟨s, hs⟩

/-! ## Steps -/

theorem chain_add (g : SchemaGraph) (id : SchemaId) (m n : Nat) :
    g.chain id (m + n) = (g.chain id m).bind (g.chain · n) := by
  induction n with
  | zero => simp [chain]
  | succ n ih =>
    rw [← Nat.add_assoc, chain, ih, Option.bind_assoc]
    rfl

/-- The chain from a reference goes on from its target. -/
theorem chain_succ_of_some (h : g.next? id = some target) (k : Nat) :
    g.chain id (k + 1) = g.chain target k := by
  rw [Nat.add_comm, chain_add]
  simp [chain, h]

theorem chain_succ_of_none (h : g.next? id = none) (k : Nat) : g.chain id (k + 1) = none := by
  rw [Nat.add_comm, chain_add]
  simp [chain, h]

theorem chain_isSome_of_le {m : Nat} (hmn : m ≤ n) (h : (g.chain id n).isSome) :
    (g.chain id m).isSome := by
  obtain ⟨k, rfl⟩ := Nat.exists_eq_add_of_le hmn
  rw [chain_add] at h
  exact Option.isSome_of_isSome_bind h

theorem followFor_succ_of_some (h : g.next? id = some target) :
    g.followFor (n + 1) id = g.followFor n target := by
  obtain ⟨r, hr, htarget⟩ := Option.bind_eq_some_iff.mp h
  obtain ⟨s, hs, hreference⟩ := Option.bind_eq_some_iff.mp hr
  simp only [followFor, hs, hreference, htarget]

theorem followFor_succ_ne_closed (h : g.next? id = none) : g.followFor (n + 1) id ≠ .closed := by
  unfold followFor
  unfold next? at h
  split
  · exact nofun
  · next s hs =>
    split
    · exact nofun
    · next r hr => simp_all

/-- Giving up means that the chain goes on. -/
theorem followFor_eq_closed_iff (g : SchemaGraph) (n : Nat) (id : SchemaId) :
    g.followFor n id = .closed ↔ (g.chain id n).isSome := by
  induction n generalizing id with
  | zero => simp [followFor, chain]
  | succ n ih =>
    cases hnext : g.next? id with
    | none => simp [chain_succ_of_none hnext, followFor_succ_ne_closed hnext]
    | some target => rw [followFor_succ_of_some hnext, chain_succ_of_some hnext, ih]

/-! ## Chains that do not end -/

/-- A chain that meets no end in as many steps as there are schemas and one meets a schema again. -/
theorem exists_chain_eq (h : (g.chain id (g.size + 1)).isSome) :
    ∃ i j, i < j ∧ j ≤ g.size ∧ g.chain id i = g.chain id j := by
  have hlt : ∀ k : Fin (g.size + 1), ∃ place : Fin g.size, g.chain id k = some place.val := by
    intro k
    have hsucc := chain_isSome_of_le (Nat.succ_le_of_lt k.isLt) h
    obtain ⟨target, htarget⟩ := Option.isSome_iff_exists.mp hsucc
    obtain ⟨place, hplace, hnext⟩ := Option.bind_eq_some_iff.mp htarget
    exact ⟨⟨place, lt_size_of_next? hnext⟩, hplace⟩
  choose place hplace using hlt
  obtain ⟨i, j, hne, heq⟩ := Fintype.exists_ne_map_eq_of_card_lt place (by simp)
  have hchain : g.chain id i = g.chain id j := by rw [hplace i, hplace j, heq]
  rcases Nat.lt_or_gt_of_ne (Fin.val_ne_of_ne hne) with hij | hji
  · exact ⟨i, j, hij, Nat.le_of_lt_succ j.isLt, hchain⟩
  · exact ⟨j, i, hji, Nat.le_of_lt_succ i.isLt, hchain.symm⟩

/-- Such a chain goes round and never ends. -/
theorem chain_isSome (h : (g.chain id (g.size + 1)).isSome) (n : Nat) :
    (g.chain id n).isSome := by
  obtain ⟨i, j, hij, hj, heq⟩ := exists_chain_eq h
  induction n using Nat.strongRecOn with
  | ind n ih =>
    by_cases hn : n ≤ g.size
    · exact chain_isSome_of_le (Nat.le_succ_of_le hn) h
    -- one round less leads to the same place
    · have hback := ih (i + (n - j)) (by omega)
      rw [chain_add, heq, ← chain_add] at hback
      rwa [show j + (n - j) = n by omega] at hback

/-- Following a chain gives up exactly if the chain never ends. -/
theorem follow_eq_closed_iff (g : SchemaGraph) (id : SchemaId) :
    g.follow id = .closed ↔ ∀ n, g.followFor n id = .closed := by
  simp only [followFor_eq_closed_iff, follow]
  exact ⟨fun h n => chain_isSome h n, fun h => h _⟩

/-! ## Ends -/

/-- Where every reference has a target, no chain breaks. -/
theorem followFor_ne_broken
    (h : ∀ id s r, g.get? id = some s → s.reference? = some r →
      ∃ target, r.state.target? = some target ∧ target < g.size)
    (hid : id < g.size) : g.followFor n id ≠ .broken := by
  induction n generalizing id with
  | zero => exact nofun
  | succ n ih =>
    obtain ⟨s, hs⟩ := lt_size_iff.mp hid
    cases hr : s.reference? with
    | none => simp [followFor, hs, hr]
    | some r =>
      obtain ⟨target, htarget, hlt⟩ := h id s r hs hr
      have hnext : g.next? id = some target := by simp [next?, hs, hr, htarget]
      rw [followFor_succ_of_some hnext]
      exact ih hlt

/-! ## What a chain comes to -/

/-- A schema is there, and is no reference. -/
def Concrete (g : SchemaGraph) (id : SchemaId) : Prop :=
  ∃ s, g.get? id = some s ∧ s.reference? = none

theorem next?_eq_none_of_concrete (h : g.Concrete id) : g.next? id = none := by
  obtain ⟨s, hs, hreference⟩ := h
  simp [next?, hs, hreference]

/-- The chain from a reference comes to a schema that is none behind its first schema. -/
theorem chain_eq_concrete_iff {end_ : SchemaId} {k : Nat} (h : g.next? id = some target)
    (hend : g.Concrete end_) :
    g.chain id k = some end_ ↔ ∃ j, k = j + 1 ∧ g.chain target j = some end_ := by
  cases k with
  | zero =>
    have hne : id ≠ end_ := by
      rintro rfl
      simp [next?_eq_none_of_concrete hend] at h
    simp [chain, hne]
  | succ k => simp [chain_succ_of_some h]

/-- A chain that does not go on reaches its only schema, unless that is a reference. -/
theorem followFor_succ_eq_reached_iff (h : g.next? id = none) :
    g.followFor (n + 1) id = .reached target ↔ id = target ∧ g.Concrete id := by
  unfold next? at h
  unfold followFor Concrete
  cases hs : g.get? id with
  | none => simp
  | some s =>
    cases hreference : s.reference? with
    | none => simp [hreference]
    | some r => simp_all

/-- What is reached is a schema on the chain that is no reference. -/
theorem followFor_eq_reached_iff :
    g.followFor n id = .reached target ↔
      ∃ k < n, g.chain id k = some target ∧ g.Concrete target := by
  induction n generalizing id with
  | zero => simp [followFor]
  | succ n ih =>
    cases hnext : g.next? id with
    | some second =>
      rw [followFor_succ_of_some hnext, ih]
      constructor
      · rintro ⟨k, hk, hchain, hend⟩
        exact ⟨k + 1, Nat.succ_lt_succ hk, (chain_eq_concrete_iff hnext hend).mpr ⟨k, rfl, hchain⟩,
          hend⟩
      · rintro ⟨k, hk, hchain, hend⟩
        obtain ⟨j, rfl, hrest⟩ := (chain_eq_concrete_iff hnext hend).mp hchain
        exact ⟨j, Nat.lt_of_succ_lt_succ hk, hrest, hend⟩
    | none =>
      rw [followFor_succ_eq_reached_iff hnext]
      constructor
      · rintro ⟨rfl, hend⟩
        exact ⟨0, Nat.succ_pos n, rfl, hend⟩
      · rintro ⟨k, -, hchain, hend⟩
        cases k with
        | zero =>
          have heq : id = target := Option.some.inj hchain
          exact ⟨heq, heq ▸ hend⟩
        | succ k => simp [chain_succ_of_none hnext] at hchain

theorem concrete_of_reached (h : g.followFor n id = .reached target) : g.Concrete target := by
  obtain ⟨k, -, -, hend⟩ := followFor_eq_reached_iff.mp h
  exact hend

/-- A chain is resolved to the schema that is no reference and that it comes to, however long it
is. -/
theorem resolve?_eq_some_iff :
    g.resolve? id = some target ↔ ∃ k, g.chain id k = some target ∧ g.Concrete target := by
  have hfollow : g.resolve? id = some target ↔ g.follow id = .reached target := by
    unfold resolve?
    cases g.follow id <;> simp
  rw [hfollow, follow, followFor_eq_reached_iff]
  constructor
  · rintro ⟨k, -, hchain⟩
    exact ⟨k, hchain⟩
  · rintro ⟨k, hchain, hend⟩
    refine ⟨k, Nat.lt_succ_of_le (Nat.le_of_not_lt fun hlong => ?_), hchain, hend⟩
    -- a chain that is longer than the graph never ends, but this one does
    have hlong : (g.chain id (g.size + 1)).isSome := chain_isSome_of_le hlong (hchain ▸ rfl)
    have hon := chain_isSome hlong (k + 1)
    simp [chain, hchain, next?_eq_none_of_concrete hend] at hon

theorem concrete_of_resolve? (h : g.resolve? id = some target) : g.Concrete target := by
  obtain ⟨k, -, hend⟩ := resolve?_eq_some_iff.mp h
  exact hend

theorem resolve?_of_concrete (h : g.Concrete id) : g.resolve? id = some id :=
  resolve?_eq_some_iff.mpr ⟨0, rfl, h⟩

/-- A reference is resolved to what its target is resolved to. -/
theorem resolve?_of_next? (h : g.next? id = some target) : g.resolve? id = g.resolve? target := by
  refine Option.ext fun end_ => ?_
  rw [resolve?_eq_some_iff, resolve?_eq_some_iff]
  constructor
  · rintro ⟨k, hchain, hend⟩
    obtain ⟨j, -, hrest⟩ := (chain_eq_concrete_iff h hend).mp hchain
    exact ⟨j, hrest, hend⟩
  · rintro ⟨k, hchain, hend⟩
    exact ⟨k + 1, (chain_eq_concrete_iff h hend).mpr ⟨k, rfl, hchain⟩, hend⟩

end ApiDescription.SchemaGraph
