import ApiDescription.Proofs.Schema.Chains

/-!
# The three ends of a chain

A chain of references may be followed as it goes, with a list of the schemas that were passed: it is
given up at the first schema that is met again.  One more schema is passed with each reference, so
there is always an end: `SchemaGraph.followPast`.  This comes to what `SchemaGraph.follow` comes to,
which only counts the schemas.

`SchemaGraph.follow_iff_chain` says for each of the three ends which chains come to it, in a graph
with any nodes: a reference may have no target, its target may be outside of the graph, and a chain
may lead into a round that it is not a part of.
-/

namespace ApiDescription.SchemaGraph

variable {g : SchemaGraph} {id target end_ : SchemaId} {seen : List SchemaId}

/-- A number is outside of the graph, or it is that of a reference without a target. -/
def Loose (g : SchemaGraph) (id : SchemaId) : Prop :=
  g.get? id = none ∨
    ∃ s r, g.get? id = some s ∧ s.reference? = some r ∧ r.state.target? = none

/-! ## With a list of what was passed -/

/-- How many schemas have not been passed. -/
def left (g : SchemaGraph) (seen : List SchemaId) : Nat :=
  ((List.range g.size).filter (· ∉ seen)).length

/-- Passing one more schema leaves fewer. -/
theorem left_cons_lt (hid : id < g.size) (hnew : id ∉ seen) :
    g.left (id :: seen) < g.left seen := by
  have hcons : (List.range g.size).filter (· ∉ id :: seen) =
      ((List.range g.size).filter (· ∉ seen)).filter (· ≠ id) := by
    rw [List.filter_filter]
    refine List.filter_congr fun other _ => ?_
    simp [not_or]
  have hmem : id ∈ (List.range g.size).filter (· ∉ seen) := by simp [hid, hnew]
  rw [left, left, hcons]
  exact List.length_filter_lt_length_iff_exists.mpr ⟨id, hmem, by simp⟩

/-- What a chain comes to that is given up where it meets a schema that was passed. -/
def followPast (g : SchemaGraph) (seen : List SchemaId) (id : SchemaId) : ChainEnd :=
  if hseen : id ∈ seen then .closed
  else
    match hs : g.get? id with
    | none => .broken
    | some s =>
      match s.reference? with
      | none => .reached id
      | some r =>
        match r.state.target? with
        | none => .broken
        | some target =>
          have := left_cons_lt (lt_size_iff.mpr ⟨s, hs⟩) hseen
          g.followPast (id :: seen) target
termination_by g.left seen

/-! ## Ends -/

/-- What a chain does not go on from. -/
theorem next?_eq_none_iff : g.next? id = none ↔ g.Concrete id ∨ g.Loose id := by
  unfold next? Concrete Loose
  cases hs : g.get? id with
  | none => simp
  | some s => cases hr : s.reference? <;> simp [hr]

theorem not_concrete_of_loose (h : g.Loose id) : ¬ g.Concrete id := by
  rintro ⟨s, hs, hreference⟩
  rcases h with hnone | ⟨t, r, ht, hr, -⟩
  · cases hs.symm.trans hnone
  · obtain rfl := Option.some.inj (hs.symm.trans ht)
    cases hreference.symm.trans hr

/-- A chain has one end. -/
theorem chain_end_unique {k j : Nat} {other : SchemaId} (hk : g.chain id k = some end_)
    (hend : g.next? end_ = none) (hj : g.chain id j = some other)
    (hother : g.next? other = none) : end_ = other := by
  have hle : ∀ {k j : Nat} {end_ : SchemaId}, g.chain id k = some end_ → g.next? end_ = none →
      (g.chain id j).isSome → j ≤ k := by
    intro k j end_ hk hend hj
    refine Nat.le_of_not_lt fun hlt => ?_
    have hon := chain_isSome_of_le (Nat.succ_le_of_lt hlt) hj
    simp [chain, hk, hend] at hon
  obtain rfl := Nat.le_antisymm (hle hj hother (hk ▸ rfl)) (hle hk hend (hj ▸ rfl))
  exact Option.some.inj (hk.symm.trans hj)

theorem exists_end (h : ¬ ∀ k, (g.chain id k).isSome) :
    ∃ k end_, g.chain id k = some end_ ∧ g.next? end_ = none := by
  have hlast : ∃ k, (g.chain id k).isSome ∧ ¬ (g.chain id (k + 1)).isSome := by
    refine Classical.byContradiction fun hgoes => h fun k => ?_
    induction k with
    | zero => rfl
    | succ k ih => exact Classical.not_not.mp fun hstop => hgoes ⟨k, ih, hstop⟩
  obtain ⟨k, hsome, hstop⟩ := hlast
  obtain ⟨end_, hend⟩ := Option.isSome_iff_exists.mp hsome
  exact ⟨k, end_, hend, by simpa [chain, hend] using hstop⟩

theorem follow_eq_closed_iff_chain : g.follow id = .closed ↔ ∀ k, (g.chain id k).isSome := by
  rw [follow_eq_closed_iff]
  exact forall_congr' fun k => followFor_eq_closed_iff g k id

theorem resolve?_eq_some_iff_follow : g.resolve? id = some end_ ↔ g.follow id = .reached end_ := by
  unfold resolve?
  cases g.follow id <;> simp

theorem follow_eq_reached_iff :
    g.follow id = .reached end_ ↔ ∃ k, g.chain id k = some end_ ∧ g.Concrete end_ :=
  resolve?_eq_some_iff_follow.symm.trans resolve?_eq_some_iff

theorem follow_eq_broken_iff :
    g.follow id = .broken ↔ ∃ k end_, g.chain id k = some end_ ∧ g.Loose end_ := by
  constructor
  · intro h
    have hends : ¬ ∀ k, (g.chain id k).isSome := fun hon =>
      ChainEnd.noConfusion (h.symm.trans (follow_eq_closed_iff_chain.mpr hon))
    obtain ⟨k, end_, hk, hend⟩ := exists_end hends
    refine ⟨k, end_, hk, (next?_eq_none_iff.mp hend).resolve_left fun hconcrete => ?_⟩
    cases h.symm.trans (follow_eq_reached_iff.mpr ⟨k, hk, hconcrete⟩)
  · rintro ⟨k, end_, hk, hloose⟩
    have hend := next?_eq_none_iff.mpr (.inr hloose)
    cases hfollow : g.follow id with
    | broken => rfl
    | closed =>
      have hon := follow_eq_closed_iff_chain.mp hfollow (k + 1)
      simp [chain, hk, hend] at hon
    | reached other =>
      obtain ⟨j, hj, hconcrete⟩ := follow_eq_reached_iff.mp hfollow
      obtain rfl := chain_end_unique hk hend hj (next?_eq_none_of_concrete hconcrete)
      exact absurd hconcrete (not_concrete_of_loose hloose)

/-! ## Both ways come to the same -/

/-- From a reference one comes to what one comes to from its target. -/
theorem follow_of_next? (h : g.next? id = some target) : g.follow id = g.follow target := by
  cases hfollow : g.follow target with
  | reached end_ =>
    obtain ⟨k, hk, hconcrete⟩ := follow_eq_reached_iff.mp hfollow
    exact follow_eq_reached_iff.mpr ⟨k + 1, (chain_succ_of_some h k).trans hk, hconcrete⟩
  | broken =>
    obtain ⟨k, end_, hk, hloose⟩ := follow_eq_broken_iff.mp hfollow
    exact follow_eq_broken_iff.mpr ⟨k + 1, end_, (chain_succ_of_some h k).trans hk, hloose⟩
  | closed =>
    refine follow_eq_closed_iff_chain.mpr fun k => ?_
    cases k with
    | zero => rfl
    | succ k => exact chain_succ_of_some h k ▸ follow_eq_closed_iff_chain.mp hfollow k

/-- A chain that leads back to its start never ends. -/
theorem follow_of_return {k : Nat} (h : g.chain id (k + 1) = some id) : g.follow id = .closed := by
  have hrounds : ∀ n, g.chain id (n * (k + 1)) = some id := by
    intro n
    induction n with
    | zero => rw [Nat.zero_mul, chain]
    | succ n ih => rw [Nat.succ_mul, chain_add, ih, Option.bind_some, h]
  refine follow_eq_closed_iff_chain.mpr fun n => ?_
  exact chain_isSome_of_le (Nat.le_mul_of_pos_right n (Nat.succ_pos k)) (hrounds n ▸ rfl)

/-- Where all schemas that were passed lead to the present one, the list of them makes no
difference. -/
theorem followPast_eq (hseen : ∀ passed ∈ seen, ∃ k, g.chain passed (k + 1) = some id) :
    g.followPast seen id = g.follow id := by
  fun_induction followPast g seen id with
  | case1 seen id hmem =>
    obtain ⟨k, hk⟩ := hseen id hmem
    exact (follow_of_return hk).symm
  | case2 seen id _ hs => exact (follow_eq_broken_iff.mpr ⟨0, id, rfl, .inl hs⟩).symm
  | case3 seen id _ s hs hreference =>
    exact (follow_eq_reached_iff.mpr ⟨0, rfl, s, hs, hreference⟩).symm
  | case4 seen id _ s hs r hreference htarget =>
    exact (follow_eq_broken_iff.mpr ⟨0, id, rfl, .inr ⟨s, r, hs, hreference, htarget⟩⟩).symm
  | case5 seen id _ s hs r hreference target htarget _ ih =>
    have hnext : g.next? id = some target := by simp [next?, hs, hreference, htarget]
    rw [follow_of_next? hnext]
    refine ih fun passed hpassed => ?_
    rcases List.mem_cons.mp hpassed with rfl | hpassed
    · exact ⟨0, hnext⟩
    · obtain ⟨k, hk⟩ := hseen passed hpassed
      exact ⟨k + 1, by rw [chain, hk, Option.bind_some, hnext]⟩

/-- To follow a chain with a list of what was passed ends, and comes to the same.  One comes to a
schema exactly if it is none of the references and the chain leads there, to no end exactly if the
chain goes on for ever, and to a break exactly if the chain leads to a reference without a target or
out of the graph.  What a schema is resolved to is resolved to itself. -/
theorem follow_iff_chain (g : SchemaGraph) (id : SchemaId) :
    g.follow id = g.followPast [] id ∧
      (∀ end_, g.follow id = .reached end_ ↔ ∃ k, g.chain id k = some end_ ∧ g.Concrete end_) ∧
      (g.follow id = .closed ↔ ∀ k, (g.chain id k).isSome) ∧
      (g.follow id = .broken ↔ ∃ k end_, g.chain id k = some end_ ∧ g.Loose end_) ∧
      (g.resolve? id).bind g.resolve? = g.resolve? id := by
  refine ⟨(followPast_eq (by simp)).symm, fun _ => follow_eq_reached_iff,
    follow_eq_closed_iff_chain, follow_eq_broken_iff, ?_⟩
  cases hresolve : g.resolve? id with
  | none => rfl
  | some end_ => exact resolve?_of_concrete (concrete_of_resolve? hresolve)

end ApiDescription.SchemaGraph
