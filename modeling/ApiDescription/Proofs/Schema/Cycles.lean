import ApiDescription.Proofs.Binding.Reached
import ApiDescription.Proofs.Checks
import ApiDescription.Proofs.Schema.Accepted
import ApiDescription.Proofs.Schema.Walks

/-!
# Closed chains of references

A closed chain of references is found once, at one of its schemas, and nothing else is found to be
one: `Registry.closedChains_of_bind`.

The checks look only at references that close a cycle.  Not all references of a closed chain are
resolved, since from schema to schema these lead to what was finished before.  And if one of them
closes a cycle, the chain leads back to it by references that are resolved, since that is how it is
reached from its target; so there is no other one.
-/

namespace ApiDescription

open Relation (ReflTransGen)

/-! ## Closed chains -/

namespace SchemaGraph

variable {g : SchemaGraph} {id other target : SchemaId} {ids : List SchemaId} {period : Nat}

/-- Pairwise different schemas of which each is a reference to the next one, and the last one to the
first. -/
structure ClosedChain (g : SchemaGraph) (ids : List SchemaId) : Prop where
  /-- There is at least one. -/
  ne_nil : ids ≠ []
  /-- They are pairwise different. -/
  nodup : ids.Nodup
  /-- Each refers to the next one. -/
  next : ∀ i, ∀ id ∈ ids[i]?, g.next? id = ids[(i + 1) % ids.length]?

namespace ClosedChain

theorem length_pos (h : g.ClosedChain ids) : 0 < ids.length := List.length_pos_of_ne_nil h.ne_nil

/-- Going on along the chain, one goes round. -/
theorem chain_eq (h : g.ClosedChain ids) {i : Nat} (hi : ids[i]? = some id) (k : Nat) :
    g.chain id k = ids[(i + k) % ids.length]? := by
  induction k with
  | zero =>
    obtain ⟨hlt, -⟩ := List.getElem?_eq_some_iff.mp hi
    rw [chain, Nat.add_zero, Nat.mod_eq_of_lt hlt, hi]
  | succ k ih =>
    have hplace := List.getElem?_eq_getElem (Nat.mod_lt (i + k) h.length_pos)
    rw [chain, ih, hplace, Option.bind_some, h.next _ _ hplace, Nat.mod_add_mod, Nat.add_assoc]

/-- From each of its schemas on, the chain never ends. -/
theorem follow_eq_closed (h : g.ClosedChain ids) (hid : id ∈ ids) : g.follow id = .closed := by
  obtain ⟨i, hi⟩ := List.mem_iff_getElem?.mp hid
  refine (g.followFor_eq_closed_iff _ id).mpr ?_
  rw [h.chain_eq hi, List.getElem?_eq_getElem (Nat.mod_lt _ h.length_pos)]
  rfl

/-- Each of its schemas is a reference to one of them. -/
theorem exists_next? (h : g.ClosedChain ids) (hid : id ∈ ids) :
    ∃ target, g.next? id = some target ∧ target ∈ ids := by
  obtain ⟨i, hi⟩ := List.mem_iff_getElem?.mp hid
  have hplace := List.getElem?_eq_getElem (Nat.mod_lt (i + 1) h.length_pos)
  exact ⟨_, (h.next i id hi).trans hplace, List.getElem_mem _⟩

/-- From each of its schemas the chain leads to all of them. -/
theorem exists_chain (h : g.ClosedChain ids) (hid : id ∈ ids) (hother : other ∈ ids) :
    ∃ k, g.chain id k = some other := by
  obtain ⟨i, hi⟩ := List.mem_iff_getElem?.mp hid
  obtain ⟨j, hj⟩ := List.mem_iff_getElem?.mp hother
  obtain ⟨hilt, -⟩ := List.getElem?_eq_some_iff.mp hi
  obtain ⟨hjlt, -⟩ := List.getElem?_eq_some_iff.mp hj
  refine ⟨ids.length - i + j, ?_⟩
  rw [h.chain_eq hi, show i + (ids.length - i + j) = ids.length + j by omega, Nat.add_mod_left,
    Nat.mod_eq_of_lt hjlt, hj]

end ClosedChain

/-- A round changes nothing. -/
theorem chain_mod (h : g.chain id period = some id) (k : Nat) :
    g.chain id (k % period) = g.chain id k := by
  induction k using Nat.strongRecOn with
  | ind k ih =>
    rcases Nat.lt_or_ge k period with hlt | hge
    · rw [Nat.mod_eq_of_lt hlt]
    · rcases Nat.eq_zero_or_pos period with rfl | hpos
      · rw [Nat.mod_zero]
      · rw [Nat.mod_eq_sub_mod hge, ih (k - period) (by omega)]
        conv_rhs => rw [show k = period + (k - period) by omega, chain_add, h, Option.bind_some]

/-- A chain that leads back to its start goes round, and what it passes in one round is a closed
chain. -/
theorem exists_closedChain (hpos : 0 < period) (h : g.chain id period = some id) :
    ∃ ids, g.ClosedChain ids ∧ id ∈ ids := by
  -- the first time that it leads back there
  have hreturns : ∃ n, 0 < n ∧ g.chain id n = some id := ⟨period, hpos, h⟩
  obtain ⟨hfirst, hreturn⟩ := Nat.find_spec hreturns
  have hminimal := fun n hlt => Nat.find_min (m := n) hreturns hlt
  generalize Nat.find hreturns = round at hfirst hreturn hminimal
  have hsome : ∀ i : Fin round, (g.chain id i).isSome := fun i =>
    chain_isSome_of_le i.isLt.le (hreturn ▸ rfl)
  have hget : ∀ i (hi : i < round), (List.ofFn fun i => (g.chain id i).get (hsome i))[i]? =
      g.chain id i := by
    intro i hi
    rw [List.getElem?_ofFn, dif_pos hi, Option.some_get]
  refine ⟨List.ofFn fun i => (g.chain id i).get (hsome i), ⟨?_, ?_, ?_⟩, ?_⟩
  · rw [Ne, List.ofFn_eq_nil_iff]
    omega
  · -- if it passed one schema twice it would have led back before
    have hlt : ∀ i j : Fin round, i < j → g.chain id i ≠ g.chain id j := by
      intro i j hij heq
      refine hminimal (i + (round - j)) (by omega) ⟨by omega, ?_⟩
      rw [chain_add, heq, ← chain_add, show (j : Nat) + (round - j) = round by omega, hreturn]
    refine List.nodup_ofFn.mpr fun i j heq => ?_
    have hchain := Option.get_inj.mp heq
    rcases lt_trichotomy i j with hij | rfl | hji
    · exact absurd hchain (hlt i j hij)
    · rfl
    · exact absurd hchain.symm (hlt j i hji)
  · intro i v hv
    rw [List.length_ofFn]
    have hi : i < round := by
      have := (List.getElem?_eq_some_iff.mp hv).1
      rwa [List.length_ofFn] at this
    rw [hget i hi] at hv
    rw [hget _ (Nat.mod_lt _ hfirst), chain_mod hreturn, chain, hv, Option.bind_some]
  · exact List.mem_of_getElem? ((hget 0 hfirst).trans rfl)

/-! ## Marked references -/

/-- A schema is a reference that closes a cycle. -/
def Marked (g : SchemaGraph) (id : SchemaId) : Prop :=
  ∃ s r target, g.get? id = some s ∧ s.shape = .reference r ∧ r.state = .cyclic target

/-- A reference with a target is marked, or leads to its target by an edge. -/
theorem marked_or_refers (h : g.next? id = some target) : g.Marked id ∨ g.Refers id target := by
  obtain ⟨r, hr, htarget⟩ := Option.bind_eq_some_iff.mp h
  obtain ⟨s, hs, hreference⟩ := Option.bind_eq_some_iff.mp hr
  have hshape := Schema.shape_of_reference? hreference
  cases hstate : r.state with
  | unresolved | resolving => simp [hstate, ReferenceState.target?] at htarget
  | cyclic other => exact .inl ⟨s, r, other, hs, hshape, hstate⟩
  | resolved other =>
    obtain rfl : other = target := by simpa [hstate, ReferenceState.target?] using htarget
    refine .inr ⟨s, hs, r, ?_, hstate⟩
    rw [hshape]
    exact List.mem_singleton_self r

/-- Not both. -/
theorem Marked.not_refers (h : g.Marked id) : ¬ g.Refers id target := by
  obtain ⟨s, r, other, hs, hshape, hstate⟩ := h
  rintro ⟨s', hs', r', hr', hstate'⟩
  obtain rfl := Option.some.inj (hs.symm.trans hs')
  obtain rfl : r' = r := by rwa [hshape, Shape.references_reference, List.mem_singleton] at hr'
  exact ReferenceState.noConfusion (hstate.symm.trans hstate')

/-! ## What is found -/

/-- The reference that a schema is, if it closes a cycle and its chain never ends. -/
def closing? (g : SchemaGraph) (id : SchemaId) (s : Schema) : Option Reference :=
  match s.shape with
  | .reference ⟨text, .cyclic target⟩ =>
    if g.follow id = .closed then some ⟨text, .cyclic target⟩ else none
  | _ => none

/-- The references that close cycles and whose chains never end, in the order of the schemas. -/
def closings (g : SchemaGraph) : List (SchemaId × Schema × Reference) :=
  g.numbered.filterMap fun (id, s) => (g.closing? id s).map fun r => (id, s, r)

theorem closing?_eq_some_iff {s : Schema} {r : Reference} :
    g.closing? id s = some r ↔
      s.shape = .reference r ∧ (∃ target, r.state = .cyclic target) ∧ g.follow id = .closed := by
  unfold closing?
  split
  · next text target hshape =>
    rw [hshape]
    split
    · next hclosed =>
      constructor
      · intro h
        obtain rfl := Option.some.inj h
        exact ⟨rfl, ⟨target, rfl⟩, hclosed⟩
      · rintro ⟨h, -, -⟩
        rw [Shape.reference.inj h]
    · next hopen => simp [hopen]
  · next hother =>
    refine ⟨nofun, ?_⟩
    rintro ⟨hshape, ⟨target, hstate⟩, -⟩
    obtain ⟨text, state⟩ := r
    obtain rfl : state = .cyclic target := hstate
    exact absurd hshape (hother text target)

theorem mem_closings {s : Schema} {r : Reference} :
    (id, s, r) ∈ g.closings ↔ g.get? id = some s ∧ g.closing? id s = some r := by
  simp only [closings, List.mem_filterMap, Option.map_eq_some_iff, Prod.exists, Prod.mk.injEq]
  constructor
  · rintro ⟨_, _, hmem, _, hclosing, rfl, rfl, rfl⟩
    exact ⟨get?_of_mem_numbered hmem, hclosing⟩
  · rintro ⟨hs, hclosing⟩
    exact ⟨id, s, mem_numbered hs, r, hclosing, rfl, rfl, rfl⟩

/-- No schema is there twice. -/
theorem pairwise_closings (g : SchemaGraph) :
    (g.closings.map (·.1)).Pairwise (· < ·) := by
  have hnumbered : g.numbered.Pairwise fun a b => a.1 < b.1 := by
    refine List.pairwise_map.mpr (List.pairwise_iff_getElem.mpr fun i j hi hj hij => ?_)
    simpa using hij
  refine List.pairwise_map.mpr (hnumbered.filterMap _ fun a b hab x hx y hy => ?_)
  obtain ⟨_, -, rfl⟩ := Option.map_eq_some_iff.mp hx
  obtain ⟨_, -, rfl⟩ := Option.map_eq_some_iff.mp hy
  exact hab

end SchemaGraph

namespace Validation

/-- Checking a schema finds a closed chain only where the schema is a reference that closes a cycle
and has a chain without end. -/
theorem filter_schema (g : SchemaGraph) (id : SchemaId) (s : Schema) :
    (schema g id s).filter (·.category = .cyclicReference) =
      ((g.closing? id s).map fun r =>
        (Finding.referenceCloses r.text).diagnostic s.document s.location).toList := by
  unfold schema SchemaGraph.closing?
  cases s.shape with
  | reference r =>
    obtain ⟨text, state⟩ := r
    cases state with
    | cyclic target =>
      dsimp only [reference]
      split
      · rfl
      · rfl
    | _ => rfl
  | object o =>
    refine List.filter_eq_nil_iff.mpr fun D hD => ?_
    rcases List.mem_append.mp hD with hdiscriminator | hrequired
    · obtain ⟨property, -, rfl⟩ := List.mem_map.mp hdiscriminator
      exact of_decide_eq_true rfl
    · split at hrequired
      · obtain ⟨property, -, rfl⟩ := List.mem_map.mp hrequired
        exact of_decide_eq_true rfl
      · simp at hrequired
  | composed c =>
    refine List.filter_eq_nil_iff.mpr fun D hD => ?_
    obtain ⟨-, f, hf, rfl⟩ := exists_of_mem_composedShape hD
    simp [Finding.diagnostic, hf]
  | _ => rfl

theorem filter_schemas (d : Description) :
    (schemas d).filter (·.category = .cyclicReference) = d.schemas.closings.map fun (_, s, r) =>
      (Finding.referenceCloses r.text).diagnostic s.document s.location := by
  unfold schemas SchemaGraph.closings
  rw [List.filter_flatMap, List.map_filterMap, List.filterMap_eq_flatMap_toList]
  refine List.flatMap_congr fun entry _ => ?_
  rw [filter_schema, Option.map_map]
  rfl

end Validation

/-! ## Closed chains of a description -/

namespace Workspace

variable {S : Setting} {w : Workspace} {id other target : SchemaId} {ids : List SchemaId}

/-- What a reference with a target leads to is its target, and the reference is not marked. -/
theorem Calls.refers (h : w.Calls S id other) (hnext : w.graph.next? id = some target) :
    w.graph.Refers id other ∧ other = target := by
  obtain ⟨r, hr, htarget⟩ := Option.bind_eq_some_iff.mp hnext
  obtain ⟨s, hs, hreference⟩ := Option.bind_eq_some_iff.mp hr
  have hshape := Schema.shape_of_reference? hreference
  cases h with
  -- a reference has no parts
  | child _ hholds =>
    obtain ⟨s', hs', hchild⟩ := hholds
    obtain rfl := Option.some.inj (hs.symm.trans hs')
    simp [hshape] at hchild
  | target _ hrefers =>
    refine ⟨hrefers, ?_⟩
    obtain ⟨s', hs', r', hr', hstate⟩ := hrefers
    obtain rfl := Option.some.inj (hs.symm.trans hs')
    obtain rfl : r' = r := by rwa [hshape, Shape.references_reference, List.mem_singleton] at hr'
    rw [hstate] at htarget
    exact Option.some.inj htarget
  -- nor a discriminator
  | dropped _ _ hs' hdrops =>
    obtain rfl := Option.some.inj (hs.symm.trans hs')
    rcases hdrops.misplaced with ⟨_, ha⟩ | ⟨_, hc⟩
    · rw [hshape] at ha
      cases ha
    · rw [hshape] at hc
      cases hc

/-- Where a chain never ends, all that is reached from its start is on it, and what it passes on the
way is not marked. -/
theorem Reaches.chain (h : w.Reaches S target id) (hendless : ∀ n, (w.graph.chain target n).isSome) :
    ∃ k, w.graph.chain target k = some id ∧
      ∀ i < k, ∀ u, w.graph.chain target i = some u → ¬ w.graph.Marked u := by
  induction h using ReflTransGen.head_induction_on with
  | refl => exact ⟨0, rfl, nofun⟩
  | @head start second hcalls _ ih =>
    obtain ⟨next, hnext⟩ := Option.isSome_iff_exists.mp (hendless 1)
    replace hnext : w.graph.next? start = some next := hnext
    obtain ⟨hrefers, rfl⟩ := hcalls.refers hnext
    have hstep : ∀ i, w.graph.chain start (1 + i) = w.graph.chain second i := by
      intro i
      rw [SchemaGraph.chain_add]
      exact congrArg (Option.bind · _) hnext
    obtain ⟨k, hk, hbefore⟩ := ih fun n => hstep n ▸ hendless (1 + n)
    refine ⟨1 + k, (hstep k).trans hk, fun i hi u hu hmarked => ?_⟩
    rcases Nat.eq_zero_or_pos i with rfl | hpos
    · obtain rfl := Option.some.inj hu
      exact hmarked.not_refers hrefers
    · obtain ⟨i, rfl⟩ := Nat.exists_eq_add_of_le hpos
      exact hbefore i (by omega) u ((hstep i).symm.trans hu) hmarked

/-- The target of every reference that closes a cycle leads back to the reference. -/
def Returns (S : Setting) (w : Workspace) : Prop :=
  ∀ id s, w.graph.get? id = some s → ∀ r ∈ s.shape.references, ∀ target,
    r.state = .cyclic target → w.Reaches S target id

/-- A marked reference whose chain never ends is on its own chain, and on the way back to it there
is no other one. -/
theorem Returns.exists_period (h : w.Returns S) (hmarked : w.graph.Marked id)
    (hclosed : w.graph.follow id = .closed) :
    ∃ period, 0 < period ∧ w.graph.chain id period = some id ∧
      ∀ i, 0 < i → i < period → ∀ u, w.graph.chain id i = some u → ¬ w.graph.Marked u := by
  obtain ⟨s, r, target, hs, hshape, hstate⟩ := hmarked
  have hreference : r ∈ s.shape.references := hshape ▸ List.mem_singleton_self r
  have hnext : w.graph.next? id = some target := by
    simp [SchemaGraph.next?, hs, Schema.reference?, hshape, hstate, ReferenceState.target?]
  have hstep : ∀ i, w.graph.chain id (1 + i) = w.graph.chain target i := by
    intro i
    rw [SchemaGraph.chain_add]
    exact congrArg (Option.bind · _) hnext
  have hendless : ∀ n, (w.graph.chain target n).isSome := by
    intro n
    rw [← hstep, ← SchemaGraph.followFor_eq_closed_iff]
    exact (w.graph.follow_eq_closed_iff id).mp hclosed _
  obtain ⟨k, hk, hbefore⟩ := (h id s hs r hreference target hstate).chain hendless
  refine ⟨1 + k, by omega, (hstep k).trans hk, fun i hpos hi u hu => ?_⟩
  obtain ⟨i, rfl⟩ := Nat.exists_eq_add_of_le hpos
  exact hbefore i (by omega) u ((hstep i).symm.trans hu)

/-- There are not two marked references on a closed chain. -/
theorem Returns.eq_of_mem (h : w.Returns S) (hchain : w.graph.ClosedChain ids)
    (hid : id ∈ ids) (hmarked : w.graph.Marked id) (hother : other ∈ ids)
    (hmarked' : w.graph.Marked other) : other = id := by
  obtain ⟨period, hpos, hreturn, hbetween⟩ := h.exists_period hmarked (hchain.follow_eq_closed hid)
  obtain ⟨k, hk⟩ := hchain.exists_chain hid hother
  rw [← SchemaGraph.chain_mod hreturn] at hk
  rcases Nat.eq_zero_or_pos (k % period) with hzero | hbefore
  · rw [hzero] at hk
    exact (Option.some.inj hk).symm
  · exact absurd hmarked' (hbetween _ hbefore (Nat.mod_lt k hpos) other hk)

/-- There is one, for references that are resolved come to an end. -/
theorem Complete.exists_marked (h : w.Complete S) (hchain : w.graph.ClosedChain ids) :
    ∃ id ∈ ids, w.graph.Marked id := by
  by_contra hnone
  obtain ⟨first, hfirst⟩ := List.exists_mem_of_ne_nil _ hchain.ne_nil
  obtain ⟨target, hnext, -⟩ := hchain.exists_next? hfirst
  have hgrounded := h.sound.grounded first (SchemaGraph.lt_size_of_next? hnext) (h.not_open first)
  refine hgrounded.acc.rec (motive := fun u _ => u ∈ ids → False) (fun u _ ih hu => ?_) hfirst
  obtain ⟨v, huv, hv⟩ := hchain.exists_next? hu
  rcases SchemaGraph.marked_or_refers huv with hmarked | hrefers
  · exact hnone ⟨u, hu, hmarked⟩
  · exact ih v (.inr hrefers) hv

end Workspace

/-- A diagnostic says that the chain from a schema, which is a reference, leads back into itself. -/
def Description.ClosesAt (d : Description) (id : SchemaId) (D : Diagnostic) : Prop :=
  ∃ s r, d.schemas.get? id = some s ∧ s.shape = .reference r ∧
    D = (Finding.referenceCloses r.text).diagnostic s.document s.location

/-- Whatever is bound: what the checks of the schemas find of this category are closed chains of
references.  Each finding is located at one of the references of a closed chain, no two at the same
reference, and each closed chain has exactly one reference at which it is found. -/
theorem Registry.closedChains_of_bind {r : Registry} {entry : String} {options : Options}
    {version : Version} {declared : String} {d : Description} {report : Report}
    (h : r.bind entry options version declared = .ok (d, report)) :
    ∃ ids : List SchemaId, ids.Pairwise (· < ·) ∧
      List.Forall₂ d.ClosesAt ids
        ((Validation.schemas d).filter (·.category = .cyclicReference)) ∧
      (∀ id ∈ ids, ∃ chain, d.schemas.ClosedChain chain ∧ id ∈ chain) ∧
      ∀ chain, d.schemas.ClosedChain chain → ∃! id, id ∈ ids ∧ id ∈ chain := by
  obtain ⟨w, hrun, rfl⟩ := exists_run_of_bind h
  obtain ⟨place, source, -, hsource, hrun⟩ := exists_source_of_run hrun
  obtain ⟨hw, hgraph, -⟩ := RegisteredDocument.complete_of_run hsource hrun
  have hreturns : w.Returns ⟨r, place, options, version⟩ := fun _ _ hs _ hr _ hstate =>
    RegisteredDocument.reaches_of_cyclic hsource hrun hs hr hstate
  rw [hgraph]
  have hmem : ∀ {id}, id ∈ w.graph.closings.map (·.1) ↔
      w.graph.Marked id ∧ w.graph.follow id = .closed := by
    intro id
    simp only [List.mem_map, Prod.exists, SchemaGraph.mem_closings,
      SchemaGraph.closing?_eq_some_iff]
    constructor
    · rintro ⟨_, s, r, ⟨hs, hshape, ⟨target, hstate⟩, hclosed⟩, rfl⟩
      exact ⟨⟨s, r, target, hs, hshape, hstate⟩, hclosed⟩
    · rintro ⟨⟨s, r, target, hs, hshape, hstate⟩, hclosed⟩
      exact ⟨id, s, r, ⟨hs, hshape, ⟨target, hstate⟩, hclosed⟩, rfl⟩
  refine ⟨w.graph.closings.map (·.1), w.graph.pairwise_closings, ?_, fun id hid => ?_,
    fun chain hchain => ?_⟩
  · rw [Validation.filter_schemas, hgraph, List.forall₂_map_left_iff, List.forall₂_map_right_iff]
    refine List.forall₂_same.mpr fun ⟨id, s, r⟩ hclosing => ?_
    obtain ⟨hs, hsome⟩ := SchemaGraph.mem_closings.mp hclosing
    exact ⟨s, r, hgraph ▸ hs, (SchemaGraph.closing?_eq_some_iff.mp hsome).1, rfl⟩
  · obtain ⟨hmarked, hclosed⟩ := hmem.mp hid
    obtain ⟨period, hpos, hreturn, -⟩ := hreturns.exists_period hmarked hclosed
    exact SchemaGraph.exists_closedChain hpos hreturn
  · obtain ⟨id, hid, hmarked⟩ := hw.exists_marked hchain
    refine ⟨id, ⟨hmem.mpr ⟨hmarked, hchain.follow_eq_closed hid⟩, hid⟩, fun other hother => ?_⟩
    exact hreturns.eq_of_mem hchain hid hmarked hother.2 (hmem.mp hother.1).1

/-! ## References without a schema -/

/-- A description with two references that lead to each other, one that leads to itself, one that
leads to these from outside, and a schema that is put together from a reference to itself. -/
def roundabout : Json :=
  .object [("openapi", .string "3.1.0"), ("components", .object [("schemas", .object [
    ("In", .referenceTo "#/components/schemas/A"),
    ("A", .referenceTo "#/components/schemas/B"),
    ("B", .referenceTo "#/components/schemas/A"),
    ("Self", .referenceTo "#/components/schemas/Self"),
    ("Tree", .object [("not", .referenceTo "#/components/schemas/Tree")])])])]

/-- In `roundabout` two closed chains are found. -/
theorem Registry.closedChains_roundabout :
    ∃ d report, (single roundabout).bind "http://example.invalid/" .standard .v31 "3.1.0" =
        .ok (d, report) ∧
      ((Validation.schemas d).filter (·.category = .cyclicReference)).length = 2 ∧
      ∃ ids : List SchemaId, ids.Pairwise (· < ·) ∧
        List.Forall₂ d.ClosesAt ids
          ((Validation.schemas d).filter (·.category = .cyclicReference)) ∧
        (∀ id ∈ ids, ∃ chain, d.schemas.ClosedChain chain ∧ id ∈ chain) ∧
        ∀ chain, d.schemas.ClosedChain chain → ∃! id, id ∈ ids ∧ id ∈ chain := by
  have hleft : ((single roundabout).bind "http://example.invalid/" .standard .v31
      "3.1.0").toOption.map (fun left =>
        ((Validation.schemas left.1).filter (·.category = .cyclicReference)).length) =
      some 2 := by decide +kernel
  cases hbind : (single roundabout).bind "http://example.invalid/" .standard .v31 "3.1.0" with
  | error fault => simp [hbind, Except.toOption] at hleft
  | ok left =>
    rw [hbind] at hleft
    exact ⟨left.1, left.2, rfl, Option.some.inj hleft, closedChains_of_bind hbind⟩

end ApiDescription
