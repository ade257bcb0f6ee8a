import ApiDescription.Proofs.Binding.Description
import Mathlib.Data.Set.Finite.Lemmas
import Mathlib.Order.Interval.Finset.Basic
import Mathlib.Order.Interval.Finset.Nat
import Mathlib.Order.WellFounded

/-!
# Endless walks

Someone who goes from schema to schema, to the parts of each and to the targets of references, and
who stops at the references that close cycles, would like to come to an end.

`Registry.endless_walk_iff` says when this fails: when a schema is put together from one that has a
smaller number and leads back to it.  A part has a smaller number than the whole if a reference
into the middle of a schema was met before the schema.  It is still open when the schema is read,
and a part, unlike a reference, is not marked when it closes a cycle.
-/

namespace ApiDescription

open Relation (ReflTransGen TransGen)

/-! ## Walks -/

section Walks

variable {follows forward back : Nat → Nat → Prop}

theorem reflTransGen_of_walk {walk : Nat → Nat} (hwalk : ∀ i, follows (walk i) (walk (i + 1)))
    {i j : Nat} (hij : i ≤ j) : ReflTransGen follows (walk i) (walk j) := by
  induction j, hij using Nat.le_induction with
  | base => exact .refl
  | succ j _ ih => exact ih.tail (hwalk j)

/-- A step that can be undone by others can be repeated forever. -/
theorem exists_walk_of_return {u v : Nat} (hstep : follows u v)
    (hreturn : ReflTransGen follows v u) :
    ∃ walk : Nat → Nat, ∀ i, follows (walk i) (walk (i + 1)) := by
  have hcycle : TransGen (Function.swap follows) u u :=
    Relation.transGen_swap.mpr (TransGen.head' hstep hreturn)
  have hacc : ¬ Acc (Function.swap follows) u := fun h =>
    h.transGen.rec (motive := fun x _ => TransGen (Function.swap follows) x x → False)
      (fun x _ ih hx => ih x hx hx) hcycle
  obtain ⟨walk, -, hwalk⟩ := not_acc_iff_exists_descending_chain.mp hacc
  exact ⟨walk, hwalk⟩

/-- Where finitely many places are walked, and the forward steps alone come to an end, a walk
without end returns to the start of one of its steps back. -/
theorem exists_return_of_walk {size : Nat} (hsize : ∀ u v, follows u v → u < size)
    (hstep : ∀ u v, follows u v → forward u v ∨ back u v)
    (hforward : ∀ u < size, Acc (fun v u => forward u v) u) {walk : Nat → Nat}
    (hwalk : ∀ i, follows (walk i) (walk (i + 1))) :
    ∃ u v, follows u v ∧ back u v ∧ ReflTransGen follows v u := by
  have hbound : ∀ i, walk i < size := fun i => hsize _ _ (hwalk i)
  have hinfinite : {i | back (walk i) (walk (i + 1))}.Infinite := by
    refine Set.infinite_of_forall_exists_gt fun start => ?_
    by_contra hnone
    -- from there on there are only forward steps
    refine not_acc_iff_exists_descending_chain.mpr
      ⟨fun i => walk (start + 1 + i), rfl, fun i => ?_⟩ (hforward _ (hbound (start + 1)))
    refine (hstep _ _ (hwalk _)).resolve_right fun hback => hnone ⟨_, hback, ?_⟩
    omega
  have hmaps : Set.MapsTo walk {i | back (walk i) (walk (i + 1))} (Set.Iio size) :=
    fun i _ => hbound i
  obtain ⟨i, hi, j, -, hij, heq⟩ :=
    hinfinite.exists_lt_map_eq_of_mapsTo hmaps (Set.finite_Iio size)
  exact ⟨walk i, walk (i + 1), hwalk i, hi, heq ▸ reflTransGen_of_walk hwalk hij⟩

end Walks

/-! ## Numbers -/

namespace Workspace

variable {w : Workspace} {id : SchemaId}

/-- A step to a part with a greater number, or to the target of a reference that closes no
cycle. -/
def Forward (w : Workspace) (u v : SchemaId) : Prop :=
  w.graph.Holds u v ∧ u < v ∨ w.graph.Refers u v

theorem Grounded.acc (h : w.Grounded id) : Acc (fun v u => w.Forward u v) id := by
  induction h with
  | intro hs _ _ _ ihchildren ihtargets =>
    refine .intro _ fun v hv => ?_
    rcases hv with ⟨⟨s', hs', hchild⟩, hlt⟩ | ⟨s', hs', r, hr, hstate⟩
    · obtain rfl := Option.some.inj (hs.symm.trans hs')
      exact ihchildren v hchild hlt
    · obtain rfl := Option.some.inj (hs.symm.trans hs')
      exact ihtargets r hr v hstate

end Workspace

theorem SchemaGraph.lt_size_of_holds {g : SchemaGraph} {u v : SchemaId} (h : g.Holds u v) :
    u < g.size := by
  obtain ⟨s, hs, -⟩ := h
  exact lt_size_iff.mpr ⟨s, hs⟩

theorem SchemaGraph.lt_size_of_refers {g : SchemaGraph} {u v : SchemaId} (h : g.Refers u v) :
    u < g.size := by
  obtain ⟨s, hs, -⟩ := h
  exact lt_size_iff.mpr ⟨s, hs⟩

/-- Whichever parts and unmarked references are followed in the schemas of a description: one can
walk forever exactly if some schema is put together from one that has a smaller number and leads
back to it. -/
theorem Registry.endless_walk_iff {r : Registry} {entry : String} {options : Options}
    {version : Version} {declared : String} {d : Description} {report : Report}
    (h : r.bind entry options version declared = .ok (d, report))
    (follows : SchemaId → SchemaId → Prop)
    (hfollows : ∀ u v, follows u v → d.schemas.Holds u v ∨ d.schemas.Refers u v) :
    (∃ walk : Nat → SchemaId, ∀ i, follows (walk i) (walk (i + 1))) ↔
      ∃ u v, follows u v ∧ d.schemas.Holds u v ∧ v < u ∧ ReflTransGen follows v u := by
  obtain ⟨w, hrun, -⟩ := Registry.exists_run_of_bind h
  obtain ⟨place, -, hw, hgraph⟩ := Registry.complete_of_run hrun
  rw [hgraph] at hfollows ⊢
  constructor
  · rintro ⟨walk, hwalk⟩
    have hsize : ∀ u v, follows u v → u < w.graph.size := fun u v huv =>
      (hfollows u v huv).elim SchemaGraph.lt_size_of_holds SchemaGraph.lt_size_of_refers
    -- a step to a part is forward or back, for no schema is part of itself
    have hstep : ∀ u v, follows u v → w.Forward u v ∨ w.graph.Holds u v ∧ v < u := by
      intro u v huv
      rcases hfollows u v huv with hholds | hrefers
      · rcases Nat.lt_trichotomy u v with hlt | rfl | hgt
        · exact .inl (.inl ⟨hholds, hlt⟩)
        · obtain ⟨s, hs, hchild⟩ := hholds
          exact absurd hchild ((hw.sound.account u s hs (hw.not_open u)).not_mem_children
            hw.sound hs)
        · exact .inr ⟨hholds, hgt⟩
      · exact .inl (.inr hrefers)
    obtain ⟨u, v, huv, ⟨hholds, hlt⟩, hreturn⟩ := exists_return_of_walk hsize hstep
      (fun u hu => (hw.sound.grounded u hu (hw.not_open u)).acc) hwalk
    exact ⟨u, v, huv, hholds, hlt, hreturn⟩
  · rintro ⟨u, v, huv, -, -, hreturn⟩
    exact exists_walk_of_return huv hreturn

/-- In `partFirst` a property is numbered before the schema that it refers back to, and one can walk
between the two forever. -/
theorem Registry.endless_walk_partFirst :
    ∃ d report,
      (Registry.single partFirst).bind "http://example.invalid/" .standard .v31 "3.1.0" =
        .ok (d, report) ∧
      ∃ walk : Nat → SchemaId, ∀ i, d.schemas.Holds (walk i) (walk (i + 1)) ∨
        d.schemas.Refers (walk i) (walk (i + 1)) := by
  obtain ⟨d, report, h, hrefers, hholds⟩ := exists_bind_partFirst
  exact ⟨d, report, h, (endless_walk_iff h _ fun _ _ huv => huv).mpr
    ⟨2, 1, .inl hholds, hholds, by decide, .single (.inr hrefers)⟩⟩

end ApiDescription
