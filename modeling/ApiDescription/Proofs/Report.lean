import Mathlib.Data.List.Basic
import ApiDescription.Validation

/-!
# Reports and what is added to them

The checks of a description go through it without looking at the report they add to; what they find is
put to the report afterwards, one diagnostic after the other, and one that is there by then is left out.
So a report is never changed but at its end, what is added are the findings that it does not have, each
at the place where it was found first, and doing the same again adds nothing:
`Description.validate_adds`.
-/

namespace ApiDescription

namespace Report

/-- The diagnostics of a list that are not among given ones, each once. -/
def missingFrom (known : List Diagnostic) : List Diagnostic → List Diagnostic
  | [] => []
  | D :: rest => if D ∈ known then missingFrom known rest else D :: missingFrom (known ++ [D]) rest

section MissingFrom

variable {known found : List Diagnostic} {D : Diagnostic}

theorem mem_missingFrom_iff : D ∈ missingFrom known found ↔ D ∈ found ∧ D ∉ known := by
  induction found generalizing known with
  | nil => simp [missingFrom]
  | cons first rest ih =>
    unfold missingFrom
    split
    · next hknown =>
      rw [ih, List.mem_cons]
      constructor
      · rintro ⟨hmem, hnew⟩
        exact ⟨.inr hmem, hnew⟩
      · rintro ⟨rfl | hmem, hnew⟩
        · exact absurd hknown hnew
        · exact ⟨hmem, hnew⟩
    · next hnew =>
      rw [List.mem_cons, ih, List.mem_cons, List.mem_append, List.mem_singleton]
      constructor
      · rintro (rfl | ⟨hmem, hother⟩)
        · exact ⟨.inl rfl, hnew⟩
        · exact ⟨.inr hmem, fun hknown => hother (.inl hknown)⟩
      · rintro ⟨rfl | hmem, hother⟩
        · exact .inl rfl
        · by_cases heq : D = first
          · exact .inl heq
          · exact .inr ⟨hmem, not_or.mpr ⟨hother, heq⟩⟩

/-- What is left of a list stands in the order of its first places. -/
theorem pairwise_missingFrom (known found : List Diagnostic) :
    (missingFrom known found).Pairwise (found.idxOf · < found.idxOf ·) := by
  induction found generalizing known with
  | nil => exact .nil
  | cons first rest ih =>
    -- behind the first of the list, places are counted one further
    have hbehind : ∀ {known}, first ∈ known →
        (missingFrom known rest).Pairwise ((first :: rest).idxOf · < (first :: rest).idxOf ·) := by
      intro known hfirst
      refine (ih _).imp_of_mem fun {D D'} hD hD' hlt => ?_
      have hne : ∀ {E}, E ∈ missingFrom known rest → first ≠ E := fun hE heq =>
        (mem_missingFrom_iff.mp hE).2 (heq ▸ hfirst)
      rw [List.idxOf_cons_ne _ (hne hD), List.idxOf_cons_ne _ (hne hD')]
      exact Nat.succ_lt_succ hlt
    unfold missingFrom
    split
    · next hknown => exact hbehind hknown
    · have hmem : first ∈ known ++ [first] := List.mem_append_right _ (List.mem_singleton_self _)
      refine List.pairwise_cons.mpr ⟨fun D hD => ?_, hbehind hmem⟩
      have hne : first ≠ D := fun heq => (mem_missingFrom_iff.mp hD).2 (heq ▸ hmem)
      rw [List.idxOf_cons_self, List.idxOf_cons_ne _ hne]
      exact Nat.succ_pos _

theorem missingFrom_eq_nil (h : found ⊆ known) : missingFrom known found = [] :=
  List.eq_nil_iff_forall_not_mem.mpr fun _ hD =>
    (mem_missingFrom_iff.mp hD).2 (h (mem_missingFrom_iff.mp hD).1)

end MissingFrom

/-- A report is extended by what it does not have. -/
theorem diagnostics_extend (r : Report) (found : List Diagnostic) :
    (r.extend found).diagnostics = r.diagnostics ++ missingFrom r.diagnostics found := by
  unfold extend
  induction found generalizing r with
  | nil => simp [missingFrom]
  | cons first rest ih =>
    rw [List.foldl_cons, ih, missingFrom]
    split
    · rfl
    · rw [push, List.append_assoc, List.singleton_append]

/-- A report that has everything that is found stays as it is. -/
theorem extend_eq_self {r : Report} {found : List Diagnostic} (h : found ⊆ r.diagnostics) :
    r.extend found = r := by
  have hdiagnostics := r.diagnostics_extend found
  rw [missingFrom_eq_nil h, List.append_nil] at hdiagnostics
  exact congrArg Report.mk hdiagnostics

end Report

/-- Checking a description leaves the diagnostics of a report where they are and adds, behind them,
what the checks find and the report does not have, each finding once and in the order in which they
are found first.  Checking it once more changes nothing. -/
theorem Description.validate_adds (d : Description) (r : Report) :
    (∃ added, (d.validate r).diagnostics = r.diagnostics ++ added ∧
        (∀ D, D ∈ added ↔ D ∈ d.problems ∧ D ∉ r.diagnostics) ∧ added.Nodup ∧
        added.Pairwise (d.problems.idxOf · < d.problems.idxOf ·)) ∧
      d.validate (d.validate r) = d.validate r := by
  have hall : d.problems ⊆ (d.validate r).diagnostics := by
    intro D hD
    rw [validate, Report.diagnostics_extend, List.mem_append, Report.mem_missingFrom_iff]
    exact (Decidable.em (D ∈ r.diagnostics)).imp_right fun hnew => ⟨hD, hnew⟩
  have horder := Report.pairwise_missingFrom r.diagnostics d.problems
  refine ⟨⟨Report.missingFrom r.diagnostics d.problems, r.diagnostics_extend d.problems,
    fun D => Report.mem_missingFrom_iff, ?_, horder⟩, Report.extend_eq_self hall⟩
  refine horder.imp fun hlt heq => ?_
  subst heq
  exact Nat.lt_irrefl _ hlt

end ApiDescription
