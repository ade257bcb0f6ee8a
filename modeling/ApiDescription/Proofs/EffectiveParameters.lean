import ApiDescription.Proofs.PathParameters
import Mathlib.Data.List.Forall2

/-!
# Parameters that count for an operation

A parameter of an operation comes in place of one of the path if both are sent in one place and have
one name.  Names of headers are compared without regard to whether a letter is a capital one, where
only the letters A to Z count; all other names are compared as they are.  The program compares small
spellings of names.  `Parameter.Same` says letter by letter what that comes to, so that one sees
which names are taken for one another, and `PathItem.effectiveParameters_same` says in its words
which parameters count.
-/

namespace ApiDescription

/-! ## Letters -/

/-- Two characters are one letter, of which one may be the capital and the other the small one, or
they are one character. -/
def SameLetter (c d : Char) : Prop :=
  c = d ∨ (c.isUpper = true ∧ d.toNat = c.toNat + 32) ∨ (d.isUpper = true ∧ c.toNat = d.toNat + 32)

theorem isUpper_iff (c : Char) : c.isUpper = true ↔ 65 ≤ c.toNat ∧ c.toNat ≤ 90 := by
  unfold Char.isUpper
  rw [decide_eq_true_eq, ge_iff_le, UInt32.le_iff_toNat_le, UInt32.le_iff_toNat_le]
  rfl

/-- A small letter stands 32 places behind its capital. -/
theorem toNat_toLower (c : Char) :
    c.toLower.toNat = if c.isUpper then c.toNat + 32 else c.toNat := by
  by_cases h : c.isUpper = true
  · have hrange := (isUpper_iff c).mp h
    rw [if_pos h]
    have hdecided : c.val ≥ 'A'.val ∧ c.val ≤ 'Z'.val := decide_eq_true_eq.mp h
    unfold Char.toLower
    rw [dif_pos hdecided]
    change (c.val + 32).toNat = c.val.toNat + 32
    rw [UInt32.toNat_add]
    exact Nat.mod_eq_of_lt (show c.toNat + 32 < 2 ^ 32 by omega)
  · have hdecided : ¬ (c.val ≥ 'A'.val ∧ c.val ≤ 'Z'.val) := fun hrange =>
      h (decide_eq_true hrange)
    rw [if_neg h]
    unfold Char.toLower
    rw [dif_neg hdecided]

/-- Two characters are one letter if they have one small spelling. -/
theorem toLower_eq_iff (c d : Char) : c.toLower = d.toLower ↔ SameLetter c d := by
  unfold SameLetter
  rw [← Char.toNat_inj, toNat_toLower, toNat_toLower, ← Char.toNat_inj]
  simp only [isUpper_iff]
  split <;> split <;> omega

/-! ## Parameters -/

namespace Parameter

variable {p q : Parameter}

/-- Two parameters are sent in one place and have one name.  In names of headers, capital letters
are not told from small ones. -/
def Same (p q : Parameter) : Prop :=
  p.place = q.place ∧
    if p.place = .header then List.Forall₂ SameLetter p.name.toList q.name.toList
    else p.name = q.name

theorem map_toLower_eq_iff (name other : String) :
    name.map Char.toLower = other.map Char.toLower ↔
      List.Forall₂ SameLetter name.toList other.toList := by
  rw [← String.toList_inj, String.toList_map, String.toList_map, ← List.forall₂_eq_eq_eq,
    List.forall₂_map_left_iff, List.forall₂_map_right_iff]
  simp only [toLower_eq_iff]

theorem identity_eq_iff : p.identity = q.identity ↔ p.Same q := by
  unfold identity Same
  cases p.place <;> cases q.place <;> simp [map_toLower_eq_iff]

theorem isSame_iff : p.isSame q = true ↔ p.Same q := by
  unfold isSame
  rw [decide_eq_true_eq, identity_eq_iff]

instance (p q : Parameter) : Decidable (p.Same q) :=
  decidable_of_iff _ isSame_iff

theorem equivalence_same : Equivalence Same where
  refl _ := identity_eq_iff.mp rfl
  symm h := identity_eq_iff.mp (identity_eq_iff.mpr h).symm
  trans h h' := identity_eq_iff.mp ((identity_eq_iff.mpr h).trans (identity_eq_iff.mpr h'))

/-- No two parameters of a list are the same. -/
theorem nodup_identity_iff {ps : List Parameter} :
    (ps.map identity).Nodup ↔ ps.Pairwise fun p q => ¬ p.Same q := by
  simp only [List.Nodup, List.pairwise_map, ne_eq, identity_eq_iff]

end Parameter

namespace PathItem

open Parameter (Same)

variable {item : PathItem} {o : Operation} {p : Parameter}

/-- Every parameter that is declared counts, or one that is the same. -/
theorem exists_same_of_declared (h : p ∈ item.parameters ++ o.parameters) :
    ∃ q ∈ item.effectiveParameters o, q.Same p := by
  unfold effectiveParameters
  rcases List.mem_append.mp h with hshared | hown
  · by_cases hoverridden : ∃ q ∈ o.parameters, q.Same p
    · obtain ⟨q, hq, hsame⟩ := hoverridden
      exact ⟨q, List.mem_append_right _ hq, hsame⟩
    · refine ⟨p, List.mem_append_left _ (List.mem_filter.mpr ⟨hshared, ?_⟩),
        Parameter.equivalence_same.refl p⟩
      rw [Bool.not_eq_true', List.any_eq_false]
      intro q hq hsame
      exact hoverridden ⟨q, hq, Parameter.isSame_iff.mp hsame⟩
  · exact ⟨p, List.mem_append_right _ hown, Parameter.equivalence_same.refl p⟩

/-- The parameters that count for an operation are those of the path that no parameter of the
operation is the same as, and then those of the operation, all in order.  Being the same is an
equivalence.  Whatever is declared counts, by itself or by one that is the same, and if neither list
has two that are the same, then no two that count are. -/
theorem effectiveParameters_same (item : PathItem) (o : Operation) :
    item.effectiveParameters o =
        (item.parameters.filter fun p => ∀ q ∈ o.parameters, ¬ q.Same p) ++ o.parameters ∧
      (Equivalence fun p q : Parameter => p.isSame q = true) ∧
      (∀ p q : Parameter, p.isSame q = true ↔ p.Same q) ∧
      (∀ p ∈ item.parameters ++ o.parameters, ∃ q ∈ item.effectiveParameters o, q.Same p) ∧
      ((item.parameters.Pairwise fun p q => ¬ p.Same q) →
        (o.parameters.Pairwise fun p q => ¬ p.Same q) →
          (item.effectiveParameters o).Pairwise fun p q => ¬ p.Same q) := by
  refine ⟨?_, ?_, fun p q => Parameter.isSame_iff, fun p hp => exists_same_of_declared hp,
    fun hshared hown => ?_⟩
  · unfold effectiveParameters
    congr 2
    funext p
    rw [Bool.eq_iff_iff, Bool.not_eq_true', List.any_eq_false, decide_eq_true_eq]
    simp only [Parameter.isSame_iff]
  · simp only [Parameter.isSame_iff]
    exact Parameter.equivalence_same
  · rw [← Parameter.nodup_identity_iff] at hshared hown ⊢
    exact nodup_effectiveParameters hshared hown

end PathItem

end ApiDescription
