import ApiDescription.Pointer

/-!
# Pointers into well formed values

In a value whose objects repeat no member name, each member and each item is what the pointer to it
addresses, and whatever a pointer addresses is well formed again.

* `Json.index?_toString`: the number of an item is read back from its name;
* `Json.at?_member`, `Json.at?_item`: the pointer to a member or an item addresses it.
-/

namespace ApiDescription

namespace Entries

theorem mem_of_get? {α : Type} {entries : Entries α} {name : String} {value : α}
    (h : entries.get? name = some value) : (name, value) ∈ entries := by
  induction entries with
  | nil => simp at h
  | cons entry rest ih =>
    rw [get?_cons] at h
    split at h
    · next heq =>
      obtain rfl := Option.some.inj h
      exact heq ▸ List.mem_cons_self
    · exact List.mem_cons_of_mem _ (ih h)

theorem get?_of_mem {α : Type} {entries : Entries α} (hnodup : entries.names.Nodup)
    {entry : String × α} (h : entry ∈ entries) : entries.get? entry.1 = some entry.2 := by
  induction entries with
  | nil => simp at h
  | cons first rest ih =>
    simp only [names, List.map_cons, List.nodup_cons] at hnodup
    rw [get?_cons]
    rcases List.mem_cons.mp h with rfl | hrest
    · exact if_pos rfl
    · have hne : entry.1 ≠ first.1 := fun heq =>
        hnodup.1 (heq ▸ List.mem_map_of_mem hrest)
      rw [if_neg hne]
      exact ih hnodup.2 hrest

end Entries

namespace Json

/-! ## Indices -/

/-- A number of several digits does not start with a zero. -/
theorem toDigits_ne_zero_cons (n : Nat) (c : Char) (rest : List Char) :
    Nat.toDigits 10 n ≠ '0' :: c :: rest := by
  induction n using Nat.strongRecOn generalizing c rest with
  | _ n ih =>
    intro h
    by_cases hn : n < 10
    · rw [Nat.toDigits_of_lt_base hn] at h
      simp at h
    · have hdiv : Nat.toDigits 10 (n / 10) ++ [(n % 10).digitChar] = '0' :: c :: rest := by
        rw [← Nat.toDigits_of_base_le (by decide) (Nat.le_of_not_lt hn), h]
      cases hfront : Nat.toDigits 10 (n / 10) with
      | nil => exact Nat.toDigits_ne_nil hfront
      | cons d front =>
        rw [hfront] at hdiv
        obtain ⟨rfl, hrest⟩ := List.cons.inj hdiv
        cases front with
        | cons d' front' => exact ih (n / 10) (by omega) d' front' hfront
        | nil =>
          -- a single digit zero stands for the number zero only
          have hzero : n / 10 = 0 := by
            have hread := congrArg (fun digits => Nat.ofDigitChars 10 digits 0) hfront
            simpa [Nat.ofDigitChars_cons] using hread
          omega

theorem index?_toString (n : Nat) : index? (toString n) = some n := by
  have htext : (toString n).toList = Nat.toDigits 10 n := by
    rw [Nat.toString_eq_ofList_toDigits, String.toList_ofList]
  have hdigits : (Nat.toDigits 10 n).all Char.isDigit = true :=
    List.all_eq_true.mpr fun c hc =>
      Nat.isDigit_of_mem_toDigits (by decide) (Nat.le_refl 10) hc
  have hvalue : (Nat.toDigits 10 n).foldl (fun m d => m * 10 + (d.toNat - '0'.toNat)) 0 = n := by
    have h := Nat.ofDigitChars_ten_toDigits (n := n)
    rw [Nat.ofDigitChars_eq_foldl] at h
    simpa [Nat.mul_comm] using h
  unfold index?
  rw [htext]
  split
  · next h => exact absurd h Nat.toDigits_ne_nil
  · next h => exact absurd h (toDigits_ne_zero_cons n _ _)
  · rw [if_pos hdigits, hvalue]

/-! ## Well formed values -/

theorem wellFormed_of_mem_items {items : List Json} (h : WellFormedItems items) {item : Json}
    (hmem : item ∈ items) : item.WellFormed := by
  induction items with
  | nil => simp at hmem
  | cons first rest ih =>
    simp only [WellFormedItems] at h
    rcases List.mem_cons.mp hmem with rfl | hrest
    · exact h.1
    · exact ih h.2 hrest

theorem wellFormed_of_mem_members {members : Entries Json} (h : WellFormedMembers members)
    {entry : String × Json} (hmem : entry ∈ members) : entry.2.WellFormed := by
  induction members with
  | nil => simp at hmem
  | cons first rest ih =>
    simp only [WellFormedMembers] at h
    rcases List.mem_cons.mp hmem with rfl | hrest
    · exact h.1
    · exact ih h.2 hrest

theorem WellFormed.step? {value next : Json} (h : value.WellFormed) {name : String}
    (hstep : value.step? name = some next) : next.WellFormed := by
  cases value with
  | object members =>
    simp only [WellFormed] at h
    exact wellFormed_of_mem_members h.2 (Entries.mem_of_get? hstep)
  | array items =>
    simp only [Json.step?, Option.bind_eq_some_iff] at hstep
    obtain ⟨i, -, hitem⟩ := hstep
    exact wellFormed_of_mem_items (by simpa only [WellFormed] using h)
      (List.mem_of_getElem? hitem)
  | _ => simp [Json.step?] at hstep

/-- What every step keeps, a walk keeps. -/
theorem walk?_keeps {P : Json → Prop}
    (hstep : ∀ {value next : Json} {name : String}, P value → value.step? name = some next → P next)
    {value last : Json} (h : P value) {names : List String}
    (hwalk : value.walk? names = some last) : P last := by
  induction names generalizing value with
  | nil =>
    rw [walk?_nil] at hwalk
    exact Option.some.inj hwalk ▸ h
  | cons name rest ih =>
    rw [walk?_cons, Option.bind_eq_some_iff] at hwalk
    obtain ⟨next, hnext, hrest⟩ := hwalk
    exact ih (hstep h hnext) hrest

theorem WellFormed.walk? {value last : Json} (h : value.WellFormed) {names : List String}
    (hwalk : value.walk? names = some last) : last.WellFormed :=
  walk?_keeps (fun h => h.step?) h hwalk

/-! ## Members and items -/

theorem at?_member {root : Json} {p : Pointer} {members : Entries Json}
    (h : root.at? p = some (.object members)) (hnodup : members.names.Nodup)
    {entry : String × Json} (hmem : entry ∈ members) :
    root.at? (p.push entry.1) = some entry.2 := by
  rw [at?_push, h]
  exact Entries.get?_of_mem hnodup hmem

theorem at?_item {root : Json} {p : Pointer} {items : List Json}
    (h : root.at? p = some (.array items)) (i : Nat) : root.at? (p.item i) = items[i]? := by
  rw [Pointer.item, at?_push, h, Option.bind_some, step?, index?_toString, Option.bind_some]

end Json

end ApiDescription
