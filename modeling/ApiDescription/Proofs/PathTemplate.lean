import ApiDescription.PathTemplate

/-!
# Variables of path templates

A name is a variable of a path if it stands in braces in it and has no brace of its own.  The
variables that are found while a template is read from front to back are these and no others:
`PathTemplate.mem_variableNames_iff`.
-/

namespace ApiDescription.PathTemplate

/-- A name without braces stands in braces in a text. -/
def Braced (name text : List Char) : Prop :=
  '\x7b' ∉ name ∧ '\x7d' ∉ name ∧ ∃ front back, text = front ++ '\x7b' :: (name ++ '\x7d' :: back)

/-- A name is a variable of a path. -/
def HasVariable (path name : String) : Prop := Braced name.toList path.toList

section Braced

variable {name pre rest : List Char} {c : Char}

/-- A character that opens no variable makes no difference in front. -/
theorem braced_cons (hc : c ≠ '\x7b') : Braced name (c :: rest) ↔ Braced name rest := by
  refine and_congr_right fun _ => and_congr_right fun _ => ⟨?_, ?_⟩
  · rintro ⟨_ | ⟨first, front⟩, back, htext⟩
    · exact absurd (List.cons.inj htext).1 hc
    · exact ⟨front, back, (List.cons.inj htext).2⟩
  · rintro ⟨front, back, rfl⟩
    exact ⟨c :: front, back, rfl⟩

theorem braced_append (hpre : '\x7b' ∉ pre) : Braced name (pre ++ rest) ↔ Braced name rest := by
  induction pre with
  | nil => rfl
  | cons c pre ih =>
    rw [List.mem_cons, not_or] at hpre
    rw [List.cons_append, braced_cons (Ne.symm hpre.1), ih hpre.2]

/-- Up to the first brace that closes, two texts are the same. -/
theorem eq_of_append_brace {name' rest' : List Char} (hname : '\x7d' ∉ name)
    (hname' : '\x7d' ∉ name')
    (h : name ++ '\x7d' :: rest = name' ++ '\x7d' :: rest') : name = name' := by
  induction name generalizing name' with
  | nil =>
    cases name' with
    | nil => rfl
    | cons c _ => exact absurd ((List.cons.inj h).1 ▸ List.mem_cons_self) hname'
  | cons c name ih =>
    rw [List.mem_cons, not_or] at hname
    cases name' with
    | nil => exact absurd (List.cons.inj h).1.symm hname.1
    | cons c' name' =>
      rw [List.mem_cons, not_or] at hname'
      obtain ⟨rfl, hrest⟩ := List.cons.inj h
      rw [ih hname.2 hname'.2 hrest]

/-- Behind a brace that opens a variable there is this variable, and what stands behind it. -/
theorem braced_variable (hopen : '\x7b' ∉ pre) (hclose : '\x7d' ∉ pre) :
    Braced name ('\x7b' :: (pre ++ '\x7d' :: rest)) ↔ name = pre ∨ Braced name rest := by
  have hbehind : Braced name (pre ++ '\x7d' :: rest) ↔ Braced name rest :=
    (braced_append hopen).trans (braced_cons (by decide))
  rw [← hbehind]
  constructor
  · rintro ⟨hname, hname', _ | ⟨first, front⟩, back, htext⟩
    · exact .inl (eq_of_append_brace hclose hname' (List.cons.inj htext).2).symm
    · exact .inr ⟨hname, hname', front, back, (List.cons.inj htext).2⟩
  · rintro (rfl | ⟨hname, hname', front, back, htext⟩)
    · exact ⟨hopen, hclose, [], rest, rfl⟩
    · exact ⟨hname, hname', '\x7b' :: front, back, by rw [htext, List.cons_append]⟩

end Braced

/-- What has been read of a variable that has started, and the brace in front of it. -/
def opened : Option (List Char) → List Char
  | none => []
  | some pre => '\x7b' :: pre

/-- The variables of a text are those found before it and those that stand in braces in it, of which
the first one may have started before. -/
theorem mem_scan_iff {found names : List String} {inside : Option (List Char)} {text : List Char}
    (hinside : ∀ pre ∈ inside, '\x7b' ∉ pre ∧ '\x7d' ∉ pre)
    (h : scan found inside text = .ok names) (name : String) :
    name ∈ names ↔ name ∈ found ∨ Braced name.toList (opened inside ++ text) := by
  -- by induction on the text that is left; what was read of an open variable stands in front of it
  induction text generalizing found inside with
  | nil =>
    cases inside with
    | some pre => cases h
    | none =>
      obtain rfl := Except.ok.inj h
      simp [opened, Braced]
  | cons c rest ih =>
    unfold scan at h
    split at h
    · next hopen =>
      cases inside with
      | some pre => cases h
      | none =>
        rw [ih (by simp) h, hopen]
        rfl
    · next hopen =>
      split at h
      · next hclose =>
        cases inside with
        | none => cases h
        | some pre =>
          obtain ⟨hpre, hpre'⟩ := hinside pre rfl
          dsimp only at h
          split at h
          · cases h
          · split at h
            · cases h
            · rw [ih (by simp) h, hclose]
              have hvariable : Braced name.toList ('\x7b' :: (pre ++ '\x7d' :: rest)) ↔
                  name.toList = pre ∨ Braced name.toList rest := braced_variable hpre hpre'
              rw [opened, opened, List.cons_append, List.nil_append, hvariable, List.mem_append,
                List.mem_singleton, or_assoc, String.ext_iff, String.toList_ofList]
      · next hclose =>
        cases inside with
        | none =>
          rw [ih (by simp) h]
          simp only [opened, Option.map_none, List.nil_append, braced_cons hopen]
        | some pre =>
          obtain ⟨hpre, hpre'⟩ := hinside pre rfl
          rw [ih (by simp [hpre, hpre', Ne.symm hopen, Ne.symm hclose]) h]
          simp only [opened, Option.map_some, List.cons_append, List.append_assoc, List.nil_append]

/-- The variables of a template are the names that stand in braces in it. -/
theorem mem_variableNames_iff {path : String} {names : List String}
    (h : variableNames path = .ok names) (name : String) :
    name ∈ names ↔ HasVariable path name := by
  unfold variableNames at h
  split at h
  · rw [mem_scan_iff (by simp) h]
    simp [opened, HasVariable]
  · cases h

end ApiDescription.PathTemplate
