/-!
# Cutting a text at a character

A text is cut at every place of one character, or at the first only.  The pieces hold the
character nowhere, and put together with it between them they give the text again.
-/

namespace ApiDescription.Text

/-- The pieces of a text between the places of a character; always at least one. -/
def split (at_ : Char) : List Char → List (List Char)
  | [] => [[]]
  | c :: rest =>
    if c = at_ then [] :: split at_ rest
    else
      match split at_ rest with
      | [] => [[c]]
      | piece :: pieces => (c :: piece) :: pieces

/-- The text before the first place of a character, and the text behind it if there is one. -/
def cut (at_ : Char) : List Char → List Char × Option (List Char)
  | [] => ([], none)
  | c :: rest =>
    if c = at_ then ([], some rest)
    else
      let (before, behind) := cut at_ rest
      (c :: before, behind)

theorem split_ne_nil (at_ : Char) (text : List Char) : split at_ text ≠ [] := by
  cases text with
  | nil => simp [split]
  | cons c rest =>
    rw [split]
    split
    · simp
    · split <;> simp

/-- No piece holds the character. -/
theorem not_mem_of_mem_split {at_ : Char} {text piece : List Char} (h : piece ∈ split at_ text) :
    at_ ∉ piece := by
  induction text generalizing piece with
  | nil => simp_all [split]
  | cons c rest ih =>
    rw [split] at h
    split at h
    · rcases List.mem_cons.mp h with rfl | h
      · simp
      · exact ih h
    · next hc =>
      split at h
      · next hs => exact absurd hs (split_ne_nil _ _)
      · next first pieces hs =>
        rcases List.mem_cons.mp h with rfl | h
        · have := ih (hs ▸ List.mem_cons_self : first ∈ split at_ rest)
          simp [this, Ne.symm hc]
        · exact ih (hs ▸ List.mem_cons_of_mem _ h)

/-- A text without the character is one piece. -/
theorem split_of_not_mem {at_ : Char} {text : List Char} (h : at_ ∉ text) :
    split at_ text = [text] := by
  induction text with
  | nil => rfl
  | cons c rest ih =>
    simp only [List.mem_cons, not_or] at h
    simp [split, Ne.symm h.1, ih h.2]

/-- Cutting behind a first piece. -/
theorem split_append_cons {at_ : Char} {piece rest : List Char} (h : at_ ∉ piece) :
    split at_ (piece ++ at_ :: rest) = piece :: split at_ rest := by
  induction piece with
  | nil => simp [split]
  | cons c piece ih =>
    simp only [List.mem_cons, not_or] at h
    simp [split, Ne.symm h.1, ih h.2]

/-- The pieces hold nothing that the text does not hold. -/
theorem mem_of_mem_split {at_ c : Char} {text piece : List Char} (h : piece ∈ split at_ text)
    (hc : c ∈ piece) : c ∈ text := by
  induction text generalizing piece with
  | nil => simp_all [split]
  | cons d rest ih =>
    rw [split] at h
    split at h
    · rcases List.mem_cons.mp h with rfl | h
      · simp at hc
      · exact List.mem_cons_of_mem _ (ih h hc)
    · split at h
      · next hs => exact absurd hs (split_ne_nil _ _)
      · next first pieces hs =>
        rcases List.mem_cons.mp h with rfl | h
        · rcases List.mem_cons.mp hc with rfl | hc
          · exact List.mem_cons_self
          · exact List.mem_cons_of_mem _ (ih (hs ▸ List.mem_cons_self) hc)
        · exact List.mem_cons_of_mem _ (ih (hs ▸ List.mem_cons_of_mem _ h) hc)

/-- The pieces with the character between them are the text again. -/
theorem intercalate_split (at_ : Char) (text : List Char) :
    [at_].intercalate (split at_ text) = text := by
  induction text with
  | nil => simp [split]
  | cons c rest ih =>
    rw [split]
    cases hs : split at_ rest with
    | nil => exact absurd hs (split_ne_nil _ _)
    | cons piece pieces =>
      rw [hs] at ih
      by_cases hc : c = at_
      · simp [hc, List.intercalate_cons_cons, ih]
      · cases pieces with
        | nil => simpa [hc] using ih
        | cons next pieces => simpa [hc, List.intercalate_cons_cons] using ih

end ApiDescription.Text
