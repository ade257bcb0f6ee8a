import ApiDescription.Version
import Mathlib.Data.List.TakeWhile

/-!
# The grammar of declared versions

A version is written as `3.` and its minor number.  A patch number may follow, with a label behind a
hyphen or without, and there may be white space around the whole.  `Version.parse?` cuts a text at
its points and looks at the pieces, one by one and from the front; what it accepts are the texts of
this grammar and no others.

So a document declares a known version exactly if it has no field that only version 2 has, and if
what it gives as its version is a text or a number of the grammar: `Version.declaredIn_iff_written`.
-/

namespace ApiDescription

/-! ## White space -/

namespace Text

variable {outer : Char → Bool} {text core : List Char}

/-- A text is what is left of another one when the characters of a class are taken from its ends. -/
structure IsCore (outer : Char → Bool) (text core : List Char) : Prop where
  /-- Around it there is nothing else. -/
  around : ∃ before behind, text = before ++ core ++ behind ∧ (∀ c ∈ before, outer c) ∧
    ∀ c ∈ behind, outer c
  /-- Its first character is none of the class. -/
  first : ∀ c ∈ core.head?, outer c = false
  /-- Its last character is none of the class. -/
  last : ∀ c ∈ core.getLast?, outer c = false

theorem eq_false_of_mem_head?_dropWhile {c : Char} (h : c ∈ (text.dropWhile outer).head?) :
    outer c = false := by
  have hnot := List.head?_dropWhile_not outer text
  rw [Option.mem_def.mp h] at hnot
  exact hnot

theorem dropWhile_of_head? (h : ∀ c ∈ text.head?, outer c = false) :
    text.dropWhile outer = text := by
  cases text with
  | nil => rfl
  | cons c rest => exact List.dropWhile_cons_of_neg (by simp [h c rfl])

theorem isCore_trimBy (outer : Char → Bool) (text : List Char) :
    IsCore outer text (trimBy outer text) := by
  have hback : trimBy outer text ++ ((text.dropWhile outer).reverse.takeWhile outer).reverse =
      text.dropWhile outer := by
    rw [trimBy, ← List.reverse_append, List.takeWhile_append_dropWhile, List.reverse_reverse]
  refine ⟨⟨text.takeWhile outer, ((text.dropWhile outer).reverse.takeWhile outer).reverse, ?_,
    fun c hc => List.mem_takeWhile_imp hc, fun c hc => ?_⟩, fun c hc => ?_, fun c hc => ?_⟩
  · rw [List.append_assoc, hback, List.takeWhile_append_dropWhile]
  · exact List.mem_takeWhile_imp (List.mem_reverse.mp hc)
  · have hmem : c ∈ (text.dropWhile outer).head? := by
      rw [← hback, Option.mem_def, List.head?_append, Option.mem_def.mp hc, Option.some_or]
    exact eq_false_of_mem_head?_dropWhile hmem
  · rw [trimBy, List.getLast?_reverse] at hc
    exact eq_false_of_mem_head?_dropWhile hc

/-- Every text has one core. -/
theorem isCore_iff : IsCore outer text core ↔ core = trimBy outer text := by
  constructor
  · rintro ⟨⟨before, behind, rfl, hbefore, hbehind⟩, hfirst, hlast⟩
    rw [trimBy, List.append_assoc, List.dropWhile_append_of_pos hbefore]
    cases core with
    | nil => simp [List.dropWhile_eq_nil_iff.mpr hbehind]
    | cons c rest =>
      have hstart : (c :: rest ++ behind).dropWhile outer = c :: rest ++ behind :=
        dropWhile_of_head? hfirst
      have hbehind : ∀ a ∈ behind.reverse, outer a := fun a ha =>
        hbehind a (List.mem_reverse.mp ha)
      rw [hstart, List.reverse_append, List.dropWhile_append_of_pos hbehind, dropWhile_of_head?,
        List.reverse_reverse]
      rwa [List.head?_reverse]
  · rintro rfl
    exact isCore_trimBy outer text

end Text

namespace Version

variable {v : Version} {text : List Char}

/-- The minor number of a version. -/
def minor : Version → Char
  | .v30 => '0'
  | .v31 => '1'
  | .v32 => '2'

/-- A text without white space around it writes a version. -/
inductive Writes (v : Version) : List Char → Prop
  /-- The minor number stands alone. -/
  | minor : Writes v ['3', '.', v.minor]
  /-- A patch number follows. -/
  | patch {digits : List Char} (hsome : digits ≠ []) (hdigits : ∀ c ∈ digits, c.isDigit) :
      Writes v ('3' :: '.' :: v.minor :: '.' :: digits)
  /-- A patch number follows, and a label, which has no point. -/
  | label {digits label : List Char} (hsome : digits ≠ []) (hdigits : ∀ c ∈ digits, c.isDigit)
      (hlabel : '.' ∉ label) : Writes v ('3' :: '.' :: v.minor :: '.' :: (digits ++ '-' :: label))

/-- A text writes a version, with white space around it or without. -/
def Written (v : Version) (text : String) : Prop :=
  ∃ core, Text.IsCore Text.isBlank text.toList core ∧ v.Writes core

/-! ## The pieces between the points -/

theorem ofMinor?_eq_some_iff : ofMinor? text = some v ↔ text = [v.minor] := by
  constructor
  · intro h
    unfold ofMinor? at h
    split at h <;> cases h <;> rfl
  · rintro rfl
    cases v <;> rfl

theorem point_notMem_minor (v : Version) : '.' ∉ [v.minor] := by cases v <;> decide

theorem notMem_of_isDigit {digits : List Char} (h : ∀ c ∈ digits, c.isDigit) {c : Char}
    (hc : c.isDigit = false) : c ∉ digits := by
  intro hmem
  rw [h c hmem] at hc
  exact Bool.noConfusion hc

/-- A patch is a number, with a label behind a hyphen or without. -/
theorem isPatch_iff : isPatch text = true ↔
    ∃ digits, digits ≠ [] ∧ (∀ c ∈ digits, c.isDigit) ∧
      (text = digits ∨ ∃ label, text = digits ++ '-' :: label) := by
  simp only [isPatch, Bool.and_eq_true, Bool.not_eq_true', List.isEmpty_eq_false_iff,
    List.all_eq_true]
  constructor
  · rintro ⟨hsome, hdigits⟩
    refine ⟨_, hsome, hdigits, ?_⟩
    have hparts := List.takeWhile_append_dropWhile (p := fun c => decide (c ≠ '-')) (l := text)
    cases hrest : text.dropWhile (fun c => decide (c ≠ '-')) with
    | nil => exact .inl (by rw [hrest, List.append_nil] at hparts; exact hparts.symm)
    | cons c label =>
      have hfirst : c ∈ (text.dropWhile fun c => decide (c ≠ '-')).head? := by
        rw [hrest]
        rfl
      have hc : decide (c ≠ '-') = false := Text.eq_false_of_mem_head?_dropWhile hfirst
      obtain rfl : c = '-' := by simpa using hc
      exact .inr ⟨label, by rw [← hrest]; exact hparts.symm⟩
  · rintro ⟨digits, hsome, hdigits, htext⟩
    have hhyphen : ∀ c ∈ digits, decide (c ≠ '-') := fun c hc => decide_eq_true fun heq =>
      notMem_of_isDigit hdigits (by decide) (heq ▸ hc)
    have htake : text.takeWhile (fun c => decide (c ≠ '-')) = digits := by
      rcases htext with rfl | ⟨label, rfl⟩
      · exact List.takeWhile_eq_self_iff.mpr hhyphen
      · rw [List.takeWhile_append_of_pos hhyphen]
        simp
    rw [htake]
    exact ⟨hsome, hdigits⟩

/-- The pieces of a text that writes a version. -/
theorem writes_iff_split : v.Writes text ↔
    Text.split '.' text = [['3'], [v.minor]] ∨
      ∃ patch, isPatch patch = true ∧ Text.split '.' text = [['3'], [v.minor], patch] := by
  have hfront : ∀ rest : List Char,
      Text.split '.' ('3' :: '.' :: rest) = ['3'] :: Text.split '.' rest :=
    fun rest => @Text.split_append_cons '.' ['3'] rest (by decide)
  have hminor : ∀ rest : List Char,
      Text.split '.' (v.minor :: '.' :: rest) = [v.minor] :: Text.split '.' rest :=
    fun rest => @Text.split_append_cons '.' [v.minor] rest v.point_notMem_minor
  constructor
  · intro h
    cases h with
    | minor => exact .inl (by rw [hfront, Text.split_of_not_mem v.point_notMem_minor])
    | patch hsome hdigits =>
      refine .inr ⟨_, isPatch_iff.mpr ⟨_, hsome, hdigits, .inl rfl⟩, ?_⟩
      rw [hfront, hminor, Text.split_of_not_mem (notMem_of_isDigit hdigits (by decide))]
    | @label digits label hsome hdigits hlabel =>
      -- the label has no point either, so nothing is cut off behind the patch
      have hpoint : '.' ∉ digits ++ '-' :: label := by
        simp [hlabel, notMem_of_isDigit hdigits (show '.'.isDigit = false by decide)]
      refine .inr ⟨_, isPatch_iff.mpr ⟨_, hsome, hdigits, .inr ⟨label, rfl⟩⟩, ?_⟩
      rw [hfront, hminor, Text.split_of_not_mem hpoint]
  · rintro (hpieces | ⟨patch, hpatch, hpieces⟩)
    · have htext := Text.intercalate_split '.' text
      rw [hpieces] at htext
      exact htext ▸ .minor
    · -- the pieces with points between them are the text
      have htext : '3' :: '.' :: v.minor :: '.' :: patch = text := by
        rw [← Text.intercalate_split '.' text, hpieces]
        simp [List.intercalate]
      have hmem : patch ∈ Text.split '.' text := by simp [hpieces]
      have hpoint : '.' ∉ patch := Text.not_mem_of_mem_split hmem
      obtain ⟨digits, hsome, hdigits, rfl | ⟨label, rfl⟩⟩ := isPatch_iff.mp hpatch
      · exact htext ▸ .patch hsome hdigits
      · simp only [List.mem_append, List.mem_cons, not_or] at hpoint
        exact htext ▸ .label hsome hdigits hpoint.2.2

/-! ## Versions of documents -/

/-- Reading a text finds the version that it writes. -/
theorem parse?_eq_some_iff {text : String} : parse? text = some v ↔ v.Written text := by
  have hcore : v.Written text ↔ v.Writes (Text.trim text.toList) := by
    simp only [Written, Text.isCore_iff, exists_eq_left]
    rfl
  rw [hcore, writes_iff_split, parse?]
  split
  · next minor hpieces => simp [hpieces, ofMinor?_eq_some_iff]
  · next minor patch hpieces =>
    cases hpatch : isPatch patch with
    | true => simp [hpieces, hpatch, ofMinor?_eq_some_iff]
    | false => simp +contextual [hpieces, hpatch]
  · next hminor hpatch =>
    constructor
    · intro hnone
      cases hnone
    · rintro (hpieces | ⟨patch, -, hpieces⟩)
      · exact (hminor _ hpieces).elim
      · exact (hpatch _ _ hpieces).elim

theorem scalarText?_eq_some_iff {field : Json} {declared : String} :
    field.scalarText? = some declared ↔
      field = .string declared ∨ ∃ n : Json.Number, field = .number n ∧ n.text = declared := by
  cases field <;> simp [Json.scalarText?]

/-- A text is read as the version that it writes, and as none if it writes none.  A document
declares a version exactly if it is none of version 2 and what it gives as its version is a text, or
a number with a text, that writes this version. -/
theorem declaredIn_iff_written :
    (∀ (text : String) (v : Version), parse? text = some v ↔ v.Written text) ∧
      (∀ text : String, parse? text = none ↔ ∀ v : Version, ¬ v.Written text) ∧
      ∀ (root : Json) (v : Version) (declared : String),
        declaredIn root = .ok (v, declared) ↔
          root.member? "swagger" = none ∧
            ∃ field, root.member? "openapi" = some field ∧
              (field = .string declared ∨
                ∃ n : Json.Number, field = .number n ∧ n.text = declared) ∧
              v.Written declared := by
  refine ⟨fun text v => parse?_eq_some_iff, fun text => ?_, fun root v declared => ?_⟩
  · simp only [Option.eq_none_iff_forall_ne_some, ne_eq, parse?_eq_some_iff]
  · simp only [← scalarText?_eq_some_iff, ← parse?_eq_some_iff]
    unfold declaredIn
    cases root.member? "swagger" with
    | some version => simp
    | none =>
      cases hfield : root.member? "openapi" with
      | none => simp
      | some field =>
        cases htext : field.scalarText? with
        | none => simp [htext]
        | some text =>
          cases hversion : parse? text with
          | none =>
            have hnone : text = declared → parse? declared ≠ some v := by
              rintro rfl
              simp [hversion]
            simpa [htext, hversion] using hnone
          | some found =>
            have hsome : found = v ∧ text = declared ↔
                text = declared ∧ parse? declared = some v := by
              constructor
              · rintro ⟨rfl, rfl⟩
                exact ⟨rfl, hversion⟩
              · rintro ⟨rfl, hread⟩
                exact ⟨Option.some.inj (hversion.symm.trans hread), rfl⟩
            simpa [htext, hversion] using hsome

example : (parse? "\u00a03.1.0-rc 1\n", parse? "3.1.", parse? "3.1.0-a.b") =
    (some .v31, none, none) := by decide +kernel

end Version

end ApiDescription
