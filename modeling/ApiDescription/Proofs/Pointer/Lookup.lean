import ApiDescription.Proofs.Pointer.Text

/-!
# Names that lead to a node

From the root of a value to a node in it lead names: that of a member in an object, and the number of
an item in an array.  A number has one spelling, without a sign and without a zero in front:
`Json.index?_eq_some_iff`.  So what a pointer addresses is what its names lead to, and
`Pointer.spells_ofNames` says all that a pointer keeps of the names it was pushed from.
-/

namespace ApiDescription

namespace Json

/-! ## Indices -/

/-- A digit is the digit of its value. -/
theorem toDigits_of_isDigit {d : Char} (h : d.isDigit = true) :
    d.toNat - '0'.toNat < 10 ∧ Nat.toDigits 10 (d.toNat - '0'.toNat) = [d] := by
  have hbounds : 48 ≤ d.toNat ∧ d.toNat ≤ 57 := Char.isDigit_iff_toNat.mp h
  have hlt : d.toNat - '0'.toNat < 10 := by
    change d.toNat - 48 < 10
    omega
  refine ⟨hlt, ?_⟩
  rw [Nat.toDigits_of_lt_base hlt, List.cons.injEq]
  refine ⟨Char.toNat_inj.mp ?_, rfl⟩
  rw [Nat.toNat_digitChar_of_lt_ten hlt]
  change 48 + (d.toNat - 48) = d.toNat
  omega

/-- Digits behind those of a positive number are those of the number that is read off all of them. -/
theorem toDigits_append_digits {digits : List Char} (h : ∀ d ∈ digits, d.isDigit = true) {n : Nat}
    (hn : 0 < n) :
    Nat.toDigits 10 n ++ digits =
      Nat.toDigits 10 (digits.foldl (fun n d => n * 10 + (d.toNat - '0'.toNat)) n) := by
  induction digits generalizing n with
  | nil => simp
  | cons d rest ih =>
    obtain ⟨hlt, hdigit⟩ := toDigits_of_isDigit (h d List.mem_cons_self)
    have hpos : 0 < n * 10 + (d.toNat - '0'.toNat) := by omega
    calc
      Nat.toDigits 10 n ++ d :: rest =
          (Nat.toDigits 10 n ++ Nat.toDigits 10 (d.toNat - '0'.toNat)) ++ rest := by
        rw [hdigit, List.append_assoc, List.singleton_append]
      _ = Nat.toDigits 10 (n * 10 + (d.toNat - '0'.toNat)) ++ rest := by
        rw [Nat.toDigits_append_toDigits (by decide) hn hlt, Nat.mul_comm]
      _ = _ := ih (fun later hlater => h later (List.mem_cons_of_mem _ hlater)) hpos

/-- The name of an item is the decimal text of its number, and no other text is. -/
theorem index?_eq_some_iff {name : String} {i : Nat} : index? name = some i ↔ name = toString i := by
  refine ⟨fun h => ?_, fun h => h ▸ index?_toString i⟩
  suffices hdigits : name.toList = Nat.toDigits 10 i by
    rw [Nat.toString_eq_ofList_toDigits, ← hdigits, String.ofList_toList]
  unfold index? at h
  split at h
  · cases h
  · cases h
  · next hne hzero =>
    split at h
    · next hall =>
      obtain rfl := Option.some.inj h
      have hisDigit := List.all_eq_true.mp hall
      cases htext : name.toList with
      | nil => exact absurd htext hne
      | cons d rest =>
        rw [htext] at hisDigit
        obtain ⟨-, hdigit⟩ := toDigits_of_isDigit (hisDigit d List.mem_cons_self)
        have hrest := fun later hlater => hisDigit later (List.mem_cons_of_mem _ hlater)
        rw [List.foldl_cons, Nat.zero_mul, Nat.zero_add]
        by_cases hpos : 0 < d.toNat - '0'.toNat
        · rw [← toDigits_append_digits hrest hpos, hdigit, List.singleton_append]
        · -- a zero is the whole text
          rw [Nat.eq_zero_of_not_pos hpos] at hdigit ⊢
          obtain rfl : '0' = d := (List.cons.inj hdigit).1
          cases rest with
          | nil => rfl
          | cons next rest => exact absurd htext (hzero next rest)
    · cases h

/-! ## Nodes -/

/-- The names on the way from a value to a node in it. -/
inductive Leads : Json → List String → Json → Prop
  /-- No names lead to the value itself. -/
  | here (value : Json) : Leads value [] value
  /-- In an object a name leads to the member of this very name. -/
  | member {members : Entries Json} {key : String} {next node : Json} {names : List String}
      (hmember : members.get? key = some next) (hrest : Leads next names node) :
      Leads (.object members) (key :: names) node
  /-- In an array the decimal text of a number leads to the item of this number. -/
  | item {items : List Json} {key : String} {i : Nat} {next node : Json} {names : List String}
      (hkey : key = toString i) (hitem : items[i]? = some next) (hrest : Leads next names node) :
      Leads (.array items) (key :: names) node

theorem walk?_eq_some_iff {value node : Json} {names : List String} :
    value.walk? names = some node ↔ value.Leads names node := by
  constructor
  · intro h
    induction names generalizing value with
    | nil =>
      rw [walk?_nil] at h
      obtain rfl := Option.some.inj h
      exact .here value
    | cons key rest ih =>
      rw [walk?_cons, Option.bind_eq_some_iff] at h
      obtain ⟨next, hstep, hrest⟩ := h
      cases value with
      | object members => exact .member hstep (ih hrest)
      | array items =>
        simp only [step?, Option.bind_eq_some_iff] at hstep
        obtain ⟨i, hindex, hitem⟩ := hstep
        exact .item (index?_eq_some_iff.mp hindex) hitem (ih hrest)
      | _ => simp [step?] at hstep
  · intro h
    induction h with
    | here value => rw [walk?_nil]
    | member hmember _ ih =>
      rw [walk?_cons, step?, hmember, Option.bind_some, ih]
    | item hkey hitem _ ih =>
      rw [walk?_cons, step?, index?_eq_some_iff.mpr hkey, Option.bind_some, hitem, Option.bind_some,
        ih]

end Json

namespace Pointer

theorem at?_ofNames {value node : Json} {names : List String} :
    value.at? (ofNames names) = some node ↔ value.Leads names node := by
  rw [Json.at?, segments_ofNames, Json.walk?_eq_some_iff]

/-! ## Pointers and their names -/

@[simp] theorem parent?_push (p : Pointer) (key : String) : (p.push key).parent? = some p := by
  have hne : (p.push key).tokens ≠ [] := List.append_ne_nil_of_right_ne_nil _ (List.cons_ne_nil _ _)
  rw [parent?, if_neg hne]
  simp [push]

@[simp] theorem last?_push (p : Pointer) (key : String) : (p.push key).last? = some key := by
  rw [last?, segments_push, List.getLast?_concat]

theorem isRoot_ofNames (names : List String) : (ofNames names).isRoot = true ↔ names = [] := by
  rw [isRoot, tokens_ofNames, List.isEmpty_iff, List.map_eq_nil_iff]

theorem text_push (p : Pointer) (key : String) :
    (p.push key).text.toList = p.text.toList ++ '/' :: escape key.toList := by
  rw [toList_text, toList_text, push, List.flatMap_append]
  simp [token]

/-- What is declared under a name in a part of the components, written as a fragment. -/
theorem display_component {part : String} (hpart : token part = part) (name : String) :
    (((root.push "components").push part).push name).display =
      "#/components/" ++ part ++ "/" ++ token name := by
  have htext : (((root.push "components").push part).push name).text =
      "" ++ "/" ++ token "components" ++ "/" ++ token part ++ "/" ++ token name := rfl
  have hcomponents : token "components" = "components" := rfl
  rw [display, htext, hcomponents, hpart]
  refine String.toList_inj.mp ?_
  simp [String.toList_append]

theorem text_ofNames_inj {names others : List String} (h : (ofNames names).text = (ofNames others).text) :
    names = others := by
  rw [← segments_ofNames names, text_inj h, segments_ofNames]

/-- What a pointer keeps of a list of names. -/
structure Spells (p : Pointer) (names : List String) : Prop where
  /-- The names are read back from the pointer. -/
  segments : p.segments = names
  /-- They stand in the text of it: behind each slash one, once `~1` and then `~0` are restored. -/
  written :
    (Text.split '/' p.text.toList).tail.map
        (fun token => replacePair '~' '0' '~' (replacePair '~' '1' '/' token)) =
      names.map String.toList
  /-- A name is added behind a slash, its tildes replaced before its slashes. -/
  pushed : ∀ key : String, (p.push key).text.toList =
    p.text.toList ++ '/' :: replaceChar '/' '~' '1' (replaceChar '~' '~' '0' key.toList)
  /-- Without any name it is the pointer to the whole value. -/
  isRoot : p.isRoot = true ↔ names = []
  /-- One step up from a name that was added is the pointer before. -/
  parent : ∀ key, (p.push key).parent? = some p
  /-- The last name is the one that was added. -/
  last : ∀ key, (p.push key).last? = some key
  /-- No other names are written with the same text. -/
  apart : ∀ others, (ofNames others).text = p.text → others = names
  /-- In every value it addresses the node that the names lead to, and nothing else. -/
  addresses : ∀ value node : Json, value.at? p = some node ↔ value.Leads names node

/-- The pointer that was pushed from a list of names spells them. -/
theorem spells_ofNames (names : List String) : (ofNames names).Spells names where
  segments := segments_ofNames names
  written := by
    have hname (key : String) :
        replacePair '~' '0' '~' (replacePair '~' '1' '/' (token key).toList) = key.toList := by
      rw [← unescape_eq, token, String.toList_ofList, unescape_escape]
    rw [split_text, List.tail_cons, tokens_ofNames, List.map_map, List.map_map]
    refine List.map_congr_left fun key _ => ?_
    simp only [Function.comp_apply, hname]
  pushed key := by rw [text_push, escape_eq]
  isRoot := isRoot_ofNames names
  parent := parent?_push _
  last := last?_push _
  apart _ h := text_ofNames_inj h
  addresses _ _ := at?_ofNames

end Pointer

end ApiDescription
