import ApiDescription.Text.Hexadecimal
import ApiDescription.Text.Split

/-!
# Tables over codes

A property of characters is given by ranges of their codes in increasing order, each perhaps with
codes that belong to it.  A table is written down as a text: hexadecimal ranges with blanks between
them, `300-36F` or `AD`, and behind a colon what belongs to a range, `C0:41,300`.

A search halves the table.
-/

namespace ApiDescription.Text

/-- Codes that follow each other, and the codes that belong to them. -/
structure CodeRange where
  /-- The least code. -/
  first : Nat
  /-- The greatest code. -/
  last : Nat
  /-- What belongs to the range. -/
  values : List Nat
deriving DecidableEq, Repr, Inhabited

/-- A table: ranges in increasing order. -/
structure CodeTable where
  /-- The ranges. -/
  ranges : Array CodeRange
deriving Repr

namespace CodeTable

/-! ## Reading a table -/

/-- The words read so far, the last first, and the letters of the next one, the last first. -/
def wordStep : List (List Char) × List Char → Char → List (List Char) × List Char
  | (words, letters), c =>
    if isGap c then (if letters.isEmpty then words else letters.reverse :: words, [])
    else (words, c :: letters)
where
  /-- Whether a character stands between words. -/
  isGap (c : Char) : Bool := c = ' ' || c = '\n'

/-- The words of a text, between blanks and line ends. -/
def words (text : String) : List (List Char) :=
  ((text ++ " ").toList.foldl wordStep ([], [])).1.reverse

/-- The code that hexadecimal digits write. -/
def code (digits : List Char) : Nat :=
  digits.foldl (fun n c => n * 16 + (hexValue? c).getD 0) 0

/-- The range that a word writes. -/
def rangeOf (word : List Char) : CodeRange :=
  let (codes, values) := cut ':' word
  let (first, last) := cut '-' codes
  let valueCodes := (values.map fun text => (split ',' text).map code).getD []
  ⟨code first, code (last.getD first), valueCodes⟩

/-- The table that a text writes. -/
def ofText (text : String) : CodeTable := ⟨((words text).map rangeOf).toArray⟩

/-! ## Looking up -/

/-- The range that holds a code, among those from one place up to another. -/
def search (ranges : Array CodeRange) (n low high : Nat) : Option CodeRange :=
  if low < high then
    match ranges[(low + high) / 2]? with
    | none => none
    | some range =>
      if n < range.first then search ranges n low ((low + high) / 2)
      else if range.last < n then search ranges n ((low + high) / 2 + 1) high
      else some range
  else none
termination_by high - low

/-- The range that holds a code. -/
def find? (table : CodeTable) (n : Nat) : Option CodeRange :=
  search table.ranges n 0 table.ranges.size

/-- Whether a character is in one of the ranges. -/
def contains (table : CodeTable) (c : Char) : Bool := (table.find? c.toNat).isSome

/-- What belongs to the code of a character; nothing if no range holds it. -/
def valuesOf (table : CodeTable) (c : Char) : List Nat :=
  ((table.find? c.toNat).map (·.values)).getD []

end CodeTable

end ApiDescription.Text
