/-!
# Host labels outside ASCII

A label of a host name that holds characters outside ASCII is written in ASCII: first its
characters that are ASCII, then, behind a hyphen, the steps that insert the others.  Each step is a
number whose digits are letters and decimal digits, and the weight of a digit adapts to the steps
before.  A step tells how far it is to the next insertion, counted in places of the label, over and
over again with the next greater character.
-/

namespace ApiDescription.Punycode

/-! ## Numbers -/

/-- The digit of a value below 36: letters first. -/
def digit (n : Nat) : Char :=
  if n < 26 then Char.ofNat ('a'.toNat + n) else Char.ofNat ('0'.toNat + (n - 26))

/-- The threshold of the digit at a place, counted in steps of 36. -/
def threshold (place bias : Nat) : Nat :=
  if place ≤ bias then 1 else min 26 (place - bias)

theorem one_le_threshold (place bias : Nat) : 1 ≤ threshold place bias := by
  rw [threshold]
  split <;> omega

/-- The digits of a number, least first. -/
def digits (bias place n : Nat) : List Char :=
  let t := threshold place bias
  if n < t then [digit n]
  else digit (t + (n - t) % (36 - t)) :: digits bias (place + 36) ((n - t) / (36 - t))
termination_by n
decreasing_by
  have h := one_le_threshold place bias
  have := Nat.div_le_self (n - threshold place bias) (36 - threshold place bias)
  omega

/-- The bias that a spread of steps calls for. -/
def settle (spread bias : Nat) : Nat :=
  if 455 < spread then settle (spread / 35) (bias + 36)
  else bias + 36 * spread / (spread + 38)
termination_by spread

/-- The bias after a step. -/
def nextBias (step count : Nat) (isFirst : Bool) : Nat :=
  let spread := if isFirst then step / 700 else step / 2
  settle (spread + spread / count) 0

/-! ## Writing -/

/-- What has been written of the inserted characters. -/
structure Progress where
  /-- The digits written. -/
  written : List Char
  /-- The length of the step so far. -/
  step : Nat
  /-- The bias. -/
  bias : Nat
  /-- The number of characters in place. -/
  placed : Nat

/-- Goes past one character of the label while those with a given code are inserted. -/
def Progress.pass (basic code : Nat) (p : Progress) (c : Char) : Progress :=
  if c.toNat < code then { p with step := p.step + 1 }
  else if c.toNat = code then {
    written := p.written ++ digits p.bias 36 p.step
    step := 0
    bias := nextBias p.step (p.placed + 1) (p.placed = basic)
    placed := p.placed + 1 }
  else p

/-- Inserts the characters with the given codes, least first; `next` is the least code that is
not in place. -/
def insertAll (label : List Char) (basic : Nat) : List Nat → Nat → Progress → Progress
  | [], _, p => p
  | code :: rest, next, p =>
    let p := { p with step := p.step + (code - next) * (p.placed + 1) }
    let p := label.foldl (Progress.pass basic code) p
    insertAll label basic rest (code + 1) { p with step := p.step + 1 }

/-- The label in ASCII, without a mark at its front. -/
def encode (label : List Char) : List Char :=
  let basic := label.filter (·.toNat < 0x80)
  let codes := ((label.map Char.toNat).filter (0x80 ≤ ·)).mergeSort.eraseDups
  let inserted := (insertAll label basic.length codes 0x80 ⟨[], 0, 72, basic.length⟩).written
  if basic.isEmpty then inserted else basic ++ '-' :: inserted

/-! ## Reading -/

/-- The value of a digit, in letters of either size. -/
def digitValue? (c : Char) : Option Nat :=
  if c.isAlpha then some (c.toLower.toNat - 'a'.toNat)
  else if c.isDigit then some (c.toNat - '0'.toNat + 26)
  else none

/-- What has been read of the inserted characters. -/
structure Reading where
  /-- The label so far. -/
  label : List Char
  /-- The place of the next insertion, if no step were left. -/
  position : Nat
  /-- The code of the character to insert next, if no step were left. -/
  code : Nat
  /-- The bias. -/
  bias : Nat
  /-- The part of the step that has been read. -/
  step : Nat
  /-- The weight of the next digit. -/
  weight : Nat
  /-- The place of the next digit, counted in steps of 36. -/
  place : Nat

/-- Carries a step out that is read to its end: the character it leads to is inserted. -/
def Reading.insert? (r : Reading) : Option Reading :=
  let places := r.label.length + 1
  let target := r.position + r.step
  let code := r.code + target / places
  if code.isValidChar then
    some {
      label := r.label.insertIdx (target % places) (Char.ofNat code)
      position := target % places + 1
      code
      bias := nextBias r.step places (r.position = 0)
      step := 0
      weight := 1
      place := 36 }
  else none

/-- Reads a digit: one below the threshold is the last of its step. -/
def Reading.digit? (r : Reading) (c : Char) : Option Reading := do
  let value ← digitValue? c
  let t := threshold r.place r.bias
  let r := { r with step := r.step + value * r.weight }
  if value < t then r.insert?
  else some { r with weight := r.weight * (36 - t), place := r.place + 36 }

/-- The characters in front of the last hyphen, and those behind it; without a hyphen all stand
behind it. -/
def cutLastHyphen (text : List Char) : List Char × List Char :=
  let behind := (text.reverse.takeWhile (· ≠ '-')).reverse
  ((text.take (text.length - behind.length)).dropLast, behind)

/-- The label that a text in ASCII writes, without a mark at its front. -/
def decode? (text : List Char) : Option (List Char) := do
  let (basic, digits) := cutLastHyphen text
  let r ← digits.foldlM Reading.digit? ⟨basic, 0, 0x80, 72, 0, 1, 36⟩
  if r.place = 36 then some r.label else none

end ApiDescription.Punycode
