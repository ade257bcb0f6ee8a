import ApiDescription.Text.Percent
import ApiDescription.Text.Split
import ApiDescription.Uri.HostName

/-!
# Hosts

The host of a URI is a name, an address of four bytes or an address of eight pieces.  In the
schemes of the web a name whose last label is a number must be an address, in any of the short and
octal and hexadecimal ways to write one, and any other name is written in ASCII; in other schemes a
name is taken as it stands.
-/

namespace ApiDescription

/-- The host of a URI. -/
inductive Host where
  /-- A name; empty if there is no host. -/
  | name (text : String)
  /-- An address of four bytes. -/
  | four (address : Nat)
  /-- An address of eight pieces. -/
  | eight (pieces : List Nat)
deriving DecidableEq, Repr, Inhabited

namespace Host

/-! ## Addresses of four bytes -/

/-- The number that digits write in a base. -/
def number (base : Nat) (digits : List Char) : Nat :=
  digits.foldl (fun n c => n * base + (Text.hexValue? c).getD 0) 0

/-- Whether all characters are digits of a base. -/
def areDigits (base : Nat) (text : List Char) : Bool :=
  text.all fun c => (Text.hexValue? c).any (· < base)

/-- A number of an address: hexadecimal behind `0x`, octal behind `0`, and decimal. -/
def addressNumber? (label : List Char) : Option Nat :=
  let (base, digits) : Nat × List Char :=
    match label with
    | '0' :: 'x' :: rest => (16, rest)
    | '0' :: 'X' :: rest => (16, rest)
    | '0' :: c :: rest => (8, c :: rest)
    | whole => (10, whole)
  if label.isEmpty || !areDigits base digits then none else some (number base digits)

/-- The labels of a name, without the empty one behind a last dot. -/
def labels (name : List Char) : List (List Char) :=
  let all := Text.split '.' name
  if 1 < all.length && all.getLast? = some [] then all.dropLast else all

/-- Whether the last label is a number, so that the name must be an address. -/
def endsInNumber (name : List Char) : Bool :=
  match (labels name).getLast? with
  | some last => (!last.isEmpty && areDigits 10 last) || (addressNumber? last).isSome
  | none => false

/-- The address that labels write: the last number fills the bytes that the others leave. -/
def four? (name : List Char) : Option Nat := do
  let numbers ← (labels name).mapM addressNumber?
  let last ← numbers.getLast?
  let front := numbers.dropLast
  if 3 < front.length || front.any (255 < ·) || Nat.pow 256 (4 - front.length) ≤ last then none
  else some (front.foldl (fun sum n => sum * 256 + n) 0 * Nat.pow 256 (4 - front.length) + last)

/-- The text of an address of four bytes. -/
def fourText (address : Nat) : String :=
  ".".intercalate ([3, 2, 1, 0].map fun place => toString (address / Nat.pow 256 place % 256))

/-! ## Addresses of eight pieces -/

/-- The two pieces that four decimal bytes write. -/
def bytesPieces? (text : List Char) : Option (List Nat) := do
  let byte? (digits : List Char) : Option Nat :=
    let n := number 10 digits
    let isPlain := digits.length = 1 || digits.head? ≠ some '0'
    if !digits.isEmpty && areDigits 10 digits && isPlain && n < 256 then some n else none
  match ← (Text.split '.' text).mapM byte? with
  | [a, b, c, d] => some [a * 256 + b, c * 256 + d]
  | _ => none

/-- The pieces that groups between colons write; the last may be four decimal bytes. -/
def groupPieces? (mayEndInBytes : Bool) : List (List Char) → Option (List Nat)
  | [] => some []
  | group :: rest =>
    if '.' ∈ group then
      if mayEndInBytes && rest.isEmpty then bytesPieces? group else none
    else if !group.isEmpty && group.length ≤ 4 && areDigits 16 group then
      (groupPieces? mayEndInBytes rest).map (number 16 group :: ·)
    else none

/-- The groups between colons; none in an empty text. -/
def groups (text : List Char) : List (List Char) :=
  if text.isEmpty then [] else Text.split ':' text

/-- The text before the first double colon and the text behind it. -/
def cutDoubleColon : List Char → List Char × Option (List Char)
  | ':' :: ':' :: rest => ([], some rest)
  | c :: rest =>
    let (before, behind) := cutDoubleColon rest
    (c :: before, behind)
  | [] => ([], none)

/-- The pieces of an address; a double colon stands for one piece of zero or more. -/
def eight? (text : List Char) : Option (List Nat) := do
  match cutDoubleColon text with
  | (whole, none) =>
    let pieces ← groupPieces? true (groups whole)
    if pieces.length = 8 then some pieces else none
  | (before, some behind) =>
    let front ← groupPieces? false (groups before)
    let back ← groupPieces? true (groups behind)
    if front.length + back.length ≤ 7 then
      some (front ++ List.replicate (8 - front.length - back.length) 0 ++ back)
    else none

/-- The number of zeros at the front. -/
def zeros (pieces : List Nat) : Nat := (pieces.takeWhile (· = 0)).length

/-- The place of the first longest run of zeros, and its length. -/
def longestZeros : List Nat → Nat × Nat
  | [] => (0, 0)
  | piece :: rest =>
    let (place, length) := longestZeros rest
    let here := zeros (piece :: rest)
    if length ≤ here then (0, here) else (place + 1, length)

/-- The pieces in hexadecimal, with colons between them. -/
def piecesText (pieces : List Nat) : String :=
  ":".intercalate (pieces.map fun piece => String.ofList (Nat.toDigits 16 piece))

/-- The text of an address of eight pieces: the first longest run of two zeros or more is written
as a double colon. -/
def eightText (pieces : List Nat) : String :=
  let (place, length) := longestZeros pieces
  if 2 ≤ length then
    piecesText (pieces.take place) ++ "::" ++ piecesText (pieces.drop (place + length))
  else piecesText pieces

/-! ## Names -/

/-- The controls of ASCII. -/
def isControl (c : Char) : Bool := c.toNat < 0x20 || c.toNat = 0x7F

/-- A host of the web: what is percent-encoded is decoded, and the name is written in ASCII. -/
def webName? (text : List Char) : Option Host := do
  let name ← HostName.ascii? (Percent.decode text)
  if name.isEmpty then none
  else if endsInNumber name then (four? name).map .four
  else some (.name (String.ofList name))

/-- An address in brackets. -/
def bracketed? (text : List Char) : Option Host :=
  if text.getLast? = some ']' then (eight? text.dropLast).map .eight else none

/-- The host that a text names; `isWeb` tells whether the scheme is one of the web. -/
def parse? (isWeb : Bool) (text : List Char) : Option Host :=
  match text with
  | '[' :: rest => bracketed? rest
  | _ =>
    if isWeb then webName? text
    else if text.any HostName.isForbidden then none
    else some (.name (String.ofList (Percent.encode isControl text)))

/-- Whether there is no host. -/
def isEmpty (host : Host) : Bool := host = .name ""

/-- The text of a host. -/
def text : Host → String
  | .name text => text
  | .four address => fourText address
  | .eight pieces => "[" ++ eightText pieces ++ "]"

end Host

end ApiDescription
