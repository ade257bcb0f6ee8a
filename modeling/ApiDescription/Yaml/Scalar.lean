import ApiDescription.Decimal
import ApiDescription.Text.Hexadecimal
import ApiDescription.Yaml.Tag

/-!
# What a plain scalar means

A plain scalar without tag is null, a truth value, an integer, a double or a text.  Integers are
decimal, hexadecimal, octal or binary; a decimal with a zero in front of other digits is a text.
A double is a decimal fraction with a finite value, or one of the names of infinity and of what is
no number.

A tag of the core schema says what a scalar must mean, however it is written; other tags make it a
text, but those of applications leave its meaning to the scalar itself.
-/

namespace ApiDescription.Yaml.Scalar

/-- Whether a text is a name of null. -/
def isNull (text : String) : Bool := ["null", "Null", "NULL", "~"].contains text

/-- The truth value that a text names. -/
def bool? (text : String) : Option Bool :=
  if ["true", "True", "TRUE"].contains text then some true
  else if ["false", "False", "FALSE"].contains text then some false
  else none

/-- A text without the sign in front of it. -/
def unsigned : List Char → List Char
  | '+' :: rest => rest
  | '-' :: rest => rest
  | text => text

/-- Whether a text is digits with a zero in front of others, which makes no number. -/
def hasLeadingZero (text : List Char) : Bool :=
  match unsigned text with
  | '0' :: d :: rest => (d :: rest).all Char.isDigit
  | _ => false

/-- The number that digits of a base write; there must be one at least. -/
def natural? (base : Nat) (digits : List Char) : Option Nat :=
  if digits.isEmpty then none
  else digits.foldlM (fun n c => do
    let d ← Text.hexValue? c
    if d < base then some (n * base + d) else none) 0

/-- The number behind a base indicator. -/
def indicated? : List Char → Option Nat
  | '0' :: 'x' :: digits => natural? 16 digits
  | '0' :: 'o' :: digits => natural? 8 digits
  | '0' :: 'b' :: digits => natural? 2 digits
  | _ => none

/-- The number of a text without sign. -/
def magnitude? (text : List Char) : Option Nat :=
  match indicated? text with
  | some n => some n
  | none => if hasLeadingZero text then none else natural? 10 text

/-- The integer that a text writes, however large. -/
def integer? (text : String) : Option Int :=
  match text.toList with
  | '-' :: rest => (magnitude? rest).map fun n => -(n : Int)
  | '+' :: rest => (magnitude? rest).map Int.ofNat
  | rest => (magnitude? rest).map Int.ofNat

/-- What an integer is by its size. -/
inductive Width where
  /-- It fits 64 bits. -/
  | fits
  /-- It fits 128 bits only, and is refused; the word names its type. -/
  | wide (word : String)
  /-- It fits neither; a decimal is then read as a double. -/
  | beyond
deriving DecidableEq, Repr

/-- What an integer is by its size: without sign up to 64 bits, with sign up to 63. -/
def widthOf (n : Int) : Width :=
  if 0 ≤ n then
    if n < Nat.pow 2 64 then .fits else if n < Nat.pow 2 128 then .wide "u128" else .beyond
  else if -Nat.pow 2 63 ≤ n then .fits
  else if -Nat.pow 2 127 ≤ n then .wide "i128"
  else .beyond

/-- The fraction that digits, a point and an exponent write. -/
def decimal? (text : List Char) : Option Decimal := do
  let whole := text.takeWhile Char.isDigit
  let text := text.drop whole.length
  let (fraction, text) :=
    match text with
    | '.' :: rest => (rest.takeWhile Char.isDigit, rest.dropWhile Char.isDigit)
    | _ => ([], text)
  let digits := whole ++ fraction
  if digits.isEmpty then none
  else
    let exponent ←
      match text with
      | [] => some (0 : Int)
      | e :: rest =>
        if e = 'e' || e = 'E' then
          match rest with
          | '-' :: ds =>
            if ds.all Char.isDigit then (natural? 10 ds).map fun n => -(n : Int) else none
          | '+' :: ds => if ds.all Char.isDigit then (natural? 10 ds).map Int.ofNat else none
          | ds => if ds.all Char.isDigit then (natural? 10 ds).map Int.ofNat else none
        else none
    let coefficient ← natural? 10 digits
    return ⟨coefficient, exponent - fraction.length⟩

/-- The finite double that a text without `+` writes. -/
def finite? (text : List Char) : Option Float := do
  let value ←
    match text with
    | '-' :: rest => (decimal? rest).map fun d => -d.toFloat
    | rest => (decimal? rest).map Decimal.toFloat
  if value.isInf then none else some value

/-- The names of infinity. -/
def isInfinity (text : String) : Bool := [".inf", ".Inf", ".INF"].contains text

/-- The names of what is no number. -/
def isNotANumber (text : String) : Bool := [".nan", ".NaN", ".NAN"].contains text

/-- The double that a text writes. -/
def float? (text : String) : Option Float :=
  match text.toList with
  | '+' :: '+' :: _ => none
  | '+' :: '-' :: _ => none
  | '+' :: rest => if isInfinity (String.ofList rest) then some (1.0 / 0.0) else finite? rest
  | '-' :: rest =>
    if isInfinity (String.ofList rest) then some (-1.0 / 0.0) else finite? ('-' :: rest)
  | rest =>
    if isInfinity text then some (1.0 / 0.0)
    else if isNotANumber text then some (0.0 / 0.0)
    else finite? rest

/-- What a plain scalar means. -/
inductive Meaning where
  /-- Null. -/
  | null
  /-- A truth value. -/
  | bool (value : Bool)
  /-- An integer of 64 bits. -/
  | int (value : Int)
  /-- An integer that fits no 64 bits, with the word for its type. -/
  | wide (value : Int) (word : String)
  /-- A double. -/
  | float (value : Float)
  /-- A text. -/
  | text (value : String)
deriving Repr

/-- The integer that a text writes, unless it is beyond all widths. -/
def intMeaning? (text : String) : Option Meaning := do
  let n ← integer? text
  match widthOf n with
  | .fits => some (.int n)
  | .wide word => some (.wide n word)
  | .beyond => none

/-- What a plain scalar without tag means. -/
def meaning (text : String) : Meaning :=
  if text.isEmpty || isNull text then .null
  else
    match bool? text, intMeaning? text with
    | some b, _ => .bool b
    | none, some m => m
    | none, none =>
      if hasLeadingZero text.toList then .text text
      else
        match float? text with
        | some f => .float f
        | none => .text text

/-! ## Tags -/

/-- What a scalar without a tag of the core schema means. -/
def meaningBy (isPlain : Bool) (text : String) : Meaning :=
  if isPlain then meaning text else .text text

/-- What a scalar under a tag means; if it is not what the tag says, the words for that. -/
def meaningUnder (tag : Option Tag) (isPlain : Bool) (text : String) :
    Except String Meaning :=
  match tag with
  | none => .ok (meaningBy isPlain text)
  | some tag =>
    let must (found : Option Meaning) (expected : String) : Except String Meaning :=
      match found with
      | some m => .ok m
      | none => .error expected
    if tag = Tag.core "bool" then must ((bool? text).map .bool) "a boolean"
    else if tag = Tag.core "int" then must (intMeaning? text) "an integer"
    else if tag = Tag.core "float" then must ((float? text).map .float) "a float"
    else if tag = Tag.core "null" then must (if isNull text then some .null else none) "null"
    else if tag.isLocal then .ok (meaningBy isPlain text)
    else .ok (.text text)

end ApiDescription.Yaml.Scalar
