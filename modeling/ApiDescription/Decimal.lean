/-!
# Decimal text of binary fractions

A finite binary fraction is the centre of an interval of reals that round to it.  Its *shortest*
decimal is the one with the fewest digits inside that interval, and the nearest of those.  This
file finds it in exact arithmetic on natural numbers, and lays the digits out as text: where the
point goes, when an exponent is written, and with which sign.  Reading goes the other way, from
digits and a power of ten to the nearest binary fraction.
-/

namespace ApiDescription

/-- A decimal fraction `coefficient * 10 ^ exponent`. -/
structure Decimal where
  /-- The digits, read as one number. -/
  coefficient : Nat
  /-- The power of ten of the last digit. -/
  exponent : Int
deriving DecidableEq, Repr, Inhabited

namespace Decimal

/-- The same fraction without zeros at the end of its coefficient; `bound` limits the zeros
removed. -/
def trimZeros : Nat → Decimal → Decimal
  | 0, d => d
  | bound + 1, d =>
    if d.coefficient % 10 = 0 then trimZeros bound ⟨d.coefficient / 10, d.exponent + 1⟩ else d

/-- An interval of reals around a centre, all three as numerators over one denominator. -/
structure Interval where
  /-- The centre. -/
  centre : Nat
  /-- The lower end. -/
  lower : Nat
  /-- The upper end. -/
  upper : Nat
  /-- The common denominator. -/
  denominator : Nat
  /-- Whether the ends belong to the interval. -/
  closed : Bool
deriving Repr

namespace Interval

/-- Whether the fraction `n / denominator` lies in the interval. -/
def holds (i : Interval) (n : Nat) : Bool :=
  if i.closed then i.lower ≤ n && n ≤ i.upper else i.lower < n && n < i.upper

/-- The interval with every part multiplied by `10 ^ k`. -/
def scale (i : Interval) (k : Int) : Interval :=
  if 0 ≤ k then
    let p := Nat.pow 10 k.toNat
    { i with centre := i.centre * p, lower := i.lower * p, upper := i.upper * p }
  else { i with denominator := i.denominator * Nat.pow 10 (-k).toNat }

/-- The power of ten of the leading digit of the centre. -/
def magnitude (i : Interval) : Int :=
  if i.denominator ≤ i.centre then (Nat.toDigits 10 (i.centre / i.denominator)).length - 1
  else
    let places := (Nat.toDigits 10 (i.denominator / i.centre)).length
    if i.denominator = i.centre * Nat.pow 10 (places - 1) then 1 - (places : Int) else -(places : Int)

/-- The point of the grid of `count` leading digits that lies in the interval nearest to its
centre; of two equally near the even one. -/
def onGrid (i : Interval) (count : Nat) : Option Decimal :=
  let last := i.magnitude - count + 1
  let j := i.scale (-last)
  let below := j.centre / j.denominator
  let above := below + 1
  let lowHit := j.holds (below * j.denominator) && below != 0
  let highHit := j.holds (above * j.denominator)
  if lowHit && highHit then
    let toBelow := j.centre - below * j.denominator
    let toAbove := above * j.denominator - j.centre
    let takesBelow := toBelow < toAbove || (toBelow = toAbove && below % 2 = 0)
    some ⟨if takesBelow then below else above, last⟩
  else if lowHit then some ⟨below, last⟩
  else if highHit then some ⟨above, last⟩
  else none

end Interval

/-- The fewest digits, from `count` on and for at most `more` further digits, with a point in the
interval. -/
def shortestFrom (i : Interval) (count : Nat) : Nat → Decimal
  | 0 => (i.onGrid count).getD ⟨0, 0⟩
  | more + 1 =>
    match i.onGrid count with
    | some d => trimZeros 20 d
    | none => shortestFrom i (count + 1) more

/-- The interval of reals that round to the double with these mantissa and exponent fields. -/
def roundingInterval (mantissa exponentField : Nat) : Interval :=
  let significand := if exponentField = 0 then mantissa else mantissa + Nat.pow 2 52
  let power : Int := (if exponentField = 0 then 1 else exponentField : Nat) - 1075
  let half := if mantissa = 0 && 1 < exponentField then 1 else 2
  let scaled : Interval :=
    { centre := 4 * significand, lower := 4 * significand - half, upper := 4 * significand + 2,
      denominator := 4, closed := significand % 2 = 0 }
  if 0 ≤ power then
    let p := Nat.pow 2 power.toNat
    { scaled with centre := scaled.centre * p, lower := scaled.lower * p, upper := scaled.upper * p }
  else { scaled with denominator := scaled.denominator * Nat.pow 2 (-power).toNat }

/-- The shortest decimal that reads back as the magnitude of a finite double. -/
def ofFloat (f : Float) : Decimal :=
  let bits := f.toBits.toNat
  let mantissa := bits % Nat.pow 2 52
  let exponentField := bits / Nat.pow 2 52 % Nat.pow 2 11
  if mantissa = 0 && exponentField = 0 then ⟨0, 0⟩
  else shortestFrom (roundingInterval mantissa exponentField) 1 17

/-- The quotient of two numbers rounded to the nearest, of two equally near to the even one. -/
def roundedQuotient (n d : Nat) : Nat :=
  let q := n / d
  let r := n % d
  if d < 2 * r || (2 * r = d && q % 2 = 1) then q + 1 else q

/-- The bits of the double nearest to a positive fraction. -/
def bitsOfFraction (n d : Nat) : Nat :=
  let estimate : Int := (n.log2 : Int) - d.log2 - 52
  let belowRange : Bool :=
    if 0 ≤ estimate + 52 then n < d * Nat.pow 2 (estimate + 52).toNat
    else n * Nat.pow 2 (-(estimate + 52)).toNat < d
  let power : Int := max (if belowRange then estimate - 1 else estimate) (-1074)
  let significand :=
    if 0 ≤ power then roundedQuotient n (d * Nat.pow 2 power.toNat)
    else roundedQuotient (n * Nat.pow 2 (-power).toNat) d
  if significand < Nat.pow 2 52 then significand
  else min ((power + 1074).toNat * Nat.pow 2 52 + significand) (2047 * Nat.pow 2 52)

/-- The double nearest to `coefficient * 10 ^ exponent`.  Magnitudes outside the range of doubles
are told by their number of digits, so that no large power is computed. -/
def toFloat (d : Decimal) : Float :=
  let top : Int := (Nat.toDigits 10 d.coefficient).length + d.exponent
  let bits :=
    if d.coefficient = 0 || top < -330 then 0
    else if 310 < top then 2047 * Nat.pow 2 52
    else if 0 ≤ d.exponent then bitsOfFraction (d.coefficient * Nat.pow 10 d.exponent.toNat) 1
    else bitsOfFraction d.coefficient (Nat.pow 10 (-d.exponent).toNat)
  Float.ofBits bits.toUInt64

/-! ## Layout -/

/-- How a double is written. -/
structure Layout where
  /-- The exponents of a leading digit for which no exponent is written. -/
  positional : Int → Bool
  /-- Whether a positive exponent carries a sign. -/
  signed : Bool
  /-- The text of infinity. -/
  infinity : String
  /-- The text of what is no number. -/
  notANumber : String

/-- JSON writes the exponent outside `10^-5 … 10^15`, with its sign. -/
def Layout.json : Layout where
  positional e := -5 ≤ e && e < 16
  signed := true
  infinity := "inf"
  notANumber := "NaN"

/-- YAML writes the exponent for the same magnitudes, a positive one without sign. -/
def Layout.yaml : Layout where
  positional e := -5 ≤ e && e < 16
  signed := false
  infinity := ".inf"
  notANumber := ".nan"

/-- A number named in a message is written in full. -/
def Layout.full : Layout where
  positional _ := true
  signed := false
  infinity := "inf"
  notANumber := "NaN"

/-- The digits of `d` with the point in its place, and at least one digit on either side. -/
def pointText (digits : String) (exponent : Int) : String :=
  let count : Int := digits.length
  let whole := count + exponent
  if 0 ≤ exponent then digits ++ "".pushn '0' exponent.toNat ++ ".0"
  else if 0 < whole then
    String.ofList (digits.toList.take whole.toNat) ++ "." ++
      String.ofList (digits.toList.drop whole.toNat)
  else "0." ++ "".pushn '0' (-whole).toNat ++ digits

/-- The digits with the point after the first, and the power of ten of that first digit. -/
def exponentText (layout : Layout) (digits : String) (exponent : Int) : String :=
  let leading := exponent + digits.length - 1
  let mantissa :=
    match digits.toList with
    | [] => ""
    | [d] => String.singleton d
    | d :: rest => String.ofList (d :: '.' :: rest)
  let sign := if layout.signed && 0 < leading then "+" else ""
  mantissa ++ "e" ++ sign ++ toString leading

/-- The text of a decimal without its sign. -/
def text (layout : Layout) (d : Decimal) : String :=
  let digits := toString d.coefficient
  if d.coefficient = 0 then "0.0"
  else if layout.positional (d.exponent + digits.length - 1) then pointText digits d.exponent
  else exponentText layout digits d.exponent

end Decimal

/-- The text of a double: the shortest digits that read back, laid out as `layout` says. -/
def Decimal.Layout.float (layout : Decimal.Layout) (f : Float) : String :=
  let negative := f.toBits.toNat / Nat.pow 2 63 = 1
  if f.isNaN then layout.notANumber
  else
    let magnitude := if f.isInf then layout.infinity else (Decimal.ofFloat f).text layout
    if negative then "-" ++ magnitude else magnitude

end ApiDescription
