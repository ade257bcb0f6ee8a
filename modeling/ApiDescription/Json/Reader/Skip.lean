import ApiDescription.Json.Reader

/-!
# Passing over values

A value that nobody asks for is passed over: only its outline is read, so numbers may be of any
size, escapes need not form characters, and containers may be nested to any depth.  The containers
that are open are kept in a list, the innermost first.
-/

namespace ApiDescription.Json.Reader

/-- The two kinds of containers. -/
inductive Container where
  /-- An array. -/
  | list
  /-- An object. -/
  | object
deriving DecidableEq, Repr

namespace Container

/-- The character that ends a container. -/
def close : Container → Char
  | list => ']'
  | object => '\x7d'

/-- The rule that is broken where the text ends in a container. -/
def atEnd : Container → Rule
  | list => .endInList
  | object => .endInObject

/-- The rule that is broken where neither a comma nor the end of a container follows a part. -/
def expected : Container → Rule
  | list => .expectedListEnd
  | object => .expectedObjectEnd

end Container

/-- Passes over digits, of which there must be one at least. -/
def skipDigits : Reader Unit := do
  if (← digits).isEmpty then failNext .invalidNumber

/-- Passes over an exponent, if there is one. -/
def skipExponent : Reader Unit := do
  match ← peek with
  | some 'e' | some 'E' =>
    skip
    match ← peek with
    | some '+' | some '-' => skip
    | _ => pure ()
    skipDigits
  | _ => return

/-- Passes over a fraction and an exponent, as far as there are any. -/
def skipFraction : Reader Unit := do
  if (← peek) = some '.' then
    skip
    skipDigits
  skipExponent

/-- Passes over a number whose sign has been taken. -/
def skipNumber : Reader Unit := do
  match ← peek with
  | some '0' =>
    skip
    if ((← peek).map Char.isDigit).getD false then failNext .invalidNumber
  | _ => skipDigits
  skipFraction

/-- Passes over what follows a backslash. -/
def skipEscape : Reader Unit := do
  match ← peek with
  | none => fail .endInString
  | some 'u' =>
    skip
    discard hexUnit
  | some letter => if (simpleEscape? letter).isSome then skip else failNext .invalidEscape

/-- Passes over the rest of a string whose opening quote has been taken. -/
def skipStringFrom : Nat → Reader Unit
  | 0 => fail .endInString
  | bound + 1 => do
    match ← next with
    | none => fail .endInString
    | some '"' => return
    | some '\\' =>
      skipEscape
      skipStringFrom bound
    | some c => if c.toNat < 0x20 then fail .controlCharacter else skipStringFrom bound

/-- Passes over the rest of a string whose opening quote has been taken. -/
def skipString : Reader Unit := do
  skipStringFrom ((← get).rest.length + 1)

/-- Passes over what stands before the value of a part of a container: the name of a member and
its colon. -/
def skipName : Container → Reader Unit
  | .list => return
  | .object => do
    match ← peekToken with
    | some '"' =>
      skip
      skipString
      colon
    | some _ => failNext .keyNotString
    | none => failNext .endInObject

mutual

/-- Passes over a value and over the rest of the containers around it. -/
def skipValueIn (opened : List Container) : Nat → Reader Unit
  | 0 => fail .endInValue
  | bound + 1 => do
    match ← peekToken with
    | none => failNext .endInValue
    | some '[' =>
      skip
      skipRest (.list :: opened) false bound
    | some '\x7b' =>
      skip
      skipRest (.object :: opened) false bound
    | some c =>
      if c = 'n' then
        skip
        word ['u', 'l', 'l']
      else if c = 't' then
        skip
        word ['r', 'u', 'e']
      else if c = 'f' then
        skip
        word ['a', 'l', 's', 'e']
      else if c = '-' then
        skip
        skipNumber
      else if c.isDigit then skipNumber
      else if c = '"' then
        skip
        skipString
      else failNext .expectedValue
      skipRest opened true bound

/-- Passes over the rest of the containers that are open; `behindPart` tells whether the innermost
has a part already. -/
def skipRest (opened : List Container) (behindPart : Bool) : Nat → Reader Unit
  | 0 => fail .endInValue
  | bound + 1 =>
    match opened with
    | [] => return
    | inner :: outer => do
      match ← peekToken with
      | none => failNext inner.atEnd
      | some c =>
        if c = inner.close then
          skip
          skipRest outer true bound
        else if !behindPart then
          skipName inner
          skipValueIn opened bound
        else if c = ',' then
          skip
          skipName inner
          skipValueIn opened bound
        else failNext inner.expected

end

/-- Passes over a value. -/
def skipValue : Reader Unit := do
  skipValueIn [] (2 * (← get).rest.length + 2)

end ApiDescription.Json.Reader
