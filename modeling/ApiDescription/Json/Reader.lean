import ApiDescription.Json
import ApiDescription.Text.Hexadecimal

/-!
# Reading JSON text

The strict grammar of JSON, read from left to right.  A failure says which rule is broken and
where: lines count from one, and a column is the number of bytes of its line up to and including
the byte that breaks the rule, so it is zero right after a line break.  At the end of the text the
place is that of the last byte.

A reader is a step from one cursor to the next; every loop carries a bound computed from the
length of the text, which no text exhausts.
-/

namespace ApiDescription.Json

/-- A place in a text: a line, and the bytes of that line that have been read. -/
structure Place where
  /-- The line, counted from one. -/
  line : Nat
  /-- The bytes of the line read so far. -/
  column : Nat
deriving DecidableEq, Repr, Inhabited

/-- The place after one more character. -/
def Place.after (p : Place) (c : Char) : Place :=
  if c = '\n' then ⟨p.line + 1, 0⟩ else ⟨p.line, p.column + c.utf8Size⟩

/-- The rules of JSON text that can be broken. -/
inductive Rule where
  | endInObject | endInList | endInValue | endInString | trailingCharacters | invalidNumber
  | numberOutOfRange | expectedIdent | expectedValue | expectedObjectEnd | expectedListEnd
  | expectedColon | keyNotString | trailingComma | controlCharacter | invalidEscape
  | unexpectedHexEnd | loneSurrogate | tooDeep
deriving DecidableEq, Repr, Inhabited

/-- The message for a broken rule. -/
def Rule.message : Rule → String
  | .endInObject => "EOF while parsing an object"
  | .endInList => "EOF while parsing a list"
  | .endInValue => "EOF while parsing a value"
  | .endInString => "EOF while parsing a string"
  | .trailingCharacters => "trailing characters"
  | .invalidNumber => "invalid number"
  | .numberOutOfRange => "number out of range"
  | .expectedIdent => "expected ident"
  | .expectedValue => "expected value"
  | .expectedObjectEnd => "expected \x60,\x60 or \x60\x7d\x60"
  | .expectedListEnd => "expected \x60,\x60 or \x60]\x60"
  | .expectedColon => "expected \x60:\x60"
  | .keyNotString => "key must be a string"
  | .trailingComma => "trailing comma"
  | .controlCharacter => "control character (\\u0000-\\u001F) found while parsing a string"
  | .invalidEscape => "invalid escape"
  | .unexpectedHexEnd => "unexpected end of hex escape"
  | .loneSurrogate => "lone leading surrogate in hex escape"
  | .tooDeep => "recursion limit exceeded"

/-- A broken rule and its place. -/
structure Failure where
  /-- The rule. -/
  rule : Rule
  /-- Where it is broken. -/
  place : Place
deriving DecidableEq, Repr, Inhabited

/-- What is left of a text, and the place reached. -/
structure Cursor where
  /-- The characters left. -/
  rest : List Char
  /-- The place reached. -/
  place : Place
deriving Repr, Inhabited

/-- The start of a text. -/
def Cursor.start (text : String) : Cursor := ⟨text.toList, ⟨1, 0⟩⟩

/-- The place one byte further, or the place itself at the end of the text. -/
def Cursor.peekPlace (c : Cursor) : Place :=
  match c.rest with
  | [] => c.place
  | '\n' :: _ => ⟨c.place.line + 1, 0⟩
  | _ :: _ => ⟨c.place.line, c.place.column + 1⟩

/-- A reader takes the text at a cursor and leaves the cursor behind what it read. -/
abbrev Reader (α : Type) := StateT Cursor (Except Failure) α

namespace Reader

/-- Fails at the place reached. -/
def fail {α : Type} (rule : Rule) : Reader α := do
  throw ⟨rule, (← get).place⟩

/-- Fails at the next byte. -/
def failNext {α : Type} (rule : Rule) : Reader α := do
  throw ⟨rule, (← get).peekPlace⟩

/-- The next character, which is left in place. -/
def peek : Reader (Option Char) := do
  return (← get).rest.head?

/-- Takes the next character. -/
def next : Reader (Option Char) := do
  match (← get) with
  | ⟨[], _⟩ => return none
  | ⟨c :: rest, place⟩ =>
    set (Cursor.mk rest (place.after c))
    return some c

/-- Takes the next character and forgets it. -/
def skip : Reader Unit := do
  discard next

/-- The four characters that JSON ignores between tokens. -/
def isBlank (c : Char) : Bool :=
  c = ' ' || c = '\n' || c = '\t' || c = '\r'

/-- The cursor behind the blanks at its front. -/
def pastBlanks : List Char → Place → Cursor
  | [], place => ⟨[], place⟩
  | c :: rest, place => if isBlank c then pastBlanks rest (place.after c) else ⟨c :: rest, place⟩

/-- Takes blanks, and looks at the character behind them. -/
def peekToken : Reader (Option Char) := do
  modify fun c => pastBlanks c.rest c.place
  peek

/-- Takes the rest of a word whose first letter has been taken. -/
def word : List Char → Reader Unit
  | [] => return ()
  | expected :: more => do
    match ← peek with
    | none => fail .endInValue
    | some c =>
      if c = expected then
        skip
        word more
      else failNext .expectedIdent

/-! ## Numbers -/

/-- The digits at the front of a text. -/
def leadingDigits (text : List Char) : List Char :=
  text.takeWhile Char.isDigit

/-- Takes one digit after another. -/
def digits : Reader (List Char) := do
  let ds := leadingDigits (← get).rest
  modify fun c => ⟨c.rest.drop ds.length, ⟨c.place.line, c.place.column + ds.length⟩⟩
  return ds

/-- The value of a digit. -/
def digitValue (c : Char) : Nat := c.toNat - '0'.toNat

/-- The digits of a number as far as they fit 64 bits: the number read, and the digits that no
longer fit. -/
def significand (start : Nat) : List Char → Nat × Nat
  | [] => (start, 0)
  | d :: rest =>
    let grown := start * 10 + digitValue d
    if grown < Nat.pow 2 64 then significand grown rest else (start, (d :: rest).length)

/-- A significand of 64 bits times or divided by a power of ten, computed in doubles; nothing when
the result is too large. -/
def scaled (significand : Nat) (exponent : Int) : Option Float :=
  let f := significand.toUInt64.toFloat
  if 0 ≤ exponent then
    if 308 < exponent then (if significand = 0 then some f else none)
    else
      let g := f * Decimal.toFloat ⟨1, exponent⟩
      if g.isInf then none else some g
  else if -308 ≤ exponent then some (f / Decimal.toFloat ⟨1, -exponent⟩)
  else if -616 ≤ exponent then some (f / 1e308 / Decimal.toFloat ⟨1, -exponent - 308⟩)
  else some 0.0

/-- A double, negative or not. -/
def signedFloat (negative : Bool) (f : Float) : Number :=
  .float (if negative then -f else f)

/-- A double from its parts. -/
def floatOfParts (negative : Bool) (significand : Nat) (exponent : Int) : Reader Number :=
  match scaled significand exponent with
  | some f => return signedFloat negative f
  | none => fail .numberOutOfRange

/-- The digits of an exponent: its value, or the digits left once it no longer fits 31 bits. -/
def exponentValue (start : Nat) : List Char → Nat ⊕ Nat
  | [] => .inl start
  | d :: rest =>
    let grown := start * 10 + digitValue d
    if grown < Nat.pow 2 31 then exponentValue grown rest else .inr rest.length

/-- Takes an exponent and gives the double of the whole number. -/
def exponentPart (negative : Bool) (significand : Nat) (starting : Int) : Reader Number := do
  skip
  let down ← do
    match ← peek with
    | some '+' => skip; pure false
    | some '-' => skip; pure true
    | _ => pure false
  match ← peek with
  | none => fail .endInValue
  | some c =>
    if !c.isDigit then failNext .invalidNumber
    skip
    let before ← get
    let ds ← digits
    match exponentValue (digitValue c) ds with
    | .inl e => floatOfParts negative significand (starting + if down then -(e : Int) else e)
    | .inr left =>
      if significand ≠ 0 && !down then
        let taken := ds.length - left
        set (Cursor.mk (before.rest.drop taken)
          ⟨before.place.line, before.place.column + taken⟩)
        fail .numberOutOfRange
      else return signedFloat negative 0.0

/-- Takes an exponent if there is one, and gives the double of the whole number. -/
def exponentOrEnd (negative : Bool) (significand : Nat) (exponent : Int) : Reader Number := do
  match ← peek with
  | some 'e' | some 'E' => exponentPart negative significand exponent
  | _ => floatOfParts negative significand exponent

/-- Takes a fraction, and an exponent if there is one. -/
def fractionPart (negative : Bool) (whole : Nat) (exponent : Int) : Reader Number := do
  skip
  let ds ← digits
  if ds.isEmpty then
    match ← peek with
    | some _ => failNext .invalidNumber
    | none => failNext .endInValue
  let (read, unread) := significand whole ds
  exponentOrEnd negative read (exponent - (ds.length - unread : Nat))

/-- Takes a number whose sign has been taken. -/
def number (negative : Bool) : Reader Number := do
  match ← peek with
  | none => fail .endInValue
  | some '0' =>
    skip
    match ← peek with
    | some '.' => fractionPart negative 0 0
    | some 'e' | some 'E' => exponentPart negative 0 0
    | some c =>
      if c.isDigit then failNext .invalidNumber
      else return if negative then .float (-0.0) else .int 0
    | none => return if negative then .float (-0.0) else .int 0
  | some c =>
    if !c.isDigit then failNext .invalidNumber
    skip
    let ds ← digits
    let (read, unread) := significand (digitValue c) ds
    match ← peek with
    | some '.' => fractionPart negative read unread
    | some 'e' | some 'E' => exponentPart negative read unread
    | _ =>
      if 0 < unread then floatOfParts negative read unread
      else if !negative then return .int read
      else if read ≤ Nat.pow 2 63 then return .int (-(read : Int))
      else return .float (-(read.toUInt64.toFloat))

/-! ## Strings -/

/-- Takes a number of bytes, and says whether there were that many.  The last character may reach
beyond them; the place is then inside it. -/
def skipBytes : Nat → List Char → Place → Option Cursor
  | 0, rest, place => some ⟨rest, place⟩
  | _ + 1, [], _ => none
  | n + 1, c :: rest, place =>
    if c.utf8Size ≤ n + 1 then skipBytes (n + 1 - c.utf8Size) rest (place.after c)
    else some ⟨rest, ⟨place.line, place.column + n + 1⟩⟩

/-- The place behind all of a text. -/
def endOf (c : Cursor) : Cursor :=
  ⟨[], c.rest.foldl Place.after c.place⟩

/-- Takes four bytes, which must be hexadecimal digits. -/
def hexUnit : Reader Nat := do
  let before ← get
  match skipBytes 4 before.rest before.place with
  | none => do
    set (endOf before)
    fail .endInString
  | some behind => do
    set behind
    match (before.rest.take 4).mapM Text.hexValue? with
    | some [a, b, c, d] => return ((a * 16 + b) * 16 + c) * 16 + d
    | _ => fail .invalidEscape

/-- Takes one character of a surrogate pair between its two units, which must be as given. -/
def between (expected : Char) : Reader Unit := do
  match ← peek with
  | none => fail .endInString
  | some c =>
    if c = expected then skip
    else do
      modify fun s => ⟨s.rest, s.peekPlace⟩
      fail .unexpectedHexEnd

/-- Takes the units of an escaped character. -/
def unicodeEscape : Reader Char := do
  let first ← hexUnit
  if 0xDC00 ≤ first && first ≤ 0xDFFF then fail .loneSurrogate
  else if first < 0xD800 || 0xDBFF < first then return Char.ofNat first
  else
    between '\\'
    between 'u'
    let second ← hexUnit
    if second < 0xDC00 || 0xDFFF < second then fail .loneSurrogate
    else return Char.ofNat ((first - 0xD800) * 1024 + (second - 0xDC00) + 0x10000)

/-- The character that a letter behind a backslash stands for. -/
def simpleEscape? : Char → Option Char
  | '"' => some '"'
  | '\\' => some '\\'
  | '/' => some '/'
  | 'b' => some '\x08'
  | 'f' => some '\x0c'
  | 'n' => some '\n'
  | 'r' => some '\r'
  | 't' => some '\t'
  | _ => none

/-- Takes what follows a backslash. -/
def escape : Reader Char := do
  match ← peek with
  | none => fail .endInString
  | some 'u' =>
    skip
    unicodeEscape
  | some letter =>
    match simpleEscape? letter with
    | some c =>
      skip
      return c
    | none => failNext .invalidEscape

/-- Takes the rest of a string whose opening quote has been taken. -/
def stringFrom (done : String) : Nat → Reader String
  | 0 => fail .endInString
  | bound + 1 => do
    match ← next with
    | none => fail .endInString
    | some '"' => return done
    | some '\\' => stringFrom (done.push (← escape)) bound
    | some c => if c.toNat < 0x20 then fail .controlCharacter else stringFrom (done.push c) bound

/-- Takes the rest of a string whose opening quote has been taken. -/
def string : Reader String := do
  stringFrom "" ((← get).rest.length + 1)

/-! ## Values -/

/-- Whether a container has another part, and takes what stands before that part: nothing before
the first, a comma before every other.  `close` ends the container, `starts` is what a part may
start with. -/
def another (first : Bool) (close : Char) (atEnd expected : Rule) (starts : Char → Bool) :
    Reader Bool := do
  match ← peekToken with
  | none => failNext atEnd
  | some c =>
    if c = close then return false
    else if first then
      if starts c then return true else failNext .keyNotString
    else if c = ',' then
      skip
      match ← peekToken with
      | none => failNext .endInValue
      | some d =>
        if starts d then
          if d = close then failNext .trailingComma else return true
        else if d = close then failNext .trailingComma
        else failNext .keyNotString
    else failNext expected

/-- Whether an array has another item. -/
def anotherItem (first : Bool) : Reader Bool :=
  another first ']' .endInList .expectedListEnd fun _ => true

/-- Whether an object has another member. -/
def anotherMember (first : Bool) : Reader Bool :=
  another first '\x7d' .endInObject .expectedObjectEnd (· = '"')

/-- Takes the colon between a member name and its value. -/
def colon : Reader Unit := do
  match ← peekToken with
  | some ':' => skip
  | some _ => failNext .expectedColon
  | none => failNext .endInObject

/-- Takes a member name, its quote included, and the colon behind it. -/
def memberName : Reader String := do
  skip
  let name ← string
  colon
  return name

mutual

/-- Takes a value; `depth` is the number of containers that may still be opened plus one. -/
def value : Nat → Nat → Reader Json
  | 0, _ => fail .endInValue
  | bound + 1, depth => do
    match ← peekToken with
    | none => failNext .endInValue
    | some 'n' => skip; word ['u', 'l', 'l']; return .null
    | some 't' => skip; word ['r', 'u', 'e']; return .bool true
    | some 'f' => skip; word ['a', 'l', 's', 'e']; return .bool false
    | some '-' => skip; return .number (← number true)
    | some '"' => skip; return .string (← string)
    | some '[' =>
      if depth ≤ 1 then failNext .tooDeep
      skip
      return .array (← items bound (depth - 1) true)
    | some '\x7b' =>
      if depth ≤ 1 then failNext .tooDeep
      skip
      return .object (← members bound (depth - 1) true [])
    | some c => if c.isDigit then return .number (← number false) else failNext .expectedValue

/-- Takes the items of an array up to its end. -/
def items : Nat → Nat → Bool → Reader (List Json)
  | 0, _, _ => fail .endInList
  | bound + 1, depth, first => do
    if ← anotherItem first then
      let item ← value bound depth
      return item :: (← items bound depth false)
    else
      skip
      return []

/-- Takes the members of an object up to its end, and puts them to those that came before. -/
def members : Nat → Nat → Bool → Entries Json → Reader (Entries Json)
  | 0, _, _, _ => fail .endInObject
  | bound + 1, depth, first, done => do
    if ← anotherMember first then
      let name ← memberName
      let member ← value bound depth
      members bound depth false (Entries.put done name member)
    else
      skip
      return done

end

/-- The number of containers that may be open at once, plus one. -/
def depthLimit : Nat := 128

/-- Takes the blanks at the end of a text, which nothing may follow. -/
def finish : Reader Unit := do
  match ← peekToken with
  | none => return ()
  | some _ => failNext .trailingCharacters

end Reader

/-- The value that a text writes. -/
def read (text : String) : Except Failure Json :=
  let start := Cursor.start text
  let reader : Reader Json := do
    let v ← Reader.value (2 * start.rest.length + 2) Reader.depthLimit
    Reader.finish
    return v
  (·.1) <$> reader.run start

end ApiDescription.Json
