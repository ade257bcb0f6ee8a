/-!
# Places in YAML text

A YAML text is read with its line breaks made uniform, one character at a time, and a mark says
where a character stands: its line and its column, both counted from zero in characters, and how
many octets of its line are in front of it.  This file holds marks, cursors, and the classes of
characters that the grammar is written in.
-/

namespace ApiDescription.Yaml

/-- The place of a character, counted from zero. -/
structure Mark where
  /-- The line. -/
  line : Nat
  /-- The column. -/
  column : Nat
  /-- The octets in front of the character on its line. -/
  octets : Nat
deriving DecidableEq, Repr, Inhabited

namespace Mark

/-- The start of a text. -/
def start : Mark := ⟨0, 0, 0⟩

/-- The mark behind a character of the same line. -/
def right (m : Mark) (c : Char) : Mark := ⟨m.line, m.column + 1, m.octets + c.utf8Size⟩

/-- The mark behind a line break. -/
def down (m : Mark) : Mark := ⟨m.line + 1, 0, 0⟩

/-- Whether a mark is in front of another. -/
def isBefore (m other : Mark) : Bool :=
  m.line < other.line || (m.line = other.line && m.column < other.column)

/-- The text of a mark in messages, which count from one. -/
def text (m : Mark) : String :=
  "line " ++ toString (m.line + 1) ++ " column " ++ toString (m.column + 1)

end Mark

/-! ## Characters -/

/-- Line breaks, once they are made uniform: the line feed and the two separators of Unicode. -/
def isBreak (c : Char) : Bool := c = '\n' || c.toNat = 0x2028 || c.toNat = 0x2029

/-- Blanks inside a line. -/
def isBlank (c : Char) : Bool := c = ' ' || c = '\t'

/-- Characters of names: letters and digits of ASCII, hyphen and underscore. -/
def isWord (c : Char) : Bool := c.isAlphanum || c = '-' || c = '_'

/-- Whether a text ends, or goes on with a blank or a line break. -/
def atGap : List Char → Bool
  | [] => true
  | c :: _ => isBlank c || isBreak c

/-- Whether a text ends, or goes on with a line break. -/
def atLineEnd : List Char → Bool
  | [] => true
  | c :: _ => isBreak c

/-- Whether the marker of a document's start or end stands at the front of a text. -/
def atDocumentMarker : List Char → Bool
  | '-' :: '-' :: '-' :: rest => atGap rest
  | '.' :: '.' :: '.' :: rest => atGap rest
  | _ => false

/-- Characters that end a line as it is written: line breaks, the carriage return, the next line. -/
def endsLine (c : Char) : Bool := isBreak c || c = '\r' || c.toNat = 0x85

/-- A text with each of its line breaks made one line feed, but for the separators of Unicode. -/
def uniformBreaks : List Char → List Char
  | '\r' :: '\n' :: rest => '\n' :: uniformBreaks rest
  | c :: rest => (if c = '\r' || c.toNat = 0x85 then '\n' else c) :: uniformBreaks rest
  | [] => []

/-- Whether a character may stand in YAML text. -/
def isAllowed (c : Char) : Bool :=
  let n := c.toNat
  n = 9 || n = 10 || n = 13 || (0x20 ≤ n && n ≤ 0x7E) || n = 0x85 || (0xA0 ≤ n && n ≤ 0xD7FF) ||
    (0xE000 ≤ n && n ≤ 0xFFFD) || 0x10000 ≤ n

/-- The byte order mark. -/
def isByteOrderMark (c : Char) : Bool := c.toNat = 0xFEFF

/-! ## Cursors -/

/-- What is left of a text, and the mark of its first character. -/
structure Cursor where
  /-- The characters left. -/
  rest : List Char
  /-- The mark reached. -/
  mark : Mark
deriving Repr, Inhabited

namespace Cursor

/-- The cursor behind one character of the line. -/
def skip (c : Cursor) : Cursor :=
  match c.rest with
  | x :: rest => ⟨rest, c.mark.right x⟩
  | [] => c

/-- The cursor behind several characters of the line. -/
def skipMany (c : Cursor) (count : Nat) : Cursor :=
  ⟨c.rest.drop count, (c.rest.take count).foldl Mark.right c.mark⟩

/-- The cursor behind a line break, if one stands here. -/
def skipBreak (c : Cursor) : Cursor :=
  match c.rest with
  | b :: rest => if isBreak b then ⟨rest, c.mark.down⟩ else c
  | [] => c

/-- The characters of a class at the front, none of which is a line break. -/
def spanLine (c : Cursor) (inClass : Char → Bool) : List Char × Cursor :=
  let taken := c.rest.takeWhile fun x => inClass x && !isBreak x
  (taken, c.skipMany taken.length)

/-- The cursor behind the blanks at the front. -/
def skipBlanks (c : Cursor) : Cursor := (c.spanLine isBlank).2

/-- The cursor at the end of the line. -/
def skipLine (c : Cursor) : Cursor := (c.spanLine fun _ => true).2

/-- The cursor behind a comment, if one starts here. -/
def skipComment (c : Cursor) : Cursor := if c.rest.head? = some '#' then c.skipLine else c

end Cursor

end ApiDescription.Yaml
