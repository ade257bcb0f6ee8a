import ApiDescription.Text.Hexadecimal
import ApiDescription.Yaml.Token
import ApiDescription.Yaml.Fault

/-!
# Scalar tokens

Plain, quoted and block scalars.  A single line break between words folds into a space and further
ones stay, except in literal scalars; the indentation of the lines is no part of the text.

Every loop carries a bound, the number of characters left, which it does not exhaust.
-/

namespace ApiDescription.Yaml.Scalar

/-- A fault while a scalar that began at `start` is read. -/
def fault {α : Type} (activity : Activity) (start : Mark) (problem : Problem) (mark : Mark) :
    Except Fault α :=
  .error ⟨problem, mark, some (activity, start)⟩

/-- What line breaks between two words give: a single line feed folds into a space, and of several
the first is dropped. -/
def fold (first more : String) : String :=
  if first = "\n" then (if more.isEmpty then " " else more) else first ++ more

/-! ## Gaps between words -/

/-- Blanks and line breaks between the words of a plain or quoted scalar. -/
structure Gap where
  /-- The blanks before the first line break. -/
  blanks : String
  /-- The first line break. -/
  first : String
  /-- The line breaks behind the first. -/
  more : String
  /-- Whether a line break has been passed. -/
  broken : Bool
deriving Inhabited

/-- No gap. -/
def Gap.none : Gap := ⟨"", "", "", false⟩

/-- What a gap gives between two words. -/
def Gap.text (g : Gap) : String := if g.broken then fold g.first g.more else g.blanks

/-- The gap after a blank. -/
def Gap.blank (g : Gap) (c : Char) : Gap :=
  if g.broken then g else { g with blanks := g.blanks.push c }

/-- The gap after a line break. -/
def Gap.lineBreak (g : Gap) (c : Char) : Gap :=
  if g.broken then { g with more := g.more.push c }
  else { g with blanks := "", first := String.singleton c, broken := true }

/-- Takes a gap.  A tab in the indentation of a continuation line is refused where `tabs` says
so. -/
def takeGap (tabs : Mark → Bool) (gap : Gap) : List Char → Mark → Except Mark (Gap × Cursor)
  | [], mark => .ok (gap, ⟨[], mark⟩)
  | c :: rest, mark =>
    if isBlank c then
      if gap.broken && c = '\t' && tabs mark then .error mark
      else takeGap tabs (gap.blank c) rest (mark.right c)
    else if isBreak c then takeGap tabs (gap.lineBreak c) rest mark.down
    else .ok (gap, ⟨c :: rest, mark⟩)

/-! ## Plain scalars -/

/-- Whether a plain scalar in a flow collection ends at this character. -/
def endsFlow (c : Char) : Bool := c = ',' || c = '[' || c = ']' || c = '\x7b' || c = '\x7d'

/-- Whether a text goes on with a character that may not follow a colon in a flow collection. -/
def atFlowIndicator : List Char → Bool
  | c :: _ => endsFlow c || c = '?'
  | [] => false

/-- Takes one word of a plain scalar, or fails at a mark. -/
def takeWord (flow : Bool) (done : String) : List Char → Mark → Except Mark (String × Cursor)
  | [], mark => .ok (done, ⟨[], mark⟩)
  | c :: rest, mark =>
    if isBlank c || isBreak c then .ok (done, ⟨c :: rest, mark⟩)
    else if flow && c = ':' && atFlowIndicator rest then .error mark
    else if (c = ':' && atGap rest) || (flow && endsFlow c) then .ok (done, ⟨c :: rest, mark⟩)
    else takeWord flow (done.push c) rest (mark.right c)

/-- A plain scalar as far as it has been read. -/
structure Plain where
  /-- The text. -/
  text : String
  /-- The gap behind the last word. -/
  gap : Gap
  /-- The mark behind the last word. -/
  stop : Mark
deriving Inhabited

/-- Takes the words of a plain scalar, each line of which stands to the right of `indent`. -/
def takePlain (flow : Bool) (indent : Int) (start : Mark) :
    Nat → Plain → Cursor → Except Fault (Plain × Cursor)
  | 0, plain, c => .ok (plain, c)
  | bound + 1, plain, c => do
    if (c.mark.column = 0 && atDocumentMarker c.rest) || c.rest.head? = some '#' then
      return (plain, c)
    match takeWord flow "" c.rest c.mark with
    | .error mark => fault .plainScalar start .plainColon mark
    | .ok (word, c) =>
      let plain : Plain :=
        if word.isEmpty then plain
        else { text := plain.text ++ plain.gap.text ++ word, gap := .none, stop := c.mark }
      match c.rest with
      | [] => return (plain, c)
      | next :: _ =>
        if !(isBlank next || isBreak next) then return (plain, c)
        let tabs (m : Mark) : Bool := m.column < indent + 1
        match takeGap tabs plain.gap c.rest c.mark with
        | .error mark => fault .plainScalar start .plainTab mark
        | .ok (gap, c) =>
          let plain := { plain with gap }
          if !flow && (c.mark.column : Int) < indent + 1 then return (plain, c)
          takePlain flow indent start bound plain c

/-- A plain scalar, and whether a line break follows it. -/
def plain (flow : Bool) (indent : Int) (c : Cursor) : Except Fault (Token × Bool × Cursor) := do
  let (p, behind) ← takePlain flow indent c.mark (c.rest.length + 1) ⟨"", .none, c.mark⟩ c
  return (⟨.scalar p.text .plain, c.mark, p.stop⟩, p.gap.broken, behind)

/-! ## Quoted scalars -/

/-- The characters that a backslash and one letter stand for. -/
def simpleEscape? : Char → Option Char
  | '0' => some '\x00'
  | 'a' => some '\x07'
  | 'b' => some '\x08'
  | 't' => some '\t'
  | '\t' => some '\t'
  | 'n' => some '\n'
  | 'v' => some '\x0b'
  | 'f' => some '\x0c'
  | 'r' => some '\r'
  | 'e' => some '\x1b'
  | ' ' => some ' '
  | '"' => some '"'
  | '/' => some '/'
  | '\\' => some '\\'
  | 'N' => some (Char.ofNat 0x85)
  | '_' => some (Char.ofNat 0xA0)
  | 'L' => some (Char.ofNat 0x2028)
  | 'P' => some (Char.ofNat 0x2029)
  | _ => none

/-- The number of digits behind the letters that write a character by its code. -/
def codeLength? : Char → Option Nat
  | 'x' => some 2
  | 'u' => some 4
  | 'U' => some 8
  | _ => none

/-- The number that `count` hexadecimal digits write. -/
def hexNumber? (count : Nat) (text : List Char) : Option Nat := do
  let digits ← (text.take count).mapM Text.hexValue?
  if digits.length = count then some (digits.foldl (fun n d => n * 16 + d) 0) else none

/-- Takes an escape sequence that stands at the cursor. -/
def takeEscape (start : Mark) (c : Cursor) : Except Fault (Char × Cursor) :=
  let letter := c.rest.tail.headD '\x00'
  match simpleEscape? letter, codeLength? letter with
  | some char, _ => .ok (char, c.skipMany 2)
  | none, none => fault .quotedEscape start .unknownEscape c.mark
  | none, some count =>
    let c := c.skipMany 2
    match hexNumber? count c.rest with
    | none => fault .quotedEscape start .hexadecimal c.mark
    | some n =>
      if (0xD800 ≤ n && n ≤ 0xDFFF) || 0x10FFFF < n then
        fault .quotedEscape start .invalidCharacterCode c.mark
      else .ok (Char.ofNat n, c.skipMany count)

/-- Takes the characters of a quoted scalar up to a gap or the closing quote, and says whether an
escaped line break ended them. -/
def takeQuotedWord (single : Bool) (start : Mark) :
    Nat → String → Cursor → Except Fault (String × Bool × Cursor)
  | 0, done, c => .ok (done, false, c)
  | bound + 1, done, c =>
    match c.rest with
    | [] => .ok (done, false, c)
    | x :: rest =>
      if isBlank x || isBreak x then .ok (done, false, c)
      else if single then
        if x = '\'' then
          if rest.head? = some '\'' then
            takeQuotedWord single start bound (done.push '\'') (c.skipMany 2)
          else .ok (done, false, c)
        else takeQuotedWord single start bound (done.push x) c.skip
      else if x = '"' then .ok (done, false, c)
      else if x = '\\' then
        if !rest.isEmpty && atLineEnd rest then .ok (done, true, c.skip.skipBreak)
        else
          match takeEscape start c with
          | .error f => .error f
          | .ok (char, c) => takeQuotedWord single start bound (done.push char) c
      else takeQuotedWord single start bound (done.push x) c.skip

/-- Takes a quoted scalar behind its opening quote, its closing quote included. -/
def takeQuoted (single : Bool) (start : Mark) :
    Nat → String → Cursor → Except Fault (String × Cursor)
  | 0, _, c => fault .quotedScalar start .streamEnd c.mark
  | bound + 1, done, c => do
    if c.mark.column = 0 && atDocumentMarker c.rest then
      fault .quotedScalar start .documentMarker c.mark
    if c.rest.isEmpty then fault .quotedScalar start .streamEnd c.mark
    let (word, escapedBreak, c) ← takeQuotedWord single start (c.rest.length + 1) "" c
    if c.rest.head? = some (if single then '\'' else '"') then return (done ++ word, c.skip)
    match takeGap (fun _ => false) { Gap.none with broken := escapedBreak } c.rest c.mark with
    | .error mark => fault .quotedScalar start .streamEnd mark
    | .ok (gap, c) => takeQuoted single start bound (done ++ word ++ gap.text) c

/-- A quoted scalar. -/
def quoted (single : Bool) (c : Cursor) : Except Fault (Token × Cursor) := do
  let (text, behind) ← takeQuoted single c.mark (c.rest.length + 1) "" c.skip
  return (⟨.scalar text (if single then .singleQuoted else .doubleQuoted), c.mark, behind.mark⟩,
    behind)

/-! ## Block scalars -/

/-- What becomes of the line breaks at the end of a block scalar. -/
inductive Chomping where
  /-- The last one stays. -/
  | clip
  /-- None stays. -/
  | strip
  /-- All stay. -/
  | keep
deriving DecidableEq, Inhabited

/-- The header of a block scalar: its chomping and its indentation, if it is given. -/
def takeHeader (start : Mark) (c : Cursor) : Except Fault (Chomping × Option Nat × Cursor) :=
  let chomping (c : Cursor) : Option (Chomping × Cursor) :=
    match c.rest with
    | '+' :: _ => some (.keep, c.skip)
    | '-' :: _ => some (.strip, c.skip)
    | _ => none
  let increment (c : Cursor) : Except Fault (Option Nat × Cursor) :=
    match c.rest with
    | d :: _ =>
      if d = '0' then fault .blockScalar start .zeroIndentation c.mark
      else if d.isDigit then .ok (some (d.toNat - '0'.toNat), c.skip)
      else .ok (none, c)
    | [] => .ok (none, c)
  match chomping c with
  | some (chomp, c) => do
    let (n, c) ← increment c
    return (chomp, n, c)
  | none => do
    match ← increment c with
    | (none, c) => return (.clip, none, c)
    | (some n, c) =>
      match chomping c with
      | some (chomp, c) => return (chomp, some n, c)
      | none => return (.clip, some n, c)

/-- Whether a line still is in the indentation; an indentation of zero is one not yet known. -/
def inIndentation (indent column : Nat) : Bool := indent = 0 || column < indent

/-- The cursor behind the spaces of the indentation. -/
def skipIndentation (indent : Nat) : List Char → Mark → Cursor
  | ' ' :: rest, mark =>
    if inIndentation indent mark.column then skipIndentation indent rest (mark.right ' ')
    else ⟨' ' :: rest, mark⟩
  | text, mark => ⟨text, mark⟩

/-- Empty lines of a block scalar: the widest indentation seen, the line breaks, and the mark behind
the last of them. -/
structure EmptyLines where
  /-- The widest indentation seen. -/
  widest : Nat
  /-- The line breaks. -/
  breaks : String
  /-- The mark behind the last line break. -/
  stop : Mark
deriving Inhabited

/-- Takes the empty lines of a block scalar and the indentation of the line behind them. -/
def takeEmptyLines (start : Mark) (indent : Nat) :
    Nat → EmptyLines → Cursor → Except Fault (EmptyLines × Cursor)
  | 0, lines, c => .ok (lines, c)
  | bound + 1, lines, c =>
    let c := skipIndentation indent c.rest c.mark
    let lines := { lines with widest := max lines.widest c.mark.column }
    match c.rest with
    | [] => .ok (lines, c)
    | x :: _ =>
      if x = '\t' && inIndentation indent c.mark.column then
        fault .blockScalar start .indentationTab c.mark
      else if isBreak x then
        let c := c.skipBreak
        takeEmptyLines start indent bound { lines with breaks := lines.breaks.push x, stop := c.mark } c
      else .ok (lines, c)

/-- A block scalar as far as it has been read. -/
structure Block where
  /-- The text. -/
  text : String
  /-- The line break behind the last line. -/
  lastBreak : String
  /-- Whether the last line started with a blank. -/
  startedBlank : Bool
  /-- The empty lines behind the last line. -/
  empty : EmptyLines
deriving Inhabited

/-- Takes the lines of a block scalar that stand at its indentation. -/
def takeLines (literal : Bool) (start : Mark) (indent : Nat) :
    Nat → Block → Cursor → Except Fault (Block × Cursor)
  | 0, block, c => .ok (block, c)
  | bound + 1, block, c => do
    if c.mark.column ≠ indent || c.rest.isEmpty then return (block, c)
    let startsBlank := (c.rest.head?.map isBlank).getD false
    let folds := !literal && block.lastBreak = "\n" && !block.startedBlank && !startsBlank
    let joint :=
      if folds then (if block.empty.breaks.isEmpty then " " else "") else block.lastBreak
    let (line, c) := c.spanLine fun _ => true
    let lastBreak := (c.rest.head?.map String.singleton).getD ""
    let (empty, c) ←
      takeEmptyLines start indent (c.rest.length + 1) ⟨0, "", c.skipBreak.mark⟩ c.skipBreak
    takeLines literal start indent bound
      { text := block.text ++ joint ++ block.empty.breaks ++ String.ofList line
        lastBreak, startedBlank := startsBlank, empty } c

/-- A block scalar inside a collection that is indented by `parent`. -/
def block (literal : Bool) (parent : Int) (c : Cursor) : Except Fault (Token × Cursor) := do
  let start := c.mark
  let (chomping, increment, c) ← takeHeader start c.skip
  let c := c.skipBlanks.skipComment
  if !atLineEnd c.rest then fault .blockScalar start .headerEnd c.mark
  let c := c.skipBreak
  let given : Nat :=
    match increment with
    | none => 0
    | some n => (max parent 0).toNat + n
  let (empty, c) ← takeEmptyLines start given (c.rest.length + 1) ⟨0, "", c.mark⟩ c
  let indent := if given = 0 then max empty.widest (max (parent + 1) 1).toNat else given
  let (b, c) ← takeLines literal start indent (c.rest.length + 1) ⟨"", "", false, empty⟩ c
  let tail :=
    match chomping with
    | .strip => ""
    | .clip => b.lastBreak
    | .keep => b.lastBreak ++ b.empty.breaks
  return (⟨.scalar (b.text ++ tail) (if literal then .literal else .folded), start, b.empty.stop⟩,
    c)

end ApiDescription.Yaml.Scalar
