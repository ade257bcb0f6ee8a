import ApiDescription.Yaml.Token.Property

/-!
# The tokens of a text

A text is cut into tokens from left to right.  Two things are known only later than they are
needed: that a scalar was a mapping key, when a colon follows it on its line, and that a block
collection has ended, when a line starts further left.  The first is remembered as a *simple key*,
one for each open flow collection and one outside, and becomes a token in front of those cut since;
the second is told by the stack of indentations.

A token that may still turn out to be a key is not given out.  When a fault is found, the tokens
from the first such one on are withheld, so that what is made of the tokens does not depend on how
far ahead the text was cut.
-/

namespace ApiDescription.Yaml

/-- A token that may turn out to start a mapping key. -/
structure SimpleKey where
  /-- Whether nothing else can stand here. -/
  required : Bool
  /-- The number of the token. -/
  token : Nat
  /-- The mark of the token. -/
  mark : Mark
deriving DecidableEq, Repr, Inhabited

/-- The state between two tokens. -/
structure Lexer where
  /-- What is left of the text. -/
  cursor : Cursor
  /-- The tokens so far. -/
  tokens : Array Token
  /-- The simple key outside flow collections, or inside the innermost. -/
  simpleKey : Option SimpleKey
  /-- The simple keys of the flow collections around, and the one outside. -/
  outerKeys : List (Option SimpleKey)
  /-- The column of the innermost block collection; before the first there is none. -/
  indent : Int
  /-- The columns of the block collections around. -/
  outerIndents : List Int
  /-- Whether a simple key may start here. -/
  keyAllowed : Bool
deriving Inhabited

namespace Lexer

/-- Whether a flow collection is open. -/
def inFlow (l : Lexer) : Bool := !l.outerKeys.isEmpty

/-- The mark reached. -/
def mark (l : Lexer) : Mark := l.cursor.mark

/-- The lexer with one more token. -/
def emit (l : Lexer) (token : Token) : Lexer := { l with tokens := l.tokens.push token }

/-- The lexer behind a token of `length` characters. -/
def take (l : Lexer) (kind : TokenKind) (length : Nat) : Lexer :=
  let behind := l.cursor.skipMany length
  { l with cursor := behind, tokens := l.tokens.push ⟨kind, l.mark, behind.mark⟩ }

/-- A fault outside any larger part. -/
def fault {α : Type} (l : Lexer) (problem : Problem) : Except Fault α :=
  .error ⟨problem, l.mark, none⟩

/-! ## Simple keys -/

/-- The fault of a required key that no colon follows. -/
def keyFault {α : Type} (l : Lexer) (key : SimpleKey) : Except Fault α :=
  .error ⟨.expectedColon, l.mark, some (.simpleKey, key.mark)⟩

/-- Whether a simple key can no longer be one: it has to stand on one line, within 1024 octets. -/
def isStale (l : Lexer) (key : SimpleKey) : Bool :=
  key.mark.line < l.mark.line || key.mark.octets + 1024 < l.mark.octets

/-- The keys that are not stale, outermost first.  A stale key that is required is a fault. -/
def freshKeys (l : Lexer) : List (Option SimpleKey) → Except Fault (List (Option SimpleKey))
  | [] => .ok []
  | none :: rest => (none :: ·) <$> l.freshKeys rest
  | some key :: rest =>
    if l.isStale key then
      if key.required then l.keyFault key else (none :: ·) <$> l.freshKeys rest
    else (some key :: ·) <$> l.freshKeys rest

/-- The lexer without stale keys. -/
def dropStale (l : Lexer) : Except Fault Lexer := do
  match (← l.freshKeys (l.simpleKey :: l.outerKeys).reverse).reverse with
  | [] => return l
  | key :: outer => return { l with simpleKey := key, outerKeys := outer }

/-- The lexer after the simple key is given up. -/
def dropKey (l : Lexer) : Except Fault Lexer :=
  match l.simpleKey with
  | none => .ok l
  | some key => if key.required then l.keyFault key else .ok { l with simpleKey := none }

/-- The lexer after the next token is remembered as a simple key, where one is allowed. -/
def saveKey (l : Lexer) : Except Fault Lexer := do
  if !l.keyAllowed then return l
  let l ← l.dropKey
  let required := !l.inFlow && l.indent = (l.mark.column : Int)
  return { l with simpleKey := some ⟨required, l.tokens.size, l.mark⟩ }

/-! ## Indentation -/

/-- Opens a block collection at a column, if that is further right; its token is put at the place
of the token with the given number. -/
def rollIndent (l : Lexer) (column : Nat) (number : Nat) (kind : TokenKind) (mark : Mark) : Lexer :=
  if l.inFlow || (column : Int) ≤ l.indent then l
  else
    { l with
      outerIndents := l.indent :: l.outerIndents
      indent := column
      tokens := l.tokens.insertIdxIfInBounds number ⟨kind, mark, mark⟩ }

/-- Closes the block collections to the right of a column, given the columns around them. -/
def closeBlocks (column : Int) (mark : Mark) (indent : Int) (tokens : Array Token) :
    List Int → Array Token × Int × List Int
  | [] => (tokens, indent, [])
  | outer :: rest =>
    if column < indent then
      closeBlocks column mark outer (tokens.push ⟨.blockEnd, mark, mark⟩) rest
    else (tokens, indent, outer :: rest)

/-- Closes the block collections to the right of a column. -/
def unrollIndent (l : Lexer) (column : Int) : Lexer :=
  if l.inFlow then l
  else
    let (tokens, indent, outerIndents) := closeBlocks column l.mark l.indent l.tokens l.outerIndents
    { l with tokens, indent, outerIndents }

/-! ## Between tokens -/

/-- The cursor behind a byte order mark, which may stand in front of any line. -/
def skipByteOrderMark (c : Cursor) : Cursor :=
  if c.mark.column = 0 && (c.rest.head?.map isByteOrderMark).getD false then c.skip else c

/-- Skips blanks, comments and line breaks in front of the next token.  A line break outside flow
collections allows a simple key; a tab is skipped only where no key may start. -/
def skipToToken : Nat → Lexer → Lexer
  | 0, l => l
  | bound + 1, l =>
    let tabs := l.inFlow || !l.keyAllowed
    let (_, c) := (skipByteOrderMark l.cursor).spanLine fun x => x = ' ' || (tabs && x = '\t')
    let c := c.skipComment
    match c.rest with
    | [] => { l with cursor := c }
    | x :: _ =>
      if isBreak x then
        skipToToken bound { l with cursor := c.skipBreak, keyAllowed := l.keyAllowed || !l.inFlow }
      else { l with cursor := c }

/-! ## Tokens -/

/-- Ends all that is open, and the text. -/
def streamEnd (l : Lexer) : Except Fault Lexer := do
  let mark := if l.mark.column = 0 then l.mark else l.mark.down
  let l := { l with cursor := ⟨l.cursor.rest, mark⟩ }.unrollIndent (-1)
  let l ← l.dropKey
  return { l with keyAllowed := false }.emit ⟨.streamEnd, l.mark, l.mark⟩

/-- A directive or the marker of a document's start or end, in front of which all blocks end. -/
def betweenDocuments (l : Lexer) (next : Lexer → Except Fault Lexer) : Except Fault Lexer := do
  let l ← (l.unrollIndent (-1)).dropKey
  next { l with keyAllowed := false }

/-- A directive. -/
def directive (l : Lexer) : Except Fault Lexer :=
  l.betweenDocuments fun l => do
    let (token, c) ← Property.directive l.cursor
    return { l with cursor := c }.emit token

/-- The start of a flow collection. -/
def flowStart (l : Lexer) (kind : TokenKind) : Except Fault Lexer := do
  let l ← l.saveKey
  return { l with
    outerKeys := l.simpleKey :: l.outerKeys, simpleKey := none, keyAllowed := true }.take kind 1

/-- The end of a flow collection. -/
def flowEnd (l : Lexer) (kind : TokenKind) : Except Fault Lexer := do
  let l ← l.dropKey
  let l :=
    match l.outerKeys with
    | [] => l
    | key :: outer => { l with simpleKey := key, outerKeys := outer }
  return { l with keyAllowed := false }.take kind 1

/-- The comma of a flow collection. -/
def flowEntry (l : Lexer) : Except Fault Lexer := do
  let l ← l.dropKey
  return { l with keyAllowed := true }.take .flowEntry 1

/-- The dash of a block sequence. -/
def blockEntry (l : Lexer) : Except Fault Lexer := do
  if !l.inFlow && !l.keyAllowed then l.fault .blockEntryHere
  let l := l.rollIndent l.mark.column l.tokens.size .blockSequenceStart l.mark
  let l ← l.dropKey
  return { l with keyAllowed := true }.take .blockEntry 1

/-- The question mark in front of a mapping key. -/
def key (l : Lexer) : Except Fault Lexer := do
  if !l.inFlow && !l.keyAllowed then l.fault .mappingKeyHere
  let l := l.rollIndent l.mark.column l.tokens.size .blockMappingStart l.mark
  let l ← l.dropKey
  return { l with keyAllowed := !l.inFlow }.take .key 1

/-- The colon in front of a mapping value.  If there is a simple key, its token gets the token of a
key in front of it, and of a block mapping if one starts there. -/
def value (l : Lexer) : Except Fault Lexer := do
  match l.simpleKey with
  | some simple =>
    let keyed := { l with
      simpleKey := none, keyAllowed := false
      tokens := l.tokens.insertIdxIfInBounds simple.token ⟨.key, simple.mark, simple.mark⟩ }
    return (keyed.rollIndent simple.mark.column simple.token .blockMappingStart simple.mark).take
      .value 1
  | none =>
    if !l.inFlow && !l.keyAllowed then l.fault .mappingValueHere
    let l := l.rollIndent l.mark.column l.tokens.size .blockMappingStart l.mark
    return { l with keyAllowed := !l.inFlow }.take .value 1

/-- A token that may start a simple key, behind which none may start. -/
def keyable (l : Lexer) (read : Cursor → Except Fault (Token × Cursor)) : Except Fault Lexer := do
  let l ← l.saveKey
  let (token, c) ← read l.cursor
  return { l with cursor := c, keyAllowed := false }.emit token

/-- A block scalar. -/
def blockScalar (l : Lexer) (literal : Bool) : Except Fault Lexer := do
  let l ← l.dropKey
  let (token, c) ← Scalar.block literal l.indent l.cursor
  return { l with cursor := c, keyAllowed := true }.emit token

/-- A plain scalar; where a line break follows it, a simple key may start again. -/
def plainScalar (l : Lexer) : Except Fault Lexer := do
  let l ← l.saveKey
  let (token, broken, c) ← Scalar.plain l.inFlow l.indent l.cursor
  return { l with cursor := c, keyAllowed := broken }.emit token

/-- Characters that start no plain scalar. -/
def isIndicator (c : Char) : Bool := "-?:,[]\x7b\x7d#&*!|>'\"%@\x60".contains c

/-- Whether a plain scalar starts with this character in front of this text. -/
def startsPlain (l : Lexer) (c : Char) (rest : List Char) : Bool :=
  !(isBlank c || isBreak c || isIndicator c) ||
    (c = '-' && !((rest.head?.map isBlank).getD false)) ||
    (!l.inFlow && (c = '?' || c = ':') && !atGap rest)

/-- The next token. -/
def token (l : Lexer) (c : Char) (rest : List Char) : Except Fault Lexer :=
  if l.mark.column = 0 && c = '%' then l.directive
  else if l.mark.column = 0 && atDocumentMarker (c :: rest) then
    l.betweenDocuments fun l => .ok (l.take (if c = '-' then .documentStart else .documentEnd) 3)
  else if c = '[' then l.flowStart .flowSequenceStart
  else if c = '\x7b' then l.flowStart .flowMappingStart
  else if c = ']' then l.flowEnd .flowSequenceEnd
  else if c = '\x7d' then l.flowEnd .flowMappingEnd
  else if c = ',' then l.flowEntry
  else if c = '-' && atGap rest then l.blockEntry
  else if c = '?' && (l.inFlow || atGap rest) then l.key
  else if c = ':' && (l.inFlow || atGap rest) then l.value
  else if c = '*' then l.keyable (Property.anchor true)
  else if c = '&' then l.keyable (Property.anchor false)
  else if c = '!' then l.keyable (Property.tag l.inFlow)
  else if c = '|' && !l.inFlow then l.blockScalar true
  else if c = '>' && !l.inFlow then l.blockScalar false
  else if c = '\'' then l.keyable (Scalar.quoted true)
  else if c = '"' then l.keyable (Scalar.quoted false)
  else if l.startsPlain c rest then l.plainScalar
  else .error ⟨.noToken, l.mark, some (.nextToken, l.mark)⟩

/-- The lexer behind the next token.  Keys go stale behind it, and once more in front of the token
that follows. -/
def next (l : Lexer) : Except Fault Lexer := do
  let l := skipToToken (l.cursor.rest.length + 1) l
  let l ← l.dropStale
  let l := l.unrollIndent l.mark.column
  match l.cursor.rest with
  | [] => (← l.streamEnd).dropStale
  | c :: rest => (← l.token c rest).dropStale

/-- The tokens that are given out although a fault follows: those in front of the first that may
still be a key. -/
def settled (l : Lexer) : Array Token :=
  let open_ := (l.simpleKey :: l.outerKeys).filterMap (·.map SimpleKey.token)
  l.tokens.take (open_.foldl min l.tokens.size)

/-- Whether the text is cut to its end and no token may still be a key. -/
def isDone (l : Lexer) : Bool :=
  (l.tokens.back?.map (·.kind)) = some .streamEnd &&
    (l.simpleKey :: l.outerKeys).all Option.isNone

/-- A part of the text that cannot be read: where it starts, and the fault of reading it. -/
structure Unreadable where
  /-- The mark of its first character. -/
  start : Mark
  /-- The fault. -/
  fault : Fault

/-- The fault of a text that has been read up to a mark. -/
def Unreadable.faultAt? (u : Option Unreadable) (reached : Mark) : Option Fault :=
  (u.filter fun u => !reached.isBefore u.start).map (·.fault)

/-- Cuts a text to its end, or to a fault. -/
def run (unreadable : Option Unreadable) : Nat → Lexer → Array Token × Option Fault
  | 0, l => (l.tokens, none)
  | bound + 1, l =>
    match l.next with
    | .error fault => (l.settled, some ((Unreadable.faultAt? unreadable fault.mark).getD fault))
    | .ok behind =>
      match Unreadable.faultAt? unreadable behind.mark with
      | some fault => (l.settled, some fault)
      | none => if behind.isDone then (behind.tokens, none) else run unreadable bound behind

/-- The start of a text. -/
def start (text : List Char) : Lexer where
  cursor := ⟨text, .start⟩
  tokens := #[]
  simpleKey := none
  outerKeys := []
  indent := -1
  outerIndents := []
  keyAllowed := true

/-- The octets that are read at once. -/
def readSize : Nat := 16384

/-- The part of a text that cannot be read because it holds a character that no text may hold.  A
text is read in parts of at most `readSize` octets, each of which ends behind a whole character:
`offset` octets have been read, `free` more fit into the part that starts at `part`. -/
def unreadable? (part mark : Mark) (offset free : Nat) : List Char → Option Unreadable
  | [] => none
  | c :: rest =>
    let isFull := free < c.utf8Size
    let part := if isFull then mark else part
    let free := if isFull then readSize else free
    if isAllowed c then
      let mark :=
        if c = '\r' && rest.head? = some '\n' then mark
        else if endsLine c then mark.down
        else mark.right c
      unreadable? part mark (offset + c.utf8Size) (free - c.utf8Size) rest
    else some ⟨part, ⟨.controlCharacter offset, .start, none⟩⟩

end Lexer

/-- The tokens of a text, up to the first fault if there is one. -/
def tokensOf (text : String) : Array Token × Option Fault :=
  let body := uniformBreaks text.toList
  Lexer.run (Lexer.unreadable? .start .start 0 Lexer.readSize text.toList) (2 * body.length + 4)
    (Lexer.start body)

end ApiDescription.Yaml
