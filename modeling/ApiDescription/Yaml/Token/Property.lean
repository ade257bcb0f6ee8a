import ApiDescription.Yaml.Token.Scalar

/-!
# Directives, anchors and tags

Tokens that say something about a document or a node: the `%` lines in front of a document, the
names of nodes and the references to them, and tags.
-/

namespace ApiDescription.Yaml.Property

open Scalar (fault)

/-! ## Anchors -/

/-- Whether a text ends, or goes on with a character that may follow a name. -/
def atNameEnd : List Char → Bool
  | [] => true
  | c :: rest =>
    atGap (c :: rest) || c = '?' || c = ':' || c = ',' || c = ']' || c = '\x7d' || c = '%' ||
      c = '@' || c = '\x60'

/-- An anchor or, if `isAlias`, a reference to one. -/
def anchor (isAlias : Bool) (c : Cursor) : Except Fault (Token × Cursor) := do
  let (name, behind) := c.skip.spanLine isWord
  if name.isEmpty || !atNameEnd behind.rest then
    fault (if isAlias then .alias else .anchor) c.mark .anchorName behind.mark
  let name := String.ofList name
  return (⟨if isAlias then .alias name else .anchor name, c.mark, behind.mark⟩, behind)

/-! ## Tags -/

/-- Characters of a tag; those in brackets only where the tag is written in full. -/
def isTagCharacter (full : Bool) (c : Char) : Bool :=
  isWord c || ";/?:@&=+$.!~*'()%".contains c || (full && (c = ',' || c = '[' || c = ']'))

/-- The number of octets of a character by its first, if it can be a first. -/
def octetCount? (octet : Nat) : Option Nat :=
  if octet < 0x80 then some 1
  else if 0xC0 ≤ octet && octet < 0xE0 then some 2
  else if 0xE0 ≤ octet && octet < 0xF0 then some 3
  else if 0xF0 ≤ octet && octet < 0xF8 then some 4
  else none

/-- Takes `count` escaped octets, of which those behind the first continue a character. -/
def takeOctets (activity : Activity) (start : Mark) (first : Bool) :
    Nat → Cursor → Except Fault (List Nat × Cursor)
  | 0, c => .ok ([], c)
  | count + 1, c =>
    match c.rest with
    | '%' :: a :: b :: _ =>
      match hexNumber? 2 [a, b] with
      | none => fault activity start .uriEscape c.mark
      | some octet => do
        if !first && !(0x80 ≤ octet && octet < 0xC0) then
          fault activity start .uriTrailingOctet c.mark
        let (more, c) ← takeOctets activity start false count (c.skipMany 3)
        return (octet :: more, c)
    | _ => fault activity start .uriEscape c.mark
where
  hexNumber? := Scalar.hexNumber?

/-- Takes a character that is written as escaped octets. -/
def takeEscapedCharacter (activity : Activity) (start : Mark) (c : Cursor) :
    Except Fault (List Nat × Cursor) := do
  let (first, _) ← takeOctets activity start true 1 c
  match first.head?.bind octetCount? with
  | none => fault activity start .uriLeadingOctet c.mark
  | some count => takeOctets activity start true count c

/-- Takes the characters of a tag. -/
def takeTagText (full : Bool) (activity : Activity) (start : Mark) :
    Nat → Cursor → Except Fault (List (Option Char) × Cursor)
  | 0, c => .ok ([], c)
  | bound + 1, c =>
    match c.rest with
    | [] => .ok ([], c)
    | x :: _ =>
      if x = '%' then do
        let (octets, c) ← takeEscapedCharacter activity start c
        let (rest, c) ← takeTagText full activity start bound c
        return (Tag.characterOf? octets :: rest, c)
      else if isTagCharacter full x then do
        let (rest, c) ← takeTagText full activity start bound c.skip
        return (some x :: rest, c)
      else .ok ([], c)

/-- Takes the text of a tag behind a head of which all but the exclamation mark belongs to it. -/
def takeTag (full : Bool) (activity : Activity) (head : String) (start : Mark) (c : Cursor) :
    Except Fault (Tag × Cursor) := do
  let (text, behind) ← takeTagText full activity start (c.rest.length + 1) c
  if head.isEmpty && behind.mark = c.mark then fault activity start .tagUri behind.mark
  return (((Tag.ofList head.toList.tail).append ⟨text⟩).ended, behind)

/-- Takes a tag handle: an exclamation mark, a name, and a second mark if there is one. -/
def takeHandle (inDirective : Bool) (start : Mark) (c : Cursor) :
    Except Fault (String × Cursor) := do
  if c.rest.head? ≠ some '!' then
    fault (if inDirective then .tagDirectiveScan else .tag) start .tagHandleStart c.mark
  let (name, behind) := c.skip.spanLine isWord
  let handle := "!" ++ String.ofList name
  if behind.rest.head? = some '!' then return (handle.push '!', behind.skip)
  if inDirective && handle ≠ "!" then
    fault .tagDirectiveHandle start .tagHandleStart behind.mark
  return (handle, behind)

/-- Whether a text between exclamation marks is a handle with both of them. -/
def isFullHandle (handle : String) : Bool :=
  1 < handle.length && handle.toList.getLast? = some '!'

/-- A tag. -/
def tag (flow : Bool) (c : Cursor) : Except Fault (Token × Cursor) := do
  let start := c.mark
  let (handle, suffix, behind) ←
    if c.rest.tail.head? = some '<' then do
      let (suffix, c) ← takeTag true .tagUri "" start (c.skipMany 2)
      if c.rest.head? ≠ some '>' then fault .tag start .tagVerbatimEnd c.mark
      pure ("", suffix, c.skip)
    else do
      let (handle, c) ← takeHandle false start c
      if isFullHandle handle then
        let (suffix, c) ← takeTag false .tagUri "" start c
        pure (handle, suffix, c)
      else
        let (suffix, c) ← takeTag false .tagUri handle start c
        pure (if suffix.isEmpty then ("", Tag.mark, c) else ("!", suffix, c))
  if !(flow && behind.rest.head? = some ',') && !atGap behind.rest then
    fault .tag start .tagEnd behind.mark
  return (⟨.tag handle suffix, start, behind.mark⟩, behind)

/-! ## Directives -/

/-- Takes a number of a version. -/
def takeVersionNumber (start : Mark) (c : Cursor) : Except Fault (Nat × Cursor) := do
  let (digits, behind) := c.spanLine Char.isDigit
  if 9 < digits.length then fault .versionDirective start .versionTooLong (c.skipMany 9).mark
  if digits.isEmpty then fault .versionDirective start .versionNumber c.mark
  return (digits.foldl (fun n d => n * 10 + (d.toNat - '0'.toNat)) 0, behind)

/-- A directive, the rest of its line included. -/
def directive (c : Cursor) : Except Fault (Token × Cursor) := do
  let start := c.mark
  let (name, c) := c.skip.spanLine isWord
  if name.isEmpty then fault .directive start .directiveName c.mark
  if !atGap c.rest then fault .directive start .directiveCharacter c.mark
  let (kind, c) ←
    if String.ofList name = "YAML" then do
      let (major, c) ← takeVersionNumber start c.skipBlanks
      if c.rest.head? ≠ some '.' then fault .versionDirective start .versionPoint c.mark
      let (minor, c) ← takeVersionNumber start c.skip
      pure (TokenKind.versionDirective major minor, c)
    else if String.ofList name = "TAG" then do
      let (handle, c) ← takeHandle true start c.skipBlanks
      if !((c.rest.head?.map isBlank).getD false) then
        fault .tagDirective start .directiveSpace c.mark
      let (meaning, c) ← takeTag true .tagDirectiveUri "" start c.skipBlanks
      if !atGap c.rest then fault .tagDirective start .tagEnd c.mark
      pure (TokenKind.tagDirective handle meaning, c)
    else fault .directive start .unknownDirective c.mark
  let stop := c.mark
  let c := c.skipBlanks.skipComment
  if !atLineEnd c.rest then fault .directive start .directiveEnd c.mark
  return (⟨kind, start, stop⟩, c.skipBreak)

end ApiDescription.Yaml.Property
