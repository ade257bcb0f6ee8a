import ApiDescription.Yaml.Token.Lexer

/-!
# Events of YAML text

The tokens of a text are the leaves of its grammar; its events are the nodes in document order.  A
collection is an event that starts it, the events of its parts, and an event that ends it.  The
grammar is run as a machine: a state says what may come next, and a stack of states what comes
after that.
-/

namespace ApiDescription.Yaml

/-- What an event is. -/
inductive EventKind where
  /-- A document starts. -/
  | documentStart
  /-- A document ends. -/
  | documentEnd
  /-- The text ends. -/
  | streamEnd
  /-- A reference to an anchor. -/
  | alias (name : String)
  /-- A scalar. -/
  | scalar (anchor : Option String) (tag : Option Tag) (text : String) (style : Style)
  /-- A sequence starts. -/
  | sequenceStart (anchor : Option String) (tag : Option Tag)
  /-- A sequence ends. -/
  | sequenceEnd
  /-- A mapping starts. -/
  | mappingStart (anchor : Option String) (tag : Option Tag)
  /-- A mapping ends. -/
  | mappingEnd
deriving DecidableEq, Repr, Inhabited

/-- An event and the mark where it starts. -/
structure Event where
  /-- What it is. -/
  kind : EventKind
  /-- Where it starts. -/
  mark : Mark
deriving DecidableEq, Repr, Inhabited

/-- What may come next. -/
inductive Expectation where
  | firstDocument | document | documentContent | documentEnd | blockNode
  | blockSequenceStart | blockSequenceEntry | indentlessEntry
  | blockMappingStart | blockMappingKey | blockMappingValue
  | flowSequenceStart | flowSequenceEntry
  | pairKey | pairValue | pairEnd
  | flowMappingStart | flowMappingKey | flowMappingValue | flowMappingNoValue
  | nothing
deriving DecidableEq, Repr, Inhabited

/-- The state of the grammar between two events. -/
structure Grammar where
  /-- The tokens left. -/
  tokens : List Token
  /-- What may come next. -/
  expected : Expectation
  /-- What comes after the parts that are open. -/
  later : List Expectation
  /-- Where the open collections started. -/
  began : List Mark
  /-- Whether a version was declared. -/
  versioned : Bool
  /-- The tag handles that are declared, each with what it stands for. -/
  handles : List (String × Tag)
deriving Inhabited

/-- A step of the grammar: the state after it and its event; nothing when the tokens run out; or a
fault. -/
abbrev Step := Except (Option Fault) (Grammar × Event)

namespace Grammar

/-- The start of a text with the given tokens. -/
def start (tokens : List Token) : Grammar := ⟨tokens, .firstDocument, [], [], false, []⟩

/-- The token that comes next. -/
def peek (g : Grammar) : Except (Option Fault) Token :=
  match g.tokens with
  | [] => .error none
  | token :: _ => .ok token

/-- The state behind the next token. -/
def skip (g : Grammar) : Grammar := { g with tokens := g.tokens.tail }

/-- The state in which `next` comes next. -/
def expect (g : Grammar) (next : Expectation) : Grammar := { g with expected := next }

/-- The state in which what comes after the open part is expected. -/
def pop (g : Grammar) : Grammar :=
  { g with expected := g.later.headD .nothing, later := g.later.tail }

/-- The state in which `next` is expected once an open part is done. -/
def push (g : Grammar) (next : Expectation) : Grammar := { g with later := next :: g.later }

/-- A fault outside any larger part. -/
def fault {α : Type} (problem : Problem) (mark : Mark) : Except (Option Fault) α :=
  .error (some ⟨problem, mark, none⟩)

/-- A fault in a larger part. -/
def faultIn {α : Type} (activity : Activity) (began : Mark) (problem : Problem) (mark : Mark) :
    Except (Option Fault) α :=
  .error (some ⟨problem, mark, some (activity, began)⟩)

/-- A fault in the innermost open collection. -/
def faultInOpen {α : Type} (g : Grammar) (activity : Activity) (problem : Problem) (mark : Mark) :
    Except (Option Fault) α :=
  faultIn activity (g.began.headD .start) problem mark

/-- A scalar without text. -/
def emptyScalar (g : Grammar) (mark : Mark) : Step :=
  .ok (g, ⟨.scalar none none "" .plain, mark⟩)

/-! ## Documents -/

/-- Takes the directives in front of a document. -/
def directives : Nat → Grammar → Except (Option Fault) Grammar
  | 0, g => .ok g
  | bound + 1, g => do
    let token ← g.peek
    match token.kind with
    | .versionDirective major minor =>
      if g.versioned then fault .duplicateVersion token.start
      if major ≠ 1 || (minor ≠ 1 && minor ≠ 2) then fault .incompatibleVersion token.start
      directives bound { g.skip with versioned := true }
    | .tagDirective handle meaning =>
      if (g.handles.lookup handle).isSome then fault .duplicateTagDirective token.start
      directives bound { g.skip with handles := g.handles ++ [(handle, meaning)] }
    | _ => return g

/-- The state with the directives in front of a document taken, and the two handles that need none
declared. -/
def withDirectives (g : Grammar) : Except (Option Fault) Grammar := do
  let g ← directives (g.tokens.length + 1) { g with versioned := false, handles := [] }
  return { g with handles := g.handles ++ [("!", Tag.mark), ("!!", Tag.core "")] }

/-- The state behind the markers of a document's end. -/
def pastDocumentEnds : List Token → List Token
  | token :: rest => if token.kind = .documentEnd then pastDocumentEnds rest else token :: rest
  | [] => []

/-- A document starts, or the text ends.  Only the first document needs no marker. -/
def document (g : Grammar) (isFirst : Bool) : Step := do
  let g := if isFirst then g else { g with tokens := pastDocumentEnds g.tokens }
  let token ← g.peek
  let explicit : Step := do
    let g ← g.withDirectives
    let marker ← g.peek
    if marker.kind ≠ .documentStart then fault .documentStart marker.start
    return ({ g.skip.push .documentEnd with expected := .documentContent },
      ⟨.documentStart, token.start⟩)
  match token.kind with
  | .streamEnd => return ({ g.skip with expected := .nothing }, ⟨.streamEnd, token.start⟩)
  | .versionDirective _ _ => explicit
  | .tagDirective _ _ => explicit
  | .documentStart => explicit
  | _ =>
    if isFirst then
      let g ← g.withDirectives
      return ({ g.push .documentEnd with expected := .blockNode }, ⟨.documentStart, token.start⟩)
    else explicit

/-- A document ends. -/
def documentEnd (g : Grammar) : Step := do
  let token ← g.peek
  let g := if token.kind = .documentEnd then g.skip else g
  return ({ g with expected := .document, handles := [] }, ⟨.documentEnd, token.start⟩)

/-! ## Nodes -/

/-- The properties in front of a node. -/
structure Properties where
  /-- Its anchor. -/
  anchor : Option String
  /-- Its tag, a handle and what follows it, and where the tag stands. -/
  tag : Option (String × Tag × Mark)
  /-- Where the properties start. -/
  mark : Option Mark

/-- Takes an anchor. -/
def takeAnchor (g : Grammar) (p : Properties) : Except (Option Fault) (Grammar × Properties) := do
  let token ← g.peek
  match token.kind with
  | .anchor name =>
    return (g.skip, { p with anchor := some name, mark := some (p.mark.getD token.start) })
  | _ => return (g, p)

/-- Takes a tag. -/
def takeTag (g : Grammar) (p : Properties) : Except (Option Fault) (Grammar × Properties) := do
  let token ← g.peek
  match token.kind with
  | .tag handle suffix =>
    return (g.skip, { p with
      tag := some (handle, suffix, token.start), mark := some (p.mark.getD token.start) })
  | _ => return (g, p)

/-- Takes an anchor and a tag, in either order. -/
def takeProperties (g : Grammar) : Except (Option Fault) (Grammar × Properties) := do
  let (g, p) ← g.takeAnchor ⟨none, none, none⟩
  let (g, p) ← g.takeTag p
  if p.anchor.isSome then return (g, p) else g.takeAnchor p

/-- The tag that a handle and a suffix stand for. -/
def resolveTag (g : Grammar) (start : Mark) : Option (String × Tag × Mark) →
    Except (Option Fault) (Option Tag)
  | none => .ok none
  | some (handle, suffix, mark) =>
    if handle.isEmpty then .ok (some suffix)
    else
      match g.handles.lookup handle with
      | some meaning => .ok (some (meaning.append suffix))
      | none => faultIn .node start .undefinedHandle mark

/-- A node.  In a block, collections may be told by indentation; as the key or value of a block
mapping, a sequence may stand at the indentation of the mapping. -/
def node (g : Grammar) (inBlock indentless : Bool) : Step := do
  let token ← g.peek
  match token.kind with
  | .alias name => return (g.pop.skip, ⟨.alias name, token.start⟩)
  | _ =>
    let (g, properties) ← g.takeProperties
    let token ← g.peek
    let start := properties.mark.getD token.start
    let anchor := properties.anchor
    let tag ← g.resolveTag start properties.tag
    let collection (kind : EventKind) (next : Expectation) : Step :=
      .ok ({ g with expected := next }, ⟨kind, start⟩)
    let missing : Step :=
      if anchor.isSome || tag.isSome then
        .ok (g.pop, ⟨.scalar anchor tag "" .plain, start⟩)
      else faultIn (if inBlock then .blockNode else .flowNode) start .nodeContent token.start
    match token.kind with
    | .blockEntry =>
      if indentless then collection (.sequenceStart anchor tag) .indentlessEntry else missing
    | .scalar text style =>
      return (g.pop.skip, ⟨.scalar anchor tag text style, start⟩)
    | .flowSequenceStart => collection (.sequenceStart anchor tag) .flowSequenceStart
    | .flowMappingStart => collection (.mappingStart anchor tag) .flowMappingStart
    | .blockSequenceStart =>
      if inBlock then collection (.sequenceStart anchor tag) .blockSequenceStart else missing
    | .blockMappingStart =>
      if inBlock then collection (.mappingStart anchor tag) .blockMappingStart else missing
    | _ => missing

/-- The content of a document behind its marker. -/
def documentContent (g : Grammar) : Step := do
  let token ← g.peek
  match token.kind with
  | .versionDirective _ _ | .tagDirective _ _ | .documentStart | .documentEnd | .streamEnd =>
    g.pop.emptyScalar token.start
  | _ => g.node true false

/-! ## Block collections -/

/-- Takes the token that starts a collection. -/
def openCollection (g : Grammar) : Except (Option Fault) Grammar := do
  let token ← g.peek
  return { g.skip with began := token.start :: g.began }

/-- A collection ends with the next token. -/
def closeCollection (g : Grammar) (kind : EventKind) (mark : Mark) : Grammar × Event :=
  ({ g.pop.skip with began := g.began.tail }, ⟨kind, mark⟩)

/-- An entry of a block sequence, or its end. -/
def blockSequenceEntry (g : Grammar) : Step := do
  let token ← g.peek
  match token.kind with
  | .blockEntry =>
    let g := { g.skip with expected := .blockSequenceEntry }
    match (← g.peek).kind with
    | .blockEntry | .blockEnd => g.emptyScalar token.stop
    | _ => (g.push .blockSequenceEntry).node true false
  | .blockEnd => return g.closeCollection .sequenceEnd token.start
  | _ => g.faultInOpen .blockCollection .dashIndicator token.start

/-- An entry of a sequence at the indentation of its mapping, or its end. -/
def indentlessEntry (g : Grammar) : Step := do
  let token ← g.peek
  match token.kind with
  | .blockEntry =>
    let g := { g.skip with expected := .indentlessEntry }
    match (← g.peek).kind with
    | .blockEntry | .key | .value | .blockEnd => g.emptyScalar token.stop
    | _ => (g.push .indentlessEntry).node true false
  | _ => return (g.pop, ⟨.sequenceEnd, token.start⟩)

/-- A part of a block mapping behind its indicator: a node, or nothing. -/
def blockMappingPart (g : Grammar) (next : Expectation) (stop : Mark) : Step := do
  let g := { g.skip with expected := next }
  match (← g.peek).kind with
  | .key | .value | .blockEnd => g.emptyScalar stop
  | _ => (g.push next).node true true

/-- A key of a block mapping, or its end. -/
def blockMappingKey (g : Grammar) : Step := do
  let token ← g.peek
  match token.kind with
  | .key => g.blockMappingPart .blockMappingValue token.stop
  | .blockEnd => return g.closeCollection .mappingEnd token.start
  | _ => g.faultInOpen .blockMapping .expectedKey token.start

/-- A value of a block mapping. -/
def blockMappingValue (g : Grammar) : Step := do
  let token ← g.peek
  match token.kind with
  | .value => g.blockMappingPart .blockMappingKey token.stop
  | _ => (g.expect .blockMappingKey).emptyScalar token.start

/-! ## Flow collections -/

/-- Takes the comma in front of a part of a flow collection that is not its first. -/
def takeComma (g : Grammar) (isFirst : Bool) (activity : Activity) (problem : Problem)
    (close : TokenKind) : Except (Option Fault) Grammar := do
  let token ← g.peek
  if isFirst || token.kind = close then return g
  else if token.kind = .flowEntry then return g.skip
  else g.faultInOpen activity problem token.start

/-- An entry of a flow sequence, or its end. -/
def flowSequenceEntry (g : Grammar) (isFirst : Bool) : Step := do
  let g ← g.takeComma isFirst .flowSequence .sequenceCommaOrEnd .flowSequenceEnd
  let token ← g.peek
  match token.kind with
  | .flowSequenceEnd => return g.closeCollection .sequenceEnd token.start
  | .key => return ({ g.skip with expected := .pairKey }, ⟨.mappingStart none none, token.start⟩)
  | _ => (g.push .flowSequenceEntry).node false false

/-- The key of a pair in a flow sequence. -/
def pairKey (g : Grammar) : Step := do
  let token ← g.peek
  match token.kind with
  | .value | .flowEntry | .flowSequenceEnd =>
    (g.skip.expect .pairValue).emptyScalar token.stop
  | _ => (g.push .pairValue).node false false

/-- The value of a pair in a flow sequence. -/
def pairValue (g : Grammar) : Step := do
  let token ← g.peek
  match token.kind with
  | .value =>
    let g := g.skip
    let token ← g.peek
    match token.kind with
    | .flowEntry | .flowSequenceEnd => (g.expect .pairEnd).emptyScalar token.start
    | _ => (g.push .pairEnd).node false false
  | _ => (g.expect .pairEnd).emptyScalar token.start

/-- The end of a pair in a flow sequence. -/
def pairEnd (g : Grammar) : Step := do
  let token ← g.peek
  return ({ g with expected := .flowSequenceEntry }, ⟨.mappingEnd, token.start⟩)

/-- A key of a flow mapping, or its end. -/
def flowMappingKey (g : Grammar) (isFirst : Bool) : Step := do
  let g ← g.takeComma isFirst .flowMapping .mappingCommaOrEnd .flowMappingEnd
  let token ← g.peek
  match token.kind with
  | .flowMappingEnd => return g.closeCollection .mappingEnd token.start
  | .key =>
    let g := g.skip
    let token ← g.peek
    match token.kind with
    | .value | .flowEntry | .flowMappingEnd =>
      (g.expect .flowMappingValue).emptyScalar token.start
    | _ => (g.push .flowMappingValue).node false false
  | _ => (g.push .flowMappingNoValue).node false false

/-- A value of a flow mapping. -/
def flowMappingValue (g : Grammar) : Step := do
  let token ← g.peek
  match token.kind with
  | .value =>
    let g := g.skip
    let token ← g.peek
    match token.kind with
    | .flowEntry | .flowMappingEnd =>
      (g.expect .flowMappingKey).emptyScalar token.start
    | _ => (g.push .flowMappingKey).node false false
  | _ => (g.expect .flowMappingKey).emptyScalar token.start

/-- The value of a key that stands alone in a flow mapping. -/
def flowMappingNoValue (g : Grammar) : Step := do
  let token ← g.peek
  (g.expect .flowMappingKey).emptyScalar token.start

/-- The next event. -/
def next (g : Grammar) : Step :=
  match g.expected with
  | .firstDocument => g.document true
  | .document => g.document false
  | .documentContent => g.documentContent
  | .documentEnd => g.documentEnd
  | .blockNode => g.node true false
  | .blockSequenceStart => do (← g.openCollection).blockSequenceEntry
  | .blockSequenceEntry => g.blockSequenceEntry
  | .indentlessEntry => g.indentlessEntry
  | .blockMappingStart => do (← g.openCollection).blockMappingKey
  | .blockMappingKey => g.blockMappingKey
  | .blockMappingValue => g.blockMappingValue
  | .flowSequenceStart => do (← g.openCollection).flowSequenceEntry true
  | .flowSequenceEntry => g.flowSequenceEntry false
  | .pairKey => g.pairKey
  | .pairValue => g.pairValue
  | .pairEnd => g.pairEnd
  | .flowMappingStart => do (← g.openCollection).flowMappingKey true
  | .flowMappingKey => g.flowMappingKey false
  | .flowMappingValue => g.flowMappingValue
  | .flowMappingNoValue => g.flowMappingNoValue
  | .nothing => .error none

/-- The events up to the end of the text, or up to a fault.  A fault of the tokens stands where
they run out. -/
def run (atEnd : Option Fault) : Nat → Grammar → List Event × Option Fault
  | 0, _ => ([], none)
  | bound + 1, g =>
    match g.next with
    | .error (some fault) => ([], some fault)
    | .error none => ([], atEnd)
    | .ok (g, event) =>
      if event.kind = .streamEnd then ([event], none)
      else
        let (events, fault) := run atEnd bound g
        (event :: events, fault)

end Grammar

/-- The events of a text with the given tokens.  Every token gives at most three events. -/
def eventsOf (tokens : Array Token) (fault : Option Fault) : List Event × Option Fault :=
  Grammar.run fault (4 * tokens.size + 16) (Grammar.start tokens.toList)

end ApiDescription.Yaml
