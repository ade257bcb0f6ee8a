import ApiDescription.Yaml.Mark

/-!
# Faults of YAML text

A text that is no YAML breaks one rule at one mark, sometimes while something larger is being
read.  The message names the rule, and the larger part with the mark where that part began.
-/

namespace ApiDescription.Yaml

/-- The rules of YAML text that can be broken. -/
inductive Problem where
  /-- A character that no text may hold, behind so many bytes. -/
  | controlCharacter (offset : Nat)
  | noToken | blockEntryHere | mappingKeyHere | mappingValueHere | expectedColon
  | directiveName | directiveCharacter | unknownDirective | versionTooLong | versionNumber
  | versionPoint | directiveSpace | directiveEnd | anchorName | tagVerbatimEnd | tagEnd
  | tagHandleStart | tagUri | uriEscape | uriLeadingOctet | uriTrailingOctet | zeroIndentation
  | headerEnd | indentationTab | documentMarker | streamEnd | unknownEscape | hexadecimal
  | invalidCharacterCode | plainColon | plainTab
  | documentStart | duplicateVersion | incompatibleVersion | duplicateTagDirective
  | undefinedHandle | nodeContent | dashIndicator | expectedKey | sequenceCommaOrEnd
  | mappingCommaOrEnd
deriving DecidableEq, Repr, Inhabited

/-- The words for a broken rule. -/
def Problem.text : Problem → String
  | .controlCharacter offset =>
    "control characters are not allowed" ++
      if offset = 0 then "" else " at position " ++ toString offset
  | .noToken => "found character that cannot start any token"
  | .blockEntryHere => "block sequence entries are not allowed in this context"
  | .mappingKeyHere => "mapping keys are not allowed in this context"
  | .mappingValueHere => "mapping values are not allowed in this context"
  | .expectedColon => "could not find expected ':'"
  | .directiveName => "could not find expected directive name"
  | .directiveCharacter => "found unexpected non-alphabetical character"
  | .unknownDirective => "found unknown directive name"
  | .versionTooLong => "found extremely long version number"
  | .versionNumber => "did not find expected version number"
  | .versionPoint => "did not find expected digit or '.' character"
  | .directiveSpace => "did not find expected whitespace"
  | .directiveEnd => "did not find expected comment or line break"
  | .anchorName => "did not find expected alphabetic or numeric character"
  | .tagVerbatimEnd => "did not find the expected '>'"
  | .tagEnd => "did not find expected whitespace or line break"
  | .tagHandleStart => "did not find expected '!'"
  | .tagUri => "did not find expected tag URI"
  | .uriEscape => "did not find URI escaped octet"
  | .uriLeadingOctet => "found an incorrect leading UTF-8 octet"
  | .uriTrailingOctet => "found an incorrect trailing UTF-8 octet"
  | .zeroIndentation => "found an indentation indicator equal to 0"
  | .headerEnd => "did not find expected comment or line break"
  | .indentationTab => "found a tab character where an indentation space is expected"
  | .documentMarker => "found unexpected document indicator"
  | .streamEnd => "found unexpected end of stream"
  | .unknownEscape => "found unknown escape character"
  | .hexadecimal => "did not find expected hexadecimal number"
  | .invalidCharacterCode => "found invalid Unicode character escape code"
  | .plainColon => "found unexpected ':'"
  | .plainTab => "found a tab character that violates indentation"
  | .documentStart => "did not find expected <document start>"
  | .duplicateVersion => "found duplicate %YAML directive"
  | .incompatibleVersion => "found incompatible YAML document"
  | .duplicateTagDirective => "found duplicate %TAG directive"
  | .undefinedHandle => "found undefined tag handle"
  | .nodeContent => "did not find expected node content"
  | .dashIndicator => "did not find expected '-' indicator"
  | .expectedKey => "did not find expected key"
  | .sequenceCommaOrEnd => "did not find expected ',' or ']'"
  | .mappingCommaOrEnd => "did not find expected ',' or '\x7d'"

/-- What is being read when a rule is broken. -/
inductive Activity where
  | nextToken | simpleKey | directive | versionDirective | tagDirective | tagDirectiveScan
  | tagDirectiveHandle | tagDirectiveUri | anchor | alias | tag | tagUri | blockScalar
  | quotedScalar | quotedEscape
  | plainScalar | node | blockNode | flowNode | blockCollection | blockMapping | flowSequence
  | flowMapping
deriving DecidableEq, Repr, Inhabited

/-- The words for what is being read. -/
def Activity.text : Activity → String
  | .nextToken => "while scanning for the next token"
  | .simpleKey => "while scanning a simple key"
  | .directive => "while scanning a directive"
  | .versionDirective => "while scanning a %YAML directive"
  | .tagDirective => "while scanning a %TAG directive"
  | .tagDirectiveScan => "while scanning a tag directive"
  | .tagDirectiveHandle => "while parsing a tag directive"
  | .tagDirectiveUri => "while parsing a %TAG directive"
  | .anchor => "while scanning an anchor"
  | .alias => "while scanning an alias"
  | .tag => "while scanning a tag"
  | .tagUri => "while parsing a tag"
  | .blockScalar => "while scanning a block scalar"
  | .quotedScalar => "while scanning a quoted scalar"
  | .quotedEscape => "while parsing a quoted scalar"
  | .plainScalar => "while scanning a plain scalar"
  | .node => "while parsing a node"
  | .blockNode => "while parsing a block node"
  | .flowNode => "while parsing a flow node"
  | .blockCollection => "while parsing a block collection"
  | .blockMapping => "while parsing a block mapping"
  | .flowSequence => "while parsing a flow sequence"
  | .flowMapping => "while parsing a flow mapping"

/-- A broken rule, its mark, and what was being read from which mark on. -/
structure Fault where
  /-- The rule. -/
  problem : Problem
  /-- Where it is broken. -/
  mark : Mark
  /-- What was being read, and where that began. -/
  context : Option (Activity × Mark)
deriving DecidableEq, Repr, Inhabited

/-- The words for a mark behind others, unless it is the start of the text. -/
def Mark.suffix (m : Mark) : String := if m = Mark.start then "" else " at " ++ m.text

/-- The text of a fault.  The mark where the larger part began is left out when it is the mark of
the fault itself. -/
def Fault.text (f : Fault) : String :=
  let larger :=
    match f.context with
    | none => ""
    | some (activity, began) =>
      ", " ++ activity.text ++ if began = f.mark then "" else began.suffix
  f.problem.text ++ f.mark.suffix ++ larger

end ApiDescription.Yaml
