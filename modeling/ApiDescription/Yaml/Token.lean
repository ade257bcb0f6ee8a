import ApiDescription.Yaml.Mark
import ApiDescription.Yaml.Tag

/-!
# Tokens of YAML text

The smallest parts of a YAML text, each with the marks of its start and its end.  Indentation
becomes tokens too: a block collection starts and ends with a token of no length.
-/

namespace ApiDescription.Yaml

/-- The five ways to write a scalar. -/
inductive Style where
  | plain | singleQuoted | doubleQuoted | literal | folded
deriving DecidableEq, Repr, Inhabited

/-- What a token is. -/
inductive TokenKind where
  /-- The end of the text. -/
  | streamEnd
  /-- A `%YAML` line. -/
  | versionDirective (major minor : Nat)
  /-- A `%TAG` line: a handle and what it stands for. -/
  | tagDirective (handle : String) (meaning : Tag)
  /-- The marker `---`. -/
  | documentStart
  /-- The marker `...`. -/
  | documentEnd
  /-- A block sequence starts. -/
  | blockSequenceStart
  /-- A block mapping starts. -/
  | blockMappingStart
  /-- A block collection ends. -/
  | blockEnd
  /-- The bracket `[`. -/
  | flowSequenceStart
  /-- The bracket `]`. -/
  | flowSequenceEnd
  /-- An opening brace. -/
  | flowMappingStart
  /-- A closing brace. -/
  | flowMappingEnd
  /-- The dash of a block sequence. -/
  | blockEntry
  /-- The comma of a flow collection. -/
  | flowEntry
  /-- A mapping key follows. -/
  | key
  /-- A mapping value follows. -/
  | value
  /-- A reference to an anchor. -/
  | alias (name : String)
  /-- A name for the node that follows. -/
  | anchor (name : String)
  /-- A tag: a handle, empty if there is none, and what follows it. -/
  | tag (handle : String) (suffix : Tag)
  /-- A scalar. -/
  | scalar (text : String) (style : Style)
deriving DecidableEq, Repr, Inhabited

/-- A token and where it stands. -/
structure Token where
  /-- What it is. -/
  kind : TokenKind
  /-- The mark of its start. -/
  start : Mark
  /-- The mark behind its end. -/
  stop : Mark
deriving DecidableEq, Repr, Inhabited

end ApiDescription.Yaml
