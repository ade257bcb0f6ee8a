import ApiDescription.Text.Percent

/-!
# Tags

The tag of a node is written in characters, some of them as escaped octets.  Octets may have the
outline of a character without being one; a tag with such octets has no name, though it still says
that its node is no plain one.
-/

namespace ApiDescription.Yaml

/-- The characters of a tag; `none` stands for octets that are no character. -/
structure Tag where
  /-- The characters. -/
  characters : List (Option Char)
deriving DecidableEq, Repr, Inhabited

namespace Tag

/-- The tag with the characters of a text. -/
def ofList (text : List Char) : Tag := ⟨text.map some⟩

/-- The tag that only says that its node is no plain one. -/
def mark : Tag := ofList ['!']

/-- Whether a tag has no characters. -/
def isEmpty (t : Tag) : Bool := t.characters.isEmpty

/-- A tag behind another. -/
def append (t other : Tag) : Tag := ⟨t.characters ++ other.characters⟩

/-- The tag up to the character NUL, which ends it. -/
def ended (t : Tag) : Tag := ⟨t.characters.takeWhile (· ≠ some '\x00')⟩

/-- The character that octets are, if they are one. -/
def characterOf? (octets : List Nat) : Option Char :=
  match Percent.ofBytes none octets with
  | [c] => if Percent.bytesOf c = octets then some c else none
  | _ => none

/-- The text of a tag, if all of its characters are characters. -/
def text? (t : Tag) : Option String := (t.characters.mapM id).map String.ofList

/-- Whether an application defines a tag: it starts with an exclamation mark. -/
def isLocal (t : Tag) : Bool := t.characters.head? = some (some '!')

/-- The tags of the core schema. -/
def core (name : String) : Tag := ofList ("tag:yaml.org,2002:" ++ name).toList

/-- The name of a tag that an application defines, without its exclamation mark if there is more. -/
def localName? (t : Tag) : Option String := do
  let text ← t.text?
  match text.toList with
  | ['!'] => some "!"
  | '!' :: rest => some (String.ofList rest)
  | _ => none

end Tag

end ApiDescription.Yaml
