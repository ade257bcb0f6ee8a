import ApiDescription.Text.Composition
import ApiDescription.Text.Direction
import ApiDescription.Text.Joining
import ApiDescription.Text.Punycode
import ApiDescription.Uri.HostName.Mapping

/-!
# Names of hosts

The name of a host on the web is written in ASCII, whatever it was written in before.  Every
character is replaced by what it stands for, the text is composed, and each label between dots that
holds a character outside ASCII is encoded behind the mark `xn--`.  A label that has the mark
already must be one that this would have written.

A label must not start with a mark of writing, and joiners must have a meaning in it.  If any letter
of a name is written to the left, every label must keep to one direction, so that a line of text
does not mix the labels up.
-/

namespace ApiDescription.HostName

open Text (Direction)

/-! ## Characters -/

/-- Whether a character is one of ASCII. -/
def isAscii (c : Char) : Bool := c.toNat < 0x80

/-- The characters that no name may hold, in any scheme. -/
def isForbidden (c : Char) : Bool :=
  c ∈ ['\x00', '\t', '\n', '\r', ' ', '#', '/', ':', '<', '>', '?', '@', '[', '\\', ']', '^', '|']

/-- The characters of ASCII that no name of the web may hold. -/
def isForbiddenOnWeb (c : Char) : Bool :=
  isForbidden c || c.toNat ≤ 0x20 || c.toNat = 0x7F || c = '%'

/-- A text as it stands in a name: every character replaced, and the whole composed. -/
def prepared? (text : List Char) : Option (List Char) := (spelled? text).map Text.composed

/-! ## Directions -/

/-- Whether a label of given directions ends, but for marks, in one of some directions. -/
def endsIn (last : List Direction) (directions : List Direction) : Bool :=
  (directions.reverse.dropWhile (· = .mark)).head?.any (· ∈ last)

/-- Whether a label of given directions keeps to the direction of its first letter. -/
def keepsDirection : List Direction → Bool
  | [] => true
  | .rightward :: rest =>
    rest.all (fun d => d ≠ .leftward && d ≠ .arabicDigit) &&
      endsIn [.rightward, .digit] (.rightward :: rest)
  | .leftward :: rest =>
    rest.all (· ≠ .rightward) && !(rest.contains .digit && rest.contains .arabicDigit) &&
      endsIn [.leftward, .digit, .arabicDigit] (.leftward :: rest)
  | _ => false

/-- Whether a character calls for labels that keep to one direction. -/
def callsForDirection (c : Char) : Bool :=
  Direction.of c = .leftward || Direction.of c = .arabicDigit

/-! ## Labels -/

/-- A label of a name. -/
structure Label where
  /-- The characters it is read as. -/
  characters : List Char
  /-- The text in ASCII. -/
  written : List Char
deriving DecidableEq, Repr

/-- What stands in front of encoded characters. -/
def mark : List Char := ['x', 'n', '-', '-']

/-- The greatest length of a label that is encoded. -/
def maxEncoded : Nat := 1000

/-- The greatest length of a text that is decoded. -/
def maxDecoded : Nat := 2000

/-- Whether the characters of a label may stand together. -/
def areSound (characters : List Char) : Bool :=
  !characters.head?.any Text.isMark && Text.joinersHaveMeaning characters

/-- The label that stands behind the mark. -/
def decodedLabel? (code : List Char) : Option Label := do
  if code.isEmpty || code.getLast? = some '-' || maxDecoded < code.length then none
  if !code.all isAscii then none
  let characters ← Punycode.decode? code
  if prepared? characters = some characters && areSound characters then
    some ⟨characters, mark ++ code⟩
  else none

/-- The label that a text between dots is. -/
def label? (text : List Char) : Option Label :=
  if mark.isPrefixOf text then decodedLabel? (text.drop mark.length)
  else if text.all isAscii then some ⟨text, text⟩
  else if areSound text && text.length ≤ maxEncoded then
    some ⟨text, mark ++ Punycode.encode text⟩
  else none

/-! ## Names -/

/-- The labels of a name. -/
def labels? (name : List Char) : Option (List Label) := do
  let name ← prepared? name
  if name.any isForbiddenOnWeb then none
  let labels ← (Text.split '.' name).mapM label?
  let directed := labels.any (·.characters.any callsForDirection)
  if directed && !labels.all (fun l => keepsDirection (l.characters.map Direction.of)) then none
  else some labels

/-- A name in ASCII. -/
def ascii? (name : List Char) : Option (List Char) :=
  (labels? name).map fun labels => ['.'].intercalate (labels.map Label.written)

end ApiDescription.HostName
