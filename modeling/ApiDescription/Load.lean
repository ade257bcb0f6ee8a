import ApiDescription.ImportError
import ApiDescription.Json.Reader
import ApiDescription.Yaml.Merge
import ApiDescription.Yaml.ToJson
import ApiDescription.Text.Blank

/-!
# Loading documents

A text is JSON when its first character that is no white space opens an object or an array, and
YAML otherwise.  Either way it becomes one JSON object.
-/

namespace ApiDescription

/-- A document as a tree. -/
structure LoadedDocument where
  /-- The format it was written in. -/
  format : Format
  /-- The tree. -/
  root : Json
deriving Inhabited

/-- A text without the byte order mark at its front. -/
def withoutByteOrderMark (text : String) : String :=
  match text.toList with
  | c :: rest => if Yaml.isByteOrderMark c then String.ofList rest else text
  | [] => text

/-- The format of a text. -/
def Format.ofText (text : String) : Format :=
  match (withoutByteOrderMark text).toList.dropWhile Text.isBlank with
  | '\x7b' :: _ => .json
  | '[' :: _ => .json
  | _ => .yaml

/-- The characters in front of the last place of a word, or all of them if it is nowhere. -/
def beforeLast (word : List Char) : List Char → List Char
  | text =>
    match lastPlace? 0 text with
    | some place => text.take place
    | none => text
where
  /-- The last place of the word. -/
  lastPlace? (place : Nat) : List Char → Option Nat
    | [] => none
    | c :: rest =>
      match lastPlace? (place + 1) rest with
      | some later => some later
      | none => if word.isPrefixOf (c :: rest) then some place else none

/-- A message without the place at its end. -/
def withoutPlace (message : String) : String :=
  String.ofList (beforeLast " at line ".toList message.toList)

/-- A fault of JSON text. -/
def Json.Failure.toSyntaxFault (f : Json.Failure) : SyntaxFault :=
  ⟨.json, some f.place.line, some f.place.column, f.rule.message⟩

/-- A fault of YAML text; its place is given on its own. -/
def Yaml.LoadFault.toSyntaxFault (f : Yaml.LoadFault) : SyntaxFault :=
  ⟨.yaml, f.mark?.map (·.line + 1), f.mark?.map (·.column + 1), withoutPlace f.message⟩

/-- The tree of a JSON text. -/
def loadJson (text : String) : Except ImportError Json :=
  (Json.read text).mapError fun f => .unreadable f.toSyntaxFault

/-- The tree of a YAML text. -/
def loadYaml (text : String) : Except ImportError Json := do
  let node ← ((Yaml.documentOf text).compose).mapError fun f => .unreadable f.toSyntaxFault
  let node ← node.merge.mapError fun p =>
    .unreadable (Yaml.LoadFault.merge p).toSyntaxFault
  node.toJson.mapError fun u => .malformed u.message

/-- The document that a text writes. -/
def LoadedDocument.ofText (text : String) : Except ImportError LoadedDocument := do
  let body := withoutByteOrderMark text
  let format := Format.ofText body
  if body.toList.all Text.isBlank then
    throw (.unreadable ⟨format, none, none, "document is empty"⟩)
  let root ←
    match format with
    | .json => loadJson body
    | .yaml => loadYaml body
  match root with
  | .object _ => return ⟨format, root⟩
  | _ => throw (.malformed ("document root must be an object, found " ++ root.kind.name))

end ApiDescription
