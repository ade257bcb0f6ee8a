import ApiDescription.Yaml.Node
import ApiDescription.Pointer

/-!
# YAML values as JSON

A YAML value becomes JSON when every mapping has scalar keys and every number is finite.  Keys
become texts, as they are written in YAML; tags are dropped.  The first offence in document order,
a key before its value, is the one that is named.
-/

namespace ApiDescription.Yaml

/-- What keeps a YAML value from being JSON, and where. -/
inductive Unrepresentable where
  /-- A mapping has a key that is no scalar. -/
  | key (mapping : Pointer)
  /-- A number is not finite. -/
  | number (text : String) (place : Pointer)
deriving DecidableEq

/-- The message for what is not JSON. -/
def Unrepresentable.message : Unrepresentable → String
  | .key mapping => "mapping at " ++ mapping.display ++ " uses a non-scalar key"
  | .number text place =>
    "number '" ++ text ++ "' at " ++ place.display ++ " cannot be represented in JSON"

namespace Node

/-- The text of a scalar key. -/
def keyText? : Node → Option String
  | .string s => some s
  | .number n => some (numberText n)
  | .bool b => some (if b then "true" else "false")
  | .null => some "null"
  | .tagged _ value => value.keyText?
  | .sequence _ => none
  | .mapping _ => none

/-- Whether a number is finite. -/
def isFinite : Json.Number → Bool
  | .int _ => true
  | .float f => f.isFinite

mutual

/-- The JSON of a value at a place. -/
def toJsonAt (place : Pointer) : Node → Except Unrepresentable Json
  | .null => .ok .null
  | .bool b => .ok (.bool b)
  | .number n => if isFinite n then .ok (.number n) else .error (.number (numberText n) place)
  | .string s => .ok (.string s)
  | .sequence items => .array <$> itemsToJson place 0 items
  | .mapping entries => .object <$> entriesToJson place [] entries
  | .tagged _ value => toJsonAt place value

/-- The JSON of the items of a sequence from an index on. -/
def itemsToJson (place : Pointer) (index : Nat) : List Node → Except Unrepresentable (List Json)
  | [] => .ok []
  | item :: rest => do
    let first ← toJsonAt (place.item index) item
    return first :: (← itemsToJson place (index + 1) rest)

/-- The JSON of the entries of a mapping, put to the members before them. -/
def entriesToJson (place : Pointer) (done : Entries Json) :
    List (Node × Node) → Except Unrepresentable (Entries Json)
  | [] => .ok done
  | (key, value) :: rest =>
    match key.keyText? with
    | none => .error (.key place)
    | some name => do
      let member ← toJsonAt (place.push name) value
      entriesToJson place (Entries.put done name member) rest

end

/-- The JSON of a value. -/
def toJson (node : Node) : Except Unrepresentable Json := toJsonAt .root node

end Node

end ApiDescription.Yaml
