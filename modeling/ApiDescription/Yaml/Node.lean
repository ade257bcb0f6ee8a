import ApiDescription.Json

/-!
# YAML values

What a YAML document holds once its anchors are resolved: scalars, sequences, mappings whose keys
are any values, and values under a tag.  No mapping has two equal keys; `Node.same` says which are
equal.
-/

namespace ApiDescription.Yaml

/-- A YAML value. -/
inductive Node where
  /-- Null. -/
  | null
  /-- A truth value. -/
  | bool (value : Bool)
  /-- An integer or a double. -/
  | number (value : Json.Number)
  /-- A text. -/
  | string (value : String)
  /-- A sequence. -/
  | sequence (items : List Node)
  /-- A mapping, in order. -/
  | mapping (entries : List (Node × Node))
  /-- A value under a tag. -/
  | tagged (tag : String) (value : Node)
deriving Inhabited, Repr

namespace Node

/-- Whether two numbers are the same: both integers or both doubles, and equal; what is no number
is the same as itself. -/
def sameNumber : Json.Number → Json.Number → Bool
  | .int a, .int b => a = b
  | .float a, .float b => (a.isNaN && b.isNaN) || a == b
  | _, _ => false

mutual

/-- Whether two values are the same.  The order of the entries of a mapping does not matter. -/
def same : Node → Node → Bool
  | .null, .null => true
  | .bool a, .bool b => a = b
  | .number a, .number b => sameNumber a b
  | .string a, .string b => a = b
  | .sequence as, .sequence bs => sameItems as bs
  | .mapping as, .mapping bs => as.length = bs.length && sameEntries as bs
  | .tagged s a, .tagged t b => s = t && same a b
  | _, _ => false

/-- Whether two sequences hold the same values. -/
def sameItems : List Node → List Node → Bool
  | [], [] => true
  | a :: as, b :: bs => same a b && sameItems as bs
  | _, _ => false

/-- Whether each entry of the first mapping is in the second. -/
def sameEntries : List (Node × Node) → List (Node × Node) → Bool
  | [], _ => true
  | (k, v) :: rest, bs => bs.any (fun (k', v') => same k k' && same v v') && sameEntries rest bs

end

/-- The key of a mapping that is the same as a given one. -/
def keyLike? (entries : List (Node × Node)) (key : Node) : Option Node :=
  (entries.find? fun (k, _) => k.same key).map (·.1)

/-- Whether a mapping has a key. -/
def hasKey (entries : List (Node × Node)) (key : Node) : Bool := (keyLike? entries key).isSome

end Node

/-- The text of a number in YAML. -/
def numberText : Json.Number → String
  | .int n => toString n
  | .float f => Decimal.Layout.yaml.float f

end ApiDescription.Yaml
