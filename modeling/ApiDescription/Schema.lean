import ApiDescription.Pointer

/-!
# Schemas

Every schema of a description is a node of one graph, and schemas refer to each other by the
numbers of their nodes.  A `$ref` is a node of its own that points at its target, so a recursive
schema is an edge that leads back.

`SchemaGraph.follow` goes along references until it meets a node of another shape.  A chain that
has passed more references than there are nodes has met one of them twice, which bounds the walk.
-/

namespace ApiDescription

/-- The number of a schema in its graph. -/
abbrev SchemaId := Nat

/-- What has become of a reference. -/
inductive ReferenceState where
  /-- Its target could not be found. -/
  | unresolved
  /-- Its target is being read.  No reference is left like this. -/
  | resolving
  /-- Its target is a schema. -/
  | resolved (target : SchemaId)
  /-- Its target is a schema that holds the reference. -/
  | cyclic (target : SchemaId)
deriving DecidableEq, Repr, Inhabited

/-- The target of a reference. -/
def ReferenceState.target? : ReferenceState → Option SchemaId
  | .unresolved => none
  | .resolving => none
  | .resolved target => some target
  | .cyclic target => some target

/-- A reference as it is written, and what has become of it. -/
structure Reference where
  /-- The text. -/
  text : String
  /-- What has become of it. -/
  state : ReferenceState
deriving DecidableEq, Repr, Inhabited

/-- How the alternatives of a schema are told apart. -/
structure Discriminator where
  /-- The property whose value tells. -/
  propertyName : String
  /-- The schemas for its values. -/
  mapping : Entries Reference
deriving DecidableEq, Repr, Inhabited

/-- The types of scalars. -/
inductive ScalarType where
  | string | integer | number | boolean | null
deriving DecidableEq, Repr, Inhabited

namespace ScalarType

/-- All types of scalars. -/
def all : List ScalarType := [.string, .integer, .number, .boolean, .null]

/-- The name of a type. -/
def name : ScalarType → String
  | .string => "string"
  | .integer => "integer"
  | .number => "number"
  | .boolean => "boolean"
  | .null => "null"

/-- The type of a given name. -/
def ofName? (name : String) : Option ScalarType := all.find? (·.name = name)

end ScalarType

/-- The shape of a scalar. -/
structure ScalarShape where
  /-- Its type. -/
  type : ScalarType
  /-- Its format. -/
  format : Option String
  /-- The least value. -/
  minimum : Option Float
  /-- The greatest value. -/
  maximum : Option Float
  /-- A bound that all values are above. -/
  exclusiveMinimum : Option Float
  /-- A bound that all values are below. -/
  exclusiveMaximum : Option Float
  /-- A number that divides all values. -/
  multipleOf : Option Float
  /-- The least length. -/
  minLength : Option Nat
  /-- The greatest length. -/
  maxLength : Option Nat
  /-- A pattern that all values match. -/
  pattern : Option String
deriving Repr

/-- What may stand besides the declared properties of an object. -/
inductive AdditionalProperties where
  /-- Anything or nothing. -/
  | allowed (value : Bool)
  /-- What a schema accepts. -/
  | schema (id : SchemaId)
deriving DecidableEq, Repr, Inhabited

/-- The shape of an object. -/
structure ObjectShape where
  /-- The declared properties. -/
  properties : Entries SchemaId
  /-- The names of those that must be there. -/
  required : List String
  /-- What else may be there. -/
  additionalProperties : AdditionalProperties
  /-- The least number of properties. -/
  minProperties : Option Nat
  /-- The greatest number of properties. -/
  maxProperties : Option Nat
  /-- How alternatives are told apart. -/
  discriminator : Option Discriminator
deriving DecidableEq, Repr

/-- The shape of an object about which nothing is said. -/
def ObjectShape.free : ObjectShape := ⟨[], [], .allowed true, none, none, none⟩

/-- The shape of an array. -/
structure ArrayShape where
  /-- The schema of the items. -/
  items : Option SchemaId
  /-- The schemas of the first items. -/
  prefixItems : List SchemaId
  /-- The least number of items. -/
  minItems : Option Nat
  /-- The greatest number of items. -/
  maxItems : Option Nat
  /-- Whether no item occurs twice. -/
  uniqueItems : Bool
deriving DecidableEq, Repr

/-- The shape of a schema that is put together from others. -/
structure ComposedShape where
  /-- Schemas that all accept the value. -/
  allOf : List SchemaId
  /-- Schemas of which exactly one accepts it. -/
  oneOf : List SchemaId
  /-- Schemas of which at least one accepts it. -/
  anyOf : List SchemaId
  /-- A schema that does not accept it. -/
  negated : Option SchemaId
  /-- What is said about the value besides. -/
  inlined : Option SchemaId
  /-- How the alternatives are told apart. -/
  discriminator : Option Discriminator
deriving DecidableEq, Repr

/-- The schema that accepts what one of several accept. -/
def ComposedShape.ofAny (members : List SchemaId) : ComposedShape :=
  ⟨[], [], members, none, none, none⟩

/-- The shape of a schema. -/
inductive Shape where
  /-- Accepts everything. -/
  | any
  /-- Accepts nothing. -/
  | never
  /-- Accepts scalars. -/
  | scalar (shape : ScalarShape)
  /-- Accepts objects. -/
  | object (shape : ObjectShape)
  /-- Accepts arrays. -/
  | array (shape : ArrayShape)
  /-- Is put together from other schemas. -/
  | composed (shape : ComposedShape)
  /-- Stands for another schema. -/
  | reference (reference : Reference)
deriving Repr, Inhabited

/-- A schema. -/
structure Schema where
  /-- The name of the component, for a schema that is one. -/
  name : Option String
  /-- The document it is in, when that is not the entry document. -/
  document : Option String
  /-- The node it was read from. -/
  location : Pointer
  /-- Its title. -/
  title : Option String
  /-- Its description. -/
  description : Option String
  /-- Its shape. -/
  shape : Shape
  /-- Whether it accepts `null` as well. -/
  nullable : Bool
  /-- Whether values are only read. -/
  readOnly : Bool
  /-- Whether values are only written. -/
  writeOnly : Bool
  /-- Whether it should not be used any more. -/
  deprecated : Bool
  /-- The value that an absent one stands for. -/
  defaultValue : Option Json
  /-- Examples. -/
  examples : List Json
  /-- The values it accepts, if they are listed. -/
  enumeration : Option (List Json)
  /-- Extensions. -/
  extensions : Entries Json

namespace Schema

/-- The schema about which nothing is known but its place. -/
def blank (document : Option String) (location : Pointer) : Schema where
  name := none
  document := document
  location := location
  title := none
  description := none
  shape := .any
  nullable := false
  readOnly := false
  writeOnly := false
  deprecated := false
  defaultValue := none
  examples := []
  enumeration := none
  extensions := []

/-- The reference that a schema is. -/
def reference? (s : Schema) : Option Reference :=
  match s.shape with
  | .reference r => some r
  | _ => none

/-- The shape of an object, if the schema is one. -/
def object? (s : Schema) : Option ObjectShape :=
  match s.shape with
  | .object o => some o
  | _ => none

end Schema

/-- What a chain of references comes to. -/
inductive ChainEnd where
  /-- A schema that is no reference. -/
  | reached (id : SchemaId)
  /-- A reference whose target could not be found. -/
  | broken
  /-- Nothing: it leads back into itself. -/
  | closed
deriving DecidableEq, Repr

/-- The schemas of a description. -/
structure SchemaGraph where
  /-- The nodes, each at the place of its number. -/
  nodes : List Schema

namespace SchemaGraph

/-- The graph without schemas. -/
def empty : SchemaGraph := ⟨[]⟩

instance : Inhabited SchemaGraph := ⟨empty⟩

/-- The number of schemas. -/
def size (g : SchemaGraph) : Nat := g.nodes.length

/-- Whether there are no schemas. -/
def isEmpty (g : SchemaGraph) : Bool := g.nodes.isEmpty

/-- The schema of a number. -/
def get? (g : SchemaGraph) (id : SchemaId) : Option Schema := g.nodes[id]?

/-- The graph with one more schema; its number is the size before. -/
def push (g : SchemaGraph) (s : Schema) : SchemaGraph := ⟨g.nodes ++ [s]⟩

/-- The graph with the schema of a number changed. -/
def modify (g : SchemaGraph) (id : SchemaId) (change : Schema → Schema) : SchemaGraph :=
  ⟨g.nodes.modify id change⟩

/-- The schemas with their numbers. -/
def numbered (g : SchemaGraph) : List (SchemaId × Schema) :=
  g.nodes.zipIdx.map fun (s, id) => (id, s)

/-- What a chain comes to that may pass a given number of nodes. -/
def followFor (g : SchemaGraph) : Nat → SchemaId → ChainEnd
  | 0, _ => .closed
  | steps + 1, id =>
    match g.get? id with
    | none => .broken
    | some s =>
      match s.reference? with
      | none => .reached id
      | some r =>
        match r.state.target? with
        | none => .broken
        | some target => g.followFor steps target

/-- What the chain of references from a node comes to. -/
def follow (g : SchemaGraph) (id : SchemaId) : ChainEnd := g.followFor (g.size + 1) id

/-- The first schema of a chain that is no reference. -/
def resolve? (g : SchemaGraph) (id : SchemaId) : Option SchemaId :=
  match g.follow id with
  | .reached end_ => some end_
  | _ => none

/-- The number of the component of a given name. -/
def named? (g : SchemaGraph) (name : String) : Option SchemaId :=
  (g.numbered.find? fun entry => entry.2.name = some name).map (·.1)

@[simp] theorem size_push (g : SchemaGraph) (s : Schema) : (g.push s).size = g.size + 1 := by
  simp [push, size]

@[simp] theorem size_modify (g : SchemaGraph) (id : SchemaId) (change : Schema → Schema) :
    (g.modify id change).size = g.size := by
  simp [modify, size]

theorem get?_push (g : SchemaGraph) (s : Schema) (id : SchemaId) :
    (g.push s).get? id = if id = g.size then some s else g.get? id := by
  by_cases h : id = g.size
  · subst h
    simp [push, get?, size]
  · rw [if_neg h]
    simp only [push, get?]
    rw [List.getElem?_append]
    split
    · rfl
    · next hl =>
      have hlt : g.nodes.length < id := Nat.lt_of_le_of_ne (Nat.le_of_not_lt hl) (Ne.symm h)
      have hpos : 0 < id - g.nodes.length := Nat.sub_pos_of_lt hlt
      rw [List.getElem?_eq_none (Nat.le_of_lt hlt), List.getElem?_eq_none]
      exact hpos

theorem get?_modify (g : SchemaGraph) (id other : SchemaId) (change : Schema → Schema) :
    (g.modify id change).get? other =
      if id = other then (g.get? other).map change else g.get? other := by
  simp only [modify, get?, List.getElem?_modify]
  split <;> cases g.nodes[other]? <;> rfl

end SchemaGraph

end ApiDescription
