import ApiDescription.Binding.Reference

/-!
# Reading schemas

Every schema is read once, at the node it is written at.  Its number is given out before its parts
are read, so a reference among them that leads back finds it; while its parts are read it is open,
and a reference to an open schema closes a cycle.

`Node.schema` has room for so many levels below it as the limit on depth leaves.  What it reads at
one level is written over an arbitrary way to read the levels below.
-/

namespace ApiDescription

/-- A way to read the schema at a node. -/
abbrev SchemaReader := Node → Binding SchemaId

/-- The schema of which only the node is known. -/
def Record.blankSchema (r : Record) : Schema := .blank r.scope.label r.pointer

/-- The schema of which only the node is known. -/
def Node.blankSchema (n : Node) : Schema := .blank n.scope.label n.pointer

/-- A name without a mark of a reference stands for the component of that name. -/
def componentReference (text : String) : String :=
  if '#' ∈ text.toList || '/' ∈ text.toList then text
  else "#/components/schemas/" ++ Pointer.token text

namespace Record

variable (read : SchemaReader)

/-! ## References -/

/-- What becomes of a reference at a pointer of the document. -/
def referenceState (r : Record) (reference : String) (at_ : Pointer) : Binding ReferenceState := do
  match r.scope.locate reference with
  | .error f =>
    Binding.tell r.scope at_ f
    return .unresolved
  | .ok target =>
    match ← Binding.slot? target.site with
    | some (.opened id) => return .cyclic id
    | some (.bound id) => return .resolved id
    | none => return .resolved (← read target)

/-- The fields next to a reference that are not read. -/
def ignoredSiblings (r : Record) : List String :=
  (r.members.map (·.1)).filter fun key => key ≠ referenceKey && !isExtension key

/-- The schema that is a reference. -/
def referenceSchema (r : Record) (text : String) : Binding Schema := do
  let (title, description) ←
    if r.scope.followsJsonSchema then pure (← r.text? "title", ← r.text? "description")
    else do
      let ignored := r.ignoredSiblings
      if !ignored.isEmpty then r.tell (.siblingsIgnored ignored)
      pure (none, none)
  let state ← r.referenceState read text (r.pointer.push referenceKey)
  return { r.blankSchema with
    title, description, extensions := r.extensions, shape := .reference ⟨text, state⟩ }

/-! ## What is said about a schema -/

/-- The values that a schema accepts, if they are listed. -/
def enumeration? (r : Record) : Binding (Option (List Json)) := do
  let listed ← r.read? "enum" "an array" Json.items?
  match r.members.get? "const" with
  | none => return listed
  | some value =>
    if r.scope.followsJsonSchema then return some [value]
    else
      r.refuse "const"
      return listed

/-- The examples in a list. -/
def exampleList (r : Record) : Binding (List Json) :=
  match r.members.get? "examples" with
  | some (.array items) => return items
  | some other => do
    if r.scope.followsJsonSchema then r.tellMistyped "examples" "an array" other
    return []
  | none => return []

/-- The schema with everything that is said about it, besides its shape. -/
def annotated (r : Record) : Binding Schema := do
  let title ← r.text? "title"
  let description ← r.text? "description"
  let deprecated ← r.flag "deprecated"
  let readOnly ← r.flag "readOnly"
  let writeOnly ← r.flag "writeOnly"
  let examples ← r.exampleList
  let enumeration ← r.enumeration?
  let nullable ← r.flag? "nullable"
  if nullable.isSome && r.scope.followsJsonSchema then r.tellField "nullable" .nullableField
  return { r.blankSchema with
    title, description, deprecated, readOnly, writeOnly, enumeration
    nullable := nullable.getD false
    defaultValue := r.members.get? "default"
    examples := (r.members.get? "example").toList ++ examples
    extensions := r.extensions }

/-! ## Types -/

/-- The names of the types of values that are not `null`. -/
def typeNames : List String := ["object", "array", "string", "integer", "number", "boolean"]

/-- The names that are given as types. -/
def givenTypes (r : Record) : Binding (List String) :=
  match r.field? "type" with
  | none => return []
  | some n =>
    match n.value with
    | .string name => return [name]
    | .array _ => do
      if !r.scope.followsJsonSchema then
        n.tell .typeList
        return []
      let items ← n.items "type"
      Binding.collect (fun item : Node =>
        match item.value with
        | .string name => return some name
        | other => do
          item.tell (.typeNotText other.kind)
          return none) items
    | other => do
      r.tellMistyped "type" "a string" other
      return []

/-- The types of a schema. -/
structure Types where
  /-- The names of the types, each once; `null` only if there is no other. -/
  names : List String
  /-- Whether `null` is one of the types. -/
  withNull : Bool
deriving DecidableEq, Repr

/-- The types that names give, behind those before them. -/
def sortTypes (r : Record) (types : Types) : List String → Binding Types
  | [] => return types
  | name :: rest => do
    if name = "null" && r.scope.followsJsonSchema then
      sortTypes r { types with withNull := true } rest
    else if typeNames.contains name then
      let names := if types.names.contains name then types.names else types.names ++ [name]
      sortTypes r { types with names } rest
    else
      r.tellField "type" (.unknownType name)
      sortTypes r types rest

/-- The types of a schema. -/
def types (r : Record) : Binding Types := do
  let types ← r.sortTypes ⟨[], false⟩ (← r.givenTypes)
  if types.names.isEmpty && types.withNull then return { types with names := ["null"] }
  return types

/-! ## Shapes -/

/-- The schemas in a list. -/
def schemaList (r : Record) (key : String) : Binding (List SchemaId) :=
  match r.field? key with
  | none => return []
  | some n => do Binding.each read (← n.items (Finding.quote key))

/-- The schema in a field. -/
def schema? (r : Record) (key : String) : Binding (Option SchemaId) :=
  match r.field? key with
  | none => return none
  | some n => return some (← read n)

/-- What may stand besides the properties. -/
def additionalProperties (r : Record) : Binding AdditionalProperties :=
  let key := "additionalProperties"
  match r.field? key with
  | none => return .allowed true
  | some n =>
    match n.value with
    | .bool value => return .allowed value
    | .object _ => return .schema (← read n)
    | other => do
      r.tellMistyped key "a boolean or schema" other
      return .allowed true

/-- The shape of an object. -/
def objectShape (r : Record) : Binding ObjectShape := do
  let properties ← r.readAll "properties" fun n => return some (← read n)
  let required ← r.texts "required"
  let additionalProperties ← r.additionalProperties read
  let minProperties ← r.count? "minProperties"
  let maxProperties ← r.count? "maxProperties"
  return ⟨properties, required, additionalProperties, minProperties, maxProperties, none⟩

/-- The schema of the items of an array. -/
def itemSchema? (r : Record) : Binding (Option SchemaId) :=
  match r.field? "items" with
  | none => return none
  | some n =>
    match n.value with
    | .array _ => do
      n.tell .itemList
      return none
    | _ => return some (← read n)

/-- The shape of an array. -/
def arrayShape (r : Record) : Binding ArrayShape := do
  let items ← r.itemSchema? read
  let prefixItems ←
    if r.scope.followsJsonSchema then r.schemaList read "prefixItems"
    else do
      r.refuse "prefixItems"
      pure []
  let minItems ← r.count? "minItems"
  let maxItems ← r.count? "maxItems"
  let uniqueItems ← r.flag "uniqueItems"
  return ⟨items, prefixItems, minItems, maxItems, uniqueItems⟩

/-- The bound that values do not reach, and what is left of the bound that they may reach.  Where
schemas do not follow JSON Schema, a truth value says which of the two the latter is. -/
def exclusiveBound (r : Record) (key : String) (bound : Option Float) :
    Binding (Option Float × Option Float) :=
  match r.members.get? key with
  | none => return (none, bound)
  | some (.bool exclusive) => do
    if r.scope.followsJsonSchema then
      r.tellField key (.boundNotNumber key r.scope.version)
      return (none, bound)
    return if exclusive then (bound, none) else (none, bound)
  | some (.number n) => do
    if r.scope.followsJsonSchema then return (some n.toFloat, bound)
    r.tellField key (.boundNotBoolean key)
    return (none, bound)
  | some other => do
    r.tellMistyped key "a number" other
    return (none, bound)

/-- The shape of a scalar. -/
def scalarShape (r : Record) (type : ScalarType) : Binding ScalarShape := do
  let format ← r.text? "format"
  let minimum ← r.number? "minimum"
  let maximum ← r.number? "maximum"
  let (exclusiveMinimum, minimum) ← r.exclusiveBound "exclusiveMinimum" minimum
  let (exclusiveMaximum, maximum) ← r.exclusiveBound "exclusiveMaximum" maximum
  let multipleOf ← r.number? "multipleOf"
  let minLength ← r.count? "minLength"
  let maxLength ← r.count? "maxLength"
  let pattern ← r.text? "pattern"
  return { type, format, minimum, maximum, exclusiveMinimum, exclusiveMaximum, multipleOf,
           minLength, maxLength, pattern }

/-- The fields that only objects have. -/
def objectKeys : List String :=
  ["properties", "additionalProperties", "required", "minProperties", "maxProperties"]

/-- The fields that only arrays have. -/
def arrayKeys : List String := ["items", "prefixItems", "minItems", "maxItems", "uniqueItems"]

/-- The fields that put a schema together from others. -/
def compositionKeys : List String := ["allOf", "oneOf", "anyOf", "not"]

/-- The shape of a schema without a type. -/
def untypedShape (r : Record) : Binding Shape := do
  if r.hasAny objectKeys then return .object (← r.objectShape read)
  else if r.hasAny arrayKeys then return .array (← r.arrayShape read)
  else return .any

/-- The shape of a schema of one type. -/
def typedShape (r : Record) (name : String) : Binding Shape := do
  if name = "object" then return .object (← r.objectShape read)
  else if name = "array" then
    if !r.scope.followsJsonSchema && !r.has "items" then
      r.tell (.missing "array schema" "items")
    return .array (← r.arrayShape read)
  else
    match ScalarType.ofName? name with
    | some type => return .scalar (← r.scalarShape type)
    | none => return .any

/-- The schema of one of several types, at the node of the schema that has them all. -/
def memberOfType (r : Record) (name : String) : Binding SchemaId := do
  let shape ← r.typedShape read name
  Binding.allocate { r.blankSchema with shape }

/-- The shape that the types of a schema give it. -/
def shapeOfTypes (r : Record) (names : List String) : Binding Shape :=
  match names with
  | [] => r.untypedShape read
  | [name] => r.typedShape read name
  | several => return .composed (.ofAny (← Binding.each (r.memberOfType read) several))

/-- The entry at a node of a mapping, for the object of the schema. -/
def mappingEntry (r entries : Record) (key : String) (n : Node) : Binding (Option Reference) :=
  match n.value with
  | .string name => do
    let text := componentReference name
    return some ⟨text, ← r.referenceState read text n.pointer⟩
  | other => do
    entries.tellMistyped key "a string" other
    return none

/-- How the alternatives of a schema are told apart. -/
def discriminator? (r : Record) : Binding (Option Discriminator) := do
  match ← r.record? "discriminator" with
  | none => return none
  | some d =>
    match ← d.requiredText? "discriminator" "propertyName" with
    | none => return none
    | some propertyName =>
      let mapping ←
        match ← d.record? "mapping" with
        | none => pure []
        | some entries => readFields entries.fields (r.mappingEntry read entries)
      return some ⟨propertyName, mapping⟩

/-- A shape that is not put together from others, with a discriminator. -/
def withDiscriminator (r : Record) (shape : Shape) (discriminator : Discriminator) :
    Binding Shape :=
  match shape with
  | .object o => return .object { o with discriminator }
  | .any => return .object { ObjectShape.free with discriminator }
  | .composed c => return .composed { c with discriminator }
  | other => do
    r.tellField "discriminator" .discriminatorMisplaced
    return other

/-- The schema that holds what is said besides a composition. -/
def inlined? (r : Record) (shape : Shape) : Binding (Option SchemaId) :=
  match shape with
  | .any => return none
  | shape => return some (← Binding.allocate { r.blankSchema with shape })

/-- The shape of a schema. -/
def shape (r : Record) (names : List String) : Binding Shape := do
  let structural ← r.shapeOfTypes read names
  let discriminator ← r.discriminator? read
  if !r.hasAny compositionKeys then
    match discriminator with
    | none => return structural
    | some d => r.withDiscriminator structural d
  else
    let allOf ← r.schemaList read "allOf"
    let oneOf ← r.schemaList read "oneOf"
    let anyOf ← r.schemaList read "anyOf"
    let negated ← r.schema? read "not"
    let inlined ← r.inlined? structural
    return .composed { allOf, oneOf, anyOf, negated, inlined, discriminator }

/-- The schema that an object is. -/
def schemaHere (r : Record) : Binding Schema := do
  match r.members.get? referenceKey with
  | some (.string text) => r.referenceSchema read text
  | some other =>
    r.tellMistyped referenceKey "a string" other
    return r.blankSchema
  | none =>
    let s ← r.annotated
    let types ← r.types
    let shape ← r.shape read types.names
    return { s with shape, nullable := s.nullable || types.withNull }

end Record

namespace Node

/-- The schema at a node, by a way to read the schemas below it. -/
def schemaHere (read : SchemaReader) (n : Node) : Binding Schema :=
  match n.value with
  | .object members => Record.schemaHere read ⟨n.scope, n.pointer, members⟩
  | .bool accepts => do
    if n.scope.followsJsonSchema then
      return { n.blankSchema with shape := if accepts then .any else .never }
    n.tell .booleanSchema
    return n.blankSchema
  | other => do
    n.tell (.notObject "schema" other.kind)
    return n.blankSchema

/-- The number of the schema at a node that has room for levels below it. -/
def schemaWithin : Nat → Node → Binding SchemaId
  | 0, n => do
    match ← Binding.slot? n.site with
    | some slot => return slot.id
    | none =>
      n.tell (.nestingTooDeep n.scope.setting.options.maxDepth)
      let id ← Binding.allocate n.blankSchema
      Binding.setSlot n.site (.bound id)
      return id
  | room + 1, n => do
    match ← Binding.slot? n.site with
    | some slot => return slot.id
    | none =>
      let id ← Binding.allocate n.blankSchema
      Binding.setSlot n.site (.opened id)
      let s ← n.schemaHere (schemaWithin room)
      Binding.change id fun _ => s
      Binding.setSlot n.site (.bound id)
      return id

/-- The number of the schema at a node outside of schemas. -/
def schema (n : Node) : Binding SchemaId := n.schemaWithin n.scope.setting.options.maxDepth

end Node

/-- The schema in a field outside of schemas. -/
abbrev Record.outerSchema? (r : Record) (key : String) : Binding (Option SchemaId) :=
  r.schema? Node.schema key

end ApiDescription
