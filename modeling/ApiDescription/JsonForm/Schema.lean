import ApiDescription.JsonForm.Report
import ApiDescription.Schema

/-!
# Schemas as JSON

The JSON in which schemas are handed on.  A shape is told by its member `kind`, and schemas refer
to each other by number.
-/

namespace ApiDescription

/-- A flag. -/
def Json.ofFlag (b : Bool) : Json := .bool b

/-- A double. -/
def Json.ofFloat (f : Float) : Json := .number (.float f)

/-- Texts. -/
def Json.ofTexts (texts : List String) : Json := Json.ofList Json.string texts

/-- Numbers of schemas. -/
def Json.ofIds (ids : List SchemaId) : Json := Json.ofList Json.ofNat ids

/-- A text that may be absent. -/
def Json.ofText? (text : Option String) : Json := Json.ofOption Json.string text

/-- A count that may be absent. -/
def Json.ofNat? (n : Option Nat) : Json := Json.ofOption Json.ofNat n

/-- The JSON of what has become of a reference. -/
def ReferenceState.toJson : ReferenceState → Json
  | .unresolved => .object [("state", .string "unresolved")]
  | .resolving => .object [("state", .string "resolving")]
  | .resolved id => .object [("state", .string "resolved"), ("target", .ofNat id)]
  | .cyclic id => .object [("state", .string "cyclic"), ("target", .ofNat id)]

/-- The members of a reference. -/
def Reference.members (r : Reference) : Entries Json :=
  [("target_ref", .string r.text), ("state", r.state.toJson)]

/-- The JSON of a discriminator. -/
def Discriminator.toJson (d : Discriminator) : Json :=
  .object [
    ("property_name", .string d.propertyName),
    ("mapping", Json.ofEntries (fun r : Reference => .object r.members) d.mapping)]

/-- The JSON of what may stand besides properties. -/
def AdditionalProperties.toJson : AdditionalProperties → Json
  | .allowed b => .bool b
  | .schema id => .ofNat id

/-- The word for a shape. -/
def Shape.word : Shape → String
  | .any => "any"
  | .never => "never"
  | .scalar _ => "primitive"
  | .object _ => "object"
  | .array _ => "array"
  | .composed _ => "composed"
  | .reference _ => "reference"

/-- The members of the shape of a scalar. -/
def ScalarShape.members (s : ScalarShape) : Entries Json :=
  [("ty", .string s.type.name),
    ("format", .ofText? s.format),
    ("minimum", Json.ofOption Json.ofFloat s.minimum),
    ("maximum", Json.ofOption Json.ofFloat s.maximum),
    ("exclusive_minimum", Json.ofOption Json.ofFloat s.exclusiveMinimum),
    ("exclusive_maximum", Json.ofOption Json.ofFloat s.exclusiveMaximum),
    ("multiple_of", Json.ofOption Json.ofFloat s.multipleOf),
    ("min_length", .ofNat? s.minLength),
    ("max_length", .ofNat? s.maxLength),
    ("pattern", .ofText? s.pattern)]

/-- The members of the shape of an object. -/
def ObjectShape.members (o : ObjectShape) : Entries Json :=
  [("properties", Json.ofEntries Json.ofNat o.properties),
    ("required", .ofTexts o.required),
    ("additional_properties", o.additionalProperties.toJson),
    ("min_properties", .ofNat? o.minProperties),
    ("max_properties", .ofNat? o.maxProperties),
    ("discriminator", Json.ofOption Discriminator.toJson o.discriminator)]

/-- The members of the shape of an array. -/
def ArrayShape.members (a : ArrayShape) : Entries Json :=
  [("items", .ofNat? a.items),
    ("prefix_items", .ofIds a.prefixItems),
    ("min_items", .ofNat? a.minItems),
    ("max_items", .ofNat? a.maxItems),
    ("unique_items", .bool a.uniqueItems)]

/-- The members of the shape of a schema that is put together from others. -/
def ComposedShape.members (c : ComposedShape) : Entries Json :=
  [("all_of", .ofIds c.allOf),
    ("one_of", .ofIds c.oneOf),
    ("any_of", .ofIds c.anyOf),
    ("not", .ofNat? c.negated),
    ("inline", .ofNat? c.inlined),
    ("discriminator", Json.ofOption Discriminator.toJson c.discriminator)]

/-- The members of a shape. -/
def Shape.members : Shape → Entries Json
  | .any => []
  | .never => []
  | .scalar s => s.members
  | .object o => o.members
  | .array a => a.members
  | .composed c => c.members
  | .reference r => r.members

/-- The JSON of a shape. -/
def Shape.toJson (s : Shape) : Json := .object (("kind", .string s.word) :: s.members)

/-- JSON values under names, as they are. -/
def Json.ofValues (values : Entries Json) : Json := .object values

/-- The JSON of a schema. -/
def Schema.toJson (s : Schema) : Json :=
  .object [
    ("name", .ofText? s.name),
    ("document", .ofText? s.document),
    ("location", s.location.toJson),
    ("title", .ofText? s.title),
    ("description", .ofText? s.description),
    ("kind", s.shape.toJson),
    ("nullable", .bool s.nullable),
    ("read_only", .bool s.readOnly),
    ("write_only", .bool s.writeOnly),
    ("deprecated", .bool s.deprecated),
    ("default", s.defaultValue.getD .null),
    ("examples", .array s.examples),
    ("enum_values", Json.ofOption Json.array s.enumeration),
    ("extensions", .ofValues s.extensions)]

/-- The JSON of the schemas of a description. -/
def SchemaGraph.toJson (g : SchemaGraph) : Json := Json.ofList Schema.toJson g.nodes

end ApiDescription
