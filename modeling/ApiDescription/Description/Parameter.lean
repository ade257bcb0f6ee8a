import ApiDescription.Schema

/-!
# Parameters, contents and responses

The parts of an operation.  A part that is reached through a `$ref` stands where the reference
was, and remembers its text.

Two parameters are the same when they have one place and one name; the names of headers are
compared without regard to the case of ASCII letters.
-/

namespace ApiDescription

/-- The places of parameters. -/
inductive ParameterPlace where
  | path | query | header | cookie
deriving DecidableEq, Repr, Inhabited

namespace ParameterPlace

/-- All places of parameters. -/
def all : List ParameterPlace := [.path, .query, .header, .cookie]

/-- The name of a place. -/
def name : ParameterPlace → String
  | .path => "path"
  | .query => "query"
  | .header => "header"
  | .cookie => "cookie"

/-- The place of a given name. -/
def ofName? (name : String) : Option ParameterPlace := all.find? (·.name = name)

end ParameterPlace

/-- An example. -/
structure Example where
  /-- A summary. -/
  summary : Option String
  /-- A description. -/
  description : Option String
  /-- The value. -/
  value : Option Json
  /-- Where the value is found. -/
  externalValue : Option String
  /-- The `$ref` it was reached through. -/
  reference : Option String

/-- What is sent in one format. -/
structure MediaType where
  /-- The schema. -/
  schema : Option SchemaId
  /-- An example. -/
  exampleValue : Option Json
  /-- Further examples. -/
  examples : Entries Example

/-- A parameter. -/
structure Parameter where
  /-- Its name. -/
  name : String
  /-- Where it is sent. -/
  place : ParameterPlace
  /-- A description. -/
  description : Option String
  /-- Whether it must be there. -/
  required : Bool
  /-- Whether it should not be used any more. -/
  deprecated : Bool
  /-- Whether it may be empty. -/
  allowEmptyValue : Bool
  /-- How it is written. -/
  style : Option String
  /-- Whether its parts are written each for itself. -/
  explode : Option Bool
  /-- The schema. -/
  schema : Option SchemaId
  /-- The content, by format. -/
  content : Entries MediaType
  /-- The `$ref` it was reached through. -/
  reference : Option String
  /-- The node it was declared at. -/
  location : Pointer

/-- What tells a parameter from others: its place and its name. -/
def Parameter.identity (p : Parameter) : ParameterPlace × String :=
  match p.place with
  | .header => (.header, p.name.map Char.toLower)
  | place => (place, p.name)

/-- Whether two parameters have one identity. -/
def Parameter.isSame (p q : Parameter) : Bool := p.identity = q.identity

/-- What is sent along with a request. -/
structure RequestBody where
  /-- A description. -/
  description : Option String
  /-- Whether it must be there. -/
  required : Bool
  /-- The content, by format. -/
  content : Entries MediaType
  /-- The `$ref` it was reached through. -/
  reference : Option String

/-- A header of a response. -/
structure Header where
  /-- A description. -/
  description : Option String
  /-- Whether it must be there. -/
  required : Bool
  /-- Whether it should not be used any more. -/
  deprecated : Bool
  /-- The schema. -/
  schema : Option SchemaId
  /-- The content, by format. -/
  content : Entries MediaType
  /-- The `$ref` it was reached through. -/
  reference : Option String

/-- A way from a response to another operation. -/
structure Link where
  /-- The identifier of the operation. -/
  operationId : Option String
  /-- A reference to the operation. -/
  operationRef : Option String
  /-- The values of its parameters. -/
  parameters : Entries Json
  /-- The value of its request body. -/
  requestBody : Option Json
  /-- A description. -/
  description : Option String
  /-- The `$ref` it was reached through. -/
  reference : Option String

/-- What is answered. -/
structure Response where
  /-- A description. -/
  description : Option String
  /-- The headers. -/
  headers : Entries Header
  /-- The content, by format. -/
  content : Entries MediaType
  /-- The links. -/
  links : Entries Link
  /-- The `$ref` it was reached through. -/
  reference : Option String

end ApiDescription
