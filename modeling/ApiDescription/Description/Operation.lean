import ApiDescription.Description.Parameter

/-!
# Path items and operations

A path item holds the operations of one path, and what they share.  An operation may have
callbacks, and a callback holds path items again.
-/

namespace ApiDescription

/-- The methods of operations. -/
inductive Method where
  | get | put | post | delete | options | head | patch | trace
deriving DecidableEq, Repr, Inhabited

namespace Method

/-- All methods, in the order in which operations are read. -/
def all : List Method := [.get, .put, .post, .delete, .options, .head, .patch, .trace]

/-- The name of a method. -/
def name : Method → String
  | .get => "get"
  | .put => "put"
  | .post => "post"
  | .delete => "delete"
  | .options => "options"
  | .head => "head"
  | .patch => "patch"
  | .trace => "trace"

/-- The method of a given name. -/
def ofName? (name : String) : Option Method := all.find? (·.name = name)

end Method

/-- A variable in the address of a server. -/
structure ServerVariable where
  /-- The value that is taken if none is given. -/
  defaultValue : String
  /-- The values it may take, if they are listed. -/
  enumeration : Option (List String)
  /-- A description. -/
  description : Option String
deriving DecidableEq, Repr

/-- A server. -/
structure Server where
  /-- Its address, with variables in braces. -/
  url : String
  /-- A description. -/
  description : Option String
  /-- The variables. -/
  variableMap : Entries ServerVariable
  /-- The node it was declared at. -/
  location : Pointer
deriving DecidableEq

/-- The schemes that all must be met, with the scopes of each. -/
structure SecurityRequirement where
  /-- The schemes and their scopes. -/
  schemes : Entries (List String)
  /-- The node it was declared at. -/
  location : Pointer
deriving DecidableEq

mutual

/-- The operations of a path. -/
structure PathItem where
  /-- A summary. -/
  summary : Option String
  /-- A description. -/
  description : Option String
  /-- The operations, by method. -/
  operations : List (Method × Operation)
  /-- The parameters that all operations share. -/
  parameters : List Parameter
  /-- The servers for this path. -/
  servers : List Server
  /-- The `$ref` it was reached through. -/
  reference : Option String
  /-- The document its contents are in, when that is not the entry document. -/
  document : Option String
  /-- The node it was found at. -/
  location : Pointer

/-- An operation. -/
structure Operation where
  /-- Its method. -/
  method : Method
  /-- The key of the path item that holds it. -/
  path : String
  /-- Its identifier. -/
  operationId : Option String
  /-- A summary. -/
  summary : Option String
  /-- A description. -/
  description : Option String
  /-- Its tags. -/
  tags : List String
  /-- Its own parameters. -/
  parameters : List Parameter
  /-- What is sent along. -/
  requestBody : Option RequestBody
  /-- What is answered, by status code, if anything is said about it. -/
  responses : Option (List (String × Response))
  /-- The callbacks, by name. -/
  callbacks : List (String × Callback)
  /-- Whether it should not be used any more. -/
  deprecated : Bool
  /-- Its own security requirements, if it has any. -/
  security : Option (List SecurityRequirement)
  /-- The servers for this operation. -/
  servers : List Server
  /-- Extensions. -/
  extensions : List (String × Json)
  /-- The document it is in, when that is not the entry document. -/
  document : Option String
  /-- The node it was found at. -/
  location : Pointer

/-- Requests that go back to the caller. -/
structure Callback where
  /-- Path items, by the expression that gives the address. -/
  expressions : List (String × PathItem)
  /-- The `$ref` it was reached through. -/
  reference : Option String

end

namespace PathItem

/-- The operations in order. -/
def operationList (item : PathItem) : List Operation := item.operations.map (·.2)

/-- The operation of a method. -/
def operation? (item : PathItem) (method : Method) : Option Operation :=
  (item.operations.find? (·.1 = method)).map (·.2)

/-- The parameters that count for an operation: those of the path, as far as the operation has
none of the same identity, and its own. -/
def effectiveParameters (item : PathItem) (operation : Operation) : List Parameter :=
  item.parameters.filter (fun shared => !operation.parameters.any (·.isSame shared)) ++
    operation.parameters

end PathItem

end ApiDescription
