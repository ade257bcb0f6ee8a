import ApiDescription.Binding.Schema

/-!
# Reading parameters, contents and responses

Each of these objects may be written elsewhere and referred to.  What is read is the object at the
end of the chain of references, with the text of the first reference.

What holds schemas is read over an arbitrary way to read them, of which the usual one is a case.
-/

namespace ApiDescription

/-- The example at a node. -/
def Node.example? (n : Node) : Binding (Option Example) := do
  match ← n.resolvedRecord? "example" with
  | none => return none
  | some ⟨r, reference⟩ =>
    let summary ← r.text? "summary"
    let description ← r.text? "description"
    let externalValue ← r.text? "externalValue"
    return some ⟨summary, description, r.members.get? "value", externalValue, reference⟩

/-- The link at a node. -/
def Node.link? (n : Node) : Binding (Option Link) := do
  match ← n.resolvedRecord? "link" with
  | none => return none
  | some ⟨r, reference⟩ =>
    if r.has "operationId" && r.has "operationRef" then r.tell .operationNamedTwice
    let parameters ← r.record? "parameters"
    let operationId ← r.text? "operationId"
    let operationRef ← r.text? "operationRef"
    let description ← r.text? "description"
    return some {
      operationId, operationRef, description, reference
      parameters := (parameters.map Record.members).getD []
      requestBody := r.members.get? "requestBody" }

/-- The description of a response.  Some versions ask for it. -/
def Record.responseText? (r : Record) : Binding (Option String) :=
  if r.scope.version.requiresResponseDescription then r.requiredText? "response" "description"
  else r.text? "description"

/-- The place that an object gives by its name. -/
def Record.parameterPlace? (r : Record) : Binding (Option ParameterPlace) := do
  match ← r.requiredText? "parameter" "in" with
  | none => return none
  | some name =>
    let place := ParameterPlace.ofName? name
    if place.isNone then r.tellField "in" (.unknownPlace name)
    return place

namespace SchemaReader

variable (read : SchemaReader)

/-- What is sent in one format. -/
def mediaType? (n : Node) : Binding (Option MediaType) := do
  match ← n.record? "media type" with
  | none => return none
  | some r =>
    let examples ← r.readAll "examples" Node.example?
    let schema ← r.schema? read "schema"
    return some ⟨schema, r.members.get? "example", examples⟩

/-- The content of an object, by format. -/
def content (r : Record) : Binding (Entries MediaType) :=
  match r.field? "content" with
  | none => return []
  | some n => do
    match ← n.record? "content" with
    | none => return []
    | some formats => Record.readFields formats.fields fun _ format => read.mediaType? format

/-- The header at a node. -/
def header? (n : Node) : Binding (Option Header) := do
  match ← n.resolvedRecord? "header" with
  | none => return none
  | some ⟨r, reference⟩ =>
    let description ← r.text? "description"
    let required ← r.flag "required"
    let deprecated ← r.flag "deprecated"
    let schema ← r.schema? read "schema"
    let content ← read.content r
    return some ⟨description, required, deprecated, schema, content, reference⟩

/-- The response at a node. -/
def response? (n : Node) : Binding (Option Response) := do
  match ← n.resolvedRecord? "response" with
  | none => return none
  | some ⟨r, reference⟩ =>
    let description ← r.responseText?
    let headers ← r.readAll "headers" read.header?
    let links ← r.readAll "links" Node.link?
    let content ← read.content r
    return some ⟨description, headers, content, links, reference⟩

/-- The responses at a node, by status code. -/
def responses (n : Node) : Binding (Entries Response) := do
  match ← n.record? "responses" with
  | none => return []
  | some r => Record.readFields r.plainFields fun _ response => read.response? response

/-- The request body at a node. -/
def requestBody? (n : Node) : Binding (Option RequestBody) := do
  match ← n.resolvedRecord? "request body" with
  | none => return none
  | some ⟨r, reference⟩ =>
    if !r.has "content" then r.tell (.missing "request body" "content")
    let description ← r.text? "description"
    let required ← r.flag "required"
    let content ← read.content r
    return some ⟨description, required, content, reference⟩

/-- The parameter that an object is, for a node that was reached through a reference. -/
def parameter (r : Record) (name : String) (place : ParameterPlace) (reference : Option String)
    (location : Pointer) : Binding Parameter := do
  if r.has "schema" && r.has "content" then r.tell (.schemaAndContent name)
  let description ← r.text? "description"
  let required ← r.flag "required"
  let deprecated ← r.flag "deprecated"
  let allowEmptyValue ← r.flag "allowEmptyValue"
  let style ← r.text? "style"
  let explode ← r.flag? "explode"
  let schema ← r.schema? read "schema"
  let content ← read.content r
  return { name, place, description, required, deprecated, allowEmptyValue, style, explode,
           schema, content, reference, location }

/-- The parameter at a node. -/
def parameter? (n : Node) : Binding (Option Parameter) := do
  match ← n.resolvedRecord? "parameter" with
  | none => return none
  | some ⟨r, reference⟩ =>
    let name ← r.requiredText? "parameter" "name"
    let place ← r.parameterPlace?
    match name, place with
    | some name, some place => return some (← read.parameter r name place reference n.pointer)
    | _, _ => return none

/-- The parameters in the list of an object. -/
def parameters (r : Record) : Binding (List Parameter) :=
  match r.field? "parameters" with
  | none => return []
  | some n => do Binding.collect read.parameter? (← n.items "parameters")

end SchemaReader

/-! ## In the usual way -/

/-- What is sent in one format. -/
abbrev Node.mediaType? (n : Node) : Binding (Option MediaType) :=
  SchemaReader.mediaType? Node.schema n

/-- The content of an object, by format. -/
abbrev Record.content (r : Record) : Binding (Entries MediaType) :=
  SchemaReader.content Node.schema r

/-- The header at a node. -/
abbrev Node.header? (n : Node) : Binding (Option Header) := SchemaReader.header? Node.schema n

/-- The response at a node. -/
abbrev Node.response? (n : Node) : Binding (Option Response) :=
  SchemaReader.response? Node.schema n

/-- The responses at a node, by status code. -/
abbrev Node.responses (n : Node) : Binding (Entries Response) :=
  SchemaReader.responses Node.schema n

/-- The request body at a node. -/
abbrev Node.requestBody? (n : Node) : Binding (Option RequestBody) :=
  SchemaReader.requestBody? Node.schema n

/-- The parameter that an object is, for a node that was reached through a reference. -/
abbrev Record.parameter (r : Record) (name : String) (place : ParameterPlace)
    (reference : Option String) (location : Pointer) : Binding Parameter :=
  SchemaReader.parameter Node.schema r name place reference location

/-- The parameter at a node. -/
abbrev Node.parameter? (n : Node) : Binding (Option Parameter) :=
  SchemaReader.parameter? Node.schema n

/-- The parameters in the list of an object. -/
abbrev Record.parameters (r : Record) : Binding (List Parameter) :=
  SchemaReader.parameters Node.schema r

end ApiDescription
