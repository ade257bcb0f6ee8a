import ApiDescription.Binding.Operation

/-!
# Reading the reusable parts

The reusable parts are read before the paths, so that the schemas among them have their names
before a path refers to them.

`Readers` are ways to read schemas, path items and callbacks, which are read inside of each other.
What holds all of them is read over arbitrary ones, of which `Readers.usual` are a case.
-/

namespace ApiDescription

namespace Record

/-! ## Security schemes -/

/-- A text that a way to get a token must have or may have. -/
def flowText? (r : Record) (needed : Bool) (owner key : String) : Binding (Option String) :=
  if needed then r.requiredText? owner key else r.text? key

/-- The scopes of a way to get a token. -/
def scopes (r : Record) (owner : String) : Binding (Entries String) := do
  if !r.has "scopes" then
    r.tell (.missing owner "scopes")
    return []
  match ← r.record? "scopes" with
  | none => return []
  | some entries => readFields entries.fields fun key _ => entries.text? key

/-- The way to get a token in a field, and which addresses it must give. -/
def flow? (r : Record) (key : String) (needsAuthorization needsToken : Bool) :
    Binding (Option OAuthFlow) :=
  match r.field? key with
  | none => return none
  | some n => do
    match ← n.record? "OAuth flow" with
    | none => return none
    | some flow =>
      let owner := "OAuth " ++ Finding.quote key ++ " flow"
      let authorizationUrl ← flow.flowText? needsAuthorization owner "authorizationUrl"
      let tokenUrl ← flow.flowText? needsToken owner "tokenUrl"
      let scopes ← flow.scopes owner
      let refreshUrl ← flow.text? "refreshUrl"
      return some ⟨authorizationUrl, tokenUrl, refreshUrl, scopes⟩

/-- The kind of a security scheme with a key. -/
def apiKeyKind? (r : Record) : Binding (Option SecurityKind) := do
  let owner := "apiKey security scheme"
  let name ← r.requiredText? owner "name"
  let place ←
    match ← r.requiredText? owner "in" with
    | none => pure none
    | some text =>
      let place := ApiKeyPlace.ofName? text
      if place.isNone then r.tellField "in" (.unknownKeyPlace text)
      pure place
  match name, place with
  | some name, some place => return some (.apiKey name place)
  | _, _ => return none

/-- The kind of a security scheme of the protocol. -/
def httpKind? (r : Record) : Binding (Option SecurityKind) := do
  match ← r.requiredText? "http security scheme" "scheme" with
  | none => return none
  | some scheme => return some (.http scheme (← r.text? "bearerFormat"))

end Record

/-- The ways to get a token at a node. -/
def Node.oauthFlows (n : Node) : Binding OAuthFlows := do
  match ← n.record? "OAuth flows" with
  | none => return .empty
  | some r =>
    let implicit ← r.flow? "implicit" true false
    let password ← r.flow? "password" false true
    let clientCredentials ← r.flow? "clientCredentials" false true
    let authorizationCode ← r.flow? "authorizationCode" true true
    return ⟨implicit, password, clientCredentials, authorizationCode⟩

namespace Record

/-- The kind of a security scheme with tokens. -/
def oauth2Kind? (r : Record) : Binding (Option SecurityKind) :=
  match r.field? "flows" with
  | some n => return some (.oauth2 (← n.oauthFlows))
  | none => do
    r.tell (.missing "oauth2 security scheme" "flows")
    return none

/-- The kind of a security scheme with an identity provider. -/
def openIdKind? (r : Record) : Binding (Option SecurityKind) := do
  let url ← r.requiredText? "openIdConnect security scheme" "openIdConnectUrl"
  return url.map .openIdConnect

/-- The kind of a security scheme of a type. -/
def securityKind? (r : Record) (type : String) : Binding (Option SecurityKind) :=
  match type with
  | "apiKey" => r.apiKeyKind?
  | "http" => r.httpKind?
  | "oauth2" => r.oauth2Kind?
  | "openIdConnect" => r.openIdKind?
  | other => do
    if other = "mutualTLS" && r.scope.followsJsonSchema then return some .mutualTls
    r.tellField "type" (.unknownSchemeType other r.scope.version)
    return none

end Record

/-- The security scheme at a node. -/
def Node.securityScheme? (n : Node) : Binding (Option SecurityScheme) := do
  match ← n.resolvedRecord? "security scheme" with
  | none => return none
  | some ⟨r, reference⟩ =>
    match ← r.requiredText? "security scheme" "type" with
    | none => return none
    | some type =>
      match ← r.securityKind? type with
      | none => return none
      | some kind => return some ⟨kind, ← r.text? "description", reference⟩

/-! ## Components -/

/-- Gives a schema the name of its component, unless it has one. -/
def Schema.named (name : String) (s : Schema) : Schema :=
  { s with name := s.name <|> some name }

namespace Record

/-- The keys of every section as they are written. -/
def writtenKeys (r : Record) : Entries (List String) :=
  r.members.filterMap fun (key, value) =>
    if isExtension key then none else value.members?.map fun entries => (key, entries.names)

end Record

namespace SchemaReader

variable (read : SchemaReader)

/-- The schema of a component. -/
def namedSchema (name : String) (n : Node) : Binding (Option SchemaId) := do
  let id ← read n
  Binding.change id (Schema.named name)
  return some id

/-- The schemas among the components. -/
def componentSchemas (r : Record) : Binding (Entries SchemaId) := do
  match ← r.record? "schemas" with
  | none => return []
  | some entries => Record.readFields entries.fields read.namedSchema

end SchemaReader

/-- Ways to read what is read inside of itself. -/
structure Readers where
  /-- The schema at a node. -/
  schema : SchemaReader
  /-- The path item at a node under a key. -/
  pathItem : PathItemReader
  /-- The callback at a node. -/
  callback : CallbackReader

namespace Readers

/-- The usual ways. -/
abbrev usual : Readers := ⟨Node.schema, Node.pathItem?, Node.callback?⟩

variable (R : Readers)

/-- The path items among the components. -/
def componentPathItems (r : Record) : Binding (Entries PathItem) := do
  if r.scope.version.hasWebhooks then
    match ← r.record? "pathItems" with
    | none => return []
    | some entries => Record.readFields entries.fields R.pathItem
  else
    r.refuse "pathItems"
    return []

/-- The reusable parts of an object, with the schemas among them. -/
def componentsWith (r : Record) (schemas : Entries SchemaId) : Binding Components := do
  let responses ← r.readAll "responses" R.schema.response?
  let parameters ← r.readAll "parameters" R.schema.parameter?
  let examples ← r.readAll "examples" Node.example?
  let requestBodies ← r.readAll "requestBodies" R.schema.requestBody?
  let headers ← r.readAll "headers" R.schema.header?
  let securitySchemes ← r.readAll "securitySchemes" Node.securityScheme?
  let links ← r.readAll "links" Node.link?
  let callbacks ← r.readAll "callbacks" R.callback
  let pathItems ← R.componentPathItems r
  return {
    schemas, responses, parameters, examples, requestBodies, headers, securitySchemes, links
    callbacks, pathItems
    writtenKeys := r.writtenKeys }

/-- The reusable parts at a node. -/
def components (n : Node) : Binding Components := do
  match ← n.record? "components" with
  | none => return .empty
  | some r => R.componentsWith r (← R.schema.componentSchemas r)

end Readers

/-- The schema of a component. -/
abbrev Record.namedSchema (name : String) (n : Node) : Binding (Option SchemaId) :=
  SchemaReader.namedSchema Node.schema name n

/-- The schemas among the components. -/
abbrev Record.componentSchemas (r : Record) : Binding (Entries SchemaId) :=
  SchemaReader.componentSchemas Node.schema r

/-- The path items among the components. -/
abbrev Record.componentPathItems (r : Record) : Binding (Entries PathItem) :=
  Readers.usual.componentPathItems r

/-- The reusable parts of an object, with the schemas among them. -/
abbrev Record.componentsWith (r : Record) (schemas : Entries SchemaId) : Binding Components :=
  Readers.usual.componentsWith r schemas

/-- The reusable parts at a node. -/
abbrev Node.components (n : Node) : Binding Components := Readers.usual.components n

end ApiDescription
