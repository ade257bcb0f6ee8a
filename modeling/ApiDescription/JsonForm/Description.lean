import ApiDescription.Description
import ApiDescription.JsonForm.Schema
import ApiDescription.Options

/-!
# Descriptions as JSON

The JSON in which descriptions and options are handed on.
-/

namespace ApiDescription

/-- The word for a version. -/
def Version.word : Version → String
  | .v30 => "V3_0"
  | .v31 => "V3_1"
  | .v32 => "V3_2"

/-- The JSON of an example. -/
def Example.toJson (e : Example) : Json :=
  .object [
    ("summary", .ofText? e.summary),
    ("description", .ofText? e.description),
    ("value", e.value.getD .null),
    ("external_value", .ofText? e.externalValue),
    ("reference", .ofText? e.reference)]

/-- The JSON of what is sent in one format. -/
def MediaType.toJson (m : MediaType) : Json :=
  .object [
    ("schema", .ofNat? m.schema),
    ("example", m.exampleValue.getD .null),
    ("examples", Json.ofEntries Example.toJson m.examples)]

/-- The JSON of a parameter. -/
def Parameter.toJson (p : Parameter) : Json :=
  .object [
    ("name", .string p.name),
    ("location", .string p.place.name),
    ("description", .ofText? p.description),
    ("required", .bool p.required),
    ("deprecated", .bool p.deprecated),
    ("allow_empty_value", .bool p.allowEmptyValue),
    ("style", .ofText? p.style),
    ("explode", Json.ofOption Json.ofFlag p.explode),
    ("schema", .ofNat? p.schema),
    ("content", Json.ofEntries MediaType.toJson p.content),
    ("reference", .ofText? p.reference),
    ("location_pointer", p.location.toJson)]

/-- The JSON of a request body. -/
def RequestBody.toJson (b : RequestBody) : Json :=
  .object [
    ("description", .ofText? b.description),
    ("required", .bool b.required),
    ("content", Json.ofEntries MediaType.toJson b.content),
    ("reference", .ofText? b.reference)]

/-- The JSON of a header. -/
def Header.toJson (h : Header) : Json :=
  .object [
    ("description", .ofText? h.description),
    ("required", .bool h.required),
    ("deprecated", .bool h.deprecated),
    ("schema", .ofNat? h.schema),
    ("content", Json.ofEntries MediaType.toJson h.content),
    ("reference", .ofText? h.reference)]

/-- The JSON of a link. -/
def Link.toJson (l : Link) : Json :=
  .object [
    ("operation_id", .ofText? l.operationId),
    ("operation_ref", .ofText? l.operationRef),
    ("parameters", .ofValues l.parameters),
    ("request_body", l.requestBody.getD .null),
    ("description", .ofText? l.description),
    ("reference", .ofText? l.reference)]

/-- The JSON of a response. -/
def Response.toJson (r : Response) : Json :=
  .object [
    ("description", .ofText? r.description),
    ("headers", Json.ofEntries Header.toJson r.headers),
    ("content", Json.ofEntries MediaType.toJson r.content),
    ("links", Json.ofEntries Link.toJson r.links),
    ("reference", .ofText? r.reference)]

/-- The JSON of a server variable. -/
def ServerVariable.toJson (v : ServerVariable) : Json :=
  .object [
    ("default", .string v.defaultValue),
    ("enum_values", Json.ofOption Json.ofTexts v.enumeration),
    ("description", .ofText? v.description)]

/-- The JSON of a server. -/
def Server.toJson (s : Server) : Json :=
  .object [
    ("url", .string s.url),
    ("description", .ofText? s.description),
    ("variables", Json.ofEntries ServerVariable.toJson s.variableMap),
    ("location", s.location.toJson)]

/-- The JSON of a security requirement. -/
def SecurityRequirement.toJson (r : SecurityRequirement) : Json :=
  .object [
    ("schemes", Json.ofEntries Json.ofTexts r.schemes),
    ("location", r.location.toJson)]

mutual

/-- The JSON of a path item. -/
def PathItem.toJson : PathItem → Json
  | ⟨summary, description, operations, parameters, servers, reference, document, location⟩ =>
    .object [
      ("summary", .ofText? summary),
      ("description", .ofText? description),
      ("operations", .object (operationMembers operations)),
      ("parameters", Json.ofList Parameter.toJson parameters),
      ("servers", Json.ofList Server.toJson servers),
      ("reference", .ofText? reference),
      ("document", .ofText? document),
      ("location", location.toJson)]

/-- The members for operations. -/
def operationMembers : List (Method × Operation) → List (String × Json)
  | [] => []
  | (method, operation) :: rest =>
    (method.name, operation.toJson) :: operationMembers rest

/-- The JSON of an operation. -/
def Operation.toJson : Operation → Json
  | ⟨method, path, operationId, summary, description, tags, parameters, requestBody, responses,
      callbacks, deprecated, security, servers, extensions, document, location⟩ =>
    .object [
      ("method", .string method.name),
      ("path", .string path),
      ("operation_id", .ofText? operationId),
      ("summary", .ofText? summary),
      ("description", .ofText? description),
      ("tags", .ofTexts tags),
      ("parameters", Json.ofList Parameter.toJson parameters),
      ("request_body", Json.ofOption RequestBody.toJson requestBody),
      ("responses", Json.ofOption (Json.ofEntries Response.toJson) responses),
      ("callbacks", .object (callbackMembers callbacks)),
      ("deprecated", .bool deprecated),
      ("security", Json.ofOption (Json.ofList SecurityRequirement.toJson) security),
      ("servers", Json.ofList Server.toJson servers),
      ("extensions", .ofValues extensions),
      ("document", .ofText? document),
      ("location", location.toJson)]

/-- The members for callbacks. -/
def callbackMembers : List (String × Callback) → List (String × Json)
  | [] => []
  | (name, callback) :: rest => (name, callback.toJson) :: callbackMembers rest

/-- The JSON of a callback. -/
def Callback.toJson : Callback → Json
  | ⟨expressions, reference⟩ =>
    .object [
      ("expressions", .object (pathItemMembers expressions)),
      ("reference", .ofText? reference)]

/-- The members for path items. -/
def pathItemMembers : List (String × PathItem) → List (String × Json)
  | [] => []
  | (name, item) :: rest => (name, item.toJson) :: pathItemMembers rest

end

/-- The JSON of a way to get a token. -/
def OAuthFlow.toJson (f : OAuthFlow) : Json :=
  .object [
    ("authorization_url", .ofText? f.authorizationUrl),
    ("token_url", .ofText? f.tokenUrl),
    ("refresh_url", .ofText? f.refreshUrl),
    ("scopes", Json.ofEntries Json.string f.scopes)]

/-- The JSON of the ways to get a token. -/
def OAuthFlows.toJson (f : OAuthFlows) : Json :=
  .object [
    ("implicit", Json.ofOption OAuthFlow.toJson f.implicit),
    ("password", Json.ofOption OAuthFlow.toJson f.password),
    ("client_credentials", Json.ofOption OAuthFlow.toJson f.clientCredentials),
    ("authorization_code", Json.ofOption OAuthFlow.toJson f.authorizationCode)]

/-- The JSON of the kind of a security scheme. -/
def SecurityKind.toJson : SecurityKind → Json
  | .apiKey name place =>
    .object [("type", .string "apiKey"), ("name", .string name), ("location", .string place.name)]
  | .http scheme bearerFormat =>
    .object [
      ("type", .string "http"), ("scheme", .string scheme),
      ("bearer_format", .ofText? bearerFormat)]
  | .oauth2 flows => .object [("type", .string "oauth2"), ("flows", flows.toJson)]
  | .openIdConnect url => .object [("type", .string "openIdConnect"), ("url", .string url)]
  | .mutualTls => .object [("type", .string "mutualTLS")]

/-- The JSON of a security scheme. -/
def SecurityScheme.toJson (s : SecurityScheme) : Json :=
  .object [
    ("kind", s.kind.toJson),
    ("description", .ofText? s.description),
    ("reference", .ofText? s.reference)]

/-- The JSON of documentation elsewhere. -/
def ExternalDocs.toJson (d : ExternalDocs) : Json :=
  .object [("url", .string d.url), ("description", .ofText? d.description)]

/-- The JSON of a tag. -/
def Tag.toJson (t : Tag) : Json :=
  .object [
    ("name", .string t.name),
    ("description", .ofText? t.description),
    ("external_docs", Json.ofOption ExternalDocs.toJson t.externalDocs)]

/-- The JSON of whom to ask. -/
def Contact.toJson (c : Contact) : Json :=
  .object [("name", .ofText? c.name), ("url", .ofText? c.url), ("email", .ofText? c.email)]

/-- The JSON of the terms of use. -/
def License.toJson (l : License) : Json :=
  .object [
    ("name", .string l.name), ("identifier", .ofText? l.identifier), ("url", .ofText? l.url)]

/-- The JSON of what a description is about. -/
def Info.toJson (i : Info) : Json :=
  .object [
    ("title", .string i.title),
    ("version", .string i.version),
    ("summary", .ofText? i.summary),
    ("description", .ofText? i.description),
    ("terms_of_service", .ofText? i.termsOfService),
    ("contact", Json.ofOption Contact.toJson i.contact),
    ("license", Json.ofOption License.toJson i.license)]

/-- The JSON of the reusable parts. -/
def Components.toJson (c : Components) : Json :=
  .object [
    ("schemas", Json.ofEntries Json.ofNat c.schemas),
    ("responses", Json.ofEntries Response.toJson c.responses),
    ("parameters", Json.ofEntries Parameter.toJson c.parameters),
    ("examples", Json.ofEntries Example.toJson c.examples),
    ("request_bodies", Json.ofEntries RequestBody.toJson c.requestBodies),
    ("headers", Json.ofEntries Header.toJson c.headers),
    ("security_schemes", Json.ofEntries SecurityScheme.toJson c.securitySchemes),
    ("links", Json.ofEntries Link.toJson c.links),
    ("callbacks", .object (callbackMembers c.callbacks)),
    ("path_items", .object (pathItemMembers c.pathItems))]

/-- The JSON of a description. -/
def Description.toJson (d : Description) : Json :=
  .object [
    ("openapi", .string d.declared),
    ("version", .string d.version.word),
    ("info", d.info.toJson),
    ("json_schema_dialect", .ofText? d.jsonSchemaDialect),
    ("servers", Json.ofList Server.toJson d.servers),
    ("paths", .object (pathItemMembers d.paths)),
    ("webhooks", .object (pathItemMembers d.webhooks)),
    ("components", d.components.toJson),
    ("security", Json.ofList SecurityRequirement.toJson d.security),
    ("tags", Json.ofList Tag.toJson d.tags),
    ("external_docs", Json.ofOption ExternalDocs.toJson d.externalDocs),
    ("extensions", .ofValues d.extensions),
    ("schemas", d.schemas.toJson)]

/-- The JSON of options. -/
def Options.toJson (o : Options) : Json :=
  .object [
    ("baseUri", .ofText? o.baseUri),
    ("resolveExternal", .bool o.resolveExternal),
    ("maxDepth", .ofNat o.maxDepth),
    ("validate", .bool o.validate),
    ("strict", .bool o.strict),
    ("warningsAsErrors", .bool o.warningsAsErrors)]

end ApiDescription
