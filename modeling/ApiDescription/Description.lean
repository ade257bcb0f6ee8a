import ApiDescription.Description.Operation
import ApiDescription.Version

/-!
# Descriptions

The description of an interface as it is used: references are resolved, reusable parts stand
where they are referred to, and all schemas are in one graph.
-/

namespace ApiDescription

/-- Where an API key is sent. -/
inductive ApiKeyPlace where
  | query | header | cookie
deriving DecidableEq, Repr, Inhabited

namespace ApiKeyPlace

/-- All places of API keys. -/
def all : List ApiKeyPlace := [.query, .header, .cookie]

/-- The name of a place. -/
def name : ApiKeyPlace → String
  | .query => "query"
  | .header => "header"
  | .cookie => "cookie"

/-- The place of a given name. -/
def ofName? (name : String) : Option ApiKeyPlace := all.find? (·.name = name)

end ApiKeyPlace

/-- A way to get a token. -/
structure OAuthFlow where
  /-- Where access is granted. -/
  authorizationUrl : Option String
  /-- Where tokens are given out. -/
  tokenUrl : Option String
  /-- Where tokens are renewed. -/
  refreshUrl : Option String
  /-- The scopes and their descriptions. -/
  scopes : Entries String
deriving DecidableEq, Repr

/-- The ways to get a token. -/
structure OAuthFlows where
  /-- The implicit flow. -/
  implicit : Option OAuthFlow
  /-- The flow with a password. -/
  password : Option OAuthFlow
  /-- The flow with the credentials of the client. -/
  clientCredentials : Option OAuthFlow
  /-- The flow with a code. -/
  authorizationCode : Option OAuthFlow
deriving DecidableEq, Repr

namespace OAuthFlows

/-- No way at all. -/
def empty : OAuthFlows := ⟨none, none, none, none⟩

/-- Whether there is no way at all. -/
def isEmpty (f : OAuthFlows) : Bool :=
  f.implicit.isNone && f.password.isNone && f.clientCredentials.isNone &&
    f.authorizationCode.isNone

end OAuthFlows

/-- The kinds of security schemes. -/
inductive SecurityKind where
  /-- A key that is sent along under a name. -/
  | apiKey (name : String) (place : ApiKeyPlace)
  /-- A scheme of the protocol itself. -/
  | http (scheme : String) (bearerFormat : Option String)
  /-- Tokens with scopes. -/
  | oauth2 (flows : OAuthFlows)
  /-- Tokens of an identity provider. -/
  | openIdConnect (url : String)
  /-- Certificates on both sides. -/
  | mutualTls
deriving DecidableEq, Repr

/-- Whether requirements may list scopes for a scheme of a kind. -/
def SecurityKind.usesScopes : SecurityKind → Bool
  | .oauth2 _ => true
  | .openIdConnect _ => true
  | _ => false

/-- A security scheme. -/
structure SecurityScheme where
  /-- Its kind. -/
  kind : SecurityKind
  /-- A description. -/
  description : Option String
  /-- The `$ref` it was reached through. -/
  reference : Option String
deriving DecidableEq, Repr

/-- Documentation elsewhere. -/
structure ExternalDocs where
  /-- Where it is. -/
  url : String
  /-- A description. -/
  description : Option String
deriving DecidableEq, Repr

/-- A tag. -/
structure Tag where
  /-- Its name. -/
  name : String
  /-- A description. -/
  description : Option String
  /-- Documentation elsewhere. -/
  externalDocs : Option ExternalDocs
deriving DecidableEq, Repr

/-- Whom to ask. -/
structure Contact where
  /-- A name. -/
  name : Option String
  /-- An address on the web. -/
  url : Option String
  /-- A mail address. -/
  email : Option String
deriving DecidableEq, Repr

/-- The terms of use. -/
structure License where
  /-- Their name. -/
  name : String
  /-- Their identifier. -/
  identifier : Option String
  /-- Where they are. -/
  url : Option String
deriving DecidableEq, Repr

/-- What the description is about. -/
structure Info where
  /-- The title. -/
  title : String
  /-- The version of the interface. -/
  version : String
  /-- A summary. -/
  summary : Option String
  /-- A description. -/
  description : Option String
  /-- The terms of service. -/
  termsOfService : Option String
  /-- Whom to ask. -/
  contact : Option Contact
  /-- The terms of use. -/
  license : Option License
deriving DecidableEq, Repr

/-- Nothing said about what the description is about. -/
def Info.blank : Info := ⟨"", "", none, none, none, none, none⟩

/-- The reusable parts. -/
structure Components where
  /-- Schemas. -/
  schemas : Entries SchemaId
  /-- Responses. -/
  responses : Entries Response
  /-- Parameters. -/
  parameters : Entries Parameter
  /-- Examples. -/
  examples : Entries Example
  /-- Request bodies. -/
  requestBodies : Entries RequestBody
  /-- Headers. -/
  headers : Entries Header
  /-- Security schemes. -/
  securitySchemes : Entries SecurityScheme
  /-- Links. -/
  links : Entries Link
  /-- Callbacks. -/
  callbacks : Entries Callback
  /-- Path items. -/
  pathItems : Entries PathItem
  /-- The keys of every section as they are written, usable or not. -/
  writtenKeys : Entries (List String)

namespace Components

/-- No reusable parts. -/
def empty : Components := ⟨[], [], [], [], [], [], [], [], [], [], []⟩

/-- Whether a section has a key as it is written. -/
def declares (c : Components) (sectionName key : String) : Bool :=
  ((c.writtenKeys.get? sectionName).getD []).contains key

/-- Whether there are no usable parts. -/
def isEmpty (c : Components) : Bool :=
  c.schemas.isEmpty && c.responses.isEmpty && c.parameters.isEmpty && c.examples.isEmpty &&
    c.requestBodies.isEmpty && c.headers.isEmpty && c.securitySchemes.isEmpty &&
    c.links.isEmpty && c.callbacks.isEmpty && c.pathItems.isEmpty

end Components

/-- The description of an interface. -/
structure Description where
  /-- The version as it is declared. -/
  declared : String
  /-- The version. -/
  version : Version
  /-- What it is about. -/
  info : Info
  /-- The dialect of its schemas. -/
  jsonSchemaDialect : Option String
  /-- The servers. -/
  servers : List Server
  /-- The path items, by path. -/
  paths : Entries PathItem
  /-- The webhooks, by name. -/
  webhooks : Entries PathItem
  /-- The reusable parts. -/
  components : Components
  /-- The security requirements of all operations that have none of their own. -/
  security : List SecurityRequirement
  /-- The tags. -/
  tags : List Tag
  /-- Documentation elsewhere. -/
  externalDocs : Option ExternalDocs
  /-- Extensions. -/
  extensions : Entries Json
  /-- The schemas. -/
  schemas : SchemaGraph

namespace Description

/-- The operations of path items, each with the key of its item. -/
def operationsOf (items : Entries PathItem) : List (String × Operation) :=
  items.flatMap fun (key, item) => item.operationList.map (key, ·)

/-- The operations under the paths. -/
def operations (d : Description) : List (String × Operation) := operationsOf d.paths

/-- The operations under the webhooks. -/
def webhookOperations (d : Description) : List (String × Operation) := operationsOf d.webhooks

/-- The first operation with an identifier, under the paths or the webhooks. -/
def findOperation? (d : Description) (id : String) : Option Operation :=
  ((d.operations ++ d.webhookOperations).map (·.2)).find? (·.operationId = some id)

/-- The schema of a component. -/
def componentSchema? (d : Description) (name : String) : Option Schema :=
  (d.components.schemas.get? name).bind d.schemas.get?

end Description

end ApiDescription
