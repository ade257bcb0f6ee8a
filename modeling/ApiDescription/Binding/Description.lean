import ApiDescription.Binding.Component

/-!
# Reading a description

The root of the entry document, read field by field.  The order in which the fields are read is
the order of the findings, and of the numbers of the schemas.
-/

namespace ApiDescription

namespace Record

/-- Whom to ask. -/
def contact? (r : Record) : Binding (Option Contact) := do
  match ← r.record? "contact" with
  | none => return none
  | some c =>
    let name ← c.text? "name"
    let url ← c.text? "url"
    let email ← c.text? "email"
    return some ⟨name, url, email⟩

/-- The terms of use. -/
def license? (r : Record) : Binding (Option License) := do
  match ← r.record? "license" with
  | none => return none
  | some l =>
    let name ← l.requiredText? "license" "name"
    let identifier ← if l.scope.followsJsonSchema then l.text? "identifier" else pure none
    let url ← l.text? "url"
    return some ⟨name.getD "", identifier, url⟩

/-- What the description is about. -/
def info (r : Record) : Binding Info :=
  match r.field? "info" with
  | none => do
    r.tell (.missing "document" "info")
    return .blank
  | some n => do
    match ← n.record? "info" with
    | none => return .blank
    | some i =>
      let summary ← if i.scope.followsJsonSchema then i.text? "summary" else pure none
      let contact ← i.contact?
      let license ← i.license?
      let title ← i.requiredText? "info" "title"
      let version ← i.requiredText? "info" "version"
      let description ← i.text? "description"
      let termsOfService ← i.text? "termsOfService"
      return {
        title := title.getD "", version := version.getD ""
        summary, description, termsOfService, contact, license }

/-- The dialect of the schemas. -/
def jsonSchemaDialect? (r : Record) : Binding (Option String) := do
  if r.scope.followsJsonSchema then r.text? "jsonSchemaDialect"
  else
    r.refuse "jsonSchemaDialect"
    return none

/-- The security requirements. -/
def security (r : Record) : Binding (List SecurityRequirement) :=
  match r.field? "security" with
  | none => return []
  | some n => n.security

/-- Adds that the version is written as a number, if it is. -/
def checkDeclaration (r : Record) (declared : String) : Binding Unit :=
  match r.members.get? "openapi" with
  | some (.number _) => r.tellField "openapi" (.versionNotText declared)
  | _ => return

/-- Adds that the description is about nothing, if it need not have paths and has nothing. -/
def checkContents (r : Record) : Binding Unit := do
  if !r.scope.version.requiresPaths && !r.hasAny ["paths", "components", "webhooks"] then
    r.tell .nothingDefined

end Record

namespace Readers

variable (R : Readers)

/-- The reusable parts. -/
def componentsOf (r : Record) : Binding Components :=
  match r.field? "components" with
  | none => return .empty
  | some n => R.components n

/-- The path items at a node, by path. -/
def pathItems (n : Node) : Binding (Entries PathItem) := do
  match ← n.record? "paths" with
  | none => return []
  | some r => Record.readFields r.plainFields R.pathItem

/-- The path items under the paths. -/
def paths (r : Record) : Binding (Entries PathItem) :=
  match r.field? "paths" with
  | some n => R.pathItems n
  | none => do
    if r.scope.version.requiresPaths then r.tell (.missing "document" "paths")
    return []

/-- The path items under the webhooks. -/
def webhooks (r : Record) : Binding (Entries PathItem) :=
  match r.field? "webhooks" with
  | none => return []
  | some n => do
    if r.scope.version.hasWebhooks then R.pathItems n
    else
      r.refuse "webhooks"
      return []

/-- The description that the root of a document is, with what is read before the paths. -/
def descriptionWith (r : Record) (declared : String) (info : Info)
    (jsonSchemaDialect : Option String) (servers : List Server) (components : Components) :
    Binding Description := do
  let paths ← R.paths r
  let webhooks ← R.webhooks r
  r.checkContents
  let security ← r.security
  let tags ← r.tags
  let externalDocs ← r.externalDocs?
  let w ← get
  return {
    declared, version := r.scope.version, info, jsonSchemaDialect, servers, paths, webhooks
    components, security, tags, externalDocs
    extensions := r.extensions
    schemas := w.graph }

/-- The description that the root of a document is; `declared` is its version as it is written. -/
def description (r : Record) (declared : String) : Binding Description := do
  r.checkDeclaration declared
  let info ← r.info
  let jsonSchemaDialect ← r.jsonSchemaDialect?
  let servers ← r.servers
  let components ← R.componentsOf r
  R.descriptionWith r declared info jsonSchemaDialect servers components

end Readers

/-- The reusable parts. -/
abbrev Record.components (r : Record) : Binding Components := Readers.usual.componentsOf r

/-- The path items at a node, by path. -/
abbrev Node.pathItems (n : Node) : Binding (Entries PathItem) := Readers.usual.pathItems n

/-- The path items under the paths. -/
abbrev Record.paths (r : Record) : Binding (Entries PathItem) := Readers.usual.paths r

/-- The path items under the webhooks. -/
abbrev Record.webhooks (r : Record) : Binding (Entries PathItem) := Readers.usual.webhooks r

/-- The description that the root of a document is, with what is read before the paths. -/
abbrev Record.descriptionWith (r : Record) (declared : String) (info : Info)
    (jsonSchemaDialect : Option String) (servers : List Server) (components : Components) :
    Binding Description :=
  Readers.usual.descriptionWith r declared info jsonSchemaDialect servers components

/-- The description that the root of a document is. -/
abbrev Record.description (r : Record) (declared : String) : Binding Description :=
  Readers.usual.description r declared

/-- What keeps a document from being bound. -/
inductive BindingFault where
  /-- No document is registered under a text. -/
  | notRegistered (uri : String)
  /-- The root of the document is no object. -/
  | rootNotObject (found : Json.Kind)
deriving DecidableEq, Repr

/-- The error that a fault of binding is. -/
def BindingFault.toImportError : BindingFault → ImportError
  | .notRegistered uri => .general ("Entry document '" ++ uri ++ "' is not registered")
  | .rootNotObject found =>
    .malformed ("document root must be an object, found " ++ found.name)

/-- The description of a document of a registry, and the report. -/
def Readers.bind (R : Readers) (d : RegisteredDocument) (setting : Setting) (declared : String) :
    Except BindingFault (Description × Report) :=
  match d.root with
  | .object members =>
    let root : Record := ⟨⟨setting, setting.entry, d⟩, .root, members⟩
    let (description, w) := (R.description root declared).run .fresh
    .ok (description, w.report)
  | other => .error (.rootNotObject other.kind)

/-- The description of the document that a text stands for, and the report, where the ways to read
are chosen for the setting. -/
def Registry.bindBy (r : Registry) (readers : Setting → Readers) (entry : String)
    (options : Options) (version : Version) (declared : String) :
    Except BindingFault (Description × Report) :=
  ((r.place? entry).bind fun place => r.documents[place]?.map fun d =>
    (readers ⟨r, place, options, version⟩).bind d ⟨r, place, options, version⟩ declared).getD
    (.error (.notRegistered entry))

/-- The description of a document of a registry, and the report. -/
abbrev RegisteredDocument.bind (d : RegisteredDocument) (setting : Setting) (declared : String) :
    Except BindingFault (Description × Report) :=
  Readers.usual.bind d setting declared

/-- The description of the document that a text stands for, and the report. -/
abbrev Registry.bind (r : Registry) (entry : String) (options : Options) (version : Version)
    (declared : String) : Except BindingFault (Description × Report) :=
  r.bindBy (fun _ => .usual) entry options version declared

end ApiDescription
