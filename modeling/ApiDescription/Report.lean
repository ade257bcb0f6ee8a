import ApiDescription.Pointer

/-!
# Reports

Problems of a description never stop its import.  Each becomes a diagnostic: how serious it is,
its category, the node it is about, and a message.  A report is the list of diagnostics in the
order in which they were found.
-/

namespace ApiDescription

/-- How serious a diagnostic is. -/
inductive Severity where
  /-- The document is suspicious, and usable. -/
  | warning
  /-- The document breaks the specification. -/
  | error
deriving DecidableEq, Repr, Inhabited

/-- The name of a severity. -/
def Severity.name : Severity → String
  | .warning => "warning"
  | .error => "error"

/-- The severity of a given name. -/
def Severity.ofName? (name : String) : Option Severity :=
  [Severity.warning, .error].find? (·.name = name)

/-- The categories of diagnostics. -/
inductive Category where
  /-- A required field is absent. -/
  | missingField
  /-- A field has a value of the wrong kind, or an unknown keyword. -/
  | unexpectedType
  /-- The declared version does not have a construct. -/
  | unsupportedFeature
  /-- The target of a reference cannot be found. -/
  | unresolvedReference
  /-- A reference into another document is not followed. -/
  | externalReference
  /-- A chain of references never reaches an object. -/
  | cyclicReference
  /-- Nesting or a chain of references is deeper than allowed. -/
  | depthLimitExceeded
  /-- Two operations have one identifier. -/
  | duplicateOperationId
  /-- A path parameter is not in the path. -/
  | unusedPathParameter
  /-- A variable of the path has no path parameter. -/
  | undeclaredPathParameter
  /-- A path parameter is not required. -/
  | optionalPathParameter
  /-- A parameter is declared twice. -/
  | duplicateParameter
  /-- A path key is malformed. -/
  | invalidPathTemplate
  /-- Two path keys have the same shape. -/
  | conflictingPaths
  /-- An operation has no responses. -/
  | emptyResponses
  /-- A response key is no status code. -/
  | invalidResponseCode
  /-- A security requirement names an undeclared scheme. -/
  | unknownSecurityScheme
  /-- Scopes are listed for a scheme that has none. -/
  | invalidScopes
  /-- Two tags have one name. -/
  | duplicateTag
  /-- A component key has characters that are not allowed. -/
  | invalidComponentKey
  /-- A server has an invalid address or variables. -/
  | invalidServer
  /-- A discriminator does not fit its alternatives. -/
  | invalidDiscriminator
  /-- A required property can never be present. -/
  | unknownRequiredProperty
deriving DecidableEq, Repr, Inhabited

namespace Category

/-- All categories. -/
def all : List Category :=
  [.missingField, .unexpectedType, .unsupportedFeature, .unresolvedReference, .externalReference,
    .cyclicReference, .depthLimitExceeded, .duplicateOperationId, .unusedPathParameter,
    .undeclaredPathParameter, .optionalPathParameter, .duplicateParameter, .invalidPathTemplate,
    .conflictingPaths, .emptyResponses, .invalidResponseCode, .unknownSecurityScheme,
    .invalidScopes, .duplicateTag, .invalidComponentKey, .invalidServer, .invalidDiscriminator,
    .unknownRequiredProperty]

/-- The name of a category. -/
def name : Category → String
  | .missingField => "missing-field"
  | .unexpectedType => "unexpected-type"
  | .unsupportedFeature => "unsupported-feature"
  | .unresolvedReference => "unresolved-reference"
  | .externalReference => "external-reference"
  | .cyclicReference => "cyclic-reference"
  | .depthLimitExceeded => "depth-limit-exceeded"
  | .duplicateOperationId => "duplicate-operation-id"
  | .unusedPathParameter => "unused-path-parameter"
  | .undeclaredPathParameter => "undeclared-path-parameter"
  | .optionalPathParameter => "optional-path-parameter"
  | .duplicateParameter => "duplicate-parameter"
  | .invalidPathTemplate => "invalid-path-template"
  | .conflictingPaths => "conflicting-paths"
  | .emptyResponses => "empty-responses"
  | .invalidResponseCode => "invalid-response-code"
  | .unknownSecurityScheme => "unknown-security-scheme"
  | .invalidScopes => "invalid-scopes"
  | .duplicateTag => "duplicate-tag"
  | .invalidComponentKey => "invalid-component-key"
  | .invalidServer => "invalid-server"
  | .invalidDiscriminator => "invalid-discriminator"
  | .unknownRequiredProperty => "unknown-required-property"

/-- The category of a given name. -/
def ofName? (name : String) : Option Category := all.find? (·.name = name)

end Category

/-- A single problem. -/
structure Diagnostic where
  /-- How serious it is. -/
  severity : Severity
  /-- Its category. -/
  category : Category
  /-- The document it is in, when that is not the entry document. -/
  document : Option String
  /-- The node it is about. -/
  pointer : Pointer
  /-- What is wrong. -/
  message : String
deriving DecidableEq, Inhabited

/-- The text of a diagnostic. -/
def Diagnostic.text (d : Diagnostic) : String :=
  d.severity.name ++ "[" ++ d.category.name ++ "] " ++ d.document.getD "" ++ d.pointer.display ++
    ": " ++ d.message

/-- Diagnostics in the order in which they were found. -/
structure Report where
  /-- The diagnostics. -/
  diagnostics : List Diagnostic
deriving DecidableEq, Inhabited

namespace Report

/-- The report without diagnostics. -/
def empty : Report := ⟨[]⟩

/-- The report with one more diagnostic. -/
def push (r : Report) (d : Diagnostic) : Report := ⟨r.diagnostics ++ [d]⟩

/-- The report with the diagnostics of another behind its own. -/
def append (r other : Report) : Report := ⟨r.diagnostics ++ other.diagnostics⟩

/-- The number of diagnostics. -/
def size (r : Report) : Nat := r.diagnostics.length

/-- Whether there are no diagnostics. -/
def isEmpty (r : Report) : Bool := r.diagnostics.isEmpty

/-- The diagnostics of a given severity. -/
def ofSeverity (r : Report) (severity : Severity) : List Diagnostic :=
  r.diagnostics.filter (·.severity = severity)

/-- The errors. -/
def errors (r : Report) : List Diagnostic := r.ofSeverity .error

/-- The warnings. -/
def warnings (r : Report) : List Diagnostic := r.ofSeverity .warning

/-- Whether there is an error. -/
def hasErrors (r : Report) : Bool := r.diagnostics.any (·.severity = .error)

/-- Whether there is a warning. -/
def hasWarnings (r : Report) : Bool := r.diagnostics.any (·.severity = .warning)

/-- The diagnostics of a given category. -/
def ofCategory (r : Report) (category : Category) : List Diagnostic :=
  r.diagnostics.filter (·.category = category)

/-- The text of a report, a line for each diagnostic. -/
def text (r : Report) : String :=
  "\n".intercalate (r.diagnostics.map Diagnostic.text)

end Report

end ApiDescription
