import ApiDescription.Description.Operation
import ApiDescription.PathTemplate
import ApiDescription.Report
import ApiDescription.Version

/-!
# Findings

Everything that can be wrong with a description that could be loaded.  A finding is the cause with
what the message needs to know; how serious it is, its category and its message follow from it.
-/

namespace ApiDescription

/-- Something that is wrong with a description. -/
inductive Finding where
  /-- Something that must be an object is none. -/
  | notObject (what : String) (found : Json.Kind)
  /-- Something that must be an array is none. -/
  | notArray (what : String) (found : Json.Kind)
  /-- A field does not have the kind that is expected of it. -/
  | mistyped (field expected : String) (found : Json.Kind)
  /-- An entry of a list of texts is none. -/
  | entryNotText (field : String) (found : Json.Kind)
  /-- A required field is missing. -/
  | missing (owner field : String)
  /-- The version does not have a field. -/
  | unknownInVersion (field : String) (version : Version)
  /-- The version is written as a number. -/
  | versionNotText (declared : String)
  /-- There are no paths, no components and no webhooks. -/
  | nothingDefined
  /-- No node of a document has the name that a reference gives. -/
  | unknownAnchor (name reference : String)
  /-- There is no node where a reference points. -/
  | unknownNode (reference : String)
  /-- A reference cannot be resolved against the base of its document. -/
  | notReference (reference : String)
  /-- The document of a reference is not registered. -/
  | unknownDocument (document reference : String)
  /-- A reference leads into another document and is not followed. -/
  | externalReference (reference : String)
  /-- A chain of references comes back to where it was. -/
  | chainCloses (first : String)
  /-- A chain of references is too long. -/
  | chainTooLong (first : String) (limit : Nat)
  /-- A path item or callback holds itself. -/
  | holdsItself (what : String)
  /-- Schemas are nested too deeply. -/
  | nestingTooDeep (limit : Nat)
  /-- A truth value stands for a schema. -/
  | booleanSchema
  /-- Fields next to a reference are not read. -/
  | siblingsIgnored (fields : List String)
  /-- An entry of a list of types is no text. -/
  | typeNotText (found : Json.Kind)
  /-- Several types are given. -/
  | typeList
  /-- A type is not known. -/
  | unknownType (name : String)
  /-- A field of the first version is used for `null`. -/
  | nullableField
  /-- The items of an array are described one by one. -/
  | itemList
  /-- An exclusive bound must be a number. -/
  | boundNotNumber (field : String) (version : Version)
  /-- An exclusive bound must be a truth value. -/
  | boundNotBoolean (field : String)
  /-- Alternatives are told apart where there are none. -/
  | discriminatorMisplaced
  /-- The place of a parameter is not known. -/
  | unknownPlace (name : String)
  /-- A parameter has a schema and a content. -/
  | schemaAndContent (parameter : String)
  /-- A link names its operation twice. -/
  | operationNamedTwice
  /-- The place of an API key is not known. -/
  | unknownKeyPlace (name : String)
  /-- The type of a security scheme is not known. -/
  | unknownSchemeType (name : String) (version : Version)
  /-- Two paths differ in the names of their variables only. -/
  | pathsConflict (path other : String)
  /-- A path is no template. -/
  | badTemplate (path : String) (fault : TemplateFault)
  /-- A variable of a path is no parameter. -/
  | variableUndeclared (method : Method) (path variableName : String)
  /-- A path parameter is no variable of its path. -/
  | parameterUnused (parameter path : String)
  /-- A path parameter may be left out. -/
  | parameterOptional (parameter : String)
  /-- A parameter is declared twice. -/
  | parameterRepeated (place : ParameterPlace) (parameter : String)
  /-- An identifier belongs to two operations. -/
  | operationIdRepeated (id : String) (method : Method) (path : String)
  /-- An operation has no responses. -/
  | noResponses (method : Method) (path : String)
  /-- The key of a response is no status code. -/
  | badResponseCode (key : String)
  /-- A security scheme is not declared. -/
  | unknownScheme (name : String)
  /-- A security scheme has no scopes. -/
  | schemeWithoutScopes (name : String)
  /-- A tag is declared twice. -/
  | tagRepeated (name : String)
  /-- The key of a component has other characters than it may have. -/
  | badComponentKey (key sectionName : String)
  /-- The address of a server has a query or a fragment. -/
  | serverWithQuery (url : String)
  /-- A variable in the address of a server is not declared. -/
  | serverVariableUndeclared (url variableName : String)
  /-- The values of a server variable are listed, and there are none. -/
  | serverVariableWithoutValues (variableName : String)
  /-- The default of a server variable is none of its values. -/
  | serverDefaultNotListed (value variableName : String)
  /-- A reference stands for a schema that is never reached. -/
  | referenceCloses (reference : String)
  /-- The property that tells alternatives apart is not declared. -/
  | discriminatorUndeclared (property : String)
  /-- The property that tells alternatives apart is not declared by one of them. -/
  | discriminatorUndeclaredBy (property alternative : String)
  /-- A property is required and can never be there. -/
  | requiredUndeclared (property : String)
deriving DecidableEq, Repr

namespace Finding

/-- The category of a finding. -/
def category : Finding → Category
  | notObject .. | notArray .. | mistyped .. | entryNotText .. | booleanSchema | typeNotText ..
  | typeList | unknownType .. | itemList | boundNotNumber .. | boundNotBoolean ..
  | unknownPlace .. | schemaAndContent .. | operationNamedTwice | unknownKeyPlace ..
  | unknownSchemeType .. => .unexpectedType
  | missing .. | nothingDefined => .missingField
  | unknownInVersion .. | versionNotText .. | siblingsIgnored .. | nullableField =>
    .unsupportedFeature
  | unknownAnchor .. | unknownNode .. | notReference .. | unknownDocument .. =>
    .unresolvedReference
  | externalReference .. => .externalReference
  | chainCloses .. | holdsItself .. | referenceCloses .. => .cyclicReference
  | chainTooLong .. | nestingTooDeep .. => .depthLimitExceeded
  | discriminatorMisplaced | discriminatorUndeclared .. | discriminatorUndeclaredBy .. =>
    .invalidDiscriminator
  | pathsConflict .. => .conflictingPaths
  | badTemplate .. => .invalidPathTemplate
  | variableUndeclared .. => .undeclaredPathParameter
  | parameterUnused .. => .unusedPathParameter
  | parameterOptional .. => .optionalPathParameter
  | parameterRepeated .. => .duplicateParameter
  | operationIdRepeated .. => .duplicateOperationId
  | noResponses .. => .emptyResponses
  | badResponseCode .. => .invalidResponseCode
  | unknownScheme .. => .unknownSecurityScheme
  | schemeWithoutScopes .. => .invalidScopes
  | tagRepeated .. => .duplicateTag
  | badComponentKey .. => .invalidComponentKey
  | serverWithQuery .. | serverVariableUndeclared .. | serverVariableWithoutValues ..
  | serverDefaultNotListed .. => .invalidServer
  | requiredUndeclared .. => .unknownRequiredProperty

/-- How serious a finding is. -/
def severity (f : Finding) : Severity :=
  match f.category with
  | .unsupportedFeature | .externalReference | .invalidDiscriminator | .invalidScopes
  | .unknownRequiredProperty => .warning
  | _ => .error

/-- The characters that the key of a component may have. -/
def componentKeyPattern : String := "^[a-zA-Z0-9._-]+$"

/-- A text in quotes. -/
def quote (text : String) : String := "'" ++ text ++ "'"

/-- The message of a finding. -/
def message : Finding → String
  | notObject what found => what ++ " must be an object, found " ++ found.name
  | notArray what found => what ++ " must be an array, found " ++ found.name
  | mistyped field expected found =>
    quote field ++ " must be " ++ expected ++ ", found " ++ found.name
  | entryNotText field found =>
    quote field ++ " entries must be strings, found " ++ found.name
  | missing owner field => owner ++ " is missing required field " ++ quote field
  | unknownInVersion field version =>
    quote field ++ " is not supported in OpenAPI " ++ version.text ++ " and is ignored"
  | versionNotText declared => "'openapi' should be a string; read as " ++ quote declared
  | nothingDefined =>
    "document must define at least one of 'paths', 'components' or 'webhooks'"
  | unknownAnchor name reference =>
    "anchor " ++ quote name ++ " referenced by " ++ quote reference ++ " does not exist"
  | unknownNode reference =>
    "reference " ++ quote reference ++ " does not point to an existing node"
  | notReference reference =>
    "reference " ++ quote reference ++ " is not a valid URI reference"
  | unknownDocument document reference =>
    "document " ++ quote document ++ " referenced by " ++ quote reference ++ " is not registered"
  | externalReference reference =>
    "external reference " ++ quote reference ++ " left unresolved"
  | chainCloses first =>
    "reference chain starting at " ++ quote first ++ " loops back on itself"
  | chainTooLong first limit =>
    "reference chain starting at " ++ quote first ++ " exceeds the depth limit of " ++
      toString limit
  | holdsItself what => quote what ++ " refers back to an object that encloses it"
  | nestingTooDeep limit => "schema nesting exceeds the depth limit of " ++ toString limit
  | booleanSchema => "boolean schemas require OpenAPI 3.1 or later"
  | siblingsIgnored fields =>
    "keywords next to '$ref' are ignored in OpenAPI 3.0: " ++ ", ".intercalate fields
  | typeNotText found => "type entries must be strings, found " ++ found.name
  | typeList => "type arrays require OpenAPI 3.1 or later"
  | unknownType name => "unknown schema type " ++ quote name
  | nullableField =>
    "'nullable' is an OpenAPI 3.0 keyword; use a \"null\" type member instead"
  | itemList => "'items' must be a single schema; tuple forms use 'prefixItems'"
  | boundNotNumber field version =>
    quote field ++ " must be a number in OpenAPI " ++ version.text
  | boundNotBoolean field => quote field ++ " must be a boolean in OpenAPI 3.0"
  | discriminatorMisplaced => "discriminator is only meaningful on object or composed schemas"
  | unknownPlace name => "unknown parameter location " ++ quote name
  | schemaAndContent parameter =>
    "parameter " ++ quote parameter ++ " must not define both 'schema' and 'content'"
  | operationNamedTwice => "link must not define both 'operationId' and 'operationRef'"
  | unknownKeyPlace name => "unknown API key location " ++ quote name
  | unknownSchemeType name version =>
    "unsupported security scheme type " ++ quote name ++ " for OpenAPI " ++ version.text
  | pathsConflict path other => "path " ++ quote path ++ " is equivalent to " ++ quote other
  | badTemplate path fault => "path " ++ quote path ++ " " ++ fault.message
  | variableUndeclared method path variableName =>
    method.name ++ " " ++ path ++ " does not declare path parameter " ++ quote variableName
  | parameterUnused parameter path =>
    "path parameter " ++ quote parameter ++ " does not appear in path " ++ quote path
  | parameterOptional parameter =>
    "path parameter " ++ quote parameter ++ " must be marked 'required: true'"
  | parameterRepeated place parameter =>
    place.name ++ " parameter " ++ quote parameter ++ " is declared more than once"
  | operationIdRepeated id method path =>
    "operationId " ++ quote id ++ " is already used by " ++ method.name ++ " " ++ path
  | noResponses method path => method.name ++ " " ++ path ++ " must define at least one response"
  | badResponseCode key => quote key ++ " is not a valid response code"
  | unknownScheme name =>
    "security requirement references undeclared scheme " ++ quote name
  | schemeWithoutScopes name =>
    "scheme " ++ quote name ++ " does not use scopes; its list must be empty in OpenAPI 3.0"
  | tagRepeated name => "tag " ++ quote name ++ " is declared more than once"
  | badComponentKey key sectionName =>
    "component key " ++ quote key ++ " in " ++ quote sectionName ++ " must match " ++
      componentKeyPattern
  | serverWithQuery url => "server URL " ++ quote url ++ " must not include a query or fragment"
  | serverVariableUndeclared url variableName =>
    "server URL " ++ quote url ++ " references undefined variable " ++ quote variableName
  | serverVariableWithoutValues variableName =>
    "server variable " ++ quote variableName ++ " has an empty enum"
  | serverDefaultNotListed value variableName =>
    "default " ++ quote value ++ " of server variable " ++ quote variableName ++
      " is not one of its enum values"
  | referenceCloses reference =>
    quote reference ++ " only refers back to itself and never reaches a schema"
  | discriminatorUndeclared property =>
    "discriminator property " ++ quote property ++ " is not a declared property"
  | discriminatorUndeclaredBy property alternative =>
    "discriminator property " ++ quote property ++ " is not declared by alternative " ++
      quote alternative
  | requiredUndeclared property =>
    "required property " ++ quote property ++
      " is not declared and additional properties are not allowed"

/-- The diagnostic for a finding at a node of a document. -/
def diagnostic (f : Finding) (document : Option String) (pointer : Pointer) : Diagnostic :=
  ⟨f.severity, f.category, document, pointer, f.message⟩

end Finding

end ApiDescription
