import ApiDescription.Description.Traversal
import ApiDescription.Finding

/-!
# Checking operations

Identifiers of operations are used once, an operation that tells what it answers has a response,
and responses stand under status codes.  Security requirements name schemes that are declared.
-/

namespace ApiDescription.Validation

/-- The diagnostics for identifiers that are used again, behind given operations. -/
def repeatedIds (first : Entries Operation) : List Operation → List Diagnostic
  | [] => []
  | o :: rest =>
    match o.operationId with
    | none => repeatedIds first rest
    | some id =>
      match first.get? id with
      | some earlier =>
        (Finding.operationIdRepeated id earlier.method earlier.path).diagnostic o.document
          o.location :: repeatedIds first rest
      | none => repeatedIds (first ++ [(id, o)]) rest

/-- Whether a text is a status code, a class of status codes, or stands for all others. -/
def isResponseCode (key : String) : Bool :=
  match key.toList with
  | [a, b, c] =>
    '1' ≤ a && a ≤ '5' && ((b.isDigit && c.isDigit) || (b = 'X' && c = 'X'))
  | _ => key = "default"

/-- The diagnostics for the responses of an operation. -/
def responses (o : Operation) : List Diagnostic :=
  match o.responses with
  | none => []
  | some responses =>
    let at_ := o.location.push "responses"
    (if responses.isEmpty then [(Finding.noResponses o.method o.path).diagnostic o.document at_]
      else []) ++
    ((responses.map (·.1)).filter (!isResponseCode ·)).map fun key =>
      (Finding.badResponseCode key).diagnostic o.document (at_.push key)

/-- The diagnostics for operations. -/
def operations (d : Description) : List Diagnostic :=
  repeatedIds [] ((d.operations ++ d.webhookOperations).map (·.2)) ++
    d.allOperations.flatMap responses

/-- The finding about a scheme of a requirement, if there is one. -/
def schemeFinding? (d : Description) (name : String) (scopes : List String) : Option Finding :=
  match d.components.securitySchemes.get? name with
  | none =>
    if d.components.declares "securitySchemes" name then none else some (.unknownScheme name)
  | some scheme =>
    if d.version = .v30 && !scheme.kind.usesScopes && !scopes.isEmpty then
      some (.schemeWithoutScopes name)
    else none

/-- The diagnostics for a security requirement. -/
def requirement (d : Description) (document : Option String) (r : SecurityRequirement) :
    List Diagnostic :=
  r.schemes.filterMap fun (name, scopes) =>
    (schemeFinding? d name scopes).map (·.diagnostic document (r.location.push name))

/-- The diagnostics for security requirements. -/
def security (d : Description) : List Diagnostic :=
  d.security.flatMap (requirement d none) ++
    d.allOperations.flatMap fun o =>
      (o.security.getD []).flatMap (requirement d o.document)

end ApiDescription.Validation
