import ApiDescription.Json
import ApiDescription.Text.Split
import ApiDescription.Text.Blank

/-!
# Versions of the specification

A description declares the version of the specification that it follows.  Three minor versions of
3.x are known; they differ in what they allow and require, and each difference is a question that
is asked of a version.  Documents of version 2 are told by their `swagger` member and refused.
-/

namespace ApiDescription

/-- The known versions of the specification. -/
inductive Version where
  /-- Version 3.0. -/
  | v30
  /-- Version 3.1. -/
  | v31
  /-- Version 3.2. -/
  | v32
deriving DecidableEq, Repr, Inhabited

namespace Version

/-- All known versions, oldest first. -/
def all : List Version := [.v30, .v31, .v32]

/-- The text of a version in messages. -/
def text : Version → String
  | .v30 => "3.0"
  | .v31 => "3.1"
  | .v32 => "3.2"

/-- Whether schemas follow JSON Schema: type lists, boolean schemas, `const`, and keywords next to
`$ref`. -/
def followsJsonSchema : Version → Bool
  | .v30 => false
  | _ => true

/-- Whether `webhooks` and reusable path items exist. -/
def hasWebhooks : Version → Bool
  | .v30 => false
  | _ => true

/-- Whether `paths` must be present. -/
def requiresPaths : Version → Bool
  | .v30 => true
  | _ => false

/-- Whether every operation must have `responses`. -/
def requiresResponses : Version → Bool
  | .v30 => true
  | _ => false

/-- Whether every response must have a description. -/
def requiresResponseDescription : Version → Bool
  | .v32 => false
  | _ => true

/-- The version with the given minor number. -/
def ofMinor? : List Char → Option Version
  | ['0'] => some .v30
  | ['1'] => some .v31
  | ['2'] => some .v32
  | _ => none

/-- Whether a text is a patch number, with a label behind a hyphen or without. -/
def isPatch (text : List Char) : Bool :=
  let number := text.takeWhile (· ≠ '-')
  !number.isEmpty && number.all Char.isDigit

/-- The version that a text names: `3.` and a known minor number, then a patch number or nothing,
with white space around it or without. -/
def parse? (text : String) : Option Version :=
  match Text.split '.' (Text.trim text.toList) with
  | [['3'], minor] => ofMinor? minor
  | [['3'], minor, patch] => if isPatch patch then ofMinor? minor else none
  | _ => none

end Version

/-- What keeps a document from being read as a description of a known version. -/
inductive VersionFault where
  /-- It is a document of version 2, with the version it gives. -/
  | swagger (declared : String)
  /-- It declares no version. -/
  | undeclared
  /-- What it declares is no text. -/
  | notText
  /-- It declares an unknown version. -/
  | unknown (declared : String)
deriving DecidableEq, Repr

/-- The message for a version fault. -/
def VersionFault.message : VersionFault → String
  | .swagger declared =>
    "Swagger " ++ declared ++ " documents are not supported; convert to OpenAPI 3.x first"
  | .undeclared => "missing required 'openapi' version field"
  | .notText => "'openapi' version field must be a string"
  | .unknown declared => "unsupported OpenAPI version '" ++ declared ++ "'"

/-- The text of a string or number. -/
def Json.scalarText? : Json → Option String
  | .string s => some s
  | .number n => some n.text
  | _ => none

/-- The version that a document declares, with the text that declares it. -/
def Version.declaredIn (root : Json) : Except VersionFault (Version × String) :=
  match root.member? "swagger" with
  | some version => .error (.swagger (version.scalarText?.getD "2.0"))
  | none =>
    match root.member? "openapi" with
    | none => .error .undeclared
    | some field =>
      match field.scalarText? with
      | none => .error .notText
      | some declared =>
        match Version.parse? declared with
        | none => .error (.unknown declared)
        | some version => .ok (version, declared)

end ApiDescription
