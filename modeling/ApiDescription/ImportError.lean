import ApiDescription.Report

/-!
# Errors of an import

Only what keeps a document from being read at all is an error: text that is no JSON or YAML, a
tree that is no description, a version that is not known, and, when the caller asks for it, a
report that holds problems.
-/

namespace ApiDescription

/-- The two formats of documents. -/
inductive Format where
  /-- JSON text. -/
  | json
  /-- YAML text. -/
  | yaml
deriving DecidableEq, Repr, Inhabited

/-- The name of a format. -/
def Format.name : Format → String
  | .json => "JSON"
  | .yaml => "YAML"

/-- The format of a given name. -/
def Format.ofName? (name : String) : Option Format :=
  [Format.json, .yaml].find? (·.name = name)

/-- A text that breaks the rules of its format. -/
structure SyntaxFault where
  /-- The format. -/
  format : Format
  /-- The line, counted from one, if known. -/
  line : Option Nat
  /-- The column, if known. -/
  column : Option Nat
  /-- What is wrong. -/
  message : String
deriving DecidableEq, Repr, Inhabited

/-- The text of a syntax fault; the place is given when both its numbers are known. -/
def SyntaxFault.text (f : SyntaxFault) : String :=
  match f.line, f.column with
  | some line, some column =>
    f.format.name ++ " at line " ++ toString line ++ ", column " ++ toString column ++ ": " ++
      f.message
  | _, _ => f.format.name ++ ": " ++ f.message

/-- What keeps a document from being imported. -/
inductive ImportError where
  /-- The text is neither JSON nor YAML. -/
  | unreadable (fault : SyntaxFault)
  /-- The tree is no description. -/
  | malformed (message : String)
  /-- The version is missing or unknown. -/
  | unsupported (message : String)
  /-- The report holds problems that the caller does not accept. -/
  | rejected (report : Report)
  /-- Anything else. -/
  | general (message : String)
deriving DecidableEq

/-- The text of an error. -/
def ImportError.text : ImportError → String
  | .unreadable fault => "Syntax Error: " ++ fault.text
  | .malformed message => "Structure Error: " ++ message
  | .unsupported message => "Unsupported Document: " ++ message
  | .rejected report => "Validation Failed:\n" ++ report.text
  | .general message => "General Error: " ++ message

/-- A message of its own is a general error. -/
instance : Coe String ImportError := ⟨ImportError.general⟩

end ApiDescription
