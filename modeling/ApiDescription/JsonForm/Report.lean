import ApiDescription.ImportError

/-!
# Reports and errors as JSON

The JSON in which diagnostics, reports and errors are handed on.  What is absent is `null`.
-/

namespace ApiDescription

namespace Json

/-- A count. -/
def ofNat (n : Nat) : Json := .number (.int n)

/-- A value that may be absent. -/
def ofOption {α : Type} (form : α → Json) (value : Option α) : Json :=
  (value.map form).getD .null

/-- The values of a list. -/
def ofList {α : Type} (form : α → Json) (values : List α) : Json := .array (values.map form)

/-- The values under names. -/
def ofEntries {α : Type} (form : α → Json) (entries : Entries α) : Json :=
  .object (entries.map fun (name, value) => (name, form value))

end Json

/-- A pointer is handed on as a fragment. -/
def Pointer.toJson (p : Pointer) : Json := .string p.display

/-- The JSON of a diagnostic. -/
def Diagnostic.toJson (d : Diagnostic) : Json :=
  .object [
    ("severity", .string d.severity.name),
    ("kind", .string d.category.name),
    ("document", Json.ofOption Json.string d.document),
    ("pointer", d.pointer.toJson),
    ("message", .string d.message)]

/-- The JSON of a report. -/
def Report.toJson (r : Report) : Json := Json.ofList Diagnostic.toJson r.diagnostics

/-- The word for a format in a syntax fault. -/
def Format.word : Format → String
  | .json => "Json"
  | .yaml => "Yaml"

/-- The JSON of a syntax fault. -/
def SyntaxFault.toJson (f : SyntaxFault) : Json :=
  .object [
    ("format", .string f.format.word),
    ("line", Json.ofOption Json.ofNat f.line),
    ("column", Json.ofOption Json.ofNat f.column),
    ("message", .string f.message)]

/-- The word for the kind of an error. -/
def ImportError.word : ImportError → String
  | .unreadable _ => "Syntax"
  | .malformed _ => "Structure"
  | .unsupported _ => "Unsupported"
  | .rejected _ => "Validation"
  | .general _ => "General"

/-- The JSON of an error. -/
def ImportError.toJson (e : ImportError) : Json :=
  let details : Entries Json :=
    match e with
    | .unreadable fault => [("syntax", fault.toJson)]
    | .rejected report => [("report", report.toJson)]
    | _ => []
  .object ([("error", .string e.word), ("message", .string e.text)] ++ details)

end ApiDescription
