import ApiDescription.Validation.Components
import ApiDescription.Validation.Operations
import ApiDescription.Validation.Paths
import ApiDescription.Validation.Schemas

/-!
# Checking a description

What a description must satisfy beyond the kinds of its fields.  Seven checks go through it one
after the other; an object that is reached in several ways is found fault with once.
-/

namespace ApiDescription

/-- What the checks find, in order. -/
def Description.problems (d : Description) : List Diagnostic :=
  Validation.paths d ++ Validation.operations d ++ Validation.security d ++ Validation.tags d ++
    Validation.componentKeys d ++ Validation.servers d ++ Validation.schemas d

/-- The report with the diagnostics of a list that it does not have, each once. -/
def Report.extend (r : Report) (found : List Diagnostic) : Report :=
  found.foldl (fun r d => if d ∈ r.diagnostics then r else r.push d) r

/-- The report with what the checks find. -/
def Description.validate (d : Description) (r : Report) : Report := r.extend d.problems

end ApiDescription
