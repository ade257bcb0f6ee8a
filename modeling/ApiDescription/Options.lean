/-!
# Options of an import

What an import follows, how deep it goes, and what it takes for a failure.
-/

namespace ApiDescription

/-- The options of an import. -/
structure Options where
  /-- The URI that the entry document was found at. -/
  baseUri : Option String
  /-- Whether references into other documents are followed. -/
  resolveExternal : Bool
  /-- How deep schemas are nested at most, and how long chains of references are. -/
  maxDepth : Nat
  /-- Whether the description is checked. -/
  validate : Bool
  /-- Whether errors make the import fail. -/
  strict : Bool
  /-- Whether warnings do so as well. -/
  warningsAsErrors : Bool
deriving DecidableEq, Repr

/-- The options that hold if nothing is said. -/
def Options.standard : Options where
  baseUri := none
  resolveExternal := true
  maxDepth := 64
  validate := true
  strict := false
  warningsAsErrors := false

instance : Inhabited Options := ⟨Options.standard⟩

end ApiDescription
