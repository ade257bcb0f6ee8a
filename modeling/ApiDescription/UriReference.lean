import ApiDescription.Text.Split

/-!
# References

The text of a `$ref` names a document and a place in it: what stands before the first `#`, and
what stands behind it.  Without a `#` the whole document is meant, and with nothing before it the
document that holds the reference.
-/

namespace ApiDescription

/-- The two parts of a reference. -/
structure UriReference where
  /-- The document, empty for the one that holds the reference. -/
  document : String
  /-- What follows the first `#`, if there is one. -/
  fragment : Option String
deriving DecidableEq, Repr

namespace UriReference

/-- The parts of a reference text. -/
def parse (text : String) : UriReference :=
  let (document, fragment) := Text.cut '#' text.toList
  ⟨String.ofList document, fragment.map String.ofList⟩

/-- Whether the reference stays in its own document. -/
def isLocal (r : UriReference) : Bool := r.document.isEmpty

end UriReference

end ApiDescription
