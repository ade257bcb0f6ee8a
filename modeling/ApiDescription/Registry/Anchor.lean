import ApiDescription.Pointer

/-!
# Anchors

A schema may give itself a plain name that is unique in its document, by `$anchor` or by
`$dynamicAnchor`.  Where values stand as data and not as descriptions, such members name nothing.
-/

namespace ApiDescription

/-- The members whose values are data. -/
def dataMembers : List String := ["example", "examples", "default", "const", "enum"]

/-- The names that the members of an object give it. -/
def anchorNames (members : Entries Json) : List String :=
  ["$anchor", "$dynamicAnchor"].filterMap fun key => (members.get? key).bind Json.string?

namespace Json

mutual

/-- The anchors at a node and below it, in the order in which they are written. -/
def anchors (at_ : Pointer) : Json → Entries Pointer
  | .object members =>
    (anchorNames members).map (·, at_) ++ anchorsOfMembers at_ members
  | .array items => anchorsOfItems at_ 0 items
  | _ => []

/-- The anchors below the members of an object. -/
def anchorsOfMembers (at_ : Pointer) : List (String × Json) → Entries Pointer
  | [] => []
  | (key, value) :: rest =>
    (if key ∈ dataMembers then [] else anchors (at_.push key) value) ++ anchorsOfMembers at_ rest

/-- The anchors below the items of an array, counted from a place. -/
def anchorsOfItems (at_ : Pointer) (place : Nat) : List Json → Entries Pointer
  | [] => []
  | item :: rest => anchors (at_.item place) item ++ anchorsOfItems at_ (place + 1) rest

end

mutual

/-- The number of nodes of a value. -/
def size : Json → Nat
  | .object members => sizeOfMembers members + 1
  | .array items => sizeOfItems items + 1
  | _ => 1

/-- The number of nodes of the members of an object. -/
def sizeOfMembers : List (String × Json) → Nat
  | [] => 0
  | (_, value) :: rest => size value + sizeOfMembers rest

/-- The number of nodes of the items of an array. -/
def sizeOfItems : List Json → Nat
  | [] => 0
  | item :: rest => size item + sizeOfItems rest

end

end Json

end ApiDescription
