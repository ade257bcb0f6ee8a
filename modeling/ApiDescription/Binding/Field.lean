import ApiDescription.Binding

/-!
# Reading fields

Objects and arrays of a document are read field by field and item by item.  A field that is not
there is no finding, unless it is required; one of the wrong kind is, and counts as not there.
-/

namespace ApiDescription

/-- Adds a finding about a node. -/
def Node.tell (n : Node) (f : Finding) : Binding Unit := Binding.tell n.scope n.pointer f

/-- The items of an array; `what` names it in the finding if it is none. -/
def Node.items (n : Node) (what : String) : Binding (List Node) :=
  match n.value with
  | .array items =>
    return items.zipIdx.map fun (item, place) => ⟨n.scope, n.pointer.item place, item⟩
  | other => do
    n.tell (.notArray what other.kind)
    return []

/-- An object of a document. -/
structure Record where
  /-- Its document. -/
  scope : Scope
  /-- The pointer to it. -/
  pointer : Pointer
  /-- Its members. -/
  members : Entries Json

/-- The object that a node is; `what` names it in the finding if it is none. -/
def Node.record? (n : Node) (what : String) : Binding (Option Record) :=
  match n.value with
  | .object members => return some ⟨n.scope, n.pointer, members⟩
  | other => do
    n.tell (.notObject what other.kind)
    return none

namespace Record

/-- Adds a finding about the object. -/
def tell (r : Record) (f : Finding) : Binding Unit := Binding.tell r.scope r.pointer f

/-- Adds a finding about a field. -/
def tellField (r : Record) (key : String) (f : Finding) : Binding Unit :=
  Binding.tell r.scope (r.pointer.push key) f

/-- Whether there is a field. -/
def has (r : Record) (key : String) : Bool := r.members.contains key

/-- Whether there is one of several fields. -/
def hasAny (r : Record) (keys : List String) : Bool := keys.any r.has

/-- The node under a member. -/
def child (r : Record) (member : String × Json) : Node :=
  ⟨r.scope, r.pointer.push member.1, member.2⟩

/-- The node of a field. -/
def field? (r : Record) (key : String) : Option Node :=
  (r.members.get? key).map fun value => r.child (key, value)

/-- The nodes of all fields, with their keys. -/
def fields (r : Record) : List (String × Node) := r.members.map fun m => (m.1, r.child m)

/-- Whether a key is that of an extension. -/
def isExtension (key : String) : Bool := "x-".toList.isPrefixOf key.toList

/-- The nodes of the fields that are no extensions, with their keys. -/
def plainFields (r : Record) : List (String × Node) := r.fields.filter (!isExtension ·.1)

/-- The extensions. -/
def extensions (r : Record) : Entries Json := r.members.filter (isExtension ·.1)

/-- The object in a field. -/
def record? (r : Record) (key : String) : Binding (Option Record) :=
  match r.field? key with
  | none => return none
  | some n => n.record? (Finding.quote key)

/-- Adds that a field is not of the kind that is expected. -/
def tellMistyped (r : Record) (key expected : String) (found : Json) : Binding Unit :=
  r.tellField key (.mistyped key expected found.kind)

/-- What a field holds, by the kind that is expected of it. -/
def read? {α : Type} (r : Record) (key expected : String) (form : Json → Option α) :
    Binding (Option α) :=
  match r.members.get? key with
  | none => return none
  | some value =>
    match form value with
    | some a => return some a
    | none => do
      r.tellMistyped key expected value
      return none

/-- The text in a field. -/
def text? (r : Record) (key : String) : Binding (Option String) :=
  r.read? key "a string" Json.string?

/-- The truth value in a field. -/
def flag? (r : Record) (key : String) : Binding (Option Bool) :=
  r.read? key "a boolean" Json.bool?

/-- The truth value in a field, false if there is none. -/
def flag (r : Record) (key : String) : Binding Bool :=
  return (← r.flag? key).getD false

/-- The number in a field. -/
def number? (r : Record) (key : String) : Binding (Option Float) :=
  r.read? key "a number" fun
    | .number n => some n.toFloat
    | _ => none

/-- The count in a field. -/
def count? (r : Record) (key : String) : Binding (Option Nat) :=
  r.read? key "a non-negative integer" Json.count?

/-- The text in a field that must be there; `owner` names the object in the finding. -/
def requiredText? (r : Record) (owner key : String) : Binding (Option String) := do
  if r.has key then r.text? key
  else
    r.tell (.missing owner key)
    return none

/-- The texts in a list. -/
def texts (r : Record) (key : String) : Binding (List String) :=
  match r.field? key with
  | none => return []
  | some n => do
    let items ← n.items (Finding.quote key)
    Binding.collect (fun item : Node =>
      match item.value with
      | .string text => return some text
      | other => do
        item.tell (.entryNotText key other.kind)
        return none) items

/-- Adds that the version does not have a field, if it is there. -/
def refuse (r : Record) (key : String) : Binding Unit := do
  if r.has key then r.tellField key (.unknownInVersion key r.scope.version)

/-- What the fields of an object are read as, under their keys. -/
def readFields {α : Type} (fields : List (String × Node))
    (step : String → Node → Binding (Option α)) : Binding (Entries α) :=
  Binding.collect (fun (key, n) => return (← step key n).map (key, ·)) fields

/-- What the fields of the object in a field are read as. -/
def readAll {α : Type} (r : Record) (key : String) (step : Node → Binding (Option α)) :
    Binding (Entries α) := do
  match ← r.record? key with
  | none => return []
  | some inner => readFields inner.fields fun _ n => step n

end Record

end ApiDescription
