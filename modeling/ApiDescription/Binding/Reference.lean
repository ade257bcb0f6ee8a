import ApiDescription.Binding.Field
import ApiDescription.UriReference

/-!
# Following references

The text of a `$ref` names a document, by a reference that is resolved against the base of the
document it is in, and a node of that document, by a pointer or by a name.

Where an object that is no schema is expected, a chain of references may stand for it.
`Node.chase` follows the chain as far as the limit allows, and tells a chain that closes from one
that is too long by the nodes it has passed.
-/

namespace ApiDescription

/-- A finding and the node it is about. -/
structure Problem where
  /-- The document of the node. -/
  scope : Scope
  /-- The pointer to the node. -/
  pointer : Pointer
  /-- The finding. -/
  finding : Finding

/-- A result, or a finding in its place. -/
def Binding.orTell {α : Type} : Except Problem α → Binding (Option α)
  | .ok a => return some a
  | .error p => do
    Binding.tell p.scope p.pointer p.finding
    return none

namespace Scope

/-- The document at a place. -/
def at? (s : Scope) (place : Nat) : Option Scope :=
  (s.setting.registry.documents[place]?).map fun source => ⟨s.setting, place, source⟩

/-- The document that the first part of a reference names; the whole reference is given for the
findings.  The document itself may always be named, another one only if it is to be followed. -/
def documentOf (s : Scope) (document reference : String) : Except Finding Scope :=
  match s.source.base.resolve? document with
  | none => .error (.notReference reference)
  | some uri =>
    let found := s.setting.registry.place? uri.text
    if found = some s.place then .ok s
    else if !s.setting.options.resolveExternal then .error (.externalReference reference)
    else
      match found.bind s.at? with
      | some other => .ok other
      | none => .error (.unknownDocument (shownKey uri.text) reference)

/-- The pointer that the fragment of a reference writes, or that has the name it gives. -/
def pointerOf (s : Scope) (fragment reference : String) : Except Finding Pointer :=
  match Pointer.ofFragment? fragment with
  | some pointer => .ok pointer
  | none =>
    let name := Pointer.decodeSegment fragment
    match s.source.anchor? name with
    | some pointer => .ok pointer
    | none => .error (.unknownAnchor name reference)

/-- The node that a reference in a document points at. -/
def locate (s : Scope) (reference : String) : Except Finding Node := do
  let parts := UriReference.parse reference
  let target ← if parts.isLocal then .ok s else s.documentOf parts.document reference
  let pointer ←
    match parts.fragment with
    | none => .ok .root
    | some fragment => target.pointerOf fragment reference
  match target.source.root.at? pointer with
  | some value => .ok ⟨target, pointer, value⟩
  | none => .error (.unknownNode reference)

end Scope

/-- The member that makes an object a reference. -/
def referenceKey : String := "$ref"

/-- A node behind a chain of references. -/
structure Resolved where
  /-- The node. -/
  node : Node
  /-- The text of the first reference of the chain, if there is one. -/
  reference : Option String

namespace Node

/-- The node at the end of a chain of references.  The chain started at `origin` with the text
`first`, has passed the nodes `seen`, and may pass `room` further references. -/
def chase (origin : Node) (first : Option String) (seen : List Site) :
    Nat → Node → Except Problem Resolved
  | room, n =>
    match n.value.member? referenceKey with
    | none => .ok ⟨n, first⟩
    | some (.string text) =>
      let first := first.getD text
      if n.site ∈ seen then .error ⟨origin.scope, origin.pointer, .chainCloses first⟩
      else
        match room with
        | 0 =>
          .error ⟨origin.scope, origin.pointer,
            .chainTooLong first n.scope.setting.options.maxDepth⟩
        | room + 1 =>
          match n.scope.locate text with
          | .ok next => chase origin (some first) (seen ++ [n.site]) room next
          | .error f => .error ⟨n.scope, n.pointer.push referenceKey, f⟩
    | some other =>
      .error ⟨n.scope, n.pointer.push referenceKey, .mistyped referenceKey "a string" other.kind⟩

/-- The node that a node stands for. -/
def resolved (n : Node) : Except Problem Resolved :=
  chase n none [] n.scope.setting.options.maxDepth n

end Node

/-- An object behind a chain of references. -/
structure ResolvedRecord where
  /-- The object. -/
  record : Record
  /-- The text of the first reference of the chain, if there is one. -/
  reference : Option String

/-- The object that a node stands for; `what` names it in the findings. -/
def Node.resolvedRecord? (n : Node) (what : String) : Binding (Option ResolvedRecord) := do
  match ← Binding.orTell n.resolved with
  | none => return none
  | some ⟨target, reference⟩ =>
    return (← target.record? what).map (⟨·, reference⟩)

end ApiDescription
