import ApiDescription.Description
import ApiDescription.Finding

/-!
# Checking schemas

A chain of references reaches a schema, the property that tells alternatives apart is declared by
each of them, and a property that must be there may be there.

A schema declares a property directly or through the schemas it is put together from.  They may
lead back to it, so `declaresWithin` keeps the schemas it has met; none is met twice, which bounds
how deep it goes.
-/

namespace ApiDescription.Validation

/-- Whether one of several schemas passes a test that keeps the schemas it has met. -/
def anyPasses (test : List SchemaId → SchemaId → Bool × List SchemaId) :
    List SchemaId → List SchemaId → Bool × List SchemaId
  | met, [] => (false, met)
  | met, id :: rest =>
    match test met id with
    | (true, met) => (true, met)
    | (false, met) => anyPasses test met rest

/-- Whether a schema declares a property, and the schemas met; those met before do not. -/
def declaresWithin (g : SchemaGraph) (property : String) :
    Nat → List SchemaId → SchemaId → Bool × List SchemaId
  | 0, met, _ => (false, met)
  | room + 1, met, id =>
    match g.resolve? id with
    | none => (false, met)
    | some id =>
      if id ∈ met then (false, met)
      else
        let met := id :: met
        match (g.get? id).map Schema.shape with
        | some (.object o) => (o.properties.contains property, met)
        | some (.composed c) =>
          anyPasses (declaresWithin g property room) met (c.allOf ++ c.inlined.toList)
        | _ => (false, met)

/-- Whether a schema declares a property, directly or through the schemas it is put together
from. -/
def declares (g : SchemaGraph) (id : SchemaId) (property : String) : Bool :=
  (declaresWithin g property (g.size + 1) [] id).1

/-- Whether a schema can declare properties. -/
def canDeclare (s : Schema) : Bool :=
  match s.shape with
  | .object _ => true
  | .composed _ => true
  | _ => false

/-- A finding about the discriminator of a schema. -/
def aboutDiscriminator (s : Schema) (f : Finding) : Diagnostic :=
  f.diagnostic s.document (s.location.push "discriminator")

/-- The name of a schema in messages. -/
def schemaLabel (s : Schema) : String := s.name.getD s.location.display

/-- The diagnostics for an alternative that is told by a property. -/
def alternative (g : SchemaGraph) (s : Schema) (property : String) (id : SchemaId) :
    List Diagnostic :=
  match (g.resolve? id).bind fun target => (g.get? target).map (target, ·) with
  | none => []
  | some (target, t) =>
    if canDeclare t && !declares g target property then
      [aboutDiscriminator s (.discriminatorUndeclaredBy property (schemaLabel t))]
    else []

/-- The diagnostics for a reference. -/
def reference (g : SchemaGraph) (id : SchemaId) (s : Schema) (r : Reference) : List Diagnostic :=
  match r.state with
  | .cyclic _ =>
    if g.follow id = .closed then [(Finding.referenceCloses r.text).diagnostic s.document s.location]
    else []
  | _ => []

/-- The diagnostics for the shape of an object. -/
def objectShape (s : Schema) (o : ObjectShape) : List Diagnostic :=
  let undeclared (property : String) : Bool := !o.properties.contains property
  ((o.discriminator.map Discriminator.propertyName).toList.filter undeclared).map
    (fun property => aboutDiscriminator s (.discriminatorUndeclared property)) ++
  (if o.additionalProperties = .allowed false then
      (o.required.filter undeclared).map fun property =>
        (Finding.requiredUndeclared property).diagnostic s.document (s.location.push "required")
    else [])

/-- The diagnostics for a schema that is put together from others. -/
def composedShape (g : SchemaGraph) (id : SchemaId) (s : Schema) (c : ComposedShape) :
    List Diagnostic :=
  match c.discriminator with
  | none => []
  | some d =>
    match c.oneOf ++ c.anyOf with
    | [] =>
      if declares g id d.propertyName then []
      else [aboutDiscriminator s (.discriminatorUndeclared d.propertyName)]
    | alternatives => alternatives.flatMap (alternative g s d.propertyName)

/-- The diagnostics for a schema. -/
def schema (g : SchemaGraph) (id : SchemaId) (s : Schema) : List Diagnostic :=
  match s.shape with
  | .reference r => reference g id s r
  | .object o => objectShape s o
  | .composed c => composedShape g id s c
  | _ => []

/-- The diagnostics for schemas. -/
def schemas (d : Description) : List Diagnostic :=
  d.schemas.numbered.flatMap fun (id, s) => schema d.schemas id s

end ApiDescription.Validation
