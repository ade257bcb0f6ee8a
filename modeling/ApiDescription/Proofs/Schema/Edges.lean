import ApiDescription.Schema

/-!
# Edges between schemas

A schema leads to others in two ways.  Its children are the schemas that it is put together from:
properties, items, alternatives and so on.  Its references are the texts that stand for schemas
elsewhere: the one that it is itself, or those that tell its alternatives apart.
-/

namespace ApiDescription

/-- The schema that says what may stand besides the properties. -/
def AdditionalProperties.schema? : AdditionalProperties → Option SchemaId
  | .allowed _ => none
  | .schema id => some id

/-- The schemas that the shape of an object is put together from. -/
def ObjectShape.children (o : ObjectShape) : List SchemaId :=
  o.properties.map (·.2) ++ o.additionalProperties.schema?.toList

/-- The schemas that the shape of an array is put together from. -/
def ArrayShape.children (a : ArrayShape) : List SchemaId := a.items.toList ++ a.prefixItems

/-- The schemas that a composition is put together from. -/
def ComposedShape.children (c : ComposedShape) : List SchemaId :=
  c.allOf ++ c.oneOf ++ c.anyOf ++ c.negated.toList ++ c.inlined.toList

namespace Shape

/-- The schemas that a shape is put together from. -/
def children : Shape → List SchemaId
  | .object o => o.children
  | .array a => a.children
  | .composed c => c.children
  | _ => []

/-- How the alternatives of a shape are told apart. -/
def discriminator? : Shape → Option Discriminator
  | .object o => o.discriminator
  | .composed c => c.discriminator
  | _ => none

/-- The references of a shape. -/
def references : Shape → List Reference
  | .reference r => [r]
  | shape => (shape.discriminator?.map fun d => d.mapping.map (·.2)).getD []

@[simp] theorem children_any : Shape.any.children = [] := rfl

@[simp] theorem children_never : Shape.never.children = [] := rfl

@[simp] theorem children_reference (r : Reference) : (Shape.reference r).children = [] := rfl

@[simp] theorem references_any : Shape.any.references = [] := rfl

@[simp] theorem references_never : Shape.never.references = [] := rfl

@[simp] theorem references_reference (r : Reference) : (Shape.reference r).references = [r] := rfl

theorem mem_references {shape : Shape} {r : Reference} (h : r ∈ shape.references) :
    shape = .reference r ∨
      ∃ d, shape.discriminator? = some d ∧ ∃ key, (key, r) ∈ d.mapping := by
  have hdiscriminator : ∀ d? : Option Discriminator,
      r ∈ (d?.map fun d => d.mapping.map (·.2)).getD [] →
        ∃ d, d? = some d ∧ ∃ key, (key, r) ∈ d.mapping := by
    intro d? hmem
    cases d? with
    | none => simp at hmem
    | some d =>
      obtain ⟨entry, hentry, rfl⟩ := List.mem_map.mp hmem
      exact ⟨d, rfl, entry.1, hentry⟩
  cases shape with
  | reference r' =>
    obtain rfl := List.mem_singleton.mp h
    exact .inl rfl
  | object o => exact .inr (hdiscriminator _ h)
  | composed c => exact .inr (hdiscriminator _ h)
  | _ => exact .inr (hdiscriminator none h)

/-- The shape with a discriminator; some shapes cannot have one. -/
def discriminated (d : Discriminator) : Shape → Shape
  | .object o => .object { o with discriminator := d }
  | .any => .object { ObjectShape.free with discriminator := d }
  | .composed c => .composed { c with discriminator := d }
  | other => other

@[simp] theorem children_discriminated (d : Discriminator) (shape : Shape) :
    (shape.discriminated d).children = shape.children := by
  cases shape <;> rfl

/-- The discriminator that a shape is given is the only one that it has. -/
theorem eq_of_mem_discriminator?_discriminated {d d' : Discriminator} {shape : Shape}
    (h : d' ∈ (shape.discriminated d).discriminator?) : d' = d := by
  cases shape with
  | object o => exact (Option.some.inj h).symm
  | any => exact (Option.some.inj h).symm
  | composed c => exact (Option.some.inj h).symm
  | _ => simp [discriminated, discriminator?] at h

theorem discriminated_ne_reference (d : Discriminator) {shape : Shape}
    (hshape : ∀ reference, shape ≠ .reference reference) (reference : Reference) :
    shape.discriminated d ≠ .reference reference := by
  cases shape with
  | reference reference' => exact absurd rfl (hshape reference')
  | _ => exact Shape.noConfusion

end Shape

namespace SchemaGraph

theorem lt_size_iff {g : SchemaGraph} {id : SchemaId} :
    id < g.size ↔ ∃ s, g.get? id = some s := by
  rw [← Option.isSome_iff_exists]
  simp [get?, size]

/-- The schema of a number was read from a node of a document. -/
def At (g : SchemaGraph) (document : Option String) (p : Pointer) (id : SchemaId) : Prop :=
  ∃ s, g.get? id = some s ∧ s.document = document ∧ s.location = p

/-- A schema is put together from another. -/
def Holds (g : SchemaGraph) (id child : SchemaId) : Prop :=
  ∃ s, g.get? id = some s ∧ child ∈ s.shape.children

/-- A schema refers to another, and the reference is not one that closes a cycle. -/
def Refers (g : SchemaGraph) (id target : SchemaId) : Prop :=
  ∃ s, g.get? id = some s ∧ ∃ r ∈ s.shape.references, r.state = .resolved target

end SchemaGraph

end ApiDescription
