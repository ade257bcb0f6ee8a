import ApiDescription.Description
import ApiDescription.Proofs.Schema.Edges

/-!
# The schemas that a description names

The parts of a description name schemas by their numbers: the contents of parameters, headers,
bodies and responses do, in the operations of path items and in the callbacks of these to any
depth, and so do the components and the schemas themselves.
-/

namespace ApiDescription

/-- The schema that the content of one format names. -/
def MediaType.schemaIds (m : MediaType) : List SchemaId := m.schema.toList

/-- The schemas that contents name. -/
def contentIds (content : Entries MediaType) : List SchemaId :=
  content.flatMap fun entry => entry.2.schemaIds

/-- The schemas that a parameter names. -/
def Parameter.schemaIds (p : Parameter) : List SchemaId :=
  p.schema.toList ++ contentIds p.content

/-- The schemas that a header names. -/
def Header.schemaIds (h : Header) : List SchemaId := h.schema.toList ++ contentIds h.content

/-- The schemas that a response names. -/
def Response.schemaIds (r : Response) : List SchemaId :=
  r.headers.flatMap (fun entry => entry.2.schemaIds) ++ contentIds r.content

/-- The schemas that a request body names. -/
def RequestBody.schemaIds (b : RequestBody) : List SchemaId := contentIds b.content

/-! ## Path items -/

mutual

/-- The schemas that a path item names, and those that the callbacks of its operations do. -/
def PathItem.schemaIds : PathItem → List SchemaId
  | ⟨_, _, operations, parameters, _, _, _, _⟩ =>
    parameters.flatMap Parameter.schemaIds ++ schemaIdsOfOperations operations

/-- The schemas that operations name. -/
def schemaIdsOfOperations : List (Method × Operation) → List SchemaId
  | [] => []
  | (_, operation) :: rest => operation.schemaIds ++ schemaIdsOfOperations rest

/-- The schemas that an operation names. -/
def Operation.schemaIds : Operation → List SchemaId
  | ⟨_, _, _, _, _, _, parameters, body, responses, callbacks, _, _, _, _, _, _⟩ =>
    parameters.flatMap Parameter.schemaIds ++ (body.map RequestBody.schemaIds).getD [] ++
      (responses.getD []).flatMap (fun entry => entry.2.schemaIds) ++
        schemaIdsOfCallbacks callbacks

/-- The schemas that callbacks name. -/
def schemaIdsOfCallbacks : List (String × Callback) → List SchemaId
  | [] => []
  | (_, callback) :: rest => callback.schemaIds ++ schemaIdsOfCallbacks rest

/-- The schemas that a callback names. -/
def Callback.schemaIds : Callback → List SchemaId
  | ⟨expressions, _⟩ => schemaIdsOfPathItems expressions

/-- The schemas that path items name. -/
def schemaIdsOfPathItems : List (String × PathItem) → List SchemaId
  | [] => []
  | (_, item) :: rest => item.schemaIds ++ schemaIdsOfPathItems rest

end

theorem schemaIdsOfOperations_eq (operations : List (Method × Operation)) :
    schemaIdsOfOperations operations = operations.flatMap fun entry => entry.2.schemaIds := by
  induction operations with
  | nil => rw [schemaIdsOfOperations, List.flatMap_nil]
  | cons first rest ih => rw [schemaIdsOfOperations, ih, List.flatMap_cons]

theorem schemaIdsOfCallbacks_eq (callbacks : List (String × Callback)) :
    schemaIdsOfCallbacks callbacks = callbacks.flatMap fun entry => entry.2.schemaIds := by
  induction callbacks with
  | nil => rw [schemaIdsOfCallbacks, List.flatMap_nil]
  | cons first rest ih => rw [schemaIdsOfCallbacks, ih, List.flatMap_cons]

theorem schemaIdsOfPathItems_eq (items : List (String × PathItem)) :
    schemaIdsOfPathItems items = items.flatMap fun entry => entry.2.schemaIds := by
  induction items with
  | nil => rw [schemaIdsOfPathItems, List.flatMap_nil]
  | cons first rest ih => rw [schemaIdsOfPathItems, ih, List.flatMap_cons]

/-! ## Descriptions -/

/-- The schemas that components name. -/
def Components.schemaIds (c : Components) : List SchemaId :=
  c.schemas.map (·.2) ++ c.responses.flatMap (fun entry => entry.2.schemaIds) ++
    c.parameters.flatMap (fun entry => entry.2.schemaIds) ++
    c.requestBodies.flatMap (fun entry => entry.2.schemaIds) ++
    c.headers.flatMap (fun entry => entry.2.schemaIds) ++
    c.callbacks.flatMap (fun entry => entry.2.schemaIds) ++
    c.pathItems.flatMap fun entry => entry.2.schemaIds

/-- The schemas that a schema names: those that it is put together from, and the targets of its
references. -/
def Schema.schemaIds (s : Schema) : List SchemaId :=
  s.shape.children ++ s.shape.references.filterMap fun r => r.state.target?

/-- The schemas that a description names outside of schemas. -/
def Description.outerSchemaIds (d : Description) : List SchemaId :=
  d.components.schemaIds ++ d.paths.flatMap (fun entry => entry.2.schemaIds) ++
    d.webhooks.flatMap fun entry => entry.2.schemaIds

/-- The schemas that a description names. -/
def Description.schemaIds (d : Description) : List SchemaId :=
  d.outerSchemaIds ++ d.schemas.nodes.flatMap Schema.schemaIds

end ApiDescription
