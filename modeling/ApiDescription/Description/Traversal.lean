import ApiDescription.Description

/-!
# All path items and operations

Path items are found under the paths, the webhooks and the components, and in the callbacks of
operations to any depth.  An operation that is reached in several ways is told by its document and
its node.
-/

namespace ApiDescription

mutual

/-- A path item and all path items in the callbacks of its operations. -/
def PathItem.withNested : PathItem → List PathItem
  | item@⟨_, _, operations, _, _, _, _, _⟩ => item :: nestedInOperations operations

/-- The path items in the callbacks of operations. -/
def nestedInOperations : List (Method × Operation) → List PathItem
  | [] => []
  | (_, operation) :: rest => operation.nested ++ nestedInOperations rest

/-- The path items in the callbacks of an operation. -/
def Operation.nested : Operation → List PathItem
  | ⟨_, _, _, _, _, _, _, _, _, callbacks, _, _, _, _, _, _⟩ => nestedInCallbacks callbacks

/-- The path items in callbacks. -/
def nestedInCallbacks : List (String × Callback) → List PathItem
  | [] => []
  | (_, callback) :: rest => callback.nested ++ nestedInCallbacks rest

/-- The path items in a callback. -/
def Callback.nested : Callback → List PathItem
  | ⟨expressions, _⟩ => withAllNested expressions

/-- Path items and all path items in the callbacks of their operations. -/
def withAllNested : List (String × PathItem) → List PathItem
  | [] => []
  | (_, item) :: rest => item.withNested ++ withAllNested rest

end

/-- What tells an operation from others: its document and its node. -/
def Operation.key (o : Operation) : Option String × Pointer := (o.document, o.location)

/-- The operations whose keys are not among given ones, each key once. -/
def distinctOperations (seen : List (Option String × Pointer)) : List Operation → List Operation
  | [] => []
  | o :: rest =>
    if o.key ∈ seen then distinctOperations seen rest
    else o :: distinctOperations (o.key :: seen) rest

namespace Description

/-- All path items. -/
def allPathItems (d : Description) : List PathItem :=
  withAllNested d.paths ++ withAllNested d.webhooks ++ withAllNested d.components.pathItems ++
    nestedInCallbacks d.components.callbacks

/-- All operations, each once. -/
def allOperations (d : Description) : List Operation :=
  distinctOperations [] (d.allPathItems.flatMap PathItem.operationList)

end Description

end ApiDescription
