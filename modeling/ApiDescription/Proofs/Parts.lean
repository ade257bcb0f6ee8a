import ApiDescription.Proofs.Binding.TracedDescription
import ApiDescription.Proofs.Whole

/-!
# The parts of a description

Parameters, responses, request bodies, headers, examples and links may be written among the
components and referred to.  `Description.Each` says that every part of these kinds in a description
satisfies a predicate together with the node it was read at, however deep it stands.
-/

namespace ApiDescription

/-! ## Kinds of parts -/

/-- The kinds of parts that may be written elsewhere and hold no path items, by the names of their
sections. -/
inductive PartKind where
  | parameters | responses | requestBodies | headers | examples | links
deriving DecidableEq, Repr

namespace PartKind

/-- What the parts of a kind are. -/
abbrev Part : PartKind → Type
  | parameters => Parameter
  | responses => Response
  | requestBodies => RequestBody
  | headers => Header
  | examples => Example
  | links => Link

/-- The part at a node. -/
def read : (κ : PartKind) → Node → Binding (Option κ.Part)
  | parameters => Node.parameter?
  | responses => Node.response?
  | requestBodies => Node.requestBody?
  | headers => Node.header?
  | examples => Node.example?
  | links => Node.link?

/-- The member of the components under which the parts of a kind are written. -/
def sectionName : PartKind → String
  | parameters => "parameters"
  | responses => "responses"
  | requestBodies => "requestBodies"
  | headers => "headers"
  | examples => "examples"
  | links => "links"

/-- The parts of a kind among the components. -/
def entries : (κ : PartKind) → Components → Entries κ.Part
  | parameters => Components.parameters
  | responses => Components.responses
  | requestBodies => Components.requestBodies
  | headers => Components.headers
  | examples => Components.examples
  | links => Components.links

/-- The part, as it is where it was reached through a `$ref`; parameters also remember the node of
the `$ref`. -/
def referring : (κ : PartKind) → κ.Part → Option String → Pointer → κ.Part
  | parameters, p, reference, location => { p with reference, location }
  | responses, x, reference, _ => { x with reference }
  | requestBodies, b, reference, _ => { b with reference }
  | headers, h, reference, _ => { h with reference }
  | examples, e, reference, _ => { e with reference }
  | links, l, reference, _ => { l with reference }

end PartKind

/-! ## Every part -/

/-- Some of what stands under keys has been read, each to something that is related to it, and that
stands under the same key.  Nothing has been added, and the order is the same. -/
inductive Picks {κ α : Type} (R : Node → α → Prop) : List (κ × Node) → List (κ × α) → Prop
  | nil : Picks R [] []
  | skip {field : κ × Node} {fields : List (κ × Node)} {entries : List (κ × α)}
      (hrest : Picks R fields entries) : Picks R (field :: fields) entries
  | cons {key : κ} {n : Node} {a : α} {fields : List (κ × Node)} {entries : List (κ × α)}
      (h : R n a) (hrest : Picks R fields entries) :
      Picks R ((key, n) :: fields) ((key, a) :: entries)

theorem Picks.none {κ α : Type} {R : Node → α → Prop} (fields : List (κ × Node)) :
    Picks R fields [] := by
  induction fields with
  | nil => exact .nil
  | cons field rest ih => exact .skip ih

/-- Where there is one field, whatever has been picked was read there. -/
theorem Picks.of_singleton {κ α : Type} {R : Node → α → Prop} {key : κ} {n : Node}
    {entries : List (κ × α)} (h : Picks R [(key, n)] entries) {entry : κ × α}
    (hmem : entry ∈ entries) : entry.1 = key ∧ R n entry.2 := by
  cases h with
  | skip hrest => cases hrest; cases hmem
  | cons hfirst hrest =>
    cases hrest
    obtain rfl := List.mem_singleton.mp hmem
    exact ⟨rfl, hfirst⟩

namespace Record

/-- The fields that are no extensions of the object in a field. -/
def plainFieldsOf (r : Record) (key : String) : List (String × Node) :=
  ((r.field? key).bind Node.object?).elim [] plainFields

/-- The nodes of the parameters in the list of an object, by place. -/
def parameterNodes (r : Record) : List (Pointer × Node) :=
  (r.itemsOf "parameters").map fun n => (n.pointer, n)

/-- The fields of a section of the components. -/
def componentFields (r : Record) (key : String) : List (String × Node) :=
  r.componentsRecord?.elim [] fun c => c.fieldsOf key

end Record

section Each

variable (Q : (κ : PartKind) → Node → κ.Part → Prop)

/-- Every example of what is sent in one format satisfies a predicate. -/
def MediaType.Each (n : Node) (m : MediaType) : Prop :=
  ∃ r, n.object? = some r ∧ Picks (Q .examples) (r.fieldsOf "examples") m.examples

/-- Every part of the content of an object satisfies a predicate. -/
def Record.EachContent (r : Record) (content : Entries MediaType) : Prop :=
  Picks (MediaType.Each Q) (r.fieldsOf "content") content

/-- A parameter and every part of it satisfies a predicate. -/
def Parameter.Each (n : Node) (p : Parameter) : Prop :=
  Q .parameters n p ∧ ∃ r, n.behind? = some r ∧ r.EachContent Q p.content

/-- A request body and every part of it satisfies a predicate. -/
def RequestBody.Each (n : Node) (b : RequestBody) : Prop :=
  Q .requestBodies n b ∧ ∃ r, n.behind? = some r ∧ r.EachContent Q b.content

/-- A header and every part of it satisfies a predicate. -/
def Header.Each (n : Node) (h : Header) : Prop :=
  Q .headers n h ∧ ∃ r, n.behind? = some r ∧ r.EachContent Q h.content

/-- A response and every part of it satisfies a predicate. -/
def Response.Each (n : Node) (x : Response) : Prop :=
  Q .responses n x ∧ ∃ r, n.behind? = some r ∧
    Picks (Header.Each Q) (r.fieldsOf "headers") x.headers ∧
    Picks (Q .links) (r.fieldsOf "links") x.links ∧ r.EachContent Q x.content

/-- A part and every part of it satisfies a predicate. -/
def PartKind.Each : (κ : PartKind) → Node → κ.Part → Prop
  | parameters => Parameter.Each Q
  | responses => Response.Each Q
  | requestBodies => RequestBody.Each Q
  | headers => Header.Each Q
  | examples => Q .examples
  | links => Q .links

mutual

/-- Every part of a path item that was read at a node satisfies a predicate. -/
inductive PathItem.Each : Node → PathItem → Prop
  | intro {n : Node} {r : Record} {item : PathItem} (hr : n.behind? = some r)
      (hparameters : Picks (Parameter.Each Q) r.parameterNodes
        (item.parameters.map fun p => (p.location, p)))
      (hoperations : Picks Operation.Each r.operationNodes item.operations) : PathItem.Each n item

/-- Every part of an operation that was read at a node satisfies a predicate. -/
inductive Operation.Each : Node → Operation → Prop
  | intro {n : Node} {r : Record} {o : Operation} (hr : n.object? = some r)
      (hparameters : Picks (Parameter.Each Q) r.parameterNodes
        (o.parameters.map fun p => (p.location, p)))
      (hbody : ∀ b ∈ o.requestBody, ∃ m, r.field? "requestBody" = some m ∧ RequestBody.Each Q m b)
      (hresponses : Picks (Response.Each Q) (r.plainFieldsOf "responses") (o.responses.getD []))
      (hcallbacks : Picks Callback.Each (r.fieldsOf "callbacks") o.callbacks) : Operation.Each n o

/-- Every part of a callback that was read at a node satisfies a predicate. -/
inductive Callback.Each : Node → Callback → Prop
  | intro {n : Node} {r : Record} {c : Callback} (hr : n.behind? = some r)
      (hexpressions : Picks PathItem.Each r.plainFields c.expressions) : Callback.Each n c

end

/-- Every part of the components satisfies a predicate; the fields of each section are given. -/
structure Components.Each (fields : String → List (String × Node)) (c : Components) : Prop where
  /-- Those that are components themselves. -/
  parts : ∀ κ : PartKind, Picks (κ.Each Q) (fields κ.sectionName) (κ.entries c)
  /-- Those in callbacks. -/
  callbacks : Picks (Callback.Each Q) (fields "callbacks") c.callbacks
  /-- Those in path items. -/
  pathItems : Picks (PathItem.Each Q) (fields "pathItems") c.pathItems

/-- Every part of a description that was read at the root of a document satisfies a predicate. -/
structure Description.Each (root : Record) (d : Description) : Prop where
  /-- Those under the paths. -/
  paths : Picks (PathItem.Each Q) (root.plainFieldsOf "paths") d.paths
  /-- Those under the webhooks. -/
  webhooks : Picks (PathItem.Each Q) (root.plainFieldsOf "webhooks") d.webhooks
  /-- Those among the components. -/
  components : d.components.Each Q root.componentFields

end Each

end ApiDescription
