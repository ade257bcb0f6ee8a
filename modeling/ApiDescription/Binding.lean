import ApiDescription.Finding
import ApiDescription.Options
import ApiDescription.Registry

/-!
# Binding

Binding reads the trees of registered documents into a description.  It never fails: what cannot
be used is left out, and a finding says so.

While it runs, binding keeps the schemas read so far, which node each of them was read from, and
the report.  A schema whose parts are still being read is open; a reference to it closes a cycle.
-/

namespace ApiDescription

/-- What does not change while a description is bound. -/
structure Setting where
  /-- The documents. -/
  registry : Registry
  /-- The place of the entry document. -/
  entry : Nat
  /-- The options. -/
  options : Options
  /-- The version that the entry document declares. -/
  version : Version

/-- The document that a node is in. -/
structure Scope where
  /-- What holds for all documents. -/
  setting : Setting
  /-- The place of the document in the registry. -/
  place : Nat
  /-- The document. -/
  source : RegisteredDocument

namespace Scope

/-- The name of a document in diagnostics; the entry document has none. -/
def label (s : Scope) : Option String :=
  if s.place = s.setting.entry then none else some (shownKey s.source.key)

/-- The version that is followed. -/
def version (s : Scope) : Version := s.setting.version

/-- Whether schemas follow JSON Schema. -/
def followsJsonSchema (s : Scope) : Bool := s.version.followsJsonSchema

end Scope

/-- The place of a node: its document, and the pointer to it. -/
structure Site where
  /-- The place of the document in the registry. -/
  document : Nat
  /-- The pointer. -/
  pointer : Pointer
deriving DecidableEq

/-- A node of a registered document. -/
structure Node where
  /-- Its document. -/
  scope : Scope
  /-- The pointer to it. -/
  pointer : Pointer
  /-- Its value. -/
  value : Json

/-- The place of a node. -/
def Node.site (n : Node) : Site := ⟨n.scope.place, n.pointer⟩

/-- A schema that was met at a node. -/
inductive Slot where
  /-- Its parts are being read. -/
  | opened (id : SchemaId)
  /-- It has been read. -/
  | bound (id : SchemaId)
deriving DecidableEq, Repr

/-- The number of the schema. -/
def Slot.id : Slot → SchemaId
  | .opened id => id
  | .bound id => id

/-- What binding has come to. -/
structure Workspace where
  /-- The schemas. -/
  graph : SchemaGraph
  /-- The schemas met at nodes; the first entry for a node counts. -/
  slots : List (Site × Slot)
  /-- The report. -/
  report : Report

/-- A workspace in which nothing has been done. -/
def Workspace.fresh : Workspace := ⟨.empty, [], .empty⟩

/-- The schema that was met at a node. -/
def Workspace.slot? (w : Workspace) (site : Site) : Option Slot :=
  (w.slots.find? (·.1 = site)).map (·.2)

/-- A step of binding. -/
abbrev Binding := StateM Workspace

namespace Binding

/-- Adds a finding at a pointer of a document. -/
def tell (scope : Scope) (pointer : Pointer) (f : Finding) : Binding Unit :=
  modify fun w => { w with report := w.report.push (f.diagnostic scope.label pointer) }

/-- Adds a schema, and gives its number. -/
def allocate (s : Schema) : Binding SchemaId := fun w =>
  (w.graph.size, { w with graph := w.graph.push s })

/-- Changes the schema of a number. -/
def change (id : SchemaId) (by_ : Schema → Schema) : Binding Unit :=
  modify fun w => { w with graph := w.graph.modify id by_ }

/-- The schema that was met at a node. -/
def slot? (site : Site) : Binding (Option Slot) := fun w => (w.slot? site, w)

/-- Says which schema is met at a node. -/
def setSlot (site : Site) (slot : Slot) : Binding Unit :=
  modify fun w => { w with slots := (site, slot) :: w.slots }

/-- Goes through a list, and keeps the results that there are. -/
def collect {α β : Type} (step : α → Binding (Option β)) : List α → Binding (List β)
  | [] => pure []
  | a :: rest => do
    let first ← step a
    let others ← collect step rest
    return first.toList ++ others

/-- Goes through a list. -/
def each {α β : Type} (step : α → Binding β) : List α → Binding (List β)
  | [] => pure []
  | a :: rest => do
    let first ← step a
    let others ← each step rest
    return first :: others

end Binding

end ApiDescription
