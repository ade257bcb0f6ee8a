import ApiDescription.Binding.Parameter
import ApiDescription.Binding.Server

/-!
# Reading path items, operations and callbacks

A path item holds operations, an operation holds callbacks, and a callback holds path items.  Both
may be written elsewhere, so a path item could come to hold itself; the nodes that are being read
are given along, and one that is met again among them is left out.

No node is read twice at once, so the nodes of the documents and the references in them bound how
deep this goes; `Node.pathItemWithin` and `Node.callbackWithin` have room for that many.
-/

namespace ApiDescription

/-- The nodes of path items and callbacks that are being read. -/
abbrev Enclosing := List Site

/-- Reads what stands at a node that may be written elsewhere, unless it is being read already. -/
def Node.enter {α : Type} (n : Node) (enclosing : Enclosing)
    (read : Enclosing → Resolved → Binding (Option α)) : Binding (Option α) := do
  match ← Binding.orTell n.resolved with
  | none => return none
  | some target =>
    let site := target.node.site
    if site ∈ enclosing then
      n.tell (.holdsItself (target.reference.getD target.node.pointer.text))
      return none
    read (site :: enclosing) target

/-- A way to read the callback at a node. -/
abbrev CallbackReader := Node → Binding (Option Callback)

/-- A way to read the path item at a node under a key. -/
abbrev PathItemReader := String → Node → Binding (Option PathItem)

namespace Record

/-- The security requirements of an operation, if it has its own. -/
def security? (r : Record) : Binding (Option (List SecurityRequirement)) :=
  match r.field? "security" with
  | none => return none
  | some n => some <$> n.security

/-- The callbacks of an operation, by name. -/
def callbacks (r : Record) (read : CallbackReader) : Binding (Entries Callback) :=
  match r.field? "callbacks" with
  | none => return []
  | some n => do
    match ← n.record? "callbacks" with
    | none => return []
    | some entries => readFields entries.fields fun _ callback => read callback

end Record

namespace SchemaReader

variable (read : SchemaReader)

/-- The responses of an operation, if anything is said about them. -/
def responses? (r : Record) : Binding (Option (Entries Response)) :=
  match r.field? "responses" with
  | some n => some <$> read.responses n
  | none => do
    if r.scope.version.requiresResponses then r.tell (.missing "operation" "responses")
    return none

/-- The request body of an operation. -/
def bodyOf? (r : Record) : Binding (Option RequestBody) :=
  match r.field? "requestBody" with
  | none => return none
  | some n => read.requestBody? n

/-- The operation at a node, for a method and the key of its path item. -/
def operation? (n : Node) (callback : CallbackReader) (method : Method) (path : String) :
    Binding (Option Operation) := do
  match ← n.record? "operation" with
  | none => return none
  | some r =>
    let responses ← read.responses? r
    let requestBody ← read.bodyOf? r
    let security ← r.security?
    let operationId ← r.text? "operationId"
    let summary ← r.text? "summary"
    let description ← r.text? "description"
    let tags ← r.texts "tags"
    let parameters ← read.parameters r
    let callbacks ← r.callbacks callback
    let deprecated ← r.flag "deprecated"
    let servers ← r.servers
    return some {
      method, path, operationId, summary, description, tags, parameters, requestBody, responses
      callbacks, deprecated, security, servers
      extensions := r.extensions
      document := r.scope.label
      location := r.pointer }

/-- The operation of a method, if a path item has one. -/
def operationOf? (r : Record) (callback : CallbackReader) (path : String) (method : Method) :
    Binding (Option (Method × Operation)) :=
  match r.field? method.name with
  | none => return none
  | some n => return (← read.operation? n callback method path).map (method, ·)

/-- The path item behind a chain of references, for the node where the chain starts. -/
def pathItem? (target : Resolved) (callback : CallbackReader) (path : String)
    (location : Pointer) : Binding (Option PathItem) := do
  match ← target.node.record? "path item" with
  | none => return none
  | some r =>
    let summary ← r.text? "summary"
    let description ← r.text? "description"
    let servers ← r.servers
    let parameters ← read.parameters r
    let operations ← Binding.collect (read.operationOf? r callback path) Method.all
    return some {
      summary, description, operations, parameters, servers
      reference := target.reference
      document := r.scope.label
      location }

end SchemaReader

/-- The responses of an operation, if anything is said about them. -/
abbrev Record.responses? (r : Record) : Binding (Option (Entries Response)) :=
  SchemaReader.responses? Node.schema r

/-- The request body of an operation. -/
abbrev Record.requestBody? (r : Record) : Binding (Option RequestBody) :=
  SchemaReader.bodyOf? Node.schema r

/-- The operation at a node, for a method and the key of its path item. -/
abbrev Node.operation? (n : Node) (read : CallbackReader) (method : Method) (path : String) :
    Binding (Option Operation) :=
  SchemaReader.operation? Node.schema n read method path

/-- The operation of a method, if a path item has one. -/
abbrev Record.operationOf? (r : Record) (read : CallbackReader) (path : String)
    (method : Method) : Binding (Option (Method × Operation)) :=
  SchemaReader.operationOf? Node.schema r read path method

/-- The path item behind a chain of references, for the node where the chain starts. -/
abbrev Resolved.pathItem? (target : Resolved) (read : CallbackReader) (path : String)
    (location : Pointer) : Binding (Option PathItem) :=
  SchemaReader.pathItem? Node.schema target read path location

/-- The callback behind a chain of references. -/
def Resolved.callback? (target : Resolved) (read : PathItemReader) :
    Binding (Option Callback) := do
  match ← target.node.record? "callback" with
  | none => return none
  | some r => return some ⟨← Record.readFields r.plainFields read, target.reference⟩

mutual

/-- The path item at a node under a key, inside of others, with room for levels below it. -/
def Node.pathItemWithin :
    Nat → Enclosing → String → Node → Binding (Option PathItem)
  | 0, _, _, _ => return none
  | room + 1, enclosing, path, n =>
    n.enter enclosing fun enclosing target =>
      target.pathItem? (fun callback => callback.callbackWithin room enclosing) path n.pointer

/-- The callback at a node, inside of others, with room for levels below it. -/
def Node.callbackWithin : Nat → Enclosing → Node → Binding (Option Callback)
  | 0, _, _ => return none
  | room + 1, enclosing, n =>
    n.enter enclosing fun enclosing target =>
      target.callback? fun path item => item.pathItemWithin room enclosing path

end

/-- How many path items and callbacks can be read inside of each other.  A node is reached from
the root or from one of the references, by going down from node to node. -/
def Setting.room (s : Setting) : Nat := (s.registry.nodeCount + 1) * (s.registry.nodeCount + 1)

/-- The path item at a node under a key. -/
def Node.pathItem? (path : String) (n : Node) : Binding (Option PathItem) :=
  n.pathItemWithin n.scope.setting.room [] path

/-- The callback at a node. -/
def Node.callback? (n : Node) : Binding (Option Callback) :=
  n.callbackWithin n.scope.setting.room []

end ApiDescription
