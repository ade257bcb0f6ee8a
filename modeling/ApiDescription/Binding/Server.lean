import ApiDescription.Binding.Field
import ApiDescription.Description

/-!
# Reading servers, security requirements and tags

Objects that are always written in place.
-/

namespace ApiDescription

/-- The variable of a server at a node. -/
def Node.serverVariable? (n : Node) : Binding (Option ServerVariable) := do
  match ← n.record? "server variable" with
  | none => return none
  | some r =>
    let enumeration ← if r.has "enum" then some <$> r.texts "enum" else pure none
    let defaultValue ← r.requiredText? "server variable" "default"
    let description ← r.text? "description"
    return some ⟨defaultValue.getD "", enumeration, description⟩

/-- The server at a node. -/
def Node.server? (n : Node) : Binding (Option Server) := do
  match ← n.record? "server" with
  | none => return none
  | some r =>
    match ← r.requiredText? "server" "url" with
    | none => return none
    | some url =>
      let variableMap ← r.readAll "variables" Node.serverVariable?
      let description ← r.text? "description"
      return some ⟨url, description, variableMap, r.pointer⟩

/-- The servers in the list of an object. -/
def Record.servers (r : Record) : Binding (List Server) :=
  match r.field? "servers" with
  | none => return []
  | some n => do Binding.collect Node.server? (← n.items "servers")

/-- The security requirement at a node. -/
def Node.securityRequirement? (n : Node) : Binding (Option SecurityRequirement) := do
  match ← n.record? "security requirement" with
  | none => return none
  | some r =>
    let schemes ← Record.readFields r.fields fun key _ => return some (← r.texts key)
    return some ⟨schemes, r.pointer⟩

/-- The security requirements at a node. -/
def Node.security (n : Node) : Binding (List SecurityRequirement) := do
  Binding.collect Node.securityRequirement? (← n.items "security")

/-- The documentation elsewhere that a field of an object tells of. -/
def Record.externalDocs? (r : Record) : Binding (Option ExternalDocs) :=
  match r.field? "externalDocs" with
  | none => return none
  | some n => do
    match ← n.record? "externalDocs" with
    | none => return none
    | some docs =>
      match ← docs.requiredText? "externalDocs" "url" with
      | none => return none
      | some url => return some ⟨url, ← docs.text? "description"⟩

/-- The tag at a node. -/
def Node.tag? (n : Node) : Binding (Option Tag) := do
  match ← n.record? "tag" with
  | none => return none
  | some r =>
    match ← r.requiredText? "tag" "name" with
    | none => return none
    | some name =>
      let externalDocs ← r.externalDocs?
      let description ← r.text? "description"
      return some ⟨name, description, externalDocs⟩

/-- The tags in the list of an object. -/
def Record.tags (r : Record) : Binding (List Tag) :=
  match r.field? "tags" with
  | none => return []
  | some n => do Binding.collect Node.tag? (← n.items "tags")

end ApiDescription
