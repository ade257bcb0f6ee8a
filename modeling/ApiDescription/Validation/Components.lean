import ApiDescription.Description.Traversal
import ApiDescription.Finding

/-!
# Checking tags, component keys and servers

Tags have names of their own, component keys are made of a few characters, and the address of a
server has neither a query nor a fragment and only variables that are declared.
-/

namespace ApiDescription.Validation

/-- The diagnostics for tags whose names are among given ones or repeated, counted from a
place. -/
def tagsFrom (seen : List String) (place : Nat) : List Tag → List Diagnostic
  | [] => []
  | tag :: rest =>
    (if tag.name ∈ seen then
        [(Finding.tagRepeated tag.name).diagnostic none ((Pointer.root.push "tags").item place)]
      else []) ++
      tagsFrom (tag.name :: seen) (place + 1) rest

/-- The diagnostics for tags. -/
def tags (d : Description) : List Diagnostic := tagsFrom [] 0 d.tags

/-- Whether a character may stand in the key of a component. -/
def isKeyChar (c : Char) : Bool := c.isAlphanum || c = '.' || c = '_' || c = '-'

/-- Whether a text may be the key of a component. -/
def isComponentKey (key : String) : Bool := !key.isEmpty && key.toList.all isKeyChar

/-- The diagnostics for the keys of components. -/
def componentKeys (d : Description) : List Diagnostic :=
  d.components.writtenKeys.flatMap fun (sectionName, keys) =>
    (keys.filter (!isComponentKey ·)).map fun key =>
      (Finding.badComponentKey key sectionName).diagnostic none
        (((Pointer.root.push "components").push sectionName).push key)

/-- The names in braces in a text; `inside` is what has been read of one. -/
def bracedNames (inside : Option (List Char)) : List Char → List String
  | [] => []
  | c :: rest =>
    match inside with
    | none => bracedNames (if c = '\x7b' then some [] else none) rest
    | some name =>
      if c = '\x7d' then
        (if name.isEmpty then [] else [String.ofList name]) ++ bracedNames none rest
      else bracedNames (some (name ++ [c])) rest

/-- The finding about the values of a server variable, and the field it is about. -/
def variableFinding? (name : String) (v : ServerVariable) : Option (String × Finding) :=
  match v.enumeration with
  | none => none
  | some values =>
    if values.isEmpty then some ("enum", .serverVariableWithoutValues name)
    else if values.contains v.defaultValue then none
    else some ("default", .serverDefaultNotListed v.defaultValue name)

/-- The diagnostics for a server. -/
def server (document : Option String) (s : Server) : List Diagnostic :=
  let about (f : Finding) : Diagnostic := f.diagnostic document (s.location.push "url")
  let address := s.url.toList
  (if '?' ∈ address || '#' ∈ address then [about (.serverWithQuery s.url)] else []) ++
  ((bracedNames none address).filter (!s.variableMap.contains ·)).map
    (fun name => about (.serverVariableUndeclared s.url name)) ++
  s.variableMap.filterMap fun (name, v) =>
    (variableFinding? name v).map fun (field, f) =>
      f.diagnostic document (((s.location.push "variables").push name).push field)

/-- The diagnostics for servers. -/
def servers (d : Description) : List Diagnostic :=
  d.servers.flatMap (server none) ++
  d.allPathItems.flatMap (fun item => item.servers.flatMap (server item.document)) ++
  d.allOperations.flatMap fun o => o.servers.flatMap (server o.document)

end ApiDescription.Validation
