import ApiDescription.Description.Traversal
import ApiDescription.Finding

/-!
# Checking paths

A path is a template, no two paths have one shape, and the variables of a path are the path
parameters of its operations.  No list of parameters has one twice.
-/

namespace ApiDescription.Validation

/-- The diagnostics for variables of a path that are no parameters of an operation. -/
def undeclaredVariables (path : String) (item : PathItem) (names : List String)
    (o : Operation) : List Diagnostic :=
  let isDeclared (name : String) : Bool :=
    (item.effectiveParameters o).any fun p => p.place = .path && p.name = name
  (names.filter (!isDeclared ·)).map fun name =>
    (Finding.variableUndeclared o.method path name).diagnostic o.document o.location

/-- The diagnostics for a parameter that is sent in the path. -/
def pathParameter (path : String) (names : List String) (document : Option String)
    (p : Parameter) : List Diagnostic :=
  if p.place = .path then
    (if names.contains p.name then []
      else [(Finding.parameterUnused p.name path).diagnostic document p.location]) ++
    (if p.required then []
      else [(Finding.parameterOptional p.name).diagnostic document p.location])
  else []

/-- The diagnostics for the parameters of a path with given variables. -/
def pathParameters (path : String) (item : PathItem) (names : List String) :
    List Diagnostic :=
  item.operationList.flatMap (undeclaredVariables path item names) ++
  item.parameters.flatMap (pathParameter path names item.document) ++
  item.operationList.flatMap fun o =>
    o.parameters.flatMap (pathParameter path names o.document)

/-- The node of a path. -/
def pathPointer (path : String) : Pointer := (Pointer.root.push "paths").push path

/-- The diagnostics for paths, behind paths of given shapes. -/
def pathKeys (shapes : Entries String) : Entries PathItem → List Diagnostic
  | [] => []
  | (path, item) :: rest =>
    match PathTemplate.variableNames path with
    | .error fault =>
      (Finding.badTemplate path fault).diagnostic none (pathPointer path) :: pathKeys shapes rest
    | .ok names =>
      let shape := PathTemplate.shape path
      let conflict : List Diagnostic :=
        match shapes.get? shape with
        | some other => [(Finding.pathsConflict path other).diagnostic none (pathPointer path)]
        | none => []
      conflict ++ pathParameters path item names ++ pathKeys (shapes ++ [(shape, path)]) rest

/-- The diagnostics for parameters that are declared twice, behind given ones. -/
def repeatedParameters (document : Option String) (before : List Parameter) :
    List Parameter → List Diagnostic
  | [] => []
  | p :: rest =>
    (if before.any (·.isSame p) then
        [(Finding.parameterRepeated p.place p.name).diagnostic document p.location]
      else []) ++
      repeatedParameters document (before ++ [p]) rest

/-- The diagnostics for the lists of parameters of a path item. -/
def parameterLists (item : PathItem) : List Diagnostic :=
  repeatedParameters item.document [] item.parameters ++
    item.operationList.flatMap fun o => repeatedParameters o.document [] o.parameters

/-- The diagnostics for paths and parameters. -/
def paths (d : Description) : List Diagnostic :=
  pathKeys [] d.paths ++ d.allPathItems.flatMap parameterLists

end ApiDescription.Validation
