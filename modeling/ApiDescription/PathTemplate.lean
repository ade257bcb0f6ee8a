/-!
# Path templates

The key of a path item is a template: it starts with a slash, and what stands in braces is a
variable.  Variables have names, each its own, and braces are not nested.

Two templates have one shape when they differ in the names of their variables only.
-/

namespace ApiDescription

/-- What keeps a text from being a template. -/
inductive TemplateFault where
  /-- It does not start with a slash. -/
  | noSlash
  /-- A variable starts in another. -/
  | nested
  /-- A variable ends that has not started. -/
  | unmatched
  /-- A variable has no name. -/
  | unnamed
  /-- Two variables have one name. -/
  | repeated (name : String)
  /-- A variable does not end. -/
  | unclosed
deriving DecidableEq, Repr

/-- What is said of a path with a fault. -/
def TemplateFault.message : TemplateFault → String
  | .noSlash => "must start with '/'"
  | .nested => "contains a nested '\x7b'"
  | .unmatched => "contains an unmatched '\x7d'"
  | .unnamed => "contains an empty template variable"
  | .repeated name => "uses template variable '" ++ name ++ "' more than once"
  | .unclosed => "contains an unclosed '\x7b'"

namespace PathTemplate

/-- The variables of a text, behind those found before it; `inside` is what has been read of one
that has started. -/
def scan (found : List String) (inside : Option (List Char)) :
    List Char → Except TemplateFault (List String)
  | [] =>
    match inside with
    | none => .ok found
    | some _ => .error .unclosed
  | c :: rest =>
    if c = '\x7b' then
      match inside with
      | none => scan found (some []) rest
      | some _ => .error .nested
    else if c = '\x7d' then
      match inside with
      | none => .error .unmatched
      | some name =>
        if name.isEmpty then .error .unnamed
        else if String.ofList name ∈ found then .error (.repeated (String.ofList name))
        else scan (found ++ [String.ofList name]) none rest
    else scan found (inside.map (· ++ [c])) rest

/-- The variables of a path, in order. -/
def variableNames (path : String) : Except TemplateFault (List String) :=
  if path.toList.head? = some '/' then scan [] none path.toList else .error .noSlash

/-- A text without what stands in braces.  A brace that is never closed has nothing in it. -/
def erase (inside : Bool) : List Char → List Char
  | [] => []
  | c :: rest =>
    if inside then if c = '\x7d' then c :: erase false rest else erase true rest
    else c :: erase (c = '\x7b' && rest.contains '\x7d') rest

/-- The shape of a path. -/
def shape (path : String) : String := String.ofList (erase false path.toList)

end PathTemplate

end ApiDescription
