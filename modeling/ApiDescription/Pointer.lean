import ApiDescription.Json
import ApiDescription.Text.Split
import ApiDescription.Text.Percent

/-!
# Pointers into a JSON value

A pointer is the list of its reference tokens, each in its escaped form: `~1` stands for a slash
and `~0` for a tilde.  A tilde that neither digit follows stands for itself, so one member may be
addressed by several tokens; `push` always writes the one with all escapes.

`segments_push` says that the names pushed are the names read, and `walk?_append` that looking up
a pointer is looking up one name after the other.
-/

namespace ApiDescription

namespace Pointer

/-- A name as a reference token. -/
def escape : List Char → List Char
  | [] => []
  | '~' :: rest => '~' :: '0' :: escape rest
  | '/' :: rest => '~' :: '1' :: escape rest
  | c :: rest => c :: escape rest

/-- The name that a reference token writes. -/
def unescape : List Char → List Char
  | '~' :: '1' :: rest => '/' :: unescape rest
  | '~' :: '0' :: rest => '~' :: unescape rest
  | c :: rest => c :: unescape rest
  | [] => []

theorem slash_not_mem_escape (name : List Char) : '/' ∉ escape name := by
  fun_induction escape name with
  | case1 => simp
  | case2 rest ih => simp [ih]
  | case3 rest ih => simp [ih]
  | case4 c rest h₁ h₂ ih => simpa [ih] using fun h => h₂ h.symm

theorem unescape_escape (name : List Char) : unescape (escape name) = name := by
  fun_induction escape name with
  | case1 => simp [unescape]
  | case2 rest ih => simp [unescape, ih]
  | case3 rest ih => simp [unescape, ih]
  | case4 c rest h₁ h₂ ih =>
    rw [unescape, ih]
    · intro r hc
      exact absurd hc h₁
    · intro r hc
      exact absurd hc h₁

end Pointer

/-- A pointer to a node of a JSON value: the reference tokens on the way from the root. -/
structure Pointer where
  /-- The tokens, as they are written between slashes. -/
  tokens : List String
  /-- No token holds a slash. -/
  slashFree : ∀ token ∈ tokens, '/' ∉ token.toList
deriving DecidableEq

namespace Pointer

/-- The pointer to the whole value. -/
def root : Pointer := ⟨[], by simp⟩

instance : Inhabited Pointer := ⟨root⟩

/-- The name that a token writes. -/
def name (token : String) : String :=
  String.ofList (unescape token.toList)

/-- The token of a name. -/
def token (name : String) : String :=
  String.ofList (escape name.toList)

/-- The pointer one step further, to a member or an item. -/
def push (p : Pointer) (key : String) : Pointer where
  tokens := p.tokens ++ [token key]
  slashFree := by
    intro t ht
    rcases List.mem_append.mp ht with h | h
    · exact p.slashFree t h
    · simp only [List.mem_singleton] at h
      subst h
      simpa [token] using slash_not_mem_escape key.toList

/-- The pointer to an item of an array. -/
def item (p : Pointer) (index : Nat) : Pointer := p.push (toString index)

/-- The names on the way from the root. -/
def segments (p : Pointer) : List String := p.tokens.map name

/-- The pointer to the value that holds this node. -/
def parent? (p : Pointer) : Option Pointer :=
  if p.tokens = [] then none
  else some ⟨p.tokens.dropLast, fun t ht => p.slashFree t (List.dropLast_subset p.tokens ht)⟩

/-- The last name. -/
def last? (p : Pointer) : Option String := p.segments.getLast?

/-- Whether the pointer is to the whole value. -/
def isRoot (p : Pointer) : Bool := p.tokens.isEmpty

/-- The text of a pointer. -/
def text (p : Pointer) : String :=
  p.tokens.foldl (fun done token => done ++ "/" ++ token) ""

/-- The text of a pointer as a fragment. -/
def display (p : Pointer) : String := "#" ++ p.text

/-- The pointer whose tokens stand between the slashes of a text. -/
def ofPath (path : List Char) : Pointer where
  tokens := (Text.split '/' path).map String.ofList
  slashFree := by
    intro t ht
    obtain ⟨piece, hp, rfl⟩ := List.mem_map.mp ht
    simpa using Text.not_mem_of_mem_split hp

/-- The pointer that a fragment writes, with its `#` or without, once its percent-encoding is
undone; nothing if the fragment is neither empty nor starts with a slash. -/
def ofFragment? (fragment : String) : Option Pointer :=
  let body :=
    match fragment.toList with
    | '#' :: rest => rest
    | whole => whole
  match body with
  | [] => some root
  | '/' :: path => some (ofPath (Percent.decode path))
  | _ => none

/-- The name that a token of a fragment writes, once its percent-encoding is undone. -/
def decodeSegment (segment : String) : String :=
  String.ofList (unescape (Percent.decode segment.toList))

@[simp] theorem segments_root : root.segments = [] := rfl

theorem name_token (key : String) : name (token key) = key := by
  simp [name, token, unescape_escape]

@[simp] theorem segments_push (p : Pointer) (key : String) :
    (p.push key).segments = p.segments ++ [key] := by
  simp [segments, push, name_token]

end Pointer

/-! ## Looking a pointer up -/

namespace Json

/-- The index that a name writes: decimal digits, without a zero in front of others. -/
def index? (name : String) : Option Nat :=
  match name.toList with
  | [] => none
  | '0' :: _ :: _ => none
  | digits =>
    if digits.all Char.isDigit then some (digits.foldl (fun n d => n * 10 + (d.toNat - '0'.toNat)) 0)
    else none

/-- The member or item under a name. -/
def step? : Json → String → Option Json
  | .object members, name => Entries.get? members name
  | .array items, name => (index? name).bind (items[·]?)
  | _, _ => none

/-- The node at the end of a list of names. -/
def walk? : Json → List String → Option Json
  | value, [] => some value
  | value, name :: rest => (value.step? name).bind (walk? · rest)

/-- The node that a pointer addresses. -/
def at? (root : Json) (p : Pointer) : Option Json := root.walk? p.segments

@[simp] theorem walk?_nil (value : Json) : value.walk? [] = some value := by
  cases value <;> rfl

theorem walk?_cons (value : Json) (name : String) (rest : List String) :
    value.walk? (name :: rest) = (value.step? name).bind (walk? · rest) := by
  cases value <;> rfl

theorem walk?_append (value : Json) (front back : List String) :
    value.walk? (front ++ back) = (value.walk? front).bind (walk? · back) := by
  induction front generalizing value with
  | nil => simp
  | cons name rest ih =>
    simp only [List.cons_append, walk?_cons]
    cases value.step? name with
    | none => rfl
    | some next => simp [ih]

/-- A pointer one step further addresses the member or item of the node. -/
theorem at?_push (root : Json) (p : Pointer) (key : String) :
    root.at? (p.push key) = (root.at? p).bind (step? · key) := by
  simp only [at?, Pointer.segments_push, walk?_append, walk?_cons]
  congr 1
  funext v
  cases v.step? key <;> simp

end Json

end ApiDescription
