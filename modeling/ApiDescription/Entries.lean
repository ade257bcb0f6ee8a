/-!
# Named entries in order

The members of a JSON object, the paths of a description and the schemes of a requirement are all
the same thing: values under names, in the order in which they were written.  A name that is put
again keeps its first place and takes the last value, so names never repeat.
-/

namespace ApiDescription

/-- Values under names, in the order in which they were written. -/
abbrev Entries (α : Type) := List (String × α)

namespace Entries

variable {α β : Type}

/-- The value under a name. -/
def get? : Entries α → String → Option α
  | [], _ => none
  | entry :: rest, name => if name = entry.1 then some entry.2 else get? rest name

/-- Whether there is a value under a name. -/
def contains (entries : Entries α) (name : String) : Bool :=
  (get? entries name).isSome

/-- The names, in order. -/
def names (entries : Entries α) : List String :=
  entries.map (·.1)

/-- The values, in order. -/
def values (entries : Entries α) : List α :=
  entries.map (·.2)

/-- Puts a value under a name: at the place of the name if it is there, at the end if not. -/
def put : Entries α → String → α → Entries α
  | [], name, value => [(name, value)]
  | entry :: rest, name, value =>
    if entry.1 = name then (name, value) :: rest else entry :: put rest name value

/-- The entries of a list put one after the other. -/
def ofList (entries : List (String × α)) : Entries α :=
  entries.foldl (fun done entry => put done entry.1 entry.2) []

@[simp] theorem get?_nil (name : String) : get? ([] : Entries α) name = none := rfl

theorem get?_cons (entry : String × α) (rest : Entries α) (name : String) :
    get? (entry :: rest) name = if name = entry.1 then some entry.2 else get? rest name := rfl

theorem get?_put (entries : Entries α) (name other : String) (value : α) :
    get? (put entries name value) other =
      if other = name then some value else get? entries other := by
  induction entries with
  | nil => simp [put, get?_cons]
  | cons entry rest ih =>
    rw [put]
    split
    · next h => subst h; simp only [get?_cons]; split <;> rfl
    · next h =>
      simp only [get?_cons, ih]
      by_cases h₁ : other = entry.1
      · simp [h₁, h]
      · simp [h₁]

/-- Putting adds at most the one name, and at the end. -/
theorem names_put (entries : Entries α) (name : String) (value : α) :
    names (put entries name value) =
      if name ∈ names entries then names entries else names entries ++ [name] := by
  induction entries with
  | nil => simp [put, names]
  | cons entry rest ih =>
    rw [put]
    split
    · next h => subst h; simp [names]
    · next h =>
      simp only [names, List.map_cons, List.mem_cons] at ih ⊢
      rw [ih]
      by_cases hm : name ∈ rest.map (·.1)
      · simp [hm]
      · simp [hm, Ne.symm h]

end Entries

end ApiDescription
