import ApiDescription.Yaml.Compose

/-!
# Merge keys

The value under the key `<<` of a mapping is a mapping, or a list of mappings, whose entries are
taken over where the key is not there yet.  The merge key goes: the last entry of the mapping moves
to its place.  Mappings are taken over as they were written, so a merge key inside one of them is
taken over like any other key; merge keys of the values are then dealt with in turn.

Of several faults the one counts that comes last in the document, since values are dealt with from
the last to the first.
-/

namespace ApiDescription.Yaml.Node

/-- The entries behind a key, and those in front of it, with the value between them. -/
def splitAtKey (key : Node) :
    List (Node × Node) → Option (List (Node × Node) × Node × List (Node × Node))
  | [] => none
  | entry :: rest =>
    if entry.1.same key then some ([], entry.2, rest)
    else (splitAtKey key rest).map fun (front, value, back) => (entry :: front, value, back)

/-- The entries without one, whose place the last takes. -/
def closeGap (front back : List (Node × Node)) : List (Node × Node) :=
  match back.getLast? with
  | none => front
  | some last => front ++ last :: back.dropLast

/-- Entries with those of another mapping that they do not have. -/
def takeOver (entries others : List (Node × Node)) : List (Node × Node) :=
  others.foldl (fun done entry => if hasKey done entry.1 then done else done ++ [entry]) entries

/-- Entries with those of the mappings of a list. -/
def takeOverAll (entries : List (Node × Node)) :
    List Node → Except MergeProblem (List (Node × Node))
  | [] => .ok entries
  | .mapping others :: rest => takeOverAll (takeOver entries others) rest
  | .sequence _ :: _ => .error .sequenceItem
  | .tagged _ _ :: _ => .error .tagged
  | _ :: _ => .error .scalarItem

/-- The entries of a mapping with its merge key dealt with. -/
def mergedEntries (entries : List (Node × Node)) : Except MergeProblem (List (Node × Node)) :=
  match splitAtKey (.string "<<") entries with
  | none => .ok entries
  | some (front, value, back) =>
    let others := closeGap front back
    match value with
    | .mapping merged => .ok (takeOver others merged)
    | .sequence merged => takeOverAll others merged
    | .tagged _ _ => .error .tagged
    | _ => .error .scalar

mutual

/-- The depth of a value. -/
def depth : Node → Nat
  | .sequence items => depthOfItems items + 1
  | .mapping entries => depthOfEntries entries + 1
  | .tagged _ value => value.depth + 1
  | _ => 0

/-- The greatest depth of some values. -/
def depthOfItems : List Node → Nat
  | [] => 0
  | item :: rest => max item.depth (depthOfItems rest)

/-- The greatest depth of the values of some entries. -/
def depthOfEntries : List (Node × Node) → Nat
  | [] => 0
  | (_, value) :: rest => max value.depth (depthOfEntries rest)

end

/-- Applies a step to each item, the last first. -/
def mapLastFirst {α : Type} (step : α → Except MergeProblem α) :
    List α → Except MergeProblem (List α)
  | [] => .ok []
  | item :: rest => do
    let rest ← mapLastFirst step rest
    return (← step item) :: rest

/-- The value with its merge keys dealt with down to a depth. -/
def mergeTo : Nat → Node → Except MergeProblem Node
  | 0, node => .ok node
  | depth + 1, node =>
    match node with
    | .mapping entries => do
      let entries ← mergedEntries entries
      let entries ← mapLastFirst (fun (k, v) => (k, ·) <$> mergeTo depth v) entries
      return .mapping entries
    | .sequence items => .sequence <$> mapLastFirst (mergeTo depth) items
    | .tagged tag value => .tagged tag <$> mergeTo depth value
    | _ => .ok node

/-- The value with all its merge keys dealt with; merging makes no value deeper. -/
def merge (node : Node) : Except MergeProblem Node := mergeTo node.depth node

end ApiDescription.Yaml.Node
