import ApiDescription.Proofs.Loading

/-!
# What makes a YAML value no JSON

Turning a YAML value into JSON stops at the first thing that JSON has no room for.  There are two such
things, a key that is a collection and a number that is not finite, and no others.  To say which one is
the first, `Node.occurrences` lists all values in a value in document order, with the keys of a mapping
in front of the values under them.  `Node.toJsonAt_eq` says that the conversion is total but for the
first offence in that list, and `Node.toJson_refuses` what follows from it.

A number that is itself a key is not asked to be finite: keys become texts.
-/

namespace ApiDescription.Yaml

/-! ## Values in document order -/

/-- A value in a YAML document. -/
structure Occurrence where
  /-- The value, without tags around it. -/
  node : Node
  /-- Whether it is the key of an entry. -/
  isKey : Bool
  /-- Where the value is in the JSON.  A key is at the place of its mapping; what is in a key, or under
  one that has no text, is counted on from there. -/
  place : Pointer

namespace Occurrence

/-- JSON has no room for a value. -/
def offends (o : Occurrence) : Bool :=
  match o.node with
  | .sequence _ => o.isKey
  | .mapping _ => o.isKey
  | .number n => !o.isKey && !Node.isFinite n
  | _ => false

/-- What is said of a value that JSON has no room for. -/
def fault (o : Occurrence) : Unrepresentable :=
  match o.node with
  | .number n => .number (numberText n) o.place
  | _ => .key o.place

end Occurrence

namespace Node

/-- The place of the value under a key. -/
def placeUnder (place : Pointer) (key : Node) : Pointer := key.keyText?.elim place place.push

mutual

/-- A value and all values in it, in document order. -/
def occurrences (isKey : Bool) (place : Pointer) : Node → List Occurrence
  | .tagged _ value => value.occurrences isKey place
  | .sequence items => ⟨.sequence items, isKey, place⟩ :: occurrencesOfItems place 0 items
  | .mapping entries => ⟨.mapping entries, isKey, place⟩ :: occurrencesOfEntries place entries
  | node => [⟨node, isKey, place⟩]

/-- The values in the items of a sequence from an index on. -/
def occurrencesOfItems (place : Pointer) (index : Nat) : List Node → List Occurrence
  | [] => []
  | item :: rest =>
    item.occurrences false (place.item index) ++ occurrencesOfItems place (index + 1) rest

/-- The values in the entries of a mapping; a key comes before the value under it. -/
def occurrencesOfEntries (place : Pointer) : List (Node × Node) → List Occurrence
  | [] => []
  | (key, value) :: rest =>
    key.occurrences true place ++
      (value.occurrences false (placeUnder place key) ++ occurrencesOfEntries place rest)

end

/-- All values of a document, in document order. -/
def values (node : Node) : List Occurrence := node.occurrences false .root

mutual

/-- The JSON of a value, whether there is room for it or not: the entries of a mapping are put one after
the other, and a key that is a collection counts as the empty text. -/
def json : Node → Json
  | .null => .null
  | .bool b => .bool b
  | .number n => .number n
  | .string s => .string s
  | .sequence items => .array (jsonOfItems items)
  | .mapping entries => .object (Entries.ofList (jsonOfEntries entries))
  | .tagged _ value => value.json

/-- The JSON of the items of a sequence. -/
def jsonOfItems : List Node → List Json
  | [] => []
  | item :: rest => item.json :: jsonOfItems rest

/-- The texts of keys and the JSON of the values under them. -/
def jsonOfEntries : List (Node × Node) → List (String × Json)
  | [] => []
  | (key, value) :: rest => (key.keyText?.getD "", value.json) :: jsonOfEntries rest

end

/-! ## The first offence -/

/-- What comes of a conversion that meets some values in their order: the first that offends stops it. -/
def outcome {α : Type} (met : List Occurrence) (result : α) : Except Unrepresentable α :=
  match met.find? Occurrence.offends with
  | none => .ok result
  | some o => .error o.fault

section Outcome

variable {α β : Type} {met rest : List Occurrence}

theorem outcome_bind (result : α) (f : α → Except Unrepresentable β) (b : β)
    (h : f result = outcome rest b) : (outcome met result >>= f) = outcome (met ++ rest) b := by
  unfold outcome at h ⊢
  rw [List.find?_append]
  cases met.find? Occurrence.offends with
  | none => exact h
  | some o => rfl

theorem map_outcome (f : α → β) (result : α) : f <$> outcome met result = outcome met (f result) := by
  unfold outcome
  cases met.find? Occurrence.offends <;> rfl

theorem outcome_eq_error_iff {result : α} {u : Unrepresentable} :
    outcome met result = .error u ↔ ∃ o, met.find? Occurrence.offends = some o ∧ u = o.fault := by
  unfold outcome
  cases met.find? Occurrence.offends <;> simp [eq_comm]

theorem outcome_eq_ok_iff {result a : α} :
    outcome met result = .ok a ↔ (∀ o ∈ met, ¬ o.offends) ∧ a = result := by
  rw [← List.find?_eq_none]
  unfold outcome
  cases met.find? Occurrence.offends <;> simp [eq_comm]

end Outcome

theorem outcome_key {α : Type} (key : Node) (place : Pointer) (result : α) :
    outcome (key.occurrences true place) result =
      match key.keyText? with
      | none => .error (.key place)
      | some _ => .ok result := by
  match key with
  | .tagged _ value =>
    rw [occurrences, keyText?]
    exact outcome_key value place result
  | .null | .bool _ | .number _ | .string _ | .sequence _ | .mapping _ => rfl

/-- A key that has no text stops the conversion at once, and any other key does not. -/
theorem outcome_key_append {α : Type} (key : Node) (place : Pointer) (rest : List Occurrence)
    (result : α) :
    outcome (key.occurrences true place ++ rest) result =
      match key.keyText? with
      | none => .error (.key place)
      | some _ => outcome rest result := by
  rw [← outcome_bind () (fun _ => outcome rest result) result rfl, outcome_key]
  cases key.keyText? <;> rfl

mutual

/-- A value becomes its JSON, unless something in it offends. -/
theorem toJsonAt_eq (place : Pointer) (node : Node) :
    node.toJsonAt place = outcome (node.occurrences false place) node.json := by
  match node with
  | .null | .bool _ | .string _ => rfl
  | .number n =>
    change _ = outcome [⟨.number n, false, place⟩] (Json.number n)
    rw [toJsonAt, outcome]
    cases h : isFinite n <;> simp [h, Occurrence.offends, Occurrence.fault]
  | .sequence items =>
    rw [toJsonAt, itemsToJson_eq, map_outcome]
    rfl
  | .mapping entries =>
    rw [toJsonAt, entriesToJson_eq, map_outcome]
    rfl
  | .tagged _ value =>
    rw [toJsonAt, json, occurrences]
    exact toJsonAt_eq place value

/-- So do the items of a sequence. -/
theorem itemsToJson_eq (place : Pointer) (index : Nat) (items : List Node) :
    itemsToJson place index items =
      outcome (occurrencesOfItems place index items) (jsonOfItems items) := by
  match items with
  | [] => rfl
  | item :: rest =>
    rw [itemsToJson, toJsonAt_eq, itemsToJson_eq, occurrencesOfItems]
    refine outcome_bind _ _ _ ?_
    exact map_outcome (item.json :: ·) (jsonOfItems rest)

/-- So do the entries of a mapping, which are put to those before them. -/
theorem entriesToJson_eq (place : Pointer) (done : Entries Json) (entries : List (Node × Node)) :
    entriesToJson place done entries =
      outcome (occurrencesOfEntries place entries)
        ((jsonOfEntries entries).foldl (fun done entry => done.put entry.1 entry.2) done) := by
  match entries with
  | [] => rfl
  | (key, value) :: rest =>
    rw [entriesToJson, occurrencesOfEntries, outcome_key_append, placeUnder, jsonOfEntries]
    cases key.keyText? with
    | none => rfl
    | some name =>
      rw [List.foldl_cons]
      dsimp only [Option.elim_some, Option.getD_some]
      rw [toJsonAt_eq]
      exact outcome_bind _ _ _ (entriesToJson_eq place _ rest)

end

/-! ## Tags -/

mutual

/-- A value without the tags in it. -/
def untagged : Node → Node
  | .tagged _ value => value.untagged
  | .sequence items => .sequence (untaggedItems items)
  | .mapping entries => .mapping (untaggedEntries entries)
  | node => node

/-- The items of a sequence without their tags. -/
def untaggedItems : List Node → List Node
  | [] => []
  | item :: rest => item.untagged :: untaggedItems rest

/-- The entries of a mapping without the tags of keys and values. -/
def untaggedEntries : List (Node × Node) → List (Node × Node)
  | [] => []
  | (key, value) :: rest => (key.untagged, value.untagged) :: untaggedEntries rest

end

theorem keyText?_untagged (key : Node) : key.untagged.keyText? = key.keyText? := by
  match key with
  | .tagged _ value =>
    rw [untagged, keyText?]
    exact keyText?_untagged value
  | .null | .bool _ | .number _ | .string _ | .sequence _ | .mapping _ => rfl

mutual

/-- Tags make no difference to the JSON of a value. -/
theorem toJsonAt_untagged (place : Pointer) (node : Node) :
    node.untagged.toJsonAt place = node.toJsonAt place := by
  match node with
  | .null | .bool _ | .number _ | .string _ => rfl
  | .sequence items =>
    rw [untagged, toJsonAt, toJsonAt, itemsToJson_untaggedItems]
  | .mapping entries =>
    rw [untagged, toJsonAt, toJsonAt, entriesToJson_untaggedEntries]
  | .tagged _ value =>
    rw [untagged, toJsonAt]
    exact toJsonAt_untagged place value

/-- Nor to that of the items of a sequence. -/
theorem itemsToJson_untaggedItems (place : Pointer) (index : Nat) (items : List Node) :
    itemsToJson place index (untaggedItems items) = itemsToJson place index items := by
  match items with
  | [] => rfl
  | item :: rest =>
    rw [untaggedItems, itemsToJson, itemsToJson, toJsonAt_untagged, itemsToJson_untaggedItems]

/-- Nor to that of the entries of a mapping. -/
theorem entriesToJson_untaggedEntries (place : Pointer) (done : Entries Json)
    (entries : List (Node × Node)) :
    entriesToJson place done (untaggedEntries entries) = entriesToJson place done entries := by
  match entries with
  | [] => rfl
  | (key, value) :: rest =>
    rw [untaggedEntries, entriesToJson, entriesToJson, keyText?_untagged]
    cases key.keyText? with
    | none => rfl
    | some name =>
      dsimp only
      rw [toJsonAt_untagged]
      exact congrArg _ (funext fun member => entriesToJson_untaggedEntries place _ rest)

end

/-! ## Refused values -/

/-- A value becomes its JSON unless one of the values in it offends. -/
theorem toJson_eq (node : Node) : node.toJson = outcome node.values node.json :=
  toJsonAt_eq .root node

end Node

/-- The tree that a YAML text writes, once its merge keys are dealt with. -/
def mergedTree (text : String) : Except ImportError Node := do
  let node ← ((documentOf text).compose).mapError fun f => .unreadable f.toSyntaxFault
  node.merge.mapError fun p => .unreadable (LoadFault.merge p).toSyntaxFault

/-- What a text is loaded as depends on its merged tree only. -/
theorem loadYaml_eq (text : String) :
    loadYaml text = mergedTree text >>= fun tree =>
      tree.toJson.mapError fun u => .malformed u.message :=
  (bind_assoc _ _ _).symm

namespace Node

/-- A value is refused exactly when it has a key that is a collection or, elsewhere, a number that is
not finite.  What is said is said of the first of these in document order, with its place.  Tags do not
matter, neither those of keys nor those of other values.  A text whose tree is refused is malformed. -/
theorem toJson_refuses (node : Node) :
    ((∃ u, node.toJson = .error u) ↔ ∃ o ∈ node.values, o.offends) ∧
      (∀ u, node.toJson = .error u ↔
        ∃ o, node.values.find? Occurrence.offends = some o ∧ u = o.fault) ∧
      (∀ other : Node, other.untagged = node.untagged → other.toJson = node.toJson) ∧
      ∀ text, loadYaml text = mergedTree text >>= fun tree =>
        match tree.values.find? Occurrence.offends with
        | none => .ok tree.json
        | some o => .error (.malformed o.fault.message) := by
  have herror : ∀ u, node.toJson = .error u ↔
      ∃ o, node.values.find? Occurrence.offends = some o ∧ u = o.fault := by
    intro u
    rw [toJson_eq, outcome_eq_error_iff]
  refine ⟨?_, herror, ?_, ?_⟩
  · constructor
    · rintro ⟨u, hu⟩
      obtain ⟨o, ho, -⟩ := (herror u).mp hu
      exact ⟨o, List.mem_of_find?_eq_some ho, List.find?_some ho⟩
    · rintro ⟨o, hmem, ho⟩
      obtain ⟨first, hfirst⟩ := Option.isSome_iff_exists.mp (List.find?_isSome.mpr ⟨o, hmem, ho⟩)
      exact ⟨first.fault, (herror _).mpr ⟨first, hfirst, rfl⟩⟩
  · intro other hother
    calc other.toJson = other.untagged.toJson := (toJsonAt_untagged .root other).symm
      _ = node.untagged.toJson := by rw [hother]
      _ = node.toJson := toJsonAt_untagged .root node
  · intro text
    rw [loadYaml_eq]
    refine congrArg _ (funext fun tree => ?_)
    rw [toJson_eq, outcome]
    cases tree.values.find? Occurrence.offends <;> rfl

/-- A mapping with an infinite number in a sequence, and behind it a key that is a sequence. -/
def infiniteItem : Node :=
  .mapping [(.string "a", .sequence [.null, .number (.float (1.0 / 0.0))]), (.sequence [], .null)]

/-- The same with tags. -/
def taggedItem : Node :=
  .mapping [(.tagged "!k" (.string "a"),
    .tagged "!s" (.sequence [.null, .tagged "!n" (.number (.float (1.0 / 0.0)))])),
    (.tagged "!k" (.sequence []), .null)]

/-- Of both it is said that the number, which comes first, is no JSON. -/
theorem toJson_refuses_infiniteItem :
    taggedItem.untagged = infiniteItem.untagged ∧ taggedItem.toJson = infiniteItem.toJson ∧
      taggedItem.toJson = .error (.number (numberText (.float (1.0 / 0.0)))
        ((Pointer.root.push "a").item 1)) := by
  have huntagged : taggedItem.untagged = infiniteItem.untagged := rfl
  obtain ⟨-, herror, htags, -⟩ := toJson_refuses infiniteItem
  refine ⟨huntagged, htags _ huntagged, (htags _ huntagged).trans ((herror _).mpr ?_)⟩
  exact ⟨⟨.number (.float (1.0 / 0.0)), false, (Pointer.root.push "a").item 1⟩, rfl, rfl⟩

/-- A mapping with an infinite number as its key. -/
def infiniteKey : Node := .mapping [(.number (.float (1.0 / 0.0)), .number (.int 1))]

/-- A number that is a key is not asked to be finite: it is written out as the name of the member. -/
theorem toJson_infiniteKey :
    (∃ o ∈ infiniteKey.values, ∃ n, o.node = .number n ∧ isFinite n = false) ∧
      ¬ ∃ u, infiniteKey.toJson = .error u := by
  refine ⟨⟨⟨.number (.float (1.0 / 0.0)), true, .root⟩, ?_, _, rfl, rfl⟩, ?_⟩
  · exact List.mem_cons_of_mem _ List.mem_cons_self
  · rintro ⟨u, hu⟩
    cases hu

end Node

end ApiDescription.Yaml
