import Mathlib.Data.List.Nodup
import Mathlib.Data.Option.Basic
import ApiDescription.Proofs.Yaml.ToJson

/-!
# Entries of a mapping as members of an object

The JSON of a YAML value should have a member for each entry of each mapping, in the order of the
entries.  Keys become texts on the way, and different keys can become one text: the number 200 and the
text "200", or one text under two tags.  Then the later entry is put to the place of the earlier one, and
nothing is said.

`Node.Mirrors` is that nothing is lost.  `Node.mirrors_iff_of_toJson` says that nothing is lost exactly
when in each mapping the texts of the keys are apart.
-/

namespace ApiDescription

/-! ## Entries put one after the other -/

namespace Entries

variable {α : Type}

theorem put_of_notMem {entries : Entries α} {name : String} (h : name ∉ entries.names) (value : α) :
    entries.put name value = entries ++ [(name, value)] := by
  induction entries with
  | nil => rfl
  | cons first rest ih =>
    simp only [names, List.map_cons, List.mem_cons, not_or] at h
    rw [put, if_neg (Ne.symm h.1), ih h.2, List.cons_append]

/-- Entries whose names are apart from each other and from those that are there are added in order. -/
theorem foldl_put {done entries : Entries α} (h : (done ++ entries).names.Nodup) :
    entries.foldl (fun done entry => done.put entry.1 entry.2) done = done ++ entries := by
  induction entries generalizing done with
  | nil => exact (List.append_nil done).symm
  | cons first rest ih =>
    have hnew : first.1 ∉ done.names := by
      rw [names, List.map_append, List.map_cons] at h
      exact fun hmem => (List.nodup_append.mp h).2.2 _ hmem _ List.mem_cons_self rfl
    have hsame : done ++ first :: rest = done.put first.1 first.2 ++ rest := by
      rw [put_of_notMem hnew, List.append_assoc]
      rfl
    rw [hsame] at h ⊢
    exact ih h

theorem ofList_eq_self {entries : Entries α} (h : entries.names.Nodup) : ofList entries = entries :=
  foldl_put h

end Entries

namespace Yaml

/-! ## Nothing is lost -/

/-- If a value is a mapping, then the texts of its keys are apart. -/
def Occurrence.KeysApart (o : Occurrence) : Prop :=
  match o.node with
  | .mapping entries => (entries.map fun entry => entry.1.keyText?).Nodup
  | _ => True

namespace Node

mutual

/-- A JSON value is a YAML value with nothing lost or moved: it has the same scalars, as many items, and
as many members as there are entries, each under the text of its key. -/
def Mirrors : Node → Json → Prop
  | .null, .null => True
  | .bool a, .bool b => a = b
  | .number a, .number b => a = b
  | .string a, .string b => a = b
  | .sequence items, .array values => MirrorsItems items values
  | .mapping entries, .object members => MirrorsEntries entries members
  | .tagged _ value, v => value.Mirrors v
  | _, _ => False

/-- The items of an array are those of a sequence, one by one. -/
def MirrorsItems : List Node → List Json → Prop
  | [], [] => True
  | item :: rest, value :: values => item.Mirrors value ∧ MirrorsItems rest values
  | _, _ => False

/-- The members of an object are the entries of a mapping, one by one. -/
def MirrorsEntries : List (Node × Node) → List (String × Json) → Prop
  | [], [] => True
  | (key, value) :: rest, (name, member) :: members =>
    key.keyText? = some name ∧ value.Mirrors member ∧ MirrorsEntries rest members
  | _, _ => False

end

theorem names_of_mirrorsEntries {entries : List (Node × Node)} {members : Entries Json}
    (h : MirrorsEntries entries members) :
    (entries.map fun entry => entry.1.keyText?) = members.names.map some := by
  induction entries generalizing members with
  | nil =>
    match members with
    | [] => rfl
    | _ :: _ => exact False.elim h
  | cons first rest ih =>
    match members with
    | [] => exact False.elim h
    | member :: others =>
      obtain ⟨hname, -, hrest⟩ := h
      rw [List.map_cons, hname, ih hrest]
      rfl

theorem names_jsonOfEntries {entries : List (Node × Node)} {names : List String}
    (h : (entries.map fun entry => entry.1.keyText?) = names.map some) :
    Entries.names (jsonOfEntries entries) = names := by
  induction entries generalizing names with
  | nil => exact (List.map_eq_nil_iff.mp h.symm).symm
  | cons first rest ih =>
    match names with
    | [] => cases h
    | name :: others =>
      obtain ⟨hname, hrest⟩ := List.cons.inj h
      dsimp only at hname
      rw [jsonOfEntries, hname, Option.getD_some, ← ih hrest]
      rfl

/-- Entries that are put one after the other are all there exactly when the texts of their keys are
apart. -/
theorem mirrorsEntries_ofList_iff {entries : List (Node × Node)}
    (hnames : (Entries.ofList (jsonOfEntries entries)).names.Nodup) :
    MirrorsEntries entries (Entries.ofList (jsonOfEntries entries)) ↔
      (entries.map fun entry => entry.1.keyText?).Nodup ∧
        MirrorsEntries entries (jsonOfEntries entries) := by
  constructor
  · intro h
    have htexts := names_of_mirrorsEntries h
    have hsame : Entries.ofList (jsonOfEntries entries) = jsonOfEntries entries := by
      refine Entries.ofList_eq_self ?_
      rw [names_jsonOfEntries htexts]
      exact hnames
    refine ⟨?_, hsame ▸ h⟩
    rw [htexts]
    exact hnames.map (Option.some_injective _)
  · rintro ⟨hapart, h⟩
    rw [names_of_mirrorsEntries h] at hapart
    rwa [Entries.ofList_eq_self (List.Nodup.of_map some hapart)]

/-- A key that has a text is no mapping. -/
theorem keysApart_of_mem_key {key : Node} {name : String} (h : key.keyText? = some name)
    {place : Pointer} : ∀ o ∈ key.occurrences true place, o.KeysApart := by
  match key with
  | .tagged _ value =>
    rw [keyText?] at h
    rw [occurrences]
    exact keysApart_of_mem_key h
  | .null | .bool _ | .number _ | .string _ =>
    intro o ho
    obtain rfl := List.mem_singleton.mp ho
    trivial
  | .sequence _ | .mapping _ => cases h

mutual

/-- If a value is not refused, then its JSON loses nothing exactly when keys are apart in all mappings
in it. -/
theorem mirrors_json_iff {place : Pointer} {node : Node}
    (h : ∀ o ∈ node.occurrences false place, ¬ o.offends) :
    node.Mirrors node.json ↔ ∀ o ∈ node.occurrences false place, o.KeysApart := by
  match node with
  | .null | .bool _ | .number _ | .string _ =>
    simp [Mirrors, json, occurrences, Occurrence.KeysApart]
  | .sequence items =>
    rw [occurrences] at h ⊢
    rw [List.forall_mem_cons] at h ⊢
    rw [json, Mirrors, mirrorsItems_jsonOfItems_iff h.2]
    exact (and_iff_right trivial).symm
  | .mapping entries =>
    rw [occurrences] at h ⊢
    rw [List.forall_mem_cons] at h ⊢
    have hconverted : entriesToJson place [] entries = .ok (Entries.ofList (jsonOfEntries entries)) :=
      (entriesToJson_eq place [] entries).trans (outcome_eq_ok_iff.mpr ⟨h.2, rfl⟩)
    have hnames := (membersWellFormed_of_entriesToJson Json.membersWellFormed_nil hconverted).1
    rw [json, Mirrors, mirrorsEntries_ofList_iff hnames, mirrorsEntries_jsonOfEntries_iff h.2]
    rfl
  | .tagged _ value =>
    rw [occurrences] at h ⊢
    rw [Mirrors, json]
    exact mirrors_json_iff h

/-- So it is with the items of a sequence. -/
theorem mirrorsItems_jsonOfItems_iff {place : Pointer} {index : Nat} {items : List Node}
    (h : ∀ o ∈ occurrencesOfItems place index items, ¬ o.offends) :
    MirrorsItems items (jsonOfItems items) ↔
      ∀ o ∈ occurrencesOfItems place index items, o.KeysApart := by
  match items with
  | [] => simp [jsonOfItems, MirrorsItems, occurrencesOfItems]
  | item :: rest =>
    rw [occurrencesOfItems] at h ⊢
    rw [List.forall_mem_append] at h ⊢
    rw [jsonOfItems, MirrorsItems, mirrors_json_iff h.1, mirrorsItems_jsonOfItems_iff h.2]

/-- And with the entries of a mapping, one by one. -/
theorem mirrorsEntries_jsonOfEntries_iff {place : Pointer} {entries : List (Node × Node)}
    (h : ∀ o ∈ occurrencesOfEntries place entries, ¬ o.offends) :
    MirrorsEntries entries (jsonOfEntries entries) ↔
      ∀ o ∈ occurrencesOfEntries place entries, o.KeysApart := by
  match entries with
  | [] => simp [jsonOfEntries, MirrorsEntries, occurrencesOfEntries]
  | (key, value) :: rest =>
    rw [occurrencesOfEntries] at h ⊢
    rw [List.forall_mem_append, List.forall_mem_append] at h ⊢
    obtain ⟨hkey, hvalue, hrest⟩ := h
    obtain ⟨name, hname⟩ : ∃ name, key.keyText? = some name := by
      have hpass := outcome_key key place ()
      rw [outcome_eq_ok_iff.mpr ⟨hkey, rfl⟩] at hpass
      cases hname : key.keyText? with
      | none => rw [hname] at hpass; cases hpass
      | some name => exact ⟨name, rfl⟩
    rw [jsonOfEntries, MirrorsEntries, mirrors_json_iff hvalue, mirrorsEntries_jsonOfEntries_iff hrest]
    rw [hname, Option.getD_some]
    exact and_congr_left' (iff_of_true rfl (keysApart_of_mem_key hname))

end

/-- What is read as JSON loses nothing exactly when no two keys of one mapping have the same text.  If two
have, the member of the first one is there with the value of the last one. -/
theorem mirrors_iff_of_toJson {node : Node} {v : Json} (h : node.toJson = .ok v) :
    v = node.json ∧ (node.Mirrors v ↔ ∀ o ∈ node.values, o.KeysApart) := by
  rw [toJson_eq] at h
  obtain ⟨hnone, rfl⟩ := outcome_eq_ok_iff.mp h
  exact ⟨rfl, mirrors_json_iff hnone⟩

/-- A mapping in which the number 200 and the text "200" are keys. -/
def twoHundred : Node :=
  .mapping [(.number (.int 200), .string "a"), (.string "200", .string "b")]

/-- Of its two values the first one is lost. -/
theorem mirrors_iff_twoHundred :
    twoHundred.toJson = .ok (.object [("200", .string "b")]) ∧
      ¬ twoHundred.Mirrors (.object [("200", .string "b")]) := by
  have hjson : twoHundred.toJson = .ok (.object [("200", .string "b")]) := rfl
  refine ⟨hjson, fun hmirrors => ?_⟩
  have hapart := (mirrors_iff_of_toJson hjson).2.mp hmirrors
  have hkeys : [some "200", some "200"].Nodup := hapart _ List.mem_cons_self
  exact absurd hkeys (by decide)

end Node

end Yaml

end ApiDescription
