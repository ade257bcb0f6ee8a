import ApiDescription.Proofs.Loading

/-!
# Keys of registered documents

Every key of a registry stands for one of its documents.  After a document was put in place of
another, or behind all others, the keys that stand for it are exactly its own:
`Registry.Placed.replace`.
-/

namespace ApiDescription

namespace Entries

variable {α : Type}

theorem mem_put {entries : Entries α} {name : String} {value : α} {entry : String × α}
    (h : entry ∈ entries.put name value) : entry ∈ entries ∨ entry = (name, value) := by
  induction entries with
  | nil => exact .inr (List.mem_singleton.mp h)
  | cons first rest ih =>
    rw [put] at h
    split at h
    · rcases List.mem_cons.mp h with heq | hrest
      · exact .inr heq
      · exact .inl (List.mem_cons_of_mem _ hrest)
    · rcases List.mem_cons.mp h with rfl | hrest
      · exact .inl List.mem_cons_self
      · exact (ih hrest).imp_left (List.mem_cons_of_mem _)

/-- A value under each of several names. -/
def putAll (entries : Entries α) (names : List String) (value : α) : Entries α :=
  names.foldl (fun entries name => entries.put name value) entries

theorem mem_putAll {entries : Entries α} {names : List String} {value : α} {entry : String × α}
    (h : entry ∈ entries.putAll names value) : entry ∈ entries ∨ entry.2 = value := by
  induction names generalizing entries with
  | nil => exact .inl h
  | cons name rest ih =>
    rcases ih h with hput | hvalue
    · exact (mem_put hput).imp_right (congrArg Prod.snd)
    · exact .inr hvalue

theorem get?_putAll (entries : Entries α) (names : List String) (value : α) (other : String) :
    (entries.putAll names value).get? other =
      if other ∈ names then some value else entries.get? other := by
  induction names generalizing entries with
  | nil => simp [putAll]
  | cons name rest ih =>
    have hrest : entries.putAll (name :: rest) value = (entries.put name value).putAll rest value :=
      rfl
    rw [hrest, ih, get?_put]
    by_cases hmem : other ∈ rest
    · simp [hmem]
    · simp [hmem]

end Entries

theorem RegisteredDocument.key_mem_keys (d : RegisteredDocument) : d.key ∈ d.keys :=
  List.mem_eraseDups.mpr List.mem_cons_self

namespace Registry

variable {r r' : Registry} {text key : String} {d : LoadedDocument}

theorem get?_places_add (r : Registry) (document : RegisteredDocument) (key : String) :
    (r.add document).places.get? key =
      if key ∈ document.keys then some r.documents.length else r.places.get? key :=
  r.places.get?_putAll _ _ _

/-- Every key stands for a document. -/
def Placed (r : Registry) : Prop := ∀ entry ∈ r.places, entry.2 < r.documents.length

theorem placed_empty : empty.Placed := by
  simp [Placed, empty]

namespace Placed

theorem lt_length (h : r.Placed) {place : Nat} (hget : r.places.get? key = some place) :
    place < r.documents.length :=
  h (key, place) (Entries.mem_of_get? hget)

theorem add (h : r.Placed) (document : RegisteredDocument) : (r.add document).Placed := by
  intro entry hentry
  have hlength : (r.add document).documents.length = r.documents.length + 1 := by
    simp [Registry.add]
  rw [hlength]
  rcases Entries.mem_putAll hentry with hold | hnew
  · exact Nat.lt_succ_of_lt (h entry hold)
  · rw [hnew]
    exact Nat.lt_succ_self _

theorem putAt (h : r.Placed) {place : Nat} (hplace : place < r.documents.length)
    (document : RegisteredDocument) : (r.putAt place document).Placed := by
  intro entry hentry
  have hlength : (r.putAt place document).documents.length = r.documents.length := by
    simp [Registry.putAt]
  rw [hlength]
  rcases Entries.mem_putAll hentry with hold | hnew
  · exact h entry (List.mem_filter.mp hold).1
  · exact hnew ▸ hplace

theorem insert (h : r.Placed) (hinsert : r.insert text d = .ok r') : r'.Placed := by
  unfold Registry.insert at hinsert
  split at hinsert
  · cases hinsert
  · dsimp only at hinsert
    split at hinsert
    · cases hinsert
    · cases hinsert
      exact h.add _

theorem register {uri : String} (h : r.Placed) (hregister : r.register uri text = .ok r') :
    r'.Placed := by
  obtain ⟨d, -, hinsert⟩ := of_bind_eq_ok hregister
  exact h.insert (of_mapError_eq_ok hinsert)

end Placed

/-- A document of a registry stands at a place, and its keys and no others stand for the place. -/
structure Keeps (r : Registry) (place : Nat) (document : RegisteredDocument) : Prop where
  /-- The document stands at the place. -/
  here : r.documents[place]? = some document
  /-- Its keys and no others stand for the place. -/
  keys (key : String) : r.places.get? key = some place ↔ key ∈ document.keys

namespace Placed

theorem keeps_add (h : r.Placed) (document : RegisteredDocument) :
    (r.add document).Keeps r.documents.length document where
  here := by simp [Registry.add]
  keys key := by
    rw [get?_places_add]
    split
    · next hkey => simp [hkey]
    · next hkey =>
      refine iff_of_false (fun hget => ?_) hkey
      exact Nat.lt_irrefl _ (h.lt_length hget)

theorem keeps_putAt {place : Nat} (hplace : place < r.documents.length)
    (document : RegisteredDocument) : (r.putAt place document).Keeps place document where
  here := by simp [Registry.putAt, hplace]
  keys key := by
    have hget : (r.putAt place document).places.get? key = if key ∈ document.keys then some place
        else Entries.get? (r.places.filter fun entry => entry.2 ≠ place) key :=
      Entries.get?_putAll _ _ _ _
    rw [hget]
    split
    · next hkey => simp [hkey]
    · next hkey =>
      refine iff_of_false (fun hold => ?_) hkey
      -- no key that was kept stands for the place
      have hmem := (List.mem_filter.mp (Entries.mem_of_get? hold)).2
      simp at hmem

/-- After a document was put in place of another, or behind all others, its keys and no others
stand for it. -/
theorem replace (h : r.Placed) (hreplace : r.replace text d = .ok (r', key)) :
    r'.Placed ∧ ∃ base place, Uri.ofText? text = some base ∧ key = base.key ∧
      r'.Keeps place (.ofLoaded base d) := by
  unfold Registry.replace at hreplace
  split at hreplace
  · cases hreplace
  · next base hbase =>
    dsimp only at hreplace
    split at hreplace
    · next name place htaken =>
      cases hreplace
      obtain ⟨taken, -, hname⟩ := List.exists_of_findSome?_eq_some htaken
      obtain ⟨_, hget, heq⟩ := Option.map_eq_some_iff.mp hname
      cases heq
      have hplace : place < r.documents.length := h.lt_length hget
      exact ⟨h.putAt hplace _, base, place, hbase, rfl, keeps_putAt hplace _⟩
    · cases hreplace
      exact ⟨h.add _, base, r.documents.length, hbase, rfl, h.keeps_add _⟩

end Placed

end Registry

end ApiDescription
