import ApiDescription.Proofs.Outcome

/-!
# Order of registration

Documents that were registered one after the other, each with success, have no key in common, and
each key stands for the document that has it.  Which place a document has depends on the order, and
nothing else does.

The entry document takes the place of the first document that one of its keys stands for.  If
another registry holds the same documents and maybe more, then it is this document there, too, if it
is one of those; so the others are in both registries after that, and are found under the same keys:
`Registry.Replaces.relocation`.  The second registry may know a document that the first one does not
know.  An import that does not come upon such a document gives the same in both:
`Importer.run_eq_of_documents_subset`.
-/

namespace ApiDescription

/-- The diagnostic says that a document is not registered. -/
def Diagnostic.SaysUnregistered (D : Diagnostic) : Prop :=
  ∃ document reference label p, D = (Finding.unknownDocument document reference).diagnostic label p

/-! ## Entries -/

namespace Entries

variable {α : Type} {entries : Entries α}

theorem nodup_names_put (h : entries.names.Nodup) (name : String) (value : α) :
    (entries.put name value).names.Nodup := by
  rw [names_put]
  split
  · exact h
  · next hnew =>
    rw [List.nodup_append]
    refine ⟨h, by simp, ?_⟩
    rintro other hother _ hname rfl
    exact hnew (List.mem_singleton.mp hname ▸ hother)

theorem nodup_names_putAll (h : entries.names.Nodup) (names : List String) (value : α) :
    (entries.putAll names value).names.Nodup := by
  induction names generalizing entries with
  | nil => exact h
  | cons name rest ih => exact ih (nodup_names_put h name value)

theorem get?_filter (h : entries.names.Nodup) (keep : α → Bool) (name : String) :
    Entries.get? (entries.filter fun entry => keep entry.2) name =
      (entries.get? name).filter keep := by
  induction entries with
  | nil => rfl
  | cons first rest ih =>
    simp only [names, List.map_cons, List.nodup_cons] at h
    have hrest := ih h.2
    rw [get?_cons]
    by_cases hname : name = first.1
    · rw [if_pos hname, Option.filter_some]
      by_cases hkeep : keep first.2
      · rw [List.filter_cons_of_pos (by exact hkeep), get?_cons, if_pos hname, if_pos hkeep]
      · rw [List.filter_cons_of_neg (by exact hkeep), if_neg hkeep, hrest]
        -- the name does not come again
        cases hget : get? rest name with
        | none => rfl
        | some value => exact absurd (List.mem_map_of_mem (mem_of_get? hget)) (hname ▸ h.1)
    · rw [if_neg hname, ← hrest]
      by_cases hkeep : keep first.2
      · rw [List.filter_cons_of_pos (by exact hkeep), get?_cons, if_neg hname]
      · rw [List.filter_cons_of_neg (by exact hkeep)]

end Entries

namespace Registry

variable {r r' r₁ r₁' : Registry} {q q' : Nat} {d e : RegisteredDocument}

theorem taken?_eq_none_iff : r.taken? d = none ↔ ∀ key ∈ d.keys, r.places.get? key = none := by
  simp [taken?, List.findSome?_eq_none_iff]

theorem get?_of_taken?_eq_some {key : String} {p : Nat} (h : r.taken? d = some (key, p)) :
    r.places.get? key = some p := by
  obtain ⟨_, -, hkey⟩ := List.exists_of_findSome?_eq_some h
  obtain ⟨_, hget, heq⟩ := Option.map_eq_some_iff.mp hkey
  obtain ⟨rfl, rfl⟩ := Prod.mk.inj heq
  exact hget

/-! ## Registries in which every registration succeeded -/

/-- Every key stands for the document that has it, and for no other one. -/
structure Exact (r : Registry) : Prop where
  /-- No key is there twice. -/
  nodup : r.places.names.Nodup
  /-- A key stands for a place if the document there has it. -/
  get?_iff (key : String) (p : Nat) :
    r.places.get? key = some p ↔ ∃ d, r.documents[p]? = some d ∧ key ∈ d.keys

theorem exact_empty : empty.Exact where
  nodup := .nil
  get?_iff _ _ := by simp [empty]

namespace Exact

theorem add (h : r.Exact) (hfree : r.taken? d = none) : (r.add d).Exact where
  nodup := Entries.nodup_names_putAll h.nodup _ _
  get?_iff key p := by
    rw [taken?_eq_none_iff] at hfree
    have hdocuments : (r.add d).documents = r.documents ++ [d] := rfl
    rw [get?_places_add, hdocuments]
    -- a key of the new document stood for nothing, so none before it loses one
    rcases Nat.lt_trichotomy p r.documents.length with hlt | rfl | hgt
    · rw [List.getElem?_append_left hlt, ← h.get?_iff]
      split
      · next hkey => simp [hfree key hkey, Nat.ne_of_gt hlt]
      · rfl
    · rw [List.getElem?_concat_length]
      split
      · next hkey => simp [hkey]
      · next hkey => simp [h.get?_iff, hkey]
    · have hnone : (r.documents ++ [d])[p]? = none := by
        rw [List.getElem?_eq_none_iff, List.length_append]
        exact hgt
      rw [hnone]
      split
      · simp [Nat.ne_of_lt hgt]
      · simp [h.get?_iff, Nat.le_of_lt hgt]

/-- A document that is there is found by its key. -/
theorem get?_key (h : r.Exact) {p : Nat} (hd : r.documents[p]? = some d) :
    r.places.get? d.key = some p :=
  (h.get?_iff _ _).mpr ⟨d, hd, d.key_mem_keys⟩

/-- A document is there once. -/
theorem eq_of_getElem? (h : r.Exact) {p p' : Nat} (hp : r.documents[p]? = some d)
    (hp' : r.documents[p']? = some d) : p = p' :=
  Option.some.inj ((h.get?_key hp).symm.trans (h.get?_key hp'))

end Exact

/-! ## The entry document -/

/-- A document was put in place of the first one that one of its keys stands for, or behind all. -/
structure Replaces (r r₁ : Registry) (q : Nat) (e : RegisteredDocument) : Prop where
  /-- Which place it has. -/
  place : r.taken? e = none ∧ q = r.documents.length ∨ ∃ key, r.taken? e = some (key, q)
  /-- It stands there. -/
  here : r₁.documents[q]? = some e
  /-- The other documents are where they were. -/
  other {p : Nat} (hp : p ≠ q) : r₁.documents[p]? = r.documents[p]?
  /-- Its keys stand for it, and the keys of the others for these, as far as it does not have them.
  -/
  get?_iff (key : String) (p : Nat) : r₁.places.get? key = some p ↔
    key ∈ e.keys ∧ p = q ∨ key ∉ e.keys ∧ p ≠ q ∧ r.places.get? key = some p

theorem Exact.replaces_add (h : r.Exact) (hfree : r.taken? e = none) :
    r.Replaces (r.add e) r.documents.length e where
  place := .inl ⟨hfree, rfl⟩
  here := List.getElem?_concat_length
  other {p} hp := by
    rcases Nat.lt_or_gt_of_ne hp with hlt | hgt
    · exact List.getElem?_append_left hlt
    · rw [List.getElem?_eq_none (Nat.le_of_lt hgt)]
      refine List.getElem?_eq_none ?_
      rw [Registry.add, List.length_append]
      exact hgt
  get?_iff key p := by
    have hold : r.places.get? key = some p → p ≠ r.documents.length := fun hget => by
      obtain ⟨d, hd, -⟩ := (h.get?_iff key p).mp hget
      exact Nat.ne_of_lt (List.getElem?_eq_some_iff.mp hd).1
    rw [get?_places_add]
    split
    · next hkey => simp [hkey, eq_comm]
    · next hkey =>
      simp only [hkey, false_and, not_false_iff, true_and, false_or]
      exact ⟨fun hget => ⟨hold hget, hget⟩, And.right⟩

theorem Exact.replaces_putAt (h : r.Exact) {name : String} (htaken : r.taken? e = some (name, q)) :
    r.Replaces (r.putAt q e) q e where
  place := .inr ⟨name, htaken⟩
  here := by
    obtain ⟨d, hd, -⟩ := (h.get?_iff _ _).mp (get?_of_taken?_eq_some htaken)
    exact List.getElem?_set_self (List.getElem?_eq_some_iff.mp hd).1
  other hp := List.getElem?_set_ne (Ne.symm hp)
  get?_iff key p := by
    have hget : (r.putAt q e).places.get? key = if key ∈ e.keys then some q
        else Entries.get? (r.places.filter fun entry => entry.2 ≠ q) key :=
      Entries.get?_putAll _ _ _ _
    rw [hget, Entries.get?_filter h.nodup (fun p => decide (p ≠ q)) key]
    split
    · next hkey => simp [hkey, eq_comm]
    · next hkey => simp [hkey, Option.filter_eq_some_iff, and_comm]

theorem Exact.replaces (h : r.Exact) {text key : String} {loaded : LoadedDocument}
    (hreplace : r.replace text loaded = .ok (r₁, key)) :
    ∃ base q, Uri.ofText? text = some base ∧ key = base.key ∧
      r.Replaces r₁ q (.ofLoaded base loaded) := by
  unfold replace at hreplace
  split at hreplace
  · cases hreplace
  · next base hbase =>
    dsimp only at hreplace
    split at hreplace
    · next name q htaken =>
      obtain ⟨rfl, rfl⟩ := Prod.mk.inj (Except.ok.inj hreplace)
      exact ⟨base, q, hbase, rfl, h.replaces_putAt htaken⟩
    · next hfree =>
      obtain ⟨rfl, rfl⟩ := Prod.mk.inj (Except.ok.inj hreplace)
      exact ⟨base, r.documents.length, hbase, rfl, h.replaces_add hfree⟩

theorem Replaces.keeps (h : r.Replaces r₁ q e) : r₁.Keeps q e where
  here := h.here
  keys key := by
    rw [h.get?_iff]
    simp

/-! ## The entry document in two registries -/

/-- The place of a document in a registry that holds the documents of another one as well, after the
entry document was put in both. -/
def placeIn (r r' : Registry) (q q' p : Nat) : Nat :=
  if p = q then q' else ((r.documents[p]?).bind fun d => r'.places.get? d.key).getD q'

section Subset

variable (h : r.Exact) (h' : r'.Exact) (hsub : ∀ d ∈ r.documents, d ∈ r'.documents)
include h h' hsub

/-- A key that is taken in one registry is taken where there are more documents. -/
theorem get?_eq_none_of_subset {key : String} (hnone : r'.places.get? key = none) :
    r.places.get? key = none := by
  cases hget : r.places.get? key with
  | none => rfl
  | some p =>
    obtain ⟨d, hd, hkey⟩ := (h.get?_iff key p).mp hget
    obtain ⟨p', hp'⟩ := List.getElem?_of_mem (hsub d (List.mem_of_getElem? hd))
    cases hnone.symm.trans ((h'.get?_iff key p').mpr ⟨d, hp', hkey⟩)

variable (hr : r.Replaces r₁ q e) (hr' : r'.Replaces r₁' q' e)
include hr hr'

/-- A document besides the entry document is in the other registry, and is not replaced there. -/
theorem placeIn_of_ne {p : Nat} (hp : p ≠ q) (hd : r.documents[p]? = some d) :
    r'.documents[r.placeIn r' q q' p]? = some d ∧ r.placeIn r' q q' p ≠ q' := by
  obtain ⟨p', hp'⟩ := List.getElem?_of_mem (hsub d (List.mem_of_getElem? hd))
  have hplace : r.placeIn r' q q' p = p' := by
    rw [placeIn, if_neg hp, hd, Option.bind_some, h'.get?_key hp']
    rfl
  rw [hplace]
  refine ⟨hp', ?_⟩
  rintro rfl
  rcases hr'.place with ⟨-, hlength⟩ | ⟨name, htaken⟩
  · exact Nat.lt_irrefl _ (hlength ▸ (List.getElem?_eq_some_iff.mp hp').1)
  · -- the first key that is taken is the document's in both registries
    obtain ⟨before, key, after, hkeys, hkey, hbefore⟩ := List.findSome?_eq_some_iff.mp htaken
    obtain ⟨_, hget', heq⟩ := Option.map_eq_some_iff.mp hkey
    obtain ⟨rfl, rfl⟩ := Prod.mk.inj heq
    have hget : r.places.get? key = some p := by
      obtain ⟨d', hd', hmem⟩ := (h'.get?_iff _ _).mp hget'
      obtain rfl := Option.some.inj (hp'.symm.trans hd')
      exact (h.get?_iff _ _).mpr ⟨d, hd, hmem⟩
    have hfirst : r.taken? e = some (key, p) := by
      refine List.findSome?_eq_some_iff.mpr ⟨before, key, after, hkeys, by rw [hget]; rfl, ?_⟩
      intro other hother
      rw [get?_eq_none_of_subset h h' hsub (Option.map_eq_none_iff.mp (hbefore other hother))]
      rfl
    rcases hr.place with ⟨hfree, -⟩ | ⟨name, htaken'⟩
    · cases hfree.symm.trans hfirst
    · exact hp (Prod.mk.inj (Option.some.inj (hfirst.symm.trans htaken'))).2

theorem documents_placeIn {p : Nat} (hp : p = q ∨ ∃ d, r.documents[p]? = some d) :
    ∃ d, r₁.documents[p]? = some d ∧ r₁'.documents[r.placeIn r' q q' p]? = some d := by
  by_cases hq : p = q
  · refine ⟨e, hq ▸ hr.here, ?_⟩
    rw [placeIn, if_pos hq]
    exact hr'.here
  · obtain ⟨d, hd⟩ := hp.resolve_left hq
    obtain ⟨hplace, hne⟩ := placeIn_of_ne h h' hsub hr hr' hq hd
    exact ⟨d, (hr.other hq).trans hd, (hr'.other hne).trans hplace⟩

/-- Different documents are at different places in the other registry. -/
theorem placeIn_injective {p p' : Nat} (hp : p = q ∨ ∃ d, r.documents[p]? = some d)
    (hp' : p' = q ∨ ∃ d, r.documents[p']? = some d)
    (heq : r.placeIn r' q q' p = r.placeIn r' q q' p') : p = p' := by
  have hentry : r.placeIn r' q q' q = q' := if_pos rfl
  by_cases hq : p = q
  · by_cases hq' : p' = q
    · exact hq.trans hq'.symm
    · obtain ⟨d', hd'⟩ := hp'.resolve_left hq'
      rw [hq, hentry] at heq
      exact absurd heq.symm (placeIn_of_ne h h' hsub hr hr' hq' hd').2
  · obtain ⟨d, hd⟩ := hp.resolve_left hq
    obtain ⟨hplace, hne⟩ := placeIn_of_ne h h' hsub hr hr' hq hd
    by_cases hq' : p' = q
    · rw [heq, hq', hentry] at hne
      exact absurd rfl hne
    · obtain ⟨d', hd'⟩ := hp'.resolve_left hq'
      have hplace' := (placeIn_of_ne h h' hsub hr hr' hq' hd').1
      rw [← heq, hplace] at hplace'
      exact h.eq_of_getElem? hd (Option.some.inj hplace' ▸ hd')

/-- A document has the same keys in both registries. -/
theorem get?_placeIn_iff {p : Nat} (hp : p = q ∨ ∃ d, r.documents[p]? = some d) (key : String) :
    r₁'.places.get? key = some (r.placeIn r' q q' p) ↔ r₁.places.get? key = some p := by
  rw [hr.get?_iff, hr'.get?_iff]
  by_cases hq : p = q
  · simp [placeIn, hq]
  · obtain ⟨d, hd⟩ := hp.resolve_left hq
    obtain ⟨hplace, hne⟩ := placeIn_of_ne h h' hsub hr hr' hq hd
    simp [hq, hne, h.get?_iff, h'.get?_iff, hd, hplace]

/-- Where the entry document is in two registries, of which the second one holds every document of
the first one, the documents of the first one are in the second one, and under the same keys.  The
runs part by a document that is not registered. -/
def Replaces.relocation {version : Version} {o : Options} :
    Relocation ⟨r₁, q, o, version⟩ ⟨r₁', q', o, version⟩ where
  known p := p = q ∨ ∃ d, r.documents[p]? = some d
  place := r.placeIn r' q q'
  parts := Diagnostic.SaysUnregistered
  known_entry := .inl rfl
  place_entry := if_pos rfl
  source hp := documents_placeIn h h' hsub hr hr' hp
  injective hp hp' heq := placeIn_injective h h' hsub hr hr' hp hp' heq
  named hp text := by
    unfold place?
    cases Uri.ofText? text with
    | none => simp
    | some u => exact get?_placeIn_iff h h' hsub hr hr' hp u.key
  followed _ {text p} hplace := by
    obtain ⟨u, -, hget⟩ := Option.bind_eq_some_iff.mp hplace
    rcases (hr.get?_iff _ _).mp hget with ⟨-, hq⟩ | ⟨-, -, hold⟩
    · exact .inl hq
    · obtain ⟨d, hd, -⟩ := (h.get?_iff _ _).mp hold
      exact .inr ⟨d, hd⟩
  unnamed _ _ _ := .inr fun reference label p => ⟨_, reference, label, p, rfl⟩
  version := rfl
  resolveExternal := rfl
  maxDepth := .inl rfl

end Subset

end Registry

/-! ## Imports -/

namespace Importer

variable {i i' : Importer} {calls calls' : List (String × String)}

/-- The importer after documents were registered, each with its URI and text, if none of them fails.
-/
def registerEach (i : Importer) (calls : List (String × String)) : Except ImportError Importer :=
  calls.foldlM (fun i call => i.register call.1 call.2) i

/-- A document is what registering a text under a URI adds. -/
def Adds (call : String × String) (d : RegisteredDocument) : Prop :=
  ∃ base loaded, Uri.ofText? call.1 = some base ∧ LoadedDocument.ofText call.2 = .ok loaded ∧
    d = .ofLoaded base loaded

theorem Adds.unique {call : String × String} {d d' : RegisteredDocument} (h : Adds call d)
    (h' : Adds call d') : d = d' := by
  obtain ⟨base, loaded, hbase, hload, rfl⟩ := h
  obtain ⟨base', loaded', hbase', hload', rfl⟩ := h'
  obtain rfl := Option.some.inj (hbase.symm.trans hbase')
  obtain rfl := Except.ok.inj (hload.symm.trans hload')
  rfl

/-- A document that can be registered has no key that is taken, and stands behind all others. -/
theorem exists_add_of_register {uri text : String} (h : i.register uri text = .ok i') :
    i'.options = i.options ∧ ∃ d, Adds (uri, text) d ∧ i.registry.taken? d = none ∧
      i'.registry = i.registry.add d := by
  obtain ⟨hoptions, hregistry⟩ := of_register h
  obtain ⟨loaded, hload, hinsert⟩ := of_bind_eq_ok hregistry
  replace hinsert := of_mapError_eq_ok hinsert
  unfold Registry.insert at hinsert
  split at hinsert
  · cases hinsert
  · next base hbase =>
    dsimp only at hinsert
    split at hinsert
    · cases hinsert
    · next hfree =>
      exact ⟨hoptions, _, ⟨base, loaded, hbase, hload, rfl⟩, hfree, (Except.ok.inj hinsert).symm⟩

/-- Where every registration succeeds, the documents are those of the calls, and every key stands
for the document that has it. -/
theorem registerEach_spec (h : i.registerEach calls = .ok i') (hexact : i.registry.Exact) :
    i'.options = i.options ∧ i'.registry.Exact ∧
      ∀ d, d ∈ i'.registry.documents ↔
        d ∈ i.registry.documents ∨ ∃ call ∈ calls, Adds call d := by
  induction calls generalizing i with
  | nil =>
    obtain rfl := Except.ok.inj h
    exact ⟨rfl, hexact, by simp⟩
  | cons call rest ih =>
    obtain ⟨next, hregister, hrest⟩ := of_bind_eq_ok h
    obtain ⟨hoptions, d, hadds, hfree, hregistry⟩ := exists_add_of_register hregister
    obtain ⟨hoptions', hexact', hdocuments⟩ := ih hrest (hregistry ▸ hexact.add hfree)
    refine ⟨hoptions'.trans hoptions, hexact', fun d' => ?_⟩
    have hnext : d' ∈ next.registry.documents ↔ d' ∈ i.registry.documents ∨ Adds call d' := by
      rw [hregistry, Registry.add, List.mem_append, List.mem_singleton]
      exact or_congr_right ⟨fun heq => heq ▸ hadds, fun hadds' => hadds'.unique hadds⟩
    rw [hdocuments, hnext, or_assoc, List.exists_mem_cons_iff]

/-- An entry document is bound alike in two registries of which the second one holds every document
of the first one, unless the runs part by a document that is not registered. -/
theorem bind_eq_of_documents_subset (hexact : i.registry.Exact) (hexact' : i'.registry.Exact)
    (hoptions : i'.options = i.options)
    (hsub : ∀ d ∈ i.registry.documents, d ∈ i'.registry.documents) (hback : i.EntryReadsBack)
    {d : LoadedDocument} (hparts : ∀ description found, i.bind d = .ok (description, found) →
      ∀ D ∈ found.diagnostics, ¬ D.SaysUnregistered) : i'.bind d = i.bind d := by
  have hentry : i'.entryUri = i.entryUri := by rw [entryUri, entryUri, hoptions]
  cases hversion : Version.declaredIn d.root with
  | error fault =>
    rw [bind_of_declaredIn_eq_error _ hversion, bind_of_declaredIn_eq_error _ hversion]
  | ok given =>
    obtain ⟨version, declared⟩ := given
    cases hbase : Uri.ofText? i.entryUri with
    | none =>
      rw [bind_of_replace_eq_error hversion (Registry.replace_of_ofText?_eq_none hbase d),
        bind_of_replace_eq_error hversion
          (Registry.replace_of_ofText?_eq_none (hentry.symm ▸ hbase) d), hentry]
    | some base =>
      obtain ⟨registry, hreplace⟩ := i.registry.exists_replace hbase d
      obtain ⟨registry', hreplace'⟩ := i'.registry.exists_replace (hentry.symm ▸ hbase) d
      obtain ⟨_, q, hq, -, hr⟩ := hexact.replaces hreplace
      obtain rfl := Option.some.inj (hbase.symm.trans hq)
      obtain ⟨_, q', hq', -, hr'⟩ := hexact'.replaces hreplace'
      obtain rfl := Option.some.inj (hbase.symm.trans (hentry ▸ hq'))
      have hkey := hr.keeps.place?_key (hback base hbase)
      have hkey' := hr'.keeps.place?_key (hback base hbase)
      rw [bind_of_replace_eq_ok hversion hreplace, Registry.bind_of_place? hkey hr.here] at hparts ⊢
      rw [bind_of_replace_eq_ok hversion hreplace', Registry.bind_of_place? hkey' hr'.here,
        hoptions]
      refine congrArg _ (RegisteredDocument.bind_eq_of_relocation
        (Registry.Replaces.relocation hexact hexact' hsub hr hr') hr.here declared ?_)
      exact fun description found hbound =>
        hparts description found (congrArg (·.mapError BindingFault.toImportError) hbound)

/-- If every registration succeeds, and the documents of one importer are documents of another one
with the same options, then an import that does not report a document that is not registered gives
the same with the second one, in whatever order the documents were registered. -/
theorem run_eq_of_documents_subset (o : Options) (h : (ofOptions o).registerEach calls = .ok i)
    (h' : (ofOptions o).registerEach calls' = .ok i')
    (hsub : ∀ d ∈ i.registry.documents, d ∈ i'.registry.documents) (hback : i.EntryReadsBack)
    {text : String} (hfound : ∀ report, i.Reports text report →
      ∀ D ∈ report.diagnostics, ¬ D.SaysUnregistered) : i'.run text = i.run text := by
  obtain ⟨ho, hexact, -⟩ := registerEach_spec h Registry.exact_empty
  obtain ⟨ho', hexact', -⟩ := registerEach_spec h' Registry.exact_empty
  have hoptions : i'.options = i.options := ho'.trans ho.symm
  refine run_eq_of_reports (fun format bound => ?_)
    (fun d _ => bind_eq_of_documents_subset hexact hexact' hoptions hsub hback) hfound
  unfold finish checked
  rw [hoptions]

/-- A text with a schema that is a reference to another document. -/
def referringText : String :=
  "\x7b\"openapi\":\"3.1.0\",\"components\":\x7b\"schemas\":\x7b\"A\":\x7b\"$ref\":\"p\"\x7d\x7d\x7d\x7d"

/-- The document that `referringText` refers to. -/
def neededCalls : List (String × String) := [("http://example.invalid/p", "\x7b\x7d")]

/-- Another document, and the one that `referringText` refers to. -/
def furtherCalls : List (String × String) := ("http://example.invalid/q", "\x7b\x7d") :: neededCalls

/-- The import of `referringText` gives the same with and without the document that it does not
refer to, which is registered before the other one. -/
theorem run_eq_of_documents_subset_referringText :
    ∃ i i', (ofOptions .standard).registerEach neededCalls = .ok i ∧
      (ofOptions .standard).registerEach furtherCalls = .ok i' ∧
      (∀ d ∈ i.registry.documents, d ∈ i'.registry.documents) ∧ i.EntryReadsBack ∧
      (∀ report, i.Reports referringText report →
        ∀ D ∈ report.diagnostics, ¬ D.SaysUnregistered) ∧
      i'.run referringText = i.run referringText := by
  have hrun : ((ofOptions .standard).registerEach neededCalls).toOption.any (fun i =>
      (i.run referringText).toOption.any fun out =>
        out.report.diagnostics.all (·.category ≠ .unresolvedReference)) = true := by decide +kernel
  have hfurther : ((ofOptions .standard).registerEach furtherCalls).toOption.isSome = true := by
    decide +kernel
  cases h : (ofOptions .standard).registerEach neededCalls with
  | error fault =>
    rw [h] at hrun
    cases hrun
  | ok i =>
    cases h' : (ofOptions .standard).registerEach furtherCalls with
    | error fault =>
      rw [h'] at hfurther
      cases hfurther
    | ok i' =>
      obtain ⟨ho, -, hdocuments⟩ := registerEach_spec h Registry.exact_empty
      obtain ⟨-, -, hdocuments'⟩ := registerEach_spec h' Registry.exact_empty
      have hsub : ∀ d ∈ i.registry.documents, d ∈ i'.registry.documents := fun d hd =>
        (hdocuments' d).mpr (((hdocuments d).mp hd).imp_right fun ⟨call, hcall, hadds⟩ =>
          ⟨call, List.mem_cons_of_mem _ hcall, hadds⟩)
      have hback : i.EntryReadsBack := entryReadsBack_of_baseUri_eq_none (ho ▸ rfl)
      have hfound : ∀ report, i.Reports referringText report →
          ∀ D ∈ report.diagnostics, ¬ D.SaysUnregistered := by
        rw [h] at hrun
        cases hout : i.run referringText with
        | error fault => simp [Except.toOption, hout] at hrun
        | ok out =>
          have hall : ∀ D ∈ out.report.diagnostics, D.category ≠ .unresolvedReference := by
            simpa [Except.toOption, hout] using hrun
          rintro report hreport D hD ⟨document, reference, label, p, rfl⟩
          obtain rfl := hreport.unique (.inl ⟨out, hout, rfl⟩)
          exact hall _ hD rfl
      exact ⟨i, i', rfl, rfl, hsub, hback, hfound,
        run_eq_of_documents_subset .standard h h' hsub hback hfound⟩

end Importer

end ApiDescription
