import Mathlib.Data.List.Nodup
import ApiDescription.Proofs.Binding.Places
import ApiDescription.Proofs.Uri.Placeholder

/-!
# Labels of documents

In messages a document goes by its key, without the placeholder if this is at the front of the key.
Such a label is to be looked up again, and to tell the documents of a registry apart.  It does both
unless what is left of a key without the placeholder means something of its own:
`Registry.labels_spec` says which labels lead back to their documents, and which documents share a
label.
-/

namespace ApiDescription

/-! ## Labels -/

theorem shownKey_append (reference : String) :
    shownKey (Uri.placeholder.text ++ reference) = reference := by
  have hprefix : Uri.placeholder.text.toList.isPrefixOf
      (Uri.placeholder.text ++ reference).toList = true := by
    rw [List.isPrefixOf_iff_prefix, String.toList_append]
    exact List.prefix_append _ _
  rw [shownKey, withoutFront, if_pos hprefix, String.toList_append, ← String.length_toList,
    List.drop_left, String.ofList_toList]

theorem shownKey_of_forall_ne {key : String}
    (h : ∀ reference, key ≠ Uri.placeholder.text ++ reference) : shownKey key = key := by
  refine if_neg fun hprefix => ?_
  obtain ⟨rest, hrest⟩ := List.isPrefixOf_iff_prefix.mp hprefix
  refine h (String.ofList rest) (String.toList_inj.mp ?_)
  rw [String.toList_append, String.toList_ofList, hrest]

/-- The label of a key leads back to it unless something that starts anew is left without the
placeholder; a key without the placeholder at its front is its own label. -/
theorem Uri.leadsTo_shownKey_iff {text : String} {u : Uri} (h : ofText? text = some u) :
    LeadsTo (shownKey u.key) u.key ↔
      (∀ reference, u.key = placeholder.text ++ reference → startsAnew reference = false) ∧
      ((∀ reference, u.key ≠ placeholder.text ++ reference) → LeadsTo u.key u.key) := by
  by_cases hfront : ∃ reference, u.key = placeholder.text ++ reference
  · obtain ⟨reference, hkey⟩ := hfront
    have hlabel : shownKey u.key = reference := hkey ▸ shownKey_append reference
    rw [hlabel, leadsTo_iff h hkey]
    constructor
    · refine fun hanew => ⟨fun other hother => ?_, fun hnone => absurd hkey (hnone reference)⟩
      rw [← shownKey_append other, ← hother, hlabel]
      exact hanew
    · exact fun hall => hall.1 reference hkey
  · have hnone : ∀ reference, u.key ≠ placeholder.text ++ reference := fun reference hkey =>
      hfront ⟨reference, hkey⟩
    rw [shownKey_of_forall_ne hnone]
    exact ⟨fun hleads => ⟨fun reference hkey => absurd hkey (hnone reference), fun _ => hleads⟩,
      fun hall => hall.2 hnone⟩

/-- Two keys share a label if one is the other behind the placeholder, and this other one is its
own label. -/
theorem shownKey_eq_iff {key key' : String} (hne : key ≠ key') :
    shownKey key = shownKey key' ↔
      shownKey key = key ∧ key' = Uri.placeholder.text ++ key ∨
      shownKey key' = key' ∧ key = Uri.placeholder.text ++ key' := by
  have hcases : ∀ key : String, shownKey key = key ∨
      key = Uri.placeholder.text ++ shownKey key := by
    intro key
    by_cases hfront : ∃ reference, key = Uri.placeholder.text ++ reference
    · obtain ⟨reference, rfl⟩ := hfront
      exact .inr (by rw [shownKey_append])
    · exact .inl (shownKey_of_forall_ne fun reference hkey => hfront ⟨reference, hkey⟩)
  constructor
  · intro hlabel
    rcases hcases key with hself | hkey <;> rcases hcases key' with hself' | hkey'
    · exact absurd (hself.symm.trans (hlabel.trans hself')) hne
    · exact .inl ⟨hself, hkey'.trans (by rw [← hlabel, hself])⟩
    · exact .inr ⟨hself', hkey.trans (by rw [hlabel, hself'])⟩
    · exact absurd (hkey.trans (by rw [hlabel, ← hkey'])) hne
  · rintro (⟨hself, rfl⟩ | ⟨hself, rfl⟩)
    · rw [shownKey_append, hself]
    · rw [shownKey_append, hself]

namespace Registry

variable {r r₁ : Registry} {q : Nat} {d e : RegisteredDocument}

/-! ## Documents with keys of their own -/

/-- No two documents are registered under one key. -/
def KeyedApart (r : Registry) : Prop := r.documents.Pairwise fun d d' => d.key ≠ d'.key

theorem Exact.keyedApart (h : r.Exact) : r.KeyedApart :=
  h.pairwise_disjoint.imp fun {d d'} hdisjoint (heq : d.key = d'.key) =>
    hdisjoint d.key_mem_keys (heq ▸ d'.key_mem_keys)

theorem taken?_eq_of_key {p : Nat} (h : r.places.get? d.key = some p) :
    r.taken? d = some (d.key, p) := by
  unfold taken? RegisteredDocument.keys
  rw [List.eraseDups_cons, List.findSome?_cons, h]
  rfl

/-- The entry document takes the place of the document that is registered under its key, so the keys
stay apart. -/
theorem Exact.keyedApart_of_replaces (h : r.Exact) (hr : r.Replaces r₁ q e) : r₁.KeyedApart := by
  have hentry : ∀ {p d}, p ≠ q → r₁.documents[p]? = some d → d.key ≠ e.key := by
    intro p d hp hd heq
    have htaken := taken?_eq_of_key (heq ▸ h.get?_key ((hr.other hp).symm.trans hd))
    rcases hr.place with ⟨hnone, -⟩ | ⟨key, hsome⟩
    · cases hnone.symm.trans htaken
    · exact hp (Prod.mk.inj (Option.some.inj (htaken.symm.trans hsome))).2
  refine List.pairwise_iff_getElem.mpr fun p p' hp hp' hlt heq => ?_
  have hd := List.getElem?_eq_getElem hp
  have hd' := List.getElem?_eq_getElem hp'
  have hhere := hr.here
  by_cases hpq : p = q
  · rw [← hpq, hd] at hhere
    exact hentry (by omega) hd' (heq.symm.trans (congrArg _ (Option.some.inj hhere)))
  by_cases hpq' : p' = q
  · rw [← hpq', hd'] at hhere
    exact hentry hpq hd (heq.trans (congrArg _ (Option.some.inj hhere)))
  · -- both documents were there before, at the same places
    have hget := h.get?_key ((hr.other hpq).symm.trans hd)
    have hget' := h.get?_key ((hr.other hpq').symm.trans hd')
    rw [heq] at hget
    exact Nat.ne_of_lt hlt (Option.some.inj (hget.symm.trans hget'))

/-- Where keys are apart, labels are if no key is another one behind the placeholder. -/
theorem KeyedApart.namedApart_iff (h : r.KeyedApart) : r.NamedApart ↔
    ∀ d ∈ r.documents, shownKey d.key = d.key →
      ∀ d' ∈ r.documents, d'.key ≠ Uri.placeholder.text ++ d.key := by
  constructor
  · intro hnamed d hd hself d' hd' hkey
    have hlabel : shownKey d.key = shownKey d'.key := by rw [hkey, shownKey_append, hself]
    obtain rfl := List.inj_on_of_nodup_map hnamed hd hd' hlabel
    have hlength := congrArg String.length hkey
    have hpos : 0 < Uri.placeholder.text.length := by decide +kernel
    rw [String.length_append] at hlength
    omega
  · intro hall
    refine List.pairwise_map.mpr (h.imp_of_mem fun {d d'} hd hd' hne hlabel => ?_)
    rcases (shownKey_eq_iff hne).mp hlabel with ⟨hself, hkey⟩ | ⟨hself, hkey⟩
    · exact hall d hd hself d' hd' hkey
    · exact hall d' hd' hself d hd hkey

/-! ## Looking labels up -/

/-- A label that leads back to the key of a document is looked up, and the document is found, or the
entry document if the key is one of its own. -/
theorem Exact.get?_shownKey_of_replaces (h : r.Exact) (hr : r.Replaces r₁ q e)
    (hd : d ∈ r₁.documents) (hleads : Uri.LeadsTo (shownKey d.key) d.key) :
    r₁.get? (shownKey d.key) = some (if d.key ∈ e.keys then e else d) := by
  obtain ⟨u, hu, hkey⟩ := hleads
  split
  · next hmem => exact hr.get?_entry hu (hkey ▸ hmem)
  · next hmem =>
    obtain ⟨p, hp⟩ := List.getElem?_of_mem hd
    have hpq : p ≠ q := by
      rintro rfl
      obtain rfl := Option.some.inj (hp.symm.trans hr.here)
      exact hmem d.key_mem_keys
    have hplace : r₁.places.get? d.key = some p :=
      (hr.get?_iff _ _).mpr (.inr ⟨hmem, hpq, h.get?_key ((hr.other hpq).symm.trans hp)⟩)
    unfold get? place? placeOf?
    rw [hu, Option.bind_some, hkey, hplace]
    exact hp

/-- Every document of a registry is given by one of the calls that led to it. -/
theorem exists_gives_of_mem_afterAll {calls : List Call} (h : d ∈ (r.afterAll calls).documents) :
    d ∈ r.documents ∨ ∃ c ∈ calls, c.Gives d := by
  induction calls generalizing r with
  | nil => exact .inl h
  | cons c rest ih =>
    rcases ih h with hafter | ⟨c', hc', hgives⟩
    · cases hrun : c.run r with
      | error fault => exact .inl (after_of_eq_error hrun ▸ hafter)
      | ok r' =>
        obtain ⟨d', hgives, -, rfl⟩ := Call.run_eq_ok_iff.mp hrun
        rw [after_of_eq_ok hrun] at hafter
        rcases List.mem_append.mp hafter with hold | hnew
        · exact .inl hold
        · obtain rfl := List.mem_singleton.mp hnew
          exact .inr ⟨c, List.mem_cons_self, hgives⟩
    · exact .inr ⟨c', List.mem_cons_of_mem _ hc', hgives⟩

/-- The label of a URI leads back to its key unless something that starts anew is left without the
placeholder.  After any calls, a document is found under its label if this leads to one of its keys,
and so it is after an entry document was put there, unless the key of the document is one of the
entry document, which is found then.  Two documents share a label just if the key of one is that of
the other behind the placeholder, and the other is its own label. -/
theorem labels_spec (calls : List Call) :
    (∀ text u, Uri.ofText? text = some u →
      (Uri.LeadsTo (shownKey u.key) u.key ↔
        (∀ reference, u.key = Uri.placeholder.text ++ reference →
          Uri.startsAnew reference = false) ∧
        ((∀ reference, u.key ≠ Uri.placeholder.text ++ reference) → Uri.LeadsTo u.key u.key))) ∧
    let r := empty.afterAll calls
    (∀ d ∈ r.documents, (∃ c ∈ calls, c.Gives d) ∧
      (r.get? (shownKey d.key) = some d ↔ ∃ key ∈ d.keys, Uri.LeadsTo (shownKey d.key) key)) ∧
    (r.NamedApart ↔ ∀ d ∈ r.documents, shownKey d.key = d.key →
      ∀ d' ∈ r.documents, d'.key ≠ Uri.placeholder.text ++ d.key) ∧
    ∀ uri loaded r₁ key, r.replace uri loaded = .ok (r₁, key) →
      ∃ e ∈ r₁.documents, e.key = key ∧
        (∀ d ∈ r₁.documents, Uri.LeadsTo (shownKey d.key) d.key →
          r₁.get? (shownKey d.key) = some (if d.key ∈ e.keys then e else d)) ∧
        (r₁.NamedApart ↔ ∀ d ∈ r₁.documents, shownKey d.key = d.key →
          ∀ d' ∈ r₁.documents, d'.key ≠ Uri.placeholder.text ++ d.key) := by
  have hexact : (empty.afterAll calls).Exact := (exact_empty.afterAll calls).1
  refine ⟨fun text u => Uri.leadsTo_shownKey_iff, fun d hd => ⟨?_, ?_⟩,
    hexact.keyedApart.namedApart_iff, ?_⟩
  · exact (exists_gives_of_mem_afterAll hd).resolve_left List.not_mem_nil
  · rw [hexact.get?_eq_some_iff]
    constructor
    · rintro ⟨-, u, hu, hkey⟩
      exact ⟨u.key, hkey, u, hu, rfl⟩
    · rintro ⟨-, hkey, u, hu, rfl⟩
      exact ⟨hd, u, hu, hkey⟩
  · intro uri loaded r₁ key hreplace
    obtain ⟨base, q, -, hkey, hr⟩ := hexact.replaces hreplace
    exact ⟨_, List.mem_of_getElem? hr.here, hkey.symm,
      fun d hd hleads => hexact.get?_shownKey_of_replaces hr hd hleads,
      (hexact.keyedApart_of_replaces hr).namedApart_iff⟩

/-- An empty document is put under a relative URI with a colon in it, under what this looks like
without its dot, and under a relative URI that stays one. -/
def colonCalls : List Call := ["./x:y", "x:y", "a/b"].map (.insert · ⟨.json, .object []⟩)

/-- The first two documents share a label, which is read as the URI of the second one; the third one
is found under its label, and so is an entry document that is put there then. -/
theorem labels_colonCalls :
    let r := empty.afterAll colonCalls
    ∃ d₁ d₂ d₃, r.documents = [d₁, d₂, d₃] ∧ shownKey d₁.key = shownKey d₂.key ∧ ¬ r.NamedApart ∧
      ¬ Uri.LeadsTo (shownKey d₁.key) d₁.key ∧ r.get? (shownKey d₃.key) = some d₃ ∧
      ∃ r₁ e, r.replace "a/e" ⟨.json, .object []⟩ = .ok (r₁, e.key) ∧
        r₁.get? (shownKey e.key) = some e := by
  intro r
  let document (u : Uri) : RegisteredDocument := .ofLoaded u ⟨.json, .object []⟩
  let below (path : String) : Uri := { Uri.placeholder with path }
  obtain ⟨h₁, h₂, h₃, he⟩ : Uri.ofText? "./x:y" = some (below "/x:y") ∧
      Uri.ofText? "x:y" = some ⟨"x", none, "y", none, none⟩ ∧
      Uri.ofText? "a/b" = some (below "/a/b") ∧ Uri.ofText? "a/e" = some (below "/a/e") := by
    decide +kernel
  have hdocuments : r.documents = [document (below "/x:y"),
      document ⟨"x", none, "y", none, none⟩, document (below "/a/b")] := by
    have hinsert : ∀ {r : Registry} {uri u}, Uri.ofText? uri = some u →
        r.taken? (document u) = none →
        r.after (.insert uri ⟨.json, .object []⟩) = r.add (document u) := fun hu hfree =>
      after_of_eq_ok (Call.run_eq_ok_iff.mpr ⟨_, ⟨_, _, hu, rfl, rfl⟩, hfree, rfl⟩)
    have hcalls : r = ((empty.after (.insert "./x:y" ⟨.json, .object []⟩)).after
        (.insert "x:y" ⟨.json, .object []⟩)).after (.insert "a/b" ⟨.json, .object []⟩) := rfl
    rw [hcalls, hinsert h₁ (by decide +kernel), hinsert h₂ (by decide +kernel),
      hinsert h₃ (by decide +kernel)]
    rfl
  obtain ⟨huri, hfound, hnamed, hreplaces⟩ := labels_spec colonCalls
  have hleads : ∀ {path u}, Uri.ofText? path = some u → u.key = Uri.placeholder.text ++ path →
      Uri.startsAnew path = false → Uri.LeadsTo (shownKey u.key) u.key := by
    intro path u hu hkey hstays
    refine (huri path u hu).mpr ⟨fun reference hreference => ?_, fun hnone => absurd hkey (hnone _)⟩
    rw [← shownKey_append reference, ← hreference, hkey, shownKey_append]
    exact hstays
  refine ⟨_, _, _, hdocuments, by decide +kernel, fun hapart => ?_, fun hback => ?_, ?_, ?_⟩
  · exact hnamed.mp hapart (document ⟨"x", none, "y", none, none⟩) (by simp [r, hdocuments])
      (by decide +kernel) (document (below "/x:y")) (by simp [r, hdocuments]) (by decide +kernel)
  · have hstays := ((huri "./x:y" _ h₁).mp hback).1 "x:y" (by decide +kernel)
    exact absurd hstays (by decide +kernel)
  · have hthird := hleads h₃ (by decide +kernel) (by decide +kernel)
    exact (hfound _ (by simp [r, hdocuments])).2.mpr ⟨_, RegisteredDocument.key_mem_keys _, hthird⟩
  · obtain ⟨r₁, hreplace⟩ := r.exists_replace he ⟨.json, .object []⟩
    obtain ⟨e, hmem, hkey, hlooked, -⟩ := hreplaces _ _ _ _ hreplace
    have hentry : Uri.LeadsTo (shownKey e.key) e.key := by
      rw [hkey]
      exact hleads he (by decide +kernel) (by decide +kernel)
    exact ⟨r₁, e, hkey ▸ hreplace, by simpa using hlooked e hmem hentry⟩

end Registry

end ApiDescription
