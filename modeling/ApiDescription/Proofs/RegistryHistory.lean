import ApiDescription.Proofs.Registration

/-!
# Registries after any calls

Documents are put into a registry by calls of which some fail.  A call that fails leaves the
registry as it was, and one that succeeds adds a document none of whose keys is taken; so the
registry is exact after every sequence of calls, and `Registry.afterAll_spec` says what that
means for the calls, for looking up, and for the number of documents.

An entry document is then put into such a registry without a test for collisions.
`Registry.get?_replace` says which documents are found after that.  It takes the place of the
document that has the first of its keys that is taken, and this document is lost even if it was
registered under another URI.
-/

namespace ApiDescription

namespace Registry

/-- A call that is to put a document into a registry. -/
inductive Call where
  /-- A text is to be loaded and put under a URI. -/
  | register (uri text : String)
  /-- A tree is to be put under a URI. -/
  | insert (uri : String) (loaded : LoadedDocument)

namespace Call

/-- The URI that is given. -/
def uri : Call → String
  | register uri _ => uri
  | insert uri _ => uri

/-- The tree that is given, or that of the text. -/
def loaded : Call → Except ImportError LoadedDocument
  | register _ text => LoadedDocument.ofText text
  | insert _ loaded => .ok loaded

/-- What a call makes of a registry. -/
def run (r : Registry) : Call → Except ImportError Registry
  | register uri text => r.register uri text
  | insert uri loaded => (r.insert uri loaded).mapError fun fault => .general fault.message

/-- The document that a call is to put into a registry. -/
def Gives (c : Call) (d : RegisteredDocument) : Prop :=
  ∃ base loaded, Uri.ofText? c.uri = some base ∧ c.loaded = .ok loaded ∧ d = .ofLoaded base loaded

variable {r r' : Registry} {c : Call}

theorem run_eq (r : Registry) (c : Call) :
    c.run r = c.loaded >>= fun loaded =>
      (r.insert c.uri loaded).mapError fun fault => .general fault.message := by
  cases c with
  | register uri text => rfl
  | insert uri loaded =>
    rw [run, Call.loaded, Call.uri, ok_bind]

end Call

theorem insert_eq_ok_iff {r r' : Registry} {uri : String} {loaded : LoadedDocument} :
    r.insert uri loaded = .ok r' ↔ ∃ base, Uri.ofText? uri = some base ∧
      r.taken? (.ofLoaded base loaded) = none ∧ r' = r.add (.ofLoaded base loaded) := by
  unfold insert
  cases Uri.ofText? uri with
  | none => simp
  | some base =>
    dsimp only
    split
    · next htaken => simp [htaken]
    · next hfree => simp [hfree, eq_comm]

/-- A call succeeds if it gives a document none of whose keys is taken, and then puts it behind the
others. -/
theorem Call.run_eq_ok_iff {r r' : Registry} {c : Call} :
    c.run r = .ok r' ↔ ∃ d, c.Gives d ∧ r.taken? d = none ∧ r' = r.add d := by
  rw [run_eq]
  constructor
  · intro hrun
    obtain ⟨loaded, hloaded, hinsert⟩ := of_bind_eq_ok hrun
    obtain ⟨base, hbase, hfree, hr'⟩ := insert_eq_ok_iff.mp (of_mapError_eq_ok hinsert)
    exact ⟨_, ⟨base, loaded, hbase, hloaded, rfl⟩, hfree, hr'⟩
  · rintro ⟨_, ⟨base, loaded, hbase, hloaded, rfl⟩, hfree, hr'⟩
    have hinsert : r.insert c.uri loaded = .ok r' := insert_eq_ok_iff.mpr ⟨base, hbase, hfree, hr'⟩
    rw [hloaded, ok_bind, hinsert, Except.mapError]

/-! ## Sequences of calls -/

/-- The registry after a call.  One that fails leaves it as it is. -/
def after (r : Registry) (c : Call) : Registry := (c.run r).toOption.getD r

/-- The registry after several calls. -/
def afterAll (r : Registry) (calls : List Call) : Registry := calls.foldl after r

/-- How many of several calls succeed. -/
def successes (r : Registry) : List Call → Nat
  | [] => 0
  | c :: rest => (if (c.run r).isOk then 1 else 0) + (r.after c).successes rest

variable {r : Registry} {c : Call}

theorem after_of_eq_ok {r' : Registry} (h : c.run r = .ok r') : r.after c = r' := by
  unfold after
  rw [h]
  rfl

theorem after_of_eq_error {fault : ImportError} (h : c.run r = .error fault) : r.after c = r := by
  unfold after
  rw [h]
  rfl

/-- A registry stays exact, and has one document more if the call succeeds. -/
theorem Exact.after (h : r.Exact) (c : Call) :
    (r.after c).Exact ∧ (r.after c).size = r.size + if (c.run r).isOk then 1 else 0 := by
  cases hrun : c.run r with
  | error fault =>
    rw [after_of_eq_error hrun]
    exact ⟨h, rfl⟩
  | ok r' =>
    obtain ⟨d, -, hfree, rfl⟩ := Call.run_eq_ok_iff.mp hrun
    rw [after_of_eq_ok hrun]
    exact ⟨h.add hfree, List.length_append⟩

/-- A registry stays exact, and has one document more for each call that succeeds. -/
theorem Exact.afterAll (h : r.Exact) (calls : List Call) :
    (r.afterAll calls).Exact ∧ (r.afterAll calls).size = r.size + r.successes calls := by
  -- by induction on the calls; what one call keeps is `Exact.after`
  induction calls generalizing r with
  | nil => exact ⟨h, rfl⟩
  | cons c rest ih =>
    obtain ⟨hafter, hsize⟩ := h.after c
    obtain ⟨hexact, hrest⟩ := ih hafter
    refine ⟨hexact, hrest.trans ?_⟩
    rw [hsize, Nat.add_assoc]
    rfl

/-! ## Exact registries -/

/-- A key is taken if a document has it. -/
theorem Exact.get?_eq_none_iff (h : r.Exact) (key : String) :
    r.places.get? key = none ↔ ∀ d ∈ r.documents, key ∉ d.keys := by
  rw [Option.eq_none_iff_forall_ne_some]
  constructor
  · intro hnone d hd hkey
    obtain ⟨p, hp⟩ := List.getElem?_of_mem hd
    exact hnone p ((h.get?_iff key p).mpr ⟨d, hp, hkey⟩)
  · intro hfree p hget
    obtain ⟨d, hd, hkey⟩ := (h.get?_iff key p).mp hget
    exact hfree d (List.mem_of_getElem? hd) hkey

/-- No two documents have a key in common. -/
theorem Exact.pairwise_disjoint (h : r.Exact) :
    r.documents.Pairwise fun d d' => d.keys.Disjoint d'.keys := by
  rw [List.pairwise_iff_getElem]
  intro p p' hp hp' hlt key hkey hkey'
  -- a key stands for one place only
  have hget := (h.get?_iff key p).mpr ⟨_, List.getElem?_eq_getElem hp, hkey⟩
  have hget' := (h.get?_iff key p').mpr ⟨_, List.getElem?_eq_getElem hp', hkey'⟩
  exact Nat.ne_of_lt hlt (Option.some.inj (hget.symm.trans hget'))

/-- A text stands for the document that has the key of the URI it names. -/
theorem Exact.get?_eq_some_iff (h : r.Exact) (text : String) (d : RegisteredDocument) :
    r.get? text = some d ↔
      d ∈ r.documents ∧ ∃ u, Uri.ofText? text = some u ∧ u.key ∈ d.keys := by
  unfold get? place? placeOf?
  constructor
  · intro hget
    obtain ⟨p, hplace, hd⟩ := Option.bind_eq_some_iff.mp hget
    obtain ⟨u, hu, hp⟩ := Option.bind_eq_some_iff.mp hplace
    obtain ⟨d', hd', hkey⟩ := (h.get?_iff _ _).mp hp
    obtain rfl := Option.some.inj (hd.symm.trans hd')
    exact ⟨List.mem_of_getElem? hd, u, hu, hkey⟩
  · rintro ⟨hd, u, hu, hkey⟩
    obtain ⟨p, hp⟩ := List.getElem?_of_mem hd
    rw [hu, Option.bind_some, (h.get?_iff _ _).mpr ⟨d, hp, hkey⟩]
    exact hp

/-- After any calls, of which some may have failed, the next one succeeds if its text can be loaded,
its URI is one, and no key of the document stands for one that is there; if it fails, then whatever
is looked up is as before, and so is the number of documents.  No two documents have a key in
common, a text stands for a document if the URI it names has one of the keys of the document, and
there are as many documents as calls that succeeded. -/
theorem afterAll_spec (calls : List Call) (c : Call) :
    let r := empty.afterAll calls
    ((∃ r', c.run r = .ok r') ↔ ∃ loaded base, c.loaded = .ok loaded ∧
      Uri.ofText? c.uri = some base ∧
      ∀ key ∈ (RegisteredDocument.ofLoaded base loaded).keys, r.places.get? key = none) ∧
    (∀ fault, c.run r = .error fault →
      (∀ text, (r.after c).get? text = r.get? text) ∧ (r.after c).size = r.size) ∧
    (∀ key, r.places.get? key = none ↔ ∀ d ∈ r.documents, key ∉ d.keys) ∧
    (r.documents.Pairwise fun d d' => d.keys.Disjoint d'.keys) ∧
    (∀ text d, r.get? text = some d ↔
      d ∈ r.documents ∧ ∃ u, Uri.ofText? text = some u ∧ u.key ∈ d.keys) ∧
    r.size = empty.successes calls := by
  intro r
  obtain ⟨hexact, hsize⟩ : r.Exact ∧ r.size = _ := exact_empty.afterAll calls
  refine ⟨?_, fun fault hfault => ?_, hexact.get?_eq_none_iff, hexact.pairwise_disjoint,
    hexact.get?_eq_some_iff, hsize.trans (Nat.zero_add _)⟩
  · constructor
    · rintro ⟨r', hrun⟩
      obtain ⟨_, ⟨base, loaded, hbase, hloaded, rfl⟩, hfree, -⟩ := Call.run_eq_ok_iff.mp hrun
      exact ⟨loaded, base, hloaded, hbase, taken?_eq_none_iff.mp hfree⟩
    · rintro ⟨loaded, base, hloaded, hbase, hfree⟩
      exact ⟨_, Call.run_eq_ok_iff.mpr
        ⟨_, ⟨base, loaded, hbase, hloaded, rfl⟩, taken?_eq_none_iff.mpr hfree, rfl⟩⟩
  · rw [after_of_eq_error hfault]
    exact ⟨fun text => rfl, rfl⟩

/-! ## The entry document -/

/-- The first key of an entry document that is taken is a key of the other document, which then
loses its place. -/
def Displaces (r : Registry) (e d : RegisteredDocument) : Prop :=
  ∃ key place, r.taken? e = some (key, place) ∧ key ∈ d.keys

variable {r₁ : Registry} {q : Nat} {e : RegisteredDocument}

theorem Replaces.get?_entry (h : r.Replaces r₁ q e) {text : String} {u : Uri}
    (hu : Uri.ofText? text = some u) (hkey : u.key ∈ e.keys) : r₁.get? text = some e := by
  have hplace : r₁.place? text = some q := (h.keeps.place?_iff text).mpr ⟨u, hu, hkey⟩
  unfold get?
  rw [hplace]
  exact h.here

/-- The document at the place of the entry document is the one that it displaces. -/
theorem Exact.displaces_iff (h : r.Exact) (hr : r.Replaces r₁ q e) {d : RegisteredDocument}
    {p : Nat} (hd : r.documents[p]? = some d) : r.Displaces e d ↔ p = q := by
  constructor
  · rintro ⟨key, place, htaken, hkey⟩
    have hp : r.places.get? key = some p := (h.get?_iff _ _).mpr ⟨d, hd, hkey⟩
    have hplace : p = place := Option.some.inj (hp.symm.trans (get?_of_taken?_eq_some htaken))
    -- the entry document is at the place of the first key that was taken, or behind all others
    rcases hr.place with ⟨hfree, -⟩ | ⟨key', htaken'⟩
    · cases hfree.symm.trans htaken
    · exact hplace.trans (Prod.mk.inj (Option.some.inj (htaken.symm.trans htaken'))).2
  · rintro rfl
    rcases hr.place with ⟨-, hlength⟩ | ⟨key, htaken⟩
    · exact absurd hlength (Nat.ne_of_lt (List.getElem?_eq_some_iff.mp hd).1)
    · obtain ⟨d', hd', hkey⟩ := (h.get?_iff _ _).mp (get?_of_taken?_eq_some htaken)
      obtain rfl := Option.some.inj (hd.symm.trans hd')
      exact ⟨key, p, htaken, hkey⟩

/-- A document whose own key the entry document does not have is found under its key unless it is
displaced. -/
theorem Exact.get?_of_replaces (h : r.Exact) (hr : r.Replaces r₁ q e) {d : RegisteredDocument}
    (hd : d ∈ r.documents) (hkey : d.key ∉ e.keys) {text : String} {u : Uri}
    (hu : Uri.ofText? text = some u) (hown : u.key = d.key) :
    (¬ r.Displaces e d → r₁.get? text = some d) ∧ (r.Displaces e d → r₁.get? text = none) := by
  obtain ⟨p, hp⟩ := List.getElem?_of_mem hd
  have hold : r.places.get? d.key = some p := h.get?_key hp
  have hplace (p' : Nat) : r₁.places.get? d.key = some p' ↔ p' ≠ q ∧ p = p' := by
    rw [hr.get?_iff, hold]
    simp [hkey]
  rw [h.displaces_iff hr hp]
  unfold get? place? placeOf?
  rw [hu, Option.bind_some, hown]
  constructor
  · intro hne
    rw [(hplace p).mpr ⟨hne, rfl⟩]
    exact (hr.other hne).trans hp
  · intro heq
    have hnone : r₁.places.get? d.key = none := by
      rw [Option.eq_none_iff_forall_ne_some]
      intro p' hget
      obtain ⟨hne, hp'⟩ := (hplace p').mp hget
      exact hne (hp' ▸ heq)
    rw [hnone]
    rfl

/-- After an entry document was put into a registry that calls led to, each text that names a URI
with one of its keys stands for it.  A document that was there before and whose own key is none of
these is still found under its own key, unless it has the first key of the entry document that was
taken; then nothing is found there. -/
theorem get?_replace (calls : List Call) {uri key : String} {loaded : LoadedDocument}
    (hreplace : (empty.afterAll calls).replace uri loaded = .ok (r₁, key)) :
    ∃ base, Uri.ofText? uri = some base ∧ key = base.key ∧
      let e := RegisteredDocument.ofLoaded base loaded
      (∀ text u, Uri.ofText? text = some u → u.key ∈ e.keys → r₁.get? text = some e) ∧
      ∀ d ∈ (empty.afterAll calls).documents, d.key ∉ e.keys →
        ∀ text u, Uri.ofText? text = some u → u.key = d.key →
          (¬ (empty.afterAll calls).Displaces e d → r₁.get? text = some d) ∧
          ((empty.afterAll calls).Displaces e d → r₁.get? text = none) := by
  have hexact : (empty.afterAll calls).Exact := (exact_empty.afterAll calls).1
  obtain ⟨base, q, hbase, hkey, hr⟩ := hexact.replaces hreplace
  exact ⟨base, hbase, hkey, fun text u hu hmem => hr.get?_entry hu hmem,
    fun d hd hown text u hu heq => hexact.get?_of_replaces hr hd hown hu heq⟩

/-- A document that calls itself `x:s`. -/
def namedText : String := "\x7b\"$id\":\"x:s\"\x7d"

/-- A document that calls itself `x:s` is registered under `x:d`. -/
def namedCalls : List Call := [.register "x:d" namedText]

/-- The document under `x:d` is there, but no longer after an entry document that calls itself
`x:s`, too, was put under `x:e`. -/
theorem get?_replace_named : ∃ loaded r₁ key d,
    LoadedDocument.ofText namedText = .ok loaded ∧
    (empty.afterAll namedCalls).replace "x:e" loaded = .ok (r₁, key) ∧
    (empty.afterAll namedCalls).get? "x:d" = some d ∧ d.key ≠ key ∧ r₁.get? "x:d" = none := by
  have hnamed : (LoadedDocument.ofText namedText).toOption.any (fun loaded =>
      (Uri.ofText? "x:d").any fun u => (Uri.ofText? "x:e").any fun base =>
        ((empty.add (.ofLoaded u loaded)).taken? (.ofLoaded base loaded)).any
            (·.1 ∈ (RegisteredDocument.ofLoaded u loaded).keys) &&
          decide (u.key ∉ (RegisteredDocument.ofLoaded base loaded).keys)) = true := by
    decide +kernel
  -- the document itself is not looked at: what is known of it is in `hnamed`
  cases hload : LoadedDocument.ofText namedText with
  | error fault =>
    rw [hload] at hnamed
    cases hnamed
  | ok loaded =>
    rw [hload] at hnamed
    obtain ⟨_, hloaded, hnamed⟩ := (Option.any_eq_true _ _).mp hnamed
    obtain rfl := Option.some.inj hloaded
    obtain ⟨u, hu, hnamed⟩ := (Option.any_eq_true _ _).mp hnamed
    obtain ⟨base, hbase, hnamed⟩ := (Option.any_eq_true _ _).mp hnamed
    obtain ⟨hdisplaces, hown⟩ := Bool.and_eq_true_iff.mp hnamed
    obtain ⟨⟨name, place⟩, htaken, hname⟩ := (Option.any_eq_true _ _).mp hdisplaces
    have hrun : (Call.register "x:d" namedText).run empty = .ok (empty.add (.ofLoaded u loaded)) :=
      Call.run_eq_ok_iff.mpr
        ⟨_, ⟨u, loaded, hu, hload, rfl⟩, taken?_eq_none_iff.mpr fun _ _ => rfl, rfl⟩
    have hcalls : empty.afterAll namedCalls = empty.add (.ofLoaded u loaded) := by
      rw [afterAll, namedCalls, List.foldl_cons, List.foldl_nil, after_of_eq_ok hrun]
    have hkey : u.key ∉ (RegisteredDocument.ofLoaded base loaded).keys := of_decide_eq_true hown
    have hd : RegisteredDocument.ofLoaded u loaded ∈ (empty.afterAll namedCalls).documents := by
      rw [hcalls]
      exact List.mem_singleton_self _
    have hget : (empty.afterAll namedCalls).get? "x:d" = some (.ofLoaded u loaded) :=
      ((exact_empty.afterAll namedCalls).1.get?_eq_some_iff _ _).mpr
        ⟨hd, u, hu, RegisteredDocument.key_mem_keys (.ofLoaded u loaded)⟩
    -- both documents call themselves the same, so the first one goes when the other comes
    obtain ⟨r₁, hreplace⟩ := (empty.afterAll namedCalls).exists_replace hbase loaded
    obtain ⟨base', hbase', -, -, hothers⟩ := get?_replace namedCalls hreplace
    obtain rfl := Option.some.inj (hbase.symm.trans hbase')
    refine ⟨loaded, r₁, base.key, _, rfl, hreplace, hget, fun heq => hkey ?_, ?_⟩
    · change u.key = base.key at heq
      rw [heq]
      exact RegisteredDocument.key_mem_keys (.ofLoaded base loaded)
    · refine (hothers _ hd hkey "x:d" u hu rfl).2 ⟨name, place, ?_, of_decide_eq_true hname⟩
      rw [hcalls]
      exact htaken

end Registry

end ApiDescription
