import Mathlib.Data.List.DropRight
import ApiDescription.Proofs.Binding.Relocation
import ApiDescription.Proofs.Import
import ApiDescription.Proofs.Registry

/-!
# Imports that follow no reference into another document

Where references into other documents are not followed, the documents that were registered before
should make no difference to what the import of a text gives.  `Importer.run_eq_iff` says exactly
when this is so: when the key of the entry document, read as a URI, does not lead to another
document than the key itself.

In two registries where the same URIs stand for the entry document, this document alone is a
`Relocation` from the one to the other.
-/

namespace ApiDescription

theorem Uri.withoutFragment_withoutFragment (u : Uri) :
    u.withoutFragment.withoutFragment = u.withoutFragment := by
  unfold withoutFragment isFlat
  dsimp only
  by_cases hflat : (u.authority.isNone && decide (u.path.toList.head? ≠ some '/')) && u.query.isNone
  · rw [if_pos hflat]
    simp [List.dropWhile_idempotent]
  · rw [if_neg hflat, if_neg hflat]

/-! ## The entry document in two registries -/

namespace Registry

variable {r r' : Registry} {place place' : Nat} {d : RegisteredDocument} {o : Options}

theorem Keeps.place?_iff (h : r.Keeps place d) (text : String) :
    r.place? text = some place ↔ ∃ u, Uri.ofText? text = some u ∧ u.key ∈ d.keys := by
  unfold place? placeOf?
  rw [Option.bind_eq_some_iff]
  simp only [h.keys]

/-- A document is found under its own key, if that is read again. -/
theorem Keeps.place?_key {base : Uri} {d : LoadedDocument} (h : r.Keeps place (.ofLoaded base d))
    (hback : Uri.parse? base.key = some base.withoutFragment) : r.place? base.key = some place := by
  refine (h.place?_iff _).mpr ⟨base.withoutFragment, ?_, ?_⟩
  · rw [Uri.ofText?, hback]
    rfl
  · have hkey : base.withoutFragment.key = base.key :=
      congrArg Uri.text base.withoutFragment_withoutFragment
    rw [hkey]
    exact RegisteredDocument.key_mem_keys (.ofLoaded base d)

/-- Where references into other documents are not followed, the entry document alone is read. -/
def Keeps.relocation (h : r.Keeps place d) (h' : r'.Keeps place' d)
    (ho : o.resolveExternal = false) (version : Version) :
    Relocation ⟨r, place, o, version⟩ ⟨r', place', o, version⟩ where
  known p := p = place
  place _ := place'
  known_entry := rfl
  place_entry := rfl
  source hp := ⟨d, hp ▸ h.here, h'.here⟩
  injective hp hq _ := hp.trans hq.symm
  named hp text := by
    subst hp
    exact (h'.place?_iff text).trans (h.place?_iff text).symm
  followed hfollows := absurd (ho.symm.trans hfollows) Bool.false_ne_true
  unnamed hfollows := absurd (ho.symm.trans hfollows) Bool.false_ne_true
  version := rfl
  resolveExternal := rfl
  maxDepth := .inl rfl

theorem replace_of_ofText?_eq_none {text : String} (h : Uri.ofText? text = none)
    (d : LoadedDocument) : r.replace text d = .error (.notUri text) := by
  unfold replace
  rw [h]

theorem exists_replace {text : String} {base : Uri} (h : Uri.ofText? text = some base)
    (d : LoadedDocument) : ∃ r', r.replace text d = .ok (r', base.key) := by
  unfold replace
  rw [h]
  dsimp only
  split
  · exact ⟨_, rfl⟩
  · exact ⟨_, rfl⟩

/-- The registry of a document alone. -/
theorem empty_replace {text : String} {base : Uri} (h : Uri.ofText? text = some base)
    (d : LoadedDocument) :
    empty.replace text d = .ok (empty.add (.ofLoaded base d), base.key) := by
  have htaken : empty.taken? (.ofLoaded base d) = none := by
    simp [taken?, empty]
  unfold replace
  rw [h]
  dsimp only
  rw [htaken]
  rfl

theorem bind_of_place? {key : String} (hplace : r.place? key = some place)
    (hd : r.documents[place]? = some d) (version : Version) (declared : String) :
    r.bind key o version declared = d.bind ⟨r, place, o, version⟩ declared := by
  unfold Registry.bind Registry.bindBy
  rw [hplace, Option.bind_some, hd]
  rfl

theorem bind_of_place?_eq_none {key : String} (hplace : r.place? key = none) (version : Version)
    (declared : String) : r.bind key o version declared = .error (.notRegistered key) := by
  unfold Registry.bind Registry.bindBy
  rw [hplace]
  rfl

/-- Alone, a document is the only one that a text may stand for. -/
theorem place?_empty_add (d : RegisteredDocument) (text : String) :
    (empty.add d).place? text = none ∨ (empty.add d).place? text = some 0 := by
  unfold place?
  cases Uri.ofText? text with
  | none => exact .inl rfl
  | some u =>
    rw [Option.bind_some, placeOf?, get?_places_add]
    split
    · exact .inr rfl
    · exact .inl rfl

/-- A text that does not stand for a document stands for no document where that one is alone. -/
theorem Keeps.place?_empty_add (h : r.Keeps place d) {text : String}
    (htext : r.place? text ≠ some place) : (empty.add d).place? text = none := by
  have halone : (empty.add d).Keeps 0 d := placed_empty.keeps_add d
  rcases Registry.place?_empty_add d text with hnone | hzero
  · exact hnone
  · exact absurd ((h.place?_iff text).mpr ((halone.place?_iff text).mp hzero)) htext

/-- Where a text stands for no other document, the document is bound as if it were alone. -/
theorem Keeps.bind_eq_alone (h : r.Keeps place d) (ho : o.resolveExternal = false) {key : String}
    (hread : ∀ other, r.place? key = some other → other = place) (version : Version)
    (declared : String) :
    r.bind key o version declared = (empty.add d).bind key o version declared := by
  have halone : (empty.add d).Keeps 0 d := placed_empty.keeps_add d
  cases hplace : r.place? key with
  | none =>
    rw [bind_of_place?_eq_none hplace,
      bind_of_place?_eq_none (h.place?_empty_add (by simp [hplace]))]
  | some other =>
    obtain rfl := hread other hplace
    have hzero : (empty.add d).place? key = some 0 :=
      (halone.place?_iff _).mpr ((h.place?_iff _).mp hplace)
    rw [bind_of_place? hplace h.here, bind_of_place? hzero halone.here]
    exact RegisteredDocument.bind_eq_of_relocation (halone.relocation h ho version) halone.here
      declared fun _ _ _ _ _ => id

end Registry

/-- A document that there is can be bound or has no object as its root. -/
theorem RegisteredDocument.bind_ne_notRegistered (d : RegisteredDocument) (S : Setting)
    (declared key : String) : d.bind S declared ≠ .error (.notRegistered key) := by
  unfold RegisteredDocument.bind Readers.bind
  split
  · generalize StateT.run _ Workspace.fresh = bound
    nofun
  · nofun

/-! ## Imports -/

namespace Importer

/-- The importer after documents were registered, each with its URI and text.  One that cannot be
registered makes no difference. -/
def registerAll (i : Importer) (calls : List (String × String)) : Importer :=
  calls.foldl (fun i call => (i.register call.1 call.2).toOption.getD i) i

variable {i i' : Importer} {uri text : String}

theorem of_register (h : i.register uri text = .ok i') :
    i'.options = i.options ∧ i.registry.register uri text = .ok i'.registry := by
  obtain ⟨registry, hregister, hi'⟩ := of_bind_eq_ok h
  cases hi'
  exact ⟨rfl, hregister⟩

/-- Registering keeps the options, and every key stands for a document. -/
theorem registerAll_spec (i : Importer) (hplaced : i.registry.Placed)
    (calls : List (String × String)) :
    (i.registerAll calls).options = i.options ∧ (i.registerAll calls).registry.Placed := by
  induction calls generalizing i with
  | nil => exact ⟨rfl, hplaced⟩
  | cons call rest ih =>
    unfold registerAll
    rw [List.foldl_cons]
    cases hregister : i.register call.1 call.2 with
    | error fault => exact ih i hplaced
    | ok i' =>
      obtain ⟨hoptions, hregistry⟩ := of_register hregister
      obtain ⟨hoptions', hplaced'⟩ := ih i' (hplaced.register hregistry)
      exact ⟨hoptions'.trans hoptions, hplaced'⟩

/-- The importer with other options. -/
def withOptions (i : Importer) (o : Options) : Importer := { i with options := o }

/-- Documents are registered alike under all options. -/
theorem registerAll_withOptions (i : Importer) (o : Options) (calls : List (String × String)) :
    (i.withOptions o).registerAll calls = (i.registerAll calls).withOptions o := by
  induction calls generalizing i with
  | nil => rfl
  | cons call rest ih =>
    unfold registerAll
    rw [List.foldl_cons, List.foldl_cons]
    have hstep : (((i.withOptions o).register call.1 call.2).toOption.getD (i.withOptions o)) =
        ((i.register call.1 call.2).toOption.getD i).withOptions o := by
      unfold register
      have hregistry : (i.withOptions o).registry = i.registry := rfl
      rw [hregistry]
      cases i.registry.register call.1 call.2 <;> rfl
    rw [hstep]
    exact ih _

theorem registerAll_wellFormed (i : Importer) (hwf : i.registry.WellFormed)
    (calls : List (String × String)) : (i.registerAll calls).registry.WellFormed := by
  induction calls generalizing i with
  | nil => exact hwf
  | cons call rest ih =>
    unfold registerAll
    rw [List.foldl_cons]
    cases hregister : i.register call.1 call.2 with
    | error fault => exact ih i hwf
    | ok i' => exact ih i' (hwf.register (of_register hregister).2)

/-- The key of the entry document that a text writes, read as a URI, stands for another document
than the key itself. -/
def Misreads (i : Importer) (text : String) : Prop :=
  ∃ d version registry key place, LoadedDocument.ofText text = .ok d ∧
    Version.declaredIn d.root = .ok version ∧
    i.registry.replace i.entryUri d = .ok (registry, key) ∧
    registry.place? key = some place ∧ registry.places.get? key ≠ some place

/-- What an import makes of a description and the report of binding it. -/
def finish (i : Importer) (format : Format) (bound : Description × Report) :
    Except ImportError Import :=
  let report := i.checked bound.1 bound.2
  if i.options.rejects report then .error (.rejected report)
  else .ok ⟨format, bound.1, report⟩

theorem run_eq (i : Importer) (text : String) :
    i.run text = LoadedDocument.ofText text >>= fun d => i.bind d >>= i.finish d.format := by
  unfold run
  refine congrArg _ (funext fun d => congrArg _ (funext fun bound => ?_))
  unfold finish
  dsimp only
  split
  · rfl
  · rfl

theorem run_of_ofText_eq_error (i : Importer) {fault : ImportError}
    (hload : LoadedDocument.ofText text = .error fault) : i.run text = .error fault := by
  rw [run_eq, hload]
  rfl

theorem run_of_bind_eq_error {d : LoadedDocument} (hload : LoadedDocument.ofText text = .ok d)
    {fault : ImportError} (hbind : i.bind d = .error fault) : i.run text = .error fault := by
  rw [run_eq, hload]
  exact congrArg (· >>= i.finish d.format) hbind

theorem finish_ne_general (i : Importer) (format : Format) (bound : Description × Report)
    (message : String) : i.finish format bound ≠ .error (.general message) := by
  unfold finish
  dsimp only
  split
  · simp
  · simp

/-- What is wrong with a description is no general error. -/
theorem run_ne_general {d : LoadedDocument} (hload : LoadedDocument.ofText text = .ok d)
    {message : String} (h : ∀ message, i.bind d ≠ .error (.general message)) :
    i.run text ≠ .error (.general message) := by
  rw [run_eq, hload]
  change i.bind d >>= i.finish d.format ≠ _
  cases hbind : i.bind d with
  | ok bound => exact i.finish_ne_general d.format bound message
  | error fault =>
    intro heq
    cases heq
    exact h message hbind

section

variable {d : LoadedDocument} {version : Version} {declared : String}

theorem bind_of_declaredIn_eq_error (i : Importer) {fault : VersionFault}
    (hversion : Version.declaredIn d.root = .error fault) :
    i.bind d = .error (.unsupported fault.message) := by
  unfold bind
  rw [hversion]
  rfl

theorem bind_of_replace_eq_error (hversion : Version.declaredIn d.root = .ok (version, declared))
    {fault : RegistryFault} (hreplace : i.registry.replace i.entryUri d = .error fault) :
    i.bind d = .error (.general fault.message) := by
  unfold bind
  rw [hversion, hreplace]
  rfl

theorem bind_of_replace_eq_ok (hversion : Version.declaredIn d.root = .ok (version, declared))
    {registry : Registry} {key : String}
    (hreplace : i.registry.replace i.entryUri d = .ok (registry, key)) :
    i.bind d =
      (registry.bind key i.options version declared).mapError BindingFault.toImportError := by
  unfold bind
  rw [hversion, hreplace]
  dsimp only [Except.mapError, Bind.bind, Except.bind]

/-- An importer without documents has the document that it imports alone. -/
theorem bind_ofOptions {o : Options}
    (hversion : Version.declaredIn d.root = .ok (version, declared)) {base : Uri}
    (hbase : Uri.ofText? (ofOptions o).entryUri = some base) :
    (ofOptions o).bind d = ((Registry.empty.add (.ofLoaded base d)).bind base.key o version
      declared).mapError BindingFault.toImportError :=
  bind_of_replace_eq_ok hversion (Registry.empty_replace hbase d)

/-- Where the key of the entry document is not read as that of another one, the other documents make
no difference to what is bound. -/
theorem bind_eq_alone (hplaced : i.registry.Placed) (ho : i.options.resolveExternal = false)
    (hload : LoadedDocument.ofText text = .ok d) (h : ¬ i.Misreads text) :
    i.bind d = (ofOptions i.options).bind d := by
  cases hversion : Version.declaredIn d.root with
  | error fault =>
    rw [i.bind_of_declaredIn_eq_error hversion, bind_of_declaredIn_eq_error _ hversion]
  | ok given =>
    obtain ⟨version, declared⟩ := given
    cases hbase : Uri.ofText? i.entryUri with
    | none =>
      rw [bind_of_replace_eq_error hversion (Registry.replace_of_ofText?_eq_none hbase d)]
      exact (bind_of_replace_eq_error (i := ofOptions i.options) hversion
        (Registry.replace_of_ofText?_eq_none hbase d)).symm
    | some base =>
      obtain ⟨registry, hreplace⟩ := i.registry.exists_replace hbase d
      obtain ⟨-, base', place, hbase', -, hkeeps⟩ := hplaced.replace hreplace
      obtain rfl := Option.some.inj (hbase.symm.trans hbase')
      have hread : ∀ other, registry.place? base.key = some other → other = place := by
        intro other hother
        by_contra hne
        have hkey : registry.places.get? base.key = some place :=
          (hkeeps.keys _).mpr (RegisteredDocument.key_mem_keys _)
        refine h ⟨d, _, registry, base.key, other, hload, hversion, hreplace, hother, ?_⟩
        rw [hkey]
        exact fun heq => hne (Option.some.inj heq).symm
      rw [bind_of_replace_eq_ok hversion hreplace, bind_ofOptions hversion hbase,
        hkeeps.bind_eq_alone ho hread]

/-- Where the key of the entry document is read as that of another one, the import fails only if
there is no other one. -/
theorem run_ne_alone (hplaced : i.registry.Placed) (h : i.Misreads text) :
    i.run text ≠ (ofOptions i.options).run text := by
  obtain ⟨d, ⟨version, declared⟩, registry, key, other, hload, hversion, hreplace, hother, hne⟩ := h
  obtain ⟨hplaced', base, place, hbase, rfl, hkeeps⟩ := hplaced.replace hreplace
  have hkey : registry.places.get? base.key = some place :=
    (hkeeps.keys _).mpr (RegisteredDocument.key_mem_keys _)
  rw [hkey] at hne
  -- on its own, the document is not found under the key that it was put under
  have halone : (ofOptions i.options).run text =
      .error (BindingFault.notRegistered base.key).toImportError := by
    have hother' : registry.place? base.key ≠ some place := by
      rw [hother]
      exact fun heq => hne heq.symm
    have hbind : (ofOptions i.options).bind d =
        .error (BindingFault.notRegistered base.key).toImportError := by
      rw [bind_ofOptions hversion hbase,
        Registry.bind_of_place?_eq_none (hkeeps.place?_empty_add hother')]
      rfl
    exact run_of_bind_eq_error hload hbind
  rw [halone]
  -- in the registry the other document is found, and to bind it gives no such fault
  have hd : other < registry.documents.length := by
    obtain ⟨u, -, hget⟩ := Option.bind_eq_some_iff.mp hother
    exact hplaced'.lt_length hget
  refine run_ne_general hload fun message hbind => ?_
  rw [bind_of_replace_eq_ok hversion hreplace,
    Registry.bind_of_place? hother (List.getElem?_eq_getElem hd)] at hbind
  cases hbound : registry.documents[other].bind ⟨registry, other, i.options, version⟩ declared with
  | ok bound =>
    rw [hbound] at hbind
    cases hbind
  | error fault =>
    rw [hbound] at hbind
    cases fault with
    | notRegistered key => exact RegisteredDocument.bind_ne_notRegistered _ _ _ _ hbound
    | rootNotObject found => cases hbind

end

/-- An import gives what it gives without the other documents, unless the key of the entry document
is read as that of another one. -/
theorem run_eq_alone (hplaced : i.registry.Placed) (ho : i.options.resolveExternal = false)
    (h : ¬ i.Misreads text) : i.run text = (ofOptions i.options).run text := by
  cases hload : LoadedDocument.ofText text with
  | error fault => rw [i.run_of_ofText_eq_error hload, run_of_ofText_eq_error _ hload]
  | ok d =>
    rw [run_eq, run_eq, hload]
    exact congrArg (· >>= i.finish d.format) (bind_eq_alone hplaced ho hload h)

/-- The URI of entry documents is read again from its key. -/
def EntryReadsBack (i : Importer) : Prop :=
  ∀ base, Uri.ofText? i.entryUri = some base → Uri.parse? base.key = some base.withoutFragment

theorem EntryReadsBack.not_misreads (h : i.EntryReadsBack) (hplaced : i.registry.Placed) :
    ¬ i.Misreads text := by
  rintro ⟨d, version, registry, key, place, -, -, hreplace, hplace, hne⟩
  obtain ⟨-, base, other, hbase, rfl, hkeeps⟩ := hplaced.replace hreplace
  obtain rfl := Option.some.inj ((hkeeps.place?_key (h base hbase)).symm.trans hplace)
  exact hne ((hkeeps.keys _).mpr (RegisteredDocument.key_mem_keys (.ofLoaded base d)))

/-- The URI of entry documents for which none is given is read again from its key. -/
theorem entryReadsBack_of_baseUri_eq_none (hbase : i.options.baseUri = none) :
    i.EntryReadsBack := by
  have hentry : i.entryUri = standardEntryUri := by
    rw [entryUri, hbase]
    rfl
  have hstandard : ((Uri.ofText? standardEntryUri).all fun base =>
      Uri.parse? base.key == some base.withoutFragment) = true := by decide +kernel
  intro base h
  rw [← hentry, h, Option.all_some] at hstandard
  exact eq_of_beq hstandard

/-- Where references into other documents are not followed, documents that were registered before
make no difference to an import if and only if the key of the entry document is not read as that of
another one. -/
theorem run_eq_iff (o : Options) (ho : o.resolveExternal = false) (calls : List (String × String))
    (text : String) :
    ((ofOptions o).registerAll calls).run text = (ofOptions o).run text ↔
      ¬ ((ofOptions o).registerAll calls).Misreads text := by
  obtain ⟨hoptions, hplaced⟩ := registerAll_spec (ofOptions o) Registry.placed_empty calls
  generalize (ofOptions o).registerAll calls = i at hoptions hplaced ⊢
  obtain rfl : i.options = o := hoptions
  constructor
  · exact fun heq hmisreads => run_ne_alone hplaced hmisreads heq
  · exact run_eq_alone hplaced ho

/-- The file of the host `h` with a drive letter behind an empty segment; its key is read as that of
the file on this drive. -/
def driveOptions : Options :=
  { Options.standard with baseUri := some "file://h//C:/x", resolveExternal := false }

/-- With `driveOptions` the document on the drive is imported in place of the text. -/
theorem misreads_driveOptions :
    driveOptions.resolveExternal = false ∧
      ((ofOptions driveOptions).registerAll [("file:///C:/x", "\x7b\x7d")]).Misreads
        "\x7b\"openapi\":\"3.1.0\"\x7d" := by
  have hregistered : (((ofOptions driveOptions).registerAll [("file:///C:/x", "\x7b\x7d")]).run
      "\x7b\"openapi\":\"3.1.0\"\x7d").toOption.isSome = true := by decide +kernel
  have halone : ((ofOptions driveOptions).run
      "\x7b\"openapi\":\"3.1.0\"\x7d").toOption.isSome = false := by decide +kernel
  refine ⟨rfl, by_contra fun h => ?_⟩
  rw [(run_eq_iff driveOptions rfl _ _).mpr h, halone] at hregistered
  cases hregistered

end Importer

end ApiDescription
