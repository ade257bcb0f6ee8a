import ApiDescription.Proofs.Import
import ApiDescription.Proofs.Isolation

/-!
# How an import ends

An import fails because of the text, of the version that it declares, of the URI of the entry
document, or of its report; nothing else that stands in a document makes it fail.
`Importer.outcome_of_run` says so of imports that accept every report, and compares those that do
not with them.

For the comparison, the documents of a registry are in their own places under other options.
-/

namespace ApiDescription

/-! ## Failures without a report -/

section NoReport

variable {α β ε : Type}

/-- A step does not fail because of a report. -/
def NoReport (e : Except ImportError α) : Prop := ∀ r, e ≠ .error (.rejected r)

theorem NoReport.bind {e : Except ImportError α} {f : α → Except ImportError β} (he : NoReport e)
    (hf : ∀ a, NoReport (f a)) : NoReport (e >>= f) := by
  cases e with
  | error fault => exact fun r heq => he r (congrArg Except.error (Except.error.inj heq))
  | ok a => exact hf a

theorem noReport_mapError {e : Except ε α} {f : ε → ImportError}
    (hf : ∀ fault r, f fault ≠ .rejected r) : NoReport (e.mapError f) := by
  intro r heq
  cases e with
  | error fault => exact hf fault r (Except.error.inj heq)
  | ok a => cases heq

theorem LoadedDocument.noReport_ofText (text : String) : NoReport (ofText text) := by
  unfold ofText
  dsimp only
  split
  · exact nofun
  · -- whatever the tree is, it is a document or malformed
    split
    · refine (noReport_mapError (by simp)).bind fun root r heq => ?_
      split at heq <;> cases heq
    · refine NoReport.bind ?_ fun root r heq => ?_
      · refine (noReport_mapError (by simp)).bind fun node => ?_
        exact (noReport_mapError (by simp)).bind fun merged => noReport_mapError (by simp)
      · split at heq <;> cases heq

end NoReport

theorem LoadedDocument.exists_members {text : String} {d : LoadedDocument}
    (h : ofText text = .ok d) : ∃ members, d.root = .object members := by
  unfold ofText at h
  dsimp only at h
  split at h
  · cases h
  · split at h
    · obtain ⟨root, -, hd⟩ := of_bind_eq_ok h
      split at hd
      · cases hd
        exact ⟨_, rfl⟩
      · cases hd
    · obtain ⟨root, -, hd⟩ := of_bind_eq_ok h
      split at hd
      · cases hd
        exact ⟨_, rfl⟩
      · cases hd

/-- A loaded document can be bound, whatever stands in it. -/
theorem LoadedDocument.exists_bind {text : String} {d : LoadedDocument} (h : ofText text = .ok d)
    (base : Uri) (S : Setting) (declared : String) :
    ∃ bound, (RegisteredDocument.ofLoaded base d).bind S declared = .ok bound := by
  obtain ⟨members, hroot⟩ := exists_members h
  have hroot : (RegisteredDocument.ofLoaded base d).root = .object members := hroot
  unfold RegisteredDocument.bind Readers.bind
  rw [hroot]
  exact ⟨_, rfl⟩

/-! ## Other options -/

/-- Under the second options, an entry document is bound as under the first ones, unless the runs
part. -/
structure Options.Agree (parts : Diagnostic → Prop) (o o' : Options) : Prop where
  /-- The entry document is found at the same URI. -/
  baseUri : o'.baseUri = o.baseUri
  /-- References are followed alike. -/
  resolveExternal : o'.resolveExternal = o.resolveExternal
  /-- The limit on depth is the same, or not lower. -/
  maxDepth : Allows parts o.maxDepth o'.maxDepth

namespace Registry.Placed

variable {r : Registry} {parts : Diagnostic → Prop} {o o' : Options}

/-- The documents of a registry are in their own places under other options. -/
def relocation (h : r.Placed) (ho : o.Agree parts o') {entry : Nat}
    (hentry : entry < r.documents.length) (version : Version) :
    Relocation ⟨r, entry, o, version⟩ ⟨r, entry, o', version⟩ where
  known p := p < r.documents.length
  place p := p
  parts := parts
  known_entry := hentry
  place_entry := rfl
  source {p} hp := ⟨r.documents[p], List.getElem?_eq_getElem hp, List.getElem?_eq_getElem hp⟩
  injective _ _ hpq := hpq
  named _ _ := Iff.rfl
  followed _ _ _ hplace := by
    obtain ⟨u, -, hget⟩ := Option.bind_eq_some_iff.mp hplace
    exact h.lt_length hget
  unnamed _ _ hnone := .inl hnone
  version := rfl
  resolveExternal := ho.resolveExternal
  maxDepth := ho.maxDepth

theorem bind_eq (h : r.Placed) (ho : o.Agree parts o') {key : String} {version : Version}
    {declared : String} (hparts : ∀ description found,
      r.bind key o version declared = .ok (description, found) →
        ∀ D ∈ found.diagnostics, ¬ parts D) :
    r.bind key o' version declared = r.bind key o version declared := by
  cases hplace : r.place? key with
  | none => rw [bind_of_place?_eq_none hplace, bind_of_place?_eq_none hplace]
  | some place =>
    obtain ⟨u, -, hget⟩ := Option.bind_eq_some_iff.mp hplace
    have hlt := h.lt_length hget
    have hd := List.getElem?_eq_getElem hlt
    rw [bind_of_place? hplace hd] at hparts
    rw [bind_of_place? hplace hd, bind_of_place? hplace hd]
    exact RegisteredDocument.bind_eq_of_relocation (h.relocation ho hlt version) hd declared hparts

end Registry.Placed

namespace Importer

variable {i : Importer} {text : String}

/-- A document is bound alike under options that agree, if the runs do not part. -/
theorem bind_withOptions (hplaced : i.registry.Placed) {parts : Diagnostic → Prop} {o : Options}
    (ho : i.options.Agree parts o) {d : LoadedDocument}
    (hparts : ∀ description found, i.bind d = .ok (description, found) →
      ∀ D ∈ found.diagnostics, ¬ parts D) : (i.withOptions o).bind d = i.bind d := by
  have hreplace : (i.withOptions o).registry.replace (i.withOptions o).entryUri d =
      i.registry.replace i.entryUri d := by
    have hentry : (i.withOptions o).entryUri = i.entryUri :=
      congrArg (·.getD standardEntryUri) ho.baseUri
    rw [hentry]
    rfl
  cases hversion : Version.declaredIn d.root with
  | error fault =>
    rw [bind_of_declaredIn_eq_error _ hversion, bind_of_declaredIn_eq_error _ hversion]
  | ok given =>
    obtain ⟨version, declared⟩ := given
    cases hreplaced : i.registry.replace i.entryUri d with
    | error fault =>
      rw [bind_of_replace_eq_error hversion hreplaced,
        bind_of_replace_eq_error hversion (hreplace.trans hreplaced)]
    | ok replaced =>
      obtain ⟨registry, key⟩ := replaced
      rw [bind_of_replace_eq_ok hversion hreplaced] at hparts ⊢
      rw [bind_of_replace_eq_ok hversion (hreplace.trans hreplaced)]
      have hbound : registry.bind key o version declared =
          registry.bind key i.options version declared :=
        (hplaced.replace hreplaced).1.bind_eq ho fun description found hbound =>
          hparts description found (congrArg (·.mapError BindingFault.toImportError) hbound)
      exact congrArg _ hbound

/-! ## Reports -/

theorem noReport_bind (i : Importer) (d : LoadedDocument) : NoReport (i.bind d) := by
  refine (noReport_mapError (by simp)).bind fun given => ?_
  refine (noReport_mapError (by simp)).bind fun placed => noReport_mapError fun fault r => ?_
  cases fault <;> simp [BindingFault.toImportError]

/-- An import has a report, whether or not the report makes it fail. -/
def Reports (i : Importer) (text : String) (r : Report) : Prop :=
  (∃ out, i.run text = .ok out ∧ out.report = r) ∨ i.run text = .error (.rejected r)

/-- The report of an import is that of a description that was bound and maybe checked. -/
theorem Reports.exists_bind {r : Report} (h : i.Reports text r) :
    ∃ d description found, LoadedDocument.ofText text = .ok d ∧
      i.bind d = .ok (description, found) ∧ r = i.checked description found := by
  unfold Reports at h
  rw [run_eq] at h
  cases hload : LoadedDocument.ofText text with
  | error fault =>
    rw [hload] at h
    rcases h with ⟨out, hout, -⟩ | hrejected
    · cases hout
    · -- what keeps a text from being loaded is no report
      have hfault := hload.trans (congrArg Except.error (Except.error.inj hrejected))
      exact absurd hfault (LoadedDocument.noReport_ofText text r)
  | ok d =>
    rw [hload] at h
    change (∃ out, i.bind d >>= i.finish d.format = .ok out ∧ out.report = r) ∨
      i.bind d >>= i.finish d.format = .error (.rejected r) at h
    cases hbind : i.bind d with
    | error fault =>
      rw [hbind] at h
      rcases h with ⟨out, hout, -⟩ | hrejected
      · cases hout
      · -- nor is what keeps a document from being bound
        have hfault := hbind.trans (congrArg Except.error (Except.error.inj hrejected))
        exact absurd hfault (i.noReport_bind d r)
    | ok bound =>
      rw [hbind] at h
      refine ⟨d, bound.1, bound.2, rfl, hbind, ?_⟩
      change (∃ out, i.finish d.format bound = .ok out ∧ out.report = r) ∨
        i.finish d.format bound = .error (.rejected r) at h
      unfold finish at h
      dsimp only at h
      split at h
      · rcases h with ⟨out, hout, -⟩ | hrejected
        · cases hout
        · exact (ImportError.rejected.inj (Except.error.inj hrejected)).symm
      · rcases h with ⟨out, hout, rfl⟩ | hrejected
        · exact congrArg Import.report (Except.ok.inj hout).symm
        · cases hrejected

variable {d : LoadedDocument} {bound : Description × Report} {out : Import}

theorem Reports.unique {r r' : Report} (h : i.Reports text r) (h' : i.Reports text r') :
    r = r' := by
  unfold Reports at h h'
  cases hrun : i.run text with
  | ok out =>
    simp only [hrun, Except.ok.injEq, exists_eq_left', reduceCtorEq, or_false] at h h'
    exact h.symm.trans h'
  | error fault =>
    simp only [hrun, reduceCtorEq, false_and, exists_false, Except.error.injEq, false_or] at h h'
    exact ImportError.rejected.inj (h.symm.trans h')

theorem run_of_bind_eq_ok (hload : LoadedDocument.ofText text = .ok d)
    (hbind : i.bind d = .ok bound) :
    i.run text = i.finish d.format bound := by
  rw [run_eq, hload]
  exact congrArg (· >>= i.finish d.format) hbind

/-- What was found while a description was bound is in the report of the import. -/
theorem reports_of_bind (hload : LoadedDocument.ofText text = .ok d)
    (hbind : i.bind d = .ok bound) :
    i.Reports text (i.checked bound.1 bound.2) := by
  unfold Reports
  rw [run_of_bind_eq_ok hload hbind]
  unfold finish
  dsimp only
  split
  · exact .inr rfl
  · exact .inl ⟨_, rfl, rfl⟩

/-- Two importers that make the same of what they bind give the same for a text, if they bind its
document alike unless the runs part, and if there is nothing in the report by which they part. -/
theorem run_eq_of_reports {i' : Importer} {parts : Diagnostic → Prop}
    (hfinish : ∀ format bound, i'.finish format bound = i.finish format bound)
    (hbind : ∀ d, LoadedDocument.ofText text = .ok d →
      (∀ description found, i.bind d = .ok (description, found) →
        ∀ D ∈ found.diagnostics, ¬ parts D) → i'.bind d = i.bind d)
    (hparts : ∀ report, i.Reports text report → ∀ D ∈ report.diagnostics, ¬ parts D) :
    i'.run text = i.run text := by
  cases hload : LoadedDocument.ofText text with
  | error fault => rw [i.run_of_ofText_eq_error hload, i'.run_of_ofText_eq_error hload]
  | ok d =>
    rw [run_eq, run_eq, hload]
    change i'.bind d >>= i'.finish d.format = i.bind d >>= i.finish d.format
    rw [funext (hfinish d.format), hbind d hload fun description found hbound D hD =>
      hparts _ (reports_of_bind hload hbound) D (mem_checked_of_mem hD)]

/-! ## Outcomes -/

/-- What keeps a text from being imported, whatever else stands in it. -/
inductive Unimportable (i : Importer) (text : String) : Prop
  /-- It cannot be loaded. -/
  | unreadable {fault : ImportError} (h : LoadedDocument.ofText text = .error fault)
  /-- It declares no known version. -/
  | undeclared {d : LoadedDocument} {fault : VersionFault}
      (hload : LoadedDocument.ofText text = .ok d) (h : Version.declaredIn d.root = .error fault)
  /-- The URI of entry documents is none. -/
  | unplaced (h : Uri.ofText? i.entryUri = none)

theorem finish_of_strict_eq_false (hstrict : i.options.strict = false) (format : Format)
    (bound : Description × Report) :
    i.finish format bound = .ok ⟨format, bound.1, i.checked bound.1 bound.2⟩ := by
  have haccepts : i.options.rejects (i.checked bound.1 bound.2) = false := by
    rw [Options.rejects, hstrict, Bool.false_and]
  unfold finish
  dsimp only
  rw [haccepts]
  rfl

/-- A document that declares a known version is bound, whatever else stands in it. -/
theorem exists_bind (hplaced : i.registry.Placed) (hback : i.EntryReadsBack)
    (hload : LoadedDocument.ofText text = .ok d) {given : Version × String}
    (hversion : Version.declaredIn d.root = .ok given) {base : Uri}
    (hbase : Uri.ofText? i.entryUri = some base) : ∃ bound, i.bind d = .ok bound := by
  obtain ⟨version, declared⟩ := given
  obtain ⟨registry, hreplace⟩ := i.registry.exists_replace hbase d
  obtain ⟨-, base', place, hbase', -, hkeeps⟩ := hplaced.replace hreplace
  obtain rfl := Option.some.inj (hbase.symm.trans hbase')
  obtain ⟨bound, hbound⟩ := LoadedDocument.exists_bind hload base
    ⟨registry, place, i.options, version⟩ declared
  refine ⟨bound, ?_⟩
  rw [bind_of_replace_eq_ok hversion hreplace,
    Registry.bind_of_place? (hkeeps.place?_key (hback base hbase)) hkeeps.here, hbound]
  rfl

theorem not_unimportable_of_run (h : i.run text = .ok out) : ¬ i.Unimportable text := by
  obtain ⟨d, hload, hd⟩ := of_bind_eq_ok h
  obtain ⟨bound, hbind, -⟩ := of_bind_eq_ok hd
  obtain ⟨version, declared, registry, key, hversion, hreplace, -⟩ := exists_of_bind hbind
  rintro (hunreadable | ⟨hload', hundeclared⟩ | hunplaced)
  · cases hload.symm.trans hunreadable
  · obtain rfl := Except.ok.inj (hload.symm.trans hload')
    cases hversion.symm.trans hundeclared
  · cases hreplace.symm.trans (Registry.replace_of_ofText?_eq_none hunplaced d)

/-- An import that accepts every report fails because of the text, of the version or of the URI, and
for no other reason. -/
theorem exists_error_iff (hplaced : i.registry.Placed) (hback : i.EntryReadsBack)
    (hstrict : i.options.strict = false) :
    (∃ fault, i.run text = .error fault) ↔ i.Unimportable text := by
  constructor
  · rintro ⟨fault, hrun⟩
    cases hload : LoadedDocument.ofText text with
    | error fault => exact .unreadable hload
    | ok d =>
      cases hversion : Version.declaredIn d.root with
      | error fault => exact .undeclared hload hversion
      | ok given =>
        cases hbase : Uri.ofText? i.entryUri with
        | none => exact .unplaced hbase
        | some base =>
          obtain ⟨bound, hbound⟩ := exists_bind hplaced hback hload hversion hbase
          rw [run_of_bind_eq_ok hload hbound, finish_of_strict_eq_false hstrict] at hrun
          cases hrun
  · intro h
    cases hrun : i.run text with
    | error fault => exact ⟨fault, rfl⟩
    | ok out => exact absurd h (not_unimportable_of_run hrun)

/-- The importer that accepts every report. -/
def lenient (i : Importer) : Importer := i.withOptions { i.options with strict := false }

/-- Gives what an import gives, unless the report is refused. -/
def judge (i : Importer) (out : Import) : Except ImportError Import :=
  if i.options.rejects out.report then .error (.rejected out.report) else .ok out

/-- An import gives what it gives if every report is accepted, unless its report is refused. -/
theorem run_eq_lenient (hplaced : i.registry.Placed) (text : String) :
    i.run text = i.lenient.run text >>= i.judge := by
  have hagree : i.options.Agree (fun _ => False) { i.options with strict := false } :=
    ⟨rfl, rfl, .inl rfl⟩
  cases hload : LoadedDocument.ofText text with
  | error fault =>
    rw [i.run_of_ofText_eq_error hload, i.lenient.run_of_ofText_eq_error hload]
    rfl
  | ok d =>
    rw [run_eq, run_eq, hload]
    change i.bind d >>= i.finish d.format =
      i.lenient.bind d >>= i.lenient.finish d.format >>= i.judge
    -- what is done with a report makes no difference before there is one
    have hbind : i.lenient.bind d = i.bind d :=
      bind_withOptions hplaced hagree fun _ _ _ _ _ => id
    rw [hbind]
    cases i.bind d with
    | error fault => rfl
    | ok bound =>
      change i.finish d.format bound = i.lenient.finish d.format bound >>= i.judge
      rw [finish_of_strict_eq_false (i := i.lenient) rfl]
      rfl

/-- An import that accepts every report does not fail because of one. -/
theorem noReport_lenient (i : Importer) (text : String) : NoReport (i.lenient.run text) := by
  intro r hrejected
  obtain ⟨d, description, found, hload, hbind, -⟩ :=
    Reports.exists_bind (i := i.lenient) (.inr hrejected)
  rw [run_of_bind_eq_ok hload hbind, finish_of_strict_eq_false rfl] at hrejected
  cases hrejected

theorem rejects_iff {o : Options} (hstrict : o.strict = true) (r : Report) :
    o.rejects r = true ↔
      (r.hasErrors = true ∨ o.warningsAsErrors = true ∧ r.hasWarnings = true) := by
  simp [Options.rejects, hstrict]

/-- An import fails because of a report if it is otherwise successful, and the report is refused. -/
theorem run_eq_rejected_iff (hplaced : i.registry.Placed) (r : Report) :
    i.run text = .error (.rejected r) ↔
      ∃ out, i.lenient.run text = .ok out ∧ out.report = r ∧ i.options.rejects r = true := by
  rw [run_eq_lenient hplaced]
  cases hrun : i.lenient.run text with
  | error fault =>
    refine iff_of_false (fun h => i.noReport_lenient text r (hrun.trans ?_)) (by simp)
    exact congrArg Except.error (Except.error.inj h)
  | ok out =>
    change i.judge out = .error (.rejected r) ↔ _
    unfold judge
    simp only [Except.ok.injEq, exists_eq_left']
    split
    · next hreject =>
      simp only [Except.error.injEq, ImportError.rejected.injEq]
      exact ⟨fun heq => ⟨heq, heq ▸ hreject⟩, And.left⟩
    · next haccept =>
      refine iff_of_false (by simp) ?_
      rintro ⟨rfl, hreject⟩
      exact haccept hreject

/-- An import that does not fail because of a report gives what it gives if every report is
accepted. -/
theorem run_eq_lenient_of_ne (hplaced : i.registry.Placed)
    (h : ∀ r, i.run text ≠ .error (.rejected r)) : i.run text = i.lenient.run text := by
  have hrejects : ∀ out, i.lenient.run text = .ok out → ¬ i.options.rejects out.report = true :=
    fun out hout hreject =>
      h out.report ((run_eq_rejected_iff hplaced _).mpr ⟨out, hout, rfl, hreject⟩)
  rw [run_eq_lenient hplaced]
  cases hrun : i.lenient.run text with
  | error fault => rfl
  | ok out => exact if_neg (hrejects out hrun)

/-- Without strictness an import fails exactly if the text cannot be loaded, declares no known
version, or the URI of entry documents is none.  With strictness it fails because of a report
exactly if it is otherwise successful and the report holds an error, or a warning where warnings
count as errors; and in all other cases strictness makes no difference. -/
theorem outcome_of_run (o : Options) (calls : List (String × String)) (text : String)
    (hback : ((ofOptions o).registerAll calls).EntryReadsBack) :
    (o.strict = false →
      ((∃ fault, ((ofOptions o).registerAll calls).run text = .error fault) ↔
        ((ofOptions o).registerAll calls).Unimportable text)) ∧
    (o.strict = true →
      (∀ r, ((ofOptions o).registerAll calls).run text = .error (.rejected r) ↔
        ∃ out, ((ofOptions { o with strict := false }).registerAll calls).run text = .ok out ∧
          out.report = r ∧
          (r.hasErrors = true ∨ o.warningsAsErrors = true ∧ r.hasWarnings = true)) ∧
      ((∀ r, ((ofOptions o).registerAll calls).run text ≠ .error (.rejected r)) →
        ((ofOptions o).registerAll calls).run text =
          ((ofOptions { o with strict := false }).registerAll calls).run text)) := by
  obtain ⟨hoptions, hplaced⟩ := registerAll_spec (ofOptions o) Registry.placed_empty calls
  have hlenient : (ofOptions { o with strict := false }).registerAll calls =
      ((ofOptions o).registerAll calls).lenient := by
    rw [lenient, hoptions]
    exact registerAll_withOptions (ofOptions o) _ calls
  rw [hlenient]
  generalize (ofOptions o).registerAll calls = i at hback hoptions hplaced ⊢
  obtain rfl : i.options = o := hoptions
  refine ⟨exists_error_iff hplaced hback, fun hstrict => ⟨?_, run_eq_lenient_of_ne hplaced⟩⟩
  intro r
  rw [run_eq_rejected_iff hplaced, rejects_iff hstrict]

/-- A text that declares a version and nothing else. -/
def bareText : String := "\x7b\"openapi\":\"3.1.0\"\x7d"

/-- The standard options, but errors make an import fail. -/
def strictOptions : Options := { Options.standard with strict := true }

/-- The import of `bareText` fails because of its report, with `strictOptions` and not without. -/
theorem outcome_of_run_bareText :
    ((ofOptions strictOptions).registerAll []).EntryReadsBack ∧ strictOptions.strict = true ∧
      ∃ r out, ((ofOptions strictOptions).registerAll []).run bareText = .error (.rejected r) ∧
        ((ofOptions { strictOptions with strict := false }).registerAll []).run bareText = .ok out ∧
        out.report = r ∧ r.hasErrors = true := by
  have hback : ((ofOptions strictOptions).registerAll []).EntryReadsBack :=
    entryReadsBack_of_baseUri_eq_none rfl
  have hrejected : (match ((ofOptions strictOptions).registerAll []).run bareText with
      | .error (.rejected _) => true
      | _ => false) = true := by decide +kernel
  refine ⟨hback, rfl, ?_⟩
  split at hrejected
  · next r hrun =>
    obtain ⟨out, hout, hreport, hrefused⟩ :=
      (((outcome_of_run strictOptions [] bareText hback).2 rfl).1 r).mp hrun
    exact ⟨r, out, hrun, hout, hreport, hrefused.resolve_right fun h => Bool.false_ne_true h.1⟩
  · cases hrejected

end Importer

end ApiDescription
