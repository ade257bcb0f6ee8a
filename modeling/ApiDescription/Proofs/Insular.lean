import ApiDescription.Proofs.InsularChecks
import ApiDescription.Proofs.Isolation

/-!
# Imports that leave references into other documents unresolved

Of one text, among the same documents, there are two imports: one that follows references into other
documents, and one that leaves them unresolved.  If the first one reports no error, then the second
one should report warnings, and no error either.  `Importer.errors_of_run_insular` says which errors
it reports: about variables of paths and about responses, where a reference stood for what is asked
for, and about schemas that the first import met where they are not nested too deeply.
-/

namespace ApiDescription

open Validation

namespace Importer

/-- The importer, but references into other documents are not followed. -/
def insular (i : Importer) : Importer := { i with options := i.options.insular }

/-- A text is read as the entry document of a setting, with the version that it declares. -/
def Reads (i : Importer) (text : String) (S : Setting) (declared : String) : Prop :=
  ∃ d key, LoadedDocument.ofText text = .ok d ∧
    Version.declaredIn d.root = .ok (S.version, declared) ∧
    i.registry.replace i.entryUri d = .ok (S.registry, key) ∧
    S.registry.place? key = some S.entry ∧ S.options = i.options

variable {i : Importer} {text declared : String} {S : Setting} {out : Import}

theorem Reads.insular (h : i.Reads text S declared) : i.insular.Reads text S.insular declared := by
  obtain ⟨d, key, hload, hversion, hreplace, hplace, hoptions⟩ := h
  exact ⟨d, key, hload, hversion, hreplace, hplace, congrArg Options.insular hoptions⟩

theorem Reads.wellFormed (h : i.Reads text S declared) (hwf : i.registry.WellFormed) :
    S.registry.WellFormed := by
  obtain ⟨d, key, hload, -, hreplace, -⟩ := h
  exact hwf.replace (LoadedDocument.wellFormed_of_ofText hload) hreplace

/-- What is bound comes from a run over the document that stands for the text. -/
theorem exists_run_of_bind {d : LoadedDocument} (hload : LoadedDocument.ofText text = .ok d)
    {description : Description} {found : Report} (h : i.bind d = .ok (description, found)) :
    ∃ S declared source w, i.Reads text S declared ∧
      S.registry.documents[S.entry]? = some source ∧
      source.run S declared = .ok (description, w) ∧ found = w.report := by
  obtain ⟨version, declared, registry, key, hversion, hreplace, hbound⟩ := exists_of_bind h
  obtain ⟨w, hrun, rfl⟩ := Registry.exists_run_of_bind hbound
  obtain ⟨place, source, hplace, hsource, hrun⟩ := Registry.exists_source_of_run hrun
  exact ⟨⟨registry, place, i.options, version⟩, declared, source, w,
    ⟨d, key, hload, hversion, hreplace, hplace, rfl⟩, hsource, hrun, rfl⟩

/-- An import that succeeds comes from a run over the entry document. -/
theorem exists_run_of_run (h : i.run text = .ok out) :
    ∃ S declared source w, i.Reads text S declared ∧
      S.registry.documents[S.entry]? = some source ∧
      source.run S declared = .ok (out.description, w) ∧
      out.report = i.checked out.description w.report := by
  rw [run_eq] at h
  obtain ⟨d, hload, h⟩ := of_bind_eq_ok h
  obtain ⟨⟨description, found⟩, hbind, hfinish⟩ := of_bind_eq_ok h
  obtain ⟨S, declared, source, w, hreads, hsource, hrun, rfl⟩ := exists_run_of_bind hload hbind
  unfold finish at hfinish
  dsimp only at hfinish
  split at hfinish
  · cases hfinish
  · obtain rfl := Except.ok.inj hfinish
    exact ⟨S, declared, source, w, hreads, hsource, hrun, rfl⟩

/-- A run over the entry document gives an import, unless its report is refused. -/
theorem exists_run_of_reads (h : i.Reads text S declared) {source : RegisteredDocument}
    (hsource : S.registry.documents[S.entry]? = some source) {d : Description} {w : Workspace}
    (hrun : source.run S declared = .ok (d, w))
    (haccepts : i.options.rejects (i.checked d w.report) = false) :
    ∃ out, i.run text = .ok out ∧ out.description = d ∧ out.report = i.checked d w.report := by
  obtain ⟨loaded, key, hload, hversion, hreplace, hplace, hoptions⟩ := h
  obtain ⟨registry, place, options, version⟩ := S
  obtain rfl : options = i.options := hoptions
  have hbound : registry.bind key i.options version declared = .ok (d, w.report) := by
    rw [Registry.bind_eq_map_run, Registry.run, hplace, Option.bind_some, hsource, Option.map_some,
      Option.getD_some, hrun]
    rfl
  have hbind : i.bind loaded = .ok (d, w.report) := by
    rw [bind_of_replace_eq_ok hversion hreplace, hbound]
    rfl
  refine ⟨⟨loaded.format, d, i.checked d w.report⟩, ?_, rfl, rfl⟩
  rw [run_eq, hload]
  change i.bind loaded >>= i.finish loaded.format = _
  rw [hbind]
  change i.finish loaded.format (d, w.report) = _
  unfold finish
  dsimp only
  rw [haccepts]
  rfl

theorem registerAll_insular (i : Importer) (hplaced : i.registry.Placed)
    (calls : List (String × String)) :
    i.insular.registerAll calls = (i.registerAll calls).insular := by
  have hinsular : (i.registerAll calls).insular =
      (i.registerAll calls).withOptions i.options.insular := by
    rw [← (registerAll_spec i hplaced calls).1]
    rfl
  rw [hinsular]
  exact registerAll_withOptions i _ calls

/-- Where an import reports no error, the import of the text among the same documents that does not
follow references into other documents succeeds, too.  The errors that it reports are about schemas
that the first import read, and that the second one only meets where they are nested too deeply, or
about what is missing; and what is missing is reported if the description is checked. -/
theorem errors_of_run_insular {o : Options} (hstrict : o.strict = false)
    (calls : List (String × String)) (h : ((ofOptions o).registerAll calls).run text = .ok out)
    (herrors : out.report.hasErrors = false) :
    ∃ S declared out', ((ofOptions o).registerAll calls).Reads text S declared ∧
      ((ofOptions o.insular).registerAll calls).run text = .ok out' ∧
      (∀ D ∈ out'.report.diagnostics, D.severity = .error →
        (∃ limit label p id, D = (Finding.nestingTooDeep limit).diagnostic label p ∧
          out.description.schemas.At label p id) ∨
        out.description.Misses S out'.description D) ∧
      (o.validate = true → ∀ D, out.description.Misses S out'.description D →
        D ∈ out'.report.diagnostics) := by
  obtain ⟨hoptions, -⟩ := registerAll_spec (ofOptions o) Registry.placed_empty calls
  have hwf := registerAll_wellFormed (ofOptions o) Registry.wellFormed_empty calls
  have hinsular := registerAll_insular (ofOptions o) Registry.placed_empty calls
  change (ofOptions o.insular).registerAll calls = _ at hinsular
  rw [hinsular]
  generalize (ofOptions o).registerAll calls = i at h hoptions hwf ⊢
  obtain rfl : i.options = o := hoptions
  obtain ⟨S, declared, source, w, hreads, hsource, hrun, hreport⟩ := exists_run_of_run h
  rw [hreport, Report.hasErrors_eq_false_iff] at herrors
  have hfound : w.report.hasErrors = false :=
    Report.hasErrors_eq_false_iff.mpr fun D hD => herrors D (mem_checked_of_mem hD)
  obtain ⟨d', w', root, hrun', hreruns⟩ := RegisteredDocument.exists_run_insular hsource
    (hreads.wellFormed hwf) hrun hfound
  have haccepts : i.insular.options.rejects (i.insular.checked d' w'.report) = false := by
    have hstrict' : i.insular.options.strict = false := hstrict
    rw [Options.rejects, hstrict', Bool.false_and]
  obtain ⟨out', hout', rfl, hreport'⟩ := exists_run_of_reads hreads.insular hsource hrun' haccepts
  have hclean : i.options.validate = true → Errorless out.description.problems :=
    fun hvalidate D hD => herrors D (mem_checked_of_mem_problems hvalidate hD)
  refine ⟨S, declared, out', hreads, hout', fun D hD herror => ?_, fun hvalidate D hD => ?_⟩
  · rw [hreport'] at hD
    rcases of_mem_checked hD with hread | ⟨hvalidate, hproblem⟩
    · rcases hreruns.trails.findings D hread with hold | hexcused
      · exact absurd herror (Report.hasErrors_eq_false_iff.mp hfound D hold)
      · rw [hreruns.schemas]
        exact .inl (hexcused herror)
    · exact .inr (hreruns.errors_problems (hclean hvalidate) D hproblem herror)
  · rw [hreport']
    refine mem_checked_of_mem_problems (i := i.insular) hvalidate ?_
    exact Setting.Reruns.mem_problems_of_misses (hclean hvalidate) hD

/-- A text in which the parameter for the variable of a path stands in another document. -/
def sharedText : String :=
  "\x7b\"openapi\":\"3.1.0\",\"info\":\x7b\"title\":\"\",\"version\":\"\"\x7d," ++
    "\"paths\":\x7b\"/\x7ba\x7d\":\x7b\"get\":\x7b\"parameters\":[\x7b\"$ref\":\"p#/a\"\x7d]\x7d\x7d\x7d\x7d"

/-- The other document. -/
def sharedParts : List (String × String) :=
  [("http://example.invalid/p",
    "\x7b\"a\":\x7b\"name\":\"a\",\"in\":\"path\",\"required\":true\x7d\x7d")]

/-- The import of `sharedText` that does not follow the reference into `sharedParts` warns of it, and
then finds that the variable of the path is no parameter. -/
theorem errors_of_run_insular_sharedText :
    Options.standard.strict = false ∧
      ∃ out S declared out',
        ((ofOptions .standard).registerAll sharedParts).run sharedText = .ok out ∧
        out.report.hasErrors = false ∧
        ((ofOptions .standard).registerAll sharedParts).Reads sharedText S declared ∧
        ((ofOptions Options.standard.insular).registerAll sharedParts).run sharedText = .ok out' ∧
        out'.report.diagnostics.map Diagnostic.category =
          [.externalReference, .undeclaredPathParameter] ∧
        (∀ D ∈ out'.report.diagnostics, D.severity = .error →
          (∃ limit label p id, D = (Finding.nestingTooDeep limit).diagnostic label p ∧
            out.description.schemas.At label p id) ∨
          out.description.Misses S out'.description D) ∧
        (Options.standard.validate = true → ∀ D, out.description.Misses S out'.description D →
          D ∈ out'.report.diagnostics) := by
  have hout : (((ofOptions .standard).registerAll sharedParts).run sharedText).toOption.map
      (·.report.hasErrors) = some false := by decide +kernel
  have hout' : (((ofOptions Options.standard.insular).registerAll sharedParts).run
      sharedText).toOption.map (·.report.diagnostics.map Diagnostic.category) =
      some [.externalReference, .undeclaredPathParameter] := by decide +kernel
  refine ⟨rfl, ?_⟩
  cases hrun : ((ofOptions .standard).registerAll sharedParts).run sharedText with
  | error fault =>
    rw [hrun] at hout
    cases hout
  | ok out =>
    rw [hrun] at hout
    have herrors : out.report.hasErrors = false := Option.some.inj hout
    obtain ⟨S, declared, out', hreads, hrun', hrest⟩ :=
      errors_of_run_insular rfl sharedParts hrun herrors
    rw [hrun'] at hout'
    exact ⟨out, S, declared, out', rfl, herrors, hreads, hrun', Option.some.inj hout', hrest⟩

end Importer

end ApiDescription
