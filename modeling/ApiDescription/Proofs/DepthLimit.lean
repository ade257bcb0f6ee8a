import ApiDescription.Proofs.Outcome

/-!
# The limit on depth

Schemas are nested, and references follow each other, at most as deep as the options say; what goes
deeper is cut off, and a diagnostic says so.  Where an import reports no such diagnostic, a higher
limit makes no difference: `Importer.run_eq_of_maxDepth_le`.
-/

namespace ApiDescription

namespace Importer

/-- An import that reports nothing too deep gives the same with a higher limit. -/
theorem run_eq_of_maxDepth_le (o : Options) (calls : List (String × String)) {text : String}
    {limit : Nat} (hlimit : o.maxDepth ≤ limit) {report : Report}
    (hreport : ((ofOptions o).registerAll calls).Reports text report)
    (hdepth : ∀ D ∈ report.diagnostics, D.category ≠ .depthLimitExceeded) :
    ((ofOptions { o with maxDepth := limit }).registerAll calls).run text =
      ((ofOptions o).registerAll calls).run text := by
  obtain ⟨hoptions, hplaced⟩ := registerAll_spec (ofOptions o) Registry.placed_empty calls
  have hdeeper : (ofOptions { o with maxDepth := limit }).registerAll calls =
      ((ofOptions o).registerAll calls).withOptions { o with maxDepth := limit } :=
    registerAll_withOptions (ofOptions o) _ calls
  rw [hdeeper]
  generalize (ofOptions o).registerAll calls = i at hreport hoptions hplaced ⊢
  obtain rfl : i.options = o := hoptions
  have hagree : i.options.Agree (·.category = .depthLimitExceeded)
      { i.options with maxDepth := limit } :=
    ⟨rfl, rfl, .inr ⟨hlimit, fun _ => id⟩⟩
  refine run_eq_of_reports (fun _ _ => rfl) (fun d _ => bind_withOptions hplaced hagree)
    fun report' hreport' => ?_
  exact hreport'.unique hreport ▸ hdepth

/-- A text with one schema, which is as deep as `shallowOptions` allow. -/
def oneSchemaText : String :=
  "\x7b\"openapi\":\"3.1.0\",\"components\":\x7b\"schemas\":\x7b\"A\":\x7b\x7d\x7d\x7d\x7d"

/-- The standard options, but schemas have no parts. -/
def shallowOptions : Options := { Options.standard with maxDepth := 1 }

/-- The import of `oneSchemaText` gives the same where schemas may have parts. -/
theorem run_eq_of_maxDepth_le_oneSchemaText :
    shallowOptions.maxDepth ≤ 2 ∧
      ∃ report, ((ofOptions shallowOptions).registerAll []).Reports oneSchemaText report ∧
        (∀ D ∈ report.diagnostics, D.category ≠ .depthLimitExceeded) ∧
        ((ofOptions { shallowOptions with maxDepth := 2 }).registerAll []).run oneSchemaText =
          ((ofOptions shallowOptions).registerAll []).run oneSchemaText := by
  have hrun : (((ofOptions shallowOptions).registerAll []).run oneSchemaText).toOption.any
      (fun out => out.report.diagnostics.all (·.category ≠ .depthLimitExceeded)) = true := by
    decide +kernel
  cases hout : ((ofOptions shallowOptions).registerAll []).run oneSchemaText with
  | error fault =>
    rw [hout] at hrun
    cases hrun
  | ok out =>
    rw [hout] at hrun
    have hreport : ((ofOptions shallowOptions).registerAll []).Reports oneSchemaText out.report :=
      .inl ⟨out, hout, rfl⟩
    have hdepth : ∀ D ∈ out.report.diagnostics, D.category ≠ .depthLimitExceeded := by
      simpa [Except.toOption] using hrun
    refine ⟨by decide, out.report, hreport, hdepth, ?_⟩
    rw [← hout]
    exact run_eq_of_maxDepth_le shallowOptions [] (by decide) hreport hdepth

end Importer

end ApiDescription
