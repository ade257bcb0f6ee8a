import ApiDescription.Proofs.Errorless
import ApiDescription.Proofs.PathTemplate

/-!
# Parameters of accepted paths

A path and its operations declare parameters, each in a list of its own, and those of an operation
come in place of those of the path.  Four checks look at the lists: a variable must be declared, a
parameter that is sent in the path must be a variable and must be required, and no list may have a
parameter twice.  If none of them finds an error, then the parameters that count for an operation
are pairwise distinct, and those that are sent in the path are exactly the variables of the path:
`Importer.parameters_of_run`.
-/

namespace ApiDescription

open Validation

variable {item : PathItem} {o : Operation}

/-- The parameters that count for an operation are its own and those of the path. -/
theorem PathItem.of_mem_effectiveParameters {p : Parameter} (h : p ∈ item.effectiveParameters o) :
    p ∈ item.parameters ∨ p ∈ o.parameters :=
  (List.mem_append.mp h).imp_left fun hshared => (List.mem_filter.mp hshared).1

/-- If no list has a parameter twice, then none counts twice. -/
theorem PathItem.nodup_effectiveParameters
    (hshared : (item.parameters.map Parameter.identity).Nodup)
    (hown : (o.parameters.map Parameter.identity).Nodup) :
    ((item.effectiveParameters o).map Parameter.identity).Nodup := by
  unfold effectiveParameters
  rw [List.map_append, List.nodup_append]
  refine ⟨hshared.sublist (List.filter_sublist.map _), hown, ?_⟩
  -- a parameter of the path is left out if the operation has one of its identity
  rintro _ hfirst _ hsecond rfl
  obtain ⟨p, hp, hidentity⟩ := List.mem_map.mp hfirst
  obtain ⟨q, hq, hsame⟩ := List.mem_map.mp hsecond
  have hnone := (List.mem_filter.mp hp).2
  rw [Bool.not_eq_true', List.any_eq_false] at hnone
  exact hnone q hq (decide_eq_true (hsame.trans hidentity.symm))

/-- A path whose parameters are checked without an error: every variable is declared by each of the
operations, and every parameter that is sent in the path is a variable and required. -/
theorem Validation.of_errorless_pathParameters {path : String} {names : List String}
    (h : Errorless (pathParameters path item names)) (ho : o ∈ item.operationList) :
    (∀ name ∈ names, ∃ p ∈ item.effectiveParameters o, p.place = .path ∧ p.name = name) ∧
      ∀ p ∈ item.effectiveParameters o, p.place = .path → p.name ∈ names ∧ p.required = true := by
  obtain ⟨hrest, hown⟩ := errorsAre_append.mp h
  obtain ⟨hundeclared, hshared⟩ := errorsAre_append.mp hrest
  rw [errorsAre_flatMap] at hundeclared hshared hown
  constructor
  · intro name hname
    by_contra hnone
    refine (hundeclared o ho).not_mem (f := .variableUndeclared o.method path name) rfl
      (List.mem_map.mpr ⟨name, List.mem_filter.mpr ⟨hname, ?_⟩, rfl⟩)
    simp only [Bool.not_eq_true', List.any_eq_false, Bool.and_eq_true, decide_eq_true_eq]
    exact fun p hp ⟨hplace, hpname⟩ => hnone ⟨p, hp, hplace, hpname⟩
  · intro p hp
    rcases PathItem.of_mem_effectiveParameters hp with hp | hp
    · exact errorless_pathParameter.mp (hshared p hp)
    · exact errorless_pathParameter.mp (errorsAre_flatMap.mp (hown o ho) p hp)

/-- No list of parameters of a path item whose check finds no error has one twice. -/
theorem Validation.of_errorless_parameterLists (h : Errorless (parameterLists item))
    (ho : o ∈ item.operationList) :
    (item.parameters.map Parameter.identity).Nodup ∧
      (o.parameters.map Parameter.identity).Nodup := by
  have hnil : (([] : List Parameter).map Parameter.identity).Nodup := .nil
  obtain ⟨hshared, hown⟩ := errorsAre_append.mp h
  exact ⟨nodup_of_errorless hnil hshared,
    nodup_of_errorless hnil (errorsAre_flatMap.mp hown o ho)⟩

namespace Importer

/-- Where a description is checked and no error is reported, the parameters that count for an
operation of a path are pairwise distinct, the names of those that are sent in the path are the
variables of the path, and these parameters are required. -/
theorem parameters_of_run {i : Importer} (hvalidate : i.options.validate = true) {text : String}
    {out : Import} (h : i.run text = .ok out) (herrors : out.report.hasErrors = false) {path : String}
    (hitem : (path, item) ∈ out.description.paths) (ho : o ∈ item.operationList) :
    ((item.effectiveParameters o).map Parameter.identity).Nodup ∧
      (∀ name, (∃ p ∈ item.effectiveParameters o, p.place = .path ∧ p.name = name) ↔
        PathTemplate.HasVariable path name) ∧
      ∀ p ∈ item.effectiveParameters o, p.place = .path → p.required = true := by
  obtain ⟨_, _, _, _, found, -, -, hreport⟩ := of_run_eq_ok h
  rw [hreport, Report.hasErrors_eq_false_iff] at herrors
  have hpaths : Errorless (Validation.paths out.description) := fun D hD herror =>
    herrors D (mem_checked_of_mem_problems hvalidate (by simp [Description.problems, hD])) herror
  obtain ⟨hkeys, hlists⟩ := errorsAre_append.mp hpaths
  obtain ⟨names, hnames, hparameters⟩ := exists_names_of_errorless hkeys hitem
  obtain ⟨hdeclared, hright⟩ := of_errorless_pathParameters hparameters ho
  obtain ⟨hshared, hown⟩ := of_errorless_parameterLists
    (errorsAre_flatMap.mp hlists item (Description.mem_allPathItems_of_path hitem)) ho
  refine ⟨PathItem.nodup_effectiveParameters hshared hown, fun name => ?_, fun p hp hplace => ?_⟩
  · rw [← PathTemplate.mem_variableNames_iff hnames]
    constructor
    · rintro ⟨p, hp, hplace, rfl⟩
      exact (hright p hp hplace).1
    · exact hdeclared name
  · exact (hright p hp hplace).2

/-- A text with a path of one variable, which the path declares for its operation. -/
def declaringText : String :=
  "\x7b\"openapi\":\"3.1.0\",\"info\":\x7b\"title\":\"\",\"version\":\"\"\x7d,\"paths\":\x7b\"/\x7ba\x7d\":" ++
    "\x7b\"parameters\":[\x7b\"name\":\"a\",\"in\":\"path\",\"required\":true\x7d],\"get\":\x7b\x7d\x7d\x7d\x7d"

/-- The import of `declaringText`: its operation has the parameter of the path. -/
theorem parameters_of_run_declaring :
    (ofOptions .standard).options.validate = true ∧
      ∃ out item o, (ofOptions .standard).run declaringText = .ok out ∧
        out.report.hasErrors = false ∧ ("/\x7ba\x7d", item) ∈ out.description.paths ∧
        o ∈ item.operationList ∧
        (item.effectiveParameters o).map Parameter.identity = [(.path, "a")] ∧
        ((item.effectiveParameters o).map Parameter.identity).Nodup ∧
        (∀ name, (∃ p ∈ item.effectiveParameters o, p.place = .path ∧ p.name = name) ↔
          PathTemplate.HasVariable "/\x7ba\x7d" name) ∧
        ∀ p ∈ item.effectiveParameters o, p.place = .path → p.required = true := by
  have hcounting : (((ofOptions .standard).run declaringText).toOption.filter
      (!·.report.hasErrors)).map (fun out =>
        out.description.paths.flatMap fun entry => entry.2.operationList.map fun o =>
          (entry.1, (entry.2.effectiveParameters o).map Parameter.identity)) =
      some [("/\x7ba\x7d", [(.path, "a")])] := by
    decide +kernel
  refine ⟨rfl, ?_⟩
  obtain ⟨out, hfiltered, hlist⟩ := Option.map_eq_some_iff.mp hcounting
  obtain ⟨hout, hclean⟩ := Option.filter_eq_some_iff.mp hfiltered
  have hrun : (ofOptions .standard).run declaringText = .ok out := by
    cases h : (ofOptions .standard).run declaringText with
    | error fault => rw [h] at hout; cases hout
    | ok found => rw [h] at hout; exact congrArg _ (Option.some.inj hout)
  have herrors : out.report.hasErrors = false := (Bool.not_eq_true' _).mp hclean
  obtain ⟨⟨path, item⟩, hitem, hoperation⟩ := List.mem_flatMap.mp
    (by rw [hlist]; exact List.mem_singleton_self _)
  obtain ⟨o, ho, heq⟩ := List.mem_map.mp hoperation
  obtain ⟨rfl, hidentities⟩ := Prod.mk.inj heq
  exact ⟨out, item, o, hrun, herrors, hitem, ho, hidentities,
    parameters_of_run rfl hrun herrors hitem ho⟩

end Importer

end ApiDescription
