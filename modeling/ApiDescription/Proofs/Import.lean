import ApiDescription.Import
import ApiDescription.Proofs.Loading

/-!
# Imports that succeed

An import that succeeds has gone through all of its steps: `Importer.of_run_eq_ok` names them.  Its
report holds what was found while the description was bound, and what the checks find if they are
made.
-/

namespace ApiDescription

/-! ## Reports -/

theorem Report.mem_extend {r : Report} {found : List Diagnostic} {d : Diagnostic} :
    d ∈ (r.extend found).diagnostics ↔ d ∈ r.diagnostics ∨ d ∈ found := by
  unfold extend
  induction found generalizing r with
  | nil => simp
  | cons first rest ih =>
    rw [List.foldl_cons, ih, List.mem_cons]
    split
    · next hold =>
      constructor
      · exact Or.imp_right .inr
      · rintro (h | rfl | h)
        · exact .inl h
        · exact .inl hold
        · exact .inr h
    · simp [push, or_assoc]

theorem Report.hasErrors_eq_false_iff {r : Report} :
    r.hasErrors = false ↔ ∀ d ∈ r.diagnostics, d.severity ≠ .error := by
  simp [hasErrors]

namespace Importer

variable {i : Importer} {text : String} {out : Import}

/-! ## Runs -/

/-- A document that is bound declares a version, and was put in its place in the registry that it is
bound in. -/
theorem exists_of_bind {d : LoadedDocument} {description : Description} {found : Report}
    (h : i.bind d = .ok (description, found)) :
    ∃ (version : Version) (declared : String) (registry : Registry) (key : String),
      Version.declaredIn d.root = .ok (version, declared) ∧
        i.registry.replace i.entryUri d = .ok (registry, key) ∧
          registry.bind key i.options version declared = .ok (description, found) := by
  obtain ⟨⟨version, declared⟩, hversion, hrest⟩ := of_bind_eq_ok h
  obtain ⟨⟨registry, key⟩, hreplace, hbound⟩ := of_bind_eq_ok hrest
  exact ⟨version, declared, registry, key, of_mapError_eq_ok hversion, of_mapError_eq_ok hreplace,
    of_mapError_eq_ok hbound⟩

/-- The description of an import that succeeds was bound in a registry that holds the entry
document, and its report was checked. -/
theorem of_run_eq_ok (h : i.run text = .ok out) :
    ∃ (registry : Registry) (key : String) (version : Version) (declared : String)
      (found : Report), (i.registry.WellFormed → registry.WellFormed) ∧
        registry.bind key i.options version declared = .ok (out.description, found) ∧
          out.report = i.checked out.description found := by
  obtain ⟨d, hloaded, hd⟩ := of_bind_eq_ok h
  obtain ⟨⟨description, found⟩, hbind, hfound⟩ := of_bind_eq_ok hd
  obtain ⟨version, declared, registry, key, -, hreplace, hbound⟩ := exists_of_bind hbind
  have hvalue := LoadedDocument.wellFormed_of_ofText hloaded
  refine ⟨registry, key, version, declared, found, ?_, ?_⟩
  · exact fun hwf => hwf.replace hvalue hreplace
  · dsimp only at hfound
    split at hfound
    · cases hfound
    · cases hfound
      exact ⟨hbound, rfl⟩

/-- What was found while the description was bound stays in the report. -/
theorem mem_checked_of_mem {d : Description} {found : Report} {f : Diagnostic}
    (h : f ∈ found.diagnostics) : f ∈ (i.checked d found).diagnostics := by
  unfold checked
  split
  · exact Report.mem_extend.mpr (.inl h)
  · exact h

/-- What the checks find is in the report if they are made. -/
theorem mem_checked_of_mem_problems (hvalidate : i.options.validate = true) {d : Description}
    {found : Report} {f : Diagnostic} (h : f ∈ d.problems) :
    f ∈ (i.checked d found).diagnostics := by
  rw [checked, if_pos hvalidate]
  exact Report.mem_extend.mpr (.inr h)

/-- Nothing else is in the report. -/
theorem of_mem_checked {d : Description} {found : Report} {f : Diagnostic}
    (h : f ∈ (i.checked d found).diagnostics) :
    f ∈ found.diagnostics ∨ i.options.validate = true ∧ f ∈ d.problems := by
  unfold checked at h
  split at h
  · next hvalidate => exact (Report.mem_extend.mp h).imp_right fun hproblem => ⟨hvalidate, hproblem⟩
  · exact .inl h

end Importer

end ApiDescription
