import ApiDescription.Proofs.Operations

/-!
# Checks that find no error

What a check finds no error in is as it should be: a path is a template and the only one of its
shape, a parameter that is sent in the path is required and in the path, and no list of parameters
has one twice.
-/

namespace ApiDescription

open Validation

/-! ## Errors -/

/-- The errors among some diagnostics are of a kind. -/
def ErrorsAre (Q : Diagnostic → Prop) (found : List Diagnostic) : Prop :=
  ∀ D ∈ found, D.severity = .error → Q D

/-- There are no errors among some diagnostics. -/
abbrev Errorless (found : List Diagnostic) : Prop := ErrorsAre (fun _ => False) found

section Errors

variable {Q : Diagnostic → Prop} {found found' : List Diagnostic} {α : Type}

theorem errorsAre_append : ErrorsAre Q (found ++ found') ↔ ErrorsAre Q found ∧ ErrorsAre Q found' :=
  List.forall_mem_append

theorem errorsAre_flatMap {l : List α} {f : α → List Diagnostic} :
    ErrorsAre Q (l.flatMap f) ↔ ∀ a ∈ l, ErrorsAre Q (f a) :=
  List.forall_mem_flatMap

theorem ErrorsAre.of_errorless (h : Errorless found) : ErrorsAre Q found :=
  fun D hD herror => (h D hD herror).elim

theorem errorsAre_nil : ErrorsAre Q [] := fun _ h => nomatch h

/-- A finding that is an error is not made. -/
theorem ErrorsAre.not_mem (h : Errorless found) {f : Finding} (hf : f.severity = .error)
    {label : Option String} {p : Pointer} : f.diagnostic label p ∉ found :=
  fun hmem => h _ hmem hf

end Errors

/-! ## Paths -/

variable {item : PathItem}

theorem errorless_pathParameter {path : String} {names : List String} {document : Option String}
    {p : Parameter} :
    Errorless (pathParameter path names document p) ↔
      (p.place = .path → p.name ∈ names ∧ p.required = true) := by
  unfold pathParameter
  constructor
  · intro h hplace
    rw [if_pos hplace] at h
    obtain ⟨hname, hrequired⟩ := errorsAre_append.mp h
    constructor
    · by_contra hnot
      rw [if_neg (by simpa using hnot)] at hname
      exact hname.not_mem (f := .parameterUnused p.name path) rfl (List.mem_singleton_self _)
    · by_contra hnot
      rw [if_neg hnot] at hrequired
      exact hrequired.not_mem (f := .parameterOptional p.name) rfl (List.mem_singleton_self _)
  · intro h
    split
    · next hplace =>
      obtain ⟨hname, hrequired⟩ := h hplace
      rw [if_pos (by simpa using hname), if_pos hrequired]
      exact errorsAre_nil
    · exact errorsAre_nil

/-- A path whose check finds no error is a template, and the only one of its shape. -/
theorem of_errorless_pathKeys {shapes : Entries String} {path : String} {rest : Entries PathItem}
    (h : Errorless (pathKeys shapes ((path, item) :: rest))) :
    ∃ names, PathTemplate.variableNames path = .ok names ∧
      PathTemplate.shape path ∉ shapes.names ∧ Errorless (pathParameters path item names) ∧
        Errorless (pathKeys (shapes ++ [(PathTemplate.shape path, path)]) rest) := by
  unfold pathKeys at h
  cases hnames : PathTemplate.variableNames path with
  | error fault =>
    rw [hnames] at h
    exact (h.not_mem (f := .badTemplate path fault) rfl List.mem_cons_self).elim
  | ok names =>
    rw [hnames] at h
    obtain ⟨hfirst, hrest⟩ := errorsAre_append.mp h
    obtain ⟨hconflict, hparameters⟩ := errorsAre_append.mp hfirst
    refine ⟨names, rfl, fun hmem => ?_, hparameters, hrest⟩
    obtain ⟨other, hother⟩ := Option.isSome_iff_exists.mp (Entries.mem_names_iff.mp hmem)
    rw [hother] at hconflict
    exact hconflict.not_mem (f := .pathsConflict path other) rfl (List.mem_singleton_self _)

theorem exists_names_of_errorless {shapes : Entries String} {entries : Entries PathItem}
    (h : Errorless (pathKeys shapes entries)) {path : String} (hmem : (path, item) ∈ entries) :
    ∃ names, PathTemplate.variableNames path = .ok names ∧
      Errorless (pathParameters path item names) := by
  induction entries generalizing shapes with
  | nil => cases hmem
  | cons first rest ih =>
    obtain ⟨names, hnames, -, hparameters, hrest⟩ := of_errorless_pathKeys h
    rcases List.mem_cons.mp hmem with rfl | hmem
    · exact ⟨names, hnames, hparameters⟩
    · exact ih hrest hmem

/-! ## Lists of parameters -/

/-- A list of parameters whose check finds no error has none twice, and none of those before it. -/
theorem nodup_of_errorless {document : Option String} {before ps : List Parameter}
    (hbefore : (before.map Parameter.identity).Nodup)
    (h : Errorless (repeatedParameters document before ps)) :
    ((before ++ ps).map Parameter.identity).Nodup := by
  -- by induction on the parameters that are left, whichever come before
  induction ps generalizing before with
  | nil => rwa [List.append_nil]
  | cons p rest ih =>
    obtain ⟨hfirst, hrest⟩ := errorsAre_append.mp h
    have hnew : p.identity ∉ before.map Parameter.identity := by
      intro hmem
      obtain ⟨q, hq, hsame⟩ := List.mem_map.mp hmem
      rw [if_pos (List.any_eq_true.mpr ⟨q, hq, decide_eq_true hsame⟩)] at hfirst
      exact hfirst.not_mem (f := .parameterRepeated p.place p.name) rfl (List.mem_singleton_self _)
    have hbefore' : ((before ++ [p]).map Parameter.identity).Nodup := by
      rw [List.map_append, List.nodup_append]
      refine ⟨hbefore, List.pairwise_singleton _ _, ?_⟩
      rintro _ hold _ hnow rfl
      exact hnew (List.mem_singleton.mp hnow ▸ hold)
    have hwhole := ih hbefore' hrest
    rwa [List.append_assoc, List.singleton_append] at hwhole

end ApiDescription
