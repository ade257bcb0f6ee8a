import ApiDescription.Proofs.PathTemplate.Grammar
import ApiDescription.Proofs.Responses

/-!
# Keys of paths

The key of a path is checked in two ways.  A scanner looks at its braces, and if it finds a fault, the
key is reported and not looked at any more.  From a key without fault the names of its variables are
erased, and it is reported if an earlier key comes to the same text.  What the scanner accepts and what
is left when names are erased go together: `Validation.templates_of_paths` says that a key is reported
once if it is no template, and that a template is reported as conflicting exactly if a template before
it has the same literals.
-/

namespace ApiDescription

open PathTemplate

namespace PathTemplate

theorem not_isTemplate_of_eq_error {path : String} {fault : TemplateFault}
    (h : variableNames path = .error fault) : ¬ IsTemplate path := by
  intro htemplate
  obtain ⟨names, hnames⟩ := isTemplate_iff.mp htemplate
  cases h.symm.trans hnames

instance (path : String) : Decidable (IsTemplate path) :=
  match h : variableNames path with
  | .ok names => .isTrue (isTemplate_iff.mpr ⟨names, h⟩)
  | .error _ => .isFalse (not_isTemplate_of_eq_error h)

/-- Two paths are templates with the same literals. -/
def SameLiterals (path other : String) : Prop :=
  ∃ t u : PathTemplate, t.text = path ∧ u.text = other ∧ t.literals = u.literals

theorem shape_eq_iff {path other : String} (hpath : IsTemplate path) (hother : IsTemplate other) :
    shape path = shape other ↔ SameLiterals path other := by
  obtain ⟨-, t, rfl⟩ := hpath
  obtain ⟨-, u, rfl⟩ := hother
  constructor
  · intro h
    exact ⟨t, u, rfl, rfl, (shape_text_eq_iff t u).mp h⟩
  · rintro ⟨t', u', ht, hu, h⟩
    rw [← ht, ← hu]
    exact (shape_text_eq_iff t' u').mpr h

end PathTemplate

namespace Validation

variable {D : Diagnostic} {shapes : Entries String} {path : String} {item : PathItem}
  {rest : Entries PathItem}

/-! ## One key -/

/-- The shapes of the templates among some keys, each with its key. -/
def shapesOf (entries : Entries PathItem) : Entries String :=
  (entries.names.filter (IsTemplate ·)).map fun path => (shape path, path)

/-- The diagnostics for a key behind keys of given shapes. -/
def pathKey (shapes : Entries String) (path : String) (item : PathItem) : List Diagnostic :=
  match variableNames path with
  | .error fault => [(Finding.badTemplate path fault).diagnostic none (pathPointer path)]
  | .ok names =>
    ((shapes.get? (shape path)).map fun other =>
      (Finding.pathsConflict path other).diagnostic none (pathPointer path)).toList ++
        pathParameters path item names

/-- Keys are checked one after the other. -/
theorem pathKeys_cons :
    pathKeys shapes ((path, item) :: rest) =
      pathKey shapes path item ++ pathKeys (shapes ++ shapesOf [(path, item)]) rest := by
  rw [pathKeys, pathKey]
  cases hnames : variableNames path with
  | error fault => simp [shapesOf, Entries.names, not_isTemplate_of_eq_error hnames]
  | ok names =>
    have htemplate : IsTemplate path := isTemplate_iff.mpr ⟨names, hnames⟩
    cases hother : shapes.get? (shape path) <;>
      simp [shapesOf, Entries.names, htemplate, hother]

theorem shapesOf_cons (entry : String × PathItem) :
    shapesOf (entry :: rest) = shapesOf [entry] ++ shapesOf rest := by
  by_cases h : IsTemplate entry.1 <;> simp [shapesOf, Entries.names, h]

/-- What is found in keys is found at one of them, behind the shapes of those before it. -/
theorem mem_pathKeys_iff {entries : Entries PathItem} :
    D ∈ pathKeys shapes entries ↔ ∃ front path item back, entries = front ++ (path, item) :: back ∧
      D ∈ pathKey (shapes ++ shapesOf front) path item := by
  induction entries generalizing shapes with
  | nil => simp [pathKeys]
  | cons first rest ih =>
    rw [pathKeys_cons, List.mem_append, ih]
    constructor
    · rintro (h | ⟨front, path, item, back, rfl, h⟩)
      · exact ⟨[], first.1, first.2, rest, rfl, by simpa [shapesOf, Entries.names] using h⟩
      · exact ⟨first :: front, path, item, back, rfl, by
          rwa [shapesOf_cons, ← List.append_assoc]⟩
    · rintro ⟨_ | ⟨entry, front⟩, path, item, back, heq, h⟩
      · obtain ⟨rfl, rfl⟩ := List.cons.inj heq
        exact .inl (by simpa [shapesOf, Entries.names] using h)
      · obtain ⟨rfl, rfl⟩ := List.cons.inj heq
        exact .inr ⟨front, path, item, back, rfl, by
          rwa [shapesOf_cons, ← List.append_assoc] at h⟩

/-! ## What is found about templates -/

/-- A category of what is found about keys as templates. -/
def IsTemplateCategory (category : Category) : Prop :=
  category = .invalidPathTemplate ∨ category = .conflictingPaths

/-- Nothing that is found about parameters is about templates. -/
theorem not_isTemplateCategory_of_mem_pathParameters {names : List String}
    (h : D ∈ pathParameters path item names) : ¬ IsTemplateCategory D.category := by
  have hparameter : ∀ {document : Option String} {p : Parameter},
      D ∈ pathParameter path names document p → ¬ IsTemplateCategory D.category := by
    intro document p hD
    obtain ⟨f, ⟨_, rfl⟩ | rfl, rfl⟩ := of_mem_pathParameter hD <;> exact nofun
  rcases List.mem_append.mp h with h | hown
  · rcases List.mem_append.mp h with hundeclared | hshared
    · obtain ⟨o, -, hD⟩ := List.mem_flatMap.mp hundeclared
      obtain ⟨name, -, rfl⟩ := List.mem_map.mp hD
      exact nofun
    · obtain ⟨p, -, hD⟩ := List.mem_flatMap.mp hshared
      exact hparameter hD
  · obtain ⟨o, -, hD⟩ := List.mem_flatMap.mp hown
    obtain ⟨p, -, hD⟩ := List.mem_flatMap.mp hD
    exact hparameter hD

theorem category_of_mem_repeatedParameters {document : Option String} {before ps : List Parameter}
    (h : D ∈ repeatedParameters document before ps) : D.category = .duplicateParameter := by
  induction ps generalizing before with
  | nil => simp [repeatedParameters] at h
  | cons p ps ih =>
    rcases List.mem_append.mp h with h | h
    · split at h
      · rw [List.mem_singleton.mp h]
        rfl
      · simp at h
    · exact ih h

theorem category_of_mem_parameterLists (h : D ∈ parameterLists item) :
    D.category = .duplicateParameter := by
  rcases List.mem_append.mp h with hshared | hown
  · exact category_of_mem_repeatedParameters hshared
  · obtain ⟨o, -, hD⟩ := List.mem_flatMap.mp hown
    exact category_of_mem_repeatedParameters hD

/-- A key that is no template is reported once, and nothing else is reported as such. -/
theorem filter_pathKey_invalid :
    ((pathKey shapes path item).filter (·.category = .invalidPathTemplate)).map (·.pointer) =
      if IsTemplate path then [] else [pathPointer path] := by
  unfold pathKey
  cases hnames : variableNames path with
  | error fault =>
    rw [if_neg (not_isTemplate_of_eq_error hnames)]
    rfl
  | ok names =>
    rw [if_pos (isTemplate_iff.mpr ⟨names, hnames⟩), List.map_eq_nil_iff, List.filter_eq_nil_iff]
    intro D hD hcategory
    rcases List.mem_append.mp hD with hconflict | hparameters
    · obtain ⟨other, -, rfl⟩ := Option.map_eq_some_iff.mp (Option.mem_toList.mp hconflict)
      simp [Finding.diagnostic, Finding.category] at hcategory
    · exact not_isTemplateCategory_of_mem_pathParameters hparameters
        (.inl (of_decide_eq_true hcategory))

/-- A conflict is found at a template that has the shape of another before it. -/
theorem mem_pathKey_conflict_iff :
    D ∈ pathKey shapes path item ∧ D.category = .conflictingPaths ↔
      IsTemplate path ∧ ∃ other, shapes.get? (shape path) = some other ∧
        D = (Finding.pathsConflict path other).diagnostic none (pathPointer path) := by
  unfold pathKey
  rw [isTemplate_iff]
  cases hnames : variableNames path with
  | error fault =>
    constructor
    · rintro ⟨hD, hcategory⟩
      rw [List.mem_singleton.mp hD] at hcategory
      cases hcategory
    · rintro ⟨⟨names, hok⟩, -⟩
      cases hok
  | ok names =>
    constructor
    · rintro ⟨hD, hcategory⟩
      rcases List.mem_append.mp hD with hconflict | hparameters
      · obtain ⟨other, hother, rfl⟩ := Option.map_eq_some_iff.mp (Option.mem_toList.mp hconflict)
        exact ⟨⟨names, rfl⟩, other, hother, rfl⟩
      · exact (not_isTemplateCategory_of_mem_pathParameters hparameters (.inr hcategory)).elim
    · rintro ⟨-, other, hother, rfl⟩
      exact ⟨List.mem_append_left _ (by simp [hother]), rfl⟩

theorem mem_names_shapesOf_iff {entries : Entries PathItem} {s : String} :
    s ∈ (shapesOf entries).names ↔ ∃ other ∈ entries.names, IsTemplate other ∧ shape other = s := by
  simp [shapesOf, Entries.names, and_assoc]

/-! ## All keys -/

/-- The keys that are no templates are reported, each once and in order. -/
theorem filter_pathKeys_invalid (entries : Entries PathItem) :
    ((pathKeys shapes entries).filter (·.category = .invalidPathTemplate)).map (·.pointer) =
      (entries.names.filter (¬ IsTemplate ·)).map pathPointer := by
  induction entries generalizing shapes with
  | nil => rfl
  | cons first rest ih =>
    rw [pathKeys_cons, List.filter_append, List.map_append, ih, filter_pathKey_invalid]
    by_cases h : IsTemplate first.1 <;> simp [Entries.names, h]

/-- A conflict is reported at the templates that have the literals of one before them. -/
theorem exists_conflict_iff {entries : Entries PathItem} :
    (∃ D ∈ pathKeys [] entries, D.category = .conflictingPaths ∧ D.pointer = pathPointer path) ↔
      ∃ (front back : Entries PathItem) (item : PathItem), entries = front ++ (path, item) :: back ∧
        IsTemplate path ∧ ∃ other ∈ front.names, IsTemplate other ∧ SameLiterals path other := by
  constructor
  · rintro ⟨D, hD, hcategory, hpointer⟩
    obtain ⟨front, key, item, back, hentries, hkey⟩ := mem_pathKeys_iff.mp hD
    obtain ⟨htemplate, first, hfirst, rfl⟩ := mem_pathKey_conflict_iff.mp ⟨hkey, hcategory⟩
    obtain rfl : key = path := (Pointer.push_inj hpointer).2
    have hshape : shape key ∈ (shapesOf front).names :=
      Entries.mem_names_iff.mpr (Option.isSome_of_mem hfirst)
    obtain ⟨other, hother, htemplate', hsame⟩ := mem_names_shapesOf_iff.mp hshape
    exact ⟨front, back, item, hentries, htemplate, other, hother, htemplate',
      (shape_eq_iff htemplate htemplate').mp hsame.symm⟩
  · rintro ⟨front, back, item, hentries, htemplate, other, hother, htemplate', hsame⟩
    have hshape : shape path ∈ (shapesOf front).names := mem_names_shapesOf_iff.mpr
      ⟨other, hother, htemplate', ((shape_eq_iff htemplate htemplate').mpr hsame).symm⟩
    -- the report names the first key of the shape, which need not be the one that is given
    obtain ⟨first, hfirst⟩ := Option.isSome_iff_exists.mp (Entries.mem_names_iff.mp hshape)
    have hfound : (Finding.pathsConflict path first).diagnostic none (pathPointer path) ∈
        pathKey (shapesOf front) path item :=
      (mem_pathKey_conflict_iff.mpr ⟨htemplate, first, hfirst, rfl⟩).1
    exact ⟨_, mem_pathKeys_iff.mpr ⟨front, path, item, back, hentries, hfound⟩, rfl, rfl⟩

/-- The keys of the paths of a description as templates.  The scanner accepts the templates that start
with a slash, and gives the names of their variables; every other key is reported once, at its node.
A template is reported as conflicting if and only if a template before it has the same literals. -/
theorem templates_of_paths (d : Description) :
    (∀ path names, variableNames path = .ok names ↔
        path.toList.head? = some '/' ∧ ∃ t : PathTemplate, t.text = path ∧ t.names = names) ∧
      ((Validation.paths d).filter (·.category = .invalidPathTemplate)).map (·.pointer) =
        (d.paths.names.filter (¬ IsTemplate ·)).map pathPointer ∧
      ∀ path, (∃ D ∈ Validation.paths d, D.category = .conflictingPaths ∧
          D.pointer = pathPointer path) ↔
        ∃ (front back : Entries PathItem) (item : PathItem), d.paths = front ++ (path, item) :: back ∧
          IsTemplate path ∧ ∃ other ∈ front.names, IsTemplate other ∧ SameLiterals path other := by
  have hlists : ∀ D ∈ d.allPathItems.flatMap parameterLists, D.category = .duplicateParameter := by
    intro D hD
    obtain ⟨item, -, hD⟩ := List.mem_flatMap.mp hD
    exact category_of_mem_parameterLists hD
  refine ⟨fun _ _ => variableNames_eq_ok_iff, ?_, fun path => ?_⟩
  · have hnone : (d.allPathItems.flatMap parameterLists).filter
        (·.category = .invalidPathTemplate) = [] := by
      refine List.filter_eq_nil_iff.mpr fun D hD hcategory => ?_
      cases (hlists D hD).symm.trans (of_decide_eq_true hcategory)
    rw [Validation.paths, List.filter_append, hnone, List.append_nil, filter_pathKeys_invalid]
  · rw [← exists_conflict_iff]
    constructor
    · rintro ⟨D, hD, hcategory, hpointer⟩
      rcases List.mem_append.mp hD with hkeys | hlist
      · exact ⟨D, hkeys, hcategory, hpointer⟩
      · cases (hlists D hlist).symm.trans hcategory
    · rintro ⟨D, hD, hfound⟩
      exact ⟨D, List.mem_append_left _ hD, hfound⟩

end Validation

end ApiDescription
