import ApiDescription.Proofs.Binding.InsularRun
import ApiDescription.Proofs.Errorless

/-!
# Checks of what a run gets that does not leave its document

The checks of the first run find no errors.  The checks of the second run go through what is left of
that description.  Most of them can only find less, since they look for things that do not go
together.  Two of them look for something that is missing: a variable of a path that is no parameter,
and an operation without responses.  They find errors exactly where it is lost:
`Setting.Reruns.errors_problems` and `Setting.Reruns.mem_problems_of_misses`.
-/

namespace ApiDescription

open Validation

/-! ## What is missing -/

/-- What is missing in a second description because it is lost there. -/
inductive Description.Misses (S : Setting) (d d' : Description) : Diagnostic → Prop
  /-- A variable of a path was a parameter. -/
  | parameter {path : String} {item item' : PathItem} {o o' : Operation} {p : Parameter}
      (hitem : (path, item) ∈ d.paths) (hitem' : (path, item') ∈ d'.paths)
      (hitems : item.Like S item') (ho : o ∈ item.operationList) (ho' : o' ∈ item'.operationList)
      (hoperations : o.Like S o') (hp : p ∈ item.effectiveParameters o) (hplace : p.place = .path)
      (hlost : p ∈ item.parameters ∧ S.Loses item.document p.location ∨
        p ∈ o.parameters ∧ S.Loses o.document p.location)
      (hmissing : ∀ p' ∈ item'.effectiveParameters o', p'.place = .path → p'.name ≠ p.name) :
      Misses S d d'
        ((Finding.variableUndeclared o'.method path p.name).diagnostic o'.document o'.location)
  /-- An operation had responses. -/
  | responses {o o' : Operation} {responses : List (String × Response)} (ho : d.Holds o)
      (ho' : o' ∈ d'.allOperations) (hoperations : o.Like S o')
      (hresponses : o.responses = some responses) (hsome : responses ≠ [])
      (hlost : ∀ entry ∈ responses,
        S.Loses o.document ((o.location.push "responses").push entry.1))
      (hnone : o'.responses = some []) :
      Misses S d d'
        ((Finding.noResponses o'.method o'.path).diagnostic o'.document
          (o'.location.push "responses"))

variable {S : Setting} {d d' : Description} {item item' : PathItem} {o o' : Operation}

theorem Parameter.Alike.isSame {p p' q q' : Parameter} (hp : p.Alike p') (hq : q.Alike q') :
    p'.isSame q' = p.isSame q := by
  unfold Parameter.isSame Parameter.identity
  rw [hp.name, hp.place, hq.name, hq.place]

theorem PathItem.Like.exists_operation (h : item.Like S item') (ho' : o' ∈ item'.operationList) :
    ∃ o ∈ item.operationList, o.Like S o' := by
  obtain ⟨entry', hentry', rfl⟩ := List.mem_map.mp ho'
  obtain ⟨entry, hentry, hlike⟩ := h.operations.exists_of_mem hentry'
  exact ⟨entry.2, List.mem_map_of_mem hentry, hlike⟩

/-- A parameter for which there is none in the second description is lost. -/
theorem PathItem.Like.lost (h : item.Like S item') (ho : o.Like S o') {p : Parameter}
    (hp : p ∈ item.effectiveParameters o)
    (hmissing : ∀ p' ∈ item'.effectiveParameters o', ¬ p.Alike p') :
    p ∈ item.parameters ∧ S.Loses item.document p.location ∨
      p ∈ o.parameters ∧ S.Loses o.document p.location := by
  unfold PathItem.effectiveParameters at hp hmissing
  rcases List.mem_append.mp hp with hshared | hown
  · obtain ⟨hshared, hfree⟩ := List.mem_filter.mp hshared
    refine (h.parameters.lost_or_exists hshared).imp (⟨hshared, ·⟩) ?_
    rintro ⟨p', hp', halike⟩
    refine absurd halike (hmissing p' (List.mem_append_left _ (List.mem_filter.mpr ⟨hp', ?_⟩)))
    -- no parameter of the operation comes in its place
    simp only [Bool.not_eq_true', List.any_eq_false] at hfree ⊢
    intro q' hq'
    obtain ⟨q, hq, hqalike⟩ := ho.parameters.exists_of_mem hq'
    rw [hqalike.isSame halike]
    exact hfree q hq
  · refine .inr ((ho.parameters.lost_or_exists hown).elim (⟨hown, ·⟩) ?_)
    rintro ⟨p', hp', halike⟩
    exact absurd halike (hmissing p' (List.mem_append_right _ hp'))

/-! ## Paths -/

/-- A parameter that is like one that is right is right. -/
theorem Parameter.Alike.errorless_pathParameter {path : String} {names : List String}
    {document document' : Option String} {p p' : Parameter} (h : p.Alike p')
    (hp : Errorless (pathParameter path names document p)) :
    Errorless (pathParameter path names document' p') := by
  rw [ApiDescription.errorless_pathParameter] at hp ⊢
  rw [h.name, h.place, h.required]
  exact hp

section Path

variable {path : String} {names : List String} (hlike : item.Like S item')
  (hitem : (path, item) ∈ d.paths) (hitem' : (path, item') ∈ d'.paths)
include hlike hitem hitem'

/-- A variable that is no parameter in the second description was one in the first description, and
is lost. -/
theorem errors_undeclaredVariables (ho : o ∈ item.operationList)
    (ho' : o' ∈ item'.operationList) (hoperations : o.Like S o')
    (h : Errorless (undeclaredVariables path item names o)) :
    ErrorsAre (d.Misses S d') (undeclaredVariables path item' names o') := by
  intro D hD _
  obtain ⟨name, hname, rfl⟩ := List.mem_map.mp hD
  obtain ⟨hname, hmissing⟩ := List.mem_filter.mp hname
  simp only [Bool.not_eq_true', List.any_eq_false, Bool.and_eq_true, decide_eq_true_eq,
    not_and] at hmissing
  -- the first description declares it
  obtain ⟨p, hp, hplace, rfl⟩ : ∃ p ∈ item.effectiveParameters o,
      p.place = .path ∧ p.name = name := by
    by_contra hnone
    refine h.not_mem (f := .variableUndeclared o.method path name) rfl
      (List.mem_map.mpr ⟨name, List.mem_filter.mpr ⟨hname, ?_⟩, rfl⟩)
    simp only [Bool.not_eq_true', List.any_eq_false, Bool.and_eq_true, decide_eq_true_eq]
    exact fun p hp ⟨hplace, hpname⟩ => hnone ⟨p, hp, hplace, hpname⟩
  refine .parameter hitem hitem' hlike ho ho' hoperations hp hplace ?_ hmissing
  refine hlike.lost hoperations hp fun p' hp' halike => ?_
  exact hmissing p' hp' (halike.place.trans hplace) halike.name

/-- Of the parameters of a path and its operations, the ones that are left are right. -/
theorem errors_pathParameters (h : Errorless (pathParameters path item names)) :
    ErrorsAre (d.Misses S d') (pathParameters path item' names) := by
  obtain ⟨hrest, hown⟩ := errorsAre_append.mp h
  obtain ⟨hundeclared, hshared⟩ := errorsAre_append.mp hrest
  rw [errorsAre_flatMap] at hundeclared hshared hown
  refine errorsAre_append.mpr ⟨errorsAre_append.mpr ⟨?_, ?_⟩, ?_⟩
  · refine errorsAre_flatMap.mpr fun o' ho' => ?_
    obtain ⟨o, ho, hoperations⟩ := hlike.exists_operation ho'
    exact errors_undeclaredVariables hlike hitem hitem' ho ho' hoperations (hundeclared o ho)
  · refine errorsAre_flatMap.mpr fun p' hp' => ErrorsAre.of_errorless ?_
    obtain ⟨p, hp, halike⟩ := hlike.parameters.exists_of_mem hp'
    exact halike.errorless_pathParameter (hshared p hp)
  · refine errorsAre_flatMap.mpr fun o' ho' => errorsAre_flatMap.mpr fun p' hp' =>
      ErrorsAre.of_errorless ?_
    obtain ⟨o, ho, hoperations⟩ := hlike.exists_operation ho'
    obtain ⟨p, hp, halike⟩ := hoperations.parameters.exists_of_mem hp'
    exact halike.errorless_pathParameter (errorsAre_flatMap.mp (hown o ho) p hp)

end Path

/-- The parameters of every path that is a template are checked. -/
theorem mem_pathKeys {shapes : Entries String} {entries : Entries PathItem} {path : String}
    {names : List String} (hmem : (path, item) ∈ entries)
    (hnames : PathTemplate.variableNames path = .ok names) {D : Diagnostic}
    (hD : D ∈ pathParameters path item names) : D ∈ pathKeys shapes entries := by
  induction entries generalizing shapes with
  | nil => cases hmem
  | cons first rest ih =>
    unfold pathKeys
    rcases List.mem_cons.mp hmem with rfl | hmem
    · rw [hnames]
      exact List.mem_append_left _ (List.mem_append_right _ hD)
    · split
      · exact List.mem_cons_of_mem _ (ih hmem)
      · exact List.mem_append_right _ (ih hmem)

/-- The paths that are left are templates, no two of one shape. -/
theorem errors_pathKeys {items items' : Entries PathItem} (h : ThinnedItems S items items')
    (hitems : items ⊆ d.paths) (hitems' : items' ⊆ d'.paths) {shapes shapes' : Entries String}
    (hshapes : shapes'.names ⊆ shapes.names) (hclean : Errorless (pathKeys shapes items)) :
    ErrorsAre (d.Misses S d') (pathKeys shapes' items') := by
  induction h generalizing shapes shapes' with
  | nil => exact errorsAre_nil
  | @lose entry _ _ _ _ ih =>
    obtain ⟨path, item⟩ := entry
    obtain ⟨_, -, -, -, hrest⟩ := of_errorless_pathKeys hclean
    refine ih (List.subset_of_cons_subset hitems) hitems' (fun shape hshape => ?_) hrest
    rw [Entries.names, List.map_append]
    exact List.mem_append_left _ (hshapes hshape)
  | @keep entry entry' _ _ hfits _ ih =>
    obtain ⟨path, item⟩ := entry
    obtain ⟨path', item'⟩ := entry'
    obtain ⟨hpath, hfits⟩ := hfits
    obtain rfl : path' = path := hpath
    obtain ⟨names, hnames, hshape, hparameters, hrest⟩ := of_errorless_pathKeys hclean
    -- the second run has seen no shape that the first one has not
    have hfree : shapes'.get? (PathTemplate.shape path') = none :=
      Option.not_isSome_iff_eq_none.mp fun hsome =>
        hshape (hshapes (Entries.mem_names_iff.mpr hsome))
    unfold pathKeys
    rw [hnames]
    dsimp only
    rw [hfree]
    refine errorsAre_append.mpr ⟨errorsAre_append.mpr ⟨errorsAre_nil, ?_⟩, ?_⟩
    · exact errors_pathParameters hfits.like (hitems List.mem_cons_self)
        (hitems' List.mem_cons_self) hparameters
    · refine ih (List.subset_of_cons_subset hitems) (List.subset_of_cons_subset hitems') ?_ hrest
      intro shape hshape
      rw [Entries.names, List.map_append] at hshape ⊢
      exact (List.mem_append.mp hshape).elim (fun hold => List.mem_append_left _ (hshapes hold))
        (List.mem_append_right _)

/-! ## Lists of parameters -/

/-- What is left of a list of parameters without repetitions has none. -/
theorem errorless_repeatedParameters {Lost : Parameter → Prop} {ps ps' : List Parameter}
    (h : Thinned Lost Parameter.Alike ps ps') {before before' : List Parameter}
    (hbefore : ∀ q' ∈ before', ∃ q ∈ before, q.Alike q') {document document' : Option String}
    (hclean : Errorless (repeatedParameters document before ps)) :
    Errorless (repeatedParameters document' before' ps') := by
  induction h generalizing before before' with
  | nil => exact errorsAre_nil
  | @lose p _ _ _ _ ih =>
    refine ih (fun q' hq' => ?_) (errorsAre_append.mp hclean).2
    obtain ⟨q, hq, halike⟩ := hbefore q' hq'
    exact ⟨q, List.mem_append_left _ hq, halike⟩
  | @keep p p' _ _ halike _ ih =>
    obtain ⟨hfirst, hrest⟩ := errorsAre_append.mp hclean
    refine errorsAre_append.mpr ⟨?_, ih (fun q' hq' => ?_) hrest⟩
    · split
      · next hrepeated =>
        obtain ⟨q', hq', hsame⟩ := List.any_eq_true.mp hrepeated
        obtain ⟨q, hq, hqalike⟩ := hbefore q' hq'
        rw [hqalike.isSame halike] at hsame
        rw [if_pos (List.any_eq_true.mpr ⟨q, hq, hsame⟩)] at hfirst
        exact (hfirst.not_mem (f := .parameterRepeated p.place p.name) rfl
          (List.mem_singleton_self _)).elim
      · exact errorsAre_nil
    · rcases List.mem_append.mp hq' with hold | hnew
      · obtain ⟨q, hq, hqalike⟩ := hbefore q' hold
        exact ⟨q, List.mem_append_left _ hq, hqalike⟩
      · obtain rfl := List.mem_singleton.mp hnew
        exact ⟨p, List.mem_append_right _ (List.mem_singleton_self _), halike⟩

theorem PathItem.Like.errorless_parameterLists (h : item.Like S item')
    (hclean : Errorless (parameterLists item)) : Errorless (parameterLists item') := by
  obtain ⟨hshared, hown⟩ := errorsAre_append.mp hclean
  refine errorsAre_append.mpr ⟨?_, errorsAre_flatMap.mpr fun o' ho' => ?_⟩
  · exact errorless_repeatedParameters h.parameters (fun _ hq => absurd hq List.not_mem_nil) hshared
  · obtain ⟨o, ho, hoperations⟩ := h.exists_operation ho'
    exact errorless_repeatedParameters hoperations.parameters (fun _ hq => absurd hq List.not_mem_nil)
      (errorsAre_flatMap.mp hown o ho)

/-! ## Identifiers of operations -/

/-- An operation whose check finds no error has an identifier of its own, if it has one. -/
theorem of_errorless_repeatedIds {first : Entries Operation} {rest : List Operation}
    (h : Errorless (repeatedIds first (o :: rest))) :
    ∃ next, Errorless (repeatedIds next rest) ∧ first.names ⊆ next.names ∧
      ∀ id, o.operationId = some id → id ∉ first.names ∧ id ∈ next.names := by
  unfold repeatedIds at h
  cases hid : o.operationId with
  | none =>
    rw [hid] at h
    exact ⟨first, h, List.Subset.refl _, fun _ hnone => by cases hnone⟩
  | some id =>
    rw [hid] at h
    dsimp only at h
    cases hget : first.get? id with
    | some earlier =>
      rw [hget] at h
      exact (h.not_mem (f := .operationIdRepeated id earlier.method earlier.path) rfl
        List.mem_cons_self).elim
    | none =>
      rw [hget] at h
      have hnames : (first ++ [(id, o)] : Entries Operation).names = first.names ++ [id] :=
        List.map_append
      refine ⟨_, h, hnames ▸ List.subset_append_left _ _, fun other hother => ?_⟩
      obtain rfl := Option.some.inj hother
      rw [Entries.mem_names_iff, hget, hnames]
      exact ⟨Bool.false_ne_true, List.mem_append_right _ (List.mem_singleton_self _)⟩

/-- The identifiers of operations that are left are not repeated. -/
theorem errorless_repeatedIds {Lost : Operation → Prop} {operations operations' : List Operation}
    (h : Thinned Lost (Operation.Like S) operations operations') {first first' : Entries Operation}
    (hfirst : first'.names ⊆ first.names) (hclean : Errorless (repeatedIds first operations)) :
    Errorless (repeatedIds first' operations') := by
  induction h generalizing first first' with
  | nil => exact errorsAre_nil
  | lose _ _ ih =>
    obtain ⟨next, hnext, hsubset, -⟩ := of_errorless_repeatedIds hclean
    exact ih (List.Subset.trans hfirst hsubset) hnext
  | @keep o o' _ _ hlike _ ih =>
    obtain ⟨next, hnext, hsubset, hown⟩ := of_errorless_repeatedIds hclean
    unfold repeatedIds
    rw [hlike.operationId]
    cases hid : o.operationId with
    | none => exact ih (List.Subset.trans hfirst hsubset) hnext
    | some id =>
      obtain ⟨hfree, hmem⟩ := hown id hid
      have hget : first'.get? id = none :=
        Option.not_isSome_iff_eq_none.mp fun hsome =>
          hfree (hfirst (Entries.mem_names_iff.mpr hsome))
      dsimp only
      rw [hget]
      refine ih ?_ hnext
      rw [Entries.names, List.map_append]
      refine List.append_subset.mpr ⟨List.Subset.trans hfirst hsubset, ?_⟩
      exact List.cons_subset.mpr ⟨hmem, List.nil_subset _⟩

/-- The operations that are left stand in the path items that are left. -/
theorem ThinnedItems.operations {items items' : Entries PathItem} (h : ThinnedItems S items items') :
    Thinned (fun _ => True) (Operation.Like S) ((Description.operationsOf items).map (·.2))
      ((Description.operationsOf items').map (·.2)) := by
  have hlist : ∀ items : Entries PathItem, (Description.operationsOf items).map (·.2) =
      items.flatMap fun entry => entry.2.operationList := by
    intro items
    unfold Description.operationsOf
    simp [List.map_flatMap, Function.comp_def]
  rw [hlist, hlist]
  refine h.flatMap (fun _ _ _ _ => trivial) fun entry entry' hfits => ?_
  exact hfits.2.like.operations.map (fun _ => False.elim) fun _ _ hlike => hlike

/-! ## Schemas -/

/-- The only errors about schemas are about chains of references that go on forever. -/
theorem of_mem_schemas {D : Diagnostic} (hD : D ∈ schemas d) (herror : D.severity = .error) :
    ∃ id s reference, d.schemas.get? id = some s ∧ s.reference? = some reference ∧
      d.schemas.follow id = .closed := by
  obtain ⟨id, s, hs, ⟨r, hr, hend, rfl⟩ | ⟨-, f, hf, rfl⟩ | ⟨_, _, -, -, rfl⟩⟩ :=
    cases_of_mem_schemas hD
  · exact ⟨id, s, r, hs, by rw [Schema.reference?, hr], hend⟩
  · have hseverity : f.severity = .error := herror
    simp [Finding.severity, hf] at hseverity
  · cases herror

/-! ## Two runs -/

namespace Setting.Reruns

variable {root : Record} {w w' : Workspace} (h : S.Reruns root d d' w w')
include h

/-- Every operation of the second description is like one of the first description. -/
theorem exists_operation (ho' : d'.Holds o') : ∃ o, d.Holds o ∧ o.Like S o' := by
  obtain ⟨item', hitem', hmem⟩ := List.mem_flatMap.mp (Description.mem_operations_iff.mpr ho')
  obtain ⟨item, hitem, hlike⟩ := h.like.covers item' hitem'
  obtain ⟨o, ho, hoperations⟩ := hlike.exists_operation hmem
  exact ⟨o, Description.holds_of_item hitem ho, hoperations⟩

/-- An operation of the second description stands in the entry document. -/
theorem document_eq_none (ho' : d'.Holds o') : o'.document = none := by
  obtain ⟨r, hr, hread⟩ := (h.home.of_holds ho').read
  rw [hread.document]
  exact hr.scope.label_eq_none_iff.mpr hr.home

/-- For every operation of the second description, the checks of the first description come to one
with its key, which was read from the object that one like it was read from. -/
theorem exists_kept (ho' : d'.Holds o') :
    ∃ kept ∈ d.allOperations, ∃ o, d.Holds o ∧ o.Like S o' ∧ kept.document = o'.document ∧
      kept.location = o'.location ∧ ∃ r : Record, kept.ReadFrom r ∧ o.ReadFrom r := by
  obtain ⟨o, ho, hlike⟩ := h.exists_operation ho'
  obtain ⟨kept, hkept, hkey⟩ :=
    exists_mem_distinctOperations (Description.mem_operations_iff.mpr ho) List.not_mem_nil
  have hholds : d.Holds kept := Description.holds_of_mem_allOperations hkept
  obtain ⟨hdocument, hlocation⟩ := Prod.mk.inj hkey
  have hnone : kept.document = none :=
    (hdocument.trans hlike.document.symm).trans (h.document_eq_none ho')
  -- only the entry document has no name
  obtain ⟨r, -, hread, hread'⟩ := (h.traced.of_holds hholds).exists_read_of_label
    h.accepted.wellFormed (h.traced.of_holds ho) hkey fun c c' hc hc' hlabel heq => by
      rw [hnone] at hlabel
      refine hc.ext hc' ((hc.label_eq_none_iff.mp hlabel).trans ?_)
      exact (hc'.label_eq_none_iff.mp (heq ▸ hlabel)).symm
  exact ⟨kept, hkept, o, ho, hlike, hdocument.trans hlike.document.symm,
    hlocation.trans hlike.location.symm, r, hread, hread'⟩

/-! ### Operations -/

/-- What is wrong with the responses that are left is that there are none. -/
theorem errors_responses (hclean : ∀ o ∈ d.allOperations, Errorless (Validation.responses o))
    (ho' : o' ∈ d'.allOperations) : ErrorsAre (d.Misses S d') (Validation.responses o') := by
  obtain ⟨kept, hkept, o, ho, hlike, hdocument, hlocation, r, hread, hread'⟩ :=
    h.exists_kept (Description.holds_of_mem_allOperations ho')
  -- the checks of the first description came to the same keys
  have hkeys : ∀ {responses : List (String × Response)}, o.responses = some responses →
      ∃ responses', kept.responses = some responses' ∧
        responses'.map (·.1) = responses.map (·.1) := by
    intro responses hresponses
    have hsame := hread.responses.trans hread'.responses.symm
    rw [hresponses, Option.map_some] at hsame
    exact Option.map_eq_some_iff.mp hsame
  intro D hD _
  rcases mem_responses.mp hD with ⟨hnone, rfl⟩ | ⟨responses', key, hresponses', hkey, hcode, rfl⟩
  · obtain ⟨responses, hresponses, hthinned⟩ := hlike.responses [] hnone
    refine .responses ho ho' hlike hresponses ?_ (fun entry hentry => ?_) hnone
    · rintro rfl
      obtain ⟨responses', hresponses', hempty⟩ := hkeys hresponses
      obtain rfl := List.map_eq_nil_iff.mp hempty
      exact (hclean kept hkept).not_mem (f := .noResponses kept.method kept.path) rfl
        (mem_responses.mpr (.inl ⟨hresponses', rfl⟩))
    · exact (hthinned.lost_or_exists hentry).resolve_right fun ⟨_, hmem, _⟩ => nomatch hmem
  · obtain ⟨responses, hresponses, hthinned⟩ := hlike.responses responses' hresponses'
    obtain ⟨entry', hentry', rfl⟩ := List.mem_map.mp hkey
    obtain ⟨entry, hentry, heq⟩ := hthinned.exists_of_mem hentry'
    obtain ⟨left, hleft, hsame⟩ := hkeys hresponses
    have hmem : entry'.1 ∈ left.map (·.1) := hsame ▸ heq ▸ List.mem_map_of_mem hentry
    exact ((hclean kept hkept).not_mem (f := .badResponseCode entry'.1) rfl
      (mem_responses.mpr (.inr ⟨left, entry'.1, hleft, hmem, hcode, rfl⟩))).elim

/-- The second description declares the security schemes that the first one does. -/
theorem errorless_requirement {document document' : Option String} {q : SecurityRequirement}
    (hclean : Errorless (requirement d document q)) : Errorless (requirement d' document' q) := by
  intro D hD herror
  obtain ⟨scheme, hscheme, f, hf, rfl⟩ := mem_requirement.mp hD
  have hcategory : f.category = .unknownSecurityScheme := by
    refine (category_of_schemeFinding? hf).resolve_right fun hscopes => ?_
    have hseverity : f.severity = .error := herror
    simp [Finding.severity, hscopes] at hseverity
  have hwf := h.accepted.wellFormed
  have hwf' : S.insular.registry.WellFormed := hwf
  have hroot' : root.insular.Sited S.insular := h.sited.insular
  obtain ⟨hnone, rfl⟩ := (h.traced'.schemeFinding?_eq_iff hwf' hroot').mp ⟨hf, hcategory⟩
  have hfirst : schemeFinding? d scheme.1 scheme.2 = some (.unknownScheme scheme.1) ∧ _ :=
    (h.traced.schemeFinding?_eq_iff hwf h.sited).mpr ⟨hnone, rfl⟩
  exact hclean.not_mem (f := .unknownScheme scheme.1) rfl
    (mem_requirement.mpr ⟨scheme, hscheme, _, hfirst.1, rfl⟩)

theorem errorless_security (hclean : Errorless (Validation.security d)) :
    Errorless (Validation.security d') := by
  obtain ⟨hroot, hoperations⟩ := errorsAre_append.mp hclean
  rw [errorsAre_flatMap] at hroot hoperations
  refine errorsAre_append.mpr ⟨?_, ?_⟩
  · rw [h.like.security]
    exact errorsAre_flatMap.mpr fun q hq => h.errorless_requirement (hroot q hq)
  · refine errorsAre_flatMap.mpr fun o' ho' => errorsAre_flatMap.mpr fun q hq => ?_
    obtain ⟨kept, hkept, o, -, hlike, -, -, r, hread, hread'⟩ :=
      h.exists_kept (Description.holds_of_mem_allOperations ho')
    have hsecurity : o'.security = kept.security :=
      hlike.security.trans (hread'.security.trans hread.security.symm)
    rw [hsecurity] at hq
    exact h.errorless_requirement (errorsAre_flatMap.mp (hoperations kept hkept) q hq)

theorem errorless_servers (hclean : Errorless (Validation.servers d)) :
    Errorless (Validation.servers d') := by
  obtain ⟨hrest, hoperations⟩ := errorsAre_append.mp hclean
  obtain ⟨hroot, hitems⟩ := errorsAre_append.mp hrest
  rw [errorsAre_flatMap] at hitems hoperations
  refine errorsAre_append.mpr ⟨errorsAre_append.mpr ⟨?_, ?_⟩, ?_⟩
  · rwa [h.like.servers]
  · refine errorsAre_flatMap.mpr fun item' hitem' => ?_
    obtain ⟨item, hitem, hlike⟩ := h.like.covers item' hitem'
    rw [hlike.servers, hlike.document]
    exact hitems item hitem
  · refine errorsAre_flatMap.mpr fun o' ho' => ?_
    obtain ⟨kept, hkept, o, -, hlike, hdocument, -, r, hread, hread'⟩ :=
      h.exists_kept (Description.holds_of_mem_allOperations ho')
    have hservers : o'.servers = kept.servers :=
      hlike.servers.trans (hread'.servers.trans hread.servers.symm)
    rw [hservers, ← hdocument]
    exact hoperations kept hkept

/-! ### All checks -/

/-- Where the checks find no error in the first description, the errors that they find in the second
one are about what is missing there. -/
theorem errors_problems (hclean : Errorless d.problems) :
    ErrorsAre (d.Misses S d') d'.problems := by
  -- a chain that closes is an error in the first description, so none does
  have hcyclic : ∀ id s reference target, d.schemas.get? id = some s →
      s.reference? = some reference → reference.state = .cyclic target →
      d.schemas.follow id ≠ .closed := fun _ _ _ _ hs hreference hstate hclosed =>
    hclean _ (Description.mem_problems_of_follow hs hreference hstate hclosed) rfl
  unfold Description.problems at hclean ⊢
  simp only [Errorless, errorsAre_append] at hclean ⊢
  obtain ⟨⟨⟨⟨⟨⟨hpaths, hoperations⟩, hsecurity⟩, htags⟩, hkeys⟩, hservers⟩, -⟩ := hclean
  obtain ⟨hpathKeys, hlists⟩ := errorsAre_append.mp hpaths
  obtain ⟨hids, hresponses⟩ := errorsAre_append.mp hoperations
  rw [errorsAre_flatMap] at hlists hresponses
  refine ⟨⟨⟨⟨⟨⟨errorsAre_append.mpr ⟨?_, ?_⟩, errorsAre_append.mpr ⟨?_, ?_⟩⟩, ?_⟩, ?_⟩, ?_⟩, ?_⟩, ?_⟩
  · exact errors_pathKeys h.like.paths (List.Subset.refl _) (List.Subset.refl _)
      (List.Subset.refl _) hpathKeys
  · refine errorsAre_flatMap.mpr fun item' hitem' => ErrorsAre.of_errorless ?_
    obtain ⟨item, hitem, hlike⟩ := h.like.covers item' hitem'
    exact hlike.errorless_parameterLists (hlists item hitem)
  · rw [List.map_append] at hids ⊢
    have hthinned := (ThinnedItems.operations h.like.paths).append
      (ThinnedItems.operations h.like.webhooks)
    exact (errorless_repeatedIds hthinned (List.Subset.refl _) hids).of_errorless
  · exact errorsAre_flatMap.mpr fun o' ho' => h.errors_responses hresponses ho'
  · exact (h.errorless_security hsecurity).of_errorless
  · rw [Validation.tags, h.like.tags]
    exact htags.of_errorless
  · rw [componentKeys, h.like.components.writtenKeys]
    exact hkeys.of_errorless
  · exact (h.errorless_servers hservers).of_errorless
  · intro D hD herror
    obtain ⟨id', s', reference', hs', hreference', hclosed⟩ := of_mem_schemas hD herror
    exact (h.follow_ne_closed hcyclic hs' hreference' hclosed).elim

omit h in
/-- What is missing in the second description is found. -/
theorem mem_problems_of_misses (hclean : Errorless d.problems) {D : Diagnostic}
    (hD : d.Misses S d' D) : D ∈ d'.problems := by
  cases hD with
  | responses _ ho' _ _ _ _ hnone =>
    exact Description.mem_problems_of_responses ho' (mem_responses.mpr (.inl ⟨hnone, rfl⟩))
  | @parameter path item item' o o' p hitem hitem' _ ho ho' _ hp hplace _ hmissing =>
    have hkeys : ∀ {d : Description} {D : Diagnostic}, D ∈ pathKeys [] d.paths → D ∈ d.problems := by
      intro d D hD
      have hpaths : D ∈ Validation.paths d := List.mem_append_left _ hD
      simp only [Description.problems, List.mem_append]
      exact .inl (.inl (.inl (.inl (.inl (.inl hpaths)))))
    obtain ⟨names, hnames, hparameters⟩ :=
      exists_names_of_errorless (fun D hD => hclean D (hkeys hD)) hitem
    have hname : p.name ∈ names := by
      obtain ⟨hrest, hown⟩ := errorsAre_append.mp hparameters
      rcases List.mem_append.mp hp with hshared | hmem
      · have hshared := errorsAre_flatMap.mp (errorsAre_append.mp hrest).2 p
          (List.mem_filter.mp hshared).1
        exact (errorless_pathParameter.mp hshared hplace).1
      · have hown := errorsAre_flatMap.mp (errorsAre_flatMap.mp hown o ho) p hmem
        exact (errorless_pathParameter.mp hown hplace).1
    refine hkeys (mem_pathKeys hitem' hnames (List.mem_append_left _ (List.mem_append_left _ ?_)))
    refine List.mem_flatMap.mpr ⟨o', ho', List.mem_map.mpr ⟨p.name, ?_, rfl⟩⟩
    simp only [List.mem_filter, Bool.not_eq_true', List.any_eq_false, Bool.and_eq_true,
      decide_eq_true_eq, not_and]
    exact ⟨hname, hmissing⟩

end Setting.Reruns

end ApiDescription
