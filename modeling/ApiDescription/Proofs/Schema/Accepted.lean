import ApiDescription.Proofs.Binding.Description
import ApiDescription.Proofs.Import
import ApiDescription.Proofs.Schema.Chains

/-!
# Accepted descriptions

Where references into other documents are followed and the checks are made, a report without errors
means that every chain of references of the description reaches a schema:
`Importer.reaches_of_run`.

A reference that is not resolved has a finding that is an error.  A chain that never ends passes a
reference that closes a cycle, since all other references lead to schemas that were finished before;
and the checks follow the chains from such references.
-/

namespace ApiDescription

/-! ## Locating references -/

/-- Where references into other documents are followed, one that cannot be located is an error. -/
theorem Scope.severity_of_locate {c : Scope} {f : Finding}
    (hexternal : c.setting.options.resolveExternal = true) {reference : String}
    (h : c.locate reference = .error f) : f.severity = .error := by
  cases of_locate_eq_error h with
  | externalReference hleft => simp [hexternal] at hleft
  | _ => rfl

/-! ## What a reference leads to -/

theorem Schema.shape_of_reference? {s : Schema} {reference : Reference}
    (h : s.reference? = some reference) : s.shape = .reference reference := by
  unfold reference? at h
  split at h
  · next r hshape => rw [hshape, Option.some.inj h]
  · simp at h

namespace Workspace

variable {S : Setting} {w : Workspace} {id : SchemaId} {s : Schema} {reference : Reference}

/-- What became of a schema that is a reference is settled. -/
theorem Account.settles (h : w.Account S id s) (hs : w.graph.get? id = some s)
    (hreference : s.reference? = some reference) :
    ∃ c at_, Scope.Registered S c ∧ w.Settles c at_ reference.text reference.state := by
  have hshape := Schema.shape_of_reference? hreference
  cases h with
  | @read n t hn _ _ hread hunnamed =>
    have hmem : reference ∈ t.shape.references := by
      rw [Schema.shape_eq_of_unnamed hunnamed, hshape]
      exact List.mem_singleton_self _
    obtain ⟨at_, hsettles⟩ := hread.settles hmem
    exact ⟨n.scope, at_, hn.scope, hsettles⟩
  | cut _ _ _ hunnamed _ =>
    have hany : s.shape = .any := congrArg Schema.shape hunnamed
    simp [hany] at hshape
  | part _ _ hstructural hpart _ =>
    obtain ⟨-, -, heq⟩ := hpart.of_get? hs
    exact absurd (heq.symm.trans hshape) (hstructural.plain.2 reference)

/-- Where no error is found and references into other documents are followed, every reference has a
target. -/
theorem Complete.target_of_reference? (h : w.Complete S)
    (hexternal : S.options.resolveExternal = true) (herrors : w.report.hasErrors = false)
    (hs : w.graph.get? id = some s) (hreference : s.reference? = some reference) :
    ∃ target, reference.state.target? = some target ∧ target < w.graph.size := by
  have haccount := h.sound.account id s hs (h.not_open id)
  obtain ⟨c, at_, hc, hsettles⟩ := haccount.settles hs hreference
  obtain ⟨text, state⟩ := reference
  cases hsettles with
  -- every reference without a target has been reported
  | unresolved hlocate hfound =>
    have herror := Scope.severity_of_locate (hc.setting ▸ hexternal) hlocate
    exact absurd herror (Report.hasErrors_eq_false_iff.mp herrors _ hfound)
  | @resolved _ target _ hslot => exact ⟨target, rfl, h.sound.lt_size_of_mem hslot⟩
  | @cyclic _ target _ hslot => exact ⟨target, rfl, h.sound.lt_size_of_mem hslot⟩

/-- If no chain from a reference that closes a cycle goes on forever, then no chain does. -/
theorem Grounded.follow_ne_closed (h : w.Grounded id)
    (hcyclic : ∀ id s reference target, w.graph.get? id = some s →
      s.reference? = some reference → reference.state = .cyclic target →
      w.graph.follow id ≠ .closed) : w.graph.follow id ≠ .closed := by
  induction h with
  -- the children of a schema are not on its chain
  | @intro id s hs _ _ _ _ ihtargets =>
    cases hreference : s.reference? with
    | none =>
      exact SchemaGraph.followFor_succ_ne_closed (by simp [SchemaGraph.next?, hs, hreference])
    | some reference =>
      cases hstate : reference.state with
      | unresolved | resolving =>
        refine SchemaGraph.followFor_succ_ne_closed ?_
        simp [SchemaGraph.next?, hs, hreference, hstate, ReferenceState.target?]
      | cyclic target => exact hcyclic id s reference target hs hreference hstate
      | resolved target =>
        have hmem : reference ∈ s.shape.references := by
          rw [Schema.shape_of_reference? hreference]
          exact List.mem_singleton_self _
        have hnext : w.graph.next? id = some target := by
          simp [SchemaGraph.next?, hs, hreference, hstate, ReferenceState.target?]
        have htarget := ihtargets reference hmem target hstate
        rw [Ne, SchemaGraph.follow_eq_closed_iff] at htarget ⊢
        intro hclosed
        refine htarget fun n => ?_
        rw [← SchemaGraph.followFor_succ_of_some hnext]
        exact hclosed (n + 1)

end Workspace

/-! ## Checks -/

theorem SchemaGraph.mem_numbered {g : SchemaGraph} {id : SchemaId} {s : Schema}
    (h : g.get? id = some s) : (id, s) ∈ g.numbered :=
  List.mem_map.mpr ⟨(s, id), List.mk_mem_zipIdx_iff_getElem?.mpr h, rfl⟩

/-- The checks find every chain that a reference that closes a cycle starts and that goes on
forever. -/
theorem Description.mem_problems_of_follow {d : Description} {id target : SchemaId} {s : Schema}
    {reference : Reference} (hs : d.schemas.get? id = some s)
    (hreference : s.reference? = some reference) (hstate : reference.state = .cyclic target)
    (hclosed : d.schemas.follow id = .closed) :
    (Finding.referenceCloses reference.text).diagnostic s.document s.location ∈ d.problems := by
  have hschema : Validation.schema d.schemas id s =
      [(Finding.referenceCloses reference.text).diagnostic s.document s.location] := by
    rw [Validation.schema, Schema.shape_of_reference? hreference]
    simp only [Validation.reference, hstate, hclosed, if_true]
  have hmem : (Finding.referenceCloses reference.text).diagnostic s.document s.location ∈
      Validation.schema d.schemas id s := hschema ▸ List.mem_singleton_self _
  exact List.mem_append_right _ (List.mem_flatMap.mpr ⟨(id, s), d.schemas.mem_numbered hs, hmem⟩)

/-- An import that is checked, follows references into other documents and reports no error: the
chain of references from every schema reaches a schema that is no reference. -/
theorem Importer.reaches_of_run {i : Importer} {text : String} {out : Import}
    (hvalidate : i.options.validate = true) (hexternal : i.options.resolveExternal = true)
    (h : i.run text = .ok out) (herrors : out.report.hasErrors = false) :
    ∀ id < out.description.schemas.size, ∃ target s,
      out.description.schemas.resolve? id = some target ∧
        out.description.schemas.get? target = some s ∧ s.reference? = none := by
  obtain ⟨registry, key, version, declared, found, -, hbind, hreport⟩ := of_run_eq_ok h
  obtain ⟨w, hrun, rfl⟩ := Registry.exists_run_of_bind hbind
  obtain ⟨place, -, hw, hgraph⟩ := Registry.complete_of_run hrun
  rw [hreport, Report.hasErrors_eq_false_iff] at herrors
  have hfound : w.report.hasErrors = false :=
    Report.hasErrors_eq_false_iff.mpr fun f hf => herrors f (mem_checked_of_mem hf)
  -- the checks would report a reference that closes a cycle if its chain went on forever
  have hcyclic : ∀ id s reference target, out.description.schemas.get? id = some s →
      s.reference? = some reference → reference.state = .cyclic target →
      out.description.schemas.follow id ≠ .closed := by
    intro id s reference target hs hreference hstate hclosed
    have hproblem := Description.mem_problems_of_follow hs hreference hstate hclosed
    exact herrors _ (mem_checked_of_mem_problems hvalidate hproblem) rfl
  rw [hgraph] at hcyclic ⊢
  intro id hid
  have hclosed := (hw.sound.grounded id hid (hw.not_open id)).follow_ne_closed hcyclic
  have hbroken : w.graph.follow id ≠ .broken := SchemaGraph.followFor_ne_broken
    (fun _ _ _ hs hreference => hw.target_of_reference? hexternal hfound hs hreference) hid
  cases hend : w.graph.follow id with
  | reached target =>
    obtain ⟨s, hs, hreference⟩ := SchemaGraph.concrete_of_reached hend
    exact ⟨target, s, by rw [SchemaGraph.resolve?, hend], hs, hreference⟩
  | broken => exact absurd hend hbroken
  | closed => exact absurd hend hclosed

/-- A text with a schema that is put together from a reference to itself. -/
def recursiveText : String :=
  "\x7b\"openapi\":\"3.1.0\",\"info\":\x7b\"title\":\"\",\"version\":\"\"\x7d," ++
    "\"components\":\x7b\"schemas\":\x7b\"A\":" ++
      "\x7b\"not\":\x7b\"$ref\":\"#/components/schemas/A\"\x7d\x7d\x7d\x7d\x7d"

/-- The reference in `recursiveText` closes a cycle, and its chain reaches the schema that holds
it. -/
theorem Importer.reaches_of_run_recursiveText :
    Options.standard.validate = true ∧ Options.standard.resolveExternal = true ∧
      ∃ out, (ofOptions .standard).run recursiveText = .ok out ∧ out.report.hasErrors = false ∧
        ∀ id < out.description.schemas.size, ∃ target s,
          out.description.schemas.resolve? id = some target ∧
            out.description.schemas.get? target = some s ∧ s.reference? = none := by
  have hout : ((ofOptions .standard).run recursiveText).toOption.map (·.report.hasErrors) =
      some false := by decide +kernel
  cases hrun : (ofOptions .standard).run recursiveText with
  | error fault => simp [hrun, Except.toOption] at hout
  | ok out =>
    rw [hrun] at hout
    have herrors : out.report.hasErrors = false := Option.some.inj hout
    exact ⟨rfl, rfl, out, rfl, herrors, reaches_of_run rfl rfl hrun herrors⟩

end ApiDescription
