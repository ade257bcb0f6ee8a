import ApiDescription.Proofs.Binding.TallyDescription
import ApiDescription.Proofs.Locations

/-!
# Diagnostics that are found again

The checks report nothing that is reported already, so what a report holds twice was found twice
while the description was bound.  `Diagnostic.Recurs` says how that can be: two documents have one
name, or something around it is read as what it is not for, or an object is read again by a
reference, or a field is read for each of several types.  Nothing else makes a diagnostic recur:
`Importer.recurs_of_reports`.
-/

namespace ApiDescription

/-! ## What makes a diagnostic be found again -/

/-- Something in a setting makes a diagnostic be found again. -/
inductive Diagnostic.Recurs (S : Setting) (D : Diagnostic) : Prop
  /-- Two documents have the name of the one that it is about. -/
  | namesakes {c c' : Scope} (hc : c.Registered S) (hc' : c'.Registered S)
      (hplace : c.place ≠ c'.place) (h : D.document = c.label) (h' : D.document = c'.label)
  /-- A reference makes something around it be read as what it is not for. -/
  | misread {role : Role} {n : Node} (hn : n.Plays S role) (hbelow : D.Below n.scope n.pointer)
      (hrole : n.pointer.role ≠ role)
  /-- An object refers to something around it, and no schema is between. -/
  | shared {role : Role} {n target : Node} {text : String} (hn : n.Plays S role)
      (houter : role.inSchema = false) (hrefers : role.refers = true)
      (htext : n.value.member? referenceKey = some (.string text))
      (htarget : n.scope.locate text = .ok target) (hbelow : D.Below target.scope target.pointer)
      (hD : D.pointer.role.inSchema = false)
  /-- It is about a field that is read for each of several types of a schema. -/
  | types {r : Record} (hr : r.Plays S .schema) (hseveral : r.SeveralTypes) {key : String}
      (hkey : key ∈ "type" :: Record.scalarKeys) (hat : D.At r.scope (r.pointer.push key))

variable {S : Setting} {D : Diagnostic}

theorem Diagnostic.sole_of_not_recurs (hwf : S.registry.WellFormed) (h : ¬ D.Recurs S) :
    S.Sole D where
  wellFormed := hwf
  named hc hc' hlabel hlabel' :=
    by_contra fun hplace => h (.namesakes hc hc' hplace hlabel hlabel')
  orderly hn hbelow := by_contra fun hrole => h (.misread hn hbelow hrole)
  apart hn houter hrefers htext htarget hbelow := by
    by_contra hD
    exact h (.shared hn houter hrefers htext htarget hbelow (Bool.eq_false_of_not_eq_true hD))
  types hr hseveral _ hkey hat := h (.types hr hseveral hkey hat)

/-! ## Binding -/

/-- A run finds once what nothing makes be found again. -/
theorem Setting.Sole.count_le_one (h : S.Sole D) {root : Record} (hroot : S.root? = some root)
    (declared : String) :
    (root.description declared .fresh).2.report.diagnostics.count D ≤ 1 := by
  have htally := Record.costs_description h (.root hroot) declared .fresh
  -- what is about a schema is counted in advance, and anything else is the share of the root
  have hstart : Workspace.fresh.tally S D + root.node.share D false ≤ 1 := by
    have hfound : Workspace.fresh.report.diagnostics.count D = 0 := rfl
    rw [Workspace.tally, hfound, Nat.zero_add]
    refine Nat.le_trans (add_weight_le (Q := True) (fun hexpects => ?_) ?_ fun _ => trivial)
      weight_le_one
    · exact weight_of_not fun hit => by simp [hexpects.1] at hit
    · exact weight_mono fun _ => trivial
  exact Nat.le_trans (Nat.le_add_right _ _) (Nat.le_trans htally hstart)

/-- What is found twice while a description is bound recurs. -/
theorem Registry.recurs_of_bind {r : Registry} {entry : String} {options : Options}
    {version : Version} {declared : String} {d : Description} {report : Report}
    (hwf : r.WellFormed) (h : r.bind entry options version declared = .ok (d, report))
    (hD : 2 ≤ report.diagnostics.count D) :
    ∃ place, r.place? entry = some place ∧ D.Recurs ⟨r, place, options, version⟩ := by
  obtain ⟨w, hrun, rfl⟩ := exists_run_of_bind h
  obtain ⟨place, source, hplace, hsource, hbound⟩ := exists_source_of_run hrun
  refine ⟨place, hplace, by_contra fun hrecurs => ?_⟩
  obtain ⟨root, hroot, hleft⟩ :=
    RegisteredDocument.exists_root_of_run (S := ⟨r, place, options, version⟩) hsource hbound
  have hle : w.report.diagnostics.count D ≤ 1 := by
    rw [(Prod.mk.inj hleft).2]
    exact (Diagnostic.sole_of_not_recurs hwf hrecurs).count_le_one hroot declared
  omega

/-! ## Reports -/

/-- What the checks add is added once. -/
theorem Report.count_extend_le (r : Report) (found : List Diagnostic) (D : Diagnostic) :
    (r.extend found).diagnostics.count D ≤ max 1 (r.diagnostics.count D) := by
  unfold extend
  induction found generalizing r with
  | nil => exact Nat.le_max_right _ _
  | cons first rest ih =>
    refine Nat.le_trans (ih _) ?_
    dsimp only
    split
    · exact Nat.le_refl _
    · next hnew =>
      have hnone : r.diagnostics.count first = 0 := List.count_eq_zero.mpr hnew
      rw [push, List.count_append, List.count_singleton]
      split
      · next heq =>
        obtain rfl := eq_of_beq heq
        omega
      · omega

namespace Importer

/-- A setting is the one in which an importer binds a text. -/
def BindsIn (i : Importer) (text : String) (S : Setting) : Prop :=
  ∃ d declared key, LoadedDocument.ofText text = .ok d ∧
    Version.declaredIn d.root = .ok (S.version, declared) ∧
      i.registry.replace i.entryUri d = .ok (S.registry, key) ∧
        S.registry.place? key = some S.entry ∧ S.options = i.options

/-- What the report of an import holds twice recurs. -/
theorem recurs_of_reports (o : Options) (calls : List (String × String)) {text : String}
    {report : Report} (h : ((ofOptions o).registerAll calls).Reports text report) {D : Diagnostic}
    (hD : 2 ≤ report.diagnostics.count D) :
    ∃ S, ((ofOptions o).registerAll calls).BindsIn text S ∧ D.Recurs S := by
  have hwf := registerAll_wellFormed (ofOptions o) Registry.wellFormed_empty calls
  generalize (ofOptions o).registerAll calls = i at h hwf ⊢
  obtain ⟨d, description, found, hload, hbind, rfl⟩ := h.exists_bind
  obtain ⟨version, declared, registry, key, hversion, hreplace, hbound⟩ := exists_of_bind hbind
  have hfound : 2 ≤ found.diagnostics.count D := by
    unfold checked at hD
    split at hD
    · have hle := Report.count_extend_le found description.problems D
      unfold Description.validate at hD
      omega
    · exact hD
  obtain ⟨place, hplace, hrecurs⟩ := Registry.recurs_of_bind
    (hwf.replace (LoadedDocument.wellFormed_of_ofText hload) hreplace) hbound hfound
  exact ⟨⟨registry, place, i.options, version⟩,
    ⟨d, declared, key, hload, hversion, hreplace, hplace, rfl⟩, hrecurs⟩

/-- A text with a response that lacks its description, and a reference to it. -/
def sharedResponseText : String :=
  "\x7b\"openapi\":\"3.1.0\",\"components\":\x7b\"responses\":\x7b\"A\":\x7b\x7d," ++
    "\"B\":\x7b\"$ref\":\"#/components/responses/A\"\x7d\x7d\x7d\x7d"

/-- What is found about the response. -/
def sharedResponseDiagnostic : Diagnostic :=
  (Finding.missing "response" "description").diagnostic none
    (((Pointer.root.push "components").push "responses").push "A")

/-- The missing description is found twice, because the response is referred to. -/
theorem recurs_of_reports_sharedResponse :
    ∃ report, ((ofOptions insularOptions).registerAll []).Reports sharedResponseText report ∧
      report.diagnostics.count sharedResponseDiagnostic = 2 ∧
        ∃ S, ((ofOptions insularOptions).registerAll []).BindsIn sharedResponseText S ∧
          sharedResponseDiagnostic.Recurs S := by
  have hfound : ((ofOptions insularOptions).run sharedResponseText).toOption.map
      (·.report.diagnostics.count sharedResponseDiagnostic) = some 2 := by decide +kernel
  cases hrun : (ofOptions insularOptions).run sharedResponseText with
  | error fault => simp [hrun, Except.toOption] at hfound
  | ok out =>
    rw [hrun] at hfound
    have hcount : out.report.diagnostics.count sharedResponseDiagnostic = 2 :=
      Option.some.inj hfound
    have hreports : ((ofOptions insularOptions).registerAll []).Reports sharedResponseText
        out.report := .inl ⟨out, hrun, rfl⟩
    exact ⟨out.report, hreports, hcount,
      recurs_of_reports insularOptions [] hreports (Nat.le_of_eq hcount.symm)⟩

end Importer

end ApiDescription
