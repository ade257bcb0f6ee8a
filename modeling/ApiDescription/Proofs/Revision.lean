import Mathlib.Data.List.Forall2
import ApiDescription.Proofs.Binding.SideBySide

/-!
# From version 3.1 to version 3.2

To binding, version 3.2 is version 3.1 in which a response need not have a description.  A document
that is bound in both versions is read side by side: the schemas, and the nodes at which they were
met, stay the same, and so does the report, but that the first run tells of each response without a
description, and that each run names its own version (`Report.Revised`).  The main result is
`Registry.bind_revised`.

Those diagnostics are known by their category and their message.  No other finding has both, since
the words between the object and the field occur only once in the message
(`Finding.saysUndescribed_iff`).
-/

namespace ApiDescription

open Binding Tandem GuidedTandem Simulation

/-! ## Diagnostics -/

/-- The diagnostic says that a response has no description. -/
def Diagnostic.SaysUndescribed (D : Diagnostic) : Prop :=
  D.category = .missingField ∧ D.message = (Finding.missing "response" "description").message

instance : DecidablePred Diagnostic.SaysUndescribed := fun D =>
  inferInstanceAs (Decidable (D.category = .missingField ∧ D.message = _))

/-- The second diagnostic is the first one, but for a version that its message names. -/
structure Diagnostic.Restated (D D' : Diagnostic) : Prop where
  /-- It is as serious. -/
  severity : D'.severity = D.severity
  /-- It has the same category. -/
  category : D'.category = D.category
  /-- It is about the same document. -/
  document : D'.document = D.document
  /-- It is about the same node. -/
  pointer : D'.pointer = D.pointer
  /-- Its message is the same, or names version 3.2 in the place of version 3.1. -/
  message : D'.message = D.message ∨ ∃ before after,
    D.message = before ++ Version.v31.text ++ after ∧
      D'.message = before ++ Version.v32.text ++ after

/-- The second report is the first one without what it says of responses that have no description,
and with version 3.2 in the place of version 3.1. -/
def Report.Revised (found found' : Report) : Prop :=
  List.Forall₂ Diagnostic.Restated
    (found.diagnostics.filter fun D => ¬ D.SaysUndescribed) found'.diagnostics

/-- What stands around a text is told by the whole, if the text occurs at one place only. -/
theorem eq_and_eq_of_occurs_once {α : Type} [BEq α] [LawfulBEq α]
    {before before' middle after after' : List α}
    (honce : ∀ k ≤ (before' ++ (middle ++ after')).length,
      middle.isPrefixOf ((before' ++ (middle ++ after')).drop k) = true → k = before'.length)
    (h : before ++ (middle ++ after) = before' ++ (middle ++ after')) :
    before = before' ∧ after = after' := by
  have hlength : before.length = before'.length := by
    apply honce
    · rw [← h]
      simp
    · rw [← h, List.drop_left, List.isPrefixOf_iff_prefix]
      exact List.prefix_append middle after
  obtain ⟨hbefore, hrest⟩ := List.append_inj h hlength
  exact ⟨hbefore, List.append_cancel_left hrest⟩

namespace Finding

theorem eq_of_message_missing {owner field : String}
    (h : (missing owner field).message = (missing "response" "description").message) :
    owner = "response" ∧ field = "description" := by
  have hlist (owner field : String) : (missing owner field).message.toList =
      owner.toList ++ (" is missing required field ".toList ++ (quote field).toList) := by
    change (owner ++ " is missing required field " ++ quote field).toList = _
    rw [String.toList_append, String.toList_append, List.append_assoc]
  have heq := congrArg String.toList h
  rw [hlist, hlist] at heq
  -- the words between the object and the field occur once in the message for a description
  obtain ⟨howner, hquoted⟩ := eq_and_eq_of_occurs_once (by decide) heq
  have hfield : "'" ++ field ++ "'" = "'" ++ "description" ++ "'" := String.toList_inj.mp hquoted
  rw [String.append_left_inj, String.append_right_inj] at hfield
  exact ⟨String.toList_inj.mp howner, hfield⟩

variable {f f' : Finding} {label : Option String} {p : Pointer}

/-- The only finding that says that a response has no description is the one made for that. -/
theorem saysUndescribed_iff :
    (f.diagnostic label p).SaysUndescribed ↔ f = .missing "response" "description" := by
  constructor
  · rintro ⟨hcategory, hmessage⟩
    change f.category = .missingField at hcategory
    change f.message = _ at hmessage
    cases f with
    | missing owner field =>
      obtain ⟨rfl, rfl⟩ := eq_of_message_missing hmessage
      rfl
    | nothingDefined => exact absurd hmessage (by decide)
    | _ => cases hcategory
  · rintro rfl
    exact ⟨rfl, rfl⟩

theorem not_saysUndescribed (hf : f.setApart = false) :
    ¬ (f.diagnostic label p).SaysUndescribed := by
  rw [saysUndescribed_iff]
  rintro rfl
  cases hf

theorem Revised.restated (h : f.Revised .v31 .v32 f') :
    (f.diagnostic label p).Restated (f'.diagnostic label p) := by
  cases h with
  | refl => exact ⟨rfl, rfl, rfl, rfl, .inl rfl⟩
  | unknownInVersion field => exact ⟨rfl, rfl, rfl, rfl, .inr ⟨_, _, rfl, rfl⟩⟩
  | boundNotNumber field =>
    exact ⟨rfl, rfl, rfl, rfl,
      .inr ⟨_, "", String.append_empty.symm, String.append_empty.symm⟩⟩
  | unknownSchemeType name =>
    exact ⟨rfl, rfl, rfl, rfl,
      .inr ⟨_, "", String.append_empty.symm, String.append_empty.symm⟩⟩

end Finding

/-! ## Documents and workspaces -/

/-- The setting, but with version 3.2. -/
def Setting.revised (S : Setting) : Setting := { S with version := .v32 }

/-- The document, in the setting with version 3.2. -/
def Scope.revised (c : Scope) : Scope := { c with setting := c.setting.revised }

namespace Scope

theorem at?_revised (c : Scope) (place : Nat) :
    c.revised.at? place = (c.at? place).map revised := by
  unfold at?
  rw [Option.map_map]
  rfl

theorem documentOf_revised (c : Scope) (document reference : String) :
    c.revised.documentOf document reference = (c.documentOf document reference).map revised := by
  have hbase : c.revised.source.base = c.source.base := rfl
  have hregistry : c.revised.setting.registry = c.setting.registry := rfl
  have hplace : c.revised.place = c.place := rfl
  have hoptions : c.revised.setting.options = c.setting.options := rfl
  -- the version is not among what a document is looked for by
  unfold documentOf
  rw [hbase, hregistry, hplace, hoptions]
  cases c.source.base.resolve? document with
  | none => rfl
  | some uri =>
    dsimp only
    split
    · rfl
    · split
      · rfl
      · cases c.setting.registry.place? uri.text with
        | none => rfl
        | some place =>
          rw [Option.bind_some, Option.bind_some, at?_revised]
          cases c.at? place <;> rfl

/-- References lead to the same nodes. -/
theorem locate_revised (c : Scope) (text : String) :
    c.revised.locate text =
      (c.locate text).map fun n => ⟨n.scope.revised, n.pointer, n.value⟩ :=
  locate_other rfl (c.documentOf_revised _ text) fun _ _ => rfl

end Scope

/-- The second workspace is the first one but for the report, which is revised. -/
structure Workspace.Revised (w w' : Workspace) : Prop where
  /-- The schemas are the same. -/
  graph : w'.graph = w.graph
  /-- They were met at the same nodes. -/
  slots : w'.slots = w.slots
  /-- The report is revised. -/
  report : w.report.Revised w'.report

namespace Workspace.Revised

variable {w w' : Workspace} (h : w.Revised w') {f f' : Finding} {label : Option String}
  {p : Pointer}
include h

/-- Both runs tell of something. -/
theorem told (hf : f.Revised .v31 .v32 f') (hkept : ¬ (f.diagnostic label p).SaysUndescribed) :
    (w.told f label p).Revised (w'.told f' label p) where
  graph := h.graph
  slots := h.slots
  report := by
    change List.Forall₂ _ ((w.report.diagnostics ++ [f.diagnostic label p]).filter _)
      (w'.report.diagnostics ++ [f'.diagnostic label p])
    rw [List.filter_append, List.filter_cons_of_pos (by simpa using hkept), List.filter_nil]
    exact List.rel_append h.report (.cons hf.restated .nil)

/-- Only the first run tells of a response without a description. -/
theorem told_undescribed :
    (w.told (.missing "response" "description") label p).Revised w' where
  graph := h.graph
  slots := h.slots
  report := by
    have hdropped : ((Finding.missing "response" "description").diagnostic label p).SaysUndescribed :=
      Finding.saysUndescribed_iff.mpr rfl
    change List.Forall₂ _ ((w.report.diagnostics ++ [_]).filter _) _
    rw [List.filter_append, List.filter_cons_of_neg (by simpa using hdropped), List.filter_nil,
      List.append_nil]
    exact h.report

end Workspace.Revised

/-! ## Two runs -/

section Runs

variable {S : Setting} (hS : S.version = .v31)
include hS

/-- The documents of a setting with version 3.1, beside themselves with version 3.2. -/
def Simulation.revising : Simulation where
  scope := Scope.revised
  known c := c.Registered S
  states := Workspace.Revised
  label _ := rfl
  alike hc := by
    rw [hc.version, hS]
    exact ⟨rfl, rfl, rfl, rfl⟩
  maxDepth _ := .inl rfl
  place _ _ := Iff.rfl
  locate {c} _ text := .inl (c.locate_revised text)
  located := @Scope.Registered.located S
  tell hw c hc f f' hrevised hf label p := by
    rw [hc.version, hS] at hrevised
    exact hw.told hrevised (Finding.not_saysUndescribed hf)
  graph hw := hw.graph
  slot? hw c _ p := by
    unfold Workspace.slot?
    rw [hw.slots]
    rfl
  push hw s := ⟨congrArg (·.push s) hw.graph, hw.slots, hw.report⟩
  rename hw id name := ⟨congrArg (·.modify id (Schema.named name)) hw.graph, hw.slots, hw.report⟩

theorem Simulation.enters_revising : (revising hS).Enters where
  tooDeep {n} hn limit := by
    refine .of_run (fun _ hw => hw.told _ _ _) fun w w' hw => ⟨rfl, ?_⟩
    exact hw.told (.refl _) (Finding.saysUndescribed_iff.not.mpr Finding.noConfusion)
  change id s := .of_run (fun _ hw => hw) fun w w' hw =>
    ⟨rfl, congrArg (·.modify id fun _ => s) hw.graph, hw.slots, hw.report⟩
  setSlot {n} hn slot := .of_run (fun _ hw => hw) fun w w' hw =>
    ⟨rfl, hw.graph, congrArg ((n.site, slot) :: ·) hw.slots, hw.report⟩

/-- The description of a response is the same, whether the version asks for it or not. -/
theorem Simulation.same_responseText?_revising {r : Record} (hr : r.scope.Registered S) :
    (revising hS).Same r.responseText? ((revising hS).record r).responseText? := by
  have hversion : r.scope.version = .v31 := hr.version.trans hS
  have htext := same_text? (t := (revising hS).toTandem) hr "description"
  have hasked : r.responseText? = r.requiredText? "response" "description" := by
    unfold Record.responseText?
    rw [hversion]
    rfl
  rw [hasked]
  change Same _ _ (((revising hS).record r).text? "description")
  -- both runs read a description that is there; only the first one tells of one that is not
  unfold Record.requiredText?
  split
  · exact htext
  · next hmissing =>
    have hnone : ((revising hS).record r).text? "description" = pure none := by
      have hget : r.members.get? "description" = none := by
        simpa [Record.has, Entries.contains] using hmissing
      unfold Record.text? Record.read?
      rw [members_record, hget]
    rw [hnone]
    exact .of_run (fun _ hw => hw.told _ _ _) fun _ _ hw => ⟨rfl, hw.told_undescribed⟩

/-- The two runs over the entry document. -/
def Rerun.revising : Rerun where
  toSimulation := .revising hS
  setting := S
  setting' := S.revised
  registered hc := hc
  registered' hc := ⟨congrArg Setting.revised hc.setting, hc.source⟩
  source _ := rfl
  schema hn := (Simulation.enters_revising hS).same_schema hn
  responseText? hr := Simulation.same_responseText?_revising hS hr

end Runs

/-! ## Binding -/

/-- What binding gives in version 3.2 in the place of what it gives in version 3.1. -/
inductive Binding.Revises : Except BindingFault (Description × Report) →
    Except BindingFault (Description × Report) → Prop
  /-- The fault is the same. -/
  | error (fault : BindingFault) : Revises (.error fault) (.error fault)
  /-- The description is the same but for its version, and the report is revised. -/
  | ok (description : Description) {found found' : Report} (h : found.Revised found') :
      Revises (.ok (description, found)) (.ok ({ description with version := .v32 }, found'))

theorem RegisteredDocument.revises_bind {S : Setting} (hS : S.version = .v31)
    {d : RegisteredDocument} (hd : S.registry.documents[S.entry]? = some d) (declared : String) :
    Revises (d.bind S declared) (d.bind S.revised declared) := by
  unfold RegisteredDocument.bind Readers.bind
  cases hroot : d.root with
  | object members =>
    let root : Record := ⟨⟨S, S.entry, d⟩, .root, members⟩
    have hr : (Rerun.revising hS).Read root.node := ⟨⟨rfl, hd⟩, ⟨rfl, hd⟩, hroot ▸ .root⟩
    have hstates : (Rerun.revising hS).states .fresh .fresh := ⟨rfl, rfl, .nil⟩
    have hsame := Rerun.same_description hr declared
    obtain ⟨hdescription, hleft⟩ := hsame.of_neverParts (fun _ => id) hstates
    change Revises (.ok ((root.description declared .fresh).1, _))
      (.ok ((((Rerun.revising hS).record root).description declared .fresh).1, _))
    rw [← hdescription]
    exact .ok _ hleft.report
  | _ => exact .error _

/-- Version 3.2 is version 3.1 in which a response need not have a description: whatever is bound in
version 3.2 is the same as in version 3.1 but for its version, and the report is the same but for
the diagnostics of responses that have no description, and for the version that messages name. -/
theorem Registry.bind_revised (r : Registry) (entry : String) (options : Options)
    (declared : String) :
    Revises (r.bind entry options .v31 declared) (r.bind entry options .v32 declared) := by
  unfold Registry.bind Registry.bindBy
  cases r.place? entry with
  | none => exact .error _
  | some place =>
    rw [Option.bind_some, Option.bind_some]
    cases hd : r.documents[place]? with
    | none => exact .error _
    | some d =>
      exact RegisteredDocument.revises_bind (S := ⟨r, place, options, .v31⟩) rfl hd declared

end ApiDescription
