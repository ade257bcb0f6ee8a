import ApiDescription.Proofs.Binding.SideBySide

/-!
# Documents at other places

A `Relocation` says where the documents of one setting stand in another one: under the same URIs,
and possibly at other places.  The second setting may have other documents as well, and a higher
limit on depth; then the first run may come to a document that only the second setting has, or to
its limit, and the runs part there.  If they do not part, then the entry document is bound to one
description, with one report: `RegisteredDocument.bind_eq_of_relocation`.
-/

namespace ApiDescription

open Binding Tandem GuidedTandem Simulation

/-- The places of the documents of a setting in another one. -/
structure Relocation (S S' : Setting) where
  /-- The places of the documents that are read. -/
  known : Nat → Prop
  /-- The place of such a document in the second setting. -/
  place : Nat → Nat
  /-- The diagnostics of the first run by which the runs part. -/
  parts : Diagnostic → Prop := fun _ => False
  /-- The entry document is read. -/
  known_entry : known S.entry
  /-- It is the entry document of the second setting, too. -/
  place_entry : place S.entry = S'.entry
  /-- One document stands at both places. -/
  source {p : Nat} (hp : known p) :
    ∃ d, S.registry.documents[p]? = some d ∧ S'.registry.documents[place p]? = some d
  /-- Different documents stand at different places. -/
  injective {p q : Nat} (hp : known p) (hq : known q) (h : place p = place q) : p = q
  /-- A document is named by the same texts. -/
  named {p : Nat} (hp : known p) (text : String) :
    S'.registry.place? text = some (place p) ↔ S.registry.place? text = some p
  /-- If references into other documents are followed, those are read, too. -/
  followed (h : S.options.resolveExternal = true) {text : String} {p : Nat}
    (hp : S.registry.place? text = some p) : known p
  /-- Then a text that names no document names none in the second setting, or the runs part. -/
  unnamed (h : S.options.resolveExternal = true) {text : String}
    (hnone : S.registry.place? text = none) : S'.registry.place? text = none ∨
      ∀ reference label p,
        parts ((Finding.unknownDocument (shownKey text) reference).diagnostic label p)
  /-- The version is the same. -/
  version : S'.version = S.version
  /-- References are followed alike. -/
  resolveExternal : S'.options.resolveExternal = S.options.resolveExternal
  /-- The limit on depth is the same, or not lower. -/
  maxDepth : Allows parts S.options.maxDepth S'.options.maxDepth

namespace Relocation

variable {S S' : Setting} (R : Relocation S S')

/-- A document at its place in the second setting. -/
def scope (c : Scope) : Scope := ⟨S', R.place c.place, c.source⟩

/-- The document is registered in the first setting, and is read. -/
def Known (c : Scope) : Prop := c.Registered S ∧ R.known c.place

variable {R} {c : Scope}

theorem registered_scope (hc : R.Known c) : (R.scope c).Registered S' := by
  obtain ⟨d, hd, hd'⟩ := R.source hc.2
  obtain rfl : d = c.source := Option.some.inj (hd.symm.trans hc.1.source)
  exact ⟨rfl, hd'⟩

theorem place_eq_iff {c' : Scope} (hc : R.Known c) (hc' : R.Known c') :
    (R.scope c).place = (R.scope c').place ↔ c.place = c'.place :=
  ⟨R.injective hc.2 hc'.2, congrArg R.place⟩

theorem version_scope (hc : R.Known c) : (R.scope c).version = c.version :=
  R.version.trans hc.1.version.symm

theorem label_scope (hc : R.Known c) : (R.scope c).label = c.label := by
  have hentry : R.place c.place = S'.entry ↔ c.place = S.entry := by
    rw [← R.place_entry]
    exact ⟨R.injective hc.2 R.known_entry, congrArg R.place⟩
  unfold Scope.label
  rw [hc.1.setting]
  exact if_congr hentry rfl rfl

/-! ## References -/

/-- The document of a reference is the same one, or it is missing and the runs part. -/
theorem documentOf_scope (hc : R.Known c) (document reference : String) :
    (R.scope c).documentOf document reference =
        (c.documentOf document reference).map R.scope ∨
      ∃ f, c.documentOf document reference = .error f ∧
        ∀ label p, R.parts (f.diagnostic label p) := by
  obtain ⟨⟨rfl, hsource⟩, hknown⟩ := hc
  unfold Scope.documentOf
  have hbase : (R.scope c).source.base = c.source.base := rfl
  have hexternal : (R.scope c).setting.options.resolveExternal =
    c.setting.options.resolveExternal := R.resolveExternal
  rw [hbase, hexternal]
  cases c.source.base.resolve? document with
  | none => exact .inl rfl
  | some uri =>
    have hnamed : (R.scope c).setting.registry.place? uri.text = some (R.scope c).place ↔
      c.setting.registry.place? uri.text = some c.place := R.named hknown uri.text
    dsimp only
    -- a document finds itself even where references into others are not followed
    by_cases hown : c.setting.registry.place? uri.text = some c.place
    · rw [if_pos hown, if_pos (hnamed.mpr hown)]
      exact .inl rfl
    · rw [if_neg hown, if_neg (hnamed.not.mpr hown)]
      split
      · exact .inl rfl
      · next hfollows =>
        have hfollows : c.setting.options.resolveExternal = true := by simpa using hfollows
        cases hplace : c.setting.registry.place? uri.text with
        | none =>
          rcases R.unnamed hfollows hplace with hplace' | hparts
          · have hplace' : (R.scope c).setting.registry.place? uri.text = none := hplace'
            rw [hplace']
            exact .inl rfl
          · exact .inr ⟨_, rfl, hparts _⟩
        | some q =>
          have hq := R.followed hfollows hplace
          have hplace' : (R.scope c).setting.registry.place? uri.text = some (R.place q) :=
            (R.named hq uri.text).mpr hplace
          obtain ⟨d, hd, hd'⟩ := R.source hq
          have hat : c.at? q = some ⟨c.setting, q, d⟩ := by
            rw [Scope.at?, hd]
            rfl
          have hat' : (R.scope c).at? (R.place q) = some ⟨S', R.place q, d⟩ := by
            have hd' : (R.scope c).setting.registry.documents[R.place q]? = some d := hd'
            rw [Scope.at?, hd']
            rfl
          rw [hplace', Option.bind_some, Option.bind_some, hat, hat']
          exact .inl rfl

theorem locate_scope (hc : R.Known c) (text : String) :
    (R.scope c).locate text =
        ((c.locate text).map fun n => ⟨R.scope n.scope, n.pointer, n.value⟩) ∨
      ∃ f, c.locate text = .error f ∧ ∀ label p, R.parts (f.diagnostic label p) := by
  rcases documentOf_scope hc (UriReference.parse text).document text with hsame | ⟨f, hf, hparts⟩
  · exact .inl (Scope.locate_other rfl hsame fun _ _ => rfl)
  · rw [Scope.locate_eq, Scope.locate_eq]
    dsimp only
    split
    · exact .inl (Scope.nodeOf_other rfl _ text)
    · rw [hf]
      exact .inr ⟨f, rfl, hparts⟩

/-- The document that a reference leads to is read. -/
theorem known_of_locate (hc : R.Known c) {text : String} {n : Node} (hn : c.locate text = .ok n) :
    R.Known n.scope := by
  refine ⟨hc.1.located hn, ?_⟩
  rcases (Scope.of_locate_eq_ok hn).1 with heq | hdocument
  · exact heq ▸ hc.2
  · unfold Scope.documentOf at hdocument
    split at hdocument
    · cases hdocument
    · dsimp only at hdocument
      split at hdocument
      · exact Except.ok.inj hdocument ▸ hc.2
      · split at hdocument
        · cases hdocument
        · next hfollows =>
          split at hdocument
          · next c' hc' =>
            obtain ⟨q, hplace, hat⟩ := Option.bind_eq_some_iff.mp hc'
            obtain ⟨d, -, rfl⟩ := Option.map_eq_some_iff.mp hat
            rw [← Except.ok.inj hdocument]
            rw [hc.1.setting] at hfollows hplace
            exact R.followed (by simpa using hfollows) hplace
          · cases hdocument

/-! ## Two runs -/

/-- Documents stand at their places in the second setting; workspaces are the same but for the
places. -/
def simulation (R : Relocation S S') : Simulation where
  scope := R.scope
  known := R.Known
  parts := R.parts
  states w w' := w'.graph = w.graph ∧ w'.report = w.report ∧
    ∀ {q : Nat}, R.known q → ∀ p, w'.slot? ⟨R.place q, p⟩ = w.slot? ⟨q, p⟩
  label := label_scope
  alike hc := .of_eq (version_scope hc)
  maxDepth hc := hc.1.setting.symm ▸ R.maxDepth
  place := place_eq_iff
  locate := locate_scope
  located hc _ _ hn := known_of_locate hc hn
  tell hw _ hc _ f hrevised _ label p := by
    obtain rfl := hrevised.eq (version_scope hc)
    obtain ⟨hgraph, hreport, hslots⟩ := hw
    exact ⟨hgraph, congrArg (·.push (f.diagnostic label p)) hreport, hslots⟩
  graph hw := hw.1
  slot? hw c hc p := hw.2.2 hc.2 p
  push hw s := ⟨congrArg (·.push s) hw.1, hw.2⟩
  rename hw id name := ⟨congrArg (·.modify id (Schema.named name)) hw.1, hw.2⟩

variable {n : Node}

/-- Whatever is found is found in both runs. -/
theorem same_tell (hn : R.Known n.scope) (f : Finding) :
    R.simulation.Same (n.tell f) ((R.simulation.node n).tell f) := by
  refine .of_run (fun _ hw => hw.told f _ _) ?_
  rintro w w' ⟨hgraph, hreport, hslots⟩
  refine ⟨rfl, hgraph, ?_, hslots⟩
  change w'.report.push (f.diagnostic (R.scope n.scope).label _) = w.report.push (f.diagnostic _ _)
  rw [label_scope hn, hreport]
  rfl

theorem same_setSlot (hn : R.Known n.scope) (slot : Slot) :
    R.simulation.Same (setSlot n.site slot) (setSlot (R.simulation.node n).site slot) := by
  refine .of_run (fun _ hw => hw) ?_
  rintro w w' ⟨hgraph, hreport, hslots⟩
  refine ⟨rfl, hgraph, hreport, fun {q} hq p => ?_⟩
  have hsite : (R.simulation.node n).site = ⟨R.place q, p⟩ ↔ n.site = ⟨q, p⟩ := by
    simp only [Node.site, Site.mk.injEq]
    exact and_congr_left' ⟨R.injective hn.2 hq, congrArg R.place⟩
  change Workspace.slot? { w' with slots := ((R.simulation.node n).site, slot) :: w'.slots } _ =
    Workspace.slot? { w with slots := (n.site, slot) :: w.slots } _
  rw [Workspace.slot?_cons, Workspace.slot?_cons, hslots hq]
  exact if_congr hsite rfl rfl

theorem enters (R : Relocation S S') : R.simulation.Enters where
  tooDeep hn _ := same_tell hn _
  change id s := by
    refine .of_run (fun _ hw => hw) ?_
    rintro w w' ⟨hgraph, hrest⟩
    exact ⟨rfl, congrArg (·.modify id fun _ => s) hgraph, hrest⟩
  setSlot := same_setSlot

/-- The two runs over the entry document. -/
def rerun (R : Relocation S S') : Rerun where
  toSimulation := R.simulation
  setting := S
  setting' := S'
  registered hc := hc.1
  registered' := registered_scope
  source _ := rfl
  schema hn := R.enters.same_schema hn
  responseText? {r} hr :=
    same_responseText? hr (version_scope hr) (same_tell (n := r.node) hr _)

end Relocation

/-- The entry document is bound to one description with one report in both settings, if there is
nothing in the report by which the runs part. -/
theorem RegisteredDocument.bind_eq_of_relocation {S S' : Setting} (R : Relocation S S')
    {d : RegisteredDocument} (hd : S.registry.documents[S.entry]? = some d) (declared : String)
    (hparts : ∀ description found, d.bind S declared = .ok (description, found) →
      ∀ D ∈ found.diagnostics, ¬ R.parts D) : d.bind S' declared = d.bind S declared := by
  unfold RegisteredDocument.bind Readers.bind at hparts ⊢
  cases hroot : d.root with
  | object members =>
    rw [hroot] at hparts
    have hr : R.rerun.Read (Record.node ⟨⟨S, S.entry, d⟩, .root, members⟩) := by
      refine ⟨⟨⟨rfl, hd⟩, R.known_entry⟩, ⟨rfl, hd⟩, ?_⟩
      exact hroot ▸ .root
    have hstates : R.rerun.states .fresh .fresh := ⟨rfl, rfl, fun _ _ => rfl⟩
    have hscope : R.scope ⟨S, S.entry, d⟩ = ⟨S', S'.entry, d⟩ :=
      congrArg (Scope.mk S' · d) R.place_entry
    have hsame := Rerun.same_description hr declared
    have hversion : (R.rerun.scope ⟨S, S.entry, d⟩).version = S.version := R.version
    rw [hversion] at hsame
    obtain ⟨hdescription, -, hreport, -⟩ := hsame.together hstates
      fun ⟨D, hD, hD'⟩ => hparts _ _ rfl D hD hD'
    change _ = ((Record.description ⟨R.scope ⟨S, S.entry, d⟩, .root, members⟩ declared) _).1
      at hdescription
    change ((Record.description ⟨R.scope ⟨S, S.entry, d⟩, .root, members⟩ declared) _).2.report = _
      at hreport
    rw [hscope] at hdescription hreport
    exact congrArg Except.ok (Prod.ext hdescription.symm hreport)
  | _ => rfl

end ApiDescription
