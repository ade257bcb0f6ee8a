import ApiDescription.Proofs.Binding.Description
import ApiDescription.Proofs.Binding.Receding

/-!
# Steps that report nothing

What cannot be used is left out, and a finding says so.  So if nothing has been reported in the
end, then nothing has been left out, and the result of a step is what its source says.
`Binding.Quietly` states this of a step, and that nothing had been reported before it, since
findings are never taken back.
-/

namespace ApiDescription

/-- Nothing has been reported. -/
def Workspace.Quiet (w : Workspace) : Prop := w.report.diagnostics = []

theorem Workspace.not_quiet_told (w : Workspace) (f : Finding) (label : Option String)
    (p : Pointer) : ¬ (w.told f label p).Quiet := by
  simp [Quiet, told, Report.push]

namespace Binding

variable {α β : Type} {P Q : α → Prop} {Q' : β → Prop} {m : Binding α} {f : α → Binding β}

/-- If nothing has been reported when the step is done, then nothing was before it, and the result
of the step satisfies a predicate. -/
def Quietly (m : Binding α) (Q : α → Prop) : Prop :=
  ∀ w : Workspace, (m w).2.Quiet → w.Quiet ∧ Q (m w).1

theorem OnlyTells.quietly (h : m.OnlyTells) : m.Quietly fun _ => True := by
  obtain ⟨found, hrun⟩ := h.run
  intro w hw
  rw [hrun] at hw
  exact ⟨(List.append_eq_nil_iff.mp hw).1, trivial⟩

/-- A step that does not touch the report. -/
theorem quietly_of_report_eq (h : ∀ w, (m w).2.report = w.report) : m.Quietly fun _ => True :=
  fun w hw => ⟨(congrArg Report.diagnostics (h w)).symm.trans hw, trivial⟩

theorem quietly_tell (c : Scope) (p : Pointer) (f : Finding) :
    (tell c p f).Quietly fun _ => False :=
  fun w hw => absurd hw (w.not_quiet_told f c.label p)

namespace Quietly

protected theorem pure {a : α} (h : Q a) : (pure a : Binding α).Quietly Q := fun _ hw => ⟨hw, h⟩

theorem imp (h : m.Quietly P) (himp : ∀ a, P a → Q a) : m.Quietly Q :=
  fun w hw => ⟨(h w hw).1, himp _ (h w hw).2⟩

/-- What is known of the first result need not be known while the second step is done, only when
nothing has been reported. -/
protected theorem bind (hm : m.Quietly P) (hf : ∀ a, (f a).Quietly fun b => P a → Q' b) :
    (m >>= f).Quietly Q' := by
  intro w hw
  obtain ⟨hbetween, hresult⟩ := hf (m w).1 (m w).2 hw
  obtain ⟨hbefore, hfirst⟩ := hm w hbetween
  exact ⟨hbefore, hresult hfirst⟩

/-- Nothing needs to be known of the first result. -/
theorem seq (hm : m.Quietly P) (hf : ∀ a, (f a).Quietly Q') : (m >>= f).Quietly Q' :=
  hm.bind fun a => (hf a).imp fun _ h _ => h

/-- A step that only adds findings comes first, and nothing needs to be known of its result. -/
theorem after (hm : m.OnlyTells) (hf : ∀ a, (f a).Quietly Q') : (m >>= f).Quietly Q' :=
  hm.quietly.seq hf

/-- A step that only adds findings comes first. -/
theorem tells_bind (hm : m.OnlyTells) (hP : m.Quietly P)
    (hf : (f m.result).Quietly fun b => P m.result → Q' b) : (m >>= f).Quietly Q' := by
  obtain ⟨found, hrun⟩ := hm.run
  intro w hw
  have hleft : (m w).1 = m.result := by rw [hrun w]
  have hrest : (m >>= f) w = f m.result (m w).2 := congrArg (f · (m w).2) hleft
  rw [hrest] at hw ⊢
  obtain ⟨hbetween, hresult⟩ := hf (m w).2 hw
  obtain ⟨hbefore, hfirst⟩ := hP w hbetween
  exact ⟨hbefore, hresult (hleft ▸ hfirst)⟩

protected theorem ite {c : Prop} [Decidable c] {m m' : Binding α} (hm : c → m.Quietly Q)
    (hm' : ¬ c → m'.Quietly Q) : (if c then m else m').Quietly Q := by
  split
  · next hc => exact hm hc
  · next hc => exact hm' hc

/-- A choice with something after it: what is shown of it behind a step that only adds findings is
at hand in the other arm. -/
theorem ite_bind {c : Prop} [Decidable c] {k : Binding β} (hm : m.OnlyTells)
    (hf : ∀ a, (f a).Quietly Q') (hk : (∀ a, (f a).Quietly Q') → k.Quietly Q') :
    (if c then m >>= f else k).Quietly Q' :=
  .ite (fun _ => .after hm hf) fun _ => hk hf

/-- What is known of the elements of a list and their results adds up to what is known of the list
and all results. -/
protected theorem collect {step : α → Binding (Option β)} {R : α → Option β → Prop}
    {T : List α → List β → Prop} (hnil : T [] [])
    (hcons : ∀ {a rest b? bs}, R a b? → T rest bs → T (a :: rest) (b?.toList ++ bs)) {l : List α}
    (h : ∀ a ∈ l, (step a).Quietly (R a)) : (Binding.collect step l).Quietly (T l) := by
  induction l with
  | nil => exact .pure hnil
  | cons a rest ih =>
    refine (h a List.mem_cons_self).bind fun b? => ?_
    refine (ih fun a ha => h a (List.mem_cons_of_mem _ ha)).bind fun bs => .pure ?_
    exact fun hbs hb => hcons hb hbs

end Quietly

end Binding

/-! ## Schemas -/

theorem Workspace.recedes_quiet : Workspace.Recedes Workspace.Quiet where
  told h := absurd h (Workspace.not_quiet_told _ _ _ _)
  slot h := h
  graph h := h

/-- What is read outside of schemas, beside itself.  If nothing has been reported in it, then nothing
had been at its beginning. -/
def Rerun.quiet (S : Setting) (before : Workspace) : Rerun :=
  .receding S Workspace.recedes_quiet before

/-- A step that runs beside itself takes no findings back. -/
theorem Binding.Quietly.of_same {α : Type} {S : Setting} {m : Binding α}
    (h : ∀ before, (Rerun.quiet S before).Same m m) : m.Quietly fun _ => True :=
  fun w hw => ⟨Recedes.of_same Workspace.recedes_quiet h w hw, trivial⟩

open Binding

variable {S : Setting} {n : Node} {r : Record}

/-- Reading a schema takes no findings back. -/
theorem Node.quietly_schemaWithin (room : Nat) (hn : n.scope.Registered S) :
    (n.schemaWithin room).Quietly fun _ => True :=
  fun w hw => ⟨recedes_schemaWithin Workspace.recedes_quiet room hn w hw, trivial⟩

/-! ## Nodes and fields -/

namespace Node

theorem quietly_record? (n : Node) (what : String) : (n.record? what).Quietly (·.isSome) := by
  unfold record?
  cases n.value with
  | object members => exact .pure rfl
  | _ => exact (quietly_tell _ _ _).bind fun _ => .pure nofun

theorem quietly_items (n : Node) (what : String) :
    (n.items what).Quietly fun _ => n.value.items?.isSome := by
  unfold items
  cases n.value with
  | array items => exact .pure rfl
  | _ => exact (quietly_tell _ _ _).bind fun _ => .pure nofun

/-- What is done with the object that a node is. -/
theorem quietly_record?_bind {β : Type} {Q : β → Prop} (n : Node) (what : String)
    {f : Option Record → Binding β} (hnone : (f none).Quietly fun _ => True)
    (hsome : ∀ r, n.object? = some r → (f (some r)).Quietly Q) :
    (n.record? what >>= f).Quietly Q := by
  refine .tells_bind (n.onlyTells_record? what) (n.quietly_record? what) ?_
  rw [result_record?]
  cases hr : n.object? with
  | none => exact hnone.imp fun _ _ h => nomatch h
  | some r => exact (hsome r hr).imp fun _ h _ => h

theorem quietly_resolvedRecord? (n : Node) (what : String) :
    (n.resolvedRecord? what).Quietly (·.isSome) := by
  unfold resolvedRecord?
  cases n.resolved with
  | error p => exact (quietly_tell _ _ _).bind fun _ => .pure nofun
  | ok target =>
    refine Quietly.bind (m := target.node.record? what) (target.node.quietly_record? what)
      fun r? => .pure fun h => ?_
    rwa [Option.isSome_map]

/-- What is done with the object that a node stands for. -/
theorem quietly_resolvedRecord?_bind {β : Type} {Q : β → Prop} (n : Node) (what : String)
    {f : Option ResolvedRecord → Binding β} (hnone : (f none).Quietly fun _ => True)
    (hsome : ∀ target r, n.resolved = .ok target → target.node.object? = some r →
      (f (some ⟨r, target.reference⟩)).Quietly Q) :
    (n.resolvedRecord? what >>= f).Quietly Q := by
  refine .tells_bind (n.onlyTells_resolvedRecord? what) (n.quietly_resolvedRecord? what) ?_
  rcases n.result_resolvedRecord?_cases what with hlost | ⟨target, r, ht, hr, hfound⟩
  · rw [hlost]
    exact hnone.imp fun _ _ h => absurd h Bool.false_ne_true
  · rw [hfound]
    exact (hsome target r ht hr).imp fun _ h _ => h

end Node

namespace Record

/-! ### Single fields -/

variable (r)

theorem quietly_read? {α : Type} (key expected : String) (form : Json → Option α) :
    (r.read? key expected form).Quietly fun a? => r.has key = true → a?.isSome := by
  unfold read? has Entries.contains
  cases r.members.get? key with
  | none => exact .pure fun h => nomatch h
  | some value =>
    dsimp only
    cases form value with
    | some a => exact .pure fun _ => rfl
    | none => exact (quietly_tell _ _ _).bind fun _ => .pure nofun

theorem quietly_requiredText? (owner key : String) :
    (r.requiredText? owner key).Quietly (·.isSome) :=
  .ite (fun hkey => (r.quietly_read? _ _ _).imp fun _ h => h hkey)
    fun _ => (quietly_tell _ _ _).bind fun _ => .pure nofun

theorem quietly_refuse (key : String) : (r.refuse key).Quietly fun _ => r.field? key = none := by
  refine .ite (fun _ => (quietly_tell _ _ _).imp fun _ h => h.elim) fun hkey => .pure ?_
  rw [has, Entries.contains, Option.not_isSome_iff_eq_none] at hkey
  rw [field?, hkey, Option.map_none]

theorem quietly_parameterPlace? : r.parameterPlace?.Quietly (·.isSome) :=
  (r.quietly_requiredText? _ _).bind fun
    | none => .pure nofun
    | some _ => .ite (fun _ => (quietly_tell _ _ _).bind fun _ => .pure nofun)
        fun hplace => .pure fun _ => by simpa [Option.isSome_iff_ne_none] using hplace

theorem quietly_apiKeyKind? : r.apiKeyKind?.Quietly (·.isSome) := by
  refine (r.quietly_requiredText? _ _).bind fun name? => ?_
  refine (r.quietly_requiredText? _ _).bind fun text? => ?_
  cases text? with
  | none =>
    dsimp only
    rw [pure_bind]
    cases name? <;> exact .pure fun h => absurd h Bool.false_ne_true
  | some text =>
    dsimp only
    simp only [pure_bind]
    refine .ite (fun _ => (quietly_tell _ _ _).bind fun _ => ?_) fun hplace => ?_
    · cases name? <;> cases ApiKeyPlace.ofName? text <;> exact .pure False.elim
    · obtain ⟨place, hplace⟩ : ∃ place, ApiKeyPlace.ofName? text = some place := by
        simpa [Option.ne_none_iff_exists'] using hplace
      rw [hplace]
      cases name? with
      | none => exact .pure fun _ h => absurd h Bool.false_ne_true
      | some name => exact .pure fun _ _ => rfl

theorem quietly_httpKind? : r.httpKind?.Quietly (·.isSome) :=
  (r.quietly_requiredText? _ _).bind fun
    | none => .pure nofun
    | some _ => .after (r.onlyTells_text? _) fun _ => .pure fun _ => rfl

theorem quietly_openIdKind? : r.openIdKind?.Quietly (·.isSome) :=
  (r.quietly_requiredText? _ _).bind fun url? => .pure fun h => by rwa [Option.isSome_map]

theorem quietly_oauth2Kind? : r.oauth2Kind?.Quietly (·.isSome) := by
  unfold oauth2Kind?
  cases r.field? "flows" with
  | none => exact (quietly_tell _ _ _).bind fun _ => .pure nofun
  | some n =>
    have hflows : n.oauthFlows.OnlyTells := .of_same fun _ => Tandem.same_oauthFlows trivial
    exact hflows.quietly.seq fun _ => .pure rfl

theorem quietly_securityKind? (type : String) : (r.securityKind? type).Quietly (·.isSome) := by
  unfold securityKind?
  split
  · exact r.quietly_apiKeyKind?
  · exact r.quietly_httpKind?
  · exact r.quietly_oauth2Kind?
  · exact r.quietly_openIdKind?
  · exact .ite (fun _ => .pure rfl) fun _ => (quietly_tell _ _ _).bind fun _ => .pure nofun

end Record

/-! ### Parts that may be written elsewhere -/

namespace Node

theorem quietly_example? (n : Node) : n.example?.Quietly (·.isSome) := by
  refine n.quietly_resolvedRecord?_bind _ (.pure trivial) fun target r _ _ => ?_
  refine .after (r.onlyTells_text? _) fun _ => .after (r.onlyTells_text? _) fun _ => ?_
  exact .after (r.onlyTells_text? _) fun _ => .pure rfl

theorem quietly_link? (n : Node) : n.link?.Quietly (·.isSome) := by
  refine n.quietly_resolvedRecord?_bind _ (.pure trivial) fun target r _ _ => ?_
  refine .ite_bind (r.onlyTells_tell _) (fun _ => ?_) fun hrest => hrest ()
  refine .after (r.onlyTells_record? _) fun _ => .after (r.onlyTells_text? _) fun _ => ?_
  refine .after (r.onlyTells_text? _) fun _ => .after (r.onlyTells_text? _) fun _ => ?_
  exact .pure rfl

theorem quietly_securityScheme? (n : Node) : n.securityScheme?.Quietly (·.isSome) := by
  refine n.quietly_resolvedRecord?_bind _ (.pure trivial) fun target r _ _ => ?_
  refine (r.quietly_requiredText? _ _).bind fun
    | none => .pure nofun
    | some type => (r.quietly_securityKind? type).bind fun
      | none => .pure nofun
      | some kind => .after (r.onlyTells_text? _) fun _ => .pure fun _ _ => rfl

end Node

/-- Reading contents takes no findings back. -/
theorem Record.quietly_content (hr : r.node.Inside S) : r.content.Quietly fun _ => True :=
  .of_same (S := S) fun before => Rerun.same_content (t := .quiet S before) hr.scope

theorem Record.quietly_outerSchema? (hr : r.node.Inside S) (key : String) :
    (r.outerSchema? key).Quietly fun _ => True :=
  .of_same (S := S) fun before => Rerun.same_outerSchema? (t := .quiet S before) hr.scope key

namespace Node

theorem quietly_header? (hn : n.Inside S) : n.header?.Quietly (·.isSome) := by
  refine n.quietly_resolvedRecord?_bind _ (.pure trivial) fun target r ht hr => ?_
  have hr := (hn.resolved ht).object hr
  refine .after (r.onlyTells_text? _) fun _ => .after (r.onlyTells_flag _) fun _ => ?_
  refine .after (r.onlyTells_flag _) fun _ => (r.quietly_outerSchema? hr _).seq fun _ => ?_
  exact (r.quietly_content hr).seq fun _ => .pure rfl

theorem quietly_response? (hn : n.Inside S) : n.response?.Quietly (·.isSome) := by
  refine n.quietly_resolvedRecord?_bind _ (.pure trivial) fun target r ht hr => ?_
  have hr := (hn.resolved ht).object hr
  have hheaders : (r.readAll "headers" header?).Quietly fun _ => True :=
    .of_same (S := S) fun before => Tandem.same_readAll (t := (Rerun.quiet S before).toTandem)
      hr.scope _ fun _ hm => Rerun.same_header? (t := .quiet S before) hm
  refine .after r.onlyTells_responseText? fun _ => ?_
  refine hheaders.seq fun _ => .after (r.onlyTells_readAll _ onlyTells_link?) fun _ => ?_
  exact (r.quietly_content hr).seq fun _ => .pure rfl

theorem quietly_requestBody? (hn : n.Inside S) : n.requestBody?.Quietly (·.isSome) := by
  refine n.quietly_resolvedRecord?_bind _ (.pure trivial) fun target r ht hr => ?_
  have hr := (hn.resolved ht).object hr
  refine .ite_bind (r.onlyTells_tell _) (fun _ => ?_) fun hrest => hrest ()
  refine .after (r.onlyTells_text? _) fun _ => .after (r.onlyTells_flag _) fun _ => ?_
  exact (r.quietly_content hr).seq fun _ => .pure rfl

theorem quietly_parameter? (hn : n.Inside S) : n.parameter?.Quietly (·.isSome) := by
  refine n.quietly_resolvedRecord?_bind _ (.pure trivial) fun target r ht hr => ?_
  have hr := (hn.resolved ht).object hr
  refine (r.quietly_requiredText? _ _).bind fun name? => ?_
  refine r.quietly_parameterPlace?.bind fun place? => ?_
  cases name? with
  | none => exact .pure fun _ h => nomatch h
  | some name =>
    cases place? with
    | none => exact .pure fun h => nomatch h
    | some place =>
      have hparameter : (r.parameter name place target.reference n.pointer).Quietly fun _ => True :=
        .of_same (S := S) fun before => Rerun.same_parameter (t := .quiet S before) hr.scope _ _ _ _
      exact hparameter.seq fun _ => .pure fun _ _ => rfl

end Node

end ApiDescription
