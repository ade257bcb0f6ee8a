import ApiDescription.Proofs.Binding.Receding
import ApiDescription.Proofs.Binding.Traced

/-!
# A run that leaves its document, and one that does not

Two runs read the same documents, and only the first one may follow references into other documents.
So wherever the second run looks up a reference it finds what the first run does, or it is told that
the reference leads elsewhere: `Scope.locate_insular`.

The second run never gets further than the first one.  For a workspace `W` that the first run comes
to in the end, `Tandem.insular W` relates a workspace of the first run, provided that it leads up to
`W`, to a workspace of the second run that trails behind `W`: what was met in it was met in `W`, and
what was found in it was found in `W`, apart from warnings and from schemas that are nested too deeply.
`Binding.Follows` is `Tandem.Same` for steps whose results need not be equal.
-/

namespace ApiDescription

/-! ## Staying in a document -/

/-- The options, but references into other documents are not followed. -/
def Options.insular (o : Options) : Options := { o with resolveExternal := false }

/-- The setting, but references into other documents are not followed. -/
def Setting.insular (S : Setting) : Setting := { S with options := S.options.insular }

/-- The document, in the setting in which references out of it are not followed. -/
def Scope.insular (c : Scope) : Scope := { c with setting := c.setting.insular }

/-- The node, in the setting in which references out of its document are not followed. -/
def Node.insular (n : Node) : Node := { n with scope := n.scope.insular }

/-- The object, in the setting in which references out of its document are not followed. -/
def Record.insular (r : Record) : Record := { r with scope := r.scope.insular }

/-- The end of a chain, in the setting in which references out of the document are not followed. -/
def Resolved.insular (t : Resolved) : Resolved := { t with node := t.node.insular }

/-- The problem, in the setting in which references out of its document are not followed. -/
def Problem.insular (p : Problem) : Problem := { p with scope := p.scope.insular }

namespace Scope

theorem documentOf_insular (c : Scope) (document reference : String) :
    c.insular.documentOf document reference = .error (.externalReference reference) ∨
      c.insular.documentOf document reference =
        (c.documentOf document reference).map Scope.insular := by
  have hbase : c.insular.source.base = c.source.base := rfl
  have hregistry : c.insular.setting.registry = c.setting.registry := rfl
  have hplace : c.insular.place = c.place := rfl
  have hexternal : c.insular.setting.options.resolveExternal = false := rfl
  unfold documentOf
  rw [hbase, hregistry, hplace, hexternal]
  cases c.source.base.resolve? document with
  | none => exact .inr rfl
  | some uri =>
    dsimp only
    split
    · exact .inr rfl
    · exact .inl rfl

/-- Where references out of a document are not followed, one leads to the same node, or else to
another document. -/
theorem locate_insular (c : Scope) (text : String) :
    c.insular.locate text = .error (.externalReference text) ∨
      c.insular.locate text = (c.locate text).map Node.insular := by
  rcases c.documentOf_insular (UriReference.parse text).document text with hleft | hsame
  · rw [locate_eq, locate_eq]
    dsimp only
    split
    · exact .inr (nodeOf_other rfl _ text)
    · rw [hleft]
      exact .inl rfl
  · exact .inr (locate_other rfl hsame fun _ _ => rfl)

end Scope

namespace Node

/-- The chain of references from a node leads out of its document. -/
def Strays (n : Node) : Prop :=
  ∃ p text, n.insular.resolved = .error p ∧ p.finding = .externalReference text

/-- A chain of references goes the same way until it leaves the document. -/
theorem chase_insular (origin : Node) (first : Option String) (seen : List Site) (room : Nat)
    (n : Node) :
    (∃ p text, chase origin.insular first seen room n.insular = .error p ∧
      p.finding = .externalReference text) ∨
      chase origin.insular first seen room n.insular =
        ((chase origin first seen room n).map Resolved.insular).mapError Problem.insular := by
  have hvalue : n.insular.value = n.value := rfl
  have hsite : n.insular.site = n.site := rfl
  induction room generalizing n first seen with
  | zero =>
    right
    unfold chase
    rw [hvalue, hsite]
    split
    · rfl
    · dsimp only
      split <;> rfl
    · rfl
  | succ room ih =>
    unfold chase
    rw [hvalue, hsite]
    split
    · exact .inr rfl
    · next text _ =>
      dsimp only
      split
      · exact .inr rfl
      · rcases n.scope.locate_insular text with hleft | hsame
        · have hleft : n.insular.scope.locate text = _ := hleft
          rw [hleft]
          exact .inl ⟨_, text, rfl, rfl⟩
        · have hsame : n.insular.scope.locate text = _ := hsame
          rw [hsame]
          cases n.scope.locate text with
          | error f => exact .inr rfl
          | ok next => exact ih (some (first.getD text)) (seen ++ [n.site]) next rfl rfl
    · exact .inr rfl

theorem resolved_insular (n : Node) :
    n.Strays ∨ n.insular.resolved =
      (n.resolved.map Resolved.insular).mapError Problem.insular :=
  chase_insular n none [] _ n

end Node

theorem Record.field?_insular (r : Record) (key : String) :
    r.insular.field? key = (r.field? key).map Node.insular := by
  unfold field?
  rw [Option.map_map]
  rfl

theorem Record.fields_insular (r : Record) :
    r.insular.fields = r.fields.map fun field => (field.1, field.2.insular) := by
  unfold fields
  rw [List.map_map]
  rfl

theorem Record.plainFields_insular (r : Record) :
    r.insular.plainFields = r.plainFields.map fun field => (field.1, field.2.insular) := by
  unfold plainFields
  rw [fields_insular, List.filter_map]
  rfl

/-! ## Workspaces -/

namespace Workspace

/-- The diagnostic is no error, or it says that a schema is nested too deeply for which there is one
in the workspace. -/
def Excuses (W : Workspace) (D : Diagnostic) : Prop :=
  D.severity = .error → ∃ limit label p id,
    D = (Finding.nestingTooDeep limit).diagnostic label p ∧ W.graph.At label p id

theorem excuses_of_warning (W : Workspace) {f : Finding} (h : f.severity = .warning)
    (label : Option String) (p : Pointer) : W.Excuses (f.diagnostic label p) :=
  fun herror => nomatch h.symm.trans herror

/-- A schema was met at a site. -/
def Visited (w : Workspace) (site : Site) : Prop := ∃ slot, (site, slot) ∈ w.slots

/-- A workspace has come no further than another one: what was met in it was met there, and what was
found in it was found there or is excused. -/
structure Trails (w W : Workspace) : Prop where
  findings : ∀ D ∈ w.report.diagnostics, D ∈ W.report.diagnostics ∨ W.Excuses D
  sites : ∀ entry ∈ w.slots, W.Visited entry.1

variable {w w' W : Workspace} {f : Finding} {label : Option String} {p : Pointer} {site : Site}

theorem Visited.before (h : w.Visited site) (hw : w.Before w') : w'.Visited site := by
  obtain ⟨slot, hslot⟩ := h
  exact ⟨slot, hw.slots hslot⟩

theorem visited_of_slot? {slot : Slot} (h : w.slot? site = some slot) : w.Visited site :=
  ⟨slot, mem_slots_of_slot? h⟩

theorem Before.of_told (h : (w.told f label p).Before W) :
    f.diagnostic label p ∈ W.report.diagnostics ∧ w.Before W := by
  have hfound : f.diagnostic label p ∈ (w.told f label p).report.diagnostics :=
    List.mem_append_right _ (List.mem_singleton_self _)
  exact ⟨h.findings hfound, fun _ hD => h.findings (List.mem_append_left _ hD), h.slots⟩

theorem recedes_before (W : Workspace) : Recedes fun w => w.Before W where
  told h := h.of_told.2
  slot h := ⟨h.findings, fun _ hentry => h.slots (List.mem_cons_of_mem _ hentry)⟩
  graph h := ⟨h.findings, h.slots⟩

theorem Trails.told (h : w.Trails W)
    (hf : f.diagnostic label p ∈ W.report.diagnostics ∨ W.Excuses (f.diagnostic label p)) :
    (w.told f label p).Trails W where
  findings D hD := by
    rcases List.mem_append.mp hD with hold | hnew
    · exact h.findings D hold
    · exact List.mem_singleton.mp hnew ▸ hf
  sites := h.sites

theorem trails_fresh : fresh.Trails W where
  findings D hD := by simp [fresh, Report.empty] at hD
  sites entry h := by simp [fresh] at h

end Workspace

/-- A document in the setting in which references out of it are not followed, in its own place.  If
the workspace of the first run leads to a given one, then the workspace of the second run trails
behind that. -/
def Tandem.insular (W : Workspace) : Tandem where
  scope := Scope.insular
  known _ := True
  states w w' := w.Before W → w'.Trails W
  label _ := rfl
  alike _ := .of_eq rfl
  maxDepth _ := .inl rfl
  place _ _ := Iff.rfl
  tell h _ _ _ _ hrevised _ _ _ hleads := by
    obtain rfl := hrevised.eq rfl
    obtain ⟨hfound, hbefore⟩ := hleads.of_told
    exact (h hbefore).told (.inl hfound)

/-! ## Steps -/

namespace Binding

open Tandem

variable {S : Setting} {W : Workspace} {α β γ δ α' β' : Type}

/-- In the two runs, two steps have related results, and the second run keeps behind the first. -/
def Follows (W : Workspace) (R : α → β → Prop) (m : Binding α) (m' : Binding β) : Prop :=
  ∀ w w', (Tandem.insular W).states w w' →
    R (m w).1 (m' w').1 ∧ (Tandem.insular W).states (m w).2 (m' w').2

/-- The second run keeps behind the first, whatever the results are. -/
abbrev Trailing (W : Workspace) (m : Binding α) (m' : Binding β) : Prop :=
  Follows W (fun _ _ => True) m m'

/-- A step adds to a workspace: if that leads to a given one in the end, then it did before. -/
def Adds (W : Workspace) (m : Binding α) : Prop := m.Recedes fun w => w.Before W

/-- A step gets no further than a workspace. -/
def StaysBehind (W : Workspace) (m : Binding α) : Prop := ∀ w, w.Trails W → (m w).2.Trails W

theorem staysBehind_tell {f : Finding} (hf : f.severity = .warning) (c : Scope) (p : Pointer) :
    StaysBehind W (tell c p f) :=
  fun _ hw => hw.told (.inr (W.excuses_of_warning hf _ _))

theorem StaysBehind.bind {m : Binding α} {f : α → Binding β} (hm : StaysBehind W m)
    (hf : ∀ a, StaysBehind W (f a)) : StaysBehind W (m >>= f) :=
  fun w hw => hf _ _ (hm w hw)

namespace Follows

variable {R : α → β → Prop} {R' : α' → β' → Prop} {m : Binding α} {m' : Binding β}

protected theorem pure {a : α} {b : β} (h : R a b) : Follows W R (pure a) (pure b) :=
  fun _ _ hw => ⟨h, hw⟩

protected theorem bind {f : α → Binding α'} {f' : β → Binding β'} (hm : Follows W R m m')
    (hf : ∀ a b, R a b → Follows W R' (f a) (f' b)) : Follows W R' (m >>= f) (m' >>= f') := by
  intro w w' hw
  obtain ⟨hresult, hleft⟩ := hm w w' hw
  exact hf _ _ hresult _ _ hleft

theorem imp {Q : α → β → Prop} (h : Follows W R m m') (himp : ∀ a b, R a b → Q a b) :
    Follows W Q m m' :=
  fun w w' hw => ⟨himp _ _ (h w w' hw).1, (h w w' hw).2⟩

/-- What is known of the result of the first run in every workspace is known of it here. -/
theorem gives {Q : α → Prop} (h : Follows W R m m') (hm : m.Gives Q) :
    Follows W (fun a b => R a b ∧ Q a) m m' :=
  fun w w' hw => ⟨⟨(h w w' hw).1, hm w⟩, (h w w' hw).2⟩

/-- Nothing needs to be known of the first results. -/
theorem seq {f : α → Binding α'} {f' : β → Binding β'} (hm : Follows W R m m')
    (hf : ∀ a b, Follows W R' (f a) (f' b)) : Follows W R' (m >>= f) (m' >>= f') :=
  hm.bind fun a b _ => hf a b

/-- What runs in the same way in every tandem has one result. -/
theorem of_same {n n' : Binding γ} (hm : (Tandem.insular W).Same n n') : Follows W Eq n n' :=
  fun _ _ hw => hm.of_neverParts (fun _ => id) hw

/-- What has one result comes first. -/
theorem eq_bind {n n' : Binding γ} {f : γ → Binding α} {f' : γ → Binding β}
    (hm : Follows W Eq n n') (hf : ∀ c, Follows W R (f c) (f' c)) :
    Follows W R (n >>= f) (n' >>= f') :=
  hm.bind fun c _ heq => heq ▸ hf c

/-- What runs in the same way in every tandem comes first. -/
theorem same_bind {n n' : Binding γ} {f : γ → Binding α} {f' : γ → Binding β}
    (hm : (Tandem.insular W).Same n n') (hf : ∀ c, Follows W R (f c) (f' c)) :
    Follows W R (n >>= f) (n' >>= f') :=
  (of_same hm).eq_bind hf

protected theorem ite {c : Prop} [Decidable c] {n : Binding α} {n' : Binding β}
    (hm : Follows W R m m') (hn : Follows W R n n') :
    Follows W R (if c then m else n) (if c then m' else n') := by
  split
  · exact hm
  · exact hn

/-- A choice with something after it: what is shown of it behind the one arm is at hand in the
other. -/
theorem ite_bind {c : Prop} [Decidable c] {f : α → Binding α'} {f' : β → Binding β'}
    {k : Binding α'} {k' : Binding β'} (hm : Follows W R m m')
    (hf : ∀ a b, R a b → Follows W R' (f a) (f' b))
    (hk : (∀ a b, R a b → Follows W R' (f a) (f' b)) → Follows W R' k k') :
    Follows W R' (if c then m >>= f else k) (if c then m' >>= f' else k') :=
  .ite (hm.bind hf) (hk hf)

/-- The elements of two lists are read side by side. -/
protected theorem collect {T : List β → List δ → Prop} {Q : α → Option β → Option δ → Prop}
    (hnil : T [] [])
    (hcons : ∀ {a b? d? bs ds}, Q a b? d? → T bs ds → T (b?.toList ++ bs) (d?.toList ++ ds))
    {l : List α} {g : α → γ} {step : α → Binding (Option β)} {step' : γ → Binding (Option δ)}
    (h : ∀ a ∈ l, Follows W (Q a) (step a) (step' (g a))) :
    Follows W T (collect step l) (collect step' (l.map g)) := by
  induction l with
  | nil => exact .pure hnil
  | cons a rest ih =>
    have hrest := ih fun b hb => h b (List.mem_cons_of_mem _ hb)
    exact (h a List.mem_cons_self).bind fun _ _ hb => hrest.bind fun _ _ hbs => .pure (hcons hb hbs)

/-- The elements of two lists are read side by side, and nothing is asked of the results. -/
protected theorem each {l : List α} {g : α → γ} {step : α → Binding β} {step' : γ → Binding δ}
    (h : ∀ a ∈ l, Trailing W (step a) (step' (g a))) :
    Trailing W (each step l) (each step' (l.map g)) := by
  induction l with
  | nil => exact .pure trivial
  | cons a rest ih =>
    have hrest := ih fun b hb => h b (List.mem_cons_of_mem _ hb)
    exact (h a List.mem_cons_self).seq fun _ _ => hrest.seq fun _ _ => .pure trivial

/-- The first run goes on alone. -/
theorem alone (hm : Adds W m) {b : β} (h : ∀ w, R (m w).1 b) : Follows W R m (pure b) :=
  fun w _ hw => ⟨h w, fun hleads => hw (hm w hleads)⟩

/-- Each run does what it does, and nothing is asked of the results. -/
theorem apart (hm : Adds W m) (hm' : StaysBehind W m') : Trailing W m m' :=
  fun w w' hw => ⟨trivial, fun hleads => hm' w' (hw (hm w hleads))⟩

/-- Only the second run says something, which is a warning. -/
theorem warned {c : Scope} {p : Pointer} {f : Finding} (hf : f.severity = .warning) {m' : Binding β}
    (h : Follows W R m m') : Follows W R m (do tell c p f; m') := by
  intro w w' hw
  exact h w _ fun hleads => staysBehind_tell hf c p w' (hw hleads)

end Follows

/-! ## Nodes and fields -/

variable {R : α → β → Prop}

/-- Both runs say the same. -/
theorem follows_tell (c : Scope) (p : Pointer) (f : Finding) :
    Follows W Eq (tell c p f) (tell c.insular p f) := by
  intro w w' hw
  refine ⟨rfl, fun hleads => ?_⟩
  obtain ⟨hfound, hbefore⟩ := hleads.of_told
  exact (hw hbefore).told (.inl hfound)

/-- Both runs say the same of a required text, whatever it is for. -/
theorem follows_requiredText? (r : Record) (owner key : String) :
    Follows W Eq (r.requiredText? owner key) (r.insular.requiredText? owner key) :=
  .ite (.of_same (same_text? (t := .insular W) trivial key))
    ((follows_tell _ _ _).seq fun _ _ => .pure rfl)

/-- Both runs say the same of the description of a response. -/
theorem follows_responseText? (r : Record) :
    Follows W Eq r.responseText? r.insular.responseText? :=
  .ite (follows_requiredText? r _ _) (.of_same (same_text? (t := .insular W) trivial _))

/-- What is done with the end of the chain of references from a node: it is the same in both runs,
or else it is lost in the second one. -/
theorem follows_resolved (n : Node) {f : Option Resolved → Binding α}
    {f' : Option Resolved → Binding β}
    (hstray : n.Strays → Follows W R (orTell n.resolved >>= f) (f' none))
    (hnone : Follows W R (f none) (f' none))
    (hsome : ∀ target, n.resolved = .ok target →
      Follows W R (f (some target)) (f' (some target.insular))) :
    Follows W R (orTell n.resolved >>= f) (orTell n.insular.resolved >>= f') := by
  rcases n.resolved_insular with hlost | hsame
  · obtain ⟨p, text, hresolved, hfinding⟩ := hlost
    rw [hresolved]
    exact .warned (by rw [hfinding]; rfl) (hstray ⟨p, text, hresolved, hfinding⟩)
  · rw [hsame]
    cases htarget : n.resolved with
    | error p => exact (follows_tell p.scope p.pointer p.finding).seq fun _ _ => hnone
    | ok target => exact hsome target htarget

/-- What is done with the object that a node is. -/
theorem follows_record? (n : Node) (what : String) {f : Option Record → Binding α}
    {f' : Option Record → Binding β} (hnone : Follows W R (f none) (f' none))
    (hsome : ∀ r : Record, r.node = n → Follows W R (f (some r)) (f' (some r.insular))) :
    Follows W R (n.record? what >>= f) (n.insular.record? what >>= f') := by
  obtain ⟨c, p, value⟩ := n
  cases value with
  | object members => exact hsome ⟨c, p, members⟩ rfl
  | _ => exact (follows_tell c p _).seq fun _ _ => hnone

/-- What is done with the object that a node stands for. -/
theorem follows_resolvedRecord? (n : Node) (what : String) {f : Option ResolvedRecord → Binding α}
    {f' : Option ResolvedRecord → Binding β}
    (hstray : n.Strays → Follows W R (n.resolvedRecord? what >>= f) (f' none))
    (hnone : Follows W R (f none) (f' none))
    (hsome : ∀ target (r : Record), n.resolved = .ok target → r.node = target.node →
      Follows W R (f (some ⟨r, target.reference⟩)) (f' (some ⟨r.insular, target.reference⟩))) :
    Follows W R (n.resolvedRecord? what >>= f) (n.insular.resolvedRecord? what >>= f') := by
  rw [Node.resolvedRecord?_bind] at hstray ⊢
  rw [Node.resolvedRecord?_bind]
  refine follows_resolved n hstray hnone fun target htarget => ?_
  exact follows_record? target.node what hnone fun r hr => hsome target r htarget hr

/-- What is done with the items of an array. -/
theorem follows_items (n : Node) (what : String) {f : List Node → Binding α}
    {f' : List Node → Binding β}
    (h : Follows W R (f n.itemNodes) (f' (n.itemNodes.map Node.insular))) :
    Follows W R (n.items what >>= f) (n.insular.items what >>= f') := by
  obtain ⟨c, p, value⟩ := n
  unfold Node.itemNodes at h
  cases value with
  | array items =>
    dsimp only at h
    rw [List.map_map] at h
    exact h
  | _ => exact (follows_tell c p _).seq fun _ _ => h

/-- What is done with the object in a field. -/
theorem follows_fieldRecord? (r : Record) (key : String) {f : Option Record → Binding α}
    {f' : Option Record → Binding β} (hnone : Follows W R (f none) (f' none))
    (hsome : ∀ inner : Record, r.field? key = some inner.node →
      Follows W R (f (some inner)) (f' (some inner.insular))) :
    Follows W R (r.record? key >>= f) (r.insular.record? key >>= f') := by
  unfold Record.record?
  rw [Record.field?_insular]
  cases hn : r.field? key with
  | none => exact hnone
  | some n => exact follows_record? n _ hnone fun inner hinner => hsome inner (hinner ▸ hn)

/-- What is done with the node in a field. -/
theorem follows_field (r : Record) (key : String) {m : Binding α} {m' : Binding β}
    {f : Node → Binding α} {f' : Node → Binding β} (hnone : Follows W R m m')
    (hsome : ∀ n, r.field? key = some n → Follows W R (f n) (f' n.insular)) :
    Follows W R (match r.field? key with | none => m | some n => f n)
      (match r.insular.field? key with | none => m' | some n => f' n) := by
  rw [Record.field?_insular]
  cases hn : r.field? key with
  | none => exact hnone
  | some n => exact hsome n hn

/-- Fields are read side by side. -/
theorem follows_readFields {T : List (String × α) → List (String × β) → Prop} (hnil : T [] [])
    {Q : String × Node → Option α → Option β → Prop}
    (hcons : ∀ {field a? b? as bs}, Q field a? b? → T as bs →
      T ((a?.map (field.1, ·)).toList ++ as) ((b?.map (field.1, ·)).toList ++ bs))
    {fields : List (String × Node)} {step : String → Node → Binding (Option α)}
    {step' : String → Node → Binding (Option β)}
    (h : ∀ field ∈ fields,
      Follows W (Q field) (step field.1 field.2) (step' field.1 field.2.insular)) :
    Follows W T (Record.readFields fields step)
      (Record.readFields (fields.map fun field => (field.1, field.2.insular)) step') := by
  refine .collect (Q := fun field a? b? =>
    ∃ a b, Q field a b ∧ a? = a.map (field.1, ·) ∧ b? = b.map (field.1, ·))
    hnil ?_ fun field hfield => ?_
  · rintro field _ _ as bs ⟨a, b, hq, rfl, rfl⟩ ht
    exact hcons hq ht
  · exact (h field hfield).bind fun a b hq => .pure ⟨a, b, hq, rfl, rfl⟩

/-- Fields are read side by side, and nothing is asked of the results. -/
theorem trailing_readFields {fields : List (String × Node)}
    {step : String → Node → Binding (Option α)} {step' : String → Node → Binding (Option β)}
    (h : ∀ field ∈ fields, Trailing W (step field.1 field.2) (step' field.1 field.2.insular)) :
    Trailing W (Record.readFields fields step)
      (Record.readFields (fields.map fun field => (field.1, field.2.insular)) step') :=
  follows_readFields trivial (Q := fun _ _ _ => True) (fun _ _ => trivial) h

/-- What the fields of the object in a field are read as, whatever that is. -/
theorem trailing_readAll (r : Record) (key : String) {step : Node → Binding (Option α)}
    {step' : Node → Binding (Option β)}
    (h : ∀ inner : Record, r.field? key = some inner.node → ∀ field ∈ inner.fields,
      Trailing W (step field.2) (step' field.2.insular)) :
    Trailing W (r.readAll key step) (r.insular.readAll key step') := by
  refine follows_fieldRecord? r key (.pure trivial) fun inner hinner => ?_
  dsimp only
  rw [Record.fields_insular]
  exact trailing_readFields (h inner hinner)

end Binding

end ApiDescription
