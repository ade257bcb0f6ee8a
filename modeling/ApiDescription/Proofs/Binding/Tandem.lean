import ApiDescription.Binding.Description
import ApiDescription.Proofs.Binding.Sited

/-!
# Two runs side by side

Binding looks at a document only through the name it has in diagnostics, through the version, and
through what its references lead to.  A `Tandem` is a way to put other documents in place of those
that are read, such that names do not change and versions hardly do, together with a relation
between the workspaces of the two runs that findings do not break; in a `GuidedTandem`, references
lead to the same nodes, too.  `Tandem.Same` says of two steps that in related workspaces they have
one result, and leave related workspaces behind.

Two runs may also part.  A tandem names the diagnostics of the first run after which nothing is
claimed of the second one; once one of them is in the report, it stays there.  Two runs whose limits
on depth differ part where the first one comes to its limit.  In most tandems no diagnostic is
named, and the runs never part.

Objects, fields and chains of references are read side by side here, and `Telling` goes on with all
that only adds findings.  Two findings are never among them, and a tandem need not care about those:
that a schema is nested too deeply, and that a description is missing.
-/

namespace ApiDescription

/-- Two versions differ at most in whether a response must have a description. -/
structure Version.Alike (v v' : Version) : Prop where
  /-- Both follow JSON Schema, or neither does. -/
  followsJsonSchema : v'.followsJsonSchema = v.followsJsonSchema
  /-- Both have webhooks, or neither has. -/
  hasWebhooks : v'.hasWebhooks = v.hasWebhooks
  /-- Both require paths, or neither does. -/
  requiresPaths : v'.requiresPaths = v.requiresPaths
  /-- Both require responses, or neither does. -/
  requiresResponses : v'.requiresResponses = v.requiresResponses

theorem Version.Alike.of_eq {v v' : Version} (h : v' = v) : v.Alike v' := by
  subst h
  exact ⟨rfl, rfl, rfl, rfl⟩

/-- Two findings are the same one but for the version that they name. -/
inductive Finding.Revised (v v' : Version) : Finding → Finding → Prop
  /-- They are the same one. -/
  | refl (f : Finding) : Revised v v' f f
  /-- The versions do not have a field. -/
  | unknownInVersion (field : String) :
      Revised v v' (.unknownInVersion field v) (.unknownInVersion field v')
  /-- An exclusive bound must be a number in the versions. -/
  | boundNotNumber (field : String) :
      Revised v v' (.boundNotNumber field v) (.boundNotNumber field v')
  /-- The type of a security scheme is not known in the versions. -/
  | unknownSchemeType (name : String) :
      Revised v v' (.unknownSchemeType name v) (.unknownSchemeType name v')

theorem Finding.Revised.eq {v v' : Version} {f f' : Finding} (h : Revised v v' f f')
    (hv : v' = v) : f' = f := by
  subst hv
  cases h <;> rfl

/-- The finding is one that a tandem need not care about: a schema is nested too deeply, or a
description is missing. -/
def Finding.setApart : Finding → Bool
  | .nestingTooDeep _ => true
  | .missing _ field => field == "description"
  | _ => false

theorem Finding.setApart_missing {owner field : String} (h : field ≠ "description") :
    (missing owner field).setApart = false :=
  beq_false_of_ne h

theorem setApart_of_unlocated {c : Scope} {reference : String} {f : Finding}
    (h : c.Unlocated reference f) : f.setApart = false := by
  cases h <;> rfl

/-- The workspace with one more finding. -/
def Workspace.told (w : Workspace) (f : Finding) (label : Option String) (p : Pointer) :
    Workspace :=
  { w with report := w.report.push (f.diagnostic label p) }

/-- A limit on depth for the first run allows one for the second: it is the same one, or it is not
lower and runs part where the first one comes to its limit. -/
def Allows (parts : Diagnostic → Prop) (limit limit' : Nat) : Prop :=
  limit' = limit ∨ limit ≤ limit' ∧ ∀ D : Diagnostic, D.category = .depthLimitExceeded → parts D

theorem Allows.of_succ {parts : Diagnostic → Prop} {limit limit' : Nat}
    (h : Allows parts (limit + 1) limit') :
    ∃ left, limit' = left + 1 ∧ Allows parts limit left := by
  rcases h with rfl | ⟨hle, hparts⟩
  · exact ⟨limit, rfl, .inl rfl⟩
  · obtain ⟨left, rfl⟩ := Nat.exists_eq_succ_of_ne_zero (Nat.ne_zero_of_lt hle)
    exact ⟨left, rfl, .inr ⟨Nat.le_of_succ_le_succ hle, hparts⟩⟩

/-- Documents in place of others, and related workspaces. -/
structure Tandem where
  /-- What stands in place of a document. -/
  scope : Scope → Scope
  /-- The documents that are read. -/
  known : Scope → Prop
  /-- The relation between the workspaces. -/
  states : Workspace → Workspace → Prop
  /-- The diagnostics of the first run by which the runs part. -/
  parts : Diagnostic → Prop := fun _ => False
  /-- The name in diagnostics is the same. -/
  label {c : Scope} (h : known c) : (scope c).label = c.label
  /-- The version is much the same. -/
  alike {c : Scope} (h : known c) : c.version.Alike (scope c).version
  /-- The limit on depth is the same, or not lower. -/
  maxDepth {c : Scope} (h : known c) :
    Allows parts c.setting.options.maxDepth (scope c).setting.options.maxDepth
  /-- Different documents are at different places. -/
  place {c c' : Scope} (h : known c) (h' : known c') :
    (scope c).place = (scope c').place ↔ c.place = c'.place
  /-- Findings keep workspaces related. -/
  tell {w w' : Workspace} (h : states w w') {c : Scope} (hc : known c) {f f' : Finding}
    (hrevised : f.Revised c.version (scope c).version f') (hf : f.setApart = false)
    (label : Option String) (p : Pointer) : states (w.told f label p) (w'.told f' label p)

/-- A tandem in which references lead to the same nodes. -/
structure GuidedTandem extends Tandem where
  /-- A reference leads to the same node, or the runs part by what is wrong with it. -/
  locate {c : Scope} (h : known c) (text : String) :
    (scope c).locate text = ((c.locate text).map fun n => ⟨scope n.scope, n.pointer, n.value⟩) ∨
      ∃ f, c.locate text = .error f ∧ ∀ label p, parts (f.diagnostic label p)
  /-- References lead to documents that are read. -/
  located {c : Scope} (h : known c) {text : String} {n : Node} (hn : c.locate text = .ok n) :
    known n.scope

/-- The object that a node stands for is the one at the end of its chain of references. -/
theorem Node.resolvedRecord?_bind {β : Type} (n : Node) (what : String)
    (f : Option ResolvedRecord → Binding β) :
    n.resolvedRecord? what >>= f = Binding.orTell n.resolved >>= fun
      | none => f none
      | some target => target.node.record? what >>= fun r? => f (r?.map (⟨·, target.reference⟩)) := by
  unfold resolvedRecord?
  rw [bind_assoc]
  congr 1
  funext target?
  cases target? with
  | none => exact pure_bind _ _
  | some target => simp only [bind_assoc, pure_bind]

namespace Tandem

open Binding

variable (t : Tandem)

/-- What stands in place of a node. -/
def node (n : Node) : Node := ⟨t.scope n.scope, n.pointer, n.value⟩

/-- What stands in place of an object. -/
def record (r : Record) : Record := ⟨t.scope r.scope, r.pointer, r.members⟩

/-- The first run has told something by which the runs part. -/
def Parted (w : Workspace) : Prop := ∃ D ∈ w.report.diagnostics, t.parts D

/-- The runs part by a finding, wherever it is made. -/
def PartsBy (f : Finding) : Prop := ∀ label p, t.parts (f.diagnostic label p)

/-- In related workspaces, two steps have one result and leave related workspaces, unless the runs
part. -/
structure Same {α : Type} (m m' : Binding α) : Prop where
  /-- Runs that have parted stay apart. -/
  parted (w : Workspace) : t.Parted w → t.Parted (m w).2
  /-- The steps have one result, or the runs part. -/
  run (w w' : Workspace) : t.states w w' →
    t.Parted (m w).2 ∨ (m w).1 = (m' w').1 ∧ t.states (m w).2 (m' w').2

variable {t}

theorem Parted.told {w : Workspace} (h : t.Parted w) (f : Finding) (label : Option String)
    (p : Pointer) : t.Parted (w.told f label p) := by
  obtain ⟨D, hD, hparts⟩ := h
  exact ⟨D, List.mem_append_left _ hD, hparts⟩

theorem PartsBy.parted_told {f : Finding} (h : t.PartsBy f) (w : Workspace) (label : Option String)
    (p : Pointer) : t.Parted (w.told f label p) :=
  ⟨f.diagnostic label p, List.mem_append_right _ (List.mem_singleton_self _), h label p⟩

theorem partsBy_of_deeper (h : ∀ D : Diagnostic, D.category = .depthLimitExceeded → t.parts D)
    {f : Finding} (hf : f.category = .depthLimitExceeded) : t.PartsBy f :=
  fun _ _ => h _ hf

namespace Same

variable {α β γ : Type} {m m' : Binding α}

/-- Runs that have not parted are together. -/
theorem together (h : t.Same m m') {w w' : Workspace} (hw : t.states w w')
    (hparted : ¬ t.Parted (m w).2) : (m w).1 = (m' w').1 ∧ t.states (m w).2 (m' w').2 :=
  (h.run w w' hw).resolve_left hparted

/-- Steps of runs that never part. -/
theorem of_neverParts (h : t.Same m m') (hparts : ∀ D, ¬ t.parts D) {w w' : Workspace}
    (hw : t.states w w') : (m w).1 = (m' w').1 ∧ t.states (m w).2 (m' w').2 :=
  h.together hw fun ⟨D, _, hD⟩ => hparts D hD

/-- Steps that keep the runs together. -/
theorem of_run (hparted : ∀ w, t.Parted w → t.Parted (m w).2)
    (h : ∀ w w' : Workspace, t.states w w' →
      (m w).1 = (m' w').1 ∧ t.states (m w).2 (m' w').2) : t.Same m m' :=
  ⟨hparted, fun w w' hw => .inr (h w w' hw)⟩

/-- Steps of runs that never part and stay together. -/
theorem of_together (hparts : ∀ D, ¬ t.parts D) (h : ∀ w w' : Workspace, t.states w w' →
    (m w).1 = (m' w').1 ∧ t.states (m w).2 (m' w').2) : t.Same m m' :=
  .of_run (fun _ ⟨D, _, hD⟩ => absurd hD (hparts D)) h

/-- A step by which the runs part. -/
theorem of_parted (h : ∀ w, t.Parted (m w).2) : t.Same m m' :=
  ⟨fun w _ => h w, fun w _ _ => .inl (h w)⟩

protected theorem pure (a : α) : t.Same (pure a) (pure a) :=
  .of_run (fun _ hw => hw) fun _ _ hw => ⟨rfl, hw⟩

protected theorem bind {f f' : α → Binding β} (hm : t.Same m m')
    (hf : ∀ a, t.Same (f a) (f' a)) : t.Same (m >>= f) (m' >>= f') := by
  refine ⟨fun w hw => (hf _).parted _ (hm.parted w hw), fun w w' hw => ?_⟩
  rcases hm.run w w' hw with hparted | ⟨hresult, hleft⟩
  · exact .inl ((hf _).parted _ hparted)
  · have h := (hf (m w).1).run (m w).2 (m' w').2 hleft
    have hrun : (m' >>= f') w' = f' (m w).1 (m' w').2 := congrArg (f' · (m' w').2) hresult.symm
    rw [hrun]
    exact h

protected theorem map (f : α → β) (hm : t.Same m m') : t.Same (f <$> m) (f <$> m') :=
  hm.bind fun a => .pure (f a)

protected theorem ite {c c' : Prop} [Decidable c] [Decidable c'] {n n' : Binding α} (hc : c' ↔ c)
    (hm : t.Same m m') (hn : t.Same n n') :
    t.Same (if c then m else n) (if c' then m' else n') := by
  by_cases h : c
  · rw [if_pos h, if_pos (hc.mpr h)]
    exact hm
  · rw [if_neg h, if_neg (mt hc.mp h)]
    exact hn

/-- A choice with something after it: what is shown of it behind the one arm is at hand in the
other. -/
protected theorem ite_bind {c c' : Prop} [Decidable c] [Decidable c'] {f f' : α → Binding β}
    {k k' : Binding β} (hc : c' ↔ c) (hm : t.Same m m') (hf : ∀ a, t.Same (f a) (f' a))
    (hk : (∀ a, t.Same (f a) (f' a)) → t.Same k k') :
    t.Same (if c then m >>= f else k) (if c' then m' >>= f' else k') :=
  .ite hc (hm.bind hf) (hk hf)

/-- The elements of a list, and what stands in place of them, are read side by side. -/
protected theorem collect {l : List α} {g : α → γ} {step : α → Binding (Option β)}
    {step' : γ → Binding (Option β)} (h : ∀ a ∈ l, t.Same (step a) (step' (g a))) :
    t.Same (collect step l) (collect step' (l.map g)) := by
  induction l with
  | nil => exact .pure []
  | cons a rest ih =>
    have hrest := ih fun b hb => h b (List.mem_cons_of_mem _ hb)
    exact (h a List.mem_cons_self).bind fun _ => hrest.bind fun _ => .pure _

/-- The elements of a list, and what stands in place of them, are read side by side. -/
protected theorem each {l : List α} {g : α → γ} {step : α → Binding β} {step' : γ → Binding β}
    (h : ∀ a ∈ l, t.Same (step a) (step' (g a))) :
    t.Same (each step l) (each step' (l.map g)) := by
  induction l with
  | nil => exact .pure []
  | cons a rest ih =>
    have hrest := ih fun b hb => h b (List.mem_cons_of_mem _ hb)
    exact (h a List.mem_cons_self).bind fun _ => hrest.bind fun _ => .pure _

end Same

/-! ## Findings -/

/-- Each run names its own version. -/
theorem same_tellRevised {c : Scope} (h : t.known c) (p : Pointer) {f f' : Finding}
    (hrevised : f.Revised c.version (t.scope c).version f') (hf : f.setApart = false) :
    t.Same (Binding.tell c p f) (Binding.tell (t.scope c) p f') := by
  refine .of_run (fun w hw => hw.told f c.label p) fun w w' hw => ?_
  have hleft : (Binding.tell (t.scope c) p f' w').2 = w'.told f' c.label p := by
    rw [← t.label h]
    rfl
  refine ⟨rfl, ?_⟩
  rw [hleft]
  exact t.tell hw h hrevised hf c.label p

theorem same_tell {c : Scope} (h : t.known c) (p : Pointer) (f : Finding)
    (hf : f.setApart = false) :
    t.Same (Binding.tell c p f) (Binding.tell (t.scope c) p f) :=
  same_tellRevised h p (.refl f) hf

/-- The runs part by a finding of the first one, whatever the second one does. -/
theorem same_of_partsBy {α : Type} {f : Finding} (hf : t.PartsBy f) (c : Scope) (p : Pointer)
    {m m' : Binding α} (hm : ∀ w, t.Parted w → t.Parted (m w).2) :
    t.Same (Binding.tell c p f >>= fun _ => m) m' :=
  .of_parted fun w => hm _ (hf.parted_told w c.label p)

theorem followsJsonSchema_scope {c : Scope} (h : t.known c) :
    (t.scope c).followsJsonSchema = c.followsJsonSchema :=
  (t.alike h).followsJsonSchema

/-! ## Nodes -/

/-- What stands in place of the end of a chain of references. -/
def resolved (t : Tandem) (r : Resolved) : Resolved := ⟨t.node r.node, r.reference⟩

/-- What stands in place of a finding about a node. -/
def problem (t : Tandem) (p : Problem) : Problem := ⟨t.scope p.scope, p.pointer, p.finding⟩

@[simp] theorem value_node (n : Node) : (t.node n).value = n.value := rfl

@[simp] theorem scope_node (n : Node) : (t.node n).scope = t.scope n.scope := rfl

theorem site_node_mem {n : Node} (hn : t.known n.scope) {seen : List Node}
    (hseen : ∀ m ∈ seen, t.known m.scope) :
    (t.node n).site ∈ seen.map (fun m => (t.node m).site) ↔ n.site ∈ seen.map Node.site := by
  simp only [List.mem_map]
  refine exists_congr fun m => and_congr_right fun hm => ?_
  have hplace := t.place (hseen m hm) hn
  simp only [Node.site, node, Site.mk.injEq, hplace]

variable {α β : Type}

/-! ## Objects and their fields -/

/-- What is done with the object that a node is. -/
theorem same_record? {n : Node} (hn : t.known n.scope) (what : String)
    {f f' : Option Record → Binding β} (hnone : t.Same (f none) (f' none))
    (hsome : ∀ r : Record, t.known r.scope → r.node = n →
      t.Same (f (some r)) (f' (some (t.record r)))) :
    t.Same (n.record? what >>= f) ((t.node n).record? what >>= f') := by
  obtain ⟨c, p, value⟩ := n
  cases value with
  | object members => exact hsome ⟨c, p, members⟩ hn rfl
  | _ => exact (same_tell hn p _ rfl).bind fun _ => hnone

/-- What is done with the items of an array. -/
theorem same_items {n : Node} (hn : t.known n.scope) (what : String)
    {f f' : List Node → Binding β}
    (h : (∀ m ∈ n.itemNodes, t.known m.scope) →
      t.Same (f n.itemNodes) (f' (n.itemNodes.map t.node))) :
    t.Same (n.items what >>= f) ((t.node n).items what >>= f') := by
  obtain ⟨c, p, value⟩ := n
  unfold Node.itemNodes at h
  cases value with
  | array items =>
    dsimp only at h
    have hitems := h fun m hm => by
      obtain ⟨entry, -, rfl⟩ := List.mem_map.mp hm
      exact hn
    rw [List.map_map] at hitems
    exact hitems
  | _ => exact (same_tell hn p _ rfl).bind fun _ => h (by simp)

variable {r : Record}

@[simp] theorem members_record (r : Record) : (t.record r).members = r.members := rfl

@[simp] theorem scope_record (r : Record) : (t.record r).scope = t.scope r.scope := rfl

theorem field?_record (r : Record) (key : String) :
    (t.record r).field? key = (r.field? key).map t.node := by
  unfold Record.field?
  rw [Option.map_map]
  rfl

theorem known_of_field? (hr : t.known r.scope) {key : String} {n : Node}
    (hn : r.field? key = some n) : t.known n.scope := by
  unfold Record.field? at hn
  obtain ⟨value, -, rfl⟩ := Option.map_eq_some_iff.mp hn
  exact hr

/-- What is done with the object in a field. -/
theorem same_fieldRecord? (hr : t.known r.scope) (key : String)
    {f f' : Option Record → Binding β} (hnone : t.Same (f none) (f' none))
    (hsome : ∀ inner : Record, t.known inner.scope → r.field? key = some inner.node →
      t.Same (f (some inner)) (f' (some (t.record inner)))) :
    t.Same (r.record? key >>= f) ((t.record r).record? key >>= f') := by
  unfold Record.record?
  rw [field?_record]
  cases hn : r.field? key with
  | none => exact hnone
  | some n =>
    exact same_record? (known_of_field? hr hn) _ hnone fun inner hinner heq =>
      hsome inner hinner (heq ▸ hn)

theorem same_read? (hr : t.known r.scope) (key expected : String) (form : Json → Option α) :
    t.Same (r.read? key expected form) ((t.record r).read? key expected form) := by
  unfold Record.read?
  rw [members_record]
  cases r.members.get? key with
  | none => exact .pure _
  | some value =>
    dsimp only
    cases form value with
    | some a => exact .pure _
    | none => exact (same_tell hr _ _ rfl).bind fun _ => .pure _

theorem same_text? (hr : t.known r.scope) (key : String) :
    t.Same (r.text? key) ((t.record r).text? key) :=
  same_read? hr _ _ _

theorem same_flag? (hr : t.known r.scope) (key : String) :
    t.Same (r.flag? key) ((t.record r).flag? key) :=
  same_read? hr _ _ _

theorem same_flag (hr : t.known r.scope) (key : String) :
    t.Same (r.flag key) ((t.record r).flag key) :=
  (same_flag? hr key).bind fun _ => .pure _

theorem same_number? (hr : t.known r.scope) (key : String) :
    t.Same (r.number? key) ((t.record r).number? key) :=
  same_read? hr _ _ _

theorem same_count? (hr : t.known r.scope) (key : String) :
    t.Same (r.count? key) ((t.record r).count? key) :=
  same_read? hr _ _ _

theorem same_requiredText? (hr : t.known r.scope) (owner : String) {key : String}
    (hkey : key ≠ "description") :
    t.Same (r.requiredText? owner key) ((t.record r).requiredText? owner key) :=
  .ite Iff.rfl (same_text? hr key)
    ((same_tell hr _ _ (Finding.setApart_missing hkey)).bind fun _ => .pure _)

theorem same_texts (hr : t.known r.scope) (key : String) :
    t.Same (r.texts key) ((t.record r).texts key) := by
  unfold Record.texts
  rw [field?_record]
  cases hn : r.field? key with
  | none => exact .pure _
  | some n =>
    refine same_items (known_of_field? hr hn) _ fun hnodes => ?_
    refine .collect fun item hitem => ?_
    rw [value_node]
    split
    · exact .pure _
    · exact (same_tell (hnodes item hitem) _ _ rfl).bind fun _ => .pure _

theorem same_refuse (hr : t.known r.scope) (key : String) :
    t.Same (r.refuse key) ((t.record r).refuse key) := by
  exact .ite Iff.rfl (same_tellRevised hr _ (.unknownInVersion key) rfl) (.pure _)

theorem fields_record (r : Record) :
    (t.record r).fields = r.fields.map fun field => (field.1, t.node field.2) := by
  unfold Record.fields
  rw [List.map_map]
  rfl

theorem plainFields_record (r : Record) :
    (t.record r).plainFields = r.plainFields.map fun field => (field.1, t.node field.2) := by
  unfold Record.plainFields
  rw [fields_record, List.filter_map]
  rfl

theorem known_of_mem_fields (hr : t.known r.scope) {field : String × Node}
    (h : field ∈ r.fields) : t.known field.2.scope := by
  obtain ⟨member, -, rfl⟩ := List.mem_map.mp h
  exact hr

theorem known_of_mem_plainFields (hr : t.known r.scope) {field : String × Node}
    (h : field ∈ r.plainFields) : t.known field.2.scope :=
  known_of_mem_fields hr (List.mem_filter.mp h).1

theorem same_readFields {fields : List (String × Node)}
    {step step' : String → Node → Binding (Option α)}
    (h : ∀ field ∈ fields, t.Same (step field.1 field.2) (step' field.1 (t.node field.2))) :
    t.Same (Record.readFields fields step)
      (Record.readFields (fields.map fun field => (field.1, t.node field.2)) step') :=
  .collect fun field hfield => (h field hfield).bind fun _ => .pure _

/-- The fields of an object are read side by side. -/
theorem same_fields (hr : t.known r.scope) {step step' : String → Node → Binding (Option α)}
    (h : ∀ field ∈ r.fields, t.known field.2.scope →
      t.Same (step field.1 field.2) (step' field.1 (t.node field.2))) :
    t.Same (Record.readFields r.fields step) (Record.readFields (t.record r).fields step') := by
  rw [fields_record]
  exact same_readFields fun field hfield => h field hfield (known_of_mem_fields hr hfield)

/-- The fields of an object that are no extensions are read side by side. -/
theorem same_plainFields (hr : t.known r.scope) {step step' : String → Node → Binding (Option α)}
    (h : ∀ field ∈ r.plainFields, t.known field.2.scope →
      t.Same (step field.1 field.2) (step' field.1 (t.node field.2))) :
    t.Same (Record.readFields r.plainFields step)
      (Record.readFields (t.record r).plainFields step') := by
  rw [plainFields_record]
  exact same_readFields fun field hfield => h field hfield (known_of_mem_plainFields hr hfield)

theorem same_readAll (hr : t.known r.scope) (key : String)
    {step step' : Node → Binding (Option α)}
    (h : ∀ n, t.known n.scope → t.Same (step n) (step' (t.node n))) :
    t.Same (r.readAll key step) ((t.record r).readAll key step') :=
  same_fieldRecord? hr key (.pure _) fun _ hinner _ =>
    same_fields hinner fun field _ hfield => h field.2 hfield

end Tandem

/-! ## Chains of references -/

namespace GuidedTandem

open Binding Tandem

variable {t : GuidedTandem} {α β : Type}

/-- A chain of references passes the same nodes, or the runs part where it stops. -/
theorem chase_node (origin : Node) (first : Option String) {seen : List Node}
    (hseen : ∀ m ∈ seen, t.known m.scope) {room room' : Nat} (hroom : Allows t.parts room room')
    {n : Node} (hn : t.known n.scope) :
    Node.chase (t.node origin) first (seen.map fun m => (t.node m).site) room' (t.node n) =
        ((Node.chase origin first (seen.map Node.site) room n).map t.resolved).mapError t.problem ∨
      ∃ p, Node.chase origin first (seen.map Node.site) room n = .error p ∧
        t.PartsBy p.finding := by
  induction room generalizing n first seen room' with
  | zero =>
    unfold Node.chase
    rw [value_node]
    simp only [site_node_mem hn hseen]
    split
    · exact .inl rfl
    · split
      · exact .inl rfl
      · -- the first run is at its limit
        rcases t.maxDepth hn with hdepth | ⟨-, hdeeper⟩
        · rcases hroom with rfl | ⟨-, hdeeper⟩
          · refine .inl ?_
            rw [← scope_node] at hdepth
            dsimp only
            rw [hdepth]
            rfl
          · exact .inr ⟨_, rfl, partsBy_of_deeper hdeeper rfl⟩
        · exact .inr ⟨_, rfl, partsBy_of_deeper hdeeper rfl⟩
    · exact .inl rfl
  | succ room ih =>
    obtain ⟨left, rfl, hleft⟩ := hroom.of_succ
    unfold Node.chase
    rw [value_node]
    simp only [site_node_mem hn hseen]
    split
    · exact .inl rfl
    · next text _ =>
      split
      · exact .inl rfl
      · rw [scope_node]
        rcases t.locate hn text with hlocate | ⟨f, hf, hparts⟩
        · rw [hlocate]
          cases hnext : n.scope.locate text with
          | error f => exact .inl rfl
          | ok next =>
            have hseen' : ∀ m ∈ seen ++ [n], t.known m.scope := by
              intro m hm
              rcases List.mem_append.mp hm with hold | hnew
              · exact hseen m hold
              · exact List.mem_singleton.mp hnew ▸ hn
            have h := ih (some (first.getD text)) hseen' hleft (t.located hn hnext)
            rw [List.map_append, List.map_append] at h
            exact h
        · rw [hf]
          exact .inr ⟨_, rfl, hparts⟩
    · exact .inl rfl

/-- What keeps a chain of references from ending is about a document that is read, and it is none of
the findings that a tandem need not care about. -/
theorem of_chase_eq_error {origin : Node} (horigin : t.known origin.scope) {first : Option String}
    {seen : List Site} {room : Nat} {n : Node} (hn : t.known n.scope) {p : Problem}
    (h : Node.chase origin first seen room n = .error p) :
    t.known p.scope ∧ p.finding.setApart = false := by
  induction room generalizing n first seen with
  | zero =>
    unfold Node.chase at h
    split at h
    · simp at h
    · simp only at h
      split at h <;> exact Except.error.inj h ▸ ⟨horigin, rfl⟩
    · exact Except.error.inj h ▸ ⟨hn, rfl⟩
  | succ room ih =>
    unfold Node.chase at h
    split at h
    · simp at h
    · simp only at h
      split at h
      · exact Except.error.inj h ▸ ⟨horigin, rfl⟩
      · split at h
        · next next hnext => exact ih (t.located hn hnext) h
        · next f hf =>
          obtain rfl := Except.error.inj h
          exact ⟨hn, setApart_of_unlocated (Scope.of_locate_eq_error hf)⟩
    · exact Except.error.inj h ▸ ⟨hn, rfl⟩

theorem resolved_node {n : Node} (hn : t.known n.scope) :
    (t.node n).resolved = (n.resolved.map t.resolved).mapError t.problem ∨
      ∃ p, n.resolved = .error p ∧ t.PartsBy p.finding := by
  have hseen : ∀ m ∈ ([] : List Node), t.known m.scope := by simp
  exact chase_node n none hseen (t.maxDepth hn) hn

/-- The end of a chain of references is the same. -/
theorem resolved_node_of_ok {n : Node} (hn : t.known n.scope) {target : Resolved}
    (h : n.resolved = .ok target) : (t.node n).resolved = .ok (t.resolved target) := by
  rcases resolved_node hn with heq | ⟨p, hp, -⟩
  · rw [heq, h]
    rfl
  · cases h.symm.trans hp

/-- What is done with the end of the chain of references from a node. -/
theorem same_resolved {n : Node} (hn : t.known n.scope) {f f' : Option Resolved → Binding β}
    (hnone : t.Same (f none) (f' none))
    (hsome : ∀ target, n.resolved = .ok target → t.known target.node.scope →
      t.Same (f (some target)) (f' (some (t.resolved target)))) :
    t.Same (orTell n.resolved >>= f) (orTell (t.node n).resolved >>= f') := by
  rcases resolved_node hn with heq | ⟨p, hp, hparts⟩
  · rw [heq]
    cases h : n.resolved with
    | error p =>
      obtain ⟨hp, hapart⟩ := of_chase_eq_error hn hn h
      exact (same_tell hp p.pointer p.finding hapart).bind fun _ => hnone
    | ok target =>
      have hknown : t.known target.node.scope :=
        Node.of_chase (P := fun m => t.known m.scope) (fun hm _ hnext => t.located hm hnext) hn h
      exact hsome target h hknown
  · rw [hp]
    exact same_of_partsBy hparts p.scope p.pointer hnone.parted

/-- What is done with the object that a node stands for. -/
theorem same_resolvedRecord? {n : Node} (hn : t.known n.scope) (what : String)
    {f f' : Option ResolvedRecord → Binding β} (hnone : t.Same (f none) (f' none))
    (hsome : ∀ (r : Record) (reference : Option String), t.known r.scope →
      t.Same (f (some ⟨r, reference⟩)) (f' (some ⟨t.record r, reference⟩))) :
    t.Same (n.resolvedRecord? what >>= f) ((t.node n).resolvedRecord? what >>= f') := by
  rw [Node.resolvedRecord?_bind, Node.resolvedRecord?_bind]
  refine same_resolved hn hnone fun target _ htarget => ?_
  exact same_record? htarget what hnone fun r hr _ => hsome r target.reference hr

end GuidedTandem

end ApiDescription
