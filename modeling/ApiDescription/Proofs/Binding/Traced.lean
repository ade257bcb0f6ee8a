import ApiDescription.Proofs.Binding.Reading

/-!
# What can be traced to a node

While a description is bound, every finding is about a node that was reached, and every schema is
at one.  `Workspace.Traced` says so for nodes of some kind; the kind must be such that members,
items and targets of references do not leave it.  `Binding.Traces` says of a step of binding that
it keeps this, whatever the workspace is, and what its result is like.

Fields, objects and chains of references are gone through here.  All other steps are built from
these.
-/

namespace ApiDescription

/-- Members and items of a node of some kind are of it, and so are the targets of the references
that are written at such nodes. -/
structure Node.Closed (P : Node → Prop) : Prop where
  /-- Members are of the kind. -/
  member : Inherited P
  /-- Items are of the kind. -/
  item {n m : Node} (h : P n) (hmem : m ∈ n.itemNodes) : P m
  /-- Targets of references are of the kind; a name may stand for a component. -/
  target {n m : Node} {text : String} (h : P n) (hvalue : n.value = .string text)
    (hm : n.scope.locate text = .ok m ∨ n.scope.locate (componentReference text) = .ok m) : P m

theorem Node.closed_sited (S : Setting) : Node.Closed (Node.Sited S) where
  member := Record.Sited.inherited
  item h hmem := h.item hmem
  target h _ hm := hm.elim h.scope.locate h.scope.locate

namespace Node.Closed

variable {P : Node → Prop} (hP : Node.Closed P)
include hP

theorem field {r : Record} (hr : P r.node) {key : String} {n : Node}
    (hn : r.field? key = some n) : P n :=
  Inherited.field hP.member hr hn

theorem fields {r : Record} (hr : P r.node) {field : String × Node} (hmem : field ∈ r.fields) :
    P field.2 :=
  Inherited.fields hP.member hr hmem

theorem plainFields {r : Record} (hr : P r.node) {field : String × Node}
    (hmem : field ∈ r.plainFields) : P field.2 :=
  Inherited.plainFields hP.member hr hmem

theorem itemsOf {r : Record} (hr : P r.node) {key : String} {n : Node}
    (hmem : n ∈ r.itemsOf key) : P n := by
  unfold Record.itemsOf at hmem
  cases hn : r.field? key with
  | none => simp [hn] at hmem
  | some parent =>
    rw [hn] at hmem
    exact hP.item (hP.field hr hn) hmem

/-- The member of a node under a key is a node of the kind. -/
theorem of_member? {n : Node} (hn : P n) {key : String} {value : Json}
    (hvalue : n.value.member? key = some value) :
    ∃ m, P m ∧ m.scope = n.scope ∧ m.pointer = n.pointer.push key ∧ m.value = value := by
  obtain ⟨scope, pointer, whole⟩ := n
  cases whole with
  | object members =>
    have hmem : (key, value) ∈ members := Entries.mem_of_get? hvalue
    exact ⟨_, hP.member (r := ⟨scope, pointer, members⟩) hn hmem, rfl, rfl, rfl⟩
  | _ => cases hvalue

end Node.Closed

/-! ## Findings and schemas -/

/-- The finding is one of those that are made while a description is bound; all others are made by
the checks. -/
def Finding.isRead : Finding → Bool
  | pathsConflict .. | badTemplate .. | variableUndeclared .. | parameterUnused ..
  | parameterOptional .. | parameterRepeated .. | operationIdRepeated .. | noResponses ..
  | badResponseCode .. | unknownScheme .. | schemeWithoutScopes .. | tagRepeated ..
  | badComponentKey .. | serverWithQuery .. | serverVariableUndeclared ..
  | serverVariableWithoutValues .. | serverDefaultNotListed .. | referenceCloses ..
  | discriminatorUndeclared .. | discriminatorUndeclaredBy .. | requiredUndeclared .. => false
  | _ => true

theorem Scope.Unlocated.isRead {c : Scope} {reference : String} {f : Finding}
    (h : c.Unlocated reference f) : f.isRead = true := by
  cases h <;> rfl

/-- A finding that is made while a description is bound, about a node of some kind. -/
inductive Diagnostic.Traced (P : Node → Prop) : Diagnostic → Prop
  | intro {n : Node} {f : Finding} (hn : P n) (hf : f.isRead = true) :
      Traced P (f.diagnostic n.scope.label n.pointer)

/-- A shape is told apart, and requires properties, only by fields that a value has. -/
structure Shape.Suits (shape : Shape) (value : Json) : Prop where
  /-- What tells alternatives apart is written. -/
  discriminator : shape.discriminator?.isSome → (value.member? "discriminator").isSome
  /-- What is required is written. -/
  required : ∀ o, shape = .object o → o.required ≠ [] → (value.member? "required").isSome

/-- A schema has the place of a node, and a shape that suits it. -/
structure Schema.Suits (s : Schema) (n : Node) : Prop where
  /-- It is in the document of the node. -/
  document : s.document = n.scope.label
  /-- It is where the node is. -/
  location : s.location = n.pointer
  /-- Its shape suits the node. -/
  shape : s.shape.Suits n.value

/-- A schema that suits a node of some kind. -/
def Schema.Traced (P : Node → Prop) (s : Schema) : Prop := ∃ n, P n ∧ s.Suits n

/-- Every finding is about a node of some kind, every schema suits one, and at no site two schemas
were met. -/
structure Workspace.Traced (P : Node → Prop) (w : Workspace) : Prop where
  /-- Findings are about nodes of the kind. -/
  findings : ∀ d ∈ w.report.diagnostics, d.Traced P
  /-- Schemas suit nodes of the kind. -/
  schemas : ∀ id s, w.graph.get? id = some s → s.Traced P
  /-- At a site one schema was met. -/
  sites : ∀ entry ∈ w.slots, ∀ other ∈ w.slots, entry.1 = other.1 → entry.2.id = other.2.id

variable {P : Node → Prop} {n : Node} {r : Record}

theorem Workspace.traced_fresh : Workspace.fresh.Traced P where
  findings d hd := by simp [fresh, Report.empty] at hd
  schemas id s hs := by simp [fresh, SchemaGraph.empty, SchemaGraph.get?] at hs
  sites entry h := by simp [fresh] at h

/-! ## Parts -/

/-- The schemas that a shape may hold at its own place: one for each of several types, and one for
what is said besides a composition. -/
def Shape.parts : Shape → List SchemaId
  | .composed c => c.anyOf ++ c.inlined.toList
  | _ => []

/-- A schema is part of another one: it is held by it, at the same place. -/
def SchemaGraph.IsPart (g : SchemaGraph) (id : SchemaId) : Prop :=
  ∃ holder s, g.get? holder = some s ∧ id ∈ s.shape.parts ∧ g.At s.document s.location id

/-- A schema was met at a site, or it is part of another one. -/
def Workspace.Homed (w : Workspace) (id : SchemaId) : Prop :=
  (∃ site, w.Met site id) ∨ w.graph.IsPart id

/-- What was done in a workspace was done in another one. -/
structure Workspace.Before (w w' : Workspace) : Prop where
  findings : w.report.diagnostics ⊆ w'.report.diagnostics
  slots : w.slots ⊆ w'.slots

theorem Workspace.Before.trans {w w' w'' : Workspace} (h : w.Before w') (h' : w'.Before w'') :
    w.Before w'' :=
  ⟨List.Subset.trans h.findings h'.findings, List.Subset.trans h.slots h'.slots⟩

/-- The schema at a site was read at a node of some kind, unless some schema was cut off. -/
def Workspace.Remembers (P : Node → Prop) (w : Workspace) (site : Site) : Prop :=
  (∃ n room before, P n ∧ n.site = site ∧
    (n.schemaHere (Node.schemaWithin room) before).2.Before w) ∨
  ∃ limit label p, (Finding.nestingTooDeep limit).diagnostic label p ∈ w.report.diagnostics

theorem Workspace.Remembers.before {w w' : Workspace} {site : Site} (h : w.Remembers P site)
    (hw : w.Before w') : w'.Remembers P site := by
  rcases h with ⟨n, room, before, hn, hsite, hread⟩ | ⟨limit, label, p, hcut⟩
  · exact .inl ⟨n, room, before, hn, hsite, hread.trans hw⟩
  · exact .inr ⟨limit, label, p, hw.findings hcut⟩

/-- What holds between the workspaces before and after steps that read at nodes of some kind: nothing
is lost, what was met meanwhile was read meanwhile, and schemas stay as they were, apart from their
names. -/
structure Workspace.Frames (P : Node → Prop) (w w' : Workspace) : Prop extends w.Before w' where
  readings : ∀ entry ∈ w'.slots, entry ∈ w.slots ∨ w'.Remembers P entry.1
  kept : ∀ id s, w.graph.get? id = some s →
    ∃ s', w'.graph.get? id = some s' ∧ s'.unnamed = s.unnamed

theorem Workspace.Frames.of_slots_eq {w w' : Workspace}
    (hfindings : w.report.diagnostics ⊆ w'.report.diagnostics) (hslots : w'.slots = w.slots)
    (hkept : ∀ id s, w.graph.get? id = some s →
      ∃ s', w'.graph.get? id = some s' ∧ s'.unnamed = s.unnamed) : w.Frames P w' :=
  ⟨⟨hfindings, hslots ▸ List.Subset.refl _⟩, fun _ hentry => .inl (hslots ▸ hentry), hkept⟩

theorem Workspace.Frames.trans {w w' w'' : Workspace} (h : w.Frames P w') (h' : w'.Frames P w'') :
    w.Frames P w'' where
  toBefore := h.toBefore.trans h'.toBefore
  readings entry hentry := by
    rcases h'.readings entry hentry with hbetween | hread
    · exact (h.readings entry hbetween).imp_right fun hread => hread.before h'.toBefore
    · exact .inr hread
  kept id s hs := by
    obtain ⟨s', hs', hunnamed⟩ := h.kept id s hs
    obtain ⟨s'', hs'', hunnamed'⟩ := h'.kept id s' hs'
    exact ⟨s'', hs'', hunnamed'.trans hunnamed⟩

/-- Such steps, after which every new schema is homed, or else it is loose. -/
structure Workspace.Leads (P : Node → Prop) (w w' : Workspace) (Loose : SchemaId → Prop) : Prop
    extends w.Frames P w' where
  homed : ∀ id, w.graph.size ≤ id → id < w'.graph.size → w'.Homed id ∨ Loose id

namespace Workspace.Leads

variable {w w' w'' : Workspace} {L L' : SchemaId → Prop}

theorem of_eq (hfindings : w.report.diagnostics ⊆ w'.report.diagnostics)
    (hslots : w'.slots = w.slots) (hgraph : w'.graph = w.graph) : w.Leads P w' L where
  toFrames := .of_slots_eq hfindings hslots fun _ s hs => ⟨s, hgraph ▸ hs, rfl⟩
  homed _ hold hlt := absurd hlt (Nat.not_lt.mpr (hgraph ▸ hold))

theorem refl (w : Workspace) : w.Leads P w L := .of_eq (List.Subset.refl _) rfl rfl

theorem at_ (h : w.Leads P w' L) {document : Option String} {p : Pointer} {id : SchemaId}
    (hat : w.graph.At document p id) : w'.graph.At document p id := by
  obtain ⟨s, hs, hdocument, hlocation⟩ := hat
  obtain ⟨s', hs', hunnamed⟩ := h.kept id s hs
  exact ⟨s', hs', (Schema.document_eq_of_unnamed hunnamed).trans hdocument,
    (Schema.location_eq_of_unnamed hunnamed).trans hlocation⟩

theorem homed_of_homed (h : w.Leads P w' L) {id : SchemaId} (hid : w.Homed id) : w'.Homed id := by
  rcases hid with ⟨site, slot, hslot, rfl⟩ | ⟨holder, s, hs, hpart, hat⟩
  · exact .inl ⟨site, slot, h.slots hslot, rfl⟩
  · obtain ⟨s', hs', hunnamed⟩ := h.kept holder s hs
    refine .inr ⟨holder, s', hs', Schema.shape_eq_of_unnamed hunnamed ▸ hpart, ?_⟩
    rw [Schema.document_eq_of_unnamed hunnamed, Schema.location_eq_of_unnamed hunnamed]
    exact h.at_ hat

theorem trans (h : w.Leads P w' L) (h' : w'.Leads P w'' L') (hloose : ∀ id, L id → L' id) :
    w.Leads P w'' L' where
  toFrames := h.toFrames.trans h'.toFrames
  homed id hold hlt := by
    by_cases hbetween : id < w'.graph.size
    · exact (h.homed id hold hbetween).imp h'.homed_of_homed (hloose id)
    · exact h'.homed id (Nat.le_of_not_lt hbetween) hlt

end Workspace.Leads

/-! ## Steps -/

namespace Binding

variable {α β : Type} {m : Binding α} {f : α → Binding β} {Q R : α → Prop} {U : β → Prop}

/-- The step keeps what can be traced to nodes of some kind, no schema is loose after it, and its
result satisfies a predicate. -/
def Traces (P : Node → Prop) (m : Binding α) (Q : α → Prop) : Prop :=
  ∀ w : Workspace, w.Traced P →
    (m w).2.Traced P ∧ w.Leads P (m w).2 (fun _ => False) ∧ Q (m w).1

namespace Traces

protected theorem pure {a : α} (h : Q a) : Traces P (pure a) Q :=
  fun w hw => ⟨hw, .refl w, h⟩

protected theorem bind (hm : Traces P m R) (hf : ∀ a, R a → Traces P (f a) U) :
    Traces P (m >>= f) U := by
  intro w hw
  obtain ⟨hbetween, hfirst, hresult⟩ := hm w hw
  obtain ⟨hleft, hsecond, hlast⟩ := hf _ hresult _ hbetween
  exact ⟨hleft, hfirst.trans hsecond fun _ h => h, hlast⟩

/-- Nothing needs to be known of the first result. -/
theorem seq (hm : Traces P m R) (hf : ∀ a, Traces P (f a) U) : Traces P (m >>= f) U :=
  hm.bind fun a _ => hf a

theorem imp (hm : Traces P m R) (h : ∀ a, R a → Q a) : Traces P m Q :=
  fun w hw => (hm w hw).imp_right (And.imp_right (h _))

theorem map {g : α → β} (hm : Traces P m R) (h : ∀ a, R a → U (g a)) :
    Traces P (g <$> m) U :=
  hm.bind fun a ha => .pure (h a ha)

protected theorem ite {c : Prop} [Decidable c] {m m' : Binding α} (hm : c → Traces P m Q)
    (hm' : ¬ c → Traces P m' Q) : Traces P (if c then m else m') Q := by
  split
  · next hc => exact hm hc
  · next hc => exact hm' hc

/-- A choice with something after it: what is shown of it behind the one arm is at hand in the
other. -/
theorem ite_bind {c : Prop} [Decidable c] {k : Binding β} (hm : c → Traces P m R)
    (hf : ∀ a, R a → Traces P (f a) U)
    (hk : ¬ c → (∀ a, R a → Traces P (f a) U) → Traces P k U) :
    Traces P (if c then m >>= f else k) U :=
  .ite (fun hc => (hm hc).bind hf) fun hc => hk hc hf

/-- What is known of the result in every workspace is known of it here. -/
theorem gives (hm : Traces P m R) (h : m.Gives Q) : Traces P m fun a => R a ∧ Q a :=
  fun w hw => (hm w hw).imp_right (And.imp_right fun hresult => ⟨hresult, h w⟩)

/-- The result of a step that does not look at the workspace is known. -/
theorem result (hm : Traces P m Q) (htells : m.OnlyTells) :
    Traces P m fun a => Q a ∧ a = m.result := by
  obtain ⟨found, hrun⟩ := htells.run
  intro w hw
  obtain ⟨hleft, hleads, hresult⟩ := hm w hw
  exact ⟨hleft, hleads, hresult, by rw [hrun w]⟩

/-- What is known of the elements of a list and their results adds up to what is known of the list
and all results. -/
protected theorem collect {step : α → Binding (Option β)} {R : α → Option β → Prop}
    {T : List α → List β → Prop} (hnil : T [] [])
    (hcons : ∀ {a rest b? bs}, R a b? → T rest bs → T (a :: rest) (b?.toList ++ bs)) {l : List α}
    (h : ∀ a ∈ l, Traces P (step a) (R a)) : Traces P (collect step l) (T l) := by
  induction l with
  | nil => exact .pure hnil
  | cons a rest ih =>
    refine (h a List.mem_cons_self).bind fun b? hb => ?_
    refine (ih fun a ha => h a (List.mem_cons_of_mem _ ha)).bind fun bs hbs => ?_
    exact .pure (hcons hb hbs)

/-- What each result satisfies, all of them do. -/
theorem collect_all {step : α → Binding (Option β)} {l : List α}
    (h : ∀ a ∈ l, Traces P (step a) fun b? => ∀ b ∈ b?, U b) :
    Traces P (Binding.collect step l) fun bs => ∀ b ∈ bs, U b := by
  refine Traces.collect (R := fun _ b? => ∀ b ∈ b?, U b) (T := fun _ bs => ∀ b ∈ bs, U b)
    (by simp) ?_ h
  intro _ _ b? bs hb hbs b hmem
  rcases List.mem_append.mp hmem with hfirst | hrest
  · exact hb b (Option.mem_toList.mp hfirst)
  · exact hbs b hrest

protected theorem each {step : α → Binding β} {l : List α}
    (h : ∀ a ∈ l, Traces P (step a) fun _ => True) : Traces P (each step l) fun _ => True := by
  induction l with
  | nil => exact .pure trivial
  | cons a rest ih =>
    refine (h a List.mem_cons_self).seq fun b => ?_
    exact (ih fun a ha => h a (List.mem_cons_of_mem _ ha)).seq fun bs => .pure trivial

end Traces

theorem traces_tell (hn : P n) {f : Finding} (hf : f.isRead = true) :
    Traces P (tell n.scope n.pointer f) fun _ => True := by
  intro w hw
  refine ⟨⟨fun d hd => ?_, hw.schemas, hw.sites⟩, .of_eq (List.subset_append_left _ _) rfl rfl,
    trivial⟩
  rcases List.mem_append.mp hd with hold | hnew
  · exact hw.findings d hold
  · rw [List.mem_singleton.mp hnew]
    exact .intro hn hf

end Binding

open Binding

/-! ## Fields -/

theorem Node.traces_tell (hn : P n) {f : Finding} (hf : f.isRead = true) :
    Traces P (n.tell f) fun _ => True :=
  Binding.traces_tell hn hf

namespace Record

theorem traces_tell (hr : P r.node) {f : Finding} (hf : f.isRead = true) :
    Traces P (r.tell f) fun _ => True :=
  Binding.traces_tell hr hf

theorem has_of_get? {key : String} {value : Json} (h : r.members.get? key = some value) :
    r.has key = true := by
  rw [has, Entries.contains, h, Option.isSome_some]

theorem has_of_mem {member : String × Json} (h : member ∈ r.members) : r.has member.1 = true := by
  unfold has Entries.contains
  generalize r.members = members at h ⊢
  induction members with
  | nil => cases h
  | cons first rest ih =>
    rw [Entries.get?_cons]
    split
    · rfl
    · next hne => exact ih ((List.mem_cons.mp h).resolve_left fun heq => hne (heq ▸ rfl))

theorem has_of_field? {key : String} (h : r.field? key = some n) : r.has key = true := by
  obtain ⟨value, hvalue, -⟩ := Option.map_eq_some_iff.mp h
  exact has_of_get? hvalue

theorem exists_field?_of_has {key : String} (h : r.has key = true) : ∃ n, r.field? key = some n := by
  obtain ⟨value, hvalue⟩ := Option.isSome_iff_exists.mp h
  exact ⟨r.child (key, value), by rw [field?, hvalue, Option.map_some]⟩

variable (hP : Node.Closed P) (hr : P r.node)
include hP hr

/-- What stands under a key is a node of the kind. -/
theorem of_has {key : String} (h : r.has key = true) :
    ∃ n, P n ∧ n.scope = r.scope ∧ n.pointer = r.pointer.push key := by
  obtain ⟨n, hn⟩ := exists_field?_of_has h
  obtain ⟨hscope, hpointer⟩ := of_field? hn
  exact ⟨n, hP.field hr hn, hscope, hpointer⟩

theorem traces_tellField {key : String} (hkey : r.has key = true) {f : Finding}
    (hf : f.isRead = true) : Traces P (r.tellField key f) fun _ => True := by
  obtain ⟨n, hn, hscope, hpointer⟩ := of_has hP hr hkey
  unfold tellField
  rw [← hscope, ← hpointer]
  exact Binding.traces_tell hn hf

variable {α : Type}

theorem traces_read? (key expected : String) (form : Json → Option α) :
    Traces P (r.read? key expected form) fun a? => a?.isSome → r.has key = true := by
  unfold read?
  cases hvalue : r.members.get? key with
  | none => exact .pure nofun
  | some value =>
    have hkey := has_of_get? hvalue
    dsimp only
    cases form value with
    | some a => exact .pure fun _ => hkey
    | none => exact (traces_tellField hP hr hkey rfl).seq fun _ => .pure nofun

theorem traces_text? (key : String) :
    Traces P (r.text? key) fun text? => text?.isSome → r.has key = true :=
  traces_read? hP hr _ _ _

theorem traces_flag? (key : String) :
    Traces P (r.flag? key) fun flag? => flag?.isSome → r.has key = true :=
  traces_read? hP hr _ _ _

theorem traces_flag (key : String) : Traces P (r.flag key) fun _ => True :=
  (traces_flag? hP hr key).seq fun _ => .pure trivial

theorem traces_number? (key : String) :
    Traces P (r.number? key) fun number? => number?.isSome → r.has key = true :=
  traces_read? hP hr _ _ _

theorem traces_count? (key : String) :
    Traces P (r.count? key) fun count? => count?.isSome → r.has key = true :=
  traces_read? hP hr _ _ _

theorem traces_requiredText? (owner key : String) :
    Traces P (r.requiredText? owner key) fun text? => text?.isSome → r.has key = true :=
  .ite (fun _ => traces_text? hP hr key)
    fun _ => (traces_tell hr rfl).seq fun _ => .pure nofun

theorem traces_responseText? :
    Traces P r.responseText? fun text? => text?.isSome → r.has "description" = true :=
  .ite (fun _ => traces_requiredText? hP hr _ _) fun _ => traces_text? hP hr _

theorem traces_refuse (key : String) : Traces P (r.refuse key) fun _ => True :=
  .ite (fun hkey => traces_tellField hP hr hkey rfl) fun _ => .pure trivial

end Record

/-! ## Objects and arrays -/

section Nodes

variable {β : Type} {Q : β → Prop}

/-- What is done with the object that a node is. -/
theorem Node.traces_record? (hn : P n) (what : String) {f : Option Record → Binding β}
    (hnone : n.object? = none → Traces P (f none) Q)
    (hsome : ∀ r, n.object? = some r → P r.node → Traces P (f (some r)) Q) :
    Traces P (n.record? what >>= f) Q := by
  obtain ⟨scope, pointer, value⟩ := n
  cases value with
  | object members => exact hsome ⟨scope, pointer, members⟩ rfl hn
  | _ => exact (Node.traces_tell hn rfl).seq fun _ => hnone rfl

/-- What is done with the items of an array. -/
theorem Node.traces_items (hP : Node.Closed P) (hn : P n) (what : String)
    {f : List Node → Binding β}
    (h : (∀ m ∈ n.itemNodes, P m) → Traces P (f n.itemNodes) Q) :
    Traces P (n.items what >>= f) Q := by
  have hitems : ∀ m ∈ n.itemNodes, P m := fun m hm => hP.item hn hm
  have h := h hitems
  obtain ⟨scope, pointer, value⟩ := n
  cases value with
  | array items => exact h
  | _ => exact (Node.traces_tell hn rfl).seq fun _ => h

/-- The object that a node stands for. -/
def Node.behind? (n : Node) : Option Record := n.resolved.toOption.bind (·.node.object?)

/-- What a chain of references comes to is of the kind. -/
theorem Node.Closed.resolved (hP : Node.Closed P) (hn : P n) {target : Resolved}
    (ht : n.resolved = .ok target) : P target.node := by
  refine Node.of_chase (fun {n next text} hn htext hnext => ?_) hn ht
  obtain ⟨m, hm, hscope, -, hvalue⟩ := hP.of_member? hn htext
  exact hP.target hm hvalue (.inl (hscope ▸ hnext))

/-- What keeps a chain of references from ending is about a node of the kind. -/
theorem Node.Closed.of_chase_eq_error (hP : Node.Closed P) {origin : Node} (horigin : P origin)
    {first : Option String} {seen : List Site} {room : Nat} (hn : P n) {p : Problem}
    (h : Node.chase origin first seen room n = .error p) :
    ∃ m, P m ∧ p.scope = m.scope ∧ p.pointer = m.pointer ∧ p.finding.isRead = true := by
  -- a finding about a reference is about the member that writes it
  have hmember : ∀ {n : Node} {value : Json} {f : Finding}, P n →
      n.value.member? referenceKey = some value → f.isRead = true →
      Except.error ⟨n.scope, n.pointer.push referenceKey, f⟩ = (.error p : Except Problem Resolved) →
      ∃ m, P m ∧ p.scope = m.scope ∧ p.pointer = m.pointer ∧ p.finding.isRead = true := by
    intro n value f hn hvalue hf hp
    obtain ⟨m, hm, hscope, hpointer, -⟩ := hP.of_member? hn hvalue
    obtain rfl := Except.error.inj hp
    exact ⟨m, hm, hscope.symm, hpointer.symm, hf⟩
  induction room generalizing n first seen with
  | zero =>
    unfold chase at h
    split at h
    · cases h
    · simp only at h
      split at h <;> exact Except.error.inj h ▸ ⟨origin, horigin, rfl, rfl, rfl⟩
    · next other _ hother => exact hmember hn hother rfl h
  | succ room ih =>
    unfold chase at h
    split at h
    · cases h
    · next text htext =>
      simp only at h
      split at h
      · exact Except.error.inj h ▸ ⟨origin, horigin, rfl, rfl, rfl⟩
      · split at h
        · next next hnext =>
          obtain ⟨m, hm, hscope, -, hvalue⟩ := hP.of_member? hn htext
          exact ih (hP.target hm hvalue (.inl (hscope ▸ hnext))) h
        · next f hf => exact hmember hn htext (Scope.of_locate_eq_error hf).isRead h
    · next other _ hother => exact hmember hn hother rfl h

/-- What is done with what a node stands for. -/
theorem Node.traces_resolved (hP : Node.Closed P) (hn : P n) {f : Option Resolved → Binding β}
    (hnone : n.resolved.toOption = none → Traces P (f none) Q)
    (hsome : ∀ target, n.resolved = .ok target → P target.node → Traces P (f (some target)) Q) :
    Traces P (orTell n.resolved >>= f) Q := by
  cases hresolved : n.resolved with
  | error p =>
    obtain ⟨m, hm, hscope, hpointer, hread⟩ := hP.of_chase_eq_error hn hn hresolved
    have htell : Traces P (Binding.tell p.scope p.pointer p.finding) fun _ => True := by
      rw [hscope, hpointer]
      exact Binding.traces_tell hm hread
    exact htell.seq fun _ => hnone (by rw [hresolved]; rfl)
  | ok target => exact hsome target hresolved (hP.resolved hn hresolved)

/-- What is done with the object that a node stands for. -/
theorem Node.traces_resolvedRecord? (hP : Node.Closed P) (hn : P n) (what : String)
    {f : Option ResolvedRecord → Binding β} (hnone : n.behind? = none → Traces P (f none) Q)
    (hsome : ∀ r reference, n.behind? = some r → P r.node →
      Traces P (f (some ⟨r, reference⟩)) Q) :
    Traces P (n.resolvedRecord? what >>= f) Q := by
  unfold resolvedRecord?
  rw [bind_assoc]
  refine Node.traces_resolved hP hn (fun h => ?_) fun target ht hnode => ?_
  · exact hnone (by rw [behind?, h, Option.bind_none])
  · have hbehind : n.behind? = target.node.object? := by
      rw [behind?, ht]
      rfl
    dsimp only
    rw [bind_assoc]
    refine Node.traces_record? hnode what (fun h => ?_) fun r hr hrnode => ?_
    · exact hnone (hbehind.trans h)
    · exact hsome r target.reference (hbehind.trans hr) hrnode

end Nodes

namespace Record

variable {α β : Type} {Q : β → Prop}

/-- What is done with the object in a field. -/
theorem traces_record? (hP : Node.Closed P) (hr : P r.node) (key : String)
    {f : Option Record → Binding β} (hnone : Traces P (f none) Q)
    (hsome : ∀ inner : Record, r.field? key = some inner.node → P inner.node →
      Traces P (f (some inner)) Q) :
    Traces P (r.record? key >>= f) Q := by
  unfold record?
  cases hn : r.field? key with
  | none => exact hnone
  | some n =>
    refine Node.traces_record? (hP.field hr hn) _ (fun _ => hnone) fun inner hinner => ?_
    exact hsome inner (hn.trans (congrArg some (Node.node_of_object? hinner).symm))

theorem traces_texts (hP : Node.Closed P) (hr : P r.node) (key : String) :
    Traces P (r.texts key) fun texts => texts ≠ [] → r.has key = true := by
  unfold texts
  cases hn : r.field? key with
  | none => exact .pure fun h => absurd rfl h
  | some n =>
    refine Node.traces_items hP (hP.field hr hn) _ fun hitems => ?_
    refine (Traces.collect_all (U := fun _ => True) fun item hitem => ?_).imp
      fun _ _ _ => has_of_field? hn
    split
    · exact .pure fun _ _ => trivial
    · exact (Node.traces_tell (hitems item hitem) rfl).seq fun _ => .pure fun _ _ => trivial

/-- What the fields are read as satisfies what is known of each of them. -/
theorem traces_readFields {fields : List (String × Node)}
    {step : String → Node → Binding (Option α)} {R : String → Node → α → Prop}
    (h : ∀ field ∈ fields, Traces P (step field.1 field.2) fun a? => ∀ a ∈ a?, R field.1 field.2 a) :
    Traces P (readFields fields step) fun entries =>
      ∀ entry ∈ entries, ∃ n, (entry.1, n) ∈ fields ∧ R entry.1 n entry.2 := by
  refine .collect_all fun field hfield => (h field hfield).bind fun a? ha => .pure ?_
  intro entry hentry
  obtain ⟨a, rfl, rfl⟩ := Option.map_eq_some_iff.mp hentry
  exact ⟨field.2, hfield, ha a rfl⟩

theorem traces_readAll (hP : Node.Closed P) (hr : P r.node) (key : String)
    {step : Node → Binding (Option α)} {R : α → Prop}
    (h : ∀ {n}, P n → Traces P (step n) fun a? => ∀ a ∈ a?, R a) :
    Traces P (r.readAll key step) fun entries => ∀ entry ∈ entries, R entry.2 := by
  refine traces_record? hP hr key (.pure (by simp)) fun inner _ hinner => ?_
  refine (traces_readFields (R := fun _ _ a => R a) fun field hfield => ?_).imp
    fun entries hentries entry hentry => ?_
  · exact h (hP.fields hinner hfield)
  · obtain ⟨-, -, hR⟩ := hentries entry hentry
    exact hR

end Record

end ApiDescription
