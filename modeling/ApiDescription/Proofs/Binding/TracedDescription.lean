import ApiDescription.Binding.Description
import ApiDescription.Proofs.Binding.TracedParts

/-!
# Whole descriptions traced to nodes

Path items, operations and callbacks are read inside of each other, and all of them are traced to
nodes, however deep they stand.  So are the keys of the paths and the components and the tags, and
with them everything in a description that has a place.
-/

namespace ApiDescription

open Binding

variable {P : Node → Prop} {n : Node} {r : Record}

/-! ## Operations -/

/-- A way to read callbacks gives those whose path items are traced to nodes of some kind. -/
def CallbackReader.Traces (P : Node → Prop) (read : CallbackReader) : Prop :=
  ∀ {n : Node}, P n → Binding.Traces P (read n) fun c? =>
    ∀ c ∈ c?, ∀ item ∈ c.nested, item.Traced P

/-- A way to read path items gives those that are traced to nodes of some kind, together with the
ones in the callbacks of their operations. -/
def PathItemReader.Traces (P : Node → Prop) (read : PathItemReader) : Prop :=
  ∀ path {n : Node}, P n → Binding.Traces P (read path n) fun item? =>
    ∀ item ∈ item?, ∀ inner ∈ item.withNested, inner.Traced P

section Operations

variable (hP : Node.Closed P)
include hP

namespace Record

variable (hr : P r.node)
include hr

theorem traces_responses? :
    Traces P r.responses? fun responses? => responses?.map (·.map (·.1)) = r.responseKeys? := by
  unfold responses? SchemaReader.responses? responseKeys?
  cases hn : r.field? "responses" with
  | none =>
    exact .ite (fun _ => (traces_tell hr rfl).seq fun _ => .pure rfl) fun _ => .pure rfl
  | some n =>
    exact (Node.traces_responses hP (hP.field hr hn)).map fun responses h => congrArg some h

theorem traces_bodyOf? : Traces P r.requestBody? fun _ => True := by
  unfold requestBody? SchemaReader.bodyOf?
  split
  · exact .pure trivial
  · next hn => exact Node.traces_requestBody? hP (hP.field hr hn)

theorem traces_security? :
    Traces P r.security? fun qs? => (∀ q ∈ qs?.getD [], q.Traced P r.scope.label) ∧
      qs? = r.security?.result := by
  refine Traces.result ?_ r.onlyTells_security?
  unfold security?
  cases hn : r.field? "security" with
  | none => exact .pure (by simp)
  | some n =>
    have hscope := congrArg Scope.label (of_field? hn).1
    exact (Node.traces_security hP (hP.field hr hn) hscope).map fun _ h => h

theorem traces_callbacks {read : CallbackReader} (hread : read.Traces P) :
    Traces P (r.callbacks read) fun cs =>
      ∀ entry ∈ cs, ∀ item ∈ entry.2.nested, item.Traced P := by
  unfold callbacks
  split
  · exact .pure (by simp)
  · next hn =>
    refine Node.traces_record? (hP.field hr hn) _ (fun _ => .pure (by simp)) fun entries _ he => ?_
    refine (traces_readFields (R := fun _ _ c => ∀ item ∈ c.nested, item.Traced P)
      fun field hfield => hread (hP.fields he hfield)).imp fun cs hcs entry hentry => ?_
    obtain ⟨-, -, h⟩ := hcs entry hentry
    exact h

end Record

theorem Node.traces_operation? (hn : P n) {read : CallbackReader} (hread : read.Traces P)
    (method : Method) (path : String) :
    Traces P (n.operation? read method path) fun o? =>
      ∀ o ∈ o?, o.Traced P ∧ ∀ item ∈ o.nested, item.Traced P := by
  refine Node.traces_record? hn _ (fun _ => .pure (by simp)) fun r hr hrnode => ?_
  refine (Record.traces_responses? hP hrnode).bind fun responses hresponses => ?_
  refine (Record.traces_bodyOf? hP hrnode).seq fun body => ?_
  refine (Record.traces_security? hP hrnode).bind fun security hsecurity => ?_
  refine (Record.traces_text? hP hrnode _).seq fun _ => ?_
  refine (Record.traces_text? hP hrnode _).seq fun _ => ?_
  refine (Record.traces_text? hP hrnode _).seq fun _ => ?_
  refine (Record.traces_texts hP hrnode _).seq fun _ => ?_
  refine (Record.traces_parameters hP hrnode).bind fun parameters hparameters => ?_
  refine (Record.traces_callbacks hP hrnode hread).bind fun callbacks hcallbacks => ?_
  refine (Record.traces_flag hP hrnode _).seq fun _ => ?_
  refine ((Record.traces_servers hP hrnode).result r.onlyTells_servers).bind
    fun servers hservers => .pure fun o ho => ?_
  obtain rfl := Option.some.inj ho
  refine ⟨⟨⟨r, hrnode, rfl, rfl, hresponses, hsecurity.2, hservers.2⟩, hparameters, hsecurity.1,
    hservers.1⟩, fun item hitem => ?_⟩
  rw [Operation.nested, nestedInCallbacks_eq] at hitem
  obtain ⟨entry, hentry, hitem⟩ := List.mem_flatMap.mp hitem
  exact hcallbacks entry hentry item hitem

theorem Record.traces_operationOf? (hr : P r.node) {read : CallbackReader} (hread : read.Traces P)
    (path : String) (method : Method) :
    Traces P (r.operationOf? read path method) fun entry? =>
      ∀ entry ∈ entry?, entry.2.Traced P ∧ ∀ item ∈ entry.2.nested, item.Traced P := by
  unfold operationOf? SchemaReader.operationOf?
  split
  · exact .pure (by simp)
  · next hn =>
    refine (Node.traces_operation? hP (hP.field hr hn) hread method path).bind fun o? ho => ?_
    refine .pure fun entry hentry => ?_
    obtain ⟨o, rfl, rfl⟩ := Option.map_eq_some_iff.mp hentry
    exact ho o rfl

/-! ## Path items and callbacks -/

theorem Resolved.traces_pathItem? {target : Resolved} (ht : P target.node)
    {read : CallbackReader} (hread : read.Traces P) (path : String) (location : Pointer) :
    Traces P (target.pathItem? read path location) fun item? =>
      ∀ item ∈ item?, ∀ inner ∈ item.withNested, inner.Traced P := by
  refine Node.traces_record? ht _ (fun _ => .pure (by simp)) fun r _ hr => ?_
  refine (Record.traces_text? hP hr _).seq fun _ => (Record.traces_text? hP hr _).seq fun _ => ?_
  refine (Record.traces_servers hP hr).bind fun servers hservers => ?_
  refine (Record.traces_parameters hP hr).bind fun parameters hparameters => ?_
  refine (Traces.collect_all fun method _ =>
    Record.traces_operationOf? hP hr hread path method).bind fun operations hoperations => ?_
  refine .pure fun item hitem inner hinner => ?_
  obtain rfl := Option.some.inj hitem
  rw [PathItem.withNested_eq, nestedInOperations_eq] at hinner
  rcases List.mem_cons.mp hinner with rfl | hnested
  · refine ⟨hparameters, hservers, fun o ho => ?_⟩
    obtain ⟨entry, hentry, rfl⟩ := List.mem_map.mp ho
    exact (hoperations entry hentry).1
  · obtain ⟨entry, hentry, hnested⟩ := List.mem_flatMap.mp hnested
    exact (hoperations entry hentry).2 inner hnested

omit hP in
/-- The path items under some keys are read one by one. -/
theorem PathItemReader.Traces.under {read : PathItemReader} (hread : read.Traces P)
    {fields : List (String × Node)} (hfields : ∀ field ∈ fields, P field.2) :
    Binding.Traces P (Record.readFields fields read) fun items =>
      (∀ inner ∈ withAllNested items, inner.Traced P) ∧
        ∀ entry ∈ items, ∃ m, (entry.1, m) ∈ fields := by
  refine (Record.traces_readFields
    (R := fun _ _ item => ∀ inner ∈ item.withNested, inner.Traced P)
    fun field hfield => hread field.1 (hfields field hfield)).imp fun items hitems => ⟨?_, ?_⟩
  · intro inner hinner
    rw [withAllNested_eq] at hinner
    obtain ⟨entry, hentry, hinner⟩ := List.mem_flatMap.mp hinner
    obtain ⟨-, -, h⟩ := hitems entry hentry
    exact h inner hinner
  · intro entry hentry
    obtain ⟨m, hm, -⟩ := hitems entry hentry
    exact ⟨m, hm⟩

theorem Resolved.traces_callback? {target : Resolved} (ht : P target.node)
    {read : PathItemReader} (hread : read.Traces P) :
    Traces P (target.callback? read) fun c? =>
      ∀ c ∈ c?, ∀ item ∈ c.nested, item.Traced P := by
  refine Node.traces_record? ht _ (fun _ => .pure (by simp)) fun r _ hr => ?_
  refine (hread.under fun field hfield => hP.plainFields hr hfield).bind
    fun items hitems => .pure fun c hc => ?_
  obtain rfl := Option.some.inj hc
  rw [Callback.nested]
  exact hitems.1

theorem Node.traces_enter (hn : P n) (enclosing : Enclosing) {α : Type} {Q : Option α → Prop}
    (hnone : Q none) {read : Enclosing → Resolved → Binding (Option α)}
    (hread : ∀ enclosing target, P target.node → Traces P (read enclosing target) Q) :
    Traces P (n.enter enclosing read) Q :=
  Node.traces_resolved hP hn (fun _ => .pure hnone) fun target _ ht =>
    .ite (fun _ => (Node.traces_tell hn rfl).seq fun _ => .pure hnone)
      fun _ => hread _ target ht

/-- Path items and callbacks are read inside of each other, as deep as there is room. -/
theorem Node.traces_within (room : Nat) :
    (∀ enclosing, PathItemReader.Traces P (Node.pathItemWithin room enclosing)) ∧
      ∀ enclosing, CallbackReader.Traces P (Node.callbackWithin room enclosing) := by
  induction room with
  | zero =>
    constructor
    · intro enclosing path n _
      unfold pathItemWithin
      exact .pure (by simp)
    · intro enclosing n _
      unfold callbackWithin
      exact .pure (by simp)
  | succ room ih =>
    obtain ⟨hpathItem, hcallback⟩ := ih
    constructor
    · intro enclosing path n hn
      unfold pathItemWithin
      exact Node.traces_enter hP hn enclosing (by simp) fun inner _ ht =>
        Resolved.traces_pathItem? hP ht (hcallback inner) path n.pointer
    · intro enclosing n hn
      unfold callbackWithin
      exact Node.traces_enter hP hn enclosing (by simp) fun inner _ ht =>
        Resolved.traces_callback? hP ht (hpathItem inner)

theorem Node.traces_pathItem? : PathItemReader.Traces P Node.pathItem? := fun path {_} hn =>
  (Node.traces_within hP _).1 [] path hn

theorem Node.traces_callback? : CallbackReader.Traces P Node.callback? := fun hn =>
  (Node.traces_within hP _).2 [] hn

end Operations

/-! ## Security schemes -/

section Schemes

variable (hP : Node.Closed P) (hr : P r.node)
include hP hr

namespace Record

theorem traces_flowText? (needed : Bool) (owner key : String) :
    Traces P (r.flowText? needed owner key) fun _ => True :=
  .ite (fun _ => (traces_requiredText? hP hr _ _).imp fun _ _ => trivial)
    fun _ => (traces_text? hP hr _).imp fun _ _ => trivial

theorem traces_scopes (owner : String) : Traces P (r.scopes owner) fun _ => True := by
  refine .ite (fun _ => (traces_tell hr rfl).seq fun _ => .pure trivial) fun _ => ?_
  refine traces_record? hP hr _ (.pure trivial) fun entries _ hentries => ?_
  refine (traces_readFields (R := fun _ _ _ => True) fun field _ => ?_).imp fun _ _ => trivial
  exact (traces_text? hP hentries _).imp fun _ _ _ _ => trivial

theorem traces_flow? (key : String) (needsAuthorization needsToken : Bool) :
    Traces P (r.flow? key needsAuthorization needsToken) fun _ => True := by
  unfold flow?
  split
  · exact .pure trivial
  · next hn =>
    refine Node.traces_record? (hP.field hr hn) _ (fun _ => .pure trivial) fun flow _ hflow => ?_
    refine (traces_flowText? hP hflow _ _ _).seq fun _ => ?_
    refine (traces_flowText? hP hflow _ _ _).seq fun _ => ?_
    exact (traces_scopes hP hflow _).seq fun _ => (traces_text? hP hflow _).seq fun _ =>
      .pure trivial

theorem traces_apiKeyKind? : Traces P r.apiKeyKind? fun _ => True := by
  refine (traces_requiredText? hP hr _ _).seq fun name? => ?_
  refine (traces_requiredText? hP hr _ _).bind fun
    | none => fun _ => (Traces.pure (Q := fun _ => True) trivial).seq fun place? => ?_
    | some text => fun hkey => .ite
      (fun _ => (traces_tellField hP hr (hkey rfl) rfl).seq fun _ =>
        (Traces.pure (Q := fun _ => True) trivial).seq fun place? => ?_)
      fun _ => (Traces.pure (Q := fun _ => True) trivial).seq fun place? => ?_
  -- whatever became of the place, it is put together with the name
  all_goals
    dsimp only
    split <;> exact .pure trivial

theorem traces_httpKind? : Traces P r.httpKind? fun _ => True :=
  (traces_requiredText? hP hr _ _).seq fun
    | none => .pure trivial
    | some _ => (traces_text? hP hr _).seq fun _ => .pure trivial

theorem traces_oauth2Kind? : Traces P r.oauth2Kind? fun _ => True := by
  unfold oauth2Kind?
  split
  · next hn =>
    have hflows := hP.field hr hn
    refine Traces.seq (R := fun _ => True) ?_ fun _ => .pure trivial
    refine Node.traces_record? hflows _ (fun _ => .pure trivial) fun flows _ hnode => ?_
    refine (traces_flow? hP hnode _ _ _).seq fun _ => (traces_flow? hP hnode _ _ _).seq fun _ => ?_
    refine (traces_flow? hP hnode _ _ _).seq fun _ => (traces_flow? hP hnode _ _ _).seq fun _ => ?_
    exact .pure trivial
  · exact (traces_tell hr rfl).seq fun _ => .pure trivial

theorem traces_securityKind? {type : String} (hkey : r.has "type" = true) :
    Traces P (r.securityKind? type) fun _ => True := by
  unfold securityKind?
  split
  · exact traces_apiKeyKind? hP hr
  · exact traces_httpKind? hP hr
  · exact traces_oauth2Kind? hP hr
  · exact (traces_requiredText? hP hr _ _).seq fun _ => .pure trivial
  · refine .ite (fun _ => .pure trivial) fun _ => ?_
    exact (traces_tellField hP hr hkey rfl).seq fun _ => .pure trivial

end Record

omit hr in
theorem Node.traces_securityScheme? (hn : P n) : Traces P n.securityScheme? fun _ => True := by
  refine Node.traces_resolvedRecord? hP hn _ (fun _ => .pure trivial) fun r _ _ hr => ?_
  refine (Record.traces_requiredText? hP hr _ _).bind fun
    | none => fun _ => .pure trivial
    | some type => fun hkey => ?_
  refine (Record.traces_securityKind? hP hr (hkey rfl)).seq fun
    | none => .pure trivial
    | some kind => (Record.traces_text? hP hr _).seq fun _ => .pure trivial

end Schemes

/-! ## Components -/

/-- The object of the reusable parts. -/
def Record.componentsRecord? (r : Record) : Option Record :=
  (r.field? "components").bind Node.object?

/-- The reusable parts were read from the object for them, if there is one. -/
structure Components.Traced (P : Node → Prop) (source? : Option Record) (c : Components) :
    Prop where
  /-- All keys are those that are written. -/
  writtenKeys : c.writtenKeys = source?.elim [] Record.writtenKeys
  /-- Security schemes are read under keys that are written. -/
  securitySchemes : ∀ entry ∈ c.securitySchemes, ∃ r inner, source? = some r ∧
    r.field? "securitySchemes" = some (Record.node inner) ∧ inner.has entry.1 = true
  /-- Path items are traced, those in callbacks as well. -/
  items : ∀ item ∈ withAllNested c.pathItems ++ nestedInCallbacks c.callbacks, item.Traced P

section Components

variable (hP : Node.Closed P)
include hP

theorem Node.traces_namedSchema (hn : P n) (name : String) :
    Traces P (Record.namedSchema name n) fun _ => True := by
  refine Traces.seq (Node.traces_schema hP hn) fun id => ?_
  have hnamed : ∀ s : Schema, s.Traced P → (Schema.named name s).Traced P := by
    rintro s ⟨m, hm, hdocument, hlocation, hshape⟩
    exact ⟨m, hm, hdocument, hlocation, hshape⟩
  exact (Node.traces_change id hnamed fun _ => rfl).seq fun _ => .pure trivial

namespace Record

variable (hr : P r.node)
include hr

theorem traces_componentSchemas : Traces P r.componentSchemas fun _ => True := by
  refine traces_record? hP hr _ (.pure trivial) fun entries _ hentries => ?_
  refine (traces_readFields (R := fun _ _ _ => True) fun field hfield => ?_).imp fun _ _ => trivial
  exact (Node.traces_namedSchema hP (hP.fields hentries hfield) _).imp fun _ _ _ _ => trivial

theorem traces_componentPathItems :
    Traces P r.componentPathItems fun items =>
      ∀ item ∈ withAllNested items, item.Traced P := by
  refine .ite (fun _ => ?_) fun _ => (traces_refuse hP hr _).seq fun _ => .pure ?_
  · refine traces_record? hP hr _ (.pure (by simp [withAllNested])) fun entries _ hentries => ?_
    exact ((Node.traces_pathItem? hP).under fun field hfield => hP.fields hentries hfield).imp
      fun _ h => h.1
  · simp [withAllNested]

theorem traces_componentCallbacks :
    Traces P (r.readAll "callbacks" Node.callback?) fun cs =>
      ∀ item ∈ nestedInCallbacks cs, item.Traced P := by
  refine (traces_readAll (R := fun c : Callback => ∀ item ∈ c.nested, item.Traced P) hP hr _
    fun hn => Node.traces_callback? hP hn).imp fun cs hcs item hitem => ?_
  rw [nestedInCallbacks_eq] at hitem
  obtain ⟨entry, hentry, hitem⟩ := List.mem_flatMap.mp hitem
  exact hcs entry hentry item hitem

theorem traces_componentSchemes :
    Traces P (r.readAll "securitySchemes" Node.securityScheme?) fun entries =>
      ∀ entry ∈ entries, ∃ inner : Record, r.field? "securitySchemes" = some inner.node ∧
        inner.has entry.1 = true := by
  refine traces_record? hP hr _ (.pure (by simp)) fun inner hinner hnode => ?_
  refine (traces_readFields (R := fun _ _ _ => True) fun field hfield => ?_).imp
    fun entries hentries entry hentry => ⟨inner, hinner, ?_⟩
  · exact (Node.traces_securityScheme? hP (hP.fields hnode hfield)).imp fun _ _ _ _ => trivial
  · obtain ⟨m, hm, -⟩ := hentries entry hentry
    obtain ⟨member, hmember, heq⟩ := List.mem_map.mp hm
    exact (Prod.mk.inj heq).1 ▸ has_of_mem hmember

end Record

omit hP in
theorem Components.traced_empty : Components.empty.Traced P none :=
  ⟨rfl, by simp [Components.empty], by simp [Components.empty, withAllNested, nestedInCallbacks]⟩

theorem Node.traces_components (hn : P n) :
    Traces P n.components (Components.Traced P n.object?) := by
  refine Node.traces_record? hn _ (fun hnone => .pure (hnone ▸ Components.traced_empty))
    fun r hr hrnode => ?_
  refine (Record.traces_componentSchemas hP hrnode).seq fun schemas => ?_
  refine Traces.seq (R := fun _ => True) ?_ fun responses => ?_
  · exact Record.traces_all hP hrnode _ fun hm =>
      (Node.traces_response? hP hm).imp fun _ _ => trivial
  refine Traces.seq (R := fun _ => True) ?_ fun parameters => ?_
  · exact Record.traces_all hP hrnode _ fun hm =>
      (Node.traces_parameter? hP hm).imp fun _ _ => trivial
  refine (Record.traces_all hP hrnode _ fun hm => Node.traces_example? hP hm).seq fun _ => ?_
  refine (Record.traces_all hP hrnode _ fun hm => Node.traces_requestBody? hP hm).seq fun _ => ?_
  refine (Record.traces_all hP hrnode _ fun hm => Node.traces_header? hP hm).seq fun _ => ?_
  refine (Record.traces_componentSchemes hP hrnode).bind fun schemes hschemes => ?_
  refine (Record.traces_all hP hrnode _ fun hm => Node.traces_link? hP hm).seq fun _ => ?_
  refine (Record.traces_componentCallbacks hP hrnode).bind fun callbacks hcallbacks => ?_
  refine (Record.traces_componentPathItems hP hrnode).bind fun items hitems => .pure ?_
  rw [hr]
  refine ⟨rfl, fun entry hentry => ?_, fun item hitem => ?_⟩
  · obtain ⟨inner, hinner, hkey⟩ := hschemes entry hentry
    exact ⟨r, inner, rfl, hinner, hkey⟩
  · rcases List.mem_append.mp hitem with h | h
    · exact hitems item h
    · exact hcallbacks item h

/-! ## The root -/

/-- The path items at a node stand under its keys. -/
theorem Node.traces_pathItems (hn : P n) :
    Traces P n.pathItems fun items => (∀ inner ∈ withAllNested items, inner.Traced P) ∧
      ∀ entry ∈ items, ∃ r, n.object? = some r ∧ r.has entry.1 = true := by
  refine Node.traces_record? hn _ (fun _ => .pure (by simp [withAllNested])) fun r hr hrnode => ?_
  refine ((Node.traces_pathItem? hP).under fun field hfield => hP.plainFields hrnode hfield).imp
    fun items hitems => ⟨hitems.1, fun entry hentry => ?_⟩
  obtain ⟨m, hm⟩ := hitems.2 entry hentry
  obtain ⟨member, hmember, heq⟩ := List.mem_map.mp (List.mem_filter.mp hm).1
  exact ⟨r, hr, (Prod.mk.inj heq).1 ▸ Record.has_of_mem hmember⟩

namespace Record

variable (hr : P r.node)
include hr

theorem traces_components : Traces P r.components (Components.Traced P r.componentsRecord?) := by
  unfold components Readers.componentsOf componentsRecord?
  cases hn : r.field? "components" with
  | none => exact .pure (Components.traced_empty)
  | some n => exact Node.traces_components hP (hP.field hr hn)

/-- The path items under the paths stand where their paths are written. -/
theorem traces_paths :
    Traces P r.paths fun items => (∀ inner ∈ withAllNested items, inner.Traced P) ∧
      ∀ entry ∈ items, Located P r.scope.label ((r.pointer.push "paths").push entry.1) := by
  unfold paths Readers.paths
  cases hn : r.field? "paths" with
  | none =>
    exact .ite (fun _ => (traces_tell hr rfl).seq fun _ => .pure (by simp [withAllNested]))
      fun _ => .pure (by simp [withAllNested])
  | some n =>
    obtain ⟨hscope, hpointer⟩ := of_field? hn
    have hnode := hP.field hr hn
    refine (Node.traces_pathItems hP hnode).imp fun items hitems => ⟨hitems.1, ?_⟩
    intro entry hentry
    obtain ⟨inner, hinner, hkey⟩ := hitems.2 entry hentry
    obtain ⟨hscope', hpointer', -⟩ := Node.of_object? hinner
    have hinnerNode : P inner.node := Node.node_of_object? hinner ▸ hnode
    have hlabel : inner.scope.label = r.scope.label := by rw [hscope', hscope]
    have hlocated := Located.of_has hP hinnerNode hlabel hkey
    rwa [hpointer', hpointer] at hlocated

theorem traces_webhooks :
    Traces P r.webhooks fun items => ∀ inner ∈ withAllNested items, inner.Traced P := by
  unfold webhooks Readers.webhooks
  split
  · exact .pure (by simp [withAllNested])
  · next hn =>
    refine .ite (fun _ => ?_) fun _ => ?_
    · exact (Node.traces_pathItems hP (hP.field hr hn)).imp fun _ h => h.1
    · exact (traces_refuse hP hr _).seq fun _ => .pure (by simp [withAllNested])

theorem traces_security :
    Traces P r.security fun qs => ∀ q ∈ qs, q.Traced P r.scope.label := by
  unfold security
  split
  · exact .pure (by simp)
  · next hn =>
    exact Node.traces_security hP (hP.field hr hn) (congrArg Scope.label (of_field? hn).1)

theorem traces_contact? : Traces P r.contact? fun _ => True := by
  refine traces_record? hP hr _ (.pure trivial) fun c _ hc => ?_
  refine (traces_text? hP hc _).seq fun _ => (traces_text? hP hc _).seq fun _ => ?_
  exact (traces_text? hP hc _).seq fun _ => .pure trivial

theorem traces_license? : Traces P r.license? fun _ => True := by
  refine traces_record? hP hr _ (.pure trivial) fun l _ hl => ?_
  refine (traces_requiredText? hP hl _ _).seq fun name? => ?_
  refine .ite_bind (fun _ => traces_text? hP hl _) (fun _ _ => ?_)
    fun _ => (Traces.pure nofun).bind
  exact (traces_text? hP hl _).seq fun _ => .pure trivial

theorem traces_info : Traces P r.info fun _ => True := by
  unfold info
  split
  · exact (traces_tell hr rfl).seq fun _ => .pure trivial
  · next hn =>
    refine Node.traces_record? (hP.field hr hn) _ (fun _ => .pure trivial) fun i _ hi => ?_
    refine .ite_bind (fun _ => traces_text? hP hi _) (fun summary _ => ?_)
      fun _ => (Traces.pure nofun).bind
    refine (traces_contact? hP hi).seq fun _ => (traces_license? hP hi).seq fun _ => ?_
    refine (traces_requiredText? hP hi _ _).seq fun _ => ?_
    refine (traces_requiredText? hP hi _ _).seq fun _ => (traces_text? hP hi _).seq fun _ => ?_
    exact (traces_text? hP hi _).seq fun _ => .pure trivial

theorem traces_jsonSchemaDialect? : Traces P r.jsonSchemaDialect? fun _ => True :=
  .ite (fun _ => (traces_text? hP hr _).imp fun _ _ => trivial)
    fun _ => (traces_refuse hP hr _).seq fun _ => .pure trivial

theorem traces_checkDeclaration (declared : String) :
    Traces P (r.checkDeclaration declared) fun _ => True := by
  unfold checkDeclaration
  split
  · next hvalue => exact traces_tellField hP hr (has_of_get? hvalue) rfl
  · exact .pure trivial

omit hP in
theorem traces_checkContents : Traces P r.checkContents fun _ => True :=
  .ite (fun _ => traces_tell hr rfl) fun _ => .pure trivial

end Record

end Components

/-- Everything in a description that has a place was read there, below the root of a document. -/
structure Description.Traced (P : Node → Prop) (root : Record) (d : Description) : Prop where
  servers : ∀ s ∈ d.servers, s.Traced P root.scope.label
  security : ∀ q ∈ d.security, q.Traced P root.scope.label
  paths : ∀ entry ∈ d.paths,
    Located P root.scope.label ((root.pointer.push "paths").push entry.1)
  tags : d.tags.length ≤ (root.itemsOf "tags").length
  components : d.components.Traced P root.componentsRecord?
  items : ∀ item ∈ d.allPathItems, item.Traced P
  schemas : ∀ id s, d.schemas.get? id = some s → s.Traced P

theorem Record.traces_description (hP : Node.Closed P) (hr : P r.node) (declared : String) :
    Traces P (r.description declared) (Description.Traced P r) := by
  refine (traces_checkDeclaration hP hr _).seq fun _ => (traces_info hP hr).seq fun info => ?_
  refine (traces_jsonSchemaDialect? hP hr).seq fun dialect => ?_
  refine (traces_servers hP hr).bind fun servers hservers => ?_
  refine (traces_components hP hr).bind fun components hcomponents => ?_
  refine (traces_paths hP hr).bind fun paths hpaths => ?_
  refine (traces_webhooks hP hr).bind fun webhooks hwebhooks => ?_
  refine (traces_checkContents hr).seq fun _ => ?_
  refine (traces_security hP hr).bind fun security hsecurity => ?_
  refine (traces_tags hP hr).bind fun tags htags => ?_
  refine (traces_externalDocs? hP hr).seq fun externalDocs => ?_
  intro w hw
  refine ⟨hw, .refl w, hservers, hsecurity, hpaths.2, htags, hcomponents,
    fun item hitem => ?_, hw.schemas⟩
  rcases List.mem_append.mp hitem with hitem | hcallback
  · rcases List.mem_append.mp hitem with hitem | hcomponent
    · rcases List.mem_append.mp hitem with hpath | hwebhook
      · exact hpaths.1 item hpath
      · exact hwebhooks item hwebhook
    · exact hcomponents.items item (List.mem_append_left _ hcomponent)
  · exact hcomponents.items item (List.mem_append_right _ hcallback)

end ApiDescription
