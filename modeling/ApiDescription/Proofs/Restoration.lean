import ApiDescription.Proofs.Binding.Calls
import ApiDescription.Proofs.Budget

/-!
# A binder puts back what it changes

Whatever is read, and with whatever state of a binder: the calls come to an end, and the depth and
the nodes that are being read are then what they were.  In between the depth stays below the limit,
entries of the memo keep their numbers and only go from open to bound, and the open ones are the
schemas of the calls that have not ended: `Setting.binder_restored`.

The state stands for what is handed on when a description is bound.  With as much room for schemas
as the limit leaves at the depth, and with the nodes of the state for those that enclose a node,
calls do what `Binder.Passes` says (`Binding.Calls.settles`), and nothing else does
(`Binder.Passes.eventually`).  With the state in which nothing has been done these are the usual
ways to read.
-/

namespace ApiDescription

open Binding

variable {S : Setting} {start n : Node} {depth room : Nat} {enclosing : Enclosing}

/-! ## Ways to read, with a state -/

namespace SchemaReader

variable (read : SchemaReader)

mutual

/-- The path item at a node under a key, inside of others, with room for levels below it. -/
def pathItemWithin : Nat → Enclosing → String → Node → Binding (Option PathItem)
  | 0, _, _, _ => return none
  | room + 1, enclosing, path, n =>
    n.enter enclosing fun enclosing target =>
      read.pathItem? target (fun callback => callbackWithin room enclosing callback) path n.pointer

/-- The callback at a node, inside of others, with room for levels below it. -/
def callbackWithin : Nat → Enclosing → Node → Binding (Option Callback)
  | 0, _, _ => return none
  | room + 1, enclosing, n =>
    n.enter enclosing fun enclosing target =>
      target.callback? fun path item => pathItemWithin room enclosing path item

end

end SchemaReader

/-- The ways to read at a depth and inside of nodes, with room for path items and callbacks. -/
def Readers.within (S : Setting) (depth : Nat) (enclosing : Enclosing) (room : Nat) : Readers :=
  let schema : SchemaReader := Node.schemaWithin (S.options.maxDepth - depth)
  ⟨schema, fun path n => schema.pathItemWithin room enclosing path n,
    fun n => schema.callbackWithin room enclosing n⟩

/-! ### Nodes that may be written elsewhere -/

namespace Node

variable {α : Type} {read : Enclosing → Resolved → Binding (Option α)} {target : Resolved}

theorem enter_of_lost {p : Problem} (h : n.resolved = .error p) :
    n.enter enclosing read = (do
      Binding.tell p.scope p.pointer p.finding
      return none) := by
  rw [enter, h]
  rfl

theorem enter_of_mem (ht : n.resolved = .ok target) (hmem : target.node.site ∈ enclosing) :
    n.enter enclosing read = (do
      n.tell target.holdsItself
      return none) := by
  rw [enter, ht]
  exact if_pos hmem

theorem enter_of_notMem (ht : n.resolved = .ok target) (hnew : target.node.site ∉ enclosing) :
    n.enter enclosing read = read (target.node.site :: enclosing) target := by
  rw [enter, ht]
  exact if_neg hnew

end Node

/-- With room for one more, a call goes to the end of a chain of references, and inside of the node
there is room for the others. -/
theorem Node.Enters.run {α : Type} {call : Readers → Binding (Option α)}
    {body : Resolved → Readers → Binding (Option α)} (h : n.Enters call body) :
    call (.within S depth enclosing (room + 1)) =
      n.enter enclosing fun enclosing target => body target (.within S depth enclosing room) := by
  cases h with
  | pathItem path n => simp only [Readers.within, SchemaReader.pathItemWithin]
  | callback n => simp only [Readers.within, SchemaReader.callbackWithin]

theorem Node.Enters.calls {α : Type} {call : Readers → Binding (Option α)}
    {body : Resolved → Readers → Binding (Option α)} {P : Node → Prop} (h : n.Enters call body)
    (hP : Inherited P) {target : Resolved} (ht : P target.node) : Calls P (body target) := by
  cases h with
  | pathItem path n => exact SchemaReader.calls_pathItem? hP ht path n.pointer
  | callback n => exact Resolved.calls_callback? hP ht

/-! ## Calls come to an end -/

/-- With a binder that is at a depth and inside of nodes, a step comes to its end, and to what it
comes to with some ways to read. -/
def Readers.Settles (S : Setting) (depth : Nat) (enclosing : Enclosing) (R : Readers) {α : Type}
    (F : Readers → Binding α) : Prop :=
  ∀ w : Workspace, ∃ t, Binder.Passes S F ⟨w, depth, enclosing⟩ t (F R w).1
    ⟨(F R w).2, depth, enclosing⟩

/-- All calls settle, of schemas at any nodes, and of path items and callbacks at nodes of some
kind. -/
structure Readers.Serves (S : Setting) (P : Node → Prop) (depth : Nat) (enclosing : Enclosing)
    (R : Readers) : Prop where
  /-- Schemas settle. -/
  schema (n : Node) : R.Settles S depth enclosing fun R => R.schema n
  /-- Path items settle. -/
  pathItem (path : String) {n : Node} (hn : P n) :
    R.Settles S depth enclosing fun R => R.pathItem path n
  /-- Callbacks settle. -/
  callback {n : Node} (hn : P n) : R.Settles S depth enclosing fun R => R.callback n

/-- What is put together from calls that settle does. -/
theorem Binding.Calls.settles {P : Node → Prop} {R : Readers} (hR : R.Serves S P depth enclosing)
    {α : Type} {F : Readers → Binding α} (h : Calls P F) : R.Settles S depth enclosing F := by
  induction h with
  | plain hm => exact fun w => ⟨_, .plain hm ⟨w, depth, enclosing⟩⟩
  | schema n => exact hR.schema n
  | pathItem path hn => exact hR.pathItem path hn
  | callback hn => exact hR.callback hn
  | @bind _ _ F G _ _ ihF ihG =>
    intro w
    obtain ⟨t, ht⟩ := ihF w
    obtain ⟨t', ht'⟩ := ihG (F R w).1 (F R w).2
    exact ⟨t ++ t', .bind ht ht'⟩
  | @after _ _ m G hm _ ih =>
    intro w
    obtain ⟨t, ht⟩ := ih (m w).2
    rw [← hm.gives w] at ht
    exact ⟨_, .bind (.plain hm.keepsSlots ⟨w, depth, enclosing⟩) ht⟩

/-- Schemas settle, with as much room for levels below them as the limit leaves. -/
theorem Readers.settles_schema {depth : Nat} {R : Readers}
    (hR : R.schema = Node.schemaWithin (S.options.maxDepth - depth)) (n : Node) :
    R.Settles S depth enclosing fun R => R.schema n := by
  intro w
  change ∃ t, Binder.Passes S _ _ t (R.schema n w).1 ⟨(R.schema n w).2, depth, enclosing⟩
  rw [hR]
  cases hslot : w.slot? n.site with
  | some slot =>
    rw [Node.schemaWithin_of_met hslot]
    exact ⟨_, .met hslot⟩
  | none =>
    rw [Node.schemaWithin_fst hslot]
    by_cases hdepth : S.options.maxDepth ≤ depth
    · rw [Nat.sub_eq_zero_of_le hdepth, Node.schemaWithin_zero hslot]
      exact ⟨_, .tooDeep hslot hdepth⟩
    · have hroom : S.options.maxDepth - depth = S.options.maxDepth - (depth + 1) + 1 := by omega
      rw [hroom, Node.schemaWithin_succ hslot]
      -- below a schema there are no path items and callbacks
      let below : Readers :=
        ⟨Node.schemaWithin (S.options.maxDepth - (depth + 1)), fun _ _ => return none,
          fun _ => return none⟩
      have hserves : below.Serves S (fun _ => False) (depth + 1) enclosing :=
        ⟨settles_schema rfl, fun _ _ h => h.elim, fun h => h.elim⟩
      obtain ⟨t, ht⟩ := n.inner_schemaHere.calls.settles hserves (w.opening n)
      have hpasses : Binder.Passes S (fun R => R.schema n) ⟨w, depth, enclosing⟩ _ w.graph.size _ :=
        .schema hslot (Nat.lt_of_not_le hdepth) ht
      exact ⟨_, hpasses⟩
termination_by S.options.maxDepth - depth

/-! ### Path items and callbacks -/

theorem Node.Enters.settles {α : Type} {call : Readers → Binding (Option α)}
    {body : Resolved → Readers → Binding (Option α)} {outer inner : Enclosing}
    (hcall : n.Enters call body) (hstart : start.Inside S) (hn : n.Sited S)
    (hfits : Enclosing.Fits S start room inner n) :
    (Readers.within S depth (inner ++ outer) room).Settles S depth (inner ++ outer) call := by
  induction room generalizing inner n α with
  | zero => exact absurd rfl (hfits.room_ne_zero hstart)
  | succ room ih =>
    intro w
    rw [hcall.run]
    cases ht : n.resolved with
    | error p =>
      rw [Node.enter_of_lost ht]
      exact ⟨_, .lost hcall ht⟩
    | ok target =>
      by_cases hmem : target.node.site ∈ inner ++ outer
      · rw [Node.enter_of_mem ht hmem]
        exact ⟨_, .again hcall ht hmem⟩
      · rw [Node.enter_of_notMem ht hmem]
        have hnew : target.node.site ∉ inner := fun h => hmem (List.mem_append_left _ h)
        -- what is below is read with one thing more in progress, and with room for the rest
        let P : Node → Prop := fun m =>
          m.Sited S ∧ Enclosing.Fits S start room (target.node.site :: inner) m
        have hP : Inherited P := fun h hmem => ⟨Record.Sited.child h.1 hmem, h.2.child hmem⟩
        have hserves : (Readers.within S depth (target.node.site :: inner ++ outer) room).Serves S P
            depth (target.node.site :: inner ++ outer) :=
          ⟨Readers.settles_schema rfl, fun path m hm => ih (.pathItem path m) hm.1 hm.2,
            fun {m} hm => ih (.callback m) hm.1 hm.2⟩
        have htarget : P target.node := ⟨hn.resolved ht, hfits.enter hn.toInside ht hnew⟩
        obtain ⟨t, hbody⟩ := (hcall.calls hP htarget).settles hserves w
        have hpasses : Binder.Passes S call ⟨w, depth, inner ++ outer⟩ _ _ _ :=
          .object hcall ht hmem hbody
        rw [List.cons_append, Binder.leaving_cons hmem] at hpasses
        exact ⟨_, hpasses⟩

/-- All calls at nodes of the registry settle, at every depth and inside of whatever nodes. -/
theorem Readers.serves_within (S : Setting) (depth : Nat) (enclosing : Enclosing) :
    (within S depth enclosing S.room).Serves S (Node.Sited S) depth enclosing where
  schema := settles_schema rfl
  pathItem path n hn := by
    have hcall : n.Enters _ _ := .pathItem path n
    have hfits : Enclosing.Fits S n S.room [] n := .nil S n
    exact hcall.settles hn.toInside hn hfits
  callback {n} hn := by
    have hcall : n.Enters _ _ := .callback n
    have hfits : Enclosing.Fits S n S.room [] n := .nil S n
    exact hcall.settles hn.toInside hn hfits

/-! ## Nothing else is done -/

/-- Whatever a step passes to with a state of a binder, it comes to with the ways to read that
belong to the state, if there is enough room. -/
theorem Binder.Passes.eventually {α : Type} {F : Readers → Binding α} {b b' : Binder}
    {t : List Moment} {a : α} (h : Passes S F b t a b') :
    ∃ least, ∀ room, least ≤ room →
      F (.within S b.depth b.inProgress room) b.workspace = (a, b'.workspace) := by
  induction h with
  | plain _ _ => exact ⟨0, fun _ _ => rfl⟩
  | @bind _ _ F G b b₁ b' _ _ a c hF _ ihF ihG =>
    obtain ⟨least, hleast⟩ := ihF
    obtain ⟨least', hleast'⟩ := ihG
    -- the second half starts at the depth of the first, and with what was in progress then
    refine ⟨max least least', fun room hroom => ?_⟩
    have hfirst := hleast room (Nat.le_trans (Nat.le_max_left _ _) hroom)
    have hsecond := hleast' room (Nat.le_trans (Nat.le_max_right _ _) hroom)
    rw [hF.restores.depth, hF.restores.inProgress] at hsecond
    change (fun left : _ × Workspace => G left.1 _ left.2) (F _ b.workspace) = _
    rw [hfirst]
    exact hsecond
  | met hslot => exact ⟨0, fun _ _ => Node.schemaWithin_of_met hslot _⟩
  | @tooDeep n b hslot hdepth =>
    refine ⟨0, fun _ _ => Prod.ext (Node.schemaWithin_fst hslot _) ?_⟩
    change (n.schemaWithin (S.options.maxDepth - b.depth) b.workspace).2 = _
    rw [Nat.sub_eq_zero_of_le hdepth, Node.schemaWithin_zero hslot]
    rfl
  | @schema n b b₁ _ s hslot hdepth _ ih =>
    obtain ⟨least, hleast⟩ := ih
    refine ⟨least, fun room hroom => Prod.ext (Node.schemaWithin_fst hslot _) ?_⟩
    have hbody : n.schemaHere (Node.schemaWithin (S.options.maxDepth - (b.depth + 1)))
        (b.workspace.opening n) = (s, b₁.workspace) := hleast room hroom
    -- the schema takes one of the levels that are left
    have hlevels : S.options.maxDepth - b.depth = S.options.maxDepth - (b.depth + 1) + 1 := by
      omega
    change (n.schemaWithin (S.options.maxDepth - b.depth) b.workspace).2 = _
    rw [hlevels, Node.schemaWithin_succ hslot, hbody]
    rfl
  | lost hcall hlost =>
    refine ⟨1, fun room hroom => ?_⟩
    obtain ⟨room, rfl⟩ := Nat.exists_eq_add_of_le' hroom
    rw [hcall.run, Node.enter_of_lost hlost]
    rfl
  | again hcall htarget hmem =>
    refine ⟨1, fun room hroom => ?_⟩
    obtain ⟨room, rfl⟩ := Nat.exists_eq_add_of_le' hroom
    rw [hcall.run, Node.enter_of_mem htarget hmem]
    rfl
  | object hcall htarget hnew _ ih =>
    obtain ⟨least, hleast⟩ := ih
    refine ⟨least + 1, fun room hroom => ?_⟩
    obtain ⟨room, rfl⟩ := Nat.exists_eq_succ_of_ne_zero (by omega : room ≠ 0)
    rw [hcall.run, Node.enter_of_notMem htarget hnew]
    exact hleast room (by omega)

/-! ## The usual ways to read -/

namespace SchemaReader

variable {read : SchemaReader} (hread : read.Agrees S)
include hread

/-- Path items and callbacks are read in the usual way, if schemas are. -/
theorem within_eq (room : Nat) :
    (∀ (enclosing : Enclosing) (path : String) (n : Node), n.Sited S →
      read.pathItemWithin room enclosing path n = n.pathItemWithin room enclosing path) ∧
    ∀ (enclosing : Enclosing) (n : Node), n.Sited S →
      read.callbackWithin room enclosing n = n.callbackWithin room enclosing := by
  induction room with
  | zero =>
    constructor
    · intro enclosing path n _
      rw [pathItemWithin, Node.pathItemWithin]
    · intro enclosing n _
      rw [callbackWithin, Node.callbackWithin]
  | succ room ih =>
    obtain ⟨hpathItem, hcallback⟩ := ih
    constructor
    · intro enclosing path n hn
      rw [pathItemWithin, Node.pathItemWithin]
      exact n.enter_congr fun target ht _ => pathItem?_eq hread Record.Sited.inherited id
        (fun m hm => hcallback _ m hm) (hn.resolved ht) path n.pointer
    · intro enclosing n hn
      rw [callbackWithin, Node.callbackWithin]
      exact n.enter_congr fun target ht _ => Resolved.callback?_congr Record.Sited.inherited
        (fun path m hm => hpathItem _ path m hm) (hn.resolved ht)

end SchemaReader

/-- Where nothing has been begun, these are the usual ways to read. -/
theorem Readers.agree_within (S : Setting) : (within S 0 [] S.room).Agree S := by
  have hschema : (within S 0 [] S.room).schema.Agrees S := by
    intro n hn
    rw [Node.schema, hn.scope.setting]
    rfl
  refine ⟨hschema, fun {n} hn path => ?_, fun {n} hn => ?_⟩
  · rw [Node.pathItem?, hn.scope.setting]
    exact (SchemaReader.within_eq hschema S.room).1 [] path n hn
  · rw [Node.callback?, hn.scope.setting]
    exact (SchemaReader.within_eq hschema S.room).2 [] n hn

/-! ## All that a binder reads -/

/-- What a binder reads at a node or of an object. -/
inductive Binder.Reading (S : Setting) : {α : Type} → (Readers → Binding α) → Prop
  /-- The schema at a node. -/
  | schema (n : Node) : Reading S fun R => R.schema n
  /-- What is said of a schema at a node. -/
  | schemaHere (n : Node) : Reading S fun R => n.schemaHere R.schema
  /-- The shape of the schema of an object. -/
  | objectShape (r : Record) : Reading S fun R => r.objectShape R.schema
  /-- The shape of the schema of an array. -/
  | arrayShape (r : Record) : Reading S fun R => r.arrayShape R.schema
  /-- The shape of the schema of a scalar. -/
  | scalarShape (r : Record) (type : ScalarType) : Reading S fun _ => r.scalarShape type
  /-- A path item. -/
  | pathItem (path : String) {n : Node} (hn : n.Sited S) : Reading S fun R => R.pathItem path n
  /-- An operation of a path item. -/
  | operation {n : Node} (hn : n.Sited S) (method : Method) (path : String) :
    Reading S fun R => R.schema.operation? n R.callback method path
  /-- The callbacks of an operation. -/
  | callbacks {r : Record} (hr : r.Sited S) : Reading S fun R => r.callbacks R.callback
  /-- A callback. -/
  | callback {n : Node} (hn : n.Sited S) : Reading S fun R => R.callback n
  /-- The parameters of a path item or operation. -/
  | parameters (r : Record) : Reading S fun R => R.schema.parameters r
  /-- A parameter. -/
  | parameter (n : Node) : Reading S fun R => R.schema.parameter? n
  /-- A request body. -/
  | requestBody (n : Node) : Reading S fun R => R.schema.requestBody? n
  /-- The responses of an operation. -/
  | responses (n : Node) : Reading S fun R => R.schema.responses n
  /-- A response. -/
  | response (n : Node) : Reading S fun R => R.schema.response? n
  /-- A header. -/
  | header (n : Node) : Reading S fun R => R.schema.header? n
  /-- The contents of a parameter, request body, response or header. -/
  | content (r : Record) : Reading S fun R => R.schema.content r
  /-- An example. -/
  | example_ (n : Node) : Reading S fun _ => n.example?
  /-- A link. -/
  | link (n : Node) : Reading S fun _ => n.link?
  /-- The reusable parts. -/
  | components {n : Node} (hn : n.Sited S) : Reading S fun R => R.components n
  /-- The reusable parts of one kind. -/
  | parts {α : Type} {r : Record} (hr : r.Sited S) (key : String)
      {step : Readers → Node → Binding (Option α)}
      (hstep : ∀ n : Node, n.Sited S → Reading S fun R => step R n) :
    Reading S fun R => r.readAll key (step R)
  /-- A security scheme. -/
  | securityScheme (n : Node) : Reading S fun _ => n.securityScheme?
  /-- The ways to get a token. -/
  | oauthFlows (n : Node) : Reading S fun _ => n.oauthFlows
  /-- A way to get a token. -/
  | oauthFlow (r : Record) (key : String) (needsAuthorization needsToken : Bool) :
    Reading S fun _ => r.flow? key needsAuthorization needsToken
  /-- The whole description. -/
  | description {r : Record} (hr : r.Sited S) (declared : String) :
    Reading S fun R => R.description r declared
  /-- The path items under the paths or the webhooks. -/
  | pathItems {n : Node} (hn : n.Sited S) : Reading S fun R => R.pathItems n
  /-- What the description is about. -/
  | info (r : Record) : Reading S fun _ => r.info
  /-- The servers of an object. -/
  | servers (r : Record) : Reading S fun _ => r.servers
  /-- The security requirements. -/
  | security (n : Node) : Reading S fun _ => n.security
  /-- The tags. -/
  | tags (r : Record) : Reading S fun _ => r.tags
  /-- What more there is to read about an object. -/
  | externalDocs (r : Record) : Reading S fun _ => r.externalDocs?

/-- All that a binder reads is put together from calls. -/
theorem Binder.Reading.calls {α : Type} {F : Readers → Binding α} (h : Reading S F) :
    Calls (Node.Sited S) F := by
  have hP : Inherited (Node.Sited S) := Record.Sited.inherited
  induction h with
  | schema n => exact .schema n
  | schemaHere n => exact n.inner_schemaHere.calls
  | objectShape r => exact r.inner_objectShape.calls
  | arrayShape r => exact r.inner_arrayShape.calls
  | scalarShape r type => exact .tells (r.onlyTells_scalarShape type)
  | pathItem path hn => exact .pathItem path hn
  | operation hn method path => exact SchemaReader.calls_operation? hP hn method path
  | callbacks hr => exact Record.calls_callbacks hP hr
  | callback hn => exact .callback hn
  | parameters r => exact SchemaReader.calls_parameters r
  | parameter n => exact SchemaReader.calls_parameter? n
  | requestBody n => exact SchemaReader.calls_requestBody? n
  | responses n => exact SchemaReader.calls_responses n
  | response n => exact SchemaReader.calls_response? n
  | header n => exact SchemaReader.calls_header? n
  | content r => exact SchemaReader.calls_content r
  | example_ n => exact .tells n.onlyTells_example?
  | link n => exact .tells n.onlyTells_link?
  | components hn => exact Readers.calls_components hP hn
  | parts hr key _ ih =>
    exact Record.calls_readAll _ key fun field hfield =>
      ih field.2 (Inherited.fieldsOf hP hr hfield)
  | securityScheme n => exact .tells n.onlyTells_securityScheme?
  | oauthFlows n => exact .tells n.onlyTells_oauthFlows
  | oauthFlow r key needsAuthorization needsToken =>
    exact .tells (r.onlyTells_flow? key needsAuthorization needsToken)
  | description hr declared => exact Readers.calls_description hP hr declared
  | pathItems hn => exact Readers.calls_pathItems hP hn
  | info r => exact .tells r.onlyTells_info
  | servers r => exact .tells r.onlyTells_servers
  | security n => exact .tells n.onlyTells_security
  | tags r => exact .tells r.onlyTells_tags
  | externalDocs r => exact .tells r.onlyTells_externalDocs?

/-- Whatever a binder reads, with whatever state: it passes to what the ways to read come to that
belong to the state, and the depth and the nodes are the same again.  However a step is passed, it
restores the state in the sense of `Binder.Restores`, and comes to nothing else.

Where nothing has been begun, these are the usual ways to read.  So a run is passed from the state
in which nothing has been done.  At every moment the depth is within the limit, and the open entries
of the memo are the schemas that are being read; at the end there are none. -/
theorem Setting.binder_restored (S : Setting) :
    (∀ {α : Type} {F : Readers → Binding α}, Binder.Reading S F → ∀ b : Binder,
      let read := F (.within S b.depth b.inProgress S.room) b.workspace
      ∃ t, Binder.Passes S F b t read.1 { b with workspace := read.2 }) ∧
    (∀ {α : Type} {F : Readers → Binding α} {b b' : Binder} {t : List Moment} {a : α},
      Binder.Passes S F b t a b' →
        Binder.Restores S b t b' ∧ ∃ least, ∀ room, least ≤ room →
          F (.within S b.depth b.inProgress room) b.workspace = (a, b'.workspace)) ∧
    (Readers.within S 0 [] S.room).Agree S ∧
    ∀ entry declared d w, S.registry.place? entry = some S.entry →
      S.registry.run entry S.options S.version declared = .ok (d, w) →
      ∃ root t, S.root? = some root ∧
        Binder.Passes S (fun R => R.description root declared) .fresh t d ⟨w, 0, []⟩ ∧
        (∀ m ∈ t, m.binder.depth ≤ S.options.maxDepth ∧ ∀ site id,
          m.binder.workspace.slot? site = some (.opened id) ↔ (site, id) ∈ m.schemas) ∧
        ∀ site id, w.slot? site ≠ some (.opened id) := by
  have hsettles : ∀ {α : Type} {F : Readers → Binding α}, Binder.Reading S F → ∀ b : Binder,
      let read := F (.within S b.depth b.inProgress S.room) b.workspace
      ∃ t, Binder.Passes S F b t read.1 { b with workspace := read.2 } :=
    fun hF b => hF.calls.settles (Readers.serves_within S b.depth b.inProgress) b.workspace
  have hagree : (Readers.within S 0 [] S.room).Agree S := Readers.agree_within S
  refine ⟨hsettles, fun h => ⟨h.restores, h.eventually⟩, hagree, ?_⟩
  intro entry declared d w hplace hrun
  obtain ⟨place, source, hplace', hsource, hrun⟩ := Registry.exists_source_of_run hrun
  obtain rfl : S.entry = place := Option.some.inj (hplace.symm.trans hplace')
  obtain ⟨root, hroot, hrun⟩ := RegisteredDocument.exists_root_of_run hsource hrun
  have hsited : root.Sited S := Setting.sited_root hroot
  obtain ⟨t, ht⟩ := hsettles (.description hsited declared) .fresh
  have hresult : (Readers.within S 0 [] S.room).description root declared .fresh = (d, w) := by
    rw [Readers.description_eq hagree hsited, hrun]
  have hpasses : Binder.Passes S (fun R => R.description root declared) .fresh t d ⟨w, 0, []⟩ := by
    simpa only [Binder.fresh, hresult] using ht
  have hrestores := hpasses.restores
  -- nothing is open at the start, and so only what is being read is at any moment
  have hfresh : ∀ site id, Workspace.fresh.slot? site ≠ some (.opened id) := by
    simp [Workspace.slot?, Workspace.fresh]
  refine ⟨root, t, hroot, hpasses, fun m hm => ⟨?_, fun site id => ?_⟩, fun site id => ?_⟩
  · simpa [Binder.fresh] using (hrestores.within m hm).limit
  · rw [(hrestores.within m hm).opened]
    exact or_iff_left (hfresh site id)
  · exact fun hopened => hfresh site id ((hrestores.opened site id).mp hopened)

/-- The description `comingBack` is read from the beginning, and once more inside of something else:
both times the depth and the nodes are put back. -/
theorem Setting.binder_restored_comingBack :
    let S : Setting := ⟨.single comingBack, 0, .standard, .v31⟩
    ∃ d w root t t' d' b',
      S.registry.run "http://example.invalid/" S.options S.version "3.1.0" = .ok (d, w) ∧
      w.slots ≠ [] ∧ S.root? = some root ∧
      Binder.Passes S (fun R => R.description root "3.1.0") .fresh t d ⟨w, 0, []⟩ ∧
      (∀ m ∈ t, m.binder.depth ≤ S.options.maxDepth) ∧
      Binder.Passes S (fun R => R.description root "3.1.0") ⟨.fresh, 7, [root.node.site]⟩ t' d' b' ∧
      b'.depth = 7 ∧ b'.inProgress = [root.node.site] := by
  intro S
  have hplace : S.registry.place? "http://example.invalid/" = some S.entry := by decide +kernel
  have hleft : (S.registry.run "http://example.invalid/" S.options S.version
      "3.1.0").toOption.map (fun left => left.2.slots.isEmpty) = some false := by decide +kernel
  cases hrun : S.registry.run "http://example.invalid/" S.options S.version "3.1.0" with
  | error fault => simp [hrun, Except.toOption] at hleft
  | ok left =>
    rw [hrun] at hleft
    have hslots : left.2.slots ≠ [] := by simpa [Except.toOption] using hleft
    obtain ⟨hreading, hpassed, -, hruns⟩ := binder_restored S
    obtain ⟨root, t, hroot, hpasses, hmoments, -⟩ := hruns _ _ _ _ hplace hrun
    obtain ⟨t', hagain⟩ := hreading (.description (sited_root hroot) "3.1.0")
      ⟨.fresh, 7, [root.node.site]⟩
    have hrestores := (hpassed hagain).1
    exact ⟨left.1, left.2, root, t, t', _, _, rfl, hslots, hroot, hpasses,
      fun m hm => (hmoments m hm).1, hagain, hrestores.depth, hrestores.inProgress⟩

end ApiDescription
