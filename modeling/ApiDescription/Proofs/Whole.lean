import ApiDescription.Proofs.Binding.Quiet

/-!
# Whole descriptions

A description is whole if nothing is missing in it that stands in the entry document, or in what
the references in it lead to: no path, webhook or component, no operation, parameter, response or
callback, and no path item of a callback, however deep it stands in others.

A description is whole if its report is empty: `Registry.whole_of_bind`.  So whatever is left out
is reported.
-/

namespace ApiDescription

open Binding

/-! ## What there is -/

namespace Record

/-- The object in a field; an object without members if there is no such field. -/
def section? (r : Record) (key : String) : Option Record :=
  match r.field? key with
  | none => some ⟨r.scope, r.pointer.push key, []⟩
  | some n => n.object?

/-- The keys of the object in a field, in order; none if there is no such field. -/
def keysOf? (r : Record) (key : String) : Option (List String) :=
  (r.section? key).map fun inner => inner.fields.map (·.1)

/-- The keys of the object in a field that are no extensions. -/
def plainKeysOf? (r : Record) (key : String) : Option (List String) :=
  (r.section? key).map fun inner => inner.plainFields.map (·.1)

/-- The number of items of the array in a field; zero if there is no such field. -/
def lengthOf? (r : Record) (key : String) : Option Nat :=
  match r.field? key with
  | none => some 0
  | some n => n.value.items?.map List.length

/-- The nodes of the operations of a path item, by method. -/
def operationNodes (r : Record) : List (Method × Node) :=
  Method.all.filterMap fun method => (r.field? method.name).map (method, ·)

end Record

/-- What stands under keys has been read, each to something that is related to it, and that stands
under the same key.  Nothing has been added or left out, and the order is the same. -/
inductive Reads {κ α : Type} (R : Node → α → Prop) : List (κ × Node) → List (κ × α) → Prop
  | nil : Reads R [] []
  | cons {key : κ} {n : Node} {a : α} {fields : List (κ × Node)} {entries : List (κ × α)}
      (h : R n a) (hrest : Reads R fields entries) :
      Reads R ((key, n) :: fields) ((key, a) :: entries)

theorem Reads.keys {κ α : Type} {R : Node → α → Prop} {fields : List (κ × Node)}
    {entries : List (κ × α)} (h : Reads R fields entries) :
    entries.map (·.1) = fields.map (·.1) := by
  induction h with
  | nil => rfl
  | cons _ _ ih => rw [List.map_cons, List.map_cons, ih]

mutual

/-- A path item has all operations and parameters of the object that a node stands for, and its
operations are whole. -/
inductive PathItem.Whole : Node → PathItem → Prop
  | intro {n : Node} {target : Resolved} {r : Record} {item : PathItem}
      (hresolved : n.resolved = .ok target) (hr : target.node.object? = some r)
      (hparameters : r.lengthOf? "parameters" = some item.parameters.length)
      (hoperations : Reads Operation.Whole r.operationNodes item.operations) : PathItem.Whole n item

/-- An operation has all parameters, responses and callbacks of the object that a node is, and its
callbacks are whole. -/
inductive Operation.Whole : Node → Operation → Prop
  | intro {n : Node} {r callbacks : Record} {o : Operation} (hr : n.object? = some r)
      (hparameters : r.lengthOf? "parameters" = some o.parameters.length)
      (hanswers : o.responses.isSome = r.has "responses")
      (hresponses : r.plainKeysOf? "responses" = some ((o.responses.getD []).map (·.1)))
      (hsection : r.section? "callbacks" = some callbacks)
      (hcallbacks : Reads Callback.Whole callbacks.fields o.callbacks) : Operation.Whole n o

/-- A callback has all expressions of the object that a node stands for, and its path items are
whole. -/
inductive Callback.Whole : Node → Callback → Prop
  | intro {n : Node} {target : Resolved} {r : Record} {c : Callback}
      (hresolved : n.resolved = .ok target) (hr : target.node.object? = some r)
      (hexpressions : Reads PathItem.Whole r.plainFields c.expressions) : Callback.Whole n c

end

/-- The reusable parts are all those of an object, and the path items among them are whole. -/
structure Components.Whole (r : Record) (c : Components) : Prop where
  schemas : r.keysOf? "schemas" = some (c.schemas.map (·.1))
  responses : r.keysOf? "responses" = some (c.responses.map (·.1))
  parameters : r.keysOf? "parameters" = some (c.parameters.map (·.1))
  examples : r.keysOf? "examples" = some (c.examples.map (·.1))
  requestBodies : r.keysOf? "requestBodies" = some (c.requestBodies.map (·.1))
  headers : r.keysOf? "headers" = some (c.headers.map (·.1))
  securitySchemes : r.keysOf? "securitySchemes" = some (c.securitySchemes.map (·.1))
  links : r.keysOf? "links" = some (c.links.map (·.1))
  callbacks : ∃ inner, r.section? "callbacks" = some inner ∧
    Reads Callback.Whole inner.fields c.callbacks
  pathItems : ∃ inner, r.section? "pathItems" = some inner ∧
    Reads PathItem.Whole inner.fields c.pathItems

/-- A description has all paths, webhooks and components of an object, and all of them are whole. -/
structure Description.Whole (root : Record) (d : Description) : Prop where
  paths : ∃ inner, root.section? "paths" = some inner ∧
    Reads PathItem.Whole inner.plainFields d.paths
  webhooks : ∃ inner, root.section? "webhooks" = some inner ∧
    Reads PathItem.Whole inner.plainFields d.webhooks
  components : ∃ inner, root.section? "components" = some inner ∧ d.components.Whole inner

/-! ## Sections -/

variable {S : Setting} {n : Node} {r : Record} {α : Type} {R : Node → α → Prop}

theorem Binding.Quietly.readFields {fields : List (String × Node)}
    {step : String → Node → Binding (Option α)}
    (h : ∀ field ∈ fields, (step field.1 field.2).Quietly fun a? => ∃ a ∈ a?, R field.2 a) :
    (Record.readFields fields step).Quietly (Reads R fields) := by
  refine .collect (R := fun field pair? => ∃ a, pair? = some (field.1, a) ∧ R field.2 a) .nil
    ?_ ?_
  · rintro ⟨key, n⟩ rest pair? entries ⟨a, rfl, ha⟩ hrest
    exact .cons ha hrest
  · intro field hfield
    refine (h field hfield).bind fun a? => .pure ?_
    rintro ⟨a, rfl, ha⟩
    exact ⟨a, rfl, ha⟩

/-- What stands under some keys is read, if it is there. -/
theorem Binding.Quietly.collect_reads {κ : Type} {keys : List κ} {node? : κ → Option Node}
    {step : κ → Binding (Option (κ × α))}
    (h : ∀ key ∈ keys, (step key).Quietly fun pair? =>
      Option.Rel (fun n entry => entry.1 = key ∧ R n entry.2) (node? key) pair?) :
    (Binding.collect step keys).Quietly
      (Reads R (keys.filterMap fun key => (node? key).map (key, ·))) := by
  refine Quietly.collect
    (R := fun (key : κ) (pair? : Option (κ × α)) =>
      Option.Rel (fun n entry => entry.1 = key ∧ R n entry.2) (node? key) pair?)
    (T := fun (keys : List κ) (entries : List (κ × α)) =>
      Reads R (keys.filterMap fun key => (node? key).map (key, ·)) entries) .nil ?_ h
  intro key rest pair? entries hentry hrest
  cases hn : node? key with
  | none =>
    rw [hn] at hentry
    cases hentry
    simpa [hn] using hrest
  | some n =>
    rw [hn] at hentry
    cases hentry with
    | some h =>
      obtain ⟨rfl, ha⟩ := h
      simpa [hn] using hrest.cons ha

/-- If every element of a list gives a result, then there are as many of them. -/
theorem Binding.Quietly.collect_length {β : Type} {step : β → Binding (Option α)} {l : List β}
    (h : ∀ b ∈ l, (step b).Quietly (·.isSome)) :
    (Binding.collect step l).Quietly fun results => results.length = l.length := by
  refine Quietly.collect (R := fun _ a? => a?.isSome)
    (T := fun (l : List β) (results : List α) => results.length = l.length) rfl ?_ h
  intro b rest a? results ha hrest
  obtain ⟨a, rfl⟩ := Option.isSome_iff_exists.mp ha
  simp [hrest]

/-- A result is all that needs to be known of it. -/
theorem Binding.Quietly.exists {m : Binding (Option α)} (h : m.Quietly (·.isSome)) :
    m.Quietly fun a? => ∃ a ∈ a?, True :=
  h.imp fun _ ha => (Option.isSome_iff_exists.mp ha).imp fun _ ha => ⟨ha, trivial⟩

/-- All fields of an object are read, or all that are no extensions. -/
theorem Node.quietly_fields (n : Node) (what : String) (pick : Record → List (String × Node))
    {step : String → Node → Binding (Option α)}
    (h : ∀ inner, n.object? = some inner → ∀ field ∈ pick inner,
      (step field.1 field.2).Quietly fun a? => ∃ a ∈ a?, R field.2 a) :
    (n.record? what >>= fun
      | none => return []
      | some inner => Record.readFields (pick inner) step).Quietly fun entries =>
        ∃ inner, n.object? = some inner ∧ Reads R (pick inner) entries :=
  n.quietly_record?_bind what (.pure trivial) fun inner hinner =>
    (Quietly.readFields (h inner hinner)).imp fun _ hentries => ⟨inner, hinner, hentries⟩

namespace Record

theorem section?_of_eq_some {key : String} (h : r.field? key = some n) :
    r.section? key = n.object? := by
  rw [section?, h]

theorem section?_of_eq_none {key : String} (h : r.field? key = none) :
    r.section? key = some ⟨r.scope, r.pointer.push key, []⟩ := by
  rw [section?, h]

/-- All fields of the object in a field are read. -/
theorem quietly_fields (hr : r.node.Inside S) (key : String)
    {step : String → Node → Binding (Option α)}
    (h : ∀ name {n : Node}, n.Inside S → (step name n).Quietly fun a? => ∃ a ∈ a?, R n a) :
    (r.record? key >>= fun
      | none => return []
      | some inner => Record.readFields inner.fields step).Quietly fun entries =>
        ∃ inner, r.section? key = some inner ∧ Reads R inner.fields entries := by
  unfold record?
  cases hn : r.field? key with
  | none =>
    rw [section?_of_eq_none hn]
    exact .pure ⟨_, rfl, .nil⟩
  | some n =>
    have hinside : n.Inside S := Node.Inside.inherited.field hr hn
    rw [section?_of_eq_some hn]
    exact n.quietly_fields _ Record.fields fun inner hinner field hfield =>
      h field.1 (Node.Inside.inherited.fields (hinside.object hinner) hfield)

theorem keysOf?_of_reads {key : String} {inner : Record} {entries : List (String × α)}
    (h : r.section? key = some inner) (hentries : Reads R inner.fields entries) :
    r.keysOf? key = some (entries.map (·.1)) := by
  rw [keysOf?, h, Option.map_some, hentries.keys]

/-- All parts of a kind are read. -/
theorem quietly_readAll (hr : r.node.Inside S) (key : String) {step : Node → Binding (Option α)}
    (h : ∀ {n : Node}, n.Inside S → (step n).Quietly (·.isSome)) :
    (r.readAll key step).Quietly fun entries => r.keysOf? key = some (entries.map (·.1)) :=
  (quietly_fields (R := fun _ _ => True) hr key fun _ _ hn => (h hn).exists).imp
    fun _ ⟨_, hinner, hentries⟩ => keysOf?_of_reads hinner hentries

/-- All parameters are read. -/
theorem quietly_parameters (hr : r.node.Inside S) :
    r.parameters.Quietly fun ps => r.lengthOf? "parameters" = some ps.length := by
  unfold parameters SchemaReader.parameters lengthOf?
  cases hn : r.field? "parameters" with
  | none => exact .pure rfl
  | some n =>
    have hn : n.Inside S := Node.Inside.inherited.field hr hn
    refine .tells_bind (n.onlyTells_items _) (n.quietly_items _) ?_
    rw [Node.result_items]
    have hcollect := Quietly.collect_length (l := n.itemNodes) fun item hitem =>
      Node.quietly_parameter? (hn.item hitem)
    refine hcollect.imp fun ps hps hitems => ?_
    obtain ⟨items, hvalue⟩ := Option.isSome_iff_exists.mp hitems
    simp only [hps, Node.length_itemNodes, hvalue, Option.map_some, Option.getD_some]

/-- All responses are read. -/
theorem quietly_responses? (hr : r.node.Inside S) :
    r.responses?.Quietly fun rs? => rs?.isSome = r.has "responses" ∧
      r.plainKeysOf? "responses" = some ((rs?.getD []).map (·.1)) := by
  have hhas : r.has "responses" = (r.field? "responses").isSome := by
    rw [has, Entries.contains, field?, Option.isSome_map]
  unfold responses? SchemaReader.responses?
  rw [hhas]
  cases hn : r.field? "responses" with
  | none =>
    have hkeys : r.plainKeysOf? "responses" = some [] := by
      rw [plainKeysOf?, section?_of_eq_none hn]
      rfl
    exact .ite (fun _ => (quietly_tell _ _ _).bind fun _ => .pure False.elim)
      fun _ => .pure ⟨rfl, hkeys⟩
  | some n =>
    have hn' : n.Inside S := Node.Inside.inherited.field hr hn
    have hresponses : n.responses.Quietly fun rs =>
        r.plainKeysOf? "responses" = some (rs.map (·.1)) := by
      refine (n.quietly_fields (R := fun _ _ => True) _ plainFields
        fun inner hinner field hfield => ?_).imp fun rs hread => ?_
      · have hfield := Node.Inside.inherited.plainFields (hn'.object hinner) hfield
        exact (Node.quietly_response? hfield).exists
      · obtain ⟨inner, hinner, hrs⟩ := hread
        rw [plainKeysOf?, section?_of_eq_some hn, hinner, Option.map_some, hrs.keys]
    exact hresponses.bind fun rs => .pure fun hkeys => ⟨rfl, hkeys⟩

end Record

/-! ## Path items, operations and callbacks -/

section Operations

/-! Callbacks are read in a way that gives whole ones at nodes of some kind, and the members of a
node of that kind are of it, too. -/

variable {P : Node → Prop} (hP : Inherited P) {read : CallbackReader}
  (hread : ∀ m, P m → (read m).Quietly fun c? => ∃ c ∈ c?, Callback.Whole m c)
include hP hread

theorem Record.quietly_callbacks (hr : P r.node) :
    (r.callbacks read).Quietly fun cs => ∃ inner, r.section? "callbacks" = some inner ∧
      Reads Callback.Whole inner.fields cs := by
  unfold callbacks
  cases hn : r.field? "callbacks" with
  | none =>
    rw [section?_of_eq_none hn]
    exact .pure ⟨_, rfl, .nil⟩
  | some n =>
    rw [section?_of_eq_some hn]
    refine n.quietly_fields _ Record.fields fun inner hinner field hfield => hread _ ?_
    exact hP.fields (Node.node_of_object? hinner ▸ hP.field hr hn) hfield

variable (hinside : ∀ {m : Node}, P m → m.Inside S)
include hinside

theorem Node.quietly_operation? (hn : P n) (method : Method) (path : String) :
    (n.operation? read method path).Quietly fun o? => ∃ o ∈ o?, Operation.Whole n o := by
  refine n.quietly_record?_bind _ (.pure trivial) fun r hr => ?_
  have hr' : P r.node := node_of_object? hr ▸ hn
  refine (Record.quietly_responses? (hinside hr')).bind fun responses => ?_
  have hbody : r.requestBody?.Quietly fun _ => True :=
    .of_same (S := S) fun before => Rerun.same_bodyOf? (t := .quiet S before) (hinside hr').scope
  refine hbody.seq fun body => ?_
  refine .after r.onlyTells_security? fun _ => .after (r.onlyTells_text? _) fun _ => ?_
  refine .after (r.onlyTells_text? _) fun _ => .after (r.onlyTells_text? _) fun _ => ?_
  refine .after (r.onlyTells_texts _) fun _ => ?_
  refine (Record.quietly_parameters (hinside hr')).bind fun parameters => ?_
  refine (Record.quietly_callbacks hP hread hr').bind fun callbacks => ?_
  refine .after (r.onlyTells_flag _) fun _ => .after r.onlyTells_servers fun _ => .pure ?_
  rintro ⟨inner, hsection, hcallbacks⟩ hparameters ⟨hanswers, hresponses⟩
  exact ⟨_, rfl, .intro hr hparameters hanswers hresponses hsection hcallbacks⟩

theorem Record.quietly_operationOf? (hr : P r.node) (path : String) (method : Method) :
    (r.operationOf? read path method).Quietly fun pair? =>
      Option.Rel (fun n entry => entry.1 = method ∧ Operation.Whole n entry.2)
        (r.field? method.name) pair? := by
  unfold operationOf? SchemaReader.operationOf?
  cases hn : r.field? method.name with
  | none => exact .pure .none
  | some n =>
    refine (Node.quietly_operation? hP hread hinside (hP.field hr hn) method path).bind
      fun o? => .pure ?_
    rintro ⟨o, rfl, ho⟩
    exact .some ⟨rfl, ho⟩

theorem Record.quietly_operations (hr : P r.node) (path : String) :
    (Binding.collect (r.operationOf? read path) Method.all).Quietly
      (Reads Operation.Whole r.operationNodes) := by
  exact .collect_reads fun method _ => quietly_operationOf? hP hread hinside hr path method

theorem Resolved.quietly_pathItem? {target : Resolved} (hresolved : n.resolved = .ok target)
    (ht : P target.node) (path : String) (location : Pointer) :
    (target.pathItem? read path location).Quietly fun item? =>
      ∃ item ∈ item?, PathItem.Whole n item := by
  refine target.node.quietly_record?_bind _ (.pure trivial) fun r hr => ?_
  have hr' : P r.node := Node.node_of_object? hr ▸ ht
  refine .after (r.onlyTells_text? _) fun _ => .after (r.onlyTells_text? _) fun _ => ?_
  refine .after r.onlyTells_servers fun _ => ?_
  refine (Record.quietly_parameters (hinside hr')).bind fun parameters => ?_
  refine (Record.quietly_operations hP hread hinside hr' path).bind fun operations => .pure ?_
  exact fun hoperations hparameters => ⟨_, rfl, .intro hresolved hr hparameters hoperations⟩

end Operations

theorem Resolved.quietly_callback? {P : Node → Prop} (hP : Inherited P) {read : PathItemReader}
    (hread : ∀ path m, P m →
      (read path m).Quietly fun item? => ∃ item ∈ item?, PathItem.Whole m item)
    {target : Resolved} (hresolved : n.resolved = .ok target) (ht : P target.node) :
    (target.callback? read).Quietly fun c? => ∃ c ∈ c?, Callback.Whole n c := by
  refine target.node.quietly_record?_bind _ (.pure trivial) fun r hr => ?_
  have hr' : P r.node := Node.node_of_object? hr ▸ ht
  refine (Quietly.readFields fun field hfield => hread _ _ (hP.plainFields hr' hfield)).bind
    fun expressions => .pure fun hexpressions => ?_
  exact ⟨_, rfl, .intro hresolved hr hexpressions⟩

/-- What is done with the node that a node stands for, unless it is being read already. -/
theorem Node.quietly_enter (n : Node) (enclosing : Enclosing)
    {read : Enclosing → Resolved → Binding (Option α)} {Q : α → Prop}
    (h : ∀ target, n.resolved = .ok target → target.node.site ∉ enclosing →
      (read (target.node.site :: enclosing) target).Quietly fun a? => ∃ a ∈ a?, Q a) :
    (n.enter enclosing read).Quietly fun a? => ∃ a ∈ a?, Q a := by
  unfold enter
  cases ht : n.resolved with
  | error p => exact (quietly_tell _ _ _).bind fun _ => .pure nofun
  | ok target =>
    refine Quietly.ite (fun _ => ?_) (h target ht)
    exact (quietly_tell _ _ _).bind fun _ => .pure nofun

/-- Path items and callbacks are whole, however deep they stand in each other. -/
theorem quietly_within {start : Node} (hstart : start.Inside S) (room : Nat) :
    (∀ {enclosing : Enclosing} {n : Node} (path : String), n.Inside S →
      Enclosing.Fits S start room enclosing n →
      (n.pathItemWithin room enclosing path).Quietly fun item? =>
        ∃ item ∈ item?, PathItem.Whole n item) ∧
      ∀ {enclosing : Enclosing} {n : Node}, n.Inside S →
        Enclosing.Fits S start room enclosing n →
        (n.callbackWithin room enclosing).Quietly fun c? => ∃ c ∈ c?, Callback.Whole n c := by
  have hinherited : ∀ room enclosing, Inherited fun n =>
      n.Inside S ∧ Enclosing.Fits S start room enclosing n :=
    fun _ _ _ _ h hmem => ⟨h.1.child hmem, h.2.child hmem⟩
  induction room with
  | zero =>
    exact ⟨fun _ _ h => absurd rfl (h.room_ne_zero hstart),
      fun _ h => absurd rfl (h.room_ne_zero hstart)⟩
  | succ room ih =>
    obtain ⟨hpathItem, hcallback⟩ := ih
    constructor
    · intro enclosing n path hn h
      unfold Node.pathItemWithin
      refine n.quietly_enter enclosing fun target ht hnew => ?_
      exact Resolved.quietly_pathItem? (hinherited room _) (fun m hm => hcallback hm.1 hm.2)
        And.left ht ⟨hn.resolved ht, h.enter hn ht hnew⟩ path n.pointer
    · intro enclosing n hn h
      unfold Node.callbackWithin
      refine n.quietly_enter enclosing fun target ht hnew => ?_
      exact Resolved.quietly_callback?
        (P := fun n => n.Inside S ∧ Enclosing.Fits S start room (target.node.site :: enclosing) n)
        (hinherited room _) (fun path m hm => hpathItem path hm.1 hm.2) ht
        ⟨hn.resolved ht, h.enter hn ht hnew⟩

namespace Node

theorem quietly_pathItem? (hn : n.Inside S) (path : String) :
    (n.pathItem? path).Quietly fun item? => ∃ item ∈ item?, PathItem.Whole n item := by
  unfold pathItem?
  rw [hn.scope.setting]
  exact (quietly_within hn _).1 path hn (.nil S n)

theorem quietly_callback? (hn : n.Inside S) :
    n.callback?.Quietly fun c? => ∃ c ∈ c?, Callback.Whole n c := by
  unfold callback?
  rw [hn.scope.setting]
  exact (quietly_within hn _).2 hn (.nil S n)

end Node

/-! ## Components -/

namespace Record

theorem quietly_componentSchemas (hr : r.node.Inside S) :
    r.componentSchemas.Quietly fun entries =>
      r.keysOf? "schemas" = some (entries.map (·.1)) := by
  refine (quietly_fields (R := fun _ _ => True) hr _ fun name n hn => ?_).imp
    fun _ ⟨_, hinner, hentries⟩ => keysOf?_of_reads hinner hentries
  refine (n.quietly_schemaWithin _ hn.scope).seq fun id => ?_
  exact (quietly_of_report_eq fun _ => rfl).seq fun _ => .pure ⟨id, rfl, trivial⟩

theorem quietly_componentCallbacks (hr : r.node.Inside S) :
    (r.readAll "callbacks" Node.callback?).Quietly fun cs =>
      ∃ inner, r.section? "callbacks" = some inner ∧ Reads Callback.Whole inner.fields cs :=
  quietly_fields hr _ fun _ _ hn => Node.quietly_callback? hn

theorem quietly_componentPathItems (hr : r.node.Inside S) :
    r.componentPathItems.Quietly fun items =>
      ∃ inner, r.section? "pathItems" = some inner ∧ Reads PathItem.Whole inner.fields items := by
  refine .ite (fun _ => quietly_fields hr _ fun name _ hn => Node.quietly_pathItem? hn name)
    fun _ => ?_
  refine (r.quietly_refuse "pathItems").bind fun _ => .pure fun hnone => ?_
  exact ⟨_, section?_of_eq_none hnone, .nil⟩

end Record

theorem Node.quietly_components (hn : n.Inside S) :
    n.components.Quietly fun c => ∃ r, n.object? = some r ∧ c.Whole r := by
  refine n.quietly_record?_bind _ (.pure trivial) fun r hr => ?_
  have hr' := hn.object hr
  refine (Record.quietly_componentSchemas hr').bind fun schemas => ?_
  refine (Record.quietly_readAll hr' _ Node.quietly_response?).bind fun responses => ?_
  refine (Record.quietly_readAll hr' _ Node.quietly_parameter?).bind fun parameters => ?_
  refine (Record.quietly_readAll hr' _ fun _ => Node.quietly_example? _).bind fun examples => ?_
  refine (Record.quietly_readAll hr' _ Node.quietly_requestBody?).bind fun bodies => ?_
  refine (Record.quietly_readAll hr' _ Node.quietly_header?).bind fun headers => ?_
  refine (Record.quietly_readAll hr' _ fun _ => Node.quietly_securityScheme? _).bind
    fun schemes => ?_
  refine (Record.quietly_readAll hr' _ fun _ => Node.quietly_link? _).bind fun links => ?_
  refine (Record.quietly_componentCallbacks hr').bind fun callbacks => ?_
  refine (Record.quietly_componentPathItems hr').bind fun pathItems => .pure ?_
  intro hpathItems hcallbacks hlinks hschemes hheaders hbodies hexamples hparameters hresponses
    hschemas
  exact ⟨r, hr, hschemas, hresponses, hparameters, hexamples, hbodies, hheaders, hschemes, hlinks,
    hcallbacks, hpathItems⟩

/-- No components are all those of an object without members. -/
theorem Components.whole_empty {c : Record} (h : c.members = []) : Components.empty.Whole c := by
  have hfield : ∀ key, c.field? key = none := fun key => by rw [Record.field?, h]; rfl
  have hkeys : ∀ key, c.keysOf? key = some [] := fun key => by
    rw [Record.keysOf?, Record.section?_of_eq_none (hfield key)]
    rfl
  have hnone : ∀ {α : Type} {R : Node → α → Prop} (key : String),
      ∃ inner, c.section? key = some inner ∧ Reads R inner.fields [] := fun key =>
    ⟨_, Record.section?_of_eq_none (hfield key), .nil⟩
  exact ⟨hkeys _, hkeys _, hkeys _, hkeys _, hkeys _, hkeys _, hkeys _, hkeys _, hnone _, hnone _⟩

/-! ## The root -/

theorem Node.quietly_pathItems (hn : n.Inside S) :
    n.pathItems.Quietly fun items =>
      ∃ inner, n.object? = some inner ∧ Reads PathItem.Whole inner.plainFields items :=
  n.quietly_fields _ Record.plainFields fun _ hinner field hfield =>
    quietly_pathItem? (Inside.inherited.plainFields (hn.object hinner) hfield) field.1

namespace Record

theorem quietly_components (hr : r.node.Inside S) :
    r.components.Quietly fun c =>
      ∃ inner, r.section? "components" = some inner ∧ c.Whole inner := by
  unfold components Readers.componentsOf
  cases hn : r.field? "components" with
  | none =>
    rw [section?_of_eq_none hn]
    exact .pure ⟨_, rfl, Components.whole_empty rfl⟩
  | some n =>
    rw [section?_of_eq_some hn]
    exact Node.quietly_components (Node.Inside.inherited.field hr hn)

theorem quietly_paths (hr : r.node.Inside S) :
    r.paths.Quietly fun items => ∃ inner, r.section? "paths" = some inner ∧
      Reads PathItem.Whole inner.plainFields items := by
  unfold paths Readers.paths
  cases hn : r.field? "paths" with
  | none =>
    rw [section?_of_eq_none hn]
    exact .ite (fun _ => (quietly_tell _ _ _).bind fun _ => .pure nofun)
      fun _ => .pure ⟨_, rfl, .nil⟩
  | some n =>
    rw [section?_of_eq_some hn]
    exact Node.quietly_pathItems (Node.Inside.inherited.field hr hn)

theorem quietly_webhooks (hr : r.node.Inside S) :
    r.webhooks.Quietly fun items => ∃ inner, r.section? "webhooks" = some inner ∧
      Reads PathItem.Whole inner.plainFields items := by
  unfold webhooks Readers.webhooks
  cases hn : r.field? "webhooks" with
  | none =>
    rw [section?_of_eq_none hn]
    exact .pure ⟨_, rfl, .nil⟩
  | some n =>
    rw [section?_of_eq_some hn]
    refine .ite (fun _ => Node.quietly_pathItems (Node.Inside.inherited.field hr hn)) fun _ => ?_
    refine (r.quietly_refuse "webhooks").bind fun _ => .pure fun hnone => ?_
    simp [hn] at hnone

theorem quietly_description (hr : r.node.Inside S) (declared : String) :
    (r.description declared).Quietly (Description.Whole r) := by
  refine .after (r.onlyTells_checkDeclaration _) fun _ => .after r.onlyTells_info fun _ => ?_
  refine .after r.onlyTells_jsonSchemaDialect? fun _ => .after r.onlyTells_servers fun _ => ?_
  refine (quietly_components hr).bind fun components => (quietly_paths hr).bind fun paths => ?_
  refine (quietly_webhooks hr).bind fun webhooks => .after r.onlyTells_checkContents fun _ => ?_
  refine .after r.onlyTells_security fun _ => .after r.onlyTells_tags fun _ => ?_
  refine .after r.onlyTells_externalDocs? fun _ => ?_
  exact fun w hw => ⟨hw, fun hwebhooks hpaths hcomponents => ⟨hpaths, hwebhooks, hcomponents⟩⟩

end Record

/-- The description of a document is whole if nothing is reported. -/
theorem RegisteredDocument.whole_of_run {source : RegisteredDocument} {declared : String}
    {d : Description} {w : Workspace} (hsource : S.registry.documents[S.entry]? = some source)
    (h : source.run S declared = .ok (d, w)) (hquiet : w.Quiet) :
    ∃ root, S.root? = some root ∧ d.Whole root := by
  unfold run at h
  cases hroot : source.root with
  | object members =>
    rw [hroot] at h
    obtain ⟨rfl, rfl⟩ := Prod.mk.inj (Except.ok.inj h).symm
    have hr : Node.Inside S (Record.node ⟨⟨S, S.entry, source⟩, .root, members⟩) :=
      ⟨⟨rfl, hsource⟩, hroot ▸ .root⟩
    refine ⟨⟨⟨S, S.entry, source⟩, .root, members⟩, ?_, ?_⟩
    · rw [Setting.root?, hsource, Option.bind_some, Node.object?, hroot]
    · exact (Record.quietly_description hr declared .fresh hquiet).2
  | _ => simp [hroot] at h

/-- If the report is empty, then the description is whole: it has all that stands in the entry
document. -/
theorem Registry.whole_of_bind {r : Registry} {entry : String} {options : Options}
    {version : Version} {declared : String} {d : Description} {report : Report}
    (h : r.bind entry options version declared = .ok (d, report)) (hempty : report.isEmpty = true) :
    ∃ place root, r.place? entry = some place ∧
      Setting.root? ⟨r, place, options, version⟩ = some root ∧ d.Whole root := by
  obtain ⟨w, hrun, rfl⟩ := exists_run_of_bind h
  obtain ⟨place, source, hplace, hsource, hrun⟩ := exists_source_of_run hrun
  have hquiet : w.Quiet := List.isEmpty_iff.mp hempty
  obtain ⟨root, hroot, hwhole⟩ := RegisteredDocument.whole_of_run hsource hrun hquiet
  exact ⟨place, root, hplace, hroot, hwhole⟩

/-- A description with an operation that has a callback, and an operation in it. -/
def callingBack : Json :=
  let responses : Json := .object [("200", .object [("description", .string "")])]
  let back : Json := .object [("put", .object [("responses", responses)])]
  .object [("openapi", .string "3.1.0"),
    ("info", .object [("title", .string ""), ("version", .string "")]),
    ("paths", .object [("/a", .object [("post", .object [("responses", responses),
      ("callbacks", .object [("called", .object [("http://example.invalid/b", back)])])])])])]

/-- Nothing is reported of `callingBack`, and its description is whole. -/
theorem Registry.whole_callingBack :
    ∃ d report, (single callingBack).bind "http://example.invalid/" .standard .v31 "3.1.0" =
        .ok (d, report) ∧ report.isEmpty = true ∧
      ∃ place root, (single callingBack).place? "http://example.invalid/" = some place ∧
        Setting.root? ⟨single callingBack, place, .standard, .v31⟩ = some root ∧
          d.Whole root := by
  have hleft : ((single callingBack).bind "http://example.invalid/" .standard .v31
      "3.1.0").toOption.map (·.2.isEmpty) = some true := by decide +kernel
  cases hbind : (single callingBack).bind "http://example.invalid/" .standard .v31 "3.1.0" with
  | error fault => simp [hbind, Except.toOption] at hleft
  | ok left =>
    rw [hbind] at hleft
    have hempty : left.2.isEmpty = true := Option.some.inj hleft
    exact ⟨left.1, left.2, rfl, hempty, whole_of_bind hbind hempty⟩

end ApiDescription
