import ApiDescription.Proofs.Binding.OnlyTells
import ApiDescription.Proofs.Binding.TracedSchema
import ApiDescription.Proofs.Traversal

/-!
# Descriptions that can be traced to nodes

Every part of a description that has a place was read at a node there: servers, security
requirements, parameters, operations, and through them path items and callbacks at any depth.  What
the checks look for below such a place is written there, apart from the default of a server
variable, which is the empty text where none is written.

An operation is told by its node alone as far as its responses, its security and its servers go.
-/

namespace ApiDescription

open Binding

/-! ## What a part is read from -/

/-- There is a node of some kind at a pointer of the document with a name in diagnostics. -/
def Located (P : Node → Prop) (label : Option String) (p : Pointer) : Prop :=
  ∃ n, P n ∧ n.scope.label = label ∧ n.pointer = p

/-- A variable of a server was read from an object: it lists values only if they are listed there,
and its default is empty unless it is written there. -/
structure ServerVariable.ReadFrom (r : Record) (v : ServerVariable) : Prop where
  enumeration : v.enumeration.isSome → r.has "enum" = true
  defaultValue : r.has "default" = false → v.defaultValue = ""

/-- A server was read from an object of a document with a name in diagnostics. -/
structure Server.ReadFrom (P : Node → Prop) (r : Record) (s : Server) : Prop where
  location : s.location = r.pointer
  url : r.has "url" = true
  variableMap : ∀ entry ∈ s.variableMap, ∃ v : Record, P v.node ∧ v.scope = r.scope ∧
    v.pointer = (r.pointer.push "variables").push entry.1 ∧ entry.2.ReadFrom v

/-- A server was read in a document with a name in diagnostics. -/
def Server.Traced (P : Node → Prop) (label : Option String) (s : Server) : Prop :=
  ∃ r : Record, P r.node ∧ r.scope.label = label ∧ s.ReadFrom P r

/-- A security requirement was read in a document with a name in diagnostics, and its schemes are
written there. -/
def SecurityRequirement.Traced (P : Node → Prop) (label : Option String)
    (q : SecurityRequirement) : Prop :=
  ∃ r : Record, P r.node ∧ r.scope.label = label ∧ q.location = r.pointer ∧
    ∀ scheme ∈ q.schemes, r.has scheme.1 = true

/-- The keys of an object that stand for objects. -/
def Record.answeredKeys (fields : List (String × Node)) : List String :=
  (fields.filter (·.2.behind?.isSome)).map (·.1)

/-- The status codes under which an operation has responses, if it says anything about them. -/
def Record.responseKeys? (r : Record) : Option (List String) :=
  (r.field? "responses").map fun n => answeredKeys (n.object?.elim [] plainFields)

/-- An operation was read from an object.  Its responses, its security and its servers depend on
nothing else. -/
structure Operation.ReadFrom (r : Record) (o : Operation) : Prop where
  document : o.document = r.scope.label
  location : o.location = r.pointer
  responses : o.responses.map (·.map (·.1)) = r.responseKeys?
  security : o.security = r.security?.result
  servers : o.servers = r.servers.result

/-- An operation was read from an object, and its parts were read below it or in its document. -/
structure Operation.Traced (P : Node → Prop) (o : Operation) : Prop where
  read : ∃ r : Record, P r.node ∧ o.ReadFrom r
  parameters : ∀ p ∈ o.parameters, Located P o.document p.location
  security : ∀ q ∈ o.security.getD [], q.Traced P o.document
  servers : ∀ s ∈ o.servers, s.Traced P o.document

/-- The parts of a path item were read in its document. -/
structure PathItem.Traced (P : Node → Prop) (item : PathItem) : Prop where
  parameters : ∀ p ∈ item.parameters, Located P item.document p.location
  servers : ∀ s ∈ item.servers, s.Traced P item.document
  operations : ∀ o ∈ item.operationList, o.Traced P

variable {P : Node → Prop} {n : Node} {r : Record}

theorem Located.of_record {label : Option String} (hr : P r.node) (h : r.scope.label = label) :
    Located P label r.pointer :=
  ⟨r.node, hr, h, rfl⟩

/-- A field that an object has is at its place. -/
theorem Located.of_has (hP : Node.Closed P) {label : Option String} (hr : P r.node)
    (h : r.scope.label = label) {key : String} (hkey : r.has key = true) :
    Located P label (r.pointer.push key) := by
  obtain ⟨n, hn, hscope, hpointer⟩ := Record.of_has hP hr hkey
  exact ⟨n, hn, hscope ▸ h, hpointer⟩

/-! ## Lists of parts -/

/-- The items of the list in a field are read one by one; some may be left out. -/
theorem Record.traces_list (hP : Node.Closed P) (hr : P r.node) (key what : String) {α : Type}
    {step : Node → Binding (Option α)} {Q : α → Prop}
    (h : ∀ {m}, P m → m.scope = r.scope → Traces P (step m) fun a? => ∀ a ∈ a?, Q a) :
    Traces P (match r.field? key with
      | none => pure []
      | some n => n.items what >>= fun items => Binding.collect step items) fun results =>
        (∀ a ∈ results, Q a) ∧ results.length ≤ (r.itemsOf key).length := by
  unfold itemsOf
  cases hn : r.field? key with
  | none => exact .pure (by simp)
  | some n =>
    have hscope := (Record.of_field? hn).1
    refine Node.traces_items hP (hP.field hr hn) _ fun hitems => ?_
    refine Traces.collect (R := fun _ a? => ∀ a ∈ a?, Q a)
      (T := fun l results => (∀ a ∈ results, Q a) ∧ results.length ≤ l.length) (by simp) ?_ ?_
    · intro m rest a? results ha hrest
      refine ⟨fun a hmem => ?_, ?_⟩
      · rcases List.mem_append.mp hmem with hfirst | hmem
        · exact ha a (Option.mem_toList.mp hfirst)
        · exact hrest.1 a hmem
      · have hfirst : a?.toList.length ≤ 1 := by cases a? <;> simp
        rw [List.length_append, List.length_cons]
        omega
    · intro m hm
      obtain ⟨-, -, -, -, hmscope, -⟩ := Node.of_mem_itemNodes hm
      exact h (hitems m hm) (hmscope.trans hscope)

/-- The items of the list in a field are at their places. -/
theorem Located.of_itemsOf (hP : Node.Closed P) {label : Option String} (hr : P r.node)
    (h : r.scope.label = label) {key : String} {i : Nat} (hi : i < (r.itemsOf key).length) :
    Located P label ((r.pointer.push key).item i) := by
  have hget := List.getElem?_eq_getElem hi
  obtain ⟨hscope, hpointer⟩ := Record.of_getElem?_itemsOf hget
  exact ⟨_, hP.itemsOf hr (List.getElem_mem hi), by rw [hscope, h], hpointer⟩

/-! ## Servers, security requirements and tags -/

section Plain

variable (hP : Node.Closed P)
include hP

theorem Node.traces_serverVariable? (hn : P n) :
    Traces P n.serverVariable? fun v? =>
      ∀ v ∈ v?, ∃ r, n.object? = some r ∧ v.ReadFrom r := by
  refine Node.traces_record? hn _ (fun _ => .pure (by simp)) fun r hr hrnode => ?_
  refine .ite_bind (R := fun enumeration => enumeration.isSome → r.has "enum" = true)
    (fun henum => ?_) (fun enumeration henum => ?_) fun _ hrest => ?_
  · exact (Record.traces_texts hP hrnode _).map fun _ _ _ => henum
  · refine (Record.traces_requiredText? hP hrnode _ _).bind fun default? hdefault => ?_
    refine (Record.traces_text? hP hrnode _).seq fun _ => .pure fun v hv => ?_
    obtain rfl := Option.some.inj hv
    refine ⟨r, hr, henum, fun hnone => ?_⟩
    cases default? with
    | none => rfl
    | some text => simp [hdefault rfl] at hnone
  · exact (Traces.pure nofun).bind hrest

theorem Node.traces_server? (hn : P n) {label : Option String} (h : n.scope.label = label) :
    Traces P n.server? fun s? => ∀ s ∈ s?, s.Traced P label := by
  refine Node.traces_record? hn _ (fun _ => .pure (by simp)) fun r hr hrnode => ?_
  have hlabel : r.scope.label = label := by rw [(Node.of_object? hr).1, h]
  refine (Record.traces_requiredText? hP hrnode _ _).bind fun
    | none => fun _ => .pure (by simp)
    | some url => fun hurl => ?_
  refine Traces.bind (R := fun variableMap => ∀ entry ∈ variableMap, ∃ v : Record, P v.node ∧
    v.scope = r.scope ∧ v.pointer = (r.pointer.push "variables").push entry.1 ∧
      entry.2.ReadFrom v) ?_ fun variableMap hvariables => ?_
  · refine Record.traces_record? hP hrnode _ (.pure (by simp)) fun inner hinner hnode => ?_
    obtain ⟨hscope, hpointer⟩ := Record.of_field? hinner
    refine (Record.traces_readFields (R := fun _ m v => ∃ r, m.object? = some r ∧ v.ReadFrom r)
      fun field hfield => ?_).imp fun entries hentries entry hentry => ?_
    · exact Node.traces_serverVariable? hP (hP.fields hnode hfield)
    · obtain ⟨m, hm, v, hv, hread⟩ := hentries entry hentry
      obtain ⟨hvscope, hvpointer, -⟩ := Node.of_object? hv
      have hmnode : P m := hP.fields hnode hm
      obtain ⟨member, -, hmember⟩ := List.mem_map.mp hm
      obtain ⟨hkey, rfl⟩ := Prod.mk.inj hmember
      refine ⟨v, Node.node_of_object? hv ▸ hmnode, hvscope.trans hscope, ?_, hread⟩
      rw [hvpointer, ← hkey]
      exact congrArg (·.push member.1) hpointer
  · refine (Record.traces_text? hP hrnode _).seq fun _ => .pure fun s hs => ?_
    obtain rfl := Option.some.inj hs
    exact ⟨r, hrnode, hlabel, rfl, hurl rfl, hvariables⟩

theorem Node.traces_securityRequirement? (hn : P n) {label : Option String}
    (h : n.scope.label = label) :
    Traces P n.securityRequirement? fun q? => ∀ q ∈ q?, q.Traced P label := by
  refine Node.traces_record? hn _ (fun _ => .pure (by simp)) fun r hr hrnode => ?_
  have hlabel : r.scope.label = label := by rw [(Node.of_object? hr).1, h]
  refine (Record.traces_readFields (R := fun _ _ _ => True) fun field hfield => ?_).bind
    fun schemes hschemes => .pure fun q hq => ?_
  · exact (Record.traces_texts hP hrnode _).seq fun _ => .pure fun _ _ => trivial
  · obtain rfl := Option.some.inj hq
    refine ⟨r, hrnode, hlabel, rfl, fun scheme hscheme => ?_⟩
    obtain ⟨m, hm, -⟩ := hschemes scheme hscheme
    obtain ⟨member, hmember, heq⟩ := List.mem_map.mp hm
    exact (Prod.mk.inj heq).1 ▸ Record.has_of_mem hmember

theorem Node.traces_security (hn : P n) {label : Option String} (h : n.scope.label = label) :
    Traces P n.security fun qs => ∀ q ∈ qs, q.Traced P label := by
  refine Node.traces_items hP hn _ fun hitems => .collect_all fun m hm => ?_
  obtain ⟨-, -, -, -, hscope, -⟩ := Node.of_mem_itemNodes hm
  exact Node.traces_securityRequirement? hP (hitems m hm) (hscope ▸ h)

namespace Record

variable (hr : P r.node)
include hr

theorem traces_servers : Traces P r.servers fun ss => ∀ s ∈ ss, s.Traced P r.scope.label :=
  (traces_list hP hr "servers" "servers" fun hm hscope =>
    Node.traces_server? hP hm (congrArg Scope.label hscope)).imp fun _ h => h.1

theorem traces_externalDocs? : Traces P r.externalDocs? fun _ => True := by
  unfold externalDocs?
  split
  · exact .pure trivial
  · next hn =>
    refine Node.traces_record? (hP.field hr hn) _ (fun _ => .pure trivial) fun docs _ hdocs => ?_
    refine (traces_requiredText? hP hdocs _ _).seq fun
      | none => .pure trivial
      | some _ => (traces_text? hP hdocs _).seq fun _ => .pure trivial

end Record

theorem Node.traces_tag? (hn : P n) : Traces P n.tag? fun _ => True := by
  refine Node.traces_record? hn _ (fun _ => .pure trivial) fun r _ hr => ?_
  refine (Record.traces_requiredText? hP hr _ _).seq fun
    | none => .pure trivial
    | some _ => (Record.traces_externalDocs? hP hr).seq fun _ =>
      (Record.traces_text? hP hr _).seq fun _ => .pure trivial

/-- Every tag stands for an item of the list, though some items may have been left out. -/
theorem Record.traces_tags (hr : P r.node) :
    Traces P r.tags fun tags => tags.length ≤ (r.itemsOf "tags").length :=
  (traces_list (Q := fun _ => True) hP hr "tags" "tags" fun hm _ =>
    (Node.traces_tag? hP hm).imp fun _ _ _ _ => trivial).imp fun _ h => h.2

/-! ## Contents -/

theorem Node.traces_example? (hn : P n) : Traces P n.example? fun _ => True := by
  refine Node.traces_resolvedRecord? hP hn _ (fun _ => .pure trivial) fun r _ _ hr => ?_
  refine (Record.traces_text? hP hr _).seq fun _ => (Record.traces_text? hP hr _).seq fun _ => ?_
  exact (Record.traces_text? hP hr _).seq fun _ => .pure trivial

/-- Nothing needs to be known of the parts of some kind. -/
theorem Record.traces_all (hr : P r.node) (key : String) {α : Type}
    {step : Node → Binding (Option α)} (h : ∀ {n}, P n → Traces P (step n) fun _ => True) :
    Traces P (r.readAll key step) fun _ => True :=
  (traces_readAll (R := fun _ => True) hP hr key fun hn =>
    (h hn).imp fun _ _ _ _ => trivial).imp fun _ _ => trivial

theorem Record.traces_outerSchema? (hr : P r.node) (key : String) :
    Traces P (r.outerSchema? key) fun _ => True :=
  traces_schema? hP (Node.traces_schema hP) hr key

theorem Node.traces_mediaType? (hn : P n) : Traces P n.mediaType? fun _ => True := by
  refine Node.traces_record? hn _ (fun _ => .pure trivial) fun r _ hr => ?_
  refine (Record.traces_all hP hr _ fun hm => Node.traces_example? hP hm).seq fun _ => ?_
  exact (Record.traces_outerSchema? hP hr _).seq fun _ => .pure trivial

theorem Record.traces_content (hr : P r.node) : Traces P r.content fun _ => True := by
  unfold content SchemaReader.content
  split
  · exact .pure trivial
  · next hn =>
    refine Node.traces_record? (hP.field hr hn) _ (fun _ => .pure trivial) fun formats _ hf => ?_
    refine (traces_readFields (R := fun _ _ _ => True) fun field hfield => ?_).imp
      fun _ _ => trivial
    exact (Node.traces_mediaType? hP (hP.fields hf hfield)).imp fun _ _ _ _ => trivial

theorem Node.traces_header? (hn : P n) : Traces P n.header? fun _ => True := by
  refine Node.traces_resolvedRecord? hP hn _ (fun _ => .pure trivial) fun r _ _ hr => ?_
  refine (Record.traces_text? hP hr _).seq fun _ => (Record.traces_flag hP hr _).seq fun _ => ?_
  refine (Record.traces_flag hP hr _).seq fun _ => ?_
  refine (Record.traces_outerSchema? hP hr _).seq fun _ => ?_
  exact (Record.traces_content hP hr).seq fun _ => .pure trivial

theorem Node.traces_link? (hn : P n) : Traces P n.link? fun _ => True := by
  refine Node.traces_resolvedRecord? hP hn _ (fun _ => .pure trivial) fun r reference _ hr => ?_
  refine .ite_bind (fun _ => Record.traces_tell hr rfl) (fun _ _ => ?_)
    fun _ hrest => hrest () trivial
  refine Record.traces_record? hP hr _ ?_ fun _ _ _ => ?_ <;>
    exact (Record.traces_text? hP hr _).seq fun _ => (Record.traces_text? hP hr _).seq fun _ =>
      (Record.traces_text? hP hr _).seq fun _ => .pure trivial

/-- There is a response if and only if the node stands for an object. -/
theorem Node.traces_response? (hn : P n) :
    Traces P n.response? fun response? => response?.isSome = n.behind?.isSome := by
  refine Node.traces_resolvedRecord? hP hn _ (fun hnone => .pure (by rw [hnone]; rfl))
    fun r reference hbehind hr => ?_
  refine (Record.traces_responseText? hP hr).seq fun _ => ?_
  refine (Record.traces_all hP hr _ fun hm => Node.traces_header? hP hm).seq fun _ => ?_
  refine (Record.traces_all hP hr _ fun hm => Node.traces_link? hP hm).seq fun _ => ?_
  exact (Record.traces_content hP hr).seq fun _ => .pure (by rw [hbehind]; rfl)

theorem Node.traces_responses (hn : P n) :
    Traces P n.responses fun responses =>
      responses.map (·.1) = Record.answeredKeys (n.object?.elim [] Record.plainFields) := by
  refine Node.traces_record? hn _ (fun hnone => .pure (by rw [hnone]; rfl)) fun r hr hrnode => ?_
  rw [hr]
  refine Traces.collect
    (R := fun field entry? =>
      entry?.map Prod.fst = if field.2.behind?.isSome then some field.1 else none)
    (T := fun fields (responses : Entries Response) =>
      responses.map (·.1) = Record.answeredKeys fields) rfl ?_ fun field hfield => ?_
  · intro field rest entry? entries hentry hentries
    rw [List.map_append, hentries, Record.answeredKeys, Record.answeredKeys, List.filter_cons]
    split at hentry
    · next hsome =>
      obtain ⟨entry, rfl, hkey⟩ := Option.map_eq_some_iff.mp hentry
      rw [if_pos hsome, List.map_cons, ← hkey]
      rfl
    · next hnone =>
      rw [if_neg hnone, Option.map_eq_none_iff.mp hentry]
      rfl
  · refine (Node.traces_response? hP (hP.plainFields hrnode hfield)).bind fun response? h => ?_
    refine .pure ?_
    rw [← h]
    cases response? <;> rfl

theorem Node.traces_requestBody? (hn : P n) : Traces P n.requestBody? fun _ => True := by
  refine Node.traces_resolvedRecord? hP hn _ (fun _ => .pure trivial) fun r reference _ hr => ?_
  refine .ite_bind (fun _ => Record.traces_tell hr rfl) (fun _ _ => ?_)
    fun _ hrest => hrest () trivial
  exact (Record.traces_text? hP hr _).seq fun _ => (Record.traces_flag hP hr _).seq fun _ =>
    (Record.traces_content hP hr).seq fun _ => .pure trivial

/-! ## Parameters -/

theorem Record.traces_parameterPlace? (hr : P r.node) :
    Traces P r.parameterPlace? fun _ => True := by
  refine (traces_requiredText? hP hr _ _).bind fun
    | none => fun _ => .pure trivial
    | some name => fun hkey => ?_
  refine .ite (fun _ => ?_) fun _ => .pure trivial
  exact (traces_tellField hP hr (hkey rfl) rfl).seq fun _ => .pure trivial

/-- A parameter has the place that it is given. -/
theorem Record.traces_parameter (hr : P r.node) (name : String) (place : ParameterPlace)
    (reference : Option String) (location : Pointer) :
    Traces P (r.parameter name place reference location) fun p => p.location = location := by
  refine .ite_bind (fun _ => traces_tell hr rfl) (fun _ _ => ?_) fun _ hrest => hrest () trivial
  refine (traces_text? hP hr _).seq fun _ => (traces_flag hP hr _).seq fun _ => ?_
  refine (traces_flag hP hr _).seq fun _ => (traces_flag hP hr _).seq fun _ => ?_
  refine (traces_text? hP hr _).seq fun _ => (traces_flag? hP hr _).seq fun _ => ?_
  refine (traces_outerSchema? hP hr _).seq fun _ => ?_
  exact (traces_content hP hr).seq fun _ => .pure rfl

theorem Node.traces_parameter? (hn : P n) :
    Traces P n.parameter? fun p? => ∀ p ∈ p?, p.location = n.pointer := by
  refine Node.traces_resolvedRecord? hP hn _ (fun _ => .pure (by simp)) fun r reference _ hr => ?_
  refine (Record.traces_requiredText? hP hr _ _).seq fun name? => ?_
  refine (Record.traces_parameterPlace? hP hr).seq fun place? => ?_
  split
  · refine (Record.traces_parameter hP hr _ _ _ _).bind fun p hp => .pure fun p' hp' => ?_
    exact Option.some.inj hp' ▸ hp
  · exact .pure (by simp)

theorem Record.traces_parameters (hr : P r.node) :
    Traces P r.parameters fun ps => ∀ p ∈ ps, Located P r.scope.label p.location :=
  (traces_list hP hr "parameters" "parameters" fun hm hscope =>
    (Node.traces_parameter? hP hm).imp fun _ h p hp =>
      ⟨_, hm, congrArg Scope.label hscope, (h p hp).symm⟩).imp fun _ h => h.1

end Plain

end ApiDescription
