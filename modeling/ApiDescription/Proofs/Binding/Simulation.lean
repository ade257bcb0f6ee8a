import ApiDescription.Proofs.Binding.Reading

/-!
# Schemas side by side

A `Simulation` is a tandem whose workspaces have one graph and remember the same schemas at the
nodes that are read, and which parts of schemas and names of components do not break.

What is read from the object of a schema depends on the schemas below it only through the nodes
that the object leads to: its parts, and the targets of its references.  So the functions here are
run side by side over two arbitrary ways to read those, of which nothing is asked elsewhere.

Entering a schema for a node changes more than that.  A simulation that goes on then, too, reads the
schemas at all nodes side by side: `Simulation.Enters`.
-/

namespace ApiDescription

/-- The schema of an object leads to the schema at a node. -/
inductive Record.Leads (r : Record) : Node → Prop
  /-- To a property. -/
  | property {field : String × Node} (h : field ∈ r.fieldsOf "properties") : Leads r field.2
  /-- To what may stand besides the properties. -/
  | additional {n : Node} (h : r.additionalNode? = some n) : Leads r n
  /-- To the items. -/
  | items {n : Node} (h : r.itemNode? = some n) : Leads r n
  /-- To one of the schemas in a list. -/
  | listed {key : String} {n : Node} (hkey : key ∈ ["prefixItems", "allOf", "oneOf", "anyOf"])
      (h : n ∈ r.itemsOf key) : Leads r n
  /-- To the schema that does not accept the value. -/
  | negated {n : Node} (h : r.field? "not" = some n) : Leads r n
  /-- To the target of the reference that it is. -/
  | target {text : String} {n : Node} (htext : r.members.get? referenceKey = some (.string text))
      (h : r.scope.locate text = .ok n) : Leads r n
  /-- To the target of an entry in the mapping of its discriminator. -/
  | mapped {d entries : Record} {field : String × Node} {name : String} {n : Node}
      (hd : r.field? "discriminator" = some d.node)
      (hentries : d.field? "mapping" = some entries.node) (hfield : field ∈ entries.fields)
      (hname : field.2.value = .string name)
      (h : r.scope.locate (componentReference name) = .ok n) : Leads r n

/-- A tandem whose workspaces hold the same schemas. -/
structure Simulation extends GuidedTandem where
  /-- The graphs are the same. -/
  graph {w w' : Workspace} (h : states w w') : w'.graph = w.graph
  /-- The same schema was met at a node, if one was. -/
  slot? {w w' : Workspace} (h : states w w') {c : Scope} (hc : known c) (p : Pointer) :
    w'.slot? ⟨(scope c).place, p⟩ = w.slot? ⟨c.place, p⟩
  /-- Parts of schemas keep workspaces related. -/
  push {w w' : Workspace} (h : states w w') (s : Schema) :
    states { w with graph := w.graph.push s } { w' with graph := w'.graph.push s }
  /-- Names of components keep workspaces related. -/
  rename {w w' : Workspace} (h : states w w') (id : SchemaId) (name : String) :
    states { w with graph := w.graph.modify id (Schema.named name) }
      { w' with graph := w'.graph.modify id (Schema.named name) }

/-- A run beside itself, during which a property of the workspace is kept.  The property is not
about the schemas. -/
def Simulation.beside (S : Setting) (P : Workspace → Prop)
    (tell : ∀ {w : Workspace}, P w → ∀ f : Finding, f.setApart = false →
      ∀ (label : Option String) (p : Pointer), P (w.told f label p))
    (graph : ∀ {w : Workspace}, P w → ∀ g : SchemaGraph, P { w with graph := g }) :
    Simulation where
  scope c := c
  known c := c.Registered S
  states w w' := w' = w ∧ P w
  label _ := rfl
  alike _ := .of_eq rfl
  maxDepth _ := .inl rfl
  place _ _ := Iff.rfl
  locate {c} _ text := .inl (by cases c.locate text <;> rfl)
  located := @Scope.Registered.located S
  tell h _ _ _ _ hrevised hf label p := by
    obtain rfl := hrevised.eq rfl
    exact ⟨by rw [h.1], tell h.2 _ hf label p⟩
  graph h := congrArg Workspace.graph h.1
  slot? h _ _ _ := by rw [h.1]
  push h s := ⟨by rw [h.1], graph h.2 _⟩
  rename h id name := ⟨by rw [h.1], graph h.2 _⟩

namespace Simulation

open Binding Tandem GuidedTandem

variable {t : Simulation} {r : Record} {n : Node} {α β : Type}

theorem same_slot? (hn : t.known n.scope) :
    t.Same (Binding.slot? n.site) (Binding.slot? (t.node n).site) :=
  .of_run (fun _ hw => hw) fun _ _ hw => ⟨(t.slot? hw hn n.pointer).symm, hw⟩

theorem same_allocate (s : Schema) : t.Same (allocate s) (allocate s) :=
  .of_run (fun _ hw => hw) fun _ _ hw =>
    ⟨congrArg SchemaGraph.size (t.graph hw).symm, t.push hw s⟩

theorem same_rename (id : SchemaId) (name : String) :
    t.Same (Binding.change id (Schema.named name)) (Binding.change id (Schema.named name)) :=
  .of_run (fun _ hw => hw) fun _ _ hw => ⟨rfl, t.rename hw id name⟩

variable {read read' : SchemaReader}

/-- Two ways to read the schema at a node run side by side. -/
def Agree (t : Simulation) (read read' : SchemaReader) (n : Node) : Prop :=
  t.known n.scope → t.Same (read n) (read' (t.node n))

/-! ## References -/

theorem same_referenceState (hr : t.known r.scope) (text : String) (at_ : Pointer)
    (hread : ∀ n, r.scope.locate text = .ok n → t.Agree read read' n) :
    t.Same (r.referenceState read text at_) ((t.record r).referenceState read' text at_) := by
  unfold Record.referenceState
  rw [scope_record]
  rcases t.locate hr text with heq | ⟨f, hf, hparts⟩
  · rw [heq]
    cases hlocate : r.scope.locate text with
    | error f =>
      have hapart := setApart_of_unlocated (Scope.of_locate_eq_error hlocate)
      exact (same_tell hr at_ f hapart).bind fun _ => .pure _
    | ok n =>
      have hn := t.located hr hlocate
      refine (same_slot? hn).bind fun slot? => ?_
      split
      · exact .pure _
      · exact .pure _
      · exact (hread n hlocate hn).bind fun _ => .pure _
  · rw [hf]
    exact same_of_partsBy hparts r.scope at_ fun _ hw => hw

theorem same_referenceSchema (hr : t.known r.scope) (text : String)
    (hread : ∀ n, r.scope.locate text = .ok n → t.Agree read read' n) :
    t.Same (r.referenceSchema read text) ((t.record r).referenceSchema read' text) := by
  have hstate := same_referenceState hr text (r.pointer.push referenceKey) hread
  unfold Record.referenceSchema
  rw [blankSchema_record hr, scope_record, followsJsonSchema_scope hr]
  refine .ite Iff.rfl ?_ (.ite Iff.rfl ?_ ?_)
  · exact (same_text? hr _).bind fun _ => (same_text? hr _).bind fun _ =>
      (Same.pure _).bind fun _ => hstate.bind fun _ => .pure _
  · exact (same_tell hr _ _ rfl).bind fun _ => (Same.pure _).bind fun _ => hstate.bind fun _ =>
      .pure _
  · exact (Same.pure _).bind fun _ => hstate.bind fun _ => .pure _

/-! ## Parts -/

theorem same_schemaList (hr : t.known r.scope) (key : String)
    (hread : ∀ n ∈ r.itemsOf key, t.Agree read read' n) :
    t.Same (r.schemaList read key) ((t.record r).schemaList read' key) := by
  unfold Record.schemaList
  rw [field?_record]
  cases hn : r.field? key with
  | none => exact .pure _
  | some n =>
    have hitems : r.itemsOf key = n.itemNodes := by rw [Record.itemsOf, hn, Option.elim_some]
    refine same_items (known_of_field? hr hn) _ fun hnodes => .each fun item hitem => ?_
    exact hread item (hitems ▸ hitem) (hnodes item hitem)

theorem same_schema? (hr : t.known r.scope) (key : String)
    (hread : ∀ n, r.field? key = some n → t.Agree read read' n) :
    t.Same (r.schema? read key) ((t.record r).schema? read' key) := by
  unfold Record.schema?
  rw [field?_record]
  cases hn : r.field? key with
  | none => exact .pure _
  | some n => exact (hread n hn (known_of_field? hr hn)).bind fun _ => .pure _

theorem same_properties (hr : t.known r.scope)
    (hread : ∀ field ∈ r.fieldsOf "properties", t.Agree read read' field.2) :
    t.Same (r.readAll "properties" fun n => return some (← read n))
      ((t.record r).readAll "properties" fun n => return some (← read' n)) := by
  refine same_fieldRecord? hr _ (.pure _) fun inner hinner hfield => ?_
  have hfields : r.fieldsOf "properties" = inner.fields := by
    unfold Record.fieldsOf
    rw [hfield]
    rfl
  refine same_fields hinner fun field hmem hknown => ?_
  exact (hread field (hfields ▸ hmem) hknown).bind fun _ => .pure _

theorem same_additionalProperties (hr : t.known r.scope)
    (hread : ∀ n, r.additionalNode? = some n → t.Agree read read' n) :
    t.Same (r.additionalProperties read) ((t.record r).additionalProperties read') := by
  unfold Record.additionalProperties
  dsimp only
  rw [field?_record]
  unfold Record.additionalNode? at hread
  cases hn : r.field? "additionalProperties" with
  | none => exact .pure _
  | some n =>
    rw [hn] at hread
    dsimp only [Option.map_some]
    rw [value_node]
    split
    · exact .pure _
    · next members hvalue =>
      have hsome : (some n).filter (fun n => n.value.members?.isSome) = some n := by
        simp [hvalue, Json.members?]
      exact (hread n hsome (known_of_field? hr hn)).bind fun _ => .pure _
    · exact (same_tell hr _ _ rfl).bind fun _ => .pure _

theorem same_objectShape (hr : t.known r.scope) (hread : ∀ n, r.Leads n → t.Agree read read' n) :
    t.Same (r.objectShape read) ((t.record r).objectShape read') := by
  refine (same_properties hr fun field h => hread _ (.property h)).bind fun _ => ?_
  refine (same_texts hr _).bind fun _ => ?_
  refine (same_additionalProperties hr fun n h => hread n (.additional h)).bind fun _ => ?_
  exact (same_count? hr _).bind fun _ => (same_count? hr _).bind fun _ => .pure _

theorem same_itemSchema? (hr : t.known r.scope)
    (hread : ∀ n, r.itemNode? = some n → t.Agree read read' n) :
    t.Same (r.itemSchema? read) ((t.record r).itemSchema? read') := by
  unfold Record.itemSchema?
  rw [field?_record]
  unfold Record.itemNode? at hread
  cases hn : r.field? "items" with
  | none => exact .pure _
  | some n =>
    have hknown := known_of_field? hr hn
    rw [hn] at hread
    dsimp only [Option.map_some]
    rw [value_node]
    split
    · exact (same_tell hknown _ _ rfl).bind fun _ => .pure _
    · next harray =>
      have hsome : (some n).filter (fun n => n.value.items?.isNone) = some n := by
        cases hvalue : n.value with
        | array items => exact absurd hvalue (harray items)
        | _ => simp [hvalue, Json.items?]
      exact (hread n hsome hknown).bind fun _ => .pure _

theorem same_arrayShape (hr : t.known r.scope) (hread : ∀ n, r.Leads n → t.Agree read read' n) :
    t.Same (r.arrayShape read) ((t.record r).arrayShape read') := by
  unfold Record.arrayShape
  rw [scope_record, followsJsonSchema_scope hr]
  refine (same_itemSchema? hr fun n h => hread n (.items h)).bind fun items => ?_
  refine .ite_bind Iff.rfl (same_schemaList hr _ fun n h => hread n (.listed (by simp) h)) ?_ ?_
  · exact fun _ => (same_count? hr _).bind fun _ => (same_count? hr _).bind fun _ =>
      (same_flag hr _).bind fun _ => .pure _
  · exact fun hrest => (same_refuse hr _).bind fun _ => (Same.pure _).bind hrest

/-! ## Types -/

theorem same_untypedShape (hr : t.known r.scope) (hread : ∀ n, r.Leads n → t.Agree read read' n) :
    t.Same (r.untypedShape read) ((t.record r).untypedShape read') := by
  refine .ite Iff.rfl ?_ (.ite Iff.rfl ?_ (.pure _))
  · exact (same_objectShape hr hread).bind fun _ => .pure _
  · exact (same_arrayShape hr hread).bind fun _ => .pure _

theorem same_typedShape (hr : t.known r.scope) (hread : ∀ n, r.Leads n → t.Agree read read' n)
    (name : String) :
    t.Same (r.typedShape read name) ((t.record r).typedShape read' name) := by
  unfold Record.typedShape
  rw [scope_record, followsJsonSchema_scope hr]
  refine .ite Iff.rfl ((same_objectShape hr hread).bind fun _ => .pure _) (.ite Iff.rfl ?_ ?_)
  · refine .ite_bind Iff.rfl (same_tell hr _ _ rfl) (fun _ => ?_) fun hrest => hrest ()
    exact (same_arrayShape hr hread).bind fun _ => .pure _
  · split
    · exact (same_scalarShape hr _).bind fun _ => .pure _
    · exact .pure _

theorem same_memberOfType (hr : t.known r.scope) (hread : ∀ n, r.Leads n → t.Agree read read' n)
    (name : String) :
    t.Same (r.memberOfType read name) ((t.record r).memberOfType read' name) := by
  unfold Record.memberOfType
  rw [blankSchema_record hr]
  exact (same_typedShape hr hread name).bind fun _ => same_allocate _

theorem same_shapeOfTypes (hr : t.known r.scope) (hread : ∀ n, r.Leads n → t.Agree read read' n)
    (names : List String) :
    t.Same (r.shapeOfTypes read names) ((t.record r).shapeOfTypes read' names) := by
  match names with
  | [] => exact same_untypedShape hr hread
  | [name] => exact same_typedShape hr hread name
  | first :: second :: rest =>
    have hmembers := Same.each (l := first :: second :: rest) (g := id) fun name _ =>
      same_memberOfType hr hread name
    rw [List.map_id] at hmembers
    exact hmembers.bind fun _ => .pure _

/-! ## Discriminators and compositions -/

theorem same_mapping {entries : Record} (hr : t.known r.scope) (hentries : t.known entries.scope)
    (hread : ∀ field ∈ entries.fields, ∀ name, field.2.value = .string name →
      ∀ n, r.scope.locate (componentReference name) = .ok n → t.Agree read read' n) :
    t.Same (Record.readFields entries.fields (Record.mappingEntry read r entries))
      (Record.readFields (t.record entries).fields
        (Record.mappingEntry read' (t.record r) (t.record entries))) := by
  refine same_fields hentries fun field hfield _ => ?_
  unfold Record.mappingEntry
  rw [value_node]
  split
  · next name hname =>
    exact (same_referenceState hr _ _ (hread field hfield name hname)).bind fun _ => .pure _
  · exact (same_tell hentries _ _ rfl).bind fun _ => .pure _

theorem same_discriminator? (hr : t.known r.scope) (hread : ∀ n, r.Leads n → t.Agree read read' n) :
    t.Same (r.discriminator? read) ((t.record r).discriminator? read') := by
  refine same_fieldRecord? hr _ (.pure _) fun d hd hfield => ?_
  refine (same_requiredText? hd _ (by decide)).bind fun
    | none => .pure _
    | some propertyName => ?_
  refine same_fieldRecord? hd _ ((Same.pure _).bind fun _ => .pure _) fun _ hentries hmapping => ?_
  refine (same_mapping hr hentries fun field hmem name hname n hn => ?_).bind fun _ => .pure _
  exact hread n (.mapped hfield hmapping hmem hname hn)

theorem same_inlined? (hr : t.known r.scope) (shape : Shape) :
    t.Same (r.inlined? shape) ((t.record r).inlined? shape) := by
  unfold Record.inlined?
  rw [blankSchema_record hr]
  split
  · exact .pure _
  · exact (same_allocate _).bind fun _ => .pure _

theorem same_shape (hr : t.known r.scope) (hread : ∀ n, r.Leads n → t.Agree read read' n)
    (names : List String) : t.Same (r.shape read names) ((t.record r).shape read' names) := by
  refine (same_shapeOfTypes hr hread names).bind fun structural => ?_
  refine (same_discriminator? hr hread).bind fun discriminator? => .ite Iff.rfl ?_ ?_
  · cases discriminator? with
    | none => exact .pure _
    | some d => exact same_withDiscriminator hr structural d
  · refine (same_schemaList hr _ fun n h => hread n (.listed (by simp) h)).bind fun _ => ?_
    refine (same_schemaList hr _ fun n h => hread n (.listed (by simp) h)).bind fun _ => ?_
    refine (same_schemaList hr _ fun n h => hread n (.listed (by simp) h)).bind fun _ => ?_
    refine (same_schema? hr _ fun n h => hread n (.negated h)).bind fun _ => ?_
    exact (same_inlined? hr structural).bind fun _ => .pure _

/-! ## Schemas -/

theorem same_recordSchema (hr : t.known r.scope) (hread : ∀ n, r.Leads n → t.Agree read read' n) :
    t.Same (r.schemaHere read) ((t.record r).schemaHere read') := by
  unfold Record.schemaHere
  rw [members_record, blankSchema_record hr]
  split
  · next text htext => exact same_referenceSchema hr text fun n h => hread n (.target htext h)
  · exact (same_tell hr _ _ rfl).bind fun _ => .pure _
  · refine (same_annotated hr).bind fun _ => (same_types hr).bind fun types => ?_
    exact (same_shape hr hread types.names).bind fun _ => .pure _

theorem blankSchema_node (hn : t.known n.scope) : (t.node n).blankSchema = n.blankSchema := by
  unfold Node.blankSchema
  rw [scope_node, t.label hn]
  rfl

/-- What is read at a node depends on the schemas below it only through those that the object leads
to that it is. -/
theorem same_schemaHere (hn : t.known n.scope)
    (hread : ∀ r : Record, r.node = n → ∀ m, r.Leads m → t.Agree read read' m) :
    t.Same (n.schemaHere read) ((t.node n).schemaHere read') := by
  obtain ⟨c, p, value⟩ := n
  unfold Node.schemaHere
  rw [value_node, blankSchema_node hn, scope_node, followsJsonSchema_scope hn]
  cases value with
  | object members => exact same_recordSchema (r := ⟨c, p, members⟩) hn (hread _ rfl)
  | bool accepts =>
    exact .ite Iff.rfl (.pure _) ((same_tell hn p _ rfl).bind fun _ => .pure _)
  | _ => exact (same_tell hn p _ rfl).bind fun _ => .pure _

/-! ## Schemas that are entered -/

/-- The simulation goes on when a schema is entered for a node, and when one is cut off. -/
structure Enters (t : Simulation) : Prop where
  /-- That a schema is cut off is found in both runs. -/
  tooDeep {n : Node} (hn : t.known n.scope) (limit : Nat) :
    t.Same (n.tell (.nestingTooDeep limit)) ((t.node n).tell (.nestingTooDeep limit))
  /-- A schema gets its contents in both runs. -/
  change (id : SchemaId) (s : Schema) :
    t.Same (Binding.change id fun _ => s) (Binding.change id fun _ => s)
  /-- It is met at its node in both runs. -/
  setSlot {n : Node} (hn : t.known n.scope) (slot : Slot) :
    t.Same (Binding.setSlot n.site slot) (Binding.setSlot (t.node n).site slot)

/-- Schemas are read side by side, unless the first run comes to its limit before the second one. -/
theorem Enters.same_schemaWithin (h : t.Enters) {room room' : Nat}
    (hroom : Allows t.parts room room') (hn : t.known n.scope) :
    t.Same (n.schemaWithin room) ((t.node n).schemaWithin room') := by
  -- by induction on the room of the first run; the second one never has less
  induction room generalizing n room' with
  | zero =>
    cases room' with
    | zero =>
      unfold Node.schemaWithin
      refine (same_slot? hn).bind fun
        | some slot => .pure _
        | none => ?_
      rcases t.maxDepth hn with hdepth | ⟨-, hdeeper⟩
      · rw [← scope_node] at hdepth
        rw [blankSchema_node hn, hdepth]
        refine (h.tooDeep hn _).bind fun _ => (same_allocate _).bind fun id => ?_
        exact (h.setSlot hn _).bind fun _ => .pure _
      · exact same_of_partsBy (partsBy_of_deeper hdeeper rfl) n.scope n.pointer fun _ hw => hw
    | succ room' =>
      -- the second run goes on where the first one is cut off
      obtain ⟨-, hdeeper⟩ := hroom.resolve_left (Nat.succ_ne_zero _)
      unfold Node.schemaWithin
      refine (same_slot? hn).bind fun
        | some slot => .pure _
        | none => ?_
      exact same_of_partsBy (partsBy_of_deeper hdeeper rfl) n.scope n.pointer fun _ hw => hw
  | succ room ih =>
    obtain ⟨left, rfl, hleft⟩ := hroom.of_succ
    unfold Node.schemaWithin
    rw [blankSchema_node hn]
    refine (same_slot? hn).bind fun
      | some slot => .pure _
      | none => ?_
    refine (same_allocate _).bind fun id => (h.setSlot hn _).bind fun _ => ?_
    refine (same_schemaHere hn fun _ _ _ _ hm => ih hleft hm).bind fun s => ?_
    exact (h.change id s).bind fun _ => (h.setSlot hn _).bind fun _ => .pure _

theorem Enters.same_schema (h : t.Enters) (hn : t.known n.scope) :
    t.Same n.schema (t.node n).schema :=
  h.same_schemaWithin (t.maxDepth hn) hn

end Simulation

end ApiDescription
