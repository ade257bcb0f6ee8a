import ApiDescription.Proofs.Binding.Insular
import ApiDescription.Proofs.Binding.Places
import ApiDescription.Proofs.Import
import ApiDescription.Proofs.Schema.Depth

/-!
# Schemas in a run that does not leave its document

The two runs read different schemas, in a different order, and one that was read on the way through
another document in the first run may be met elsewhere in the second one.  But whatever is met in the
second run was met in the first one, at some time, and it was read then.  So what the second run finds
at a node can be compared with what the first run found at that node when it read it, not with what the
first run is doing meanwhile: `Node.staysBehind_schemaWithin`.
-/

namespace ApiDescription

open Binding Tandem

/-- What a run leaves that finds no error: no schema was cut off, and every schema that was met was
read at its node. -/
structure Workspace.Accepted (S : Setting) (W : Workspace) : Prop where
  /-- The documents are well-formed. -/
  wellFormed : S.registry.WellFormed
  /-- The schemas have the places of their nodes. -/
  sound : W.Sound S
  /-- There is no error. -/
  errors : W.report.hasErrors = false
  /-- What was met was read. -/
  remembers : ∀ entry ∈ W.slots, W.Remembers (Node.Sited S) entry.1

/-- What was met at a node was read there. -/
theorem Workspace.Accepted.exists_read {S : Setting} {W : Workspace} (hW : W.Accepted S) {n : Node}
    (hn : n.Sited S) (hmet : W.Visited n.site) :
    ∃ room before, (n.schemaHere (Node.schemaWithin room) before).2.Before W := by
  obtain ⟨slot, hslot⟩ := hmet
  rcases hW.remembers _ hslot with ⟨m, room, before, hm, hsite, hread⟩ | ⟨limit, label, p, hcut⟩
  · have hscope : m.scope = n.scope := hm.scope.ext hn.scope (congrArg Site.document hsite)
    obtain rfl := Node.Sited.ext hW.wellFormed hm hn hscope (congrArg Site.pointer hsite)
    exact ⟨room, before, hread⟩
  · exact absurd rfl (Report.hasErrors_eq_false_iff.mp hW.errors _ hcut)

/-- There is a schema for a node that was met. -/
theorem Workspace.Accepted.exists_at {S : Setting} {W : Workspace} (hW : W.Accepted S) {n : Node}
    (hn : n.Sited S) (hmet : W.Visited n.site) : ∃ id, W.graph.At n.scope.label n.pointer id := by
  obtain ⟨slot, hslot⟩ := hmet
  exact ⟨slot.id, hW.sound.at_of_mem hn hslot⟩

/-- Two ways to read the schemas below: the first one adds to the workspace and meets the node, and
the second one gets no further at nodes that were met in the end. -/
structure SchemaReader.Pair (S : Setting) (W : Workspace) (read read' : SchemaReader) : Prop where
  /-- The first run adds to its workspace. -/
  adds {n : Node} (hn : n.Sited S) : Adds W (read n)
  /-- The first run meets the node. -/
  visits (n : Node) (w : Workspace) : (read n w).2.Visited n.site
  /-- The second run stays behind at nodes that were met. -/
  staysBehind {n : Node} (hn : n.Sited S) (hmet : W.Visited n.site) : StaysBehind W (read' n.insular)

namespace SchemaReader.Pair

variable {S : Setting} {W : Workspace} {read read' : SchemaReader} {n : Node} {r : Record}
  (hread : Pair S W read read')
include hread

/-- The first run beside itself. -/
theorem agree (hn : n.Sited S) (before : Workspace) :
    (Simulation.receding S (Workspace.recedes_before W) before).Agree read read n :=
  fun _ => (hread.adds hn).same _ before

/-- What the first run reads at a node leads to the end, so that the node was met there. -/
theorem follows (hn : n.Sited S) : Trailing W (read n) (read' n.insular) := by
  intro w w' hw
  refine ⟨trivial, fun hleads => hread.staysBehind hn ?_ w' (hw (hread.adds hn w hleads))⟩
  exact (hread.visits n w).before hleads

/-! ## References -/

theorem adds_referenceState (hr : r.Sited S) (text : String) (at_ : Pointer) :
    Adds W (r.referenceState read text at_) :=
  .of_same (Workspace.recedes_before W) fun before =>
    Simulation.same_referenceState hr.scope text at_ fun _ hn =>
      hread.agree (hr.scope.locate hn) before

theorem visits_referenceState {target : Node} {text : String} (h : r.scope.locate text = .ok target)
    (at_ : Pointer) (w : Workspace) : (r.referenceState read text at_ w).2.Visited target.site := by
  unfold Record.referenceState
  rw [h]
  dsimp only
  rw [slot?_bind]
  cases hslot : w.slot? target.site with
  | none => exact hread.visits target w
  | some slot => cases slot <;> exact Workspace.visited_of_slot? hslot

theorem staysBehind_referenceState (hr : r.Sited S) {target : Node} {text : String}
    (h : r.scope.locate text = .ok target) (h' : r.insular.scope.locate text = .ok target.insular)
    (hmet : W.Visited target.site) (at_ : Pointer) :
    StaysBehind W (r.insular.referenceState read' text at_) := by
  intro w hw
  unfold Record.referenceState
  rw [h']
  dsimp only
  rw [slot?_bind]
  cases w.slot? target.insular.site with
  | none => exact hread.staysBehind (hr.scope.locate h) hmet w hw
  | some slot => cases slot <;> exact hw

theorem follows_referenceState (hr : r.Sited S) (text : String) (at_ : Pointer) :
    Trailing W (r.referenceState read text at_) (r.insular.referenceState read' text at_) := by
  rcases r.scope.locate_insular text with hleft | hsame
  · replace hleft : r.insular.scope.locate text = _ := hleft
    refine .apart (hread.adds_referenceState hr text at_) ?_
    unfold Record.referenceState
    rw [hleft]
    exact (staysBehind_tell rfl _ _).bind fun _ w hw => hw
  · replace hsame : r.insular.scope.locate text = _ := hsame
    cases hlocate : r.scope.locate text with
    | error f =>
      rw [hlocate] at hsame
      unfold Record.referenceState
      rw [hlocate, hsame]
      exact (follows_tell r.scope at_ f).seq fun _ _ => .pure trivial
    | ok target =>
      rw [hlocate] at hsame
      intro w w' hw
      refine ⟨trivial, fun hleads => hread.staysBehind_referenceState hr hlocate hsame ?_ at_ w' ?_⟩
      · exact (hread.visits_referenceState hlocate at_ w).before hleads
      · exact hw (hread.adds_referenceState hr text at_ w hleads)

theorem follows_referenceSchema (hr : r.Sited S) (text : String) :
    Trailing W (r.referenceSchema read text) (r.insular.referenceSchema read' text) := by
  have hstate := hread.follows_referenceState hr text (r.pointer.push referenceKey)
  have hversion : r.insular.scope.followsJsonSchema = r.scope.followsJsonSchema := rfl
  have hignored : r.insular.ignoredSiblings = r.ignoredSiblings := rfl
  unfold Record.referenceSchema
  rw [hversion, hignored]
  refine .ite ?_ (.ite ?_ ?_)
  · exact .same_bind (same_text? (t := .insular W) trivial _) fun _ =>
      .same_bind (same_text? (t := .insular W) trivial _) fun _ =>
        .same_bind (Same.pure _) fun _ => hstate.seq fun _ _ => .pure trivial
  · exact (follows_tell _ _ _).seq fun _ _ =>
      .same_bind (Same.pure _) fun _ => hstate.seq fun _ _ => .pure trivial
  · exact .same_bind (Same.pure _) fun _ => hstate.seq fun _ _ => .pure trivial

/-! ## Parts -/

theorem follows_schemaList (hr : r.Sited S) (key : String) :
    Trailing W (r.schemaList read key) (r.insular.schemaList read' key) := by
  unfold Record.schemaList
  refine follows_field r key (.pure trivial) fun n hn => ?_
  refine follows_items n _ (.each fun m hm => hread.follows ((hr.field hn).item hm))

theorem follows_schema? (hr : r.Sited S) (key : String) :
    Trailing W (r.schema? read key) (r.insular.schema? read' key) := by
  unfold Record.schema?
  refine follows_field r key (.pure trivial) fun n hn => ?_
  exact (hread.follows (hr.field hn)).seq fun _ _ => .pure trivial

theorem follows_properties (hr : r.Sited S) :
    Trailing W (r.readAll "properties" fun n => return some (← read n))
      (r.insular.readAll "properties" fun n => return some (← read' n)) := by
  refine trailing_readAll r _ fun inner hinner field hfield => ?_
  have hinner : inner.Sited S := hr.field hinner
  exact (hread.follows (hinner.fields hfield)).seq fun _ _ => .pure trivial

theorem follows_additionalProperties (hr : r.Sited S) :
    Trailing W (r.additionalProperties read) (r.insular.additionalProperties read') := by
  unfold Record.additionalProperties
  refine follows_field r _ (.pure trivial) fun n hn => ?_
  obtain ⟨c, p, value⟩ := n
  cases value with
  | bool value => exact .pure trivial
  | object members => exact (hread.follows (hr.field hn)).seq fun _ _ => .pure trivial
  | _ => exact (follows_tell _ _ _).seq fun _ _ => .pure trivial

theorem follows_objectShape (hr : r.Sited S) :
    Trailing W (r.objectShape read) (r.insular.objectShape read') := by
  refine (hread.follows_properties hr).seq fun _ _ => ?_
  refine .same_bind (same_texts (t := .insular W) trivial _) fun _ => ?_
  refine (hread.follows_additionalProperties hr).seq fun _ _ => ?_
  refine .same_bind (same_count? (t := .insular W) trivial _) fun _ => ?_
  exact .same_bind (same_count? (t := .insular W) trivial _) fun _ => .pure trivial

theorem follows_itemSchema? (hr : r.Sited S) :
    Trailing W (r.itemSchema? read) (r.insular.itemSchema? read') := by
  unfold Record.itemSchema?
  refine follows_field r _ (.pure trivial) fun n hn => ?_
  have hother := hread.follows (hr.field hn)
  obtain ⟨c, p, value⟩ := n
  cases value with
  | array items => exact (follows_tell _ _ _).seq fun _ _ => .pure trivial
  | _ => exact hother.seq fun _ _ => .pure trivial

theorem follows_arrayShape (hr : r.Sited S) :
    Trailing W (r.arrayShape read) (r.insular.arrayShape read') := by
  refine (hread.follows_itemSchema? hr).seq fun items items' =>
    .ite_bind (hread.follows_schemaList hr _) (fun _ _ _ => ?_) fun hrest => ?_
  · exact .same_bind (same_count? (t := .insular W) trivial _) fun _ =>
      .same_bind (same_count? (t := .insular W) trivial _) fun _ =>
        .same_bind (same_flag (t := .insular W) trivial _) fun _ => .pure trivial
  · exact .same_bind (same_refuse (t := .insular W) trivial _) fun _ =>
      .same_bind (Same.pure _) fun _ => hrest _ _ trivial

/-! ## Types -/

theorem follows_untypedShape (hr : r.Sited S) :
    Trailing W (r.untypedShape read) (r.insular.untypedShape read') := by
  refine .ite ?_ (.ite ?_ (.pure trivial))
  · exact (hread.follows_objectShape hr).seq fun _ _ => .pure trivial
  · exact (hread.follows_arrayShape hr).seq fun _ _ => .pure trivial

theorem follows_typedShape (hr : r.Sited S) (name : String) :
    Trailing W (r.typedShape read name) (r.insular.typedShape read' name) := by
  unfold Record.typedShape
  refine .ite ((hread.follows_objectShape hr).seq fun _ _ => .pure trivial) (.ite ?_ ?_)
  · refine .ite_bind (follows_tell _ _ _) (fun _ _ _ => ?_) fun hrest => hrest () () rfl
    exact (hread.follows_arrayShape hr).seq fun _ _ => .pure trivial
  · split
    · exact .same_bind (same_scalarShape (t := .insular W) trivial _) fun _ => .pure trivial
    · exact .pure trivial

omit hread in
/-- Adding a schema is no finding. -/
theorem follows_allocate (s s' : Schema) : Trailing W (allocate s) (allocate s') :=
  .apart (fun _ h => ⟨h.findings, h.slots⟩) fun _ h => ⟨h.findings, h.sites⟩

theorem follows_shapeOfTypes (hr : r.Sited S) (names : List String) :
    Trailing W (r.shapeOfTypes read names) (r.insular.shapeOfTypes read' names) := by
  match names with
  | [] => exact hread.follows_untypedShape hr
  | [name] => exact hread.follows_typedShape hr name
  | first :: second :: rest =>
    have hmembers : Trailing W (each (r.memberOfType read) (first :: second :: rest))
        (each (r.insular.memberOfType read') ((first :: second :: rest).map id)) :=
      .each fun name _ => (hread.follows_typedShape hr name).seq fun _ _ => follows_allocate _ _
    rw [List.map_id] at hmembers
    exact hmembers.seq fun _ _ => .pure trivial

/-! ## Discriminators and compositions -/

theorem follows_mapping {entries : Record} (hr : r.Sited S) :
    Trailing W (Record.readFields entries.fields (Record.mappingEntry read r entries))
      (Record.readFields entries.insular.fields
        (Record.mappingEntry read' r.insular entries.insular)) := by
  rw [Record.fields_insular]
  refine trailing_readFields ?_
  rintro ⟨key, c, p, value⟩ -
  cases value with
  | string name => exact (hread.follows_referenceState hr _ _).seq fun _ _ => .pure trivial
  | _ => exact (follows_tell _ _ _).seq fun _ _ => .pure trivial

theorem follows_discriminator? (hr : r.Sited S) :
    Trailing W (r.discriminator? read) (r.insular.discriminator? read') := by
  refine follows_fieldRecord? r _ (.pure trivial) fun d _ => ?_
  refine .eq_bind (follows_requiredText? _ _ _) fun
    | none => .pure trivial
    | some propertyName => ?_
  refine follows_fieldRecord? d _ (.pure trivial) fun entries _ => ?_
  exact (hread.follows_mapping hr).seq fun _ _ => .pure trivial

omit hread in
theorem adds_withDiscriminator (hr : r.Sited S) (shape : Shape) (d : Discriminator) :
    Adds W (r.withDiscriminator shape d) :=
  .of_same (S := S) (Workspace.recedes_before W) fun _ => same_withDiscriminator hr.scope shape d

omit hread in
/-- A discriminator that is misplaced is no error. -/
theorem staysBehind_withDiscriminator (shape : Shape) (d : Discriminator) :
    StaysBehind W (r.withDiscriminator shape d) := by
  unfold Record.withDiscriminator
  split
  · exact fun _ hw => hw
  · exact fun _ hw => hw
  · exact fun _ hw => hw
  · exact (staysBehind_tell rfl _ _).bind fun _ _ hw => hw

omit hread in
theorem follows_inlined? (shape shape' : Shape) :
    Trailing W (r.inlined? shape) (r.insular.inlined? shape') := by
  refine .apart ?_ ?_
  · unfold Record.inlined?
    split
    · exact fun _ h => h
    · exact fun _ h => ⟨h.findings, h.slots⟩
  · unfold Record.inlined?
    split
    · exact fun _ h => h
    · exact fun _ h => ⟨h.findings, h.sites⟩

theorem follows_shape (hr : r.Sited S) (names : List String) :
    Trailing W (r.shape read names) (r.insular.shape read' names) := by
  refine (hread.follows_shapeOfTypes hr names).seq fun structural structural' => ?_
  refine (hread.follows_discriminator? hr).bind fun d? d?' _ => .ite ?_ ?_
  · refine .apart ?_ ?_
    · cases d? with
      | none => exact fun _ h => h
      | some d => exact adds_withDiscriminator hr structural d
    · cases d?' with
      | none => exact fun _ h => h
      | some d => exact staysBehind_withDiscriminator structural' d
  · refine (hread.follows_schemaList hr _).seq fun _ _ => ?_
    refine (hread.follows_schemaList hr _).seq fun _ _ => ?_
    refine (hread.follows_schemaList hr _).seq fun _ _ => ?_
    refine (hread.follows_schema? hr _).seq fun _ _ => ?_
    exact (follows_inlined? structural structural').seq fun _ _ => .pure trivial

/-! ## Schemas -/

theorem follows_recordSchema (hr : r.Sited S) :
    Trailing W (r.schemaHere read) (r.insular.schemaHere read') := by
  have hmembers : r.insular.members = r.members := rfl
  unfold Record.schemaHere
  rw [hmembers]
  split
  · exact hread.follows_referenceSchema hr _
  · exact (follows_tell _ _ _).seq fun _ _ => .pure trivial
  · refine .same_bind (same_annotated (t := .insular W) trivial) fun _ => ?_
    refine .same_bind (same_types (t := .insular W) trivial) fun types => ?_
    exact (hread.follows_shape hr types.names).seq fun _ _ => .pure trivial

/-- What the second run finds at a node is what the first run finds there. -/
theorem follows_schemaHere (hn : n.Sited S) :
    Trailing W (n.schemaHere read) (n.insular.schemaHere read') := by
  obtain ⟨c, p, value⟩ := n
  cases value with
  | object members => exact hread.follows_recordSchema (r := ⟨c, p, members⟩) hn
  | bool accepts =>
    exact .ite (.pure trivial) ((follows_tell _ _ _).seq fun _ _ => .pure trivial)
  | _ => exact (follows_tell _ _ _).seq fun _ _ => .pure trivial

end SchemaReader.Pair

/-! ## Numbers of schemas -/

/-- One more schema was met, at a site where one was met in the end. -/
theorem Workspace.Trails.met {w W : Workspace} (h : w.Trails W) {site : Site}
    (hmet : W.Visited site) (slot : Slot) (g : SchemaGraph) :
    Trails ⟨g, (site, slot) :: w.slots, w.report⟩ W where
  findings := h.findings
  sites entry hentry := by
    rcases List.mem_cons.mp hentry with rfl | hold
    · exact hmet
    · exact h.sites entry hold

/-- A schema that was read was met. -/
theorem Node.visited_schemaWithin (room : Nat) (n : Node) (w : Workspace) :
    (n.schemaWithin room w).2.Visited n.site := by
  obtain ⟨slot, hslot⟩ := Option.ne_none_iff_exists'.mp (slot?_schemaWithin_ne_none room n w)
  exact Workspace.visited_of_slot? hslot

section Numbers

variable {S : Setting} {W : Workspace} (hW : W.Accepted S)
include hW

/-- Wherever the schema was met in the end, the second run gets no further by reading it: it finds
there what the first run found when it read the schema, however much room it had, and reads below
what the first run read. -/
theorem Node.staysBehind_schemaWithin (room : Nat) {n : Node} (hn : n.Sited S)
    (hmet : W.Visited n.site) : StaysBehind W (n.insular.schemaWithin room) := by
  induction room generalizing n with
  | zero =>
    intro w hw
    cases hslot : w.slot? n.insular.site with
    | some slot =>
      rw [schemaWithin_of_met hslot]
      exact hw
    | none =>
      rw [schemaWithin_zero hslot]
      obtain ⟨id, hat⟩ := hW.exists_at hn hmet
      exact (hw.told (.inr fun _ => ⟨_, _, _, id, rfl, hat⟩)).met hmet _ _
  | succ room ih =>
    intro w hw
    cases hslot : w.slot? n.insular.site with
    | some slot =>
      rw [schemaWithin_of_met hslot]
      exact hw
    | none =>
      rw [schemaWithin_succ hslot]
      obtain ⟨room', before, hleads⟩ := hW.exists_read hn hmet
      have hpair : SchemaReader.Pair S W (schemaWithin room') (schemaWithin room) :=
        ⟨fun hn => recedes_schemaWithin (Workspace.recedes_before W) room' hn.scope,
          visited_schemaWithin room', fun hn hmet => ih hn hmet⟩
      have hopening : (w.opening n.insular).Trails W := hw.met hmet _ _
      have hread := (hpair.follows_schemaHere hn before _ fun _ => hopening).2 hleads
      exact hread.met hmet _ _

/-- The schemas outside of schemas are read side by side. -/
theorem Node.follows_schema {n : Node} (hn : n.Sited S) : Trailing W n.schema n.insular.schema := by
  have hpair : SchemaReader.Pair S W (schemaWithin n.scope.setting.options.maxDepth)
      (schemaWithin n.scope.setting.options.maxDepth) :=
    ⟨fun hn => recedes_schemaWithin (Workspace.recedes_before W) _ hn.scope,
      visited_schemaWithin _, staysBehind_schemaWithin hW _⟩
  exact hpair.follows hn

end Numbers

end ApiDescription
