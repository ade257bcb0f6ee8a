import ApiDescription.Proofs.Binding.Reading

/-!
# What is done inside of schemas

While the parts of a schema are read, findings are added, what was met at nodes is looked up, parts
that stand for no node of their own are added, and schemas below are read; nothing else is done to
the workspace.  `Binding.Inner` is the least class of steps of which this is so, over an arbitrary
way to read the schemas below, and `Node.inner_schemaHere` says that all that is read of a schema is
in it.

So what findings and parts do not break holds after a schema was read at a node, if the same can be
said of the schemas below: `Binding.Inner.keeps`.
-/

namespace ApiDescription

open Binding

/-- Steps that add findings and parts of schemas, look up what was met, and read schemas. -/
inductive Binding.Inner : {α : Type} → (SchemaReader → Binding α) → Prop
  /-- Only findings are added. -/
  | tells {α : Type} {m : Binding α} (hm : m.OnlyTells) : Inner fun _ => m
  /-- What was met at a node is looked up. -/
  | slot? (site : Site) : Inner fun _ => Binding.slot? site
  /-- A part of the schema of an object is added. -/
  | part (r : Record) (shape : Shape) :
      Inner fun _ => Binding.allocate { r.blankSchema with shape }
  /-- The schema at a node is read. -/
  | read (n : Node) : Inner fun read => read n
  /-- One step after the other. -/
  | bind {α β : Type} {F : SchemaReader → Binding α} {G : α → SchemaReader → Binding β}
      (hF : Inner F) (hG : ∀ a, Inner (G a)) : Inner fun read => F read >>= fun a => G a read

namespace Binding

variable {α β : Type}

/-- What findings and parts of schemas do not break, and what reading a schema does not break. -/
structure Remains (read : SchemaReader) (P : Workspace → Prop) : Prop where
  /-- It holds when findings were added. -/
  told {w : Workspace} (h : P w) (found : Report) : P { w with report := w.report.append found }
  /-- It holds when a part was added. -/
  part {w : Workspace} (h : P w) (r : Record) (shape : Shape) :
    P { w with graph := w.graph.push { r.blankSchema with shape } }
  /-- It holds when a schema was read. -/
  read {w : Workspace} (h : P w) (n : Node) : P (read n w).2

namespace Inner

/-- What remains inside of schemas still holds after each step there. -/
theorem keeps {read : SchemaReader} {P : Workspace → Prop} (hP : Remains read P)
    {F : SchemaReader → Binding α} (hF : Inner F) {w : Workspace} (hw : P w) :
    P (F read w).2 := by
  induction hF generalizing w with
  | tells hm =>
    obtain ⟨found, hrun⟩ := hm.run
    dsimp only
    rw [hrun]
    exact hP.told hw found
  | slot? site => exact hw
  | part r shape => exact hP.part hw r shape
  | read n => exact hP.read hw n
  | bind _ _ ihF ihG => exact ihG _ (ihF hw)

protected theorem pure (a : α) : Inner fun _ => (pure a : Binding α) := .tells (.pure a)

protected theorem ite {c : Prop} [Decidable c] {F G : SchemaReader → Binding α} (hF : Inner F)
    (hG : Inner G) : Inner fun read => if c then F read else G read := by
  by_cases hc : c
  · simpa only [if_pos hc] using hF
  · simpa only [if_neg hc] using hG

/-- A choice with something after it: what is shown of it behind the one arm is at hand in the
other. -/
protected theorem ite_bind {c : Prop} [Decidable c] {F : SchemaReader → Binding β}
    {G : β → SchemaReader → Binding α} {K : SchemaReader → Binding α} (hF : Inner F)
    (hG : ∀ b, Inner (G b)) (hK : (∀ b, Inner (G b)) → Inner K) :
    Inner fun read => if c then F read >>= fun b => G b read else K read :=
  .ite (hF.bind hG) (hK hG)

protected theorem each {step : SchemaReader → α → Binding β} {l : List α}
    (h : ∀ a ∈ l, Inner fun read => step read a) :
    Inner fun read => Binding.each (step read) l := by
  induction l with
  | nil => exact .pure []
  | cons a rest ih =>
    refine (h a List.mem_cons_self).bind fun _ => ?_
    exact (ih fun a ha => h a (List.mem_cons_of_mem _ ha)).bind fun _ => .pure _

protected theorem collect {step : SchemaReader → α → Binding (Option β)} {l : List α}
    (h : ∀ a ∈ l, Inner fun read => step read a) :
    Inner fun read => Binding.collect (step read) l := by
  induction l with
  | nil => exact .pure []
  | cons a rest ih =>
    refine (h a List.mem_cons_self).bind fun _ => ?_
    exact (ih fun a ha => h a (List.mem_cons_of_mem _ ha)).bind fun _ => .pure _

theorem readFields {fields : List (String × Node)}
    {step : SchemaReader → String → Node → Binding (Option α)}
    (h : ∀ field ∈ fields, Inner fun read => step read field.1 field.2) :
    Inner fun read => Record.readFields fields (step read) :=
  .collect fun field hfield => (h field hfield).bind fun _ => .pure _

end Inner

end Binding

namespace Record

variable (r : Record)

/-! ## References -/

theorem inner_referenceState (text : String) (at_ : Pointer) :
    Inner fun read => r.referenceState read text at_ := by
  cases hlocate : r.scope.locate text with
  | error f =>
    simp only [referenceState, hlocate]
    exact .bind (.tells (Binding.onlyTells_tell _ _ _)) fun _ => .pure _
  | ok target =>
    simp only [referenceState, hlocate]
    refine .bind (.slot? _) fun slot? => ?_
    rcases slot? with - | ⟨id⟩ | ⟨id⟩
    · exact .bind (.read target) fun _ => .pure _
    · exact .pure _
    · exact .pure _

theorem inner_referenceSchema (text : String) :
    Inner fun read => r.referenceSchema read text := by
  have hstate := r.inner_referenceState text (r.pointer.push referenceKey)
  refine .ite ?_ (.ite ?_ ?_)
  · refine .bind (.tells (r.onlyTells_text? _)) fun _ => .bind (.tells (r.onlyTells_text? _)) ?_
    exact fun _ => .bind (.pure _) fun _ => hstate.bind fun _ => .pure _
  · refine .bind (.tells (r.onlyTells_tell _)) fun _ => .bind (.pure _) fun _ => ?_
    exact hstate.bind fun _ => .pure _
  · exact .bind (.pure _) fun _ => hstate.bind fun _ => .pure _

/-! ## Parts -/

theorem inner_schemaList (key : String) : Inner fun read => r.schemaList read key := by
  cases hn : r.field? key with
  | none =>
    simp only [schemaList, hn]
    exact .pure _
  | some n =>
    simp only [schemaList, hn]
    exact .bind (.tells (n.onlyTells_items _)) fun _ => .each fun item _ => .read item

theorem inner_schema? (key : String) : Inner fun read => r.schema? read key := by
  cases hn : r.field? key with
  | none =>
    simp only [schema?, hn]
    exact .pure _
  | some n =>
    simp only [schema?, hn]
    exact .bind (.read n) fun _ => .pure _

theorem inner_additionalProperties : Inner fun read => r.additionalProperties read := by
  cases hn : r.field? "additionalProperties" with
  | none =>
    simp only [additionalProperties, hn]
    exact .pure _
  | some n =>
    cases hvalue : n.value with
    | bool value =>
      simp only [additionalProperties, hn, hvalue]
      exact .pure _
    | object members =>
      simp only [additionalProperties, hn, hvalue]
      exact .bind (.read n) fun _ => .pure _
    | _ =>
      simp only [additionalProperties, hn, hvalue]
      exact .bind (.tells (r.onlyTells_tellMistyped _ _ _)) fun _ => .pure _

theorem inner_properties :
    Inner fun read => r.readAll "properties" fun n => return some (← read n) := by
  refine .bind (.tells (r.onlyTells_record? _)) fun inner? => ?_
  cases inner? with
  | none => exact .pure _
  | some inner => exact .readFields fun field _ => .bind (.read field.2) fun _ => .pure _

theorem inner_objectShape : Inner fun read => r.objectShape read := by
  refine r.inner_properties.bind fun _ => .bind (.tells (r.onlyTells_texts _)) fun _ => ?_
  refine r.inner_additionalProperties.bind fun _ => ?_
  refine .bind (.tells (r.onlyTells_count? _)) fun _ => ?_
  exact .bind (.tells (r.onlyTells_count? _)) fun _ => .pure _

theorem inner_itemSchema? : Inner fun read => r.itemSchema? read := by
  cases hn : r.field? "items" with
  | none =>
    simp only [itemSchema?, hn]
    exact .pure _
  | some n =>
    cases hvalue : n.value with
    | array items =>
      simp only [itemSchema?, hn, hvalue]
      exact .bind (.tells (n.onlyTells_tell _)) fun _ => .pure _
    | _ =>
      simp only [itemSchema?, hn, hvalue]
      exact .bind (.read n) fun _ => .pure _

theorem inner_arrayShape : Inner fun read => r.arrayShape read := by
  refine r.inner_itemSchema?.bind fun _ => .ite_bind (r.inner_schemaList _) ?_ ?_
  · refine fun _ => .bind (.tells (r.onlyTells_count? _)) fun _ => ?_
    refine .bind (.tells (r.onlyTells_count? _)) fun _ => ?_
    exact .bind (.tells (r.onlyTells_flag _)) fun _ => .pure _
  · exact fun hrest => .bind (.tells (r.onlyTells_refuse _)) fun _ => .bind (.pure _) hrest

/-! ## Types -/

theorem inner_untypedShape : Inner fun read => r.untypedShape read := by
  refine .ite (r.inner_objectShape.bind fun _ => .pure _) (.ite ?_ (.pure _))
  exact r.inner_arrayShape.bind fun _ => .pure _

theorem inner_typedShape (name : String) : Inner fun read => r.typedShape read name := by
  refine .ite (r.inner_objectShape.bind fun _ => .pure _) (.ite ?_ ?_)
  · refine .ite_bind (.tells (r.onlyTells_tell _)) (fun _ => ?_) fun hrest => hrest ()
    exact r.inner_arrayShape.bind fun _ => .pure _
  · cases ScalarType.ofName? name with
    | none => exact .pure _
    | some type => exact .bind (.tells (r.onlyTells_scalarShape _)) fun _ => .pure _

theorem inner_memberOfType (name : String) : Inner fun read => r.memberOfType read name :=
  (r.inner_typedShape name).bind fun shape => .part r shape

theorem inner_shapeOfTypes (names : List String) :
    Inner fun read => r.shapeOfTypes read names := by
  match names with
  | [] => exact r.inner_untypedShape
  | [name] => exact r.inner_typedShape name
  | first :: second :: rest =>
    exact .bind (.each fun name _ => r.inner_memberOfType name) fun _ => .pure _

/-! ## Discriminators and compositions -/

theorem inner_mappingEntry (entries : Record) (key : String) (n : Node) :
    Inner fun read => mappingEntry read r entries key n := by
  cases hvalue : n.value with
  | string name =>
    simp only [mappingEntry, hvalue]
    exact (r.inner_referenceState _ _).bind fun _ => .pure _
  | _ =>
    simp only [mappingEntry, hvalue]
    exact .bind (.tells (entries.onlyTells_tellMistyped _ _ _)) fun _ => .pure _

theorem inner_discriminator? : Inner fun read => r.discriminator? read := by
  refine .bind (.tells (r.onlyTells_record? _)) fun d? => ?_
  rcases d? with - | d
  · exact .pure _
  refine .bind (.tells (d.onlyTells_requiredText? _ _)) fun propertyName? => ?_
  rcases propertyName? with - | propertyName
  · exact .pure _
  refine .bind (.tells (d.onlyTells_record? _)) fun entries? => ?_
  rcases entries? with - | entries
  · exact .bind (.pure _) fun _ => .pure _
  · have hmapping : Inner fun read =>
        readFields entries.fields (mappingEntry read r entries) :=
      .readFields fun field _ => r.inner_mappingEntry entries field.1 field.2
    exact hmapping.bind fun _ => .pure _

theorem inner_inlined? (shape : Shape) : Inner fun _ => r.inlined? shape := by
  cases shape with
  | any => exact .pure _
  | _ => exact .bind (.part r _) fun _ => .pure _

theorem inner_shape (names : List String) : Inner fun read => r.shape read names := by
  refine (r.inner_shapeOfTypes names).bind fun structural => ?_
  refine r.inner_discriminator?.bind fun discriminator => .ite ?_ ?_
  · cases discriminator with
    | none => exact .pure _
    | some d => exact .tells (r.onlyTells_withDiscriminator _ _)
  · refine (r.inner_schemaList _).bind fun _ => (r.inner_schemaList _).bind fun _ => ?_
    refine (r.inner_schemaList _).bind fun _ => (r.inner_schema? _).bind fun _ => ?_
    exact (r.inner_inlined? _).bind fun _ => .pure _

theorem inner_schemaHere : Inner fun read => r.schemaHere read := by
  cases hreference : r.members.get? referenceKey with
  | none =>
    simp only [schemaHere, hreference]
    refine .bind (.tells r.onlyTells_annotated) fun _ => ?_
    refine .bind (.tells r.onlyTells_types) fun _ => ?_
    exact (r.inner_shape _).bind fun _ => .pure _
  | some value =>
    cases value with
    | string text => simpa only [schemaHere, hreference] using r.inner_referenceSchema text
    | _ =>
      simp only [schemaHere, hreference]
      exact .bind (.tells (r.onlyTells_tellMistyped _ _ _)) fun _ => .pure _

end Record

theorem Node.inner_schemaHere (n : Node) : Inner fun read => n.schemaHere read := by
  cases hvalue : n.value with
  | object members =>
    simpa only [schemaHere, hvalue] using Record.inner_schemaHere ⟨n.scope, n.pointer, members⟩
  | bool accepts =>
    simp only [schemaHere, hvalue]
    exact .ite (.pure _) (.bind (.tells (n.onlyTells_tell _)) fun _ => .pure _)
  | _ =>
    simp only [schemaHere, hvalue]
    exact .bind (.tells (n.onlyTells_tell _)) fun _ => .pure _

end ApiDescription
