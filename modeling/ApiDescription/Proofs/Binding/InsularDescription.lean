import ApiDescription.Proofs.Binding.InsularSchema
import ApiDescription.Proofs.Traversal

/-!
# Descriptions in a run that does not leave its document

Besides schemas, what the second run does not get are parameters, responses, path items and callbacks
that stand behind references out of the document.  All that it gets is like something that the first
run got: `Record.follows_description`.
-/

namespace ApiDescription

open Binding Tandem

/-! ## What is lost -/

/-- Some elements of a list were lost, each for a reason, and each other one has another in its
place. -/
inductive Thinned {α β : Type} (Lost : α → Prop) (R : α → β → Prop) : List α → List β → Prop
  | nil : Thinned Lost R [] []
  | keep {a : α} {b : β} {as : List α} {bs : List β} (h : R a b) (hrest : Thinned Lost R as bs) :
      Thinned Lost R (a :: as) (b :: bs)
  | lose {a : α} {as : List α} {bs : List β} (h : Lost a) (hrest : Thinned Lost R as bs) :
      Thinned Lost R (a :: as) bs

namespace Thinned

variable {α β γ δ : Type} {Lost : α → Prop} {R : α → β → Prop} {as : List α} {bs : List β}

theorem append (h : Thinned Lost R as bs) {as' : List α} {bs' : List β}
    (h' : Thinned Lost R as' bs') : Thinned Lost R (as ++ as') (bs ++ bs') := by
  induction h with
  | nil => exact h'
  | keep h _ ih => exact .keep h ih
  | lose h _ ih => exact .lose h ih

/-- Each element that is left stands for one that was there. -/
theorem exists_of_mem (h : Thinned Lost R as bs) {b : β} (hb : b ∈ bs) : ∃ a ∈ as, R a b := by
  induction h with
  | nil => cases hb
  | @keep a b' as bs h _ ih =>
    rcases List.mem_cons.mp hb with rfl | hb
    · exact ⟨a, List.mem_cons_self, h⟩
    · obtain ⟨a', ha', hr⟩ := ih hb
      exact ⟨a', List.mem_cons_of_mem _ ha', hr⟩
  | lose _ _ ih =>
    obtain ⟨a', ha', hr⟩ := ih hb
    exact ⟨a', List.mem_cons_of_mem _ ha', hr⟩

/-- Each element that was there is lost or has one in its place. -/
theorem lost_or_exists (h : Thinned Lost R as bs) {a : α} (ha : a ∈ as) :
    Lost a ∨ ∃ b ∈ bs, R a b := by
  induction h with
  | nil => cases ha
  | @keep a' b as bs h _ ih =>
    rcases List.mem_cons.mp ha with rfl | ha
    · exact .inr ⟨b, List.mem_cons_self, h⟩
    · obtain hlost | ⟨b', hb', hr⟩ := ih ha
      · exact .inl hlost
      · exact .inr ⟨b', List.mem_cons_of_mem _ hb', hr⟩
  | lose h _ ih =>
    rcases List.mem_cons.mp ha with rfl | ha
    · exact .inl h
    · exact ih ha

theorem imp (h : Thinned Lost R as bs) {R' : α → β → Prop} (himp : ∀ a b, R a b → R' a b) :
    Thinned Lost R' as bs := by
  induction h with
  | nil => exact .nil
  | keep h _ ih => exact .keep (himp _ _ h) ih
  | lose h _ ih => exact .lose h ih

theorem map {Lost' : γ → Prop} {R' : γ → δ → Prop} {f : α → γ} {g : β → δ} (h : Thinned Lost R as bs)
    (hlost : ∀ a, Lost a → Lost' (f a)) (hr : ∀ a b, R a b → R' (f a) (g b)) :
    Thinned Lost' R' (as.map f) (bs.map g) := by
  induction h with
  | nil => exact .nil
  | keep h _ ih => exact .keep (hr _ _ h) ih
  | lose h _ ih => exact .lose (hlost _ h) ih

/-- Where elements of two lists are replaced by lists, which are thinned in turn. -/
theorem flatMap {Lost' : γ → Prop} {R' : γ → δ → Prop} {f : α → List γ} {g : β → List δ}
    (h : Thinned Lost R as bs) (hlost : ∀ a, Lost a → ∀ c ∈ f a, Lost' c)
    (hr : ∀ a b, R a b → Thinned Lost' R' (f a) (g b)) :
    Thinned Lost' R' (as.flatMap f) (bs.flatMap g) := by
  induction h with
  | nil => exact .nil
  | keep h _ ih =>
    rw [List.flatMap_cons, List.flatMap_cons]
    exact (hr _ _ h).append ih
  | @lose a _ _ h _ ih =>
    rw [List.flatMap_cons]
    have hnone : ∀ cs : List γ, (∀ c ∈ cs, Lost' c) → Thinned Lost' R' cs [] := by
      intro cs hcs
      induction cs with
      | nil => exact .nil
      | cons c rest ih =>
        exact .lose (hcs c List.mem_cons_self) (ih fun c hc => hcs c (List.mem_cons_of_mem _ hc))
    exact (hnone (f a) (hlost a h)).append ih

end Thinned

/-- What two runs read at a node: something that corresponds, nothing, or something that is lost in the
second run because the chain of references from the node leads out of its document. -/
inductive Node.Rereads {α β : Type} (n : Node) (R : α → β → Prop) : Option α → Option β → Prop
  | lost (h : n.Strays) (a? : Option α) : Rereads n R a? none
  | none : Rereads n R none none
  | some {a : α} {b : β} (h : R a b) : Rereads n R (some a) (some b)

namespace Node.Rereads

variable {α β : Type} {n : Node} {R : α → β → Prop} {a? : Option α} {b? : Option β}

theorem thinned (h : n.Rereads R a? b?) {Lost : α → Prop} (hlost : n.Strays → ∀ a ∈ a?, Lost a) :
    Thinned Lost R a?.toList b?.toList := by
  cases h with
  | lost h a? =>
    cases a? with
    | none => exact .nil
    | some a => exact .lose (hlost h a rfl) .nil
  | none => exact .nil
  | some h => exact .keep h .nil

/-- The same, under a key. -/
theorem field (h : n.Rereads R a? b?) (key : String) {Lost : String × α → Prop}
    {R' : String × α → String × β → Prop} (hr : ∀ a b, R a b → R' (key, a) (key, b))
    (hlost : n.Strays → ∀ a, Lost (key, a)) :
    Thinned Lost R' (a?.map (key, ·)).toList (b?.map (key, ·)).toList := by
  cases h with
  | lost h a? =>
    cases a? with
    | none => exact .nil
    | some a => exact .lose (hlost h a) .nil
  | none => exact .nil
  | some h => exact .keep (hr _ _ h) .nil

end Node.Rereads

/-- At a pointer of the document with a name in diagnostics there is a node from which the chain of
references leads out of its document. -/
def Setting.Loses (S : Setting) (label : Option String) (p : Pointer) : Prop :=
  Located (fun n => n.Sited S ∧ n.Strays) label p

/-- Two parameters differ at most in what is said about them. -/
structure Parameter.Alike (p p' : Parameter) : Prop where
  name : p'.name = p.name
  place : p'.place = p.place
  required : p'.required = p.required
  location : p'.location = p.location

/-- An operation has lost parameters and responses only. -/
structure Operation.Like (S : Setting) (o o' : Operation) : Prop where
  method : o'.method = o.method
  path : o'.path = o.path
  operationId : o'.operationId = o.operationId
  document : o'.document = o.document
  location : o'.location = o.location
  security : o'.security = o.security
  servers : o'.servers = o.servers
  parameters : Thinned (fun p => S.Loses o.document p.location) Parameter.Alike o.parameters
    o'.parameters
  responses : ∀ responses', o'.responses = some responses' → ∃ responses,
    o.responses = some responses ∧
      Thinned (fun entry => S.Loses o.document ((o.location.push "responses").push entry.1))
        (fun entry entry' => entry'.1 = entry.1) responses responses'

/-- A path item has lost parameters only, and so have its operations. -/
structure PathItem.Like (S : Setting) (item item' : PathItem) : Prop where
  document : item'.document = item.document
  servers : item'.servers = item.servers
  parameters : Thinned (fun p => S.Loses item.document p.location) Parameter.Alike item.parameters
    item'.parameters
  operations : Thinned (fun _ => False) (fun entry entry' => entry.2.Like S entry'.2)
    item.operations item'.operations

/-- Every path item of the second list is like one of the first list. -/
def Covers (S : Setting) (items items' : List PathItem) : Prop :=
  ∀ item' ∈ items', ∃ item ∈ items, item.Like S item'

namespace Covers

variable {S : Setting} {items items' more more' : List PathItem}

theorem cons {item item' : PathItem} (h : item.Like S item') (hrest : Covers S items items') :
    Covers S (item :: items) (item' :: items') := by
  intro other' hother'
  rcases List.mem_cons.mp hother' with rfl | hmem
  · exact ⟨item, List.mem_cons_self, h⟩
  · obtain ⟨other, hother, hlike⟩ := hrest other' hmem
    exact ⟨other, List.mem_cons_of_mem _ hother, hlike⟩

theorem append (h : Covers S items items') (h' : Covers S more more') :
    Covers S (items ++ more) (items' ++ more') := by
  intro item' hitem'
  rcases List.mem_append.mp hitem' with hfirst | hsecond
  · obtain ⟨item, hitem, hlike⟩ := h item' hfirst
    exact ⟨item, List.mem_append_left _ hitem, hlike⟩
  · obtain ⟨item, hitem, hlike⟩ := h' item' hsecond
    exact ⟨item, List.mem_append_right _ hitem, hlike⟩

/-- What stands in the elements that are left is covered. -/
theorem flatMap {α β : Type} {Lost : α → Prop} {R : α → β → Prop} {as : List α} {bs : List β}
    (h : Thinned Lost R as bs) {f : α → List PathItem} {g : β → List PathItem}
    (hr : ∀ a b, R a b → Covers S (f a) (g b)) : Covers S (as.flatMap f) (bs.flatMap g) := by
  intro item' hitem'
  obtain ⟨b, hb, hmem⟩ := List.mem_flatMap.mp hitem'
  obtain ⟨a, ha, hab⟩ := h.exists_of_mem hb
  obtain ⟨item, hitem, hlike⟩ := hr a b hab item' hmem
  exact ⟨item, List.mem_flatMap.mpr ⟨a, ha, hitem⟩, hlike⟩

end Covers

/-- Two operations are like each other, and so are the path items in the callbacks of the second one
and some in those of the first one. -/
structure Operation.Fits (S : Setting) (o o' : Operation) : Prop where
  like : o.Like S o'
  covers : Covers S o.nested o'.nested

/-- Two path items are like each other, and so are those that stand in the second one and some that
stand in the first one. -/
structure PathItem.Fits (S : Setting) (item item' : PathItem) : Prop where
  like : item.Like S item'
  covers : Covers S item.withNested item'.withNested

/-- Path items that are like each other fit if what stands in their callbacks does. -/
theorem PathItem.Fits.of_like {S : Setting} {item item' : PathItem} (h : item.Like S item')
    (hnested : Covers S (nestedInOperations item.operations)
      (nestedInOperations item'.operations)) : item.Fits S item' where
  like := h
  covers := by
    rw [PathItem.withNested_eq, PathItem.withNested_eq]
    exact .cons h hnested

/-- The path items in the second callback are like some in the first one. -/
def Callback.Fits (S : Setting) (c c' : Callback) : Prop := Covers S c.nested c'.nested

/-- Path items were lost; the others stand under the same keys. -/
abbrev ThinnedItems (S : Setting) : Entries PathItem → Entries PathItem → Prop :=
  Thinned (fun _ => True) fun entry entry' => entry'.1 = entry.1 ∧ entry.2.Fits S entry'.2

/-- Callbacks were lost. -/
abbrev ThinnedCallbacks (S : Setting) : Entries Callback → Entries Callback → Prop :=
  Thinned (fun _ => True) fun entry entry' => entry.2.Fits S entry'.2

theorem ThinnedItems.covers {S : Setting} {items items' : Entries PathItem}
    (h : ThinnedItems S items items') : Covers S (withAllNested items) (withAllNested items') := by
  rw [withAllNested_eq, withAllNested_eq]
  exact .flatMap h fun _ _ hfits => hfits.2.covers

theorem ThinnedCallbacks.covers {S : Setting} {callbacks callbacks' : Entries Callback}
    (h : ThinnedCallbacks S callbacks callbacks') :
    Covers S (nestedInCallbacks callbacks) (nestedInCallbacks callbacks') := by
  rw [nestedInCallbacks_eq, nestedInCallbacks_eq]
  exact .flatMap h fun _ _ hfits => hfits

/-! ## Steps -/

variable {S : Setting} {W : Workspace} {n : Node} {r : Record}

/-- A step that runs beside itself adds to its workspace. -/
theorem Binding.Adds.of_same {α : Type} {m : Binding α}
    (h : ∀ before, (Rerun.receding S (Workspace.recedes_before W) before).Same m m) : Adds W m :=
  Recedes.of_same (Workspace.recedes_before W) h

/-- Lists are read side by side, and some elements are lost. -/
theorem Binding.follows_thinned {α β γ δ : Type} {Lost : β → Prop} {R : β → δ → Prop} {l : List α}
    {g : α → γ} {step : α → Binding (Option β)} {step' : γ → Binding (Option δ)}
    (h : ∀ a ∈ l, Follows W (fun b? d? => Thinned Lost R b?.toList d?.toList) (step a)
      (step' (g a))) :
    Follows W (Thinned Lost R) (collect step l) (collect step' (l.map g)) :=
  .collect (Q := fun _ b? d? => Thinned Lost R b?.toList d?.toList) .nil
    (fun h hrest => h.append hrest) h

/-- Fields are read side by side, and some are lost. -/
theorem Binding.follows_thinnedFields {α β : Type} {Lost : String × α → Prop}
    {R : String × α → String × β → Prop} {fields : List (String × Node)}
    {step : String → Node → Binding (Option α)} {step' : String → Node → Binding (Option β)}
    (h : ∀ field ∈ fields, Follows W
      (fun a? b? => Thinned Lost R (a?.map (field.1, ·)).toList (b?.map (field.1, ·)).toList)
      (step field.1 field.2) (step' field.1 field.2.insular)) :
    Follows W (Thinned Lost R) (Record.readFields fields step)
      (Record.readFields (fields.map fun field => (field.1, field.2.insular)) step') :=
  follows_readFields (Q := fun field a? b? =>
    Thinned Lost R (a?.map (field.1, ·)).toList (b?.map (field.1, ·)).toList) .nil
    (fun h hrest => h.append hrest) h

/-- What is read from the object that a node stands for. -/
theorem Binding.follows_part {α β : Type} {R : Option α → Option β → Prop} (n : Node)
    (what : String) {f : Option ResolvedRecord → Binding (Option α)}
    {f' : Option ResolvedRecord → Binding (Option β)}
    (hadds : Adds W (n.resolvedRecord? what >>= f)) (hnone : f none = pure none)
    (hnone' : f' none = pure none) (hlost : n.Strays → ∀ a?, R a? none) (hneither : R none none)
    (hsome : ∀ target (r : Record), n.resolved = .ok target → r.node = target.node →
      Follows W R (f (some ⟨r, target.reference⟩)) (f' (some ⟨r.insular, target.reference⟩))) :
    Follows W R (n.resolvedRecord? what >>= f) (n.insular.resolvedRecord? what >>= f') := by
  refine follows_resolvedRecord? n what (fun hstrays => ?_) ?_ hsome
  · rw [hnone']
    exact .alone hadds fun _ => hlost hstrays _
  · rw [hnone, hnone']
    exact .pure hneither

theorem Record.sited_of_node (hr : r.node = n) (hn : n.Sited S) : r.Sited S := by
  rw [← hr] at hn
  exact hn

/-! ## Contents -/

theorem Node.trailing_example? (hn : n.scope.Registered S) :
    Trailing W n.example? n.insular.example? := by
  have hadds : Adds W n.example? := .of_same (S := S) fun _ => GuidedTandem.same_example? hn
  refine follows_part n _ hadds rfl rfl (fun _ _ => trivial) trivial fun target r _ _ => ?_
  refine .same_bind (same_text? (t := .insular W) trivial _) fun _ => ?_
  refine .same_bind (same_text? (t := .insular W) trivial _) fun _ => ?_
  exact .same_bind (same_text? (t := .insular W) trivial _) fun _ => .pure trivial

theorem Node.trailing_link? (hn : n.scope.Registered S) :
    Trailing W n.link? n.insular.link? := by
  have hadds : Adds W n.link? := .of_same (S := S) fun _ => GuidedTandem.same_link? hn
  refine follows_part n _ hadds rfl rfl (fun _ _ => trivial) trivial fun target r _ _ => ?_
  refine .ite_bind (follows_tell _ _ _) (fun _ _ _ => ?_) fun hrest => hrest () () rfl
  refine follows_fieldRecord? r _ ?_ fun inner _ => ?_ <;>
    exact .same_bind (same_text? (t := .insular W) trivial _) fun _ =>
      .same_bind (same_text? (t := .insular W) trivial _) fun _ =>
        .same_bind (same_text? (t := .insular W) trivial _) fun _ => .pure trivial

section Accepted

variable (hW : W.Accepted S)
include hW

theorem Record.trailing_outerSchema? (hr : r.Sited S) (key : String) :
    Trailing W (r.outerSchema? key) (r.insular.outerSchema? key) := by
  unfold outerSchema? schema?
  refine follows_field r key (.pure trivial) fun n hn => ?_
  exact (Node.follows_schema hW (hr.field hn)).seq fun _ _ => .pure trivial

theorem Node.trailing_mediaType? (hn : n.Sited S) :
    Trailing W n.mediaType? n.insular.mediaType? := by
  refine follows_record? n _ (.pure trivial) fun r hr => ?_
  have hr : r.Sited S := Record.sited_of_node hr hn
  refine (trailing_readAll r _ fun inner hinner field hfield => ?_).seq fun _ _ => ?_
  · have hinner : inner.Sited S := hr.field hinner
    exact trailing_example? (hinner.fields hfield).scope
  · exact (Record.trailing_outerSchema? hW hr _).seq fun _ _ => .pure trivial

theorem Record.trailing_content (hr : r.Sited S) : Trailing W r.content r.insular.content := by
  unfold content SchemaReader.content
  refine follows_field r _ (.pure trivial) fun n hn => ?_
  refine follows_record? n _ (.pure trivial) fun formats hformats => ?_
  have hformats : formats.Sited S := sited_of_node hformats (hr.field hn)
  dsimp only
  rw [fields_insular]
  exact trailing_readFields fun field hfield =>
    Node.trailing_mediaType? hW (hformats.fields hfield)

theorem Node.trailing_header? (hn : n.Sited S) : Trailing W n.header? n.insular.header? := by
  have hadds : Adds W n.header? := .of_same (S := S) fun _ => Rerun.same_header? hn.scope
  refine follows_part n _ hadds rfl rfl (fun _ _ => trivial) trivial fun target r ht hr => ?_
  have hr : r.Sited S := Record.sited_of_node hr (hn.resolved ht)
  refine .same_bind (same_text? (t := .insular W) trivial _) fun _ => ?_
  refine .same_bind (same_flag (t := .insular W) trivial _) fun _ => ?_
  refine .same_bind (same_flag (t := .insular W) trivial _) fun _ => ?_
  refine (Record.trailing_outerSchema? hW hr _).seq fun _ _ => ?_
  exact (Record.trailing_content hW hr).seq fun _ _ => .pure trivial

theorem Node.trailing_requestBody? (hn : n.Sited S) :
    Trailing W n.requestBody? n.insular.requestBody? := by
  have hadds : Adds W n.requestBody? := .of_same (S := S) fun _ => Rerun.same_requestBody? hn.scope
  refine follows_part n _ hadds rfl rfl (fun _ _ => trivial) trivial fun target r ht hr => ?_
  have hr : r.Sited S := Record.sited_of_node hr (hn.resolved ht)
  refine .ite_bind (follows_tell _ _ _) (fun _ _ _ => ?_) fun hrest => hrest () () rfl
  refine .same_bind (same_text? (t := .insular W) trivial _) fun _ => ?_
  refine .same_bind (same_flag (t := .insular W) trivial _) fun _ => ?_
  exact (Record.trailing_content hW hr).seq fun _ _ => .pure trivial

/-! ## Responses -/

theorem Node.follows_response? (hn : n.Sited S) :
    Follows W (n.Rereads fun _ _ => True) n.response? n.insular.response? := by
  have hadds : Adds W n.response? := .of_same (S := S) fun _ => Rerun.same_response? hn.scope
  refine follows_part n _ hadds rfl rfl .lost .none fun target r ht hr => ?_
  have hr : r.Sited S := Record.sited_of_node hr (hn.resolved ht)
  refine (follows_responseText? r).eq_bind fun _ => ?_
  refine (trailing_readAll r _ fun inner hinner field hfield => ?_).seq fun _ _ => ?_
  · have hinner : inner.Sited S := hr.field hinner
    exact trailing_header? hW (hinner.fields hfield)
  refine (trailing_readAll r _ fun inner hinner field hfield => ?_).seq fun _ _ => ?_
  · have hinner : inner.Sited S := hr.field hinner
    exact trailing_link? (hinner.fields hfield).scope
  exact (Record.trailing_content hW hr).seq fun _ _ => .pure (.some trivial)

/-- A response is lost where the chain of references from its node leads out of the document. -/
theorem Node.follows_responses (hn : n.Sited S) :
    Follows W (Thinned (fun entry => S.Loses n.scope.label (n.pointer.push entry.1))
      fun entry entry' => entry'.1 = entry.1) n.responses n.insular.responses := by
  refine follows_record? n _ (.pure .nil) fun r hr => ?_
  have hsited : r.Sited S := Record.sited_of_node hr hn
  dsimp only
  rw [Record.plainFields_insular]
  refine follows_thinnedFields fun field hfield => ?_
  have hfieldSited := hsited.plainFields hfield
  refine (follows_response? hW hfieldSited).imp fun a? b? h => ?_
  refine h.field field.1 (fun _ _ _ => rfl) fun hlost _ => ?_
  obtain ⟨member, -, rfl⟩ := List.mem_map.mp (List.mem_filter.mp hfield).1
  exact ⟨_, ⟨hfieldSited, hlost⟩, by rw [← hr]; rfl, by rw [← hr]; rfl⟩

/-! ## Parameters -/

omit hW in
theorem Record.gives_parameter (r : Record) (name : String) (place : ParameterPlace)
    (reference : Option String) (location : Pointer) :
    (r.parameter name place reference location).Gives fun p => p.location = location := by
  unfold parameter SchemaReader.parameter
  refine .ite (.bind fun _ => ?_) ?_ <;>
    exact .bind fun _ => .bind fun _ => .bind fun _ => .bind fun _ => .bind fun _ =>
      .bind fun _ => .bind fun _ => .bind fun _ => .pure rfl

omit hW in
/-- A parameter is found where it is declared, also if it is a reference. -/
theorem Node.gives_parameter? (n : Node) :
    n.parameter?.Gives fun p? => ∀ p ∈ p?, p.location = n.pointer := by
  unfold parameter? SchemaReader.parameter?
  refine .bind fun t? => ?_
  cases t? with
  | none => exact .pure (by simp)
  | some t =>
    refine .bind fun name? => .bind fun place? => ?_
    split
    · refine .bind_of (t.record.gives_parameter _ _ _ _) fun p hp => .pure fun p' hp' => ?_
      exact Option.some.inj hp' ▸ hp
    · exact .pure (by simp)

theorem Record.follows_parameter (hr : r.Sited S) (name : String) (place : ParameterPlace)
    (reference : Option String) (location : Pointer) :
    Follows W Parameter.Alike (r.parameter name place reference location)
      (r.insular.parameter name place reference location) := by
  refine .ite_bind (follows_tell _ _ _) (fun _ _ _ => ?_) fun hrest => hrest () () rfl
  refine .same_bind (same_text? (t := .insular W) trivial _) fun _ => ?_
  refine .same_bind (same_flag (t := .insular W) trivial _) fun _ => ?_
  refine .same_bind (same_flag (t := .insular W) trivial _) fun _ => ?_
  refine .same_bind (same_flag (t := .insular W) trivial _) fun _ => ?_
  refine .same_bind (same_text? (t := .insular W) trivial _) fun _ => ?_
  refine .same_bind (same_flag? (t := .insular W) trivial _) fun _ => ?_
  refine (trailing_outerSchema? hW hr _).seq fun _ _ => ?_
  exact (trailing_content hW hr).seq fun _ _ => .pure ⟨rfl, rfl, rfl, rfl⟩

theorem Node.follows_parameter? (hn : n.Sited S) :
    Follows W (n.Rereads Parameter.Alike) n.parameter? n.insular.parameter? := by
  have hadds : Adds W n.parameter? := .of_same (S := S) fun _ => Rerun.same_parameter? hn.scope
  refine follows_part n _ hadds rfl rfl .lost .none fun target r ht hr => ?_
  have hr : r.Sited S := Record.sited_of_node hr (hn.resolved ht)
  refine .eq_bind (follows_requiredText? _ _ _) fun name? => ?_
  refine .same_bind (same_parameterPlace? (t := .insular W) trivial) fun place? => ?_
  cases name? with
  | none => exact .pure .none
  | some name =>
    cases place? with
    | none => exact .pure .none
    | some place =>
      exact (Record.follows_parameter hW hr _ _ _ _).bind fun _ _ halike => .pure (.some halike)

/-- A parameter is lost where the chain of references from its node leads out of the document. -/
theorem Record.follows_parameters (hr : r.Sited S) :
    Follows W (Thinned (fun p => S.Loses r.scope.label p.location) Parameter.Alike) r.parameters
      r.insular.parameters := by
  unfold parameters SchemaReader.parameters
  refine follows_field r _ (.pure .nil) fun n hn => ?_
  refine follows_items n _ (follows_thinned fun m hm => ?_)
  have hsited : m.Sited S := (hr.field hn).item hm
  have hread := (Node.follows_parameter? hW hsited).gives m.gives_parameter?
  refine hread.imp fun p? p'? ⟨h, hlocation⟩ => h.thinned fun hlost p hp => ?_
  obtain ⟨-, -, -, -, hscope, -⟩ := Node.of_mem_itemNodes hm
  refine ⟨m, ⟨hsited, hlost⟩, ?_, (hlocation p hp).symm⟩
  rw [hscope, (of_field? hn).1]

/-! ## Operations and path items -/

theorem Record.follows_responses? (hr : r.Sited S) :
    Follows W (Option.Rel (Thinned
      (fun entry => S.Loses r.scope.label ((r.pointer.push "responses").push entry.1))
      fun entry entry' => entry'.1 = entry.1)) r.responses? r.insular.responses? := by
  have hversion : r.insular.scope.version = r.scope.version := rfl
  unfold responses? SchemaReader.responses?
  rw [field?_insular, hversion]
  cases hn : r.field? "responses" with
  | none => exact .ite ((follows_tell _ _ _).seq fun _ _ => .pure .none) (.pure .none)
  | some n =>
    obtain ⟨hscope, hpointer⟩ := of_field? hn
    have hresponses := Node.follows_responses hW (hr.field hn)
    rw [hscope, hpointer] at hresponses
    exact hresponses.bind fun _ _ h => .pure (.some h)

theorem Record.trailing_bodyOf? (hr : r.Sited S) :
    Trailing W r.requestBody? r.insular.requestBody? := by
  unfold requestBody? SchemaReader.bodyOf?
  exact follows_field r _ (.pure trivial) fun n hn => Node.trailing_requestBody? hW (hr.field hn)

/-- Two ways to read callbacks fit at all nodes. -/
def CallbackReader.Pair (S : Setting) (W : Workspace) (read read' : CallbackReader) : Prop :=
  ∀ m : Node, m.Sited S → Follows W (m.Rereads (Callback.Fits S)) (read m) (read' m.insular)

/-- Two ways to read path items fit at all nodes. -/
def PathItemReader.Pair (S : Setting) (W : Workspace) (read read' : PathItemReader) : Prop :=
  ∀ (path : String) (m : Node), m.Sited S →
    Follows W (m.Rereads (PathItem.Fits S)) (read path m) (read' path m.insular)

omit hW in
theorem CallbackReader.Pair.follows_fields {read read' : CallbackReader}
    (hread : Pair S W read read') {inner : Record} (hinner : inner.Sited S) :
    Follows W (ThinnedCallbacks S) (Record.readFields inner.fields fun _ m => read m)
      (Record.readFields inner.insular.fields fun _ m => read' m) := by
  rw [Record.fields_insular]
  refine follows_thinnedFields fun field hfield => ?_
  refine (hread field.2 (hinner.fields hfield)).imp fun _ _ h => ?_
  exact h.field field.1 (fun _ _ hfits => hfits) fun _ _ => trivial

omit hW in
theorem PathItemReader.Pair.follows_fields {read read' : PathItemReader}
    (hread : Pair S W read read') {fields : List (String × Node)}
    (hfields : ∀ field ∈ fields, field.2.Sited S) :
    Follows W (ThinnedItems S) (Record.readFields fields read)
      (Record.readFields (fields.map fun field => (field.1, field.2.insular)) read') := by
  refine follows_thinnedFields fun field hfield => ?_
  refine (hread field.1 field.2 (hfields field hfield)).imp fun _ _ h => ?_
  exact h.field field.1 (fun _ _ hfits => ⟨rfl, hfits⟩) fun _ _ => trivial

omit hW in
theorem Record.follows_callbacks (hr : r.Sited S) {read read' : CallbackReader}
    (hread : CallbackReader.Pair S W read read') :
    Follows W (ThinnedCallbacks S) (r.callbacks read) (r.insular.callbacks read') := by
  unfold callbacks
  refine follows_field r _ (.pure .nil) fun n hn => ?_
  refine follows_record? n _ (.pure .nil) fun inner hinner => ?_
  exact hread.follows_fields (sited_of_node hinner (hr.field hn))

theorem Node.follows_operation? (hn : n.Sited S) {read read' : CallbackReader}
    (hread : CallbackReader.Pair S W read read') (method : Method) (path : String) :
    Follows W (Option.Rel (Operation.Fits S)) (n.operation? read method path)
      (n.insular.operation? read' method path) := by
  refine follows_record? n _ (.pure .none) fun r hr => ?_
  have hr : r.Sited S := Record.sited_of_node hr hn
  refine (Record.follows_responses? hW hr).bind fun responses? responses?' hresponses => ?_
  refine (Record.trailing_bodyOf? hW hr).seq fun body? body?' => ?_
  refine .same_bind (same_security? (t := .insular W) trivial) fun security? => ?_
  refine .same_bind (same_text? (t := .insular W) trivial _) fun operationId => ?_
  refine .same_bind (same_text? (t := .insular W) trivial _) fun summary => ?_
  refine .same_bind (same_text? (t := .insular W) trivial _) fun description => ?_
  refine .same_bind (same_texts (t := .insular W) trivial _) fun tags => ?_
  refine (Record.follows_parameters hW hr).bind fun parameters parameters' hparameters => ?_
  refine (Record.follows_callbacks hr hread).bind fun callbacks callbacks' hcallbacks => ?_
  refine .same_bind (same_flag (t := .insular W) trivial _) fun deprecated => ?_
  refine .same_bind (same_servers (t := .insular W) trivial) fun servers => .pure (.some ?_)
  refine ⟨⟨rfl, rfl, rfl, rfl, rfl, rfl, rfl, hparameters, ?_⟩, ?_⟩
  · rintro responses' rfl
    cases hresponses with
    | some h => exact ⟨_, rfl, h⟩
  · rw [Operation.nested_eq, Operation.nested_eq]
    exact hcallbacks.covers

theorem Record.follows_operationOf? (hr : r.Sited S) {read read' : CallbackReader}
    (hread : CallbackReader.Pair S W read read') (path : String) (method : Method) :
    Follows W (Option.Rel fun entry entry' => entry.2.Fits S entry'.2)
      (r.operationOf? read path method) (r.insular.operationOf? read' path method) := by
  unfold operationOf? SchemaReader.operationOf?
  refine follows_field r _ (.pure .none) fun n hn => ?_
  refine (Node.follows_operation? hW (hr.field hn) hread method path).bind fun o? o?' h => ?_
  cases h with
  | none => exact .pure .none
  | some h => exact .pure (.some h)

theorem Resolved.follows_pathItem? {target : Resolved} (ht : target.node.Sited S)
    {read read' : CallbackReader} (hread : CallbackReader.Pair S W read read') (path : String)
    (location : Pointer) :
    Follows W (Option.Rel (PathItem.Fits S)) (target.pathItem? read path location)
      (target.insular.pathItem? read' path location) := by
  refine follows_record? target.node _ (.pure .none) fun r hr => ?_
  have hr : r.Sited S := Record.sited_of_node hr ht
  refine .same_bind (same_text? (t := .insular W) trivial _) fun summary => ?_
  refine .same_bind (same_text? (t := .insular W) trivial _) fun description => ?_
  refine .same_bind (same_servers (t := .insular W) trivial) fun servers => ?_
  refine (Record.follows_parameters hW hr).bind fun parameters parameters' hparameters => ?_
  have hoperations : Follows W
      (Thinned (fun _ => False) fun entry entry' => entry.2.Fits S entry'.2)
      (collect (r.operationOf? read path) Method.all)
      (collect (r.insular.operationOf? read' path) (Method.all.map id)) := by
    refine follows_thinned fun method _ => ?_
    refine (Record.follows_operationOf? hW hr hread path method).imp fun _ _ h => ?_
    cases h with
    | none => exact .nil
    | some h => exact .keep h .nil
  rw [List.map_id] at hoperations
  refine hoperations.bind fun operations operations' h => .pure (.some ?_)
  refine .of_like ⟨rfl, rfl, hparameters, h.imp fun _ _ hfits => hfits.like⟩ ?_
  rw [nestedInOperations_eq, nestedInOperations_eq]
  exact .flatMap h fun _ _ hfits => hfits.covers

omit hW in
theorem Resolved.follows_callback? {target : Resolved} (ht : target.node.Sited S)
    {read read' : PathItemReader} (hread : PathItemReader.Pair S W read read') :
    Follows W (Option.Rel (Callback.Fits S)) (target.callback? read)
      (target.insular.callback? read') := by
  refine follows_record? target.node _ (.pure .none) fun r hr => ?_
  have hr : r.Sited S := Record.sited_of_node hr ht
  dsimp only
  rw [Record.plainFields_insular]
  refine (hread.follows_fields fun field hfield => hr.plainFields hfield).bind fun items items' h =>
    .pure (.some ?_)
  rw [Callback.Fits, Callback.nested_eq, Callback.nested_eq]
  exact h.covers

omit hW in
/-- What stands behind a chain of references is lost where the chain leads out of the document. -/
theorem Node.follows_enter {α β : Type} {R : α → β → Prop} (hn : n.Sited S) (enclosing : Enclosing)
    {read : Enclosing → Resolved → Binding (Option α)}
    {read' : Enclosing → Resolved → Binding (Option β)}
    (hadds : Adds W (n.enter enclosing read))
    (hread : ∀ target, target.node.Sited S →
      Follows W (Option.Rel R) (read (target.node.site :: enclosing) target)
        (read' (target.node.site :: enclosing) target.insular)) :
    Follows W (n.Rereads R) (n.enter enclosing read) (n.insular.enter enclosing read') := by
  refine follows_resolved n (fun hlost => .alone hadds fun _ => .lost hlost _) (.pure .none)
    fun target ht => .ite ((follows_tell _ _ _).seq fun _ _ => .pure .none) ?_
  refine (hread target (hn.resolved ht)).imp fun _ _ h => ?_
  cases h with
  | none => exact .none
  | some h => exact .some h

/-- However much room there is, both runs read the same path items and callbacks, apart from those
that are lost. -/
theorem Node.follows_within (room : Nat) :
    (∀ enclosing, PathItemReader.Pair S W (pathItemWithin room enclosing)
      (pathItemWithin room enclosing)) ∧
      ∀ enclosing, CallbackReader.Pair S W (callbackWithin room enclosing)
        (callbackWithin room enclosing) := by
  induction room with
  | zero => exact ⟨fun _ _ _ _ => .pure .none, fun _ _ _ => .pure .none⟩
  | succ room ih =>
    obtain ⟨hpathItem, hcallback⟩ := ih
    have hadds := recedes_within (S := S) (Workspace.recedes_before W) (room + 1)
    constructor
    · intro enclosing path n hn
      refine follows_enter hn enclosing (hadds.1 enclosing path hn.scope) fun target ht => ?_
      exact Resolved.follows_pathItem? hW ht (hcallback _) path n.pointer
    · intro enclosing n hn
      refine follows_enter hn enclosing (hadds.2 enclosing hn.scope) fun target ht => ?_
      exact Resolved.follows_callback? ht (hpathItem _)

theorem Node.follows_pathItem? : PathItemReader.Pair S W pathItem? pathItem? := fun path n hn =>
  (follows_within hW n.scope.setting.room).1 [] path n hn

theorem Node.follows_callback? : CallbackReader.Pair S W callback? callback? := fun n hn =>
  (follows_within hW n.scope.setting.room).2 [] n hn

/-! ## Components -/

omit hW in
theorem Node.trailing_securityScheme? (hn : n.scope.Registered S) :
    Trailing W n.securityScheme? n.insular.securityScheme? := by
  have hadds : Adds W n.securityScheme? :=
    .of_same (S := S) fun _ => GuidedTandem.same_securityScheme? hn
  refine follows_part n _ hadds rfl rfl (fun _ _ => trivial) trivial fun target r _ _ => ?_
  refine .eq_bind (follows_requiredText? _ _ _) fun
    | none => .pure trivial
    | some type => .same_bind (same_securityKind? (t := .insular W) trivial type) fun
      | none => .pure trivial
      | some kind => .same_bind (same_text? (t := .insular W) trivial _) fun _ => .pure trivial

theorem Record.trailing_componentSchemas (hr : r.Sited S) :
    Trailing W r.componentSchemas r.insular.componentSchemas := by
  refine follows_fieldRecord? r _ (.pure trivial) fun inner hinner => ?_
  have hinner : inner.Sited S := hr.field hinner
  dsimp only
  rw [fields_insular]
  refine trailing_readFields fun field hfield => ?_
  refine (Node.follows_schema hW (hinner.fields hfield)).seq fun id id' => ?_
  -- a name is no finding
  have hnamed : Trailing W (change id (Schema.named field.1)) (change id' (Schema.named field.1)) :=
    .apart (fun _ h => ⟨h.findings, h.slots⟩) fun _ h => ⟨h.findings, h.sites⟩
  exact hnamed.seq fun _ _ => .pure trivial

theorem Record.follows_componentCallbacks (hr : r.Sited S) :
    Follows W (ThinnedCallbacks S) (r.readAll "callbacks" Node.callback?)
      (r.insular.readAll "callbacks" Node.callback?) :=
  follows_fieldRecord? r _ (.pure .nil) fun _ hinner =>
    (Node.follows_callback? hW).follows_fields (hr.field hinner)

theorem Record.follows_componentPathItems (hr : r.Sited S) :
    Follows W (ThinnedItems S) r.componentPathItems r.insular.componentPathItems := by
  refine .ite (follows_fieldRecord? r _ (.pure .nil) fun inner hinner => ?_) ?_
  · have hinner : inner.Sited S := hr.field hinner
    dsimp only
    rw [fields_insular]
    exact (Node.follows_pathItem? hW).follows_fields fun field hfield => hinner.fields hfield
  · exact .same_bind (same_refuse (t := .insular W) trivial _) fun _ => .pure .nil

/-- Components have lost path items and callbacks, and others that nothing is said of. -/
structure Components.Like (S : Setting) (c c' : Components) : Prop where
  writtenKeys : c'.writtenKeys = c.writtenKeys
  callbacks : ThinnedCallbacks S c.callbacks c'.callbacks
  pathItems : ThinnedItems S c.pathItems c'.pathItems

theorem Node.follows_components (hn : n.Sited S) :
    Follows W (Components.Like S) n.components n.insular.components := by
  have hempty : Components.empty.Like S .empty := ⟨rfl, .nil, .nil⟩
  refine follows_record? n _ (.pure hempty) fun r hr => ?_
  have hr : r.Sited S := Record.sited_of_node hr hn
  have hall : ∀ (key : String) {α β : Type} {step : Node → Binding (Option α)}
      {step' : Node → Binding (Option β)},
      (∀ {m : Node}, m.Sited S → Trailing W (step m) (step' m.insular)) →
        Trailing W (r.readAll key step) (r.insular.readAll key step') := by
    intro key α β step step' h
    refine trailing_readAll r key fun inner hinner field hfield => h ?_
    have hinner : inner.Sited S := hr.field hinner
    exact hinner.fields hfield
  refine (Record.trailing_componentSchemas hW hr).seq fun _ _ => ?_
  refine (hall _ fun hm => (follows_response? hW hm).imp fun _ _ _ => trivial).seq fun _ _ => ?_
  refine (hall _ fun hm => (follows_parameter? hW hm).imp fun _ _ _ => trivial).seq fun _ _ => ?_
  refine (hall _ fun hm => trailing_example? hm.scope).seq fun _ _ => ?_
  refine (hall _ fun hm => trailing_requestBody? hW hm).seq fun _ _ => ?_
  refine (hall _ fun hm => trailing_header? hW hm).seq fun _ _ => ?_
  refine (hall _ fun hm => trailing_securityScheme? hm.scope).seq fun _ _ => ?_
  refine (hall _ fun hm => trailing_link? hm.scope).seq fun _ _ => ?_
  refine (Record.follows_componentCallbacks hW hr).bind fun _ _ hcallbacks => ?_
  refine (Record.follows_componentPathItems hW hr).bind fun _ _ hitems => ?_
  exact .pure ⟨rfl, hcallbacks, hitems⟩

/-! ## Descriptions -/

theorem Node.follows_pathItems (hn : n.Sited S) :
    Follows W (ThinnedItems S) n.pathItems n.insular.pathItems := by
  refine follows_record? n _ (.pure .nil) fun r hr => ?_
  have hr : r.Sited S := Record.sited_of_node hr hn
  dsimp only
  rw [Record.plainFields_insular]
  exact (follows_pathItem? hW).follows_fields fun field hfield => hr.plainFields hfield

theorem Record.follows_components (hr : r.Sited S) :
    Follows W (Components.Like S) r.components r.insular.components := by
  unfold components Readers.componentsOf
  exact follows_field r _ (.pure ⟨rfl, .nil, .nil⟩) fun n hn =>
    Node.follows_components hW (hr.field hn)

theorem Record.follows_paths (hr : r.Sited S) :
    Follows W (ThinnedItems S) r.paths r.insular.paths := by
  have hversion : r.insular.scope.version = r.scope.version := rfl
  unfold paths Readers.paths
  rw [field?_insular, hversion]
  cases hn : r.field? "paths" with
  | none => exact .ite ((follows_tell _ _ _).seq fun _ _ => .pure .nil) (.pure .nil)
  | some n => exact Node.follows_pathItems hW (hr.field hn)

theorem Record.follows_webhooks (hr : r.Sited S) :
    Follows W (ThinnedItems S) r.webhooks r.insular.webhooks := by
  have hversion : r.insular.scope.version = r.scope.version := rfl
  unfold webhooks Readers.webhooks
  rw [hversion]
  refine follows_field r _ (.pure .nil) fun n hn => .ite (Node.follows_pathItems hW (hr.field hn)) ?_
  exact .same_bind (same_refuse (t := .insular W) trivial _) fun _ => .pure .nil

/-- A description has lost parameters, responses, path items and callbacks, apart from what nothing is
said of. -/
structure Description.Like (S : Setting) (d d' : Description) : Prop where
  version : d'.version = d.version
  servers : d'.servers = d.servers
  security : d'.security = d.security
  tags : d'.tags = d.tags
  components : d.components.Like S d'.components
  paths : ThinnedItems S d.paths d'.paths
  webhooks : ThinnedItems S d.webhooks d'.webhooks

/-- The second run gets what the first run gets, apart from what is lost. -/
theorem Record.follows_description (hr : r.Sited S) (declared : String) :
    Follows W (Description.Like S) (r.description declared) (r.insular.description declared) := by
  have hget : Trailing W (get : Binding Workspace) get := fun _ _ hw => ⟨trivial, hw⟩
  refine .same_bind (same_checkDeclaration (t := .insular W) trivial _) fun _ => ?_
  refine .same_bind (same_info (t := .insular W) trivial) fun info => ?_
  refine .same_bind (same_jsonSchemaDialect? (t := .insular W) trivial) fun dialect? => ?_
  refine .same_bind (same_servers (t := .insular W) trivial) fun servers => ?_
  refine (follows_components hW hr).bind fun components components' hcomponents => ?_
  refine (follows_paths hW hr).bind fun paths paths' hpaths => ?_
  refine (follows_webhooks hW hr).bind fun webhooks webhooks' hwebhooks => ?_
  refine .same_bind (same_checkContents (t := .insular W) trivial) fun _ => ?_
  refine .same_bind (same_security (t := .insular W) trivial) fun security => ?_
  refine .same_bind (same_tags (t := .insular W) trivial) fun tags => ?_
  refine .same_bind (same_externalDocs? (t := .insular W) trivial) fun docs? => ?_
  exact hget.seq fun _ _ => .pure ⟨rfl, rfl, rfl, rfl, hcomponents, hpaths, hwebhooks⟩

end Accepted

theorem Description.Like.covers {d d' : Description} (h : d.Like S d') :
    Covers S d.allPathItems d'.allPathItems :=
  ((h.paths.covers.append h.webhooks.covers).append h.components.pathItems.covers).append
    h.components.callbacks.covers

end ApiDescription
