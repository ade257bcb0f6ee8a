import ApiDescription.Proofs.Binding.InsularDescription

/-!
# Reading a node again

A node may be read many times: for itself, and for every reference that leads to it.  Each time it
is read in another workspace, and nothing of the last time is looked up except the schemas.

For a workspace `F` that binding comes to in the end, `Binding.Toward F` says what is known of the
result of a step, provided that the step leads to `F`.  `Binding.Settled F` says that the step has
one result whenever it leads to `F`: only the numbers of schemas depend on the workspace, and the
ones for a site are the same as in `F`.  Everything that is read outside of path items is settled.
-/

namespace ApiDescription

namespace Binding

variable {α β : Type} {F : Workspace} {m : Binding α} {f : α → Binding β} {P Q : α → Prop}
  {Q' : β → Prop}

/-- If the step leads to a given workspace in the end, then it did before, and its result satisfies a
predicate. -/
def Toward (F : Workspace) (m : Binding α) (Q : α → Prop) : Prop :=
  ∀ w : Workspace, (m w).2.Before F → w.Before F ∧ Q (m w).1

theorem Adds.toward (h : Adds F m) : m.Toward F fun _ => True := fun w hw => ⟨h w hw, trivial⟩

theorem OnlyTells.toward (h : m.OnlyTells) : m.Toward F (· = m.result) := by
  obtain ⟨found, hrun⟩ := h.run
  intro w hw
  rw [hrun] at hw
  exact ⟨⟨fun _ hD => hw.findings (List.mem_append_left _ hD), hw.slots⟩, by rw [hrun]⟩

namespace Toward

protected theorem pure {a : α} (h : Q a) : (pure a : Binding α).Toward F Q := fun _ hw => ⟨hw, h⟩

theorem imp (h : m.Toward F P) (himp : ∀ a, P a → Q a) : m.Toward F Q :=
  fun w hw => ⟨(h w hw).1, himp _ (h w hw).2⟩

protected theorem and (h : m.Toward F P) (h' : m.Toward F Q) :
    m.Toward F fun a => P a ∧ Q a :=
  fun w hw => ⟨(h w hw).1, (h w hw).2, (h' w hw).2⟩

/-- What is known of a result, if there is one, in two ways. -/
theorem and_of_mem {m : Binding (Option α)} (h : m.Toward F fun a? => ∀ a ∈ a?, P a)
    (h' : m.Toward F fun a? => ∀ a ∈ a?, Q a) : m.Toward F fun a? => ∀ a ∈ a?, P a ∧ Q a :=
  (h.and h').imp fun _ hboth a ha => ⟨hboth.1 a ha, hboth.2 a ha⟩

/-- What is known of the first result is known only when the second step leads on. -/
protected theorem bind (hm : m.Toward F P) (hf : ∀ a, (f a).Toward F fun b => P a → Q' b) :
    (m >>= f).Toward F Q' := by
  intro w hw
  obtain ⟨hbetween, hresult⟩ := hf (m w).1 (m w).2 hw
  obtain ⟨hbefore, hfirst⟩ := hm w hbetween
  exact ⟨hbefore, hresult hfirst⟩

/-- Nothing needs to be known of the first result. -/
theorem seq (hm : m.Toward F P) (hf : ∀ a, (f a).Toward F Q') : (m >>= f).Toward F Q' :=
  hm.bind fun a => (hf a).imp fun _ h _ => h

/-- A step that only adds findings comes first. -/
theorem after (hm : m.OnlyTells) (hf : (f m.result).Toward F Q') : (m >>= f).Toward F Q' := by
  obtain ⟨found, hrun⟩ := hm.run
  intro w hw
  have hrest : (m >>= f) w = f m.result (m w).2 := congrArg (f · (m w).2) (by rw [hrun w])
  rw [hrest] at hw ⊢
  obtain ⟨hbetween, hresult⟩ := hf (m w).2 hw
  exact ⟨(hm.toward w hbetween).1, hresult⟩

protected theorem ite {c : Prop} [Decidable c] {m m' : Binding α} (hm : c → m.Toward F Q)
    (hm' : ¬ c → m'.Toward F Q) : (if c then m else m').Toward F Q := by
  split
  · next hc => exact hm hc
  · next hc => exact hm' hc

/-- Something may be told first. -/
theorem guarded {c : Prop} [Decidable c] {m : Binding Unit} {f : Unit → Binding β}
    (hm : m.OnlyTells) (hf : (f ()).Toward F Q') :
    (if c then m >>= f else f ()).Toward F Q' :=
  .ite (fun _ => .after hm hf) fun _ => hf

/-- What is known of the elements of a list and their results adds up to what is known of the list
and all results. -/
protected theorem collect {step : α → Binding (Option β)} {R : α → Option β → Prop}
    {T : List α → List β → Prop} (hnil : T [] [])
    (hcons : ∀ {a rest b? bs}, R a b? → T rest bs → T (a :: rest) (b?.toList ++ bs)) {l : List α}
    (h : ∀ a ∈ l, (step a).Toward F (R a)) : (Binding.collect step l).Toward F (T l) := by
  induction l with
  | nil => exact .pure hnil
  | cons a rest ih =>
    refine (h a List.mem_cons_self).bind fun b? => ?_
    refine (ih fun a ha => h a (List.mem_cons_of_mem _ ha)).bind fun bs => .pure ?_
    exact fun hbs hb => hcons hb hbs

end Toward

/-- Wherever the step leads to a given workspace in the end, it has one result. -/
def Settled (F : Workspace) (m : Binding α) : Prop := ∃ a, m.Toward F (· = a)

theorem OnlyTells.settled (h : m.OnlyTells) : m.Settled F := ⟨m.result, h.toward⟩

namespace Settled

protected theorem pure (a : α) : (pure a : Binding α).Settled F := ⟨a, .pure rfl⟩

protected theorem bind (hm : m.Settled F) (hf : ∀ a, (f a).Settled F) : (m >>= f).Settled F := by
  obtain ⟨a, ha⟩ := hm
  obtain ⟨b, hb⟩ := hf a
  refine ⟨b, ha.bind fun a' => ?_⟩
  -- the second step leads on whatever the first result is, but only one first result can come
  obtain ⟨b', hb'⟩ := hf a'
  intro w hw
  refine ⟨(hb' w hw).1, fun heq => ?_⟩
  subst heq
  exact (hb w hw).2

/-- A step that only adds findings comes first. -/
theorem after (hm : m.OnlyTells) (hf : (f m.result).Settled F) : (m >>= f).Settled F := by
  obtain ⟨b, hb⟩ := hf
  exact ⟨b, .after hm hb⟩

protected theorem ite {c : Prop} [Decidable c] {m m' : Binding α} (hm : m.Settled F)
    (hm' : m'.Settled F) : (if c then m else m').Settled F := by
  split
  · exact hm
  · exact hm'

/-- Something may be told first. -/
theorem guarded {c : Prop} [Decidable c] {m : Binding Unit} {f : Unit → Binding β}
    (hm : m.OnlyTells) (hf : (f ()).Settled F) : (if c then m >>= f else f ()).Settled F :=
  .ite (.after hm hf) hf

protected theorem collect {step : α → Binding (Option β)} {l : List α}
    (h : ∀ a ∈ l, (step a).Settled F) : (Binding.collect step l).Settled F := by
  induction l with
  | nil => exact .pure []
  | cons a rest ih =>
    refine (h a List.mem_cons_self).bind fun _ => ?_
    exact (ih fun a ha => h a (List.mem_cons_of_mem _ ha)).bind fun _ => .pure _

end Settled

end Binding

open Binding

variable {F : Workspace} {S : Setting} {n : Node} {r : Record}

/-! ## Schemas -/

/-- At no site two schemas were met. -/
def Workspace.Single (F : Workspace) : Prop :=
  ∀ entry ∈ F.slots, ∀ other ∈ F.slots, entry.1 = other.1 → entry.2.id = other.2.id

/-- However a schema is read, it has the number that was met at its site. -/
theorem Node.settled_schema (hF : F.Single) (hn : n.scope.Registered S) : n.schema.Settled F := by
  have hadds : Adds F n.schema := recedes_schemaWithin (Workspace.recedes_before F) _ hn
  by_cases hmet : ∃ slot, (n.site, slot) ∈ F.slots
  · obtain ⟨slot, hslot⟩ := hmet
    refine ⟨slot.id, fun w hw => ⟨hadds w hw, ?_⟩⟩
    obtain ⟨slot', hslot', hid⟩ := n.met_schemaWithin _ w
    exact hid.symm.trans (hF _ (hw.slots hslot') _ hslot rfl)
  · refine ⟨0, fun w hw => ?_⟩
    obtain ⟨slot, hslot, -⟩ := n.met_schemaWithin _ w
    exact absurd ⟨slot, hw.slots hslot⟩ hmet

/-! ## Fields -/

namespace Record

variable {α : Type}

theorem settled_readFields {fields : List (String × Node)}
    {step : String → Node → Binding (Option α)}
    (h : ∀ field ∈ fields, (step field.1 field.2).Settled F) :
    (readFields fields step).Settled F :=
  .collect fun field hfield => (h field hfield).bind fun _ => .pure _

/-- What the fields of an object are read as, if a node is one. -/
theorem settled_fields (hn : n.Inside S) (what : String)
    {step : String → Node → Binding (Option α)}
    (h : ∀ name {m : Node}, m.Inside S → (step name m).Settled F) :
    (n.record? what >>= fun
      | none => return []
      | some inner => readFields inner.fields step).Settled F := by
  refine .after (n.onlyTells_record? what) ?_
  rw [Node.result_record?]
  cases hinner : n.object? with
  | none => exact .pure _
  | some inner =>
    exact settled_readFields fun field hfield =>
      h _ (Node.Inside.inherited.fields (hn.object hinner) hfield)

theorem settled_readAll (hr : r.node.Inside S) (key : String) {step : Node → Binding (Option α)}
    (h : ∀ {m : Node}, m.Inside S → (step m).Settled F) : (r.readAll key step).Settled F := by
  unfold readAll record?
  cases hn : r.field? key with
  | none => exact .pure _
  | some n => exact settled_fields (Node.Inside.inherited.field hr hn) _ fun _ => h

/-! ## Contents -/

theorem adds_outerSchema? (hr : r.node.Inside S) (key : String) : Adds F (r.outerSchema? key) :=
  .of_same (S := S) fun _ => Rerun.same_outerSchema? hr.scope key

variable (hF : F.Single)
include hF

theorem settled_outerSchema? (hr : r.node.Inside S) (key : String) :
    (r.outerSchema? key).Settled F := by
  unfold outerSchema? schema?
  cases hn : r.field? key with
  | none => exact .pure _
  | some n =>
    exact (Node.settled_schema hF (Node.Inside.inherited.field hr hn).scope).bind fun _ => .pure _

end Record

/-- What is done with the object that a node stands for. -/
theorem Node.settled_resolvedRecord? {β : Type} (hn : n.Inside S) (what : String)
    {f : Option ResolvedRecord → Binding β} (hnone : (f none).Settled F)
    (hsome : ∀ (r : Record) reference, r.node.Inside S → (f (some ⟨r, reference⟩)).Settled F) :
    (n.resolvedRecord? what >>= f).Settled F := by
  refine .after (n.onlyTells_resolvedRecord? what) ?_
  rcases n.result_resolvedRecord?_cases what with hlost | ⟨target, r, ht, hr, hfound⟩
  · exact hlost ▸ hnone
  · exact hfound ▸ hsome r _ ((hn.resolved ht).object hr)

section Contents

variable (hF : F.Single)
include hF

theorem Node.settled_mediaType? (hn : n.Inside S) : n.mediaType?.Settled F := by
  refine .after (n.onlyTells_record? _) ?_
  rw [result_record?]
  cases hr : n.object? with
  | none => exact .pure _
  | some r =>
    refine .after (r.onlyTells_readAll _ onlyTells_example?) ?_
    exact (Record.settled_outerSchema? hF (hn.object hr) _).bind fun _ => .pure _

theorem Record.settled_content (hr : r.node.Inside S) : r.content.Settled F := by
  unfold content SchemaReader.content
  cases hn : r.field? "content" with
  | none => exact .pure _
  | some n =>
    exact settled_fields (Node.Inside.inherited.field hr hn) _ fun _ =>
      Node.settled_mediaType? hF

theorem Node.settled_header? (hn : n.Inside S) : n.header?.Settled F := by
  refine settled_resolvedRecord? hn _ (.pure _) fun r reference hr => ?_
  refine .after (r.onlyTells_text? _) (.after (r.onlyTells_flag _) ?_)
  refine .after (r.onlyTells_flag _) ?_
  refine (Record.settled_outerSchema? hF hr _).bind fun _ => ?_
  exact (Record.settled_content hF hr).bind fun _ => .pure _

theorem Node.settled_response? (hn : n.Inside S) : n.response?.Settled F := by
  refine settled_resolvedRecord? hn _ (.pure _) fun r reference hr => ?_
  refine .after r.onlyTells_responseText? ?_
  refine (Record.settled_readAll hr _ (settled_header? hF)).bind fun _ => ?_
  refine .after (r.onlyTells_readAll _ onlyTells_link?) ?_
  exact (Record.settled_content hF hr).bind fun _ => .pure _

theorem Node.settled_requestBody? (hn : n.Inside S) : n.requestBody?.Settled F := by
  refine settled_resolvedRecord? hn _ (.pure _) fun r reference hr => ?_
  refine .guarded (r.onlyTells_tell _) ?_
  refine .after (r.onlyTells_text? _) (.after (r.onlyTells_flag _) ?_)
  exact (Record.settled_content hF hr).bind fun _ => .pure _

theorem Record.settled_parameter (hr : r.node.Inside S) (name : String) (place : ParameterPlace)
    (reference : Option String) (location : Pointer) :
    (r.parameter name place reference location).Settled F := by
  refine .guarded (r.onlyTells_tell _) ?_
  refine .after (r.onlyTells_text? _) (.after (r.onlyTells_flag _) ?_)
  refine .after (r.onlyTells_flag _) (.after (r.onlyTells_flag _) ?_)
  refine .after (r.onlyTells_text? _) (.after (r.onlyTells_flag? _) ?_)
  refine (Record.settled_outerSchema? hF hr _).bind fun _ => ?_
  exact (Record.settled_content hF hr).bind fun _ => .pure _

theorem Node.settled_parameter? (hn : n.Inside S) : n.parameter?.Settled F := by
  refine settled_resolvedRecord? hn _ (.pure _) fun r reference hr => ?_
  refine .after (r.onlyTells_requiredText? _ _) (.after r.onlyTells_parameterPlace? ?_)
  split
  · exact (Record.settled_parameter hF hr _ _ _ _).bind fun _ => .pure _
  · exact .pure _

end Contents

end ApiDescription
