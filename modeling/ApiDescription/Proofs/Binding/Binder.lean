import ApiDescription.Proofs.Binding.Readers
import ApiDescription.Proofs.Schema.Depth
import Mathlib.Data.List.Chain

/-!
# The state of a binder

The depth of a schema and the path items and callbacks that are being read can also be kept in a
state, beside the workspace: a call counts one up or notes a node, and takes it back when it ends.
`Binder.Passes` is binding with such a state.  A step is written over the ways to read, which stand
for the calls in it, so the step itself neither says how deep it is nor what is being read; the
rules for the calls do.  A derivation lists the states that are gone through, each with the calls
that have not ended by then.

No matter how a call ends, the depth and the nodes are those with which it began, and the memo of
schemas has only gone forward: `Binder.Passes.restores`.
-/

namespace ApiDescription

open Binding

/-! ## The memo -/

/-- The step leaves the memo as it is. -/
def Binding.KeepsSlots {α : Type} (m : Binding α) : Prop := ∀ w, (m w).2.slots = w.slots

/-- What an entry of the memo can be later: the same, or the schema of the same number has been
read. -/
def Slot.Becomes (slot slot' : Slot) : Prop :=
  slot' = slot ∨ ∃ id, slot = .opened id ∧ slot' = .bound id

namespace Slot.Becomes

variable {slot slot' slot'' : Slot}

protected theorem refl (slot : Slot) : slot.Becomes slot := .inl rfl

protected theorem trans (h : slot.Becomes slot') (h' : slot'.Becomes slot'') :
    slot.Becomes slot'' := by
  rcases h with rfl | ⟨id, rfl, rfl⟩
  · exact h'
  · rcases h' with rfl | ⟨_, hopened, -⟩
    · exact .inr ⟨id, rfl, rfl⟩
    · exact absurd hopened (by simp)

end Slot.Becomes

namespace Workspace

/-- In the second workspace, every entry of the memo of the first is still there, or has become what
it can be later. -/
def Continues (w w' : Workspace) : Prop :=
  ∀ site slot, w.slot? site = some slot → ∃ slot', w'.slot? site = some slot' ∧ slot.Becomes slot'

variable {w w' w'' : Workspace} {n : Node}

theorem continues_of_slots (h : w'.slots = w.slots) : w.Continues w' := by
  intro site slot hslot
  exact ⟨slot, by rwa [Workspace.slot?, h], .refl slot⟩

theorem Continues.trans (h : w.Continues w') (h' : w'.Continues w'') : w.Continues w'' := by
  intro site slot hslot
  obtain ⟨slot', hslot', hbecomes⟩ := h site slot hslot
  obtain ⟨slot'', hslot'', hbecomes'⟩ := h' site slot' hslot'
  exact ⟨slot'', hslot'', hbecomes.trans hbecomes'⟩

instance : IsTrans Workspace Continues := ⟨fun _ _ _ => Continues.trans⟩

/-- Something is noted at a node of which there is no entry. -/
theorem continues_of_new (hnone : w.slot? n.site = none)
    (h : ∀ site, n.site ≠ site → w'.slot? site = w.slot? site) : w.Continues w' := by
  intro site slot hslot
  have hne : n.site ≠ site := by
    rintro rfl
    simp [hnone] at hslot
  exact ⟨slot, (h site hne).trans hslot, .refl slot⟩

theorem continues_opening (hnone : w.slot? n.site = none) : w.Continues (w.opening n) :=
  continues_of_new hnone fun site hne => by rw [slot?_opening, if_neg hne]

theorem continues_cutting (hnone : w.slot? n.site = none) : w.Continues (w.cutting n) :=
  continues_of_new hnone fun site hne => by rw [slot?_cutting, if_neg hne]

theorem continues_closing {id : SchemaId} (hopened : w.slot? n.site = some (.opened id))
    (s : Schema) : w.Continues (w.closing n id s) := by
  intro site slot hslot
  rw [slot?_closing]
  split
  · next heq =>
    rw [← heq, hopened] at hslot
    exact ⟨_, rfl, .inr ⟨id, (Option.some.inj hslot).symm, rfl⟩⟩
  · exact ⟨slot, hslot, .refl slot⟩

end Workspace

/-! ## States -/

/-- What a binder keeps. -/
structure Binder where
  /-- What binding has come to. -/
  workspace : Workspace
  /-- How many schemas are being read. -/
  depth : Nat
  /-- The nodes of the path items and callbacks that are being read. -/
  inProgress : Enclosing

namespace Binder

variable (b : Binder)

/-- Nothing has been done, and nothing is being read. -/
def fresh : Binder := ⟨.fresh, 0, []⟩

/-- The state after a step that concerns the workspace only. -/
def after {α : Type} (m : Binding α) : Binder := { b with workspace := (m b.workspace).2 }

/-- The state in which the schema of a node is begun. -/
def opening (n : Node) : Binder :=
  { b with workspace := b.workspace.opening n, depth := b.depth + 1 }

/-- The state in which the schema of a node is finished. -/
def closing (n : Node) (id : SchemaId) (s : Schema) : Binder :=
  { b with workspace := b.workspace.closing n id s, depth := b.depth - 1 }

/-- The state in which the schema of a node is cut off. -/
def cutting (n : Node) : Binder :=
  let told := b.workspace.told (.nestingTooDeep n.scope.setting.options.maxDepth)
  { b with workspace := (told n.scope.label n.pointer).cutting n }

/-- The state in which a path item or callback is begun. -/
def entering (site : Site) : Binder := { b with inProgress := site :: b.inProgress }

/-- The state in which a path item or callback is finished. -/
def leaving (site : Site) : Binder := { b with inProgress := b.inProgress.filter (· ≠ site) }

theorem leaving_cons {w : Workspace} {depth : Nat} {enclosing : Enclosing} {site : Site}
    (hnew : site ∉ enclosing) :
    leaving ⟨w, depth, site :: enclosing⟩ site = ⟨w, depth, enclosing⟩ := by
  have hfilter : enclosing.filter (· ≠ site) = enclosing :=
    List.filter_eq_self.mpr fun other hother => decide_eq_true fun heq => hnew (heq ▸ hother)
  rw [leaving, List.filter_cons_of_neg (by simp), hfilter]

end Binder

/-- A call that has not ended. -/
inductive Frame where
  /-- A schema is being read, which has a number. -/
  | schema (site : Site) (id : SchemaId)
  /-- A path item or callback is being read. -/
  | object (site : Site)

namespace Frame

/-- The schema that is being read. -/
def schema? : Frame → Option (Site × SchemaId)
  | .schema site id => some (site, id)
  | .object _ => none

/-- The node of the path item or callback that is being read. -/
def object? : Frame → Option Site
  | .schema _ _ => none
  | .object site => some site

end Frame

/-- A state of a binder in the middle of a call. -/
structure Moment where
  /-- The calls that were made since and have not ended, the last one first. -/
  stack : List Frame
  /-- The state. -/
  binder : Binder

namespace Moment

variable (m : Moment)

/-- The schemas that are being read. -/
def schemas : List (Site × SchemaId) := m.stack.filterMap Frame.schema?

/-- The nodes of the path items and callbacks that are being read. -/
def objects : List Site := m.stack.filterMap Frame.object?

/-- The moment, seen from the call around it. -/
def under (f : Frame) : Moment := { m with stack := m.stack ++ [f] }

/-- The moments of a call: of its body, which begins with a state, and when it has ended. -/
def around (f : Frame) (first : Binder) (t : List Moment) (last : Binder) : List Moment :=
  (⟨[], first⟩ :: t).map (·.under f) ++ [⟨[], last⟩]

@[simp] theorem binder_under (f : Frame) : (m.under f).binder = m.binder := rfl

@[simp] theorem schemas_under (f : Frame) :
    (m.under f).schemas = m.schemas ++ f.schema?.toList := by
  cases f <;> simp [schemas, under, Frame.schema?]

@[simp] theorem objects_under (f : Frame) :
    (m.under f).objects = m.objects ++ f.object?.toList := by
  cases f <;> simp [objects, under, Frame.object?]

@[simp] theorem schemas_nil (b : Binder) : (⟨[], b⟩ : Moment).schemas = [] := rfl

@[simp] theorem objects_nil (b : Binder) : (⟨[], b⟩ : Moment).objects = [] := rfl

end Moment

/-! ## Calls -/

/-- The finding about a node that stands for a node inside of which it is. -/
def Resolved.holdsItself (target : Resolved) : Finding :=
  .holdsItself (target.reference.getD target.node.pointer.text)

/-- The calls that lead to the end of a chain of references from a node, and what is read there. -/
inductive Node.Enters : {α : Type} → Node → (Readers → Binding (Option α)) →
    (Resolved → Readers → Binding (Option α)) → Prop
  /-- The path item at the node. -/
  | pathItem (path : String) (n : Node) :
    Enters n (fun R => R.pathItem path n) fun target R =>
      R.schema.pathItem? target R.callback path n.pointer
  /-- The callback at the node. -/
  | callback (n : Node) :
    Enters n (fun R => R.callback n) fun target R => target.callback? R.pathItem

/-- With a state of a binder a step goes through some moments, and comes to a result and to another
state. -/
inductive Binder.Passes (S : Setting) :
    {α : Type} → (Readers → Binding α) → Binder → List Moment → α → Binder → Prop
  /-- A step that makes no calls and leaves the memo as it is. -/
  | plain {α : Type} {m : Binding α} (hm : m.KeepsSlots) (b : Binder) :
    Passes S (fun _ => m) b [⟨[], b.after m⟩] (m b.workspace).1 (b.after m)
  /-- One step after the other. -/
  | bind {α β : Type} {F : Readers → Binding α} {G : α → Readers → Binding β} {b b₁ b' : Binder}
      {t t' : List Moment} {a : α} {c : β} (hF : Passes S F b t a b₁)
      (hG : Passes S (G a) b₁ t' c b') :
    Passes S (fun R => F R >>= fun a => G a R) b (t ++ t') c b'
  /-- A schema that was met before. -/
  | met {n : Node} {b : Binder} {slot : Slot} (hslot : b.workspace.slot? n.site = some slot) :
    Passes S (fun R => R.schema n) b [⟨[], b⟩] slot.id b
  /-- A schema that is too deep inside of others. -/
  | tooDeep {n : Node} {b : Binder} (hslot : b.workspace.slot? n.site = none)
      (hdepth : S.options.maxDepth ≤ b.depth) :
    Passes S (fun R => R.schema n) b [⟨[], b.cutting n⟩] b.workspace.graph.size (b.cutting n)
  /-- A schema that is read. -/
  | schema {n : Node} {b b₁ : Binder} {t : List Moment} {s : Schema}
      (hslot : b.workspace.slot? n.site = none) (hdepth : b.depth < S.options.maxDepth)
      (hbody : Passes S (fun R => n.schemaHere R.schema) (b.opening n) t s b₁) :
    Passes S (fun R => R.schema n) b
      (Moment.around (.schema n.site b.workspace.graph.size) (b.opening n) t
        (b₁.closing n b.workspace.graph.size s))
      b.workspace.graph.size (b₁.closing n b.workspace.graph.size s)
  /-- A path item or callback with a chain of references that leads nowhere. -/
  | lost {α : Type} {n : Node} {call : Readers → Binding (Option α)}
      {body : Resolved → Readers → Binding (Option α)} {b : Binder} {p : Problem}
      (hcall : n.Enters call body) (hlost : n.resolved = .error p) :
    Passes S call b [⟨[], b.after (Binding.tell p.scope p.pointer p.finding)⟩] none
      (b.after (Binding.tell p.scope p.pointer p.finding))
  /-- A path item or callback that is being read already. -/
  | again {α : Type} {n : Node} {call : Readers → Binding (Option α)}
      {body : Resolved → Readers → Binding (Option α)} {b : Binder} {target : Resolved}
      (hcall : n.Enters call body) (htarget : n.resolved = .ok target)
      (hmem : target.node.site ∈ b.inProgress) :
    Passes S call b [⟨[], b.after (n.tell target.holdsItself)⟩] none
      (b.after (n.tell target.holdsItself))
  /-- A path item or callback that is read. -/
  | object {α : Type} {n : Node} {call : Readers → Binding (Option α)}
      {body : Resolved → Readers → Binding (Option α)} {b b₁ : Binder} {target : Resolved}
      {t : List Moment} {a : Option α} (hcall : n.Enters call body)
      (htarget : n.resolved = .ok target) (hnew : target.node.site ∉ b.inProgress)
      (hbody : Passes S (body target) (b.entering target.node.site) t a b₁) :
    Passes S call b
      (Moment.around (.object target.node.site) (b.entering target.node.site) t
        (b₁.leaving target.node.site))
      a (b₁.leaving target.node.site)

/-! ## What calls leave as it was -/

/-- What holds of a moment of a step that began with a state. -/
structure Moment.Within (S : Setting) (b : Binder) (m : Moment) : Prop where
  /-- The depth is that of the beginning, and one more for each schema that is being read. -/
  depth : m.binder.depth = b.depth + m.schemas.length
  /-- The depth is not above the limit, unless it was. -/
  limit : m.binder.depth ≤ max b.depth S.options.maxDepth
  /-- The nodes are those of the beginning, and those that are being read since. -/
  inProgress : m.binder.inProgress = m.objects ++ b.inProgress
  /-- The open entries of the memo are those of the beginning, and the schemas that are being read
  since. -/
  opened (site : Site) (id : SchemaId) :
    m.binder.workspace.slot? site = some (.opened id) ↔
      (site, id) ∈ m.schemas ∨ b.workspace.slot? site = some (.opened id)

/-- What holds in the body of a call holds in the call, if it does where the body begins. -/
theorem Moment.Within.under {S : Setting} {b first : Binder} {f : Frame} {m : Moment}
    (hfirst : Moment.Within S b (Moment.under ⟨[], first⟩ f)) (h : m.Within S first) :
    (m.under f).Within S b where
  depth := by
    have hdepth := hfirst.depth
    simp only [binder_under, schemas_under, schemas_nil, List.nil_append] at hdepth
    rw [binder_under, schemas_under, List.length_append, h.depth, hdepth, Nat.add_assoc,
      Nat.add_comm m.schemas.length]
  limit := by
    have hlimit : first.depth ≤ max b.depth S.options.maxDepth := hfirst.limit
    exact Nat.le_trans h.limit (Nat.max_le.mpr ⟨hlimit, Nat.le_max_right _ _⟩)
  inProgress := by
    have hinProgress := hfirst.inProgress
    simp only [binder_under, objects_under, objects_nil, List.nil_append] at hinProgress
    rw [binder_under, objects_under, h.inProgress, hinProgress, List.append_assoc]
  opened site id := by
    have hopened := hfirst.opened site id
    simp only [binder_under, schemas_under, schemas_nil, List.nil_append] at hopened
    rw [binder_under, schemas_under, h.opened, hopened, List.mem_append, or_assoc]

/-- What holds of the moments and of the last state of a step that began with a state. -/
structure Binder.Restores (S : Setting) (b : Binder) (t : List Moment) (b' : Binder) : Prop where
  /-- The depth is what it was. -/
  depth : b'.depth = b.depth
  /-- The nodes are what they were. -/
  inProgress : b'.inProgress = b.inProgress
  /-- The open entries of the memo are what they were. -/
  opened (site : Site) (id : SchemaId) :
    b'.workspace.slot? site = some (.opened id) ↔ b.workspace.slot? site = some (.opened id)
  /-- At every moment, what has changed is due to the calls that have not ended. -/
  within : ∀ m ∈ t, m.Within S b
  /-- From each state to every later one, entries of the memo are kept or become bound. -/
  continues : (b.workspace :: t.map (·.binder.workspace) ++ [b'.workspace]).Pairwise
    Workspace.Continues

namespace Binder.Restores

variable {S : Setting} {b b₁ b' first last : Binder} {t t' : List Moment} {n : Node}

/-- A step that makes no calls. -/
theorem single {w : Workspace} (hcontinues : b.workspace.Continues w)
    (hopened : ∀ site id, w.slot? site = some (.opened id) ↔
      b.workspace.slot? site = some (.opened id)) :
    Restores S b [⟨[], { b with workspace := w }⟩] { b with workspace := w } where
  depth := rfl
  inProgress := rfl
  opened := hopened
  within m hm := by
    obtain rfl := List.mem_singleton.mp hm
    exact ⟨rfl, Nat.le_max_left _ _, rfl, by simpa using hopened⟩
  continues := by
    have hself : w.Continues w := Workspace.continues_of_slots rfl
    simp [hcontinues, hself]

/-- A step that leaves the memo as it is. -/
theorem of_slots {w : Workspace} (h : w.slots = b.workspace.slots) :
    Restores S b [⟨[], { b with workspace := w }⟩] { b with workspace := w } :=
  single (Workspace.continues_of_slots h) fun site id => by rw [Workspace.slot?, h, Workspace.slot?]

theorem cutting (hslot : b.workspace.slot? n.site = none) :
    Restores S b [⟨[], b.cutting n⟩] (b.cutting n) := by
  refine single (Workspace.continues_cutting hslot) fun site id => ?_
  rw [Workspace.slot?_cutting]
  split
  · next heq => simp [← heq, hslot]
  · rfl

theorem trans (h : Restores S b t b₁) (h' : Restores S b₁ t' b') : Restores S b (t ++ t') b' where
  depth := h'.depth.trans h.depth
  inProgress := h'.inProgress.trans h.inProgress
  opened site id := (h'.opened site id).trans (h.opened site id)
  within m hm := by
    rcases List.mem_append.mp hm with hm | hm
    · exact h.within m hm
    · have hm := h'.within m hm
      exact ⟨h.depth ▸ hm.depth, h.depth ▸ hm.limit, h.inProgress ▸ hm.inProgress,
        fun site id => by rw [hm.opened, h.opened]⟩
  continues := by
    -- the state between the two steps is the last of one list and the first of the other
    have hall : ((b.workspace :: t.map (·.binder.workspace)) ++ b₁.workspace ::
        (t'.map (·.binder.workspace) ++ [b'.workspace])).IsChain Workspace.Continues :=
      List.isChain_split.mpr
        ⟨List.isChain_iff_pairwise.mpr h.continues, List.isChain_iff_pairwise.mpr h'.continues⟩
    refine (List.isChain_iff_pairwise.mp hall).sublist ?_
    simp

/-- A call whose body restores what it finds, if all else is taken back at its end. -/
theorem around {f : Frame} (h : Restores S first t b₁)
    (hfirst : Moment.Within S b (Moment.under ⟨[], first⟩ f))
    (hlast : Moment.Within S b ⟨[], last⟩)
    (hbegin : b.workspace.Continues first.workspace)
    (hend : b₁.workspace.Continues last.workspace) :
    Restores S b (Moment.around f first t last) last where
  depth := hlast.depth
  inProgress := hlast.inProgress
  opened := by simpa using hlast.opened
  within m hm := by
    rcases List.mem_append.mp hm with hm | hm
    · obtain ⟨inner, hinner, rfl⟩ := List.mem_map.mp hm
      rcases List.mem_cons.mp hinner with rfl | hinner
      · exact hfirst
      · exact hfirst.under (h.within inner hinner)
    · rwa [List.mem_singleton.mp hm]
  continues := by
    have hself : last.workspace.Continues last.workspace := Workspace.continues_of_slots rfl
    have hbody : (b.workspace :: first.workspace :: t.map (·.binder.workspace) ++
        [b₁.workspace]).IsChain Workspace.Continues :=
      .cons_cons hbegin (List.isChain_iff_pairwise.mpr h.continues)
    have hall : (b.workspace :: first.workspace :: t.map (·.binder.workspace) ++
        b₁.workspace :: [last.workspace, last.workspace]).IsChain Workspace.Continues :=
      List.isChain_split.mpr ⟨hbody, by simp [hend, hself]⟩
    refine (List.isChain_iff_pairwise.mp hall).sublist ?_
    simp [Moment.around, Function.comp_def]

/-- A schema is read. -/
theorem schema {s : Schema} (hslot : b.workspace.slot? n.site = none)
    (hdepth : b.depth < S.options.maxDepth) (h : Restores S (b.opening n) t b₁) :
    Restores S b
      (Moment.around (.schema n.site b.workspace.graph.size) (b.opening n) t
        (b₁.closing n b.workspace.graph.size s))
      (b₁.closing n b.workspace.graph.size s) := by
  have hopened : b₁.workspace.slot? n.site = some (.opened b.workspace.graph.size) :=
    (h.opened _ _).mpr (by simp [Binder.opening, Workspace.slot?_opening])
  refine h.around ?_ ?_ (Workspace.continues_opening hslot)
    (Workspace.continues_closing hopened s)
  · refine ⟨rfl, ?_, rfl, fun site id => ?_⟩
    · exact Nat.le_trans hdepth (Nat.le_max_right _ _)
    · change (b.workspace.opening n).slot? site = _ ↔ _
      rw [Workspace.slot?_opening]
      split
      · next heq => simp [← heq, hslot, Frame.schema?, eq_comm]
      · next hne => simp [Frame.schema?, Ne.symm hne]
  · have hback : (b₁.closing n b.workspace.graph.size s).depth = b.depth :=
      congrArg (· - 1) h.depth
    refine ⟨hback, hback ▸ Nat.le_max_left _ _, h.inProgress, fun site id => ?_⟩
    change (b₁.workspace.closing n b.workspace.graph.size s).slot? site = _ ↔ _
    rw [Workspace.slot?_closing]
    split
    · next heq => simp [← heq, hslot]
    · next hne =>
      rw [h.opened, Binder.opening, Workspace.slot?_opening, if_neg hne]
      simp

/-- A path item or callback is read. -/
theorem object {site : Site} (hnew : site ∉ b.inProgress)
    (h : Restores S (b.entering site) t b₁) :
    Restores S b (Moment.around (.object site) (b.entering site) t (b₁.leaving site))
      (b₁.leaving site) := by
  have hback : (b₁.leaving site).inProgress = b.inProgress := by
    have hinProgress : b₁.inProgress = site :: b.inProgress := h.inProgress
    have hleft : b₁.leaving site = ⟨b₁.workspace, b₁.depth, b.inProgress⟩ := by
      rw [← leaving_cons hnew, ← hinProgress]
    rw [hleft]
  have hself : ∀ w : Workspace, w.Continues w := fun _ => Workspace.continues_of_slots rfl
  refine h.around ?_ ?_ (hself _) (hself _)
  · exact ⟨rfl, Nat.le_max_left _ _, rfl, by simp [Frame.schema?, Binder.entering]⟩
  · refine ⟨h.depth, h.depth ▸ Nat.le_max_left _ _, hback, ?_⟩
    simpa [Binder.entering, Binder.leaving] using h.opened

end Binder.Restores

/-- Whatever is done with a state of a binder, and no matter how each call in it ends: the depth and
the nodes are put back. -/
theorem Binder.Passes.restores {S : Setting} {α : Type} {F : Readers → Binding α} {b b' : Binder}
    {t : List Moment} {a : α} (h : Passes S F b t a b') : Restores S b t b' := by
  induction h with
  | plain hm b => exact .of_slots (hm b.workspace)
  | bind _ _ ihF ihG => exact ihF.trans ihG
  | met _ => exact .of_slots rfl
  | tooDeep hslot _ => exact .cutting hslot
  | schema hslot hdepth _ ih => exact .schema hslot hdepth ih
  | lost _ _ => exact .of_slots rfl
  | again _ _ _ => exact .of_slots rfl
  | object _ _ hnew _ ih => exact .object hnew ih

end ApiDescription
