import ApiDescription.Proofs.Binding.Outside
import Mathlib.Logic.Relation

/-!
# What is reached from an open schema

While a schema is open, others are begun because it asks for them: they are its parts, the targets
of its references, or the targets of the mapping of its discriminator.  When it is finished, all of
these can be reached from it, through schemas that are finished as well: `Workspace.Covered` is
carried from each function that reads a part of a schema to the next one.

So a reference that closes a cycle, which leads to a schema that is open when it is read, is
reached from there in the end: `Workspace.Tracked`.  There is one way in which the edges of the
graph alone do not say so.  A discriminator on a schema that has no place for it is read, and what
its mapping leads to is read, before the discriminator is left out: `Workspace.Drops`.
-/

namespace ApiDescription

open Binding
open Relation (ReflTransGen)

namespace Workspace

variable {S : Setting} {w w' : Workspace} {n : Node} {r : Record} {shape : Shape}
  {id target first : SchemaId} {asked asked' : SchemaId → Prop}

/-! ## Edges -/

/-- The shape of the schema of an object has no place for the discriminator that is written in the
object, and a finding says so; but an entry of its mapping led to a schema. -/
structure Drops (S : Setting) (w : Workspace) (r : Record) (shape : Shape) (target : SchemaId) :
    Prop where
  /-- Only objects and compositions have a discriminator. -/
  misplaced : (∃ a, shape = .array a) ∨ ∃ c, shape = .scalar c
  /-- That it is left out is found. -/
  told : Finding.discriminatorMisplaced.diagnostic r.scope.label (r.pointer.push "discriminator") ∈
    w.report.diagnostics
  /-- The mapping led to the schema. -/
  mapped : ∃ entry, Maps S w r entry ∧ entry.2.state = .resolved target

/-- The schema of a node asks for another one. -/
inductive Asks (S : Setting) (w : Workspace) (n : Node) (shape : Shape) (id : SchemaId) : Prop
  /-- It is put together from it. -/
  | child (h : id ∈ shape.children)
  /-- It refers to it. -/
  | target {reference : Reference} (h : reference ∈ shape.references)
      (hstate : reference.state = .resolved id)
  /-- It was led to it by a discriminator that it does not have. -/
  | dropped {r : Record} (hr : n.object? = some r) (h : w.Drops S r shape id)

/-- A schema that is not open leads to another one. -/
inductive Calls (S : Setting) (w : Workspace) (id target : SchemaId) : Prop
  | child (ho : ¬ w.Open id) (h : w.graph.Holds id target)
  | target (ho : ¬ w.Open id) (h : w.graph.Refers id target)
  | dropped {r : Record} {s : Schema} (hr : r.Sited S) (hslot : (r.node.site, .bound id) ∈ w.slots)
      (hs : w.graph.get? id = some s) (h : w.Drops S r s.shape target)

/-- One gets from a schema to another one through schemas that are not open. -/
def Reaches (S : Setting) (w : Workspace) : SchemaId → SchemaId → Prop :=
  ReflTransGen (w.Calls S)

theorem not_open_of_mem_slots {site : Site} (h : (site, .bound id) ∈ w.slots) : ¬ w.Open id :=
  fun ho => ho.2 ⟨site, h⟩

theorem Drops.grows (h : w.Drops S r shape id) (hw : w.Grows w') : w'.Drops S r shape id :=
  ⟨h.misplaced, hw.diagnostics h.told,
    h.mapped.imp fun _ hentry => ⟨hentry.1.grows hw, hentry.2⟩⟩

theorem Asks.grows (h : w.Asks S n shape id) (hw : w.Grows w') : w'.Asks S n shape id := by
  cases h with
  | child h => exact .child h
  | target h hstate => exact .target h hstate
  | dropped hr h => exact .dropped hr (h.grows hw)

/-- What the schema of a node asks for, it leads to as soon as it is finished. -/
theorem Asks.calls {s : Schema} (h : w.Asks S n s.shape target) (hn : n.Sited S)
    (hslot : (n.site, .bound id) ∈ w.slots) (hs : w.graph.get? id = some s) :
    w.Calls S id target := by
  have ho := not_open_of_mem_slots hslot
  cases h with
  | child h => exact .child ho ⟨s, hs, h⟩
  | target h hstate => exact .target ho ⟨s, hs, _, h, hstate⟩
  | dropped hr h =>
    refine .dropped (hn.object hr) ?_ hs h
    rwa [Node.node_of_object? hr]

/-- Edges stay, since the schemas that they start from are not open. -/
theorem Calls.grows (h : w.Calls S id target) (hw : w.Grows w') : w'.Calls S id target := by
  have hkeep : ∀ {s : Schema}, w.graph.get? id = some s → ¬ w.Open id →
      ¬ w'.Open id ∧ ∃ s', w'.graph.get? id = some s' ∧ s'.shape = s.shape := by
    intro s hs ho
    obtain ⟨s', hs', hunnamed⟩ := hw.kept id s hs ho
    exact ⟨hw.not_open (SchemaGraph.lt_size_iff.mpr ⟨s, hs⟩) ho, s', hs',
      Schema.shape_eq_of_unnamed hunnamed⟩
  cases h with
  | child ho h =>
    obtain ⟨s, hs, hchild⟩ := h
    obtain ⟨ho', s', hs', hshape⟩ := hkeep hs ho
    exact .child ho' ⟨s', hs', hshape ▸ hchild⟩
  | target ho h =>
    obtain ⟨s, hs, reference, hreference, hstate⟩ := h
    obtain ⟨ho', s', hs', hshape⟩ := hkeep hs ho
    exact .target ho' ⟨s', hs', reference, hshape ▸ hreference, hstate⟩
  | dropped hr hslot hs h =>
    obtain ⟨-, s', hs', hshape⟩ := hkeep hs (not_open_of_mem_slots hslot)
    exact .dropped hr (hw.slots hslot) hs' (hshape ▸ h.grows hw)

theorem Reaches.grows (h : w.Reaches S id target) (hw : w.Grows w') : w'.Reaches S id target := by
  induction h with
  | refl => exact ReflTransGen.refl
  | tail _ hcalls ih => exact ReflTransGen.tail ih (hcalls.grows hw)

/-! ## What is covered -/

/-- From a number on, every schema is reached from one that was asked for. -/
def Covered (S : Setting) (w : Workspace) (first : SchemaId) (asked : SchemaId → Prop) : Prop :=
  ∀ id, first ≤ id → id < w.graph.size → ∃ root, asked root ∧ w.Reaches S root id

/-- A slot that is open says of a schema that it is open; and a reference that closes a cycle leads
to a schema that is open, or from which the reference is reached. -/
structure Tracked (S : Setting) (w : Workspace) : Prop where
  /-- What was begun and not finished at a site is open. -/
  opened : ∀ site id, w.slot? site = some (.opened id) → w.Open id
  /-- What closes a cycle is reached from where it leads, or will be. -/
  cyclic : ∀ id s, w.graph.get? id = some s → ¬ w.Open id →
    ∀ reference ∈ s.shape.references, ∀ target, reference.state = .cyclic target →
      w.Open target ∧ target ≤ id ∨ w.Reaches S target id

/-- Both hold. -/
structure Gathered (S : Setting) (w : Workspace) (first : SchemaId) (asked : SchemaId → Prop) :
    Prop where
  /-- References that close cycles are kept track of. -/
  tracked : w.Tracked S
  /-- New schemas are reached. -/
  covered : w.Covered S first asked

theorem Covered.imp (h : w.Covered S first asked) (himp : ∀ root, asked root → asked' root) :
    w.Covered S first asked' := by
  intro id hfirst hlt
  obtain ⟨root, hroot, hreaches⟩ := h id hfirst hlt
  exact ⟨root, himp root hroot, hreaches⟩

theorem Gathered.imp (h : w.Gathered S first asked) (himp : ∀ root, asked root → asked' root) :
    w.Gathered S first asked' :=
  ⟨h.tracked, h.covered.imp himp⟩

theorem tracked_fresh : Workspace.fresh.Tracked S where
  opened site id h := by simp [fresh, slot?] at h
  cyclic id s hs := by simp [fresh, SchemaGraph.empty, SchemaGraph.get?] at hs

theorem open_iff_of_slots_eq (hslots : w'.slots = w.slots) : w'.Open id ↔ w.Open id := by
  unfold Open Begun Finished
  rw [hslots]

theorem slot?_of_slots_eq (hslots : w'.slots = w.slots) (site : Site) :
    w'.slot? site = w.slot? site := by
  unfold slot?
  rw [hslots]

/-- Where no slot is added and new schemas refer to nothing, references are still kept track of. -/
theorem Tracked.of_slots_eq (h : w.Tracked S) (hw : w.Extends w') (hslots : w'.slots = w.slots)
    (hnew : ∀ id s, w'.graph.get? id = some s → w.graph.size ≤ id → s.shape.references = []) :
    w'.Tracked S where
  opened site id hslot := by
    rw [slot?_of_slots_eq hslots] at hslot
    exact (open_iff_of_slots_eq hslots).mpr (h.opened site id hslot)
  cyclic id s' hs' ho reference hreference target hstate := by
    rw [open_iff_of_slots_eq hslots] at ho ⊢
    by_cases hold : id < w.graph.size
    · obtain ⟨s, hs⟩ := SchemaGraph.lt_size_iff.mp hold
      obtain ⟨s'', hs'', hunnamed⟩ := hw.kept id s hs
      obtain rfl := Option.some.inj (hs'.symm.trans hs'')
      rw [Schema.shape_eq_of_unnamed hunnamed] at hreference
      exact (h.cyclic id s hs ho reference hreference target hstate).imp_right (·.grows hw.grows)
    · rw [hnew id s' hs' (Nat.le_of_not_lt hold)] at hreference
      simp at hreference

/-- Findings and names change nothing. -/
theorem Tracked.of_size_eq (h : w.Tracked S) (hw : w.Extends w') (hslots : w'.slots = w.slots)
    (hsize : w'.graph.size = w.graph.size) : w'.Tracked S := by
  refine h.of_slots_eq hw hslots fun id s hs hid => ?_
  have hlt : id < w'.graph.size := SchemaGraph.lt_size_iff.mpr ⟨s, hs⟩
  exact absurd hid (Nat.not_le.mpr (hsize ▸ hlt))

theorem Gathered.told (h : w.Gathered S first asked) (found : Report) :
    { w with report := w.report.append found }.Gathered S first asked := by
  have hw := Extends.tell w found
  refine ⟨h.tracked.of_size_eq hw rfl rfl, fun id hfirst hlt => ?_⟩
  obtain ⟨root, hroot, hreaches⟩ := h.covered id hfirst hlt
  exact ⟨root, hroot, hreaches.grows hw.grows⟩

/-- A part that is added holds what was asked for, and is asked for itself. -/
theorem Gathered.adding (h : w.Gathered S first fun id => asked id ∨ id ∈ shape.children)
    (hpart : (w.adding r shape).Part r w.graph.size shape) (hreferences : shape.references = []) :
    (w.adding r shape).Gathered S first fun id => asked id ∨ id = w.graph.size := by
  have hw := w.extends_adding r shape
  obtain ⟨s, hs, hunnamed⟩ := hpart.schema
  have hshape : s.shape = shape := congrArg Schema.shape hunnamed
  refine ⟨h.tracked.of_slots_eq hw rfl fun id t ht hid => ?_, fun id hfirst hlt => ?_⟩
  · obtain ⟨rfl, rfl⟩ := eq_size_of_push ht hid
    exact hreferences
  · by_cases hold : id < w.graph.size
    · obtain ⟨root, hroot, hreaches⟩ := h.covered id hfirst hold
      rcases hroot with hasked | hchild
      · exact ⟨root, .inl hasked, hreaches.grows hw.grows⟩
      · have hcalls : (w.adding r shape).Calls S w.graph.size root :=
          .child (fun ho => hpart.not_begun ho.1) ⟨s, hs, hshape ▸ hchild⟩
        exact ⟨_, .inr rfl, ReflTransGen.head hcalls (hreaches.grows hw.grows)⟩
    · rw [Workspace.adding, SchemaGraph.size_push] at hlt
      exact ⟨id, .inr (Nat.le_antisymm (Nat.le_of_lt_succ hlt) (Nat.le_of_not_lt hold)), ReflTransGen.refl⟩

/-! ## Nodes -/

/-- When a node is begun, nothing was asked for on its behalf. -/
theorem Tracked.opening (h : w.Tracked S) (hw : w.Sound S) (n : Node) :
    (w.opening n).Tracked S where
  opened site id hslot := by
    have hslot' := (w.slot?_cons n.site site (.opened w.graph.size)).symm.trans hslot
    split at hslot'
    · obtain rfl := Slot.opened.inj (Option.some.inj hslot')
      exact hw.open_opening n
    · exact open_opening_of_open (h.opened site id hslot')
  cyclic id s hs ho reference hreference target hstate := by
    have hold : w.graph.get? id = some s := by
      simp only [Workspace.opening, SchemaGraph.get?_push] at hs
      split at hs
      · next heq => exact absurd (heq ▸ hw.open_opening n) ho
      · exact hs
    have ho' : ¬ w.Open id := fun hopen => ho (open_opening_of_open hopen)
    exact (h.cyclic id s hold ho' reference hreference target hstate).imp
      (And.imp_left open_opening_of_open) (·.grows (w.grows_opening n))

section Closing

variable {s : Schema} (hw : w.Sound S) (hn : n.Sited S) (hext : (w.opening n).Extends w')
  (hw' : w'.Sound S)

include hw hext

theorem open_of_opening : w'.Open w.graph.size :=
  hext.stays_open (by simp) (hw.open_opening n)

/-- The schema that was begun last is the open one with the greatest number. -/
theorem le_of_open (ho : w'.Open target) : target ≤ w.graph.size := by
  rcases open_of_open_opening (hext.closed target ho) with hold | rfl
  · exact Nat.le_of_lt (hw.lt_size_of_open hold)
  · exact Nat.le_refl _

/-- It was begun at one node. -/
theorem eq_site_of_opened {site : Site} (hslot : (site, .opened w.graph.size) ∈ w'.slots) :
    site = n.site := by
  rcases hext.fresh _ hslot with hbegun | hnew
  · rcases List.mem_cons.mp hbegun with heq | hold
    · exact congrArg Prod.fst heq
    · exact absurd (hw.lt_size_of_mem hold) (Nat.lt_irrefl _)
  · rw [size_opening] at hnew
    exact absurd hnew (Nat.not_succ_le_self _)

include hn hw'

/-- From a schema that is finished, everything is reached that was read since it was begun. -/
theorem covered_closing
    (hcovered : w'.Covered S (w.graph.size + 1) fun id => w'.Asks S n s.shape id) :
    (w'.closing n w.graph.size s).Covered S w.graph.size fun id => id = w.graph.size := by
  have ho := open_of_opening hw hext
  have hgrows := grows_closing ho n s
  intro id hid hlt
  refine ⟨w.graph.size, rfl, ?_⟩
  rcases Nat.eq_or_lt_of_le hid with rfl | hnew
  · exact ReflTransGen.refl
  · rw [Workspace.closing, SchemaGraph.size_modify] at hlt
    obtain ⟨root, hasks, hreaches⟩ := hcovered id hnew hlt
    have hcalls := (hasks.grows hgrows).calls hn List.mem_cons_self
      (get?_closing_self (hw'.lt_size_of_open ho))
    exact ReflTransGen.head hcalls (hreaches.grows hgrows)

theorem Tracked.closing (h : w'.Tracked S)
    (hcovered : w'.Covered S (w.graph.size + 1) fun id => w'.Asks S n s.shape id)
    (hopen : ∀ reference ∈ s.shape.references, ∀ target, reference.state = .cyclic target →
      w'.Open target) : (w'.closing n w.graph.size s).Tracked S := by
  have ho := open_of_opening hw hext
  have hgrows := grows_closing ho n s
  have hself := covered_closing hw hn hext hw' hcovered
  have hlt : ∀ {id t}, (w'.closing n w.graph.size s).graph.get? id = some t →
      id < (w'.closing n w.graph.size s).graph.size := fun ht =>
    SchemaGraph.lt_size_iff.mpr ⟨_, ht⟩
  -- what was open still is, unless it is the schema that is finished
  have hstays : ∀ {target : SchemaId}, w'.Open target → target ≠ w.graph.size →
      (w'.closing n w.graph.size s).Open target := fun htarget hne =>
    Classical.not_not.mp fun hnot => hne (eq_of_not_open_closing htarget hnot)
  refine ⟨fun site id hslot => ?_, fun id t ht hclosed reference hreference target hstate => ?_⟩
  · have hslot' := (w'.slot?_cons n.site site (.bound w.graph.size)).symm.trans hslot
    split at hslot'
    · cases hslot'
    · next hsite =>
      refine hstays (h.opened site id hslot') ?_
      rintro rfl
      exact hsite (eq_site_of_opened hw hext (mem_slots_of_slot? hslot')).symm
  · by_cases hid : id = w.graph.size
    · subst hid
      obtain rfl := Option.some.inj
        (ht.symm.trans (get?_closing_self (hw'.lt_size_of_open ho)))
      have htarget := hopen reference hreference target hstate
      by_cases hne : target = w.graph.size
      · exact .inr (hne ▸ ReflTransGen.refl)
      · exact .inl ⟨hstays htarget hne, le_of_open hw hext htarget⟩
    · have ht' := (get?_closing_of_ne (Ne.symm hid)).symm.trans ht
      have hclosed' : ¬ w'.Open id := fun hopen' => hclosed (hstays hopen' hid)
      rcases h.cyclic id t ht' hclosed' reference hreference target hstate with
        ⟨htarget, hle⟩ | hreaches
      · by_cases hne : target = w.graph.size
        · -- the schema that the reference leads to is the one that is finished
          obtain ⟨root, rfl, hreaches⟩ := hself id (hne ▸ hle) (hlt ht)
          exact .inr (hne ▸ hreaches)
        · exact .inl ⟨hstays htarget hne, hle⟩
      · exact .inr (hreaches.grows hgrows)

end Closing

/-- A schema that is finished at once asks for nothing, and is asked for. -/
theorem Gathered.cutting (h : w.Gathered S first asked) (hw : w.Sound S) (n : Node) :
    (w.cutting n).Gathered S first fun id => asked id ∨ id = w.graph.size := by
  have hext := w.extends_cutting n
  have hstays : ∀ {id}, w.Open id → (w.cutting n).Open id := fun ho =>
    hext.stays_open (hw.lt_size_of_open ho) ho
  refine ⟨⟨fun site id hslot => ?_, fun id s hs ho reference hreference target hstate => ?_⟩,
    fun id hfirst hlt => ?_⟩
  · have hslot' := (w.slot?_cons n.site site (.bound w.graph.size)).symm.trans hslot
    split at hslot'
    · cases hslot'
    · exact hstays (h.tracked.opened site id hslot')
  · by_cases hold : w.graph.size ≤ id
    · obtain ⟨-, rfl⟩ := eq_size_of_push hs hold
      simp [Node.blankSchema, Schema.blank] at hreference
    · obtain ⟨t, ht⟩ := SchemaGraph.lt_size_iff.mp (Nat.lt_of_not_le hold)
      obtain rfl := Option.some.inj (hs.symm.trans (get?_push_of_eq_some ht _))
      exact (h.tracked.cyclic id s ht (fun hopen => ho (hstays hopen)) reference hreference target
        hstate).imp (And.imp_left hstays) (·.grows hext.grows)
  · by_cases hold : id < w.graph.size
    · obtain ⟨root, hroot, hreaches⟩ := h.covered id hfirst hold
      exact ⟨root, .inl hroot, hreaches.grows hext.grows⟩
    · rw [Workspace.cutting, SchemaGraph.size_push] at hlt
      exact ⟨id, .inr (Nat.le_antisymm (Nat.le_of_lt_succ hlt) (Nat.le_of_not_lt hold)), ReflTransGen.refl⟩

end Workspace

/-! ## Steps -/

namespace Binding.Ensures

variable {α β : Type} {S : Setting} {w : Workspace} {first : SchemaId} {asked : SchemaId → Prop}
  {m : Binding α}

protected theorem and {post post' : α → Workspace → Prop} (h : Ensures S w m post)
    (h' : Ensures S w m post') : Ensures S w m fun a w' => post a w' ∧ post' a w' :=
  ⟨h.sound, h.ext, h.holds, h'.holds⟩

/-- A step that only adds findings asks for nothing. -/
theorem gathers_tells (hw : w.Sound S) (hg : w.Gathered S first asked) (hm : m.OnlyTells) :
    Ensures S w m fun a w' => a = m.result ∧ w'.Gathered S first asked := by
  refine (tells hw hm).and ⟨(tells hw hm).sound, (tells hw hm).ext, ?_⟩
  obtain ⟨found, hrun⟩ := hm.run
  rw [hrun]
  exact hg.told found

/-- A step that only adds findings comes first. -/
theorem gathers_bind {f : α → Binding β} {post : β → Workspace → Prop} (hw : w.Sound S)
    (hg : w.Gathered S first asked) (hm : m.OnlyTells)
    (hf : ∀ w', w'.Sound S → w.Extends w' → w'.Gathered S first asked →
      Ensures S w' (f m.result) post) : Ensures S w (m >>= f) post := by
  refine (gathers_tells hw hg hm).bind fun a w' hw' hext ha => ?_
  rw [ha.1]
  exact hf w' hw' hext ha.2

/-- What the elements of a list are read as is asked for, one after the other. -/
theorem each_gathers {step : α → Binding SchemaId} {l : List α}
    (hstep : ∀ a ∈ l, ∀ {w : Workspace} {asked : SchemaId → Prop}, w.Sound S →
      w.Gathered S first asked → Ensures S w (step a) fun id w' =>
        w'.Gathered S first fun other => asked other ∨ other = id)
    (hw : w.Sound S) (hg : w.Gathered S first asked) :
    Ensures S w (Binding.each step l) fun ids w' =>
      w'.Gathered S first fun other => asked other ∨ other ∈ ids := by
  induction l generalizing w asked with
  | nil => exact .pure hw (hg.imp fun _ => .inl)
  | cons a rest ih =>
    refine (hstep a List.mem_cons_self hw hg).bind fun id w₁ hw₁ _ hg₁ => ?_
    refine (ih (fun a ha => hstep a (List.mem_cons_of_mem _ ha)) hw₁ hg₁).bind
      fun ids w₂ hw₂ _ hg₂ => .pure hw₂ (hg₂.imp fun other => ?_)
    rw [List.mem_cons, ← or_assoc]
    exact fun hother => hother

/-- What some elements of a list give is asked for, one after the other; and what is said of it stays
true. -/
theorem collect_gathers (asks : β → SchemaId → Prop) {P : β → Workspace → Prop}
    (hP : ∀ b {w w' : Workspace}, w.Sound S → w.Extends w' → P b w → P b w')
    {step : α → Binding (Option β)} {l : List α}
    (hstep : ∀ a ∈ l, ∀ {w : Workspace} {asked : SchemaId → Prop}, w.Sound S →
      w.Gathered S first asked → Ensures S w (step a) fun b? w' =>
        (w'.Gathered S first fun other => asked other ∨ ∃ b ∈ b?, asks b other) ∧
          ∀ b ∈ b?, P b w')
    (hw : w.Sound S) (hg : w.Gathered S first asked) :
    Ensures S w (Binding.collect step l) fun bs w' =>
      (w'.Gathered S first fun other => asked other ∨ ∃ b ∈ bs, asks b other) ∧
        ∀ b ∈ bs, P b w' := by
  induction l generalizing w asked with
  | nil => exact .pure hw ⟨hg.imp fun _ => .inl, by simp⟩
  | cons a rest ih =>
    refine (hstep a List.mem_cons_self hw hg).bind fun b? w₁ hw₁ _ h₁ => ?_
    refine (ih (fun a ha => hstep a (List.mem_cons_of_mem _ ha)) hw₁ h₁.1).bind
      fun bs w₂ hw₂ hext₂ h₂ => .pure hw₂ ⟨h₂.1.imp fun other hother => ?_, fun b hb => ?_⟩
    · rcases hother with (hasked | ⟨b, hb, hasks⟩) | ⟨b, hb, hasks⟩
      · exact .inl hasked
      · exact .inr ⟨b, List.mem_append_left _ (Option.mem_toList.mpr hb), hasks⟩
      · exact .inr ⟨b, List.mem_append_right _ hb, hasks⟩
    · rcases List.mem_append.mp hb with hfirst | hrest
      · exact hP b hw₁ hext₂ (h₁.2 b (Option.mem_toList.mp hfirst))
      · exact h₂.2 b hrest

end Binding.Ensures

/-! ## Schemas -/

variable {S : Setting} {w : Workspace} {read : SchemaReader} {r : Record} {n : Node}
  {first : SchemaId} {asked : SchemaId → Prop}

/-- A way to read schemas asks for the schema of the node. -/
def SchemaReader.Gathers (S : Setting) (read : SchemaReader) : Prop :=
  ∀ {w : Workspace} {n : Node} {first : SchemaId} {asked : SchemaId → Prop}, w.Sound S →
    w.Gathered S first asked → n.Sited S →
      Ensures S w (read n) fun id w' => w'.Gathered S first fun other => asked other ∨ other = id

/-- The references among some that close a cycle lead to open schemas. -/
def Workspace.ClosesOpen (w : Workspace) (references : List Reference) : Prop :=
  ∀ reference ∈ references, ∀ target, reference.state = .cyclic target → w.Open target

theorem Workspace.ClosesOpen.extends {w w' : Workspace} {references : List Reference}
    (h : w.ClosesOpen references) (hw : w.Sound S) (hext : w.Extends w') :
    w'.ClosesOpen references := by
  intro reference hreference target hstate
  have ho := h reference hreference target hstate
  exact hext.stays_open (hw.lt_size_of_open ho) ho

namespace Record

/-! ### References -/

theorem gathers_referenceState (hgather : read.Gathers S) (hr : r.Sited S) (hw : w.Sound S)
    (hg : w.Gathered S first asked) (text : String) (at_ : Pointer) :
    Ensures S w (r.referenceState read text at_) fun state w' =>
      (w'.Gathered S first fun other => asked other ∨ state = .resolved other) ∧
        ∀ target, state = .cyclic target → w'.Open target := by
  unfold referenceState
  cases hlocate : r.scope.locate text with
  | error f =>
    refine Ensures.gathers_bind hw hg (Binding.onlyTells_tell _ _ _) fun w₁ hw₁ _ hg₁ => ?_
    exact .pure hw₁ ⟨hg₁.imp fun _ => .inl, by simp⟩
  | ok target =>
    have htarget : target.Sited S := Scope.Registered.locate hr.scope hlocate
    refine .slot?_bind ?_
    cases hslot : w.slot? target.site with
    | some slot =>
      cases slot with
      | opened id =>
        refine .pure hw ⟨hg.imp fun _ => .inl, fun other hother => ?_⟩
        obtain rfl := ReferenceState.cyclic.inj hother
        exact hg.tracked.opened _ _ hslot
      | bound id => exact .pure hw ⟨hg.imp fun _ => .inl, by simp⟩
    | none =>
      refine (hgather hw hg htarget).bind fun id w₁ hw₁ _ hg₁ => ?_
      refine .pure hw₁ ⟨hg₁.imp fun other hother => hother.imp_right ?_, by simp⟩
      rintro rfl
      rfl

theorem gathers_referenceSchema (hgather : read.Gathers S) (hr : r.Sited S) (hw : w.Sound S)
    (hg : w.Gathered S first asked) (text : String) :
    Ensures S w (r.referenceSchema read text) fun s w' =>
      (w'.Gathered S first fun other => asked other ∨ w'.Asks S r.node s.shape other) ∧
        w'.ClosesOpen s.shape.references := by
  have hstate : ∀ {w₁ : Workspace}, w₁.Sound S → w₁.Gathered S first asked →
      Ensures S w₁ (r.referenceState read text (r.pointer.push referenceKey)) fun state w' =>
        (w'.Gathered S first fun other =>
          asked other ∨ w'.Asks S r.node (.reference ⟨text, state⟩) other) ∧
            w'.ClosesOpen [⟨text, state⟩] := by
    intro w₁ hw₁ hg₁
    refine (gathers_referenceState hgather hr hw₁ hg₁ text _).imp fun state w₂ _ _ h₂ => ?_
    refine ⟨h₂.1.imp fun other hother => hother.imp_right fun hstate => ?_, ?_⟩
    · exact .target (List.mem_singleton_self _) hstate
    · intro reference hreference target hstate
      obtain rfl := List.mem_singleton.mp hreference
      exact h₂.2 target hstate
  unfold referenceSchema
  dsimp only
  split
  · refine Ensures.gathers_bind hw hg (r.onlyTells_text? _) fun w₁ hw₁ _ hg₁ => ?_
    refine Ensures.gathers_bind hw₁ hg₁ (r.onlyTells_text? _) fun w₂ hw₂ _ hg₂ => ?_
    refine Ensures.gathers_bind hw₂ hg₂ (.pure _) fun w₃ hw₃ _ hg₃ => ?_
    exact (hstate hw₃ hg₃).bind fun _ _ hw₄ _ h => .pure hw₄ h
  · split
    · refine Ensures.gathers_bind hw hg (r.onlyTells_tell _) fun w₁ hw₁ _ hg₁ => ?_
      refine Ensures.gathers_bind hw₁ hg₁ (.pure _) fun w₂ hw₂ _ hg₂ => ?_
      exact (hstate hw₂ hg₂).bind fun _ _ hw₃ _ h => .pure hw₃ h
    · refine Ensures.gathers_bind hw hg (.pure _) fun w₁ hw₁ _ hg₁ => ?_
      exact (hstate hw₁ hg₁).bind fun _ _ hw₂ _ h => .pure hw₂ h

/-! ### Parts -/

theorem gathers_schemaList (hgather : read.Gathers S) (hr : r.Sited S) (hw : w.Sound S)
    (hg : w.Gathered S first asked) (key : String) :
    Ensures S w (r.schemaList read key) fun ids w' =>
      w'.Gathered S first fun other => asked other ∨ other ∈ ids := by
  unfold schemaList
  cases hn : r.field? key with
  | none => exact .pure hw (hg.imp fun _ => .inl)
  | some n =>
    refine Ensures.gathers_bind hw hg (n.onlyTells_items _) fun w₁ hw₁ _ hg₁ => ?_
    rw [Node.result_items]
    exact .each_gathers (fun m hm _ _ hw₂ hg₂ => hgather hw₂ hg₂ ((hr.field hn).item hm)) hw₁ hg₁

/-- Of a field in which there is a schema, the schema is asked for. -/
theorem gathers_some (hgather : read.Gathers S) (hn : n.Sited S) (hw : w.Sound S)
    (hg : w.Gathered S first asked) :
    Ensures S w (do return some (← read n)) fun id? w' =>
      w'.Gathered S first fun other => asked other ∨ other ∈ id? := by
  refine (hgather hw hg hn).bind fun id w₁ hw₁ _ hg₁ => .pure hw₁ (hg₁.imp fun other => ?_)
  exact Or.imp_right fun heq => congrArg some heq.symm

theorem gathers_schema? (hgather : read.Gathers S) (hr : r.Sited S) (hw : w.Sound S)
    (hg : w.Gathered S first asked) (key : String) :
    Ensures S w (r.schema? read key) fun id? w' =>
      w'.Gathered S first fun other => asked other ∨ other ∈ id? := by
  unfold schema?
  cases hn : r.field? key with
  | none => exact .pure hw (hg.imp fun _ => .inl)
  | some n => exact gathers_some hgather (hr.field hn) hw hg

theorem gathers_properties (hgather : read.Gathers S) (hr : r.Sited S) (hw : w.Sound S)
    (hg : w.Gathered S first asked) :
    Ensures S w (r.readAll "properties" fun n => return some (← read n)) fun entries w' =>
      w'.Gathered S first fun other => asked other ∨ other ∈ entries.map (·.2) := by
  refine Ensures.gathers_bind hw hg (r.onlyTells_record? _) fun w₁ hw₁ _ hg₁ => ?_
  have hfields : ∀ field ∈ r.fieldsOf "properties", field.2.Sited S := fun _ h => hr.fieldsOf h
  unfold fieldsOf at hfields
  rw [result_record?]
  cases hinner : (r.field? "properties").bind Node.object? with
  | none => exact .pure hw₁ (hg₁.imp fun _ => .inl)
  | some inner =>
    rw [hinner] at hfields
    refine (Ensures.collect_gathers (fun entry other => other = entry.2)
      (P := fun _ _ => True) (fun _ _ _ _ _ _ => trivial) (fun field hfield _ _ hw₂ hg₂ => ?_)
      hw₁ hg₁).imp fun entries w₂ _ _ h => h.1.imp fun other => Or.imp_right ?_
    · refine (gathers_some hgather (hfields field hfield) hw₂ hg₂).bind fun id? w₃ hw₃ _ hg₃ => ?_
      refine .pure hw₃ ⟨hg₃.imp fun other => Or.imp_right fun hid => ?_, fun _ _ => trivial⟩
      obtain rfl := hid
      exact ⟨(field.1, other), rfl, rfl⟩
    · rintro ⟨entry, hentry, rfl⟩
      exact List.mem_map_of_mem hentry

theorem gathers_additionalProperties (hgather : read.Gathers S) (hr : r.Sited S) (hw : w.Sound S)
    (hg : w.Gathered S first asked) :
    Ensures S w (r.additionalProperties read) fun a w' =>
      w'.Gathered S first fun other => asked other ∨ other ∈ a.schema? := by
  unfold additionalProperties
  simp only
  cases hn : r.field? "additionalProperties" with
  | none => exact .pure hw (hg.imp fun _ => .inl)
  | some n =>
    dsimp only
    split
    · exact .pure hw (hg.imp fun _ => .inl)
    · refine (hgather hw hg (hr.field hn)).bind fun id w₁ hw₁ _ hg₁ => ?_
      exact .pure hw₁ (hg₁.imp fun other => Or.imp_right fun heq => congrArg some heq.symm)
    · exact Ensures.gathers_bind hw hg (r.onlyTells_tellMistyped _ _ _) fun _ hw₁ _ hg₁ =>
        .pure hw₁ (hg₁.imp fun _ => .inl)

theorem gathers_objectShape (hgather : read.Gathers S) (hr : r.Sited S) (hw : w.Sound S)
    (hg : w.Gathered S first asked) :
    Ensures S w (r.objectShape read) fun o w' =>
      w'.Gathered S first fun other => asked other ∨ other ∈ o.children := by
  refine (gathers_properties hgather hr hw hg).bind fun properties w₁ hw₁ _ hg₁ => ?_
  refine Ensures.gathers_bind hw₁ hg₁ (r.onlyTells_texts _) fun w₂ hw₂ _ hg₂ => ?_
  refine (gathers_additionalProperties hgather hr hw₂ hg₂).bind fun a w₃ hw₃ _ hg₃ => ?_
  refine Ensures.gathers_bind hw₃ hg₃ (r.onlyTells_count? _) fun w₄ hw₄ _ hg₄ => ?_
  refine Ensures.gathers_bind hw₄ hg₄ (r.onlyTells_count? _) fun w₅ hw₅ _ hg₅ => ?_
  refine .pure hw₅ (hg₅.imp fun other => ?_)
  simp only [ObjectShape.children, List.mem_append, Option.mem_toList]
  tauto

theorem gathers_itemSchema? (hgather : read.Gathers S) (hr : r.Sited S) (hw : w.Sound S)
    (hg : w.Gathered S first asked) :
    Ensures S w (r.itemSchema? read) fun id? w' =>
      w'.Gathered S first fun other => asked other ∨ other ∈ id? := by
  unfold itemSchema?
  cases hn : r.field? "items" with
  | none => exact .pure hw (hg.imp fun _ => .inl)
  | some n =>
    dsimp only
    split
    · exact Ensures.gathers_bind hw hg (n.onlyTells_tell _) fun _ hw₁ _ hg₁ =>
        .pure hw₁ (hg₁.imp fun _ => .inl)
    · exact gathers_some hgather (hr.field hn) hw hg

theorem gathers_arrayShape (hgather : read.Gathers S) (hr : r.Sited S) (hw : w.Sound S)
    (hg : w.Gathered S first asked) :
    Ensures S w (r.arrayShape read) fun a w' =>
      w'.Gathered S first fun other => asked other ∨ other ∈ a.children := by
  unfold arrayShape
  refine (gathers_itemSchema? hgather hr hw hg).bind fun items w₁ hw₁ _ hg₁ => ?_
  refine .ite_bind (fun _ => gathers_schemaList hgather hr hw₁ hg₁ _)
    (fun prefixItems w₂ hw₂ _ hg₂ => ?_) fun _ hrest => ?_
  · refine Ensures.gathers_bind hw₂ hg₂ (r.onlyTells_count? _) fun w₃ hw₃ _ hg₃ => ?_
    refine Ensures.gathers_bind hw₃ hg₃ (r.onlyTells_count? _) fun w₄ hw₄ _ hg₄ => ?_
    refine Ensures.gathers_bind hw₄ hg₄ (r.onlyTells_flag _) fun w₅ hw₅ _ hg₅ => ?_
    refine .pure hw₅ (hg₅.imp fun other => ?_)
    simp only [ArrayShape.children, List.mem_append, Option.mem_toList]
    tauto
  · refine Ensures.gathers_bind hw₁ hg₁ (r.onlyTells_refuse _) fun w₂ hw₂ hext₂ hg₂ => ?_
    refine Ensures.gathers_bind hw₂ hg₂ (.pure _) fun w₃ hw₃ hext₃ hg₃ => ?_
    exact hrest [] w₃ hw₃ (hext₂.trans hext₃) (hg₃.imp fun _ => .inl)

/-! ### Types -/

theorem gathers_untypedShape (hgather : read.Gathers S) (hr : r.Sited S) (hw : w.Sound S)
    (hg : w.Gathered S first asked) :
    Ensures S w (r.untypedShape read) fun shape w' =>
      w'.Gathered S first fun other => asked other ∨ other ∈ shape.children := by
  unfold untypedShape
  split
  · exact (gathers_objectShape hgather hr hw hg).bind fun o w₁ hw₁ _ hg₁ => .pure hw₁ hg₁
  · split
    · exact (gathers_arrayShape hgather hr hw hg).bind fun a w₁ hw₁ _ hg₁ => .pure hw₁ hg₁
    · exact .pure hw (hg.imp fun _ => .inl)

theorem gathers_typedShape (hgather : read.Gathers S) (hr : r.Sited S) (hw : w.Sound S)
    (hg : w.Gathered S first asked) (name : String) :
    Ensures S w (r.typedShape read name) fun shape w' =>
      w'.Gathered S first fun other => asked other ∨ other ∈ shape.children := by
  unfold typedShape
  split
  · exact (gathers_objectShape hgather hr hw hg).bind fun o w₁ hw₁ _ hg₁ => .pure hw₁ hg₁
  · split
    · refine .ite_bind (fun _ => .gathers_tells hw hg (r.onlyTells_tell _))
        (fun _ w₁ hw₁ _ hg₁ => ?_) fun _ hrest => hrest () w hw (.refl w) ⟨rfl, hg⟩
      exact (gathers_arrayShape hgather hr hw₁ hg₁.2).bind fun a w₂ hw₂ _ hg₂ => .pure hw₂ hg₂
    · split
      · next type _ =>
        exact Ensures.gathers_bind hw hg (r.onlyTells_scalarShape type) fun _ hw₁ _ hg₁ =>
          .pure hw₁ (hg₁.imp fun _ => .inl)
      · exact .pure hw (hg.imp fun _ => .inl)

/-- A part of the schema of an object is asked for in place of what it is put together from. -/
theorem gathers_allocate (hr : r.Sited S) (hw : w.Sound S) {names : List String} {shape : Shape}
    (hnames : names.Sublist r.types.result.names) (hshape : w.Structural r names shape)
    (hg : w.Gathered S first fun other => asked other ∨ other ∈ shape.children) :
    Ensures S w (allocate { r.blankSchema with shape }) fun id w' =>
      w'.Gathered S first fun other => asked other ∨ other = id :=
  have h := ensures_allocate hr hw hnames hshape
  ⟨h.sound, h.ext, hg.adding (hw.part_adding r shape) hshape.references_eq_nil⟩

theorem gathers_memberOfType (hread : read.Reads S) (hgather : read.Gathers S) (hr : r.Sited S)
    (hw : w.Sound S) (hg : w.Gathered S first asked) {name : String}
    (hname : name ∈ r.types.result.names) :
    Ensures S w (r.memberOfType read name) fun id w' =>
      w'.Gathered S first fun other => asked other ∨ other = id := by
  refine ((ensures_typedShape hread hr hw name).and
    (gathers_typedShape hgather hr hw hg name)).bind fun shape w₁ hw₁ _ h => ?_
  exact gathers_allocate hr hw₁ (List.singleton_sublist.mpr hname) (.typed h.1) h.2

theorem gathers_shapeOfTypes (hread : read.Reads S) (hgather : read.Gathers S) (hr : r.Sited S)
    (hw : w.Sound S) (hg : w.Gathered S first asked) {names : List String}
    (hnames : names.Sublist r.types.result.names) :
    Ensures S w (r.shapeOfTypes read names) fun shape w' =>
      w'.Gathered S first fun other => asked other ∨ other ∈ shape.children := by
  match names with
  | [] => exact gathers_untypedShape hgather hr hw hg
  | [name] => exact gathers_typedShape hgather hr hw hg name
  | first :: second :: rest =>
    refine (Ensures.each_gathers (fun name hname _ _ hw₁ hg₁ =>
      gathers_memberOfType hread hgather hr hw₁ hg₁ (hnames.subset hname)) hw hg).bind
        fun ids w₁ hw₁ _ hg₁ => .pure hw₁ (hg₁.imp fun other => ?_)
    simp [Shape.children, ComposedShape.children, ComposedShape.ofAny]

/-! ### Discriminators and compositions -/

theorem gathers_mappingEntry (hgather : read.Gathers S) (hr : r.Sited S) (hw : w.Sound S)
    (hg : w.Gathered S first asked) (entries : Record) (key : String) (n : Node) :
    Ensures S w (mappingEntry read r entries key n) fun reference? w' =>
      (w'.Gathered S first fun other => asked other ∨
        ∃ reference ∈ reference?, reference.state = .resolved other) ∧
      w'.ClosesOpen reference?.toList := by
  unfold mappingEntry
  cases n.value with
  | string name =>
    refine (gathers_referenceState hgather hr hw hg _ _).bind fun state w₁ hw₁ _ h => ?_
    refine .pure hw₁ ⟨h.1.imp fun other => Or.imp_right fun hstate => ⟨_, rfl, hstate⟩, ?_⟩
    intro reference hreference target hstate
    obtain rfl := List.mem_singleton.mp hreference
    exact h.2 target hstate
  | _ =>
    exact Ensures.gathers_bind hw hg (entries.onlyTells_tellMistyped _ _ _) fun _ hw₁ _ hg₁ =>
      .pure hw₁ ⟨hg₁.imp fun _ => .inl, by simp [Workspace.ClosesOpen]⟩

theorem gathers_mapping (hgather : read.Gathers S) (hr : r.Sited S) (hw : w.Sound S)
    (hg : w.Gathered S first asked) (entries : Record) :
    Ensures S w (readFields entries.fields (mappingEntry read r entries)) fun mapping w' =>
      (w'.Gathered S first fun other => asked other ∨
        ∃ entry ∈ mapping, entry.2.state = .resolved other) ∧
      w'.ClosesOpen (mapping.map (·.2)) := by
  have hopen : ∀ (entry : String × Reference) {w w' : Workspace}, w.Sound S → w.Extends w' →
      w.ClosesOpen [entry.2] → w'.ClosesOpen [entry.2] := fun _ _ _ hw hext h => h.extends hw hext
  refine (Ensures.collect_gathers (fun entry other => entry.2.state = .resolved other)
    (P := fun entry w' => w'.ClosesOpen [entry.2]) hopen (fun field _ _ _ hw₁ hg₁ => ?_)
    hw hg).imp fun mapping w' _ _ h => ⟨h.1, fun reference hreference => ?_⟩
  · refine (gathers_mappingEntry hgather hr hw₁ hg₁ entries field.1 field.2).bind
      fun reference? w₂ hw₂ _ h => .pure hw₂ ⟨h.1.imp fun other => Or.imp_right ?_, ?_⟩
    · rintro ⟨reference, rfl, hstate⟩
      exact ⟨_, rfl, hstate⟩
    · intro entry hentry reference hreference
      obtain ⟨reference', rfl, rfl⟩ := Option.map_eq_some_iff.mp hentry
      exact h.2 reference hreference
  · obtain ⟨entry, hentry, rfl⟩ := List.mem_map.mp hreference
    exact h.2 entry hentry _ (List.mem_singleton_self _)

theorem gathers_discriminator? (hgather : read.Gathers S) (hr : r.Sited S) (hw : w.Sound S)
    (hg : w.Gathered S first asked) :
    Ensures S w (r.discriminator? read) fun d? w' =>
      (w'.Gathered S first fun other => asked other ∨
        ∃ d ∈ d?, ∃ entry ∈ d.mapping, entry.2.state = .resolved other) ∧
      ∀ d ∈ d?, w'.ClosesOpen (d.mapping.map (·.2)) := by
  refine Ensures.gathers_bind hw hg (r.onlyTells_record? _) fun w₁ hw₁ _ hg₁ => ?_
  rw [result_record?]
  cases (r.field? "discriminator").bind Node.object? with
  | none => exact .pure hw₁ ⟨hg₁.imp fun _ => .inl, by simp⟩
  | some d =>
    refine Ensures.gathers_bind hw₁ hg₁ (d.onlyTells_requiredText? _ _) fun w₂ hw₂ _ hg₂ => ?_
    cases (d.requiredText? "discriminator" "propertyName").result with
    | none => exact .pure hw₂ ⟨hg₂.imp fun _ => .inl, by simp⟩
    | some propertyName =>
      refine Ensures.gathers_bind hw₂ hg₂ (d.onlyTells_record? _) fun w₃ hw₃ _ hg₃ => ?_
      rw [result_record?]
      cases (d.field? "mapping").bind Node.object? with
      | none =>
        refine Ensures.gathers_bind hw₃ hg₃ (.pure _) fun w₄ hw₄ _ hg₄ => ?_
        refine .pure hw₄ ⟨hg₄.imp fun _ => .inl, fun d' hd' => ?_⟩
        obtain rfl := Option.some.inj hd'
        exact fun _ hreference => absurd hreference List.not_mem_nil
      | some entries =>
        refine (gathers_mapping hgather hr hw₃ hg₃ entries).bind fun mapping w₄ hw₄ _ h => ?_
        refine .pure hw₄ ⟨h.1.imp fun _ => Or.imp_right fun h => ⟨_, rfl, h⟩, fun d' hd' => ?_⟩
        obtain rfl := Option.some.inj hd'
        exact h.2

/-- A discriminator that was read is given to the shape, or it is found to be misplaced. -/
theorem gathers_withDiscriminator (hw : w.Sound S) {names : List String} {shape : Shape}
    (hshape : w.Structural r names shape) {d : Discriminator} (hd : w.Discriminates S r d)
    (hopen : w.ClosesOpen (d.mapping.map (·.2)))
    (hg : w.Gathered S first fun other => (asked other ∨ other ∈ shape.children) ∨
      ∃ entry ∈ d.mapping, entry.2.state = .resolved other) :
    Ensures S w (r.withDiscriminator shape d) fun shape' w' =>
      (w'.Gathered S first fun other => asked other ∨ w'.Asks S r.node shape' other) ∧
        w'.ClosesOpen shape'.references := by
  -- the discriminator has a place
  have hplaced : ∀ shape' : Shape, shape'.children = shape.children →
      shape'.references = d.mapping.map (·.2) → Ensures S w (pure shape') fun shape' w' =>
        (w'.Gathered S first fun other => asked other ∨ w'.Asks S r.node shape' other) ∧
          w'.ClosesOpen shape'.references := by
    intro shape' hchildren hreferences
    refine .pure hw ⟨hg.imp fun other hother => ?_, hreferences ▸ hopen⟩
    rcases hother with (hasked | hchild) | ⟨entry, hentry, hstate⟩
    · exact .inl hasked
    · exact .inr (.child (hchildren ▸ hchild))
    · exact .inr (.target (hreferences ▸ List.mem_map_of_mem hentry) hstate)
  -- it has none
  have hdropped : (∃ a, shape = .array a) ∨ (∃ c, shape = .scalar c) →
      Ensures S w (r.tellField "discriminator" .discriminatorMisplaced) fun _ w' =>
        (w'.Gathered S first fun other => asked other ∨ w'.Asks S r.node shape other) ∧
          w'.ClosesOpen shape.references := by
    intro hmisplaced
    have htell := Ensures.tell hw r.scope (r.pointer.push "discriminator") .discriminatorMisplaced
    refine ⟨htell.sound, htell.ext, ?_, ?_⟩
    · have htold := hg.told
        ⟨[Finding.discriminatorMisplaced.diagnostic r.scope.label (r.pointer.push "discriminator")]⟩
      refine htold.imp fun other hother => ?_
      rcases hother with (hasked | hchild) | ⟨entry, hentry, hstate⟩
      · exact .inl hasked
      · exact .inr (.child hchild)
      · exact .inr (.dropped rfl ⟨hmisplaced, htell.holds, entry,
          (hd entry hentry).grows htell.ext.grows, hstate⟩)
    · rw [hshape.references_eq_nil]
      exact fun _ hreference => absurd hreference List.not_mem_nil
  cases shape with
  | object o => exact hplaced _ rfl rfl
  | any => exact hplaced _ rfl rfl
  | composed c => exact hplaced _ rfl rfl
  | array a => exact (hdropped (.inl ⟨a, rfl⟩)).bind fun _ _ hw₁ _ h => .pure hw₁ h
  | scalar c => exact (hdropped (.inr ⟨c, rfl⟩)).bind fun _ _ hw₁ _ h => .pure hw₁ h
  | reference reference => exact absurd rfl (hshape.plain.2 reference)
  | never =>
    cases hshape with
    | untyped h => cases h
    | typed h => cases h

/-- What is said besides a composition becomes a part, which is asked for in its place. -/
theorem gathers_inlined? (hr : r.Sited S) (hw : w.Sound S) {names : List String} {shape : Shape}
    (hnames : names.Sublist r.types.result.names) (hshape : w.Structural r names shape)
    (hg : w.Gathered S first fun other => asked other ∨ other ∈ shape.children) :
    Ensures S w (r.inlined? shape) fun id? w' =>
      w'.Gathered S first fun other => asked other ∨ other ∈ id? := by
  unfold inlined?
  split
  · exact .pure hw (hg.imp fun other hother => .inl (hother.resolve_right (by simp)))
  · refine (gathers_allocate hr hw hnames hshape hg).bind fun id w₁ hw₁ _ hg₁ => ?_
    exact .pure hw₁ (hg₁.imp fun other => Or.imp_right fun heq => congrArg some heq.symm)

theorem gathers_shape (hread : read.Reads S) (hgather : read.Gathers S) (hr : r.Sited S)
    (hw : w.Sound S) (hg : w.Gathered S first asked) {names : List String}
    (hnames : names.Sublist r.types.result.names) :
    Ensures S w (r.shape read names) fun shape w' =>
      (w'.Gathered S first fun other => asked other ∨ w'.Asks S r.node shape other) ∧
        w'.ClosesOpen shape.references := by
  unfold shape
  refine ((ensures_shapeOfTypes hread hr hw hnames).and
    (gathers_shapeOfTypes hread hgather hr hw hg hnames)).bind fun structural w₁ hw₁ _ h₁ => ?_
  refine ((ensures_discriminator? hread hr hw₁).and
    (gathers_discriminator? hgather hr hw₁ h₁.2)).bind fun d? w₂ hw₂ hext₂ h₂ => ?_
  obtain ⟨hd, hg₂, hopen⟩ := h₂
  have hstructural := h₁.1.grows hext₂.grows
  split
  · cases d? with
    | none =>
      refine .pure hw₂ ⟨hg₂.imp fun other hother => ?_, ?_⟩
      · exact (hother.resolve_right (by simp)).imp_right .child
      · rw [hstructural.references_eq_nil]
        simp [Workspace.ClosesOpen]
    | some d =>
      refine gathers_withDiscriminator hw₂ hstructural (hd d rfl) (hopen d rfl)
        (hg₂.imp fun other => Or.imp_right ?_)
      rintro ⟨d', hd', hentry⟩
      exact Option.some.inj hd' ▸ hentry
  · refine (gathers_schemaList hgather hr hw₂ hg₂ _).bind fun allOf w₃ hw₃ hext₃ hg₃ => ?_
    refine (gathers_schemaList hgather hr hw₃ hg₃ _).bind fun oneOf w₄ hw₄ hext₄ hg₄ => ?_
    refine (gathers_schemaList hgather hr hw₄ hg₄ _).bind fun anyOf w₅ hw₅ hext₅ hg₅ => ?_
    refine (gathers_schema? hgather hr hw₅ hg₅ _).bind fun negated w₆ hw₆ hext₆ hg₆ => ?_
    have hext := ((hext₃.trans hext₄).trans hext₅).trans hext₆
    -- what the types ask for is asked for by the part that holds it
    have hg₆ : w₆.Gathered S first fun other =>
        (asked other ∨ (∃ d ∈ d?, ∃ entry ∈ d.mapping, entry.2.state = .resolved other) ∨
          other ∈ allOf ∨ other ∈ oneOf ∨ other ∈ anyOf ∨ other ∈ negated) ∨
            other ∈ structural.children := by
      refine hg₆.imp fun other => ?_
      generalize (∃ d ∈ d?, ∃ entry ∈ d.mapping, entry.2.state = .resolved other) = mapped
      tauto
    refine (gathers_inlined? hr hw₆ hnames (hstructural.grows hext.grows) hg₆).bind
      fun inlined w₇ hw₇ hext₇ hg₇ => .pure hw₇ ⟨hg₇.imp fun other hother => ?_, ?_⟩
    · rcases hother with (hasked | ⟨d, hd, entry, hentry, hstate⟩ | hparts) | hinlined
      · exact .inl hasked
      · refine .inr (.target (?_ : entry.2 ∈ _) hstate)
        simp only [Shape.references, Shape.discriminator?, Option.mem_def.mp hd]
        exact List.mem_map_of_mem hentry
      · refine .inr (.child ?_)
        simp only [Shape.children, ComposedShape.children, List.mem_append, Option.mem_toList]
        tauto
      · refine .inr (.child ?_)
        simp only [Shape.children, ComposedShape.children, List.mem_append, Option.mem_toList]
        exact .inr hinlined
    · cases d? with
      | none => simp [Workspace.ClosesOpen, Shape.references, Shape.discriminator?]
      | some d => exact (hopen d rfl).extends hw₂ (hext.trans hext₇)

theorem gathers_schemaHere (hread : read.Reads S) (hgather : read.Gathers S) (hr : r.Sited S)
    (hw : w.Sound S) (hg : w.Gathered S first asked) :
    Ensures S w (r.schemaHere read) fun s w' =>
      (w'.Gathered S first fun other => asked other ∨ w'.Asks S r.node s.shape other) ∧
        w'.ClosesOpen s.shape.references := by
  unfold schemaHere
  split
  · next text _ => exact gathers_referenceSchema hgather hr hw hg text
  · exact Ensures.gathers_bind hw hg (r.onlyTells_tellMistyped _ _ _) fun _ hw₁ _ hg₁ =>
      .pure hw₁ ⟨hg₁.imp fun _ => .inl, by simp [Workspace.ClosesOpen, blankSchema, Schema.blank]⟩
  · refine Ensures.gathers_bind hw hg r.onlyTells_annotated fun w₁ hw₁ _ hg₁ => ?_
    refine Ensures.gathers_bind hw₁ hg₁ r.onlyTells_types fun w₂ hw₂ _ hg₂ => ?_
    refine (gathers_shape hread hgather hr hw₂ hg₂ (List.Sublist.refl _)).bind
      fun shape w₃ hw₃ _ h₃ => ?_
    exact .pure hw₃ h₃

end Record

namespace Node

theorem gathers_schemaHere (hread : read.Reads S) (hgather : read.Gathers S) (hn : n.Sited S)
    (hw : w.Sound S) (hg : w.Gathered S first asked) :
    Ensures S w (n.schemaHere read) fun s w' =>
      (w'.Gathered S first fun other => asked other ∨ w'.Asks S n s.shape other) ∧
        w'.ClosesOpen s.shape.references := by
  obtain ⟨scope, pointer, value⟩ := n
  cases value with
  | object members =>
    exact Record.gathers_schemaHere (r := ⟨scope, pointer, members⟩) hread hgather hn hw hg
  | bool accepts =>
    unfold schemaHere
    dsimp only
    split
    · refine .pure hw ⟨hg.imp fun _ => .inl, ?_⟩
      cases accepts <;> simp [Workspace.ClosesOpen]
    · refine Ensures.gathers_bind hw hg (onlyTells_tell _ _) fun _ hw₁ _ hg₁ => ?_
      exact .pure hw₁
        ⟨hg₁.imp fun _ => .inl, by simp [Workspace.ClosesOpen, blankSchema, Schema.blank]⟩
  | _ =>
    refine Ensures.gathers_bind hw hg (onlyTells_tell _ _) fun _ hw₁ _ hg₁ => ?_
    exact .pure hw₁
      ⟨hg₁.imp fun _ => .inl, by simp [Workspace.ClosesOpen, blankSchema, Schema.blank]⟩

/-! ### Levels -/

/-- A schema for which there is no room asks for nothing. -/
theorem gathers_cut (hn : n.Sited S) (hw : w.Sound S) (hg : w.Gathered S first asked)
    (hslot : w.slot? n.site = none) :
    Ensures S w (n.schemaWithin 0) fun id w' =>
      w'.Gathered S first fun other => asked other ∨ other = id := by
  have hcut := ensures_cut hn hw hslot
  have htell := Ensures.tell hw n.scope n.pointer
    (.nestingTooDeep n.scope.setting.options.maxDepth)
  refine ⟨hcut.sound, hcut.ext, ?_⟩
  rw [schemaWithin_zero hslot]
  exact (hg.told ⟨[_]⟩).cutting htell.sound n

/-- When a schema that was begun is finished, what was asked for on its behalf is reached from it. -/
theorem gathers_read {room : Nat} (hgather : SchemaReader.Gathers S (schemaWithin room))
    (hn : n.Sited S) (hw : w.Sound S) (hg : w.Gathered S first asked)
    (hslot : w.slot? n.site = none) :
    Ensures S w (n.schemaWithin (room + 1)) fun id w' =>
      w'.Gathered S first fun other => asked other ∨ other = id := by
  have hread : SchemaReader.Reads S (schemaWithin room) := reads_schemaWithin S room
  have hfinish := ensures_read hread hn hw hslot
  have hfinished := hfinish.ext.grows
  have hbegun : (w.opening n).Gathered S (w.graph.size + 1) fun _ => False := by
    refine ⟨hg.tracked.opening hw n, fun id hid hlt => ?_⟩
    rw [Workspace.size_opening] at hlt
    exact absurd hlt (Nat.not_lt.mpr hid)
  obtain ⟨hsound, hext, hgathered, hopen⟩ :=
    gathers_schemaHere hread hgather hn (hw.opening hn) hbegun
  have hasks := hgathered.covered.imp fun other hother => hother.resolve_left not_false
  refine ⟨hfinish.sound, hfinish.ext, ?_⟩
  rw [schemaWithin_succ hslot] at hfinished ⊢
  refine ⟨hgathered.tracked.closing hw hn hext hsound hasks hopen, fun id hfirst hlt => ?_⟩
  by_cases hold : id < w.graph.size
  · obtain ⟨root, hroot, hreaches⟩ := hg.covered id hfirst hold
    exact ⟨root, .inl hroot, hreaches.grows hfinished⟩
  · obtain ⟨root, hroot, hreaches⟩ := Workspace.covered_closing hw hn hext hsound hasks id
      (Nat.le_of_not_lt hold) hlt
    exact ⟨root, .inr hroot, hreaches⟩

/-- A schema that was met is looked up; otherwise it is finished. -/
theorem gathers_lookup {room : Nat} (hw : w.Sound S) (hg : w.Gathered S first asked)
    (hnew : w.slot? n.site = none → Ensures S w (n.schemaWithin room) fun id w' =>
      w'.Gathered S first fun other => asked other ∨ other = id) :
    Ensures S w (n.schemaWithin room) fun id w' =>
      w'.Gathered S first fun other => asked other ∨ other = id := by
  cases hslot : w.slot? n.site with
  | some slot => exact .of_run (schemaWithin_of_met hslot room) hw (.refl w) (hg.imp fun _ => .inl)
  | none => exact hnew hslot

/-- Whatever room there is for levels below, the schema at a node is all that is asked for. -/
theorem gathers_schemaWithin (S : Setting) (room : Nat) :
    SchemaReader.Gathers S (schemaWithin room) := by
  induction room with
  | zero => exact fun hw hg hn => gathers_lookup hw hg (gathers_cut hn hw hg)
  | succ room ih => exact fun hw hg hn => gathers_lookup hw hg (gathers_read ih hn hw hg)

end Node

/-! ## Whole runs -/

/-- Outside of schemas, the workspace stays sound and references are kept track of. -/
theorem lasts_tracked (S : Setting) :
    Binding.Lasts S True fun w => w.Sound S ∧ w.Tracked S where
  told h found :=
    have hw := Workspace.Extends.tell _ found
    ⟨h.1.of_size_eq hw rfl rfl, h.2.of_size_eq hw rfl rfl⟩
  renamed _ _ h id name :=
    have hw := Workspace.Extends.rename _ id (Schema.named name) fun _ => rfl
    have hsize := SchemaGraph.size_modify _ id (Schema.named name)
    ⟨h.1.of_size_eq hw rfl hsize, h.2.of_size_eq hw rfl hsize⟩
  read {w} h {n} hn := by
    have hg : w.Gathered S w.graph.size fun _ => False :=
      ⟨h.2, fun id hid hlt => absurd hlt (Nat.not_lt.mpr hid)⟩
    have hread := Node.gathers_schemaWithin S n.scope.setting.options.maxDepth h.1 hg hn
    exact ⟨hread.sound, hread.holds.tracked⟩

/-- When a run has come to its end, every reference that closes a cycle is reached from where it
leads. -/
theorem RegisteredDocument.reaches_of_cyclic {source : RegisteredDocument} {declared : String}
    {d : Description} {w : Workspace} (hsource : S.registry.documents[S.entry]? = some source)
    (h : source.run S declared = .ok (d, w)) {id target : SchemaId} {s : Schema}
    {reference : Reference} (hs : w.graph.get? id = some s)
    (hreference : reference ∈ s.shape.references) (hstate : reference.state = .cyclic target) :
    w.Reaches S target id := by
  obtain ⟨hcomplete, -⟩ := complete_of_run hsource h
  have htracked := (lasts_of_run hsource h (lasts_tracked S)
    ⟨.fresh, Workspace.tracked_fresh⟩).2
  have hcyclic := htracked.cyclic id s hs (hcomplete.not_open id) reference hreference target hstate
  exact hcyclic.resolve_left fun ho => hcomplete.not_open target ho.1

end ApiDescription
