import ApiDescription.Binding
import ApiDescription.Proofs.Schema.Edges

/-!
# What a workspace remembers

Entries are only ever put in front of the slots of a workspace.  So the slots tell the whole story
of a run: which schemas were begun at which nodes, which of them are finished, and which are still
open because their parts are being read.

`Workspace.Extends` relates the workspaces before and after a whole step: the schemas that there
were are still there, apart from the names that components give them, and no schema is left open
that was not open before.  `Workspace.Grows` is weaker, and holds also when a schema that was open
is finished.
-/

namespace ApiDescription

/-- The schema apart from its name; that of a component is given after the schema was read. -/
def Schema.unnamed (s : Schema) : Schema := { s with name := none }

namespace Schema

theorem document_eq_of_unnamed {s t : Schema} (h : s.unnamed = t.unnamed) :
    s.document = t.document :=
  congrArg (·.document) h

theorem location_eq_of_unnamed {s t : Schema} (h : s.unnamed = t.unnamed) :
    s.location = t.location :=
  congrArg (·.location) h

theorem shape_eq_of_unnamed {s t : Schema} (h : s.unnamed = t.unnamed) : s.shape = t.shape :=
  congrArg (·.shape) h

theorem reference?_eq_of_unnamed {s t : Schema} (h : s.unnamed = t.unnamed) :
    s.reference? = t.reference? := by
  rw [reference?, reference?, shape_eq_of_unnamed h]

end Schema

namespace Workspace

/-- The schema of a number was begun: its parts are or were read. -/
def Begun (w : Workspace) (id : SchemaId) : Prop := ∃ site, (site, .opened id) ∈ w.slots

/-- The schema of a number is finished. -/
def Finished (w : Workspace) (id : SchemaId) : Prop := ∃ site, (site, .bound id) ∈ w.slots

/-- The parts of the schema of a number are being read. -/
def Open (w : Workspace) (id : SchemaId) : Prop := w.Begun id ∧ ¬ w.Finished id

/-- The schema of a number was met at a site. -/
def Met (w : Workspace) (site : Site) (id : SchemaId) : Prop :=
  ∃ slot, (site, slot) ∈ w.slots ∧ slot.id = id

variable {w w' w'' : Workspace}

theorem mem_slots_of_slot? {site : Site} {slot : Slot} (h : w.slot? site = some slot) :
    (site, slot) ∈ w.slots := by
  simp only [slot?, Option.map_eq_some_iff] at h
  obtain ⟨⟨site', slot'⟩, hfind, rfl⟩ := h
  have hsite : site' = site := by simpa using List.find?_some hfind
  exact hsite ▸ List.mem_of_find?_eq_some hfind

/-- The last entry for a site is the one that counts. -/
theorem slot?_cons (w : Workspace) (site other : Site) (slot : Slot) :
    { w with slots := (site, slot) :: w.slots }.slot? other =
      if site = other then some slot else w.slot? other := by
  unfold slot?
  by_cases hsite : site = other
  · simp [hsite]
  · simp [hsite]

/-! ## Whole steps -/

/-- What holds between the workspaces before and after a whole step. -/
structure Extends (w w' : Workspace) : Prop where
  /-- Slots are only added. -/
  slots : w.slots <:+ w'.slots
  /-- Findings are only added. -/
  diagnostics : w.report.diagnostics <+: w'.report.diagnostics
  /-- What is added to the slots is about schemas that are new. -/
  fresh : ∀ entry ∈ w'.slots, entry ∈ w.slots ∨ w.graph.size ≤ entry.2.id
  /-- Schemas stay as they were, apart from their names. -/
  kept : ∀ id s, w.graph.get? id = some s →
    ∃ s', w'.graph.get? id = some s' ∧ s'.unnamed = s.unnamed
  /-- What was begun is finished. -/
  closed : ∀ id, w'.Open id → w.Open id

namespace Extends

theorem size_le (h : w.Extends w') : w.graph.size ≤ w'.graph.size := by
  refine Nat.le_of_not_lt fun hlt => ?_
  obtain ⟨s, hs⟩ := SchemaGraph.lt_size_iff.mp hlt
  obtain ⟨s', hs', -⟩ := h.kept _ _ hs
  exact Nat.lt_irrefl _ (SchemaGraph.lt_size_iff.mpr ⟨s', hs'⟩)

theorem refl (w : Workspace) : w.Extends w where
  slots := List.suffix_refl _
  diagnostics := List.prefix_refl _
  fresh _ h := .inl h
  kept _ s h := ⟨s, h, rfl⟩
  closed _ h := h

theorem trans (h : w.Extends w') (h' : w'.Extends w'') : w.Extends w'' where
  slots := h.slots.trans h'.slots
  diagnostics := h.diagnostics.trans h'.diagnostics
  fresh entry hmem := by
    rcases h'.fresh entry hmem with hmem' | hle
    · exact h.fresh entry hmem'
    · exact .inr (Nat.le_trans h.size_le hle)
  kept id s hs := by
    obtain ⟨s', hs', he⟩ := h.kept id s hs
    obtain ⟨s'', hs'', he'⟩ := h'.kept id s' hs'
    exact ⟨s'', hs'', he'.trans he⟩
  closed id ho := h.closed id (h'.closed id ho)

/-- A schema that is open stays open. -/
theorem stays_open (h : w.Extends w') {id : SchemaId} (hid : id < w.graph.size)
    (ho : w.Open id) : w'.Open id := by
  obtain ⟨⟨site, hbegun⟩, hfinished⟩ := ho
  refine ⟨⟨site, h.slots.subset hbegun⟩, ?_⟩
  rintro ⟨site', hmem⟩
  rcases h.fresh _ hmem with hold | hnew
  · exact hfinished ⟨site', hold⟩
  · exact Nat.not_lt.mpr hnew hid

/-- A finding is added. -/
theorem tell (w : Workspace) (r : Report) :
    w.Extends { w with report := w.report.append r } where
  slots := List.suffix_refl _
  diagnostics := List.prefix_append _ _
  fresh _ h := .inl h
  kept _ s h := ⟨s, h, rfl⟩
  closed _ h := h

/-- A schema is added that stands for no node of its own. -/
theorem push (w : Workspace) (s : Schema) : w.Extends { w with graph := w.graph.push s } where
  slots := List.suffix_refl _
  diagnostics := List.prefix_refl _
  fresh _ h := .inl h
  kept id t ht := by
    refine ⟨t, ?_, rfl⟩
    have hlt : id < w.graph.size := SchemaGraph.lt_size_iff.mpr ⟨t, ht⟩
    rw [SchemaGraph.get?_push, if_neg (Nat.ne_of_lt hlt), ht]
  closed _ h := h

/-- A schema is given the name of its component. -/
theorem rename (w : Workspace) (id : SchemaId) (change : Schema → Schema)
    (hchange : ∀ s, (change s).unnamed = s.unnamed) :
    w.Extends { w with graph := w.graph.modify id change } where
  slots := List.suffix_refl _
  diagnostics := List.prefix_refl _
  fresh _ h := .inl h
  kept other s hs := by
    rw [SchemaGraph.get?_modify, hs]
    split
    · exact ⟨change s, rfl, hchange s⟩
    · exact ⟨s, rfl, rfl⟩
  closed _ h := h

end Extends

/-! ## Growing -/

/-- What holds between the workspaces before and after, where schemas that were open before may
have been finished. -/
structure Grows (w w' : Workspace) : Prop where
  /-- Slots are only added. -/
  slots : w.slots ⊆ w'.slots
  /-- Findings are only added. -/
  diagnostics : w.report.diagnostics ⊆ w'.report.diagnostics
  /-- What is added to the slots is about schemas that are new or were open. -/
  fresh : ∀ entry ∈ w'.slots,
    entry ∈ w.slots ∨ w.graph.size ≤ entry.2.id ∨ w.Open entry.2.id
  /-- Schemas that were not open stay as they were, apart from their names. -/
  kept : ∀ id s, w.graph.get? id = some s → ¬ w.Open id →
    ∃ s', w'.graph.get? id = some s' ∧ s'.unnamed = s.unnamed

theorem Extends.grows (h : w.Extends w') : w.Grows w' where
  slots := h.slots.subset
  diagnostics := h.diagnostics.subset
  fresh entry hmem := by
    rcases h.fresh entry hmem with hold | hnew
    · exact .inl hold
    · exact .inr (.inl hnew)
  kept id s hs _ := h.kept id s hs

namespace Grows

theorem begun (h : w.Grows w') {id : SchemaId} (hb : w.Begun id) : w'.Begun id :=
  hb.imp fun _ hmem => h.slots hmem

theorem finished (h : w.Grows w') {id : SchemaId} (hf : w.Finished id) : w'.Finished id :=
  hf.imp fun _ hmem => h.slots hmem

theorem met (h : w.Grows w') {site : Site} {id : SchemaId} (hm : w.Met site id) :
    w'.Met site id :=
  hm.imp fun _ hslot => ⟨h.slots hslot.1, hslot.2⟩

/-- A schema that is there and was not begun will not be begun. -/
theorem not_begun (h : w.Grows w') {id : SchemaId} (hid : id < w.graph.size)
    (hb : ¬ w.Begun id) : ¬ w'.Begun id := by
  rintro ⟨site, hmem⟩
  rcases h.fresh _ hmem with hold | hnew | hopen
  · exact hb ⟨site, hold⟩
  · exact Nat.not_lt.mpr hnew hid
  · exact hb hopen.1

/-- A schema that is there and stands for no node of its own never does. -/
theorem not_finished (h : w.Grows w') {id : SchemaId} (hid : id < w.graph.size)
    (hb : ¬ w.Begun id) (hf : ¬ w.Finished id) : ¬ w'.Finished id := by
  rintro ⟨site, hmem⟩
  rcases h.fresh _ hmem with hold | hnew | hopen
  · exact hf ⟨site, hold⟩
  · exact Nat.not_lt.mpr hnew hid
  · exact hb hopen.1

/-- A schema that is there and is not open will not be open. -/
theorem not_open (h : w.Grows w') {id : SchemaId} (hid : id < w.graph.size)
    (ho : ¬ w.Open id) : ¬ w'.Open id := by
  intro ho'
  by_cases hb : w.Begun id
  · have hf : w.Finished id := Classical.not_not.mp fun hf => ho ⟨hb, hf⟩
    exact ho'.2 (h.finished hf)
  · exact h.not_begun hid hb ho'.1

end Grows

end Workspace

end ApiDescription
