import ApiDescription.Proofs.Binding.Reading

/-!
# Sound workspaces

`Workspace.Sound` is what holds of the workspace all the time while a description is bound.  The
schema that was met at a node has the place of the node, from the moment when it is begun; and
every schema that is not open is what its node is read as, or a part of it.

It also says in which order schemas are finished.  `Workspace.Grounded` holds of a schema from which
one only gets to finished schemas, by going to children that are numbered after the schema that
holds them, and to the targets of references that close no cycle; and from which one cannot go on
like this forever.
-/

namespace ApiDescription.Workspace

variable {S : Setting} {w w' : Workspace} {n : Node} {r : Record} {id : SchemaId} {s t : Schema}

/-! ## The invariant -/

/-- A schema has the place of the node at a site. -/
def Stands (S : Setting) (w : Workspace) (site : Site) (id : SchemaId) : Prop :=
  ∃ n : Node, n.Sited S ∧ n.site = site ∧ w.graph.At n.scope.label n.pointer id

/-- A finding says that there was no room for the schema of a node. -/
def ToldCut (w : Workspace) (n : Node) : Prop :=
  (Finding.nestingTooDeep n.scope.setting.options.maxDepth).diagnostic n.scope.label n.pointer ∈
    w.report.diagnostics

/-- What a schema that is not open is. -/
inductive Account (S : Setting) (w : Workspace) (id : SchemaId) (s : Schema) : Prop
  /-- The schema that a node was read as. -/
  | read {n : Node} {t : Schema} (hn : n.Sited S) (hbegun : w.Begun id)
      (hslot : (n.site, .bound id) ∈ w.slots) (hread : Yields S w n t)
      (hunnamed : t.unnamed = s.unnamed)
  /-- The schema of a node for which there was no room. -/
  | cut {n : Node} (hn : n.Sited S) (hbegun : ¬ w.Begun id)
      (hslot : (n.site, .bound id) ∈ w.slots) (hunnamed : s.unnamed = n.blankSchema)
      (htold : w.ToldCut n)
  /-- Part of the schema of an object; what it is put together from was there before it. -/
  | part {r : Record} {names : List String} {shape : Shape} (hr : r.Sited S)
      (hnames : names.Sublist r.types.result.names) (hshape : w.Structural r names shape)
      (hpart : w.Part r id shape)
      (hbefore : ∀ child ∈ shape.children, child < id)

/-- The walks from a schema that go to children with greater numbers, and to the targets of
references that close no cycle, only meet schemas that are not open, and end. -/
inductive Grounded (w : Workspace) : SchemaId → Prop
  | intro {id : SchemaId} {s : Schema} (hs : w.graph.get? id = some s) (hopen : ¬ w.Open id)
      (hchildren : ∀ child ∈ s.shape.children, id < child → Grounded w child)
      (htargets : ∀ r ∈ s.shape.references, ∀ target, r.state = .resolved target →
        Grounded w target) : Grounded w id

/-- What holds of a workspace all the time. -/
structure Sound (S : Setting) (w : Workspace) : Prop where
  /-- What is met at a node has its place. -/
  stands : ∀ entry ∈ w.slots, w.Stands S entry.1 entry.2.id
  /-- What is met at two sites is two schemas. -/
  apart : ∀ entry ∈ w.slots, ∀ other ∈ w.slots, entry.2.id = other.2.id → entry.1 = other.1
  /-- What is not open is what its node is read as. -/
  account : ∀ id s, w.graph.get? id = some s → ¬ w.Open id → w.Account S id s
  /-- What is not open leads to nothing that is open. -/
  grounded : ∀ id < w.graph.size, ¬ w.Open id → w.Grounded id

/-! ## Growing workspaces -/

theorem Account.grows (h : w.Account S id s) (hw : w.Grows w') (hid : id < w.graph.size)
    (hs : t.unnamed = s.unnamed) : w'.Account S id t := by
  cases h with
  | read hn hbegun hslot hread hunnamed =>
    exact .read hn (hw.begun hbegun) (hw.slots hslot) (hread.grows hw) (hunnamed.trans hs.symm)
  | cut hn hbegun hslot hunnamed htold =>
    exact .cut hn (hw.not_begun hid hbegun) (hw.slots hslot) (hs.trans hunnamed)
      (hw.diagnostics htold)
  | part hr hnames hshape hpart hbefore =>
    exact .part hr hnames (hshape.grows hw) (hpart.grows hw) hbefore

theorem Grounded.grows (h : w.Grounded id) (hw : w.Grows w') : w'.Grounded id := by
  induction h with
  | intro hs hopen _ _ ihchildren ihtargets =>
    -- it was not open, so its shape is kept
    obtain ⟨s', hs', hunnamed⟩ := hw.kept _ _ hs hopen
    have hshape := Schema.shape_eq_of_unnamed hunnamed
    refine .intro hs' (hw.not_open (SchemaGraph.lt_size_iff.mpr ⟨_, hs⟩) hopen) ?_ ?_
    · exact fun child hchild => ihchildren child (hshape ▸ hchild)
    · exact fun r hr => ihtargets r (hshape ▸ hr)

namespace Sound

theorem lt_size_of_mem (h : w.Sound S) {site : Site} {slot : Slot}
    (hmem : (site, slot) ∈ w.slots) : slot.id < w.graph.size := by
  obtain ⟨-, -, -, s, hs, -⟩ := h.stands _ hmem
  exact SchemaGraph.lt_size_iff.mpr ⟨s, hs⟩

theorem lt_size_of_met (h : w.Sound S) {site : Site} (hmet : w.Met site id) :
    id < w.graph.size := by
  obtain ⟨slot, hmem, rfl⟩ := hmet
  exact h.lt_size_of_mem hmem

theorem lt_size_of_open (h : w.Sound S) (ho : w.Open id) : id < w.graph.size := by
  obtain ⟨⟨site, hmem⟩, -⟩ := ho
  exact h.lt_size_of_mem hmem

theorem lt_size_of_held (h : w.Sound S) (hheld : w.Held r id) : id < w.graph.size := by
  rcases hheld with ⟨n, -, hmet⟩ | ⟨shape, ⟨s, hs, -⟩, -, -⟩
  · exact h.lt_size_of_met hmet
  · exact SchemaGraph.lt_size_iff.mpr ⟨s, hs⟩

/-- What is met at a node has the place of the node. -/
theorem at_of_mem (h : w.Sound S) (hn : n.Sited S) {slot : Slot}
    (hslot : (n.site, slot) ∈ w.slots) : w.graph.At n.scope.label n.pointer slot.id := by
  obtain ⟨m, hm, hsite, hat⟩ := h.stands _ hslot
  have hscope : m.scope = n.scope := hm.scope.ext hn.scope (congrArg Site.document hsite)
  have hpointer : m.pointer = n.pointer := congrArg Site.pointer hsite
  rwa [hscope, hpointer] at hat

theorem at_of_met (h : w.Sound S) (hn : n.Sited S) (hmet : w.Met n.site id) :
    w.graph.At n.scope.label n.pointer id := by
  obtain ⟨slot, hslot, rfl⟩ := hmet
  exact h.at_of_mem hn hslot

theorem fresh : Workspace.fresh.Sound S where
  stands _ h := by simp [Workspace.fresh] at h
  apart _ h := by simp [Workspace.fresh] at h
  account id s h := by simp [Workspace.fresh, SchemaGraph.get?, SchemaGraph.empty] at h
  grounded id h := by simp [Workspace.fresh, SchemaGraph.size, SchemaGraph.empty] at h

/-- A workspace that has grown is sound if what is new in it is. -/
theorem of_grows (h : w.Sound S) (hw : w.Grows w')
    (hplaces : ∀ id s, w.graph.get? id = some s → ∃ s', w'.graph.get? id = some s' ∧
      s'.document = s.document ∧ s'.location = s.location)
    (hslots : ∀ entry ∈ w'.slots, entry ∉ w.slots → w'.Stands S entry.1 entry.2.id ∧
      ∀ other ∈ w'.slots, entry.2.id = other.2.id → entry.1 = other.1)
    (hnew : ∀ id s, w'.graph.get? id = some s → ¬ w'.Open id →
      w.graph.size ≤ id ∨ w.Open id → w'.Account S id s ∧ w'.Grounded id) : w'.Sound S where
  stands entry hmem := by
    by_cases hold : entry ∈ w.slots
    · obtain ⟨n, hn, hsite, s, hs, hdocument, hlocation⟩ := h.stands entry hold
      obtain ⟨s', hs', hdocument', hlocation'⟩ := hplaces _ s hs
      exact ⟨n, hn, hsite, s', hs', hdocument'.trans hdocument, hlocation'.trans hlocation⟩
    · exact (hslots entry hmem hold).1
  apart entry hmem other hother hid := by
    by_cases hold : entry ∈ w.slots
    · by_cases hold' : other ∈ w.slots
      · exact h.apart entry hold other hold' hid
      · exact ((hslots other hother hold').2 entry hmem hid.symm).symm
    · exact (hslots entry hmem hold).2 other hother hid
  account id s hs hopen := by
    by_cases hnew' : w.graph.size ≤ id ∨ w.Open id
    · exact (hnew id s hs hopen hnew').1
    · -- the schema was there before and complete, and such schemas get names at most
      obtain ⟨hid, hopen'⟩ := not_or.mp hnew'
      obtain ⟨s₀, hs₀⟩ := SchemaGraph.lt_size_iff.mp (Nat.lt_of_not_le hid)
      obtain ⟨s', hs', hunnamed⟩ := hw.kept id s₀ hs₀ hopen'
      obtain rfl := Option.some.inj (hs.symm.trans hs')
      exact (h.account id s₀ hs₀ hopen').grows hw (Nat.lt_of_not_le hid) hunnamed
  grounded id hid hopen := by
    by_cases hnew' : w.graph.size ≤ id ∨ w.Open id
    · obtain ⟨s, hs⟩ := SchemaGraph.lt_size_iff.mp hid
      exact (hnew id s hs hopen hnew').2
    · obtain ⟨hid', hopen'⟩ := not_or.mp hnew'
      exact (h.grounded id (Nat.lt_of_not_le hid') hopen').grows hw

/-- A whole step keeps the workspace sound if the schemas that it adds are. -/
theorem of_extends (h : w.Sound S) (hw : w.Extends w')
    (hslots : ∀ entry ∈ w'.slots, entry ∉ w.slots → w'.Stands S entry.1 entry.2.id ∧
      ∀ other ∈ w'.slots, entry.2.id = other.2.id → entry.1 = other.1)
    (hnew : ∀ id s, w'.graph.get? id = some s → w.graph.size ≤ id →
      w'.Account S id s ∧ w'.Grounded id) : w'.Sound S := by
  refine h.of_grows hw.grows ?_ hslots ?_
  · intro id s hs
    obtain ⟨s', hs', hunnamed⟩ := hw.kept id s hs
    exact ⟨s', hs', Schema.document_eq_of_unnamed hunnamed,
      Schema.location_eq_of_unnamed hunnamed⟩
  · rintro id s hs hopen (hid | hopen')
    · exact hnew id s hs hid
    · exact absurd (hw.stays_open (h.lt_size_of_open hopen') hopen') hopen

/-- A step that adds findings, and at most names to schemas, keeps the workspace sound. -/
theorem of_size_eq (h : w.Sound S) (hw : w.Extends w') (hslots : w'.slots = w.slots)
    (hsize : w'.graph.size = w.graph.size) : w'.Sound S := by
  refine h.of_extends hw (fun entry hmem hnot => absurd (hslots ▸ hmem) hnot) ?_
  intro id s hs hid
  have hlt : id < w'.graph.size := SchemaGraph.lt_size_iff.mpr ⟨s, hs⟩
  exact absurd hid (Nat.not_le.mpr (hsize ▸ hlt))

end Sound

/-! ## Parts -/

/-- The workspace with one more part of the schema of an object. -/
def adding (w : Workspace) (r : Record) (shape : Shape) : Workspace :=
  { w with graph := w.graph.push { r.blankSchema with shape } }

theorem extends_adding (w : Workspace) (r : Record) (shape : Shape) :
    w.Extends (w.adding r shape) :=
  .push w _

theorem Sound.part_adding (h : w.Sound S) (r : Record) (shape : Shape) :
    (w.adding r shape).Part r w.graph.size shape where
  schema := ⟨{ r.blankSchema with shape }, by simp [adding, SchemaGraph.get?_push], rfl⟩
  not_begun := fun ⟨_, hmem⟩ => Nat.lt_irrefl _ (h.lt_size_of_mem hmem)
  not_finished := fun ⟨_, hmem⟩ => Nat.lt_irrefl _ (h.lt_size_of_mem hmem)

theorem Sound.adding (h : w.Sound S) {names : List String} {shape : Shape} (hr : r.Sited S)
    (hnames : names.Sublist r.types.result.names) (hshape : w.Structural r names shape) :
    (w.adding r shape).Sound S := by
  have hw := w.extends_adding r shape
  have hpart := h.part_adding r shape
  refine h.of_extends hw (fun entry hmem hnot => absurd hmem hnot) ?_
  intro id s hs hid
  have hlt : id < w.graph.size + 1 := by
    have hlt : id < (w.adding r shape).graph.size := SchemaGraph.lt_size_iff.mpr ⟨s, hs⟩
    rwa [Workspace.adding, SchemaGraph.size_push] at hlt
  obtain rfl : id = w.graph.size := Nat.le_antisymm (Nat.le_of_lt_succ hlt) hid
  obtain ⟨-, -, heq⟩ := hpart.of_get? hs
  have hbefore : ∀ child ∈ shape.children, child < w.graph.size := fun child hchild =>
    h.lt_size_of_held (hshape.held hchild)
  refine ⟨.part hr hnames (hshape.grows hw.grows) hpart hbefore,
    .intro hs (fun ho => hpart.not_begun ho.1) ?_ ?_⟩
  · intro child hchild hgt
    exact absurd (hbefore child (heq ▸ hchild)) (Nat.not_lt.mpr (Nat.le_of_lt hgt))
  · intro reference hreference
    rw [heq, hshape.references_eq_nil] at hreference
    simp at hreference

/-! ## Nodes -/

/-- The workspace in which the schema of a node is begun. -/
def opening (w : Workspace) (n : Node) : Workspace :=
  { w with graph := w.graph.push n.blankSchema, slots := (n.site, .opened w.graph.size) :: w.slots }

/-- The workspace in which the schema of a node is finished. -/
def closing (w : Workspace) (n : Node) (id : SchemaId) (s : Schema) : Workspace :=
  { w with graph := w.graph.modify id fun _ => s, slots := (n.site, .bound id) :: w.slots }

/-- The workspace in which the schema of a node is finished at once. -/
def cutting (w : Workspace) (n : Node) : Workspace :=
  { w with graph := w.graph.push n.blankSchema, slots := (n.site, .bound w.graph.size) :: w.slots }

theorem eq_size_of_push {g : SchemaGraph} {t : Schema} (hs : (g.push t).get? id = some s)
    (hid : g.size ≤ id) : id = g.size ∧ s = t := by
  have hlt : id < g.size + 1 := g.size_push t ▸ SchemaGraph.lt_size_iff.mpr ⟨s, hs⟩
  obtain rfl : id = g.size := Nat.le_antisymm (Nat.le_of_lt_succ hlt) hid
  rw [SchemaGraph.get?_push, if_pos rfl] at hs
  exact ⟨rfl, (Option.some.inj hs).symm⟩

theorem get?_push_of_eq_some {g : SchemaGraph} (hs : g.get? id = some s) (t : Schema) :
    (g.push t).get? id = some s := by
  have hlt : id < g.size := SchemaGraph.lt_size_iff.mpr ⟨s, hs⟩
  rw [SchemaGraph.get?_push, if_neg (Nat.ne_of_lt hlt), hs]

@[simp] theorem size_opening (w : Workspace) (n : Node) :
    (w.opening n).graph.size = w.graph.size + 1 :=
  SchemaGraph.size_push _ _

theorem get?_size_opening (w : Workspace) (n : Node) :
    (w.opening n).graph.get? w.graph.size = some n.blankSchema := by
  simp [opening, SchemaGraph.get?_push]

theorem grows_opening (w : Workspace) (n : Node) : w.Grows (w.opening n) where
  slots := List.subset_cons_self _ _
  diagnostics := fun _ h => h
  fresh entry hmem := by
    rcases List.mem_cons.mp hmem with rfl | hold
    · exact .inr (.inl (Nat.le_refl _))
    · exact .inl hold
  kept id s hs _ := ⟨s, get?_push_of_eq_some hs _, rfl⟩

theorem Sound.open_opening (h : w.Sound S) (n : Node) : (w.opening n).Open w.graph.size := by
  refine ⟨⟨n.site, List.mem_cons_self⟩, ?_⟩
  rintro ⟨site, hmem⟩
  rcases List.mem_cons.mp hmem with heq | hold
  · simp at heq
  · exact Nat.lt_irrefl _ (h.lt_size_of_mem hold)

theorem open_of_open_opening (ho : (w.opening n).Open id) : w.Open id ∨ id = w.graph.size := by
  obtain ⟨⟨site, hmem⟩, hfinished⟩ := ho
  rcases List.mem_cons.mp hmem with heq | hold
  · simp only [Prod.mk.injEq, Slot.opened.injEq] at heq
    exact .inr heq.2
  · exact .inl ⟨⟨site, hold⟩, fun hf => hfinished ((w.grows_opening n).finished hf)⟩

theorem open_opening_of_open (ho : w.Open id) : (w.opening n).Open id := by
  refine ⟨(w.grows_opening n).begun ho.1, ?_⟩
  rintro ⟨site, hmem⟩
  rcases List.mem_cons.mp hmem with heq | hold
  · simp at heq
  · exact ho.2 ⟨site, hold⟩

/-- The next schema was met nowhere, until it is met at a node. -/
theorem Sound.apart_of_next (h : w.Sound S) {slot : Slot} (hslot : slot.id = w.graph.size)
    (n : Node) : ∀ other ∈ (n.site, slot) :: w.slots, slot.id = other.2.id → n.site = other.1 := by
  intro other hother hid
  rcases List.mem_cons.mp hother with rfl | hold
  · rfl
  · have hlt := h.lt_size_of_mem hold
    exact absurd (hid.symm.trans hslot) (Nat.ne_of_lt hlt)

/-- Beginning with a node keeps the workspace sound. -/
theorem Sound.opening (h : w.Sound S) (hn : n.Sited S) : (w.opening n).Sound S := by
  refine h.of_grows (w.grows_opening n) ?_ ?_ ?_
  · exact fun id s hs => ⟨s, get?_push_of_eq_some hs _, rfl, rfl⟩
  · intro entry hmem hnot
    obtain rfl := (List.mem_cons.mp hmem).resolve_right hnot
    exact ⟨⟨n, hn, rfl, n.blankSchema, w.get?_size_opening n, rfl, rfl⟩, h.apart_of_next rfl n⟩
  · rintro id s hs hopen (hid | hopen')
    · obtain ⟨rfl, -⟩ := eq_size_of_push hs hid
      exact absurd (h.open_opening n) hopen
    · exact absurd (open_opening_of_open hopen') hopen

/-- A schema that is finished leads to nothing that is open, by way of parts that are numbered
after it and of references that close no cycle. -/
theorem Sound.grounded_of_yields (h : w.Sound S) (hyields : Yields S w n s)
    (hopen : ∀ child, w.Open child → child ≤ id) :
    (∀ child ∈ s.shape.children, id < child → w.Grounded child) ∧
      ∀ r ∈ s.shape.references, ∀ target, r.state = .resolved target → w.Grounded target := by
  refine ⟨fun child hchild hgt => ?_, fun r hr target hstate => ?_⟩
  -- a child may be open, but then it was begun before
  · obtain ⟨r, -, hheld⟩ := hyields.held hchild
    exact h.grounded child (h.lt_size_of_held hheld)
      fun ho => Nat.not_lt.mpr (hopen child ho) hgt
  · obtain ⟨at_, hsettles⟩ := hyields.settles hr
    rw [hstate] at hsettles
    cases hsettles with
    | resolved _ hslot =>
      exact h.grounded target (h.lt_size_of_mem hslot) fun ho => ho.2 ⟨_, hslot⟩

theorem get?_closing_of_ne {other : SchemaId} (hne : id ≠ other) :
    (w.closing n id s).graph.get? other = w.graph.get? other := by
  rw [closing, SchemaGraph.get?_modify, if_neg hne]

theorem get?_closing_self (hid : id < w.graph.size) :
    (w.closing n id s).graph.get? id = some s := by
  obtain ⟨t, ht⟩ := SchemaGraph.lt_size_iff.mp hid
  rw [closing, SchemaGraph.get?_modify, if_pos rfl, ht, Option.map_some]

theorem grows_closing (ho : w.Open id) (n : Node) (s : Schema) : w.Grows (w.closing n id s) where
  slots := List.subset_cons_self _ _
  diagnostics := fun _ h => h
  fresh entry hmem := by
    rcases List.mem_cons.mp hmem with rfl | hold
    · exact .inr (.inr ho)
    · exact .inl hold
  kept other t ht hopen := by
    have hne : id ≠ other := fun heq => hopen (heq ▸ ho)
    exact ⟨t, (get?_closing_of_ne hne).trans ht, rfl⟩

/-- Only the schema that is finished is no longer open. -/
theorem eq_of_not_open_closing {other : SchemaId} (ho : w.Open other)
    (hnot : ¬ (w.closing n id s).Open other) : other = id := by
  refine Classical.not_not.mp fun hne => hnot ⟨?_, ?_⟩
  · obtain ⟨site, hmem⟩ := ho.1
    exact ⟨site, List.mem_cons_of_mem _ hmem⟩
  · rintro ⟨site, hmem⟩
    rcases List.mem_cons.mp hmem with hnew | hold
    · simp only [Prod.mk.injEq, Slot.bound.injEq] at hnew
      exact hne hnew.2
    · exact ho.2 ⟨site, hold⟩

theorem open_of_open_closing {other : SchemaId} (ho : (w.closing n id s).Open other) :
    w.Open other ∧ other ≠ id := by
  obtain ⟨⟨site, hmem⟩, hfinished⟩ := ho
  refine ⟨⟨⟨site, ?_⟩, fun ⟨site', hmem'⟩ => hfinished ⟨site', List.mem_cons_of_mem _ hmem'⟩⟩, ?_⟩
  · exact (List.mem_cons.mp hmem).resolve_left (by simp)
  · rintro rfl
    exact hfinished ⟨n.site, List.mem_cons_self⟩

/-- What happens from when a node is begun until it is finished is a whole step. -/
theorem extends_closing (hw : (w.opening n).Extends w') (s : Schema) :
    w.Extends (w'.closing n w.graph.size s) where
  slots := ((List.suffix_cons _ _).trans hw.slots).trans (List.suffix_cons _ _)
  diagnostics := hw.diagnostics
  fresh entry hmem := by
    rcases List.mem_cons.mp hmem with rfl | hmem'
    · exact .inr (Nat.le_refl _)
    · rcases hw.fresh entry hmem' with hopening | hnew
      · rcases List.mem_cons.mp hopening with rfl | hold
        · exact .inr (Nat.le_refl _)
        · exact .inl hold
      · rw [size_opening] at hnew
        exact .inr (Nat.le_of_succ_le hnew)
  kept id t ht := by
    have hlt : id < w.graph.size := SchemaGraph.lt_size_iff.mpr ⟨t, ht⟩
    obtain ⟨t', ht', hunnamed⟩ := hw.kept id t (get?_push_of_eq_some ht _)
    exact ⟨t', (get?_closing_of_ne (Nat.ne_of_gt hlt)).trans ht', hunnamed⟩
  closed id ho := by
    obtain ⟨ho', hne⟩ := open_of_open_closing ho
    exact (open_of_open_opening (hw.closed id ho')).resolve_right hne

/-- Finishing a node keeps the workspace sound. -/
theorem Sound.closing (h : w.Sound S) (hn : n.Sited S) (hw : (w.opening n).Extends w')
    (h' : w'.Sound S) (hyields : Yields S w' n s) : (w'.closing n w.graph.size s).Sound S := by
  obtain ⟨hdocument, hlocation⟩ := hyields.place
  have hlt : w.graph.size < (w.opening n).graph.size := by simp
  have hopen : w'.Open w.graph.size := hw.stays_open hlt (h.open_opening n)
  have hgrows := grows_closing hopen n s
  -- what was open when the node was begun has a smaller number
  have hlast : ∀ child, w'.Open child → child ≤ w.graph.size := by
    intro child ho
    have hlt' := (h.opening hn).lt_size_of_open (hw.closed child ho)
    rw [size_opening] at hlt'
    exact Nat.le_of_lt_succ hlt'
  have hget := get?_closing_self (n := n) (s := s) (h'.lt_size_of_open hopen)
  refine h'.of_grows hgrows ?_ ?_ ?_
  -- what the schema becomes stands where it was begun
  · intro id t ht
    by_cases heq : w.graph.size = id
    · subst heq
      obtain ⟨t', ht', hunnamed⟩ := hw.kept _ _ (w.get?_size_opening n)
      obtain rfl := Option.some.inj (ht.symm.trans ht')
      exact ⟨s, hget, hdocument.trans (Schema.document_eq_of_unnamed hunnamed).symm,
        hlocation.trans (Schema.location_eq_of_unnamed hunnamed).symm⟩
    · exact ⟨t, (get?_closing_of_ne heq).trans ht, rfl, rfl⟩
  · intro entry hmem hnot
    obtain rfl := (List.mem_cons.mp hmem).resolve_right hnot
    refine ⟨⟨n, hn, rfl, s, hget, hdocument, hlocation⟩, fun other hother hid => ?_⟩
    rcases List.mem_cons.mp hother with rfl | hother'
    · rfl
    · exact h'.apart _ (hw.slots.subset List.mem_cons_self) other hother' hid
  · rintro id t ht hopen' (hid | ho)
    · have hlt'' : id < w'.graph.size := by
        rw [← SchemaGraph.size_modify w'.graph w.graph.size fun _ => s]
        exact SchemaGraph.lt_size_iff.mpr ⟨t, ht⟩
      exact absurd hid (Nat.not_le.mpr hlt'')
    · have heq : id = w.graph.size := eq_of_not_open_closing ho hopen'
      subst heq
      obtain rfl := Option.some.inj (ht.symm.trans hget)
      obtain ⟨hchildren, htargets⟩ := h'.grounded_of_yields hyields hlast
      refine ⟨.read hn (hgrows.begun hopen.1) List.mem_cons_self (hyields.grows hgrows) rfl, ?_⟩
      exact .intro hget hopen' (fun child hchild hgt => (hchildren child hchild hgt).grows hgrows)
        fun r hr target hstate => (htargets r hr target hstate).grows hgrows

/-- Finishing a node at once is a whole step. -/
theorem extends_cutting (w : Workspace) (n : Node) : w.Extends (w.cutting n) where
  slots := List.suffix_cons _ _
  diagnostics := List.prefix_refl _
  fresh entry hmem := by
    rcases List.mem_cons.mp hmem with rfl | hold
    · exact .inr (Nat.le_refl _)
    · exact .inl hold
  kept id s hs := ⟨s, get?_push_of_eq_some hs _, rfl⟩
  closed id ho := by
    obtain ⟨⟨site, hmem⟩, hfinished⟩ := ho
    refine ⟨⟨site, (List.mem_cons.mp hmem).resolve_left (by simp)⟩, ?_⟩
    exact fun ⟨site', hmem'⟩ => hfinished ⟨site', List.mem_cons_of_mem _ hmem'⟩

/-- Finishing a node at once keeps the workspace sound. -/
theorem Sound.cutting (h : w.Sound S) (hn : n.Sited S) (htold : w.ToldCut n) :
    (w.cutting n).Sound S := by
  refine h.of_extends (w.extends_cutting n) ?_ ?_
  · intro entry hmem hnot
    obtain rfl := (List.mem_cons.mp hmem).resolve_right hnot
    exact ⟨⟨n, hn, rfl, n.blankSchema,
      by simp [Workspace.cutting, Slot.id, SchemaGraph.get?_push], rfl, rfl⟩,
      h.apart_of_next rfl n⟩
  · intro id s hs hid
    obtain ⟨rfl, rfl⟩ := eq_size_of_push hs hid
    have hbegun : ¬ (w.cutting n).Begun w.graph.size := by
      rintro ⟨site, hmem⟩
      rcases List.mem_cons.mp hmem with heq | hold
      · simp at heq
      · exact Nat.lt_irrefl _ (h.lt_size_of_mem hold)
    refine ⟨.cut hn hbegun List.mem_cons_self rfl htold, .intro hs (fun ho => hbegun ho.1) ?_ ?_⟩
    · simp [Node.blankSchema, Schema.blank]
    · simp [Node.blankSchema, Schema.blank]

/-! ## What is read -/

/-- No schema is put together from itself. -/
theorem Account.not_mem_children (h : w.Account S id s) (hw : w.Sound S)
    (hs : w.graph.get? id = some s) : id ∉ s.shape.children := by
  intro hchild
  cases h with
  | @read n t hn hbegun _ hread hunnamed =>
    rw [← Schema.shape_eq_of_unnamed hunnamed] at hchild
    obtain ⟨r, hr, hheld⟩ := hread.held hchild
    rcases hheld with ⟨m, hbelow, slot, hslot, rfl⟩ | ⟨shape, hpart⟩
    · -- the part is deeper in the document than the whole
      obtain ⟨m', -, hsite, s', hs', -, hlocation⟩ := hw.stands _ hslot
      obtain rfl := Option.some.inj (hs.symm.trans hs')
      have hpointer : m'.pointer = m.pointer := congrArg Site.pointer hsite
      have hplace := hread.place.2
      rw [Schema.location_eq_of_unnamed hunnamed, hlocation, hpointer] at hplace
      have hlt := hbelow.2
      rw [(Node.of_object? hr).2.1, hplace] at hlt
      exact Nat.lt_irrefl _ hlt
    · exact hpart.not_begun hbegun
  | cut _ _ _ hunnamed _ =>
    have hshape : s.shape = .any := congrArg Schema.shape hunnamed
    rw [hshape] at hchild
    simp at hchild
  | @part r names shape _ _ _ hpart hbefore =>
    obtain ⟨-, -, hshape⟩ := hpart.of_get? hs
    exact Nat.lt_irrefl _ (hbefore id (hshape ▸ hchild))

end ApiDescription.Workspace

/-! ## Runs at a node -/

namespace ApiDescription

theorem Binding.slot?_bind {α : Type} (site : Site) (f : Option Slot → Binding α) (w : Workspace) :
    (Binding.slot? site >>= f) w = f (w.slot? site) w := rfl

namespace Node

variable {n : Node} {w : Workspace}

/-- A schema that was met is looked up. -/
theorem schemaWithin_of_met {slot : Slot} (h : w.slot? n.site = some slot) (room : Nat) :
    n.schemaWithin room w = (slot.id, w) := by
  cases room with
  | zero =>
    unfold schemaWithin
    rw [Binding.slot?_bind, h]
    rfl
  | succ room =>
    unfold schemaWithin
    rw [Binding.slot?_bind, h]
    rfl

/-- A schema for which there is no room is finished at once. -/
theorem schemaWithin_zero (h : w.slot? n.site = none) :
    n.schemaWithin 0 w = (w.graph.size, (w.told
      (.nestingTooDeep n.scope.setting.options.maxDepth) n.scope.label n.pointer).cutting n) := by
  unfold schemaWithin
  rw [Binding.slot?_bind, h]
  rfl

/-- A schema is begun, its parts are read, and it is finished. -/
theorem schemaWithin_succ (h : w.slot? n.site = none) (room : Nat) :
    n.schemaWithin (room + 1) w = (w.graph.size,
      (n.schemaHere (schemaWithin room) (w.opening n)).2.closing n w.graph.size
        (n.schemaHere (schemaWithin room) (w.opening n)).1) := by
  unfold schemaWithin
  rw [Binding.slot?_bind, h]
  rfl

/-- A schema that was met nowhere gets the next number. -/
theorem schemaWithin_fst (h : w.slot? n.site = none) (room : Nat) :
    (n.schemaWithin room w).1 = w.graph.size := by
  cases room with
  | zero => rw [schemaWithin_zero h]
  | succ room => rw [schemaWithin_succ h]

/-- Reading a schema at a node, it is met there. -/
theorem met_schemaWithin (n : Node) (room : Nat) (w : Workspace) :
    (n.schemaWithin room w).2.Met n.site (n.schemaWithin room w).1 := by
  cases hslot : w.slot? n.site with
  | some slot =>
    rw [schemaWithin_of_met hslot]
    exact ⟨slot, Workspace.mem_slots_of_slot? hslot, rfl⟩
  | none =>
    cases room with
    | zero =>
      rw [schemaWithin_zero hslot]
      exact ⟨_, List.mem_cons_self, rfl⟩
    | succ room =>
      rw [schemaWithin_succ hslot]
      exact ⟨_, List.mem_cons_self, rfl⟩

end Node

end ApiDescription
