import ApiDescription.Proofs.Binding.InsularDescription
import ApiDescription.Proofs.Schema.Accepted
import ApiDescription.Proofs.Schema.Once

/-!
# Two runs over one document

What is left by a run that finds no error, and by the run over the same entry document that does not
leave it, is collected in `Setting.Reruns`.

The schemas of the two runs have different numbers, but each one that the second run met stands for
one that the first run met at the same node.  Where the second one refers to a schema, the first one
refers to a schema at the same node, so that a chain of references that never ends in the second run
never ends in the first one: `Setting.Reruns.follow_ne_closed`.
-/

namespace ApiDescription

open Binding

variable {S : Setting}

/-! ## The entry document -/

/-- The node is at its place in the entry document. -/
structure Node.AtHome (S : Setting) (n : Node) : Prop extends n.Sited S where
  /-- Its document is the entry document. -/
  home : n.scope.place = S.entry

/-- Only the entry document has no name in diagnostics. -/
theorem Scope.Registered.label_eq_none_iff {c : Scope} (h : c.Registered S) :
    c.label = none ↔ c.place = S.entry := by
  unfold Scope.label
  rw [h.setting]
  split
  · next heq => simp [heq]
  · next hne => simp [hne]

/-- A reference that is not followed into other documents leads to the document that it is in. -/
theorem Scope.Registered.eq_of_locate {c : Scope} (h : c.Registered S)
    (hclosed : S.options.resolveExternal = false) {text : String} {n : Node}
    (hn : c.locate text = .ok n) : n.scope = c := by
  rcases (Scope.of_locate_eq_ok hn).1 with heq | hdocument
  · exact heq
  · unfold Scope.documentOf at hdocument
    split at hdocument
    · simp at hdocument
    · simp only at hdocument
      split at hdocument
      · exact (Except.ok.inj hdocument).symm
      · simp [h.setting, hclosed] at hdocument

/-- Without references into other documents, one does not get out of the entry document. -/
theorem Node.closed_atHome (hclosed : S.options.resolveExternal = false) :
    Node.Closed (Node.AtHome S) where
  member h hmem := ⟨Record.Sited.child h.toSited hmem, h.home⟩
  item h hmem := by
    obtain ⟨-, -, -, -, hscope, -⟩ := Node.of_mem_itemNodes hmem
    exact ⟨h.toSited.item hmem, hscope ▸ h.home⟩
  target h _ hm := by
    rcases hm with hm | hm
    · exact ⟨h.scope.locate hm, h.scope.eq_of_locate hclosed hm ▸ h.home⟩
    · exact ⟨h.scope.locate hm, h.scope.eq_of_locate hclosed hm ▸ h.home⟩

theorem Node.Sited.insular {n : Node} (h : n.Sited S) : n.insular.Sited S.insular :=
  ⟨⟨⟨congrArg Setting.insular h.scope.setting, h.scope.source⟩, h.inside⟩, h.value⟩

/-- A node of the second run is a node of the first run. -/
theorem Node.Sited.exists_insular {n' : Node} (h : n'.Sited S.insular) :
    ∃ n : Node, n.Sited S ∧ n.insular = n' := by
  refine ⟨{ n' with scope := { n'.scope with setting := S } }, ⟨⟨⟨rfl, h.scope.source⟩, h.inside⟩,
    h.value⟩, ?_⟩
  obtain ⟨⟨setting, place, source⟩, pointer, value⟩ := n'
  obtain rfl : setting = S.insular := h.scope.setting
  rfl

/-! ## Two runs -/

/-- What two runs over the entry document of a setting leave, of which the first one finds no error
and the second one does not leave the document. -/
structure Setting.Reruns (S : Setting) (root : Record) (d d' : Description) (w w' : Workspace) :
    Prop where
  /-- The first run finds no error. -/
  accepted : w.Accepted S
  /-- What the second run gets is like something that the first run gets. -/
  like : d.Like S d'
  /-- The second run gets no further than the first one. -/
  trails : w'.Trails w
  complete : w.Complete S
  complete' : w'.Complete S.insular
  schemas : d.schemas = w.graph
  schemas' : d'.schemas = w'.graph
  sited : root.Sited S
  traced : d.Traced (Node.Sited S) root
  traced' : d'.Traced (Node.Sited S.insular) root.insular
  /-- The second run does not leave the entry document. -/
  home : d'.Traced (Node.AtHome S.insular) root.insular

theorem Setting.root?_insular (S : Setting) : S.insular.root? = S.root?.map Record.insular := by
  have hdocuments : S.insular.registry.documents[S.insular.entry]? =
      S.registry.documents[S.entry]? := rfl
  unfold Setting.root?
  rw [hdocuments]
  cases S.registry.documents[S.entry]? with
  | none => rfl
  | some source =>
    rw [Option.bind_some, Option.bind_some]
    cases hroot : source.root <;> rfl

/-- A run over the entry document reads its root. -/
theorem RegisteredDocument.run_eq {source : RegisteredDocument} {root : Record}
    (hsource : S.registry.documents[S.entry]? = some source) (hroot : S.root? = some root)
    (declared : String) :
    source.run S declared = .ok (root.description declared .fresh) := by
  obtain ⟨source', hsource', hscope, hpointer, hvalue⟩ := Setting.of_root? hroot
  obtain rfl := Option.some.inj (hsource.symm.trans hsource')
  obtain ⟨scope, pointer, members⟩ := root
  obtain rfl : scope = ⟨S, S.entry, source⟩ := hscope
  obtain rfl : pointer = .root := hpointer
  unfold run
  rw [hvalue]
  rfl

/-- Where a run over the entry document finds no error, the other run gives a description, too. -/
theorem RegisteredDocument.exists_run_insular {source : RegisteredDocument} {declared : String}
    {d : Description} {w : Workspace} (hsource : S.registry.documents[S.entry]? = some source)
    (hwf : S.registry.WellFormed) (h : source.run S declared = .ok (d, w))
    (herrors : w.report.hasErrors = false) :
    ∃ d' w' root, source.run S.insular declared = .ok (d', w') ∧ S.Reruns root d d' w w' := by
  obtain ⟨root, hroot, htraced⟩ := traced_of_run (Node.closed_sited S) hsource h
  have hsited := Setting.sited_root hroot
  obtain ⟨hd, -, -, hread⟩ := htraced hsited
  obtain ⟨hcomplete, hgraph, -⟩ := complete_of_run hsource h
  have haccepted : w.Accepted S := ⟨hwf, hcomplete.sound, herrors, hread⟩
  have hroot' : S.insular.root? = some root.insular := by
    rw [S.root?_insular, hroot, Option.map_some]
  -- the two runs, one beside the other
  have hrun : root.description declared .fresh = (d, w) :=
    Except.ok.inj ((run_eq hsource hroot declared).symm.trans h)
  have hrun' := run_eq (S := S.insular) hsource hroot' declared
  obtain ⟨hlike, hstates⟩ := Record.follows_description haccepted hsited declared .fresh .fresh
    fun _ => Workspace.trails_fresh
  rw [hrun] at hlike hstates
  generalize root.insular.description declared .fresh = left at hrun' hlike hstates
  obtain ⟨d', w'⟩ := left
  refine ⟨d', w', root, hrun', ?_⟩
  obtain ⟨hcomplete', hgraph', -⟩ := complete_of_run (S := S.insular) hsource hrun'
  have htraced' : ∀ {P : Node → Prop}, Node.Closed P → P root.insular.node →
      d'.Traced P root.insular := by
    intro P hP hr
    obtain ⟨_, hroot₁, htraced'⟩ := traced_of_run (S := S.insular) hP hsource hrun'
    obtain rfl := Option.some.inj (hroot'.symm.trans hroot₁)
    exact (htraced' hr).1
  have hsited' : root.insular.Sited S.insular := Setting.sited_root hroot'
  obtain ⟨_, -, hscope, -⟩ := Setting.of_root? hroot
  have hhome : root.scope.place = S.entry := congrArg Scope.place hscope
  exact ⟨haccepted, hlike, hstates ⟨List.Subset.refl _, List.Subset.refl _⟩, hcomplete, hcomplete',
    hgraph, hgraph', hsited, hd, htraced' (Node.closed_sited _) hsited',
    htraced' (Node.closed_atHome rfl) ⟨hsited', hhome⟩⟩

/-! ## Chains of references -/

namespace Workspace

variable {w : Workspace} {id : SchemaId} {s : Schema} {reference : Reference}

/-- Two sites at which one schema was met are one, if they are in the entry document. -/
theorem Sound.site_eq (h : w.Sound S) {n m : Node} (hn : n.AtHome S) (hm : m.Sited S)
    (hmet : w.Met n.site id) (hmet' : w.Met m.site id) : m.site = n.site := by
  obtain ⟨s, hs, hdocument, hlocation⟩ := h.at_of_met hn.toSited hmet
  obtain ⟨s', hs', hdocument', hlocation'⟩ := h.at_of_met hm hmet'
  obtain rfl := Option.some.inj (hs.symm.trans hs')
  have hlabel : m.scope.label = none := by
    rw [← hdocument', hdocument]
    exact hn.scope.label_eq_none_iff.mpr hn.home
  have hplace : m.scope.place = n.scope.place :=
    (hm.scope.label_eq_none_iff.mp hlabel).trans hn.home.symm
  rw [Node.site, Node.site, hplace, ← hlocation', hlocation]

/-- What was met at a node of the entry document was read there, or it was cut off. -/
theorem Complete.yields_of_met (h : w.Complete S) (hwf : S.registry.WellFormed) {n : Node}
    (hn : n.AtHome S) (hmet : w.Met n.site id) (hs : w.graph.get? id = some s) :
    (∃ t, Yields S w n t ∧ t.unnamed = s.unnamed) ∨ (s.shape = .any ∧ w.ToldCut n) := by
  have hsame : ∀ {m : Node}, m.Sited S → (m.site, .bound id) ∈ w.slots → m = n := by
    intro m hm hslot
    have hsite := h.sound.site_eq hn hm hmet ⟨_, hslot, rfl⟩
    have hscope : m.scope = n.scope := hm.scope.ext hn.scope (congrArg Site.document hsite)
    exact Node.Sited.ext hwf hm hn.toSited hscope (congrArg Site.pointer hsite)
  cases h.sound.account id s hs (h.not_open id) with
  | read hm _ hslot hread hunnamed => exact .inl ⟨_, hsame hm hslot ▸ hread, hunnamed⟩
  | cut hm _ hslot hunnamed htold =>
    exact .inr ⟨congrArg Schema.shape hunnamed, hsame hm hslot ▸ htold⟩
  | part _ _ _ hpart _ => exact absurd hmet (hpart.not_met _)

/-- A schema that is a reference was read at a node that writes it. -/
theorem Yields.of_reference? {n : Node} {t : Schema} (h : Yields S w n t)
    (hreference : t.reference? = some reference) :
    n.value.member? referenceKey = some (.string reference.text) ∧
      ∃ at_, w.Settles n.scope at_ reference.text reference.state := by
  have hshape := Schema.shape_of_reference? hreference
  have hmem : reference ∈ t.shape.references := by
    rw [hshape]
    exact List.mem_singleton_self _
  obtain ⟨at_, hsettles⟩ := h.settles hmem
  refine ⟨?_, at_, hsettles⟩
  cases h with
  | @truth accepts => cases accepts <;> cases hshape
  | unusable => cases hshape
  | misreferenced => cases hshape
  | reference hobject hvalue _ _ _ hshape' _ =>
    obtain rfl := Shape.reference.inj (hshape'.symm.trans hshape)
    rw [(Node.of_object? hobject).2.2]
    exact hvalue
  | shaped _ _ hshaped => exact absurd hshape (hshaped.ne_reference _)

/-- A node that writes a reference was read as one. -/
theorem Yields.of_member? {n : Node} {t : Schema} (h : Yields S w n t) {text : String}
    (htext : n.value.member? referenceKey = some (.string text)) :
    ∃ state, t.reference? = some ⟨text, state⟩ ∧ ∃ at_, w.Settles n.scope at_ text state := by
  have hmembers : ∀ {r : Record}, n.object? = some r →
      r.members.get? referenceKey = some (.string text) := by
    intro r hr
    rw [(Node.of_object? hr).2.2] at htext
    exact htext
  cases h with
  | truth hvalue =>
    rw [hvalue] at htext
    cases htext
  | unusable hobject =>
    obtain ⟨scope, pointer, value⟩ := n
    cases value <;> first | cases htext | cases hobject
  | misreferenced hobject hvalue hother =>
    exact absurd (Option.some.inj (hvalue.symm.trans (hmembers hobject))) (hother text)
  | @reference r _ state _ hobject hvalue hsettles _ _ hshape =>
    obtain rfl := Json.string.inj (Option.some.inj (hvalue.symm.trans (hmembers hobject)))
    refine ⟨state, ?_, _, (Node.of_object? hobject).1 ▸ hsettles⟩
    rw [Schema.reference?, hshape]
  | shaped hobject hvalue =>
    rw [hmembers hobject] at hvalue
    cases hvalue

/-- A reference with a target leads to a node at which that was met. -/
theorem Settles.exists_locate {c : Scope} {at_ : Pointer} {text : String} {state : ReferenceState}
    (h : w.Settles c at_ text state) {target : SchemaId} (htarget : state.target? = some target) :
    ∃ m, c.locate text = .ok m ∧ w.Met m.site target := by
  cases h with
  | unresolved => cases htarget
  | resolved hlocate hslot => exact ⟨_, hlocate, _, hslot, Option.some.inj htarget⟩
  | cyclic hlocate hslot => exact ⟨_, hlocate, _, hslot, Option.some.inj htarget⟩

/-- A reference that leads to a node has a target, which was met there. -/
theorem Settles.exists_target {c : Scope} {at_ : Pointer} {text : String} {state : ReferenceState}
    (h : w.Settles c at_ text state) {m : Node} (hm : c.locate text = .ok m) :
    ∃ target, state.target? = some target ∧ w.Met m.site target := by
  cases h with
  | unresolved hlocate => cases hm.symm.trans hlocate
  | resolved hlocate hslot =>
    obtain rfl := Except.ok.inj (hm.symm.trans hlocate)
    exact ⟨_, rfl, _, hslot, rfl⟩
  | cyclic hlocate hslot =>
    obtain rfl := Except.ok.inj (hm.symm.trans hlocate)
    exact ⟨_, rfl, _, hslot, rfl⟩

/-- In two workspaces, two schemas were met at one node of the entry document. -/
def Pairs (S : Setting) (w w' : Workspace) (id id' : SchemaId) : Prop :=
  ∃ n : Node, n.AtHome S ∧ w.Met n.site id ∧ w'.Met n.site id'

end Workspace

namespace Setting.Reruns

variable {root : Record} {d d' : Description} {w w' : Workspace} (h : S.Reruns root d d' w w')
include h

/-- What the second run met was met by the first run. -/
theorem exists_pairs {n : Node} (hn : n.AtHome S) {id' : SchemaId} (hmet : w'.Met n.site id') :
    ∃ id, w.Pairs S w' id id' := by
  obtain ⟨slot', hslot', rfl⟩ := hmet
  obtain ⟨slot, hslot⟩ := h.trails.sites _ hslot'
  exact ⟨slot.id, n, hn, ⟨slot, hslot, rfl⟩, ⟨slot', hslot', rfl⟩⟩

/-- If a schema refers to another one in the second run, then the one that it stands for refers to
the one that the other one stands for. -/
theorem next {id id' target' : SchemaId} (hid : w.Pairs S w' id id')
    (hnext : w'.graph.next? id' = some target') :
    ∃ target, w.graph.next? id = some target ∧ w.Pairs S w' target target' := by
  obtain ⟨n, hn, hmet, hmet'⟩ := hid
  have hwf := h.accepted.wellFormed
  have hn' : n.insular.AtHome S.insular := ⟨hn.toSited.insular, hn.home⟩
  -- the second run read a reference there
  obtain ⟨_, hreference', htarget'⟩ := Option.bind_eq_some_iff.mp hnext
  obtain ⟨s', hs', hreference'⟩ := Option.bind_eq_some_iff.mp hreference'
  obtain ⟨t', hread', hunnamed'⟩ :=
    (h.complete'.yields_of_met hwf hn' hmet' hs').resolve_right fun ⟨hany, _⟩ =>
      nomatch hany.symm.trans (Schema.shape_of_reference? hreference')
  obtain ⟨hvalue, _, hsettles'⟩ :=
    hread'.of_reference? ((Schema.reference?_eq_of_unnamed hunnamed').trans hreference')
  obtain ⟨m', hm', hmet₁'⟩ := hsettles'.exists_locate htarget'
  -- so did the first run, and it finds the target of the second run
  obtain ⟨s, hs, -⟩ := h.complete.sound.at_of_met hn.toSited hmet
  obtain ⟨t, hread, hunnamed⟩ :=
    (h.complete.yields_of_met hwf hn hmet hs).resolve_right fun ⟨_, hcut⟩ =>
      Report.hasErrors_eq_false_iff.mp h.accepted.errors _ hcut rfl
  obtain ⟨state, hreference, _, hsettles⟩ := hread.of_member? hvalue
  have hsame := (n.scope.locate_insular _).resolve_left fun hleft => nomatch hleft.symm.trans hm'
  obtain ⟨m, hm, rfl⟩ : ∃ m, n.scope.locate _ = .ok m ∧ m.insular = m' :=
    of_map_eq_ok (hsame.symm.trans hm')
  obtain ⟨target, htarget, hmet₁⟩ := hsettles.exists_target hm
  have hscope : m.insular.scope = n.insular.scope := hn'.scope.eq_of_locate rfl hm'
  have hplace : m.insular.scope.place = n.insular.scope.place := congrArg Scope.place hscope
  refine ⟨target, ?_, m, ⟨hn.scope.locate hm, hplace.trans hn.home⟩, hmet₁, hmet₁'⟩
  rw [SchemaGraph.next?, hs, Option.bind_some, ← Schema.reference?_eq_of_unnamed hunnamed,
    hreference, Option.bind_some, htarget]

/-- A chain of the second run runs along a chain of the first run. -/
theorem chain {id id' : SchemaId} (hid : w.Pairs S w' id id') (k : Nat) {target' : SchemaId}
    (htarget' : w'.graph.chain id' k = some target') :
    ∃ target, w.graph.chain id k = some target ∧ w.Pairs S w' target target' := by
  induction k generalizing target' with
  | zero =>
    obtain rfl := Option.some.inj htarget'
    exact ⟨id, rfl, hid⟩
  | succ k ih =>
    obtain ⟨between', hbetween', hnext'⟩ := Option.bind_eq_some_iff.mp htarget'
    obtain ⟨between, hbetween, hpairs⟩ := ih hbetween'
    obtain ⟨target, hnext, htarget⟩ := h.next hpairs hnext'
    exact ⟨target, Option.bind_eq_some_iff.mpr ⟨between, hbetween, hnext⟩, htarget⟩

/-- A schema of the second run that is a reference was met at a node of the entry document. -/
theorem exists_met_of_reference? {id' : SchemaId} {s' : Schema} {reference' : Reference}
    (hs' : d'.schemas.get? id' = some s') (hreference' : s'.reference? = some reference') :
    ∃ n : Node, n.AtHome S ∧ w'.Met n.site id' := by
  obtain ⟨m', hm', hsuits⟩ := h.home.schemas id' s' hs'
  have hshape := Schema.shape_of_reference? hreference'
  rw [h.schemas'] at hs'
  cases h.complete'.sound.account id' s' hs' (h.complete'.not_open id') with
  | @read n' t' hn' _ hslot hread hunnamed =>
    obtain ⟨n, hn, rfl⟩ := hn'.exists_insular
    have hlabel : n.insular.scope.label = none := by
      rw [← hread.place.1, Schema.document_eq_of_unnamed hunnamed, hsuits.document]
      exact hm'.scope.label_eq_none_iff.mpr hm'.home
    exact ⟨n, ⟨hn, hn'.scope.label_eq_none_iff.mp hlabel⟩, _, hslot, rfl⟩
  | cut _ _ _ hunnamed _ => cases (congrArg Schema.shape hunnamed).symm.trans hshape
  | part _ _ hstructural hpart _ =>
    obtain ⟨-, -, heq⟩ := hpart.of_get? hs'
    exact absurd (heq.symm.trans hshape) (hstructural.plain.2 _)

/-- Where the first run finds no chain of references that goes on forever, there is none in the
second run. -/
theorem follow_ne_closed
    (hcyclic : ∀ id s reference target, d.schemas.get? id = some s →
      s.reference? = some reference → reference.state = .cyclic target →
      d.schemas.follow id ≠ .closed)
    {id' : SchemaId} {s' : Schema} {reference' : Reference} (hs' : d'.schemas.get? id' = some s')
    (hreference' : s'.reference? = some reference') : d'.schemas.follow id' ≠ .closed := by
  obtain ⟨n, hn, hmet'⟩ := h.exists_met_of_reference? hs' hreference'
  obtain ⟨id, hid⟩ := h.exists_pairs hn hmet'
  have hchain := h.chain hid
  obtain ⟨_, -, hmet, -⟩ := hid
  rw [h.schemas] at hcyclic
  rw [h.schemas']
  have hgrounded :=
    h.complete.sound.grounded id (h.complete.sound.lt_size_of_met hmet) (h.complete.not_open id)
  have hends := hgrounded.follow_ne_closed hcyclic
  refine fun hclosed' => hends ?_
  rw [SchemaGraph.follow_eq_closed_iff] at hclosed' ⊢
  intro k
  have hk := hclosed' k
  rw [SchemaGraph.followFor_eq_closed_iff] at hk ⊢
  obtain ⟨target', htarget'⟩ := Option.isSome_iff_exists.mp hk
  obtain ⟨target, htarget, -⟩ := hchain k htarget'
  exact Option.isSome_iff_exists.mpr ⟨target, htarget⟩

end Setting.Reruns

end ApiDescription
