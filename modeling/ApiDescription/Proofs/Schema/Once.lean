import ApiDescription.Proofs.Binding.Places

/-!
# Schemas are read once

At a node one schema is read, and every reference to the node finds it.  The node is remembered by
the text of its pointer, though, and a pointer that a reference writes may have a tilde that stands
for itself, where the one that leads down to the node has an escape.  So two schemas are at one node
if and only if they have two spellings of its pointer, which needs such a tilde somewhere in a
reference: `Registry.readOnce_of_bind`.

Left out are the parts of a schema that have no node of their own: those for its types, and what is
said besides a composition.
-/

namespace ApiDescription

/-! ## Spellings of pointers -/

/-- Every tilde in a pointer is part of an escape. -/
def Pointer.Canonical (p : Pointer) : Prop := ∀ token ∈ p.tokens, Pointer.token (name token) = token

namespace Pointer

theorem canonical_root : root.Canonical := by
  simp [Canonical, root]

theorem Canonical.push {p : Pointer} (h : p.Canonical) (key : String) : (p.push key).Canonical := by
  intro written hwritten
  rcases List.mem_append.mp hwritten with hold | hnew
  · exact h written hold
  · rw [List.mem_singleton.mp hnew, name_token]

theorem Canonical.item {p : Pointer} (h : p.Canonical) (i : Nat) : (p.item i).Canonical := h.push _

/-- Pointers in which every tilde is part of an escape are spelled as they are read. -/
theorem Canonical.ext {p q : Pointer} (hp : p.Canonical) (hq : q.Canonical)
    (h : p.segments = q.segments) : p = q := by
  have htokens : ∀ {p : Pointer}, p.Canonical → p.tokens = p.segments.map token := by
    intro p hp
    rw [segments, List.map_map]
    exact (List.map_id _).symm.trans (List.map_congr_left fun t ht => (hp t ht).symm)
  have heq : p.tokens = q.tokens := by rw [htokens hp, htokens hq, h]
  cases p
  cases q
  simpa using heq

end Pointer

/-- The pointer that a reference writes, if it writes one, is spelled with all escapes. -/
def TidyReference (text : String) : Prop :=
  ∀ fragment ∈ (UriReference.parse text).fragment, ∀ p ∈ Pointer.ofFragment? fragment, p.Canonical

/-- The references in a document are spelled with all escapes, also those that the names of
components stand for, and its anchors are those that are written in it. -/
structure RegisteredDocument.Tidy (d : RegisteredDocument) : Prop where
  references : ∀ text, d.root.Within (.string text) →
    TidyReference text ∧ TidyReference (componentReference text)
  anchors : d.anchors = d.root.anchors .root

mutual

theorem Json.canonical_of_mem_anchors {p : Pointer} (hp : p.Canonical) (value : Json)
    {entry : String × Pointer} (h : entry ∈ value.anchors p) : entry.2.Canonical := by
  match value with
  | .object members =>
    rw [anchors] at h
    rcases List.mem_append.mp h with hnamed | hbelow
    · obtain ⟨name, -, rfl⟩ := List.mem_map.mp hnamed
      exact hp
    · exact canonical_of_mem_anchorsOfMembers hp members hbelow
  | .array items =>
    rw [anchors] at h
    exact canonical_of_mem_anchorsOfItems hp 0 items h
  | .null | .bool _ | .number _ | .string _ => simp [anchors] at h

theorem Json.canonical_of_mem_anchorsOfMembers {p : Pointer} (hp : p.Canonical)
    (members : List (String × Json)) {entry : String × Pointer}
    (h : entry ∈ anchorsOfMembers p members) : entry.2.Canonical := by
  match members with
  | [] => simp [anchorsOfMembers] at h
  | (key, value) :: rest =>
    rw [anchorsOfMembers] at h
    rcases List.mem_append.mp h with hfirst | hrest
    · split at hfirst
      · simp at hfirst
      · exact canonical_of_mem_anchors (hp.push key) value hfirst
    · exact canonical_of_mem_anchorsOfMembers hp rest hrest

theorem Json.canonical_of_mem_anchorsOfItems {p : Pointer} (hp : p.Canonical) (place : Nat)
    (items : List Json) {entry : String × Pointer} (h : entry ∈ anchorsOfItems p place items) :
    entry.2.Canonical := by
  match items with
  | [] => simp [anchorsOfItems] at h
  | item :: rest =>
    rw [anchorsOfItems] at h
    rcases List.mem_append.mp h with hfirst | hrest
    · exact canonical_of_mem_anchors (hp.item place) item hfirst
    · exact canonical_of_mem_anchorsOfItems hp (place + 1) rest hrest

end

/-- A tidy reference that leads into a document with the anchors that are written there leads to a
pointer with all escapes. -/
theorem Scope.canonical_of_locate {c : Scope} {text : String} {n : Node} (htext : TidyReference text)
    (h : c.locate text = .ok n)
    (hanchors : n.scope.source.anchors = n.scope.source.root.anchors .root) :
    n.pointer.Canonical := by
  have hnode : ∀ {c' : Scope}, c'.nodeOf (UriReference.parse text).fragment text = .ok n →
      n.pointer.Canonical := by
    intro c' hn
    have hat : ∀ {p : Pointer}, p.Canonical → c'.nodeAt p text = .ok n → n.pointer.Canonical := by
      intro p hp hn
      unfold nodeAt at hn
      split at hn
      · exact Except.ok.inj hn ▸ hp
      · cases hn
    obtain rfl : n.scope = c' := (of_nodeOf_eq_ok hn).1
    -- the pointer is the root, or the fragment writes it, or an anchor stands for it
    unfold nodeOf at hn
    split at hn
    · exact hat Pointer.canonical_root hn
    · next fragment hfragment =>
      obtain ⟨p, hpointer, hn⟩ := of_bind_eq_ok hn
      refine hat ?_ hn
      unfold pointerOf at hpointer
      split at hpointer
      · next written hwritten =>
        exact Except.ok.inj hpointer ▸ htext fragment hfragment written hwritten
      · dsimp only at hpointer
        split at hpointer
        · next anchor hanchor =>
          have hmem := Entries.mem_of_get? hanchor
          rw [hanchors] at hmem
          exact Except.ok.inj hpointer ▸
            Json.canonical_of_mem_anchors Pointer.canonical_root _ hmem
        · cases hpointer
  rw [locate_eq] at h
  dsimp only at h
  split at h
  · exact hnode h
  · obtain ⟨c', -, hn⟩ := of_bind_eq_ok h
    exact hnode hn

/-- Where all documents are tidy, nodes are reached under pointers with all escapes. -/
theorem Node.closed_canonical {S : Setting} (h : ∀ d ∈ S.registry.documents, d.Tidy) :
    Node.Closed fun n => n.Sited S ∧ n.pointer.Canonical where
  member hr hmem := ⟨Record.Sited.inherited hr.1 hmem, hr.2.push _⟩
  item hn hmem := by
    obtain ⟨-, i, -, -, -, hpointer⟩ := Node.of_mem_itemNodes hmem
    exact ⟨hn.1.item hmem, hpointer ▸ hn.2.item i⟩
  target := by
    intro n m text hn hvalue hm
    have hsited : m.Sited S := hm.elim hn.1.scope.locate hn.1.scope.locate
    refine ⟨hsited, ?_⟩
    have hwithin := hn.1.inside
    rw [hvalue] at hwithin
    have htext := (h _ (List.mem_of_getElem? hn.1.scope.source)).references text hwithin
    have hanchors := (h _ (List.mem_of_getElem? hsited.scope.source)).anchors
    rcases hm with hm | hm
    · exact Scope.canonical_of_locate htext.1 hm hanchors
    · exact Scope.canonical_of_locate htext.2 hm hanchors

/-! ## Parts and nodes -/

theorem Shape.children_of_parts {shape : Shape} {id : SchemaId} (h : id ∈ shape.parts) :
    id ∈ shape.children := by
  cases shape with
  | composed c =>
    simp only [parts, List.mem_append] at h
    simp only [children, ComposedShape.children, List.mem_append]
    tauto
  | _ => simp [parts] at h

namespace Workspace

variable {S : Setting} {w : Workspace} {id : SchemaId} {s : Schema}

theorem Part.not_met {r : Record} {shape : Shape} (h : w.Part r id shape) (site : Site) :
    ¬ w.Met site id := by
  rintro ⟨slot, hslot, rfl⟩
  cases slot with
  | opened id => exact h.not_begun ⟨site, hslot⟩
  | bound id => exact h.not_finished ⟨site, hslot⟩

/-- What is held for an object and was met has a place below that of the object. -/
theorem Sound.not_at_of_held (hw : w.Sound S) {r : Record} (hheld : w.Held r id) {site : Site}
    (hmet : w.Met site id) (document : Option String) : ¬ w.graph.At document r.pointer id := by
  rintro ⟨t, ht, -, hlocation⟩
  rcases hheld with ⟨m, hbelow, slot, hslot, rfl⟩ | ⟨shape, hpart⟩
  · obtain ⟨m', -, hsite, t', ht', -, hlocation'⟩ := hw.stands _ hslot
    obtain rfl := Option.some.inj (ht.symm.trans ht')
    have hpointer : m'.pointer = m.pointer := congrArg Site.pointer hsite
    have hlt := hbelow.2
    rw [← hpointer, ← hlocation', hlocation] at hlt
    exact Nat.lt_irrefl _ hlt
  · exact hpart.not_met site hmet

/-- What was met at a node is no part. -/
theorem Complete.not_isPart (hw : w.Complete S) {site : Site} (hmet : w.Met site id) :
    ¬ w.graph.IsPart id := by
  rintro ⟨holder, s, hs, hpart, hat⟩
  have hchild := Shape.children_of_parts hpart
  cases hw.sound.account holder s hs (hw.not_open holder) with
  | read hn hbegun hslot hread hunnamed =>
    rw [← Schema.shape_eq_of_unnamed hunnamed] at hchild
    obtain ⟨r, hr, hheld⟩ := hread.held hchild
    rw [← Schema.location_eq_of_unnamed hunnamed, hread.place.2, ← (Node.of_object? hr).2.1] at hat
    exact hw.sound.not_at_of_held hheld hmet _ hat
  | cut hn hbegun hslot hunnamed htold =>
    have hshape : s.shape = .any := congrArg Schema.shape hunnamed
    rw [hshape] at hpart
    cases hpart
  | part hr _ hshape hholder hbefore =>
    obtain ⟨-, hlocation, heq⟩ := hholder.of_get? hs
    rw [hlocation] at hat
    exact hw.sound.not_at_of_held (hshape.held (heq ▸ hchild)) hmet _ hat

/-- The target of a reference was met at a node. -/
theorem Complete.exists_met (hw : w.Complete S) (hs : w.graph.get? id = some s)
    {reference : Reference} (hreference : reference ∈ s.shape.references) {target : SchemaId}
    (htarget : reference.state.target? = some target) : ∃ site, w.Met site target := by
  cases hw.sound.account id s hs (hw.not_open id) with
  | read hn hbegun hslot hread hunnamed =>
    rw [← Schema.shape_eq_of_unnamed hunnamed] at hreference
    obtain ⟨at_, hsettles⟩ := hread.settles hreference
    cases hstate : reference.state with
    | unresolved | resolving => simp [hstate, ReferenceState.target?] at htarget
    | resolved found =>
      rw [hstate] at htarget hsettles
      obtain rfl := Option.some.inj htarget
      cases hsettles with
      | resolved hlocate hslot => exact ⟨_, _, hslot, rfl⟩
    | cyclic found =>
      rw [hstate] at htarget hsettles
      obtain rfl := Option.some.inj htarget
      cases hsettles with
      | cyclic hlocate hslot => exact ⟨_, _, hslot, rfl⟩
  | cut hn hbegun hslot hunnamed htold =>
    have hshape : s.shape = .any := congrArg Schema.shape hunnamed
    rw [hshape] at hreference
    cases hreference
  | part hr _ hshape hholder hbefore =>
    obtain ⟨-, -, heq⟩ := hholder.of_get? hs
    rw [heq, hshape.references_eq_nil] at hreference
    cases hreference

end Workspace

/-! ## Runs -/

/-- What a workspace says of the nodes at which schemas were met: a schema is met at a node of its own
document and location unless it is a part, and two schemas that were met at one node of a document
are one schema if and only if the pointers under which they were met are spelled alike. -/
structure Workspace.ReadOnce (w : Workspace) (S : Setting) : Prop where
  met_iff : ∀ id < w.graph.size,
    (∃ n : Node, n.Sited S ∧ w.Met n.site id) ↔ ¬ w.graph.IsPart id
  located : ∀ n : Node, n.Sited S → ∀ id, w.Met n.site id → w.graph.At n.scope.label n.pointer id
  unique : ∀ n m : Node, n.Sited S → m.Sited S → ∀ i j, w.Met n.site i → w.Met m.site j →
    n.scope = m.scope → n.pointer.segments = m.pointer.segments → (i = j ↔ n.pointer = m.pointer)
  targets : ∀ id s, w.graph.get? id = some s → ∀ reference ∈ s.shape.references, ∀ target,
    reference.state.target? = some target → ∃ n : Node, n.Sited S ∧ w.Met n.site target

/-- A run meets every schema at its node, and one schema under every spelling of the pointer to it. -/
theorem RegisteredDocument.readOnce_of_run {S : Setting} {source : RegisteredDocument}
    {declared : String} {d : Description} {w : Workspace}
    (hsource : S.registry.documents[S.entry]? = some source)
    (h : source.run S declared = .ok (d, w)) : w.ReadOnce S := by
  obtain ⟨hcomplete, -, -⟩ := complete_of_run hsource h
  obtain ⟨root, hroot, htraced⟩ := traced_of_run (Node.closed_sited S) hsource h
  obtain ⟨-, hw, hhomed, -⟩ := htraced (Setting.sited_root hroot)
  -- a slot knows a node of its site, and of one site there is one document and one pointer
  have hlocated : ∀ n : Node, n.Sited S → ∀ id, w.Met n.site id →
      w.graph.At n.scope.label n.pointer id := by
    rintro n hn _ ⟨slot, hslot, rfl⟩
    obtain ⟨m, hm, hsite, s, hs, hdocument, hlocation⟩ := hcomplete.sound.stands _ hslot
    have hplace : m.scope.place = n.scope.place := congrArg Site.document hsite
    have hpointer : m.pointer = n.pointer := congrArg Site.pointer hsite
    rw [hm.scope.ext hn.scope hplace] at hdocument
    exact ⟨s, hs, hdocument, hlocation.trans hpointer⟩
  have hsited : ∀ {site : Site} {id : SchemaId}, w.Met site id →
      ∃ n : Node, n.Sited S ∧ w.Met n.site id := by
    rintro site id ⟨slot, hslot, hid⟩
    obtain ⟨n, hn, rfl, -⟩ := hcomplete.sound.stands _ hslot
    exact ⟨n, hn, slot, hslot, hid⟩
  refine ⟨fun id hlt => ⟨fun ⟨n, _, hn⟩ => hcomplete.not_isPart hn, fun hpart => ?_⟩, hlocated,
    fun n m hn hm i j hi hj hscope _ => ⟨?_, fun hpointer => ?_⟩,
    fun id s hs reference hreference target htarget => ?_⟩
  · obtain ⟨site, hsite⟩ := (hhomed id hlt).resolve_right hpart
    exact hsited hsite
  · rintro rfl
    obtain ⟨s, hs, -, hlocation⟩ := hlocated n hn i hi
    obtain ⟨t, ht, -, hlocation'⟩ := hlocated m hm i hj
    rw [← hlocation, ← hlocation', Option.some.inj (hs.symm.trans ht)]
  · have hsite : n.site = m.site := by rw [Node.site, Node.site, hscope, hpointer]
    obtain ⟨slot, hslot, rfl⟩ := hi
    obtain ⟨slot', hslot', rfl⟩ := hj
    exact hw.sites _ hslot _ hslot' hsite
  · obtain ⟨site, hsite⟩ := hcomplete.exists_met hs hreference htarget
    exact hsited hsite

/-- Where all documents are tidy, a run meets schemas only under pointers with all escapes. -/
theorem RegisteredDocument.canonical_of_run {S : Setting} {source : RegisteredDocument}
    {declared : String} {d : Description} {w : Workspace}
    (hsource : S.registry.documents[S.entry]? = some source)
    (h : source.run S declared = .ok (d, w)) (htidy : ∀ d ∈ S.registry.documents, d.Tidy)
    {id : SchemaId} {s : Schema} (hs : w.graph.get? id = some s) : s.location.Canonical := by
  obtain ⟨root, hroot, htraced⟩ := traced_of_run (Node.closed_canonical htidy) hsource h
  obtain ⟨-, -, -, htop, -⟩ := Setting.of_root? hroot
  obtain ⟨-, hw, -⟩ := htraced ⟨Setting.sited_root hroot, by
    change root.pointer.Canonical
    rw [htop]
    exact Pointer.canonical_root⟩
  obtain ⟨n, ⟨-, hn⟩, hsuits⟩ := hw.schemas id s hs
  exact hsuits.location ▸ hn

/-- Every schema of a description is read once for every spelling of the pointer to its node.  So it
is read once where all documents are tidy. -/
theorem Registry.readOnce_of_bind {r : Registry} {entry : String} {options : Options}
    {version : Version} {declared : String} {d : Description} {report : Report}
    (h : r.bind entry options version declared = .ok (d, report)) :
    ∃ place w, r.place? entry = some place ∧ r.run entry options version declared = .ok (d, w) ∧
      d.schemas = w.graph ∧ w.ReadOnce ⟨r, place, options, version⟩ ∧
        ((∀ document ∈ r.documents, document.Tidy) → ∀ n m : Node,
          n.Sited ⟨r, place, options, version⟩ → m.Sited ⟨r, place, options, version⟩ → ∀ i j,
            w.Met n.site i → w.Met m.site j → n.scope = m.scope →
              n.pointer.segments = m.pointer.segments → i = j) := by
  obtain ⟨w, hrun, -⟩ := exists_run_of_bind h
  obtain ⟨place, source, hplace, hsource, hread⟩ := exists_source_of_run hrun
  obtain ⟨-, hgraph, -⟩ := RegisteredDocument.complete_of_run hsource hread
  have honce := RegisteredDocument.readOnce_of_run hsource hread
  refine ⟨place, w, hplace, hrun, hgraph, honce, fun htidy n m hn hm i j hi hj hscope hsame => ?_⟩
  have hcanonical : ∀ {n : Node} {id : SchemaId}, n.Sited ⟨r, place, options, version⟩ →
      w.Met n.site id → n.pointer.Canonical := by
    intro n id hn hmet
    obtain ⟨s, hs, -, hlocation⟩ := honce.located n hn id hmet
    exact hlocation ▸ RegisteredDocument.canonical_of_run hsource hread htidy hs
  exact (honce.unique n m hn hm i j hi hj hscope hsame).mpr
    ((hcanonical hn hi).ext (hcanonical hm hj) hsame)

/-- A description with a reference in which a tilde stands for itself. -/
def looseTilde : Json :=
  .object [("openapi", .string "3.1.0"), ("components", .object [("schemas", .object [
    ("a~b", .object []), ("R", .referenceTo "#/components/schemas/a~b")])])]

/-- In `looseTilde` the schema that is referred to is met under two spellings, and is read twice. -/
theorem Registry.readOnce_looseTilde :
    ∃ d report, (single looseTilde).bind "http://example.invalid/" .standard .v31 "3.1.0" =
        .ok (d, report) ∧
      ∃ place w, (single looseTilde).run "http://example.invalid/" .standard .v31 "3.1.0" =
          .ok (d, w) ∧
        d.schemas = w.graph ∧ w.ReadOnce ⟨single looseTilde, place, .standard, .v31⟩ ∧
          ∃ site site' : Site, site.document = site'.document ∧
            site.pointer.segments = site'.pointer.segments ∧ w.Met site 0 ∧ w.Met site' 2 := by
  have hleft : ((single looseTilde).run "http://example.invalid/" .standard .v31
      "3.1.0").toOption.map (fun left => left.2.slots.any fun e => left.2.slots.any fun e' =>
        e.1.document = e'.1.document ∧ e.1.pointer.segments = e'.1.pointer.segments ∧
          e.2.id = 0 ∧ e'.2.id = 2) = some true := by decide +kernel
  cases hrun : (single looseTilde).run "http://example.invalid/" .standard .v31 "3.1.0" with
  | error fault => simp [hrun, Except.toOption] at hleft
  | ok left =>
    have hbind : (single looseTilde).bind "http://example.invalid/" .standard .v31 "3.1.0" =
        .ok (left.1, left.2.report) := by
      rw [bind_eq_map_run, hrun]
      rfl
    obtain ⟨place, w, -, hrun', hgraph, honce, -⟩ := readOnce_of_bind hbind
    obtain rfl := (Prod.mk.inj (Except.ok.inj (hrun.symm.trans hrun'))).2
    rw [hrun] at hleft
    obtain ⟨e, he, hpair⟩ := List.any_eq_true.mp (Option.some.inj hleft)
    obtain ⟨e', he', hsame⟩ := List.any_eq_true.mp hpair
    obtain ⟨hdocument, hsegments, hfirst, hsecond⟩ := of_decide_eq_true hsame
    exact ⟨left.1, left.2.report, hbind, place, left.2, rfl, hgraph, honce, e.1, e'.1, hdocument,
      hsegments, ⟨e.2, he, hfirst⟩, ⟨e'.2, he', hsecond⟩⟩

end ApiDescription
