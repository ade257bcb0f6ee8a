import ApiDescription.Proofs.Binding.Description
import ApiDescription.Proofs.Binding.TracedDescription

/-!
# What a run leaves is at its place

All that a run leaves can be traced to the root of the entry document.  In diagnostics a document
goes by a name; where no two documents share one, the name and the pointer of a node determine the
node, and so does an operation the object it was read from.
-/

namespace ApiDescription

variable {S : Setting}

/-! ## Runs -/

theorem Setting.of_root? {root : Record} (h : S.root? = some root) :
    ∃ source, S.registry.documents[S.entry]? = some source ∧
      root.scope = ⟨S, S.entry, source⟩ ∧ root.pointer = .root ∧
        source.root = .object root.members := by
  obtain ⟨source, hsource, hobject⟩ := Option.bind_eq_some_iff.mp h
  obtain ⟨hscope, hpointer, hvalue⟩ := Node.of_object? hobject
  exact ⟨source, hsource, hscope, hpointer, hvalue⟩

/-- The root of the entry document is at its place. -/
theorem Setting.sited_root {root : Record} (h : S.root? = some root) : root.Sited S := by
  obtain ⟨source, hsource, hscope, hpointer, hvalue⟩ := of_root? h
  obtain ⟨scope, pointer, members⟩ := root
  obtain rfl : scope = ⟨S, S.entry, source⟩ := hscope
  obtain rfl : pointer = .root := hpointer
  refine ⟨⟨⟨rfl, hsource⟩, hvalue ▸ .root⟩, fun hwf => ?_⟩
  have hroot := hwf source (List.mem_of_getElem? hsource)
  rw [hvalue] at hroot
  exact ⟨by simp [Record.node, Json.at?, hvalue], hroot⟩

/-- A run over a document reads its root, beginning with nothing. -/
theorem RegisteredDocument.exists_root_of_run {source : RegisteredDocument} {declared : String}
    {d : Description} {w : Workspace} (hsource : S.registry.documents[S.entry]? = some source)
    (h : source.run S declared = .ok (d, w)) :
    ∃ root, S.root? = some root ∧ (d, w) = root.description declared .fresh := by
  unfold run at h
  cases hroot : source.root with
  | object members =>
    rw [hroot] at h
    refine ⟨⟨⟨S, S.entry, source⟩, .root, members⟩, ?_, (Except.ok.inj h).symm⟩
    rw [Setting.root?, hsource, Option.bind_some, hroot]
    rfl
  | _ => simp [hroot] at h

/-- What a run leaves can be traced to nodes of every kind that the root is of and that passes on;
every schema was met at a node or is part of one that was, and what was met was read. -/
theorem RegisteredDocument.traced_of_run {P : Node → Prop} (hP : Node.Closed P)
    {source : RegisteredDocument} {declared : String} {d : Description} {w : Workspace}
    (hsource : S.registry.documents[S.entry]? = some source)
    (h : source.run S declared = .ok (d, w)) :
    ∃ root, S.root? = some root ∧ (P root.node →
      d.Traced P root ∧ w.Traced P ∧ (∀ id < w.graph.size, w.Homed id) ∧
        ∀ entry ∈ w.slots, w.Remembers P entry.1) := by
  obtain ⟨root, hroot, hrun⟩ := exists_root_of_run hsource h
  obtain ⟨rfl, rfl⟩ := Prod.mk.inj hrun
  refine ⟨root, hroot, fun hr => ?_⟩
  obtain ⟨hleft, hleads, hd⟩ :=
    Record.traces_description hP hr declared .fresh Workspace.traced_fresh
  refine ⟨hd, hleft, fun id hlt => ?_, fun entry hentry => ?_⟩
  · exact (hleads.homed id (Nat.zero_le id) hlt).resolve_right not_false
  · exact (hleads.readings entry hentry).resolve_left List.not_mem_nil

/-- What a run in a registry leaves is at its place in a document of the registry. -/
theorem Registry.traced_of_run {r : Registry} {entry : String} {options : Options}
    {version : Version} {declared : String} {d : Description} {w : Workspace}
    (h : r.run entry options version declared = .ok (d, w)) :
    ∃ (S : Setting) (root : Record), S.registry = r ∧ r.place? entry = some S.entry ∧
      S.options = options ∧ S.version = version ∧ S.root? = some root ∧
        d.Traced (Node.Sited S) root ∧ w.Traced (Node.Sited S) := by
  obtain ⟨place, source, hplace, hsource, hrun⟩ := exists_source_of_run h
  obtain ⟨root, hroot, htraced⟩ :=
    RegisteredDocument.traced_of_run (Node.closed_sited _) hsource hrun
  obtain ⟨hd, hw, -⟩ := htraced (Setting.sited_root hroot)
  exact ⟨_, root, rfl, hplace, rfl, rfl, hroot, hd, hw⟩

/-! ## Names of documents -/

/-- No two documents have one name in diagnostics. -/
def Registry.NamedApart (r : Registry) : Prop := (r.documents.map (shownKey ·.key)).Nodup

/-- Where names are different, the name of a document in diagnostics determines it. -/
theorem Scope.Registered.ext_of_label (hnames : S.registry.NamedApart) {c c' : Scope}
    (h : c.Registered S) (h' : c'.Registered S) (hlabel : c.label = c'.label) : c = c' := by
  refine h.ext h' ?_
  unfold Scope.label at hlabel
  rw [h.setting, h'.setting] at hlabel
  split at hlabel
  · next hentry =>
    split at hlabel
    · next hentry' => rw [hentry, hentry']
    · cases hlabel
  · split at hlabel
    · cases hlabel
    · -- both documents are listed under one name, so at one place
      have hkey := h.source
      have hkey' := h'.source
      have hname : (S.registry.documents.map (shownKey ·.key))[c.place]? =
          (S.registry.documents.map (shownKey ·.key))[c'.place]? := by
        rw [List.getElem?_map, List.getElem?_map, hkey, hkey', Option.map_some, Option.map_some,
          hlabel]
      have hlt : c.place < (S.registry.documents.map (shownKey ·.key)).length := by
        rw [List.length_map]
        exact (List.getElem?_eq_some_iff.mp hkey).1
      exact (List.getElem?_inj hlt hnames).mp hname

/-- A node that is at its place is determined by its document and its pointer. -/
theorem Node.Sited.ext (hwf : S.registry.WellFormed) {n m : Node} (hn : n.Sited S) (hm : m.Sited S)
    (hscope : n.scope = m.scope) (hpointer : n.pointer = m.pointer) : n = m := by
  have hvalue := (hn.value hwf).1
  rw [hscope, hpointer, (hm.value hwf).1] at hvalue
  cases n
  cases m
  simp only [Node.mk.injEq]
  exact ⟨hscope, hpointer, (Option.some.inj hvalue).symm⟩

/-- Two operations with one key were read from one object, if only one document has the name that
they have in their key. -/
theorem Operation.Traced.exists_read_of_label (hwf : S.registry.WellFormed) {o o' : Operation}
    (ho : o.Traced (Node.Sited S)) (ho' : o'.Traced (Node.Sited S)) (hkey : o.key = o'.key)
    (hlabel : ∀ c c' : Scope, c.Registered S → c'.Registered S → c.label = o.document →
      c.label = c'.label → c = c') :
    ∃ r : Record, r.Sited S ∧ o.ReadFrom r ∧ o'.ReadFrom r := by
  obtain ⟨r, hr, hread⟩ := ho.read
  obtain ⟨r', hr', hread'⟩ := ho'.read
  obtain ⟨hdocument, hlocation⟩ := Prod.mk.inj hkey
  have hscope : r.scope = r'.scope :=
    hlabel _ _ hr.scope hr'.scope hread.document.symm
      (hread.document.symm.trans (hdocument.trans hread'.document))
  have hpointer : r.pointer = r'.pointer :=
    hread.location.symm.trans (hlocation.trans hread'.location)
  have hnode : r.node = r'.node := Node.Sited.ext hwf hr hr' hscope hpointer
  have hrecord : r = r' := by
    obtain ⟨hscope, hpointer, hvalue⟩ := Node.mk.inj hnode
    cases r
    cases r'
    simp only [Record.mk.injEq]
    exact ⟨hscope, hpointer, Json.object.inj hvalue⟩
  exact ⟨r, hr, hread, hrecord ▸ hread'⟩

/-- Where names of documents are different, two operations with one key were read from one
object. -/
theorem Operation.Traced.exists_read (hwf : S.registry.WellFormed)
    (hnames : S.registry.NamedApart) {o o' : Operation} (ho : o.Traced (Node.Sited S))
    (ho' : o'.Traced (Node.Sited S)) (hkey : o.key = o'.key) :
    ∃ r : Record, r.Sited S ∧ o.ReadFrom r ∧ o'.ReadFrom r :=
  ho.exists_read_of_label hwf ho' hkey fun _ _ hc hc' _ => hc.ext_of_label hnames hc'

/-- Every operation that stands in a description was read at its place. -/
theorem Description.Traced.of_holds {P : Node → Prop} {root : Record} {d : Description}
    (h : d.Traced P root) {o : Operation} (ho : d.Holds o) : o.Traced P := by
  obtain ⟨item, hitem, hmem⟩ := List.mem_flatMap.mp (Description.mem_operations_iff.mpr ho)
  exact (h.items item hitem).operations o hmem

end ApiDescription
