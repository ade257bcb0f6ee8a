import ApiDescription.Proofs.Binding.Description

/-!
# Where references lead

Every reference of a description is a text of its document, and what became of it is decided by
locating the text: `Registry.references_located`.  It does not matter whether the target was read
before the reference, is read because of it, or holds it, since the schema that was met at a node
has the place of the node from the moment when it is begun.
-/

namespace ApiDescription

/-- What became of a reference that is written in a document is what locating its text gives. -/
def SchemaGraph.Locates (g : SchemaGraph) (c : Scope) (reference : Reference) : Prop :=
  match c.locate reference.text with
  | .error _ => reference.state = .unresolved
  | .ok target => ∃ id, (reference.state = .resolved id ∨ reference.state = .cyclic id) ∧
      g.At target.scope.label target.pointer id

/-- A reference is written at a pointer of a document. -/
def Scope.Writes (c : Scope) (p : Pointer) (text : String) : Prop :=
  c.source.root.at? p = some (.string text)

/-- The text that the name in a mapping stands for.  One that has a mark of a reference is one;
any other is the name of a component. -/
def MappedTo (name text : String) : Prop :=
  if '#' ∈ name.toList ∨ '/' ∈ name.toList then text = name
  else text = "#/components/schemas/" ++ Pointer.token name

theorem mappedTo_componentReference (name : String) : MappedTo name (componentReference name) := by
  unfold MappedTo componentReference
  split <;> simp_all

/-- The references of a schema are written in a document, and lead where they are located. -/
structure SchemaGraph.Located (g : SchemaGraph) (c : Scope) (s : Schema) : Prop where
  /-- The reference that it is. -/
  reference : ∀ reference, s.shape = .reference reference →
    c.Writes (s.location.push "$ref") reference.text ∧ g.Locates c reference
  /-- The references that tell its alternatives apart. -/
  mapping : ∀ d, s.shape.discriminator? = some d → ∀ entry ∈ d.mapping, ∃ name,
    c.Writes (((s.location.push "discriminator").push "mapping").push entry.1) name ∧
      MappedTo name entry.2.text ∧ g.Locates c entry.2

namespace Workspace

variable {S : Setting} {w : Workspace} {c : Scope} {n : Node} {s : Schema} {id : SchemaId}

theorem Settles.locates (hw : w.Sound S) (hc : c.Registered S) {at_ : Pointer}
    {reference : Reference} (h : w.Settles c at_ reference.text reference.state) :
    w.graph.Locates c reference := by
  obtain ⟨text, state⟩ := reference
  unfold SchemaGraph.Locates
  cases h with
  | unresolved hlocate _ => rw [hlocate]
  -- whether the target was finished or is open, its slot stands for its place
  | resolved hlocate hslot =>
    rw [hlocate]
    exact ⟨_, .inl rfl, hw.at_of_mem (hc.locate hlocate) hslot⟩
  | cyclic hlocate hslot =>
    rw [hlocate]
    exact ⟨_, .inr rfl, hw.at_of_mem (hc.locate hlocate) hslot⟩

theorem Yields.located (hw : w.Sound S) (hwf : S.registry.WellFormed) (hn : n.Sited S)
    (h : w.Yields S n s) : w.graph.Located n.scope s := by
  obtain ⟨hat, -⟩ := hn.value hwf
  cases h with
  | @truth accepts _ _ => cases accepts <;> exact ⟨nofun, nofun⟩
  | unusable => exact ⟨nofun, nofun⟩
  | misreferenced => exact ⟨nofun, nofun⟩
  | @reference r text state s hobject hvalue hsettles hdocument hlocation hshape _ =>
    obtain ⟨hscope, -, hmembers⟩ := Node.of_object? hobject
    refine ⟨fun reference heq => ?_, fun d hd => ?_⟩
    · obtain rfl := Shape.reference.inj (hshape.symm.trans heq)
      rw [hscope] at hsettles
      refine ⟨?_, hsettles.locates hw hn.scope⟩
      unfold Scope.Writes
      rw [hlocation, Json.at?_push, hat, hmembers]
      exact hvalue
    · simp [hshape, Shape.discriminator?] at hd
  | @shaped r s hobject hvalue hshape hdocument hlocation _ =>
    obtain ⟨hscope, hpointer, -⟩ := Node.of_object? hobject
    refine ⟨fun reference heq => absurd heq (hshape.ne_reference reference), ?_⟩
    intro d hd entry hentry
    obtain ⟨m, name, hm, hmscope, hmpointer, hmvalue, htext, hsettles⟩ :=
      hshape.discriminates hd entry hentry
    rw [hscope] at hmscope hsettles
    refine ⟨name, ?_, htext ▸ mappedTo_componentReference name, hsettles.locates hw hn.scope⟩
    have hmat := (hm.value hwf).1
    rw [hmscope, hmpointer, hmvalue, hpointer, ← hlocation] at hmat
    exact hmat

theorem Account.located (hw : w.Sound S) (hwf : S.registry.WellFormed) (h : w.Account S id s)
    (hs : w.graph.get? id = some s) :
    ∃ c : Scope, c.Registered S ∧ c.label = s.document ∧ w.graph.Located c s := by
  cases h with
  | @read n t hn _ _ hread hunnamed =>
    obtain ⟨hreference, hmapping⟩ := hread.located hw hwf hn
    refine ⟨n.scope, hn.scope, ?_, ?_⟩
    · rw [← Schema.document_eq_of_unnamed hunnamed, hread.place.1]
    · rw [Schema.shape_eq_of_unnamed hunnamed, Schema.location_eq_of_unnamed hunnamed] at *
      exact ⟨hreference, hmapping⟩
  | @cut n hn _ _ hunnamed _ =>
    have hshape : s.shape = .any := congrArg Schema.shape hunnamed
    refine ⟨n.scope, hn.scope, (congrArg Schema.document hunnamed).symm, ?_, ?_⟩
    · simp [hshape]
    · simp [hshape, Shape.discriminator?]
  | @part r names shape hr _ hstructural hpart _ =>
    obtain ⟨hdocument, -, hshape⟩ := hpart.of_get? hs
    refine ⟨r.scope, hr.scope, hdocument.symm, ?_, ?_⟩
    · exact fun reference heq => absurd (hshape.symm.trans heq) (hstructural.plain.2 reference)
    · simp [hshape, hstructural.plain.1]

end Workspace

/-- Every reference of a description is written in the document of its schema.  It is unresolved if
its text cannot be located there; otherwise its target is a schema with the document and the
pointer that are located. -/
theorem Registry.references_located {r : Registry} {entry : String} {options : Options}
    {version : Version} {declared : String} {d : Description} {report : Report}
    (hwf : r.WellFormed) (h : r.bind entry options version declared = .ok (d, report)) :
    ∃ place, r.place? entry = some place ∧ ∀ id s, d.schemas.get? id = some s →
      ∃ c : Scope, c.Registered ⟨r, place, options, version⟩ ∧ c.label = s.document ∧
        d.schemas.Located c s := by
  obtain ⟨w, hrun, -⟩ := Registry.exists_run_of_bind h
  obtain ⟨place, hplace, hw, hgraph⟩ := Registry.complete_of_run hrun
  refine ⟨place, hplace, fun id s hs => ?_⟩
  rw [hgraph] at hs ⊢
  exact (hw.sound.account id s hs (hw.not_open id)).located hw.sound hwf hs

/-- In `partFirst` the property of the second schema refers to that schema. -/
theorem Registry.references_located_partFirst :
    (Registry.single partFirst).WellFormed ∧ ∃ d report,
      (Registry.single partFirst).bind "http://example.invalid/" .standard .v31 "3.1.0" =
        .ok (d, report) ∧
      ∃ place, (Registry.single partFirst).place? "http://example.invalid/" = some place ∧
        ∀ id s, d.schemas.get? id = some s →
          ∃ c : Scope, c.Registered ⟨Registry.single partFirst, place, .standard, .v31⟩ ∧
            c.label = s.document ∧ d.schemas.Located c s := by
  have hwf := wellFormed_single wellFormed_partFirst
  obtain ⟨d, report, h, -⟩ := exists_bind_partFirst
  exact ⟨hwf, d, report, h, references_located hwf h⟩

end ApiDescription
