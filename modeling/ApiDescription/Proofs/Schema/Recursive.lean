import ApiDescription.Proofs.Binding.Reached

/-!
# Recursive schemas

A reference that closes a cycle leads to a schema that was still being read when the reference was.
What is read meanwhile is part of that schema, or is referred to by it, or by its parts, and so on;
so one gets from the schema back to the reference: `Registry.reaches_of_bind`.

There is one exception.  The mapping of a discriminator is read before it turns out that the schema
has no place for the discriminator, and then the discriminator is left out, and with it the edges to
the schemas that its mapping led to.  A finding says that it was: `Description.LeavesOut`.
-/

namespace ApiDescription

open Relation (ReflTransGen)

/-- A schema was read at an object `r` that has a discriminator, and its shape has no place for one,
as a finding says.  An entry of the mapping of the discriminator, the text `name` at the node `n`,
leads to the node `m`, and there another schema was read. -/
inductive Description.LeavesOut (S : Setting) (d : Description) (report : Report)
    (id target : SchemaId) : Prop
  | intro {r : Record} {s : Schema} {n m : Node} {key name : String} (hr : r.Sited S)
      (hs : d.schemas.get? id = some s) (hdocument : s.document = r.scope.label)
      (hlocation : s.location = r.pointer)
      (hmisplaced : (∃ a, s.shape = .array a) ∨ ∃ c, s.shape = .scalar c)
      (hfound : Finding.discriminatorMisplaced.diagnostic r.scope.label
        (r.pointer.push "discriminator") ∈ report.diagnostics)
      (hn : n.Sited S) (hscope : n.scope = r.scope)
      (hpointer : n.pointer = ((r.pointer.push "discriminator").push "mapping").push key)
      (hvalue : n.value = .string name)
      (hlocate : r.scope.locate (componentReference name) = .ok m)
      (htarget : d.schemas.At m.scope.label m.pointer target) : LeavesOut S d report id target

variable {S : Setting} {d : Description} {w : Workspace} {id target : SchemaId}

/-- A discriminator that was dropped when a schema was read is left out of the description. -/
theorem Workspace.Drops.leavesOut {r : Record} {s : Schema} (h : w.Drops S r s.shape target)
    (hw : w.Sound S) (hd : d.schemas = w.graph) (hr : r.Sited S)
    (hslot : (r.node.site, .bound id) ∈ w.slots) (hs : w.graph.get? id = some s) :
    d.LeavesOut S w.report id target := by
  obtain ⟨s', hs', hdocument, hlocation⟩ := hw.at_of_mem hr hslot
  obtain rfl := Option.some.inj (hs.symm.trans hs')
  obtain ⟨entry, ⟨n, name, hn, hscope, hpointer, hvalue, htext, hsettles⟩, hstate⟩ := h.mapped
  rw [hstate, htext] at hsettles
  cases hsettles with
  | @resolved m _ hlocate hmet =>
    have hm : m.Sited S := Scope.Registered.locate hr.scope hlocate
    exact .intro hr (hd ▸ hs) hdocument hlocation h.misplaced h.told hn hscope hpointer hvalue
      hlocate (hd ▸ hw.at_of_mem hm hmet)

theorem Workspace.Calls.edge (h : w.Calls S id target) (hw : w.Sound S)
    (hd : d.schemas = w.graph) :
    d.schemas.Holds id target ∨ d.schemas.Refers id target ∨
      d.LeavesOut S w.report id target := by
  cases h with
  | child _ h => exact .inl (hd ▸ h)
  | target _ h => exact .inr (.inl (hd ▸ h))
  | dropped hr hslot hs h => exact .inr (.inr (h.leavesOut hw hd hr hslot hs))

/-- Whatever is bound: the schema that holds a reference, or an entry of a mapping, that closes a
cycle is reached from the schema that the reference leads to, by going to children, to the targets
of references that close no cycle, and to what discriminators that are left out led to.  Where no
finding is about a discriminator, it is reached without the latter. -/
theorem Registry.reaches_of_bind {r : Registry} {entry : String} {options : Options}
    {version : Version} {declared : String} {d : Description} {report : Report}
    (h : r.bind entry options version declared = .ok (d, report)) :
    ∃ place, r.place? entry = some place ∧ ∀ id s reference target,
      d.schemas.get? id = some s → reference ∈ s.shape.references →
      reference.state = .cyclic target →
        ReflTransGen (fun u v => d.schemas.Holds u v ∨ d.schemas.Refers u v ∨
          d.LeavesOut ⟨r, place, options, version⟩ report u v) target id ∧
        ((∀ D ∈ report.diagnostics, D.category ≠ .invalidDiscriminator) →
          ReflTransGen (fun u v => d.schemas.Holds u v ∨ d.schemas.Refers u v) target id) := by
  obtain ⟨w, hrun, rfl⟩ := exists_run_of_bind h
  obtain ⟨place, source, hplace, hsource, hrun⟩ := exists_source_of_run hrun
  obtain ⟨hw, hgraph, -⟩ := RegisteredDocument.complete_of_run hsource hrun
  refine ⟨place, hplace, fun id s reference target hs hreference hstate => ?_⟩
  have hreaches := RegisteredDocument.reaches_of_cyclic hsource hrun (hgraph ▸ hs) hreference hstate
  have hedge : ∀ u v, w.Calls ⟨r, place, options, version⟩ u v → _ := fun _ _ hcalls =>
    hcalls.edge hw.sound hgraph
  refine ⟨ReflTransGen.mono hedge _ _ hreaches, fun hnone => ?_⟩
  refine ReflTransGen.mono (fun u v hcalls => ?_) _ _ hreaches
  rcases hcalls.edge hw.sound hgraph with hholds | hrefers | hleft
  · exact .inl hholds
  · exact .inr hrefers
  · cases hleft with
    | intro _ _ _ _ _ hfound => exact absurd rfl (hnone _ hfound)

/-! ## A discriminator that is left out -/

/-- A description in which a text has a discriminator, whose mapping leads to a reference back to
the text. -/
def toldApart : Json :=
  .object [("openapi", .string "3.1.0"), ("components", .object [("schemas", .object [
    ("A", .object [("type", .string "string"), ("discriminator", .object [
      ("propertyName", .string "kind"), ("mapping", .object [("b", .string "B")])])]),
    ("B", .referenceTo "#/components/schemas/A")])])]

/-- In `toldApart` the reference is said to close a cycle.  No edge leads from the text to it; what
leads there is the discriminator that is left out. -/
theorem Registry.reaches_toldApart :
    ∃ d report, (single toldApart).bind "http://example.invalid/" .standard .v31 "3.1.0" =
        .ok (d, report) ∧
      (∃ s reference, d.schemas.get? 1 = some s ∧ reference ∈ s.shape.references ∧
        reference.state = .cyclic 0) ∧
      ¬ ReflTransGen (fun u v => d.schemas.Holds u v ∨ d.schemas.Refers u v) 0 1 ∧
      ∃ place, (single toldApart).place? "http://example.invalid/" = some place ∧
        ReflTransGen (fun u v => d.schemas.Holds u v ∨ d.schemas.Refers u v ∨
          d.LeavesOut ⟨single toldApart, place, .standard, .v31⟩ report u v) 0 1 := by
  have hleft : ((single toldApart).bind "http://example.invalid/" .standard .v31
      "3.1.0").toOption.map (fun left =>
        ((left.1.schemas.get? 0).map fun s => (s.shape.children, s.shape.references),
          (left.1.schemas.get? 1).map (·.shape.references))) =
      some (some ([], []), some [⟨"#/components/schemas/A", .cyclic 0⟩]) := by decide +kernel
  cases hbind : (single toldApart).bind "http://example.invalid/" .standard .v31 "3.1.0" with
  | error fault => simp [hbind, Except.toOption] at hleft
  | ok left =>
    rw [hbind] at hleft
    obtain ⟨hfirst, hsecond⟩ := Prod.mk.inj (Option.some.inj hleft)
    obtain ⟨text, htext, hempty⟩ := Option.map_eq_some_iff.mp hfirst
    obtain ⟨s, hs, hreferences⟩ := Option.map_eq_some_iff.mp hsecond
    obtain ⟨hchildren, hrefers⟩ := Prod.mk.inj hempty
    have hmem : ⟨"#/components/schemas/A", .cyclic 0⟩ ∈ s.shape.references := by
      rw [hreferences]
      exact List.mem_singleton_self _
    obtain ⟨place, hplace, hreaches⟩ := reaches_of_bind hbind
    refine ⟨left.1, left.2, rfl, ⟨s, _, hs, hmem, rfl⟩, fun hpath => ?_, place, hplace,
      (hreaches 1 s _ 0 hs hmem rfl).1⟩
    -- the text holds nothing and refers to nothing
    rcases ReflTransGen.cases_head hpath with heq | ⟨v, hedge, -⟩
    · cases heq
    · rcases hedge with ⟨t, ht, hchild⟩ | ⟨t, ht, reference, hreference, -⟩
      · obtain rfl := Option.some.inj (htext.symm.trans ht)
        simp [hchildren] at hchild
      · obtain rfl := Option.some.inj (htext.symm.trans ht)
        simp [hrefers] at hreference

end ApiDescription
