import ApiDescription.Proofs.Pointer.Printed
import ApiDescription.Proofs.Schema.References

/-!
# Mapped names

A discriminator may give the name of a component where a reference could stand.  The name is made
part of a reference as it is made part of a pointer, and the reference is decoded when it is
followed.  So it leads to the component of the name unless the name holds a `%` with two hexadecimal
digits behind it, and then it never does: `Registry.mapping_of_bare_iff`.
-/

namespace ApiDescription

/-- A reference leads to the schema at a pointer of a document. -/
def SchemaGraph.LeadsTo (g : SchemaGraph) (c : Scope) (p : Pointer) (reference : Reference) : Prop :=
  ∃ id, (reference.state = .resolved id ∨ reference.state = .cyclic id) ∧ g.At c.label p id

/-- A name that is no reference stands for one to the component of this name. -/
theorem MappedTo.eq_display {name text : String} (h : MappedTo name text)
    (hmark : '#' ∉ name.toList) (hslash : '/' ∉ name.toList) :
    text = (Pointer.ofNames ["components", "schemas", name]).display := by
  rw [MappedTo, if_neg (not_or.mpr ⟨hmark, hslash⟩)] at h
  rw [h, ← String.toList_inj]
  simp [Pointer.display, Pointer.toList_text, Pointer.tokens_ofNames, Pointer.token, Pointer.escape]

namespace SchemaGraph

variable {g : SchemaGraph} {c : Scope} {p q : Pointer} {id : SchemaId} {reference : Reference}

/-- A schema was read from one node only. -/
theorem At.pointer_eq {document : Option String} (hp : g.At document p id)
    (hq : g.At document q id) : p = q := by
  obtain ⟨s, hs, -, rfl⟩ := hp
  obtain ⟨s', hs', -, rfl⟩ := hq
  rw [Option.some.inj (hs.symm.trans hs')]

/-- A reference leads to one node only. -/
theorem LeadsTo.pointer_eq (hp : g.LeadsTo c p reference) (hq : g.LeadsTo c q reference) : p = q := by
  obtain ⟨id, hid, hp⟩ := hp
  obtain ⟨id', hid', hq⟩ := hq
  obtain rfl : id = id' := by
    rcases hid with hid | hid <;> rcases hid' with hid' | hid' <;> simp_all
  exact hp.pointer_eq hq

/-- A reference that is located at a pointer leads there, or there is nothing. -/
theorem Locates.leadsTo_or (h : g.Locates c reference)
    (hlocate : c.locate reference.text = c.nodeAt q reference.text) :
    g.LeadsTo c q reference ∨ c.source.root.at? q = none ∧ reference.state = .unresolved := by
  unfold Locates at h
  rw [hlocate, Scope.nodeAt] at h
  cases hat : c.source.root.at? q with
  | none =>
    rw [hat] at h
    exact .inr ⟨rfl, h⟩
  | some value =>
    rw [hat] at h
    exact .inl h

theorem Locates.leadsTo_iff (h : g.Locates c reference)
    (hlocate : c.locate reference.text = c.nodeAt q reference.text) {value : Json}
    (hat : c.source.root.at? p = some value) : g.LeadsTo c p reference ↔ q = p := by
  rcases h.leadsTo_or hlocate with hleads | ⟨hnone, hstate⟩
  · refine ⟨hleads.pointer_eq, ?_⟩
    rintro rfl
    exact hleads
  · constructor
    · rintro ⟨id, hid, -⟩
      simp [hstate] at hid
    · rintro rfl
      exact nomatch hnone.symm.trans hat

end SchemaGraph

/-- A name in a mapping that has no mark of a reference leads to the pointer whose text is what
decoding makes of the text of its component, if anything is there.  So where the document has a
component schema of this name, it leads to that schema just if no `%` with two hexadecimal digits
behind it stands in the name. -/
theorem Registry.mapping_of_bare_iff {r : Registry} {entry : String} {options : Options}
    {version : Version} {declared : String} {d : Description} {report : Report}
    (hwf : r.WellFormed) (h : r.bind entry options version declared = .ok (d, report)) :
    ∃ place, r.place? entry = some place ∧ ∀ id s, d.schemas.get? id = some s →
      ∃ c : Scope, c.Registered ⟨r, place, options, version⟩ ∧ c.label = s.document ∧
        ∀ discriminator, s.shape.discriminator? = some discriminator →
          ∀ mapped ∈ discriminator.mapping, ∃ name,
            c.Writes (((s.location.push "discriminator").push "mapping").push mapped.1) name ∧
            ('#' ∉ name.toList → '/' ∉ name.toList →
              (∃ q, q.text.toList =
                  Percent.decode (Pointer.ofNames ["components", "schemas", name]).text.toList ∧
                (d.schemas.LeadsTo c q mapped.2 ∨
                  c.source.root.at? q = none ∧ mapped.2.state = .unresolved)) ∧
              ∀ value, c.source.root.Leads ["components", "schemas", name] value →
                (d.schemas.LeadsTo c (Pointer.ofNames ["components", "schemas", name]) mapped.2 ↔
                  Percent.escapes name.toList = false)) := by
  obtain ⟨w, hrun, -⟩ := Registry.exists_run_of_bind h
  obtain ⟨place, hplace, hw, hgraph⟩ := Registry.complete_of_run hrun
  refine ⟨place, hplace, fun id s hs => ?_⟩
  rw [hgraph] at hs ⊢
  obtain ⟨c, hc, hlabel, hlocated⟩ :=
    (hw.sound.account id s hs (hw.not_open id)).located hw.sound hwf hs
  refine ⟨c, hc, hlabel, fun discriminator hdiscriminator mapped hmapped => ?_⟩
  obtain ⟨name, hwrites, hname, hlocates⟩ := hlocated.mapping discriminator hdiscriminator mapped hmapped
  refine ⟨name, hwrites, fun hmark hslash => ?_⟩
  have htext := hname.eq_display hmark hslash
  obtain ⟨q, hread, -, hdecoded⟩ :=
    (Pointer.ofNames ["components", "schemas", name]).exists_ofFragment?_text
  have hlocate : c.locate mapped.2.text = c.nodeAt q mapped.2.text := by
    rw [htext, c.locate_display hread]
  refine ⟨⟨q, hdecoded, hlocates.leadsTo_or hlocate⟩, fun value hleads => ?_⟩
  rw [hlocates.leadsTo_iff hlocate (Pointer.at?_ofNames.mpr hleads), Pointer.eq_ofNames_iff hdecoded]
  have hcomponents : Percent.escapes "components".toList = false := by decide
  have hschemas : Percent.escapes "schemas".toList = false := by decide
  rw [List.forall_mem_cons, List.forall_mem_cons, List.forall_mem_singleton, and_iff_right hcomponents,
    and_iff_right hschemas]

/-- A description in which a discriminator gives the names of two components, of which one has an
escape in it. -/
def percentMapping : Json :=
  .object [("openapi", .string "3.1.0"), ("components", .object [("schemas", .object [
    ("a%41", .object []), ("B", .object []),
    ("C", .object [("type", .string "object"), ("discriminator", .object [
      ("propertyName", .string "kind"),
      ("mapping", .object [("x", .string "a%41"), ("y", .string "B")])])])])])]

theorem wellFormed_percentMapping : percentMapping.WellFormed := by
  simp [percentMapping, Json.WellFormed, Json.WellFormedMembers, Entries.names]

/-- In `percentMapping` the name without an escape leads to its component, and the other one does
not. -/
theorem Registry.mapping_of_bare_iff_percentMapping :
    (single percentMapping).WellFormed ∧ ∃ d report s discriminator x y, ∃ c : Scope,
      (single percentMapping).bind "http://example.invalid/" .standard .v31 "3.1.0" =
        .ok (d, report) ∧
      d.schemas.get? 2 = some s ∧ s.shape.discriminator? = some discriminator ∧
      discriminator.mapping = [("x", x), ("y", y)] ∧ c.source.root = percentMapping ∧
      ¬ d.schemas.LeadsTo c (Pointer.ofNames ["components", "schemas", "a%41"]) x ∧
      d.schemas.LeadsTo c (Pointer.ofNames ["components", "schemas", "B"]) y := by
  have hwf := wellFormed_single wellFormed_percentMapping
  have hleft : ((single percentMapping).bind "http://example.invalid/" .standard .v31
      "3.1.0").toOption.bind (fun left => (left.1.schemas.get? 2).bind fun s =>
        s.shape.discriminator?.map fun discriminator => (s.location, discriminator.mapping)) =
      some (.ofNames ["components", "schemas", "C"],
        [("x", ⟨"#/components/schemas/a%41", .unresolved⟩),
          ("y", ⟨"#/components/schemas/B", .resolved 1⟩)]) := by decide +kernel
  obtain ⟨⟨d, report⟩, hbind, hread⟩ := Option.bind_eq_some_iff.mp hleft
  obtain ⟨s, hs, hread⟩ := Option.bind_eq_some_iff.mp hread
  obtain ⟨discriminator, hdiscriminator, hread⟩ := Option.map_eq_some_iff.mp hread
  obtain ⟨hlocation, hmapping⟩ := Prod.mk.inj hread
  replace hbind := of_toOption_eq_some hbind
  obtain ⟨place, -, hall⟩ := mapping_of_bare_iff hwf hbind
  obtain ⟨c, hc, -, hmapped⟩ := hall 2 s hs
  have hroot : c.source.root = percentMapping := by
    obtain heq := List.mem_singleton.mp (List.mem_of_getElem? hc.source)
    rw [heq]
    rfl
  have hwritten (key name : String)
      (h : c.Writes (((s.location.push "discriminator").push "mapping").push key) name) :
      percentMapping.walk? ["components", "schemas", "C", "discriminator", "mapping", key] =
        some (.string name) := by
    rw [Scope.Writes, hroot, hlocation] at h
    simpa only [Json.at?, Pointer.segments_push, Pointer.segments_ofNames, List.cons_append,
      List.nil_append] using h
  obtain ⟨x, hx, hxleads⟩ := hmapped discriminator hdiscriminator ("x", ⟨_, _⟩)
    (hmapping ▸ List.mem_cons_self)
  obtain ⟨y, hy, hyleads⟩ := hmapped discriminator hdiscriminator ("y", ⟨_, _⟩)
    (hmapping ▸ List.mem_cons_of_mem _ List.mem_cons_self)
  obtain rfl : "a%41" = x := by
    simpa [percentMapping, Json.walk?_cons, Json.step?, Entries.get?_cons] using hwritten _ _ hx
  obtain rfl : "B" = y := by
    simpa [percentMapping, Json.walk?_cons, Json.step?, Entries.get?_cons] using hwritten _ _ hy
  have hcomponents : (percentMapping.walk? ["components", "schemas", "a%41"]).isSome = true ∧
      (percentMapping.walk? ["components", "schemas", "B"]).isSome = true := by
    decide +kernel
  obtain ⟨⟨a, ha⟩, b, hb⟩ := hcomponents.imp Option.isSome_iff_exists.mp Option.isSome_iff_exists.mp
  refine ⟨hwf, d, report, s, discriminator, _, _, c, hbind, hs, hdiscriminator, hmapping, hroot,
    ?_, ?_⟩
  · rw [(hxleads (by decide) (by decide)).2 a (hroot ▸ Json.walk?_eq_some_iff.mp ha)]
    decide
  · rw [(hyleads (by decide) (by decide)).2 b (hroot ▸ Json.walk?_eq_some_iff.mp hb)]
    decide

end ApiDescription
