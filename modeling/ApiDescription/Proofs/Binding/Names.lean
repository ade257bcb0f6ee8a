import ApiDescription.Proofs.Binding.Inner
import ApiDescription.Proofs.Binding.Outside
import ApiDescription.Proofs.Checks
import ApiDescription.Proofs.Pointer.Lookup
import ApiDescription.Proofs.Schema.Depth

/-!
# Names of schemas

A schema has a name if it is that of a component.  Names are given while the schemas of components
are read, to schemas that are finished, and a schema that has a name keeps it.  Some of those schemas
were read before their turn came, since a reference led to them; and a schema is written anew when
its parts have been read.

No name is lost by this.  Reading schemas gives no names and takes none away, wherever they stand
(`Node.nameOf?_schema`), so what is read after the components leaves all names as they are.  And at
the place of a component one schema was met, which is not at the place of another one; so the name
that it is given is its first.  `Registry.names_of_bind` says that the names of components and the
schemas with names stand for one another.
-/

namespace ApiDescription

open Binding

variable {S : Setting} {w w' : Workspace} {n : Node} {r : Record} {read : SchemaReader}

namespace SchemaGraph

variable {g : SchemaGraph} {id : SchemaId} {name : String}

/-- The name of the schema of a number. -/
def nameOf? (g : SchemaGraph) (id : SchemaId) : Option String :=
  (g.get? id).bind Schema.name

theorem nameOf?_eq_some_iff :
    g.nameOf? id = some name ↔ ∃ s, g.get? id = some s ∧ s.name = some name :=
  Option.bind_eq_some_iff

theorem nameOf?_eq_none_of_size_le (h : g.size ≤ id) : g.nameOf? id = none := by
  have hget : g.get? id = none :=
    Option.eq_none_iff_forall_ne_some.mpr fun s hs =>
      Nat.not_lt.mpr h (lt_size_iff.mpr ⟨s, hs⟩)
  rw [nameOf?, hget, Option.bind_none]

/-- A schema without a name adds no name. -/
theorem nameOf?_push {s : Schema} (hs : s.name = none) (id : SchemaId) :
    (g.push s).nameOf? id = g.nameOf? id := by
  by_cases h : id = g.size
  · rw [nameOf?_eq_none_of_size_le (Nat.le_of_eq h.symm), nameOf?, get?_push, if_pos h]
    exact hs
  · rw [nameOf?, get?_push, if_neg h]
    rfl

/-- A schema that had no name is written anew, without a name. -/
theorem nameOf?_modify {s : Schema} (hs : s.name = none) (hid : g.nameOf? id = none)
    (other : SchemaId) : (g.modify id fun _ => s).nameOf? other = g.nameOf? other := by
  by_cases h : id = other
  · subst h
    rw [hid, nameOf?, get?_modify, if_pos rfl]
    cases g.get? id with
    | none => rfl
    | some t => exact hs
  · rw [nameOf?, get?_modify, if_neg h]
    rfl

/-- A schema is given a name, unless it has one. -/
theorem nameOf?_named (hid : id < g.size) (name : String) (other : SchemaId) :
    (g.modify id (Schema.named name)).nameOf? other =
      if id = other then (g.nameOf? id).or (some name) else g.nameOf? other := by
  unfold nameOf?
  rw [get?_modify]
  split
  · next h =>
    subst h
    obtain ⟨s, hs⟩ := lt_size_iff.mp hid
    rw [hs]
    cases hname : s.name <;> simp [Schema.named, hname]
  · rfl

/-- The schema of a name is found if no other one has it. -/
theorem named?_eq_some (h : g.nameOf? id = some name)
    (hunique : ∀ other, g.nameOf? other = some name → other = id) : g.named? name = some id := by
  obtain ⟨s, hs, hname⟩ := nameOf?_eq_some_iff.mp h
  have hsome : (g.numbered.find? fun entry => entry.2.name = some name).isSome := by
    rw [List.find?_isSome]
    refine ⟨(id, s), List.mem_map.mpr ⟨(s, id), ?_, rfl⟩, decide_eq_true hname⟩
    exact List.mk_mem_zipIdx_iff_getElem?.mpr hs
  obtain ⟨⟨other, t⟩, hfind⟩ := Option.isSome_iff_exists.mp hsome
  have hother : g.get? other = some t := get?_of_mem_numbered (List.mem_of_find?_eq_some hfind)
  have hnamed := List.find?_some hfind
  rw [decide_eq_true_eq] at hnamed
  rw [named?, hfind, Option.map_some, hunique other (nameOf?_eq_some_iff.mpr ⟨t, hother, hnamed⟩)]

end SchemaGraph

/-! ## Reading schemas -/

/-- A way to read schemas leaves the names of schemas as they are. -/
def SchemaReader.LeavesNames (read : SchemaReader) : Prop :=
  ∀ (n : Node) (w : Workspace) (id : SchemaId),
    (read n w).2.graph.nameOf? id = w.graph.nameOf? id

namespace Record

theorem referenceSchema_gives_unnamed (text : String) :
    (r.referenceSchema read text).Gives fun s => s.name = none := by
  unfold referenceSchema
  dsimp only
  split
  · exact .bind fun _ => .bind fun _ => .bind fun _ => .bind fun _ => .pure rfl
  · split
    · exact .bind fun _ => .bind fun _ => .bind fun _ => .pure rfl
    · exact .bind fun _ => .bind fun _ => .pure rfl

theorem schemaHere_gives_unnamed : (r.schemaHere read).Gives fun s => s.name = none := by
  unfold schemaHere
  split
  · exact r.referenceSchema_gives_unnamed _
  · exact .bind fun _ => .pure rfl
  · exact .bind_of r.annotated_gives fun s hs => .bind fun _ => .bind fun _ => .pure hs.1

end Record

namespace Node

/-- A schema has no name when it has been read. -/
theorem schemaHere_gives_unnamed (n : Node) : (n.schemaHere read).Gives fun s => s.name = none := by
  unfold schemaHere
  split
  · exact Record.schemaHere_gives_unnamed
  · exact .ite (.pure rfl) (.bind fun _ => .pure rfl)
  · exact .bind fun _ => .pure rfl

/-- What is done inside of a schema leaves names as they are. -/
theorem nameOf?_schemaHere (hread : read.LeavesNames) (n : Node) (w : Workspace) (id : SchemaId) :
    (n.schemaHere read w).2.graph.nameOf? id = w.graph.nameOf? id := by
  have hremains : Remains read fun w' => ∀ id, w'.graph.nameOf? id = w.graph.nameOf? id := {
    told h _ := h
    part h r shape id := (SchemaGraph.nameOf?_push rfl id).trans (h id)
    read h n id := (hread n _ id).trans (h id) }
  exact n.inner_schemaHere.keeps hremains (fun _ => rfl) id

theorem leavesNames_schemaWithin (room : Nat) : SchemaReader.LeavesNames (schemaWithin room) := by
  induction room with
  | zero =>
    intro n w id
    cases hslot : w.slot? n.site with
    | some slot => rw [schemaWithin_of_met hslot]
    | none =>
      rw [schemaWithin_zero hslot]
      exact SchemaGraph.nameOf?_push rfl id
  | succ room ih =>
    intro n w id
    cases hslot : w.slot? n.site with
    | some slot => rw [schemaWithin_of_met hslot]
    | none =>
      rw [schemaWithin_succ hslot]
      -- the schema that was begun has no name when it is written anew
      have hopening : ∀ id, (w.opening n).graph.nameOf? id = w.graph.nameOf? id :=
        SchemaGraph.nameOf?_push rfl
      have hinner : ∀ id, (n.schemaHere (schemaWithin room) (w.opening n)).2.graph.nameOf? id =
          w.graph.nameOf? id := fun id => (nameOf?_schemaHere ih n _ id).trans (hopening id)
      have hblank := (hinner w.graph.size).trans
        (SchemaGraph.nameOf?_eq_none_of_size_le (Nat.le_refl _))
      have hunnamed : (n.schemaHere (schemaWithin room) (w.opening n)).1.name = none :=
        n.schemaHere_gives_unnamed (w.opening n)
      exact (SchemaGraph.nameOf?_modify hunnamed hblank id).trans (hinner id)

/-- Reading the schema at a node leaves the names of all schemas as they are. -/
theorem nameOf?_schema (n : Node) (w : Workspace) (id : SchemaId) :
    (n.schema w).2.graph.nameOf? id = w.graph.nameOf? id :=
  leavesNames_schemaWithin _ n w id

end Node

/-! ## Names of components -/

theorem Pointer.componentSchema_inj {name other : String}
    (h : componentSchema name = componentSchema other) : name = other := by
  have hlast := congrArg Pointer.last? h
  unfold componentSchema at hlast
  rw [last?_push, last?_push] at hlast
  exact Option.some.inj hlast

/-- What was met at the place of a component is in the entry document, at that place. -/
theorem Workspace.Sound.at_component {id : SchemaId} {name : String} (hw : w.Sound S)
    (hmet : w.Met ⟨S.entry, .componentSchema name⟩ id) :
    w.graph.At none (.componentSchema name) id := by
  obtain ⟨slot, hslot, rfl⟩ := hmet
  obtain ⟨n, hn, hsite, hat⟩ := hw.stands _ hslot
  have hplace : n.scope.place = n.scope.setting.entry := by
    rw [hn.scope.setting]
    exact congrArg Site.document hsite
  have hpointer : n.pointer = .componentSchema name := congrArg Site.pointer hsite
  have hlabel : n.scope.label = none := if_pos hplace
  rwa [hlabel, hpointer] at hat

/-- At the places of two components different schemas were met. -/
theorem Workspace.Sound.component_eq {id : SchemaId} {name other : String} (hw : w.Sound S)
    (hmet : w.Met ⟨S.entry, .componentSchema name⟩ id)
    (hother : w.Met ⟨S.entry, .componentSchema other⟩ id) : other = name := by
  obtain ⟨s, hs, -, hlocation⟩ := hw.at_component hmet
  obtain ⟨t, ht, -, hlocation'⟩ := hw.at_component hother
  obtain rfl := Option.some.inj (hs.symm.trans ht)
  exact Pointer.componentSchema_inj (hlocation'.symm.trans hlocation)

/-- The schemas that have names are those of some components, each at the place of its component. -/
structure Workspace.Names (S : Setting) (w : Workspace) (schemas : Entries SchemaId) : Prop where
  /-- The schema of a component was met at its place. -/
  met : ∀ entry ∈ schemas, w.Met ⟨S.entry, .componentSchema entry.1⟩ entry.2
  /-- It has the name of the component. -/
  named : ∀ entry ∈ schemas, w.graph.nameOf? entry.2 = some entry.1
  /-- No other schema has a name. -/
  only : ∀ id name, w.graph.nameOf? id = some name → (name, id) ∈ schemas

namespace Workspace.Names

variable {schemas : Entries SchemaId} {id : SchemaId} {name : String}

theorem fresh (S : Setting) : Workspace.fresh.Names S [] where
  met _ h := absurd h List.not_mem_nil
  named _ h := absurd h List.not_mem_nil
  only _ _ h := by cases h

/-- Where names are left as they are, it stays so. -/
theorem grows (h : w.Names S schemas) (hw : w.Grows w')
    (hnames : ∀ id, w'.graph.nameOf? id = w.graph.nameOf? id) : w'.Names S schemas where
  met entry hentry := hw.met (h.met entry hentry)
  named entry hentry := (hnames entry.2).trans (h.named entry hentry)
  only id name hname := h.only id name ((hnames id).symm.trans hname)

/-- It stays so while a schema is read. -/
theorem schema (h : w.Names S schemas) (hw : w.Sound S) (hn : n.Sited S) :
    (n.schema w).2.Names S schemas :=
  h.grows (Node.reads_schema S hw hn).ext.grows (n.nameOf?_schema w)

/-- The schema that was met at the place of a component is given its name.  If it has a name already,
that is the name of a component at the same place, so it is the same name. -/
theorem add (h : w.Names S schemas) (hw : w.Sound S)
    (hmet : w.Met ⟨S.entry, .componentSchema name⟩ id) :
    Names S { w with graph := w.graph.modify id (Schema.named name) }
      (schemas ++ [(name, id)]) := by
  have hname := SchemaGraph.nameOf?_named (hw.lt_size_of_met hmet) name
  -- a name stays when another one is given, but here it is the same
  have hown : (w.graph.nameOf? id).or (some name) = some name := by
    cases hbefore : w.graph.nameOf? id with
    | none => rfl
    | some other =>
      have hother : w.Met ⟨S.entry, .componentSchema other⟩ id :=
        h.met (other, id) (h.only id other hbefore)
      rw [Option.some_or, hw.component_eq hmet hother]
  constructor
  · intro entry hentry
    rcases List.mem_append.mp hentry with hold | hnew
    · exact h.met entry hold
    · obtain rfl := List.mem_singleton.mp hnew
      exact hmet
  · intro entry hentry
    rw [hname]
    rcases List.mem_append.mp hentry with hold | hnew
    · split
      · next heq =>
        have hmet' := h.met entry hold
        rw [← heq] at hmet'
        rw [hown, hw.component_eq hmet hmet']
      · exact h.named entry hold
    · obtain rfl := List.mem_singleton.mp hnew
      rw [if_pos rfl, hown]
  · intro other otherName hother
    rw [hname] at hother
    split at hother
    · next heq =>
      subst heq
      rw [hown] at hother
      obtain rfl := Option.some.inj hother
      exact List.mem_append_right _ List.mem_cons_self
    · exact List.mem_append_left _ (h.only other otherName hother)

end Workspace.Names

/-! ## Reading components -/

namespace Record

variable {schemas : Entries SchemaId} {name : String}

theorem ensures_namedSchema (hn : n.Sited S) (hsite : n.site = ⟨S.entry, .componentSchema name⟩)
    (hw : w.Sound S) (hnames : w.Names S schemas) :
    Ensures S w (namedSchema name n) fun id? w' =>
      ∃ id, id? = some id ∧ w'.Names S (schemas ++ [(name, id)]) := by
  have hread := Node.reads_schema S hw hn
  have hschema : Ensures S w n.schema fun id w' =>
      w'.Met ⟨S.entry, .componentSchema name⟩ id ∧ w'.Names S schemas :=
    ⟨hread.sound, hread.ext, hsite ▸ hread.holds.1, hnames.schema hw hn⟩
  refine hschema.bind fun id w₁ hw₁ _ hfirst => ?_
  obtain ⟨hmet, hnames₁⟩ := hfirst
  have hext := Workspace.Extends.rename w₁ id (Schema.named name) fun _ => rfl
  have hchange : Ensures S w₁ (Binding.change id (Schema.named name)) fun _ w' =>
      w'.Names S (schemas ++ [(name, id)]) :=
    ⟨hw₁.of_size_eq hext rfl (SchemaGraph.size_modify _ _ _), hext, hnames₁.add hw₁ hmet⟩
  exact hchange.bind fun _ w₂ hw₂ _ hadded => .pure hw₂ ⟨id, rfl, hadded⟩

/-- The schemas of components are read one by one, and each is given its name. -/
theorem ensures_namedSchemas {fields : List (String × Node)}
    (hfields : ∀ field ∈ fields,
      field.2.Sited S ∧ field.2.site = ⟨S.entry, .componentSchema field.1⟩)
    (hw : w.Sound S) (hnames : w.Names S schemas) :
    Ensures S w (readFields fields namedSchema) fun found w' => w'.Names S (schemas ++ found) := by
  induction fields generalizing w schemas with
  | nil => exact .pure hw (by rwa [List.append_nil])
  | cons field rest ih =>
    obtain ⟨hn, hsite⟩ := hfields field List.mem_cons_self
    have hfirst : Ensures S w
        (do return (← namedSchema field.1 field.2).map (field.1, ·)) fun found? w' =>
          w'.Names S (schemas ++ found?.toList) := by
      refine (ensures_namedSchema hn hsite hw hnames).bind fun id? w₁ hw₁ _ hid => ?_
      obtain ⟨id, rfl, hadded⟩ := hid
      exact .pure hw₁ hadded
    refine hfirst.bind fun found? w₁ hw₁ _ hadded => ?_
    refine (ih (fun field h => hfields field (List.mem_cons_of_mem _ h)) hw₁ hadded).bind
      fun found w₂ hw₂ _ hall => .pure hw₂ ?_
    rwa [List.append_assoc] at hall

end Record

namespace Binding

variable {α : Type} {m : Binding α} {schemas : Entries SchemaId}

/-- Outside of schemas and of components, names stay as they are. -/
theorem Outside.ensures_names (hm : Outside S False m) (hw : w.Sound S)
    (hnames : w.Names S schemas) : Ensures S w m fun _ w' => w'.Names S schemas := by
  have hlasts : Lasts S False fun w' => w'.Sound S ∧ w.Extends w' ∧ w'.Names S schemas := {
    told h found :=
      have hext := Workspace.Extends.tell _ found
      ⟨h.1.of_size_eq hext rfl rfl, h.2.1.trans hext, h.2.2.grows hext.grows fun _ => rfl⟩
    renamed hnaming := hnaming.elim
    read h n hn :=
      have hread := Node.reads_schema S h.1 hn
      ⟨hread.sound, h.2.1.trans hread.ext, h.2.2.schema h.1 hn⟩ }
  obtain ⟨hsound, hext, hleft⟩ := hm.keeps hlasts ⟨hw, .refl w, hnames⟩
  exact ⟨hsound, hext, hleft⟩

/-- What the step gives has the components of before. -/
theorem Outside.ensures_names_of (hm : Outside S False m) (hw : w.Sound S)
    (hnames : w.Names S schemas) {part : α → Entries SchemaId}
    (hgives : m.Gives fun a => part a = schemas) :
    Ensures S w m fun a w' => w'.Names S (part a) := by
  have hleft := hm.ensures_names hw hnames
  refine ⟨hleft.sound, hleft.ext, ?_⟩
  rw [hgives w]
  exact hleft.holds

/-- A step that only adds findings comes first. -/
theorem OnlyTells.ensures_bind {β : Type} {f : α → Binding β} {post : β → Workspace → Prop}
    (hm : m.OnlyTells) (hw : w.Sound S) (hnames : w.Names S schemas)
    (hf : ∀ w', w'.Sound S → w'.Names S schemas → Ensures S w' (f m.result) post) :
    Ensures S w (m >>= f) post := by
  have htells := Ensures.tells hw hm
  have hleft := (Outside.tells hm).ensures_names hw hnames
  have hboth : Ensures S w m fun a w' => a = m.result ∧ w'.Names S schemas :=
    ⟨htells.sound, htells.ext, htells.holds, hleft.holds⟩
  refine hboth.bind fun a w' hw' _ h => ?_
  rw [h.1]
  exact hf w' hw' h.2

end Binding

/-- An object of the entry document is at a pointer. -/
structure Record.AtEntry (S : Setting) (r : Record) (p : Pointer) : Prop where
  sited : r.Sited S
  place : r.scope.place = S.entry
  pointer : r.pointer = p

namespace Record

variable {schemas : Entries SchemaId} {p : Pointer}

theorem AtEntry.object (hr : r.AtEntry S p) {key : String} {inner : Record}
    (h : (r.field? key).bind Node.object? = some inner) : inner.AtEntry S (p.push key) := by
  obtain ⟨hscope, hpointer, hsited⟩ := of_field?_object? h
  exact ⟨hsited hr.sited, hscope ▸ hr.place, hr.pointer ▸ hpointer⟩

theorem AtEntry.site_of_mem_fields (hr : r.AtEntry S p) {field : String × Node}
    (h : field ∈ r.fields) : field.2.site = ⟨S.entry, p.push field.1⟩ := by
  obtain ⟨member, -, rfl⟩ := List.mem_map.mp h
  have hplace : (r.child member).scope.place = S.entry := hr.place
  have hpointer : (r.child member).pointer = p.push member.1 := hr.pointer ▸ rfl
  rw [Node.site, hplace, hpointer]

theorem ensures_componentSchemas (hr : r.AtEntry S (.push .root "components")) (hw : w.Sound S)
    (hnames : w.Names S []) :
    Ensures S w r.componentSchemas fun schemas w' => w'.Names S schemas := by
  refine (r.onlyTells_record? _).ensures_bind hw hnames fun w₁ hw₁ hnames₁ => ?_
  rw [result_record?]
  cases hentries : (r.field? "schemas").bind Node.object? with
  | none => exact .pure hw₁ hnames₁
  | some entries =>
    have hat := hr.object hentries
    have hfields : ∀ field ∈ entries.fields,
        field.2.Sited S ∧ field.2.site = ⟨S.entry, .componentSchema field.1⟩ :=
      fun field hfield => ⟨hat.sited.fields hfield, hat.site_of_mem_fields hfield⟩
    exact ensures_namedSchemas hfields hw₁ hnames₁

/-- The other components go beside the schemas. -/
theorem componentsWith_gives (schemas : Entries SchemaId) :
    (r.componentsWith schemas).Gives fun c => c.schemas = schemas :=
  .bind fun _ => .bind fun _ => .bind fun _ => .bind fun _ => .bind fun _ => .bind fun _ =>
    .bind fun _ => .bind fun _ => .bind fun _ => .pure rfl

theorem ensures_components (hr : r.AtEntry S .root) (hw : w.Sound S) (hnames : w.Names S []) :
    Ensures S w r.components fun c w' => w'.Names S c.schemas := by
  unfold components Readers.componentsOf
  cases hn : r.field? "components" with
  | none => exact .pure hw hnames
  | some n =>
    refine (n.onlyTells_record? _).ensures_bind hw hnames fun w₁ hw₁ hnames₁ => ?_
    rw [Node.result_record?]
    cases hc : n.object? with
    | none => exact .pure hw₁ hnames₁
    | some c =>
      have hat : c.AtEntry S (.push .root "components") := hr.object (by rw [hn]; exact hc)
      refine (ensures_componentSchemas hat hw₁ hnames₁).bind fun schemas w₂ hw₂ _ hnames₂ => ?_
      exact (hat.sited.outside_componentsWith schemas).ensures_names_of hw₂ hnames₂
        (componentsWith_gives schemas)

/-- What is read after the components goes beside them. -/
theorem descriptionWith_gives (declared : String) (info : Info)
    (jsonSchemaDialect : Option String) (servers : List Server) (components : Components) :
    (r.descriptionWith declared info jsonSchemaDialect servers components).Gives
      fun d => d.components = components :=
  .bind fun _ => .bind fun _ => .bind fun _ => .bind fun _ => .bind fun _ => .bind fun _ =>
    .bind fun _ => .pure rfl

/-- When a description has been read, the schemas that have names are those of its components. -/
theorem ensures_description (hr : r.AtEntry S .root) (hw : w.Sound S) (hnames : w.Names S [])
    (declared : String) :
    Ensures S w (r.description declared) fun d w' => w'.Names S d.components.schemas := by
  refine (r.onlyTells_checkDeclaration _).ensures_bind hw hnames fun w₁ hw₁ hnames₁ => ?_
  refine r.onlyTells_info.ensures_bind hw₁ hnames₁ fun w₂ hw₂ hnames₂ => ?_
  refine r.onlyTells_jsonSchemaDialect?.ensures_bind hw₂ hnames₂ fun w₃ hw₃ hnames₃ => ?_
  refine r.onlyTells_servers.ensures_bind hw₃ hnames₃ fun w₄ hw₄ hnames₄ => ?_
  refine (ensures_components hr hw₄ hnames₄).bind fun components w₅ hw₅ _ hnames₅ => ?_
  have hgives : Gives (r.descriptionWith declared r.info.result
      r.jsonSchemaDialect?.result r.servers.result components) fun d =>
        d.components.schemas = components.schemas :=
    (r.descriptionWith_gives _ _ _ _ components).imp fun _ h => congrArg Components.schemas h
  exact (hr.sited.outside_descriptionWith _ _ _ _ components).ensures_names_of hw₅ hnames₅ hgives

end Record

/-! ## Whole runs -/

/-- The schemas that have names when a run has come to its end are those of the components. -/
theorem RegisteredDocument.names_of_run {source : RegisteredDocument} {declared : String}
    {d : Description} (hsource : S.registry.documents[S.entry]? = some source)
    (h : source.run S declared = .ok (d, w)) : w.Names S d.components.schemas := by
  obtain ⟨root, hroot, hrun⟩ := exists_root_of_run hsource h
  obtain ⟨rfl, rfl⟩ := Prod.mk.inj hrun
  obtain ⟨_, -, hscope, hpointer, -⟩ := Setting.of_root? hroot
  have hat : root.AtEntry S .root := ⟨Setting.sited_root hroot, by rw [hscope], hpointer⟩
  exact (Record.ensures_description hat .fresh (.fresh S) declared).holds

/-- The schema of a component has the name of the component, is at its place in the entry document,
and is found by the name.  Different names stand for different schemas, and every schema that has a
name is that of a component. -/
theorem Registry.names_of_bind {r : Registry} {entry : String} {options : Options}
    {version : Version} {declared : String} {d : Description} {report : Report}
    (h : r.bind entry options version declared = .ok (d, report)) :
    (∀ name id, (name, id) ∈ d.components.schemas →
        (∃ s, d.schemas.get? id = some s ∧ s.name = some name ∧ s.document = none ∧
          s.location = .componentSchema name ∧
            s.location.display = "#/components/schemas/" ++ Pointer.token name) ∧
          d.schemas.named? name = some id) ∧
      (∀ name id other id', (name, id) ∈ d.components.schemas →
        (other, id') ∈ d.components.schemas → name ≠ other → id ≠ id') ∧
      ∀ id s name, d.schemas.get? id = some s → s.name = some name →
        (name, id) ∈ d.components.schemas := by
  obtain ⟨w, hrun, -⟩ := exists_run_of_bind h
  obtain ⟨place, source, -, hsource, hbound⟩ := exists_source_of_run hrun
  have hnames := RegisteredDocument.names_of_run hsource hbound
  obtain ⟨hcomplete, hgraph, -⟩ := RegisteredDocument.complete_of_run hsource hbound
  obtain ⟨root, hroot, htraced⟩ :=
    RegisteredDocument.traced_of_run (Node.closed_sited _) hsource hbound
  obtain ⟨-, hleft, -⟩ := htraced (Setting.sited_root hroot)
  rw [hgraph]
  refine ⟨fun name id hmem => ⟨?_, ?_⟩, ?_, ?_⟩
  · obtain ⟨s, hs, hdocument, hlocation⟩ := hcomplete.sound.at_component (hnames.met _ hmem)
    obtain ⟨t, ht, hname⟩ := SchemaGraph.nameOf?_eq_some_iff.mp (hnames.named _ hmem)
    obtain rfl := Option.some.inj (hs.symm.trans ht)
    have hschemas : Pointer.token "schemas" = "schemas" := rfl
    have hdisplay := Pointer.display_component hschemas name
    exact ⟨s, hs, hname, hdocument, hlocation, hlocation ▸ hdisplay⟩
  -- at the place of a component one schema was met
  · refine SchemaGraph.named?_eq_some (hnames.named _ hmem) fun other hother => ?_
    obtain ⟨slot, hslot, hid⟩ := hnames.met _ hmem
    obtain ⟨slot', hslot', hid'⟩ := hnames.met _ (hnames.only other name hother)
    exact hid'.symm.trans ((hleft.sites _ hslot' _ hslot rfl).trans hid)
  · rintro name id other id' hmem hmem' hne rfl
    have hname : w.graph.nameOf? id = some name := hnames.named _ hmem
    have hother : w.graph.nameOf? id = some other := hnames.named _ hmem'
    exact hne (Option.some.inj (hname.symm.trans hother))
  · intro id s name hs hname
    exact hnames.only id name (SchemaGraph.nameOf?_eq_some_iff.mpr ⟨s, hs, hname⟩)

/-- In `partFirst` the schema of the second component is read before its turn, because a reference
leads there from the first one; it is given its name all the same. -/
theorem Registry.names_of_bind_partFirst :
    ∃ d report, (single partFirst).bind "http://example.invalid/" .standard .v31 "3.1.0" =
        .ok (d, report) ∧
      d.components.schemas = [("First", 0), ("A", 2)] ∧
      (∀ name id, (name, id) ∈ d.components.schemas →
          (∃ s, d.schemas.get? id = some s ∧ s.name = some name ∧ s.document = none ∧
            s.location = .componentSchema name ∧
              s.location.display = "#/components/schemas/" ++ Pointer.token name) ∧
            d.schemas.named? name = some id) ∧
        (∀ name id other id', (name, id) ∈ d.components.schemas →
          (other, id') ∈ d.components.schemas → name ≠ other → id ≠ id') ∧
        ∀ id s name, d.schemas.get? id = some s → s.name = some name →
          (name, id) ∈ d.components.schemas := by
  have hleft : ((single partFirst).bind "http://example.invalid/" .standard .v31
      "3.1.0").toOption.map (·.1.components.schemas) = some [("First", 0), ("A", 2)] := by
    decide +kernel
  obtain ⟨⟨d, report⟩, hbind, hschemas⟩ := Option.map_eq_some_iff.mp hleft
  have h := of_toOption_eq_some hbind
  exact ⟨d, report, h, hschemas, names_of_bind h⟩

end ApiDescription
