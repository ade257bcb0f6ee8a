import ApiDescription.Proofs.Binding.Chains
import ApiDescription.Proofs.Binding.Places
import ApiDescription.Proofs.Binding.TowardParts
import ApiDescription.Proofs.Pointer.Printed

/-!
# Inlined components

Where a part is a reference to a component, what is written in its place is read once more, in
another workspace.  It comes out the same: `Registry.inlines_of_bind` says that the component was read
as well, and that the part differs from it only in what it tells of the reference.

Three things come together here.  The text of the reference is the pointer to the component, so it
leads to the node that the component was read at.  Behind that, both follow one chain.  And what is
at the end of the chain is settled, whenever it is read on the way to the last workspace.
-/

namespace ApiDescription

open Binding

/-! ## One chain -/

namespace Node

variable {n next : Node} {text : String} {t : Resolved}

theorem behind?_of_plain (h : n.value.member? referenceKey = none) : n.behind? = n.object? := by
  rw [behind?, resolved_of_plain (Visits.here n) List.nodup_nil (Nat.zero_le _) h]
  rfl

/-- Where the chain of references from a node comes to an end, it has visited some nodes on the way. -/
theorem exists_visits_of_resolved (h : n.resolved = .ok t) :
    ∃ visited, n.Visits visited t.node ∧ Distinct visited ∧
      visited.length ≤ n.scope.setting.options.maxDepth ∧
      t.node.value.member? referenceKey = none ∧
      t.reference = visited.head?.bind referenceText? := by
  have hstep : orTell n.resolved = pure (some t) := by rw [h]; rfl
  obtain ⟨visited, last, hvisits, hdistinct, hlength, hends⟩ :=
    (Visits.here n).exists_ends List.nodup_nil (Nat.zero_add _)
  cases hends with
  | plain hlast =>
    obtain rfl := Except.ok.inj
      (h.symm.trans (resolved_of_plain hvisits hdistinct hlength hlast))
    exact ⟨visited, hvisits, hdistinct, hlength, hlast, rfl⟩
  | seen hrefers hseen =>
    exact absurd hstep ((refuses_of_seen hvisits hdistinct hrefers hlength hseen).ne_pure t)
  | full hrefers hnew hfull =>
    exact absurd hstep ((refuses_of_full hvisits hdistinct hrefers hnew hfull).ne_pure t)
  | unlocated hrefers hnew hroom hf =>
    exact absurd hstep ((refuses_of_unlocated hvisits hdistinct hrefers hnew hroom hf).ne_pure t)
  | mistyped hvalue htext =>
    exact absurd hstep ((refuses_of_mistyped hvisits hdistinct hlength hvalue htext).ne_pure t)

/-- If something is at the end of the chain that begins with a reference, then the reference leads to
a node, and the same is at the end of the chain from there. -/
theorem Refers.exists_next (hrefers : n.Refers text) (h : n.resolved = .ok t) :
    t.reference = some text ∧ ∃ next, n.scope.locate text = .ok next ∧
      (next.scope = n.scope → ∃ reference, next.resolved = .ok ⟨t.node, reference⟩) := by
  obtain ⟨visited, hvisits, hdistinct, hlength, hlast, hreference⟩ := exists_visits_of_resolved h
  cases hvisits with
  | here => exact nomatch hlast.symm.trans hrefers
  | @step _ next _ text' visited hrefers' hnext hrest =>
    obtain rfl : text' = text := by
      have hsame := hrefers'.symm.trans hrefers
      exact Json.string.inj (Option.some.inj hsame)
    refine ⟨hreference.trans hrefers.referenceText?, next, hnext, fun hscope => ?_⟩
    have hlimit : visited.length ≤ next.scope.setting.options.maxDepth := by
      rw [hscope]
      exact Nat.le_of_succ_le hlength
    exact ⟨_, resolved_of_plain hrest (List.nodup_cons.mp hdistinct).2 hlimit hlast⟩

end Node

/-! ## One object -/

/-- What a parameter tells of its reference does not matter for the rest of it. -/
theorem SchemaReader.parameter_eq_map (read : SchemaReader) (r : Record) (name : String)
    (place : ParameterPlace) (reference : Option String) (location : Pointer)
    (reference' : Option String) (location' : Pointer) :
    read.parameter r name place reference location =
      (fun p : Parameter => { p with reference, location }) <$>
        read.parameter r name place reference' location' := by
  unfold parameter
  split <;> simp

section Object

variable {n next target : Node} {reference reference' : Option String}
  (hn : n.resolved = .ok ⟨target, reference⟩) (hnext : next.resolved = .ok ⟨target, reference'⟩)
include hn hnext

/-- What is done with the object that two nodes stand for. -/
theorem Node.resolvedRecord?_bind_eq {α : Type} (what : String)
    {f f' : Option ResolvedRecord → Binding (Option α)} {g : α → α} (hnone : f none = pure none)
    (hnone' : f' none = pure none)
    (hsome : ∀ r, f (some ⟨r, reference⟩) = Option.map g <$> f' (some ⟨r, reference'⟩)) :
    n.resolvedRecord? what >>= f = Option.map g <$> (next.resolvedRecord? what >>= f') := by
  rw [resolvedRecord?_bind, resolvedRecord?_bind, hn, hnext]
  simp only [orTell, pure_bind, map_bind]
  congr 1
  funext r?
  cases r? with
  | none => rw [Option.map_none, hnone, Option.map_none, hnone', map_pure, Option.map_none]
  | some r => exact hsome r

/-- What is read at two nodes that stand for one object differs only in the reference. -/
theorem PartKind.read_eq (κ : PartKind) :
    κ.read n = Option.map (κ.referring · reference n.pointer) <$> κ.read next := by
  cases κ with
  | parameters =>
    refine Node.resolvedRecord?_bind_eq hn hnext _ rfl rfl fun r => ?_
    simp only [map_bind]
    refine bind_congr fun name? => bind_congr fun place? => ?_
    split
    · rw [SchemaReader.parameter_eq_map _ r _ _ reference n.pointer reference' next.pointer]
      simp [referring]
    · rfl
  | responses =>
    refine Node.resolvedRecord?_bind_eq hn hnext _ rfl rfl fun r => ?_
    simp [referring]
  | requestBodies =>
    refine Node.resolvedRecord?_bind_eq hn hnext _ rfl rfl fun r => ?_
    dsimp only
    split <;> simp [referring]
  | headers =>
    refine Node.resolvedRecord?_bind_eq hn hnext _ rfl rfl fun r => ?_
    simp [referring]
  | examples =>
    refine Node.resolvedRecord?_bind_eq hn hnext _ rfl rfl fun r => ?_
    simp [referring]
  | links =>
    refine Node.resolvedRecord?_bind_eq hn hnext _ rfl rfl fun r => ?_
    dsimp only
    split <;> simp [referring]

end Object

/-- Where a part is read, something is at the end of the chain of references. -/
theorem PartKind.exists_resolved (κ : PartKind) {n : Node} {w : Workspace} {x : κ.Part}
    (h : (κ.read n w).1 = some x) : ∃ t, n.resolved = .ok t := by
  cases hn : n.resolved with
  | ok t => exact ⟨t, rfl⟩
  | error p =>
    have hnone : ∀ {α : Type} (what : String) (f : Option ResolvedRecord → Binding (Option α)),
        f none = pure none → ((n.resolvedRecord? what >>= f) w).1 = none := by
      intro α what f hf
      rw [Node.resolvedRecord?_bind, hn]
      simp only [orTell, bind_assoc, pure_bind, hf]
      rfl
    have hread : (κ.read n w).1 = none := by
      cases κ with
      | parameters => exact hnone "parameter" _ rfl
      | responses => exact hnone "response" _ rfl
      | requestBodies => exact hnone "request body" _ rfl
      | headers => exact hnone "header" _ rfl
      | examples => exact hnone "example" _ rfl
      | links => exact hnone "link" _ rfl
    exact nomatch hread.symm.trans h

/-! ## Components -/

namespace PartKind

/-- The pointer to the component of a kind and a name. -/
def component (κ : PartKind) (name : String) : Pointer :=
  ((Pointer.root.push "components").push κ.sectionName).push name

/-- The text of a reference to the component of a kind and a name. -/
def referenceText (κ : PartKind) (name : String) : String :=
  "#/components/" ++ κ.sectionName ++ "/" ++ Pointer.token name

theorem display_component (κ : PartKind) (name : String) :
    (κ.component name).display = κ.referenceText name := by
  have hsection : Pointer.token κ.sectionName = κ.sectionName := by cases κ <;> rfl
  exact Pointer.display_component hsection name

theorem percent_not_mem_component (κ : PartKind) {name : String} (h : '%' ∉ name.toList) :
    '%' ∉ (κ.component name).text.toList := by
  have hescape : ∀ text : List Char, '%' ∉ text → '%' ∉ Pointer.escape text := by
    intro text
    fun_induction Pointer.escape text <;> simp_all
  have htokens : (κ.component name).tokens =
      [Pointer.token "components", Pointer.token κ.sectionName, Pointer.token name] := rfl
  have hsection : '%' ∉ (Pointer.token κ.sectionName).toList := by cases κ <;> decide
  have hcomponents : '%' ∉ (Pointer.token "components").toList := by decide
  have hname : '%' ∉ (Pointer.token name).toList := by
    simpa [Pointer.token] using hescape _ h
  rw [Pointer.toList_text, htokens]
  simp [hsection, hcomponents, hname]

end PartKind

/-- The components of a kind are written as a list, and not under names. -/
def Record.ListsComponents (root : Record) (κ : PartKind) : Prop :=
  ∃ items, (root.members.get? "components").bind (·.member? κ.sectionName) = some (.array items)

theorem Record.get?_fields (r : Record) (key : String) : Entries.get? r.fields key = r.field? key := by
  have hmembers : ∀ members : Entries Json,
      Entries.get? (members.map fun m => (m.1, r.child m)) key =
        (members.get? key).map fun value => r.child (key, value) := by
    intro members
    induction members with
    | nil => rfl
    | cons first rest ih =>
      rw [List.map_cons, Entries.get?_cons, Entries.get?_cons, ih]
      split
      · next hkey => simp [hkey]
      · rfl
  exact hmembers r.members

/-- What the pointer to a component addresses is the field that the component is read from. -/
theorem PartKind.get?_componentFields (κ : PartKind) {root : Record} (hpointer : root.pointer = .root)
    (hlists : ¬ root.ListsComponents κ) {name : String} {value : Json}
    (hat : (Json.object root.members).at? (κ.component name) = some value) :
    Entries.get? (root.componentFields κ.sectionName) name =
      some ⟨root.scope, κ.component name, value⟩ := by
  have hsegments : (κ.component name).segments = ["components", κ.sectionName, name] := by
    simp [component]
  rw [Json.at?, hsegments, Json.walk?_cons] at hat
  obtain ⟨whole, hwhole, hat⟩ := Option.bind_eq_some_iff.mp hat
  rw [Json.walk?_cons] at hat
  obtain ⟨section_, hsection, hat⟩ := Option.bind_eq_some_iff.mp hat
  rw [Json.walk?_cons] at hat
  obtain ⟨last, hlast, hat⟩ := Option.bind_eq_some_iff.mp hat
  rw [Json.walk?_nil] at hat
  obtain rfl := Option.some.inj hat
  have hwhole : root.members.get? "components" = some whole := hwhole
  -- the name of a section is no index, so the components themselves are no list
  have hindex : Json.index? κ.sectionName = none := by cases κ <;> decide
  cases whole with
  | object members =>
    have hsection : Entries.get? members κ.sectionName = some section_ := hsection
    cases section_ with
    | object parts =>
      have hlast : Entries.get? parts name = some last := hlast
      have hrecord : root.componentsRecord? =
          some ⟨root.scope, root.pointer.push "components", members⟩ := by
        rw [Record.componentsRecord?, Record.field?, hwhole]
        rfl
      have hfields : root.componentFields κ.sectionName = Record.fields
          ⟨root.scope, (root.pointer.push "components").push κ.sectionName, parts⟩ := by
        rw [Record.componentFields, hrecord, Option.elim_some, Record.fieldsOf, Record.field?,
          hsection]
        rfl
      rw [hfields, Record.get?_fields, Record.field?, hlast, hpointer]
      rfl
    | array items =>
      exact absurd ⟨items, by rw [hwhole]; exact hsection⟩ hlists
    | _ => cases hlast
  | array items => simp [Json.step?, hindex] at hsection
  | _ => cases hsection

/-! ## Inlining -/

/-- If a part stands in a document of components and was read at a reference to one of them, then the
component is there, and it is the part but for the reference. -/
def PartKind.Inlines (root : Record) (components : Components) (κ : PartKind) (n : Node)
    (x : κ.Part) : Prop :=
  ∀ name : String, '%' ∉ name.toList → n.scope.place = root.scope.place →
    n.Refers (κ.referenceText name) →
      ∃ y, (κ.entries components).get? name = some y ∧
        x = κ.referring y (some (κ.referenceText name)) n.pointer

variable {S : Setting} {F : Workspace} {root : Record}

/-- Wherever a part is read on the way to the last workspace, it is the component that it refers to. -/
theorem PartKind.toward_inlines (κ : PartKind) {components : Components} {n : Node}
    (hn : n.Inside S) (hroot : S.root? = some root)
    (hholds : components.Holds F root.componentFields) :
    (κ.read n).Toward F fun x? => ∀ x ∈ x?,
      ¬ root.ListsComponents κ → κ.Inlines root components n x := by
  refine fun w hw => ⟨κ.adds_read hn w hw, fun x hx hlists name hname hplace hrefers => ?_⟩
  obtain ⟨source, hsource, hscope, hpointer, hvalue⟩ := Setting.of_root? hroot
  have hsame : n.scope = root.scope := by
    refine hn.scope.ext ⟨by rw [hscope], ?_⟩ hplace
    rw [hscope]
    exact hsource
  -- the reference leads to the field of the component
  obtain ⟨t, ht⟩ := κ.exists_resolved hx
  obtain ⟨hreference, next, hnext, hchain⟩ := hrefers.exists_next ht
  have hread := Pointer.ofFragment?_text (κ.percent_not_mem_component hname)
  rw [← κ.display_component, Scope.locate_display _ hread] at hnext
  obtain ⟨value, hat, rfl⟩ := Scope.eq_of_nodeAt_eq_ok hnext
  rw [hsame, hscope, hvalue] at hat
  have hfield := κ.get?_componentFields hpointer hlists hat
  rw [← hsame] at hfield
  -- behind it is the same object, and what it is read as is settled
  obtain ⟨reference, hbehind⟩ := hchain rfl
  rw [κ.read_eq ht hbehind] at hw hx
  obtain ⟨y, hy, rfl⟩ := Option.map_eq_some_iff.mp hx
  rw [hreference]
  exact ⟨y, hholds κ name _ hfield w y hw hy, rfl⟩

/-- Every part of a description that stands in the entry document and is written as a reference to a
component, there is the component, and the part is the same but for what it tells of the reference.
This is so wherever the part stands, unless the components are written as a list. -/
theorem Registry.inlines_of_bind {r : Registry} {entry : String} {options : Options}
    {version : Version} {declared : String} {d : Description} {report : Report}
    (h : r.bind entry options version declared = .ok (d, report)) :
    ∃ place root, r.place? entry = some place ∧
      Setting.root? ⟨r, place, options, version⟩ = some root ∧
      d.Each (fun κ n x => ¬ root.ListsComponents κ → κ.Inlines root d.components n x) root := by
  obtain ⟨F, hrun, -⟩ := exists_run_of_bind h
  obtain ⟨place, source, hplace, hsource, hrun⟩ := exists_source_of_run hrun
  obtain ⟨root, hroot, htraced⟩ :=
    RegisteredDocument.traced_of_run (Node.closed_sited ⟨r, place, options, version⟩) hsource hrun
  have hsited := Setting.sited_root hroot
  have hsingle : F.Single := (htraced hsited).2.1.sites
  obtain ⟨root', hroot', hfinal⟩ := RegisteredDocument.exists_root_of_run hsource hrun
  obtain rfl := Option.some.inj (hroot'.symm.trans hroot)
  have hleft : (root'.description declared .fresh).2.Before F := by
    rw [← hfinal]
    exact ⟨List.Subset.refl _, List.Subset.refl _⟩
  -- no component is missing, whatever is asked of the parts
  have hholds : d.components.Holds F root'.componentFields := by
    have hread := Record.toward_description (Q := fun _ _ _ => True)
      (fun κ _ hn => (κ.adds_read hn).toward.imp fun _ _ _ _ => trivial) hsingle hsited.toInside
      declared .fresh hleft
    rw [← hfinal] at hread
    exact hread.2.2
  have hread := Record.toward_description (fun κ _ hn => κ.toward_inlines hn hroot hholds) hsingle
    hsited.toInside declared .fresh hleft
  rw [← hfinal] at hread
  exact ⟨place, root', hplace, hroot, hread.2.1⟩

/-- An operation whose only parameter is a reference. -/
def Json.referringOperation (text : String) : Json :=
  .object [("parameters", .array [.referenceTo text])]

/-- A description with such an operation, and with components of this kind. -/
def Json.referringParameter (text : String) (parameters : Json) : Json :=
  .object [("openapi", .string "3.1.0"),
    ("paths", .object [("/a", .object [("get", .referringOperation text)])]),
    ("components", .object [("parameters", parameters)])]

/-- What holds of every part of `referringParameter` holds of every parameter of an operation in it,
together with the reference. -/
theorem Description.Each.of_referringParameter {Q : (κ : PartKind) → Node → κ.Part → Prop}
    {text : String} {parameters : Json} {d : Description}
    (hS : S.registry = .single (Json.referringParameter text parameters))
    (hroot : S.root? = some root) (h : d.Each Q root) {key : String} {o : Operation}
    (ho : (key, o) ∈ d.operations) {p : Parameter} (hp : p ∈ o.parameters) :
    ∃ n : Node, n.scope = root.scope ∧ n.Refers text ∧ n.pointer = p.location ∧
      Q .parameters n p := by
  obtain ⟨source, hsource, -, -, hvalue⟩ := Setting.of_root? hroot
  rw [hS] at hsource
  obtain rfl := List.mem_singleton.mp (List.mem_of_getElem? hsource)
  obtain ⟨scope, pointer, members⟩ := root
  obtain rfl := Json.object.inj hvalue
  obtain ⟨⟨_, item⟩, hitem, hlisted⟩ := List.mem_flatMap.mp ho
  obtain ⟨_, hoperation, hkeyed⟩ := List.mem_map.mp hlisted
  obtain ⟨-, rfl⟩ := Prod.mk.inj hkeyed
  obtain ⟨⟨method, o⟩, hentry, rfl⟩ := List.mem_map.mp hoperation
  -- the nodes that are read on the way down to the parameter
  let item : Node := ⟨scope, (pointer.push "paths").push "/a",
    .object [("get", .referringOperation text)]⟩
  let operation : Node := ⟨scope, item.pointer.push "get", .referringOperation text⟩
  let reference : Node := ⟨scope, (operation.pointer.push "parameters").push "0", .referenceTo text⟩
  have hitems : Picks (PathItem.Each Q) [("/a", item)] d.paths := by
    have hplain : Record.isExtension "/a" = false := rfl
    have hfields : [("/a", item)].filter (fun field => !Record.isExtension field.1) =
        [("/a", item)] := by simp [hplain]
    exact hfields ▸ h.paths
  cases (hitems.of_singleton hitem).2 with
  | @intro _ r _ hr _ hoperations =>
    rw [Node.behind?_of_plain rfl] at hr
    obtain rfl := Option.some.inj hr
    have hoperations : Picks (Operation.Each Q) [(Method.get, operation)] _ := hoperations
    cases (hoperations.of_singleton hentry).2 with
    | intro hr hparameters =>
      obtain rfl := Option.some.inj hr
      have hparameters : Picks (Parameter.Each Q) [(reference.pointer, reference)] _ := hparameters
      obtain ⟨hlocation, hparameter⟩ := hparameters.of_singleton (List.mem_map_of_mem hp)
      exact ⟨reference, rfl, rfl, hlocation.symm, hparameter.1⟩

/-- The parameter of the operation is named, and the name has to be escaped in the reference. -/
def Json.namedParameter : Json :=
  referringParameter "#/components/parameters/a~1b" (.object [("a/b", .object [
    ("name", .string "q"), ("in", .string "query"), ("schema", .object [])])])

/-- The parameters are a list, and that of the operation is referred to by its index. -/
def Json.listedParameter : Json :=
  referringParameter "#/components/parameters/0" (.array [.object [
    ("name", .string "q"), ("in", .string "query")]])

/-- In `namedParameter` the parameter of the operation is the component. -/
theorem Registry.inlines_of_bind_namedParameter :
    ∃ d report, (single Json.namedParameter).bind "http://example.invalid/" .standard .v31 "3.1.0" =
        .ok (d, report) ∧
      ∃ o ∈ d.operations, ∃ p ∈ o.2.parameters, ∃ y, d.components.parameters.get? "a/b" = some y ∧
        p = { y with reference := some "#/components/parameters/a~1b", location := p.location } := by
  have hrun : ((single Json.namedParameter).bind "http://example.invalid/" .standard .v31
      "3.1.0").toOption.map (fun left => left.1.operations.head?.map
        fun o => o.2.parameters.head?.isSome) = some (some true) := by decide +kernel
  obtain ⟨⟨d, report⟩, hbind, hrun⟩ := Option.map_eq_some_iff.mp hrun
  obtain ⟨o, ho, hrun⟩ := Option.map_eq_some_iff.mp hrun
  obtain ⟨p, hp⟩ := Option.isSome_iff_exists.mp hrun
  replace ho := List.mem_of_mem_head? ho
  replace hp := List.mem_of_mem_head? hp
  replace hbind := of_toOption_eq_some hbind
  obtain ⟨place, root, -, hroot, heach⟩ := inlines_of_bind hbind
  have hplain : ¬ root.ListsComponents .parameters := by
    obtain ⟨source, hsource, -, -, hvalue⟩ := Setting.of_root? hroot
    obtain rfl := List.mem_singleton.mp (List.mem_of_getElem? hsource)
    rintro ⟨items, hitems⟩
    rw [← Json.object.inj hvalue] at hitems
    cases hitems
  obtain ⟨n, hscope, hrefers, hlocation, hinlines⟩ := heach.of_referringParameter rfl hroot ho hp
  obtain ⟨y, hy, hp'⟩ := hinlines hplain "a/b" (by decide) (by rw [hscope]) hrefers
  rw [hlocation] at hp'
  exact ⟨d, report, hbind, o, ho, p, hp, y, hy, hp'⟩

/-- In `listedParameter` the parameter of the operation is read, and there are no components. -/
theorem Registry.not_inlines_listedParameter :
    ∃ d report place root,
      (single Json.listedParameter).bind "http://example.invalid/" .standard .v31 "3.1.0" =
        .ok (d, report) ∧
      (single Json.listedParameter).place? "http://example.invalid/" = some place ∧
      Setting.root? ⟨single Json.listedParameter, place, .standard, .v31⟩ = some root ∧
      ¬ d.Each (fun κ n x => κ.Inlines root d.components n x) root := by
  have hrun : ((single Json.listedParameter).bind "http://example.invalid/" .standard .v31
      "3.1.0").toOption.map (fun left => (left.1.operations.head?.map
        fun o => o.2.parameters.head?.isSome, left.1.components.parameters.isEmpty)) =
        some (some true, true) := by decide +kernel
  obtain ⟨⟨d, report⟩, hbind, hrun⟩ := Option.map_eq_some_iff.mp hrun
  obtain ⟨hfirst, hempty⟩ := Prod.mk.inj hrun
  obtain ⟨o, ho, hfirst⟩ := Option.map_eq_some_iff.mp hfirst
  obtain ⟨p, hp⟩ := Option.isSome_iff_exists.mp hfirst
  replace ho := List.mem_of_mem_head? ho
  replace hp := List.mem_of_mem_head? hp
  have hplace : (single Json.listedParameter).place? "http://example.invalid/" = some 0 := by
    decide +kernel
  obtain ⟨root, hroot⟩ : ∃ root,
      Setting.root? ⟨single Json.listedParameter, 0, .standard, .v31⟩ = some root := ⟨_, rfl⟩
  refine ⟨d, report, 0, root, of_toOption_eq_some hbind, hplace, hroot, fun heach => ?_⟩
  obtain ⟨n, hscope, hrefers, -, hinlines⟩ := heach.of_referringParameter rfl hroot ho hp
  obtain ⟨y, hy, -⟩ := hinlines "0" (by decide) (by rw [hscope]) hrefers
  rw [PartKind.entries, List.isEmpty_iff.mp hempty] at hy
  cases hy

end ApiDescription
