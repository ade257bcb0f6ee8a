import ApiDescription.Proofs.Binding.Description
import ApiDescription.Proofs.Schema.Chains
import ApiDescription.Validation

/-!
# Numbers of schemas

Every number of a schema that a description names is one of a schema of its graph:
`Registry.schemaIds_lt_of_bind`.  Outside of schemas, this is so because a number is only ever put
where its schema was met.  Inside of schemas, it follows from what every schema was read as.

The checks take schemas out of the graph by their numbers.  `Description.validate?` gives nothing
as soon as one of them is not there.  This does not happen, since they only take what a chain of
references has reached.
-/

namespace ApiDescription

/-! ## Numbers in schemas -/

namespace Workspace

variable {S : Setting} {w : Workspace} {id : SchemaId} {s : Schema}

/-- What a schema is put together from is in the graph. -/
theorem Account.lt_size_of_mem_children (h : w.Account S id s) (hw : w.Sound S)
    (hs : w.graph.get? id = some s) : ∀ child ∈ s.shape.children, child < w.graph.size := by
  intro child hchild
  cases h with
  | read _ _ _ hread hunnamed =>
    rw [← Schema.shape_eq_of_unnamed hunnamed] at hchild
    obtain ⟨r, -, hheld⟩ := hread.held hchild
    exact hw.lt_size_of_held hheld
  | cut _ _ _ hunnamed _ =>
    have hany : s.shape = .any := congrArg Schema.shape hunnamed
    simp [hany] at hchild
  | part _ _ _ hpart hbefore =>
    obtain ⟨-, -, heq⟩ := hpart.of_get? hs
    have hid : id < w.graph.size := SchemaGraph.lt_size_iff.mpr ⟨s, hs⟩
    exact Nat.lt_trans (hbefore child (heq ▸ hchild)) hid

/-- What the references of a schema lead to is in the graph. -/
theorem Account.lt_size_of_mem_references (h : w.Account S id s) (hw : w.Sound S)
    (hs : w.graph.get? id = some s) : ∀ reference ∈ s.shape.references,
      ∀ target ∈ reference.state.target?, target < w.graph.size := by
  intro reference hreference target htarget
  cases h with
  | read _ _ _ hread hunnamed =>
    rw [← Schema.shape_eq_of_unnamed hunnamed] at hreference
    obtain ⟨at_, hsettles⟩ := hread.settles hreference
    obtain ⟨text, state⟩ := reference
    cases hsettles with
    | unresolved => simp [ReferenceState.target?] at htarget
    | resolved _ hslot => exact Option.some.inj htarget ▸ hw.lt_size_of_mem hslot
    | cyclic _ hslot => exact Option.some.inj htarget ▸ hw.lt_size_of_mem hslot
  | cut _ _ _ hunnamed _ =>
    have hany : s.shape = .any := congrArg Schema.shape hunnamed
    simp [hany] at hreference
  | part _ _ hshape hpart _ =>
    obtain ⟨-, -, heq⟩ := hpart.of_get? hs
    simp [heq, hshape.references_eq_nil] at hreference

/-- When a run has come to its end, all that schemas name is in the graph. -/
theorem Complete.lt_size_of_mem_schemaIds (h : w.Complete S) (hs : w.graph.get? id = some s) :
    ∀ other ∈ s.schemaIds, other < w.graph.size := by
  intro other hother
  have haccount := h.sound.account id s hs (h.not_open id)
  rcases List.mem_append.mp hother with hchild | htarget
  · exact haccount.lt_size_of_mem_children h.sound hs other hchild
  · obtain ⟨reference, hreference, htarget⟩ := List.mem_filterMap.mp htarget
    exact haccount.lt_size_of_mem_references h.sound hs reference hreference other htarget

end Workspace

/-! ## Taking schemas out of the graph -/

namespace SchemaGraph

variable {g : SchemaGraph} {id target : SchemaId}

/-- What a chain of references reaches is in the graph. -/
theorem exists_get?_of_resolve? (h : g.resolve? id = some target) :
    ∃ s, g.get? target = some s := by
  obtain ⟨s, hs, -⟩ := concrete_of_resolve? h
  exact ⟨s, hs⟩

end SchemaGraph

namespace Validation

variable {g : SchemaGraph}

/-- `anyPasses` with a test that may fail. -/
def anyPasses? (test : List SchemaId → SchemaId → Option (Bool × List SchemaId)) :
    List SchemaId → List SchemaId → Option (Bool × List SchemaId)
  | met, [] => some (false, met)
  | met, id :: rest => do
    match ← test met id with
    | (true, met) => return (true, met)
    | (false, met) => anyPasses? test met rest

/-- `declaresWithin`, which fails if a schema is taken that is not in the graph. -/
def declaresWithin? (g : SchemaGraph) (property : String) :
    Nat → List SchemaId → SchemaId → Option (Bool × List SchemaId)
  | 0, met, _ => some (false, met)
  | room + 1, met, id =>
    match g.resolve? id with
    | none => some (false, met)
    | some id =>
      if id ∈ met then some (false, met)
      else do
        match (← g.get? id).shape with
        | .object o => return (o.properties.contains property, id :: met)
        | .composed c =>
          anyPasses? (declaresWithin? g property room) (id :: met) (c.allOf ++ c.inlined.toList)
        | _ => return (false, id :: met)

/-- `declares`, which fails if a schema is taken that is not in the graph. -/
def declares? (g : SchemaGraph) (id : SchemaId) (property : String) : Option Bool :=
  (declaresWithin? g property (g.size + 1) [] id).map (·.1)

/-- `alternative`, which fails if a schema is taken that is not in the graph. -/
def alternative? (g : SchemaGraph) (s : Schema) (property : String) (id : SchemaId) :
    Option (List Diagnostic) :=
  match g.resolve? id with
  | none => some []
  | some target => do
    if !canDeclare (← g.get? target) then return []
    if ← declares? g target property then return []
    return [aboutDiscriminator s (.discriminatorUndeclaredBy property
      (schemaLabel (← g.get? target)))]

/-- `composedShape`, which fails if a schema is taken that is not in the graph. -/
def composedShape? (g : SchemaGraph) (id : SchemaId) (s : Schema) (c : ComposedShape) :
    Option (List Diagnostic) :=
  match c.discriminator with
  | none => some []
  | some d =>
    match c.oneOf ++ c.anyOf with
    | [] => do
      if ← declares? g id d.propertyName then return []
      return [aboutDiscriminator s (.discriminatorUndeclared d.propertyName)]
    | alternatives => (alternatives.mapM (alternative? g s d.propertyName)).map List.flatten

/-- `schema`, which fails if a schema is taken that is not in the graph. -/
def schema? (g : SchemaGraph) (id : SchemaId) (s : Schema) : Option (List Diagnostic) :=
  match s.shape with
  | .reference r => some (reference g id s r)
  | .object o => some (objectShape s o)
  | .composed c => composedShape? g id s c
  | _ => some []

/-- `schemas`, which fails if a schema is taken that is not in the graph. -/
def schemas? (d : Description) : Option (List Diagnostic) :=
  (d.schemas.numbered.mapM fun (id, s) => schema? d.schemas id s).map List.flatten

theorem anyPasses?_eq_some {test : List SchemaId → SchemaId → Bool × List SchemaId}
    {test? : List SchemaId → SchemaId → Option (Bool × List SchemaId)}
    (h : ∀ met id, test? met id = some (test met id)) (met ids : List SchemaId) :
    anyPasses? test? met ids = some (anyPasses test met ids) := by
  induction ids generalizing met with
  | nil => rfl
  | cons id rest ih =>
    rw [anyPasses?, h, anyPasses]
    cases htest : test met id with
    | mk passes met =>
      cases passes with
      | true => rfl
      | false => exact ih met

theorem declaresWithin?_eq_some (g : SchemaGraph) (property : String) (room : Nat)
    (met : List SchemaId) (id : SchemaId) :
    declaresWithin? g property room met id = some (declaresWithin g property room met id) := by
  induction room generalizing met id with
  | zero => rfl
  | succ room ih =>
    unfold declaresWithin? declaresWithin
    cases hresolve : g.resolve? id with
    | none => rfl
    | some target =>
      obtain ⟨s, hs⟩ := SchemaGraph.exists_get?_of_resolve? hresolve
      simp only [hs, Option.bind_eq_bind, Option.bind_some, Option.map_some]
      split
      · rfl
      · cases s.shape with
        | composed c => exact anyPasses?_eq_some ih _ _
        | _ => rfl

theorem declares?_eq_some (g : SchemaGraph) (id : SchemaId) (property : String) :
    declares? g id property = some (declares g id property) := by
  rw [declares?, declaresWithin?_eq_some, declares, Option.map_some]

theorem alternative?_eq_some (g : SchemaGraph) (s : Schema) (property : String) (id : SchemaId) :
    alternative? g s property id = some (alternative g s property id) := by
  unfold alternative? alternative
  cases hresolve : g.resolve? id with
  | none => rfl
  | some target =>
    obtain ⟨t, ht⟩ := SchemaGraph.exists_get?_of_resolve? hresolve
    simp only [ht, declares?_eq_some, Option.bind_eq_bind, Option.bind_some, Option.map_some]
    cases canDeclare t with
    | false => rfl
    | true => cases declares g target property <;> rfl

theorem mapM_flatten {α β : Type} {f? : α → Option (List β)} {f : α → List β}
    (h : ∀ a, f? a = some (f a)) (l : List α) :
    (l.mapM f?).map List.flatten = some (l.flatMap f) := by
  have hmapM : l.mapM f? = some (l.map f) := by
    rw [funext h]
    exact List.mapM_pure
  rw [hmapM, Option.map_some, List.flatMap_def]

theorem composedShape?_eq_some (g : SchemaGraph) (id : SchemaId) (s : Schema) (c : ComposedShape) :
    composedShape? g id s c = some (composedShape g id s c) := by
  unfold composedShape? composedShape
  cases c.discriminator with
  | none => rfl
  | some d =>
    simp only [declares?_eq_some, Option.bind_eq_bind, Option.bind_some]
    cases c.oneOf ++ c.anyOf with
    | nil => cases declares g id d.propertyName <;> rfl
    | cons first rest => exact mapM_flatten (alternative?_eq_some g s d.propertyName) _

theorem schema?_eq_some (g : SchemaGraph) (id : SchemaId) (s : Schema) :
    schema? g id s = some (schema g id s) := by
  unfold schema? schema
  cases s.shape with
  | composed c => exact composedShape?_eq_some g id s c
  | _ => rfl

theorem schemas?_eq_some (d : Description) : schemas? d = some (schemas d) :=
  mapM_flatten (fun entry : SchemaId × Schema => schema?_eq_some d.schemas entry.1 entry.2) _

end Validation

/-- What the checks find, if all schemas are there that they take out of the graph. -/
def Description.problems? (d : Description) : Option (List Diagnostic) :=
  (Validation.schemas? d).map fun found =>
    Validation.paths d ++ Validation.operations d ++ Validation.security d ++ Validation.tags d ++
      Validation.componentKeys d ++ Validation.servers d ++ found

/-- The report with what the checks find, if all schemas are there that they take out of the
graph. -/
def Description.validate? (d : Description) (r : Report) : Option Report :=
  d.problems?.map r.extend

theorem Description.validate?_eq_some (d : Description) (r : Report) :
    d.validate? r = some (d.validate r) := by
  rw [validate?, problems?, Validation.schemas?_eq_some]
  rfl

/-! ## Descriptions -/

/-- Every schema that a description names, outside of schemas or in them, is among its schemas, and
the checks of the description take no schema that is not. -/
theorem Registry.schemaIds_lt_of_bind {r : Registry} {entry : String} {options : Options}
    {version : Version} {declared : String} {d : Description} {report : Report}
    (h : r.bind entry options version declared = .ok (d, report)) :
    (∀ id ∈ d.schemaIds, id < d.schemas.size) ∧
      ∀ before : Report, d.validate? before = some (d.validate before) := by
  obtain ⟨w, hrun, -⟩ := exists_run_of_bind h
  obtain ⟨place, -, hw, hgraph⟩ := complete_of_run hrun
  refine ⟨fun id hid => ?_, d.validate?_eq_some⟩
  rcases List.mem_append.mp hid with houter | hinner
  · exact named_of_run hrun id houter
  · obtain ⟨s, hs, hid⟩ := List.mem_flatMap.mp hinner
    obtain ⟨holder, hholder⟩ := List.mem_iff_getElem?.mp hs
    rw [hgraph] at hholder ⊢
    exact hw.lt_size_of_mem_schemaIds hholder id hid

/-- All schemas that `partFirst` names are there. -/
theorem Registry.schemaIds_lt_partFirst :
    ∃ d report, (single partFirst).bind "http://example.invalid/" .standard .v31 "3.1.0" =
        .ok (d, report) ∧
      (∀ id ∈ d.schemaIds, id < d.schemas.size) ∧
        ∀ before : Report, d.validate? before = some (d.validate before) := by
  obtain ⟨d, report, hbind, -⟩ := exists_bind_partFirst
  exact ⟨d, report, hbind, schemaIds_lt_of_bind hbind⟩

end ApiDescription
