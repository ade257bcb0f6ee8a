import ApiDescription.Proofs.Schema.Once
import ApiDescription.Proofs.Schema.Shapes

/-!
# Types and bounds

A schema names the types of its values and bounds its numbers.  What it is read as says this in
another way: `null` becomes a mark of the schema unless it is the only type, several types become
alternatives, each of them once, and a truth value that forbids to reach a bound turns the bound
into another one.  `Registry.types_kept_of_bind` says that no type is gained or lost on the way, and
that the same numbers are within the bounds.
-/

namespace ApiDescription

/-! ## What is written -/

namespace Json

/-- The types that a schema names: one, or where schemas follow JSON Schema a list of them, with
repetitions and in any order.  Of what else a schema may be, it is no reference and no composition.
-/
structure NamesTypes (v : Json) (version : Version) (names : List String) : Prop where
  /-- The schema is no reference and no composition. -/
  plain : ∀ key ∈ ["$ref", "allOf", "oneOf", "anyOf", "not"], v.member? key = none
  /-- The names are written under `type`. -/
  written : (∃ name, names = [name] ∧ v.member? "type" = some (.string name)) ∨
    (version.followsJsonSchema ∧ names ≠ [] ∧ v.member? "type" = some (.array (names.map .string)))
  /-- All of them are known, `null` where schemas follow JSON Schema. -/
  known : ∀ name ∈ names, name ∈ Record.typeNames ∨ (version.followsJsonSchema ∧ name = "null")

/-- What is asked of a number on one side.  Under `key` is a bound that it keeps `within`; under
`exclusive` there is another one that it keeps `off`, or a truth value that says the same of the
first. -/
def Bounds (v : Json) (version : Version) (key exclusive : String) (within off : Float → Prop) :
    Prop :=
  if version.followsJsonSchema then
    (∀ n, v.member? key = some (.number n) → within n.toFloat) ∧
      ∀ n, v.member? exclusive = some (.number n) → off n.toFloat
  else
    ∀ n, v.member? key = some (.number n) →
      (v.member? exclusive = some (.bool true) → off n.toFloat) ∧
        (v.member? exclusive ≠ some (.bool true) → within n.toFloat)

/-- The numbers that a schema admits by its bounds. -/
def Admits (v : Json) (version : Version) {α : Type} [LE α] [LT α] (value : Float → α) (x : α) :
    Prop :=
  v.Bounds version "minimum" "exclusiveMinimum" (value · ≤ x) (value · < x) ∧
    v.Bounds version "maximum" "exclusiveMaximum" (x ≤ value ·) (x < value ·)

end Json

/-! ## What is read -/

/-- The numbers that a scalar admits by its bounds. -/
structure ScalarShape.Admits (s : ScalarShape) {α : Type} [LE α] [LT α] (value : Float → α)
    (x : α) : Prop where
  /-- The least value is not above. -/
  minimum : ∀ m ∈ s.minimum, value m ≤ x
  /-- The greatest value is not below. -/
  maximum : ∀ m ∈ s.maximum, x ≤ value m
  /-- The exclusive lower bound is below. -/
  exclusiveMinimum : ∀ m ∈ s.exclusiveMinimum, value m < x
  /-- The exclusive upper bound is above. -/
  exclusiveMaximum : ∀ m ∈ s.exclusiveMaximum, x < value m

/-- The name of the type of which all values of a shape are. -/
def Shape.typeName? : Shape → Option String
  | .scalar s => some s.type.name
  | .object _ => some "object"
  | .array _ => some "array"
  | _ => none

/-- The shapes of one type each among which a value has to have one. -/
inductive SchemaGraph.Offers (g : SchemaGraph) : Shape → List Shape → Prop
  /-- The shape itself. -/
  | itself {shape : Shape} (htype : shape.typeName?.isSome) : Offers g shape [shape]
  /-- The shapes of alternatives, of which nothing else is said. -/
  | anyOf {c : ComposedShape} {shapes : List Shape}
      (hothers : c.allOf = [] ∧ c.oneOf = [] ∧ c.negated = none ∧ c.inlined = none)
      (hshapes : List.Forall₂ (fun id shape => ∃ t, g.get? id = some t ∧ t.shape = shape ∧
        t.nullable = false ∧ shape.typeName?.isSome) c.anyOf shapes) :
      Offers g (.composed c) shapes

/-- A schema has the types that a value names, and `null` if the value says so besides; and of its
numbers it admits those that the value admits. -/
structure SchemaGraph.Keeps (g : SchemaGraph) (s : Schema) (v : Json) (version : Version)
    (names : List String) (shapes : List Shape) : Prop where
  /-- A value has one of some shapes. -/
  offers : g.Offers s.shape shapes
  /-- Their types are those that are named, up to `null`. -/
  types : ∀ name, some name ∈ shapes.map Shape.typeName? ∨ name = "null" ∧ s.nullable = true ↔
    name ∈ names ∨ name = "null" ∧ v.member? "nullable" = some (.bool true)
  /-- The bounds of scalars are those that are written. -/
  bounds : ∀ b, Shape.scalar b ∈ shapes →
    ∀ {α : Type} [LE α] [LT α] (value : Float → α) (x : α),
      b.Admits value x ↔ v.Admits version value x

/-! ## Reading types -/

namespace Record

open Binding

variable {r : Record} {names : List String}

/-- The names are given as they are written. -/
theorem givenTypes_gives_eq (h : r.value.NamesTypes r.scope.version names) :
    r.givenTypes.Gives (· = names) := by
  have hfield : ∀ {value : Json}, r.value.member? "type" = some value →
      r.field? "type" = some (r.child ("type", value)) := by
    intro value hvalue
    rw [field?, ← member?_value, hvalue]
    rfl
  unfold givenTypes
  rcases h.written with ⟨name, rfl, hname⟩ | ⟨hversion, -, hlist⟩
  · rw [hfield hname]
    exact .pure rfl
  · rw [hfield hlist]
    simp only [child, Scope.followsJsonSchema, hversion, Bool.not_true, Bool.false_eq_true,
      if_false]
    refine .bind_of (Node.onlyTells_items _ _).gives fun items hitems =>
      .imp (.collect_eq (g := fun item => item.value.string?) fun item hitem => ?_)
        fun given hgiven => ?_
    · rw [hitems, Node.result_items] at hitem
      obtain ⟨⟨value, place⟩, hentry, rfl⟩ := List.mem_map.mp hitem
      obtain ⟨name, -, rfl⟩ := List.mem_map.mp (List.fst_mem_of_mem_zipIdx hentry)
      exact .pure rfl
    · rw [hgiven, hitems, Node.result_items]
      simp only [Node.itemNodes, List.zipIdx_map, List.map_map, List.filterMap_map]
      calc (names.zipIdx).filterMap _ = (names.zipIdx.map Prod.fst).filterMap some := by
            rw [List.filterMap_map]
            rfl
        _ = names := by rw [List.zipIdx_map_fst, List.filterMap_some]

/-- Names are sorted into the types that are not `null`, each of which is kept, and `null`. -/
theorem sortTypes_gives_iff (r : Record) (types : Types) (names : List String) :
    (r.sortTypes types names).Gives fun sorted =>
      (sorted.withNull = true ↔
        types.withNull = true ∨ r.scope.followsJsonSchema = true ∧ "null" ∈ names) ∧
      ∀ name, name ∈ sorted.names ↔ name ∈ types.names ∨ name ∈ names ∧ name ∈ typeNames := by
  induction names generalizing types with
  | nil => exact .pure ⟨by simp, by simp⟩
  | cons first rest ih =>
    unfold sortTypes
    split
    · next hnull =>
      obtain ⟨hfirst, hversion⟩ : first = "null" ∧ r.scope.followsJsonSchema = true := by
        simpa using hnull
      have htype : "null" ∉ typeNames := by decide
      refine (ih _).imp fun sorted hsorted => ?_
      obtain ⟨hwith, hnames⟩ := hsorted
      refine ⟨?_, fun name => ?_⟩
      · simp [hwith, hfirst, hversion]
      · rw [hnames name, List.mem_cons]
        grind
    · next hnull =>
      have hfirst : r.scope.followsJsonSchema = true → first ≠ "null" := by
        intro hversion heq
        simp [hversion, heq] at hnull
      split
      · next htype =>
        refine (ih _).imp fun sorted hsorted => ?_
        obtain ⟨hwith, hnames⟩ := hsorted
        refine ⟨?_, fun name => ?_⟩
        · rw [hwith, List.mem_cons]
          grind
        · have htype := List.contains_iff_mem.mp htype
          rw [hnames name, List.mem_cons]
          dsimp only
          split
          · next hold => grind
          · next hold => grind
      · next htype =>
        have htype : first ∉ typeNames := fun h => htype (List.contains_iff_mem.mpr h)
        refine .bind fun _ => (ih _).imp fun sorted hsorted => ?_
        obtain ⟨hwith, hnames⟩ := hsorted
        refine ⟨?_, fun name => ?_⟩
        · rw [hwith, List.mem_cons]
          grind
        · rw [hnames name, List.mem_cons]
          grind

/-- The types are those that are named; there is one besides the mark for `null`. -/
theorem types_gives_iff (h : r.value.NamesTypes r.scope.version names) :
    r.types.Gives fun types => types.names ≠ [] ∧
      ∀ name, name ∈ types.names ∨ name = "null" ∧ types.withNull = true ↔ name ∈ names := by
  refine .bind_of (givenTypes_gives_eq h) fun given hgiven => ?_
  refine .bind_of (r.sortTypes_gives_iff ⟨[], false⟩ given) fun types ⟨hnull, hnames⟩ => ?_
  rw [hgiven] at hnull hnames
  have hknown := h.known
  have hnonempty : names ≠ [] := by
    rcases h.written with ⟨name, rfl, -⟩ | ⟨-, hnonempty, -⟩
    · simp
    · exact hnonempty
  have hall : ∀ name, name ∈ types.names ∨ name = "null" ∧ types.withNull = true ↔
      name ∈ names := by
    intro name
    rw [hnames, hnull]
    have hversion : r.scope.followsJsonSchema = r.scope.version.followsJsonSchema := rfl
    have htype : "null" ∉ typeNames := by decide
    grind
  split
  · next halone =>
    obtain ⟨hempty, hwith⟩ : types.names = [] ∧ types.withNull = true := by simpa using halone
    refine .pure ⟨by simp, fun name => ?_⟩
    rw [← hall name, hempty]
    simp [hwith]
  · next halone =>
    refine .pure ⟨fun hempty => ?_, hall⟩
    obtain ⟨name, hname⟩ := List.exists_mem_of_ne_nil names hnonempty
    rcases (hall name).mpr hname with hmem | ⟨-, hwith⟩
    · simp [hempty] at hmem
    · simp [hempty, hwith] at halone

/-- A schema is marked for `null` if this is written. -/
theorem annotated_gives_nullable (r : Record) :
    r.annotated.Gives fun s =>
      s.nullable = true ↔ r.value.member? "nullable" = some (.bool true) := by
  have hbool : ∀ (value : Json) (b : Bool), value.bool? = some b ↔ value = .bool b := by
    intro value b
    cases value <;> simp [Json.bool?]
  have hflag : (r.flag? "nullable").Gives fun nullable? =>
      nullable?.getD false = true ↔ r.value.member? "nullable" = some (.bool true) := by
    unfold flag? read?
    rw [member?_value]
    cases hvalue : r.members.get? "nullable" with
    | none => exact .pure (by simp)
    | some value =>
      dsimp only
      cases hread : value.bool? with
      | some b =>
        obtain rfl := (hbool value b).mp hread
        exact .pure (by simp)
      | none =>
        have hvalue : value ≠ .bool true := fun heq => by
          rw [(hbool value true).mpr heq] at hread
          cases hread
        exact .bind fun _ => .pure (by simpa using hvalue)
  refine .bind fun _ => .bind fun _ => .bind fun _ => .bind fun _ => .bind fun _ => ?_
  refine .bind fun _ => .bind fun _ => .bind_of hflag fun nullable? hnullable => ?_
  exact .ite (.bind fun _ => .pure hnullable) (.pure hnullable)

/-! ## Reading bounds -/

/-- The double in a field; anything else counts as nothing. -/
def double? (r : Record) (key : String) : Option Float :=
  match r.members.get? key with
  | some (.number n) => some n.toFloat
  | _ => none

theorem mem_double?_iff {key : String} {m : Float} :
    m ∈ r.double? key ↔ ∃ n, r.value.member? key = some (.number n) ∧ n.toFloat = m := by
  rw [member?_value, double?]
  cases r.members.get? key with
  | none => simp
  | some value => cases value <;> simp

theorem number?_gives (r : Record) (key : String) : (r.number? key).Gives (· = r.double? key) := by
  unfold number? read? double?
  cases r.members.get? key with
  | none => exact .pure rfl
  | some value =>
    cases value with
    | number n => exact .pure rfl
    | _ => exact .bind fun _ => .pure rfl

/-- The bound that is exclusive, and the other one. -/
def boundsOf (r : Record) (key exclusive : String) : Option Float × Option Float :=
  if r.scope.followsJsonSchema then (r.double? exclusive, r.double? key)
  else
    match r.members.get? exclusive with
    | some (.bool true) => (r.double? key, none)
    | _ => (none, r.double? key)

theorem exclusiveBound_gives (r : Record) (key exclusive : String) :
    (r.exclusiveBound exclusive (r.double? key)).Gives (· = r.boundsOf key exclusive) := by
  unfold exclusiveBound boundsOf
  cases hversion : r.scope.followsJsonSchema with
  | true =>
    simp only [if_true, double?]
    cases r.members.get? exclusive with
    | none => exact .pure rfl
    | some value =>
      cases value with
      | number n => exact .pure rfl
      | bool b => exact .bind fun _ => .pure rfl
      | _ => exact .bind fun _ => .pure rfl
  | false =>
    simp only [Bool.false_eq_true, if_false]
    cases r.members.get? exclusive with
    | none => exact .pure rfl
    | some value =>
      cases value with
      | bool b => cases b <;> exact .pure rfl
      | _ => exact .bind fun _ => .pure rfl

theorem scalarShape_gives_bounds (r : Record) (type : ScalarType) :
    (r.scalarShape type).Gives fun s =>
      (s.exclusiveMinimum, s.minimum) = r.boundsOf "minimum" "exclusiveMinimum" ∧
        (s.exclusiveMaximum, s.maximum) = r.boundsOf "maximum" "exclusiveMaximum" := by
  refine .bind fun _ => ?_
  refine .bind_of (r.number?_gives "minimum") fun minimum hminimum => ?_
  refine .bind_of (r.number?_gives "maximum") fun maximum hmaximum => ?_
  rw [hminimum, hmaximum]
  refine .bind_of (r.exclusiveBound_gives _ _) fun lower hlower => ?_
  refine .bind_of (r.exclusiveBound_gives _ _) fun upper hupper => ?_
  refine .bind fun _ => .bind fun _ => .bind fun _ => .bind fun _ => ?_
  exact .pure ⟨hlower, hupper⟩

/-- The two bounds on one side ask what is written on that side. -/
theorem bounds_iff (r : Record) (key exclusive : String) (within off : Float → Prop) :
    (∀ m ∈ (r.boundsOf key exclusive).2, within m) ∧ (∀ m ∈ (r.boundsOf key exclusive).1, off m) ↔
      r.value.Bounds r.scope.version key exclusive within off := by
  have hdouble : ∀ {key : String} {P : Float → Prop}, (∀ m ∈ r.double? key, P m) ↔
      ∀ n, r.value.member? key = some (.number n) → P n.toFloat := by
    intro key P
    simp only [mem_double?_iff]
    exact ⟨fun h n hn => h _ ⟨n, hn, rfl⟩, fun h m ⟨n, hn, hm⟩ => hm ▸ h n hn⟩
  have hversion : r.scope.followsJsonSchema = r.scope.version.followsJsonSchema := rfl
  unfold boundsOf Json.Bounds
  rw [hversion]
  split
  · rw [hdouble, hdouble]
  · rw [← member?_value]
    -- a truth value moves the bound from one side of the pair to the other
    split
    · next hexclusive => simpa [hexclusive] using hdouble
    · next hexclusive =>
      have hoff : r.value.member? exclusive ≠ some (.bool true) := hexclusive
      simpa [hoff] using hdouble

theorem admits_iff {s : ScalarShape} (h : s = (r.scalarShape s.type).result) {α : Type} [LE α]
    [LT α] (value : Float → α) (x : α) :
    s.Admits value x ↔ r.value.Admits r.scope.version value x := by
  obtain ⟨hlower, hupper⟩ := (r.scalarShape_gives_bounds s.type).result
  rw [← h] at hlower hupper
  rw [Json.Admits, ← bounds_iff, ← bounds_iff, ← hlower, ← hupper]
  constructor
  · rintro ⟨hminimum, hmaximum, hexclusiveMinimum, hexclusiveMaximum⟩
    exact ⟨⟨hminimum, hexclusiveMinimum⟩, hmaximum, hexclusiveMaximum⟩
  · rintro ⟨⟨hminimum, hexclusiveMinimum⟩, hmaximum, hexclusiveMaximum⟩
    exact ⟨hminimum, hmaximum, hexclusiveMinimum, hexclusiveMaximum⟩

/-- A shape is of a type, and as a scalar it is read from an object. -/
structure OfType (r : Record) (name : String) (shape : Shape) : Prop where
  /-- All its values are of the type. -/
  type : shape.typeName? = some name
  /-- A scalar is read from the object. -/
  scalar : ∀ s, shape = .scalar s → s = (r.scalarShape s.type).result

/-- What tells alternatives apart changes no type. -/
theorem OfType.discriminated {name : String} {shape : Shape} (h : r.OfType name shape)
    (d : Discriminator) : r.OfType name (shape.discriminated d) := by
  obtain ⟨htype, hscalar⟩ := h
  cases shape with
  | object o => exact ⟨htype, fun _ hs => Shape.noConfusion hs⟩
  | any => cases htype
  | composed c => cases htype
  | _ => exact ⟨htype, hscalar⟩

/-- So the types of shapes are those that they are of, in order. -/
theorem map_typeName?_of_ofType {shapes : List Shape}
    (h : List.Forall₂ r.OfType names shapes) :
    shapes.map Shape.typeName? = names.map some := by
  have heq : List.Forall₂ (· = ·) (shapes.map Shape.typeName?) (names.map some) :=
    List.forall₂_map_left_iff.mpr (List.forall₂_map_right_iff.mpr (h.flip.imp fun _ _ h => h.type))
  rwa [List.forall₂_eq_eq_eq] at heq

/-- No type is read that there is not. -/
theorem known_of_mem_types {name : String} (h : name ∈ r.types.result.names) :
    name ∈ "null" :: typeNames := by
  rcases r.types_gives.result with heq | hall
  · rw [heq] at h
    exact List.mem_cons.mpr (.inl (List.mem_singleton.mp h))
  · exact List.mem_cons_of_mem _ (hall name h)

end Record

/-! ## Schemas -/

namespace Workspace

variable {S : Setting} {w : Workspace} {r : Record} {names : List String} {shape : Shape}

/-- The shape that a known type gives is of this type. -/
theorem Typed.ofType {name : String} (h : w.Typed r name shape)
    (hname : name ∈ "null" :: Record.typeNames) : r.OfType name shape := by
  cases h with
  | object _ => exact ⟨rfl, fun _ hs => Shape.noConfusion hs⟩
  | array _ => exact ⟨rfl, fun _ hs => Shape.noConfusion hs⟩
  | @scalar _ s _ _ htype hread =>
    have hfound : s.type.name = name := by simpa using List.find?_some htype
    refine ⟨congrArg some hfound, fun s' hs => ?_⟩
    obtain rfl := Shape.scalar.inj hs
    exact hread
  | any hobject harray htype =>
    have htypes : ∀ name ∈ "null" :: Record.typeNames, name = "object" ∨ name = "array" ∨
        (ScalarType.ofName? name).isSome := by decide
    rcases htypes name hname with heq | heq | hsome
    · exact absurd heq hobject
    · exact absurd heq harray
    · simp [htype] at hsome

/-- Each of the types that there are is offered. -/
theorem Structural.offers (h : w.Structural r names shape) (hnonempty : names ≠ [])
    (hnames : ∀ name ∈ names, name ∈ "null" :: Record.typeNames) :
    ∃ shapes, w.graph.Offers shape shapes ∧ List.Forall₂ r.OfType names shapes := by
  cases h with
  | untyped => exact absurd rfl hnonempty
  | @typed name _ h =>
    have htype := h.ofType (hnames name List.mem_cons_self)
    exact ⟨[shape], .itself (by simp [htype.type]), .cons htype .nil⟩
  | @several _ ids hseveral h =>
    clear hseveral hnonempty
    have hshapes : ∃ shapes, List.Forall₂ (fun id shape => ∃ t, w.graph.get? id = some t ∧
        t.shape = shape ∧ t.nullable = false ∧ shape.typeName?.isSome) ids shapes ∧
        List.Forall₂ r.OfType names shapes := by
      induction h with
      | nil => exact ⟨[], .nil, .nil⟩
      | @cons name id rest ids hfirst _ ih =>
        obtain ⟨shape, htyped, hpart⟩ := hfirst
        obtain ⟨t, ht, hunnamed⟩ := hpart.schema
        have htype := htyped.ofType (hnames name List.mem_cons_self)
        obtain ⟨shapes, hids, hshapes⟩ := ih fun other h => hnames other (List.mem_cons_of_mem _ h)
        refine ⟨shape :: shapes, .cons ⟨t, ht, ?_, ?_, ?_⟩ hids, .cons htype hshapes⟩
        · exact congrArg Schema.shape hunnamed
        · exact congrArg Schema.nullable hunnamed
        · simp [htype.type]
    obtain ⟨shapes, hids, hshapes⟩ := hshapes
    exact ⟨shapes, .anyOf ⟨rfl, rfl, rfl, rfl⟩ hids, hshapes⟩

/-- Without compositions, each of the types is offered, also where alternatives are told apart. -/
theorem Shaped.offers (h : w.Shaped S r names shape) (hkeys : ¬ r.hasAny Record.compositionKeys)
    (hnonempty : names ≠ []) (hnames : ∀ name ∈ names, name ∈ "null" :: Record.typeNames) :
    ∃ shapes, w.graph.Offers shape shapes ∧ List.Forall₂ r.OfType names shapes := by
  cases h with
  | structural _ h => exact h.offers hnonempty hnames
  | @discriminated plain d _ h _ =>
    obtain ⟨shapes, hoffers, hshapes⟩ := h.offers hnonempty hnames
    cases hoffers with
    | itself _ =>
      cases hshapes with
      | cons hfirst hrest =>
        cases hrest
        have htype := hfirst.discriminated d
        exact ⟨[plain.discriminated d], .itself (by simp [htype.type]), .cons htype .nil⟩
    | anyOf hothers hids => exact ⟨shapes, .anyOf hothers hids, hshapes⟩
  | composed hkeys' => exact absurd hkeys' hkeys

/-- A schema of the shape that an object is read as keeps the types that the object names. -/
theorem Shaped.keeps {s : Schema} (h : w.Shaped S r r.types.result.names s.shape)
    (hnullable : s.nullable = (r.annotated.result.nullable || r.types.result.withNull))
    (hv : r.value.NamesTypes r.scope.version names) :
    ∃ shapes, w.graph.Keeps s r.value r.scope.version names shapes := by
  have hkeys : ¬ r.hasAny Record.compositionKeys := by
    rw [← isSome_member?_iff]
    rintro ⟨key, hkey, hsome⟩
    rw [hv.plain key (List.mem_cons_of_mem _ hkey)] at hsome
    cases hsome
  obtain ⟨hnonempty, htypes⟩ := (Record.types_gives_iff hv).result
  obtain ⟨shapes, hoffers, hshapes⟩ :=
    h.offers hkeys hnonempty fun _ => Record.known_of_mem_types
  refine ⟨shapes, hoffers, fun name => ?_, fun b hb => ?_⟩
  · have hmark := r.annotated_gives_nullable.result
    rw [Record.map_typeName?_of_ofType hshapes, hnullable, ← htypes name, ← hmark,
      Bool.or_eq_true]
    simp only [List.mem_map, Option.some.injEq, exists_eq_right]
    tauto
  · obtain ⟨name, -, htype⟩ := exists_of_forall₂ hshapes hb
    exact fun value x => Record.admits_iff (htype.scalar b rfl) value x

/-- An object that names types is read as a schema that keeps them. -/
theorem Yields.keeps {n : Node} {s : Schema} (h : w.Yields S n s)
    (hv : n.value.NamesTypes n.scope.version names) :
    ∃ shapes, w.graph.Keeps s n.value n.scope.version names shapes := by
  have hreference := hv.plain "$ref" (by simp)
  obtain ⟨type, htype⟩ : ∃ type, n.value.member? "type" = some type := by
    rcases hv.written with ⟨name, -, hname⟩ | ⟨-, -, hlist⟩
    · exact ⟨_, hname⟩
    · exact ⟨_, hlist⟩
  -- a value with a type and without a reference is read as a shape
  cases h with
  | truth hvalue _ => simp [hvalue, Json.member?] at htype
  | unusable hobject _ =>
    unfold Node.object? at hobject
    cases hvalue : n.value <;> simp_all [Json.member?]
  | misreferenced hobject hvalue _ =>
    rw [(Node.of_object? hobject).2.2] at hreference
    exact absurd (hvalue.symm.trans hreference) (Option.some_ne_none _)
  | reference hobject hvalue =>
    rw [(Node.of_object? hobject).2.2] at hreference
    exact absurd (hvalue.symm.trans hreference) (Option.some_ne_none _)
  | @shaped r _ hobject _ hshape _ _ hnullable =>
    obtain ⟨hscope, -, hvalue⟩ := Node.of_object? hobject
    have hmembers : n.value = r.value := hvalue
    rw [hmembers, ← hscope] at hv ⊢
    exact hshape.keeps hnullable hv

/-- What was met at a node that names types keeps them, if no error is reported there. -/
theorem Complete.keeps (hw : w.Complete S) (hwf : S.registry.WellFormed) {c : Scope}
    (hc : c.Registered S) {p : Pointer} {v : Json} (hv : c.source.root.at? p = some v)
    (hnames : v.NamesTypes S.version names) {id : SchemaId} (hmet : w.Met ⟨c.place, p⟩ id)
    (hclean : ∀ found ∈ w.report.diagnostics, found.document = c.label → found.pointer = p →
      found.severity ≠ .error) :
    ∃ s shapes, w.graph.get? id = some s ∧ s.document = c.label ∧ s.location = p ∧
      w.graph.Keeps s v S.version names shapes := by
  obtain ⟨slot, hslot, rfl⟩ := hmet
  obtain ⟨m, hm, hsite, s, hs, hdocument, hlocation⟩ := hw.sound.stands _ hslot
  have hnode : ∀ {n : Node}, n.Sited S → n.site = ⟨c.place, p⟩ → n = ⟨c, p, v⟩ := by
    intro n hn hplace
    obtain ⟨scope, pointer, value⟩ := n
    obtain rfl : scope = c := hn.scope.ext hc (congrArg Site.document hplace)
    obtain rfl : pointer = p := congrArg Site.pointer hplace
    have hvalue : scope.source.root.at? pointer = some value := (hn.value hwf).1
    rw [Option.some.inj (hvalue.symm.trans hv)]
  obtain rfl := hnode hm hsite
  cases hw.sound.account slot.id s hs (hw.not_open slot.id) with
  | @read n t hn _ hbound hread hunnamed =>
    obtain rfl := hnode hn (hw.sound.apart _ hbound _ hslot rfl)
    rw [← hc.version] at hnames ⊢
    obtain ⟨shapes, hoffers, htypes, hbounds⟩ := hread.keeps hnames
    have hshape := Schema.shape_eq_of_unnamed hunnamed
    have hnullable : t.nullable = s.nullable := congrArg (·.nullable) hunnamed
    exact ⟨s, shapes, hs, hdocument, hlocation, hshape ▸ hoffers, hnullable ▸ htypes, hbounds⟩
  | @cut n hn _ hbound _ htold =>
    -- a schema that is cut off is an error
    obtain rfl := hnode hn (hw.sound.apart _ hbound _ hslot rfl)
    exact absurd rfl (hclean _ htold rfl rfl)
  | part _ _ _ hpart _ => exact absurd ⟨slot, hslot, rfl⟩ (hpart.not_met _)

end Workspace

/-- Wherever a description has a schema that names known types, what the schema is read as accepts
values of these types and of no others, and admits the same numbers; unless an error is reported of
the schema. -/
theorem Registry.types_kept_of_bind {r : Registry} {entry : String} {options : Options}
    {version : Version} {declared : String} {d : Description} {report : Report}
    (hwf : r.WellFormed) (h : r.bind entry options version declared = .ok (d, report)) :
    ∃ place w, r.place? entry = some place ∧ r.run entry options version declared = .ok (d, w) ∧
      ∀ c : Scope, c.Registered ⟨r, place, options, version⟩ → ∀ p v names,
        c.source.root.at? p = some v → v.NamesTypes version names →
        ∀ id, w.Met ⟨c.place, p⟩ id →
          (∀ found ∈ report.diagnostics, found.document = c.label → found.pointer = p →
            found.severity ≠ .error) →
          ∃ s shapes, d.schemas.get? id = some s ∧ s.document = c.label ∧ s.location = p ∧
            d.schemas.Keeps s v version names shapes := by
  obtain ⟨w, hrun, rfl⟩ := exists_run_of_bind h
  obtain ⟨place, hplace, hw, hgraph⟩ := complete_of_run hrun
  refine ⟨place, w, hplace, hrun, fun c hc p v names hv hnames id hmet hclean => ?_⟩
  rw [hgraph]
  exact hw.keeps hwf hc hv hnames hmet hclean

/-- A schema of two types and `null`, one of which it names twice. -/
def boundedTypes : Json :=
  .object [("type", .array [.string "string", .string "null", .string "integer", .string "string"]),
    ("minimum", .number (.int 1)), ("exclusiveMaximum", .number (.int 5))]

/-- A description with the schema `boundedTypes`. -/
def boundedOnly : Json :=
  .object [("openapi", .string "3.1.0"),
    ("info", .object [("title", .string ""), ("version", .string "")]),
    ("components", .object [("schemas", .object [("A", boundedTypes)])])]

theorem wellFormed_boundedOnly : boundedOnly.WellFormed := by
  simp [boundedOnly, boundedTypes, Json.WellFormed, Json.WellFormedMembers, Json.WellFormedItems,
    Entries.names]

theorem namesTypes_boundedTypes :
    boundedTypes.NamesTypes .v31 ["string", "null", "integer", "string"] where
  plain := by decide
  written := .inr ⟨rfl, by decide, rfl⟩
  known := by decide

/-- What is read as the schema in `boundedOnly` keeps its types and bounds. -/
theorem Registry.types_kept_boundedOnly :
    (single boundedOnly).WellFormed ∧ ∃ d report,
      (single boundedOnly).bind "http://example.invalid/" .standard .v31 "3.1.0" =
        .ok (d, report) ∧
      ∃ s shapes, d.schemas.get? 0 = some s ∧
        d.schemas.Keeps s boundedTypes .v31 ["string", "null", "integer", "string"] shapes := by
  have hwf := wellFormed_single wellFormed_boundedOnly
  have hplace : (single boundedOnly).place? "http://example.invalid/" = some 0 := by decide +kernel
  have hleft : ((single boundedOnly).run "http://example.invalid/" .standard .v31
      "3.1.0").toOption.map (fun left => (left.2.report.diagnostics.isEmpty,
        left.2.slots.contains
          (⟨0, ((Pointer.root.push "components").push "schemas").push "A"⟩, .bound 0))) =
      some (true, true) := by decide +kernel
  cases hrun : (single boundedOnly).run "http://example.invalid/" .standard .v31 "3.1.0" with
  | error fault => simp [hrun, Except.toOption] at hleft
  | ok left =>
    have hbind : (single boundedOnly).bind "http://example.invalid/" .standard .v31 "3.1.0" =
        .ok (left.1, left.2.report) := by
      rw [bind_eq_map_run, hrun]
      rfl
    obtain ⟨place, w, hplace', hrun', hkeeps⟩ := types_kept_of_bind hwf hbind
    obtain rfl := Option.some.inj (hplace.symm.trans hplace')
    obtain rfl := (Prod.mk.inj (Except.ok.inj (hrun.symm.trans hrun'))).2
    rw [hrun] at hleft
    obtain ⟨hclean, hslot⟩ := Prod.mk.inj (Option.some.inj hleft)
    rw [List.isEmpty_iff] at hclean
    obtain ⟨s, shapes, hs, -, -, hkept⟩ := hkeeps
      ⟨⟨single boundedOnly, 0, .standard, .v31⟩, 0, .ofLoaded Uri.placeholder ⟨.json, boundedOnly⟩⟩
      ⟨rfl, rfl⟩ (((Pointer.root.push "components").push "schemas").push "A") boundedTypes _ rfl
      namesTypes_boundedTypes 0
      ⟨.bound 0, List.contains_iff_mem.mp hslot, rfl⟩ (by simp [hclean])
    exact ⟨hwf, left.1, left.2.report, hbind, s, shapes, hs, hkept⟩

end ApiDescription
