import ApiDescription.Proofs.Binding.Places
import ApiDescription.Proofs.Schema.Shapes

/-!
# What the oldest version does not have

A description of version 3.0 has nothing that came with version 3.1, wherever it may stand: not in
the root, not among the components, and not in a schema, be it of the entry document or of another
one.  Whether something is read that came later is asked of the version in many places;
`Registry.ofV30_of_bind` says that none of them lets it through.

What is said of schemas is said of each by what it was read from, so nothing has to be followed
through the reading: a schema that is finished is what its node is read as, or a part of it.
-/

namespace ApiDescription

/-! ## Schemas of version 3.0 -/

/-- What version 3.0 says of a scalar. -/
structure ScalarShape.OfV30 (s : ScalarShape) : Prop where
  /-- It is not `null`. -/
  type : s.type ≠ .null
  /-- The least value is a bound that may be reached, or one that may not. -/
  minimum : s.minimum = none ∨ s.exclusiveMinimum = none
  /-- The greatest value is a bound that may be reached, or one that may not. -/
  maximum : s.maximum = none ∨ s.exclusiveMaximum = none

/-- The shapes of version 3.0. -/
structure Shape.OfV30 (shape : Shape) : Prop where
  /-- No schema accepts nothing. -/
  never : shape ≠ .never
  /-- The scalars. -/
  scalar : ∀ s, shape = .scalar s → s.OfV30
  /-- Nothing is said about the first items of an array. -/
  array : ∀ a, shape = .array a → a.prefixItems = []

/-- What version 3.0 says of a schema. -/
structure Schema.OfV30 (s : Schema) : Prop where
  /-- Its shape. -/
  shape : s.shape.OfV30
  /-- Nothing is said next to a reference. -/
  reference : ∀ reference, s.shape = .reference reference → s.title = none ∧ s.description = none

namespace Shape

theorem ofV30_any : any.OfV30 :=
  ⟨Shape.noConfusion, fun _ => Shape.noConfusion, fun _ => Shape.noConfusion⟩

theorem ofV30_object (o : ObjectShape) : (object o).OfV30 :=
  ⟨Shape.noConfusion, fun _ => Shape.noConfusion, fun _ => Shape.noConfusion⟩

theorem ofV30_composed (c : ComposedShape) : (composed c).OfV30 :=
  ⟨Shape.noConfusion, fun _ => Shape.noConfusion, fun _ => Shape.noConfusion⟩

theorem ofV30_reference (reference : Reference) : (Shape.reference reference).OfV30 :=
  ⟨Shape.noConfusion, fun _ => Shape.noConfusion, fun _ => Shape.noConfusion⟩

theorem OfV30.discriminated {shape : Shape} (h : shape.OfV30) (d : Discriminator) :
    (shape.discriminated d).OfV30 := by
  cases shape with
  | object o => exact ofV30_object _
  | any => exact ofV30_object _
  | composed c => exact ofV30_composed _
  | _ => exact h

end Shape

theorem Scope.followsJsonSchema_of_v30 {c : Scope} (hc : c.version = .v30) :
    c.followsJsonSchema = false := by
  rw [followsJsonSchema, hc]
  rfl

namespace Record

variable {r : Record} (hr : r.scope.version = .v30)

include hr

/-- There is one type at most where lists of types do not exist. -/
theorem givenTypes_gives_of_v30 : r.givenTypes.Gives fun names => names.length ≤ 1 := by
  unfold givenTypes
  split
  · exact .pure (by simp)
  · split
    · exact .pure (by simp)
    · rw [Scope.followsJsonSchema_of_v30 hr]
      exact .bind fun _ => .pure (by simp)
    · exact .bind fun _ => .pure (by simp)

/-- Sorting adds no `null`, and no more names than there are. -/
theorem sortTypes_gives_of_v30 (types : Types) (names : List String) :
    (r.sortTypes types names).Gives fun sorted => sorted.withNull = types.withNull ∧
      sorted.names.length ≤ types.names.length + names.length := by
  induction names generalizing types with
  | nil => exact .pure ⟨rfl, Nat.le_refl _⟩
  | cons name rest ih =>
    unfold sortTypes
    rw [Scope.followsJsonSchema_of_v30 hr, Bool.and_false, if_neg Bool.false_ne_true]
    split
    · refine (ih _).imp fun sorted h => ⟨h.1, Nat.le_trans h.2 ?_⟩
      dsimp only
      split
      · simp
      · simp only [List.length_append, List.length_cons, List.length_nil]
        omega
    · exact .bind fun _ => (ih types).imp fun sorted h => ⟨h.1, Nat.le_trans h.2 (by simp)⟩

/-- The type of a schema, if there is one, is not `null`. -/
theorem types_gives_of_v30 :
    r.types.Gives fun types => types.names.length ≤ 1 ∧ ∀ name ∈ types.names, name ∈ typeNames := by
  refine .bind_of (givenTypes_gives_of_v30 hr) fun given hgiven => ?_
  refine .bind_of ((sortTypes_gives_of_v30 hr _ given).and (r.sortTypes_gives (by simp) given))
    fun types ⟨⟨hnull, hlength⟩, hnames⟩ => ?_
  rw [hnull, Bool.and_false, if_neg Bool.false_ne_true]
  exact .pure ⟨Nat.le_trans hlength (by simpa using hgiven), hnames⟩

/-- Where a truth value says whether a bound may be reached, a bound is not given twice. -/
theorem exclusiveBound_gives_of_v30 (key : String) (bound : Option Float) :
    (r.exclusiveBound key bound).Gives fun bounds => bounds.2 = none ∨ bounds.1 = none := by
  unfold exclusiveBound
  rw [Scope.followsJsonSchema_of_v30 hr]
  split
  · exact .pure (.inr rfl)
  · next exclusive _ =>
    rw [if_neg Bool.false_ne_true]
    cases exclusive
    · exact .pure (.inr rfl)
    · exact .pure (.inl rfl)
  · exact .bind fun _ => .pure (.inr rfl)
  · exact .bind fun _ => .pure (.inr rfl)

theorem scalarShape_result_of_v30 {type : ScalarType} (htype : type ≠ .null) :
    (r.scalarShape type).result.OfV30 := by
  refine Binding.Gives.result (P := ScalarShape.OfV30) ?_
  refine .bind fun _ => .bind fun _ => .bind fun _ => ?_
  refine .bind_of (exclusiveBound_gives_of_v30 hr _ _) fun lower hlower => ?_
  refine .bind_of (exclusiveBound_gives_of_v30 hr _ _) fun upper hupper => ?_
  refine .bind fun _ => .bind fun _ => .bind fun _ => .bind fun _ => ?_
  exact .pure ⟨htype, hlower, hupper⟩

end Record

theorem Schema.ofV30_of_unnamed {s t : Schema} (h : t.OfV30) (hunnamed : t.unnamed = s.unnamed) :
    s.OfV30 := by
  have hshape : t.shape = s.shape := shape_eq_of_unnamed hunnamed
  have htitle : t.title = s.title := congrArg (·.title) hunnamed
  have hdescription : t.description = s.description := congrArg (·.description) hunnamed
  obtain ⟨hof, hreference⟩ := h
  rw [hshape] at hof hreference
  rw [htitle, hdescription] at hreference
  exact ⟨hof, hreference⟩

/-- A schema about which nothing is said. -/
theorem Schema.ofV30_of_any {s : Schema} (h : s.shape = .any) : s.OfV30 := by
  refine ⟨h ▸ Shape.ofV30_any, fun reference heq => ?_⟩
  cases h.symm.trans heq

/-! ## Schemas of a run -/

namespace Workspace

variable {S : Setting} {w : Workspace} {r : Record} {names : List String} {shape : Shape}

section

variable (hr : r.scope.version = .v30)

include hr

theorem ReadsArray.ofV30 {a : ArrayShape} (h : w.ReadsArray r a) : (Shape.array a).OfV30 := by
  have hparts := h.prefixItems
  rw [Scope.followsJsonSchema_of_v30 hr, if_neg Bool.false_ne_true] at hparts
  refine ⟨Shape.noConfusion, fun _ => Shape.noConfusion, fun a' ha => ?_⟩
  exact Shape.array.inj ha ▸ List.forall₂_nil_left_iff.mp hparts

theorem Typed.ofV30 {name : String} (hname : name ∈ Record.typeNames) (h : w.Typed r name shape) :
    shape.OfV30 := by
  cases h with
  | object _ => exact Shape.ofV30_object _
  | array h => exact h.ofV30 hr
  | @scalar _ s _ _ htype hread =>
    have htypes : ∀ name ∈ Record.typeNames, ScalarType.ofName? name ≠ some .null := by decide
    have hnull : s.type ≠ .null := fun heq => htypes name hname (heq ▸ htype)
    refine ⟨Shape.noConfusion, fun s' hs => ?_, fun _ => Shape.noConfusion⟩
    obtain rfl := Shape.scalar.inj hs
    exact hread ▸ Record.scalarShape_result_of_v30 hr hnull
  | any => exact Shape.ofV30_any

/-- With one type at most, a shape is no composition of types. -/
theorem Structural.ofV30 (hnames : names.Sublist r.types.result.names)
    (h : w.Structural r names shape) : shape.OfV30 ∧ ∀ c, shape ≠ .composed c := by
  obtain ⟨hlength, htypes⟩ := (Record.types_gives_of_v30 hr).result
  cases h with
  | untyped h =>
    cases h with
    | object _ _ => exact ⟨Shape.ofV30_object _, fun _ => Shape.noConfusion⟩
    | array _ _ h => exact ⟨h.ofV30 hr, fun _ => Shape.noConfusion⟩
    | any => exact ⟨Shape.ofV30_any, fun _ => Shape.noConfusion⟩
  | @typed name _ h =>
    refine ⟨h.ofV30 hr (htypes name (hnames.subset List.mem_cons_self)), ?_⟩
    cases h <;> exact fun _ => Shape.noConfusion
  | several hseveral _ =>
    -- there is no list of types to give several from
    exact absurd (Nat.le_trans hseveral (Nat.le_trans hnames.length_le hlength)) (by decide)

theorem Shaped.ofV30 (h : w.Shaped S r r.types.result.names shape) :
    shape.OfV30 ∧ ∀ c, shape = .composed c → r.hasAny Record.compositionKeys := by
  cases h with
  | structural _ h =>
    obtain ⟨hof, hcomposed⟩ := h.ofV30 hr (List.Sublist.refl _)
    exact ⟨hof, fun c hc => absurd hc (hcomposed c)⟩
  | @discriminated plain d _ h _ =>
    obtain ⟨hof, hcomposed⟩ := h.ofV30 hr (List.Sublist.refl _)
    refine ⟨hof.discriminated d, fun c hc => ?_⟩
    -- a discriminator makes no composition of what is none
    cases plain with
    | composed c => exact absurd rfl (hcomposed c)
    | _ => cases hc
  | composed hkeys _ _ _ _ => exact ⟨Shape.ofV30_composed _, fun _ _ => hkeys⟩

end

/-- The composition of a node is written in the object that the node is. -/
theorem Yields.ofV30 {n : Node} {s : Schema} (hn : n.scope.version = .v30) (h : Yields S w n s) :
    s.OfV30 ∧ ∀ c, s.shape = .composed c →
      ∃ key ∈ ["allOf", "oneOf", "anyOf", "not"], (n.value.member? key).isSome := by
  cases h with
  | truth _ hversion =>
    rw [Scope.followsJsonSchema_of_v30 hn] at hversion
    cases hversion
  | unusable => exact ⟨Schema.ofV30_of_any rfl, fun _ hc => nomatch hc⟩
  | misreferenced => exact ⟨Schema.ofV30_of_any rfl, fun _ hc => nomatch hc⟩
  | reference hobject _ _ _ _ hshape hsaid =>
    rw [(Node.of_object? hobject).1, Scope.followsJsonSchema_of_v30 hn] at hsaid
    refine ⟨⟨hshape ▸ Shape.ofV30_reference _, fun _ _ => hsaid Bool.false_ne_true⟩, fun c hc => ?_⟩
    cases hshape.symm.trans hc
  | @shaped r _ hobject _ hshape _ _ _ =>
    obtain ⟨hscope, -, hvalue⟩ := Node.of_object? hobject
    obtain ⟨hof, hcomposed⟩ := hshape.ofV30 (hscope ▸ hn)
    refine ⟨⟨hof, fun reference heq => absurd heq (hshape.ne_reference reference)⟩, fun c hc => ?_⟩
    rw [hvalue]
    exact (isSome_member?_iff r).mpr (hcomposed c hc)

/-- A schema that is finished is one of version 3.0, and a composition has a keyword for it. -/
theorem Account.ofV30 (hS : S.version = .v30) (hwf : S.registry.WellFormed) {id : SchemaId}
    {s : Schema} (h : w.Account S id s) (hs : w.graph.get? id = some s) :
    s.OfV30 ∧ ∀ c, s.shape = .composed c →
      ∃ scope : Scope, scope.Registered S ∧ scope.label = s.document ∧ ∃ v,
        scope.source.root.at? s.location = some v ∧
          ∃ key ∈ ["allOf", "oneOf", "anyOf", "not"], (v.member? key).isSome := by
  -- a schema was read from its node, or cut off there, or put together for an object
  cases h with
  | @read n t hn _ _ hread hunnamed =>
    have hversion : n.scope.version = .v30 := hn.scope.version.trans hS
    obtain ⟨hof, hcomposed⟩ := hread.ofV30 hversion
    obtain ⟨hdocument, hlocation⟩ := hread.place
    refine ⟨Schema.ofV30_of_unnamed hof hunnamed, fun c hc => ?_⟩
    refine ⟨n.scope, hn.scope, ?_, n.value, ?_, ?_⟩
    · rw [← hdocument, Schema.document_eq_of_unnamed hunnamed]
    · rw [← Schema.location_eq_of_unnamed hunnamed, hlocation]
      exact (hn.value hwf).1
    · exact hcomposed c ((Schema.shape_eq_of_unnamed hunnamed).trans hc)
  | cut _ _ _ hunnamed _ =>
    have hshape : s.shape = .any := congrArg Schema.shape hunnamed
    exact ⟨Schema.ofV30_of_any hshape, fun c hc => nomatch hshape.symm.trans hc⟩
  | @part r names shape hr hnames hstructural hpart _ =>
    have hversion : r.scope.version = .v30 := hr.scope.version.trans hS
    obtain ⟨hof, hcomposed⟩ := hstructural.ofV30 hversion hnames
    obtain ⟨-, -, hshape⟩ := hpart.of_get? hs
    refine ⟨⟨hshape ▸ hof, fun reference heq => ?_⟩, fun c hc => ?_⟩
    · exact absurd (hshape.symm.trans heq) (hstructural.plain.2 reference)
    · exact absurd (hshape.symm.trans hc) (hcomposed c)

end Workspace

/-! ## Outside of schemas -/

/-- What version 3.0 says outside of schemas. -/
structure Description.OfV30 (d : Description) : Prop where
  /-- There are no webhooks. -/
  webhooks : d.webhooks = []
  /-- There are no reusable path items. -/
  pathItems : d.components.pathItems = []
  /-- Schemas have no dialect. -/
  jsonSchemaDialect : d.jsonSchemaDialect = none
  /-- There is no summary. -/
  summary : d.info.summary = none
  /-- A license has no identifier. -/
  license : ∀ l ∈ d.info.license, l.identifier = none
  /-- No security scheme asks for certificates. -/
  securitySchemes : ∀ entry ∈ d.components.securitySchemes, entry.2.kind ≠ .mutualTls

open Binding

theorem Node.record?_gives (n : Node) (what : String) :
    (n.record? what).Gives fun r? => ∀ r ∈ r?, n.object? = some r := by
  refine (n.onlyTells_record? what).gives.imp fun r? hr r hmem => ?_
  rw [← hmem, hr, result_record?]

theorem Node.resolvedRecord?_gives {S : Setting} {n : Node} (hn : n.Sited S) (what : String) :
    (n.resolvedRecord? what).Gives fun t? => ∀ t ∈ t?, t.record.Sited S := by
  refine (n.onlyTells_resolvedRecord? what).gives.imp fun t? ht t hmem => ?_
  rw [ht] at hmem
  rcases n.result_resolvedRecord?_cases what with hlost | ⟨target, r, htarget, hr, hfound⟩
  · cases hlost.symm.trans hmem
  · obtain rfl := Option.some.inj (hfound.symm.trans hmem)
    exact (hn.resolved htarget).object hr

namespace Record

variable {r : Record}

theorem record?_gives (r : Record) (key : String) :
    (r.record? key).Gives fun inner? =>
      ∀ inner ∈ inner?, inner.scope = r.scope ∧ ∀ S, r.Sited S → inner.Sited S := by
  refine (r.onlyTells_record? key).gives.imp fun inner? hinner inner hmem => ?_
  rw [hinner, result_record?] at hmem
  have hinner := @of_field?_object? r.scope.setting r key inner hmem
  exact ⟨hinner.1, fun S => (@of_field?_object? S r key inner hmem).2.2⟩

/-! ### The root -/

section

variable (hr : r.scope.version = .v30)

include hr

theorem license?_gives_of_v30 : r.license?.Gives fun l? => ∀ l ∈ l?, l.identifier = none := by
  refine .bind_of (r.record?_gives _) fun l? hl => ?_
  cases l? with
  | none => exact .pure nofun
  | some l =>
    dsimp only
    rw [(hl l rfl).1, Scope.followsJsonSchema_of_v30 hr]
    refine .bind fun _ => ?_
    rw [if_neg Bool.false_ne_true]
    refine .bind_of (Q := (· = none)) (.pure rfl) fun identifier hidentifier => ?_
    refine .bind fun _ => .pure fun l' hl' => ?_
    obtain rfl := Option.some.inj hl'
    exact hidentifier

theorem info_gives_of_v30 :
    r.info.Gives fun i => i.summary = none ∧ ∀ l ∈ i.license, l.identifier = none := by
  unfold info
  split
  · exact .bind fun _ => .pure ⟨rfl, nofun⟩
  · next n hn =>
    refine .bind_of (n.record?_gives _) fun i? hi => ?_
    cases i? with
    | none => exact .pure ⟨rfl, nofun⟩
    | some i =>
      have hscope : i.scope = r.scope :=
        (Node.of_object? (hi i rfl)).1.trans (of_field? hn).1
      dsimp only
      rw [hscope, Scope.followsJsonSchema_of_v30 hr, if_neg Bool.false_ne_true]
      refine .bind_of (Q := (· = none)) (.pure rfl) fun summary hsummary => .bind fun _ => ?_
      refine .bind_of (license?_gives_of_v30 (hscope ▸ hr)) fun license hlicense => ?_
      refine .bind fun _ => .bind fun _ => .bind fun _ => .bind fun _ => ?_
      exact .pure ⟨hsummary, hlicense⟩

theorem jsonSchemaDialect?_gives_of_v30 : r.jsonSchemaDialect?.Gives (· = none) := by
  unfold jsonSchemaDialect?
  rw [Scope.followsJsonSchema_of_v30 hr, if_neg Bool.false_ne_true]
  exact .bind fun _ => .pure rfl

theorem webhooks_gives_of_v30 : r.webhooks.Gives (· = []) := by
  unfold webhooks Readers.webhooks
  rw [hr]
  split
  · exact .pure rfl
  · exact .bind fun _ => .pure rfl

theorem componentPathItems_gives_of_v30 : r.componentPathItems.Gives (· = []) := by
  unfold componentPathItems Readers.componentPathItems
  rw [hr]
  exact .bind fun _ => .pure rfl

end

end Record

/-! ### Security schemes -/

/-- What a security scheme asks for, if there is one, is no certificate. -/
def NoCertificate (kind? : Option SecurityKind) : Prop := ∀ kind ∈ kind?, kind ≠ .mutualTls

theorem noCertificate_none : NoCertificate none := by
  simp [NoCertificate]

theorem noCertificate_some {kind : SecurityKind} (h : kind ≠ .mutualTls) :
    NoCertificate (some kind) := by
  simpa [NoCertificate] using h

namespace Record

theorem apiKeyKind?_gives (r : Record) : r.apiKeyKind?.Gives NoCertificate := by
  refine .bind fun name => .bind fun text => ?_
  cases text with
  | none =>
    refine .bind fun place => ?_
    dsimp only
    split
    · exact .pure (noCertificate_some SecurityKind.noConfusion)
    · exact .pure noCertificate_none
  | some text =>
    refine .ite (.bind fun _ => .bind fun place => ?_) (.bind fun place => ?_) <;>
    · dsimp only
      split
      · exact .pure (noCertificate_some SecurityKind.noConfusion)
      · exact .pure noCertificate_none

theorem httpKind?_gives (r : Record) : r.httpKind?.Gives NoCertificate := by
  refine .bind fun scheme => ?_
  split
  · exact .pure noCertificate_none
  · exact .bind fun _ => .pure (noCertificate_some SecurityKind.noConfusion)

theorem oauth2Kind?_gives (r : Record) : r.oauth2Kind?.Gives NoCertificate := by
  unfold oauth2Kind?
  split
  · exact .bind fun _ => .pure (noCertificate_some SecurityKind.noConfusion)
  · exact .bind fun _ => .pure noCertificate_none

theorem openIdKind?_gives (r : Record) : r.openIdKind?.Gives NoCertificate := by
  refine .bind fun url => ?_
  cases url with
  | none => exact .pure noCertificate_none
  | some url => exact .pure (noCertificate_some SecurityKind.noConfusion)

/-- Certificates are asked for by a name that version 3.0 does not know. -/
theorem securityKind?_gives_of_v30 {r : Record} (hr : r.scope.version = .v30) (type : String) :
    (r.securityKind? type).Gives NoCertificate := by
  unfold securityKind?
  split
  · exact r.apiKeyKind?_gives
  · exact r.httpKind?_gives
  · exact r.oauth2Kind?_gives
  · exact r.openIdKind?_gives
  · rw [Scope.followsJsonSchema_of_v30 hr, Bool.and_false, if_neg Bool.false_ne_true]
    exact .bind fun _ => .pure noCertificate_none

end Record

variable {S : Setting}

theorem Node.securityScheme?_gives_of_v30 (hS : S.version = .v30) {n : Node} (hn : n.Sited S) :
    n.securityScheme?.Gives fun scheme? => ∀ scheme ∈ scheme?, scheme.kind ≠ .mutualTls := by
  refine .bind_of (n.resolvedRecord?_gives hn _) fun t? ht => ?_
  cases t? with
  | none => exact .pure (by simp)
  | some t =>
    have hr : t.record.scope.version = .v30 := (ht t rfl).scope.version.trans hS
    refine .bind fun type? => ?_
    cases type? with
    | none => exact .pure (by simp)
    | some type =>
      refine .bind_of (Record.securityKind?_gives_of_v30 hr type) fun kind? hkind => ?_
      cases kind? with
      | none => exact .pure (by simp)
      | some kind =>
        refine .bind fun _ => .pure fun scheme hscheme => ?_
        obtain rfl := Option.some.inj hscheme
        exact hkind kind rfl

/-- What holds of each result holds of the results under their names. -/
theorem Record.readAll_gives {α : Type} {P : α → Prop} {r : Record} (hr : r.Sited S) (key : String)
    {step : Node → Binding (Option α)}
    (h : ∀ n, n.Sited S → (step n).Gives fun a? => ∀ a ∈ a?, P a) :
    (r.readAll key step).Gives fun entries => ∀ entry ∈ entries, P entry.2 := by
  refine .bind_of (r.record?_gives key) fun inner? hinner => ?_
  cases inner? with
  | none => exact .pure (by simp)
  | some inner =>
    refine .collect fun field hfield => ?_
    have hfield' := ((hinner inner rfl).2 S hr).fields hfield
    refine .bind_of (h _ hfield') fun a? ha => .pure fun entry hentry => ?_
    obtain ⟨a, ha', rfl⟩ := Option.map_eq_some_iff.mp hentry
    exact ha a ha'

/-! ### The description -/

theorem Node.components_gives_of_v30 (hS : S.version = .v30) {n : Node} (hn : n.Sited S) :
    n.components.Gives fun c =>
      c.pathItems = [] ∧ ∀ entry ∈ c.securitySchemes, entry.2.kind ≠ .mutualTls := by
  refine .bind_of (n.record?_gives _) fun r? hr => ?_
  cases r? with
  | none => exact .pure ⟨rfl, fun _ hentry => absurd hentry List.not_mem_nil⟩
  | some r =>
    have hr : r.Sited S := hn.object (hr r rfl)
    refine .bind fun _ => .bind fun _ => .bind fun _ => ?_
    refine .bind fun _ => .bind fun _ => .bind fun _ => ?_
    refine .bind_of (Record.readAll_gives hr _ fun n hn => Node.securityScheme?_gives_of_v30 hS hn)
      fun schemes hschemes => ?_
    refine .bind fun _ => .bind fun _ => ?_
    refine .bind_of (Record.componentPathItems_gives_of_v30 (hr.scope.version.trans hS))
      fun pathItems hpathItems => ?_
    exact .pure ⟨hpathItems, hschemes⟩

theorem Record.components_gives_of_v30 (hS : S.version = .v30) {r : Record} (hr : r.Sited S) :
    r.components.Gives fun c =>
      c.pathItems = [] ∧ ∀ entry ∈ c.securitySchemes, entry.2.kind ≠ .mutualTls := by
  unfold components Readers.componentsOf
  split
  · exact .pure ⟨rfl, fun _ hentry => absurd hentry List.not_mem_nil⟩
  · next n hn => exact Node.components_gives_of_v30 hS (hr.field hn)

theorem Record.description_gives_of_v30 (hS : S.version = .v30) {r : Record} (hr : r.Sited S)
    (declared : String) : (r.description declared).Gives Description.OfV30 := by
  have hversion : r.scope.version = .v30 := hr.scope.version.trans hS
  refine .bind fun _ => .bind_of (info_gives_of_v30 hversion) fun info hinfo => ?_
  refine .bind_of (jsonSchemaDialect?_gives_of_v30 hversion) fun dialect hdialect => ?_
  refine .bind fun _ => ?_
  refine .bind_of (components_gives_of_v30 hS hr) fun components hcomponents => .bind fun _ => ?_
  refine .bind_of (webhooks_gives_of_v30 hversion) fun webhooks hwebhooks => ?_
  refine .bind fun _ => .bind fun _ => .bind fun _ => .bind fun _ => .bind fun _ => ?_
  exact .pure ⟨hwebhooks, hcomponents.1, hdialect, hinfo.1, hinfo.2, hcomponents.2⟩

/-- A description of version 3.0 has nothing that came with version 3.1: not in its root, not among
its components, and not in its schemas, of which a composition has a keyword for it in the object
that it was read from. -/
theorem Registry.ofV30_of_bind {r : Registry} {entry : String} {options : Options}
    {declared : String} {d : Description} {report : Report} (hwf : r.WellFormed)
    (h : r.bind entry options .v30 declared = .ok (d, report)) :
    d.OfV30 ∧ ∃ place, r.place? entry = some place ∧
      ∀ id s, d.schemas.get? id = some s → s.OfV30 ∧ ∀ c, s.shape = .composed c →
        ∃ scope : Scope, scope.Registered ⟨r, place, options, .v30⟩ ∧ scope.label = s.document ∧
          ∃ v, scope.source.root.at? s.location = some v ∧
            ∃ key ∈ ["allOf", "oneOf", "anyOf", "not"], (v.member? key).isSome := by
  obtain ⟨w, hrun, -⟩ := Registry.exists_run_of_bind h
  obtain ⟨place, source, hplace, hsource, hrun⟩ := Registry.exists_source_of_run hrun
  obtain ⟨hw, hgraph, -⟩ := RegisteredDocument.complete_of_run hsource hrun
  obtain ⟨root, hroot, hread⟩ := RegisteredDocument.exists_root_of_run hsource hrun
  refine ⟨?_, place, hplace, fun id s hs => ?_⟩
  · have hd := Record.description_gives_of_v30 rfl (Setting.sited_root hroot) declared .fresh
    rwa [← hread] at hd
  · rw [hgraph] at hs
    exact (hw.sound.account id s hs (hw.not_open id)).ofV30 rfl hwf hs

/-- A description with webhooks, a reusable path item, a security scheme that asks for certificates,
a schema that accepts nothing and one that accepts `null`. -/
def Json.laterParts : Json :=
  .object [("openapi", .string "3.0.0"), ("webhooks", .object [("w", .object [])]),
    ("components", .object [
      ("schemas", .object [("A", .bool false), ("B", .object [("type", .string "null")])]),
      ("securitySchemes", .object [("s", .object [("type", .string "mutualTLS")])]),
      ("pathItems", .object [("p", .object [])])])]

/-- Nothing of what came later in `Json.laterParts` is left in version 3.0. -/
theorem Registry.ofV30_of_bind_laterParts :
    (Registry.single .laterParts).WellFormed ∧ ∃ d report,
      (Registry.single .laterParts).bind "http://example.invalid/" .standard .v30 "3.0.0" =
        .ok (d, report) ∧ d.schemas.size = 2 ∧ d.OfV30 ∧
          ∀ id s, d.schemas.get? id = some s → s.OfV30 := by
  have hwf : (single .laterParts).WellFormed := by
    refine wellFormed_single ?_
    simp [Json.laterParts, Json.WellFormed, Json.WellFormedMembers, Entries.names]
  have hsize : ((single .laterParts).bind "http://example.invalid/" .standard .v30
      "3.0.0").toOption.map (·.1.schemas.size) = some 2 := by decide +kernel
  cases hbind : (single .laterParts).bind "http://example.invalid/" .standard .v30 "3.0.0" with
  | error fault =>
    rw [hbind] at hsize
    cases hsize
  | ok left =>
    rw [hbind] at hsize
    obtain ⟨hd, _, -, hschemas⟩ := ofV30_of_bind hwf hbind
    exact ⟨hwf, left.1, left.2, rfl, Option.some.inj hsize, hd, fun id s hs => (hschemas id s hs).1⟩

end ApiDescription
