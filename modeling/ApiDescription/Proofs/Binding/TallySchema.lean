import ApiDescription.Proofs.Binding.Sound
import ApiDescription.Proofs.Binding.TallyFields

/-!
# Schemas are paid for when they are met

Reading a schema costs one if it is to blame for a diagnostic, and nothing otherwise: the schemas
that are parts of it, and those that it refers to, cost nothing.  It is read when it is met for the
first time, and then the tally has counted that one already.
-/

namespace ApiDescription

open Binding

variable {S : Setting} {D : Diagnostic} {r : Record} {read : SchemaReader}

/-- Reading schemas adds nothing to the tally. -/
def SchemaReader.CostsNothing (S : Setting) (D : Diagnostic) (read : SchemaReader) : Prop :=
  ∀ {n : Node}, n.Plays S .schema → Costs S D 0 (read n)

/-- A schema is to blame for what is found at the spot. -/
def Spot.ofSchema : Spot → Bool
  | .below key => Role.ofKeyword key = .detail ∨ Role.ofKeyword key = .discriminator
  | .at key => Role.ofKeyword key ≠ .schema
  | .held key => Role.ofKeyword key = .schema
  | .about f => f.category ≠ .unexpectedType
  | .kind category => category ≠ .unexpectedType

theorem Spot.Hit.blames (h : S.Sole D) (hr : r.Plays S .schema) {s : Spot} (hit : s.Hit D true r)
    (hs : s.ofSchema = true) : D.BlamesSite S r.node.site := by
  have hrole : r.pointer.role = .schema := h.orderly hr hit.below
  refine ⟨⟨r.scope, hr.sited.scope, rfl, hit.below.1⟩, ?_⟩
  cases s with
  | below key => exact .detail hrole (by simpa [ofSchema] using hs) hit.2.2
  | «at» key =>
    have hkey : Role.ofKeyword key ≠ .schema := by simpa [ofSchema] using hs
    by_cases hparts : Role.ofKeyword key = .parts
    · exact .parts hrole hparts hit.2.2
    · exact .detail hrole ((Role.ofKeyword_cases key).resolve_left hkey |>.resolve_left hparts)
        hit.2.below.2
  | held key => exact .held hrole (by simpa [ofSchema] using hs) hit.2.1.2 hit.2.2
  | about f | kind category =>
    refine .here hrole (hit.at_of_key rfl).2 ?_
    rintro ⟨g, hg, hcategory, -⟩
    rw [hit.category_eq rfl] at hcategory
    have hother : g.category = .unexpectedType := by cases hg <;> rfl
    simp [ofSchema, hcategory, hother] at hs

namespace Record

/-- A schema whose spots are apart costs one if it is to blame, and nothing otherwise. -/
theorem cost_le_blame (h : S.Sole D) (hr : r.Plays S .schema) (spots : List Spot)
    (hapart : spots.Pairwise fun s t => s.apart t = true)
    (hspots : ∀ s ∈ spots, s.ofSchema = true) :
    r.cost D true spots ≤ weight (D.BlamesSite S r.node.site) :=
  cost_le hapart fun s hs hit => hit.blames h hr (hspots s hs)

theorem inSchema_keyword (key : String) : (Role.schema.under key).inSchema = true :=
  Role.inSchema_under rfl key

/-! ## What is said about a schema -/

section Annotations

variable (h : S.Sole D) (hr : r.Plays S .schema)
include h hr

theorem costs_exampleList : Costs S D (r.cost D true [.at "examples"]) r.exampleList := by
  unfold exampleList
  split
  · exact Costs.pure.le (Nat.zero_le _)
  · refine .ite (fun _ => ?_) fun _ => Costs.pure.le (Nat.zero_le _)
    exact (costs_tellField h hr (inSchema_keyword _) _).bind fun _ => .pure
  · exact Costs.pure.le (Nat.zero_le _)

theorem costs_enumeration? : Costs S D (r.cost D true [.at "enum", .at "const"]) r.enumeration? := by
  refine (costsOr_read? h hr (inSchema_keyword _) _ _).costs.bind fun listed => ?_
  split
  · exact Costs.pure.le (Nat.zero_le _)
  · refine .ite (fun _ => Costs.pure.le (Nat.zero_le _)) fun _ => ?_
    exact (costs_refuse h hr (inSchema_keyword _)).bind fun _ => .pure

/-- The fields that are read whatever a schema is. -/
def annotationSpots : List Spot :=
  [.at "title", .at "description", .at "deprecated", .at "readOnly", .at "writeOnly",
    .at "examples", .at "enum", .at "const", .at "nullable"]

theorem costs_annotated : Costs S D (r.cost D true annotationSpots) r.annotated := by
  refine (costs_text? h hr (inSchema_keyword _)).append fun title => ?_
  refine (costs_text? h hr (inSchema_keyword _)).append fun description => ?_
  refine (costs_flag h hr (inSchema_keyword _)).append fun deprecated => ?_
  refine (costs_flag h hr (inSchema_keyword _)).append fun readOnly => ?_
  refine (costs_flag h hr (inSchema_keyword _)).append fun writeOnly => ?_
  refine (costs_exampleList h hr).append fun examples => ?_
  refine (costs_enumeration? h hr).append fun enumeration => ?_
  -- a truth value is of the right kind, so only one of both is found
  refine (costsOr_flag? h hr (inSchema_keyword _)).bind .pure (fun nullable => ?_) (Nat.le_refl _)
  refine .ite (fun _ => ?_) fun _ => Costs.pure.le (Nat.zero_le _)
  exact (costs_tellField h hr (inSchema_keyword _) _).append fun _ => .pure

end Annotations

/-! ## Types -/

/-- The names that are types, or that are reported. -/
def countedTypes (r : Record) (names : List String) : List String :=
  names.filter fun name => !(name = "null" && r.scope.followsJsonSchema)

theorem length_countedTypes_le (name : String) (rest : List String) :
    (r.countedTypes rest).length ≤ (r.countedTypes (name :: rest)).length :=
  ((List.sublist_cons_self name rest).filter _).length_le

theorem length_countedTypes_cons {name : String}
    (h : ¬ (decide (name = "null") && r.scope.followsJsonSchema) = true) (rest : List String) :
    (r.countedTypes (name :: rest)).length = (r.countedTypes rest).length + 1 := by
  have hname : (!(decide (name = "null") && r.scope.followsJsonSchema)) = true := by
    rw [Bool.eq_false_of_not_eq_true h, Bool.not_false]
  rw [countedTypes, List.filter_cons, if_pos hname]
  rfl

theorem givenTypes_gives :
    r.givenTypes.Gives fun names => (r.countedTypes names).length ≤ 1 ∨ r.SeveralTypes := by
  have hone : ∀ names : List String, names.length ≤ 1 →
      (r.countedTypes names).length ≤ 1 ∨ r.SeveralTypes := fun names hlength =>
    .inl (Nat.le_trans (List.length_filter_le _ _) hlength)
  unfold givenTypes
  cases hn : r.field? "type" with
  | none => exact .pure (hone _ (by simp))
  | some n =>
    simp only [field?, Option.map_eq_some_iff] at hn
    obtain ⟨value, hvalue, rfl⟩ := hn
    cases value with
    | string name => exact .pure (hone _ (by simp))
    | array items =>
      dsimp only [child]
      split
      · exact .bind fun _ => .pure (hone _ (by simp))
      · next hfollows =>
        have hfollows : r.scope.followsJsonSchema = true := by simpa using hfollows
        -- the names that are counted are all in the list
        refine Gives.imp (Gives.collect_eq (g := fun item => item.value.string?) fun item _ => ?_)
          fun names hnames => ?_
        · cases item.value with
          | string name => exact .pure rfl
          | _ => exact .bind fun _ => .pure rfl
        · by_cases hlength : (r.countedTypes names).length ≤ 1
          · exact .inl hlength
          · refine .inr ⟨hfollows, items, hvalue, ?_⟩
            have htexts : names = items.filterMap Json.string? := by
              rw [hnames, ← List.zipIdx_map_fst 0 items, List.filterMap_map, List.filterMap_map,
                List.zipIdx_map_fst]
              rfl
            rw [← htexts]
            have hcounted : r.countedTypes names = names.filter (· ≠ "null") := by
              simp [countedTypes, hfollows]
            rw [← hcounted]
            omega
    | _ => exact .bind fun _ => .pure (hone _ (by simp))

/-- Types are sorted out without repetition, and there are no more of them than are counted. -/
theorem sortTypes_gives_distinct (types : Types) (hdistinct : types.names.Nodup)
    (names : List String) : (r.sortTypes types names).Gives fun sorted => sorted.names.Nodup ∧
      sorted.names.length ≤ types.names.length + (r.countedTypes names).length := by
  induction names generalizing types with
  | nil => exact .pure ⟨hdistinct, Nat.le_refl _⟩
  | cons name rest ih =>
    have hrest := length_countedTypes_le (r := r) name rest
    unfold sortTypes
    split
    · refine (ih ⟨types.names, true⟩ hdistinct).imp fun sorted hsorted =>
        ⟨hsorted.1, Nat.le_trans hsorted.2 (Nat.add_le_add_left hrest _)⟩
    · next hnull =>
      have hcounted := length_countedTypes_cons hnull rest
      split
      · dsimp only
        split
        · exact (ih ⟨types.names, types.withNull⟩ hdistinct).imp fun sorted hsorted =>
            ⟨hsorted.1, Nat.le_trans hsorted.2 (Nat.add_le_add_left hrest _)⟩
        · next hnew =>
          have hnew : name ∉ types.names := by simpa using hnew
          have hnodup : (types.names ++ [name]).Nodup :=
            List.nodup_append.mpr ⟨hdistinct, by simp, fun a ha b hb heq =>
              hnew (List.mem_singleton.mp hb ▸ heq ▸ ha)⟩
          refine (ih ⟨types.names ++ [name], types.withNull⟩ hnodup).imp
            fun sorted hsorted => ⟨hsorted.1, ?_⟩
          have hlength := hsorted.2
          rw [List.length_append, List.length_singleton] at hlength
          omega
      · exact .bind fun _ => (ih types hdistinct).imp fun sorted hsorted =>
          ⟨hsorted.1, Nat.le_trans hsorted.2 (Nat.add_le_add_left hrest _)⟩

/-- The types of a schema are different, and if there are several, then several are given. -/
theorem types_gives_distinct : r.types.Gives fun types =>
    types.names.Nodup ∧ (types.names.length ≤ 1 ∨ r.SeveralTypes) := by
  refine .bind_of givenTypes_gives fun given hgiven => ?_
  refine .bind_of (sortTypes_gives_distinct ⟨[], false⟩ .nil given)
    fun types ⟨hnodup, hlength⟩ => ?_
  refine .ite (.pure ⟨by simp, .inl (Nat.le_refl _)⟩) (.pure ⟨hnodup, ?_⟩)
  exact hgiven.imp_left fun hcounted => Nat.le_trans hlength (by simpa using hcounted)

section Types

variable (h : S.Sole D) (hr : r.Plays S .schema)
include h hr

/-- Every name that is counted may be unknown. -/
theorem costs_sortTypes (types : Types) (names : List String) :
    Costs S D ((r.countedTypes names).length * r.cost D true [.at "type"])
      (r.sortTypes types names) := by
  induction names generalizing types with
  | nil => exact Costs.pure.le (Nat.zero_le _)
  | cons name rest ih =>
    have hrest := Nat.mul_le_mul_right (r.cost D true [.at "type"])
      (length_countedTypes_le (r := r) name rest)
    unfold sortTypes
    split
    · exact (ih _).le hrest
    · next hnull =>
      refine .ite (fun _ => (ih _).le hrest) fun _ => ?_
      refine ((costs_tellField h hr (inSchema_keyword _) _).bind fun _ => ih types).le ?_
      rw [length_countedTypes_cons hnull, Nat.succ_mul, Nat.add_comm]

/-- What is found about a field that is read for each type is elsewhere if there are several. -/
theorem cost_eq_zero_of_severalTypes (hseveral : r.SeveralTypes) (keys : List String)
    (hkeys : keys ⊆ "type" :: scalarKeys) : r.cost D true (keys.map .at) = 0 := by
  refine List.sum_eq_zero fun c hc => ?_
  rw [List.map_map] at hc
  obtain ⟨key, hkey, rfl⟩ := List.mem_map.mp hc
  exact weight_of_not fun hit => h.types hr hseveral (hkeys hkey) hit.2

/-- What is done with the names that are given as types may find something about the field, but
nothing if there are none. -/
theorem costs_givenTypes {β : Type} {f : List String → Binding β} (hnil : Costs S D 0 (f []))
    (hf : ∀ given, (r.countedTypes given).length ≤ 1 ∨ r.SeveralTypes →
      Costs S D (r.cost D true [.at "type"]) (f given)) :
    Costs S D (r.cost D true [.below "type"]) (r.givenTypes >>= f) := by
  have hgives := givenTypes_gives (r := r)
  unfold givenTypes at hgives ⊢
  cases hn : r.field? "type" with
  | none => exact (hf [] (.inl (Nat.zero_le _))).le cost_at_le
  | some n =>
    rw [hn] at hgives
    have hnode := hr.field hn
    simp only [field?, Option.map_eq_some_iff] at hn
    obtain ⟨value, -, rfl⟩ := hn
    cases value with
    | string name =>
      dsimp only [child]
      rw [pure_bind]
      exact (hf [name] (.inl (List.length_filter_le _ _))).le cost_at_le
    | array items =>
      dsimp only [child] at hgives ⊢
      split
      · rw [bind_assoc]
        refine ((Node.costs_tell h hnode (inSchema_keyword _) _).le Node.here_le_share).bind
          fun _ => ?_
        rw [pure_bind]
        exact hnil
      · next hfollows =>
        rw [if_neg hfollows] at hgives
        -- what is no name is reported where it is, and other names at the list
        refine (Costs.bind_of ?_ hgives hf).le
          (sum_share_items_add_le r ("type", .array items))
        refine Costs.collect (k := Node.share D true) fun item hitem => ?_
        obtain ⟨i, hitem⟩ := hnode.item hitem
        split
        · exact Costs.pure.le (Nat.zero_le _)
        · exact ((Node.costs_tell h hitem (Role.inSchema_under (inSchema_keyword _) _) _).le
            Node.here_le_share).bind fun _ => .pure
    | _ =>
      dsimp only [child]
      rw [bind_assoc]
      refine ((costs_tellField h hr (inSchema_keyword _) _).le cost_at_le).bind fun _ => ?_
      rw [pure_bind]
      exact hnil

theorem costs_types : Costs S D (r.cost D true [.below "type"]) r.types := by
  refine costs_givenTypes h hr (fun w => Nat.le_refl _) fun given hgiven => ?_
  refine ((costs_sortTypes h hr _ given).bind (d := 0) fun types => ?_).le ?_
  · exact .ite (fun _ => .pure) fun _ => .pure
  · rcases hgiven with hcounted | hseveral
    · simpa using Nat.mul_le_mul_right (r.cost D true [.at "type"]) hcounted
    · have hzero : r.cost D true [.at "type"] = 0 :=
        cost_eq_zero_of_severalTypes h hr hseveral ["type"] (by simp)
      simp [hzero]

end Types

/-! ## Scalars -/

section Scalars

variable (h : S.Sole D) (hr : r.Plays S .schema)
include h hr

theorem costs_exclusiveBound (key : String) (bound : Option Float) :
    Costs S D (r.cost D true [.at key]) (r.exclusiveBound key bound) := by
  have htell : ∀ (f : Finding) (bounds : Option Float × Option Float),
      Costs S D (r.cost D true [.at key]) (r.tellField key f >>= fun _ => pure bounds) := fun f _ =>
    (costs_tellField h hr (inSchema_keyword _) f).bind fun _ => .pure
  unfold exclusiveBound
  split
  · exact Costs.pure.le (Nat.zero_le _)
  · exact .ite (fun _ => htell _ _) fun _ => Costs.pure.le (Nat.zero_le _)
  · exact .ite (fun _ => Costs.pure.le (Nat.zero_le _)) fun _ => htell _ _
  · exact htell _ _

theorem costs_scalarShape (type : ScalarType) :
    Costs S D (r.cost D true (scalarKeys.map .at)) (r.scalarShape type) := by
  refine (costs_text? h hr (inSchema_keyword _)).append fun format => ?_
  refine (costs_number? h hr (inSchema_keyword _)).append fun minimum => ?_
  refine (costs_number? h hr (inSchema_keyword _)).append fun maximum => ?_
  refine (costs_exclusiveBound h hr _ minimum).append fun lower => ?_
  refine (costs_exclusiveBound h hr _ maximum).append fun upper => ?_
  refine (costs_number? h hr (inSchema_keyword _)).append fun multipleOf => ?_
  refine (costs_count? h hr (inSchema_keyword _)).append fun minLength => ?_
  refine (costs_count? h hr (inSchema_keyword _)).append fun maxLength => ?_
  exact (costs_text? h hr (inSchema_keyword _)).bind fun pattern => .pure

end Scalars

/-! ## References -/

section Parts

variable (h : S.Sole D) (hread : read.CostsNothing S D)
include h hread

/-- What becomes of a reference costs what is found about the node that writes it. -/
theorem costs_referenceState {n : Node} {role : Role} (hn : n.Plays S role)
    (hinner : role.inSchema = true) (hscope : n.scope = r.scope) {text : String}
    (htarget : ∀ target, r.scope.locate text = .ok target → target.Plays S .schema) :
    Costs S D (n.share D true) (r.referenceState read text n.pointer) := by
  unfold referenceState
  cases hlocate : r.scope.locate text with
  | error f =>
    rw [← hscope]
    exact ((Node.costs_tell h hn hinner f).le Node.here_le_share).bind fun _ => .pure
  | ok target =>
    refine ((costs_slot? target.site).after fun slot? => ?_).le (Nat.zero_le _)
    split
    · exact .pure
    · exact .pure
    · exact (hread (htarget target hlocate)).bind fun _ => .pure

variable (hr : r.Plays S .schema)
include hr

/-- What is found about a schema that is a reference. -/
def referenceSpots (r : Record) : List Spot :=
  if r.scope.followsJsonSchema then [.at "title", .at "description", .below referenceKey]
  else [.kind .unsupportedFeature, .below referenceKey]

theorem costs_referenceSchema {text : String}
    (htext : r.members.get? referenceKey = some (.string text)) :
    Costs S D (r.cost D true r.referenceSpots) (r.referenceSchema read text) := by
  have hmember : (r.child (referenceKey, .string text)).Plays S (Role.schema.under referenceKey) :=
    hr.child (Entries.mem_of_get? htext)
  have hstate : Costs S D (r.cost D true [.below referenceKey])
      (r.referenceState read text (r.pointer.push referenceKey)) :=
    costs_referenceState (r := r) h hread hmember (inSchema_keyword _) rfl
      fun target hlocate => .reference hr rfl htext hlocate
  unfold referenceSchema referenceSpots
  split
  · refine (costs_text? h hr (inSchema_keyword _)).append fun title => ?_
    refine (costs_text? h hr (inSchema_keyword _)).append fun description => ?_
    exact Costs.after .pure fun _ => hstate.thenPure
  · refine .ite_append (costs_tellKind rfl h hr _) (fun _ => ?_)
      fun hrest => (hrest ()).le (Nat.le_add_left _ _)
    exact Costs.after .pure fun _ => hstate.thenPure

/-! ## Shapes -/

theorem costs_schemaList (key : String) (hkey : Role.ofKeyword key = .parts) :
    Costs S D (r.cost D true [.at key]) (r.schemaList read key) := by
  have heach : ∀ l : List Node, (∀ m ∈ l, m.Plays S .schema) → Costs S D 0 (each read l) := by
    intro l hl
    refine (Costs.each (k := fun _ => 0) fun m hm => hread (hl m hm)).le ?_
    simp
  unfold schemaList
  refine costs_fieldHere hr fun n hn => ?_
  refine Node.costs_emptyItems h hn (inSchema_keyword _) _ .pure ?_
  refine heach _ fun m hm => ?_
  obtain ⟨i, hm⟩ := hn.item hm
  have hrole : Role.schema.under key = .parts := hkey
  rwa [hrole] at hm

omit h in
theorem costs_schema? (key : String) (hkey : Role.ofKeyword key = .schema) :
    Costs S D 0 (r.schema? read key) := by
  unfold schema?
  split
  · exact .pure
  · next hfield => exact (hread (hkey ▸ hr.field hfield)).bind fun _ => .pure

omit hread in
/-- What the schema that holds it finds about a schema in a field. -/
theorem costs_tellHeld {key : String} {f : Finding} (hf : f.ByHolder) :
    Costs S D (r.cost D true [.held key]) (r.tellField key f) := by
  refine (Binding.costs_tell r.scope (r.pointer.push key) f).le (weight_mono fun heq => ?_)
  have hat := Diagnostic.at_of_eq heq
  refine ⟨?_, hat, f, hf, heq ▸ rfl, heq ▸ rfl⟩
  rw [h.role_of_at_push hr hat]
  exact inSchema_keyword key

theorem costs_additionalProperties :
    Costs S D (r.cost D true [.held "additionalProperties"]) (r.additionalProperties read) := by
  unfold additionalProperties
  dsimp only
  split
  · exact Costs.pure.le (Nat.zero_le _)
  · next n hfield =>
    split
    · exact Costs.pure.le (Nat.zero_le _)
    · exact ((hread (hr.field hfield)).bind fun _ => .pure).le (Nat.zero_le _)
    · exact (costs_tellHeld h hr (.additional _)).bind fun _ => .pure

/-- What is found about a schema of objects. -/
def objectSpots : List Spot :=
  [.at "properties", .below "required", .held "additionalProperties", .at "minProperties",
    .at "maxProperties"]

theorem costs_objectShape : Costs S D (r.cost D true objectSpots) (r.objectShape read) := by
  have hproperties : Costs S D (r.cost D true [.at "properties"])
      (r.readAll "properties" fun n => return some (← read n)) := by
    refine costs_emptyRecord? h hr (inSchema_keyword _) .pure fun inner hinner => ?_
    refine (Costs.collect (k := fun _ => 0) fun field hfield => ?_).le (by simp)
    obtain ⟨member, hmember, rfl⟩ := List.mem_map.mp hfield
    have hpart : (inner.child member).Plays S .schema := hinner.child hmember
    exact ((hread hpart).bind fun _ => .pure).bind fun _ => .pure
  refine hproperties.append fun properties => ?_
  refine (costs_texts h hr (inSchema_keyword _) fun _ =>
    Role.inSchema_under (inSchema_keyword _) _).append fun required => ?_
  refine (costs_additionalProperties h hread hr).append fun additional => ?_
  refine (costs_count? h hr (inSchema_keyword _)).append fun minProperties => ?_
  exact (costs_count? h hr (inSchema_keyword _)).bind fun maxProperties => .pure

theorem costs_itemSchema? : Costs S D (r.cost D true [.held "items"]) (r.itemSchema? read) := by
  unfold itemSchema?
  cases hfield : r.field? "items" with
  | none => exact Costs.pure.le (Nat.zero_le _)
  | some n =>
    have hn : n.Plays S .schema := hr.field hfield
    simp only [field?, Option.map_eq_some_iff] at hfield
    obtain ⟨value, -, rfl⟩ := hfield
    cases value with
    | array items => exact (costs_tellHeld h hr .itemList).bind fun _ => .pure
    | _ => exact ((hread hn).bind fun _ => .pure).le (Nat.zero_le _)

/-- What is found about a schema of arrays. -/
def arraySpots : List Spot :=
  [.held "items", .at "prefixItems", .at "minItems", .at "maxItems", .at "uniqueItems"]

theorem costs_arrayShape : Costs S D (r.cost D true arraySpots) (r.arrayShape read) := by
  refine (costs_itemSchema? h hread hr).append fun items => ?_
  refine .ite_append (costs_schemaList h hread hr "prefixItems" rfl) (fun prefixItems => ?_)
    fun hrest => (costs_refuse h hr (inSchema_keyword _)).append fun _ => Costs.after .pure hrest
  refine (costs_count? h hr (inSchema_keyword _)).append fun minItems => ?_
  refine (costs_count? h hr (inSchema_keyword _)).append fun maxItems => ?_
  exact (costs_flag h hr (inSchema_keyword _)).bind fun uniqueItems => .pure

/-- What is found about a schema of a type. -/
def typeSpots (name : String) : List Spot :=
  if name = "object" then objectSpots
  else if name = "array" then .about (.missing "array schema" "items") :: arraySpots
  else scalarKeys.map .at

theorem costs_typedShape (name : String) :
    Costs S D (r.cost D true (typeSpots name)) (r.typedShape read name) := by
  unfold typedShape typeSpots
  split
  · exact (costs_objectShape h hread hr).thenPure
  · split
    · exact .ite_append (costs_tell rfl h hr _) (fun _ => (costs_arrayShape h hread hr).thenPure)
        fun hrest => (hrest ()).le (Nat.le_add_left _ _)
    · split
      · exact (costs_scalarShape h hr _).thenPure
      · exact Costs.pure.le (Nat.zero_le _)

/-- What is found about the shape of a schema. -/
def shapeSpots : List Spot :=
  objectSpots ++ .about (.missing "array schema" "items") :: arraySpots ++ scalarKeys.map .at

omit h hread hr in
theorem cost_typeSpots_le (name : String) :
    r.cost D true (typeSpots name) ≤ r.cost D true shapeSpots := by
  unfold shapeSpots typeSpots
  rw [cost_append, cost_append]
  split
  · omega
  · split <;> omega

omit h hread hr in
/-- Of different names, one costs something at the most. -/
theorem sum_ite_le {names : List String} (hnodup : names.Nodup) (name : String) (c : Nat) :
    (names.map fun other => if other = name then c else 0).sum ≤ c := by
  induction names with
  | nil => exact Nat.zero_le _
  | cons first rest ih =>
    obtain ⟨hfirst, hrest⟩ := List.nodup_cons.mp hnodup
    rw [List.map_cons, List.sum_cons]
    split
    · next heq =>
      refine Nat.le_of_eq (Nat.add_eq_left.mpr (List.sum_eq_zero fun k hk => ?_))
      obtain ⟨other, hother, rfl⟩ := List.mem_map.mp hk
      exact if_neg fun hname => hfirst (by rwa [heq, ← hname])
    · rw [Nat.zero_add]
      exact ih hrest

omit hread in
/-- Different types have no field in common, apart from scalar ones. -/
theorem sum_cost_typeSpots_le {names : List String} (hnodup : names.Nodup)
    (hseveral : r.SeveralTypes) :
    (names.map fun name => r.cost D true (typeSpots name)).sum ≤ r.cost D true shapeSpots := by
  have hscalar := cost_eq_zero_of_severalTypes h hr hseveral scalarKeys
    (List.subset_cons_self _ _)
  have hcost : ∀ name, r.cost D true (typeSpots name) =
      (if name = "object" then r.cost D true objectSpots else 0) +
        if name = "array" then
          r.cost D true (.about (.missing "array schema" "items") :: arraySpots) else 0 := by
    intro name
    unfold typeSpots
    by_cases hobject : name = "object"
    · subst hobject
      simp
    · by_cases harray : name = "array"
      · subst harray
        simp
      · simp [hobject, harray, hscalar]
  simp only [hcost, List.sum_map_add]
  unfold shapeSpots
  rw [cost_append, cost_append]
  have hobjects := sum_ite_le hnodup "object" (r.cost D true objectSpots)
  have harrays := sum_ite_le hnodup "array"
    (r.cost D true (.about (.missing "array schema" "items") :: arraySpots))
  omega

theorem costs_shapeOfTypes {names : List String} (hnodup : names.Nodup)
    (hseveral : names.length ≤ 1 ∨ r.SeveralTypes) :
    Costs S D (r.cost D true shapeSpots) (r.shapeOfTypes read names) := by
  unfold shapeOfTypes
  split
  · have hobject := (costs_objectShape h hread hr).map Shape.object
    have harray := (costs_arrayShape h hread hr).map Shape.array
    refine .ite (fun _ => hobject.le ?_) fun _ => .ite (fun _ => harray.le ?_) fun _ => ?_
    · exact cost_typeSpots_le "object"
    · exact Nat.le_trans (Nat.le_add_left _ _) (cost_typeSpots_le "array")
    · exact Costs.pure.le (Nat.zero_le _)
  · exact (costs_typedShape h hread hr _).le (cost_typeSpots_le _)
  · next hnone hone =>
    have hseveral : r.SeveralTypes := by
      refine hseveral.resolve_left fun hlength => ?_
      match names, hlength with
      | [], _ => exact hnone rfl
      | [name], _ => exact hone name rfl
    have heach : Costs S D (r.cost D true shapeSpots)
        (Binding.each (r.memberOfType read) names) := by
      refine (Costs.each (k := fun name => r.cost D true (typeSpots name)) fun name _ => ?_).le
        (sum_cost_typeSpots_le h hr hnodup hseveral)
      exact (costs_typedShape h hread hr name).bind fun shape => costs_allocate _
    exact heach.thenPure

/-! ## Discriminators -/

omit hr in
/-- The names of alternatives cost the share of what holds them. -/
theorem costs_mapping {entries : Record} (hentries : entries.Plays S .mapping)
    (hscope : entries.scope = r.scope) :
    Costs S D (entries.node.share D true)
      (readFields entries.fields (mappingEntry read r entries)) := by
  refine costs_readFields h hentries fun member hmember => ?_
  have hname : (entries.child member).Plays S .schemaName := hmember
  unfold mappingEntry
  split
  · next name hvalue =>
    have hstate := costs_referenceState (r := r) h hread hname rfl hscope
      fun target hlocate => .alternative hname hvalue (by rwa [← hscope] at hlocate)
    exact hstate.bind fun state => .pure
  · exact ((costs_tellMistyped h hentries rfl _ _).le cost_at_le).bind fun _ => .pure

/-- What is done with a discriminator may find something about it, but only if reading it has found
nothing there. -/
theorem costs_discriminator? {β : Type} {c : Nat} {f : Option Discriminator → Binding β}
    (hnone : Costs S D c (f none))
    (hsome : ∀ d, Costs S D (r.cost D true [.at "discriminator"] + c) (f (some d))) :
    Costs S D (r.cost D true [.below "discriminator"] + c) (r.discriminator? read >>= f) := by
  unfold discriminator?
  rw [bind_assoc]
  refine costs_recordThere? h hr (inSchema_keyword _) hnone fun d hd hscope hpointer => ?_
  dsimp only
  rw [bind_assoc]
  refine CostsOr.bind (costsOr_requiredText? h hd rfl rfl _) hnone (fun propertyName => ?_)
    (Nat.add_le_add_right (cost_le_share (by decide)) _)
  dsimp only
  rw [bind_assoc]
  -- names of alternatives are below the discriminator, and not the discriminator itself
  have hshare : d.cost D true [.below "mapping"] + r.cost D true [.at "discriminator"] ≤
      d.node.share D true := by
    refine add_weight_le (fun hit => weight_of_not fun hat => ?_)
      (weight_mono fun hat => ⟨hat.1, ?_⟩) fun hit => ⟨hit.1, hit.2.of_push⟩
    · have hbelow : D.Below d.scope (d.pointer.push "mapping") := hit.2
      rw [hscope, hpointer] at hbelow
      exact hbelow.not_at hat.2
    · have hat : D.At r.scope (r.pointer.push "discriminator") := hat.2
      rw [← hscope, ← hpointer] at hat
      exact hat.below
  have hmapping : ((Role.schema.under "discriminator").under "mapping").inSchema = true := rfl
  refine (costs_recordThere? h hd hmapping (c := r.cost D true [.at "discriminator"] + c) (hsome _)
    fun entries hentries hscope' _ => ?_).le (by omega)
  exact (costs_mapping h hread hentries (hscope'.trans hscope)).bind fun mapping =>
    hsome ⟨propertyName, mapping⟩

omit hread in
theorem costs_withDiscriminator (shape : Shape) (d : Discriminator) :
    Costs S D (r.cost D true [.at "discriminator"]) (r.withDiscriminator shape d) := by
  unfold withDiscriminator
  split
  · exact Costs.pure.le (Nat.zero_le _)
  · exact Costs.pure.le (Nat.zero_le _)
  · exact Costs.pure.le (Nat.zero_le _)
  · exact (costs_tellField h hr (inSchema_keyword _) _).bind fun _ => .pure

omit h hread hr in
theorem costs_inlined? (shape : Shape) : Costs S D 0 (r.inlined? shape) := by
  unfold inlined?
  split
  · exact .pure
  · exact (costs_allocate _).after fun _ => .pure

/-- What is found about the schemas that a schema is put together from. -/
def compositionSpots : List Spot := [.at "allOf", .at "oneOf", .at "anyOf"]

theorem costs_shape {names : List String} (hnodup : names.Nodup)
    (hseveral : names.length ≤ 1 ∨ r.SeveralTypes) :
    Costs S D (r.cost D true (shapeSpots ++ .below "discriminator" :: compositionSpots))
      (r.shape read names) := by
  refine (costs_shapeOfTypes h hread hr hnodup hseveral).append fun structural => ?_
  refine costs_discriminator? h hread hr (c := r.cost D true compositionSpots)
    (.ite (fun _ => Costs.pure.le (Nat.zero_le _)) fun _ => ?_)
    fun d => .ite (fun _ => ?_) fun _ => Costs.le ?_ (Nat.le_add_left _ _)
  case refine_2 => exact (costs_withDiscriminator h hr structural d).le (Nat.le_add_right _ _)
  -- with or without a discriminator, the schema is put together from the same lists
  all_goals
    refine (costs_schemaList h hread hr "allOf" rfl).append fun allOf => ?_
    refine (costs_schemaList h hread hr "oneOf" rfl).append fun oneOf => ?_
    refine (costs_schemaList h hread hr "anyOf" rfl).bind fun anyOf => ?_
    refine (costs_schema? hread hr "not" rfl).after fun negated => ?_
    exact (costs_inlined? structural).after fun inlined => .pure

/-! ## Schemas -/

/-- What is found about a schema that is no reference. -/
def schemaSpots : List Spot :=
  annotationSpots ++ .below "type" :: (shapeSpots ++ .below "discriminator" :: compositionSpots)

/-- An object that is read as a schema finds only what it is to blame for. -/
theorem costs_schemaHere :
    Costs S D (weight (D.BlamesSite S r.node.site)) (Record.schemaHere read r) := by
  unfold schemaHere
  split
  · next text htext =>
    refine (costs_referenceSchema h hread hr htext).le ?_
    unfold referenceSpots
    split
    · exact cost_le_blame h hr _ (by decide) (by decide)
    · exact cost_le_blame h hr _ (by decide) (by decide)
  · refine Costs.le ((costs_tellMistyped h hr (inSchema_keyword _) _ _).bind fun _ => .pure) ?_
    exact cost_le_blame h hr [.at referenceKey] (by decide) (by decide)
  · refine Costs.le ((costs_annotated h hr).append fun s => ?_)
      (cost_le_blame h hr schemaSpots (by decide +kernel) (by decide +kernel))
    refine ((costs_types h hr).bind_of types_gives_distinct fun types htypes => ?_).le
      (Nat.le_of_eq (cost_append true r [.below "type"] _).symm)
    exact (costs_shape h hread hr htypes.1 htypes.2).thenPure

end Parts

end Record

namespace Finding

/-- What is found about a value that is no schema is not what the schema that holds it finds. -/
theorem not_byHolder_of_message {f g : Finding} (hg : g.ByHolder)
    (hf : f = .booleanSchema ∨ ∃ kind, f = .notObject "schema" kind) : f.message ≠ g.message := by
  rcases hf with rfl | ⟨kind, rfl⟩
  · cases hg with
    | itemList => decide
    | additional found => cases found <;> decide
  · cases hg with
    | itemList => cases kind <;> decide
    | additional found => cases kind <;> cases found <;> decide

end Finding

namespace Node

variable {n : Node} (h : S.Sole D)
include h

/-- What is found about a node that is read as a schema is what it is to blame for. -/
theorem costs_blame (hn : n.Plays S .schema) {f : Finding}
    (hf : ∀ g : Finding, g.ByHolder → f.category ≠ g.category ∨ f.message ≠ g.message) :
    Costs S D (weight (D.BlamesSite S n.site)) (n.tell f) := by
  refine (Binding.costs_tell n.scope n.pointer f).le (weight_mono fun heq => ?_)
  have hat := Diagnostic.at_of_eq heq
  refine ⟨⟨n.scope, hn.sited.scope, rfl, hat.1⟩, .here (h.orderly hn hat.below) hat.2 ?_⟩
  rintro ⟨g, hg, hcategory, hmessage⟩
  rw [heq] at hcategory hmessage
  exact (hf g hg).elim (· hcategory) (· hmessage)

theorem costs_schemaHere (hread : read.CostsNothing S D) (hn : n.Plays S .schema) :
    Costs S D (weight (D.BlamesSite S n.site)) (n.schemaHere read) := by
  obtain ⟨scope, pointer, value⟩ := n
  have htell : ∀ f : Finding, (f = .booleanSchema ∨ ∃ kind, f = .notObject "schema" kind) →
      ∀ s : Schema, Costs S D (weight (D.BlamesSite S ⟨scope.place, pointer⟩))
        (Node.tell ⟨scope, pointer, value⟩ f >>= fun _ => pure s) := fun f hf s =>
    (costs_blame h hn fun g hg => .inr (Finding.not_byHolder_of_message hg hf)).thenPure
  cases value with
  | object members => exact Record.costs_schemaHere (r := ⟨scope, pointer, members⟩) h hread hn
  | bool accepts =>
    exact .ite (fun _ => Costs.pure.le (Nat.zero_le _)) fun _ => htell _ (.inl rfl) _
  | _ => exact htell _ (.inr ⟨_, rfl⟩) _

omit h in
/-- A schema that was met is looked up; otherwise it is read. -/
theorem costs_lookup {room : Nat} (hnew : ∀ w : Workspace, w.slot? n.site = none →
      (n.schemaWithin room w).2.tally S D ≤ w.tally S D) :
    Costs S D 0 (n.schemaWithin room) := by
  intro w
  cases hslot : w.slot? n.site with
  | some slot => rw [schemaWithin_of_met hslot, Nat.add_zero]
  | none => exact hnew w hslot

/-- Whatever is found about a schema, meeting it has paid for it. -/
theorem costs_schemaWithin (room : Nat) : SchemaReader.CostsNothing S D (schemaWithin room) := by
  induction room with
  | zero =>
    refine fun {n} hn => costs_lookup fun w hslot => ?_
    have htell := costs_blame (f := .nestingTooDeep n.scope.setting.options.maxDepth) h hn
      (fun g hg => .inl (by cases hg <;> nofun)) w
    have hmet : (n.schemaWithin 0 w).2.tally S D + weight (D.BlamesSite S n.site) ≤
        (n.tell (.nestingTooDeep n.scope.setting.options.maxDepth) w).2.tally S D := by
      rw [schemaWithin_zero hslot]
      exact Workspace.tally_add_le h rfl rfl hslot
    omega
  | succ room ih =>
    refine fun {n} hn => costs_lookup fun w hslot => ?_
    have hmet : (w.opening n).tally S D + weight (D.BlamesSite S n.site) ≤ w.tally S D :=
      Workspace.tally_add_le h rfl rfl hslot
    have hread := costs_schemaHere h ih hn (w.opening n)
    have hleft : (n.schemaWithin (room + 1) w).2.tally S D ≤
        (n.schemaHere (schemaWithin room) (w.opening n)).2.tally S D := by
      rw [schemaWithin_succ hslot]
      exact Workspace.tally_le rfl (List.subset_cons_self _ _)
    omega

theorem costs_schema : SchemaReader.CostsNothing S D schema := fun hn => costs_schemaWithin h _ hn

end Node

end ApiDescription
