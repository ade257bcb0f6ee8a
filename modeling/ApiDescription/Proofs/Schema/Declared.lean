import ApiDescription.Proofs.Schema.Chains
import ApiDescription.Validation.Schemas
import Mathlib.Data.List.Perm.Subperm
import Mathlib.Logic.Relation

/-!
# Properties that a schema declares

A schema declares a property if it is an object that lists it, or if one gets to such an object by
going from references to their targets and from compositions to the schemas that all must accept
the value.  `Validation.declares` looks for such an object.  It keeps the schemas that it has met,
for all branches together, and a schema that it meets again answers no.

That is right although the schema may have been met in a branch that is not finished: once the
search comes to its end without a result, everything that was met has been looked into, and leads
only to what was met (`Validation.Searches.settled`).  And it comes to an end, since no schema is
met twice; `declares` gives it that much room.  `Validation.declares_iff_inherits` says both of all
graphs, also of those in which schemas are put together from themselves.
-/

namespace ApiDescription

open Relation (ReflTransGen)

namespace SchemaGraph

variable {g : SchemaGraph} {id target end_ : SchemaId} {property : String}

/-- A schema is an object that lists a property. -/
def lists (g : SchemaGraph) (id : SchemaId) (property : String) : Bool :=
  match (g.get? id).map Schema.shape with
  | some (.object o) => o.properties.contains property
  | _ => false

/-- The schemas that all must accept what a composition accepts: those that it lists as such, and
what is said besides. -/
def conjuncts (g : SchemaGraph) (id : SchemaId) : List SchemaId :=
  match (g.get? id).map Schema.shape with
  | some (.composed c) => c.allOf ++ c.inlined.toList
  | _ => []

/-- One step from a schema to another whose properties it has as well. -/
inductive Inherits (g : SchemaGraph) : SchemaId → SchemaId → Prop
  /-- From a reference to its target. -/
  | target {id target : SchemaId} (h : g.next? id = some target) : Inherits g id target
  /-- From a composition to one of the schemas that all must accept the value. -/
  | conjunct {id part : SchemaId} (h : part ∈ g.conjuncts id) : Inherits g id part

/-- A schema that is put together from others, or lists a property, is no reference. -/
theorem concrete_of_conjunct {part : SchemaId} (h : part ∈ g.conjuncts id) : g.Concrete id := by
  unfold conjuncts at h
  cases hs : g.get? id with
  | none => simp [hs] at h
  | some s =>
    refine ⟨s, hs, ?_⟩
    unfold Schema.reference?
    cases hshape : s.shape <;> simp [hs, hshape] at h ⊢

theorem concrete_of_lists (h : g.lists id property) : g.Concrete id := by
  unfold lists at h
  cases hs : g.get? id with
  | none => simp [hs] at h
  | some s =>
    refine ⟨s, hs, ?_⟩
    unfold Schema.reference?
    cases hshape : s.shape <;> simp [hs, hshape] at h ⊢

theorem lt_size_of_resolve? (h : g.resolve? id = some end_) : end_ < g.size := by
  obtain ⟨s, hs, -⟩ := concrete_of_resolve? h
  exact lt_size_iff.mpr ⟨s, hs⟩

/-- What a chain of references comes to has its properties. -/
theorem inherits_of_resolve? (h : g.resolve? id = some end_) :
    ReflTransGen g.Inherits id end_ := by
  obtain ⟨k, hchain, -⟩ := resolve?_eq_some_iff.mp h
  clear h
  induction k generalizing end_ with
  | zero =>
    have heq : id = end_ := Option.some.inj hchain
    exact heq ▸ .refl
  | succ k ih =>
    obtain ⟨last, hlast, hnext⟩ := Option.bind_eq_some_iff.mp hchain
    exact (ih hlast).tail (.target hnext)

end SchemaGraph

namespace Validation

variable {g : SchemaGraph} {property : String} {met met' met'' ids rest : List SchemaId}
  {id end_ : SchemaId} {found : Bool} {room : Nat}

/-! ## The search -/

/-- The search for a property through several schemas: which schemas were met before it, whether it
is found, and which schemas are met after it.  A derivation is a search that comes to its end. -/
inductive Searches (g : SchemaGraph) (property : String) :
    List SchemaId → List SchemaId → Bool → List SchemaId → Prop
  /-- Nothing is left. -/
  | done {met : List SchemaId} : Searches g property met [] false met
  /-- A chain of references comes to nothing. -/
  | broken {met rest met' : List SchemaId} {id : SchemaId} {found : Bool}
      (hend : g.resolve? id = none) (hrest : Searches g property met rest found met') :
      Searches g property met (id :: rest) found met'
  /-- A schema was met before. -/
  | again {met rest met' : List SchemaId} {id end_ : SchemaId} {found : Bool}
      (hend : g.resolve? id = some end_) (hmet : end_ ∈ met)
      (hrest : Searches g property met rest found met') :
      Searches g property met (id :: rest) found met'
  /-- An object lists the property. -/
  | listed {met rest : List SchemaId} {id end_ : SchemaId} (hend : g.resolve? id = some end_)
      (hnew : end_ ∉ met) (hlists : g.lists end_ property = true) :
      Searches g property met (id :: rest) true (end_ :: met)
  /-- The property is found inside of a composition. -/
  | inside {met rest met' : List SchemaId} {id end_ : SchemaId} (hend : g.resolve? id = some end_)
      (hnew : end_ ∉ met) (hlists : g.lists end_ property = false)
      (hparts : Searches g property (end_ :: met) (g.conjuncts end_) true met') :
      Searches g property met (id :: rest) true met'
  /-- The property is not found there, and the search goes on besides. -/
  | beside {met rest met' met'' : List SchemaId} {id end_ : SchemaId} {found : Bool}
      (hend : g.resolve? id = some end_) (hnew : end_ ∉ met)
      (hlists : g.lists end_ property = false)
      (hparts : Searches g property (end_ :: met) (g.conjuncts end_) false met')
      (hrest : Searches g property met' rest found met'') :
      Searches g property met (id :: rest) found met''

namespace Searches

/-- What was found at one schema is found at several. -/
theorem cons_found (h : Searches g property met [id] true met') :
    Searches g property met (id :: rest) true met' := by
  cases h with
  | broken hend hrest => cases hrest
  | again hend hmet hrest => cases hrest
  | listed hend hnew hlists => exact .listed hend hnew hlists
  | inside hend hnew hlists hparts => exact .inside hend hnew hlists hparts
  | beside hend hnew hlists hparts hrest => cases hrest

/-- What was not found at one schema is looked for in the others. -/
theorem cons_missed (h : Searches g property met [id] false met')
    (hrest : Searches g property met' rest found met'') :
    Searches g property met (id :: rest) found met'' := by
  cases h with
  | broken hend hdone =>
    cases hdone
    exact .broken hend hrest
  | again hend hmet hdone =>
    cases hdone
    exact .again hend hmet hrest
  | beside hend hnew hlists hparts hdone =>
    cases hdone
    exact .beside hend hnew hlists hparts hrest

/-- Schemas that were met stay met. -/
theorem subset (h : Searches g property met ids found met') : met ⊆ met' := by
  induction h with
  | done => exact List.Subset.refl _
  | broken _ _ ih => exact ih
  | again _ _ _ ih => exact ih
  | listed => exact List.subset_cons_self _ _
  | inside _ _ _ _ ih => exact List.Subset.trans (List.subset_cons_self _ _) ih
  | beside _ _ _ _ _ ihparts ihrest =>
    have hparts := List.Subset.trans (List.subset_cons_self _ _) ihparts
    exact List.Subset.trans hparts ihrest

/-- A search that finds the property has come to an object that lists it. -/
theorem exists_holder (h : Searches g property met ids true met') :
    ∃ id ∈ ids, ∃ holder, ReflTransGen g.Inherits id holder ∧ g.lists holder property = true := by
  generalize hfound : true = found at h
  induction h with
  | done => cases hfound
  | broken _ _ ih =>
    obtain ⟨id, hid, hholder⟩ := ih hfound
    exact ⟨id, List.mem_cons_of_mem _ hid, hholder⟩
  | again _ _ _ ih =>
    obtain ⟨id, hid, hholder⟩ := ih hfound
    exact ⟨id, List.mem_cons_of_mem _ hid, hholder⟩
  | listed hend _ hlists =>
    exact ⟨_, List.mem_cons_self, _, SchemaGraph.inherits_of_resolve? hend, hlists⟩
  | inside hend _ _ _ ih =>
    obtain ⟨part, hpart, holder, hinherits, hlists⟩ := ih rfl
    have hstep : ReflTransGen g.Inherits _ part :=
      (SchemaGraph.inherits_of_resolve? hend).tail (.conjunct hpart)
    exact ⟨_, List.mem_cons_self, holder, hstep.trans hinherits, hlists⟩
  | beside _ _ _ _ _ _ ih =>
    obtain ⟨id, hid, hholder⟩ := ih hfound
    exact ⟨id, List.mem_cons_of_mem _ hid, hholder⟩

end Searches

/-! ## Searches without a result -/

/-- A schema was looked into: it does not list the property, and it leads only to what was met. -/
structure Settled (g : SchemaGraph) (property : String) (met : List SchemaId) (id : SchemaId) :
    Prop where
  lists : g.lists id property = false
  parts : ∀ part ∈ g.conjuncts id, ∀ end_, g.resolve? part = some end_ → end_ ∈ met

theorem Settled.mono (h : Settled g property met id) (hmet : met ⊆ met') :
    Settled g property met' id where
  lists := h.lists
  parts part hpart end_ hend := hmet (h.parts part hpart end_ hend)

/-- A search that does not find the property meets all schemas that it is to look at, and looks into
all schemas that it meets. -/
theorem Searches.settled (h : Searches g property met ids false met') :
    (∀ id ∈ ids, ∀ end_, g.resolve? id = some end_ → end_ ∈ met') ∧
      ∀ id ∈ met', id ∉ met → Settled g property met' id := by
  generalize hfound : false = found at h
  induction h with
  | done => exact ⟨fun id hid => absurd hid List.not_mem_nil, fun id hid hnot => absurd hid hnot⟩
  | broken hend _ ih =>
    obtain ⟨hids, hmet⟩ := ih hfound
    refine ⟨fun id hid end_ hresolve => ?_, hmet⟩
    rcases List.mem_cons.mp hid with rfl | hid
    · rw [hend] at hresolve
      cases hresolve
    · exact hids id hid end_ hresolve
  | again hend hold hrest ih =>
    obtain ⟨hids, hmet⟩ := ih hfound
    refine ⟨fun id hid end_ hresolve => ?_, hmet⟩
    rcases List.mem_cons.mp hid with rfl | hid
    · have heq := Option.some.inj (hend.symm.trans hresolve)
      exact hrest.subset (heq ▸ hold)
    · exact hids id hid end_ hresolve
  | listed => cases hfound
  | inside => cases hfound
  | @beside met rest met' met'' first end_ found hend hnew hlists hparts hrest ihparts ihrest =>
    obtain ⟨hinside, hbetween⟩ := ihparts rfl
    obtain ⟨hids, hmet⟩ := ihrest hfound
    have hself : end_ ∈ met' := hparts.subset List.mem_cons_self
    constructor
    · intro id hid end' hresolve
      rcases List.mem_cons.mp hid with rfl | hid
      · have heq := Option.some.inj (hend.symm.trans hresolve)
        exact hrest.subset (heq ▸ hself)
      · exact hids id hid end' hresolve
    · intro id hid hnot
      by_cases hafter : id ∈ met'
      -- it was met inside of the first schema, or it is that schema
      · have hsettled : Settled g property met' id := by
          by_cases hfirst : id = end_
          · rw [hfirst]
            exact ⟨hlists, hinside⟩
          · exact hbetween id hafter fun hmem =>
              (List.mem_cons.mp hmem).elim hfirst hnot
        exact hsettled.mono hrest.subset
      · exact hmet id hid hafter

/-- Where everything that was met was looked into, what a schema gets its properties from was met,
as far as chains of references come to something. -/
theorem mem_of_inherits (hsettled : ∀ id ∈ met, Settled g property met id) {holder : SchemaId}
    (hid : ∀ end_, g.resolve? id = some end_ → end_ ∈ met)
    (h : ReflTransGen g.Inherits id holder) :
    ∀ end_, g.resolve? holder = some end_ → end_ ∈ met := by
  induction h with
  | refl => exact hid
  | @tail last holder _ hstep ih =>
    intro end_ hend
    cases hstep with
    | target hnext => exact ih end_ ((SchemaGraph.resolve?_of_next? hnext).trans hend)
    | conjunct hpart =>
      have hlast := ih last (SchemaGraph.resolve?_of_concrete (g.concrete_of_conjunct hpart))
      exact (hsettled last hlast).parts holder hpart end_ hend

/-! ## Room for the search -/

/-- Schemas that were met, each once. -/
structure Distinct (g : SchemaGraph) (met : List SchemaId) : Prop where
  nodup : met.Nodup
  lt_size : ∀ id ∈ met, id < g.size

theorem Distinct.length_le (h : Distinct g met) : met.length ≤ g.size := by
  have hsubset : met ⊆ List.range g.size := fun id hid => List.mem_range.mpr (h.lt_size id hid)
  have hle := (List.subperm_of_subset h.nodup hsubset).length_le
  rwa [List.length_range] at hle

theorem Distinct.cons (h : Distinct g met) (hend : g.resolve? id = some end_)
    (hnew : end_ ∉ met) : Distinct g (end_ :: met) where
  nodup := List.nodup_cons.mpr ⟨hnew, h.nodup⟩
  lt_size other hother := by
    rcases List.mem_cons.mp hother with rfl | hother
    · exact SchemaGraph.lt_size_of_resolve? hend
    · exact h.lt_size other hother

theorem Searches.distinct (h : Searches g property met ids found met') (hmet : Distinct g met) :
    Distinct g met' := by
  induction h with
  | done => exact hmet
  | broken _ _ ih => exact ih hmet
  | again _ _ _ ih => exact ih hmet
  | listed hend hnew _ => exact hmet.cons hend hnew
  | inside hend hnew _ _ ih => exact ih (hmet.cons hend hnew)
  | beside hend hnew _ _ _ ihparts ihrest => exact ihrest (ihparts (hmet.cons hend hnew))

/-- At a schema that was not met before, the property is listed, or looked for further inside. -/
theorem declaresWithin_succ (hend : g.resolve? id = some end_) (hnew : end_ ∉ met) :
    declaresWithin g property (room + 1) met id =
      if g.lists end_ property then (true, end_ :: met)
      else anyPasses (declaresWithin g property room) (end_ :: met) (g.conjuncts end_) := by
  unfold declaresWithin SchemaGraph.lists SchemaGraph.conjuncts
  simp only [hend, if_neg hnew]
  split
  -- an object, a composition, and what is neither
  · next o hshape =>
    simp only [hshape, anyPasses]
    cases o.properties.contains property <;> rfl
  · next c hshape =>
    simp only [hshape, Bool.false_eq_true, if_false]
  · simp only [anyPasses, Bool.false_eq_true, if_false]

/-- Several schemas are searched one after the other. -/
theorem searches_anyPasses {test : List SchemaId → SchemaId → Bool × List SchemaId}
    (htest : ∀ met id, Distinct g met → g.size < room + met.length →
      Searches g property met [id] (test met id).1 (test met id).2)
    (hmet : Distinct g met) (hroom : g.size < room + met.length) (ids : List SchemaId) :
    Searches g property met ids (anyPasses test met ids).1 (anyPasses test met ids).2 := by
  induction ids generalizing met with
  | nil => exact .done
  | cons id rest ih =>
    have hfirst := htest met id hmet hroom
    unfold anyPasses
    rcases hresult : test met id with ⟨_ | _, met'⟩
    · rw [hresult] at hfirst
      have hmet' := hfirst.distinct hmet
      have hlength := (List.subperm_of_subset hmet.nodup hfirst.subset).length_le
      exact hfirst.cons_missed (ih hmet' (by omega))
    · rw [hresult] at hfirst
      exact hfirst.cons_found

/-- Where there is room for the schemas that were not met, the search comes to its end. -/
theorem searches_declaresWithin (room : Nat) (met : List SchemaId) (id : SchemaId)
    (hmet : Distinct g met) (hroom : g.size < room + met.length) :
    Searches g property met [id] (declaresWithin g property room met id).1
      (declaresWithin g property room met id).2 := by
  induction room generalizing met id with
  | zero =>
    have hle := hmet.length_le
    omega
  | succ room ih =>
    cases hend : g.resolve? id with
    | none =>
      simp only [declaresWithin, hend]
      exact .broken hend .done
    | some end_ =>
      by_cases hold : end_ ∈ met
      · simp only [declaresWithin, hend, if_pos hold]
        exact .again hend hold .done
      · rw [declaresWithin_succ hend hold]
        cases hlists : g.lists end_ property with
        | true => exact .listed hend hold hlists
        | false =>
          -- a schema that is new among those that were met makes up for the room
          have hroom' : g.size < room + (end_ :: met).length := by
            rw [List.length_cons]
            omega
          have hparts := searches_anyPasses ih (hmet.cons hend hold) hroom' (g.conjuncts end_)
          simp only [Bool.false_eq_true, if_false]
          cases hfound : (anyPasses (declaresWithin g property room) (end_ :: met)
            (g.conjuncts end_)).1 with
          | true =>
            rw [hfound] at hparts
            exact .inside hend hold hlists hparts
          | false =>
            rw [hfound] at hparts
            exact .beside hend hold hlists hparts .done

/-- In every graph, the search for a property comes to its end, beginning with any schema, and it
finds the property exactly if an object lists it from which the schema gets its properties: by going
to targets of references and to the schemas that all must accept the value, as often as need be. -/
theorem declares_iff_inherits (g : SchemaGraph) (id : SchemaId) (property : String) :
    (∃ met, Searches g property [] [id] (declares g id property) met) ∧
      (declares g id property = true ↔
        ∃ holder, ReflTransGen g.Inherits id holder ∧ g.lists holder property = true) := by
  have hnone : Distinct g [] := ⟨.nil, fun _ h => absurd h List.not_mem_nil⟩
  have hsearch : Searches g property [] [id] (declares g id property)
      (declaresWithin g property (g.size + 1) [] id).2 :=
    searches_declaresWithin (g.size + 1) [] id hnone (by simp)
  refine ⟨⟨_, hsearch⟩, ?_⟩
  constructor
  · intro hfound
    rw [hfound] at hsearch
    obtain ⟨first, hfirst, hholder⟩ := hsearch.exists_holder
    obtain rfl := List.mem_singleton.mp hfirst
    exact hholder
  · rintro ⟨holder, hinherits, hlists⟩
    by_contra hmissed
    rw [Bool.not_eq_true] at hmissed
    rw [hmissed] at hsearch
    obtain ⟨hids, hmet⟩ := hsearch.settled
    have hsettled := fun id hid => hmet id hid List.not_mem_nil
    have hholder := mem_of_inherits hsettled (hids id (List.mem_singleton_self id)) hinherits
      holder (SchemaGraph.resolve?_of_concrete (SchemaGraph.concrete_of_lists hlists))
    have hnot := (hsettled holder hholder).lists
    rw [hlists] at hnot
    cases hnot

end Validation

end ApiDescription
