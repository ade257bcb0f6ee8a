import ApiDescription.Proofs.Checks

/-!
# Identifiers of operations

Two parts of the program go through the operations of a description to find who has an identifier.
The check goes once, with a table of the identifiers that it has seen and of the operation that had
each of them first.  A search goes from the beginning for each identifier that it is asked for, and
stops at the first operation that has it.

The table always says what the search would find among the operations before
(`Validation.IsTable`).  So an operation is reported exactly if one before it has its identifier,
and the report names the one that the search finds; and where none is reported, every operation is
the one that the search finds for its identifier: `Validation.operationIds`.
-/

namespace ApiDescription

/-- Behind other entries, an entry is found for a name that they do not have. -/
theorem Entries.get?_append_singleton {α : Type} (entries : Entries α) (entry : String × α)
    (name : String) :
    get? (entries ++ [entry]) name =
      (get? entries name).or (if name = entry.1 then some entry.2 else none) := by
  induction entries with
  | nil => rfl
  | cons head rest ih =>
    rw [List.cons_append, get?_cons, get?_cons, ih]
    split <;> rfl

/-- The operations of paths and of webhooks, in order. -/
def Description.ownOperations (d : Description) : List Operation :=
  (d.paths ++ d.webhooks).flatMap fun entry => entry.2.operationList

/-- The search and the check go through the same operations. -/
theorem Description.map_operations (d : Description) :
    (d.operations ++ d.webhookOperations).map (·.2) = d.ownOperations := by
  unfold operations webhookOperations operationsOf ownOperations
  simp [List.map_flatMap, Function.comp_def]

namespace Validation

variable {D : Diagnostic} {id : String} {o earlier : Operation} {before rest ops : List Operation}
  {first : Entries Operation} {d : Description}

/-! ## One operation -/

/-- The first operation that has an identifier. -/
def firstWith (ops : List Operation) (id : String) : Option Operation :=
  ops.find? (·.operationId = some id)

theorem firstWith_append_singleton :
    firstWith (before ++ [o]) id =
      (firstWith before id).or (if o.operationId = some id then some o else none) := by
  unfold firstWith
  rw [List.find?_append, List.find?_singleton]
  simp only [decide_eq_true_eq]

/-- The diagnostic for an operation behind others. -/
def repeatedId? (before : List Operation) (o : Operation) : Option Diagnostic := do
  let id ← o.operationId
  let earlier ← firstWith before id
  return (Finding.operationIdRepeated id earlier.method earlier.path).diagnostic o.document
    o.location

theorem repeatedId?_eq_some_iff :
    repeatedId? before o = some D ↔ ∃ id earlier, o.operationId = some id ∧
      firstWith before id = some earlier ∧
      D = (Finding.operationIdRepeated id earlier.method earlier.path).diagnostic o.document
        o.location := by
  unfold repeatedId?
  simp only [bind, pure, Option.bind_eq_some_iff, Option.some.injEq, eq_comm (a := D)]
  constructor
  · rintro ⟨id, hid, earlier, hearlier, hD⟩
    exact ⟨id, earlier, hid, hearlier, hD⟩
  · rintro ⟨id, earlier, hid, hearlier, hD⟩
    exact ⟨id, hid, earlier, hearlier, hD⟩

/-! ## The table -/

/-- A table has each identifier of some operations, with the first one that has it. -/
def IsTable (first : Entries Operation) (before : List Operation) : Prop :=
  ∀ id, first.get? id = firstWith before id

/-- An identifier that is not in the table is added to it. -/
theorem IsTable.add (h : IsTable first before) (hid : o.operationId = some id) :
    IsTable (first ++ [(id, o)]) (before ++ [o]) := by
  intro other
  rw [Entries.get?_append_singleton, firstWith_append_singleton, h other, hid]
  simp only [Option.some.injEq, eq_comm]

/-- An operation that changes nothing for any identifier is passed over. -/
theorem IsTable.skip (h : IsTable first before)
    (hid : ∀ id, o.operationId = some id → firstWith before id ≠ none) :
    IsTable first (before ++ [o]) := by
  intro other
  rw [firstWith_append_singleton, h other]
  by_cases hother : o.operationId = some other
  · obtain ⟨earlier, hearlier⟩ := Option.ne_none_iff_exists'.mp (hid other hother)
    rw [hearlier, Option.some_or]
  · rw [if_neg hother, Option.or_none]

/-- One operation is checked, and the table is right for the next one. -/
theorem repeatedIds_cons (h : IsTable first before) (o : Operation) (rest : List Operation) :
    ∃ next, IsTable next (before ++ [o]) ∧
      repeatedIds first (o :: rest) = (repeatedId? before o).toList ++ repeatedIds next rest := by
  unfold repeatedId?
  rw [repeatedIds]
  cases hid : o.operationId with
  | none => exact ⟨first, h.skip (by simp [hid]), rfl⟩
  | some id =>
    simp only [h id]
    cases hearlier : firstWith before id with
    | none => exact ⟨first ++ [(id, o)], h.add hid, by simp [hearlier]⟩
    | some earlier =>
      have hskip : ∀ other, o.operationId = some other → firstWith before other ≠ none := by
        rintro other hother
        obtain rfl := Option.some.inj (hid.symm.trans hother)
        simp [hearlier]
      exact ⟨first, h.skip hskip, by simp [hearlier]⟩

/-- What is reported is reported at an operation, for the ones before it. -/
theorem mem_repeatedIds_iff (h : IsTable first before) :
    D ∈ repeatedIds first ops ↔ ∃ front o back, ops = front ++ o :: back ∧
      repeatedId? (before ++ front) o = some D := by
  induction ops generalizing first before with
  | nil => simp [repeatedIds]
  | cons first' rest ih =>
    obtain ⟨next, hnext, hcons⟩ := repeatedIds_cons h first' rest
    rw [hcons, List.mem_append, ih hnext, Option.mem_toList]
    constructor
    · rintro (hD | ⟨front, o, back, rfl, hD⟩)
      · exact ⟨[], first', rest, rfl, by rwa [List.append_nil]⟩
      · exact ⟨first' :: front, o, back, rfl, by rwa [List.append_cons]⟩
    · rintro ⟨_ | ⟨o', front⟩, o, back, heq, hD⟩
      · obtain ⟨rfl, rfl⟩ := List.cons.inj heq
        exact .inl (by rwa [List.append_nil] at hD)
      · obtain ⟨rfl, rfl⟩ := List.cons.inj heq
        exact .inr ⟨front, o, back, rfl, by rwa [List.append_cons] at hD⟩

/-! ## Several operations with one identifier -/

/-- Among some operations, one has an identifier that an earlier one has, which is the first. -/
def Repeats (ops : List Operation) (id : String) (earlier o : Operation) : Prop :=
  ∃ before between after, ops = before ++ earlier :: (between ++ o :: after) ∧
    (∀ p ∈ before, p.operationId ≠ some id) ∧ earlier.operationId = some id ∧
      o.operationId = some id

theorem repeats_iff : Repeats ops id earlier o ↔ ∃ front back, ops = front ++ o :: back ∧
    o.operationId = some id ∧ firstWith front id = some earlier := by
  unfold Repeats firstWith
  simp only [List.find?_eq_some_iff_append, Bool.not_eq_true', decide_eq_true_eq,
    decide_eq_false_iff_not]
  constructor
  · rintro ⟨before, between, after, rfl, hbefore, hearlier, ho⟩
    refine ⟨before ++ earlier :: between, after, by simp, ho, hearlier, ?_⟩
    exact ⟨before, between, rfl, hbefore⟩
  · rintro ⟨front, after, rfl, ho, hearlier, before, between, rfl, hbefore⟩
    exact ⟨before, between, after, by simp, hbefore, hearlier, ho⟩

/-- Where two operations have an identifier, it is repeated. -/
theorem exists_repeats_of_sublist {p : Operation} (h : [o, p].Sublist ops)
    (ho : o.operationId = some id) (hp : p.operationId = some id) :
    ∃ earlier, Repeats ops id earlier p := by
  obtain ⟨left, right, rfl, hleft, hright⟩ := List.cons_sublist_iff.mp h
  obtain ⟨between, back, rfl⟩ := List.append_of_mem (List.singleton_sublist.mp hright)
  have hsome : (firstWith (left ++ between) id).isSome := by
    unfold firstWith
    rw [List.find?_isSome]
    exact ⟨o, List.mem_append_left _ hleft, by simp [ho]⟩
  obtain ⟨earlier, hearlier⟩ := Option.isSome_iff_exists.mp hsome
  exact ⟨earlier, repeats_iff.mpr ⟨left ++ between, back, by simp, hp, hearlier⟩⟩

theorem Repeats.sublist (h : Repeats ops id earlier o) : [earlier, o].Sublist ops := by
  obtain ⟨before, between, after, rfl, -⟩ := h
  have hlast : [o].Sublist (between ++ o :: after) := List.singleton_sublist.mpr (by simp)
  exact (hlast.cons_cons earlier).trans (List.sublist_append_right _ _)

/-- An operation whose identifier is not repeated is the first that has it. -/
theorem firstWith_of_not_repeats (hnone : ∀ earlier, ¬ Repeats ops id earlier o) (hmem : o ∈ ops)
    (hid : o.operationId = some id) : firstWith ops id = some o := by
  obtain ⟨front, back, rfl⟩ := List.append_of_mem hmem
  have hfront : firstWith front id = none := by
    rw [Option.eq_none_iff_forall_ne_some]
    intro earlier hearlier
    exact hnone earlier (repeats_iff.mpr ⟨front, back, rfl, hid, hearlier⟩)
  unfold firstWith at hfront ⊢
  rw [List.find?_append, hfront, Option.none_or]
  exact List.find?_cons_of_pos (decide_eq_true hid)

/-! ## Reports -/

/-- What is reported as repeated is what repeats. -/
theorem mem_operations_iff :
    D ∈ operations d ∧ D.category = .duplicateOperationId ↔
      ∃ id earlier o, Repeats d.ownOperations id earlier o ∧
        D = (Finding.operationIdRepeated id earlier.method earlier.path).diagnostic o.document
          o.location := by
  have htable : IsTable [] [] := fun _ => rfl
  have hids : D ∈ repeatedIds [] d.ownOperations ↔
      ∃ id earlier o, Repeats d.ownOperations id earlier o ∧
        D = (Finding.operationIdRepeated id earlier.method earlier.path).diagnostic o.document
          o.location := by
    simp only [mem_repeatedIds_iff htable, repeatedId?_eq_some_iff, repeats_iff, List.nil_append]
    constructor
    · rintro ⟨front, o, back, heq, id, earlier, hid, hearlier, rfl⟩
      exact ⟨id, earlier, o, ⟨front, back, heq, hid, hearlier⟩, rfl⟩
    · rintro ⟨id, earlier, o, ⟨front, back, heq, hid, hearlier⟩, rfl⟩
      exact ⟨front, o, back, heq, id, earlier, hid, hearlier, rfl⟩
  rw [← hids]
  unfold operations
  rw [d.map_operations, List.mem_append]
  constructor
  · rintro ⟨hD | hD, hcategory⟩
    · exact hD
    -- what is found about responses has other categories
    · obtain ⟨o, -, hD⟩ := List.mem_flatMap.mp hD
      rcases mem_responses.mp hD with ⟨-, rfl⟩ | ⟨_, _, -, -, -, rfl⟩ <;> cases hcategory
  · intro hD
    obtain ⟨id, earlier, o, -, rfl⟩ := hids.mp hD
    exact ⟨.inl hD, rfl⟩

/-- An identifier is reported as repeated exactly if two operations have it, at each operation that
has it but the first, and with the first one in the message.  If none is reported, then an operation
is found by its identifier. -/
theorem operationIds (d : Description) :
    ((∃ D ∈ operations d, D.category = .duplicateOperationId) ↔
        ∃ id o p, [o, p].Sublist d.ownOperations ∧ o.operationId = some id ∧
          p.operationId = some id) ∧
      (∀ D, D ∈ operations d ∧ D.category = .duplicateOperationId ↔
        ∃ id earlier o, Repeats d.ownOperations id earlier o ∧
          D = (Finding.operationIdRepeated id earlier.method earlier.path).diagnostic o.document
            o.location) ∧
      ((∀ D ∈ operations d, D.category ≠ .duplicateOperationId) →
        ∀ o ∈ d.ownOperations, ∀ id, o.operationId = some id →
          d.findOperation? id = some o) := by
  refine ⟨?_, fun D => mem_operations_iff, ?_⟩
  · constructor
    · rintro ⟨D, hD⟩
      obtain ⟨id, earlier, o, hrepeats, -⟩ := mem_operations_iff.mp hD
      have hsublist := hrepeats.sublist
      obtain ⟨-, -, -, -, -, hearlier, ho⟩ := hrepeats
      exact ⟨id, earlier, o, hsublist, hearlier, ho⟩
    · rintro ⟨id, o, p, hsublist, ho, hp⟩
      obtain ⟨earlier, hrepeats⟩ := exists_repeats_of_sublist hsublist ho hp
      exact ⟨_, mem_operations_iff.mpr ⟨id, earlier, p, hrepeats, rfl⟩⟩
  · intro hnone o ho id hid
    have hrepeats : ∀ earlier, ¬ Repeats d.ownOperations id earlier o := by
      intro earlier hrepeats
      obtain ⟨hD, hcategory⟩ := mem_operations_iff.mpr ⟨id, earlier, o, hrepeats, rfl⟩
      exact hnone _ hD hcategory
    have hfirst := firstWith_of_not_repeats hrepeats ho hid
    unfold Description.findOperation?
    rwa [d.map_operations]

end Validation

end ApiDescription
