import ApiDescription.Description.Traversal

/-!
# Where operations stand

`PathItem.Holds` and `Callback.Holds` say that an operation stands somewhere in a path item or in a
callback, however deep, by one rule for each way down.  The traversal lists exactly these
operations: `Description.mem_operations_iff`.  Of several with one key it keeps the first one:
`mem_of_mem_distinctOperations` and `exists_mem_distinctOperations`.
-/

namespace ApiDescription

mutual

/-- An operation stands in a path item: it is one of its operations, or it stands in a callback of
one of them. -/
inductive PathItem.Holds : PathItem → Operation → Prop
  | own {item : PathItem} {entry : Method × Operation} (h : entry ∈ item.operations) :
      PathItem.Holds item entry.2
  | called {item : PathItem} {entry : Method × Operation} {callback : String × Callback}
      {o : Operation} (h : entry ∈ item.operations) (hcallback : callback ∈ entry.2.callbacks)
      (ho : Callback.Holds callback.2 o) : PathItem.Holds item o

/-- An operation stands in a callback: it stands in one of its path items. -/
inductive Callback.Holds : Callback → Operation → Prop
  | intro {c : Callback} {entry : String × PathItem} {o : Operation} (h : entry ∈ c.expressions)
      (ho : PathItem.Holds entry.2 o) : Callback.Holds c o

end

/-- An operation stands in a description: under a path, a webhook, or a reusable path item or
callback. -/
inductive Description.Holds (d : Description) (o : Operation) : Prop
  | path {entry : String × PathItem} (h : entry ∈ d.paths) (ho : entry.2.Holds o) : Holds d o
  | webhook {entry : String × PathItem} (h : entry ∈ d.webhooks) (ho : entry.2.Holds o) :
      Holds d o
  | pathItem {entry : String × PathItem} (h : entry ∈ d.components.pathItems)
      (ho : entry.2.Holds o) : Holds d o
  | callback {entry : String × Callback} (h : entry ∈ d.components.callbacks)
      (ho : entry.2.Holds o) : Holds d o

/-! ## The lists of the traversal -/

theorem nestedInOperations_eq (operations : List (Method × Operation)) :
    nestedInOperations operations = operations.flatMap fun entry => entry.2.nested := by
  induction operations with
  | nil => rw [nestedInOperations, List.flatMap_nil]
  | cons first rest ih => rw [nestedInOperations, ih, List.flatMap_cons]

theorem nestedInCallbacks_eq (callbacks : List (String × Callback)) :
    nestedInCallbacks callbacks = callbacks.flatMap fun entry => entry.2.nested := by
  induction callbacks with
  | nil => rw [nestedInCallbacks, List.flatMap_nil]
  | cons first rest ih => rw [nestedInCallbacks, ih, List.flatMap_cons]

theorem withAllNested_eq (items : List (String × PathItem)) :
    withAllNested items = items.flatMap fun entry => entry.2.withNested := by
  induction items with
  | nil => rw [withAllNested, List.flatMap_nil]
  | cons first rest ih => rw [withAllNested, ih, List.flatMap_cons]

theorem Operation.nested_eq (o : Operation) : o.nested = nestedInCallbacks o.callbacks := by
  cases o
  rw [Operation.nested]

theorem Callback.nested_eq (c : Callback) : c.nested = withAllNested c.expressions := by
  cases c
  rw [Callback.nested]

theorem PathItem.withNested_eq (item : PathItem) :
    item.withNested = item :: nestedInOperations item.operations := by
  cases item
  rw [PathItem.withNested]

/-! ## What stands in them -/

/-- A callback is smaller than the path item that it is called in. -/
theorem PathItem.sizeOf_callback_lt {item : PathItem} {entry : Method × Operation}
    (h : entry ∈ item.operations) {callback : String × Callback}
    (hcallback : callback ∈ entry.2.callbacks) : sizeOf callback.2 < sizeOf item := by
  obtain ⟨_, operation⟩ := entry
  obtain ⟨_, callback⟩ := callback
  have houter := List.sizeOf_lt_of_mem h
  have hinner := List.sizeOf_lt_of_mem hcallback
  cases item
  cases operation
  simp only [Prod.mk.sizeOf_spec, PathItem.mk.sizeOf_spec, Operation.mk.sizeOf_spec]
    at houter hinner ⊢
  omega

/-- A path item is smaller than the callback that it stands in. -/
theorem Callback.sizeOf_item_lt {c : Callback} {entry : String × PathItem}
    (h : entry ∈ c.expressions) : sizeOf entry.2 < sizeOf c := by
  obtain ⟨_, item⟩ := entry
  have hlt := List.sizeOf_lt_of_mem h
  cases c
  simp only [Prod.mk.sizeOf_spec, Callback.mk.sizeOf_spec] at hlt ⊢
  omega

theorem PathItem.holds_iff {item : PathItem} {o : Operation} :
    item.Holds o ↔ o ∈ item.operationList ∨
      ∃ entry ∈ item.operations, ∃ callback ∈ entry.2.callbacks, callback.2.Holds o := by
  constructor
  · rintro (hown | ⟨hentry, hcallback, ho⟩)
    · exact .inl (List.mem_map_of_mem hown)
    · exact .inr ⟨_, hentry, _, hcallback, ho⟩
  · rintro (hown | ⟨entry, hentry, callback, hcallback, ho⟩)
    · obtain ⟨entry, hentry, rfl⟩ := List.mem_map.mp hown
      exact .own hentry
    · exact .called hentry hcallback ho

theorem Callback.holds_iff {c : Callback} {o : Operation} :
    c.Holds o ↔ ∃ entry ∈ c.expressions, entry.2.Holds o :=
  ⟨fun ⟨h, ho⟩ => ⟨_, h, ho⟩, fun ⟨_, h, ho⟩ => .intro h ho⟩

mutual

/-- The path items in a path item hold the operations that stand in it. -/
theorem PathItem.mem_withNested_iff {o : Operation} (item : PathItem) :
    (∃ i ∈ item.withNested, o ∈ i.operationList) ↔ item.Holds o := by
  rw [PathItem.withNested_eq, nestedInOperations_eq, PathItem.holds_iff]
  simp only [Operation.nested_eq, nestedInCallbacks_eq, List.mem_cons, List.mem_flatMap]
  constructor
  · rintro ⟨i, rfl | ⟨entry, hentry, callback, hcallback, hi⟩, ho⟩
    · exact .inl ho
    · have hlt := PathItem.sizeOf_callback_lt hentry hcallback
      have hheld := (Callback.mem_nested_iff callback.2).mp ⟨i, hi, ho⟩
      exact .inr ⟨entry, hentry, callback, hcallback, hheld⟩
  · rintro (hown | ⟨entry, hentry, callback, hcallback, ho⟩)
    · exact ⟨item, .inl rfl, hown⟩
    · have hlt := PathItem.sizeOf_callback_lt hentry hcallback
      obtain ⟨i, hi, hmem⟩ := (Callback.mem_nested_iff callback.2).mpr ho
      exact ⟨i, .inr ⟨entry, hentry, callback, hcallback, hi⟩, hmem⟩
termination_by sizeOf item

/-- The path items in a callback hold the operations that stand in it. -/
theorem Callback.mem_nested_iff {o : Operation} (c : Callback) :
    (∃ i ∈ c.nested, o ∈ i.operationList) ↔ c.Holds o := by
  rw [Callback.nested_eq, withAllNested_eq, Callback.holds_iff]
  simp only [List.mem_flatMap]
  constructor
  · rintro ⟨i, ⟨entry, hentry, hi⟩, ho⟩
    have hlt := Callback.sizeOf_item_lt hentry
    exact ⟨entry, hentry, (PathItem.mem_withNested_iff entry.2).mp ⟨i, hi, ho⟩⟩
  · rintro ⟨entry, hentry, ho⟩
    have hlt := Callback.sizeOf_item_lt hentry
    obtain ⟨i, hi, hmem⟩ := (PathItem.mem_withNested_iff entry.2).mpr ho
    exact ⟨i, ⟨entry, hentry, hi⟩, hmem⟩
termination_by sizeOf c

end

theorem mem_withAllNested_iff {o : Operation} (items : List (String × PathItem)) :
    (∃ i ∈ withAllNested items, o ∈ i.operationList) ↔ ∃ entry ∈ items, entry.2.Holds o := by
  simp only [withAllNested_eq, List.mem_flatMap, ← PathItem.mem_withNested_iff]
  exact ⟨fun ⟨i, ⟨entry, hentry, hi⟩, ho⟩ => ⟨entry, hentry, i, hi, ho⟩,
    fun ⟨entry, hentry, i, hi, ho⟩ => ⟨i, ⟨entry, hentry, hi⟩, ho⟩⟩

theorem mem_nestedInCallbacks_iff {o : Operation} (callbacks : List (String × Callback)) :
    (∃ i ∈ nestedInCallbacks callbacks, o ∈ i.operationList) ↔
      ∃ callback ∈ callbacks, callback.2.Holds o := by
  simp only [nestedInCallbacks_eq, List.mem_flatMap, ← Callback.mem_nested_iff]
  exact ⟨fun ⟨i, ⟨callback, hcallback, hi⟩, ho⟩ => ⟨callback, hcallback, i, hi, ho⟩,
    fun ⟨callback, hcallback, i, hi, ho⟩ => ⟨i, ⟨callback, hcallback, hi⟩, ho⟩⟩

/-- The operations of all path items are those that stand somewhere in the description. -/
theorem Description.mem_operations_iff {d : Description} {o : Operation} :
    o ∈ d.allPathItems.flatMap PathItem.operationList ↔ d.Holds o := by
  have hpaths := mem_withAllNested_iff (o := o) d.paths
  have hwebhooks := mem_withAllNested_iff (o := o) d.webhooks
  have hitems := mem_withAllNested_iff (o := o) d.components.pathItems
  have hcallbacks := mem_nestedInCallbacks_iff (o := o) d.components.callbacks
  simp only [allPathItems, List.mem_flatMap, List.mem_append, or_and_right, exists_or, hpaths,
    hwebhooks, hitems, hcallbacks]
  constructor
  · rintro (((⟨_, h, ho⟩ | ⟨_, h, ho⟩) | ⟨_, h, ho⟩) | ⟨_, h, ho⟩)
    · exact .path h ho
    · exact .webhook h ho
    · exact .pathItem h ho
    · exact .callback h ho
  · rintro (⟨h, ho⟩ | ⟨h, ho⟩ | ⟨h, ho⟩ | ⟨h, ho⟩)
    · exact .inl (.inl (.inl ⟨_, h, ho⟩))
    · exact .inl (.inl (.inr ⟨_, h, ho⟩))
    · exact .inl (.inr ⟨_, h, ho⟩)
    · exact .inr ⟨_, h, ho⟩

/-! ## Distinct operations -/

theorem mem_of_mem_distinctOperations {seen : List (Option String × Pointer)}
    {operations : List Operation} {o : Operation} (h : o ∈ distinctOperations seen operations) :
    o ∈ operations := by
  induction operations generalizing seen with
  | nil => simp [distinctOperations] at h
  | cons first rest ih =>
    rw [distinctOperations] at h
    split at h
    · exact List.mem_cons_of_mem _ (ih h)
    · rcases List.mem_cons.mp h with rfl | hrest
      · exact List.mem_cons_self
      · exact List.mem_cons_of_mem _ (ih hrest)

/-- Every operation whose key was not seen before is kept, or one with its key is. -/
theorem exists_mem_distinctOperations {seen : List (Option String × Pointer)}
    {operations : List Operation} {o : Operation} (h : o ∈ operations) (hseen : o.key ∉ seen) :
    ∃ first ∈ distinctOperations seen operations, first.key = o.key := by
  induction operations generalizing seen with
  | nil => simp at h
  | cons first rest ih =>
    rw [distinctOperations]
    by_cases hkey : o.key = first.key
    · rw [if_neg (hkey ▸ hseen)]
      exact ⟨first, List.mem_cons_self, hkey.symm⟩
    · have hrest : o ∈ rest := (List.mem_cons.mp h).resolve_left fun heq => hkey (heq ▸ rfl)
      split
      · exact ih hrest hseen
      · have hseen' : o.key ∉ first.key :: seen := by simp [hkey, hseen]
        obtain ⟨kept, hkept, heq⟩ := ih hrest hseen'
        exact ⟨kept, List.mem_cons_of_mem _ hkept, heq⟩

end ApiDescription
