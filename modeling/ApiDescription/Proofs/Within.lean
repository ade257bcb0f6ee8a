import ApiDescription.Proofs.Pointer
import ApiDescription.Registry.Anchor

/-!
# Values within values

`Json.Within` says that a value is another one or stands somewhere below it, and `Json.nodes` lists
all that stands there with the pointers on the way.  A value has as many nodes as its size says.
-/

namespace ApiDescription.Json

/-- A value is another one, or is below it. -/
inductive Within (root : Json) : Json → Prop
  /-- The value itself. -/
  | root : Within root root
  /-- The value of a member. -/
  | member {members : Entries Json} {entry : String × Json} (h : Within root (.object members))
      (hmem : entry ∈ members) : Within root entry.2
  /-- An item. -/
  | item {items : List Json} {value : Json} (h : Within root (.array items))
      (hmem : value ∈ items) : Within root value

theorem Within.step? {root value next : Json} (h : root.Within value) {name : String}
    (hstep : value.step? name = some next) : root.Within next := by
  cases value with
  | object members =>
    have hmem : (name, next) ∈ members := Entries.mem_of_get? hstep
    exact .member h hmem
  | array items =>
    simp only [Json.step?, Option.bind_eq_some_iff] at hstep
    obtain ⟨i, -, hitem⟩ := hstep
    exact .item h (List.mem_of_getElem? hitem)
  | _ => simp [Json.step?] at hstep

theorem Within.walk? {root value last : Json} (h : root.Within value) {names : List String}
    (hwalk : value.walk? names = some last) : root.Within last :=
  walk?_keeps (fun h => h.step?) h hwalk

/-- What a pointer addresses in a value is within it. -/
theorem within_of_at? {root value : Json} {p : Pointer} (h : root.at? p = some value) :
    root.Within value :=
  Within.root.walk? h

/-! ## Nodes -/

mutual

/-- The nodes of a value, with the pointers to them. -/
def nodes (p : Pointer) : Json → List (Pointer × Json)
  | .object members => (p, .object members) :: nodesOfMembers p members
  | .array items => (p, .array items) :: nodesOfItems p 0 items
  | value => [(p, value)]

/-- The nodes of the members of an object. -/
def nodesOfMembers (p : Pointer) : List (String × Json) → List (Pointer × Json)
  | [] => []
  | (key, value) :: rest => nodes (p.push key) value ++ nodesOfMembers p rest

/-- The nodes of the items of an array, counted from a place. -/
def nodesOfItems (p : Pointer) (place : Nat) : List Json → List (Pointer × Json)
  | [] => []
  | item :: rest => nodes (p.item place) item ++ nodesOfItems p (place + 1) rest

end

theorem self_mem_nodes (p : Pointer) (v : Json) : (p, v) ∈ v.nodes p := by
  cases v <;> simp [nodes]

theorem mem_nodesOfMembers {p : Pointer} {members : Entries Json} {entry : String × Json}
    (h : entry ∈ members) : (p.push entry.1, entry.2) ∈ nodesOfMembers p members := by
  induction members with
  | nil => simp at h
  | cons first rest ih =>
    rw [nodesOfMembers]
    rcases List.mem_cons.mp h with rfl | hrest
    · exact List.mem_append_left _ (self_mem_nodes _ _)
    · exact List.mem_append_right _ (ih hrest)

theorem mem_nodesOfItems {p : Pointer} {items : List Json} {place i : Nat} {item : Json}
    (h : items[i]? = some item) : (p.item (place + i), item) ∈ nodesOfItems p place items := by
  induction items generalizing place i with
  | nil => simp at h
  | cons first rest ih =>
    rw [nodesOfItems]
    cases i with
    | zero =>
      obtain rfl := Option.some.inj h
      exact List.mem_append_left _ (self_mem_nodes _ _)
    | succ i =>
      rw [← Nat.add_assoc, Nat.add_right_comm]
      exact List.mem_append_right _ (ih h)

mutual

/-- The nodes of a node are among the nodes. -/
theorem nodes_subset {p q : Pointer} {u : Json} :
    ∀ v : Json, (q, u) ∈ v.nodes p → u.nodes q ⊆ v.nodes p
  | .object members, h => by
    rw [nodes] at h ⊢
    rcases List.mem_cons.mp h with heq | hrest
    · obtain ⟨rfl, rfl⟩ := Prod.mk.inj heq
      rw [nodes]
      exact List.Subset.refl _
    · exact List.subset_cons_of_subset _ (nodesOfMembers_subset members hrest)
  | .array items, h => by
    rw [nodes] at h ⊢
    rcases List.mem_cons.mp h with heq | hrest
    · obtain ⟨rfl, rfl⟩ := Prod.mk.inj heq
      rw [nodes]
      exact List.Subset.refl _
    · exact List.subset_cons_of_subset _ (nodesOfItems_subset items hrest)
  | .null, h => by
    obtain ⟨rfl, rfl⟩ := Prod.mk.inj (List.mem_singleton.mp h)
    exact List.Subset.refl _
  | .bool _, h => by
    obtain ⟨rfl, rfl⟩ := Prod.mk.inj (List.mem_singleton.mp h)
    exact List.Subset.refl _
  | .number _, h => by
    obtain ⟨rfl, rfl⟩ := Prod.mk.inj (List.mem_singleton.mp h)
    exact List.Subset.refl _
  | .string _, h => by
    obtain ⟨rfl, rfl⟩ := Prod.mk.inj (List.mem_singleton.mp h)
    exact List.Subset.refl _

theorem nodesOfMembers_subset {p q : Pointer} {u : Json} :
    ∀ members : List (String × Json), (q, u) ∈ nodesOfMembers p members →
      u.nodes q ⊆ nodesOfMembers p members
  | [], h => by simp [nodesOfMembers] at h
  | (key, value) :: rest, h => by
    rw [nodesOfMembers] at h ⊢
    rcases List.mem_append.mp h with hfirst | hrest
    · exact List.subset_append_of_subset_left _ (nodes_subset value hfirst)
    · exact List.subset_append_of_subset_right _ (nodesOfMembers_subset rest hrest)

theorem nodesOfItems_subset {p q : Pointer} {place : Nat} {u : Json} :
    ∀ items : List Json, (q, u) ∈ nodesOfItems p place items →
      u.nodes q ⊆ nodesOfItems p place items
  | [], h => by simp [nodesOfItems] at h
  | item :: rest, h => by
    rw [nodesOfItems] at h ⊢
    rcases List.mem_append.mp h with hfirst | hrest
    · exact List.subset_append_of_subset_left _ (nodes_subset item hfirst)
    · exact List.subset_append_of_subset_right _ (nodesOfItems_subset rest hrest)

end

theorem member_mem_nodes {p q : Pointer} {v : Json} {members : Entries Json}
    (h : (q, .object members) ∈ v.nodes p) {entry : String × Json} (hmem : entry ∈ members) :
    (q.push entry.1, entry.2) ∈ v.nodes p := by
  refine nodes_subset v h ?_
  rw [nodes]
  exact List.mem_cons_of_mem _ (mem_nodesOfMembers hmem)

theorem item_mem_nodes {p q : Pointer} {v : Json} {items : List Json}
    (h : (q, .array items) ∈ v.nodes p) {i : Nat} {item : Json} (hitem : items[i]? = some item) :
    (q.item i, item) ∈ v.nodes p := by
  refine nodes_subset v h ?_
  rw [nodes]
  have hmem : (q.item (0 + i), item) ∈ nodesOfItems q 0 items := mem_nodesOfItems hitem
  rw [Nat.zero_add] at hmem
  exact List.mem_cons_of_mem _ hmem

/-- What is within a value is a node of it. -/
theorem Within.exists_mem_nodes {root v : Json} (h : root.Within v) (p : Pointer) :
    ∃ q, (q, v) ∈ root.nodes p := by
  induction h with
  | root => exact ⟨p, self_mem_nodes p root⟩
  | member _ hmem ih =>
    obtain ⟨q, hq⟩ := ih
    exact ⟨_, member_mem_nodes hq hmem⟩
  | item _ hmem ih =>
    obtain ⟨q, hq⟩ := ih
    obtain ⟨i, hi⟩ := List.mem_iff_getElem?.mp hmem
    exact ⟨_, item_mem_nodes hq hi⟩

/-! ## Sizes -/

mutual

theorem length_nodes (p : Pointer) : ∀ v : Json, (v.nodes p).length = v.size
  | .object members => by simp [nodes, size, length_nodesOfMembers p members]
  | .array items => by simp [nodes, size, length_nodesOfItems p 0 items]
  | .null => rfl
  | .bool _ => rfl
  | .number _ => rfl
  | .string _ => rfl

theorem length_nodesOfMembers (p : Pointer) :
    ∀ members : List (String × Json), (nodesOfMembers p members).length = sizeOfMembers members
  | [] => rfl
  | (key, value) :: rest => by
    simp [nodesOfMembers, sizeOfMembers, length_nodes _ value, length_nodesOfMembers p rest]

theorem length_nodesOfItems (p : Pointer) (place : Nat) :
    ∀ items : List Json, (nodesOfItems p place items).length = sizeOfItems items
  | [] => rfl
  | item :: rest => by
    simp [nodesOfItems, sizeOfItems, length_nodes _ item, length_nodesOfItems p _ rest]

end

theorem size_le_sizeOfMembers {members : Entries Json} {entry : String × Json}
    (h : entry ∈ members) : entry.2.size ≤ sizeOfMembers members := by
  induction members with
  | nil => simp at h
  | cons first rest ih =>
    rw [sizeOfMembers]
    rcases List.mem_cons.mp h with rfl | hrest
    · exact Nat.le_add_right _ _
    · exact Nat.le_add_left_of_le (ih hrest)

theorem size_le_sizeOfItems {items : List Json} {item : Json} (h : item ∈ items) :
    item.size ≤ sizeOfItems items := by
  induction items with
  | nil => simp at h
  | cons first rest ih =>
    rw [sizeOfItems]
    rcases List.mem_cons.mp h with rfl | hrest
    · exact Nat.le_add_right _ _
    · exact Nat.le_add_left_of_le (ih hrest)

/-- What is within a value is no larger than it. -/
theorem Within.size_le {root v : Json} (h : root.Within v) : v.size ≤ root.size := by
  induction h with
  | root => exact Nat.le_refl _
  | member _ hmem ih =>
    rw [size] at ih
    exact Nat.le_trans (size_le_sizeOfMembers hmem) (Nat.le_of_succ_le ih)
  | item _ hmem ih =>
    rw [size] at ih
    exact Nat.le_trans (size_le_sizeOfItems hmem) (Nat.le_of_succ_le ih)

/-- The texts in a value. -/
def texts (v : Json) : List String := (v.nodes .root).filterMap (·.2.string?)

theorem Within.mem_texts {root : Json} {text : String} (h : root.Within (.string text)) :
    text ∈ root.texts := by
  obtain ⟨q, hq⟩ := h.exists_mem_nodes .root
  exact List.mem_filterMap.mpr ⟨_, hq, rfl⟩

theorem length_texts_le (v : Json) : v.texts.length ≤ v.size :=
  Nat.le_trans (List.length_filterMap_le _ _) (Nat.le_of_eq (length_nodes .root v))

end ApiDescription.Json
