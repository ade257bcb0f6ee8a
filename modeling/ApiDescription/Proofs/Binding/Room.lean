import ApiDescription.Binding.Operation
import ApiDescription.Proofs.Binding.Sited
import Mathlib.Algebra.GroupWithZero.Nat
import Mathlib.Algebra.Order.BigOperators.Group.List
import Mathlib.Algebra.Order.Group.Nat
import Mathlib.Data.List.Perm.Subperm

/-!
# Room for path items and callbacks

Path items and callbacks are read inside of each other.  From the node where that begins one gets
to others by going down to members and by following references; what one can get to are the nodes
below the first one and below the targets of all texts of the documents, which is a finite list.
The nodes that are being read are pairwise distinct and on the list, so their number stays below
`Setting.room`, and there is always room for one more.

`Enclosing.Fits` holds of the nodes that are being read as long as that goes on.
-/

namespace ApiDescription

variable {S : Setting}

/-! ## What the documents hold -/

namespace Registry

theorem nodeCount_eq_sum (r : Registry) :
    r.nodeCount = (r.documents.map fun d => d.root.size).sum := by
  have hfold : ∀ (documents : List RegisteredDocument) (count : Nat),
      documents.foldl (fun count d => count + d.root.size) count =
        count + (documents.map fun d => d.root.size).sum := by
    intro documents
    induction documents with
    | nil => simp
    | cons first rest ih =>
      intro count
      rw [List.foldl_cons, ih, List.map_cons, List.sum_cons, Nat.add_assoc]
  rw [nodeCount, hfold, Nat.zero_add]

theorem size_le_nodeCount {r : Registry} {d : RegisteredDocument} (h : d ∈ r.documents) :
    d.root.size ≤ r.nodeCount := by
  rw [nodeCount_eq_sum]
  exact List.single_le_sum (fun _ _ => Nat.zero_le _) _
    (List.mem_map_of_mem (f := fun d => d.root.size) h)

end Registry

namespace Setting

/-- The documents of the registry. -/
def scopes (S : Setting) : List Scope :=
  S.registry.documents.zipIdx.map fun (source, place) => ⟨S, place, source⟩

/-- The nodes that the texts of the documents lead to. -/
def targets (S : Setting) : List Node :=
  S.scopes.flatMap fun c => c.source.root.texts.filterMap fun text => (c.locate text).toOption

theorem mem_scopes {c : Scope} : c ∈ S.scopes ↔ c.Registered S := by
  constructor
  · intro h
    obtain ⟨⟨source, place⟩, hsource, rfl⟩ := List.mem_map.mp h
    exact ⟨rfl, List.mk_mem_zipIdx_iff_getElem?.mp hsource⟩
  · intro h
    refine List.mem_map.mpr ⟨(c.source, c.place), ?_, ?_⟩
    · exact List.mk_mem_zipIdx_iff_getElem?.mpr h.source
    · rw [← h.setting]

/-- The nodes that the texts of the documents lead to when they are read in some way. -/
def targetsBy (S : Setting) (expand : String → String) : List Node :=
  S.scopes.flatMap fun c =>
    c.source.root.texts.filterMap fun text => (c.locate (expand text)).toOption

theorem inside_of_mem_targetsBy {expand : String → String} {n : Node}
    (h : n ∈ S.targetsBy expand) : n.Inside S := by
  obtain ⟨c, hc, hn⟩ := List.mem_flatMap.mp h
  obtain ⟨text, -, hlocate⟩ := List.mem_filterMap.mp hn
  cases hnode : c.locate (expand text) with
  | error f => simp [hnode, Except.toOption] at hlocate
  | ok node =>
    rw [hnode] at hlocate
    exact Option.some.inj hlocate ▸ (mem_scopes.mp hc).inside hnode

theorem inside_of_mem_targets {n : Node} (h : n ∈ S.targets) : n.Inside S :=
  @inside_of_mem_targetsBy S id n h

/-- There are no more of these than nodes. -/
theorem length_targetsBy_le (S : Setting) (expand : String → String) :
    (S.targetsBy expand).length ≤ S.registry.nodeCount := by
  have hsum : S.registry.nodeCount = (S.scopes.map fun c => c.source.root.size).sum := by
    rw [Registry.nodeCount_eq_sum, scopes, List.map_map]
    congr 1
    conv_lhs => rw [← List.zipIdx_map_fst 0 S.registry.documents, List.map_map]
    rfl
  rw [targetsBy, List.length_flatMap, hsum]
  refine List.sum_le_sum fun c _ => ?_
  exact Nat.le_trans (List.length_filterMap_le _ _) c.source.root.length_texts_le

/-- There are no more targets than nodes. -/
theorem length_targets_le (S : Setting) : S.targets.length ≤ S.registry.nodeCount :=
  S.length_targetsBy_le id

end Setting

/-! ## What one can get to -/

/-- The nodes at a node and below it. -/
def Node.below (n : Node) : List Node :=
  (n.value.nodes n.pointer).map fun (pointer, value) => ⟨n.scope, pointer, value⟩

/-- The nodes below a node and below the targets of all texts. -/
def Node.around (S : Setting) (n : Node) : List Node := (n :: S.targets).flatMap Node.below

namespace Node

variable {start n : Node}

theorem self_mem_below (n : Node) : n ∈ n.below :=
  List.mem_map.mpr ⟨(n.pointer, n.value), Json.self_mem_nodes _ _, rfl⟩

theorem length_below_le (h : n.Inside S) : n.below.length ≤ S.registry.nodeCount := by
  rw [below, List.length_map, Json.length_nodes]
  exact Nat.le_trans h.inside.size_le
    (Registry.size_le_nodeCount (List.mem_of_getElem? h.scope.source))

theorem child_mem_below {r : Record} (h : r.node ∈ n.below) {member : String × Json}
    (hmem : member ∈ r.members) : r.child member ∈ n.below := by
  obtain ⟨⟨p, v⟩, hnode, heq⟩ := List.mem_map.mp h
  obtain ⟨hscope, rfl, rfl⟩ : n.scope = r.scope ∧ p = r.pointer ∧ v = .object r.members := by
    simpa only [Record.node, Node.mk.injEq] using heq
  refine List.mem_map.mpr ⟨_, Json.member_mem_nodes hnode hmem, ?_⟩
  rw [hscope]
  rfl

theorem self_mem_around (S : Setting) (n : Node) : n ∈ n.around S :=
  List.mem_flatMap.mpr ⟨n, List.mem_cons_self, n.self_mem_below⟩

theorem child_mem_around {r : Record} (h : r.node ∈ start.around S) {member : String × Json}
    (hmem : member ∈ r.members) : r.child member ∈ start.around S := by
  obtain ⟨first, hfirst, hbelow⟩ := List.mem_flatMap.mp h
  exact List.mem_flatMap.mpr ⟨first, hfirst, child_mem_below hbelow hmem⟩

/-- The target of a reference is around every node. -/
theorem target_mem_around (hn : n.Inside S) {text : String} {next : Node}
    (htext : n.value.member? referenceKey = some (.string text))
    (hnext : n.scope.locate text = .ok next) : next ∈ start.around S := by
  have hwithin : n.scope.source.root.Within (.string text) := hn.inside.step? (by
    cases hvalue : n.value with
    | object members => rwa [hvalue] at htext
    | _ => simp [hvalue, Json.member?] at htext)
  have htarget : next ∈ S.targets := by
    refine List.mem_flatMap.mpr ⟨n.scope, Setting.mem_scopes.mpr hn.scope, ?_⟩
    exact List.mem_filterMap.mpr ⟨text, hwithin.mem_texts, by rw [hnext]; rfl⟩
  exact List.mem_flatMap.mpr ⟨next, List.mem_cons_of_mem _ htarget, next.self_mem_below⟩

/-- The end of a chain of references is around every node that the start is around. -/
theorem resolved_mem_around (hn : n.Inside S) (h : n ∈ start.around S) {target : Resolved}
    (ht : n.resolved = .ok target) : target.node ∈ start.around S := by
  have hstep : ∀ {n next : Node} {text : String}, n.Inside S ∧ n ∈ start.around S →
      n.value.member? referenceKey = some (.string text) → n.scope.locate text = .ok next →
      next.Inside S ∧ next ∈ start.around S := by
    rintro n next text ⟨hn, -⟩ htext hnext
    exact ⟨hn.scope.inside hnext, target_mem_around hn htext hnext⟩
  exact (of_chase hstep ⟨hn, h⟩ ht).2

/-- Below some nodes there are at most as many times as many nodes as there are in the documents. -/
theorem length_flatMap_below_le {firsts : List Node} (h : ∀ first ∈ firsts, first.Inside S) :
    (firsts.flatMap below).length ≤ firsts.length * S.registry.nodeCount := by
  have hsum := List.sum_le_card_nsmul (firsts.map fun first => first.below.length)
    S.registry.nodeCount (by simpa using fun first hfirst => length_below_le (h first hfirst))
  rw [List.length_flatMap]
  simpa using hsum

/-- There are fewer nodes to get to than there is room for. -/
theorem length_around_lt (hstart : start.Inside S) : (start.around S).length < S.room := by
  have hsum : (start.around S).length ≤ (start :: S.targets).length * S.registry.nodeCount :=
    length_flatMap_below_le (List.forall_mem_cons.mpr
      ⟨hstart, fun _ => Setting.inside_of_mem_targets⟩)
  have hcount : (start :: S.targets).length ≤ S.registry.nodeCount + 1 :=
    Nat.succ_le_succ S.length_targets_le
  calc (start.around S).length
      ≤ (start :: S.targets).length * S.registry.nodeCount := hsum
    _ ≤ (S.registry.nodeCount + 1) * S.registry.nodeCount := Nat.mul_le_mul_right _ hcount
    _ < S.room := Nat.mul_lt_mul_of_pos_left (Nat.lt_succ_self _) (Nat.succ_pos _)

end Node

/-! ## What is being read -/

/-- The nodes that are being read while a node is, and the room that is left: they are pairwise
distinct, one can get to all of them, and the room was enough when nothing was being read. -/
structure Enclosing.Fits (S : Setting) (start : Node) (room : Nat) (enclosing : Enclosing)
    (n : Node) : Prop where
  /-- No node is read twice at once. -/
  nodup : enclosing.Nodup
  /-- One can get to the nodes that are being read. -/
  among : enclosing ⊆ (start.around S).map Node.site
  /-- One can get to the node. -/
  here : n ∈ start.around S
  /-- What is left of the room. -/
  room : S.room ≤ room + enclosing.length

namespace Enclosing.Fits

variable {start n : Node} {room : Nat} {enclosing : Enclosing}

theorem nil (S : Setting) (n : Node) : Fits S n S.room [] n where
  nodup := .nil
  among := List.nil_subset _
  here := n.self_mem_around S
  room := Nat.le_refl _

/-- There is room for one more. -/
theorem room_ne_zero (h : Fits S start room enclosing n) (hstart : start.Inside S) :
    room ≠ 0 := by
  rintro rfl
  have hle : enclosing.length ≤ (start.around S).length := by
    have hsub := (List.subperm_of_subset h.nodup h.among).length_le
    rwa [List.length_map] at hsub
  have hroom := h.room
  rw [Nat.zero_add] at hroom
  exact Nat.lt_irrefl _ (Nat.lt_of_le_of_lt (Nat.le_trans hroom hle) (Node.length_around_lt hstart))

/-- The end of the chain of references from the node is read as well. -/
theorem enter (h : Fits S start (room + 1) enclosing n) (hn : n.Inside S) {target : Resolved}
    (ht : n.resolved = .ok target) (hnew : target.node.site ∉ enclosing) :
    Fits S start room (target.node.site :: enclosing) target.node := by
  have hhere : target.node ∈ start.around S := Node.resolved_mem_around hn h.here ht
  refine ⟨List.nodup_cons.mpr ⟨hnew, h.nodup⟩, ?_, hhere, ?_⟩
  · exact List.cons_subset.mpr ⟨List.mem_map_of_mem hhere, h.among⟩
  · rw [List.length_cons, Nat.add_comm enclosing.length, ← Nat.add_assoc]
    exact h.room

theorem child {r : Record} (h : Fits S start room enclosing r.node) {member : String × Json}
    (hmem : member ∈ r.members) : Fits S start room enclosing (r.child member) :=
  ⟨h.nodup, h.among, Node.child_mem_around h.here hmem, h.room⟩

end Enclosing.Fits

end ApiDescription
