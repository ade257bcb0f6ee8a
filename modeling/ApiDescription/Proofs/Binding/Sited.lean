import ApiDescription.Binding.Schema
import ApiDescription.Proofs.Loading
import ApiDescription.Proofs.Within

/-!
# Nodes at their places

Every node that is read while a description is bound is in a document of the registry.  Provided
that no object of the documents repeats a member name, it is what its pointer addresses there.
This holds of the root of the entry document, and passes on to members, to items, to the targets of
references and to the ends of their chains.  Of nodes that are only known to stand in a document,
`Node.Inside` holds, which passes on in the same way.
-/

namespace ApiDescription

/-- The document of a scope is the one at its place in the registry of a setting. -/
structure Scope.Registered (S : Setting) (c : Scope) : Prop where
  /-- The scope is of the setting. -/
  setting : c.setting = S
  /-- The document is at its place. -/
  source : S.registry.documents[c.place]? = some c.source

/-- The node is in a document of the registry. -/
structure Node.Inside (S : Setting) (n : Node) : Prop where
  /-- The document of the node is registered. -/
  scope : n.scope.Registered S
  /-- Its value stands in the document. -/
  inside : n.scope.source.root.Within n.value

/-- The node is in a document of the registry, and is what its pointer addresses there if the
documents are well formed. -/
structure Node.Sited (S : Setting) (n : Node) : Prop extends n.Inside S where
  /-- The node is what its pointer addresses. -/
  value : S.registry.WellFormed →
    n.scope.source.root.at? n.pointer = some n.value ∧ n.value.WellFormed

/-- The node that an object is. -/
def Record.node (r : Record) : Node := ⟨r.scope, r.pointer, .object r.members⟩

/-- The object is in a document of the registry, and is what its pointer addresses there. -/
def Record.Sited (S : Setting) (r : Record) : Prop := r.node.Sited S

variable {S : Setting}

theorem Scope.Registered.ext {c c' : Scope} (h : c.Registered S) (h' : c'.Registered S)
    (hplace : c.place = c'.place) : c = c' := by
  have hsource : c.source = c'.source := by
    have heq := h.source
    rw [hplace, h'.source] at heq
    exact (Option.some.inj heq).symm
  cases c
  cases c'
  simp only [Scope.mk.injEq]
  exact ⟨h.setting.trans h'.setting.symm, hplace, hsource⟩

theorem Scope.Registered.version {c : Scope} (h : c.Registered S) : c.version = S.version :=
  congrArg Setting.version h.setting

/-! ## Members and items -/

theorem Node.Inside.child {r : Record} (h : r.node.Inside S) {member : String × Json}
    (hmem : member ∈ r.members) : (r.child member).Inside S where
  scope := h.scope
  inside := .member h.inside hmem

/-- What holds of an object holds of its members. -/
def Inherited (P : Node → Prop) : Prop :=
  ∀ {r : Record} {member : String × Json}, P r.node → member ∈ r.members → P (r.child member)

namespace Inherited

variable {P : Node → Prop} {r : Record}

theorem fields (h : Inherited P) (hr : P r.node) {field : String × Node} (hmem : field ∈ r.fields) :
    P field.2 := by
  obtain ⟨member, hmember, rfl⟩ := List.mem_map.mp hmem
  exact h hr hmember

theorem plainFields (h : Inherited P) (hr : P r.node) {field : String × Node}
    (hmem : field ∈ r.plainFields) : P field.2 :=
  h.fields hr (List.mem_filter.mp hmem).1

theorem field (h : Inherited P) (hr : P r.node) {key : String} {n : Node}
    (hfield : r.field? key = some n) : P n := by
  simp only [Record.field?, Option.map_eq_some_iff] at hfield
  obtain ⟨value, hget, rfl⟩ := hfield
  exact h hr (Entries.mem_of_get? hget)

end Inherited

theorem Node.Inside.inherited : Inherited (Node.Inside S) := fun h hmem => h.child hmem

theorem Node.Sited.record {n : Node} (h : n.Sited S) {members : Entries Json}
    (hvalue : n.value = .object members) : Record.Sited S ⟨n.scope, n.pointer, members⟩ := by
  cases n
  cases hvalue
  exact h

namespace Record.Sited

variable {r : Record}

theorem child (h : r.Sited S) {member : String × Json} (hmem : member ∈ r.members) :
    (r.child member).Sited S where
  toInside := h.toInside.child hmem
  value hwf := by
    obtain ⟨hat, hvalue⟩ := h.value hwf
    simp only [node, Json.WellFormed] at hvalue
    exact ⟨Json.at?_member hat hvalue.1 hmem, Json.wellFormed_of_mem_members hvalue.2 hmem⟩

/-- The members of an object that is at its place are at theirs. -/
theorem inherited : Inherited (Node.Sited S) := fun h hmem => child h hmem

theorem fields (h : r.Sited S) {field : String × Node} (hmem : field ∈ r.fields) :
    field.2.Sited S :=
  inherited.fields h hmem

theorem plainFields (h : r.Sited S) {field : String × Node} (hmem : field ∈ r.plainFields) :
    field.2.Sited S :=
  inherited.plainFields h hmem

theorem field (h : r.Sited S) {key : String} {n : Node} (hfield : r.field? key = some n) :
    n.Sited S :=
  inherited.field h hfield

end Record.Sited

/-- The nodes of the items of an array; no other value has items. -/
def Node.itemNodes (n : Node) : List Node :=
  match n.value with
  | .array items => items.zipIdx.map fun (item, place) => ⟨n.scope, n.pointer.item place, item⟩
  | _ => []

theorem Node.length_itemNodes (n : Node) :
    n.itemNodes.length = (n.value.items?.map List.length).getD 0 := by
  unfold itemNodes
  cases n.value <;> simp [Json.items?]

/-- The items of an array are its elements, each at its place. -/
theorem Node.of_mem_itemNodes {n m : Node} (h : m ∈ n.itemNodes) :
    ∃ items i, n.value = .array items ∧ items[i]? = some m.value ∧ m.scope = n.scope ∧
      m.pointer = n.pointer.item i := by
  unfold itemNodes at h
  split at h
  · next items hvalue =>
    obtain ⟨⟨item, i⟩, hi, rfl⟩ := List.mem_map.mp h
    exact ⟨items, i, hvalue, List.mk_mem_zipIdx_iff_getElem?.mp hi, rfl, rfl⟩
  · simp at h

theorem Node.Inside.item {n m : Node} (h : n.Inside S) (hmem : m ∈ n.itemNodes) : m.Inside S := by
  obtain ⟨items, i, hvalue, hget, hscope, -⟩ := of_mem_itemNodes hmem
  exact ⟨hscope ▸ h.scope, hscope ▸ .item (hvalue ▸ h.inside) (List.mem_of_getElem? hget)⟩

theorem Node.Sited.item {n m : Node} (h : n.Sited S) (hmem : m ∈ n.itemNodes) : m.Sited S := by
  refine ⟨h.toInside.item hmem, fun hwf => ?_⟩
  obtain ⟨items, i, hvalue, hget, hscope, hpointer⟩ := of_mem_itemNodes hmem
  obtain ⟨hat, hitems⟩ := h.value hwf
  rw [hvalue] at hat hitems
  rw [hscope, hpointer]
  exact ⟨(Json.at?_item hat i).trans hget, Json.wellFormed_of_mem_items
    (by simpa only [Json.WellFormed] using hitems) (List.mem_of_getElem? hget)⟩

/-! ## References -/

namespace Scope

/-- The node at a pointer of a document, for a reference. -/
def nodeAt (c : Scope) (p : Pointer) (reference : String) : Except Finding Node :=
  match c.source.root.at? p with
  | some value => .ok ⟨c, p, value⟩
  | none => .error (.unknownNode reference)

/-- The node of a document that the last part of a reference points at. -/
def nodeOf (c : Scope) (fragment : Option String) (reference : String) : Except Finding Node :=
  match fragment with
  | none => c.nodeAt .root reference
  | some fragment => (c.pointerOf fragment reference).bind (c.nodeAt · reference)

/-- A reference is located in two steps: its document, and the node in it. -/
theorem locate_eq (c : Scope) (reference : String) :
    c.locate reference =
      let parts := UriReference.parse reference
      if parts.isLocal then c.nodeOf parts.fragment reference
      else (c.documentOf parts.document reference).bind (·.nodeOf parts.fragment reference) := by
  have hfragment : ∀ c' : Scope, c'.nodeOf (UriReference.parse reference).fragment reference =
      (do
        let pointer ←
          match (UriReference.parse reference).fragment with
          | none => .ok .root
          | some fragment => c'.pointerOf fragment reference
        c'.nodeAt pointer reference) := by
    intro c'
    cases (UriReference.parse reference).fragment <;> rfl
  simp only [hfragment]
  rfl

section

/-! With another document in place of each, nodes are found in the same way where the sources are
the same. -/

variable {other : Scope → Scope} {c : Scope} (hsource : (other c).source = c.source)
include hsource

theorem nodeAt_other (p : Pointer) (reference : String) :
    (other c).nodeAt p reference =
      (c.nodeAt p reference).map fun n => ⟨other n.scope, n.pointer, n.value⟩ := by
  unfold nodeAt
  rw [hsource]
  cases c.source.root.at? p <;> rfl

theorem nodeOf_other (fragment : Option String) (reference : String) :
    (other c).nodeOf fragment reference =
      (c.nodeOf fragment reference).map fun n => ⟨other n.scope, n.pointer, n.value⟩ := by
  cases fragment with
  | none => exact nodeAt_other hsource .root reference
  | some fragment =>
    have hpointer : (other c).pointerOf fragment reference = c.pointerOf fragment reference := by
      unfold pointerOf
      rw [hsource]
    unfold nodeOf
    dsimp only
    rw [hpointer]
    cases c.pointerOf fragment reference with
    | error f => rfl
    | ok p => exact nodeAt_other hsource p reference

/-- A reference leads to the same node if its first part leads to the same document. -/
theorem locate_other {reference : String}
    (hdocument : (other c).documentOf (UriReference.parse reference).document reference =
      (c.documentOf (UriReference.parse reference).document reference).map other)
    (htarget : ∀ c', c.documentOf (UriReference.parse reference).document reference = .ok c' →
      (other c').source = c'.source) :
    (other c).locate reference =
      (c.locate reference).map fun n => ⟨other n.scope, n.pointer, n.value⟩ := by
  rw [locate_eq, locate_eq]
  dsimp only
  split
  · exact nodeOf_other hsource _ reference
  · rw [hdocument]
    cases h : c.documentOf (UriReference.parse reference).document reference with
    | error f => rfl
    | ok c' => exact nodeOf_other (htarget c' h) _ reference

end

theorem of_nodeAt_eq_ok {c : Scope} {p : Pointer} {reference : String} {n : Node}
    (h : c.nodeAt p reference = .ok n) :
    n.scope = c ∧ n.scope.source.root.at? n.pointer = some n.value := by
  unfold nodeAt at h
  split at h
  · next value hat =>
    obtain rfl := Except.ok.inj h
    exact ⟨rfl, hat⟩
  · simp at h

theorem of_nodeOf_eq_ok {c : Scope} {fragment : Option String} {reference : String} {n : Node}
    (h : c.nodeOf fragment reference = .ok n) :
    n.scope = c ∧ n.scope.source.root.at? n.pointer = some n.value := by
  unfold nodeOf at h
  split at h
  · exact of_nodeAt_eq_ok h
  · next fragment =>
    cases hp : c.pointerOf fragment reference with
    | error f => simp [hp, Except.bind] at h
    | ok p =>
      rw [hp] at h
      exact of_nodeAt_eq_ok h

/-- A reference that can be located leads to a node of the document it is in, or of the one that
its first part names. -/
theorem of_locate_eq_ok {c : Scope} {reference : String} {n : Node}
    (h : c.locate reference = .ok n) :
    (n.scope = c ∨
        c.documentOf (UriReference.parse reference).document reference = .ok n.scope) ∧
      n.scope.source.root.at? n.pointer = some n.value := by
  rw [locate_eq] at h
  dsimp only at h
  split at h
  · obtain ⟨hscope, hat⟩ := of_nodeOf_eq_ok h
    exact ⟨.inl hscope, hat⟩
  · cases hd : c.documentOf (UriReference.parse reference).document reference with
    | error f => simp [hd, Except.bind] at h
    | ok c' =>
      rw [hd] at h
      obtain ⟨hscope, hat⟩ := of_nodeOf_eq_ok h
      exact ⟨.inr (hscope ▸ rfl), hat⟩

/-- What is found where a reference in a document cannot be located. -/
inductive Unlocated (c : Scope) (reference : String) : Finding → Prop
  | notReference : Unlocated c reference (.notReference reference)
  | externalReference (h : c.setting.options.resolveExternal = false) :
      Unlocated c reference (.externalReference reference)
  | unknownDocument (document : String) :
      Unlocated c reference (.unknownDocument document reference)
  | unknownAnchor (name : String) : Unlocated c reference (.unknownAnchor name reference)
  | unknownNode : Unlocated c reference (.unknownNode reference)

theorem of_documentOf_eq_error {c : Scope} {document reference : String} {f : Finding}
    (h : c.documentOf document reference = .error f) : c.Unlocated reference f := by
  unfold documentOf at h
  split at h
  · exact Except.error.inj h ▸ .notReference
  · simp only at h
    split at h
    · simp at h
    · split at h
      · next hexternal => exact Except.error.inj h ▸ .externalReference (by simpa using hexternal)
      · split at h
        · simp at h
        · exact Except.error.inj h ▸ .unknownDocument _

theorem of_nodeAt_eq_error {c : Scope} {p : Pointer} {reference : String} {f : Finding}
    (h : c.nodeAt p reference = .error f) : f = .unknownNode reference := by
  unfold nodeAt at h
  split at h
  · simp at h
  · exact (Except.error.inj h).symm

theorem of_nodeOf_eq_error {c : Scope} {fragment : Option String} {reference : String}
    {f : Finding} (h : c.nodeOf fragment reference = .error f) :
    (∃ name, f = .unknownAnchor name reference) ∨ f = .unknownNode reference := by
  unfold nodeOf at h
  split at h
  · exact .inr (of_nodeAt_eq_error h)
  · next fragment =>
    cases hp : c.pointerOf fragment reference with
    | ok p =>
      rw [hp] at h
      exact .inr (of_nodeAt_eq_error h)
    | error f' =>
      rw [hp] at h
      obtain rfl := Except.error.inj h
      unfold pointerOf at hp
      split at hp
      · simp at hp
      · simp only at hp
        split at hp
        · simp at hp
        · exact .inl ⟨_, (Except.error.inj hp).symm⟩

/-- A reference that cannot be located is found fault with in one of five ways. -/
theorem of_locate_eq_error {c : Scope} {reference : String} {f : Finding}
    (h : c.locate reference = .error f) : c.Unlocated reference f := by
  have hnode : ∀ {c' : Scope} {fragment : Option String},
      c'.nodeOf fragment reference = .error f → c.Unlocated reference f := by
    intro c' fragment hnode
    rcases of_nodeOf_eq_error hnode with ⟨name, rfl⟩ | rfl
    · exact .unknownAnchor name
    · exact .unknownNode
  rw [locate_eq] at h
  dsimp only at h
  split at h
  · exact hnode h
  · cases hd : c.documentOf (UriReference.parse reference).document reference with
    | error f' =>
      rw [hd] at h
      exact Except.error.inj h ▸ of_documentOf_eq_error hd
    | ok c' =>
      rw [hd] at h
      exact hnode h

end Scope

namespace Scope.Registered

variable {c : Scope}

theorem at? (h : c.Registered S) {place : Nat} {c' : Scope} (hat : c.at? place = some c') :
    c'.Registered S := by
  simp only [Scope.at?, Option.map_eq_some_iff] at hat
  obtain ⟨source, hsource, rfl⟩ := hat
  exact ⟨h.setting, h.setting ▸ hsource⟩

theorem documentOf (h : c.Registered S) {document reference : String} {c' : Scope}
    (hdoc : c.documentOf document reference = .ok c') : c'.Registered S := by
  unfold Scope.documentOf at hdoc
  split at hdoc
  · simp at hdoc
  · simp only at hdoc
    split at hdoc
    · exact Except.ok.inj hdoc ▸ h
    · split at hdoc
      · simp at hdoc
      · split at hdoc
        · next other hother =>
          obtain ⟨place, -, hat⟩ := Option.bind_eq_some_iff.mp hother
          exact Except.ok.inj hdoc ▸ h.at? hat
        · simp at hdoc

/-- The target of a reference is in a document of the registry. -/
theorem inside (h : c.Registered S) {reference : String} {n : Node}
    (hloc : c.locate reference = .ok n) : n.Inside S := by
  obtain ⟨htarget, hat⟩ := Scope.of_locate_eq_ok hloc
  refine ⟨?_, Json.within_of_at? hat⟩
  rcases htarget with heq | hdoc
  · exact heq ▸ h
  · exact h.documentOf hdoc

/-- The target of a reference is in a registered document. -/
theorem located (h : c.Registered S) {reference : String} {n : Node}
    (hloc : c.locate reference = .ok n) : n.scope.Registered S :=
  (h.inside hloc).scope

/-- The target of a reference is at its place. -/
theorem locate (h : c.Registered S) {reference : String} {n : Node}
    (hloc : c.locate reference = .ok n) : n.Sited S := by
  obtain ⟨-, hat⟩ := Scope.of_locate_eq_ok hloc
  have hinside := h.inside hloc
  refine ⟨hinside, fun hwf => ⟨hat, ?_⟩⟩
  exact (hwf _ (List.mem_of_getElem? hinside.scope.source)).walk? hat

end Scope.Registered

namespace Node

/-- What holds of a node, and of the target of every reference that it holds of, holds of the end
of the chain of references from the node. -/
theorem of_chase {P : Node → Prop}
    (hstep : ∀ {n next : Node} {text : String}, P n →
      n.value.member? referenceKey = some (.string text) → n.scope.locate text = .ok next → P next)
    {n origin : Node} {first : Option String} {seen : List Site} {room : Nat} (h : P n)
    {target : Resolved} (hchase : chase origin first seen room n = .ok target) :
    P target.node := by
  induction room generalizing n first seen with
  | zero =>
    unfold chase at hchase
    split at hchase
    · exact Except.ok.inj hchase ▸ h
    · simp only at hchase
      split at hchase <;> simp at hchase
    · simp at hchase
  | succ room ih =>
    unfold chase at hchase
    split at hchase
    · exact Except.ok.inj hchase ▸ h
    · next text htext =>
      simp only at hchase
      split at hchase
      · simp at hchase
      · split at hchase
        · next next hnext => exact ih (hstep h htext hnext) hchase
        · simp at hchase
    · simp at hchase

theorem Inside.resolved {n : Node} (h : n.Inside S) {target : Resolved}
    (ht : n.resolved = .ok target) : target.node.Inside S :=
  of_chase (fun h _ hnext => h.scope.inside hnext) h ht

theorem Sited.resolved {n : Node} (h : n.Sited S) {target : Resolved}
    (ht : n.resolved = .ok target) : target.node.Sited S :=
  of_chase (fun h _ hnext => h.scope.locate hnext) h ht

end Node

end ApiDescription
