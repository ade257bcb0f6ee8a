import ApiDescription.Registry
import ApiDescription.Proofs.Pointer

/-!
# Loaded trees

Whatever is loaded is well formed: both readers put the members of an object one after the other,
and a name that is put again keeps its place.  So are all documents of a registry into which only
loaded trees are put.
-/

namespace ApiDescription

section Except

variable {ε ε' α β : Type}

theorem ok_bind (a : α) (f : α → Except ε β) : Except.ok a >>= f = f a := rfl

theorem of_bind_eq_ok {e : Except ε α} {f : α → Except ε β} {b : β} (h : e >>= f = .ok b) :
    ∃ a, e = .ok a ∧ f a = .ok b := by
  cases e with
  | error fault => cases h
  | ok a => exact ⟨a, rfl, h⟩

theorem of_map_eq_ok {e : Except ε α} {f : α → β} {b : β} (h : f <$> e = .ok b) :
    ∃ a, e = .ok a ∧ f a = b := by
  cases e with
  | error fault => cases h
  | ok a => exact ⟨a, rfl, Except.ok.inj h⟩

theorem of_mapError_eq_ok {e : Except ε α} {f : ε → ε'} {a : α} (h : e.mapError f = .ok a) :
    e = .ok a := by
  cases e with
  | error fault => cases h
  | ok a' => exact congrArg Except.ok (Except.ok.inj h)

theorem of_toOption_eq_some {e : Except ε α} {a : α} (h : e.toOption = some a) : e = .ok a := by
  cases e with
  | error fault => cases h
  | ok a' => exact congrArg Except.ok (Option.some.inj h)

end Except

/-! ## Putting members -/

namespace Json

/-- The members of a well formed object. -/
def MembersWellFormed (members : Entries Json) : Prop :=
  members.names.Nodup ∧ WellFormedMembers members

theorem membersWellFormed_nil : MembersWellFormed [] := by
  simp [MembersWellFormed, Entries.names, WellFormedMembers]

theorem wellFormedMembers_put {members : Entries Json} (h : WellFormedMembers members)
    (name : String) {member : Json} (hmember : member.WellFormed) :
    WellFormedMembers (Entries.put members name member) := by
  induction members with
  | nil => exact ⟨hmember, trivial⟩
  | cons first rest ih =>
    simp only [WellFormedMembers] at h
    rw [Entries.put]
    split
    · exact ⟨hmember, h.2⟩
    · exact ⟨h.1, ih h.2⟩

/-- Putting a member keeps the names apart. -/
theorem MembersWellFormed.put {members : Entries Json} (h : MembersWellFormed members)
    (name : String) {member : Json} (hmember : member.WellFormed) :
    MembersWellFormed (Entries.put members name member) := by
  obtain ⟨hnames, hmembers⟩ := h
  refine ⟨?_, wellFormedMembers_put hmembers name hmember⟩
  rw [Entries.names_put]
  split
  · exact hnames
  · next hfresh =>
    refine List.nodup_append.mpr ⟨hnames, by simp, ?_⟩
    intro other hother last hlast heq
    rw [List.mem_singleton.mp hlast] at heq
    exact hfresh (heq ▸ hother)

end Json

/-! ## JSON texts -/

namespace Json.Reader

variable {α β : Type} {P : α → Prop}

/-- Whatever a reader gives satisfies a predicate. -/
def Gives (m : Reader α) (P : α → Prop) : Prop := ∀ c a c', m.run c = .ok (a, c') → P a

namespace Gives

protected theorem pure {a : α} (h : P a) : Gives (pure a) P := by
  intro c a' c' heq
  cases heq
  exact h

protected theorem bind_of {Q : β → Prop} {m : Reader β} {f : β → Reader α} (hm : m.Gives Q)
    (h : ∀ b, Q b → (f b).Gives P) : Gives (m >>= f) P := by
  intro c a c' heq
  obtain ⟨⟨b, c₁⟩, hb, hf⟩ := of_bind_eq_ok heq
  exact h b (hm c b c₁ hb) c₁ a c' hf

protected theorem bind {m : Reader β} {f : β → Reader α} (h : ∀ b, (f b).Gives P) :
    Gives (m >>= f) P :=
  .bind_of (Q := fun _ => True) (fun _ _ _ _ => trivial) fun b _ => h b

/-- A choice with something after it: what is shown of it behind the one arm is at hand in the
other. -/
protected theorem ite_bind {c : Prop} [Decidable c] {m : Reader β} {f : β → Reader α}
    {k : Reader α} (hf : ∀ b, (f b).Gives P) (hk : (∀ b, (f b).Gives P) → k.Gives P) :
    Gives (if c then m >>= f else k) P := by
  split
  · exact .bind hf
  · exact hk hf

end Gives

theorem gives_fail (rule : Rule) : (fail rule : Reader α).Gives P := by
  intro c a c' heq
  cases heq

theorem gives_failNext (rule : Rule) : (failNext rule : Reader α).Gives P := by
  intro c a c' heq
  cases heq

/-- What is read within a bound is well formed. -/
theorem gives_within (bound : Nat) :
    (∀ depth, (value bound depth).Gives Json.WellFormed) ∧
      (∀ depth first, (items bound depth first).Gives WellFormedItems) ∧
      ∀ depth first done, MembersWellFormed done →
        (members bound depth first done).Gives MembersWellFormed := by
  -- all three readers call each other with one less
  induction bound with
  | zero => exact ⟨fun _ => gives_fail _, fun _ _ => gives_fail _, fun _ _ _ _ => gives_fail _⟩
  | succ bound ih =>
    obtain ⟨hvalue, hitems, hmembers⟩ := ih
    refine ⟨fun depth => ?_, fun depth first => ?_, fun depth first done hdone => ?_⟩
    · unfold value
      refine .bind fun token? => ?_
      split
      · exact gives_failNext _
      · exact .bind fun _ => .bind fun _ => .pure trivial
      · exact .bind fun _ => .bind fun _ => .pure trivial
      · exact .bind fun _ => .bind fun _ => .pure trivial
      · exact .bind fun _ => .bind fun _ => .pure trivial
      · exact .bind fun _ => .bind fun _ => .pure trivial
      · refine .ite_bind (fun _ => .bind fun _ => ?_) fun hrest => hrest ()
        exact .bind_of (hitems _ _) fun _ h => .pure h
      · refine .ite_bind (fun _ => .bind fun _ => ?_) fun hrest => hrest ()
        exact .bind_of (hmembers _ _ _ membersWellFormed_nil) fun _ h => .pure h
      · split
        · exact .bind fun _ => .pure trivial
        · exact gives_failNext _
    · unfold items
      refine .bind fun more => ?_
      split
      · refine .bind_of (hvalue depth) fun item hitem => ?_
        exact .bind_of (hitems depth false) fun rest hrest => .pure ⟨hitem, hrest⟩
      · exact .bind fun _ => .pure trivial
    · unfold members
      refine .bind fun more => ?_
      split
      · refine .bind fun name => .bind_of (hvalue depth) fun member hmember => ?_
        exact hmembers depth false _ (hdone.put name hmember)
      · exact .bind fun _ => .pure hdone

end Json.Reader

/-- A value that a JSON text writes is well formed. -/
theorem Json.wellFormed_of_read {text : String} {v : Json} (h : Json.read text = .ok v) :
    v.WellFormed := by
  obtain ⟨left, hrun, rfl⟩ := of_map_eq_ok h
  have hvalue := (Reader.gives_within (2 * (Cursor.start text).rest.length + 2)).1
  exact Reader.Gives.bind_of (hvalue Reader.depthLimit) (fun v hv => .bind fun _ => .pure hv)
    _ _ _ hrun

/-! ## YAML texts -/

namespace Yaml.Node

mutual

/-- The JSON of a YAML value is well formed. -/
theorem wellFormed_of_toJsonAt {place : Pointer} {node : Node} {v : Json}
    (h : node.toJsonAt place = .ok v) : v.WellFormed := by
  match node with
  | .null => cases h; trivial
  | .bool _ => cases h; trivial
  | .number n =>
    rw [toJsonAt] at h
    split at h
    · cases h; trivial
    · cases h
  | .string _ => cases h; trivial
  | .sequence items =>
    rw [toJsonAt] at h
    obtain ⟨values, hvalues, rfl⟩ := of_map_eq_ok h
    exact wellFormedItems_of_itemsToJson hvalues
  | .mapping entries =>
    rw [toJsonAt] at h
    obtain ⟨members, hmembers, rfl⟩ := of_map_eq_ok h
    exact membersWellFormed_of_entriesToJson Json.membersWellFormed_nil hmembers
  | .tagged _ value =>
    rw [toJsonAt] at h
    exact wellFormed_of_toJsonAt h

/-- So are those of the items of a sequence. -/
theorem wellFormedItems_of_itemsToJson {place : Pointer} {index : Nat} {items : List Node}
    {values : List Json} (h : itemsToJson place index items = .ok values) :
    Json.WellFormedItems values := by
  match items with
  | [] => cases h; trivial
  | item :: rest =>
    rw [itemsToJson] at h
    obtain ⟨first, hfirst, hrest⟩ := of_bind_eq_ok h
    obtain ⟨others, hothers, hall⟩ := of_bind_eq_ok hrest
    cases hall
    exact ⟨wellFormed_of_toJsonAt hfirst, wellFormedItems_of_itemsToJson hothers⟩

/-- So are the members that the entries of a mapping are put to. -/
theorem membersWellFormed_of_entriesToJson {place : Pointer} {done members : Entries Json}
    {entries : List (Node × Node)} (hdone : Json.MembersWellFormed done)
    (h : entriesToJson place done entries = .ok members) : Json.MembersWellFormed members := by
  match entries with
  | [] => cases h; exact hdone
  | (key, value) :: rest =>
    rw [entriesToJson] at h
    split at h
    · cases h
    · next name hname =>
      obtain ⟨member, hmember, hrest⟩ := of_bind_eq_ok h
      exact membersWellFormed_of_entriesToJson
        (hdone.put name (wellFormed_of_toJsonAt hmember)) hrest

end

end Yaml.Node

/-! ## Documents -/

theorem wellFormed_of_loadYaml {text : String} {v : Json} (h : loadYaml text = .ok v) :
    v.WellFormed := by
  obtain ⟨node, -, hnode⟩ := of_bind_eq_ok h
  obtain ⟨merged, -, hmerged⟩ := of_bind_eq_ok hnode
  exact Yaml.Node.wellFormed_of_toJsonAt (of_mapError_eq_ok hmerged)

/-- The tree that a text is loaded as is well formed. -/
theorem LoadedDocument.wellFormed_of_ofText {text : String} {d : LoadedDocument}
    (h : ofText text = .ok d) : d.root.WellFormed := by
  unfold ofText at h
  dsimp only at h
  split at h
  · cases h
  · split at h
    · obtain ⟨root, hroot, hd⟩ := of_bind_eq_ok h
      split at hd
      · cases hd
        exact Json.wellFormed_of_read (of_mapError_eq_ok hroot)
      · cases hd
    · obtain ⟨root, hroot, hd⟩ := of_bind_eq_ok h
      split at hd
      · cases hd
        exact wellFormed_of_loadYaml hroot
      · cases hd

/-- No object of a document of the registry repeats a member name. -/
def Registry.WellFormed (r : Registry) : Prop := ∀ d ∈ r.documents, d.root.WellFormed

namespace Registry

variable {r r' : Registry} {text : String} {d : LoadedDocument}

theorem wellFormed_empty : empty.WellFormed := by
  simp [WellFormed, empty]

theorem WellFormed.add (h : r.WellFormed) {document : RegisteredDocument}
    (hdocument : document.root.WellFormed) : (r.add document).WellFormed := by
  intro other hother
  rcases List.mem_append.mp hother with hold | hnew
  · exact h other hold
  · exact List.mem_singleton.mp hnew ▸ hdocument

theorem WellFormed.putAt (h : r.WellFormed) {document : RegisteredDocument}
    (hdocument : document.root.WellFormed) (place : Nat) : (r.putAt place document).WellFormed := by
  intro other hother
  rcases List.mem_or_eq_of_mem_set hother with hold | rfl
  · exact h other hold
  · exact hdocument

theorem WellFormed.insert (h : r.WellFormed) (hd : d.root.WellFormed)
    (hinsert : r.insert text d = .ok r') : r'.WellFormed := by
  unfold Registry.insert at hinsert
  split at hinsert
  · cases hinsert
  · dsimp only at hinsert
    split at hinsert
    · cases hinsert
    · cases hinsert
      exact h.add hd

/-- Registering a text keeps the registry well formed. -/
theorem WellFormed.register {uri : String} (h : r.WellFormed)
    (hregister : r.register uri text = .ok r') : r'.WellFormed := by
  obtain ⟨d, hd, hinsert⟩ := of_bind_eq_ok hregister
  exact h.insert (LoadedDocument.wellFormed_of_ofText hd) (of_mapError_eq_ok hinsert)

theorem WellFormed.replace {key : String} (h : r.WellFormed) (hd : d.root.WellFormed)
    (hreplace : r.replace text d = .ok (r', key)) : r'.WellFormed := by
  unfold Registry.replace at hreplace
  split at hreplace
  · cases hreplace
  · dsimp only at hreplace
    split at hreplace
    · cases hreplace
      exact h.putAt hd _
    · cases hreplace
      exact h.add hd

end Registry

end ApiDescription
