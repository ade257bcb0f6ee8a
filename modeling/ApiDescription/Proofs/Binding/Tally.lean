import ApiDescription.Proofs.Binding.Reading
import ApiDescription.Proofs.Binding.Roles
import Mathlib.Algebra.GroupWithZero.Nat

/-!
# How often a diagnostic is found

A diagnostic is about a node, and a node is come upon by one way from the root, unless a reference
leads there.  So what is read at different places is not found twice, and the costs of the steps
that read an object add up to no more than one, as long as no field is read twice.

A schema is read once, however many references lead to it.  `Workspace.tally` counts a diagnostic
that a schema is to blame for in advance, as long as that schema was not met; so meeting it pays
for reading it, and reading a schema adds nothing to the tally.
-/

namespace ApiDescription

open Classical in
/-- One if something holds, and zero if not. -/
noncomputable def weight (P : Prop) : Nat := if P then 1 else 0

section Weight

variable {P Q : Prop}

theorem weight_of (h : P) : weight P = 1 := if_pos h

theorem weight_of_not (h : ¬ P) : weight P = 0 := if_neg h

theorem weight_le_one : weight P ≤ 1 := by
  unfold weight
  split <;> decide

theorem weight_mono (h : P → Q) : weight P ≤ weight Q := by
  by_cases hp : P
  · exact Nat.le_of_eq ((weight_of hp).trans (weight_of (h hp)).symm)
  · rw [weight_of_not hp]
    exact Nat.zero_le _

theorem add_weight_le {c : Nat} (h : P → c = 0) (hc : c ≤ weight Q) (hpq : P → Q) :
    weight P + c ≤ weight Q := by
  by_cases hp : P
  · rw [h hp, weight_of (hpq hp)]
    exact weight_le_one
  · rwa [weight_of_not hp, Nat.zero_add]

end Weight

/-! ## Where a diagnostic is -/

namespace Diagnostic

/-- The diagnostic is about the node at a pointer. -/
def At (D : Diagnostic) (c : Scope) (p : Pointer) : Prop := D.document = c.label ∧ D.pointer = p

/-- The diagnostic is about the node at a pointer, or about one below it. -/
def Below (D : Diagnostic) (c : Scope) (p : Pointer) : Prop :=
  D.document = c.label ∧ p.tokens <+: D.pointer.tokens

variable {D : Diagnostic} {c : Scope} {p : Pointer}

theorem At.below (h : D.At c p) : D.Below c p := ⟨h.1, h.2 ▸ List.prefix_rfl⟩

theorem at_of_eq {f : Finding} (h : D = f.diagnostic c.label p) : D.At c p := h ▸ ⟨rfl, rfl⟩

/-- What is below a member or an item is below the node. -/
theorem Below.of_push {key : String} (h : D.Below c (p.push key)) : D.Below c p :=
  ⟨h.1, (List.prefix_append _ _).trans h.2⟩

/-- What is below a member is not about the node itself. -/
theorem Below.not_at {key : String} (h : D.Below c (p.push key)) : ¬ D.At c p := by
  intro hat
  have hle := h.2.length_le
  rw [hat.2] at hle
  simp only [Pointer.push, List.length_append, List.length_singleton] at hle
  omega

/-- A diagnostic is below one member or item at the most. -/
theorem Below.key_eq {key other : String} (h : D.Below c (p.push key))
    (h' : D.Below c (p.push other)) : key = other := by
  have hprefix := List.prefix_of_prefix_length_le h.2 h'.2 (by simp [Pointer.push])
  have heq : p.tokens ++ [Pointer.token key] = p.tokens ++ [Pointer.token other] :=
    hprefix.eq_of_length (by simp [Pointer.push])
  rw [← Pointer.name_token key, ← Pointer.name_token other,
    List.singleton_inj.mp (List.append_cancel_left heq)]

end Diagnostic

/-! ## What a schema is to blame for -/

/-- What is found of a schema in a field when the schema that holds it is read. -/
inductive Finding.ByHolder : Finding → Prop
  | itemList : ByHolder .itemList
  | additional (found : Json.Kind) :
      ByHolder (.mistyped "additionalProperties" "a boolean or schema" found)

/-- The diagnostic says what is found of a schema when the schema that holds it is read. -/
def Diagnostic.ByHolder (D : Diagnostic) : Prop :=
  ∃ f : Finding, f.ByHolder ∧ D.category = f.category ∧ D.message = f.message

/-- The diagnostic is found when the schema at a pointer is read: it is about the schema or a detail
of it, or about a field with schemas. -/
inductive Diagnostic.Blames (D : Diagnostic) (p : Pointer) : Prop
  | here (hrole : p.role = .schema) (h : D.pointer = p) (hown : ¬ D.ByHolder)
  | held {key : String} (hrole : p.role = .schema) (hkey : Role.ofKeyword key = .schema)
      (h : D.pointer = p.push key) (hby : D.ByHolder)
  | parts {key : String} (hrole : p.role = .schema) (hkey : Role.ofKeyword key = .parts)
      (h : D.pointer = p.push key)
  | detail {key : String} (hrole : p.role = .schema)
      (hkey : Role.ofKeyword key = .detail ∨ Role.ofKeyword key = .discriminator)
      (h : (p.push key).tokens <+: D.pointer.tokens)

/-- No schema stands below a detail. -/
theorem Role.foldl_under_ne_schema {role : Role} (h : role = .detail ∨ role = .discriminator)
    (names : List String) : names.foldl under role ≠ .schema := by
  suffices ∀ role ∈ [detail, discriminator, mapping, schemaName],
      names.foldl under role ≠ .schema from
    this role (by rcases h with rfl | rfl <;> decide)
  induction names with
  | nil => decide
  | cons name rest ih =>
    intro role hrole
    refine ih (role.under name) ?_
    simp only [List.mem_cons, List.not_mem_nil, or_false] at hrole
    rcases hrole with rfl | rfl | rfl | rfl
    · change detail ∈ _
      decide
    · change (if name = "mapping" then mapping else detail) ∈ _
      split <;> decide
    · change schemaName ∈ _
      decide
    · change detail ∈ _
      decide

namespace Diagnostic.Blames

variable {D : Diagnostic} {p q : Pointer}

theorem role (h : D.Blames p) : p.role = .schema := by
  cases h <;> assumption

theorem tokens_prefix (h : D.Blames p) : p.tokens <+: D.pointer.tokens := by
  cases h with
  | here _ h _ => exact h ▸ List.prefix_rfl
  | held _ _ h _ | parts _ _ h => exact h ▸ List.prefix_append _ _
  | detail _ _ h => exact (List.prefix_append _ _).trans h

theorem inSchema (h : D.Blames p) : D.pointer.role.inSchema = true :=
  Pointer.inSchema_of_prefix h.tokens_prefix (h.role ▸ rfl)

/-- The schema that a diagnostic blames stands below every other schema around it. -/
theorem not_longer (h : D.Blames p) (h' : D.Blames q) : ¬ p.tokens.length < q.tokens.length := by
  intro hlt
  have hq := h'.tokens_prefix
  -- a place below `p` on the way to the diagnostic is at or below the same member of `p`
  have hpush : ∀ {key : String}, (p.push key).tokens <+: D.pointer.tokens →
      (p.push key).tokens <+: q.tokens := fun hkey =>
    List.prefix_of_prefix_length_le hkey hq (by simpa [Pointer.push] using Nat.succ_le_of_lt hlt)
  -- if the diagnostic is about that member, the place is the member
  have hat : ∀ {key : String}, D.pointer = p.push key → q = p.push key := by
    intro key hkey
    rw [hkey] at hq
    have hmember : (p.push key).tokens <+: D.pointer.tokens := hkey ▸ List.prefix_rfl
    have heq := (hpush hmember).eq_of_length_le hq.length_le
    cases q
    cases hp : p.push key
    simp_all
  cases h with
  | here _ h _ =>
    rw [h] at hq
    exact absurd hq.length_le (Nat.not_le.mpr hlt)
  | held _ _ h hby =>
    obtain rfl := hat h
    cases h' with
    | here _ _ hown => exact hown hby
    | held _ _ h'' _ | parts _ _ h'' =>
      have hlength := congrArg (fun p : Pointer => p.tokens.length) (h.symm.trans h'')
      simp [Pointer.push] at hlength
    | detail _ _ h'' =>
      rw [h] at h''
      have hle := h''.length_le
      simp [Pointer.push] at hle
  | parts hrole hkey h =>
    obtain rfl := hat h
    have hschema := h'.role
    rw [Pointer.role_push, hrole] at hschema
    exact absurd (hkey.symm.trans hschema) (by decide)
  | detail hrole hkey h =>
    obtain ⟨rest, hrest⟩ := hpush h
    have hschema := h'.role
    rw [Pointer.role_of_tokens hrest.symm, Pointer.role_push, hrole] at hschema
    exact Role.foldl_under_ne_schema hkey _ hschema

/-- A diagnostic blames one schema at the most. -/
theorem unique (h : D.Blames p) (h' : D.Blames q) : p = q := by
  have hlength := Nat.le_antisymm (Nat.le_of_not_lt (h'.not_longer h))
    (Nat.le_of_not_lt (h.not_longer h'))
  have htokens := (List.prefix_of_prefix_length_le h.tokens_prefix h'.tokens_prefix
    (Nat.le_of_eq hlength)).eq_of_length hlength
  cases p
  cases q
  simpa using htokens

end Diagnostic.Blames

/-! ## What is found once -/

/-- A schema gives several types: the list of its types has two names besides `null`. -/
def Record.SeveralTypes (r : Record) : Prop :=
  r.scope.followsJsonSchema = true ∧ ∃ items, r.members.get? "type" = some (.array items) ∧
    2 ≤ ((items.filterMap Json.string?).filter (· ≠ "null")).length

/-- The fields that are read for every scalar type. -/
def Record.scalarKeys : List String :=
  ["format", "minimum", "maximum", "exclusiveMinimum", "exclusiveMaximum", "multipleOf",
    "minLength", "maxLength", "pattern"]

/-- Nothing makes a diagnostic be found again: its document has a name of its own, what it is about
is read as what it is for, no object that refers to something else makes it be read again, and it is
not about a field that is read for each of several types. -/
structure Setting.Sole (S : Setting) (D : Diagnostic) : Prop where
  /-- Members have names of their own. -/
  wellFormed : S.registry.WellFormed
  /-- One document has the name of the one that the diagnostic is about. -/
  named {c c' : Scope} (hc : c.Registered S) (hc' : c'.Registered S) (h : D.document = c.label)
    (h' : D.document = c'.label) : c.place = c'.place
  /-- What is around it is read as what it is for. -/
  orderly {role : Role} {n : Node} (hn : n.Plays S role) (hbelow : D.Below n.scope n.pointer) :
    n.pointer.role = role
  /-- What an object refers to is elsewhere, unless the diagnostic is about a schema. -/
  apart {role : Role} {n target : Node} {text : String} (hn : n.Plays S role)
    (houter : role.inSchema = false) (hrefers : role.refers = true)
    (htext : n.value.member? referenceKey = some (.string text))
    (htarget : n.scope.locate text = .ok target) (hbelow : D.Below target.scope target.pointer) :
    D.pointer.role.inSchema = true
  /-- What is read for each type is elsewhere. -/
  types {r : Record} (hr : r.Plays S .schema) (hseveral : r.SeveralTypes) {key : String}
    (hkey : key ∈ "type" :: Record.scalarKeys) : ¬ D.At r.scope (r.pointer.push key)

namespace Setting.Sole

variable {S : Setting} {D : Diagnostic} {c : Scope} {p : Pointer}

/-- A diagnostic about a node has the role of the node. -/
theorem role_of_at (h : S.Sole D) {n : Node} {role : Role} (hn : n.Plays S role)
    (hat : D.At n.scope n.pointer) : D.pointer.role = role :=
  (congrArg Pointer.role hat.2).trans (h.orderly hn hat.below)

theorem role_of_at_push (h : S.Sole D) {n : Node} {role : Role} (hn : n.Plays S role)
    {key : String} (hat : D.At n.scope (n.pointer.push key)) :
    D.pointer.role = role.under key := by
  rw [hat.2, Pointer.role_push, h.orderly hn hat.below.of_push]

end Setting.Sole

/-! ## The tally -/

/-- The diagnostic blames the schema at a site: the document there has the name of the one that the
diagnostic is about. -/
def Diagnostic.BlamesSite (D : Diagnostic) (S : Setting) (site : Site) : Prop :=
  (∃ c : Scope, c.Registered S ∧ c.place = site.document ∧ D.document = c.label) ∧
    D.Blames site.pointer

/-- No schema was met yet that is to blame for a diagnostic about schemas. -/
def Workspace.Expects (S : Setting) (D : Diagnostic) (w : Workspace) : Prop :=
  D.pointer.role.inSchema = true ∧ ∀ entry ∈ w.slots, ¬ D.BlamesSite S entry.1

/-- How often a diagnostic was found; one is added as long as the schema to blame was not met. -/
noncomputable def Workspace.tally (S : Setting) (D : Diagnostic) (w : Workspace) : Nat :=
  w.report.diagnostics.count D + weight (w.Expects S D)

namespace Workspace

variable {S : Setting} {D : Diagnostic} {w w' : Workspace}

/-- Meeting schemas takes something from the tally, if anything. -/
theorem tally_le (hreport : w'.report = w.report) (hslots : w.slots ⊆ w'.slots) :
    w'.tally S D ≤ w.tally S D := by
  rw [tally, tally, hreport]
  refine Nat.add_le_add_left (weight_mono fun h => ⟨h.1, fun entry hentry => ?_⟩) _
  exact h.2 entry (hslots hentry)

/-- A schema that is met for the first time is paid for in advance. -/
theorem tally_add_le (h : S.Sole D) {site : Site} {slot : Slot} (hreport : w'.report = w.report)
    (hslots : w'.slots = (site, slot) :: w.slots) (hnew : w.slot? site = none) :
    w'.tally S D + weight (D.BlamesSite S site) ≤ w.tally S D := by
  by_cases hblames : D.BlamesSite S site
  · have hmet : ¬ w'.Expects S D := fun h =>
      h.2 (site, slot) (hslots ▸ List.mem_cons_self) hblames
    have hexpects : w.Expects S D := by
      refine ⟨hblames.2.inSchema, fun entry hentry hother => ?_⟩
      obtain ⟨⟨document, pointer⟩, _⟩ := entry
      obtain ⟨document', pointer'⟩ := site
      obtain ⟨⟨c, hc, rfl, hlabel⟩, hpointer⟩ := hother
      obtain ⟨⟨c', hc', rfl, hlabel'⟩, hpointer'⟩ := hblames
      -- the site that is blamed is the only one, and it was not met
      obtain hplace : c.place = c'.place := h.named hc hc' hlabel hlabel'
      obtain rfl : pointer = pointer' := hpointer.unique hpointer'
      rw [slot?, Option.map_eq_none_iff, List.find?_eq_none] at hnew
      exact hnew _ hentry (decide_eq_true (congrArg (Site.mk · pointer) hplace))
    refine Nat.le_of_eq ?_
    rw [tally, tally, hreport, weight_of_not hmet, weight_of hexpects, weight_of hblames]
  · rw [weight_of_not hblames]
    exact tally_le hreport (hslots ▸ List.subset_cons_self _ _)

end Workspace

namespace Binding

variable {S : Setting} {D : Diagnostic} {α β : Type} {c d : Nat} {m : Binding α}
  {f : α → Binding β}

/-- The step adds no more than so much to the tally. -/
def Costs (S : Setting) (D : Diagnostic) (c : Nat) (m : Binding α) : Prop :=
  ∀ w : Workspace, (m w).2.tally S D ≤ w.tally S D + c

/-- The step adds no more than so much to the tally, and nothing if it has a result. -/
def CostsOr (S : Setting) (D : Diagnostic) (c : Nat) (m : Binding (Option α)) : Prop :=
  ∀ w : Workspace, (m w).2.tally S D ≤ w.tally S D + if (m w).1.isSome then 0 else c

namespace Costs

protected theorem pure {a : α} : Costs S D 0 (pure a : Binding α) := fun _ => Nat.le_refl _

protected theorem bind (hm : Costs S D c m) (hf : ∀ a, Costs S D d (f a)) :
    Costs S D (c + d) (m >>= f) := by
  intro w
  have hfirst := hm w
  have hsecond := hf (m w).1 (m w).2
  change (f (m w).1 (m w).2).2.tally S D ≤ _
  omega

/-- A step that adds nothing comes first. -/
theorem after (hm : Costs S D 0 m) (hf : ∀ a, Costs S D d (f a)) : Costs S D d (m >>= f) :=
  Nat.zero_add d ▸ hm.bind hf

protected theorem le (hm : Costs S D c m) (h : c ≤ d) : Costs S D d m :=
  fun w => Nat.le_trans (hm w) (Nat.add_le_add_left h _)

protected theorem map (hm : Costs S D c m) (g : α → β) : Costs S D c (g <$> m) := hm

/-- Doing nothing with the result costs nothing. -/
theorem thenPure (hm : Costs S D c m) {g : α → β} : Costs S D c (m >>= fun a => pure (g a)) := hm

/-- Something is known of every result of the first step. -/
theorem bind_of {Q : α → Prop} (hm : Costs S D c m) (hgives : m.Gives Q)
    (hf : ∀ a, Q a → Costs S D d (f a)) : Costs S D (c + d) (m >>= f) := by
  intro w
  have hfirst := hm w
  have hsecond := hf (m w).1 (hgives w) (m w).2
  change (f (m w).1 (m w).2).2.tally S D ≤ _
  omega

protected theorem ite {P : Prop} [Decidable P] {m' : Binding α} (hm : P → Costs S D c m)
    (hm' : ¬ P → Costs S D c m') : Costs S D c (if P then m else m') := by
  split
  · next h => exact hm h
  · next h => exact hm' h

/-- What the elements of a list cost adds up. -/
protected theorem collect {step : α → Binding (Option β)} {k : α → Nat} {l : List α}
    (h : ∀ a ∈ l, Costs S D (k a) (step a)) : Costs S D (l.map k).sum (collect step l) := by
  induction l with
  | nil => exact .pure
  | cons a rest ih =>
    refine (h a List.mem_cons_self).bind fun first => ?_
    exact (ih fun a ha => h a (List.mem_cons_of_mem _ ha)).bind fun _ => .pure

protected theorem each {step : α → Binding β} {k : α → Nat} {l : List α}
    (h : ∀ a ∈ l, Costs S D (k a) (step a)) : Costs S D (l.map k).sum (each step l) := by
  induction l with
  | nil => exact .pure
  | cons a rest ih =>
    refine (h a List.mem_cons_self).bind fun first => ?_
    exact (ih fun a ha => h a (List.mem_cons_of_mem _ ha)).bind fun _ => .pure

end Costs

namespace CostsOr

variable {m : Binding (Option α)} {f : Option α → Binding β}

theorem costs (hm : CostsOr S D c m) : Costs S D c m := by
  intro w
  refine Nat.le_trans (hm w) (Nat.add_le_add_left ?_ _)
  split
  · exact Nat.zero_le c
  · exact Nat.le_refl c

/-- Either the step finds something, or what is done with its result may. -/
protected theorem bind {e : Nat} (hm : CostsOr S D c m) (hnone : Costs S D d (f none))
    (hsome : ∀ a, Costs S D e (f (some a))) (hle : c + d ≤ e) : Costs S D e (m >>= f) := by
  intro w
  have hfirst := hm w
  change (f (m w).1 (m w).2).2.tally S D ≤ _
  cases hresult : (m w).1 with
  | none =>
    have hsecond := hnone (m w).2
    rw [hresult, Option.isSome_none, if_neg Bool.false_ne_true] at hfirst
    omega
  | some a =>
    have hsecond := hsome a (m w).2
    rw [hresult, Option.isSome_some, if_pos rfl] at hfirst
    omega

end CostsOr

theorem costs_allocate (s : Schema) : Costs S D 0 (allocate s) := fun _ => Nat.le_refl _

theorem costs_change (id : SchemaId) (by_ : Schema → Schema) : Costs S D 0 (change id by_) :=
  fun _ => Nat.le_refl _

theorem costs_slot? (site : Site) : Costs S D 0 (slot? site) := fun _ => Nat.le_refl _

theorem costs_tell (scope : Scope) (p : Pointer) (f : Finding) :
    Costs S D (weight (D = f.diagnostic scope.label p)) (tell scope p f) := by
  intro w
  change (w.report.diagnostics ++ [f.diagnostic scope.label p]).count D + weight (w.Expects S D) ≤ _
  rw [List.count_append, Workspace.tally]
  by_cases heq : D = f.diagnostic scope.label p
  · rw [weight_of heq]
    have hle := List.count_le_length (a := D) (l := [f.diagnostic scope.label p])
    rw [List.length_singleton] at hle
    omega
  · rw [weight_of_not heq, List.count_singleton, if_neg (by simpa using Ne.symm heq)]
    omega

end Binding

end ApiDescription
