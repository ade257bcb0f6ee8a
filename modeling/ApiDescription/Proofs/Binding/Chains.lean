import ApiDescription.Binding.Reference

/-!
# Chains of references

Where an object that is no schema is expected, `Node.resolved` follows references from a node until
it comes to one that is no reference.  A chain that comes back to a node it has visited closes; one
that visits more nodes than the options allow is given up.

`Node.follows_references` says what comes of a chain in each of the ways that it can go: either the
node behind it and nothing else, or nothing and one diagnostic.  There is no other way.
-/

namespace ApiDescription

/-- The step comes to nothing and tells one thing: a diagnostic of a category, about a pointer of a
document. -/
def Binding.Refuses {α : Type} (step : Binding (Option α)) (category : Category) (scope : Scope)
    (pointer : Pointer) : Prop :=
  ∀ w : Workspace, ∃ D : Diagnostic, D.category = category ∧ D.document = scope.label ∧
    D.pointer = pointer ∧ step w = (none, { w with report := w.report.push D })

theorem Binding.refuses_orTell {α : Type} {e : Except Problem α} {p : Problem} (h : e = .error p) :
    Refuses (orTell e) p.finding.category p.scope p.pointer := by
  subst h
  exact fun w => ⟨p.finding.diagnostic p.scope.label p.pointer, rfl, rfl, rfl, rfl⟩

theorem Binding.Refuses.ne_pure {α : Type} {step : Binding (Option α)} {category : Category}
    {scope : Scope} {pointer : Pointer} (h : Refuses step category scope pointer) (a : α) :
    step ≠ pure (some a) := by
  rintro rfl
  obtain ⟨D, -, -, -, hstep⟩ := h .fresh
  exact absurd (congrArg Prod.fst hstep) (Option.some_ne_none a)

namespace Node

variable {n m last origin : Node} {text : String} {visited : List Node}

/-- The text of the reference that a node is. -/
def referenceText? (n : Node) : Option String :=
  (n.value.member? referenceKey).bind Json.string?

/-- The node is a reference with a text. -/
def Refers (n : Node) (text : String) : Prop :=
  n.value.member? referenceKey = some (.string text)

theorem Refers.referenceText? (h : n.Refers text) : n.referenceText? = some text := by
  rw [Node.referenceText?, h]
  rfl

/-- A node is no reference, or one with a text, or has something else in its place. -/
theorem plain_or_refers (n : Node) :
    n.value.member? referenceKey = none ∨ (∃ text, n.Refers text) ∨
      ∃ value, n.value.member? referenceKey = some value ∧ ∀ text, value ≠ .string text := by
  unfold Refers
  cases n.value.member? referenceKey with
  | none => exact .inl rfl
  | some value =>
    cases value with
    | string text => exact .inr (.inl ⟨text, rfl⟩)
    | _ => exact .inr (.inr ⟨_, rfl, nofun⟩)

/-- Following references from a node visits the nodes of a list, and then comes to a node. -/
inductive Visits : Node → List Node → Node → Prop
  /-- Nothing has been followed yet. -/
  | here (n : Node) : Visits n [] n
  /-- A reference is followed. -/
  | step {n next last : Node} {text : String} {visited : List Node} (hrefers : n.Refers text)
      (hnext : n.scope.locate text = .ok next) (rest : Visits next visited last) :
      Visits n (n :: visited) last

/-- The nodes of a list are at different places. -/
def Distinct (nodes : List Node) : Prop := (nodes.map site).Nodup

instance (nodes : List Node) : Decidable (Distinct nodes) :=
  inferInstanceAs (Decidable (nodes.map site).Nodup)

theorem Distinct.take {nodes : List Node} (h : Distinct nodes) (k : Nat) :
    Distinct (nodes.take k) := by
  rw [Distinct, List.map_take]
  exact List.Nodup.sublist (List.take_sublist k _) h

theorem distinct_concat :
    Distinct (visited ++ [n]) ↔ Distinct visited ∧ n.site ∉ visited.map site := by
  simp only [Distinct, List.map_append, List.map_cons, List.map_nil, List.nodup_append,
    List.mem_singleton, forall_eq, ne_eq]
  constructor
  · rintro ⟨hvisited, -, hnew⟩
    exact ⟨hvisited, fun hmem => hnew _ hmem rfl⟩
  · rintro ⟨hvisited, hnew⟩
    exact ⟨hvisited, by simp, fun site hmem hsite => hnew (hsite ▸ hmem)⟩

namespace Visits

theorem snoc (h : n.Visits visited m) (hrefers : m.Refers text)
    (hnext : m.scope.locate text = .ok last) : n.Visits (visited ++ [m]) last := by
  induction h with
  | here => exact .step hrefers hnext (.here last)
  | step hrefers' hnext' _ ih => exact .step hrefers' hnext' (ih hrefers hnext)

/-- Before each node that a chain visits, it has visited those before. -/
theorem split (h : n.Visits visited last) {k : Nat} (hk : k < visited.length) :
    ∃ m text, n.Visits (visited.take k) m ∧ m.Refers text ∧
      visited.take (k + 1) = visited.take k ++ [m] := by
  induction h generalizing k with
  | here => exact absurd hk (Nat.not_lt_zero k)
  | @step n next last text visited hrefers hnext _ ih =>
    cases k with
    | zero => exact ⟨n, text, .here n, hrefers, rfl⟩
    | succ k =>
      obtain ⟨m, text', hm, hrefers', htake⟩ := ih (Nat.lt_of_succ_lt_succ hk)
      exact ⟨m, text', .step hrefers hnext hm, hrefers', congrArg (n :: ·) htake⟩

end Visits

/-! ## What the loop does at a node -/

section Chase

variable {first : Option String} {seen : List Site} {room : Nat}

theorem chase_plain (h : n.value.member? referenceKey = none) :
    chase origin first seen room n = .ok ⟨n, first⟩ := by
  rw [chase.eq_def]
  simp only [h]

theorem chase_mistyped {value : Json} (h : n.value.member? referenceKey = some value)
    (hvalue : ∀ text, value ≠ .string text) :
    chase origin first seen room n = .error ⟨n.scope, n.pointer.push referenceKey,
      .mistyped referenceKey "a string" value.kind⟩ := by
  rw [chase.eq_def]
  cases value with
  | string text => exact absurd rfl (hvalue text)
  | _ => simp only [h]

variable (hrefers : n.Refers text)
include hrefers

theorem chase_seen (h : n.site ∈ seen) :
    chase origin first seen room n =
      .error ⟨origin.scope, origin.pointer, .chainCloses (first.getD text)⟩ := by
  rw [chase.eq_def]
  simp only [show n.value.member? referenceKey = _ from hrefers, if_pos h]

theorem chase_full (h : n.site ∉ seen) :
    chase origin first seen 0 n = .error ⟨origin.scope, origin.pointer,
      .chainTooLong (first.getD text) n.scope.setting.options.maxDepth⟩ := by
  rw [chase.eq_def]
  simp only [show n.value.member? referenceKey = _ from hrefers, if_neg h]

theorem chase_unlocated (h : n.site ∉ seen) {f : Finding} (hf : n.scope.locate text = .error f) :
    chase origin first seen (room + 1) n =
      .error ⟨n.scope, n.pointer.push referenceKey, f⟩ := by
  rw [chase.eq_def]
  simp only [show n.value.member? referenceKey = _ from hrefers, if_neg h, hf]

theorem chase_located (h : n.site ∉ seen) {next : Node} (hnext : n.scope.locate text = .ok next) :
    chase origin first seen (room + 1) n =
      chase origin (some (first.getD text)) (seen ++ [n.site]) room next := by
  rw [chase.eq_def]
  simp only [show n.value.member? referenceKey = _ from hrefers, if_neg h, hnext]

end Chase

/-- The loop goes on behind the references that there is room for. -/
theorem chase_of_visits {first : Option String} {seen : List Site} {room : Nat}
    (h : n.Visits visited last) (hdistinct : (seen ++ visited.map site).Nodup) :
    chase origin first seen (visited.length + room) n =
      chase origin (first.or (visited.head?.bind referenceText?)) (seen ++ visited.map site) room
        last := by
  induction h generalizing first seen with
  | here => simp
  | @step n next last text visited hrefers hnext _ ih =>
    have hlength : (n :: visited).length + room = (visited.length + room) + 1 := by
      simp only [List.length_cons]
      omega
    have hseen : seen ++ (n :: visited).map site = (seen ++ [n.site]) ++ visited.map site := by
      simp
    have hnew : n.site ∉ seen := fun hmem =>
      (List.nodup_append.mp hdistinct).2.2 _ hmem _ (List.mem_cons_self ..) rfl
    rw [hseen] at hdistinct ⊢
    rw [hlength, chase_located hrefers hnew hnext, ih hdistinct, List.head?_cons,
      Option.bind_some, hrefers.referenceText?]
    cases first <;> rfl

/-! ## What comes of a chain -/

section Ends

variable (h : n.Visits visited last) (hdistinct : Distinct visited)
include h hdistinct

/-- The loop goes on behind the references that the limit allows. -/
theorem resolved_of_visits (hlength : visited.length ≤ n.scope.setting.options.maxDepth) :
    n.resolved = chase n (visited.head?.bind referenceText?) (visited.map site)
      (n.scope.setting.options.maxDepth - visited.length) last := by
  have hchase : chase n none [] (visited.length +
      (n.scope.setting.options.maxDepth - visited.length)) n = _ := chase_of_visits h hdistinct
  rw [Nat.add_sub_cancel' hlength] at hchase
  simpa only [resolved, Option.none_or, List.nil_append] using hchase

theorem resolved_of_plain (hlength : visited.length ≤ n.scope.setting.options.maxDepth)
    (hlast : last.value.member? referenceKey = none) :
    n.resolved = .ok ⟨last, visited.head?.bind referenceText?⟩ := by
  rw [resolved_of_visits h hdistinct hlength, chase_plain hlast]

theorem refuses_of_mistyped (hlength : visited.length ≤ n.scope.setting.options.maxDepth)
    {value : Json} (hlast : last.value.member? referenceKey = some value)
    (hvalue : ∀ text, value ≠ .string text) :
    Binding.Refuses (Binding.orTell n.resolved) .unexpectedType last.scope
      (last.pointer.push referenceKey) :=
  Binding.refuses_orTell
    ((resolved_of_visits h hdistinct hlength).trans (chase_mistyped hlast hvalue))

variable (hlast : last.Refers text)
include hlast

theorem refuses_of_seen (hlength : visited.length ≤ n.scope.setting.options.maxDepth)
    (hseen : last.site ∈ visited.map site) :
    Binding.Refuses (Binding.orTell n.resolved) .cyclicReference n.scope n.pointer :=
  Binding.refuses_orTell
    ((resolved_of_visits h hdistinct hlength).trans (chase_seen hlast hseen))

theorem refuses_of_unlocated (hnew : last.site ∉ visited.map site)
    (hlength : visited.length < n.scope.setting.options.maxDepth) {f : Finding}
    (hf : last.scope.locate text = .error f) :
    Binding.Refuses (Binding.orTell n.resolved) f.category last.scope
      (last.pointer.push referenceKey) := by
  have hresolved := resolved_of_visits h hdistinct (Nat.le_of_lt hlength)
  obtain ⟨room, hroom⟩ := Nat.exists_eq_add_one_of_ne_zero (Nat.sub_ne_zero_of_lt hlength)
  rw [hroom, chase_unlocated hlast hnew hf] at hresolved
  exact Binding.refuses_orTell hresolved

/-- The reference with which the limit is exceeded is not followed. -/
theorem refuses_of_full (hnew : last.site ∉ visited.map site)
    (hlength : visited.length = n.scope.setting.options.maxDepth) :
    Binding.Refuses (Binding.orTell n.resolved) .depthLimitExceeded n.scope n.pointer := by
  have hresolved := resolved_of_visits h hdistinct (Nat.le_of_eq hlength)
  rw [hlength, Nat.sub_self, chase_full hlast hnew] at hresolved
  exact Binding.refuses_orTell hresolved

end Ends

/-- A chain that visits more nodes than the limit allows is given up, wherever it leads. -/
theorem refuses_of_lt (h : n.Visits visited last) (hdistinct : Distinct visited)
    (hlength : n.scope.setting.options.maxDepth < visited.length) :
    Binding.Refuses (Binding.orTell n.resolved) .depthLimitExceeded n.scope n.pointer := by
  obtain ⟨m, text, hvisits, hrefers, htake⟩ := h.split hlength
  have htaken := hdistinct.take (n.scope.setting.options.maxDepth + 1)
  rw [htake, distinct_concat] at htaken
  exact refuses_of_full hvisits htaken.1 hrefers htaken.2
    (List.length_take_of_le (Nat.le_of_lt hlength))

/-! ## All chains -/

/-- A chain comes to its end behind the nodes it has visited, of which the limit allows so many. -/
inductive Ends (limit : Nat) (visited : List Node) (last : Node) : Prop
  /-- What it comes to is no reference. -/
  | plain (h : last.value.member? referenceKey = none)
  /-- It comes to a node it has visited. -/
  | seen {text : String} (hrefers : last.Refers text) (h : last.site ∈ visited.map site)
  /-- It comes to a reference that may not be followed any more. -/
  | full {text : String} (hrefers : last.Refers text) (hnew : last.site ∉ visited.map site)
      (h : visited.length = limit)
  /-- It comes to a reference that leads nowhere. -/
  | unlocated {text : String} (hrefers : last.Refers text) (hnew : last.site ∉ visited.map site)
      (hlength : visited.length < limit) {f : Finding} (h : last.scope.locate text = .error f)
  /-- It comes to a node whose reference is no text. -/
  | mistyped {value : Json} (h : last.value.member? referenceKey = some value)
      (hvalue : ∀ text, value ≠ .string text)

/-- A chain comes to its end behind the references that there is room for. -/
theorem Visits.exists_ends {start : Node} {limit room : Nat} (h : start.Visits visited n)
    (hdistinct : Distinct visited) (hroom : visited.length + room = limit) :
    ∃ visited last, start.Visits visited last ∧ Distinct visited ∧ visited.length ≤ limit ∧
      Ends limit visited last := by
  induction room generalizing n visited with
  | zero =>
    refine ⟨visited, n, h, hdistinct, Nat.le_of_eq hroom, ?_⟩
    rcases n.plain_or_refers with hplain | ⟨text, hrefers⟩ | ⟨value, hvalue, htext⟩
    · exact .plain hplain
    · by_cases hseen : n.site ∈ visited.map site
      · exact .seen hrefers hseen
      · exact .full hrefers hseen hroom
    · exact .mistyped hvalue htext
  | succ room ih =>
    have hlength : visited.length < limit := by omega
    rcases n.plain_or_refers with hplain | ⟨text, hrefers⟩ | ⟨value, hvalue, htext⟩
    · exact ⟨visited, n, h, hdistinct, Nat.le_of_lt hlength, .plain hplain⟩
    · by_cases hseen : n.site ∈ visited.map site
      · exact ⟨visited, n, h, hdistinct, Nat.le_of_lt hlength, .seen hrefers hseen⟩
      · cases hnext : n.scope.locate text with
        | error f =>
          exact ⟨visited, n, h, hdistinct, Nat.le_of_lt hlength,
            .unlocated hrefers hseen hlength hnext⟩
        | ok next =>
          refine ih (h.snoc hrefers hnext) (distinct_concat.mpr ⟨hdistinct, hseen⟩) ?_
          rw [List.length_append, List.length_singleton]
          omega
    · exact ⟨visited, n, h, hdistinct, Nat.le_of_lt hlength, .mistyped hvalue htext⟩

/-- What comes of following references from a node, where at most `limit` references are allowed.

If the chain visits some references and then comes to a node that is none, the result is that node
with the text of the first reference, and nothing is told, if and only if the limit allows so many.
If it closes on itself within the limit, or visits more references than the limit allows, it is
refused at its start.  If one of the references that it may follow leads nowhere, or it comes to a
node whose reference is no text, it is refused there.  Every chain is one of these. -/
theorem follows_references (n : Node) :
    let limit := n.scope.setting.options.maxDepth
    let step := Binding.orTell n.resolved
    (∀ visited last, n.Visits visited last → Distinct visited →
      last.value.member? referenceKey = none →
      (step = pure (some ⟨last, visited.head?.bind referenceText?⟩) ↔ visited.length ≤ limit)) ∧
    (∀ visited last text, n.Visits visited last → Distinct visited → visited.length ≤ limit →
      last.Refers text → last.site ∈ visited.map site →
      Binding.Refuses step .cyclicReference n.scope n.pointer) ∧
    (∀ visited last text, n.Visits visited last → last.Refers text →
      Distinct (visited ++ [last]) → limit < (visited ++ [last]).length →
      Binding.Refuses step .depthLimitExceeded n.scope n.pointer) ∧
    (∀ visited last text f, n.Visits visited last → last.Refers text →
      Distinct (visited ++ [last]) → (visited ++ [last]).length ≤ limit →
      last.scope.locate text = .error f →
      Binding.Refuses step f.category last.scope (last.pointer.push referenceKey)) ∧
    (∀ visited last value, n.Visits visited last → Distinct visited → visited.length ≤ limit →
      last.value.member? referenceKey = some value → (∀ text, value ≠ .string text) →
      Binding.Refuses step .unexpectedType last.scope (last.pointer.push referenceKey)) ∧
    ∃ visited last, n.Visits visited last ∧ Distinct visited ∧ visited.length ≤ limit ∧
      Ends limit visited last := by
  refine ⟨fun visited last h hdistinct hlast => ⟨fun hstep => ?_, fun hlength => ?_⟩,
    fun visited last text h hdistinct hlength hlast hseen => ?_,
    fun visited last text h hlast hdistinct hlength => ?_,
    fun visited last text f h hlast hdistinct hlength hf => ?_,
    fun visited last value h hdistinct hlength hlast hvalue => ?_, ?_⟩
  · exact Nat.le_of_not_lt fun hlt => (refuses_of_lt h hdistinct hlt).ne_pure _ hstep
  · rw [resolved_of_plain h hdistinct hlength hlast]
    rfl
  · exact refuses_of_seen h hdistinct hlast hlength hseen
  · -- the limit is passed before the last reference, or at it
    obtain ⟨hvisited, hnew⟩ := distinct_concat.mp hdistinct
    rw [List.length_append, List.length_singleton] at hlength
    rcases Nat.lt_or_eq_of_le (Nat.le_of_lt_succ hlength) with hlt | heq
    · exact refuses_of_lt h hvisited hlt
    · exact refuses_of_full h hvisited hlast hnew heq.symm
  · obtain ⟨hvisited, hnew⟩ := distinct_concat.mp hdistinct
    rw [List.length_append, List.length_singleton] at hlength
    exact refuses_of_unlocated h hvisited hlast hnew hlength hf
  · exact refuses_of_mistyped h hdistinct hlength hlast hvalue
  · exact (Visits.here n).exists_ends List.nodup_nil (Nat.zero_add _)

/-- The first of two references, each to the next member of one document, where a number of
references is allowed. -/
def firstOfTwo (limit : Nat) : Node :=
  let refer (text : String) : Json := .object [(referenceKey, .string text)]
  let root := Json.object [("a", refer "#/b"), ("b", refer "#/c"), ("c", .object [])]
  let source := RegisteredDocument.ofLoaded Uri.placeholder ⟨.json, root⟩
  let options := { Options.standard with maxDepth := limit }
  ⟨⟨⟨Registry.empty.add source, 0, options, .v31⟩, 0, source⟩, Pointer.root.push "a",
    refer "#/b"⟩

/-- The two references are followed if two are allowed, and refused if only one is. -/
theorem follows_references_firstOfTwo :
    (∃ last, Binding.orTell (firstOfTwo 2).resolved = pure (some ⟨last, some "#/b"⟩)) ∧
      Binding.Refuses (Binding.orTell (firstOfTwo 1).resolved) .depthLimitExceeded
        (firstOfTwo 1).scope (firstOfTwo 1).pointer := by
  have hb (limit : Nat) : (firstOfTwo limit).scope.locate "#/b" =
      .ok ⟨(firstOfTwo limit).scope, Pointer.root.push "b",
        .object [(referenceKey, .string "#/c")]⟩ := by rfl
  have hc (limit : Nat) : (firstOfTwo limit).scope.locate "#/c" =
      .ok ⟨(firstOfTwo limit).scope, Pointer.root.push "c", .object []⟩ := by rfl
  constructor
  · exact ⟨_, ((follows_references (firstOfTwo 2)).1 _ _
      (.step rfl (hb 2) (.step rfl (hc 2) (.here _))) (by decide) rfl).mpr (by decide)⟩
  · exact (follows_references (firstOfTwo 1)).2.2.1 _ _ _ (.step rfl (hb 1) (.here _)) rfl
      (by decide) (by decide)

end Node

end ApiDescription
