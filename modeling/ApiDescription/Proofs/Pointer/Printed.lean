import ApiDescription.Proofs.Binding.Sited
import ApiDescription.Proofs.Pointer.Lookup

/-!
# Pointers as references

A printed pointer is a fragment, and a fragment is decoded when it is read.  Printing writes a tilde
and a slash of a name as pairs, which decoding leaves alone, but it leaves a `%` alone as well.  So
the text of a node leads back to it unless a name on the way holds a `%` with two hexadecimal digits
behind it: `Json.readBack_iff_of_leads`.
-/

namespace ApiDescription

/-! ## Escapes in a printed text -/

namespace Percent

/-- The two pairs begin with a tilde, which is no digit. -/
theorem startsWithDigits_escape (n : Nat) (name : List Char) :
    startsWithDigits n (Pointer.escape name) = startsWithDigits n name := by
  fun_induction Pointer.escape name generalizing n with
  | case1 => rfl
  | case2 rest ih => cases n <;> rfl
  | case3 rest ih => cases n <;> rfl
  | case4 c rest htilde hslash ih =>
    cases n with
    | zero => rfl
    | succ n => rw [startsWithDigits, startsWithDigits, ih]

theorem escapes_escape (name : List Char) : escapes (Pointer.escape name) = escapes name := by
  fun_induction Pointer.escape name with
  | case1 => rfl
  | case2 rest ih => simpa [escapes] using ih
  | case3 rest ih => simpa [escapes] using ih
  | case4 c rest htilde hslash ih => rw [escapes, escapes, startsWithDigits_escape, ih]

theorem startsWithDigits_append_slash (n : Nat) (first rest : List Char) :
    startsWithDigits n (first ++ '/' :: rest) = startsWithDigits n first := by
  induction first generalizing n with
  | nil => cases n <;> rfl
  | cons c first ih =>
    cases n with
    | zero => rfl
    | succ n => rw [List.cons_append, startsWithDigits, startsWithDigits, ih]

/-- No escape reaches over a slash. -/
theorem escapes_append_slash (first rest : List Char) :
    escapes (first ++ '/' :: rest) = (escapes first || escapes rest) := by
  induction first with
  | nil => simp [escapes]
  | cons c first ih =>
    rw [List.cons_append, escapes, escapes, startsWithDigits_append_slash, ih, Bool.or_assoc]

theorem escapes_text (p : Pointer) :
    escapes p.text.toList = p.tokens.any fun token => escapes token.toList := by
  have htokens : ∀ (tokens : List String) (first : List Char),
      escapes (first ++ tokens.flatMap fun token => '/' :: token.toList) =
        (escapes first || tokens.any fun token => escapes token.toList) := by
    intro tokens
    induction tokens with
    | nil => simp
    | cons token rest ih =>
      intro first
      rw [List.flatMap_cons, List.cons_append, escapes_append_slash, ih, List.any_cons]
  rw [Pointer.toList_text]
  exact htokens p.tokens []

theorem escapes_text_ofNames {names : List String} :
    escapes (Pointer.ofNames names).text.toList = false ↔
      ∀ name ∈ names, escapes name.toList = false := by
  have htoken (name : String) :
      escapes (Pointer.token name).toList = escapes name.toList := by
    rw [Pointer.token, String.toList_ofList, escapes_escape]
  rw [escapes_text, Pointer.tokens_ofNames, List.any_map, List.any_eq_false]
  simp only [Function.comp_apply, htoken, Bool.not_eq_true]

end Percent

namespace Pointer

/-- What is read back is the pointer itself just if decoding leaves its text alone. -/
theorem eq_ofNames_iff {q : Pointer} {names : List String}
    (h : q.text.toList = Percent.decode (ofNames names).text.toList) :
    q = ofNames names ↔ ∀ name ∈ names, Percent.escapes name.toList = false := by
  rw [← Percent.escapes_text_ofNames, ← Percent.decode_eq_iff, ← h, String.toList_inj]
  exact ⟨congrArg text, text_inj⟩

end Pointer

/-! ## References to a node -/

namespace Scope

variable {c : Scope} {p q : Pointer}

/-- A reference that is written as a pointer leads to what is read back from it. -/
theorem locate_display (c : Scope) (h : Pointer.ofFragment? p.text = some q) :
    c.locate p.display = c.nodeAt q p.display := by
  have hparse : UriReference.parse p.display = ⟨"", some p.text⟩ := by
    simp [UriReference.parse, Pointer.display, Text.cut, String.toList_append]
  rw [locate_eq, hparse]
  change c.nodeOf (some p.text) p.display = _
  unfold nodeOf
  dsimp only
  rw [pointerOf, h]
  rfl

theorem eq_of_nodeAt_eq_ok {reference : String} {n : Node} (h : c.nodeAt p reference = .ok n) :
    ∃ value, c.source.root.at? p = some value ∧ n = ⟨c, p, value⟩ := by
  unfold nodeAt at h
  split at h
  · next value hat => exact ⟨value, hat, (Except.ok.inj h).symm⟩
  · cases h

end Scope

/-- The names on the way to a node make a pointer that addresses it.  Its text is read as a pointer
whose text is the decoded one; so it is read back, and as a reference leads to the node, just if no
name on the way holds a `%` with two hexadecimal digits behind it. -/
theorem Json.readBack_iff_of_leads {root node : Json} {names : List String}
    (h : root.Leads names node) :
    root.at? (Pointer.ofNames names) = some node ∧
      (∃ q, Pointer.ofFragment? (Pointer.ofNames names).display = some q ∧
        q.text.toList = Percent.decode (Pointer.ofNames names).text.toList) ∧
      (Pointer.ofFragment? (Pointer.ofNames names).display = some (Pointer.ofNames names) ↔
        ∀ name ∈ names, Percent.escapes name.toList = false) ∧
      ∀ c : Scope, c.source.root = root →
        (c.locate (Pointer.ofNames names).display = .ok ⟨c, Pointer.ofNames names, node⟩ ↔
          ∀ name ∈ names, Percent.escapes name.toList = false) := by
  have hat := Pointer.at?_ofNames.mpr h
  obtain ⟨q, htext, hdisplay, hdecoded⟩ := (Pointer.ofNames names).exists_ofFragment?_text
  have hsame := Pointer.eq_ofNames_iff hdecoded
  refine ⟨hat, ⟨q, hdisplay, hdecoded⟩, ?_, ?_⟩
  · rw [hdisplay, Option.some.injEq, hsame]
  · rintro c rfl
    rw [← hsame, c.locate_display htext]
    constructor
    · intro hnode
      obtain ⟨value, -, heq⟩ := Scope.eq_of_nodeAt_eq_ok hnode
      exact (congrArg Node.pointer heq).symm
    · rintro rfl
      rw [Scope.nodeAt, hat]

/-- The pointer to an item below the member `a%41` is read as one to an item below `aA`. -/
theorem Json.readBack_iff_of_leads_percent :
    (Json.object [("a%41", .array [.bool true])]).Leads ["a%41", "0"] (.bool true) ∧
      Pointer.ofFragment? (Pointer.ofNames ["a%41", "0"]).display ≠
        some (Pointer.ofNames ["a%41", "0"]) ∧
      ∃ q, Pointer.ofFragment? (Pointer.ofNames ["a%41", "0"]).display = some q ∧
        q.text.toList = "/aA/0".toList := by
  have hleads : (Json.object [("a%41", .array [.bool true])]).Leads ["a%41", "0"] (.bool true) :=
    .member rfl (.item (i := 0) rfl rfl (.here _))
  obtain ⟨-, ⟨q, hq, htext⟩, hback, -⟩ := readBack_iff_of_leads hleads
  refine ⟨hleads, fun hread => ?_, q, hq, htext.trans (by decide)⟩
  exact absurd (hback.mp hread "a%41" List.mem_cons_self) (by decide)

end ApiDescription
