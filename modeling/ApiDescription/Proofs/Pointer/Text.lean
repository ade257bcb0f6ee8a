import Mathlib.Data.List.Basic
import Mathlib.Data.List.Induction
import ApiDescription.Proofs.Percent
import ApiDescription.Proofs.Pointer

/-!
# The text of a pointer

A pointer is written with a slash before each of its tokens, and since no token holds a slash, the
tokens can be read off the text again: `Pointer.text_inj`.  A name becomes a token by two
replacements, one after the other, and a token becomes a name by two others; the order matters, and
`Pointer.escape_eq` and `Pointer.unescape_eq` say that it is the right one.
-/

namespace ApiDescription.Pointer

/-! ## Replacements -/

/-- The text with two characters in place of every one of a kind. -/
def replaceChar (c first second : Char) (text : List Char) : List Char :=
  text.flatMap fun d => if d = c then [first, second] else [d]

/-- The text with one character in place of two that follow each other. -/
def replacePair (first second c : Char) : List Char → List Char
  | a :: b :: rest =>
    if a = first ∧ b = second then c :: replacePair first second c rest
    else a :: replacePair first second c (b :: rest)
  | rest => rest

/-- The tildes of a name are replaced before its slashes, which become tildes. -/
theorem escape_eq (name : List Char) :
    escape name = replaceChar '/' '~' '1' (replaceChar '~' '~' '0' name) := by
  unfold replaceChar
  fun_induction escape name with
  | case1 => rfl
  | case2 rest ih => simp [ih]
  | case3 rest ih => simp [ih]
  | case4 c rest htilde hslash ih =>
    rw [List.flatMap_cons, if_neg htilde, List.cons_append, List.flatMap_cons, if_neg hslash, ih]
    rfl

/-- Replacing pairs does not change the first character, unless it begins such a pair. -/
theorem replacePair_cons {first second c a : Char} {rest : List Char}
    (h : a = first → ∀ tail, rest ≠ second :: tail) :
    replacePair first second c (a :: rest) = a :: replacePair first second c rest := by
  cases rest with
  | nil => rfl
  | cons b tail =>
    rw [replacePair, if_neg]
    rintro ⟨ha, rfl⟩
    exact h ha tail rfl

theorem of_replacePair_eq_cons {first second c a : Char} {text tail : List Char}
    (h : replacePair first second c text = a :: tail) (ha : a ≠ c) : ∃ tail', text = a :: tail' := by
  match text with
  | [] => cases h
  | [b] => exact ⟨[], congrArg (· :: []) (List.cons.inj h).1⟩
  | b :: d :: rest =>
    rw [replacePair] at h
    split at h
    · exact absurd (List.cons.inj h).1.symm ha
    · exact ⟨d :: rest, congrArg (· :: d :: rest) (List.cons.inj h).1⟩

/-- The slashes of a name are restored before its tildes: what is restored begins nothing. -/
theorem unescape_eq (token : List Char) :
    unescape token = replacePair '~' '0' '~' (replacePair '~' '1' '/' token) := by
  fun_induction unescape token with
  | case1 rest ih =>
    have hfirst : replacePair '~' '1' '/' ('~' :: '1' :: rest) =
        '/' :: replacePair '~' '1' '/' rest := if_pos ⟨rfl, rfl⟩
    have hkept (tail : List Char) :
        replacePair '~' '0' '~' ('/' :: tail) = '/' :: replacePair '~' '0' '~' tail :=
      replacePair_cons fun h => absurd h (by decide)
    rw [hfirst, hkept, ih]
  | case2 rest ih =>
    have htilde : replacePair '~' '1' '/' ('~' :: '0' :: rest) =
        '~' :: replacePair '~' '1' '/' ('0' :: rest) :=
      replacePair_cons fun _ _ h => absurd (List.cons.inj h).1 (by decide)
    have hzero : replacePair '~' '1' '/' ('0' :: rest) = '0' :: replacePair '~' '1' '/' rest :=
      replacePair_cons fun h => absurd h (by decide)
    rw [htilde, hzero, ih]
    exact (if_pos ⟨rfl, rfl⟩).symm
  | case3 c rest hslash htilde ih =>
    rw [replacePair_cons fun hc tail htail => hslash tail hc htail, replacePair_cons ?_, ih]
    intro hc tail htail
    obtain ⟨tail', rfl⟩ := of_replacePair_eq_cons htail (by decide)
    exact htilde tail' hc rfl
  | case4 => rfl

/-- A text without a tilde stands for itself. -/
theorem unescape_of_not_mem {text : List Char} (h : '~' ∉ text) : unescape text = text := by
  fun_induction unescape text with
  | case1 | case2 => simp at h
  | case3 c rest _ _ ih => rw [ih fun hmem => h (List.mem_cons_of_mem _ hmem)]
  | case4 => rfl

/-! ## Tokens in a text -/

/-- The pointer to the node at the end of a list of names. -/
def ofNames (names : List String) : Pointer := names.foldl push root

theorem ofNames_concat (names : List String) (key : String) :
    ofNames (names ++ [key]) = (ofNames names).push key := by
  rw [ofNames, List.foldl_append]
  rfl

@[simp] theorem segments_ofNames (names : List String) : (ofNames names).segments = names := by
  induction names using List.reverseRecOn with
  | nil => rfl
  | append_singleton names key ih => rw [ofNames_concat, segments_push, ih]

theorem tokens_ofNames (names : List String) : (ofNames names).tokens = names.map token := by
  induction names using List.reverseRecOn with
  | nil => rfl
  | append_singleton names key ih =>
    rw [ofNames_concat, List.map_append, ← ih]
    rfl

theorem toList_text (p : Pointer) :
    p.text.toList = p.tokens.flatMap fun token => '/' :: token.toList := by
  have hfold : ∀ (tokens : List String) (done : String),
      (tokens.foldl (fun done token => done ++ "/" ++ token) done).toList =
        done.toList ++ tokens.flatMap fun token => '/' :: token.toList := by
    intro tokens
    induction tokens with
    | nil => simp
    | cons token rest ih =>
      intro done
      rw [List.foldl_cons, ih]
      simp
  exact hfold p.tokens ""

/-- The pieces of the text of a pointer are its tokens, behind an empty one. -/
theorem split_text (p : Pointer) :
    Text.split '/' p.text.toList = [] :: p.tokens.map String.toList := by
  have hsplit : ∀ (tokens : List String) (first : List Char), '/' ∉ first →
      (∀ token ∈ tokens, '/' ∉ token.toList) →
      Text.split '/' (first ++ tokens.flatMap fun token => '/' :: token.toList) =
        first :: tokens.map String.toList := by
    intro tokens
    induction tokens with
    | nil =>
      intro first hfirst _
      simp [Text.split_of_not_mem hfirst]
    | cons token rest ih =>
      intro first hfirst hfree
      have hrest := ih token.toList (hfree token List.mem_cons_self)
        fun later hlater => hfree later (List.mem_cons_of_mem _ hlater)
      rw [List.flatMap_cons, List.cons_append, Text.split_append_cons hfirst, hrest]
      rfl
  rw [toList_text]
  exact hsplit p.tokens [] List.not_mem_nil p.slashFree

/-- Pointers with one text are the same. -/
theorem text_inj {p q : Pointer} (h : p.text = q.text) : p = q := by
  have hpieces := congrArg (Text.split '/') (congrArg String.toList h)
  rw [split_text, split_text] at hpieces
  have htokens : p.tokens = q.tokens :=
    List.map_injective_iff.mpr (fun _ _ => String.toList_inj.mp) (List.cons.inj hpieces).2
  cases p
  cases q
  cases htokens
  rfl

theorem text_ofPath (path : List Char) : (ofPath path).text.toList = '/' :: path := by
  have hjoin : ∀ pieces : List (List Char), pieces ≠ [] →
      (pieces.map String.ofList).flatMap (fun token => '/' :: token.toList) =
        '/' :: ['/'].intercalate pieces := by
    intro pieces
    induction pieces with
    | nil => exact fun h => absurd rfl h
    | cons piece rest ih =>
      intro _
      cases rest with
      | nil => simp
      | cons next rest =>
        rw [List.map_cons, List.flatMap_cons, ih (List.cons_ne_nil _ _),
          List.intercalate_cons_cons]
        simp
  rw [toList_text, ofPath, hjoin _ (Text.split_ne_nil _ _), Text.intercalate_split]

/-! ## Reading a text -/

/-- The text of a pointer is read as a pointer again, whose text is what decoding makes of it. -/
theorem exists_ofFragment?_text (p : Pointer) :
    ∃ q, ofFragment? p.text = some q ∧ ofFragment? p.display = some q ∧
      q.text.toList = Percent.decode p.text.toList := by
  have hbody : p.text.toList = [] ∨ ∃ path, p.text.toList = '/' :: path := by
    rw [toList_text]
    cases p.tokens with
    | nil => exact .inl rfl
    | cons token rest => exact .inr ⟨_, rfl⟩
  rcases hbody with htext | ⟨path, htext⟩
  · refine ⟨root, ?_, ?_, ?_⟩
    · simp [ofFragment?, htext]
    · simp [ofFragment?, display, htext]
    · rw [htext]
      rfl
  · refine ⟨ofPath (Percent.decode path), ?_, ?_, ?_⟩
    · simp [ofFragment?, htext]
    · simp [ofFragment?, display, htext]
    · rw [text_ofPath, htext, Percent.decode_cons (by decide)]

/-- The text of a pointer is read back as the pointer if decoding does not change it. -/
theorem ofFragment?_text {p : Pointer} (h : '%' ∉ p.text.toList) : ofFragment? p.text = some p := by
  obtain ⟨q, hread, -, htext⟩ := exists_ofFragment?_text p
  rw [Percent.decode_of_not_mem h, String.toList_inj] at htext
  rw [hread, text_inj htext]

end ApiDescription.Pointer
