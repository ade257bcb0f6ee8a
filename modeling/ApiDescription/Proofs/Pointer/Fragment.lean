import ApiDescription.Proofs.Binding.Description
import ApiDescription.Proofs.Pointer.Printed

/-!
# Fragments of references

A text is a pointer if it is a row of tokens with a slash before each, and in a token a tilde begins
a pair: with a zero it stands for a tilde, and with a one for a slash.  `Pointer.IsTextOf` says
which names such a text writes, and also which it writes if other tildes may stand for themselves.

`Scope.locatesAt_iff_of_fragment` says where a reference leads whose fragment is empty or starts
with a slash or a second mark.  It leads to the node of the names that its fragment writes, but fragments
are read more loosely than pointers: other tildes stand for themselves, and the second mark is
skipped.
-/

namespace ApiDescription

namespace Pointer

/-! ## Tokens and names -/

/-- A token writes a name; `loose` tells whether a tilde that begins no pair may stand for itself.
-/
inductive IsTokenOf (loose : Bool) : List Char → List Char → Prop
  /-- The empty token writes the empty name. -/
  | nil : IsTokenOf loose [] []
  /-- A tilde and a zero stand for a tilde. -/
  | tilde {token name : List Char} (hrest : IsTokenOf loose token name) :
      IsTokenOf loose ('~' :: '0' :: token) ('~' :: name)
  /-- A tilde and a one stand for a slash. -/
  | slash {token name : List Char} (hrest : IsTokenOf loose token name) :
      IsTokenOf loose ('~' :: '1' :: token) ('/' :: name)
  /-- Any other character but a slash stands for itself. -/
  | plain {c : Char} {token name : List Char} (htilde : c ≠ '~') (hslash : c ≠ '/')
      (hrest : IsTokenOf loose token name) : IsTokenOf loose (c :: token) (c :: name)
  /-- So does a tilde that begins no pair, where this is allowed. -/
  | lone {token name : List Char} (hloose : loose = true) (hzero : token.head? ≠ some '0')
      (hone : token.head? ≠ some '1') (hrest : IsTokenOf loose token name) :
      IsTokenOf loose ('~' :: token) ('~' :: name)

/-- A text writes a list of names, each as a token behind a slash. -/
inductive IsTextOf (loose : Bool) : List Char → List String → Prop
  /-- The empty text writes no names. -/
  | root : IsTextOf loose [] []
  /-- The first name is written by what stands behind the first slash. -/
  | step {token text : List Char} {name : String} {names : List String}
      (htoken : IsTokenOf loose token name.toList) (hrest : IsTextOf loose text names) :
      IsTextOf loose ('/' :: (token ++ text)) (name :: names)

/-- Every tilde in a text begins a pair. -/
def TildesPaired (text : List Char) : Prop :=
  ∀ front rest, text = front ++ '~' :: rest → rest.head? = some '0' ∨ rest.head? = some '1'

theorem TildesPaired.of_append {front rest : List Char} (h : TildesPaired (front ++ rest)) :
    TildesPaired rest :=
  fun front' rest' heq => h (front ++ front') rest' (by rw [heq, List.append_assoc])

theorem TildesPaired.cons {c : Char} {rest : List Char}
    (hc : c = '~' → rest.head? = some '0' ∨ rest.head? = some '1') (h : TildesPaired rest) :
    TildesPaired (c :: rest) := by
  intro front behind heq
  cases front with
  | nil =>
    obtain ⟨htilde, hbehind⟩ := List.cons.inj heq
    exact hbehind ▸ hc htilde
  | cons d front => exact h front behind (List.cons.inj heq).2

theorem TildesPaired.tail {c : Char} {rest : List Char} (h : TildesPaired (c :: rest)) :
    TildesPaired rest :=
  of_append (show TildesPaired ([c] ++ rest) from h)

namespace IsTokenOf

variable {loose : Bool} {token name : List Char}

theorem slash_not_mem (h : IsTokenOf loose token name) : '/' ∉ token := by
  induction h with
  | nil => exact List.not_mem_nil
  | tilde _ ih => simp [ih]
  | slash _ ih => simp [ih]
  | plain _ hslash _ ih => simp [ih, Ne.symm hslash]
  | lone _ _ _ _ ih => simp [ih]

/-- The name is what unescaping makes of the token. -/
theorem eq_unescape (h : IsTokenOf loose token name) : name = unescape token := by
  induction h with
  | nil => rfl
  | tilde _ ih => rw [unescape, ih]
  | slash _ ih => rw [unescape, ih]
  | plain htilde _ _ ih =>
    rw [unescape, ih]
    · exact fun _ hc => absurd hc htilde
    · exact fun _ hc => absurd hc htilde
  | lone _ hzero hone _ ih =>
    rw [unescape, ih]
    · rintro rest - rfl
      exact hone rfl
    · rintro rest - rfl
      exact hzero rfl

/-- Where tildes may stand for themselves, every token writes a name. -/
theorem unescape (h : '/' ∉ token) : IsTokenOf true token (unescape token) := by
  fun_induction Pointer.unescape token with
  | case1 rest ih => exact .slash (ih (by simp_all))
  | case2 rest ih => exact .tilde (ih (by simp_all))
  | case3 c rest hone hzero ih =>
    simp only [List.mem_cons, not_or] at h
    by_cases hc : c = '~'
    · subst hc
      refine .lone rfl ?_ ?_ (ih h.2)
      · cases rest with
        | nil => simp
        | cons d tail => simpa using fun hd => hzero tail rfl (by rw [hd])
      · cases rest with
        | nil => simp
        | cons d tail => simpa using fun hd => hone tail rfl (by rw [hd])
    · exact .plain hc (Ne.symm h.1) (ih h.2)
  | case4 => exact .nil

/-- No tilde stands for itself if every one begins a pair, also one at the end. -/
theorem strict {rest : List Char} (h : IsTokenOf true token name)
    (hpaired : TildesPaired (token ++ rest)) (hrest : rest.head? = none ∨ rest.head? = some '/') :
    IsTokenOf false token name := by
  induction h with
  | nil => exact .nil
  | tilde _ ih => exact .tilde (ih hpaired.tail.tail)
  | slash _ ih => exact .slash (ih hpaired.tail.tail)
  | plain htilde hslash _ ih => exact .plain htilde hslash (ih hpaired.tail)
  | @lone token name _ hzero hone _ ih =>
    have hpair := hpaired [] (token ++ rest) rfl
    cases token with
    | nil => rcases hrest with hrest | hrest <;> simp [hrest] at hpair
    | cons d tail => exact absurd hpair (not_or.mpr ⟨hzero, hone⟩)

end IsTokenOf

namespace IsTextOf

variable {loose : Bool} {text : List Char} {names : List String}

/-- What a text writes strictly it writes loosely. -/
theorem weaken (h : IsTextOf false text names) : IsTextOf true text names := by
  induction h with
  | root => exact .root
  | step htoken _ ih =>
    refine .step ?_ ih
    rw [htoken.eq_unescape]
    exact .unescape htoken.slash_not_mem

theorem head? (h : IsTextOf loose text names) : text.head? = none ∨ text.head? = some '/' := by
  cases h with
  | root => exact .inl rfl
  | step => exact .inr rfl

/-- What a text writes loosely it writes strictly if every tilde begins a pair. -/
theorem strict (h : IsTextOf true text names) (hpaired : TildesPaired text) :
    IsTextOf false text names := by
  induction h with
  | root => exact .root
  | step htoken hrest ih =>
    exact .step (htoken.strict hpaired.tail hrest.head?) (ih hpaired.tail.of_append)

/-- In a text that writes names strictly every tilde begins a pair. -/
theorem tildesPaired (h : IsTextOf false text names) : TildesPaired text := by
  have htoken : ∀ {token name text : List Char}, IsTokenOf false token name → TildesPaired text →
      TildesPaired (token ++ text) := by
    intro token name text h htext
    induction h with
    | nil => exact htext
    | lone hloose => cases hloose
    | tilde _ ih => exact .cons (fun _ => .inl rfl) (.cons (fun h => absurd h (by decide)) ih)
    | slash _ ih => exact .cons (fun _ => .inr rfl) (.cons (fun h => absurd h (by decide)) ih)
    | plain hc _ _ ih => exact .cons (fun htilde => absurd htilde hc) ih
  induction h with
  | root => exact fun front rest heq => absurd heq (by simp)
  | step h _ ih => exact .cons (fun h => absurd h (by decide)) (htoken h ih)

/-- The text of a pointer writes its names. -/
theorem of_pointer (p : Pointer) : IsTextOf true p.text.toList p.segments := by
  have htokens : ∀ tokens : List String, (∀ token ∈ tokens, '/' ∉ token.toList) →
      IsTextOf true (tokens.flatMap fun token => '/' :: token.toList) (tokens.map name) := by
    intro tokens
    induction tokens with
    | nil => exact fun _ => .root
    | cons token rest ih =>
      intro hfree
      have htoken := IsTokenOf.unescape (hfree token List.mem_cons_self)
      refine .step ?_ (ih fun later hlater => hfree later (List.mem_cons_of_mem _ hlater))
      rwa [name, String.toList_ofList]
  rw [toList_text]
  exact htokens p.tokens p.slashFree

/-- A text that writes names is the text of a pointer with these names. -/
theorem exists_pointer (h : IsTextOf loose text names) :
    ∃ p : Pointer, p.text.toList = text ∧ p.segments = names := by
  suffices htokens : ∃ tokens : List String, (∀ token ∈ tokens, '/' ∉ token.toList) ∧
      (tokens.flatMap fun token => '/' :: token.toList) = text ∧ tokens.map name = names by
    obtain ⟨tokens, hfree, htext, hnames⟩ := htokens
    exact ⟨⟨tokens, hfree⟩, (toList_text _).trans htext, hnames⟩
  induction h with
  | root => exact ⟨[], by simp, rfl, rfl⟩
  | @step token text key names htoken _ ih =>
    obtain ⟨tokens, hfree, htext, hnames⟩ := ih
    refine ⟨String.ofList token :: tokens, ?_, ?_, ?_⟩
    · rw [List.forall_mem_cons, String.toList_ofList]
      exact ⟨htoken.slash_not_mem, hfree⟩
    · simp [htext]
    · rw [List.map_cons, hnames, name, String.toList_ofList, ← htoken.eq_unescape,
        String.ofList_toList]

end IsTextOf

/-- The names of a pointer are those that its text writes. -/
theorem isTextOf_iff {p : Pointer} {names : List String} :
    IsTextOf true p.text.toList names ↔ p.segments = names := by
  constructor
  · intro h
    obtain ⟨q, htext, hnames⟩ := h.exists_pointer
    rwa [← text_inj (String.toList_inj.mp htext)]
  · rintro rfl
    exact .of_pointer p

/-! ## Fragments -/

/-- What is left of a fragment when a mark at its front is skipped. -/
def body : List Char → List Char
  | '#' :: rest => rest
  | whole => whole

theorem body_of_head? {fragment : List Char} (h : fragment.head? ≠ some '#') :
    body fragment = fragment := by
  unfold body
  split
  · exact absurd rfl h
  · rfl

/-- Whether a text may write a pointer: it is empty, or starts with a slash. -/
def MayWrite (text : List Char) : Prop := text.head? = none ∨ text.head? = some '/'

theorem ofFragment?_eq (fragment : String) :
    ofFragment? fragment =
      match body fragment.toList with
      | [] => some root
      | '/' :: path => some (ofPath (Percent.decode path))
      | _ => none := rfl

/-- A fragment is read as the pointer whose text is what decoding makes of it. -/
theorem exists_ofFragment? {fragment : String} (h : MayWrite (body fragment.toList)) :
    ∃ p, ofFragment? fragment = some p ∧
      p.text.toList = Percent.decode (body fragment.toList) := by
  rw [ofFragment?_eq]
  rcases h with h | h
  · rw [List.head?_eq_none_iff.mp h]
    exact ⟨root, rfl, rfl⟩
  · obtain ⟨path, hpath⟩ := List.head?_eq_some_iff.mp h
    rw [hpath]
    refine ⟨_, rfl, ?_⟩
    rw [text_ofPath, Percent.decode_cons (by decide)]

/-- Nothing else is read as a pointer. -/
theorem ofFragment?_eq_none {fragment : String} (h : ¬ MayWrite (body fragment.toList)) :
    ofFragment? fragment = none := by
  rw [ofFragment?_eq]
  split
  · next hbody => exact absurd (.inl (by rw [hbody]; rfl)) h
  · next hbody => exact absurd (.inr (by rw [hbody]; rfl)) h
  · rfl

end Pointer

/-! ## References -/

namespace Scope

variable {c c' : Scope} {reference fragment : String}

/-- The document that a reference points into: its own one, or the one that its first part names. -/
def PointsInto (c : Scope) (reference : String) (c' : Scope) : Prop :=
  if (UriReference.parse reference).isLocal then c' = c
  else c.documentOf (UriReference.parse reference).document reference = .ok c'

/-- A reference leads to a node of a document, and there are names on the way to it. -/
def LocatesAt (c : Scope) (reference : String) (c' : Scope) (names : List String) (node : Json) :
    Prop :=
  ∃ p : Pointer, c.locate reference = .ok ⟨c', p, node⟩ ∧ p.segments = names

theorem PointsInto.locate_eq (h : c.PointsInto reference c')
    (hfragment : (UriReference.parse reference).fragment = some fragment) :
    c.locate reference = (c'.pointerOf fragment reference).bind (c'.nodeAt · reference) := by
  rw [Scope.locate_eq]
  dsimp only
  rw [hfragment]
  unfold PointsInto at h
  split at h
  · next hlocal =>
    rw [if_pos hlocal, h]
    rfl
  · next hlocal =>
    rw [if_neg hlocal, h]
    rfl

/-- Where the pointer of a reference is known, so is the node. -/
theorem PointsInto.locatesAt_iff (h : c.PointsInto reference c')
    (hfragment : (UriReference.parse reference).fragment = some fragment) {p : Pointer}
    (hp : c'.pointerOf fragment reference = .ok p) {names : List String} {node : Json} :
    c.LocatesAt reference c' names node ↔
      p.segments = names ∧ c'.source.root.Leads names node := by
  have hlocate : c.locate reference = c'.nodeAt p reference := by
    rw [h.locate_eq hfragment, hp]
    rfl
  unfold LocatesAt
  rw [hlocate]
  constructor
  · rintro ⟨q, hnode, rfl⟩
    obtain ⟨value, hat, heq⟩ := eq_of_nodeAt_eq_ok hnode
    obtain ⟨rfl, rfl⟩ : q = p ∧ node = value := ⟨congrArg Node.pointer heq, congrArg Node.value heq⟩
    exact ⟨rfl, Json.walk?_eq_some_iff.mp hat⟩
  · rintro ⟨rfl, hleads⟩
    refine ⟨p, ?_, rfl⟩
    rw [nodeAt, Json.at?, Json.walk?_eq_some_iff.mpr hleads]

/-- A reference leads to the node of the names that its fragment writes. -/
theorem PointsInto.locatesAt_iff_isTextOf (h : c.PointsInto reference c')
    (hfragment : (UriReference.parse reference).fragment = some fragment)
    (hbody : Pointer.MayWrite (Pointer.body fragment.toList)) (names : List String) (node : Json) :
    c.LocatesAt reference c' names node ↔
      Pointer.IsTextOf true (Percent.decode (Pointer.body fragment.toList)) names ∧
        c'.source.root.Leads names node := by
  obtain ⟨p, hp, htext⟩ := Pointer.exists_ofFragment? hbody
  have hpointer : c'.pointerOf fragment reference = .ok p := by
    rw [pointerOf, hp]
  rw [h.locatesAt_iff hfragment hpointer, ← htext, Pointer.isTextOf_iff]

/-- A fragment that is no pointer is the name of a node. -/
theorem PointsInto.locatesAt_iff_anchor? (h : c.PointsInto reference c')
    (hfragment : (UriReference.parse reference).fragment = some fragment)
    (hbody : ¬ Pointer.MayWrite (Pointer.body fragment.toList)) (names : List String)
    (node : Json) :
    c.LocatesAt reference c' names node ↔
      ∃ p, c'.source.anchor? (Pointer.decodeSegment fragment) = some p ∧ p.segments = names ∧
        c'.source.root.Leads names node := by
  have hnone := Pointer.ofFragment?_eq_none hbody
  cases hanchor : c'.source.anchor? (Pointer.decodeSegment fragment) with
  | some p =>
    have hpointer : c'.pointerOf fragment reference = .ok p := by
      rw [pointerOf, hnone]
      dsimp only
      rw [hanchor]
    rw [h.locatesAt_iff hfragment hpointer]
    simp
  | none =>
    have hpointer : c'.pointerOf fragment reference =
        .error (.unknownAnchor (Pointer.decodeSegment fragment) reference) := by
      rw [pointerOf, hnone]
      dsimp only
      rw [hanchor]
    have hlocate : c.locate reference =
        .error (.unknownAnchor (Pointer.decodeSegment fragment) reference) := by
      rw [h.locate_eq hfragment, hpointer]
      rfl
    simp [LocatesAt, hlocate]

/-- By the strict rules a fragment leads to the node of the names that it writes once it is decoded,
every tilde in a pair. -/
def LeadsStrictly (c : Scope) (fragment : String) (names : List String) (node : Json) : Prop :=
  Pointer.IsTextOf false (Percent.decode fragment.toList) names ∧ c.source.root.Leads names node

/-- A fragment that starts with a mark leads nowhere by the strict rules. -/
theorem LeadsStrictly.head? {names : List String} {node : Json}
    (h : c.LeadsStrictly fragment names node) : fragment.toList.head? ≠ some '#' := by
  intro hmark
  obtain ⟨rest, hrest⟩ := List.head?_eq_some_iff.mp hmark
  have hdecoded : Percent.decode fragment.toList = '#' :: Percent.decode rest := by
    rw [hrest, Percent.decode_cons (by decide)]
  rcases h.1.head? with hnone | hslash
  · rw [hdecoded] at hnone
    cases hnone
  · rw [hdecoded] at hslash
    cases hslash

/-- A reference whose fragment is empty or starts with a slash or a second mark leads to the node of
the names that are written there, where a second mark is skipped and a tilde that begins no pair
stands for itself; or to the node that has the fragment as its name, if nothing but a name stands
behind a second mark.  So every reference that leads to a node by the strict rules leads to this
node, and just those lead to a node beside the rules that have a second mark or such a tilde. -/
theorem locatesAt_iff_of_fragment (hpoints : c.PointsInto reference c')
    (hfragment : (UriReference.parse reference).fragment = some fragment)
    (hfront : Pointer.MayWrite fragment.toList ∨ fragment.toList.head? = some '#') :
    (Pointer.MayWrite (Pointer.body fragment.toList) → ∀ names node,
      (c.LocatesAt reference c' names node ↔
        Pointer.IsTextOf true (Percent.decode (Pointer.body fragment.toList)) names ∧
          c'.source.root.Leads names node)) ∧
    (¬ Pointer.MayWrite (Pointer.body fragment.toList) → ∀ names node,
      (c.LocatesAt reference c' names node ↔
        ∃ p, c'.source.anchor? (Pointer.decodeSegment fragment) = some p ∧ p.segments = names ∧
          c'.source.root.Leads names node)) ∧
    (∀ names node, c'.LeadsStrictly fragment names node →
      c.LocatesAt reference c' names node) ∧
    ((∀ names node, c.LocatesAt reference c' names node →
        c'.LeadsStrictly fragment names node) ↔
      (∀ names node, ¬ c.LocatesAt reference c' names node) ∨
        fragment.toList.head? ≠ some '#' ∧
          Pointer.TildesPaired (Percent.decode fragment.toList)) := by
  have hwritten := hpoints.locatesAt_iff_isTextOf hfragment
  -- without a second mark the fragment may be a pointer, and nothing of it is skipped
  have hplain (hmark : fragment.toList.head? ≠ some '#') :
      Pointer.body fragment.toList = fragment.toList ∧
        Pointer.MayWrite (Pointer.body fragment.toList) := by
    have hbody := Pointer.body_of_head? hmark
    exact ⟨hbody, hbody.symm ▸ hfront.resolve_right hmark⟩
  refine ⟨hwritten, hpoints.locatesAt_iff_anchor? hfragment, fun names node hstrict => ?_, ?_, ?_⟩
  · obtain ⟨hbody, hmay⟩ := hplain hstrict.head?
    rw [hwritten hmay, hbody]
    exact ⟨hstrict.1.weaken, hstrict.2⟩
  · intro hall
    by_cases hnowhere : ∀ names node, ¬ c.LocatesAt reference c' names node
    · exact .inl hnowhere
    · simp only [not_forall, not_not] at hnowhere
      obtain ⟨names, node, hlocated⟩ := hnowhere
      have hstrict := hall names node hlocated
      exact .inr ⟨hstrict.head?, hstrict.1.tildesPaired⟩
  · rintro (hnowhere | ⟨hmark, hpaired⟩) names node hlocated
    · exact absurd hlocated (hnowhere names node)
    · obtain ⟨hbody, hmay⟩ := hplain hmark
      rw [hwritten hmay, hbody] at hlocated
      exact ⟨hlocated.1.strict hpaired, hlocated.2⟩

/-- A document with a member whose name holds a tilde. -/
def tildeScope : Scope :=
  let root := Json.object [("a~b", .bool true)]
  ⟨⟨.single root, 0, .standard, .v31⟩, 0, .ofLoaded .placeholder ⟨.json, root⟩⟩

/-- A reference with a second mark and a tilde for itself leads to the member in `tildeScope`,
though not by the strict rules. -/
theorem locatesAt_iff_of_fragment_tilde :
    tildeScope.PointsInto "##/a~b" tildeScope ∧
      (UriReference.parse "##/a~b").fragment = some "#/a~b" ∧
      "#/a~b".toList.head? = some '#' ∧
      tildeScope.LocatesAt "##/a~b" tildeScope ["a~b"] (.bool true) ∧
      ¬ tildeScope.LeadsStrictly "#/a~b" ["a~b"] (.bool true) := by
  have hpoints : tildeScope.PointsInto "##/a~b" tildeScope := rfl
  have hfragment : (UriReference.parse "##/a~b").fragment = some "#/a~b" := by decide
  obtain ⟨hwritten, -⟩ := locatesAt_iff_of_fragment hpoints hfragment (.inr rfl)
  have hlocated : tildeScope.LocatesAt "##/a~b" tildeScope ["a~b"] (.bool true) := by
    have hdecoded : Percent.decode (Pointer.body "#/a~b".toList) = ['/', 'a', '~', 'b'] := by decide
    have htoken : Pointer.IsTokenOf true ['a', '~', 'b'] "a~b".toList :=
      .plain (by decide) (by decide)
        (.lone rfl (by decide) (by decide) (.plain (by decide) (by decide) .nil))
    refine (hwritten (.inr rfl) _ _).mpr ⟨?_, .member rfl (.here _)⟩
    rw [hdecoded]
    exact .step htoken .root
  refine ⟨hpoints, hfragment, rfl, hlocated, fun h => h.head? rfl⟩

end Scope

end ApiDescription
