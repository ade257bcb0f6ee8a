import Mathlib.Data.List.Nodup
import ApiDescription.PathTemplate
import ApiDescription.Text.Split

/-!
# The grammar of path templates

A template is a literal with variables behind it, each in braces and with a literal of its own behind
it.  No literal and no name has a brace, and every variable has a name that no other has.  Reading a
path from front to back accepts the templates that start with a slash and nothing else, and gives
their variables in order: `PathTemplate.variableNames_eq_ok_iff`.

The shape of a template is its text with the names taken out.  It forgets the names and nothing more:
`PathTemplate.shape_text_eq_iff`.
-/

namespace ApiDescription

/-- A text has no brace in it. -/
def BraceFree (text : List Char) : Prop := '\x7b' ∉ text ∧ '\x7d' ∉ text

theorem braceFree_nil : BraceFree [] := by simp [BraceFree]

theorem braceFree_cons {c : Char} {text : List Char} :
    BraceFree (c :: text) ↔ c ≠ '\x7b' ∧ c ≠ '\x7d' ∧ BraceFree text := by
  simp only [BraceFree, List.mem_cons, not_or, ne_eq, eq_comm (b := c)]
  tauto

theorem braceFree_concat {c : Char} {text : List Char} (htext : BraceFree text) (hopen : c ≠ '\x7b')
    (hclose : c ≠ '\x7d') : BraceFree (text ++ [c]) := by
  simp [BraceFree, htext.1, htext.2, hopen.symm, hclose.symm]

/-- What a template is made of. -/
structure PathTemplate where
  /-- The literal in front of all variables. -/
  front : List Char
  /-- The name of each variable, and the literal behind it. -/
  parts : List (List Char × List Char)
  /-- The literal in front has no brace. -/
  front_free : BraceFree front
  /-- Neither has a name, or a literal behind one. -/
  parts_free : ∀ part ∈ parts, BraceFree part.1 ∧ BraceFree part.2
  /-- Every variable has a name. -/
  named : ∀ part ∈ parts, part.1 ≠ []
  /-- No two variables have the same one. -/
  distinct : (parts.map Prod.fst).Nodup

namespace PathTemplate

/-- A variable and the literal behind it, as they are written. -/
def written (part : List Char × List Char) : List Char := '\x7b' :: (part.1 ++ '\x7d' :: part.2)

/-- The characters of a template. -/
def chars (t : PathTemplate) : List Char := t.front ++ t.parts.flatMap written

/-- The text of a template. -/
def text (t : PathTemplate) : String := String.ofList t.chars

/-- The names of the variables of a template, in order. -/
def names (t : PathTemplate) : List String := (t.parts.map Prod.fst).map String.ofList

/-- The literals of a template, in order; they are one more than the variables. -/
def literals (t : PathTemplate) : List String :=
  (t.front :: t.parts.map Prod.snd).map String.ofList

/-- A path is a template that starts with a slash. -/
def IsTemplate (path : String) : Prop :=
  path.toList.head? = some '/' ∧ ∃ t : PathTemplate, t.text = path

theorem ofList_injective : Function.Injective String.ofList := fun _ _ h => String.ofList_inj.mp h

theorem nodup_names (t : PathTemplate) : t.names.Nodup := t.distinct.map ofList_injective

/-! ## Templates are accepted -/

section Scan

variable {found names : List String} {inside : Option (List Char)} {name text rest : List Char}
  {parts : List (List Char × List Char)}

/-- What has no brace is passed over, and belongs to the variable that has started. -/
theorem scan_append (h : BraceFree text) :
    scan found inside (text ++ rest) = scan found (inside.map (· ++ text)) rest := by
  induction text generalizing inside with
  | nil => cases inside <;> simp
  | cons c text ih =>
    obtain ⟨hopen, hclose, htext⟩ := braceFree_cons.mp h
    have hstep : scan found inside (c :: (text ++ rest)) =
        scan found (inside.map (· ++ [c])) (text ++ rest) := by
      rw [scan.eq_def]
      simp [hopen, hclose]
    rw [List.cons_append, hstep, ih htext]
    cases inside <;> simp

/-- A variable of a new name is found. -/
theorem scan_variable (hname : BraceFree name) (hnamed : name ≠ [])
    (hnew : String.ofList name ∉ found) :
    scan found none ('\x7b' :: (name ++ '\x7d' :: rest)) =
      scan (found ++ [String.ofList name]) none rest := by
  have hopened : scan found none ('\x7b' :: (name ++ '\x7d' :: rest)) =
      scan found (some name) ('\x7d' :: rest) := by
    rw [scan, if_pos rfl]
    exact scan_append hname
  have hclosed : scan found (some name) ('\x7d' :: rest) =
      scan (found ++ [String.ofList name]) none rest := by
    simp [scan, hnamed, hnew]
  exact hopened.trans hclosed

/-- The variables behind the first literal of a template are found, if none of them was found
before. -/
theorem scan_parts (hfree : ∀ part ∈ parts, BraceFree part.1 ∧ BraceFree part.2)
    (hnamed : ∀ part ∈ parts, part.1 ≠ [])
    (hdistinct : (found ++ (parts.map Prod.fst).map String.ofList).Nodup) :
    scan found none (parts.flatMap written) =
      .ok (found ++ (parts.map Prod.fst).map String.ofList) := by
  induction parts generalizing found with
  | nil => simp [scan]
  | cons part rest ih =>
    obtain ⟨⟨hfreeName, hfreeLiteral⟩, hfreeRest⟩ := List.forall_mem_cons.mp hfree
    obtain ⟨hname, hnames⟩ := List.forall_mem_cons.mp hnamed
    rw [List.map_cons, List.map_cons] at hdistinct ⊢
    have hnew : String.ofList part.1 ∉ found := fun hmem =>
      (List.nodup_append.mp hdistinct).2.2 _ hmem _ List.mem_cons_self rfl
    rw [List.append_cons] at hdistinct ⊢
    rw [List.flatMap_cons, written, List.cons_append, List.append_assoc, List.cons_append,
      scan_variable hfreeName hname hnew, scan_append hfreeLiteral]
    exact ih hfreeRest hnames hdistinct

/-! ## Nothing else is accepted -/

/-- A variable of a new name and the literal behind it may stand in front of a template. -/
theorem exists_template_variable (t : PathTemplate) (hname : BraceFree name) (hnamed : name ≠ [])
    (hnew : String.ofList name ∉ t.names) :
    ∃ t' : PathTemplate, t'.chars = '\x7b' :: (name ++ '\x7d' :: t.chars) ∧
      t'.names = String.ofList name :: t.names := by
  have hdistinct : name ∉ t.parts.map Prod.fst := fun hmem => hnew (List.mem_map_of_mem hmem)
  refine ⟨⟨[], (name, t.front) :: t.parts, braceFree_nil, ?_, ?_, ?_⟩, ?_, rfl⟩
  · exact List.forall_mem_cons.mpr ⟨⟨hname, t.front_free⟩, t.parts_free⟩
  · exact List.forall_mem_cons.mpr ⟨hnamed, t.named⟩
  · exact List.nodup_cons.mpr ⟨hdistinct, t.distinct⟩
  · simp [chars, written]

/-- So may a character that is no brace. -/
theorem exists_template_char (t : PathTemplate) {c : Char} (hopen : c ≠ '\x7b')
    (hclose : c ≠ '\x7d') :
    ∃ t' : PathTemplate, t'.chars = c :: t.chars ∧ t'.names = t.names :=
  ⟨{ t with
      front := c :: t.front
      front_free := braceFree_cons.mpr ⟨hopen, hclose, t.front_free⟩ }, rfl, rfl⟩

/-- What is accepted behind given variables is what is left of a template without these; a variable
may have started before. -/
theorem exists_template_of_scan (hinside : ∀ pre ∈ inside, BraceFree pre)
    (h : scan found inside text = .ok names) :
    ∃ t : PathTemplate, t.chars = (inside.elim [] fun pre => '\x7b' :: pre) ++ text ∧
      found ++ t.names = names ∧ ∀ name ∈ t.names, name ∉ found := by
  -- by induction on the text that is left; a variable that has started is part of the template
  induction text generalizing found inside with
  | nil =>
    cases inside with
    | some pre => cases h
    | none =>
      obtain rfl := Except.ok.inj h
      exact ⟨⟨[], [], braceFree_nil, by simp, by simp, by simp⟩, rfl, by simp [names],
        by simp [names]⟩
  | cons c rest ih =>
    unfold scan at h
    split at h
    · next hopen =>
      -- a variable starts, and none has before
      cases inside with
      | some pre => cases h
      | none => exact hopen ▸ ih (by simp [braceFree_nil]) h
    · next hopen =>
      split at h
      · next hclose =>
        cases inside with
        | none => cases h
        | some pre =>
          -- the variable ends: it has a name, and none before it has the same
          dsimp only at h
          split at h
          · cases h
          · next hnamed =>
            split at h
            · cases h
            · next hnew =>
              obtain ⟨t, ht, hnames, hfresh⟩ := ih (by simp) h
              have hlater : String.ofList pre ∉ t.names := fun hmem => hfresh _ hmem (by simp)
              obtain ⟨t', ht', hnames'⟩ :=
                exists_template_variable t (hinside pre rfl) (by simpa using hnamed) hlater
              refine ⟨t', by simp [ht', ht, hclose], ?_, ?_⟩
              · rw [← hnames, hnames', List.append_cons]
              · rw [hnames']
                refine List.forall_mem_cons.mpr ⟨hnew, fun name hname hmem => ?_⟩
                exact hfresh name hname (List.mem_append_left _ hmem)
      · next hclose =>
        cases inside with
        | some pre =>
          have hpre := braceFree_concat (hinside pre rfl) hopen hclose
          obtain ⟨t, ht, htail⟩ := ih (by simpa using hpre) h
          exact ⟨t, by simpa using ht, htail⟩
        | none =>
          obtain ⟨t, ht, htail⟩ := ih (by simp) h
          obtain ⟨t', ht', hnames⟩ := exists_template_char t hopen hclose
          refine ⟨t', by simpa [ht'] using ht, ?_⟩
          rwa [hnames]

end Scan

variable {path : String} {names : List String}

/-- A path is accepted exactly if it is a template that starts with a slash, and what is given are the
names of its variables. -/
theorem variableNames_eq_ok_iff :
    variableNames path = .ok names ↔
      path.toList.head? = some '/' ∧ ∃ t : PathTemplate, t.text = path ∧ t.names = names := by
  unfold variableNames
  constructor
  · intro h
    split at h
    · next hslash =>
      obtain ⟨t, ht, hnames, -⟩ := exists_template_of_scan (by simp) h
      exact ⟨hslash, t, by rw [text, ht]; exact String.ofList_toList, hnames⟩
    · cases h
  · rintro ⟨hslash, t, rfl, rfl⟩
    rw [if_pos hslash, text, String.toList_ofList, chars, scan_append t.front_free]
    have hnames : ([] ++ t.names).Nodup := t.nodup_names
    exact scan_parts t.parts_free t.named hnames

theorem isTemplate_iff : IsTemplate path ↔ ∃ names, variableNames path = .ok names := by
  simp only [variableNames_eq_ok_iff, IsTemplate]
  constructor
  · rintro ⟨hslash, t, ht⟩
    exact ⟨t.names, hslash, t, ht, rfl⟩
  · rintro ⟨_, hslash, t, ht, -⟩
    exact ⟨hslash, t, ht⟩

/-! ## Shapes -/

section Erase

variable {name text rest : List Char} {parts : List (List Char × List Char)}

/-- What has no brace stays. -/
theorem erase_append (h : BraceFree text) :
    erase false (text ++ rest) = text ++ erase false rest := by
  induction text with
  | nil => rfl
  | cons c text ih =>
    obtain ⟨hopen, -, htext⟩ := braceFree_cons.mp h
    simp [erase, hopen, ih htext]

/-- A name goes, up to the brace behind it. -/
theorem erase_name (h : BraceFree name) :
    erase true (name ++ '\x7d' :: rest) = '\x7d' :: erase false rest := by
  induction name with
  | nil => simp [erase]
  | cons c name ih =>
    obtain ⟨-, hclose, hname⟩ := braceFree_cons.mp h
    simp [erase, hclose, ih hname]

/-- The names of variables go, and the literals behind them stay. -/
theorem erase_parts (h : ∀ part ∈ parts, BraceFree part.1 ∧ BraceFree part.2) :
    erase false (parts.flatMap written) =
      (parts.map Prod.snd).flatMap fun literal => written ([], literal) := by
  induction parts with
  | nil => rfl
  | cons part rest ih =>
    obtain ⟨⟨hname, hliteral⟩, hrest⟩ := List.forall_mem_cons.mp h
    simp [written, erase, erase_name hname, erase_append hliteral, ih hrest]

/-- Cut at the braces that open, literals with empty braces between them are found again. -/
theorem split_literals {front : List Char} {literals : List (List Char)} (hfront : '\x7b' ∉ front)
    (hliterals : ∀ literal ∈ literals, '\x7b' ∉ literal) :
    Text.split '\x7b' (front ++ literals.flatMap fun literal => written ([], literal)) =
      front :: literals.map ('\x7d' :: ·) := by
  induction literals generalizing front with
  | nil => simpa using Text.split_of_not_mem hfront
  | cons literal rest ih =>
    obtain ⟨hliteral, hrest⟩ := List.forall_mem_cons.mp hliterals
    have hclosed : '\x7b' ∉ '\x7d' :: literal := by simpa using hliteral
    rw [List.flatMap_cons, written, List.nil_append, List.cons_append,
      Text.split_append_cons hfront, ih hclosed hrest, List.map_cons]

end Erase

/-- The shape of a template has its literals, with empty braces between them. -/
theorem shape_text (t : PathTemplate) :
    shape t.text = String.ofList
      (t.front ++ (t.parts.map Prod.snd).flatMap fun literal => written ([], literal)) := by
  rw [shape, text, String.toList_ofList, chars, erase_append t.front_free, erase_parts t.parts_free]

/-- Two templates have one shape exactly if they have the same literals. -/
theorem shape_text_eq_iff (t u : PathTemplate) :
    shape t.text = shape u.text ↔ t.literals = u.literals := by
  have hfree : ∀ t : PathTemplate, ∀ literal ∈ t.parts.map Prod.snd, '\x7b' ∉ literal := by
    intro t literal hliteral
    obtain ⟨part, hpart, rfl⟩ := List.mem_map.mp hliteral
    exact (t.parts_free part hpart).2.1
  rw [shape_text, shape_text, String.ofList_inj, literals, literals,
    List.map_inj_right fun _ _ h => ofList_injective h, List.cons.injEq]
  constructor
  · intro h
    have hpieces := congrArg (Text.split '\x7b') h
    rw [split_literals t.front_free.1 (hfree t), split_literals u.front_free.1 (hfree u),
      List.cons.injEq, List.map_inj_right fun _ _ h => (List.cons.inj h).2] at hpieces
    exact hpieces
  · rintro ⟨hfront, hliterals⟩
    rw [hfront, hliterals]

end PathTemplate

end ApiDescription
