import ApiDescription.Pointer

/-!
# Text that decoding changes

A text stands for itself unless a `%` with two hexadecimal digits behind it stands somewhere in it:
`Percent.decode_eq_iff`.  What three characters write is at most one character longer than what is
left open, so a text with an escape becomes shorter; and without one, nothing is replaced.
-/

namespace ApiDescription.Percent

/-- Whether a text starts with so many hexadecimal digits. -/
def startsWithDigits : Nat → List Char → Bool
  | 0, _ => true
  | _ + 1, [] => false
  | n + 1, c :: rest => (Text.hexValue? c).isSome && startsWithDigits n rest

/-- Whether a `%` with two hexadecimal digits behind it stands in a text. -/
def escapes : List Char → Bool
  | [] => false
  | c :: rest => (c == '%' && startsWithDigits 2 rest) || escapes rest

theorem exists_of_startsWithDigits {text : List Char} (h : startsWithDigits 2 text = true) :
    ∃ a b rest high low, text = a :: b :: rest ∧ Text.hexValue? a = some high ∧
      Text.hexValue? b = some low := by
  match text with
  | [] => exact Bool.noConfusion h
  | [a] => exact absurd h (by simp [startsWithDigits])
  | a :: b :: rest =>
    simp only [startsWithDigits, Bool.and_eq_true, Option.isSome_iff_exists] at h
    obtain ⟨⟨high, ha⟩, ⟨low, hb⟩, -⟩ := h
    exact ⟨a, b, rest, high, low, rfl, ha, hb⟩

/-- Where the digits behind a `%` are missing, an escape stands further on. -/
theorem escapes_of_cons {c : Char} {rest : List Char} (h : escapes (c :: rest) = true)
    (hdigits : c = '%' → startsWithDigits 2 rest = false) : escapes rest = true := by
  rw [escapes, Bool.or_eq_true, Bool.and_eq_true, beq_iff_eq] at h
  rcases h with ⟨hc, hrest⟩ | hlater
  · exact absurd hrest (by rw [hdigits hc]; exact Bool.false_ne_true)
  · exact hlater

@[simp] theorem flush_none : flush none = [] := rfl

@[simp] theorem flush_some (o : Open) : flush (some o) = [replacement] := rfl

theorem decode_cons {c : Char} (hc : c ≠ '%') (rest : List Char) :
    decode (c :: rest) = c :: decode rest := by
  rw [decode, decodeFrom]
  · rfl
  · exact fun _ _ _ h _ => hc h

/-! ## Lengths -/

theorem length_startWith (byte : Nat) :
    (startWith byte).1.length + (flush (startWith byte).2).length ≤ 1 := by
  unfold startWith
  split
  · simp
  · cases firstOf byte <;> simp

/-- A byte adds one character at most, and what it leaves open counts as one. -/
theorem length_feed (pending : Option Open) (byte : Nat) :
    (feed pending byte).1.length + (flush (feed pending byte).2).length ≤
      (flush pending).length + 1 := by
  have hstart := length_startWith byte
  unfold feed
  cases pending with
  | none =>
    simp only [flush_none, List.length_nil]
    omega
  | some o =>
    dsimp only
    split
    · split <;> simp
    · simp only [List.length_cons, flush_some, List.length_nil]
      omega

theorem length_decodeFrom_le (pending : Option Open) (text : List Char) :
    (decodeFrom pending text).length ≤ text.length + (flush pending).length := by
  fun_induction decodeFrom pending text with
  | case1 pending a b rest high low ha hb ended opened hfeed ih =>
    have hlength := length_feed pending (high * 16 + low)
    rw [hfeed] at hlength
    simp only [List.length_append, List.length_cons] at *
    omega
  | case2 pending a b rest hdigits ih =>
    simp only [List.length_append, List.length_cons, flush_none, List.length_nil] at *
    omega
  | case3 pending c rest hpercent ih =>
    simp only [List.length_append, List.length_cons, flush_none, List.length_nil] at *
    omega
  | case4 pending => simp

/-- An escape makes three characters one. -/
theorem length_decodeFrom_lt {pending : Option Open} {text : List Char} (h : escapes text = true) :
    (decodeFrom pending text).length < text.length + (flush pending).length := by
  fun_induction decodeFrom pending text with
  | case1 pending a b rest high low ha hb ended opened hfeed ih =>
    have hlength := length_feed pending (high * 16 + low)
    have hrest := length_decodeFrom_le opened rest
    rw [hfeed] at hlength
    simp only [List.length_append, List.length_cons] at *
    omega
  | case2 pending a b rest hdigits ih =>
    have hmissing : startsWithDigits 2 (a :: b :: rest) = false := by
      refine Bool.eq_false_iff.mpr fun hstart => ?_
      obtain ⟨a', b', rest', high, low, heq, ha, hb⟩ := exists_of_startsWithDigits hstart
      cases heq
      exact hdigits high low ha hb
    have hlength := ih (escapes_of_cons h fun _ => hmissing)
    simp only [List.length_append, List.length_cons, flush_none, List.length_nil] at *
    omega
  | case3 pending c rest hpercent ih =>
    have hmissing (hc : c = '%') : startsWithDigits 2 rest = false := by
      refine Bool.eq_false_iff.mpr fun hstart => ?_
      obtain ⟨a, b, rest', -, -, heq, -, -⟩ := exists_of_startsWithDigits hstart
      exact hpercent a b rest' hc heq
    have hlength := ih (escapes_of_cons h hmissing)
    simp only [List.length_append, List.length_cons, flush_none, List.length_nil] at *
    omega
  | case4 pending => simp [escapes] at h

theorem decode_of_escapes_eq_false {text : List Char} (h : escapes text = false) :
    decode text = text := by
  have hnone : ∀ pending, pending = none → decodeFrom pending text = text := by
    intro pending
    fun_induction decodeFrom pending text with
    | case1 pending a b rest high low ha hb ended opened hfeed ih =>
      exact absurd h (by simp [escapes, startsWithDigits, ha, hb])
    | case2 pending a b rest hdigits ih =>
      rintro rfl
      rw [flush_none, List.nil_append, ih (Bool.or_eq_false_iff.mp h).2 rfl]
    | case3 pending c rest hpercent ih =>
      rintro rfl
      rw [flush_none, List.nil_append, ih (Bool.or_eq_false_iff.mp h).2 rfl]
    | case4 pending =>
      rintro rfl
      rfl
  exact hnone none rfl

/-- A text stands for itself just if it holds no escape. -/
theorem decode_eq_iff {text : List Char} : decode text = text ↔ escapes text = false := by
  refine ⟨fun heq => Bool.eq_false_iff.mpr fun h => ?_, decode_of_escapes_eq_false⟩
  have hlt : (decode text).length < text.length + (flush none).length := length_decodeFrom_lt h
  rw [heq] at hlt
  exact absurd hlt (by simp)

end ApiDescription.Percent
