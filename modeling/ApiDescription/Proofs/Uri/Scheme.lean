import ApiDescription.Uri

/-!
# Schemes of URIs

A scheme is read up to the first colon of a reference, and holds none.  Whatever is read behind it,
with or without a base, has the scheme that was read: `Uri.scheme_of_withScheme?`.
-/

namespace ApiDescription

/-- A text is put together again from what it was cut into. -/
theorem Text.eq_of_cut {at_ : Char} {text front behind : List Char}
    (h : cut at_ text = (front, some behind)) : text = front ++ at_ :: behind := by
  induction text generalizing front with
  | nil => simp [cut] at h
  | cons c rest ih =>
    rw [cut] at h
    split at h
    · next hc =>
      obtain ⟨rfl, hbehind⟩ := Prod.mk.inj h
      rw [hc, Option.some.inj hbehind, List.nil_append]
    · cases hcut : cut at_ rest with
      | mk before later =>
        rw [hcut] at h
        obtain ⟨rfl, rfl⟩ := Prod.mk.inj h
        rw [ih hcut, List.cons_append]

namespace Uri

variable {scheme : String} {p : Parts} {base u : Uri} {text : List Char}

/-! ## Reading a scheme -/

theorem toLower_ne_colon {c : Char} (h : isSchemeChar c = true) : c.toLower ≠ ':' := by
  unfold Char.toLower
  split
  · next hupper =>
    -- a capital letter becomes a letter
    obtain ⟨hlow, hhigh⟩ := hupper
    have hlow : 65 ≤ c.val.toNat := UInt32.le_iff_toNat_le.mp hlow
    have hhigh : c.val.toNat ≤ 90 := UInt32.le_iff_toNat_le.mp hhigh
    intro heq
    have hval : (c.val + 32).toNat = 58 := congrArg (fun d : Char => d.val.toNat) heq
    rw [UInt32.toNat_add] at hval
    change (c.val.toNat + 32) % 2 ^ 32 = 58 at hval
    omega
  · rintro rfl
    exact absurd h (by decide)

theorem scheme?_eq_some {rest : List Char} (h : scheme? text = some (scheme, rest)) :
    ':' ∉ scheme.toList ∧ ∃ front, text = front ++ ':' :: rest := by
  unfold scheme? at h
  split at h
  · next front behind hcut =>
    split at h
    · next c cs hfront =>
      split at h
      · next hchars =>
        obtain ⟨rfl, rfl⟩ := Prod.mk.inj (Option.some.inj h)
        refine ⟨?_, front, Text.eq_of_cut hcut⟩
        rw [Bool.and_eq_true, List.all_eq_true] at hchars
        have hscheme : ∀ d ∈ c :: cs, isSchemeChar d = true := List.forall_mem_cons.mpr
          ⟨by simp [isSchemeChar, Char.isAlphanum, hchars.1], hchars.2⟩
        rw [String.toList_ofList]
        intro hmem
        obtain ⟨d, hd, hlower⟩ := List.mem_map.mp hmem
        exact toLower_ne_colon (hscheme d hd) hlower
      · cases h
    · cases h
  · cases h

/-! ## The scheme of what is read -/

theorem scheme_of_withAuthority? (h : withAuthority? scheme p text = some u) :
    u.scheme = scheme := by
  obtain ⟨⟨authority, extra⟩, -, h⟩ := Option.bind_eq_some_iff.mp h
  obtain rfl := Option.some.inj h
  rfl

theorem scheme_of_relative? (h : relative? base p text = some u) : u.scheme = base.scheme := by
  unfold relative? at h
  dsimp only at h
  split at h
  · split at h
    · obtain rfl := Option.some.inj h
      rfl
    · obtain rfl := Option.some.inj h
      rfl
  · obtain rfl := Option.some.inj h
    rfl
  · exact scheme_of_withAuthority? h

theorem scheme_of_fileOnHost? (h : fileOnHost? p text = some u) : u.scheme = "file" := by
  unfold fileOnHost? at h
  dsimp only at h
  split at h
  · obtain rfl := Option.some.inj h
    rfl
  split at h
  all_goals
    obtain ⟨host, -, h⟩ := Option.bind_eq_some_iff.mp h
    split at h
    all_goals
      obtain rfl := Option.some.inj h
      rfl

theorem scheme_fileAtRoot (base : Option Uri) (p : Parts) (text behind : List Char) :
    (fileAtRoot base p text behind).scheme = "file" := by
  unfold fileAtRoot
  split
  · rfl
  · dsimp only
    split <;> rfl

theorem scheme_of_file? {base : Option Uri} (hbase : ∀ b ∈ base, b.scheme = "file")
    (h : file? base p text = some u) : u.scheme = "file" := by
  unfold file? at h
  split at h
  · split at h
    · exact scheme_of_fileOnHost? h
    · obtain rfl := Option.some.inj h
      exact scheme_fileAtRoot _ _ _ _
  · obtain rfl := Option.some.inj h
    rfl
  · next base' _ =>
    split at h
    · obtain rfl := Option.some.inj h
      exact hbase base' rfl
    · split at h
      all_goals
        obtain rfl := Option.some.inj h
        rfl

/-- A URI that is read behind a scheme has this scheme, whatever the base is. -/
theorem scheme_of_withScheme? {base : Option Uri} (h : withScheme? base p scheme text = some u) :
    u.scheme = scheme := by
  unfold withScheme? at h
  split at h
  · next hfile =>
    have hscheme : scheme = "file" := of_decide_eq_true hfile
    rw [hscheme]
    refine scheme_of_file? (fun b hb => ?_) h
    exact of_decide_eq_true (Option.mem_filter_iff.mp hb).2
  split at h
  · split at h
    · next base' hbase =>
      have hscheme : base'.scheme = scheme :=
        of_decide_eq_true (Option.filter_eq_some_iff.mp hbase).2
      split at h
      · exact (scheme_of_relative? h).trans hscheme
      · exact scheme_of_withAuthority? h
    · exact scheme_of_withAuthority? h
  split at h
  · exact scheme_of_withAuthority? h
  · dsimp only at h
    split at h
    all_goals
      obtain rfl := Option.some.inj h
      rfl

end Uri

end ApiDescription
