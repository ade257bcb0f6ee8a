import ApiDescription.Proofs.Uri.Path
import ApiDescription.Uri

/-!
# Authorities of the web

The text of a URI is cut into authority and path at the first slash behind its two slashes, so the
path must be where the authority ends.  Names on the web may be written with escapes, in letters
outside ASCII, or as numbers; whichever way an authority was written, its own text holds no slash
(`Uri.slash_notMem_of_authority?`).
-/

namespace ApiDescription

/-- What stands in texts that are put together stands in one of them, or between them. -/
theorem Text.mem_of_mem_intercalate {c : Char} {separator : List Char} {texts : List (List Char)}
    (hc : c ∈ separator.intercalate texts) : c ∈ separator ∨ ∃ text ∈ texts, c ∈ text := by
  induction texts with
  | nil => simp at hc
  | cons text rest ih =>
    cases rest with
    | nil => exact .inr ⟨text, List.mem_cons_self, by simpa using hc⟩
    | cons next rest =>
      rw [List.intercalate_cons_cons] at hc
      rcases List.mem_append.mp hc with hc | hc
      · rcases List.mem_append.mp hc with hc | hc
        · exact .inr ⟨text, List.mem_cons_self, hc⟩
        · exact .inl hc
      · exact (ih hc).imp_right fun ⟨other, hother, hc⟩ =>
          ⟨other, List.mem_cons_of_mem _ hother, hc⟩

/-- What a reading of all members of a list gives, it gives for one of them. -/
theorem exists_of_mem_of_mapM_eq_some {α β : Type} {f : α → Option β} {l : List α} {l' : List β}
    (h : l.mapM f = some l') {b : β} (hb : b ∈ l') : ∃ a ∈ l, f a = some b := by
  induction l generalizing l' with
  | nil =>
    obtain rfl := Option.some.inj h
    cases hb
  | cons a rest ih =>
    rw [List.mapM_cons] at h
    obtain ⟨b', hb', h⟩ := Option.bind_eq_some_iff.mp h
    obtain ⟨rest', hrest, h⟩ := Option.bind_eq_some_iff.mp h
    obtain rfl := Option.some.inj h
    rcases List.mem_cons.mp hb with rfl | hb
    · exact ⟨a, List.mem_cons_self, hb'⟩
    · exact (ih hrest hb).imp fun _ => And.imp_left (List.mem_cons_of_mem _)

/-! ## Numbers -/

theorem slash_notMem_toDigits {base : Nat} (hbase : 1 < base) (n : Nat) :
    '/' ∉ Nat.toDigits base n := by
  induction n using Nat.strongRecOn with
  | ind n ih =>
    have hdigit : ∀ n : Nat, '/' ≠ n.digitChar := fun _ => (Nat.digitChar_ne '/' (by decide)).symm
    rw [Nat.toDigits_eq_if hbase]
    split
    · exact fun hmem => hdigit n (List.mem_singleton.mp hmem)
    · next hle =>
      rw [List.mem_append, not_or]
      exact ⟨ih _ (Nat.div_lt_self (by omega) hbase),
        fun hmem => hdigit _ (List.mem_singleton.mp hmem)⟩

theorem slash_notMem_toString (n : Nat) : '/' ∉ (toString n).toList := by
  rw [Nat.toString_eq_ofList_toDigits, String.toList_ofList]
  exact slash_notMem_toDigits (by decide) n

/-! ## Labels outside ASCII -/

namespace Punycode

variable {c : Char} {label : List Char}

theorem slash_ne_digit {n : Nat} (h : n < 36) : '/' ≠ digit n := by
  have hall : ∀ n < 36, '/' ≠ digit n := by decide
  exact hall n h

theorem threshold_le (place bias : Nat) : threshold place bias ≤ 26 := by
  rw [threshold]
  split <;> omega

theorem slash_notMem_digits (bias place n : Nat) : '/' ∉ digits bias place n := by
  fun_induction digits bias place n with
  | case1 place n t hlast =>
    have hle : t ≤ 26 := threshold_le place bias
    exact fun hmem => slash_ne_digit (by omega) (List.mem_singleton.mp hmem)
  | case2 place n t hmore ih =>
    have hle : t ≤ 26 := threshold_le place bias
    have hlt : (n - t) % (36 - t) < 36 - t := Nat.mod_lt _ (by omega)
    exact List.not_mem_cons_of_ne_of_not_mem (slash_ne_digit (by omega)) ih

theorem Progress.slash_notMem_pass (basic code : Nat) {p : Progress} (h : '/' ∉ p.written)
    (c : Char) : '/' ∉ (p.pass basic code c).written := by
  unfold Progress.pass
  split
  · exact h
  · split
    · rw [List.mem_append, not_or]
      exact ⟨h, slash_notMem_digits _ _ _⟩
    · exact h

theorem slash_notMem_insertAll (label : List Char) (basic : Nat) (codes : List Nat) (next : Nat)
    {p : Progress} (h : '/' ∉ p.written) : '/' ∉ (insertAll label basic codes next p).written := by
  have hlabel : ∀ (code : Nat) (cs : List Char) (p : Progress), '/' ∉ p.written →
      '/' ∉ (cs.foldl (Progress.pass basic code) p).written := by
    intro code cs
    induction cs with
    | nil => exact fun _ h => h
    | cons c rest ih => exact fun p h => ih _ (Progress.slash_notMem_pass basic code h c)
  induction codes generalizing next p with
  | nil => exact h
  | cons code rest ih => exact ih _ (hlabel code label _ h)

theorem slash_notMem_encode (h : '/' ∉ label) : '/' ∉ encode label := by
  have hbasic : '/' ∉ label.filter (·.toNat < 0x80) := fun hc => h (List.mem_filter.mp hc).1
  have hinserted := slash_notMem_insertAll label (label.filter (·.toNat < 0x80)).length
    ((label.map Char.toNat).filter (0x80 ≤ ·)).mergeSort.eraseDups 0x80
    (p := ⟨[], 0, 72, (label.filter (·.toNat < 0x80)).length⟩) (by simp)
  unfold encode
  dsimp only
  split
  · exact hinserted
  · rw [List.mem_append, List.mem_cons, not_or, not_or]
    exact ⟨hbasic, by decide, hinserted⟩

end Punycode

/-! ## Hosts -/

namespace HostName

variable {name text : List Char}

theorem slash_notMem_of_decodedLabel? {code : List Char} {label : Label}
    (h : decodedLabel? code = some label) (hslash : '/' ∉ code) : '/' ∉ label.written := by
  unfold decodedLabel? at h
  dsimp only at h
  split at h
  · cases h
  split at h
  · cases h
  obtain ⟨characters, -, h⟩ := Option.bind_eq_some_iff.mp h
  split at h
  · obtain rfl := Option.some.inj h
    have hmark : '/' ∉ mark := by decide
    exact fun hmem => (List.mem_append.mp hmem).elim hmark hslash
  · cases h

theorem slash_notMem_of_label? {label : Label} (h : label? text = some label)
    (hslash : '/' ∉ text) : '/' ∉ label.written := by
  unfold label? at h
  split at h
  · exact slash_notMem_of_decodedLabel? h fun hmem => hslash (List.mem_of_mem_drop hmem)
  split at h
  · obtain rfl := Option.some.inj h
    exact hslash
  split at h
  · obtain rfl := Option.some.inj h
    have hmark : '/' ∉ mark := by decide
    exact fun hmem => (List.mem_append.mp hmem).elim hmark (Punycode.slash_notMem_encode hslash)
  · cases h

/-- A slash is forbidden in a name of the web, and writing the name in ASCII does not bring one. -/
theorem slash_notMem_of_ascii? (h : ascii? text = some name) : '/' ∉ name := by
  obtain ⟨labels, hlabels, rfl⟩ := Option.map_eq_some_iff.mp h
  unfold labels? at hlabels
  obtain ⟨prepared, -, hlabels⟩ := Option.bind_eq_some_iff.mp hlabels
  split at hlabels
  · cases hlabels
  next hallowed =>
  obtain ⟨labels', hmap, hlabels⟩ := Option.bind_eq_some_iff.mp hlabels
  dsimp only at hlabels
  split at hlabels
  · cases hlabels
  obtain rfl := Option.some.inj hlabels
  have hprepared : '/' ∉ prepared := fun hmem =>
    hallowed (List.any_eq_true.mpr ⟨'/', hmem, by decide⟩)
  intro hmem
  rcases Text.mem_of_mem_intercalate hmem with hdot | ⟨written, hwritten, hmem⟩
  · exact absurd hdot (by decide)
  · obtain ⟨label, hlabel, rfl⟩ := List.mem_map.mp hwritten
    obtain ⟨piece, hpiece, hread⟩ := exists_of_mem_of_mapM_eq_some hmap hlabel
    exact slash_notMem_of_label? hread (fun hmem => hprepared (Text.mem_of_mem_split hpiece hmem))
      hmem

end HostName

namespace Host

variable {text : List Char} {host : Host}

theorem slash_notMem_fourText (address : Nat) : '/' ∉ (fourText address).toList := by
  rw [fourText, String.toList_intercalate]
  intro hmem
  rcases Text.mem_of_mem_intercalate hmem with hdot | ⟨piece, hpiece, hmem⟩
  · exact absurd hdot (by decide)
  · obtain ⟨number, hnumber, rfl⟩ := List.mem_map.mp hpiece
    obtain ⟨place, -, rfl⟩ := List.mem_map.mp hnumber
    exact slash_notMem_toString _ hmem

theorem slash_notMem_piecesText (pieces : List Nat) : '/' ∉ (piecesText pieces).toList := by
  rw [piecesText, String.toList_intercalate]
  intro hmem
  rcases Text.mem_of_mem_intercalate hmem with hcolon | ⟨piece, hpiece, hmem⟩
  · exact absurd hcolon (by decide)
  · obtain ⟨digits, hdigits, rfl⟩ := List.mem_map.mp hpiece
    obtain ⟨number, -, rfl⟩ := List.mem_map.mp hdigits
    rw [String.toList_ofList] at hmem
    exact slash_notMem_toDigits (by decide) _ hmem

theorem slash_notMem_eightText (pieces : List Nat) : '/' ∉ (eightText pieces).toList := by
  unfold eightText
  dsimp only
  split
  · rw [String.toList_append, String.toList_append, List.mem_append, List.mem_append]
    rintro ((hmem | hmem) | hmem)
    · exact slash_notMem_piecesText _ hmem
    · exact absurd hmem (by decide)
    · exact slash_notMem_piecesText _ hmem
  · exact slash_notMem_piecesText _

/-- The text of a host of the web holds no slash. -/
theorem slash_notMem_of_parse? (h : parse? true text = some host) : '/' ∉ host.text.toList := by
  have hfour : ∀ address, '/' ∉ (Host.four address).text.toList := slash_notMem_fourText
  have height : ∀ pieces, '/' ∉ (Host.eight pieces).text.toList := by
    intro pieces
    have heq : (Host.eight pieces).text = "[" ++ eightText pieces ++ "]" := rfl
    rw [heq, String.toList_append, String.toList_append, List.mem_append, List.mem_append]
    rintro ((hmem | hmem) | hmem)
    · exact absurd hmem (by decide)
    · exact slash_notMem_eightText _ hmem
    · exact absurd hmem (by decide)
  have hweb : ∀ text, webName? text = some host → '/' ∉ host.text.toList := by
    intro text h
    unfold webName? at h
    obtain ⟨name, hname, h⟩ := Option.bind_eq_some_iff.mp h
    split at h
    · cases h
    split at h
    · obtain ⟨address, -, rfl⟩ := Option.map_eq_some_iff.mp h
      exact hfour address
    · obtain rfl := Option.some.inj h
      have heq : (Host.name (String.ofList name)).text = String.ofList name := rfl
      rw [heq, String.toList_ofList]
      exact HostName.slash_notMem_of_ascii? hname
  unfold parse? at h
  split at h
  · unfold bracketed? at h
    split at h
    · obtain ⟨pieces, -, rfl⟩ := Option.map_eq_some_iff.mp h
      exact height pieces
    · cases h
  · exact hweb _ h

end Host

/-! ## Authorities -/

/-- The text of an authority behind its two slashes. -/
def Authority.name (a : Authority) : List Char := (Uri.authorityText a).toList.drop 2

namespace Uri

variable {scheme : String} {a : Authority}

theorem toList_authorityText (a : Authority) :
    (authorityText a).toList = '/' :: '/' :: a.name := by
  rw [Authority.name, authorityText, String.toList_append, String.toList_append,
    String.toList_append]
  rfl

/-- An authority holds no slash if none of its parts does; the marks between them are others. -/
theorem slash_notMem_name (huser : '/' ∉ a.user.toList) (hpassword : '/' ∉ a.password.toList)
    (hhost : '/' ∉ a.host.text.toList) : '/' ∉ a.name := by
  have hport : '/' ∉ ((a.port.map fun n => ":" ++ toString n).getD "").toList := by
    cases a.port with
    | none => exact List.not_mem_nil
    | some n =>
      have heq : (":" ++ toString n).toList = ':' :: (toString n).toList := String.toList_append
      rw [Option.map_some, Option.getD_some, heq, List.mem_cons, not_or]
      exact ⟨by decide, slash_notMem_toString n⟩
  have hmark : '/' ∉ ":".toList ∧ '/' ∉ "@".toList ∧ '/' ∉ "".toList := by decide
  unfold Authority.name authorityText
  rw [String.toList_append, String.toList_append, String.toList_append]
  have hslashes : "//".toList = ['/', '/'] := rfl
  rw [hslashes]
  simp only [List.append_assoc, List.cons_append, List.nil_append, List.drop_succ_cons,
    List.drop_zero, List.mem_append, not_or]
  refine ⟨?_, hhost, hport⟩
  split
  · exact hmark.2.2
  split
  · rw [String.toList_append, List.mem_append, not_or]
    exact ⟨huser, hmark.2.1⟩
  · simp only [String.toList_append, List.mem_append, not_or]
    exact ⟨⟨⟨huser, hmark.1⟩, hpassword⟩, hmark.2.1⟩

/-- The text of an authority of the web holds no slash but those in front of it. -/
theorem slash_notMem_of_authority? (hweb : isWeb scheme = true) {isLast : Bool}
    {text behind : List Char} (h : authority? scheme isLast text = some (a, behind)) :
    '/' ∉ a.name := by
  have hencode : ∀ text,
      '/' ∉ (String.ofList (Percent.encode isEncodedInCredentials text)).toList := by
    intro text hmem
    rw [String.toList_ofList] at hmem
    have hslash : isEncodedInCredentials '/' = true := by decide
    rcases Percent.mem_encode hmem with ⟨-, hkeep⟩ | hmark
    · exact absurd hslash (Bool.eq_false_iff.mp hkeep.2)
    · exact absurd hmark (by decide)
  unfold authority? at h
  rw [hweb] at h
  dsimp only at h
  split at h
  · cases h
  obtain ⟨host, hhost, h⟩ := Option.bind_eq_some_iff.mp h
  obtain ⟨port, -, h⟩ := Option.bind_eq_some_iff.mp h
  split at h
  · cases h
  obtain ⟨rfl, -⟩ := Prod.mk.inj (Option.some.inj h)
  exact slash_notMem_name (hencode _) (hencode _) (Host.slash_notMem_of_parse? hhost)

end Uri

end ApiDescription
