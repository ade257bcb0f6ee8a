import ApiDescription.Uri.Path

/-!
# Paths of the web

Whatever text a path is built from, it comes out as a slash with a settled text behind it: no
character in it is encoded again, none is a backslash, and no segment stands for a directory
(`UriPath.isRooted_extend`).  A settled text is therefore read as the path that it was taken from
(`UriPath.extend_of_isSettled`).  Reading a text that is not settled never makes it longer, as long
as no character has to be encoded (`UriPath.length_extend_le`).
-/

namespace ApiDescription

namespace Percent

/-- The characters that stand for bytes. -/
def marks : List Char := "%0123456789ABCDEF".toList

/-- Encoding leaves a character as it is. -/
def Keeps (inSet : Char → Bool) (c : Char) : Prop := c.toNat ≤ 0x7F ∧ inSet c = false

variable {inSet : Char → Bool} {text : List Char} {c : Char}

theorem Keeps.ne (h : Keeps inSet c) {d : Char} (hd : inSet d = true) : c ≠ d := by
  rintro rfl
  exact Bool.eq_false_iff.mp h.2 hd

theorem mem_marks_of_mem_byteText {byte : Nat} (hbyte : byte < 256) (hc : c ∈ byteText byte) :
    c ∈ marks := by
  have hdigit : ∀ n < 16,
      (if n < 10 then Char.ofNat (n + '0'.toNat) else Char.ofNat (n - 10 + 'A'.toNat)) ∈ marks := by
    decide
  rcases List.mem_cons.mp hc with rfl | hc
  · decide
  rcases List.mem_cons.mp hc with rfl | hc
  · exact hdigit _ (by omega)
  · rw [List.mem_singleton.mp hc]
    exact hdigit _ (by omega)

/-- What encoding gives was there before and is kept, or stands for a byte. -/
theorem mem_encode (hc : c ∈ encode inSet text) : c ∈ text ∧ Keeps inSet c ∨ c ∈ marks := by
  obtain ⟨d, hd, hc⟩ := List.mem_flatMap.mp hc
  split at hc
  · obtain ⟨byte, hbyte, hc⟩ := List.mem_flatMap.mp hc
    obtain ⟨b, -, rfl⟩ := List.mem_map.mp hbyte
    exact .inr (mem_marks_of_mem_byteText b.toNat_lt hc)
  · next hkeep =>
    obtain rfl := List.mem_singleton.mp hc
    rw [Bool.or_eq_true, decide_eq_true_eq, not_or] at hkeep
    exact .inl ⟨hd, Nat.le_of_not_lt hkeep.1, Bool.eq_false_iff.mpr hkeep.2⟩

theorem encode_of_keeps (h : ∀ c ∈ text, Keeps inSet c) : encode inSet text = text := by
  induction text with
  | nil => rfl
  | cons c rest ih =>
    obtain ⟨⟨hlow, hfree⟩, hrest⟩ := List.forall_mem_cons.mp h
    have hcond : ¬ (decide (0x7F < c.toNat) || inSet c) = true := by
      simp [hfree, Nat.not_lt.mpr hlow]
    rw [encode, List.flatMap_cons, if_neg hcond]
    exact congrArg (c :: ·) (ih hrest)

/-- Encoding a text again changes nothing. -/
theorem keeps_of_mem_encode (hmarks : marks.any inSet = false) (hc : c ∈ encode inSet text) :
    Keeps inSet c := by
  rcases mem_encode hc with ⟨-, hkeep⟩ | hmark
  · exact hkeep
  · have hlow : marks.all (·.toNat ≤ 0x7F) = true := by decide
    exact ⟨of_decide_eq_true (List.all_eq_true.mp hlow c hmark),
      Bool.eq_false_iff.mpr (List.any_eq_false.mp hmarks c hmark)⟩

end Percent

theorem Text.split_append (at_ : Char) (front behind : List Char) :
    split at_ (front ++ at_ :: behind) = split at_ front ++ split at_ behind := by
  induction front with
  | nil => simp [split]
  | cons c front ih =>
    rw [List.cons_append, split, split]
    by_cases hc : c = at_
    · rw [if_pos hc, if_pos hc, ih, List.cons_append]
    · rw [if_neg hc, if_neg hc, ih]
      cases hsplit : split at_ front with
      | nil => exact absurd hsplit (split_ne_nil _ _)
      | cons piece pieces => rfl

namespace UriPath

variable {path text segment front behind : List Char}

/-! ## Settled texts -/

/-- A character that stands for itself in a path of the web. -/
structure IsPlain (c : Char) : Prop where
  /-- It is not encoded. -/
  keeps : Percent.Keeps isEncoded c
  /-- It does not count as a slash. -/
  ne : c ≠ '\\'

/-- A segment that does not stand for a directory. -/
def IsProper (segment : List Char) : Prop := isHere segment = false ∧ isUp segment = false

/-- A text that is read as the path behind a first slash. -/
structure IsSettled (text : List Char) : Prop where
  /-- Every character stands for itself. -/
  plain {c : Char} (hc : c ∈ text) : IsPlain c
  /-- Every segment does. -/
  proper {segment : List Char} (hsegment : segment ∈ Text.split '/' text) : IsProper segment

/-- Where gaps are encoded, what is left as it is is no gap. -/
theorem not_isGap_of_keeps {inSet : Char → Bool} {c : Char} (h : Percent.Keeps inSet c)
    (hgaps : ['\t', '\n', '\r'].all inSet = true) : isGap c = false := by
  have hne : ∀ d ∈ ['\t', '\n', '\r'], c ≠ d := fun d hd =>
    h.ne (List.all_eq_true.mp hgaps d hd)
  simpa [isGap, and_assoc] using hne

theorem IsPlain.not_isGap {c : Char} (h : IsPlain c) : isGap c = false :=
  not_isGap_of_keeps h.keeps (by decide)

theorem isPlain_slash : IsPlain '/' := ⟨⟨by decide, by decide⟩, by decide⟩

theorem isSettled_nil : IsSettled [] where
  plain hc := nomatch hc
  proper hsegment := by
    obtain rfl := List.mem_singleton.mp hsegment
    exact ⟨rfl, rfl⟩

/-- A segment that holds no slash is settled by itself. -/
theorem isSettled_of_isProper (hplain : ∀ c ∈ segment, IsPlain c) (hslash : '/' ∉ segment)
    (hproper : IsProper segment) : IsSettled segment where
  plain hc := hplain _ hc
  proper h := by
    rw [Text.split_of_not_mem hslash, List.mem_singleton] at h
    exact h ▸ hproper

theorem isSettled_append_iff :
    IsSettled (front ++ '/' :: behind) ↔ IsSettled front ∧ IsSettled behind := by
  constructor
  · intro h
    refine ⟨⟨fun hc => h.plain ?_, fun hs => h.proper ?_⟩,
      ⟨fun hc => h.plain ?_, fun hs => h.proper ?_⟩⟩
    · exact List.mem_append_left _ hc
    · exact Text.split_append '/' front behind ▸ List.mem_append_left _ hs
    · exact List.mem_append_right _ (List.mem_cons_of_mem _ hc)
    · exact Text.split_append '/' front behind ▸ List.mem_append_right _ hs
  · rintro ⟨hfront, hbehind⟩
    constructor
    · intro c hc
      rcases List.mem_append.mp hc with hc | hc
      · exact hfront.plain hc
      rcases List.mem_cons.mp hc with rfl | hc
      · exact isPlain_slash
      · exact hbehind.plain hc
    · intro segment hs
      rw [Text.split_append, List.mem_append] at hs
      exact hs.elim hfront.proper hbehind.proper

/-! ## Paths with a slash at their front -/

/-- A path that is a slash with a settled text behind it. -/
def IsRooted (path : List Char) : Prop := ∃ text, path = '/' :: text ∧ IsSettled text

/-- A path that is rooted with any settled text behind it. -/
def IsOpen (path : List Char) : Prop :=
  path = ['/'] ∨ ∃ text, path = '/' :: text ++ ['/'] ∧ IsSettled text

theorem IsOpen.append (h : IsOpen path) (hsegment : IsSettled segment) :
    IsRooted (path ++ segment) := by
  rcases h with rfl | ⟨text, rfl, htext⟩
  · exact ⟨segment, rfl, hsegment⟩
  · refine ⟨text ++ '/' :: segment, ?_, isSettled_append_iff.mpr ⟨htext, hsegment⟩⟩
    simp

theorem IsOpen.isRooted (h : IsOpen path) : IsRooted path := by
  simpa using h.append isSettled_nil

theorem IsOpen.endsInSlash_eq (h : IsOpen path) : endsInSlash path = true := by
  rcases h with rfl | ⟨text, rfl, -⟩
  · rfl
  · rw [endsInSlash, List.getLast?_concat]
    rfl

theorem IsOpen.closed_eq (h : IsOpen path) : closed path = path := if_pos h.endsInSlash_eq

theorem IsRooted.append_slash (h : IsRooted path) : IsOpen (path ++ ['/']) := by
  obtain ⟨text, rfl, htext⟩ := h
  exact .inr ⟨text, rfl, htext⟩

/-- A rooted path up to one of its slashes is open. -/
theorem isOpen_of_isRooted_append (h : IsRooted (front ++ '/' :: behind)) :
    IsOpen (front ++ ['/']) := by
  obtain ⟨text, heq, htext⟩ := h
  cases front with
  | nil => exact .inl rfl
  | cons c front =>
    obtain ⟨rfl, rfl⟩ := List.cons.inj heq
    exact .inr ⟨front, rfl, (isSettled_append_iff.mp htext).1⟩

/-- A path that holds a slash is cut behind its last one. -/
theorem exists_directory_eq (h : '/' ∈ path) :
    ∃ front behind, path = front ++ '/' :: behind ∧ directory path = front ++ ['/'] := by
  obtain ⟨last, front, hreverse, hlast⟩ := List.eq_append_cons_of_mem (List.mem_reverse.mpr h)
  have hpath : path = front.reverse ++ '/' :: last.reverse := by
    rw [← List.reverse_reverse path, hreverse]
    simp
  refine ⟨front.reverse, last.reverse, hpath, ?_⟩
  have hall : ∀ c ∈ last, decide (c ≠ '/') = true := fun c hc =>
    decide_eq_true fun heq => hlast (heq ▸ hc)
  rw [directory, hreverse, List.dropWhile_append_of_pos hall, List.dropWhile_cons_of_neg (by simp),
    List.reverse_cons]

theorem IsRooted.isOpen_directory (h : IsRooted path) : IsOpen (directory path) := by
  have hslash : '/' ∈ path := by
    obtain ⟨text, rfl, -⟩ := h
    exact List.mem_cons_self
  obtain ⟨front, behind, rfl, hdirectory⟩ := exists_directory_eq hslash
  rw [hdirectory]
  exact isOpen_of_isRooted_append h

theorem IsOpen.isOpen_above (h : IsOpen path) : IsOpen (above false path) := by
  have habove : ∀ path, shorten false path = directory path := fun _ => rfl
  rw [above, habove]
  split
  · next hopens =>
    -- only a slash that is not the first one goes
    rcases h with rfl | ⟨text, rfl, htext⟩
    · simp [mayOpen] at hopens
    · rw [List.dropLast_concat]
      exact IsRooted.isOpen_directory ⟨text, rfl, htext⟩
  · exact h.isRooted.isOpen_directory

/-! ## Building a path -/

theorem push_of_isProper (hproper : IsProper segment) (path : List Char) (more : Bool) :
    push false path segment more = path ++ segment ++ (if more then ['/'] else []) := by
  rw [push, hproper.1, hproper.2]
  rfl

/-- A segment behind an open path gives a rooted one, which is open if a slash follows. -/
theorem IsOpen.isRooted_push (h : IsOpen path) (hplain : ∀ c ∈ segment, IsPlain c)
    (hslash : '/' ∉ segment) :
    IsRooted (push false path segment false) ∧ IsOpen (push false path segment true) := by
  cases hup : isUp segment with
  | true =>
    have hlast : push false path segment false = above false path := by
      rw [push, if_pos hup]
      rfl
    have hmore : push false path segment true = closed (above false path) := by
      rw [push, if_pos hup]
      rfl
    rw [hlast, hmore, h.isOpen_above.closed_eq]
    exact ⟨h.isOpen_above.isRooted, h.isOpen_above⟩
  | false =>
    cases hhere : isHere segment with
    | true =>
      have hpush : ∀ more, push false path segment more = path := by
        intro more
        rw [push, hup, hhere]
        exact h.closed_eq
      rw [hpush, hpush]
      exact ⟨h.isRooted, h⟩
    | false =>
      have hrooted : IsRooted (path ++ segment) :=
        h.append (isSettled_of_isProper hplain hslash ⟨hhere, hup⟩)
      rw [push_of_isProper ⟨hhere, hup⟩, push_of_isProper ⟨hhere, hup⟩]
      exact ⟨by simpa using hrooted, hrooted.append_slash⟩

/-- Where no file is meant, a walk goes segment by segment. -/
theorem walk_path_cons (w : Walk) (text : List Char) (rest : List (List Char)) :
    ∃ metDrive, walk false w (text :: rest) = walk false
      ⟨push false w.path (Percent.encode isEncoded (withoutGaps text)) (!rest.isEmpty), metDrive⟩
      rest :=
  ⟨_, rfl⟩

/-- Whatever segments it goes through, a walk from an open path ends at a rooted one. -/
theorem isRooted_walk {texts : List (List Char)} (hnil : texts ≠ [])
    (hslash : ∀ text ∈ texts, '/' ∉ text ∧ '\\' ∉ text) {w : Walk} (h : IsOpen w.path) :
    IsRooted (walk false w texts).path := by
  -- by induction on the segments; before each of them the path is open
  induction texts generalizing w with
  | nil => exact absurd rfl hnil
  | cons text rest ih =>
    obtain ⟨⟨hslash, hback⟩, hrest⟩ := List.forall_mem_cons.mp hslash
    have hfree : ∀ {c}, c ∉ text → c ∉ Percent.marks →
        c ∉ Percent.encode isEncoded (withoutGaps text) := fun hc hmark hmem =>
      (Percent.mem_encode hmem).elim (fun h => hc (List.mem_filter.mp h.1 |>.1)) hmark
    have hplain : ∀ c ∈ Percent.encode isEncoded (withoutGaps text), IsPlain c := fun c hc =>
      ⟨Percent.keeps_of_mem_encode (by decide) hc, fun heq => hfree hback (by decide) (heq ▸ hc)⟩
    obtain ⟨hlast, hmore⟩ := h.isRooted_push hplain (hfree hslash (by decide))
    obtain ⟨metDrive, hwalk⟩ := walk_path_cons w text rest
    rw [hwalk]
    cases rest with
    | nil => exact hlast
    | cons next rest => exact ih (by simp) hrest hmore

/-- Every path that is built behind a slash is rooted. -/
theorem isRooted_extend (text : List Char) : IsRooted (extend true ['/'] text) := by
  refine isRooted_walk (Text.split_ne_nil _ _) (fun piece hpiece => ?_) (.inl rfl)
  refine ⟨Text.not_mem_of_mem_split hpiece, fun hback => ?_⟩
  obtain ⟨c, -, hc⟩ := List.mem_map.mp (Text.mem_of_mem_split hpiece hback)
  by_cases hc' : c = '\\' <;> simp [hc'] at hc

/-! ## Texts of plain characters -/

theorem encode_withoutGaps_of_isPlain (hplain : ∀ c ∈ text, IsPlain c) :
    Percent.encode isEncoded (withoutGaps text) = text := by
  have hgaps : withoutGaps text = text :=
    List.filter_eq_self.mpr fun c hc => by simp [(hplain c hc).not_isGap]
  rw [hgaps]
  exact Percent.encode_of_keeps fun c hc => (hplain c hc).keeps

theorem segmentTexts_of_isPlain (hplain : ∀ c ∈ text, IsPlain c) :
    segmentTexts true text = Text.split '/' text := by
  have hmap : text.map (fun c => if c = '\\' then '/' else c) = text :=
    (List.map_congr_left fun c hc => if_neg (hplain c hc).ne).trans (List.map_id text)
  rw [segmentTexts, if_pos rfl, hmap]

/-- A walk through settled segments puts them behind the path, with slashes between them. -/
theorem walk_of_isProper {texts : List (List Char)} (hnil : texts ≠ [])
    (h : ∀ text ∈ texts, (∀ c ∈ text, IsPlain c) ∧ IsProper text) (w : Walk) :
    (walk false w texts).path = w.path ++ ['/'].intercalate texts := by
  induction texts generalizing w with
  | nil => exact absurd rfl hnil
  | cons text rest ih =>
    obtain ⟨⟨hplain, hproper⟩, hrest⟩ := List.forall_mem_cons.mp h
    obtain ⟨metDrive, hwalk⟩ := walk_path_cons w text rest
    rw [hwalk, encode_withoutGaps_of_isPlain hplain, push_of_isProper hproper]
    cases rest with
    | nil => simp [walk]
    | cons next rest =>
      rw [ih (by simp) hrest, List.intercalate_cons_cons]
      simp

/-- A settled text is read as it stands. -/
theorem extend_of_isSettled (h : IsSettled text) : extend true ['/'] text = '/' :: text := by
  have hpieces : ∀ piece ∈ Text.split '/' text, (∀ c ∈ piece, IsPlain c) ∧ IsProper piece :=
    fun piece hpiece => ⟨fun c hc => h.plain (Text.mem_of_mem_split hpiece hc), h.proper hpiece⟩
  rw [extend, segmentTexts_of_isPlain fun c hc => h.plain hc,
    walk_of_isProper (Text.split_ne_nil _ _) hpieces, Text.intercalate_split]
  rfl

/-! ## Lengths -/

theorem length_directory_le (path : List Char) : (directory path).length ≤ path.length := by
  have h := congrArg List.length (directory_append_lastSegment path)
  rw [List.length_append] at h
  omega

theorem length_closed_le (path : List Char) : (closed path).length ≤ path.length + 1 := by
  rw [closed]
  split <;> simp

theorem length_above_le (path : List Char) : (above false path).length ≤ path.length := by
  refine Nat.le_trans (length_directory_le _) ?_
  split
  · exact List.length_dropLast ▸ Nat.sub_le _ _
  · exact Nat.le_refl _

/-- The segments that stand for a directory are not empty. -/
theorem length_pos_of_not_isProper (h : ¬ IsProper segment) : 0 < segment.length := by
  refine List.length_pos_iff.mpr fun hnil => h ?_
  rw [hnil]
  exact ⟨rfl, rfl⟩

/-- A segment makes a path longer by its own length at most, and by that of a slash behind it. -/
theorem length_push_le (path segment : List Char) (more : Bool) :
    (push false path segment more).length ≤ path.length + segment.length + more.toNat := by
  by_cases hproper : IsProper segment
  · rw [push_of_isProper hproper]
    cases more <;> simp [Nat.add_assoc]
  · have hpos := length_pos_of_not_isProper hproper
    have habove := length_above_le path
    have hclosed := length_closed_le path
    have hboth := length_closed_le (above false path)
    have hcases : push false path segment more = closed (above false path) ∨
        push false path segment more = above false path ∨
        push false path segment more = closed path := by
      rw [push]
      split
      · cases more
        · exact .inr (.inl rfl)
        · exact .inl rfl
      · next hup =>
        have hhere : isHere segment = true := eq_true_of_ne_false fun hhere =>
          hproper ⟨hhere, Bool.eq_false_iff.mpr hup⟩
        rw [if_pos hhere]
        exact .inr (.inr rfl)
    rcases hcases with heq | heq | heq
    all_goals
      rw [heq]
      omega

theorem length_walk_le {texts : List (List Char)} (hnil : texts ≠ [])
    (hplain : ∀ text ∈ texts, ∀ c ∈ text, IsPlain c) (w : Walk) :
    (walk false w texts).path.length ≤ w.path.length + (['/'].intercalate texts).length := by
  induction texts generalizing w with
  | nil => exact absurd rfl hnil
  | cons text rest ih =>
    obtain ⟨hplain, hrest⟩ := List.forall_mem_cons.mp hplain
    obtain ⟨metDrive, hwalk⟩ := walk_path_cons w text rest
    rw [hwalk, encode_withoutGaps_of_isPlain hplain]
    have hpush := length_push_le w.path text (!rest.isEmpty)
    cases rest with
    | nil => simpa [walk] using hpush
    | cons next rest =>
      have hlater := ih (by simp) hrest ⟨push false w.path text true, metDrive⟩
      rw [List.intercalate_cons_cons]
      simp only [List.isEmpty_cons, Bool.not_false, Bool.toNat_true, List.length_append,
        List.length_singleton] at hpush hlater ⊢
      omega

/-- A text of plain characters makes no longer path than a settled one would. -/
theorem length_extend_le (hplain : ∀ c ∈ text, IsPlain c) :
    (extend true ['/'] text).length ≤ text.length + 1 := by
  have hpieces : ∀ piece ∈ Text.split '/' text, ∀ c ∈ piece, IsPlain c :=
    fun piece hpiece c hc => hplain c (Text.mem_of_mem_split hpiece hc)
  have hwalk := length_walk_le (Text.split_ne_nil _ _) hpieces ⟨['/'], false⟩
  rw [Text.intercalate_split, List.length_singleton] at hwalk
  rw [extend, segmentTexts_of_isPlain hplain]
  omega

end UriPath

end ApiDescription
