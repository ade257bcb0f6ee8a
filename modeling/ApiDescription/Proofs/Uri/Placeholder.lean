import ApiDescription.Proofs.SelfReference
import ApiDescription.Proofs.Uri.Host
import ApiDescription.Proofs.Uri.Scheme

/-!
# References against the placeholder

What is left of a URI without the placeholder at its front is a reference, and it is read against
the placeholder again.  It leads back to the URI unless it starts anew, with a scheme or a slash of
its own: `Uri.leadsTo_iff`.  A reference that does not start anew is a settled path and a query, and
each is read as it stands; from one that does, something is taken away at the front, and the path
behind the authority comes out shorter.
-/

namespace ApiDescription

namespace Text

variable {at_ : Char} {text front behind : List Char}

theorem cut_of_notMem (h : at_ ∉ text) : cut at_ text = (text, none) := by
  induction text with
  | nil => rfl
  | cons c rest ih =>
    obtain ⟨hc, hrest⟩ := not_or.mp (List.mem_cons.not.mp h)
    rw [cut, if_neg (Ne.symm hc), ih hrest]

/-- Nothing is left out of a text that holds no character of the class. -/
theorem trimBy_of_forall {outer : Char → Bool} (h : ∀ c ∈ text, outer c = false) :
    trimBy outer text = text := by
  have hdrop : ∀ text : List Char, (∀ c ∈ text, outer c = false) → text.dropWhile outer = text := by
    intro text h
    cases text with
    | nil => rfl
    | cons c rest => exact List.dropWhile_cons_of_neg (by simp [h c List.mem_cons_self])
  rw [trimBy, hdrop text h, hdrop _ fun c hc => h c (List.mem_reverse.mp hc), List.reverse_reverse]

end Text

namespace Uri

variable {scheme : String} {p : Parts} {base u : Uri} {text : List Char}

/-! ## The placeholder -/

theorem isWeb_placeholder : isWeb placeholder.scheme = true := by decide

theorem isFile_placeholder : isFile placeholder.scheme = false := by decide

theorem isFlat_placeholder : placeholder.isFlat = false := by decide

theorem directory_placeholder : placeholder.directory = ['/'] := by decide

theorem path_placeholder : placeholder.path = String.ofList ['/'] := by decide

/-- The placeholder has no query that another one could be put before. -/
theorem query_finishSame (p : Parts) : (p.queryText placeholder.scheme <|> placeholder.query) =
    p.queryText placeholder.scheme := by
  have hnone : placeholder.query = none := rfl
  rw [hnone]
  cases p.queryText placeholder.scheme <;> rfl

/-- A text with the placeholder at its front is cut where the authority ends. -/
theorem toList_placeholder_append (reference : String) : (placeholder.text ++ reference).toList =
    placeholder.scheme.toList ++
      ':' :: '/' :: '/' :: ("example.invalid".toList ++ '/' :: reference.toList) := by
  have htext : placeholder.text.toList = placeholder.scheme.toList ++
      ':' :: '/' :: '/' :: ("example.invalid".toList ++ ['/']) := by decide +kernel
  rw [String.toList_append, htext]
  simp

/-! ## Slashes -/

theorem suffix_tail_of_cons {c : Char} {rest : List Char} (h : c :: rest <:+ text) :
    rest <:+ text.tail := by
  obtain ⟨front, rfl⟩ := h
  cases front with
  | nil => exact List.suffix_rfl
  | cons d front => exact ⟨front ++ [c], by simp⟩

theorem exists_of_behindSlash? {rest : List Char} (h : behindSlash? text = some rest) :
    ∃ c, c :: rest <:+ text := by
  unfold behindSlash? at h
  split at h
  · next c rest' hdrop =>
    split at h
    · obtain rfl := Option.some.inj h
      exact ⟨c, hdrop ▸ List.dropWhile_suffix _⟩
    · cases h
  · cases h

theorem behindSlashes?_suffix {rest : List Char} (h : behindSlashes? text = some rest) :
    rest <:+ text.tail := by
  unfold behindSlashes? at h
  split at h
  · obtain ⟨later, hfirst, hsecond⟩ := Option.bind_eq_some_iff.mp h
    obtain ⟨c, hfirst⟩ := exists_of_behindSlash? hfirst
    obtain ⟨d, hsecond⟩ := exists_of_behindSlash? hsecond
    exact suffix_tail_of_cons (hsecond.trans ((List.suffix_cons c later).trans hfirst))
  · cases h

theorem slashCount_cons_of_other {c : Char} (rest : List Char) (hslash : isSlash c = false)
    (hgap : UriPath.isGap c = false) : slashCount (c :: rest) = 0 := by
  have hfilter : UriPath.withoutGaps (c :: rest) = c :: UriPath.withoutGaps rest :=
    List.filter_cons_of_pos (by simp [hgap])
  rw [slashCount, hfilter, List.takeWhile_cons_of_neg (by simp [hslash])]
  rfl

theorem slashCount_slash (rest : List Char) : slashCount ('/' :: rest) ≠ 0 := by
  have hfilter : UriPath.withoutGaps ('/' :: rest) = '/' :: UriPath.withoutGaps rest :=
    List.filter_cons_of_pos (by decide)
  rw [slashCount, hfilter, List.takeWhile_cons_of_pos (by decide)]
  exact Nat.succ_ne_zero _

/-- A text with a slash at its front loses a character when its slashes are left out. -/
theorem withoutSlashes_suffix (h : slashCount text ≠ 0) : withoutSlashes text <:+ text.tail := by
  cases text with
  | nil => exact absurd rfl h
  | cons c rest =>
    have hc : (isSlash c || UriPath.isGap c) = true := by
      refine eq_true_of_ne_false fun hc => ?_
      obtain ⟨hslash, hgap⟩ := Bool.or_eq_false_iff.mp hc
      exact h (slashCount_cons_of_other rest hslash hgap)
    unfold withoutSlashes
    rw [List.dropWhile_cons_of_pos (by exact hc)]
    exact List.dropWhile_suffix _

/-! ## Reading -/

/-- A reference that starts anew is not taken from where its base is: it has a scheme, or a slash
at its front. -/
def startsAnew (reference : String) : Bool :=
  let front := (partsOf reference).front
  (scheme? front).isSome || front.head? = some '/'

/-- A URI has the scheme of the placeholder, and its path is written by the end of a text. -/
structure WrittenBy (u : Uri) (p : Parts) (text : List Char) : Prop where
  /-- The scheme is that of the placeholder. -/
  scheme_eq : u.scheme = placeholder.scheme
  /-- There is an authority. -/
  exists_authority : ∃ a, u.authority = some a ∧ '/' ∉ a.name
  /-- The path is read from the end of the text. -/
  exists_path : ∃ rest, rest <:+ text ∧ u.path = String.ofList (UriPath.extend true ['/'] rest)
  /-- The query is that of the reference. -/
  query_eq : u.query = p.queryText placeholder.scheme

theorem WrittenBy.of_suffix {other : List Char} (h : u.WrittenBy p text)
    (hsuffix : text <:+ other) : u.WrittenBy p other :=
  { h with exists_path := h.exists_path.imp fun _ => And.imp_left (·.trans hsuffix) }

theorem writtenBy_of_withAuthority? (h : withAuthority? placeholder.scheme p text = some u) :
    u.WrittenBy p text := by
  obtain ⟨⟨a, extra⟩, ha, h⟩ := Option.bind_eq_some_iff.mp h
  obtain rfl := Option.some.inj h
  have hsuffix : (text.dropWhile (!endsAuthority placeholder.scheme ·)).drop 1 <:+ text :=
    (List.drop_suffix _ _).trans (List.dropWhile_suffix _)
  exact ⟨rfl, ⟨a, rfl, slash_notMem_of_authority? isWeb_placeholder ha⟩,
    ⟨_, hsuffix, congrArg String.ofList (if_pos isWeb_placeholder)⟩, rfl⟩

/-- A reference against the placeholder writes the path; without its first character, if this is a
slash. -/
theorem writtenBy_of_relative? (h : relative? placeholder p text = some u) :
    u.WrittenBy p text ∧ (text.head? = some '/' → u.WrittenBy p text.tail) := by
  have hauthority : ∃ a, placeholder.authority = some a ∧ '/' ∉ a.name := ⟨_, rfl, by decide⟩
  have hrooted : ∀ rest, (p.finish placeholder.scheme placeholder.authority
      (UriPath.extend (isWeb placeholder.scheme) ['/'] rest)).WrittenBy p rest := fun rest =>
    ⟨rfl, hauthority, ⟨rest, List.suffix_rfl, rfl⟩, rfl⟩
  unfold relative? at h
  dsimp only at h
  split at h
  · next hcount =>
    refine ⟨?_, fun hhead => ?_⟩
    · split at h
      · obtain rfl := Option.some.inj h
        exact ⟨rfl, hauthority, ⟨[], List.nil_suffix, path_placeholder⟩, query_finishSame p⟩
      · obtain rfl := Option.some.inj h
        rw [directory_placeholder]
        exact hrooted text
    · obtain ⟨rest, rfl⟩ := List.head?_eq_some_iff.mp hhead
      exact absurd hcount (slashCount_slash rest)
  · next hcount =>
    obtain rfl := Option.some.inj h
    -- one slash: the path starts anew behind the authority
    have hshort : (p.finish placeholder.scheme placeholder.authority
        (UriPath.extend (isWeb placeholder.scheme) ['/'] (withoutSlashes text))).WrittenBy p
        text.tail :=
      (hrooted _).of_suffix (withoutSlashes_suffix (by rw [hcount]; decide))
    exact ⟨hshort.of_suffix (List.tail_suffix _), fun _ => hshort⟩
  · next hnone hone =>
    -- two slashes or more: there is another authority before the path
    have hshort : u.WrittenBy p text.tail := by
      refine (writtenBy_of_withAuthority? h).of_suffix ?_
      cases hslashes : behindSlashes? text with
      | none => exact withoutSlashes_suffix hnone
      | some rest => exact behindSlashes?_suffix hslashes
    exact ⟨hshort.of_suffix (List.tail_suffix _), fun _ => hshort⟩

theorem writtenBy_of_withScheme? {base : Option Uri} (hbase : ∀ b ∈ base, b = placeholder)
    (h : withScheme? base p placeholder.scheme text = some u) : u.WrittenBy p text := by
  have hauthority : withAuthority? placeholder.scheme p (withoutSlashes text) = some u →
      u.WrittenBy p text := fun h =>
    (writtenBy_of_withAuthority? h).of_suffix (List.dropWhile_suffix _)
  unfold withScheme? at h
  rw [isFile_placeholder, isWeb_placeholder] at h
  simp only [Bool.false_eq_true, if_false, if_true] at h
  split at h
  · next base' hfilter =>
    obtain rfl := hbase base' (Option.filter_eq_some_iff.mp hfilter).1
    split at h
    · exact (writtenBy_of_relative? h).1
    · exact hauthority h
  · exact hauthority h

/-- Without a scheme, a reference against the placeholder is relative to it. -/
theorem resolve?_placeholder {text : String} (h : scheme? (partsOf text).front = none) :
    placeholder.resolve? text = relative? placeholder (partsOf text) (partsOf text).front := by
  unfold resolve?
  dsimp only
  rw [h]
  dsimp only
  rw [isFlat_placeholder, isFile_placeholder, if_neg Bool.false_ne_true,
    if_neg Bool.false_ne_true]

/-- A text is read behind its scheme, or relative to the placeholder. -/
theorem ofText?_cases {text : String} (h : ofText? text = some u) :
    (∃ base scheme rest, (∀ b ∈ base, b = placeholder) ∧
      scheme? (partsOf text).front = some (scheme, rest) ∧
      withScheme? base (partsOf text) scheme rest = some u) ∨
    scheme? (partsOf text).front = none ∧
      relative? placeholder (partsOf text) (partsOf text).front = some u := by
  have hread : parse? text = some u ∨ placeholder.resolve? text = some u := by
    unfold ofText? at h
    cases hparse : parse? text with
    | none => exact .inr (by simpa [hparse] using h)
    | some _ => exact .inl (by simpa [hparse] using h)
  cases hscheme : scheme? (partsOf text).front with
  | none =>
    rcases hread with hparse | hresolve
    · rw [parse?, hscheme] at hparse
      cases hparse
    · rw [resolve?_placeholder hscheme] at hresolve
      exact .inr ⟨rfl, hresolve⟩
  | some found =>
    obtain ⟨scheme, rest⟩ := found
    rcases hread with hparse | hresolve
    · rw [parse?, hscheme] at hparse
      exact .inl ⟨none, scheme, rest, by simp, rfl, hparse⟩
    · unfold resolve? at hresolve
      dsimp only at hresolve
      rw [hscheme] at hresolve
      exact .inl ⟨some placeholder, scheme, rest, by simp, rfl, hresolve⟩

/-- A URI with the scheme of the placeholder is written by what the reference has before its query;
without the first character, if the reference starts anew. -/
theorem writtenBy_of_ofText? {text : String} (h : ofText? text = some u)
    (hscheme : u.scheme = placeholder.scheme) :
    u.WrittenBy (partsOf text) (partsOf text).front ∧
      (startsAnew text = true → u.WrittenBy (partsOf text) (partsOf text).front.tail) := by
  rcases ofText?_cases h with ⟨base, scheme, rest, hbase, hread, h⟩ | ⟨hread, h⟩
  · obtain rfl := (scheme_of_withScheme? h).symm.trans hscheme
    obtain ⟨-, front, hfront⟩ := scheme?_eq_some hread
    have hshort : u.WrittenBy (partsOf text) (partsOf text).front.tail :=
      (writtenBy_of_withScheme? hbase h).of_suffix (suffix_tail_of_cons ⟨front, hfront.symm⟩)
    exact ⟨hshort.of_suffix (List.tail_suffix _), fun _ => hshort⟩
  · obtain ⟨hwhole, hshort⟩ := writtenBy_of_relative? h
    refine ⟨hwhole, fun hanew => hshort ?_⟩
    simpa [startsAnew, hread] using hanew

theorem colon_notMem_scheme {text : String} (h : ofText? text = some u) :
    ':' ∉ u.scheme.toList := by
  rcases ofText?_cases h with ⟨base, scheme, rest, -, hread, h⟩ | ⟨-, h⟩
  · exact scheme_of_withScheme? h ▸ (scheme?_eq_some hread).1
  · rw [scheme_of_relative? h]
    decide

/-! ## Keys -/

/-- The text of a query, with its mark. -/
def queryChars (query : Option String) : List Char := ((query.map ("?" ++ ·)).getD "").toList

@[simp] theorem queryChars_none : queryChars none = [] := rfl

@[simp] theorem queryChars_some (query : String) : queryChars (some query) = '?' :: query.toList :=
  String.toList_append

/-- The key of a URI with an authority is put together from all its parts but the fragment. -/
theorem toList_key_of_authority {a : Authority} (h : u.authority = some a) : u.key.toList =
    u.scheme.toList ++ ':' :: '/' :: '/' :: (a.name ++ (u.path.toList ++ queryChars u.query)) := by
  have hflat : u.isFlat = false := by rw [isFlat, h]; rfl
  have hkey : u.key = u.scheme ++ ":" ++ authorityText a ++ u.path ++
      (u.query.map ("?" ++ ·)).getD "" ++ "" := by
    unfold key withoutFragment Uri.text pathText
    dsimp only
    rw [hflat, h]
    rfl
  rw [hkey]
  simp only [String.toList_append, toList_authorityText, queryChars]
  simp

/-- The key of a URI that was written so has a settled path in it. -/
theorem WrittenBy.exists_key_eq (h : u.WrittenBy p text) :
    ∃ (a : Authority) (rest : List Char), '/' ∉ a.name ∧ UriPath.IsSettled rest ∧
      u.path.toList = '/' :: rest ∧ u.key.toList = placeholder.scheme.toList ++
        ':' :: '/' :: '/' :: (a.name ++ '/' :: (rest ++ queryChars u.query)) := by
  obtain ⟨a, hauthority, hslash⟩ := h.exists_authority
  obtain ⟨written, -, hpath⟩ := h.exists_path
  obtain ⟨rest, hextend, hsettled⟩ := UriPath.isRooted_extend written
  have hrest : u.path.toList = '/' :: rest := by rw [hpath, hextend, String.toList_ofList]
  refine ⟨a, rest, hslash, hsettled, hrest, ?_⟩
  rw [toList_key_of_authority hauthority, h.scheme_eq, hrest, List.cons_append]

/-- A text that holds a mark is cut at its first place in one way only. -/
theorem append_cons_inj {c : Char} {front front' behind behind' : List Char} (h : c ∉ front)
    (h' : c ∉ front') (heq : front ++ c :: behind = front' ++ c :: behind') :
    front = front' ∧ behind = behind' := by
  have hcut := congrArg (Text.cut c) heq
  rw [Text.cut_append h, Text.cut_append h'] at hcut
  exact ⟨congrArg Prod.fst hcut, Option.some.inj (congrArg Prod.snd hcut)⟩

theorem question_notMem {rest : List Char} (h : UriPath.IsSettled rest) : '?' ∉ rest := fun hmem =>
  (h.plain hmem).keeps.ne (by decide) rfl

theorem cut_append_queryChars {rest : List Char} (h : UriPath.IsSettled rest)
    (query : Option String) :
    Text.cut '?' (rest ++ queryChars query) = (rest, query.map String.toList) := by
  cases query with
  | none => simpa using Text.cut_of_notMem (question_notMem h)
  | some query =>
    rw [queryChars_some]
    exact Text.cut_append (question_notMem h) query.toList

/-- URIs with the scheme of the placeholder that have one key have one path. -/
theorem WrittenBy.path_eq {u' : Uri} {p' : Parts} {text' : List Char} (h : u.WrittenBy p text)
    (h' : u'.WrittenBy p' text') (hkey : u.key = u'.key) : u.path = u'.path := by
  obtain ⟨a, rest, hslash, hsettled, hpath, hu⟩ := h.exists_key_eq
  obtain ⟨a', rest', hslash', hsettled', hpath', hu'⟩ := h'.exists_key_eq
  rw [hkey, hu'] at hu
  simp only [List.append_cancel_left_eq, List.cons.injEq, true_and] at hu
  obtain ⟨-, hbehind⟩ := append_cons_inj hslash' hslash hu
  have hcut := congrArg (Text.cut '?') hbehind
  rw [cut_append_queryChars hsettled', cut_append_queryChars hsettled] at hcut
  rw [← String.toList_inj, hpath, hpath', (Prod.mk.inj hcut).1]

/-- A URI whose key has the placeholder at its front has the scheme of the placeholder. -/
theorem scheme_eq_of_key_eq {text reference : String} (h : ofText? text = some u)
    (hkey : u.key = placeholder.text ++ reference) : u.scheme = placeholder.scheme := by
  obtain ⟨rest, hrest⟩ : ∃ rest, u.key.toList = u.scheme.toList ++ ':' :: rest := by
    unfold key withoutFragment Uri.text
    simp only [String.toList_append, List.append_assoc]
    exact ⟨_, rfl⟩
  rw [hkey, toList_placeholder_append] at hrest
  obtain ⟨hscheme, -⟩ := append_cons_inj (by decide) (colon_notMem_scheme h) hrest
  exact (String.toList_inj.mp hscheme).symm

/-! ## What is left without the placeholder -/

/-- A text is read as a URI with a given key. -/
def LeadsTo (text key : String) : Prop := ∃ u, ofText? text = some u ∧ u.key = key

/-- A character that may stand in a query. -/
def IsOfQuery (c : Char) : Prop := Percent.Keeps (isEncodedInQuery placeholder.scheme) c

/-- What is left of a key without the placeholder at its front is a settled path and a query. -/
theorem exists_of_key_eq {text reference : String} (h : ofText? text = some u)
    (hkey : u.key = placeholder.text ++ reference) :
    ∃ rest, UriPath.IsSettled rest ∧ u.path.toList = '/' :: rest ∧
      reference.toList = rest ++ queryChars u.query ∧
      ∀ query ∈ u.query, ∀ c ∈ query.toList, IsOfQuery c := by
  have hwritten := (writtenBy_of_ofText? h (scheme_eq_of_key_eq h hkey)).1
  obtain ⟨a, rest, hslash, hsettled, hpath, hu⟩ := hwritten.exists_key_eq
  rw [hkey, toList_placeholder_append] at hu
  simp only [List.append_cancel_left_eq, List.cons.injEq, true_and] at hu
  obtain ⟨-, hrest⟩ := append_cons_inj (by decide) hslash hu
  refine ⟨rest, hsettled, hpath, hrest, fun query hquery c hc => ?_⟩
  rw [hwritten.query_eq] at hquery
  obtain ⟨written, -, rfl⟩ := Option.map_eq_some_iff.mp hquery
  rw [String.toList_ofList] at hc
  exact Percent.keeps_of_mem_encode (by decide) hc

/-- A character is neither taken off at the ends of a reference nor the mark of a fragment. -/
def IsInner (c : Char) : Prop := 0x20 < c.toNat ∧ c ≠ '#'

theorem isInner_of_keeps {inSet : Char → Bool} {c : Char} (h : Percent.Keeps inSet c)
    (hcontrol : c.toNat < 0x20 → inSet c = true) (hspace : inSet ' ' = true)
    (hmark : inSet '#' = true) : IsInner c := by
  have hle : 0x20 ≤ c.toNat := Nat.le_of_not_lt fun hlt =>
    Bool.eq_false_iff.mp h.2 (hcontrol hlt)
  have hne : 0x20 ≠ c.toNat := fun heq => h.ne hspace (Char.toNat_inj.mp heq.symm)
  exact ⟨Nat.lt_of_le_of_ne hle hne, h.ne hmark⟩

theorem isInner_of_isPlain {c : Char} (h : UriPath.IsPlain c) : IsInner c :=
  isInner_of_keeps h.keeps (fun hlt => by simp [UriPath.isEncoded, hlt]) (by decide) (by decide)

theorem isInner_of_isOfQuery {c : Char} (h : IsOfQuery c) : IsInner c :=
  isInner_of_keeps h (fun hlt => by simp [isEncodedInQuery, Host.isControl, hlt]) (by decide)
    (by decide)

theorem IsOfQuery.not_isGap {c : Char} (h : IsOfQuery c) : UriPath.isGap c = false :=
  UriPath.not_isGap_of_keeps h (by decide)

theorem isInner_of_mem {rest : List Char} {query : Option String} {c : Char}
    (hsettled : UriPath.IsSettled rest) (hquery : ∀ text ∈ query, ∀ c ∈ text.toList, IsOfQuery c)
    (hc : c ∈ rest ++ queryChars query) : IsInner c := by
  rcases List.mem_append.mp hc with hc | hc
  · exact isInner_of_isPlain (hsettled.plain hc)
  · cases query with
    | none => cases hc
    | some text =>
      rw [queryChars_some] at hc
      rcases List.mem_cons.mp hc with rfl | hc
      · exact ⟨by decide, by decide⟩
      · exact isInner_of_isOfQuery (hquery text rfl c hc)

/-- A settled path and a query are read as they stand. -/
theorem partsOf_eq {reference : String} {rest : List Char} {query : Option String}
    (hsettled : UriPath.IsSettled rest) (hquery : ∀ text ∈ query, ∀ c ∈ text.toList, IsOfQuery c)
    (hreference : reference.toList = rest ++ queryChars query) :
    partsOf reference = ⟨rest, query.map String.toList, none⟩ := by
  have hinner : ∀ c ∈ reference.toList, IsInner c := fun c hc =>
    isInner_of_mem hsettled hquery (hreference ▸ hc)
  have htrim : Text.trimBy (·.toNat ≤ 0x20) reference.toList = reference.toList :=
    Text.trimBy_of_forall fun c hc => by simpa using (hinner c hc).1
  have hwhole : Text.cut '#' reference.toList = (reference.toList, none) :=
    Text.cut_of_notMem fun hmem => (hinner _ hmem).2 rfl
  have hgaps : query.map (UriPath.withoutGaps ∘ String.toList) = query.map String.toList := by
    refine Option.map_congr fun text htext => ?_
    exact List.filter_eq_self.mpr fun c hc => by simp [(hquery text htext c hc).not_isGap]
  unfold partsOf
  rw [htrim, hwhole]
  dsimp only
  rw [hreference, cut_append_queryChars hsettled]
  dsimp only
  rw [Option.map_map, hgaps]
  rfl

/-- What starts anew does not lead back: the path that it writes is shorter. -/
theorem not_leadsTo_of_startsAnew {text reference : String} (h : ofText? text = some u)
    (hkey : u.key = placeholder.text ++ reference) (hanew : startsAnew reference = true) :
    ¬ LeadsTo reference u.key := by
  rintro ⟨u', h', hsame⟩
  obtain ⟨rest, hsettled, hpath, hreference, hquery⟩ := exists_of_key_eq h hkey
  have hfront : (partsOf reference).front = rest := by
    rw [partsOf_eq hsettled hquery hreference]
  -- with one key they have one path, but the second URI is written by less than the path
  have hwritten := (writtenBy_of_ofText? h (scheme_eq_of_key_eq h hkey)).1
  have hscheme' := scheme_eq_of_key_eq h' (hsame.trans hkey)
  have hwritten' := (writtenBy_of_ofText? h' hscheme').2 hanew
  rw [hfront] at hwritten'
  obtain ⟨written, hsuffix, hpath'⟩ := hwritten'.exists_path
  have hlength : u'.path.toList.length ≤ rest.tail.length + 1 := by
    rw [hpath', String.toList_ofList]
    have hplain : ∀ c ∈ written, UriPath.IsPlain c := fun c hc =>
      hsettled.plain (List.mem_of_mem_tail (hsuffix.subset hc))
    exact (UriPath.length_extend_le hplain).trans (Nat.succ_le_succ hsuffix.length_le)
  rw [hwritten'.path_eq hwritten hsame, hpath, List.length_cons, List.length_tail] at hlength
  have hnil : rest ≠ [] := by
    rintro rfl
    unfold startsAnew at hanew
    rw [hfront] at hanew
    exact absurd hanew (by decide)
  have hpos := List.length_pos_iff.mpr hnil
  omega

theorem queryText_eq {query : Option String} (rest : List Char)
    (hquery : ∀ text ∈ query, ∀ c ∈ text.toList, IsOfQuery c) :
    Parts.queryText ⟨rest, query.map String.toList, none⟩ placeholder.scheme = query := by
  unfold Parts.queryText
  dsimp only
  cases query with
  | none => rfl
  | some text =>
    rw [Option.map_some, Option.map_some, Percent.encode_of_keeps (hquery text rfl),
      String.ofList_toList]

/-- Against the placeholder a settled path without a slash at its front is read as it stands. -/
theorem relative?_of_isSettled {rest : List Char} (h : UriPath.IsSettled rest)
    (hhead : rest.head? ≠ some '/') (p : Parts) : relative? placeholder p rest =
      some { placeholder with
        path := String.ofList ('/' :: rest)
        query := p.queryText placeholder.scheme
        fragment := p.fragmentText } := by
  unfold relative?
  dsimp only
  cases rest with
  | nil =>
    have hcount : slashCount [] = 0 := rfl
    have hempty : (UriPath.withoutGaps []).isEmpty = true := rfl
    rw [hcount, hempty, if_pos rfl, Parts.finishSame, query_finishSame p, path_placeholder]
    rfl
  | cons c rest =>
    have hplain := h.plain List.mem_cons_self
    have hslash : isSlash c = false := by
      have hne : c ≠ '/' := fun heq => hhead (congrArg some heq)
      simp [isSlash, hne, hplain.ne]
    have hkept : UriPath.withoutGaps (c :: rest) = c :: UriPath.withoutGaps rest :=
      List.filter_cons_of_pos (by simp [hplain.not_isGap])
    rw [slashCount_cons_of_other rest hslash hplain.not_isGap, hkept, isWeb_placeholder,
      directory_placeholder, UriPath.extend_of_isSettled h]
    rfl

/-- What does not start anew leads back. -/
theorem leadsTo_of_not_startsAnew {text reference : String} (h : ofText? text = some u)
    (hkey : u.key = placeholder.text ++ reference) (hanew : startsAnew reference = false) :
    LeadsTo reference u.key := by
  obtain ⟨rest, hsettled, -, hreference, hquery⟩ := exists_of_key_eq h hkey
  have hparts := partsOf_eq hsettled hquery hreference
  have hfront : (partsOf reference).front = rest := by rw [hparts]
  unfold startsAnew at hanew
  rw [hfront, Bool.or_eq_false_iff, decide_eq_false_iff_not, Option.isSome_eq_false_iff,
    Option.isNone_iff_eq_none] at hanew
  obtain ⟨hscheme, hhead⟩ := hanew
  have hparse : parse? reference = none := by
    rw [parse?, hfront, hscheme]
    rfl
  have hread : ofText? reference = some
      { placeholder with path := String.ofList ('/' :: rest), query := u.query } := by
    rw [ofText?, hparse, resolve?_placeholder (hfront.symm ▸ hscheme), hfront,
      relative?_of_isSettled hsettled hhead, hparts, queryText_eq rest hquery]
    rfl
  refine ⟨_, hread, String.toList_inj.mp ?_⟩
  have hpath : (String.ofList ('/' :: rest)).toList = '/' :: rest := String.toList_ofList
  have hname : (⟨"", "", .name "example.invalid", none⟩ : Authority).name =
      "example.invalid".toList := by decide
  rw [toList_key_of_authority (a := ⟨"", "", .name "example.invalid", none⟩) rfl, hname, hkey,
    toList_placeholder_append, hreference]
  dsimp only
  rw [hpath, List.cons_append]

/-- What is left of a key without the placeholder at its front leads back just if it does not start
anew. -/
theorem leadsTo_iff {text reference : String} (h : ofText? text = some u)
    (hkey : u.key = placeholder.text ++ reference) :
    LeadsTo reference u.key ↔ startsAnew reference = false := by
  constructor
  · exact fun hleads => Bool.eq_false_iff.mpr fun hanew =>
      not_leadsTo_of_startsAnew h hkey hanew hleads
  · exact leadsTo_of_not_startsAnew h hkey

end Uri

end ApiDescription
