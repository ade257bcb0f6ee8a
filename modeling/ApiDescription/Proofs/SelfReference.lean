import ApiDescription.Proofs.RegistryHistory

/-!
# References of a document to itself

A reference with nothing before its mark stays in the document that holds it.  The document may also
name itself, by a URI that it is registered under or that it gives itself, in full or relative to
its base.  `Registry.locate_self_of_replace` says that for an entry document this makes no
difference, whatever was registered before, and whether or not other documents are followed.

A URI is looked up by its text, so it is asked of the URI that its text is read as itself again.
-/

namespace ApiDescription

/-- The text of a URI is read as the URI itself. -/
def Uri.ReadsBack (u : Uri) : Prop := parse? u.text = some u

instance (u : Uri) : Decidable u.ReadsBack :=
  inferInstanceAs (Decidable (Uri.parse? u.text = some u))

theorem Uri.ReadsBack.ofText? {u : Uri} (h : u.ReadsBack) : Uri.ofText? u.text = some u := by
  rw [Uri.ofText?, h]
  rfl

/-- Where no mark is in a text, it is what stands before a mark behind it. -/
theorem Text.cut_append {mark : Char} {front : List Char} (h : mark ∉ front) (rest : List Char) :
    Text.cut mark (front ++ mark :: rest) = (front, some rest) := by
  induction front with
  | nil => simp [Text.cut]
  | cons c front ih =>
    obtain ⟨hc, hfront⟩ := not_or.mp (List.mem_cons.not.mp h)
    rw [List.cons_append, Text.cut, if_neg (Ne.symm hc), ih hfront]

/-- A reference is put together from its document and its fragment. -/
theorem UriReference.parse_append {document : String} (h : '#' ∉ document.toList)
    (fragment : String) : parse (document ++ "#" ++ fragment) = ⟨document, some fragment⟩ := by
  have htext : (document ++ "#" ++ fragment).toList =
      document.toList ++ '#' :: fragment.toList := by
    simp [String.toList_append]
  rw [parse, htext, Text.cut_append h]
  simp

namespace Scope

variable {c : Scope} {document : String}

/-! ## Nodes of a document -/

/-- Which node a fragment leads to does not depend on the reference that it is taken from. -/
theorem toOption_nodeOf (c : Scope) (fragment : Option String) (reference other : String) :
    (c.nodeOf fragment reference).toOption = (c.nodeOf fragment other).toOption := by
  have hnode : ∀ p : Pointer, (c.nodeAt p reference).toOption = (c.nodeAt p other).toOption := by
    intro p
    unfold nodeAt
    cases c.source.root.at? p <;> rfl
  cases fragment with
  | none => exact hnode .root
  | some fragment =>
    unfold nodeOf pointerOf
    dsimp only
    cases Pointer.ofFragment? fragment with
    | some p => exact hnode p
    | none =>
      dsimp only
      cases c.source.anchor? (Pointer.decodeSegment fragment) with
      | some p => exact hnode p
      | none => rfl

/-- In a document that is at hand nothing is found to be left out. -/
theorem nodeOf_ne_externalReference (c : Scope) (fragment : Option String)
    (reference text : String) :
    c.nodeOf fragment reference ≠ .error (.externalReference text) := by
  have hnode : ∀ p : Pointer, c.nodeAt p reference ≠ .error (.externalReference text) := by
    intro p
    unfold nodeAt
    cases c.source.root.at? p <;> simp
  cases fragment with
  | none => exact hnode .root
  | some fragment =>
    unfold nodeOf pointerOf
    dsimp only
    cases Pointer.ofFragment? fragment with
    | some p => exact hnode p
    | none =>
      dsimp only
      cases c.source.anchor? (Pointer.decodeSegment fragment) with
      | some p => exact hnode p
      | none => simp [Except.bind]

/-! ## Naming a document -/

/-- A text that is resolved to a URI of the document names the document itself. -/
theorem documentOf_eq_self {u : Uri} (hresolve : c.source.base.resolve? document = some u)
    (hplace : c.setting.registry.place? u.text = some c.place) (reference : String) :
    c.documentOf document reference = .ok c := by
  unfold documentOf
  rw [hresolve]
  dsimp only
  rw [if_pos hplace]

/-- A reference into the document itself leads to what its fragment leads to. -/
theorem locate_of_documentOf (hmark : '#' ∉ document.toList)
    (h : ∀ reference, c.documentOf document reference = .ok c) (fragment : String) :
    c.locate (document ++ "#" ++ fragment) =
      c.nodeOf (some fragment) (document ++ "#" ++ fragment) := by
  rw [locate_eq, UriReference.parse_append hmark]
  dsimp only
  split
  · rfl
  · rw [h]
    rfl

theorem locate_fragment (c : Scope) (fragment : String) :
    c.locate ("#" ++ fragment) = c.nodeOf (some fragment) ("#" ++ fragment) := by
  have hmark : '#' ∉ "".toList := by simp
  have hparse := UriReference.parse_append hmark fragment
  rw [String.empty_append] at hparse
  rw [locate_eq, hparse]
  rfl

end Scope

/-- After an entry document was put into a registry that calls led to, a reference in it that names
one of its own URIs leads to the same node as the reference without the name, or both lead to none;
and it is not left out as one into another document. -/
theorem Registry.locate_self_of_replace (calls : List Call) {uri key : String}
    {loaded : LoadedDocument} {r₁ : Registry}
    (hreplace : (empty.afterAll calls).replace uri loaded = .ok (r₁, key)) :
    ∃ base place, Uri.ofText? uri = some base ∧ key = base.key ∧
      r₁.documents[place]? = some (.ofLoaded base loaded) ∧
      (base.withoutFragment.ReadsBack → r₁.place? key = some place) ∧
      ∀ (options : Options) (version : Version),
        let c : Scope := ⟨⟨r₁, place, options, version⟩, place, .ofLoaded base loaded⟩
        ∀ (document fragment : String) (u : Uri), '#' ∉ document.toList →
          base.resolve? document = some u → u.key ∈ c.source.keys → u.ReadsBack →
          (c.locate (document ++ "#" ++ fragment)).toOption =
              (c.locate ("#" ++ fragment)).toOption ∧
            ∀ reference,
              c.locate (document ++ "#" ++ fragment) ≠ .error (.externalReference reference) := by
  obtain ⟨base, place, hbase, hkey, hr⟩ := (exact_empty.afterAll calls).1.replaces hreplace
  refine ⟨base, place, hbase, hkey, hr.here, fun hback => ?_, ?_⟩
  · rw [hkey]
    exact hr.keeps.place?_key hback
  · intro options version c document fragment u hmark hresolve hown hback
    -- the text of the URI is looked up, and stands for the place of the document
    have hplace : r₁.place? u.text = some place :=
      (hr.keeps.place?_iff u.text).mpr ⟨u, hback.ofText?, hown⟩
    have hself : ∀ reference, c.documentOf document reference = .ok c :=
      Scope.documentOf_eq_self (c := c) hresolve hplace
    rw [Scope.locate_of_documentOf hmark hself, Scope.locate_fragment]
    exact ⟨c.toOption_nodeOf _ _ _, c.nodeOf_ne_externalReference _ _⟩

/-- A document that calls itself `s`. -/
def selfText : String := "\x7b\"$self\":\"s\"\x7d"

/-- A document that calls itself `s` and is put in place of the one under this URI may name itself
so, also if no other documents are followed. -/
theorem Registry.locate_self_selfText : ∃ loaded base r₁ place,
    LoadedDocument.ofText selfText = .ok loaded ∧
    (empty.afterAll [.register "http://h/d/s" selfText]).replace "http://h/d/e" loaded =
      .ok (r₁, base.key) ∧
    r₁.documents[place]? = some (.ofLoaded base loaded) ∧
    let c : Scope := ⟨⟨r₁, place, { Options.standard with resolveExternal := false }, .v31⟩, place,
      .ofLoaded base loaded⟩
    (c.locate ("s" ++ "#" ++ "/$self")).toOption = (c.locate ("#" ++ "/$self")).toOption ∧
      ∀ reference, c.locate ("s" ++ "#" ++ "/$self") ≠ .error (.externalReference reference) := by
  have hnamed : (LoadedDocument.ofText selfText).toOption.any (fun loaded =>
      (Uri.ofText? "http://h/d/e").any fun base => (base.resolve? "s").any fun u =>
        decide (u.key ∈ (RegisteredDocument.ofLoaded base loaded).keys) &&
          decide u.ReadsBack) = true := by
    decide +kernel
  cases hload : LoadedDocument.ofText selfText with
  | error fault =>
    rw [hload] at hnamed
    cases hnamed
  | ok loaded =>
    rw [hload] at hnamed
    obtain ⟨_, hloaded, hnamed⟩ := (Option.any_eq_true _ _).mp hnamed
    obtain rfl := Option.some.inj hloaded
    obtain ⟨base, hbase, hnamed⟩ := (Option.any_eq_true _ _).mp hnamed
    obtain ⟨u, hu, hnamed⟩ := (Option.any_eq_true _ _).mp hnamed
    obtain ⟨hkey, hback⟩ := Bool.and_eq_true_iff.mp hnamed
    obtain ⟨r₁, hreplace⟩ :=
      (empty.afterAll [.register "http://h/d/s" selfText]).exists_replace hbase loaded
    obtain ⟨base', place, hbase', -, hplace, -, hself⟩ := locate_self_of_replace _ hreplace
    obtain rfl := Option.some.inj (hbase.symm.trans hbase')
    refine ⟨loaded, base, r₁, place, rfl, hreplace, hplace, ?_⟩
    exact hself _ .v31 "s" "/$self" u (by decide) hu (of_decide_eq_true hkey)
      (of_decide_eq_true hback)

end ApiDescription
