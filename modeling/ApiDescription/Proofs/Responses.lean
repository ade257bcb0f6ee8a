import ApiDescription.Proofs.Operations

/-!
# Responses that were not read

The checks of responses look at those that were read.  What is written under a key may come to
nothing, because a reference leads nowhere or to something else than an object, and then the key is
not looked at.  `Registry.responses_of_bind` says what is reported of the responses of an operation
as they are written: that there are none, if none of them comes to an object, and a key that is no
status code, if what is under it comes to one.
-/

namespace ApiDescription

open Validation

theorem Pointer.push_inj {p q : Pointer} {key other : String} (h : p.push key = q.push other) :
    p = q ∧ key = other := by
  have htokens : p.tokens ++ [token key] = q.tokens ++ [token other] := congrArg Pointer.tokens h
  obtain ⟨hfront, hlast⟩ := List.append_inj' htokens rfl
  have hname : name (token key) = name (token other) := congrArg name (List.cons.inj hlast).1
  cases p
  cases q
  cases hfront
  exact ⟨rfl, by rwa [name_token, name_token] at hname⟩

/-! ## What is found in responses -/

theorem Finding.category_ne_emptyResponses {f : Finding} (h : f.isRead = true) :
    f.category ≠ .emptyResponses := by
  cases f <;> first | (cases h; done) | exact nofun

theorem Diagnostic.Traced.category_ne_emptyResponses {P : Node → Prop} {D : Diagnostic}
    (h : D.Traced P) : D.category ≠ .emptyResponses := by
  obtain ⟨-, hf⟩ := h
  exact Finding.category_ne_emptyResponses hf

variable {S : Setting} {root : Record} {d : Description} {D : Diagnostic}

/-- What is found in the responses of an operation that answers nothing. -/
theorem Description.Finds.of_emptyResponses (h : d.Finds D)
    (hcategory : D.category = .emptyResponses) :
    ∃ o, d.Holds o ∧ o.responses = some [] ∧
      D.document = o.document ∧ D.pointer = o.location.push "responses" := by
  cases h with
  | noResponses ho hnone => exact ⟨_, ho, hnone, rfl, rfl⟩
  | scheme _ _ hf => rcases category_of_schemeFinding? hf with h | h <;> cases h.symm.trans hcategory
  | path _ hf => rcases hf with ⟨_, rfl⟩ | ⟨_, rfl⟩ <;> cases hcategory
  | operation _ hf => rcases hf with ⟨_, _, rfl⟩ | ⟨_, _, _, rfl⟩ <;> cases hcategory
  | parameter _ hf => rcases hf with ⟨_, rfl⟩ | rfl | rfl <;> cases hcategory
  | serverUrl _ hf => rcases hf with rfl | ⟨_, rfl⟩ <;> cases hcategory
  | serverVariable _ _ hf => cases (category_of_variableFinding? hf).symm.trans hcategory
  | discriminator _ _ hf => cases hf.symm.trans hcategory
  | _ => cases hcategory

theorem Description.Finds.of_invalidResponseCode (h : d.Finds D)
    (hcategory : D.category = .invalidResponseCode) :
    ∃ o responses key, d.Holds o ∧ o.responses = some responses ∧ key ∈ responses.map (·.1) ∧
      ¬ ResponseCode key ∧ D.document = o.document ∧
      D.pointer = (o.location.push "responses").push key := by
  rcases h.category with ⟨o, responses, key, ho, hresponses, hkey, hcode, rfl⟩ |
    ⟨document, q, -, hD⟩ | ⟨hother, -⟩
  · refine ⟨o, responses, key, ho, hresponses, hkey, fun hvalid => ?_, rfl, rfl⟩
    exact Bool.false_ne_true (hcode.symm.trans (isResponseCode_iff.mpr hvalid))
  · obtain ⟨scheme, -, f, hf, rfl⟩ := mem_requirement.mp hD
    rcases category_of_schemeFinding? hf with hf | hf <;> cases hf.symm.trans hcategory
  · exact absurd hcategory hother

/-- The report says of a node that it is about a category. -/
def Report.Tells (r : Report) (category : Category) (document : Option String) (p : Pointer) : Prop :=
  ∃ D ∈ r.diagnostics, D.category = category ∧ D.document = document ∧ D.pointer = p

section Told

variable (hwf : S.registry.WellFormed) (hnames : S.registry.NamedApart)
  (h : d.Traced (Node.Sited S) root)
include hwf hnames h

/-- Operations at one node of one document have responses under the same keys. -/
theorem Description.Traced.responseKeys_eq {o o' : Operation} (ho : d.Holds o) (ho' : d.Holds o')
    (hkey : o.key = o'.key) : o.responses.map (·.map (·.1)) = o'.responses.map (·.map (·.1)) := by
  obtain ⟨r, -, hread, hread'⟩ := (h.of_holds ho).exists_read hwf hnames (h.of_holds ho') hkey
  exact hread.responses.trans hread'.responses.symm

variable {found : Report} (hfound : ∀ D ∈ found.diagnostics, D.Traced (Node.Sited S))
include hfound

/-- That an operation answers nothing is reported if and only if no response was read. -/
theorem Description.Traced.tells_emptyResponses_iff {o : Operation} (ho : d.Holds o) :
    (d.validate found).Tells .emptyResponses o.document (o.location.push "responses") ↔
      o.responses.map (·.map (·.1)) = some [] := by
  constructor
  · rintro ⟨D, hD, hcategory, hdocument, hpointer⟩
    rcases Report.mem_extend.mp hD with hread | hproblem
    · exact absurd hcategory (hfound D hread).category_ne_emptyResponses
    · obtain ⟨o', ho', hnone, hdocument', hpointer'⟩ :=
        (Description.finds_of_mem_problems hproblem).of_emptyResponses hcategory
      have hkey : o.key = o'.key := Prod.ext (hdocument.symm.trans hdocument')
        (Pointer.push_inj (hpointer.symm.trans hpointer')).1
      rw [h.responseKeys_eq hwf hnames ho ho' hkey, hnone]
      rfl
  · intro hnone
    obtain ⟨kept, hkept, hkey⟩ :=
      exists_mem_distinctOperations (Description.mem_operations_iff.mpr ho) List.not_mem_nil
    rw [← h.responseKeys_eq hwf hnames (Description.holds_of_mem_allOperations hkept) ho hkey]
      at hnone
    obtain ⟨responses, hresponses, hkeys⟩ := Option.map_eq_some_iff.mp hnone
    obtain rfl := List.map_eq_nil_iff.mp hkeys
    obtain ⟨hdocument, hlocation⟩ := Prod.mk.inj hkey
    refine ⟨(Finding.noResponses kept.method kept.path).diagnostic kept.document
      (kept.location.push "responses"), Report.mem_extend.mpr (.inr ?_), rfl, hdocument,
      congrArg (·.push "responses") hlocation⟩
    exact d.mem_problems_of_responses hkept (mem_responses.mpr (.inl ⟨hresponses, rfl⟩))

/-- That a key is no status code is reported if and only if a response was read under it. -/
theorem Description.Traced.tells_invalidResponseCode_iff {o : Operation} (ho : d.Holds o)
    {responses : List (String × Response)} (hresponses : o.responses = some responses)
    (key : String) :
    (d.validate found).Tells .invalidResponseCode o.document
        ((o.location.push "responses").push key) ↔
      key ∈ responses.map (·.1) ∧ ¬ ResponseCode key := by
  constructor
  · rintro ⟨D, hD, hcategory, hdocument, hpointer⟩
    rcases Report.mem_extend.mp hD with hread | hproblem
    · exact absurd hcategory (hfound D hread).category.1
    · obtain ⟨o', responses', key', ho', hresponses', hkey', hcode, hdocument', hpointer'⟩ :=
        (Description.finds_of_mem_problems hproblem).of_invalidResponseCode hcategory
      obtain ⟨hpush, rfl⟩ := Pointer.push_inj (hpointer.symm.trans hpointer')
      have hkeys := h.responseKeys_eq hwf hnames ho ho' <|
        Prod.ext (hdocument.symm.trans hdocument') (Pointer.push_inj hpush).1
      rw [hresponses, hresponses', Option.map_some, Option.map_some, Option.some.injEq] at hkeys
      exact ⟨hkeys ▸ hkey', hcode⟩
  · rintro ⟨hkey, hcode⟩
    refine ⟨_, Report.mem_extend.mpr (.inr (h.mem_problems_of_badResponse hwf hnames ho hresponses
      hkey ?_)), rfl, rfl, rfl⟩
    exact Bool.eq_false_iff.mpr (mt isResponseCode_iff.mp hcode)

end Told

/-! ## Responses as they are written -/

theorem Record.answeredKeys_eq_nil_iff {fields : List (String × Node)} :
    answeredKeys fields = [] ↔ ∀ field ∈ fields, field.2.behind? = none := by
  simp [answeredKeys]

theorem Record.mem_answeredKeys {fields : List (String × Node)} {key : String} :
    key ∈ answeredKeys fields ↔ ∃ n, (key, n) ∈ fields ∧ n.behind?.isSome := by
  simp [answeredKeys]

/-- Every operation of a description was read at a node.  If its responses are written as an object,
then it is reported that there are none if and only if none of them comes to an object, and a key of
theirs is reported if and only if it is no status code and what is under it comes to an object. -/
theorem Registry.responses_of_bind {r : Registry} {entry : String} {options : Options}
    {version : Version} {declared : String} {report : Report} (hwf : r.WellFormed)
    (hnames : r.NamedApart) (h : r.bind entry options version declared = .ok (d, report))
    {o : Operation} (ho : d.Holds o) :
    ∃ place, r.place? entry = some place ∧ ∃ source : Record,
      source.Sited ⟨r, place, options, version⟩ ∧ o.ReadFrom source ∧
      ∀ inner, (source.field? "responses").bind Node.object? = some inner →
        ((d.validate report).Tells .emptyResponses o.document (o.location.push "responses") ↔
          ∀ field ∈ inner.plainFields, field.2.behind? = none) ∧
        ∀ key, (d.validate report).Tells .invalidResponseCode o.document
            ((o.location.push "responses").push key) ↔
          (∃ n, (key, n) ∈ inner.plainFields ∧ n.behind?.isSome) ∧ ¬ ResponseCode key := by
  obtain ⟨w, hrun, rfl⟩ := exists_run_of_bind h
  obtain ⟨⟨_, place, _, _⟩, root, rfl, hplace, rfl, rfl, hroot, htraced, hfound⟩ :=
    traced_of_run hrun
  obtain ⟨source, hsource, hread⟩ := (htraced.of_holds ho).read
  refine ⟨place, hplace, source, hsource, hread, fun inner hinner => ?_⟩
  have hkeys : o.responses.map (·.map (·.1)) = some (Record.answeredKeys inner.plainFields) := by
    obtain ⟨n, hn, hobject⟩ := Option.bind_eq_some_iff.mp hinner
    rw [hread.responses, Record.responseKeys?, hn, Option.map_some, hobject, Option.elim_some]
  refine ⟨?_, fun key => ?_⟩
  · rw [htraced.tells_emptyResponses_iff hwf hnames hfound.findings ho, hkeys, Option.some.injEq,
      Record.answeredKeys_eq_nil_iff]
  · obtain ⟨responses, hresponses, hsame⟩ := Option.map_eq_some_iff.mp hkeys
    rw [htraced.tells_invalidResponseCode_iff hwf hnames hfound.findings ho hresponses key, hsame,
      Record.mem_answeredKeys]

/-- A description with operations some of whose responses lead nowhere. -/
def Json.unanswered : Json :=
  .object [("openapi", .string "3.1.0"), ("paths", .object [("/a", .object [
    ("get", .object [("responses", .object [("200", .referenceTo "#/nowhere")])]),
    ("put", .object [("responses", .object [("600", .referenceTo "#/nowhere"),
      ("200", .object [("description", .string "")])])])])])]

/-- In `unanswered` the first operation is said to answer nothing, and the key of the second that is
no status code is not found fault with. -/
theorem Registry.responses_of_bind_unanswered :
    (single Json.unanswered).WellFormed ∧ (single Json.unanswered).NamedApart ∧
      ∃ d report, (single Json.unanswered).bind "http://example.invalid/" .standard .v31 "3.1.0" =
          .ok (d, report) ∧
        (∃ o source, d.Holds o ∧ o.location.text = "/paths/~1a/get" ∧ o.ReadFrom source ∧
          ∀ inner, (source.field? "responses").bind Node.object? = some inner →
            ((d.validate report).Tells .emptyResponses o.document
                (o.location.push "responses") ↔
              ∀ field ∈ inner.plainFields, field.2.behind? = none)) ∧
        (d.validate report).diagnostics.map (fun D => (D.category, D.pointer.text)) =
          [(.missingField, ""), (.unresolvedReference, "/paths/~1a/get/responses/200/$ref"),
            (.unresolvedReference, "/paths/~1a/put/responses/600/$ref"),
            (.emptyResponses, "/paths/~1a/get/responses")] := by
  have hwf : (single Json.unanswered).WellFormed := by
    refine wellFormed_single ?_
    simp [Json.unanswered, Json.referenceTo, Json.WellFormed, Json.WellFormedMembers,
      Entries.names]
  have hnames : (single Json.unanswered).NamedApart := List.pairwise_singleton _ _
  have hfound : ((single Json.unanswered).bind "http://example.invalid/" .standard .v31
      "3.1.0").toOption.map (fun left => (left.1.allOperations.head?.map (·.location.text),
        (left.1.validate left.2).diagnostics.map fun D => (D.category, D.pointer.text))) =
      some (some "/paths/~1a/get",
        [(.missingField, ""), (.unresolvedReference, "/paths/~1a/get/responses/200/$ref"),
          (.unresolvedReference, "/paths/~1a/put/responses/600/$ref"),
          (.emptyResponses, "/paths/~1a/get/responses")]) := by decide +kernel
  obtain ⟨⟨d, report⟩, hbind, hfound⟩ := Option.map_eq_some_iff.mp hfound
  obtain ⟨hfirst, hfound⟩ := Prod.mk.inj hfound
  obtain ⟨o, ho, hlocation⟩ := Option.map_eq_some_iff.mp hfirst
  have hholds : d.Holds o := Description.holds_of_mem_allOperations (List.mem_of_mem_head? ho)
  replace hbind := of_toOption_eq_some hbind
  obtain ⟨-, -, source, -, hread, htold⟩ := responses_of_bind hwf hnames hbind hholds
  exact ⟨hwf, hnames, d, report, hbind, ⟨o, source, hholds, hlocation, hread,
    fun inner hinner => (htold inner hinner).1⟩, hfound⟩

end ApiDescription
