import ApiDescription.Proofs.Binding.Places
import ApiDescription.Proofs.Checks
import ApiDescription.Proofs.Import

/-!
# Every operation is checked

Operations are gathered through callbacks to any depth, and of several with one document and one
node only the first is checked.  Nothing is lost: such operations were read from one object, so
they have the same response keys and the same security requirements, though they may differ in
their paths and in the callbacks below them.  So the keys of responses and the schemes of
requirements that are found fault with are exactly the wrong ones of all operations:
`Registry.coversOperations_of_bind`.
-/

namespace ApiDescription

open Validation

/-! ## Status codes -/

/-- What responses may stand under: a status code, a class of status codes, or all others. -/
inductive ResponseCode : String → Prop
  | others : ResponseCode "default"
  | code {n : Nat} (hlow : 100 ≤ n) (hhigh : n ≤ 599) : ResponseCode (toString n)
  | codes {n : Nat} (hlow : 1 ≤ n) (hhigh : n ≤ 5) : ResponseCode (toString n ++ "XX")

/-- A character between two others has a number between theirs. -/
theorem Char.exists_eq_add {low c high : Char} (hlow : low ≤ c) (hhigh : c ≤ high) :
    ∃ i < high.toNat + 1 - low.toNat, c = Char.ofNat (low.toNat + i) := by
  have hlow : low.toNat ≤ c.toNat := hlow
  have hhigh : c.toNat ≤ high.toNat := hhigh
  refine ⟨c.toNat - low.toNat, by omega, ?_⟩
  rw [Nat.add_sub_cancel' hlow, Char.ofNat_toNat]

/-- Three digits are a number. -/
theorem ResponseCode.of_digits : ∀ i < 5, ∀ j < 10, ∀ k < 10,
    String.ofList [Char.ofNat (49 + i), Char.ofNat (48 + j), Char.ofNat (48 + k)] =
      toString (100 * (i + 1) + 10 * j + k) := by
  decide +kernel

theorem ResponseCode.of_class : ∀ i < 5,
    String.ofList [Char.ofNat (49 + i), 'X', 'X'] = toString (i + 1) ++ "XX" := by
  decide +kernel

theorem Validation.isResponseCode_iff {key : String} :
    isResponseCode key = true ↔ ResponseCode key := by
  constructor
  · intro h
    unfold isResponseCode at h
    split at h
    · next a b c hkey =>
      have hkey : key = String.ofList [a, b, c] := by rw [← hkey, String.ofList_toList]
      simp only [Bool.and_eq_true, Bool.or_eq_true, decide_eq_true_eq, Char.isDigit] at h
      obtain ⟨⟨hlow, hhigh⟩, hrest⟩ := h
      obtain ⟨i, hi, rfl⟩ := Char.exists_eq_add hlow hhigh
      rcases hrest with ⟨⟨hb, hb'⟩, hc, hc'⟩ | ⟨rfl, rfl⟩
      · obtain ⟨j, hj, rfl⟩ := Char.exists_eq_add (hb : '0' ≤ b) (hb' : b ≤ '9')
        obtain ⟨k, hk, rfl⟩ := Char.exists_eq_add (hc : '0' ≤ c) (hc' : c ≤ '9')
        replace hi : i < 5 := hi
        replace hj : j < 10 := hj
        replace hk : k < 10 := hk
        rw [hkey]
        refine (ResponseCode.of_digits i hi j hj k hk).symm ▸ .code (by omega) (by omega)
      · replace hi : i < 5 := hi
        rw [hkey]
        exact (ResponseCode.of_class i hi).symm ▸ .codes (by omega) (by omega)
    · rw [of_decide_eq_true h]
      exact .others
  · have hcodes : ∀ n < 600, 100 ≤ n → isResponseCode (toString n) = true := by decide +kernel
    have hclasses : ∀ n < 6, 1 ≤ n → isResponseCode (toString n ++ "XX") = true := by
      decide +kernel
    rintro (_ | ⟨hlow, hhigh⟩ | ⟨hlow, hhigh⟩)
    · rfl
    · exact hcodes _ (by omega) hlow
    · exact hclasses _ (by omega) hlow

/-! ## Declared schemes -/

/-- The tree of the document that a text stands for. -/
def Registry.root? (r : Registry) (entry : String) : Option Json :=
  (r.place? entry).bind fun place => r.documents[place]?.map RegisteredDocument.root

/-- The security scheme that a document declares under a name. -/
def Json.securityScheme? (root : Json) (name : String) : Option Json :=
  ((root.member? "components").bind (·.member? "securitySchemes")).bind (·.member? name)

theorem Entries.mem_names_iff {α : Type} {entries : Entries α} {name : String} :
    name ∈ entries.names ↔ (entries.get? name).isSome := by
  unfold names
  induction entries with
  | nil => simp
  | cons entry rest ih =>
    rw [get?_cons, List.map_cons, List.mem_cons, ih]
    by_cases heq : name = entry.1
    · simp [heq]
    · simp [heq]

namespace Record

/-- What is written in the object in a field. -/
theorem member?_bind_member? (r : Record) (key inner : String) :
    (r.node.value.member? key).bind (·.member? inner) =
      ((r.field? key).bind Node.object?).bind fun c => c.members.get? inner := by
  have hmember : r.node.value.member? key = r.members.get? key := rfl
  rw [hmember, field?]
  cases hvalue : r.members.get? key with
  | none => rfl
  | some value => cases value <;> rfl

/-- The keys of a section are those of the object in it, if there is one. -/
theorem get?_writtenKeys {c : Record} (hnames : c.members.names.Nodup) {key : String}
    (hkey : isExtension key = false) :
    c.writtenKeys.get? key = ((c.members.get? key).bind Json.members?).map Entries.names := by
  unfold writtenKeys
  generalize c.members = members at hnames
  induction members with
  | nil => rfl
  | cons member rest ih =>
    obtain ⟨name, value⟩ := member
    obtain ⟨hnotmem, hrest⟩ := List.nodup_cons.mp hnames
    replace ih := ih hrest
    rw [Entries.get?_cons]
    by_cases heq : key = name
    · subst heq
      -- no later member has the name of this one
      have hnone : Entries.get? rest key = none :=
        Option.not_isSome_iff_eq_none.mp (mt Entries.mem_names_iff.mpr hnotmem)
      rw [if_pos rfl, Option.bind_some]
      cases hmembers : value.members? with
      | none =>
        rw [List.filterMap_cons_none (by simp [hkey, hmembers]), ih, hnone]
        rfl
      | some entries =>
        rw [List.filterMap_cons_some (b := (key, entries.names)) (by simp [hkey, hmembers]),
          Entries.get?_cons, if_pos rfl, Option.map_some]
    · rw [if_neg heq, ← ih, List.filterMap_cons]
      split
      · rfl
      · next entry hentry =>
        have hname : entry.1 = name := by
          dsimp only at hentry
          split at hentry
          · cases hentry
          · obtain ⟨entries, -, rfl⟩ := Option.map_eq_some_iff.mp hentry
            rfl
        rw [Entries.get?_cons, if_neg (hname ▸ heq)]

end Record

variable {S : Setting} {root : Record} {d : Description}

/-- The description declares the security schemes that its document does. -/
theorem Description.Traced.declares_iff (hwf : S.registry.WellFormed) (hroot : root.Sited S)
    (h : d.Traced (Node.Sited S) root) {name : String} :
    d.components.declares "securitySchemes" name = true ↔
      (root.node.value.securityScheme? name).isSome := by
  unfold Components.declares Json.securityScheme?
  rw [h.components.writtenKeys, Record.member?_bind_member?]
  change _ ↔ ((root.componentsRecord?.bind _).bind _).isSome = true
  cases hc : root.componentsRecord? with
  | none => simp
  | some c =>
    have hnames : c.members.names.Nodup := by
      have hvalue := (((Record.of_field?_object? hc).2.2 hroot).value hwf).2
      simp only [Record.node, Json.WellFormed] at hvalue
      exact hvalue.1
    rw [Option.elim_some, Record.get?_writtenKeys hnames (by decide), Option.bind_some]
    cases c.members.get? "securitySchemes" with
    | none => simp
    | some section_ =>
      cases section_ with
      | object entries =>
        simpa [Json.members?, Json.member?] using Entries.mem_names_iff
      | _ => simp [Json.members?, Json.member?]

/-- A scheme that could be read is declared. -/
theorem Description.Traced.declares_of_get? (hwf : S.registry.WellFormed) (hroot : root.Sited S)
    (h : d.Traced (Node.Sited S) root) {name : String}
    (hget : (d.components.securitySchemes.get? name).isSome) :
    d.components.declares "securitySchemes" name = true := by
  obtain ⟨scheme, hscheme⟩ := Option.isSome_iff_exists.mp hget
  obtain ⟨c, inner, hc, hinner, hkey⟩ :=
    h.components.securitySchemes _ (Entries.mem_of_get? hscheme)
  obtain ⟨value, hvalue, hnode⟩ := Option.map_eq_some_iff.mp hinner
  refine (h.declares_iff hwf hroot).mpr ?_
  unfold Json.securityScheme?
  rw [Record.member?_bind_member?]
  change ((root.componentsRecord?.bind _).bind _).isSome = true
  obtain rfl : value = .object inner.members := congrArg Node.value hnode
  rw [hc, Option.bind_some, hvalue, Option.bind_some]
  exact hkey

/-- A scheme is unknown if the document does not declare it, whether or not it could be read. -/
theorem Description.Traced.schemeFinding?_eq_iff (hwf : S.registry.WellFormed)
    (hroot : root.Sited S) (h : d.Traced (Node.Sited S) root) {name : String}
    {scopes : List String} {f : Finding} :
    schemeFinding? d name scopes = some f ∧ f.category = .unknownSecurityScheme ↔
      root.node.value.securityScheme? name = none ∧ f = .unknownScheme name := by
  have hread : (d.components.securitySchemes.get? name).isSome → _ :=
    h.declares_of_get? hwf hroot
  rw [← Option.not_isSome_iff_eq_none, ← h.declares_iff hwf hroot]
  unfold schemeFinding?
  cases hget : d.components.securitySchemes.get? name with
  | none =>
    dsimp only
    split
    · next hdeclared => simp [hdeclared]
    · next hdeclared =>
      constructor
      · rintro ⟨hf, -⟩
        exact ⟨hdeclared, (Option.some.inj hf).symm⟩
      · rintro ⟨-, rfl⟩
        exact ⟨rfl, rfl⟩
  | some scheme =>
    constructor
    · rintro ⟨hf, hcategory⟩
      dsimp only at hf
      split at hf
      · rw [← Option.some.inj hf] at hcategory
        cases hcategory
      · cases hf
    · rintro ⟨hnot, -⟩
      exact absurd (hread (by rw [hget]; rfl)) hnot

/-! ## The checks of operations -/

theorem Finding.category_of_isRead {f : Finding} (h : f.isRead = true) :
    f.category ≠ .invalidResponseCode ∧ f.category ≠ .unknownSecurityScheme := by
  cases f <;> first | (cases h; done) | exact ⟨nofun, nofun⟩

theorem Diagnostic.Traced.category {P : Node → Prop} {D : Diagnostic} (h : D.Traced P) :
    D.category ≠ .invalidResponseCode ∧ D.category ≠ .unknownSecurityScheme := by
  obtain ⟨-, hf⟩ := h
  exact Finding.category_of_isRead hf

theorem Validation.category_of_schemeFinding? {name : String} {scopes : List String} {f : Finding}
    (h : schemeFinding? d name scopes = some f) :
    f.category = .unknownSecurityScheme ∨ f.category = .invalidScopes := by
  unfold schemeFinding? at h
  split at h
  · split at h
    · cases h
    · exact .inl (Option.some.inj h ▸ rfl)
  · split at h
    · exact .inr (Option.some.inj h ▸ rfl)
    · cases h

theorem Validation.category_of_variableFinding? {name field : String} {v : ServerVariable}
    {f : Finding} (h : variableFinding? name v = some (field, f)) :
    f.category = .invalidServer := by
  unfold variableFinding? at h
  split at h
  · cases h
  · split at h
    · cases h
      rfl
    · split at h
      · cases h
      · cases h
        rfl

variable {D : Diagnostic}

/-- What is found is about the key of a response, about a scheme of a requirement, or neither. -/
theorem Description.Finds.category (h : d.Finds D) :
    (∃ o responses key, d.Holds o ∧ o.responses = some responses ∧ key ∈ responses.map (·.1) ∧
      isResponseCode key = false ∧ D = (Finding.badResponseCode key).diagnostic o.document
        ((o.location.push "responses").push key)) ∨
    (∃ document q, d.Requires document q ∧ D ∈ requirement d document q) ∨
      D.category ≠ .invalidResponseCode ∧ D.category ≠ .unknownSecurityScheme := by
  cases h with
  | responseCode ho hresponses hkey hcode =>
    exact .inl ⟨_, _, _, ho, hresponses, hkey, hcode, rfl⟩
  | scheme hq hscheme hf =>
    exact .inr (.inl ⟨_, _, hq, mem_requirement.mpr ⟨_, hscheme, _, hf, rfl⟩⟩)
  | path _ hf => rcases hf with ⟨_, rfl⟩ | ⟨_, rfl⟩ <;> exact .inr (.inr ⟨nofun, nofun⟩)
  | operation _ hf =>
    rcases hf with ⟨_, _, rfl⟩ | ⟨_, _, _, rfl⟩ <;> exact .inr (.inr ⟨nofun, nofun⟩)
  | parameter _ hf => rcases hf with ⟨_, rfl⟩ | rfl | rfl <;> exact .inr (.inr ⟨nofun, nofun⟩)
  | serverUrl _ hf => rcases hf with rfl | ⟨_, rfl⟩ <;> exact .inr (.inr ⟨nofun, nofun⟩)
  | serverVariable _ _ hf =>
    have hcategory := category_of_variableFinding? hf
    exact .inr (.inr ⟨hcategory.trans_ne nofun, hcategory.trans_ne nofun⟩)
  | discriminator _ _ hcategory =>
    exact .inr (.inr ⟨hcategory.trans_ne nofun, hcategory.trans_ne nofun⟩)
  | _ => exact .inr (.inr ⟨nofun, nofun⟩)

theorem Description.mem_problems_of_responses {o : Operation} (ho : o ∈ d.allOperations)
    (hD : D ∈ responses o) : D ∈ d.problems := by
  have hmem : D ∈ Validation.operations d := List.mem_append_right _ (List.mem_flatMap.mpr ⟨o, ho, hD⟩)
  simp only [problems, List.mem_append]
  exact .inl (.inl (.inl (.inl (.inl (.inr hmem)))))

theorem Description.mem_problems_of_security (hD : D ∈ Validation.security d) :
    D ∈ d.problems := by
  simp only [problems, List.mem_append]
  exact .inl (.inl (.inl (.inl (.inr hD))))

section Kept

variable (hwf : S.registry.WellFormed) (hnames : S.registry.NamedApart)
  (h : d.Traced (Node.Sited S) root)
include hwf hnames h

/-- Of every operation one with its key is kept, which was read from the same object. -/
theorem Description.Traced.exists_kept {o : Operation} (ho : d.Holds o) :
    ∃ kept ∈ d.allOperations, kept.document = o.document ∧ kept.location = o.location ∧
      ∃ r : Record, kept.ReadFrom r ∧ o.ReadFrom r := by
  obtain ⟨kept, hkept, heq⟩ :=
    exists_mem_distinctOperations (Description.mem_operations_iff.mpr ho) List.not_mem_nil
  have hholds : d.Holds kept := Description.holds_of_mem_allOperations hkept
  obtain ⟨r, -, hread, hread'⟩ :=
    (h.of_holds hholds).exists_read hwf hnames (h.of_holds ho) heq
  obtain ⟨hdocument, hlocation⟩ := Prod.mk.inj heq
  exact ⟨kept, hkept, hdocument, hlocation, r, hread, hread'⟩

/-- What is found in the responses of any operation is found: one with its key is kept, which has
the same keys of responses. -/
theorem Description.Traced.mem_problems_of_badResponse {o : Operation} (ho : d.Holds o)
    {responses : List (String × Response)} (hresponses : o.responses = some responses)
    {key : String} (hkey : key ∈ responses.map (·.1)) (hcode : isResponseCode key = false) :
    (Finding.badResponseCode key).diagnostic o.document ((o.location.push "responses").push key) ∈
      d.problems := by
  obtain ⟨kept, hkept, hdocument, hlocation, r, hread, hread'⟩ := h.exists_kept hwf hnames ho
  have hkeys := hread'.responses.trans hread.responses.symm
  rw [hresponses, Option.map_some] at hkeys
  obtain ⟨responses', hresponses', hsame⟩ := Option.map_eq_some_iff.mp hkeys.symm
  refine d.mem_problems_of_responses hkept (mem_responses.mpr (.inr ?_))
  exact ⟨responses', key, hresponses', hsame ▸ hkey, hcode, by rw [hdocument, hlocation]⟩

/-- What is found in any requirement is found: where it stands at an operation, one with the key of
the operation is kept, which has the same requirements. -/
theorem Description.Traced.mem_problems_of_requires {document : Option String}
    {q : SecurityRequirement} (hq : d.Requires document q) (hD : D ∈ requirement d document q) :
    D ∈ d.problems := by
  refine d.mem_problems_of_security ?_
  cases hq with
  | everywhere hq => exact List.mem_append_left _ (List.mem_flatMap.mpr ⟨q, hq, hD⟩)
  | operation ho hq =>
    obtain ⟨kept, hkept, hdocument, -, r, hread, hread'⟩ := h.exists_kept hwf hnames ho
    refine List.mem_append_right _ (List.mem_flatMap.mpr ⟨kept, hkept, ?_⟩)
    refine List.mem_flatMap.mpr ⟨q, ?_, hdocument ▸ hD⟩
    rwa [hread.security, ← hread'.security]

end Kept

/-- A report tells of exactly the keys of responses that are no status codes, of all operations of a
description, however deep in callbacks they stand, and of exactly the schemes that a requirement, at
the top or of any operation, names and a document does not declare. -/
structure Report.CoversOperations (r : Report) (d : Description) (root : Json) : Prop where
  responses : ∀ D, D ∈ r.diagnostics ∧ D.category = .invalidResponseCode ↔
    ∃ o responses key, d.Holds o ∧ o.responses = some responses ∧ key ∈ responses.map (·.1) ∧
      ¬ ResponseCode key ∧ D = (Finding.badResponseCode key).diagnostic o.document
        ((o.location.push "responses").push key)
  schemes : ∀ D, D ∈ r.diagnostics ∧ D.category = .unknownSecurityScheme ↔
    ∃ document q name, d.Requires document q ∧ name ∈ q.schemes.names ∧
      root.securityScheme? name = none ∧
        D = (Finding.unknownScheme name).diagnostic document (q.location.push name)

/-- The checks of a description that was bound in a registry whose documents have different names
miss no operation, and invent none. -/
theorem Registry.coversOperations_of_bind {r : Registry} {entry : String} {options : Options}
    {version : Version} {declared : String} {report : Report} (hwf : r.WellFormed)
    (hnames : r.NamedApart) (h : r.bind entry options version declared = .ok (d, report)) :
    ∃ root, r.root? entry = some root ∧ (d.validate report).CoversOperations d root := by
  obtain ⟨w, hrun, rfl⟩ := exists_run_of_bind h
  obtain ⟨S, root, rfl, hplace, -, -, hroot, htraced, hfound⟩ := traced_of_run hrun
  have hsited := Setting.sited_root hroot
  obtain ⟨source, hsource, -, -, hvalue⟩ := Setting.of_root? hroot
  refine ⟨root.node.value, ?_, ⟨fun D => ?_, fun D => ?_⟩⟩
  · rw [root?, hplace, Option.bind_some, hsource, Option.map_some, hvalue]
    rfl
  · constructor
    · rintro ⟨hD, hcategory⟩
      rcases Report.mem_extend.mp hD with hread | hproblem
      · exact absurd hcategory (hfound.findings D hread).category.1
      · rcases (Description.finds_of_mem_problems hproblem).category with
          ⟨o, responses, key, ho, hresponses, hkey, hcode, rfl⟩ | ⟨document, q, -, hq⟩ | hother
        · refine ⟨o, responses, key, ho, hresponses, hkey, fun hvalid => ?_, rfl⟩
          rw [isResponseCode_iff.mpr hvalid] at hcode
          cases hcode
        · obtain ⟨scheme, -, f, hf, rfl⟩ := mem_requirement.mp hq
          rcases category_of_schemeFinding? hf with hf | hf <;> cases hf.symm.trans hcategory
        · exact absurd hcategory hother.1
    · rintro ⟨o, responses, key, ho, hresponses, hkey, hcode, rfl⟩
      refine ⟨Report.mem_extend.mpr (.inr ?_), rfl⟩
      refine htraced.mem_problems_of_badResponse hwf hnames ho hresponses hkey ?_
      exact Bool.eq_false_iff.mpr (mt isResponseCode_iff.mp hcode)
  · constructor
    · rintro ⟨hD, hcategory⟩
      rcases Report.mem_extend.mp hD with hread | hproblem
      · exact absurd hcategory (hfound.findings D hread).category.2
      · rcases (Description.finds_of_mem_problems hproblem).category with
          ⟨o, responses, key, -, -, -, -, rfl⟩ | ⟨document, q, hq, hD⟩ | hother
        · cases hcategory
        · obtain ⟨scheme, hscheme, f, hf, rfl⟩ := mem_requirement.mp hD
          obtain ⟨hnone, rfl⟩ := (htraced.schemeFinding?_eq_iff hwf hsited).mp ⟨hf, hcategory⟩
          exact ⟨document, q, scheme.1, hq, List.mem_map_of_mem hscheme, hnone, rfl⟩
        · exact absurd hcategory hother.2
    · rintro ⟨document, q, name, hq, hname, hnone, rfl⟩
      refine ⟨Report.mem_extend.mpr (.inr ?_), rfl⟩
      obtain ⟨scheme, hscheme, rfl⟩ := List.mem_map.mp hname
      have hf : schemeFinding? d scheme.1 scheme.2 = some (.unknownScheme scheme.1) ∧ _ :=
        (htraced.schemeFinding?_eq_iff hwf hsited).mpr ⟨hnone, rfl⟩
      refine htraced.mem_problems_of_requires hwf hnames hq (mem_requirement.mpr ?_)
      exact ⟨scheme, hscheme, _, hf.1, rfl⟩

/-- A description with an operation in a callback, which answers with an unknown code and requires
an unknown scheme. -/
def Json.calledBack : Json :=
  .object [("openapi", .string "3.1.0"), ("components", .object [("callbacks", .object [
    ("done", .object [("/done", .object [("post", .object [
      ("responses", .object [("6XX", .object [("description", .string "")])]),
      ("security", .array [.object [("key", .array [])]])])])])])])]

/-- In `calledBack` there is one of each. -/
theorem Registry.coversOperations_calledBack :
    (single Json.calledBack).WellFormed ∧ (single Json.calledBack).NamedApart ∧
      ∃ d report root,
        (single Json.calledBack).bind "http://example.invalid/" .standard .v31 "3.1.0" =
          .ok (d, report) ∧
        (d.validate report).CoversOperations d root ∧
        (d.validate report).diagnostics.map Diagnostic.category =
          [.missingField, .invalidResponseCode, .unknownSecurityScheme] := by
  have hwf : (single Json.calledBack).WellFormed := by
    refine wellFormed_single ?_
    simp [Json.calledBack, Json.WellFormed, Json.WellFormedMembers, Json.WellFormedItems,
      Entries.names]
  have hnames : (single Json.calledBack).NamedApart :=
    List.pairwise_singleton _ _
  have hfound : ((single Json.calledBack).bind "http://example.invalid/" .standard .v31
      "3.1.0").toOption.map (fun left =>
        (left.1.validate left.2).diagnostics.map Diagnostic.category) =
      some [.missingField, .invalidResponseCode, .unknownSecurityScheme] := by decide +kernel
  cases hbind : (single Json.calledBack).bind "http://example.invalid/" .standard .v31 "3.1.0" with
  | error fault => simp [hbind, Except.toOption] at hfound
  | ok left =>
    rw [hbind] at hfound
    obtain ⟨root, -, hcovers⟩ := coversOperations_of_bind hwf hnames hbind
    exact ⟨hwf, hnames, left.1, left.2, root, rfl, hcovers, Option.some.inj hfound⟩

end ApiDescription
