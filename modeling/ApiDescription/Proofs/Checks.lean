import ApiDescription.Proofs.Schema.Edges
import ApiDescription.Proofs.Traversal
import ApiDescription.Validation

/-!
# What the checks find

`Description.Finds` has one rule for each kind of finding of the seven checks: which part of a
description it is about, under which condition, and at which node it is reported.  The checks find
nothing else: `Description.finds_of_mem_problems`.
-/

namespace ApiDescription

open Validation

/-! ## Parts of a description -/

/-- A security requirement stands in a description, at the top or at an operation; it is reported in
a document with a name. -/
inductive Description.Requires (d : Description) : Option String → SecurityRequirement → Prop
  | everywhere {q : SecurityRequirement} (h : q ∈ d.security) : Requires d none q
  | operation {o : Operation} {q : SecurityRequirement} (ho : d.Holds o)
      (h : q ∈ o.security.getD []) : Requires d o.document q

/-- A server stands in a description, and is reported in a document with a name. -/
inductive Description.Serves (d : Description) : Option String → Server → Prop
  | everywhere {s : Server} (h : s ∈ d.servers) : Serves d none s
  | item {item : PathItem} {s : Server} (hitem : item ∈ d.allPathItems) (h : s ∈ item.servers) :
      Serves d item.document s
  | operation {o : Operation} {s : Server} (ho : d.Holds o) (h : s ∈ o.servers) :
      Serves d o.document s

/-- A parameter stands in a description, and is reported in a document with a name. -/
inductive Description.Takes (d : Description) : Option String → Parameter → Prop
  | item {item : PathItem} {p : Parameter} (hitem : item ∈ d.allPathItems)
      (h : p ∈ item.parameters) : Takes d item.document p
  | operation {o : Operation} {p : Parameter} (ho : d.Holds o) (h : p ∈ o.parameters) :
      Takes d o.document p

/-! ## Findings of the checks -/

/-- What the checks find, and where. -/
inductive Description.Finds (d : Description) : Diagnostic → Prop
  /-- A path is no template, or has the shape of another. -/
  | path {entry : String × PathItem} (h : entry ∈ d.paths) {f : Finding}
      (hf : (∃ fault, f = .badTemplate entry.1 fault) ∨ ∃ other, f = .pathsConflict entry.1 other) :
      Finds d (f.diagnostic none (pathPointer entry.1))
  /-- A variable of a path is no parameter of an operation, or an identifier is used again. -/
  | operation {o : Operation} (ho : d.Holds o) {f : Finding}
      (hf : (∃ path name, f = .variableUndeclared o.method path name) ∨
        ∃ id method path, f = .operationIdRepeated id method path) :
      Finds d (f.diagnostic o.document o.location)
  /-- A parameter is no variable of its path, may be left out, or is declared twice. -/
  | parameter {document : Option String} {p : Parameter} (h : d.Takes document p) {f : Finding}
      (hf : (∃ path, f = .parameterUnused p.name path) ∨ f = .parameterOptional p.name ∨
        f = .parameterRepeated p.place p.name) :
      Finds d (f.diagnostic document p.location)
  /-- An operation answers nothing. -/
  | noResponses {o : Operation} (ho : d.Holds o) (h : o.responses = some []) :
      Finds d ((Finding.noResponses o.method o.path).diagnostic o.document
        (o.location.push "responses"))
  /-- A response stands under something that is no status code. -/
  | responseCode {o : Operation} (ho : d.Holds o) {responses : List (String × Response)}
      (h : o.responses = some responses) {key : String} (hkey : key ∈ responses.map (·.1))
      (hcode : isResponseCode key = false) :
      Finds d ((Finding.badResponseCode key).diagnostic o.document
        ((o.location.push "responses").push key))
  /-- A scheme that is required is not declared, or has no scopes. -/
  | scheme {document : Option String} {q : SecurityRequirement} (h : d.Requires document q)
      {scheme : String × List String} (hscheme : scheme ∈ q.schemes) {f : Finding}
      (hf : schemeFinding? d scheme.1 scheme.2 = some f) :
      Finds d (f.diagnostic document (q.location.push scheme.1))
  /-- A tag is declared again. -/
  | tag {i : Nat} {tag : Tag} (h : d.tags[i]? = some tag) :
      Finds d ((Finding.tagRepeated tag.name).diagnostic none ((Pointer.root.push "tags").item i))
  /-- A component stands under a key that may not be one. -/
  | componentKey {entry : String × List String} (h : entry ∈ d.components.writtenKeys)
      {key : String} (hkey : key ∈ entry.2) :
      Finds d ((Finding.badComponentKey key entry.1).diagnostic none
        (((Pointer.root.push "components").push entry.1).push key))
  /-- An address has a query or a fragment, or a variable that is not declared. -/
  | serverUrl {document : Option String} {s : Server} (h : d.Serves document s) {f : Finding}
      (hf : f = .serverWithQuery s.url ∨ ∃ name, f = .serverVariableUndeclared s.url name) :
      Finds d (f.diagnostic document (s.location.push "url"))
  /-- The values of a variable of a server do not fit. -/
  | serverVariable {document : Option String} {s : Server} (h : d.Serves document s)
      {entry : String × ServerVariable} (hentry : entry ∈ s.variableMap) {field : String}
      {f : Finding} (hf : variableFinding? entry.1 entry.2 = some (field, f)) :
      Finds d (f.diagnostic document (((s.location.push "variables").push entry.1).push field))
  /-- A reference stands for nothing. -/
  | closes {id : SchemaId} {s : Schema} (h : d.schemas.get? id = some s) {r : Reference}
      (hr : s.shape = .reference r) (hend : d.schemas.follow id = .closed) :
      Finds d ((Finding.referenceCloses r.text).diagnostic s.document s.location)
  /-- The property that tells alternatives apart is not declared. -/
  | discriminator {id : SchemaId} {s : Schema} (h : d.schemas.get? id = some s)
      (hs : s.shape.discriminator?.isSome) {f : Finding} (hf : f.category = .invalidDiscriminator) :
      Finds d (f.diagnostic s.document (s.location.push "discriminator"))
  /-- A property is required that can never be there. -/
  | required {id : SchemaId} {s : Schema} (h : d.schemas.get? id = some s) {o : ObjectShape}
      (ho : s.shape = .object o) {property : String} (hproperty : property ∈ o.required) :
      Finds d ((Finding.requiredUndeclared property).diagnostic s.document
        (s.location.push "required"))

variable {d : Description} {D : Diagnostic}

/-! ## Paths and parameters -/

theorem PathItem.mem_withNested_self (item : PathItem) : item ∈ item.withNested := by
  rw [PathItem.withNested_eq]
  exact List.mem_cons_self

theorem Description.mem_allPathItems_of_path {entry : String × PathItem} (h : entry ∈ d.paths) :
    entry.2 ∈ d.allPathItems := by
  have hpath : entry.2 ∈ withAllNested d.paths := by
    rw [withAllNested_eq]
    exact List.mem_flatMap.mpr ⟨entry, h, entry.2.mem_withNested_self⟩
  exact List.mem_append_left _ (List.mem_append_left _ (List.mem_append_left _ hpath))

theorem Description.holds_of_item {item : PathItem} (hitem : item ∈ d.allPathItems)
    {o : Operation} (ho : o ∈ item.operationList) : d.Holds o :=
  mem_operations_iff.mp (List.mem_flatMap.mpr ⟨item, hitem, ho⟩)

theorem Description.holds_of_mem_allOperations {o : Operation} (h : o ∈ d.allOperations) :
    d.Holds o :=
  mem_operations_iff.mp (mem_of_mem_distinctOperations h)

/-- Something is a diagnostic about a parameter, in one of the ways in which a parameter can be
wrong. -/
theorem Validation.of_mem_pathParameter {path : String} {names : List String}
    {document : Option String} {p : Parameter} (h : D ∈ pathParameter path names document p) :
    ∃ f, ((∃ path, f = Finding.parameterUnused p.name path) ∨ f = .parameterOptional p.name) ∧
      D = f.diagnostic document p.location := by
  unfold pathParameter at h
  split at h
  · rcases List.mem_append.mp h with h | h
    · split at h
      · simp at h
      · exact ⟨_, .inl ⟨path, rfl⟩, List.mem_singleton.mp h⟩
    · split at h
      · simp at h
      · exact ⟨_, .inr rfl, List.mem_singleton.mp h⟩
  · simp at h

theorem Validation.finds_of_mem_pathParameter {path : String} {names : List String}
    {document : Option String} {p : Parameter} (hp : d.Takes document p)
    (h : D ∈ pathParameter path names document p) : d.Finds D := by
  obtain ⟨f, hf, rfl⟩ := of_mem_pathParameter h
  exact .parameter hp (hf.imp_right .inl)

theorem Validation.finds_of_mem_pathParameters {path : String} {item : PathItem}
    {names : List String} (hitem : item ∈ d.allPathItems)
    (h : D ∈ pathParameters path item names) : d.Finds D := by
  unfold pathParameters at h
  rcases List.mem_append.mp h with h | hoperation
  · rcases List.mem_append.mp h with hundeclared | hshared
    · obtain ⟨o, ho, hD⟩ := List.mem_flatMap.mp hundeclared
      obtain ⟨name, -, rfl⟩ := List.mem_map.mp hD
      exact .operation (Description.holds_of_item hitem ho) (.inl ⟨path, name, rfl⟩)
    · obtain ⟨p, hp, hD⟩ := List.mem_flatMap.mp hshared
      exact finds_of_mem_pathParameter (.item hitem hp) hD
  · obtain ⟨o, ho, hD⟩ := List.mem_flatMap.mp hoperation
    obtain ⟨p, hp, hD⟩ := List.mem_flatMap.mp hD
    exact finds_of_mem_pathParameter (.operation (Description.holds_of_item hitem ho) hp) hD

theorem Validation.finds_of_mem_pathKeys {shapes : Entries String} {entries : Entries PathItem}
    (hentries : entries ⊆ d.paths) (h : D ∈ pathKeys shapes entries) : d.Finds D := by
  induction entries generalizing shapes with
  | nil => simp [pathKeys] at h
  | cons first rest ih =>
    have hfirst : first ∈ d.paths := hentries List.mem_cons_self
    have hrest : rest ⊆ d.paths := fun _ hmem => hentries (List.mem_cons_of_mem _ hmem)
    unfold pathKeys at h
    split at h
    · next fault _ =>
      rcases List.mem_cons.mp h with rfl | h
      · exact .path hfirst (.inl ⟨fault, rfl⟩)
      · exact ih hrest h
    · rcases List.mem_append.mp h with h | h
      · rcases List.mem_append.mp h with hconflict | hparameters
        · split at hconflict
          · next other _ =>
            rw [List.mem_singleton.mp hconflict]
            exact .path hfirst (.inr ⟨other, rfl⟩)
          · simp at hconflict
        · exact finds_of_mem_pathParameters (Description.mem_allPathItems_of_path hfirst) hparameters
      · exact ih hrest h

theorem Validation.finds_of_mem_repeatedParameters {document : Option String}
    {before ps : List Parameter} (hps : ∀ p ∈ ps, d.Takes document p)
    (h : D ∈ repeatedParameters document before ps) : d.Finds D := by
  induction ps generalizing before with
  | nil => simp [repeatedParameters] at h
  | cons p rest ih =>
    rw [repeatedParameters] at h
    rcases List.mem_append.mp h with h | h
    · split at h
      · rw [List.mem_singleton.mp h]
        exact .parameter (hps p List.mem_cons_self) (.inr (.inr rfl))
      · simp at h
    · exact ih (fun q hq => hps q (List.mem_cons_of_mem _ hq)) h

theorem Validation.finds_of_mem_paths (h : D ∈ paths d) : d.Finds D := by
  rcases List.mem_append.mp h with hkeys | hlists
  · exact finds_of_mem_pathKeys (fun _ h => h) hkeys
  · obtain ⟨item, hitem, hD⟩ := List.mem_flatMap.mp hlists
    rcases List.mem_append.mp hD with hshared | hown
    · exact finds_of_mem_repeatedParameters (fun p hp => .item hitem hp) hshared
    · obtain ⟨o, ho, hD⟩ := List.mem_flatMap.mp hown
      exact finds_of_mem_repeatedParameters
        (fun p hp => .operation (Description.holds_of_item hitem ho) hp) hD

/-! ## Operations and security -/

theorem Description.holds_of_mem_operationsOf {items : Entries PathItem}
    (hitems : ∀ entry ∈ items, ∀ o, entry.2.Holds o → d.Holds o) {entry : String × Operation}
    (h : entry ∈ operationsOf items) : d.Holds entry.2 := by
  obtain ⟨item, hitem, hmem⟩ := List.mem_flatMap.mp h
  obtain ⟨o, ho, rfl⟩ := List.mem_map.mp hmem
  obtain ⟨own, hown, rfl⟩ := List.mem_map.mp ho
  exact hitems item hitem own.2 (.own hown)

theorem Validation.finds_of_mem_repeatedIds {first : Entries Operation}
    {operations : List Operation} (hoperations : ∀ o ∈ operations, d.Holds o)
    (h : D ∈ repeatedIds first operations) : d.Finds D := by
  induction operations generalizing first with
  | nil => simp [repeatedIds] at h
  | cons o rest ih =>
    have ho := hoperations o List.mem_cons_self
    have hrest : ∀ o ∈ rest, d.Holds o := fun o ho => hoperations o (List.mem_cons_of_mem _ ho)
    unfold repeatedIds at h
    split at h
    · exact ih hrest h
    · split at h
      · rcases List.mem_cons.mp h with rfl | h
        · exact .operation ho (.inr ⟨_, _, _, rfl⟩)
        · exact ih hrest h
      · exact ih hrest h

/-- The diagnostics for the responses of an operation. -/
theorem Validation.mem_responses {o : Operation} :
    D ∈ responses o ↔
      (o.responses = some [] ∧ D = (Finding.noResponses o.method o.path).diagnostic o.document
        (o.location.push "responses")) ∨
      ∃ responses key, o.responses = some responses ∧ key ∈ responses.map (·.1) ∧
        isResponseCode key = false ∧ D = (Finding.badResponseCode key).diagnostic o.document
          ((o.location.push "responses").push key) := by
  unfold Validation.responses
  cases o.responses with
  | none => simp
  | some responses =>
    simp only [List.mem_append, List.mem_map, List.mem_filter, Option.some.injEq]
    constructor
    · rintro (h | ⟨key, ⟨hkey, hcode⟩, rfl⟩)
      · split at h
        · next hempty => exact .inl ⟨List.isEmpty_iff.mp hempty, List.mem_singleton.mp h⟩
        · simp at h
      · exact .inr ⟨responses, key, rfl, hkey, by simpa using hcode, rfl⟩
    · rintro (⟨rfl, rfl⟩ | ⟨_, key, rfl, hkey, hcode, rfl⟩)
      · exact .inl (by simp)
      · exact .inr ⟨key, ⟨hkey, by simpa using hcode⟩, rfl⟩

theorem Validation.finds_of_mem_operations (h : D ∈ operations d) : d.Finds D := by
  rcases List.mem_append.mp h with hids | hresponses
  · refine finds_of_mem_repeatedIds (fun o ho => ?_) hids
    obtain ⟨entry, hentry, rfl⟩ := List.mem_map.mp ho
    rcases List.mem_append.mp hentry with hpath | hwebhook
    · exact Description.holds_of_mem_operationsOf (fun _ hentry _ ho => .path hentry ho) hpath
    · exact Description.holds_of_mem_operationsOf (fun _ hentry _ ho => .webhook hentry ho) hwebhook
  · obtain ⟨o, ho, hD⟩ := List.mem_flatMap.mp hresponses
    have ho := Description.holds_of_mem_allOperations ho
    rcases mem_responses.mp hD with ⟨hnone, rfl⟩ | ⟨_, key, hsome, hkey, hcode, rfl⟩
    · exact .noResponses ho hnone
    · exact .responseCode ho hsome hkey hcode

/-- The diagnostics for a security requirement. -/
theorem Validation.mem_requirement {document : Option String} {q : SecurityRequirement} :
    D ∈ requirement d document q ↔ ∃ scheme ∈ q.schemes, ∃ f,
      schemeFinding? d scheme.1 scheme.2 = some f ∧
        f.diagnostic document (q.location.push scheme.1) = D := by
  simp only [requirement, List.mem_filterMap, Option.map_eq_some_iff]

theorem Validation.finds_of_mem_security (h : D ∈ security d) : d.Finds D := by
  have hfinds : ∀ {document : Option String} {q : SecurityRequirement}, d.Requires document q →
      D ∈ requirement d document q → d.Finds D := by
    intro document q hq hD
    obtain ⟨scheme, hscheme, f, hf, rfl⟩ := mem_requirement.mp hD
    exact .scheme hq hscheme hf
  rcases List.mem_append.mp h with hroot | hoperation
  · obtain ⟨q, hq, hD⟩ := List.mem_flatMap.mp hroot
    exact hfinds (.everywhere hq) hD
  · obtain ⟨o, ho, hD⟩ := List.mem_flatMap.mp hoperation
    obtain ⟨q, hq, hD⟩ := List.mem_flatMap.mp hD
    exact hfinds (.operation (Description.holds_of_mem_allOperations ho) hq) hD

/-! ## Tags, component keys and servers -/

theorem Validation.of_mem_tagsFrom {seen : List String} {place : Nat} {tags : List Tag}
    (h : D ∈ tagsFrom seen place tags) :
    ∃ i tag, tags[i]? = some tag ∧
      D = (Finding.tagRepeated tag.name).diagnostic none
        ((Pointer.root.push "tags").item (place + i)) := by
  induction tags generalizing seen place with
  | nil => simp [tagsFrom] at h
  | cons tag rest ih =>
    rw [tagsFrom] at h
    rcases List.mem_append.mp h with h | h
    · split at h
      · exact ⟨0, tag, rfl, List.mem_singleton.mp h⟩
      · simp at h
    · obtain ⟨i, other, hother, rfl⟩ := ih h
      exact ⟨i + 1, other, hother, by rw [Nat.add_assoc, Nat.add_comm 1 i]⟩

theorem Validation.finds_of_mem_tags (h : D ∈ tags d) : d.Finds D := by
  obtain ⟨i, tag, htag, rfl⟩ := of_mem_tagsFrom h
  rw [Nat.zero_add]
  exact .tag htag

theorem Validation.finds_of_mem_componentKeys (h : D ∈ componentKeys d) : d.Finds D := by
  obtain ⟨entry, hentry, hD⟩ := List.mem_flatMap.mp h
  obtain ⟨key, hkey, rfl⟩ := List.mem_map.mp hD
  exact .componentKey hentry (List.mem_filter.mp hkey).1

theorem Validation.finds_of_mem_server {document : Option String} {s : Server}
    (hs : d.Serves document s) (h : D ∈ server document s) : d.Finds D := by
  unfold server at h
  rcases List.mem_append.mp h with h | hvariable
  · rcases List.mem_append.mp h with hquery | hundeclared
    · split at hquery
      · rw [List.mem_singleton.mp hquery]
        exact .serverUrl hs (.inl rfl)
      · simp at hquery
    · obtain ⟨name, -, rfl⟩ := List.mem_map.mp hundeclared
      exact .serverUrl hs (.inr ⟨name, rfl⟩)
  · obtain ⟨entry, hentry, hD⟩ := List.mem_filterMap.mp hvariable
    obtain ⟨⟨field, f⟩, hf, rfl⟩ := Option.map_eq_some_iff.mp hD
    exact .serverVariable hs hentry hf

theorem Validation.finds_of_mem_servers (h : D ∈ servers d) : d.Finds D := by
  rcases List.mem_append.mp h with h | hoperation
  · rcases List.mem_append.mp h with hroot | hitem
    · obtain ⟨s, hs, hD⟩ := List.mem_flatMap.mp hroot
      exact finds_of_mem_server (.everywhere hs) hD
    · obtain ⟨item, hitem, hD⟩ := List.mem_flatMap.mp hitem
      obtain ⟨s, hs, hD⟩ := List.mem_flatMap.mp hD
      exact finds_of_mem_server (.item hitem hs) hD
  · obtain ⟨o, ho, hD⟩ := List.mem_flatMap.mp hoperation
    obtain ⟨s, hs, hD⟩ := List.mem_flatMap.mp hD
    exact finds_of_mem_server (.operation (Description.holds_of_mem_allOperations ho) hs) hD

/-! ## Schemas -/

theorem SchemaGraph.get?_of_mem_numbered {g : SchemaGraph} {entry : SchemaId × Schema}
    (h : entry ∈ g.numbered) : g.get? entry.1 = some entry.2 := by
  obtain ⟨⟨s, id⟩, hmem, rfl⟩ := List.mem_map.mp h
  exact List.mk_mem_zipIdx_iff_getElem?.mp hmem

/-- What is found about how alternatives are told apart. -/
theorem Validation.exists_of_mem_composedShape {g : SchemaGraph} {id : SchemaId} {s : Schema}
    {c : ComposedShape} (h : D ∈ composedShape g id s c) :
    c.discriminator.isSome ∧ ∃ f : Finding, f.category = .invalidDiscriminator ∧
      D = f.diagnostic s.document (s.location.push "discriminator") := by
  unfold composedShape at h
  cases hd : c.discriminator with
  | none => simp [hd] at h
  | some disc =>
    refine ⟨rfl, ?_⟩
    simp only [hd] at h
    split at h
    · split at h
      · simp at h
      · exact ⟨_, rfl, List.mem_singleton.mp h⟩
    · obtain ⟨other, -, hD⟩ := List.mem_flatMap.mp h
      unfold alternative at hD
      split at hD
      · simp at hD
      · split at hD
        · exact ⟨_, rfl, List.mem_singleton.mp hD⟩
        · simp at hD

/-- What is found about a schema: that as a reference it stands for nothing, how alternatives are told
apart, or a property that can never be there. -/
theorem Validation.cases_of_mem_schemas (h : D ∈ schemas d) :
    ∃ id s, d.schemas.get? id = some s ∧
      ((∃ r, s.shape = .reference r ∧ d.schemas.follow id = .closed ∧
          D = (Finding.referenceCloses r.text).diagnostic s.document s.location) ∨
        (s.shape.discriminator?.isSome ∧ ∃ f : Finding, f.category = .invalidDiscriminator ∧
          D = f.diagnostic s.document (s.location.push "discriminator")) ∨
        ∃ o property, s.shape = .object o ∧ property ∈ o.required ∧
          D = (Finding.requiredUndeclared property).diagnostic s.document
            (s.location.push "required")) := by
  obtain ⟨⟨id, s⟩, hmem, hD⟩ := List.mem_flatMap.mp h
  refine ⟨id, s, SchemaGraph.get?_of_mem_numbered hmem, ?_⟩
  replace hD : D ∈ schema d.schemas id s := hD
  unfold schema at hD
  cases hshape : s.shape with
  | reference r =>
    rw [hshape] at hD
    dsimp only at hD
    unfold reference at hD
    split at hD
    · split at hD
      · next hend => exact .inl ⟨r, rfl, hend, List.mem_singleton.mp hD⟩
      · cases hD
    · cases hD
  | object o =>
    rw [hshape] at hD
    right
    rcases List.mem_append.mp hD with hdiscriminator | hrequired
    · obtain ⟨property, hproperty, rfl⟩ := List.mem_map.mp hdiscriminator
      obtain ⟨disc, hdisc, -⟩ := Option.map_eq_some_iff.mp
        (Option.mem_toList.mp (List.mem_filter.mp hproperty).1)
      exact .inl ⟨by rw [Shape.discriminator?, hdisc, Option.isSome_some], _, rfl, rfl⟩
    · split at hrequired
      · obtain ⟨property, hproperty, rfl⟩ := List.mem_map.mp hrequired
        exact .inr ⟨o, property, rfl, (List.mem_filter.mp hproperty).1, rfl⟩
      · cases hrequired
  | composed c =>
    rw [hshape] at hD
    exact .inr (.inl (exists_of_mem_composedShape hD))
  | _ => simp [hshape] at hD

theorem Validation.finds_of_mem_schemas (h : D ∈ schemas d) : d.Finds D := by
  obtain ⟨id, s, hs, ⟨r, hr, hend, rfl⟩ | ⟨hsome, f, hf, rfl⟩ | ⟨o, property, ho, hproperty, rfl⟩⟩ :=
    cases_of_mem_schemas h
  · exact .closes hs hr hend
  · exact .discriminator hs hsome hf
  · exact .required hs ho hproperty

/-- The checks find nothing but what there is a rule for. -/
theorem Description.finds_of_mem_problems (h : D ∈ d.problems) : d.Finds D := by
  simp only [problems, List.mem_append] at h
  rcases h with (((((h | h) | h) | h) | h) | h) | h
  · exact finds_of_mem_paths h
  · exact finds_of_mem_operations h
  · exact finds_of_mem_security h
  · exact finds_of_mem_tags h
  · exact finds_of_mem_componentKeys h
  · exact finds_of_mem_servers h
  · exact finds_of_mem_schemas h

end ApiDescription
