import Mathlib.Data.List.ReduceOption
import ApiDescription.Proofs.Insular
import ApiDescription.Proofs.Outcome
import ApiDescription.Proofs.Responses

/-!
# Repeated tags

The tags of a description are the items of a list that have a name; what else stands in the list is
left out when it is read.  The check for repeated names comes after that, and it counts the tags
that are left.  So a repetition is reported at the number of named items before it, which is its own
index only if all items before it have names: `Importer.repeatedTags_of_reports`.
-/

namespace ApiDescription

open Binding Validation

/-! ## Counting what is left -/

section Counting

variable {α : Type} {entries : List (Option α)}

/-- The number of entries that are left of those before a place. -/
def leftBefore (entries : List (Option α)) (i : Nat) : Nat := (entries.take i).reduceOption.length

theorem leftBefore_le (entries : List (Option α)) (i : Nat) : leftBefore entries i ≤ i :=
  (List.reduceOption_length_le _).trans (List.length_take_le i entries)

/-- What is left stands where it is counted to. -/
theorem getElem?_reduceOption_iff {j : Nat} {a : α} :
    entries.reduceOption[j]? = some a ↔
      ∃ i, entries[i]? = some (some a) ∧ leftBefore entries i = j := by
  unfold leftBefore
  induction entries generalizing j with
  | nil => simp
  | cons first rest ih =>
    cases first with
    | none =>
      rw [List.reduceOption_cons_of_none, ih]
      constructor
      · rintro ⟨i, hi, hcount⟩
        exact ⟨i + 1, hi, by rwa [List.take_succ_cons, List.reduceOption_cons_of_none]⟩
      · rintro ⟨_ | i, hi, hcount⟩
        · cases hi
        · exact ⟨i, hi, by rwa [List.take_succ_cons, List.reduceOption_cons_of_none] at hcount⟩
    | some b =>
      rw [List.reduceOption_cons_of_some]
      cases j with
      | zero =>
        constructor
        · rintro hb
          exact ⟨0, congrArg some hb, rfl⟩
        · rintro ⟨_ | i, hi, hcount⟩
          · exact Option.some.inj hi
          · simp [List.reduceOption_cons_of_some] at hcount
      | succ j =>
        rw [List.getElem?_cons_succ, ih]
        constructor
        · rintro ⟨i, hi, rfl⟩
          exact ⟨i + 1, hi, by simp [List.reduceOption_cons_of_some]⟩
        · rintro ⟨_ | i, hi, hcount⟩
          · cases hcount
          · exact ⟨i, hi, by simpa [List.reduceOption_cons_of_some] using hcount⟩

/-- What is left of the entries before a place are the first ones that are left. -/
theorem take_leftBefore (entries : List (Option α)) (i : Nat) :
    entries.reduceOption.take (leftBefore entries i) = (entries.take i).reduceOption := by
  have hparts : entries.reduceOption =
      (entries.take i).reduceOption ++ (entries.drop i).reduceOption := by
    rw [← List.reduceOption_append, List.take_append_drop]
  rw [hparts, leftBefore, List.take_left]

/-- An entry that is left counts for those behind it. -/
theorem leftBefore_lt {i i' : Nat} {a : α} (hi : entries[i]? = some (some a)) (hlt : i < i') :
    leftBefore entries i < leftBefore entries i' := by
  have hlength : (entries.take (i + 1)).reduceOption.length ≤
      (entries.take i').reduceOption.length := by
    have hprefix : entries.take (i + 1) <+: entries.take i' := List.take_prefix_take_left hlt
    obtain ⟨rest, hrest⟩ := hprefix
    rw [← hrest, List.reduceOption_append, List.length_append]
    exact Nat.le_add_right _ _
  rw [List.take_add_one, hi, Option.toList_some, List.reduceOption_append, List.length_append]
    at hlength
  exact hlength

/-- A place is the number of the entries that are left before it if nothing before it is dropped. -/
theorem leftBefore_eq_iff {i : Nat} (hi : i < entries.length) :
    leftBefore entries i = i ↔ none ∉ entries.take i := by
  have hlength : (entries.take i).length = i := List.length_take_of_le hi.le
  have hle := leftBefore_le entries i
  rw [← List.reduceOption_length_lt_iff, hlength]
  change leftBefore entries i = i ↔ ¬ leftBefore entries i < i
  omega

end Counting

/-! ## Tags as they are written -/

/-- The names of the items under the tags of a document, for those that have one. -/
def Json.tagNames (root : Json) : List (Option String) :=
  (((root.member? "tags").bind Json.items?).getD []).map fun item =>
    (item.member? "name").bind Json.string?

/-- An item under the tags of a document has a name that an earlier item has. -/
def Json.RepeatsTag (root : Json) (i : Nat) (name : String) : Prop :=
  root.tagNames[i]? = some (some name) ∧ some name ∈ root.tagNames.take i

theorem Record.requiredText?_gives (r : Record) (owner key : String) :
    (r.requiredText? owner key).Gives fun text? =>
      text? = (r.members.get? key).bind Json.string? := by
  unfold requiredText? has Entries.contains text? read?
  cases r.members.get? key with
  | none => exact .bind fun _ => .pure rfl
  | some value =>
    dsimp only [Option.isSome_some, Option.bind_some]
    rw [if_pos rfl]
    cases value.string? with
    | none => exact .bind fun _ => .pure rfl
    | some text => exact .pure rfl

theorem Node.tag?_gives (n : Node) :
    n.tag?.Gives fun tag? => tag?.map Tag.name = (n.value.member? "name").bind Json.string? := by
  refine .bind_of (n.onlyTells_record? "tag").gives fun r? hr => ?_
  rw [n.result_record?, object?] at hr
  subst hr
  cases n.value with
  | object members =>
    refine .bind_of (Record.requiredText?_gives _ _ _) fun name? hname => ?_
    change Gives _ fun tag? : Option Tag =>
      tag?.map Tag.name = (Entries.get? members "name").bind Json.string?
    rw [← hname]
    cases name? with
    | none => exact .pure rfl
    | some name => exact .bind fun _ => .bind fun _ => .pure rfl
  | _ => exact .pure rfl

/-- The values of the items of an array. -/
theorem Node.map_itemNodes {β : Type} (n : Node) (f : Json → β) :
    (n.itemNodes.map fun m => f m.value) = (n.value.items?.getD []).map f := by
  unfold itemNodes
  cases n.value with
  | array items =>
    have hvalues : items.zipIdx.map Prod.fst = items := List.zipIdx_map_fst 0 items
    rw [List.map_map]
    exact (List.map_map (g := f) (f := Prod.fst)).symm.trans (congrArg (List.map f) hvalues)
  | _ => rfl

/-- The tags that are read are the items that have a name. -/
theorem Record.tags_gives (r : Record) :
    r.tags.Gives fun tags => tags.map Tag.name = r.node.value.tagNames.reduceOption := by
  have hcollect : ∀ nodes : List Node, (collect Node.tag? nodes).Gives fun tags =>
      tags.map Tag.name =
        (nodes.map fun n => (n.value.member? "name").bind Json.string?).reduceOption := by
    intro nodes
    induction nodes with
    | nil => exact .pure rfl
    | cons n rest ih =>
      refine .bind_of n.tag?_gives fun tag? htag => .bind_of ih fun tags htags => .pure ?_
      rw [List.map_append, htags, List.map_cons, ← htag]
      cases tag? <;> rfl
  have hmember : r.node.value.member? "tags" = r.members.get? "tags" := rfl
  unfold tags field? Json.tagNames
  rw [hmember]
  cases r.members.get? "tags" with
  | none => exact .pure rfl
  | some value =>
    refine .bind_of (Node.onlyTells_items _ "tags").gives fun nodes hnodes => ?_
    rw [hnodes, Node.result_items]
    have hitems := (r.child ("tags", value)).map_itemNodes fun item =>
      (item.member? "name").bind Json.string?
    have hread := hcollect (r.child ("tags", value)).itemNodes
    rwa [hitems] at hread

theorem Record.description_gives_tags (r : Record) (declared : String) :
    (r.description declared).Gives fun d =>
      d.tags.map Tag.name = r.node.value.tagNames.reduceOption := by
  refine .bind fun _ => .bind fun _ => .bind fun _ => .bind fun _ => .bind fun _ => ?_
  refine .bind fun _ => .bind fun _ => .bind fun _ => .bind fun _ => ?_
  exact .bind_of r.tags_gives fun tags htags => .bind fun _ => .bind fun _ => .pure htags

/-! ## What is reported of them -/

/-- Where the names of tags are repeated, counted from a place. -/
theorem Validation.mem_tagsFrom {seen : List String} {place : Nat} {tags : List Tag}
    {D : Diagnostic} :
    D ∈ tagsFrom seen place tags ↔ ∃ j name, (tags.map Tag.name)[j]? = some name ∧
      (name ∈ seen ∨ name ∈ (tags.map Tag.name).take j) ∧
      D = (Finding.tagRepeated name).diagnostic none
        ((Pointer.root.push "tags").item (place + j)) := by
  induction tags generalizing seen place with
  | nil => simp [tagsFrom]
  | cons tag rest ih =>
    rw [tagsFrom, List.mem_append, ih]
    constructor
    · rintro (h | ⟨j, name, hname, hseen, rfl⟩)
      · split at h
        · next hseen => exact ⟨0, tag.name, rfl, .inl hseen, List.mem_singleton.mp h⟩
        · simp at h
      · refine ⟨j + 1, name, hname, ?_, by rw [Nat.add_assoc, Nat.add_comm 1 j]⟩
        rw [List.map_cons, List.take_succ_cons, List.mem_cons]
        rw [List.mem_cons, or_assoc] at hseen
        exact or_left_comm.mp hseen
    · rintro ⟨_ | j, name, hname, hseen, rfl⟩
      · obtain rfl := Option.some.inj hname
        rw [List.take_zero] at hseen
        exact .inl (by simp [hseen.resolve_right List.not_mem_nil])
      · refine .inr ⟨j, name, hname, ?_, by rw [Nat.add_assoc, Nat.add_comm 1 j]⟩
        rw [List.map_cons, List.take_succ_cons, List.mem_cons] at hseen
        rw [List.mem_cons, or_assoc]
        exact or_left_comm.mp hseen

theorem Finding.category_ne_duplicateTag {f : Finding} (h : f.isRead = true) :
    f.category ≠ .duplicateTag := by
  cases f <;> first | (cases h; done) | exact nofun

theorem Diagnostic.Traced.category_ne_duplicateTag {P : Node → Prop} {D : Diagnostic}
    (h : D.Traced P) : D.category ≠ .duplicateTag := by
  obtain ⟨-, hf⟩ := h
  exact Finding.category_ne_duplicateTag hf

variable {d : Description} {D : Diagnostic}

theorem Description.mem_problems_of_mem_tags (h : D ∈ Validation.tags d) : D ∈ d.problems := by
  simp only [problems, List.mem_append]
  exact .inl (.inl (.inl (.inr h)))

/-- Nothing but a tag is found to be declared again. -/
theorem Description.Finds.exists_tag (h : d.Finds D) (hcategory : D.category = .duplicateTag) :
    d.tags ≠ [] := by
  cases h with
  | tag htag => exact List.ne_nil_of_mem (List.mem_of_getElem? htag)
  | scheme _ _ hf => rcases category_of_schemeFinding? hf with h | h <;> cases h.symm.trans hcategory
  | path _ hf => rcases hf with ⟨_, rfl⟩ | ⟨_, rfl⟩ <;> cases hcategory
  | operation _ hf => rcases hf with ⟨_, _, rfl⟩ | ⟨_, _, _, rfl⟩ <;> cases hcategory
  | parameter _ hf => rcases hf with ⟨_, rfl⟩ | rfl | rfl <;> cases hcategory
  | serverUrl _ hf => rcases hf with rfl | ⟨_, rfl⟩ <;> cases hcategory
  | serverVariable _ _ hf => cases (category_of_variableFinding? hf).symm.trans hcategory
  | discriminator _ _ hf => cases hf.symm.trans hcategory
  | _ => cases hcategory

/-- The check of the tags is the only one to report that a tag is declared again: the others find
the same if there are no tags. -/
theorem Description.mem_problems_and_duplicateTag_iff :
    D ∈ d.problems ∧ D.category = .duplicateTag ↔ D ∈ Validation.tags d := by
  constructor
  · rintro ⟨hD, hcategory⟩
    have hparts : D ∈ Validation.tags d ∨ D ∈ ({ d with tags := [] } : Description).problems := by
      simp only [problems, List.mem_append] at hD ⊢
      rcases hD with (((((h | h) | h) | h) | h) | h) | h
      · exact .inr (.inl (.inl (.inl (.inl (.inl (.inl h))))))
      · exact .inr (.inl (.inl (.inl (.inl (.inl (.inr h))))))
      · exact .inr (.inl (.inl (.inl (.inl (.inr h)))))
      · exact .inl h
      · exact .inr (.inl (.inl (.inr h)))
      · exact .inr (.inl (.inr h))
      · exact .inr (.inr h)
    refine hparts.resolve_right fun hother => ?_
    exact (finds_of_mem_problems hother).exists_tag hcategory rfl
  · intro h
    refine ⟨mem_problems_of_mem_tags h, ?_⟩
    obtain ⟨-, -, -, rfl⟩ := of_mem_tagsFrom h
    rfl

/-- A repetition is reported at the number of the named items before it. -/
theorem Validation.mem_tags_iff {root : Json}
    (hnames : d.tags.map Tag.name = root.tagNames.reduceOption) :
    D ∈ Validation.tags d ↔ ∃ i name, root.RepeatsTag i name ∧
      D = (Finding.tagRepeated name).diagnostic none
        ((Pointer.root.push "tags").item (leftBefore root.tagNames i)) := by
  unfold Validation.tags
  rw [mem_tagsFrom, hnames]
  constructor
  · rintro ⟨j, name, hname, hearlier, rfl⟩
    obtain ⟨i, hi, rfl⟩ := getElem?_reduceOption_iff.mp hname
    have hearlier := hearlier.resolve_left List.not_mem_nil
    rw [take_leftBefore, List.reduceOption_mem_iff] at hearlier
    exact ⟨i, name, ⟨hi, hearlier⟩, by rw [Nat.zero_add]⟩
  · rintro ⟨i, name, ⟨hi, hearlier⟩, rfl⟩
    refine ⟨_, name, getElem?_reduceOption_iff.mpr ⟨i, hi, rfl⟩, .inr ?_, by rw [Nat.zero_add]⟩
    rwa [take_leftBefore, List.reduceOption_mem_iff]

/-- The places of the reports are the places of the repetitions if and only if nothing without a
name stands before a repetition.  If something does before the first such one, the place of its
report is that of no repetition, since repetitions before are reported at their own places. -/
theorem Json.leftBefore_of_repeatsTag_iff (root : Json) :
    (∀ j, (∃ i name, root.RepeatsTag i name ∧ leftBefore root.tagNames i = j) ↔
        ∃ name, root.RepeatsTag j name) ↔
      ∀ i name, root.RepeatsTag i name → none ∉ root.tagNames.take i := by
  have hplace : ∀ {i name}, root.RepeatsTag i name →
      (leftBefore root.tagNames i = i ↔ none ∉ root.tagNames.take i) := fun h =>
    leftBefore_eq_iff (List.getElem?_eq_some_iff.mp h.1).1
  constructor
  · intro h i
    induction i using Nat.strongRecOn with
    | _ i ih =>
      intro name hi
      rw [← hplace hi]
      obtain ⟨other, hreported⟩ := (h (leftBefore root.tagNames i)).mp ⟨i, name, hi, rfl⟩
      by_contra hne
      have hlt := Nat.lt_of_le_of_ne (leftBefore_le root.tagNames i) hne
      have hown := (hplace hreported).mpr (ih _ hlt other hreported)
      have hcounted := leftBefore_lt hreported.1 hlt
      omega
  · intro h j
    constructor
    · rintro ⟨i, name, hi, rfl⟩
      rw [(hplace hi).mpr (h i name hi)]
      exact ⟨name, hi⟩
    · rintro ⟨name, hj⟩
      exact ⟨j, name, hj, (hplace hj).mpr (h j name hj)⟩

theorem Pointer.item_inj {p : Pointer} {i j : Nat} (h : p.item i = p.item j) : i = j := by
  have hindex := congrArg Json.index? (push_inj h).2
  rwa [Json.index?_toString, Json.index?_toString, Option.some.injEq] at hindex

/-! ## Imports -/

namespace Importer

variable {i : Importer} {text : String} {report : Report}

/-- The report of an import comes from a run over the entry document. -/
theorem Reports.exists_run (h : i.Reports text report) :
    ∃ S declared source d w, i.Reads text S declared ∧
      S.registry.documents[S.entry]? = some source ∧ source.run S declared = .ok (d, w) ∧
      report = i.checked d w.report := by
  obtain ⟨loaded, d, found, hload, hbind, rfl⟩ := h.exists_bind
  obtain ⟨S, declared, source, w, hreads, hsource, hrun, rfl⟩ := exists_run_of_bind hload hbind
  exact ⟨S, declared, source, d, w, hreads, hsource, hrun, rfl⟩

/-- The document that is bound is the text, unless the key of the entry document is read as that of
another one. -/
theorem Reads.root_eq {S : Setting} {declared : String} (hplaced : i.registry.Placed)
    (h : i.Reads text S declared) (hread : ¬ i.Misreads text) {root : Record}
    (hroot : S.root? = some root) :
    ∃ d, LoadedDocument.ofText text = .ok d ∧ d.root = root.node.value := by
  obtain ⟨d, key, hload, hversion, hreplace, hplace, -⟩ := h
  obtain ⟨source, hsource, -, -, hvalue⟩ := Setting.of_root? hroot
  have hget : S.registry.places.get? key = some S.entry := by
    by_contra hne
    exact hread ⟨d, _, S.registry, key, S.entry, hload, hversion, hreplace, hplace, hne⟩
  obtain ⟨-, base, place, -, rfl, hkeeps⟩ := hplaced.replace hreplace
  have hkey := (hkeeps.keys _).mpr (RegisteredDocument.key_mem_keys (.ofLoaded base d))
  obtain rfl : S.entry = place := Option.some.inj (hget.symm.trans hkey)
  obtain rfl := Option.some.inj (hsource.symm.trans hkeeps.here)
  exact ⟨d, hload, hvalue⟩

/-- Where a description is checked, every item under its tags that has the name of an earlier one is
reported at the number of the named items before it, and nothing else is.  So the reports are at the
items that repeat names if and only if nothing without a name stands before such an item. -/
theorem repeatedTags_of_reports (o : Options) (hvalidate : o.validate = true)
    (calls : List (String × String))
    (h : ((ofOptions o).registerAll calls).Reports text report) :
    ∃ S declared root, ((ofOptions o).registerAll calls).Reads text S declared ∧
      S.root? = some root ∧
      (¬ ((ofOptions o).registerAll calls).Misreads text →
        ∃ d, LoadedDocument.ofText text = .ok d ∧ d.root = root.node.value) ∧
      (∀ D, D ∈ report.diagnostics ∧ D.category = .duplicateTag ↔
        ∃ i name, root.node.value.RepeatsTag i name ∧
          D = (Finding.tagRepeated name).diagnostic none
            ((Pointer.root.push "tags").item (leftBefore root.node.value.tagNames i))) ∧
      ((∀ i, report.Tells .duplicateTag none ((Pointer.root.push "tags").item i) ↔
          ∃ name, root.node.value.RepeatsTag i name) ↔
        ∀ i name, root.node.value.RepeatsTag i name → none ∉ root.node.value.tagNames.take i) := by
  obtain ⟨hoptions, hplaced⟩ := registerAll_spec (ofOptions o) Registry.placed_empty calls
  generalize (ofOptions o).registerAll calls = i at h hoptions hplaced ⊢
  obtain rfl : i.options = o := hoptions
  obtain ⟨S, declared, source, d, w, hreads, hsource, hrun, rfl⟩ := h.exists_run
  obtain ⟨root, hroot, hfinal⟩ := RegisteredDocument.exists_root_of_run hsource hrun
  obtain ⟨rfl, rfl⟩ := Prod.mk.inj hfinal
  have hnames := root.description_gives_tags declared .fresh
  have hfound := (Record.traces_description (Node.closed_sited S) (Setting.sited_root hroot)
    declared .fresh Workspace.traced_fresh).1.findings
  -- nothing that is found while binding is about a repeated tag
  have hreported : ∀ D, D ∈ (i.checked (root.description declared .fresh).1
        (root.description declared .fresh).2.report).diagnostics ∧ D.category = .duplicateTag ↔
      ∃ j name, root.node.value.RepeatsTag j name ∧
        D = (Finding.tagRepeated name).diagnostic none
          ((Pointer.root.push "tags").item (leftBefore root.node.value.tagNames j)) := by
    intro D
    rw [← mem_tags_iff hnames, ← Description.mem_problems_and_duplicateTag_iff]
    constructor
    · rintro ⟨hD, hcategory⟩
      refine ⟨?_, hcategory⟩
      rcases of_mem_checked hD with hread | ⟨-, hproblem⟩
      · exact absurd hcategory (hfound D hread).category_ne_duplicateTag
      · exact hproblem
    · rintro ⟨hD, hcategory⟩
      exact ⟨mem_checked_of_mem_problems hvalidate hD, hcategory⟩
  refine ⟨S, declared, root, hreads, hroot, fun hread => hreads.root_eq hplaced hread hroot,
    hreported, ?_⟩
  rw [← Json.leftBefore_of_repeatsTag_iff]
  refine forall_congr' fun j => iff_congr ?_ Iff.rfl
  constructor
  · rintro ⟨D, hD, hcategory, -, hpointer⟩
    obtain ⟨k, name, hk, rfl⟩ := (hreported D).mp ⟨hD, hcategory⟩
    exact ⟨k, name, hk, Pointer.item_inj hpointer⟩
  · rintro ⟨k, name, hk, rfl⟩
    obtain ⟨hD, hcategory⟩ := (hreported _).mpr ⟨k, name, hk, rfl⟩
    exact ⟨_, hD, hcategory, rfl, rfl⟩

/-- A text with three items under its tags, of which the first and the last have one name, and the
one between them has none. -/
def unnamedTagText : String :=
  "\x7b\"openapi\":\"3.1.0\",\"tags\":[\x7b\"name\":\"a\"\x7d,5,\x7b\"name\":\"a\"\x7d]\x7d"

/-- For `unnamedTagText` the last item is reported as if it were the one before it. -/
theorem repeatedTags_of_reports_unnamedTagText :
    Options.standard.validate = true ∧
      ∃ report, ((ofOptions .standard).registerAll []).Reports unnamedTagText report ∧
        (∃ root : Json, root.tagNames = [some "a", none, some "a"] ∧ ∀ D,
          D ∈ report.diagnostics ∧ D.category = .duplicateTag ↔
            ∃ i name, root.RepeatsTag i name ∧ D = (Finding.tagRepeated name).diagnostic none
              ((Pointer.root.push "tags").item (leftBefore root.tagNames i))) ∧
        report.Tells .duplicateTag none ((Pointer.root.push "tags").item 1) ∧
        ¬ report.Tells .duplicateTag none ((Pointer.root.push "tags").item 2) := by
  have hfound : ((LoadedDocument.ofText unnamedTagText).toOption.bind fun d =>
      ((ofOptions .standard).run unnamedTagText).toOption.map fun out =>
        (d.root.tagNames, (out.report.diagnostics.filter (·.category = .duplicateTag)).map
          fun D => (D.document, D.pointer))) =
      some ([some "a", none, some "a"], [(none, (Pointer.root.push "tags").item 1)]) := by
    decide +kernel
  obtain ⟨d, hload, hfound⟩ := Option.bind_eq_some_iff.mp hfound
  obtain ⟨out, hrun, hfound⟩ := Option.map_eq_some_iff.mp hfound
  obtain ⟨hnames, htold⟩ := Prod.mk.inj hfound
  replace hload := of_toOption_eq_some hload
  replace hrun := of_toOption_eq_some hrun
  have hreports : ((ofOptions .standard).registerAll []).Reports unnamedTagText out.report :=
    .inl ⟨out, hrun, rfl⟩
  have hread : ¬ ((ofOptions .standard).registerAll []).Misreads unnamedTagText :=
    (entryReadsBack_of_baseUri_eq_none rfl).not_misreads Registry.placed_empty
  obtain ⟨-, -, root, -, -, hroot, hreported, -⟩ := repeatedTags_of_reports .standard rfl [] hreports
  obtain ⟨d', hload', hvalue⟩ := hroot hread
  obtain rfl := Except.ok.inj (hload.symm.trans hload')
  have htells : ∀ p, out.report.Tells .duplicateTag none p ↔
      p = (Pointer.root.push "tags").item 1 := by
    intro p
    have hlisted : out.report.Tells .duplicateTag none p ↔
        (none, p) ∈ (out.report.diagnostics.filter (·.category = .duplicateTag)).map
          fun D => (D.document, D.pointer) := by
      simp only [Report.Tells, List.mem_map, List.mem_filter, decide_eq_true_eq, Prod.mk.injEq,
        and_assoc]
    rw [hlisted, htold, List.mem_singleton, Prod.mk.injEq]
    exact and_iff_right rfl
  refine ⟨rfl, out.report, hreports, ⟨d.root, hnames, ?_⟩, ?_, ?_⟩
  · rwa [hvalue]
  · exact (htells _).mpr rfl
  · rw [htells]
    exact fun heq => nomatch Pointer.item_inj heq

end Importer

end ApiDescription
