import ApiDescription.Proofs.Binding.Places
import ApiDescription.Proofs.Checks
import ApiDescription.Proofs.Outcome

/-!
# Where diagnostics point

A diagnostic names a document and a pointer, and the pointer addresses a node of the document.
There is one exception: a server variable that lists its values and has no default is given the
empty text, and the check of the default reports it as if it were written.

`Description.Finds.located` goes through the rules of the checks one by one; what is found while
binding is about nodes that were read, as `Diagnostic.Traced` says.
-/

namespace ApiDescription

open Validation

/-! ## Findings of the checks -/

/-- A diagnostic is about the default of a server variable that lists values and has no default. -/
inductive Diagnostic.Defaulted (P : Node → Prop) : Diagnostic → Prop
  | intro {v : Record} (hv : P v.node) (henum : v.has "enum" = true)
      (hdefault : v.has "default" = false) (name : String) :
      Defaulted P ((Finding.serverDefaultNotListed "" name).diagnostic v.scope.label
        (v.pointer.push "default"))

theorem Validation.of_variableFinding?_eq_some {name field : String} {v : ServerVariable}
    {f : Finding} (h : variableFinding? name v = some (field, f)) :
    v.enumeration.isSome ∧ (field = "enum" ∨
      field = "default" ∧ f = .serverDefaultNotListed v.defaultValue name) := by
  unfold variableFinding? at h
  split at h
  · cases h
  · next values hvalues =>
    refine ⟨by rw [hvalues]; rfl, ?_⟩
    split at h
    · cases h
      exact .inl rfl
    · split at h
      · cases h
      · cases h
        exact .inr ⟨rfl, rfl⟩

section Located

variable {P : Node → Prop} (hP : Node.Closed P)
include hP

theorem Located.of_member? {n : Node} (hn : P n) {label : Option String}
    (hlabel : n.scope.label = label) {key : String} (h : (n.value.member? key).isSome) :
    Located P label (n.pointer.push key) := by
  obtain ⟨value, hvalue⟩ := Option.isSome_iff_exists.mp h
  obtain ⟨m, hm, hscope, hpointer, -⟩ := hP.of_member? hn hvalue
  exact ⟨m, hm, by rw [hscope, hlabel], hpointer⟩

omit hP in
theorem Located.of_operation {o : Operation} (ho : o.Traced P) : Located P o.document o.location := by
  obtain ⟨r, hr, hread⟩ := ho.read
  rw [hread.document, hread.location]
  exact .of_record hr rfl

/-- The responses of an operation are written. -/
theorem Located.of_responses {o : Operation} (ho : o.Traced P) (h : o.responses.isSome) :
    Located P o.document (o.location.push "responses") := by
  obtain ⟨r, hr, hread⟩ := ho.read
  have hsome : r.responseKeys?.isSome := by rwa [← hread.responses, Option.isSome_map]
  obtain ⟨n, hn⟩ := Option.isSome_iff_exists.mp (Option.isSome_map.symm.trans hsome)
  rw [hread.document, hread.location]
  exact .of_has hP hr rfl (Record.has_of_field? hn)

/-- The key of every response is written. -/
theorem Located.of_responseKey {o : Operation} (ho : o.Traced P)
    {responses : List (String × Response)} (h : o.responses = some responses) {key : String}
    (hkey : key ∈ responses.map (·.1)) :
    Located P o.document ((o.location.push "responses").push key) := by
  obtain ⟨r, hr, hread⟩ := ho.read
  have hkeys := hread.responses
  rw [h, Option.map_some] at hkeys
  obtain ⟨n, hn, hanswered⟩ := Option.map_eq_some_iff.mp hkeys.symm
  obtain ⟨hscope, hpointer⟩ := Record.of_field? hn
  rw [← hanswered] at hkey
  obtain ⟨field, hfield, rfl⟩ := List.mem_map.mp hkey
  have hfield := (List.mem_filter.mp hfield).1
  cases hobject : n.object? with
  | none => simp [hobject] at hfield
  | some inner =>
    rw [hobject, Option.elim_some] at hfield
    obtain ⟨hscope', hpointer', -⟩ := Node.of_object? hobject
    obtain ⟨member, hmember, rfl⟩ := List.mem_map.mp (List.mem_filter.mp hfield).1
    have hinner : P inner.node := Node.node_of_object? hobject ▸ hP.field hr hn
    have hlocated := Located.of_has hP hinner (by rw [hscope', hscope]) (Record.has_of_mem hmember)
    rwa [hpointer', hpointer, ← hread.location, ← hread.document] at hlocated

variable {root : Record} {d : Description} {D : Diagnostic} (hroot : P root.node)
  (hentry : root.scope.label = none) (htop : root.pointer = .root) (h : d.Traced P root)
include hroot hentry htop h

/-- The keys of the components are written. -/
theorem Located.of_writtenKey {entry : String × List String}
    (hmem : entry ∈ d.components.writtenKeys) {key : String} (hkey : key ∈ entry.2) :
    Located P none (((Pointer.root.push "components").push entry.1).push key) := by
  rw [h.components.writtenKeys] at hmem
  cases hc : root.componentsRecord? with
  | none => simp [hc] at hmem
  | some c =>
    rw [hc, Option.elim_some] at hmem
    obtain ⟨n, hn, hobject⟩ := Option.bind_eq_some_iff.mp hc
    obtain ⟨hscope, hpointer⟩ := Record.of_field? hn
    obtain ⟨hscope', hpointer', -⟩ := Node.of_object? hobject
    have hcnode : P c.node := Node.node_of_object? hobject ▸ hP.field hroot hn
    obtain ⟨⟨name, value⟩, hmember, hentries⟩ := List.mem_filterMap.mp hmem
    dsimp only at hentries
    split at hentries
    · cases hentries
    · obtain ⟨entries, hvalue, rfl⟩ := Option.map_eq_some_iff.mp hentries
      obtain ⟨entry, hentry', rfl⟩ := List.mem_map.mp hkey
      cases value with
      | object members =>
        obtain rfl := Option.some.inj hvalue
        have hsection : P (c.child (name, .object members)) := hP.member hcnode hmember
        have hlabel : c.scope.label = none := by rw [hscope', hscope, hentry]
        have hlocated := Located.of_has (r := ⟨c.scope, c.pointer.push name, members⟩) hP hsection hlabel
          (Record.has_of_mem hentry')
        rwa [hpointer', hpointer, htop] at hlocated
      | _ => cases hvalue

omit hP hroot htop in
theorem Description.Serves.traced {document : Option String} {s : Server}
    (hs : d.Serves document s) : s.Traced P document := by
  cases hs with
  | everywhere hs => exact hentry ▸ h.servers s hs
  | item hitem hs => exact (h.items _ hitem).servers s hs
  | operation ho hs => exact (h.of_holds ho).servers s hs

/-- What the checks find is about a node that is written, or about the default of a server variable
that is not. -/
theorem Description.Finds.located (hD : d.Finds D) :
    Located P D.document D.pointer ∨ D.Defaulted P := by
  cases hD with
  | @path entry hpath =>
    have hlocated := h.paths entry hpath
    rw [hentry, htop] at hlocated
    exact .inl hlocated
  | operation ho => exact .inl (.of_operation (h.of_holds ho))
  | parameter hp =>
    cases hp with
    | item hitem hp => exact .inl ((h.items _ hitem).parameters _ hp)
    | operation ho hp => exact .inl ((h.of_holds ho).parameters _ hp)
  | noResponses ho hnone => exact .inl (.of_responses hP (h.of_holds ho) (by rw [hnone]; rfl))
  | responseCode ho hresponses hkey =>
    exact .inl (.of_responseKey hP (h.of_holds ho) hresponses hkey)
  | @scheme document q hq scheme hscheme =>
    -- a requirement is that of the entry document, or that of an operation
    have hq : q.Traced P document := by
      cases hq with
      | everywhere hq => exact hentry ▸ h.security q hq
      | operation ho hq => exact (h.of_holds ho).security q hq
    obtain ⟨r, hr, hlabel, hlocation, hkeys⟩ := hq
    left
    rw [hlocation]
    exact .of_has hP hr hlabel (hkeys scheme hscheme)
  | @tag i tag htag =>
    have hi := Nat.lt_of_lt_of_le (List.getElem?_eq_some_iff.mp htag).1 h.tags
    have hlocated := Located.of_itemsOf hP hroot hentry hi
    rw [htop] at hlocated
    exact .inl hlocated
  | componentKey hmem hkey => exact .inl (.of_writtenKey hP hroot hentry htop h hmem hkey)
  | serverUrl hs =>
    obtain ⟨r, hr, hlabel, hread⟩ := hs.traced hentry h
    left
    rw [hread.location]
    exact .of_has hP hr hlabel hread.url
  | @serverVariable document s hs entry hentry' field f hf =>
    obtain ⟨r, hr, hlabel, hread⟩ := hs.traced hentry h
    obtain ⟨v, hv, hscope, hpointer, hvread⟩ := hread.variableMap entry hentry'
    obtain ⟨hvalues, hfield⟩ := of_variableFinding?_eq_some hf
    have henum := hvread.enumeration hvalues
    rw [hread.location, ← hpointer, ← hlabel, ← hscope]
    rcases hfield with rfl | ⟨rfl, rfl⟩
    · exact .inl (.of_has hP hv rfl henum)
    · -- about a default that is not written there is a finding all the same
      by_cases hdefault : v.has "default" = true
      · exact .inl (.of_has hP hv rfl hdefault)
      · have hdefault := Bool.eq_false_iff.mpr hdefault
        rw [hvread.defaultValue hdefault]
        exact .inr (.intro hv henum hdefault entry.1)
  | closes hs =>
    obtain ⟨n, hn, hsuits⟩ := h.schemas _ _ hs
    left
    rw [hsuits.document, hsuits.location]
    exact ⟨n, hn, rfl, rfl⟩
  | discriminator hs hsome =>
    obtain ⟨n, hn, hsuits⟩ := h.schemas _ _ hs
    left
    rw [hsuits.document, hsuits.location]
    exact .of_member? hP hn rfl (hsuits.shape.discriminator hsome)
  | required hs ho hproperty =>
    obtain ⟨n, hn, hsuits⟩ := h.schemas _ _ hs
    left
    rw [hsuits.document, hsuits.location]
    exact .of_member? hP hn rfl
      (hsuits.shape.required _ ho (List.ne_nil_of_mem hproperty))

end Located

/-! ## Documents -/

/-- The document with a name in diagnostics: the entry document has none, all others are shown by
their keys. -/
inductive Registry.Named (r : Registry) (entry : Json) : Option String → Json → Prop
  | entry : Named r entry none entry
  | other {document : RegisteredDocument} (h : document ∈ r.documents) :
      Named r entry (some (shownKey document.key)) document.root

/-- A diagnostic is about the default of an object that lists values and has no default. -/
inductive Diagnostic.AboutNoDefault (root : Json) : Diagnostic → Prop
  | intro {p : Pointer} {members : Entries Json} (hat : root.at? p = some (.object members))
      (henum : members.contains "enum" = true) (hdefault : members.contains "default" = false)
      (document : Option String) (name : String) :
      AboutNoDefault root ((Finding.serverDefaultNotListed "" name).diagnostic document
        (p.push "default"))

/-- A diagnostic is about a node of the document that it names, or about the default of a server
variable that lists values there and has no default. -/
def Diagnostic.Located (r : Registry) (entry : Json) (D : Diagnostic) : Prop :=
  ∃ root, r.Named entry D.document root ∧
    ((root.at? D.pointer).isSome ∨ D.AboutNoDefault root)

variable {S : Setting} {root : Record} {d : Description} {D : Diagnostic}

theorem Node.Sited.named (hroot : S.root? = some root) {n : Node} (hn : n.Sited S) :
    S.registry.Named root.node.value n.scope.label n.scope.source.root := by
  obtain ⟨source, hsource, -, -, hvalue⟩ := Setting.of_root? hroot
  unfold Scope.label
  split
  · next hentry =>
    have heq := hn.scope.source
    rw [hn.scope.setting] at hentry
    rw [hentry, hsource] at heq
    rw [← Option.some.inj heq, hvalue]
    exact .entry
  · exact .other (List.mem_of_getElem? hn.scope.source)

/-- Everything in the report of a description that was bound and checked is located. -/
theorem Registry.located_of_bind {r : Registry} {entry : String} {options : Options}
    {version : Version} {declared : String} {report : Report} (hwf : r.WellFormed)
    (h : r.bind entry options version declared = .ok (d, report))
    (hD : D ∈ (d.validate report).diagnostics) :
    ∃ place source, r.place? entry = some place ∧ r.documents[place]? = some source ∧
      D.Located r source.root := by
  obtain ⟨w, hrun, rfl⟩ := exists_run_of_bind h
  obtain ⟨S, root, rfl, hplace, -, -, hroot, htraced, hfound⟩ := traced_of_run hrun
  have hsited := Setting.sited_root hroot
  obtain ⟨source, hsource, hscope, hpointer, hvalue⟩ := Setting.of_root? hroot
  refine ⟨S.entry, source, hplace, hsource, ?_⟩
  rw [hvalue]
  have hentry : root.scope.label = none := by
    rw [hscope]
    exact if_pos rfl
  have hlocated : ApiDescription.Located (Node.Sited S) D.document D.pointer ∨
      D.Defaulted (Node.Sited S) := by
    rcases Report.mem_extend.mp hD with hread | hproblem
    · obtain ⟨hn, -⟩ := hfound.findings D hread
      exact .inl ⟨_, hn, rfl, rfl⟩
    · exact (Description.finds_of_mem_problems hproblem).located (Node.closed_sited S) hsited
        hentry hpointer htraced
  rcases hlocated with ⟨n, hn, hlabel, hpointer⟩ | ⟨hv, henum, hdefault, name⟩
  · refine ⟨n.scope.source.root, hlabel ▸ hn.named hroot, .inl ?_⟩
    rw [← hpointer, (hn.value hwf).1]
    rfl
  · exact ⟨_, hv.named hroot, .inr (.intro (hv.value hwf).1 henum hdefault _ name)⟩

/-! ## Imports -/

namespace Importer

variable {i : Importer} {text : String}

/-- What is left out of the report when nothing is checked is no loss. -/
theorem mem_validate_of_mem_checked {d : Description} {found : Report} {D : Diagnostic}
    (h : D ∈ (i.checked d found).diagnostics) : D ∈ (d.validate found).diagnostics := by
  unfold checked at h
  split at h
  · exact h
  · exact Report.mem_extend.mpr (.inl h)

/-- Every diagnostic in the report of an import is about a node of the document that it names, which
is the imported text if it names none; or it is about the default of a server variable that lists
values and has no default. -/
theorem located_of_reports (o : Options) (calls : List (String × String)) {text : String}
    {report : Report} (h : ((ofOptions o).registerAll calls).Reports text report)
    (hread : ¬ ((ofOptions o).registerAll calls).Misreads text) {D : Diagnostic}
    (hD : D ∈ report.diagnostics) :
    ∃ d registry key, LoadedDocument.ofText text = .ok d ∧
      ((ofOptions o).registerAll calls).registry.replace
        ((ofOptions o).registerAll calls).entryUri d = .ok (registry, key) ∧
      D.Located registry d.root := by
  obtain ⟨-, hplaced⟩ := registerAll_spec (ofOptions o) Registry.placed_empty calls
  have hwf := registerAll_wellFormed (ofOptions o) Registry.wellFormed_empty calls
  generalize (ofOptions o).registerAll calls = i at h hread hplaced hwf ⊢
  obtain ⟨d, description, found, hload, hbind, rfl⟩ := h.exists_bind
  obtain ⟨version, declared, registry, key, hversion, hreplace, hbound⟩ := exists_of_bind hbind
  refine ⟨d, registry, key, hload, hreplace, ?_⟩
  obtain ⟨place, source, hplace, hsource, hlocated⟩ := Registry.located_of_bind
    (hwf.replace (LoadedDocument.wellFormed_of_ofText hload) hreplace) hbound
    (mem_validate_of_mem_checked hD)
  -- the document that was bound is the one that was put there
  have hget : registry.places.get? key = some place := by
    by_contra hne
    exact hread ⟨d, _, registry, key, place, hload, hversion, hreplace, hplace, hne⟩
  obtain ⟨-, base, place', -, rfl, hkeeps⟩ := hplaced.replace hreplace
  have hkey := (hkeeps.keys _).mpr (RegisteredDocument.key_mem_keys (.ofLoaded base d))
  obtain rfl : place = place' := Option.some.inj (hget.symm.trans hkey)
  obtain rfl := Option.some.inj (hsource.symm.trans hkeeps.here)
  exact hlocated

/-- The standard options, but references into other documents are not followed. -/
def insularOptions : Options := { Options.standard with resolveExternal := false }

/-- A text with a server variable that lists values and has no default. -/
def noDefaultText : String :=
  "\x7b\"openapi\":\"3.1.0\",\"servers\":[\x7b\"url\":\"/\",\"variables\":\x7b\"v\":\x7b\"enum\":[\"a\"]\x7d\x7d\x7d]\x7d"

/-- One diagnostic for `noDefaultText` is about the default that is not there. -/
theorem located_of_reports_noDefaultText :
    ¬ ((ofOptions insularOptions).registerAll []).Misreads noDefaultText ∧
      ∃ d report, LoadedDocument.ofText noDefaultText = .ok d ∧
        ((ofOptions insularOptions).registerAll []).Reports noDefaultText report ∧
          (∀ D ∈ report.diagnostics, ∃ registry : Registry, D.Located registry d.root) ∧
            report.diagnostics.map (fun D => (D.category, (d.root.at? D.pointer).isSome)) =
              [(.missingField, true), (.missingField, true), (.missingField, true),
                (.invalidServer, false)] := by
  have hread : ¬ ((ofOptions insularOptions).registerAll []).Misreads noDefaultText :=
    (entryReadsBack_of_baseUri_eq_none rfl).not_misreads Registry.placed_empty
  have hfound : ((LoadedDocument.ofText noDefaultText).toOption.bind fun d =>
      ((ofOptions insularOptions).run noDefaultText).toOption.map fun out =>
        out.report.diagnostics.map fun D => (D.category, (d.root.at? D.pointer).isSome)) =
      some [(.missingField, true), (.missingField, true), (.missingField, true),
        (.invalidServer, false)] := by decide +kernel
  refine ⟨hread, ?_⟩
  cases hload : LoadedDocument.ofText noDefaultText with
  | error fault => simp [hload, Except.toOption] at hfound
  | ok d =>
    cases hrun : (ofOptions insularOptions).run noDefaultText with
    | error fault => simp [hload, hrun, Except.toOption] at hfound
    | ok out =>
      rw [hload, hrun] at hfound
      have hreports : ((ofOptions insularOptions).registerAll []).Reports noDefaultText
          out.report := .inl ⟨out, hrun, rfl⟩
      refine ⟨d, out.report, rfl, hreports, fun D hD => ?_, Option.some.inj hfound⟩
      obtain ⟨d', registry, key, hload', -, hlocated⟩ :=
        located_of_reports insularOptions [] hreports hread hD
      obtain rfl := Except.ok.inj (hload.symm.trans hload')
      exact ⟨registry, hlocated⟩

end Importer

end ApiDescription
