import ApiDescription.Proofs.Binding.Description
import ApiDescription.Proofs.Binding.SideBySide

/-!
# Component schemas that are cut off

A schema for which no room is left is not read: a finding says so, and from then on the blank schema
stands for the node wherever it is met.  A component has all the room that there is when its own
turn comes, so it can only be cut off before.  `Registry.chain_of_cut` says how: one of the earlier
components leads to it by exactly as many steps as schemas may be nested deep, through schemas that
are met for the first time.
-/

namespace ApiDescription

open Binding

/-! ## Chains of schemas -/

/-- The schema at a node leads to the schema at another one. -/
def Node.Leads (n m : Node) : Prop := ∃ r : Record, r.node = n ∧ r.Leads m

/-- The schema at a node leads to the one at a site by a number of steps, through the nodes of a
list and without coming to one of them twice. -/
structure Node.Chain (n : Node) (steps : Nat) (site : Site) (rest : List Node) : Prop where
  /-- Each node leads to the next. -/
  leads : (n :: rest).IsChain Node.Leads
  /-- Each step adds a node. -/
  length : rest.length = steps
  /-- The nodes are distinct. -/
  nodup : ((n :: rest).map Node.site).Nodup
  /-- The last node is at the site. -/
  last : ((n :: rest).getLast (List.cons_ne_nil n rest)).site = site

namespace Node.Chain

variable {n m : Node} {steps : Nat} {site : Site} {rest : List Node}

theorem single (n : Node) : n.Chain 0 n.site [] where
  leads := .singleton n
  length := rfl
  nodup := by simp
  last := rfl

theorem cons (h : m.Chain steps site rest) (hleads : n.Leads m)
    (hnew : n.site ∉ (m :: rest).map Node.site) : n.Chain (steps + 1) site (m :: rest) where
  leads := .cons_cons hleads h.leads
  length := congrArg (· + 1) h.length
  nodup := List.nodup_cons.mpr ⟨hnew, h.nodup⟩
  last := by
    rw [List.getLast_cons (List.cons_ne_nil m rest)]
    exact h.last

theorem site_mem (h : n.Chain steps site rest) : ∃ last ∈ n :: rest, last.site = site :=
  ⟨_, List.getLast_mem _, h.last⟩

/-- A chain that ends where it starts has no steps. -/
theorem steps_eq_zero (h : n.Chain steps site rest) (hsite : n.site = site) : steps = 0 := by
  cases rest with
  | nil => exact h.length.symm
  | cons m rest =>
    obtain ⟨hnew, -⟩ := List.nodup_cons.mp h.nodup
    refine absurd ?_ hnew
    rw [hsite, ← h.last, List.getLast_cons (List.cons_ne_nil m rest)]
    exact List.mem_map_of_mem (List.getLast_mem _)

end Node.Chain

/-! ## Cuts -/

/-- The diagnostic says of a node of the entry document that a limit on depth is exceeded, and not
by a chain of references. -/
structure Diagnostic.CutsAt (d : Diagnostic) (p : Pointer) : Prop where
  /-- A limit on depth is exceeded. -/
  category : d.category = .depthLimitExceeded
  /-- The node is in the entry document. -/
  document : d.document = none
  /-- The node is at the pointer. -/
  pointer : d.pointer = p
  /-- It is not about a chain of references. -/
  message (first : String) (limit : Nat) : d.message ≠ (Finding.chainTooLong first limit).message

theorem not_cutsAt_of_ne {f : Finding} (hf : ∀ limit, f ≠ .nestingTooDeep limit)
    (label : Option String) (p q : Pointer) : ¬ (f.diagnostic label p).CutsAt q := by
  intro h
  have hcategory : f.category = .depthLimitExceeded := h.category
  cases f with
  | nestingTooDeep limit => exact hf limit rfl
  | chainTooLong first limit => exact h.message first limit rfl
  | _ => cases hcategory

namespace Workspace

/-- Between two workspaces no slot is lost, and if the node at a pointer was cut off meanwhile, then
for a reason that there was before. -/
structure Cuts (p : Pointer) (reason : Workspace → Prop) (w w' : Workspace) : Prop where
  /-- No slot is lost. -/
  slots (site : Site) (h : w'.slot? site = none) : w.slot? site = none
  /-- What is cut off has been so before, or there is the reason. -/
  cut {d : Diagnostic} (hd : d ∈ w'.report.diagnostics) (hcut : d.CutsAt p) :
    d ∈ w.report.diagnostics ∨ reason w

/-- What holds of a workspace has held as long as there were fewer slots. -/
def Backward (reason : Workspace → Prop) : Prop :=
  ∀ {w w' : Workspace}, (∀ site, w'.slot? site = none → w.slot? site = none) → reason w' → reason w

namespace Cuts

variable {p : Pointer} {reason reason' : Workspace → Prop} {w w' w'' : Workspace}

theorem refl (w : Workspace) : w.Cuts p reason w := ⟨fun _ h => h, fun hd _ => .inl hd⟩

theorem trans (hback : Backward reason) (h : w.Cuts p reason w') (h' : w'.Cuts p reason w'') :
    w.Cuts p reason w'' where
  slots site hsite := h.slots site (h'.slots site hsite)
  cut hd hcut := by
    rcases h'.cut hd hcut with hd' | hreason
    · exact h.cut hd' hcut
    · exact .inr (hback h.slots hreason)

theorem imp (h : w.Cuts p reason w') (himp : ∀ w, reason w → reason' w) : w.Cuts p reason' w' :=
  ⟨h.slots, fun hd hcut => (h.cut hd hcut).imp_right (himp w)⟩

/-- A finding that is not about the depth of schemas cuts nothing off. -/
theorem told (h : w.Cuts p reason w') {f : Finding} (hf : ∀ limit, f ≠ .nestingTooDeep limit)
    (label : Option String) (q : Pointer) : w.Cuts p reason (w'.told f label q) where
  slots := h.slots
  cut hd hcut := by
    rcases List.mem_append.mp hd with hold | hnew
    · exact h.cut hold hcut
    · rw [List.mem_singleton.mp hnew] at hcut
      exact absurd hcut (not_cutsAt_of_ne hf label q p)

end Cuts

end Workspace

/-! ## Schemas -/

namespace Workspace

variable (w : Workspace) (n : Node) (site : Site)

theorem slot?_opening :
    (w.opening n).slot? site =
      if n.site = site then some (.opened w.graph.size) else w.slot? site :=
  w.slot?_cons n.site site _

theorem slot?_closing (id : SchemaId) (s : Schema) :
    (w.closing n id s).slot? site = if n.site = site then some (.bound id) else w.slot? site :=
  w.slot?_cons n.site site _

theorem slot?_cutting :
    (w.cutting n).slot? site = if n.site = site then some (.bound w.graph.size) else w.slot? site :=
  w.slot?_cons n.site site _

end Workspace

section Schemas

variable {S : Setting} {p : Pointer} {reason reason' : Workspace → Prop}

/-- A run beside itself, in which the node at a pointer is cut off only for a reason that there was
at its beginning. -/
def Simulation.cuts (S : Setting) (p : Pointer) (reason : Workspace → Prop) (before : Workspace) :
    Simulation :=
  .beside S (before.Cuts p reason)
    (fun h _ hf label q => h.told (by rintro _ rfl; cases hf) label q)
    fun h _ => ⟨h.slots, h.cut⟩

variable {α : Type} {m : Binding α}

/-- What is cut off by a step, in whatever workspace it begins. -/
def Binding.CutsOff (p : Pointer) (reason : Workspace → Prop) (m : Binding α) : Prop :=
  ∀ w : Workspace, w.Cuts p reason (m w).2

theorem Binding.CutsOff.same (h : m.CutsOff p reason') (himp : ∀ w, reason' w → reason w)
    (hback : Workspace.Backward reason) (before : Workspace) :
    (Simulation.cuts S p reason before).Same m m := by
  refine .of_together (fun _ => id) fun w w' hw => ?_
  obtain ⟨rfl, hbefore⟩ : w' = w ∧ before.Cuts p reason w := hw
  exact ⟨rfl, rfl, hbefore.trans hback ((h w').imp himp)⟩

theorem Binding.CutsOff.of_same (h : ∀ before, (Simulation.cuts S p reason before).Same m m) :
    m.CutsOff p reason := by
  intro w
  have hw : (Simulation.cuts S p reason w).states w w := ⟨rfl, .refl w⟩
  exact ((h w).of_neverParts (fun _ => id) hw).2.2

/-- A chain from a node to a site, of which no schema has been met. -/
def Node.Unmet (n : Node) (steps : Nat) (site : Site) (w : Workspace) : Prop :=
  ∃ rest, n.Chain steps site rest ∧ ∀ m ∈ n :: rest, w.slot? m.site = none

theorem Node.Unmet.backward (n : Node) (steps : Nat) (site : Site) :
    Workspace.Backward (n.Unmet steps site) := by
  rintro w w' hslots ⟨rest, hchain, hunmet⟩
  exact ⟨rest, hchain, fun m hm => hslots m.site (hunmet m hm)⟩

theorem Node.Unmet.slot? {n : Node} {steps : Nat} {site : Site} {w : Workspace}
    (h : n.Unmet steps site w) : w.slot? site = none := by
  obtain ⟨rest, hchain, hunmet⟩ := h
  obtain ⟨last, hmem, rfl⟩ := hchain.site_mem
  exact hunmet last hmem

namespace Node

variable {n : Node} {w : Workspace}

/-- A schema that is read has been met. -/
theorem slot?_schemaWithin_ne_none (room : Nat) (n : Node) (w : Workspace) :
    (n.schemaWithin room w).2.slot? n.site ≠ none := by
  cases h : w.slot? n.site with
  | some slot =>
    rw [schemaWithin_of_met h, h]
    nofun
  | none =>
    cases room with
    | zero =>
      rw [schemaWithin_zero h, Workspace.slot?_cutting, if_pos rfl]
      nofun
    | succ room =>
      rw [schemaWithin_succ h, Workspace.slot?_closing, if_pos rfl]
      nofun

/-- A node for which there is no room is cut off, and no other. -/
theorem cuts_cutting (hn : n.scope.Registered S) (h : w.slot? n.site = none) :
    w.Cuts p (n.Unmet 0 ⟨S.entry, p⟩) ((w.told
      (.nestingTooDeep n.scope.setting.options.maxDepth) n.scope.label n.pointer).cutting n) := by
  refine ⟨fun site hsite => ?_, fun hd hcut => ?_⟩
  · rw [Workspace.slot?_cutting] at hsite
    split at hsite
    · cases hsite
    · exact hsite
  · rcases List.mem_append.mp hd with hold | hnew
    · exact .inl hold
    -- the finding is about the node itself
    rw [List.mem_singleton.mp hnew] at hcut
    have hlabel : n.scope.label = none := hcut.document
    have hpointer : n.pointer = p := hcut.pointer
    have hplace : n.scope.place = S.entry := by
      by_contra hne
      rw [Scope.label, hn.setting, if_neg hne] at hlabel
      cases hlabel
    have hsite : n.site = ⟨S.entry, p⟩ := by rw [Node.site, hplace, hpointer]
    refine .inr ⟨[], hsite ▸ .single n, fun m hm => ?_⟩
    rw [List.mem_singleton.mp hm]
    exact h

/-- What is cut off while the schema at a node is open is one step further from the node than from
where the node leads. -/
theorem cuts_closing {w' : Workspace} {room : Nat} (h : w.slot? n.site = none)
    (hcuts : (w.opening n).Cuts p (fun w => ∃ m, n.Leads m ∧ m.Unmet room ⟨S.entry, p⟩ w) w')
    (id : SchemaId) (s : Schema) :
    w.Cuts p (n.Unmet (room + 1) ⟨S.entry, p⟩) (w'.closing n id s) := by
  have hslots : ∀ site, (w.opening n).slot? site = none → n.site ≠ site ∧ w.slot? site = none := by
    intro site hsite
    rw [Workspace.slot?_opening] at hsite
    split at hsite
    · cases hsite
    · next hne => exact ⟨hne, hsite⟩
  refine ⟨fun site hsite => ?_, fun hd hcut => ?_⟩
  · rw [Workspace.slot?_closing] at hsite
    split at hsite
    · cases hsite
    · exact (hslots site (hcuts.slots site hsite)).2
  · rcases hcuts.cut hd hcut with hold | ⟨m, hleads, rest, hchain, hunmet⟩
    · exact .inl hold
    -- the node is met while it is open, so the chain below does not come back to it
    refine .inr ⟨m :: rest, hchain.cons hleads fun hmem => ?_, fun m' hm' => ?_⟩
    · obtain ⟨m', hm', hsite⟩ := List.mem_map.mp hmem
      exact (hslots m'.site (hunmet m' hm')).1 hsite.symm
    · rcases List.mem_cons.mp hm' with rfl | hrest
      · exact h
      · exact (hslots m'.site (hunmet m' hrest)).2

/-- A node is cut off only if the schema that is read leads to it by as many steps as there is
room for. -/
theorem cutsOff_schemaWithin (room : Nat) (hn : n.scope.Registered S) :
    (n.schemaWithin room).CutsOff p (n.Unmet room ⟨S.entry, p⟩) := by
  induction room generalizing n with
  | zero =>
    intro w
    cases h : w.slot? n.site with
    | some slot =>
      rw [schemaWithin_of_met h]
      exact .refl w
    | none =>
      rw [schemaWithin_zero h]
      exact cuts_cutting hn h
  | succ room ih =>
    intro w
    cases h : w.slot? n.site with
    | some slot =>
      rw [schemaWithin_of_met h]
      exact .refl w
    | none =>
      rw [schemaWithin_succ h]
      refine cuts_closing h (Binding.CutsOff.of_same (S := S) (fun before => ?_) _) _ _
      refine Simulation.same_schemaHere hn fun r hr m hm hknown => ?_
      refine (ih hknown).same (fun w hw => ⟨m, ⟨r, hr, hm⟩, hw⟩) ?_ before
      rintro w w' hslots ⟨m, hleads, hunmet⟩
      exact ⟨m, hleads, Node.Unmet.backward _ _ _ hslots hunmet⟩

end Node

end Schemas

/-! ## Descriptions -/

section Descriptions

variable {S : Setting} {p : Pointer} {α β : Type}

/-- From workspaces of one kind, the step leads to workspaces of another one. -/
def Binding.Takes (P P' : Workspace → Prop) (m : Binding α) : Prop :=
  ∀ w, P w → P' (m w).2

theorem Binding.Takes.bind {P P' P'' : Workspace → Prop} {m : Binding α} {f : α → Binding β}
    (hm : m.Takes P P') (hf : ∀ a, (f a).Takes P' P'') : (m >>= f).Takes P P'' :=
  fun w hw => hf _ _ (hm w hw)

/-- The node at the pointer is not cut off. -/
def Workspace.Clean (p : Pointer) (w : Workspace) : Prop := ∀ d ∈ w.report.diagnostics, ¬ d.CutsAt p

/-- The schema at the pointer has been met, and if it was cut off, then for a reason. -/
structure Workspace.Sealed (S : Setting) (p : Pointer) (reason : Prop) (w : Workspace) : Prop where
  /-- The schema has been met. -/
  met : w.slot? ⟨S.entry, p⟩ ≠ none
  /-- It was cut off for the reason, if at all. -/
  cut {d : Diagnostic} (hd : d ∈ w.report.diagnostics) (hcut : d.CutsAt p) : reason

open Workspace (Clean Sealed)

theorem Binding.CutsOff.clean {m : Binding α} (h : m.CutsOff p fun _ => False) :
    m.Takes (Clean p) (Clean p) := by
  intro w hw d hd hcut
  rcases (h w).cut hd hcut with hold | hfalse
  · exact hw d hold hcut
  · exact hfalse

theorem Binding.CutsOff.sealed {reason : Prop} {m : Binding α}
    (h : m.CutsOff p fun w => w.slot? ⟨S.entry, p⟩ = none) :
    m.Takes (Sealed S p reason) (Sealed S p reason) := by
  intro w hw
  refine ⟨fun hnone => hw.met ((h w).slots _ hnone), fun hd hcut => ?_⟩
  rcases (h w).cut hd hcut with hold | hnone
  · exact hw.cut hold hcut
  · exact absurd hnone hw.met

/-- What is read outside of schemas, beside itself. -/
def Rerun.cuts (S : Setting) (p : Pointer) (before : Workspace) : Rerun where
  toSimulation := .cuts S p (fun w => w.slot? ⟨S.entry, p⟩ = none) before
  setting := S
  setting' := S
  registered h := h
  registered' h := h
  source _ := rfl
  schema hn := (Node.cutsOff_schemaWithin _ hn).same (fun _ h => h.slot?)
    (fun hslots h => hslots _ h) before
  responseText? {r} hr := by
    have htell : (r.tell (.missing "response" "description")).CutsOff p fun _ => False :=
      fun w => (Workspace.Cuts.refl w).told (fun _ => Finding.noConfusion) _ _
    exact Tandem.same_responseText? hr rfl
      (htell.same (fun _ h => h.elim) (fun hslots h => hslots _ h) before)

theorem Binding.collect_append (step : α → Binding (Option β)) (l l' : List α) (w : Workspace) :
    (collect step (l ++ l') w).2 = (collect step l' (collect step l w).2).2 := by
  induction l generalizing w with
  | nil => rfl
  | cons a rest ih => exact ih (step a w).2

section Components

variable {r : Record} {n : Node}

theorem Node.cutsOff_namedSchema (hn : n.scope.Registered S) (name : String) :
    (Record.namedSchema name n).CutsOff p (n.Unmet S.options.maxDepth ⟨S.entry, p⟩) := by
  refine .of_same (S := S) fun before => ?_
  unfold Record.namedSchema SchemaReader.namedSchema Node.schema
  rw [hn.setting]
  refine Tandem.Same.bind ?_ fun id => (Simulation.same_rename id name).bind fun _ => .pure _
  exact (cutsOff_schemaWithin _ hn).same (fun _ h => h) (Node.Unmet.backward _ _ _) before

/-- One of the components leads to the schema that is cut off. -/
theorem cutsOff_namedSchemas {fields : List (String × Node)}
    (hfields : ∀ field ∈ fields, field.2.scope.Registered S) :
    (Record.readFields fields Record.namedSchema).CutsOff p fun w =>
      ∃ field ∈ fields, field.2.Unmet S.options.maxDepth ⟨S.entry, p⟩ w := by
  refine .of_same (S := S) fun before => ?_
  have hback : Workspace.Backward fun w =>
      ∃ field ∈ fields, field.2.Unmet S.options.maxDepth ⟨S.entry, p⟩ w := by
    rintro w w' hslots ⟨field, hfield, hunmet⟩
    exact ⟨field, hfield, Node.Unmet.backward _ _ _ hslots hunmet⟩
  let t := (Simulation.cuts S p (fun w =>
    ∃ field ∈ fields, field.2.Unmet S.options.maxDepth ⟨S.entry, p⟩ w) before).toTandem
  have hread : t.Same (Record.readFields fields Record.namedSchema)
      (Record.readFields (fields.map fun field => (field.1, t.node field.2)) Record.namedSchema) :=
    Tandem.same_readFields fun field hfield =>
      (Node.cutsOff_namedSchema (hfields field hfield) field.1).same
        (fun w hw => ⟨field, hfield, hw⟩) hback before
  have hfields : fields.map (fun field => (field.1, t.node field.2)) = fields := List.map_id _
  rwa [hfields] at hread

/-- A component that there is room for is cut off only if one of the components before it leads to
it. -/
theorem takes_namedSchemas (hdepth : S.options.maxDepth ≠ 0) {front back : List (String × Node)}
    {field : String × Node}
    (hfields : ∀ other ∈ front ++ field :: back, other.2.scope.Registered S)
    (hsite : field.2.site = ⟨S.entry, p⟩) :
    (Record.readFields (front ++ field :: back) Record.namedSchema).Takes (Clean p)
      (Sealed S p (∃ earlier ∈ front, ∃ rest,
        earlier.2.Chain S.options.maxDepth ⟨S.entry, p⟩ rest)) := by
  intro w hw
  have hfield : field.2.scope.Registered S := hfields field (by simp)
  unfold Record.readFields
  rw [Binding.collect_append]
  have hfront := cutsOff_namedSchemas (p := p) (fun other hother =>
    hfields other (List.mem_append_left _ hother)) w
  have hback := cutsOff_namedSchemas (p := p) (fun other hother =>
    hfields other (List.mem_append_right front (List.mem_cons_of_mem field hother)))
  unfold Record.readFields at hfront
  generalize (Binding.collect _ front w).2 = w₁ at hfront
  have hhere := Node.cutsOff_namedSchema (p := p) hfield field.1 w₁
  change Sealed S p _
    (Record.readFields back Record.namedSchema (Record.namedSchema field.1 field.2 w₁).2).2
  refine Binding.CutsOff.sealed (fun w₂ => (hback w₂).imp ?_) _ ⟨?_, ?_⟩
  · rintro w ⟨other, -, hunmet⟩
    exact hunmet.slot?
  · rw [← hsite]
    exact Node.slot?_schemaWithin_ne_none _ field.2 w₁
  · intro d hd hcut
    rcases hhere.cut hd hcut with hold | ⟨rest, hchain, -⟩
    · rcases hfront.cut hold hcut with hbefore | ⟨earlier, hearlier, rest, hchain, -⟩
      · exact absurd hcut (hw d hbefore)
      · exact ⟨earlier, hearlier, rest, hchain⟩
    · exact absurd (hchain.steps_eq_zero hsite) hdepth

end Components

section Root

variable {r c : Record} {front back : List (String × Node)} {field : String × Node}

theorem takes_components (hdepth : S.options.maxDepth ≠ 0) (hc : c.node.Inside S)
    (hcomponents : r.field? "components" = some c.node)
    (hfields : c.fieldsOf "schemas" = front ++ field :: back)
    (hsite : field.2.site = ⟨S.entry, p⟩) :
    r.components.Takes (Clean p) (Sealed S p (∃ earlier ∈ front, ∃ rest,
      earlier.2.Chain S.options.maxDepth ⟨S.entry, p⟩ rest)) := by
  have hparts : r.components = c.componentSchemas >>= c.componentsWith := by
    unfold Record.components Readers.componentsOf
    rw [hcomponents]
    rfl
  have hschemas : c.componentSchemas =
      Record.readFields (front ++ field :: back) Record.namedSchema := by
    unfold Record.fieldsOf at hfields
    cases hinner : (c.field? "schemas").bind Node.object? with
    | none => simp [hinner] at hfields
    | some entries =>
      rw [hinner, Option.elim_some] at hfields
      obtain ⟨n, hn, hentries⟩ := Option.bind_eq_some_iff.mp hinner
      obtain rfl := Node.node_of_object? hentries
      unfold Record.componentSchemas SchemaReader.componentSchemas Record.record?
      rw [hn, ← hfields]
      rfl
  have hregistered : ∀ other ∈ front ++ field :: back, other.2.scope.Registered S := by
    intro other hother
    have hscope := (Record.of_mem_fieldsOf (hfields ▸ hother)).1
    exact hscope ▸ hc.scope
  rw [hparts, hschemas]
  refine (takes_namedSchemas hdepth hregistered hsite).bind fun schemas => ?_
  exact CutsOff.sealed (.of_same (S := S) fun before =>
    Rerun.same_componentsWith (t := Rerun.cuts S p before) ⟨hc.scope, hc⟩ schemas)

theorem takes_description (hdepth : S.options.maxDepth ≠ 0) (hr : r.node.Inside S)
    (hcomponents : r.field? "components" = some c.node)
    (hfields : c.fieldsOf "schemas" = front ++ field :: back)
    (hsite : field.2.site = ⟨S.entry, p⟩) (declared : String) :
    (r.description declared).Takes (Clean p) (Sealed S p (∃ earlier ∈ front, ∃ rest,
      earlier.2.Chain S.options.maxDepth ⟨S.entry, p⟩ rest)) := by
  have hscope : r.scope.Registered S := hr.scope
  have hinside : Inherited (Node.Inside S) := fun h hmem => h.child hmem
  have hc : c.node.Inside S := hinside.field hr hcomponents
  refine (CutsOff.clean (.of_same (S := S) fun _ => Tandem.same_checkDeclaration hscope _)).bind
    fun _ => ?_
  refine (CutsOff.clean (.of_same (S := S) fun _ => Tandem.same_info hscope)).bind fun info => ?_
  refine (CutsOff.clean (.of_same (S := S) fun _ => Tandem.same_jsonSchemaDialect? hscope)).bind
    fun dialect => ?_
  refine (CutsOff.clean (.of_same (S := S) fun _ => Tandem.same_servers hscope)).bind
    fun servers => ?_
  refine (takes_components hdepth hc hcomponents hfields hsite).bind fun components => ?_
  exact CutsOff.sealed (.of_same (S := S) fun before =>
    Rerun.same_descriptionWith (t := Rerun.cuts S p before) ⟨hscope, hr⟩ declared info dialect
      servers components)

end Root

end Descriptions

/-! ## Components -/

/-- The nodes of the component schemas of the entry document, by name. -/
def Setting.componentSchemas (S : Setting) : List (String × Node) :=
  (S.root?.bind fun root => (root.field? "components").bind Node.object?).elim []
    (·.fieldsOf "schemas")

/-- The pointer to the component schema of a name. -/
def Pointer.componentSchema (name : String) : Pointer :=
  ((Pointer.root.push "components").push "schemas").push name

/-- A component schema is a field of an object in the components of the root. -/
theorem Setting.exists_of_mem_componentSchemas {S : Setting} {field : String × Node}
    (h : field ∈ S.componentSchemas) :
    ∃ (source : RegisteredDocument) (root c : Record),
      S.registry.documents[S.entry]? = some source ∧
      root.node = ⟨⟨S, S.entry, source⟩, .root, source.root⟩ ∧
        root.field? "components" = some c.node ∧ S.componentSchemas = c.fieldsOf "schemas" := by
  unfold componentSchemas at h ⊢
  cases hc : S.root?.bind fun root => (root.field? "components").bind Node.object? with
  | none => simp [hc] at h
  | some c =>
    obtain ⟨root, hroot, hobject⟩ := Option.bind_eq_some_iff.mp hc
    obtain ⟨source, hsource, hentry⟩ := Option.bind_eq_some_iff.mp hroot
    obtain ⟨n, hn, hnode⟩ := Option.bind_eq_some_iff.mp hobject
    obtain rfl := Node.node_of_object? hnode
    exact ⟨source, root, c, hsource, Node.node_of_object? hentry, hn, rfl⟩

theorem Setting.site_of_mem_componentSchemas {S : Setting} {field : String × Node}
    (h : field ∈ S.componentSchemas) : field.2.site = ⟨S.entry, .componentSchema field.1⟩ := by
  obtain ⟨source, root, c, -, hroot, hcomponents, hfields⟩ := exists_of_mem_componentSchemas h
  obtain ⟨hscope, hpointer, -⟩ :
      root.scope = ⟨S, S.entry, source⟩ ∧ root.pointer = .root ∧ _ := by
    simpa only [Record.node, Node.mk.injEq] using hroot
  have hc := Record.of_field? hcomponents
  have hfield := Record.of_mem_fieldsOf (hfields ▸ h)
  have hat : field.2.scope.place = S.entry := by
    rw [hfield.1, show c.scope = root.scope from hc.1, hscope]
  have hunder : field.2.pointer = .componentSchema field.1 := by
    rw [hfield.2, show c.pointer = root.pointer.push "components" from hc.2, hpointer]
    rfl
  rw [Node.site, hat, hunder]

/-- What the report says of a component schema when a document is bound. -/
theorem RegisteredDocument.sealed_of_bind {S : Setting} (hdepth : S.options.maxDepth ≠ 0)
    {front back : List (String × Node)} {field : String × Node}
    (hfields : S.componentSchemas = front ++ field :: back) {source : RegisteredDocument}
    (hsource : S.registry.documents[S.entry]? = some source) {declared : String} {d : Description}
    {report : Report} (h : source.bind S declared = .ok (d, report)) {f : Diagnostic}
    (hf : f ∈ report.diagnostics) (hcut : f.CutsAt (.componentSchema field.1)) :
    ∃ earlier ∈ front, ∃ rest,
      earlier.2.Chain S.options.maxDepth ⟨S.entry, .componentSchema field.1⟩ rest := by
  have hmem : field ∈ S.componentSchemas := by
    rw [hfields]
    exact List.mem_append_right front List.mem_cons_self
  obtain ⟨source', ⟨scope, pointer, members⟩, c, hsource', hroot, hcomponents, hparts⟩ :=
    Setting.exists_of_mem_componentSchemas hmem
  obtain rfl := Option.some.inj (hsource.symm.trans hsource')
  obtain ⟨rfl, rfl, hvalue⟩ : scope = ⟨S, S.entry, source⟩ ∧ pointer = .root ∧
      Json.object members = source.root := by
    simpa only [Record.node, Node.mk.injEq] using hroot
  unfold bind Readers.bind at h
  rw [← hvalue] at h
  have hinside : Node.Inside S ⟨⟨S, S.entry, source⟩, .root, .object members⟩ :=
    ⟨⟨rfl, hsource⟩, hvalue ▸ .root⟩
  have hsealed := takes_description (r := ⟨⟨S, S.entry, source⟩, .root, members⟩) hdepth hinside
    hcomponents (hparts.symm.trans hfields) (Setting.site_of_mem_componentSchemas hmem) declared
    .fresh fun d hd _ => absurd hd List.not_mem_nil
  obtain ⟨-, rfl⟩ := Prod.mk.inj (Except.ok.inj h)
  exact hsealed.cut hf hcut

/-- If a component schema is cut off, then one of the components before it leads to it by as many
steps as schemas may be nested deep, through distinct nodes.  Besides, the limit on depth can only
be exceeded there by a chain of references. -/
theorem Registry.chain_of_cut {r : Registry} {entry : String} {o : Options} {version : Version}
    {declared : String} {d : Description} {report : Report} {place : Nat}
    (h : r.bind entry o version declared = .ok (d, report)) (hplace : r.place? entry = some place)
    (hdepth : 1 ≤ o.maxDepth) {front back : List (String × Node)} {field : String × Node}
    (hfields : Setting.componentSchemas ⟨r, place, o, version⟩ = front ++ field :: back)
    {f : Diagnostic} (hf : f ∈ report.diagnostics) (hcategory : f.category = .depthLimitExceeded)
    (hdocument : f.document = none) (hpointer : f.pointer = .componentSchema field.1) :
    (∃ first limit, f.message = (Finding.chainTooLong first limit).message) ∨
      ∃ earlier ∈ front, ∃ rest,
        earlier.2.Chain o.maxDepth ⟨place, .componentSchema field.1⟩ rest := by
  by_cases hchain : ∃ first limit, f.message = (Finding.chainTooLong first limit).message
  · exact .inl hchain
  · have hcut : f.CutsAt (.componentSchema field.1) :=
      ⟨hcategory, hdocument, hpointer, fun first limit heq => hchain ⟨first, limit, heq⟩⟩
    unfold bind bindBy at h
    cases hsource : r.documents[place]? with
    | none => simp [hplace, hsource] at h
    | some source =>
      simp only [hplace, Option.bind_some, hsource, Option.map_some, Option.getD_some] at h
      have hdepth' : o.maxDepth ≠ 0 := Nat.one_le_iff_ne_zero.mp hdepth
      exact .inr (RegisteredDocument.sealed_of_bind hdepth' hfields hsource h hf hcut)

/-- A description in which the first component schema refers to the second one. -/
def firstRefers : Json :=
  .object [("openapi", .string "3.1.0"), ("components", .object [("schemas", .object [
    ("A", .referenceTo "#/components/schemas/B"),
    ("B", .object [("type", .string "string")])])])]

/-- A schema that is nested too deeply is not taken for a chain of references. -/
theorem Finding.message_nestingTooDeep_ne (limit : Nat) (first : String) (limit' : Nat) :
    (nestingTooDeep limit).message ≠ (chainTooLong first limit').message := by
  have hnesting : "schema nesting exceeds the depth limit of ".toList.head? = some 's' := by
    decide +kernel
  have hchain : "reference chain starting at ".toList.head? = some 'r' := by decide +kernel
  intro h
  change "schema nesting exceeds the depth limit of " ++ _ =
    "reference chain starting at " ++ _ ++ _ ++ _ at h
  have hhead := congrArg (fun text => text.toList.head?) h
  simp only [String.toList_append, List.append_assoc, List.head?_append, hnesting, hchain,
    Option.some_or] at hhead
  cases hhead

/-- In `firstRefers` the second component schema is cut off if schemas may be nested to the depth of
one, since the first one leads to it by one step. -/
theorem Registry.chain_of_cut_firstRefers :
    let o : Options := { Options.standard with maxDepth := 1 }
    ∃ d report first second f,
      (single firstRefers).bind "http://example.invalid/" o .v31 "3.1.0" = .ok (d, report) ∧
      (single firstRefers).place? "http://example.invalid/" = some 0 ∧ 1 ≤ o.maxDepth ∧
      Setting.componentSchemas ⟨single firstRefers, 0, o, .v31⟩ = [first] ++ second :: [] ∧
      f ∈ report.diagnostics ∧ f.category = .depthLimitExceeded ∧ f.document = none ∧
      f.pointer = .componentSchema second.1 ∧
      ∃ rest, first.2.Chain o.maxDepth ⟨0, .componentSchema second.1⟩ rest := by
  intro o
  have hleft : ((single firstRefers).bind "http://example.invalid/" o .v31 "3.1.0").toOption.map
      (fun left => left.2.diagnostics.any fun f => f.category = .depthLimitExceeded &&
        f.document = none && f.pointer = .componentSchema "B" &&
          f.message = (Finding.nestingTooDeep 1).message) = some true := by decide +kernel
  have hplace : (single firstRefers).place? "http://example.invalid/" = some 0 := by
    decide +kernel
  have hnames : (Setting.componentSchemas ⟨single firstRefers, 0, o, .v31⟩).map (·.1) =
      ["A", "B"] := by decide +kernel
  cases hbind : (single firstRefers).bind "http://example.invalid/" o .v31 "3.1.0" with
  | error fault => simp [hbind, Except.toOption] at hleft
  | ok left =>
    obtain ⟨d, report⟩ := left
    rw [hbind] at hleft
    obtain ⟨f, hf, hfound⟩ := List.any_eq_true.mp (Option.some.inj hleft)
    simp only [Bool.and_eq_true, decide_eq_true_eq] at hfound
    obtain ⟨⟨⟨hcategory, hdocument⟩, hpointer⟩, hmessage⟩ := hfound
    obtain ⟨first, rest, hfields, -, hrest⟩ := List.map_eq_cons_iff.mp hnames
    obtain ⟨second, none, rfl, hsecond, hnone⟩ := List.map_eq_cons_iff.mp hrest
    obtain rfl := List.map_eq_nil_iff.mp hnone
    have hsplit : Setting.componentSchemas ⟨single firstRefers, 0, o, .v31⟩ =
      [first] ++ second :: [] := hfields
    rw [← hsecond] at hpointer
    refine ⟨d, report, first, second, f, rfl, hplace, Nat.le_refl 1, hsplit, hf, hcategory,
      hdocument, hpointer, ?_⟩
    have hcut := chain_of_cut hbind hplace (Nat.le_refl 1) hsplit hf hcategory
      hdocument hpointer
    rcases hcut with ⟨name, limit, hchain⟩ | ⟨earlier, hearlier, hrest⟩
    · exact absurd (hmessage.symm.trans hchain) (Finding.message_nestingTooDeep_ne 1 name limit)
    · exact List.mem_singleton.mp hearlier ▸ hrest

end ApiDescription
