import ApiDescription.Proofs.Binding.Telling

/-!
# Steps that only add findings

Most of what is read from a node has nothing to do with schemas.  Such a step does not look at the
workspace, and all that it changes is the report; its result is the same in every workspace.  This
is so because it runs in the same way in an empty workspace and in any other one, side by side.
-/

namespace ApiDescription

/-- Documents are kept, and a workspace is what was there before with the findings of a run that
began with nothing. -/
def GuidedTandem.above (before : Workspace) : GuidedTandem where
  scope c := c
  known _ := True
  states w w' := w' = { before with report := before.report.append w.report }
  label _ := rfl
  alike _ := .of_eq rfl
  maxDepth _ := .inl rfl
  place _ _ := Iff.rfl
  locate {c} _ text := .inl (by cases c.locate text <;> rfl)
  located _ _ _ _ := trivial
  tell {w w'} h _ _ _ _ hrevised _ label p := by
    obtain rfl := hrevised.eq rfl
    rw [h]
    simp [Workspace.told, Report.append, Report.push]

namespace Binding

variable {α β : Type}

/-- The result of a step that does not look at the workspace. -/
def result (m : Binding α) : α := (m .fresh).1

/-- The step does not look at the workspace, and all that it does is to add findings. -/
def OnlyTells (m : Binding α) : Prop :=
  ∃ a found, ∀ w, m w = (a, { w with report := w.report.append found })

namespace OnlyTells

theorem run {m : Binding α} (h : m.OnlyTells) :
    ∃ found, ∀ w, m w = (m.result, { w with report := w.report.append found }) := by
  obtain ⟨a, found, hrun⟩ := h
  have ha : m.result = a := by rw [result, hrun]
  exact ⟨found, ha ▸ hrun⟩

/-- A step that runs in the same way wherever it begins only adds findings. -/
theorem of_same {m : Binding α} (h : ∀ before, (GuidedTandem.above before).Same m m) :
    m.OnlyTells := by
  refine ⟨m.result, (m .fresh).2.report, fun w => ?_⟩
  have hstart : (GuidedTandem.above w).states .fresh w := by
    simp [GuidedTandem.above, Workspace.fresh, Report.append, Report.empty]
  obtain ⟨hresult, hleft⟩ := (h w).of_neverParts (fun _ => id) hstart
  exact Prod.ext hresult.symm hleft

/-- A step that only adds findings runs in the same way wherever it begins. -/
theorem same {m : Binding α} (h : m.OnlyTells) (before : Workspace) :
    (GuidedTandem.above before).Same m m := by
  obtain ⟨found, hrun⟩ := h.run
  refine .of_together (fun _ => id) fun w w' hw => ?_
  have hw' : w' = { before with report := before.report.append w.report } := hw
  rw [hrun w, hrun w', hw']
  exact ⟨rfl, by simp [GuidedTandem.above, Report.append]⟩

protected theorem pure (a : α) : OnlyTells (pure a) := .of_same fun _ => .pure a

end OnlyTells

theorem onlyTells_tell (scope : Scope) (pointer : Pointer) (f : Finding) :
    OnlyTells (tell scope pointer f) :=
  ⟨(), ⟨[f.diagnostic scope.label pointer]⟩, fun _ => rfl⟩

theorem onlyTells_orTell (e : Except Problem α) : OnlyTells (orTell e) := by
  cases e with
  | ok a => exact .pure (some a)
  | error p => exact ⟨none, ⟨[p.finding.diagnostic p.scope.label p.pointer]⟩, fun _ => rfl⟩

/-- Whatever the workspace is, the result of the step satisfies a predicate. -/
def Gives (m : Binding α) (P : α → Prop) : Prop := ∀ w, P (m w).1

namespace Gives

variable {P : α → Prop}

theorem result {m : Binding α} (h : m.Gives P) : P m.result := h .fresh

protected theorem pure {a : α} (h : P a) : Gives (pure a) P := fun _ => h

protected theorem bind {m : Binding β} {f : β → Binding α} (h : ∀ b, (f b).Gives P) :
    Gives (m >>= f) P :=
  fun w => h (m w).1 (m w).2

protected theorem bind_of {Q : β → Prop} {m : Binding β} {f : β → Binding α} (hm : m.Gives Q)
    (h : ∀ b, Q b → (f b).Gives P) : Gives (m >>= f) P :=
  fun w => h (m w).1 (hm w) (m w).2

protected theorem ite {c : Prop} [Decidable c] {m m' : Binding α} (hm : m.Gives P)
    (hm' : m'.Gives P) : Gives (if c then m else m') P := by
  split
  · exact hm
  · exact hm'

protected theorem imp {Q : α → Prop} {m : Binding α} (hm : m.Gives P) (h : ∀ a, P a → Q a) :
    m.Gives Q :=
  fun w => h _ (hm w)

protected theorem and {Q : α → Prop} {m : Binding α} (hm : m.Gives P) (hm' : m.Gives Q) :
    m.Gives fun a => P a ∧ Q a :=
  fun w => ⟨hm w, hm' w⟩

/-- What holds of the result of each step holds of all results that are kept. -/
theorem collect {step : β → Binding (Option α)} {l : List β}
    (h : ∀ b ∈ l, (step b).Gives fun a? => ∀ a ∈ a?, P a) :
    (collect step l).Gives fun as => ∀ a ∈ as, P a := by
  induction l with
  | nil => exact .pure (by simp)
  | cons b rest ih =>
    refine .bind_of (h b List.mem_cons_self) fun first hfirst => ?_
    refine .bind_of (ih fun b hb => h b (List.mem_cons_of_mem _ hb)) fun others hothers => ?_
    refine .pure fun a ha => ?_
    rcases List.mem_append.mp ha with hmem | hmem
    · exact hfirst a (Option.mem_toList.mp hmem)
    · exact hothers a hmem

/-- The results of a list of steps are known if that of each step is. -/
theorem collect_eq {step : β → Binding (Option α)} {g : β → Option α} {l : List β}
    (h : ∀ b ∈ l, (step b).Gives fun a? => a? = g b) :
    (Binding.collect step l).Gives fun as => as = l.filterMap g := by
  induction l with
  | nil => exact .pure rfl
  | cons b rest ih =>
    refine .bind_of (h b List.mem_cons_self) fun first hfirst => ?_
    refine .bind_of (ih fun b hb => h b (List.mem_cons_of_mem _ hb)) fun others hothers => .pure ?_
    rw [List.filterMap_cons, hfirst, hothers]
    cases g b <;> rfl

end Gives

/-- A step that only adds findings gives its result everywhere. -/
theorem OnlyTells.gives {m : Binding α} (h : m.OnlyTells) : m.Gives fun a => a = m.result := by
  obtain ⟨found, hrun⟩ := h.run
  intro w
  rw [hrun w]

end Binding

open Binding Tandem GuidedTandem

/-! ## Nodes -/

namespace Node

variable (n : Node)

theorem onlyTells_tell (f : Finding) : (n.tell f).OnlyTells := Binding.onlyTells_tell _ _ f

theorem onlyTells_items (what : String) : (n.items what).OnlyTells := by
  rw [← bind_pure (n.items what)]
  refine .of_same fun before => same_items trivial what fun _ => ?_
  have hnodes : n.itemNodes.map (above before).node = n.itemNodes := List.map_id _
  rw [hnodes]
  exact .pure _

theorem onlyTells_record? (what : String) : (n.record? what).OnlyTells := by
  rw [← bind_pure (n.record? what)]
  exact .of_same fun _ => same_record? trivial what (.pure _) fun _ _ _ => .pure _

theorem onlyTells_resolvedRecord? (what : String) : (n.resolvedRecord? what).OnlyTells := by
  rw [← bind_pure (n.resolvedRecord? what)]
  exact .of_same fun _ => same_resolvedRecord? trivial what (.pure _) fun _ _ _ => .pure _

theorem onlyTells_example? : n.example?.OnlyTells := .of_same fun _ => same_example? trivial

theorem onlyTells_link? : n.link?.OnlyTells := .of_same fun _ => same_link? trivial

theorem onlyTells_securityScheme? : n.securityScheme?.OnlyTells :=
  .of_same fun _ => same_securityScheme? trivial

theorem onlyTells_oauthFlows : n.oauthFlows.OnlyTells := .of_same fun _ => same_oauthFlows trivial

theorem onlyTells_security : n.security.OnlyTells := .of_same fun _ => same_nodeSecurity trivial

end Node

/-! ## Objects -/

namespace Record

variable (r : Record)

theorem onlyTells_tell (f : Finding) : (r.tell f).OnlyTells := Binding.onlyTells_tell _ _ f

theorem onlyTells_tellMistyped (key expected : String) (found : Json) :
    (r.tellMistyped key expected found).OnlyTells :=
  Binding.onlyTells_tell _ _ _

theorem onlyTells_record? (key : String) : (r.record? key).OnlyTells := by
  rw [← bind_pure (r.record? key)]
  exact .of_same fun _ => same_fieldRecord? trivial key (.pure _) fun _ _ _ => .pure _

theorem onlyTells_text? (key : String) : (r.text? key).OnlyTells :=
  .of_same fun _ => same_text? trivial key

theorem onlyTells_flag? (key : String) : (r.flag? key).OnlyTells :=
  .of_same fun _ => same_flag? trivial key

theorem onlyTells_flag (key : String) : (r.flag key).OnlyTells :=
  .of_same fun _ => same_flag trivial key

theorem onlyTells_count? (key : String) : (r.count? key).OnlyTells :=
  .of_same fun _ => same_count? trivial key

theorem onlyTells_requiredText? (owner key : String) :
    (r.requiredText? owner key).OnlyTells :=
  .of_same fun before => .ite Iff.rfl (same_text? trivial key)
    (((r.onlyTells_tell _).same before).bind fun _ => .pure _)

theorem onlyTells_responseText? : r.responseText?.OnlyTells := by
  unfold responseText?
  split
  · exact r.onlyTells_requiredText? _ _
  · exact r.onlyTells_text? _

theorem onlyTells_texts (key : String) : (r.texts key).OnlyTells :=
  .of_same fun _ => same_texts trivial key

theorem onlyTells_refuse (key : String) : (r.refuse key).OnlyTells :=
  .of_same fun _ => same_refuse trivial key

theorem onlyTells_readAll {α : Type} (key : String) {step : Node → Binding (Option α)}
    (h : ∀ n, (step n).OnlyTells) : (r.readAll key step).OnlyTells :=
  .of_same fun before => same_readAll trivial key fun n _ => (h n).same before

theorem onlyTells_annotated : r.annotated.OnlyTells := .of_same fun _ => same_annotated trivial

theorem onlyTells_types : r.types.OnlyTells := .of_same fun _ => same_types trivial

theorem onlyTells_scalarShape (type : ScalarType) : (r.scalarShape type).OnlyTells :=
  .of_same fun _ => same_scalarShape trivial type

theorem onlyTells_withDiscriminator (shape : Shape) (d : Discriminator) :
    (r.withDiscriminator shape d).OnlyTells :=
  .of_same fun _ => same_withDiscriminator trivial shape d

theorem onlyTells_servers : r.servers.OnlyTells := .of_same fun _ => same_servers trivial

theorem onlyTells_externalDocs? : r.externalDocs?.OnlyTells :=
  .of_same fun _ => same_externalDocs? trivial

theorem onlyTells_tags : r.tags.OnlyTells := .of_same fun _ => same_tags trivial

theorem onlyTells_info : r.info.OnlyTells := .of_same fun _ => same_info trivial

theorem onlyTells_jsonSchemaDialect? : r.jsonSchemaDialect?.OnlyTells :=
  .of_same fun _ => same_jsonSchemaDialect? trivial

theorem onlyTells_security : r.security.OnlyTells := .of_same fun _ => same_security trivial

theorem onlyTells_security? : r.security?.OnlyTells := .of_same fun _ => same_security? trivial

theorem onlyTells_parameterPlace? : r.parameterPlace?.OnlyTells :=
  .of_same fun _ => same_parameterPlace? trivial

theorem onlyTells_flow? (key : String) (needsAuthorization needsToken : Bool) :
    (r.flow? key needsAuthorization needsToken).OnlyTells :=
  .of_same fun _ => same_flow? trivial key needsAuthorization needsToken

theorem onlyTells_checkDeclaration (declared : String) :
    (r.checkDeclaration declared).OnlyTells :=
  .of_same fun _ => same_checkDeclaration trivial declared

theorem onlyTells_checkContents : r.checkContents.OnlyTells :=
  .of_same fun _ => same_checkContents trivial

/-! ## Results -/

/-- What is said about a schema besides its shape neither names nor moves it. -/
theorem annotated_gives :
    r.annotated.Gives fun s =>
      s.name = none ∧ s.document = r.scope.label ∧ s.location = r.pointer := by
  refine .bind fun _ => .bind fun _ => .bind fun _ => .bind fun _ => .bind fun _ => ?_
  refine .bind fun _ => .bind fun _ => .bind fun _ => ?_
  exact .ite (.bind fun _ => .pure ⟨rfl, rfl, rfl⟩) (.pure ⟨rfl, rfl, rfl⟩)

/-- The names that types are sorted into are those of types. -/
theorem sortTypes_gives {types : Types} (h : ∀ name ∈ types.names, name ∈ typeNames)
    (names : List String) :
    (r.sortTypes types names).Gives fun types => ∀ name ∈ types.names, name ∈ typeNames := by
  induction names generalizing types with
  | nil => exact .pure h
  | cons name rest ih =>
    unfold sortTypes
    refine .ite (ih h) ?_
    split
    · next hname =>
      refine ih fun other hother => ?_
      simp only at hother
      split at hother
      · exact h other hother
      · rcases List.mem_append.mp hother with hold | hnew
        · exact h other hold
        · rw [List.mem_singleton.mp hnew]
          exact List.contains_iff_mem.mp hname
    · exact .bind fun _ => ih h

/-- The types of a schema are types of values, or `null` alone. -/
theorem types_gives :
    r.types.Gives fun types => types.names = ["null"] ∨ ∀ name ∈ types.names, name ∈ typeNames := by
  refine .bind fun given => .bind_of (r.sortTypes_gives (by simp) given) fun types h => ?_
  exact .ite (.pure (.inl rfl)) (.pure (.inr h))

end Record

end ApiDescription
