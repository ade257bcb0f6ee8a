import ApiDescription.Proofs.Binding.Sound

/-!
# Steps of binding

`Binding.Ensures` says of a step of binding, run in one workspace, that it is a whole step, that it
keeps the workspace sound, and what its result has to do with the workspace afterwards.  What is
said about a result stays true while the workspace grows, so the results of several steps can be
spoken of together at the end.
-/

namespace ApiDescription.Binding

variable {α β : Type} {S : Setting} {w : Workspace}

/-- What is said about a workspace stays true while it grows. -/
def Stable (P : Workspace → Prop) : Prop := ∀ {w w'}, P w → Workspace.Grows w w' → P w'

theorem stable_met (site : Site) (id : SchemaId) : Stable fun w => w.Met site id :=
  fun hmet hw => hw.met hmet

/-- A step that is run in a workspace is a whole step, leaves the workspace sound, and its result
satisfies what is said about it. -/
structure Ensures (S : Setting) (w : Workspace) (m : Binding α) (post : α → Workspace → Prop) :
    Prop where
  /-- The workspace is sound afterwards. -/
  sound : (m w).2.Sound S
  /-- It is a whole step. -/
  ext : w.Extends (m w).2
  /-- The result satisfies what is said about it. -/
  holds : post (m w).1 (m w).2

namespace Ensures

variable {m : Binding α} {mid post post' : α → Workspace → Prop}

protected theorem pure (hw : w.Sound S) {a : α} (h : post a w) : Ensures S w (pure a) post :=
  ⟨hw, .refl w, h⟩

/-- What is ensured by a step of which the run is known. -/
theorem of_run {a : α} {w' : Workspace} (hrun : m w = (a, w')) (hw' : w'.Sound S)
    (hext : w.Extends w') (h : post a w') : Ensures S w m post := by
  refine ⟨?_, ?_, ?_⟩ <;> rwa [hrun]

protected theorem bind {f : α → Binding β} {post : β → Workspace → Prop}
    (hm : Ensures S w m mid)
    (hf : ∀ a w', w'.Sound S → w.Extends w' → mid a w' → Ensures S w' (f a) post) :
    Ensures S w (m >>= f) post := by
  have h := hf _ _ hm.sound hm.ext hm.holds
  exact ⟨h.sound, hm.ext.trans h.ext, h.holds⟩

protected theorem imp (hm : Ensures S w m post)
    (h : ∀ a w', w'.Sound S → w.Extends w' → post a w' → post' a w') : Ensures S w m post' :=
  ⟨hm.sound, hm.ext, h _ _ hm.sound hm.ext hm.holds⟩

/-- A step that only adds findings. -/
theorem tells (hw : w.Sound S) (hm : m.OnlyTells) : Ensures S w m fun a _ => a = m.result := by
  obtain ⟨found, hrun⟩ := hm.run
  have hext := Workspace.Extends.tell w found
  refine ⟨?_, ?_, ?_⟩
  · rw [hrun]
    exact hw.of_size_eq hext rfl rfl
  · rw [hrun]
    exact hext
  · rw [hrun]

/-- A finding that was added is there. -/
theorem tell (hw : w.Sound S) (scope : Scope) (p : Pointer) (f : Finding) :
    Ensures S w (Binding.tell scope p f) fun _ w' =>
      f.diagnostic scope.label p ∈ w'.report.diagnostics :=
  have hext := Workspace.Extends.tell w ⟨[f.diagnostic scope.label p]⟩
  ⟨hw.of_size_eq hext rfl rfl, hext, List.mem_append_right _ (List.mem_singleton_self _)⟩

/-- A step that only adds findings comes first. -/
theorem tells_bind {f : α → Binding β} {post : β → Workspace → Prop} (hw : w.Sound S)
    (hm : m.OnlyTells)
    (hf : ∀ w', w'.Sound S → w.Extends w' → Ensures S w' (f m.result) post) :
    Ensures S w (m >>= f) post := by
  refine (tells hw hm).bind fun a w' hw' hext ha => ?_
  rw [ha]
  exact hf w' hw' hext

/-- A choice with something after it: what is shown of it behind the one arm is at hand in the
other. -/
theorem ite_bind {c : Prop} [Decidable c] {f : α → Binding β} {k : Binding β}
    {post : β → Workspace → Prop} (hm : c → Ensures S w m mid)
    (hf : ∀ a w', w'.Sound S → w.Extends w' → mid a w' → Ensures S w' (f a) post)
    (hk : ¬ c → (∀ a w', w'.Sound S → w.Extends w' → mid a w' → Ensures S w' (f a) post) →
      Ensures S w k post) :
    Ensures S w (if c then m >>= f else k) post := by
  split
  · next hc => exact (hm hc).bind hf
  · next hc => exact hk hc hf

/-- Looking up what was met at a site changes nothing. -/
theorem slot?_bind {site : Site} {f : Option Slot → Binding β} {post : β → Workspace → Prop}
    (h : Ensures S w (f (w.slot? site)) post) : Ensures S w (slot? site >>= f) post :=
  ⟨h.sound, h.ext, h.holds⟩

/-! ## Lists -/

/-- Each element of a list is read, and what is said about the results stays true. -/
theorem each {R : α → β → Workspace → Prop} (hR : ∀ a b, Stable (R a b)) {step : α → Binding β}
    {l : List α} (hstep : ∀ a ∈ l, ∀ w, w.Sound S → Ensures S w (step a) (R a))
    (hw : w.Sound S) :
    Ensures S w (each step l) fun bs w' => List.Forall₂ (fun a b => R a b w') l bs := by
  induction l generalizing w with
  | nil => exact .pure hw .nil
  | cons a rest ih =>
    refine (hstep a List.mem_cons_self w hw).bind fun b w₁ hw₁ _ hb => ?_
    refine (ih (fun a ha => hstep a (List.mem_cons_of_mem _ ha)) hw₁).bind
      fun bs w₂ hw₂ hext hbs => ?_
    exact .pure hw₂ (.cons (hR a b hb hext.grows) hbs)

/-- Each element of a list gives a result, and what is said about the results stays true. -/
theorem collect {R : α → β → Workspace → Prop} (hR : ∀ a b, Stable (R a b))
    {step : α → Binding (Option β)} {l : List α}
    (hstep : ∀ a ∈ l, ∀ w, w.Sound S →
      Ensures S w (step a) fun b? w' => ∃ b, b? = some b ∧ R a b w')
    (hw : w.Sound S) :
    Ensures S w (collect step l) fun bs w' => List.Forall₂ (fun a b => R a b w') l bs := by
  induction l generalizing w with
  | nil => exact .pure hw .nil
  | cons a rest ih =>
    refine (hstep a List.mem_cons_self w hw).bind fun b? w₁ hw₁ _ hb => ?_
    obtain ⟨b, rfl, hb⟩ := hb
    refine (ih (fun a ha => hstep a (List.mem_cons_of_mem _ ha)) hw₁).bind
      fun bs w₂ hw₂ hext hbs => ?_
    exact .pure hw₂ (.cons (hR a b hb hext.grows) hbs)

/-- Some elements of a list give a result, and what is said about the results stays true. -/
theorem collect_some {P : β → Workspace → Prop} (hP : ∀ b, Stable (P b))
    {step : α → Binding (Option β)} {l : List α}
    (hstep : ∀ a ∈ l, ∀ w, w.Sound S →
      Ensures S w (step a) fun b? w' => ∀ b ∈ b?, P b w')
    (hw : w.Sound S) :
    Ensures S w (Binding.collect step l) fun bs w' => ∀ b ∈ bs, P b w' := by
  induction l generalizing w with
  | nil => exact .pure hw (by simp)
  | cons a rest ih =>
    refine (hstep a List.mem_cons_self w hw).bind fun b? w₁ hw₁ _ hb => ?_
    refine (ih (fun a ha => hstep a (List.mem_cons_of_mem _ ha)) hw₁).bind
      fun bs w₂ hw₂ hext hbs => ?_
    refine .pure hw₂ fun b hmem => ?_
    rcases List.mem_append.mp hmem with hfirst | hrest
    · exact hP b (hb b (Option.mem_toList.mp hfirst)) hext.grows
    · exact hbs b hrest

end Ensures

end ApiDescription.Binding
