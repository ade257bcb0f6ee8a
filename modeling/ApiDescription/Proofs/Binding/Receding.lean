import ApiDescription.Proofs.Binding.SideBySide

/-!
# Properties that are kept when steps are undone

Binding only adds: findings, schemas, and nodes at which schemas were met.  So a property of the
workspace that is kept when what was added last is taken away again holds before a step if it holds
after it, whatever the step is: `Binding.Recedes`.  For schemas this is `Node.recedes_schemaWithin`,
and for everything else it is a run beside itself, `Rerun.receding`.
-/

namespace ApiDescription

/-- The property is kept when what was added last is taken away again; it is not about schemas. -/
structure Workspace.Recedes (K : Workspace → Prop) : Prop where
  /-- Findings can be taken away. -/
  told {w : Workspace} {f : Finding} {label : Option String} {p : Pointer}
    (h : K (w.told f label p)) : K w
  /-- What was met can be taken away. -/
  slot {w : Workspace} {entry : Site × Slot} (h : K { w with slots := entry :: w.slots }) : K w
  /-- Schemas can be changed. -/
  graph {w : Workspace} {g : SchemaGraph} (h : K { w with graph := g }) : K w

variable {K : Workspace → Prop}

/-- A run beside itself.  If the property holds in it, then it held at its beginning. -/
def Simulation.receding (S : Setting) (hK : Workspace.Recedes K) (before : Workspace) :
    Simulation :=
  .beside S (fun w => K w → K before) (fun h _ _ _ _ hw => h (hK.told hw))
    fun h _ hw => h (hK.graph hw)

namespace Binding

variable {α : Type} {S : Setting} {m : Binding α}

/-- If the property holds when the step is done, then it held before it. -/
def Recedes (K : Workspace → Prop) (m : Binding α) : Prop := ∀ w : Workspace, K (m w).2 → K w

theorem Recedes.of_same (hK : Workspace.Recedes K)
    (h : ∀ before, (Simulation.receding S hK before).Same m m) : m.Recedes K := by
  intro w
  have hstart : (Simulation.receding S hK w).states w w := ⟨rfl, id⟩
  exact ((h w).of_neverParts (fun _ => id) hstart).2.2

theorem Recedes.same (h : m.Recedes K) (hK : Workspace.Recedes K) (before : Workspace) :
    (Simulation.receding S hK before).Same m m := by
  refine .of_together (fun _ => id) fun w w' hw => ?_
  obtain ⟨rfl, hbefore⟩ : w' = w ∧ (K w → K before) := hw
  exact ⟨rfl, rfl, fun hleft => hbefore (h w' hleft)⟩

end Binding

open Binding

variable {S : Setting} {n : Node}

theorem Simulation.enters_receding (S : Setting) (hK : Workspace.Recedes K) (before : Workspace) :
    (Simulation.receding S hK before).Enters where
  tooDeep _ _ := Recedes.same (fun _ hw => hK.told hw) hK before
  change _ _ := Recedes.same (fun _ hw => hK.graph hw) hK before
  setSlot _ _ := Recedes.same (fun _ hw => hK.slot hw) hK before

/-- Reading a schema only adds. -/
theorem Node.recedes_schemaWithin (hK : Workspace.Recedes K) (room : Nat)
    (hn : n.scope.Registered S) : (n.schemaWithin room).Recedes K :=
  .of_same hK fun before =>
    (Simulation.enters_receding S hK before).same_schemaWithin (.inl rfl) hn

/-- What is read outside of schemas, beside itself. -/
def Rerun.receding (S : Setting) (hK : Workspace.Recedes K) (before : Workspace) : Rerun where
  toSimulation := .receding S hK before
  setting := S
  setting' := S
  registered h := h
  registered' h := h
  source _ := rfl
  schema hn := (Simulation.enters_receding S hK before).same_schema hn
  responseText? hr := Tandem.same_responseText? hr rfl
    (Binding.Recedes.same (fun _ hw => hK.told hw) hK before)

/-- What stands behind a chain of references only adds, if it does so at the end of the chain. -/
theorem Node.recedes_enter (hK : Workspace.Recedes K) (hn : n.scope.Registered S) {α : Type}
    {enclosing : Enclosing} {read : Enclosing → Resolved → Binding (Option α)}
    (hread : ∀ enclosing target, target.node.scope.Registered S →
      (read enclosing target).Recedes K) : (n.enter enclosing read).Recedes K := by
  refine .of_same (S := S) hK fun before => ?_
  refine GuidedTandem.same_resolved (t := (Simulation.receding S hK before).toGuidedTandem) hn
    (.pure _) fun target _ htarget => .ite Iff.rfl ?_ ((hread _ target htarget).same hK before)
  exact (Tandem.same_tell hn _ _ rfl).bind fun _ => .pure _

/-- Path items and callbacks only add, however much room there is. -/
theorem Node.recedes_within (hK : Workspace.Recedes K) (room : Nat) :
    (∀ enclosing path {n : Node}, n.scope.Registered S →
      (n.pathItemWithin room enclosing path).Recedes K) ∧
      ∀ enclosing {n : Node}, n.scope.Registered S →
        (n.callbackWithin room enclosing).Recedes K := by
  have hinherited : Inherited fun m : Node => m.scope.Registered S := fun h _ => h
  induction room with
  | zero => exact ⟨fun _ _ _ _ _ hw => hw, fun _ _ _ _ hw => hw⟩
  | succ room ih =>
    obtain ⟨hpathItem, hcallback⟩ := ih
    constructor
    · intro enclosing path n hn
      refine recedes_enter hK hn fun enclosing target htarget => ?_
      refine .of_same (S := S) hK fun before => ?_
      exact Rerun.same_pathItemOf? (t := .receding S hK before) hinherited id
        (fun m hm => (hcallback enclosing hm).same hK before) htarget path n.pointer
    · intro enclosing n hn
      refine recedes_enter hK hn fun enclosing target htarget => ?_
      refine .of_same (S := S) hK fun before => ?_
      exact Rerun.same_callbackOf? (t := .receding S hK before) hinherited id
        (fun path m hm => (hpathItem enclosing path hm).same hK before) htarget

end ApiDescription
