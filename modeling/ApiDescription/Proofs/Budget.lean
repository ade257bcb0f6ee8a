import ApiDescription.Proofs.Binding.Readers
import ApiDescription.Proofs.Binding.Room
import ApiDescription.Proofs.Schema.Depth

/-!
# Recursion within a budget

Schemas are read inside of schemas, and path items inside of callbacks inside of path items, and
any of them may be written elsewhere.  The documents alone say how deep this can go, whatever the
limit on the depth of schemas is: `Registry.bind_guarded`.

A node that is read while others are is at a site of its own.  Schemas have been met when those
below them are read, and for path items and callbacks it is checked.  And all these nodes are below
the one where it began or below the target of a text of the documents, which leaves finitely many;
so their number stays below `Registry.budget`.
-/

namespace ApiDescription

open Binding

variable {S : Setting} {start n : Node}

/-! ## What can be reached -/

/-- More than the nodes that can be reached from one of them. -/
def Registry.budget (r : Registry) : Nat := (2 * r.nodeCount + 1) * (r.nodeCount + 1)

/-- The nodes below a node and below the targets of all texts, read as references or as names of
components. -/
def Node.reach (S : Setting) (n : Node) : List Node :=
  (n :: (S.targets ++ S.targetsBy componentReference)).flatMap Node.below

namespace Node

theorem self_mem_reach (S : Setting) (n : Node) : n ∈ n.reach S :=
  List.mem_flatMap.mpr ⟨n, List.mem_cons_self, n.self_mem_below⟩

theorem item_mem_below {m : Node} (h : n ∈ start.below) (hmem : m ∈ n.itemNodes) :
    m ∈ start.below := by
  obtain ⟨⟨p, v⟩, hnode, rfl⟩ := List.mem_map.mp h
  obtain ⟨items, i, hvalue, hitem, hscope, hpointer⟩ := of_mem_itemNodes hmem
  obtain rfl : v = .array items := hvalue
  refine List.mem_map.mpr ⟨_, Json.item_mem_nodes hnode hitem, ?_⟩
  obtain ⟨scope, pointer, value⟩ := m
  obtain rfl : scope = start.scope := hscope
  obtain rfl : pointer = p.item i := hpointer
  rfl

/-- From a node one can get to another one, which is at its place. -/
structure Reaches (S : Setting) (start n : Node) : Prop where
  /-- It is at its place. -/
  sited : n.Sited S
  /-- It can be reached. -/
  mem : n ∈ start.reach S

/-- Nothing leads out of what can be reached. -/
theorem closed_reaches (S : Setting) (start : Node) : Node.Closed (start.Reaches S) where
  member {r member} h hmem := by
    obtain ⟨first, hfirst, hbelow⟩ := List.mem_flatMap.mp h.mem
    exact ⟨Record.Sited.child h.sited hmem,
      List.mem_flatMap.mpr ⟨first, hfirst, child_mem_below hbelow hmem⟩⟩
  item {n m} h hmem := by
    obtain ⟨first, hfirst, hbelow⟩ := List.mem_flatMap.mp h.mem
    exact ⟨h.sited.item hmem, List.mem_flatMap.mpr ⟨first, hfirst, item_mem_below hbelow hmem⟩⟩
  target {n m text} h hvalue hm := by
    have htext : text ∈ n.scope.source.root.texts := (hvalue ▸ h.sited.inside).mem_texts
    have hscope : n.scope ∈ S.scopes := Setting.mem_scopes.mpr h.sited.scope
    have htarget : ∀ expand : String → String, n.scope.locate (expand text) = .ok m →
        m ∈ S.targetsBy expand := fun expand hlocate =>
      List.mem_flatMap.mpr ⟨n.scope, hscope, List.mem_filterMap.mpr ⟨text, htext, by
        rw [hlocate]
        rfl⟩⟩
    have hfirst : m ∈ S.targets ++ S.targetsBy componentReference :=
      List.mem_append.mpr (hm.imp (htarget id) (htarget componentReference))
    exact ⟨hm.elim h.sited.scope.locate h.sited.scope.locate,
      List.mem_flatMap.mpr ⟨m, List.mem_cons_of_mem _ hfirst, m.self_mem_below⟩⟩

/-- The budget is greater than the number of nodes that can be reached. -/
theorem length_reach_lt (hstart : start.Inside S) :
    (start.reach S).length < S.registry.budget := by
  have hinside : ∀ first ∈ start :: (S.targets ++ S.targetsBy componentReference),
      first.Inside S := by
    refine List.forall_mem_cons.mpr ⟨hstart, fun first hfirst => ?_⟩
    exact (List.mem_append.mp hfirst).elim Setting.inside_of_mem_targets
      Setting.inside_of_mem_targetsBy
  have hcount : (start :: (S.targets ++ S.targetsBy componentReference)).length ≤
      2 * S.registry.nodeCount + 1 := by
    have h := S.length_targets_le
    have h' := S.length_targetsBy_le componentReference
    rw [List.length_cons, List.length_append]
    omega
  calc (start.reach S).length
      ≤ (start :: (S.targets ++ S.targetsBy componentReference)).length *
          S.registry.nodeCount := length_flatMap_below_le hinside
    _ ≤ (2 * S.registry.nodeCount + 1) * S.registry.nodeCount := Nat.mul_le_mul_right _ hcount
    _ < S.registry.budget := Nat.mul_lt_mul_of_pos_left (Nat.lt_succ_self _) (Nat.succ_pos _)

end Node

/-- What the schema of an object leads to is of a kind that the object is of, if nothing leads out of
the kind. -/
theorem Node.Closed.leads {P : Node → Prop} (hP : Node.Closed P) {r : Record} (hr : P r.node)
    {m : Node} (h : r.Leads m) : P m := by
  cases h with
  | property hmem => exact Inherited.fieldsOf hP.member hr hmem
  | additional hm => exact hP.field hr (Option.filter_eq_some_iff.mp hm).1
  | items hm => exact hP.field hr (Option.filter_eq_some_iff.mp hm).1
  | listed _ hmem => exact hP.itemsOf hr hmem
  | negated hm => exact hP.field hr hm
  | target htext hm =>
    have hmember := hP.member hr (Entries.mem_of_get? htext)
    exact hP.target hmember rfl (.inl hm)
  | mapped hd hentries hfield hname hm =>
    have hscope := (Record.of_field? hentries).1.trans (Record.of_field? hd).1
    have hentry := hP.fields (hP.field (hP.field hr hd) hentries) hfield
    obtain ⟨member, -, rfl⟩ := List.mem_map.mp hfield
    exact hP.target hentry hname (.inr (hscope ▸ hm))

/-! ## Guarded recursion -/

/-- The sites of the nodes that are being read are pairwise different, and on a list. -/
def Enclosing.Among (enclosing : Enclosing) (sites : List Site) : Prop :=
  enclosing.Nodup ∧ ∀ site ∈ enclosing, site ∈ sites

instance (enclosing : Enclosing) (sites : List Site) : Decidable (enclosing.Among sites) :=
  inferInstanceAs (Decidable (_ ∧ _))

/-- The number of the schema at a node inside of others, with room for levels below it.  The
recursion has a budget.  When it is used up, when a node is met again or when a node is not on the
list, something else is done instead. -/
def Node.schemaGuarded (stuck : Binding Unit) (sites : List Site) :
    Nat → Nat → Enclosing → Node → Binding SchemaId
  | 0, _, _, _ => do
    stuck
    return 0
  | budget + 1, room, enclosing, n => do
    match ← Binding.slot? n.site with
    | some slot => return slot.id
    | none =>
      if Enclosing.Among (n.site :: enclosing) sites then
        match room with
        | 0 =>
          n.tell (.nestingTooDeep n.scope.setting.options.maxDepth)
          let id ← Binding.allocate n.blankSchema
          Binding.setSlot n.site (.bound id)
          return id
        | room + 1 =>
          let id ← Binding.allocate n.blankSchema
          Binding.setSlot n.site (.opened id)
          let s ← n.schemaHere (schemaGuarded stuck sites budget room (n.site :: enclosing))
          Binding.change id fun _ => s
          Binding.setSlot n.site (.bound id)
          return id
      else
        stuck
        return 0

mutual

/-- The path item at a node under a key, inside of others, where the recursion has a budget and
nodes must be on a list. -/
def Node.pathItemGuarded (stuck : Binding Unit) (sites : List Site) (read : SchemaReader) :
    Nat → Enclosing → String → Node → Binding (Option PathItem)
  | 0, _, _, _ => do
    stuck
    return none
  | budget + 1, enclosing, path, n =>
    n.enter enclosing fun enclosing target => do
      if enclosing.Among sites then
        read.pathItem? target
          (fun callback => callback.callbackGuarded stuck sites read budget enclosing) path n.pointer
      else
        stuck
        return none

/-- The callback at a node, inside of others, where the recursion has a budget and nodes must be on
a list. -/
def Node.callbackGuarded (stuck : Binding Unit) (sites : List Site) (read : SchemaReader) :
    Nat → Enclosing → Node → Binding (Option Callback)
  | 0, _, _ => do
    stuck
    return none
  | budget + 1, enclosing, n =>
    n.enter enclosing fun enclosing target => do
      if enclosing.Among sites then
        target.callback? fun path item =>
          item.pathItemGuarded stuck sites read budget enclosing path
      else
        stuck
        return none

end

/-- The sites that can be reached from a node. -/
def Node.reachSites (S : Setting) (n : Node) : List Site := (n.reach S).map Node.site

/-- Schemas, path items and callbacks are read with a budget, at nodes that can be reached from the
one where it begins. -/
def Readers.guarded (stuck : Binding Unit) (budget : Nat) (S : Setting) : Readers :=
  let schema : SchemaReader := fun n =>
    n.schemaGuarded stuck (n.reachSites S) budget S.options.maxDepth []
  ⟨schema, fun path n => n.pathItemGuarded stuck (n.reachSites S) schema budget [] path,
    fun n => n.callbackGuarded stuck (n.reachSites S) schema budget []⟩

/-! ## The budget is enough -/

/-- The nodes that are being read are at different sites that can be reached from the first one, and
what is left of the budget is enough for the others. -/
structure Enclosing.Afford (S : Setting) (start : Node) (budget : Nat) (enclosing : Enclosing) :
    Prop where
  /-- They are at different sites that can be reached. -/
  among : enclosing.Among (start.reachSites S)
  /-- What is left of the budget. -/
  budget : S.registry.budget ≤ budget + enclosing.length

namespace Enclosing.Afford

variable {budget : Nat} {enclosing : Enclosing}

theorem nil (start : Node) (h : S.registry.budget ≤ budget) : Afford S start budget [] where
  among := ⟨.nil, by simp⟩
  budget := h

/-- The budget is not used up. -/
theorem budget_ne_zero (h : Afford S start budget enclosing) (hstart : start.Inside S) :
    budget ≠ 0 := by
  rintro rfl
  have hle := (List.subperm_of_subset h.among.1 h.among.2).length_le
  rw [Node.reachSites, List.length_map] at hle
  have hlt := Node.length_reach_lt hstart
  have hbudget := h.budget
  omega

/-- One more node is read. -/
theorem cons (h : Afford S start (budget + 1) enclosing) (hn : n ∈ start.reach S)
    (hnew : n.site ∉ enclosing) : Afford S start budget (n.site :: enclosing) where
  among := ⟨List.nodup_cons.mpr ⟨hnew, h.among.1⟩,
    List.forall_mem_cons.mpr ⟨List.mem_map_of_mem hn, h.among.2⟩⟩
  budget := by
    have hbudget := h.budget
    rw [List.length_cons]
    omega

end Enclosing.Afford

variable {stuck : Binding Unit} {budget : Nat}

/-! ### Schemas -/

/-- A run beside itself, during which schemas have been met at some sites. -/
def Simulation.meeting (S : Setting) (sites : List Site) : Simulation :=
  .beside S (fun w => ∀ site ∈ sites, w.slot? site ≠ none) (fun hw _ _ _ _ => hw) fun hw _ => hw

/-- Where the schemas that are being read have been met, a guarded schema is read like any other. -/
theorem Node.schemaGuarded_eq (hstart : start.Inside S) {room : Nat} {enclosing : Enclosing}
    (h : Enclosing.Afford S start budget enclosing) (hn : start.Reaches S n) {w : Workspace}
    (hmet : ∀ site ∈ enclosing, w.slot? site ≠ none) :
    n.schemaGuarded stuck (start.reachSites S) budget room enclosing w = n.schemaWithin room w := by
  induction budget generalizing room enclosing n w with
  | zero => exact absurd rfl (h.budget_ne_zero hstart)
  | succ budget ih =>
    cases hslot : w.slot? n.site with
    | some slot =>
      unfold schemaGuarded
      rw [Binding.slot?_bind, hslot, schemaWithin_of_met hslot]
      rfl
    | none =>
      have hnew : n.site ∉ enclosing := fun hmem => hmet _ hmem hslot
      have hcons := h.cons hn.mem hnew
      unfold schemaGuarded
      rw [Binding.slot?_bind, hslot]
      dsimp only
      rw [if_pos hcons.among]
      cases room with
      | zero =>
        rw [schemaWithin_zero hslot]
        rfl
      | succ room =>
        rw [schemaWithin_succ hslot]
        -- the schema is met while what is below it is read
        have hmet' : ∀ site ∈ n.site :: enclosing, (w.opening n).slot? site ≠ none := by
          intro site hsite
          rw [Workspace.slot?_opening]
          split
          · exact Option.some_ne_none _
          · next hne =>
            exact hmet site ((List.mem_cons.mp hsite).resolve_left fun heq => hne heq.symm)
        have hsame : (Simulation.meeting S (n.site :: enclosing)).Same
            (n.schemaHere (schemaGuarded stuck (start.reachSites S) budget room
              (n.site :: enclosing)))
            (n.schemaHere (schemaWithin room)) := by
          refine Simulation.same_schemaHere hn.sited.scope fun r hr m hm _ => ?_
          have hm : start.Reaches S m := (closed_reaches S start).leads (hr ▸ hn) hm
          refine .of_together (fun _ => id) ?_
          rintro _ v ⟨rfl, hmet⟩
          have heq : m.schemaGuarded stuck (start.reachSites S) budget room (n.site :: enclosing) v =
            m.schemaWithin room v := ih hcons hm hmet
          refine ⟨congrArg Prod.fst heq, congrArg Prod.snd heq.symm, fun site hsite hlost => ?_⟩
          rw [heq] at hlost
          exact hmet site hsite
            ((cutsOff_schemaWithin (p := .root) room hm.sited.scope v).slots site hlost)
        obtain ⟨hresult, hleft, -⟩ := hsame.of_neverParts (fun _ => id) ⟨rfl, hmet'⟩
        rw [← hresult, hleft]
        rfl

/-! ### Path items and callbacks -/

/-- What is done at the end of a chain of references matters only where it is done. -/
theorem Node.enter_congr {α : Type} (n : Node) {enclosing : Enclosing}
    {read read' : Enclosing → Resolved → Binding (Option α)}
    (h : ∀ target, n.resolved = .ok target → target.node.site ∉ enclosing →
      read (target.node.site :: enclosing) target = read' (target.node.site :: enclosing) target) :
    n.enter enclosing read = n.enter enclosing read' := by
  unfold Node.enter
  refine (onlyTells_orTell n.resolved).bind_congr ?_
  cases ht : n.resolved with
  | error p => rfl
  | ok target =>
    change ite _ _ _ = ite _ _ _
    split
    · rfl
    · next hnew => exact h target ht hnew

/-- A node that is read inside of others can be reached, and there is room and budget left. -/
structure Enclosing.Spare (S : Setting) (start : Node) (budget room : Nat) (enclosing : Enclosing)
    (n : Node) : Prop where
  /-- It can be reached. -/
  reaches : start.Reaches S n
  /-- There is budget left. -/
  afford : Enclosing.Afford S start budget enclosing
  /-- There is room left. -/
  fits : Enclosing.Fits S start room enclosing n

namespace Enclosing.Spare

variable {room : Nat} {enclosing : Enclosing}

theorem inherited : Inherited (Spare S start budget room enclosing) := fun h hmem =>
  ⟨(Node.closed_reaches S start).member h.reaches hmem, h.afford, h.fits.child hmem⟩

/-- The end of the chain of references from the node is read as well. -/
theorem enter (h : Spare S start (budget + 1) (room + 1) enclosing n) {target : Resolved}
    (ht : n.resolved = .ok target) (hnew : target.node.site ∉ enclosing) :
    Spare S start budget room (target.node.site :: enclosing) target.node := by
  have htarget := (Node.closed_reaches S start).resolved h.reaches ht
  exact ⟨htarget, h.afford.cons htarget.mem hnew, h.fits.enter h.reaches.sited.toInside ht hnew⟩

end Enclosing.Spare

/-- Guarded path items and callbacks are read like any others. -/
theorem Node.guarded_eq (hstart : start.Inside S) {read : SchemaReader} (hread : read.Agrees S) :
    (∀ {room : Nat} {enclosing : Enclosing} (path : String) (n : Node),
      Enclosing.Spare S start budget room enclosing n →
      n.pathItemGuarded stuck (start.reachSites S) read budget enclosing path =
        n.pathItemWithin room enclosing path) ∧
    ∀ {room : Nat} {enclosing : Enclosing} (n : Node),
      Enclosing.Spare S start budget room enclosing n →
      n.callbackGuarded stuck (start.reachSites S) read budget enclosing =
        n.callbackWithin room enclosing := by
  induction budget with
  | zero =>
    exact ⟨fun _ _ h => absurd rfl (h.afford.budget_ne_zero hstart),
      fun _ h => absurd rfl (h.afford.budget_ne_zero hstart)⟩
  | succ budget ih =>
    obtain ⟨hpathItem, hcallback⟩ := ih
    constructor
    · intro room enclosing path n h
      obtain ⟨room, rfl⟩ := Nat.exists_eq_succ_of_ne_zero (h.fits.room_ne_zero hstart)
      unfold pathItemGuarded pathItemWithin
      refine n.enter_congr fun target ht hnew => ?_
      have hspare := h.enter ht hnew
      rw [if_pos hspare.afford.among]
      exact SchemaReader.pathItem?_eq hread Enclosing.Spare.inherited
        (fun hm => hm.reaches.sited) hcallback hspare path n.pointer
    · intro room enclosing n h
      obtain ⟨room, rfl⟩ := Nat.exists_eq_succ_of_ne_zero (h.fits.room_ne_zero hstart)
      unfold callbackGuarded callbackWithin
      refine n.enter_congr fun target ht hnew => ?_
      have hspare := h.enter ht hnew
      rw [if_pos hspare.afford.among]
      exact Resolved.callback?_congr Enclosing.Spare.inherited hpathItem hspare

/-- With a budget that is great enough, nothing is read in another way. -/
theorem Readers.agree_guarded (stuck : Binding Unit) (h : S.registry.budget ≤ budget) :
    (guarded stuck budget S).Agree S := by
  have hspare : ∀ n : Node, n.Sited S →
      Enclosing.Spare S n budget n.scope.setting.room [] n := fun n hn =>
    ⟨⟨hn, n.self_mem_reach S⟩, .nil n h, hn.scope.setting ▸ .nil S n⟩
  have hschema : (guarded stuck budget S).schema.Agrees S := by
    intro n hn
    funext w
    have hdepth : n.scope.setting.options.maxDepth = S.options.maxDepth :=
      congrArg (·.options.maxDepth) hn.scope.setting
    unfold Node.schema
    rw [hdepth]
    exact n.schemaGuarded_eq hn.toInside (.nil n h) ⟨hn, n.self_mem_reach S⟩ (by simp)
  exact ⟨hschema,
    fun hn path => (Node.guarded_eq hn.toInside hschema).1 path _ (hspare _ hn),
    fun hn => (Node.guarded_eq hn.toInside hschema).2 _ (hspare _ hn)⟩

/-- Whatever is bound: with every budget that is not lower than that of the registry, whatever is
done where it is used up, where a node is met inside of itself and at nodes that cannot be reached,
one gets the usual description and the usual report.  And at no site are two schemas read. -/
theorem Registry.bind_guarded (r : Registry) (entry : String) (options : Options)
    (version : Version) (declared : String) :
    (∀ (stuck : Binding Unit) (budget : Nat), r.budget ≤ budget →
      r.bindBy (Readers.guarded stuck budget) entry options version declared =
        r.bind entry options version declared) ∧
    ∀ d w, r.run entry options version declared = .ok (d, w) →
      ∀ slot ∈ w.slots, ∀ other ∈ w.slots, slot.1 = other.1 → slot.2.id = other.2.id := by
  refine ⟨fun stuck budget h => ?_, fun d w hrun => ?_⟩
  · refine bindBy_eq (fun S hS => ?_) entry options version declared
    subst hS
    exact Readers.agree_guarded stuck h
  · obtain ⟨_, _, _, _, _, _, _, _, hw⟩ := traced_of_run hrun
    exact hw.sites

/-- A description with a path item whose callback refers back to it, and with two schemas that refer
to each other. -/
def comingBack : Json :=
  .object [("openapi", .string "3.1.0"),
    ("paths", .object [("/a", .object [("post", .object [("callbacks", .object [
      ("again", .object [("http://example.invalid/b", .referenceTo "#/paths/~1a")])])])])]),
    ("components", .object [("schemas", .object [
      ("A", .object [("items", .referenceTo "#/components/schemas/B")]),
      ("B", .object [("items", .referenceTo "#/components/schemas/A")])])])]

/-- The budget of `comingBack` is not great, and to forget everything where it is used up makes no
difference. -/
theorem Registry.bind_guarded_comingBack :
    (single comingBack).budget ≤ 1000 ∧
      (single comingBack).bindBy (Readers.guarded (modify fun _ => .fresh) 1000)
          "http://example.invalid/" .standard .v31 "3.1.0" =
        (single comingBack).bind "http://example.invalid/" .standard .v31 "3.1.0" ∧
      ∃ d w, (single comingBack).run "http://example.invalid/" .standard .v31 "3.1.0" =
          .ok (d, w) ∧
        w.slots ≠ [] ∧
        ∀ slot ∈ w.slots, ∀ other ∈ w.slots, slot.1 = other.1 → slot.2.id = other.2.id := by
  have hleft : ((single comingBack).run "http://example.invalid/" .standard .v31
      "3.1.0").toOption.map (fun left => left.2.slots.isEmpty) = some false := by decide +kernel
  have hbudget : (single comingBack).budget ≤ 1000 := by decide +kernel
  cases hrun : (single comingBack).run "http://example.invalid/" .standard .v31 "3.1.0" with
  | error fault => simp [hrun, Except.toOption] at hleft
  | ok left =>
    rw [hrun] at hleft
    have hslots : left.2.slots ≠ [] := by simpa [Except.toOption] using hleft
    obtain ⟨hbind, hsites⟩ :=
      bind_guarded (single comingBack) "http://example.invalid/" .standard .v31 "3.1.0"
    exact ⟨hbudget, hbind _ _ hbudget, left.1, left.2, rfl, hslots, hsites _ _ hrun⟩

end ApiDescription
