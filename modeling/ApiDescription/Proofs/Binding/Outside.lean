import ApiDescription.Proofs.Binding.Places
import ApiDescription.Proofs.Binding.SideBySide

/-!
# What is done outside of schemas

Outside of schemas, findings are added, schemas are read at nodes, and names are given to those of
components; nothing else is done to the workspace.  `Binding.Outside` is the least class of steps
of which this is so, and `Record.Sited.outside_description` says that the whole reading of a
description is in it.  Names are given only while the schemas of components are read, so the class
says whether it has steps that give them.

So what findings and names do not break, and what holds after a schema was read at a node if it did
before, holds after a run: `Binding.Outside.keeps`.
-/

namespace ApiDescription

open Binding

/-- Steps that add findings, read schemas at nodes and, where there is naming, give them names. -/
inductive Binding.Outside (S : Setting) (naming : Prop) : {α : Type} → Binding α → Prop
  /-- Only findings are added. -/
  | tells {α : Type} {m : Binding α} (hm : m.OnlyTells) : Outside S naming m
  /-- The schema at a node is read. -/
  | schema {n : Node} (hn : n.Sited S) : Outside S naming n.schema
  /-- A schema is given a name. -/
  | rename (h : naming) (id : SchemaId) (name : String) :
      Outside S naming (Binding.change id (Schema.named name))
  /-- One step after the other. -/
  | bind {α β : Type} {m : Binding α} {f : α → Binding β} (hm : Outside S naming m)
      (hf : ∀ a, Outside S naming (f a)) : Outside S naming (m >>= f)
  /-- A step after one whose result is the same in every workspace. -/
  | after {α β : Type} {m : Binding α} {f : α → Binding β} (hm : m.OnlyTells)
      (hf : Outside S naming (f m.result)) : Outside S naming (m >>= f)
  /-- A step that depends on the workspace. -/
  | look {α : Type} {f : Workspace → Binding α} (hf : ∀ w, Outside S naming (f w)) :
      Outside S naming (get >>= f)

namespace Binding

variable {α β : Type} {S : Setting} {naming : Prop}

/-- What findings and, where there is naming, names do not break, and what reading the schema at a
node does not break. -/
structure Lasts (S : Setting) (naming : Prop) (P : Workspace → Prop) : Prop where
  /-- It holds when findings were added. -/
  told {w : Workspace} (h : P w) (found : Report) : P { w with report := w.report.append found }
  /-- It holds when a schema was given a name. -/
  renamed (hnaming : naming) {w : Workspace} (h : P w) (id : SchemaId) (name : String) :
    P { w with graph := w.graph.modify id (Schema.named name) }
  /-- It holds when a schema was read. -/
  read {w : Workspace} (h : P w) {n : Node} (hn : n.Sited S) : P (n.schema w).2

namespace Outside

/-- What lasts outside of schemas still holds after each step there. -/
theorem keeps {P : Workspace → Prop} (hP : Lasts S naming P) {m : Binding α}
    (hm : Outside S naming m) {w : Workspace} (hw : P w) : P (m w).2 := by
  induction hm generalizing w with
  | tells hm =>
    obtain ⟨found, hrun⟩ := hm.run
    rw [hrun]
    exact hP.told hw found
  | schema hn => exact hP.read hw hn
  | rename hnaming id name => exact hP.renamed hnaming hw id name
  | bind _ _ ihm ihf => exact ihf _ (ihm hw)
  | @after _ _ _ f hm _ ih =>
    obtain ⟨found, hrun⟩ := hm.run
    have hbind := congrArg (fun left => (f left.1 left.2).2) (hrun w)
    exact hbind ▸ ih (hP.told hw found)
  | look _ ih => exact ih w hw

protected theorem pure (a : α) : Outside S naming (pure a) := .tells (.pure a)

protected theorem ite {c : Prop} [Decidable c] {m m' : Binding α} (hm : Outside S naming m)
    (hm' : Outside S naming m') : Outside S naming (if c then m else m') := by
  split
  · exact hm
  · exact hm'

/-- A choice with something after it: what is shown of it behind the one arm is at hand in the
other. -/
protected theorem ite_bind {c : Prop} [Decidable c] {m : Binding α} {f : α → Binding β}
    {k : Binding β} (hm : Outside S naming m) (hf : ∀ a, Outside S naming (f a))
    (hk : (∀ a, Outside S naming (f a)) → Outside S naming k) :
    Outside S naming (if c then m >>= f else k) :=
  .ite (hm.bind hf) (hk hf)

protected theorem collect {step : α → Binding (Option β)} {l : List α}
    (h : ∀ a ∈ l, Outside S naming (step a)) : Outside S naming (collect step l) := by
  induction l with
  | nil => exact .pure []
  | cons a rest ih =>
    refine (h a List.mem_cons_self).bind fun _ => ?_
    exact (ih fun a ha => h a (List.mem_cons_of_mem _ ha)).bind fun _ => .pure _

theorem readFields {fields : List (String × Node)} {step : String → Node → Binding (Option α)}
    (h : ∀ field ∈ fields, Outside S naming (step field.1 field.2)) :
    Outside S naming (Record.readFields fields step) :=
  .collect fun field hfield => (h field hfield).bind fun _ => .pure _

end Outside

end Binding

variable {S : Setting} {naming : Prop} {r : Record} {n : Node} {β : Type}

/-! ## Objects -/

/-- What is done with the object that a node is. -/
theorem Node.Sited.outside_record? (hn : n.Sited S) (what : String) {f : Option Record → Binding β}
    (hnone : Outside S naming (f none))
    (hsome : ∀ r : Record, r.Sited S → Outside S naming (f (some r))) :
    Outside S naming (n.record? what >>= f) := by
  refine .after (n.onlyTells_record? what) ?_
  rw [result_record?]
  cases hr : n.object? with
  | none => exact hnone
  | some r => exact hsome r (hn.object hr)

/-- What is done with the object in a field. -/
theorem Record.Sited.outside_record? (hr : r.Sited S) (key : String)
    {f : Option Record → Binding β} (hnone : Outside S naming (f none))
    (hsome : ∀ r : Record, r.Sited S → Outside S naming (f (some r))) :
    Outside S naming (r.record? key >>= f) := by
  refine .after (r.onlyTells_record? key) ?_
  rw [result_record?]
  cases hinner : (r.field? key).bind Node.object? with
  | none => exact hnone
  | some inner => exact hsome inner ((of_field?_object? hinner).2.2 hr)

/-- What is done with the object that a node stands for. -/
theorem Node.Sited.outside_resolvedRecord? (hn : n.Sited S) (what : String)
    {f : Option ResolvedRecord → Binding β} (hnone : Outside S naming (f none))
    (hsome : ∀ (r : Record) (reference : Option String), r.Sited S →
      Outside S naming (f (some ⟨r, reference⟩))) :
    Outside S naming (n.resolvedRecord? what >>= f) := by
  refine .after (n.onlyTells_resolvedRecord? what) ?_
  rcases n.result_resolvedRecord?_cases what with hlost | ⟨target, r, ht, hr, hfound⟩
  · exact hlost ▸ hnone
  · exact hfound ▸ hsome r _ ((hn.resolved ht).object hr)

theorem Record.Sited.outside_readAll (hr : r.Sited S) (key : String)
    {step : Node → Binding (Option β)} (h : ∀ n : Node, n.Sited S → Outside S naming (step n)) :
    Outside S naming (r.readAll key step) :=
  hr.outside_record? key (.pure _) fun _ hinner =>
    .readFields fun _ hfield => h _ (hinner.fields hfield)

/-! ## Contents -/

theorem Record.Sited.outside_outerSchema? (hr : r.Sited S) (key : String) :
    Outside S naming (r.outerSchema? key) := by
  unfold outerSchema? schema?
  split
  · exact .pure _
  · next n hn => exact (Outside.schema (hr.field hn)).bind fun _ => .pure _

theorem Node.Sited.outside_mediaType? (hn : n.Sited S) : Outside S naming n.mediaType? := by
  refine hn.outside_record? _ (.pure _) fun r hr => ?_
  refine .after (r.onlyTells_readAll _ Node.onlyTells_example?) ?_
  exact (hr.outside_outerSchema? _).bind fun _ => .pure _

theorem Record.Sited.outside_content (hr : r.Sited S) : Outside S naming r.content := by
  unfold content SchemaReader.content
  split
  · exact .pure _
  · next n hn =>
    refine (hr.field hn).outside_record? _ (.pure _) fun formats hformats => ?_
    exact .readFields fun field hfield => (hformats.fields hfield).outside_mediaType?

theorem Node.Sited.outside_header? (hn : n.Sited S) : Outside S naming n.header? := by
  refine hn.outside_resolvedRecord? _ (.pure _) fun r reference hr => ?_
  refine .after (r.onlyTells_text? _) (.after (r.onlyTells_flag _) ?_)
  refine .after (r.onlyTells_flag _) ((hr.outside_outerSchema? _).bind fun _ => ?_)
  exact hr.outside_content.bind fun _ => .pure _

theorem Node.Sited.outside_response? (hn : n.Sited S) : Outside S naming n.response? := by
  refine hn.outside_resolvedRecord? _ (.pure _) fun r reference hr => ?_
  refine .after r.onlyTells_responseText? ?_
  refine (hr.outside_readAll _ fun _ hn => hn.outside_header?).bind fun _ => ?_
  refine .after (r.onlyTells_readAll _ Node.onlyTells_link?) ?_
  exact hr.outside_content.bind fun _ => .pure _

theorem Node.Sited.outside_responses (hn : n.Sited S) : Outside S naming n.responses :=
  hn.outside_record? _ (.pure _) fun _ hr =>
    .readFields fun _ hfield => (hr.plainFields hfield).outside_response?

theorem Node.Sited.outside_requestBody? (hn : n.Sited S) : Outside S naming n.requestBody? := by
  refine hn.outside_resolvedRecord? _ (.pure _) fun r reference hr => ?_
  refine .ite_bind (.tells (r.onlyTells_tell _)) (fun _ => ?_) fun hrest => hrest ()
  refine .after (r.onlyTells_text? _) (.after (r.onlyTells_flag _) ?_)
  exact hr.outside_content.bind fun _ => .pure _

theorem Record.Sited.outside_parameter (hr : r.Sited S) (name : String) (place : ParameterPlace)
    (reference : Option String) (location : Pointer) :
    Outside S naming (r.parameter name place reference location) := by
  refine .ite_bind (.tells (r.onlyTells_tell _)) (fun _ => ?_) fun hrest => hrest ()
  refine .after (r.onlyTells_text? _) (.after (r.onlyTells_flag _) ?_)
  refine .after (r.onlyTells_flag _) (.after (r.onlyTells_flag _) ?_)
  refine .after (r.onlyTells_text? _) (.after (r.onlyTells_flag? _) ?_)
  refine (hr.outside_outerSchema? _).bind fun _ => ?_
  exact hr.outside_content.bind fun _ => .pure _

theorem Node.Sited.outside_parameter? (hn : n.Sited S) : Outside S naming n.parameter? := by
  refine hn.outside_resolvedRecord? _ (.pure _) fun r reference hr => ?_
  refine .after (r.onlyTells_requiredText? _ _) (.after r.onlyTells_parameterPlace? ?_)
  split
  · exact (hr.outside_parameter _ _ _ _).bind fun _ => .pure _
  · exact .pure _

theorem Record.Sited.outside_parameters (hr : r.Sited S) : Outside S naming r.parameters := by
  unfold parameters SchemaReader.parameters
  split
  · exact .pure _
  · next n hn =>
    refine .after (n.onlyTells_items _) ?_
    rw [Node.result_items]
    exact .collect fun item hitem => ((hr.field hn).item hitem).outside_parameter?

/-! ## Path items, operations and callbacks -/

/-- A way to read what stands at nodes stays outside of schemas. -/
def ReadsOutside {α : Type} (S : Setting) (naming : Prop) (read : Node → Binding (Option α)) :
    Prop :=
  ∀ {n : Node}, n.Sited S → Outside S naming (read n)

namespace Record.Sited

theorem outside_responses? (hr : r.Sited S) : Outside S naming r.responses? := by
  unfold responses? SchemaReader.responses?
  split
  · next n hn => exact (hr.field hn).outside_responses.bind fun _ => .pure _
  · exact .ite (.after (r.onlyTells_tell _) (.pure _)) (.pure _)

theorem outside_requestBody? (hr : r.Sited S) : Outside S naming r.requestBody? := by
  unfold requestBody? SchemaReader.bodyOf?
  split
  · exact .pure _
  · next n hn => exact (hr.field hn).outside_requestBody?

theorem outside_callbacks (hr : r.Sited S) {read : CallbackReader}
    (hread : ReadsOutside S naming read) :
    Outside S naming (r.callbacks read) := by
  unfold callbacks
  split
  · exact .pure _
  · next n hn =>
    refine (hr.field hn).outside_record? _ (.pure _) fun entries hentries => ?_
    exact .readFields fun field hfield => hread (hentries.fields hfield)

end Record.Sited

theorem Node.Sited.outside_operation? (hn : n.Sited S) {read : CallbackReader}
    (hread : ReadsOutside S naming read) (method : Method) (path : String) :
    Outside S naming (n.operation? read method path) := by
  refine hn.outside_record? _ (.pure _) fun r hr => ?_
  refine hr.outside_responses?.bind fun _ => hr.outside_requestBody?.bind fun _ => ?_
  refine .after r.onlyTells_security? (.after (r.onlyTells_text? _) ?_)
  refine .after (r.onlyTells_text? _) (.after (r.onlyTells_text? _) ?_)
  refine .after (r.onlyTells_texts _) (hr.outside_parameters.bind fun _ => ?_)
  refine (hr.outside_callbacks hread).bind fun _ => ?_
  exact .after (r.onlyTells_flag _) (.after r.onlyTells_servers (.pure _))

theorem Record.Sited.outside_operationOf? (hr : r.Sited S) {read : CallbackReader}
    (hread : ReadsOutside S naming read) (path : String) (method : Method) :
    Outside S naming (r.operationOf? read path method) := by
  unfold operationOf? SchemaReader.operationOf?
  split
  · exact .pure _
  · next n hn => exact ((hr.field hn).outside_operation? hread _ _).bind fun _ => .pure _

theorem Resolved.outside_pathItem? {target : Resolved} (ht : target.node.Sited S)
    {read : CallbackReader} (hread : ReadsOutside S naming read) (path : String)
    (location : Pointer) :
    Outside S naming (target.pathItem? read path location) := by
  refine ht.outside_record? _ (.pure _) fun r hr => ?_
  refine .after (r.onlyTells_text? _) (.after (r.onlyTells_text? _) ?_)
  refine .after r.onlyTells_servers (hr.outside_parameters.bind fun _ => ?_)
  exact Outside.bind (.collect fun method _ => hr.outside_operationOf? hread path method)
    fun _ => .pure _

theorem Resolved.outside_callback? {target : Resolved} (ht : target.node.Sited S)
    {read : PathItemReader} (hread : ∀ key, ReadsOutside S naming (read key)) :
    Outside S naming (target.callback? read) := by
  refine ht.outside_record? _ (.pure _) fun r hr => ?_
  exact Outside.bind (.readFields fun field hfield => hread field.1 (hr.plainFields hfield))
    fun _ => .pure _

theorem Node.Sited.outside_enter (hn : n.Sited S) (enclosing : Enclosing)
    {read : Enclosing → Resolved → Binding (Option β)}
    (hread : ∀ enclosing target, target.node.Sited S → Outside S naming (read enclosing target)) :
    Outside S naming (n.enter enclosing read) := by
  refine .after (onlyTells_orTell n.resolved) ?_
  cases ht : n.resolved with
  | error p => exact .pure _
  | ok target => exact .ite (.after (n.onlyTells_tell _) (.pure _)) (hread _ _ (hn.resolved ht))

/-- Path items and callbacks are read inside of each other, as deep as there is room. -/
theorem Node.Sited.outside_within (room : Nat) :
    (∀ enclosing path, ReadsOutside S naming (Node.pathItemWithin room enclosing path)) ∧
      ∀ enclosing, ReadsOutside S naming (Node.callbackWithin room enclosing) := by
  induction room with
  | zero =>
    constructor
    · intro enclosing path n _
      unfold pathItemWithin
      exact .pure _
    · intro enclosing n _
      unfold callbackWithin
      exact .pure _
  | succ room ih =>
    obtain ⟨hpathItem, hcallback⟩ := ih
    constructor
    · intro enclosing path n hn
      unfold pathItemWithin
      exact hn.outside_enter enclosing fun inner _ ht =>
        Resolved.outside_pathItem? ht (hcallback inner) path n.pointer
    · intro enclosing n hn
      unfold callbackWithin
      exact hn.outside_enter enclosing fun inner _ ht =>
        Resolved.outside_callback? ht (hpathItem inner)

theorem Node.outside_pathItem? (path : String) :
    ReadsOutside S naming (Node.pathItem? path) := fun hn =>
  (Sited.outside_within _).1 [] path hn

theorem Node.outside_callback? : ReadsOutside S naming Node.callback? := fun hn =>
  (Sited.outside_within _).2 [] hn

/-! ## Components -/

namespace Record.Sited

theorem outside_componentSchemas (hr : r.Sited S) (hnaming : naming) :
    Outside S naming r.componentSchemas := by
  refine hr.outside_record? _ (.pure _) fun entries hentries => .readFields fun field hfield => ?_
  exact (Outside.schema (hentries.fields hfield)).bind fun id =>
    (Outside.rename hnaming id field.1).bind fun _ => .pure _

theorem outside_componentPathItems (hr : r.Sited S) : Outside S naming r.componentPathItems := by
  refine .ite ?_ (.after (r.onlyTells_refuse _) (.pure _))
  refine hr.outside_record? _ (.pure _) fun entries hentries => ?_
  exact .readFields fun field hfield => Node.outside_pathItem? field.1 (hentries.fields hfield)

theorem outside_componentsWith (hr : r.Sited S) (schemas : Entries SchemaId) :
    Outside S naming (r.componentsWith schemas) := by
  refine (hr.outside_readAll _ fun _ h => h.outside_response?).bind fun _ => ?_
  refine (hr.outside_readAll _ fun _ h => h.outside_parameter?).bind fun _ => ?_
  refine .after (r.onlyTells_readAll _ Node.onlyTells_example?) ?_
  refine (hr.outside_readAll _ fun _ h => h.outside_requestBody?).bind fun _ => ?_
  refine (hr.outside_readAll _ fun _ h => h.outside_header?).bind fun _ => ?_
  refine .after (r.onlyTells_readAll _ Node.onlyTells_securityScheme?) ?_
  refine .after (r.onlyTells_readAll _ Node.onlyTells_link?) ?_
  refine (hr.outside_readAll _ fun _ => Node.outside_callback?).bind fun _ => ?_
  exact hr.outside_componentPathItems.bind fun _ => .pure _

end Record.Sited

theorem Node.Sited.outside_components (hn : n.Sited S) (hnaming : naming) :
    Outside S naming n.components :=
  hn.outside_record? _ (.pure _) fun _ hr =>
    (hr.outside_componentSchemas hnaming).bind fun schemas => hr.outside_componentsWith schemas

/-! ## The root -/

theorem Node.Sited.outside_pathItems (hn : n.Sited S) : Outside S naming n.pathItems := by
  refine hn.outside_record? _ (.pure _) fun r hr => ?_
  exact .readFields fun field hfield => Node.outside_pathItem? field.1 (hr.plainFields hfield)

namespace Record.Sited

theorem outside_components (hr : r.Sited S) (hnaming : naming) :
    Outside S naming r.components := by
  unfold components Readers.componentsOf
  split
  · exact .pure _
  · next n hn => exact (hr.field hn).outside_components hnaming

theorem outside_paths (hr : r.Sited S) : Outside S naming r.paths := by
  unfold paths Readers.paths
  split
  · next n hn => exact (hr.field hn).outside_pathItems
  · exact .ite (.after (r.onlyTells_tell _) (.pure _)) (.pure _)

theorem outside_webhooks (hr : r.Sited S) : Outside S naming r.webhooks := by
  unfold webhooks Readers.webhooks
  split
  · exact .pure _
  · next n hn =>
    exact .ite (hr.field hn).outside_pathItems (.after (r.onlyTells_refuse _) (.pure _))

/-- What is read after the components gives no names. -/
theorem outside_descriptionWith (hr : r.Sited S) (declared : String) (info : Info)
    (jsonSchemaDialect : Option String) (servers : List Server) (components : Components) :
    Outside S naming
      (r.descriptionWith declared info jsonSchemaDialect servers components) := by
  refine hr.outside_paths.bind fun _ => hr.outside_webhooks.bind fun _ => ?_
  refine .after r.onlyTells_checkContents (.after r.onlyTells_security ?_)
  exact .after r.onlyTells_tags (.after r.onlyTells_externalDocs? (.look fun _ => .pure _))

theorem outside_description (hr : r.Sited S) (hnaming : naming) (declared : String) :
    Outside S naming (r.description declared) := by
  refine .after (r.onlyTells_checkDeclaration _) (.after r.onlyTells_info ?_)
  refine .after r.onlyTells_jsonSchemaDialect? (.after r.onlyTells_servers ?_)
  refine (hr.outside_components hnaming).bind fun components => ?_
  exact hr.outside_descriptionWith declared _ _ _ components

end Record.Sited

/-! ## Whole runs -/

/-- What lasts outside of schemas holds at the end of a run over a document if it holds when nothing
has been done. -/
theorem RegisteredDocument.lasts_of_run {source : RegisteredDocument} {declared : String}
    {d : Description} {w : Workspace} (hsource : S.registry.documents[S.entry]? = some source)
    (h : source.run S declared = .ok (d, w)) {P : Workspace → Prop} (hP : Binding.Lasts S True P)
    (hfresh : P .fresh) : P w := by
  obtain ⟨root, hroot, hrun⟩ := exists_root_of_run hsource h
  obtain ⟨-, rfl⟩ := Prod.mk.inj hrun
  exact ((Setting.sited_root hroot).outside_description trivial declared).keeps hP hfresh

end ApiDescription
