import ApiDescription.Proofs.Binding.Room
import ApiDescription.Proofs.Binding.Simulation

/-!
# Descriptions side by side

In a `Rerun` the documents that are read are the same ones, possibly in another registry and at
another place.  The schemas at nodes outside of schemas are read side by side, and so are the
descriptions of responses, for which one of two versions may ask and the other may not.  Then
everything else is, up to the whole description.

The two registries leave different room for path items and callbacks.  That makes no difference,
since there is enough of it either way.
-/

namespace ApiDescription

/-- Two runs with one version ask alike for the description of a response, if they say alike that it
is missing. -/
theorem Tandem.same_responseText? {t : Tandem} {r : Record} (hr : t.known r.scope)
    (hversion : (t.scope r.scope).version = r.scope.version)
    (htell : t.Same (r.tell (.missing "response" "description"))
      ((t.record r).tell (.missing "response" "description"))) :
    t.Same r.responseText? (t.record r).responseText? := by
  have htext := same_text? hr "description"
  unfold Record.responseText?
  rw [scope_record, hversion]
  exact .ite Iff.rfl (.ite Iff.rfl htext (htell.bind fun _ => .pure _)) htext

/-- A simulation between two settings in which the same documents are read. -/
structure Rerun extends Simulation where
  /-- The setting of the first run. -/
  setting : Setting
  /-- The setting of the second run. -/
  setting' : Setting
  /-- The documents of the first run are registered. -/
  registered {c : Scope} (h : known c) : c.Registered setting
  /-- The documents of the second run are registered. -/
  registered' {c : Scope} (h : known c) : (scope c).Registered setting'
  /-- They are the same documents. -/
  source {c : Scope} (h : known c) : (scope c).source = c.source
  /-- The schemas outside of schemas are read side by side. -/
  schema {n : Node} (h : known n.scope) :
    toSimulation.Same n.schema (toSimulation.node n).schema
  /-- The descriptions of responses are read side by side. -/
  responseText? {r : Record} (h : known r.scope) :
    toSimulation.Same r.responseText? (toSimulation.record r).responseText?

namespace Rerun

open Binding Tandem GuidedTandem Simulation

variable {t : Rerun} {r : Record} {n : Node}

/-! ## Contents -/

theorem same_outerSchema? (hr : t.known r.scope) (key : String) :
    t.Same (r.outerSchema? key) ((t.record r).outerSchema? key) :=
  same_schema? hr key fun _ _ => t.schema

theorem same_mediaType? (hn : t.known n.scope) : t.Same n.mediaType? (t.node n).mediaType? := by
  refine same_record? hn _ (.pure _) fun r hr _ => ?_
  refine (same_readAll hr _ fun _ hm => same_example? hm).bind fun _ => ?_
  exact (same_outerSchema? hr _).bind fun _ => .pure _

theorem same_content (hr : t.known r.scope) : t.Same r.content (t.record r).content := by
  unfold Record.content SchemaReader.content
  rw [field?_record]
  cases hn : r.field? "content" with
  | none => exact .pure _
  | some n =>
    refine same_record? (known_of_field? hr hn) _ (.pure _) fun formats hformats _ => ?_
    exact same_fields hformats fun _ _ hfield => same_mediaType? hfield

theorem same_header? (hn : t.known n.scope) : t.Same n.header? (t.node n).header? :=
  same_resolvedRecord? hn _ (.pure _) fun _ _ hr =>
    (same_text? hr _).bind fun _ => (same_flag hr _).bind fun _ => (same_flag hr _).bind fun _ =>
      (same_outerSchema? hr _).bind fun _ => (same_content hr).bind fun _ => .pure _

theorem same_response? (hn : t.known n.scope) : t.Same n.response? (t.node n).response? := by
  refine same_resolvedRecord? hn _ (.pure _) fun r reference hr => ?_
  refine (t.responseText? hr).bind fun _ => ?_
  exact (same_readAll hr _ fun _ hm => same_header? hm).bind fun _ =>
    (same_readAll hr _ fun _ hm => same_link? hm).bind fun _ =>
      (same_content hr).bind fun _ => .pure _

theorem same_responses (hn : t.known n.scope) : t.Same n.responses (t.node n).responses :=
  same_record? hn _ (.pure _) fun _ hr _ =>
    same_plainFields hr fun _ _ hfield => same_response? hfield

theorem same_requestBody? (hn : t.known n.scope) :
    t.Same n.requestBody? (t.node n).requestBody? := by
  refine same_resolvedRecord? hn _ (.pure _) fun r reference hr => ?_
  refine .ite_bind Iff.rfl (same_tell hr _ _ rfl) (fun _ => ?_) fun hrest => hrest ()
  exact (same_text? hr _).bind fun _ => (same_flag hr _).bind fun _ =>
    (same_content hr).bind fun _ => .pure _

theorem same_parameter (hr : t.known r.scope) (name : String) (place : ParameterPlace)
    (reference : Option String) (location : Pointer) :
    t.Same (r.parameter name place reference location)
      ((t.record r).parameter name place reference location) := by
  refine .ite_bind Iff.rfl (same_tell hr _ _ rfl) (fun _ => ?_) fun hrest => hrest ()
  refine (same_text? hr _).bind fun _ => (same_flag hr _).bind fun _ => ?_
  refine (same_flag hr _).bind fun _ => (same_flag hr _).bind fun _ => ?_
  refine (same_text? hr _).bind fun _ => (same_flag? hr _).bind fun _ => ?_
  exact (same_outerSchema? hr _).bind fun _ => (same_content hr).bind fun _ => .pure _

theorem same_parameter? (hn : t.known n.scope) : t.Same n.parameter? (t.node n).parameter? := by
  refine same_resolvedRecord? hn _ (.pure _) fun r reference hr => ?_
  refine (same_requiredText? hr _ (by decide)).bind fun name => ?_
  refine (same_parameterPlace? hr).bind fun place => ?_
  cases name with
  | none => exact .pure _
  | some name =>
    cases place with
    | none => exact .pure _
    | some place => exact (same_parameter hr _ _ _ _).bind fun _ => .pure _

theorem same_parameters (hr : t.known r.scope) : t.Same r.parameters (t.record r).parameters := by
  unfold Record.parameters SchemaReader.parameters
  rw [field?_record]
  cases hn : r.field? "parameters" with
  | none => exact .pure _
  | some n =>
    refine same_items (known_of_field? hr hn) _ fun hnodes => ?_
    exact .collect fun item hitem => same_parameter? (hnodes item hitem)

/-! ## Operations -/

theorem same_responses? (hr : t.known r.scope) : t.Same r.responses? (t.record r).responses? := by
  unfold Record.responses? SchemaReader.responses?
  rw [field?_record, scope_record, (t.alike hr).requiresResponses]
  cases hn : r.field? "responses" with
  | none => exact .ite Iff.rfl ((same_tell hr _ _ rfl).bind fun _ => .pure _) (.pure _)
  | some n => exact (same_responses (known_of_field? hr hn)).map _

theorem same_bodyOf? (hr : t.known r.scope) : t.Same r.requestBody? (t.record r).requestBody? := by
  unfold Record.requestBody? SchemaReader.bodyOf?
  rw [field?_record]
  cases hn : r.field? "requestBody" with
  | none => exact .pure _
  | some n => exact same_requestBody? (known_of_field? hr hn)

section Operations

/-! Callbacks are read in any two ways that agree at the nodes of some kind, and the members of a
node of that kind are of it, too. -/

variable {P : Node → Prop} (hP : Inherited P) (hknown : ∀ {m : Node}, P m → t.known m.scope)
include hP hknown

variable {read read' : CallbackReader} (hread : ∀ m, P m → t.Same (read m) (read' (t.node m)))
include hread

theorem same_callbacks (hr : P r.node) :
    t.Same (r.callbacks read) ((t.record r).callbacks read') := by
  unfold Record.callbacks
  rw [field?_record]
  cases hn : r.field? "callbacks" with
  | none => exact .pure _
  | some n =>
    have hn := hP.field hr hn
    refine same_record? (hknown hn) _ (.pure _) fun entries hentries heq => ?_
    refine same_fields hentries fun field hfield _ => hread _ ?_
    exact hP.fields (heq ▸ hn) hfield

theorem same_operation? (hn : P n) (method : Method) (path : String) :
    t.Same (n.operation? read method path) ((t.node n).operation? read' method path) := by
  refine same_record? (hknown hn) _ (.pure _) fun r hr heq => ?_
  dsimp only
  rw [scope_record, t.label hr]
  refine (same_responses? hr).bind fun _ => (same_bodyOf? hr).bind fun _ => ?_
  refine (same_security? hr).bind fun _ => (same_text? hr _).bind fun _ => ?_
  refine (same_text? hr _).bind fun _ => (same_text? hr _).bind fun _ => ?_
  refine (same_texts hr _).bind fun _ => (same_parameters hr).bind fun _ => ?_
  refine (same_callbacks hP hknown hread (heq ▸ hn)).bind fun _ => ?_
  exact (same_flag hr _).bind fun _ => (same_servers hr).bind fun _ => .pure _

theorem same_operationOf? (hr : P r.node) (path : String) (method : Method) :
    t.Same (r.operationOf? read path method) ((t.record r).operationOf? read' path method) := by
  unfold Record.operationOf? SchemaReader.operationOf?
  rw [field?_record]
  cases hn : r.field? method.name with
  | none => exact .pure _
  | some n =>
    exact (same_operation? hP hknown hread (hP.field hr hn) method path).bind fun _ => .pure _

theorem same_pathItemOf? {target : Resolved} (ht : P target.node) (path : String)
    (location : Pointer) :
    t.Same (target.pathItem? read path location)
      ((t.resolved target).pathItem? read' path location) := by
  refine same_record? (hknown ht) _ (.pure _) fun r hr heq => ?_
  dsimp only
  rw [scope_record, t.label hr]
  refine (same_text? hr _).bind fun _ => (same_text? hr _).bind fun _ => ?_
  refine (same_servers hr).bind fun _ => (same_parameters hr).bind fun _ => ?_
  have hoperations := Same.collect (l := Method.all) (g := id) fun method _ =>
    same_operationOf? hP hknown hread (heq ▸ ht) path method
  rw [List.map_id] at hoperations
  exact hoperations.bind fun _ => .pure _

end Operations

theorem same_callbackOf? {P : Node → Prop} (hP : Inherited P)
    (hknown : ∀ {m : Node}, P m → t.known m.scope) {read read' : PathItemReader}
    (hread : ∀ path m, P m → t.Same (read path m) (read' path (t.node m))) {target : Resolved}
    (ht : P target.node) :
    t.Same (target.callback? read) ((t.resolved target).callback? read') := by
  refine same_record? (hknown ht) _ (.pure _) fun r hr heq => ?_
  refine (same_plainFields hr fun field hfield _ => hread _ _ ?_).bind fun _ => .pure _
  exact hP.plainFields (heq ▸ ht) hfield

/-! ## Path items and callbacks inside of each other -/

/-- Two runs read path items and callbacks inside of the same ones, and both have room left. -/
structure Roomy (t : Rerun) (start : Node) (room room' : Nat) (enclosing : List Node)
    (n : Node) : Prop where
  /-- The node is read. -/
  known : t.known n.scope
  /-- It is in a document of the registry. -/
  inside : n.Inside t.setting
  /-- The nodes that are being read are in such documents as well. -/
  outer : ∀ m ∈ enclosing, t.known m.scope
  /-- The first run has room. -/
  fits : Enclosing.Fits t.setting start room (enclosing.map Node.site) n
  /-- The second run has room. -/
  fits' : Enclosing.Fits t.setting' (t.node start) room'
    (enclosing.map fun m => (t.node m).site) (t.node n)

theorem inside_node (hn : t.known n.scope) (h : n.Inside t.setting) :
    (t.node n).Inside t.setting' where
  scope := t.registered' hn
  inside := (t.source hn).symm ▸ h.inside

namespace Roomy

variable {start : Node} {room room' : Nat} {enclosing : List Node}

theorem nil (hn : t.known n.scope) (h : n.Inside t.setting) :
    t.Roomy n t.setting.room t.setting'.room [] n where
  known := hn
  inside := h
  outer := by simp
  fits := .nil t.setting n
  fits' := .nil t.setting' (t.node n)

theorem inherited : Inherited (t.Roomy start room room' enclosing) := by
  intro r member h hmem
  have hfits' : Enclosing.Fits t.setting' (t.node start) room'
      (enclosing.map fun m => (t.node m).site) (t.record r).node := h.fits'
  exact ⟨h.known, h.inside.child hmem, h.outer, h.fits.child hmem, hfits'.child hmem⟩

/-- The end of the chain of references from the node is read as well. -/
theorem enter (h : t.Roomy start (room + 1) (room' + 1) enclosing n) {target : Resolved}
    (ht : n.resolved = .ok target) (hknown : t.known target.node.scope)
    (hnew : target.node.site ∉ enclosing.map Node.site) :
    t.Roomy start room room' (target.node :: enclosing) target.node := by
  have ht' := resolved_node_of_ok h.known ht
  have hnew' : (t.node target.node).site ∉ enclosing.map fun m => (t.node m).site :=
    (site_node_mem hknown h.outer).not.mpr hnew
  refine ⟨hknown, h.inside.resolved ht, ?_, h.fits.enter h.inside ht hnew, ?_⟩
  · intro m hm
    rcases List.mem_cons.mp hm with rfl | hold
    · exact hknown
    · exact h.outer m hold
  · exact h.fits'.enter (inside_node h.known h.inside) ht' hnew'

end Roomy

section Within

variable {start : Node} (hstart : t.known start.scope) (hinside : start.Inside t.setting)

theorem same_enter {α : Type} {enclosing : List Node} (hn : t.known n.scope)
    (henclosing : ∀ m ∈ enclosing, t.known m.scope)
    {read read' : Enclosing → Resolved → Binding (Option α)}
    (hread : ∀ target, n.resolved = .ok target → t.known target.node.scope →
      target.node.site ∉ enclosing.map Node.site →
      t.Same (read ((target.node :: enclosing).map Node.site) target)
        (read' ((target.node :: enclosing).map fun m => (t.node m).site) (t.resolved target))) :
    t.Same (n.enter (enclosing.map Node.site) read)
      ((t.node n).enter (enclosing.map fun m => (t.node m).site) read') := by
  refine same_resolved hn (.pure _) fun target ht hknown => ?_
  have hmem : (t.resolved target).node.site ∈ enclosing.map (fun m => (t.node m).site) ↔
      target.node.site ∈ enclosing.map Node.site := site_node_mem hknown henclosing
  by_cases hnew : target.node.site ∈ enclosing.map Node.site
  · dsimp only
    rw [if_pos hnew, if_pos (hmem.mpr hnew)]
    exact (same_tell hn _ _ rfl).bind fun _ => .pure _
  · dsimp only
    rw [if_neg hnew, if_neg (hmem.not.mpr hnew)]
    exact hread target ht hknown hnew

include hstart hinside

/-- Path items and callbacks are read side by side, however deep they stand in each other. -/
theorem same_within (room : Nat) :
    (∀ {room' : Nat} {enclosing : List Node} {n : Node} (path : String),
      t.Roomy start room room' enclosing n →
      t.Same (n.pathItemWithin room (enclosing.map Node.site) path)
        ((t.node n).pathItemWithin room' (enclosing.map fun m => (t.node m).site) path)) ∧
      ∀ {room' : Nat} {enclosing : List Node} {n : Node},
        t.Roomy start room room' enclosing n →
        t.Same (n.callbackWithin room (enclosing.map Node.site))
          ((t.node n).callbackWithin room' (enclosing.map fun m => (t.node m).site)) := by
  have hstart' := inside_node hstart hinside
  induction room with
  | zero =>
    exact ⟨fun _ h => absurd rfl (h.fits.room_ne_zero hinside),
      fun h => absurd rfl (h.fits.room_ne_zero hinside)⟩
  | succ room ih =>
    obtain ⟨hpathItem, hcallback⟩ := ih
    constructor
    · intro room' enclosing n path h
      cases room' with
      | zero => exact absurd rfl (h.fits'.room_ne_zero hstart')
      | succ room' =>
        unfold Node.pathItemWithin
        refine same_enter h.known h.outer fun target ht hknown hnew => ?_
        exact same_pathItemOf? Roomy.inherited Roomy.known (fun _ hm => hcallback hm)
          (h.enter ht hknown hnew) path n.pointer
    · intro room' enclosing n h
      cases room' with
      | zero => exact absurd rfl (h.fits'.room_ne_zero hstart')
      | succ room' =>
        unfold Node.callbackWithin
        refine same_enter h.known h.outer fun target ht hknown hnew => ?_
        exact same_callbackOf? Roomy.inherited Roomy.known (fun path _ hm => hpathItem path hm)
          (h.enter ht hknown hnew)

end Within

/-- A node that is read, in a document of the registry. -/
structure Read (t : Rerun) (n : Node) : Prop where
  /-- The node is read. -/
  known : t.known n.scope
  /-- It is in a document of the registry. -/
  inside : n.Inside t.setting

theorem Read.inherited : Inherited t.Read := fun h hmem => ⟨h.known, h.inside.child hmem⟩

theorem same_pathItem? (hn : t.Read n) (path : String) :
    t.Same (n.pathItem? path) ((t.node n).pathItem? path) := by
  unfold Node.pathItem?
  rw [scope_node, (t.registered hn.known).setting, (t.registered' hn.known).setting]
  exact (same_within hn.known hn.inside _).1 path (.nil hn.known hn.inside)

theorem same_callback? (hn : t.Read n) : t.Same n.callback? (t.node n).callback? := by
  unfold Node.callback?
  rw [scope_node, (t.registered hn.known).setting, (t.registered' hn.known).setting]
  exact (same_within hn.known hn.inside _).2 (.nil hn.known hn.inside)

/-! ## Components -/

theorem same_namedSchema (hn : t.known n.scope) (name : String) :
    t.Same (Record.namedSchema name n) (Record.namedSchema name (t.node n)) :=
  (t.schema hn).bind fun id => (same_rename id name).bind fun _ => .pure _

theorem same_componentSchemas (hr : t.known r.scope) :
    t.Same r.componentSchemas (t.record r).componentSchemas :=
  same_fieldRecord? hr _ (.pure _) fun _ hentries _ =>
    same_fields hentries fun field _ hfield => same_namedSchema hfield field.1

theorem same_componentCallbacks (hr : t.Read r.node) :
    t.Same (r.readAll "callbacks" Node.callback?)
      ((t.record r).readAll "callbacks" Node.callback?) := by
  refine same_fieldRecord? hr.known _ (.pure _) fun entries hentries hfield => ?_
  refine same_fields hentries fun field hmem _ => same_callback? ?_
  exact Read.inherited.fields (Read.inherited.field hr hfield) hmem

theorem same_componentPathItems (hr : t.Read r.node) :
    t.Same r.componentPathItems (t.record r).componentPathItems := by
  have hknown : t.known r.scope := hr.known
  unfold Record.componentPathItems Readers.componentPathItems
  rw [scope_record, (t.alike hknown).hasWebhooks]
  refine .ite Iff.rfl ?_ ((same_refuse hknown _).bind fun _ => .pure _)
  refine same_fieldRecord? hknown _ (.pure _) fun entries hentries hfield => ?_
  refine same_fields hentries fun field hmem _ => same_pathItem? ?_ field.1
  exact Read.inherited.fields (Read.inherited.field hr hfield) hmem

theorem same_componentsWith (hr : t.Read r.node) (schemas : Entries SchemaId) :
    t.Same (r.componentsWith schemas) ((t.record r).componentsWith schemas) := by
  have hknown : t.known r.scope := hr.known
  refine (same_readAll hknown _ fun _ hm => same_response? hm).bind fun _ => ?_
  refine (same_readAll hknown _ fun _ hm => same_parameter? hm).bind fun _ => ?_
  refine (same_readAll hknown _ fun _ hm => same_example? hm).bind fun _ => ?_
  refine (same_readAll hknown _ fun _ hm => same_requestBody? hm).bind fun _ => ?_
  refine (same_readAll hknown _ fun _ hm => same_header? hm).bind fun _ => ?_
  refine (same_readAll hknown _ fun _ hm => same_securityScheme? hm).bind fun _ => ?_
  refine (same_readAll hknown _ fun _ hm => same_link? hm).bind fun _ => ?_
  refine (same_componentCallbacks hr).bind fun _ => ?_
  exact (same_componentPathItems hr).bind fun _ => .pure _

theorem same_components (hr : t.Read r.node) :
    t.Same r.components (t.record r).components := by
  unfold Record.components Readers.componentsOf
  rw [field?_record]
  cases hn : r.field? "components" with
  | none => exact .pure _
  | some n =>
    have hn : t.Read n := Read.inherited.field hr hn
    refine same_record? hn.known _ (.pure _) fun c hc heq => ?_
    exact (same_componentSchemas hc).bind fun schemas => same_componentsWith (heq ▸ hn) schemas

/-! ## The root -/

theorem same_pathItems (hn : t.Read n) : t.Same n.pathItems (t.node n).pathItems := by
  refine same_record? hn.known _ (.pure _) fun r hr heq => ?_
  refine same_plainFields hr fun field hmem _ => same_pathItem? ?_ field.1
  exact Read.inherited.plainFields (heq ▸ hn) hmem

theorem same_paths (hr : t.Read r.node) : t.Same r.paths (t.record r).paths := by
  have hknown : t.known r.scope := hr.known
  unfold Record.paths Readers.paths
  rw [field?_record, scope_record, (t.alike hknown).requiresPaths]
  cases hn : r.field? "paths" with
  | none => exact .ite Iff.rfl ((same_tell hknown _ _ rfl).bind fun _ => .pure _) (.pure _)
  | some n => exact same_pathItems (Read.inherited.field hr hn)

theorem same_webhooks (hr : t.Read r.node) : t.Same r.webhooks (t.record r).webhooks := by
  have hknown : t.known r.scope := hr.known
  unfold Record.webhooks Readers.webhooks
  rw [field?_record, scope_record, (t.alike hknown).hasWebhooks]
  cases hn : r.field? "webhooks" with
  | none => exact .pure _
  | some n =>
    refine .ite Iff.rfl (same_pathItems (Read.inherited.field hr hn)) ?_
    exact (same_refuse hknown _).bind fun _ => .pure _

/-- What comes after the components is the same in the two runs, but for the version that the
description is said to be in. -/
theorem same_descriptionWith (hr : t.Read r.node) (declared : String) (info : Info)
    (jsonSchemaDialect : Option String) (servers : List Server) (components : Components) :
    t.Same
      ((fun d => { d with version := (t.scope r.scope).version }) <$>
        r.descriptionWith declared info jsonSchemaDialect servers components)
      ((t.record r).descriptionWith declared info jsonSchemaDialect servers components) := by
  have hknown : t.known r.scope := hr.known
  unfold Record.descriptionWith Readers.descriptionWith
  simp only [map_bind, map_pure]
  refine (same_paths hr).bind fun _ => (same_webhooks hr).bind fun _ => ?_
  refine (same_checkContents hknown).bind fun _ => (same_security hknown).bind fun _ => ?_
  refine (same_tags hknown).bind fun _ => (same_externalDocs? hknown).bind fun _ => ?_
  refine .of_run (fun _ hw => hw) fun w w' hw => ⟨?_, hw⟩
  have hgraph : w'.graph = w.graph := t.graph hw
  change Description.mk .. = Description.mk ..
  rw [hgraph]
  rfl

/-- The two runs give one description, but for the version that it is said to be in. -/
theorem same_description (hr : t.Read r.node) (declared : String) :
    t.Same ((fun d => { d with version := (t.scope r.scope).version }) <$> r.description declared)
      ((t.record r).description declared) := by
  have hknown : t.known r.scope := hr.known
  unfold Record.description Readers.description
  simp only [map_bind]
  refine (same_checkDeclaration hknown _).bind fun _ => (same_info hknown).bind fun _ => ?_
  refine (same_jsonSchemaDialect? hknown).bind fun _ => (same_servers hknown).bind fun _ => ?_
  exact (same_components hr).bind fun _ => same_descriptionWith hr _ _ _ _ _

end Rerun

end ApiDescription
