import ApiDescription.Binding.Description
import ApiDescription.Proofs.Binding.TallySchema

/-!
# Descriptions are read once

Outside of schemas every step costs the share of the node that it reads, or the spots of the object
whose fields it reads.  Path items and callbacks are read over arbitrary ways to read what is inside
of them, and then at any depth.  In the end a description costs no more than the root of the entry
document: a diagnostic that nothing makes be found again is found once.
-/

namespace ApiDescription

open Binding

variable {S : Setting} {D : Diagnostic} {n : Node} {r : Record}

/-! ## Fields of objects -/

section Fields

variable (h : S.Sole D) (hr : r.Plays S .object) {key : String} (hkey : key ≠ "schema")
include h hr hkey

/-- No field of an object is part of a schema, unless it is called that. -/
theorem Record.costs_outerText? : Costs S D (r.cost D false [.at key]) (r.text? key) :=
  costs_text? h hr (Role.inSchema_under_object hkey)

theorem Record.costs_outerFlag : Costs S D (r.cost D false [.at key]) (r.flag key) :=
  costs_flag h hr (Role.inSchema_under_object hkey)

theorem Record.costs_outerRequired? (owner : String) :
    Costs S D (r.cost D false [.about (.missing owner key), .at key]) (r.requiredText? owner key) :=
  costs_requiredText? h hr (Role.inSchema_under_object hkey) rfl owner

end Fields

/-! ## Servers, security requirements and tags -/

section Plain

variable (h : S.Sole D)
include h

/-- What the objects in a field are read as costs what is below the field. -/
theorem Record.costs_objects (hr : r.Plays S .object) (key : String)
    (hkey : Role.ofField key = .several .object) {α : Type} {step : Node → Binding (Option α)}
    (hstep : ∀ m : Node, m.Plays S .object → Costs S D (m.share D false) (step m)) :
    Costs S D (r.cost D false [.below key]) (r.readAll key step) := by
  have hrole : Role.object.under key = .several .object := hkey
  refine costs_readAll h hr (by rw [hrole]; rfl) fun name m hm => hstep m ?_
  rwa [hrole] at hm

theorem Node.costs_serverVariable? (hn : n.Plays S .object) :
    Costs S D (n.share D false) n.serverVariable? := by
  refine costs_record? h hn rfl _ .pure fun r hr => ?_
  refine Costs.share [.below "enum", .about (.missing "server variable" "default"), .at "default",
    .at "description"] ?_ (by decide)
  refine .ite_append ((Record.costs_texts h hr rfl fun _ => rfl).map some) (fun _ => ?_)
    fun hrest => (Costs.after .pure hrest).le (Nat.le_add_left _ _)
  refine (Record.costs_outerRequired? h hr (by decide) _).append fun defaultValue => ?_
  exact (Record.costs_outerText? h hr (by decide)).thenPure

theorem Node.costs_server? (hn : n.Plays S .object) : Costs S D (n.share D false) n.server? := by
  refine costs_record? h hn rfl _ .pure fun r hr => ?_
  refine Costs.share [.about (.missing "server" "url"), .at "url", .below "variables",
    .at "description"] ?_ (by decide)
  refine (Record.costs_outerRequired? h hr (by decide) _).append fun
    | none => Costs.pure.le (Nat.zero_le _)
    | some url => ?_
  refine (Record.costs_objects h hr "variables" rfl fun _ => costs_serverVariable? h).append
    fun variableMap => ?_
  exact (Record.costs_outerText? h hr (by decide)).thenPure

theorem Record.costs_servers (hr : r.Plays S .object) :
    Costs S D (r.cost D false [.below "servers"]) r.servers :=
  costs_list h hr rfl _ fun _ _ hm => Node.costs_server? h hm

theorem Node.costs_securityRequirement? (hn : n.Plays S (.several .object)) :
    Costs S D (n.share D false) n.securityRequirement? := by
  refine costs_record? h hn rfl _ .pure fun r hr => ?_
  refine (Record.costs_readFields h hr fun member hmember => ?_).thenPure
  refine (Record.costs_texts h hr rfl fun i => Role.inSchema_under_object ?_).thenPure
  -- the names of items are numbers
  intro hname
  have hnone : Json.index? "schema" = none := by decide
  exact Option.some_ne_none i ((Json.index?_toString i).symm.trans (hname ▸ hnone))

theorem Node.costs_security (hn : n.Plays S (.several (.several .object))) :
    Costs S D (n.share D false) n.security :=
  costs_items h hn rfl _ fun _ _ hm => costs_securityRequirement? h hm

theorem Record.costs_externalDocs? (hr : r.Plays S .object) :
    Costs S D (r.cost D false [.below "externalDocs"]) r.externalDocs? := by
  refine costs_field hr fun n (hn : n.Plays S .object) => ?_
  refine Node.costs_record? h hn rfl _ .pure fun docs hdocs => ?_
  refine Costs.share [.about (.missing "externalDocs" "url"), .at "url", .at "description"] ?_
    (by decide)
  refine (costs_outerRequired? h hdocs (by decide) _).append fun
    | none => Costs.pure.le (Nat.zero_le _)
    | some url => ?_
  exact (costs_outerText? h hdocs (by decide)).thenPure

theorem Node.costs_tag? (hn : n.Plays S .object) : Costs S D (n.share D false) n.tag? := by
  refine costs_record? h hn rfl _ .pure fun r hr => ?_
  refine Costs.share [.about (.missing "tag" "name"), .at "name", .below "externalDocs",
    .at "description"] ?_ (by decide)
  refine (Record.costs_outerRequired? h hr (by decide) _).append fun
    | none => Costs.pure.le (Nat.zero_le _)
    | some name => ?_
  refine (Record.costs_externalDocs? h hr).append fun externalDocs => ?_
  exact (Record.costs_outerText? h hr (by decide)).thenPure

theorem Record.costs_tags (hr : r.Plays S .object) :
    Costs S D (r.cost D false [.below "tags"]) r.tags :=
  costs_list h hr rfl _ fun _ _ hm => Node.costs_tag? h hm

end Plain

/-! ## Parameters, contents and responses -/

section Parts

variable (h : S.Sole D)
include h

/-- Schemas are paid for elsewhere. -/
theorem Record.costs_outerSchema? (hr : r.Plays S .object) :
    Costs S D 0 (r.outerSchema? "schema") := by
  unfold outerSchema? schema?
  split
  · exact .pure
  · next hfield => exact (Node.costs_schema h (hr.field hfield)).thenPure

theorem Node.costs_example? (hn : n.Plays S .object) : Costs S D (n.share D false) n.example? := by
  refine costs_resolvedRecord? h hn rfl rfl rfl _ .pure fun r reference hr => ?_
  refine Costs.share [.at "summary", .at "description", .at "externalValue"] ?_ (by decide)
  refine (Record.costs_outerText? h hr (by decide)).append fun summary => ?_
  refine (Record.costs_outerText? h hr (by decide)).append fun description => ?_
  exact (Record.costs_outerText? h hr (by decide)).thenPure

theorem Node.costs_mediaType? (hn : n.Plays S .object) :
    Costs S D (n.share D false) n.mediaType? := by
  refine costs_record? h hn rfl _ .pure fun r hr => ?_
  refine Costs.share [.below "examples"] ?_ (by decide)
  refine (Record.costs_objects h hr "examples" rfl fun _ => costs_example? h).bind fun examples => ?_
  exact (Record.costs_outerSchema? h hr).thenPure

theorem Record.costs_content (hr : r.Plays S .object) :
    Costs S D (r.cost D false [.below "content"]) r.content := by
  refine costs_field hr fun n (hn : n.Plays S (.several .object)) => ?_
  refine Node.costs_record? h hn rfl _ .pure fun formats hformats => ?_
  exact costs_readFields h hformats fun member hm => Node.costs_mediaType? h hm

theorem Node.costs_header? (hn : n.Plays S .object) : Costs S D (n.share D false) n.header? := by
  refine costs_resolvedRecord? h hn rfl rfl rfl _ .pure fun r reference hr => ?_
  refine Costs.share [.at "description", .at "required", .at "deprecated", .below "content"] ?_
    (by decide)
  refine (Record.costs_outerText? h hr (by decide)).append fun description => ?_
  refine (Record.costs_outerFlag h hr (by decide)).append fun required => ?_
  refine (Record.costs_outerFlag h hr (by decide)).append fun deprecated => ?_
  refine (Record.costs_outerSchema? h hr).after fun schema => ?_
  exact (Record.costs_content h hr).thenPure

theorem Node.costs_link? (hn : n.Plays S .object) : Costs S D (n.share D false) n.link? := by
  refine costs_resolvedRecord? h hn rfl rfl rfl _ .pure fun r reference hr => ?_
  refine Costs.share [.about .operationNamedTwice, .at "parameters", .at "operationId",
    .at "operationRef", .at "description"] ?_ (by decide)
  refine .ite_append (Record.costs_tell rfl h hr _) (fun _ => ?_)
    fun hrest => (hrest ()).le (Nat.le_add_left _ _)
  have hrecord : Costs S D (r.cost D false [.at "parameters"]) (r.record? "parameters") :=
    Record.costs_emptyRecord? h hr rfl (f := pure) .pure fun _ _ => .pure
  refine hrecord.append fun parameters => ?_
  refine (Record.costs_outerText? h hr (by decide)).append fun operationId => ?_
  refine (Record.costs_outerText? h hr (by decide)).append fun operationRef => ?_
  exact (Record.costs_outerText? h hr (by decide)).thenPure

theorem Record.costs_responseText? (hr : r.Plays S .object) :
    Costs S D (r.cost D false [.about (.missing "response" "description"), .at "description"])
      r.responseText? := by
  unfold responseText?
  refine .ite (fun _ => costs_outerRequired? h hr (by decide) _) fun _ => ?_
  exact (costs_outerText? h hr (by decide)).le (Nat.le_add_left _ _)

theorem Node.costs_response? (hn : n.Plays S .object) :
    Costs S D (n.share D false) n.response? := by
  refine costs_resolvedRecord? h hn rfl rfl rfl _ .pure fun r reference hr => ?_
  refine Costs.share [.about (.missing "response" "description"), .at "description",
    .below "headers", .below "links", .below "content"] ?_ (by decide)
  refine (Record.costs_responseText? h hr).append fun description => ?_
  refine (Record.costs_objects h hr "headers" rfl fun _ => costs_header? h).append fun headers => ?_
  refine (Record.costs_objects h hr "links" rfl fun _ => costs_link? h).append fun links => ?_
  exact (Record.costs_content h hr).thenPure

theorem Node.costs_responses (hn : n.Plays S (.several .object)) :
    Costs S D (n.share D false) n.responses :=
  costs_record? h hn rfl _ .pure fun _ hr =>
    Record.costs_readPlainFields h hr fun _ hm => costs_response? h hm

theorem Node.costs_requestBody? (hn : n.Plays S .object) :
    Costs S D (n.share D false) n.requestBody? := by
  refine costs_resolvedRecord? h hn rfl rfl rfl _ .pure fun r reference hr => ?_
  refine Costs.share [.about (.missing "request body" "content"), .at "description", .at "required",
    .below "content"] ?_ (by decide)
  refine .ite_append (Record.costs_tell rfl h hr _) (fun _ => ?_)
    fun hrest => (hrest ()).le (Nat.le_add_left _ _)
  refine (Record.costs_outerText? h hr (by decide)).append fun description => ?_
  refine (Record.costs_outerFlag h hr (by decide)).append fun required => ?_
  exact (Record.costs_content h hr).thenPure

/-- A place that is no text is reported when it is read, and one that is not known afterwards. -/
theorem Record.costs_parameterPlace? (hr : r.Plays S .object) :
    Costs S D (r.cost D false [.about (.missing "parameter" "in"), .at "in"])
      r.parameterPlace? := by
  refine CostsOr.bind (costsOr_requiredText? h hr rfl rfl _) .pure (fun name => ?_) (Nat.le_refl _)
  refine .ite (fun _ => ?_) fun _ => Costs.pure.le (Nat.zero_le _)
  exact ((costs_tellField h hr rfl _).bind fun _ => .pure).le (Nat.le_add_left _ _)

/-- What is found about a parameter besides its name and its place. -/
def parameterSpots : List Spot :=
  [.kind .unexpectedType, .at "description", .at "required", .at "deprecated",
    .at "allowEmptyValue", .at "style", .at "explode", .below "content"]

theorem Record.costs_parameter (hr : r.Plays S .object) (name : String) (place : ParameterPlace)
    (reference : Option String) (location : Pointer) :
    Costs S D (r.cost D false parameterSpots) (r.parameter name place reference location) := by
  refine .ite_append (costs_tellKind rfl h hr (.schemaAndContent name)) (fun _ => ?_)
    fun hrest => (hrest ()).le (Nat.le_add_left _ _)
  refine (costs_outerText? h hr (by decide)).append fun description => ?_
  refine (costs_outerFlag h hr (by decide)).append fun required => ?_
  refine (costs_outerFlag h hr (by decide)).append fun deprecated => ?_
  refine (costs_outerFlag h hr (by decide)).append fun allowEmptyValue => ?_
  refine (costs_outerText? h hr (by decide)).append fun style => ?_
  refine (costs_flag? h hr rfl).append fun explode => ?_
  refine (costs_outerSchema? h hr).after fun schema => ?_
  exact (costs_content h hr).thenPure

theorem Node.costs_parameter? (hn : n.Plays S .object) :
    Costs S D (n.share D false) n.parameter? := by
  refine costs_resolvedRecord? h hn rfl rfl rfl _ .pure fun r reference hr => ?_
  refine Costs.share (.about (.missing "parameter" "name") :: .at "name" ::
    .about (.missing "parameter" "in") :: .at "in" :: parameterSpots) ?_ (by decide)
  refine (Record.costs_outerRequired? h hr (by decide) _).append fun name => ?_
  refine (Record.costs_parameterPlace? h hr).append fun place => ?_
  split
  · exact (Record.costs_parameter h hr _ _ _ _).thenPure
  · exact Costs.pure.le (Nat.zero_le _)

theorem Record.costs_parameters (hr : r.Plays S .object) :
    Costs S D (r.cost D false [.below "parameters"]) r.parameters :=
  costs_list h hr rfl _ fun _ _ hm => Node.costs_parameter? h hm

end Parts

/-! ## Operations -/

/-- A way to read callbacks costs no more than the share of the node. -/
def CallbackReader.Thrifty (S : Setting) (D : Diagnostic) (read : CallbackReader) : Prop :=
  ∀ {n : Node}, n.Plays S (.several .object) → Costs S D (n.share D false) (read n)

/-- A way to read path items costs no more than the share of the node. -/
def PathItemReader.Thrifty (S : Setting) (D : Diagnostic) (read : PathItemReader) : Prop :=
  ∀ path {n : Node}, n.Plays S .object → Costs S D (n.share D false) (read path n)

section Operations

variable (h : S.Sole D)
include h

namespace Record

variable (hr : r.Plays S .object)
include hr

theorem costs_responses? :
    Costs S D (r.cost D false [.about (.missing "operation" "responses"), .below "responses"])
      r.responses? := by
  unfold responses? SchemaReader.responses?
  split
  · next hfield =>
    have hresponses := ((Node.costs_responses h (hr.field hfield)).map some).field hfield
    exact hresponses.le (Nat.le_add_left _ _)
  · exact Costs.le (.ite (fun _ => (costs_tell rfl h hr _).thenPure)
      fun _ => Costs.pure.le (Nat.zero_le _)) (Nat.le_add_right _ _)

theorem costs_bodyOf? : Costs S D (r.cost D false [.below "requestBody"]) r.requestBody? :=
  costs_field hr fun _ hn => Node.costs_requestBody? h hn

theorem costs_security? : Costs S D (r.cost D false [.below "security"]) r.security? :=
  costs_field hr fun _ hn => (Node.costs_security h hn).map some

theorem costs_callbacks {read : CallbackReader} (hread : read.Thrifty S D) :
    Costs S D (r.cost D false [.below "callbacks"]) (r.callbacks read) := by
  refine costs_field hr fun n (hn : n.Plays S (.several (.several .object))) => ?_
  refine Node.costs_record? h hn rfl _ .pure fun entries hentries => ?_
  exact costs_readFields h hentries fun member hm => hread hm

end Record

/-- What is found about an operation. -/
def operationSpots : List Spot :=
  [.about (.missing "operation" "responses"), .below "responses", .below "requestBody",
    .below "security", .at "operationId", .at "summary", .at "description", .below "tags",
    .below "parameters", .below "callbacks", .at "deprecated", .below "servers"]

theorem Node.costs_operation? (hn : n.Plays S .object) {read : CallbackReader}
    (hread : read.Thrifty S D) (method : Method) (path : String) :
    Costs S D (n.share D false) (n.operation? read method path) := by
  refine costs_record? h hn rfl _ .pure fun r hr => ?_
  refine Costs.share operationSpots ?_ (by decide)
  refine (Record.costs_responses? h hr).append fun responses => ?_
  refine (Record.costs_bodyOf? h hr).append fun requestBody => ?_
  refine (Record.costs_security? h hr).append fun security => ?_
  refine (Record.costs_outerText? h hr (by decide)).append fun operationId => ?_
  refine (Record.costs_outerText? h hr (by decide)).append fun summary => ?_
  refine (Record.costs_outerText? h hr (by decide)).append fun description => ?_
  refine (Record.costs_texts h hr rfl fun i => ?_).append fun tags => ?_
  · rfl
  refine (Record.costs_parameters h hr).append fun parameters => ?_
  refine (Record.costs_callbacks h hr hread).append fun callbacks => ?_
  refine (Record.costs_outerFlag h hr (by decide)).append fun deprecated => ?_
  exact (Record.costs_servers h hr).thenPure

theorem Record.costs_operationOf? (hr : r.Plays S .object) {read : CallbackReader}
    (hread : read.Thrifty S D) (path : String) (method : Method) :
    Costs S D (r.cost D false [.below method.name]) (r.operationOf? read path method) := by
  refine costs_field hr fun n hn => ?_
  have hobject : Role.object.under method.name = .object := by cases method <;> rfl
  rw [hobject] at hn
  exact (Node.costs_operation? h hn hread method path).thenPure

/-! ## Path items and callbacks -/

/-- What is found about a path item. -/
def pathItemSpots : List Spot :=
  .at "summary" :: .at "description" :: .below "servers" :: .below "parameters" ::
    Method.all.map fun method => .below method.name

theorem Resolved.costs_pathItem? {target : Resolved} (ht : target.node.Plays S .object)
    {read : CallbackReader} (hread : read.Thrifty S D) (path : String) (location : Pointer) :
    Costs S D (target.node.share D false) (target.pathItem? read path location) := by
  refine Node.costs_record? h ht rfl _ .pure fun r hr => ?_
  refine Costs.share pathItemSpots ?_ (by decide)
  refine (Record.costs_outerText? h hr (by decide)).append fun summary => ?_
  refine (Record.costs_outerText? h hr (by decide)).append fun description => ?_
  refine (Record.costs_servers h hr).append fun servers => ?_
  refine (Record.costs_parameters h hr).append fun parameters => ?_
  have hoperations : Costs S D (r.cost D false (Method.all.map fun method => .below method.name))
      (Binding.collect (r.operationOf? read path) Method.all) := by
    have hsum : (Method.all.map fun method => r.cost D false [.below method.name]).sum =
        r.cost D false (Method.all.map fun method => .below method.name) := by
      rw [Record.cost, List.map_map]
      rfl
    rw [← hsum]
    exact Costs.collect fun method _ => Record.costs_operationOf? h hr hread path method
  exact hoperations.thenPure

theorem Resolved.costs_callback? {target : Resolved} (ht : target.node.Plays S (.several .object))
    {read : PathItemReader} (hread : read.Thrifty S D) :
    Costs S D (target.node.share D false) (target.callback? read) :=
  Node.costs_record? h ht rfl _ .pure fun _ hr =>
    (Record.costs_readPlainFields h hr fun member hm => hread member.1 hm).thenPure

/-- A node that is being read already is reported, and not read again. -/
theorem Node.costs_enter {role : Role} (hn : n.Plays S role) (hrefers : role.refers = true)
    (houter : role.inSchema = false) (houterReference : (role.under referenceKey).inSchema = false)
    (enclosing : Enclosing) {α : Type} {read : Enclosing → Resolved → Binding (Option α)}
    (hread : ∀ enclosing target, target.node.Plays S role →
      Costs S D (target.node.share D false) (read enclosing target)) :
    Costs S D (n.share D false) (n.enter enclosing read) := by
  refine costs_resolved h hn hrefers houter houterReference .pure fun target ht hshare => ?_
  refine .ite (fun _ => ?_) fun _ => (hread _ target ht).le hshare
  exact ((costs_tell h hn houter _).thenPure).le here_le_share

/-- Path items and callbacks are read inside of each other, as deep as there is room. -/
theorem Node.costs_within (room : Nat) :
    (∀ enclosing, PathItemReader.Thrifty S D (Node.pathItemWithin room enclosing)) ∧
      ∀ enclosing, CallbackReader.Thrifty S D (Node.callbackWithin room enclosing) := by
  induction room with
  | zero =>
    constructor
    · intro enclosing path n _
      unfold pathItemWithin
      exact Costs.pure.le (Nat.zero_le _)
    · intro enclosing n _
      unfold callbackWithin
      exact Costs.pure.le (Nat.zero_le _)
  | succ room ih =>
    obtain ⟨hpathItem, hcallback⟩ := ih
    constructor
    · intro enclosing path n hn
      unfold pathItemWithin
      exact costs_enter h hn rfl rfl rfl enclosing fun within target ht =>
        Resolved.costs_pathItem? h ht (hcallback within) path n.pointer
    · intro enclosing n hn
      unfold callbackWithin
      exact costs_enter h hn rfl rfl rfl enclosing fun within target ht =>
        Resolved.costs_callback? h ht (hpathItem within)

theorem Node.costs_pathItem? : PathItemReader.Thrifty S D Node.pathItem? := fun path {_} hn =>
  (Node.costs_within h _).1 [] path hn

theorem Node.costs_callback? : CallbackReader.Thrifty S D Node.callback? := fun hn =>
  (Node.costs_within h _).2 [] hn

end Operations

/-! ## Security schemes -/

/-- Different fields are missing with different messages. -/
theorem Finding.missing_message_ne {owner field other : String} (hne : field ≠ other) :
    (missing owner field).message ≠ (missing owner other).message := by
  intro heq
  have hquoted : quote field = quote other :=
    (String.append_right_inj (owner ++ " is missing required field ")).mp heq
  exact hne ((String.append_right_inj _).mp ((String.append_left_inj _).mp hquoted))

section Schemes

variable (h : S.Sole D)
include h

namespace Record

/-- The spots of a text that a way to get a token must have or may have. -/
theorem costs_flowText? (hr : r.Plays S .object) (needed : Bool) (owner key : String)
    (hkey : key ≠ "schema") :
    Costs S D (r.cost D false [.about (.missing owner key), .at key])
      (r.flowText? needed owner key) := by
  have houter := Role.inSchema_under_object hkey
  refine .ite (fun _ => costs_requiredText? h hr houter rfl owner) fun _ => ?_
  exact (costs_text? h hr houter).le (Nat.le_add_left _ _)

theorem costs_scopes (hr : r.Plays S .object) (owner : String) :
    Costs S D (r.cost D false [.about (.missing owner "scopes"), .below "scopes"])
      (r.scopes owner) := by
  refine .ite (fun _ => ?_) fun _ => ?_
  · exact ((costs_tell rfl h hr _).thenPure).le (Nat.le_add_right _ _)
  · refine Costs.le (c := r.cost D false [.below "scopes"]) ?_ (Nat.le_add_left _ _)
    refine costs_record? h hr rfl .pure fun entries hentries => ?_
    refine costs_readFields h hentries fun member _ => ?_
    exact (costs_text? h hentries rfl).le cost_at_le

/-- What is found about a way to get a token. -/
def flowSpots (owner : String) : List Spot :=
  [.about (.missing owner "authorizationUrl"), .at "authorizationUrl",
    .about (.missing owner "tokenUrl"), .at "tokenUrl", .about (.missing owner "scopes"),
    .below "scopes", .at "refreshUrl"]

omit h in
theorem apart_flowSpots (owner : String) :
    (flowSpots owner).Pairwise fun s t => s.apart t = true := by
  simp [flowSpots, Spot.apart, Spot.key?, Spot.category?, Finding.missing_message_ne]

theorem costs_flow? (hr : r.Plays S .object) (key : String) (hkey : Role.ofField key = .object)
    (needsAuthorization needsToken : Bool) :
    Costs S D (r.cost D false [.below key]) (r.flow? key needsAuthorization needsToken) := by
  refine costs_field hr fun n hn => ?_
  have hrole : Role.object.under key = .object := hkey
  rw [hrole] at hn
  refine Node.costs_record? h hn rfl _ .pure fun flow hflow => ?_
  refine Costs.share (flowSpots ("OAuth " ++ Finding.quote key ++ " flow")) ?_ (apart_flowSpots _)
  refine (costs_flowText? h hflow _ _ _ (by decide)).append fun authorizationUrl => ?_
  refine (costs_flowText? h hflow _ _ _ (by decide)).append fun tokenUrl => ?_
  refine (costs_scopes h hflow _).append fun scopes => ?_
  exact (costs_outerText? h hflow (by decide)).thenPure

variable (hr : r.Plays S .object)
include hr

/-- A place that is no text is reported when it is read, and one that is not known afterwards. -/
theorem costs_apiKeyKind? :
    Costs S D (r.cost D false [.about (.missing "apiKey security scheme" "name"), .at "name",
      .about (.missing "apiKey security scheme" "in"), .at "in"]) r.apiKeyKind? := by
  have hplace : CostsOr S D
      (r.cost D false [.about (.missing "apiKey security scheme" "in"), .at "in"])
      (r.requiredText? "apiKey security scheme" "in") := costsOr_requiredText? h hr rfl rfl _
  refine (costs_outerRequired? h hr (by decide) _).append fun name => ?_
  -- whatever became of the place, it is put together with the name at no cost
  refine hplace.bind (d := 0) ?_ (fun text => ?_) (Nat.le_refl _)
  · cases name <;> exact .pure
  · dsimp only
    generalize ApiKeyPlace.ofName? text = place
    refine .ite (fun _ => ?_) fun _ => ?_
    · refine Costs.le ((costs_tellField h hr rfl _).bind (d := 0) fun _ => ?_)
        (Nat.le_add_left _ _)
      cases name <;> cases place <;> exact .pure
    · refine Costs.le (c := 0) ?_ (Nat.zero_le _)
      cases name <;> cases place <;> exact .pure

theorem costs_httpKind? :
    Costs S D (r.cost D false [.about (.missing "http security scheme" "scheme"), .at "scheme",
      .at "bearerFormat"]) r.httpKind? := by
  refine (costs_outerRequired? h hr (by decide) _).append fun
    | none => Costs.pure.le (Nat.zero_le _)
    | some scheme => ?_
  exact (costs_outerText? h hr (by decide)).thenPure

end Record

theorem Node.costs_oauthFlows (hn : n.Plays S .object) :
    Costs S D (n.share D false) n.oauthFlows := by
  refine costs_record? h hn rfl _ .pure fun r hr => ?_
  refine Costs.share [.below "implicit", .below "password", .below "clientCredentials",
    .below "authorizationCode"] ?_ (by decide)
  refine (Record.costs_flow? h hr _ rfl _ _).append fun implicit => ?_
  refine (Record.costs_flow? h hr _ rfl _ _).append fun password => ?_
  refine (Record.costs_flow? h hr _ rfl _ _).append fun clientCredentials => ?_
  exact (Record.costs_flow? h hr _ rfl _ _).thenPure

namespace Record

variable (hr : r.Plays S .object)
include hr

theorem costs_oauth2Kind? :
    Costs S D (r.cost D false [.about (.missing "oauth2 security scheme" "flows"), .below "flows"])
      r.oauth2Kind? := by
  unfold oauth2Kind?
  split
  · next hfield =>
    have hflows := (Node.costs_oauthFlows h (hr.field hfield)).field hfield
    exact hflows.thenPure.le (Nat.le_add_left _ _)
  · exact (costs_tell rfl h hr _).thenPure.le (Nat.le_add_right _ _)

/-- What is found about a security scheme when its type is known. -/
def kindSpots : List Spot :=
  [.at "type", .about (.missing "apiKey security scheme" "name"), .at "name",
    .about (.missing "apiKey security scheme" "in"), .at "in",
    .about (.missing "http security scheme" "scheme"), .at "scheme", .at "bearerFormat",
    .about (.missing "oauth2 security scheme" "flows"), .below "flows",
    .about (.missing "openIdConnect security scheme" "openIdConnectUrl"), .at "openIdConnectUrl"]

theorem costs_securityKind? (type : String) :
    Costs S D (r.cost D false kindSpots) (r.securityKind? type) := by
  unfold securityKind?
  split
  · exact (costs_apiKeyKind? h hr).le (cost_le_of_sublist (by decide))
  · exact (costs_httpKind? h hr).le (cost_le_of_sublist (by decide))
  · exact (costs_oauth2Kind? h hr).le (cost_le_of_sublist (by decide))
  · refine Costs.thenPure ((costs_outerRequired? h hr (by decide) _).le (cost_le_of_sublist ?_))
    decide
  · refine .ite (fun _ => Costs.pure.le (Nat.zero_le _)) fun _ => ?_
    exact (costs_tellField h hr rfl _).thenPure.le (cost_le_of_sublist (by decide))

end Record

/-- A type that is no text is reported when it is read, and one that is not known afterwards. -/
theorem Node.costs_securityScheme? (hn : n.Plays S .object) :
    Costs S D (n.share D false) n.securityScheme? := by
  refine costs_resolvedRecord? h hn rfl rfl rfl _ .pure fun r reference hr => ?_
  refine Costs.share (.about (.missing "security scheme" "type") ::
    (Record.kindSpots ++ [.at "description"])) ?_ (by decide)
  have htype : CostsOr S D (r.cost D false [.about (.missing "security scheme" "type"), .at "type"])
      (r.requiredText? "security scheme" "type") := Record.costsOr_requiredText? h hr rfl rfl _
  refine htype.bind (d := 0) .pure (fun type => ?_) (Record.cost_le_of_sublist (by decide))
  refine Costs.le ((Record.costs_securityKind? h hr type).append fun
    | none => Costs.pure.le (Nat.zero_le _)
    | some kind => (Record.costs_outerText? h hr (by decide)).thenPure) (Nat.le_add_left _ _)

end Schemes

/-! ## Components -/

section Components

variable (h : S.Sole D)
include h

theorem Record.costs_componentSchemas (hr : r.Plays S .object) :
    Costs S D (r.cost D false [.at "schemas"]) r.componentSchemas := by
  refine costs_emptyRecord? h hr rfl .pure fun entries hentries => ?_
  refine (Costs.collect (k := fun _ => 0) fun field hfield => ?_).le (by simp)
  obtain ⟨member, hmember, rfl⟩ := List.mem_map.mp hfield
  have hschema : (entries.child member).Plays S .schema := hentries.child hmember
  refine Costs.thenPure ?_
  exact (Node.costs_schema h hschema).after fun id => (costs_change id _).after fun _ => .pure

theorem Record.costs_componentPathItems (hr : r.Plays S .object) :
    Costs S D (r.cost D false [.below "pathItems"]) r.componentPathItems := by
  refine .ite (fun _ => ?_) fun _ => ?_
  · refine costs_record? h hr rfl .pure fun entries hentries => ?_
    exact costs_readFields h hentries fun member hm => Node.costs_pathItem? h member.1 hm
  · exact (costs_refuse h hr rfl).thenPure.le cost_at_le

theorem Node.costs_components (hn : n.Plays S .object) :
    Costs S D (n.share D false) n.components := by
  refine costs_record? h hn rfl _ .pure fun r hr => ?_
  refine Costs.share [.at "schemas", .below "responses", .below "parameters", .below "examples",
    .below "requestBodies", .below "headers", .below "securitySchemes", .below "links",
    .below "callbacks", .below "pathItems"] ?_ (by decide)
  refine (Record.costs_componentSchemas h hr).append fun schemas => ?_
  refine (Record.costs_objects h hr "responses" rfl fun _ => costs_response? h).append fun _ => ?_
  refine (Record.costs_objects h hr "parameters" rfl fun _ => costs_parameter? h).append fun _ => ?_
  refine (Record.costs_objects h hr "examples" rfl fun _ => costs_example? h).append fun _ => ?_
  refine (Record.costs_objects h hr "requestBodies" rfl fun _ => costs_requestBody? h).append
    fun _ => ?_
  refine (Record.costs_objects h hr "headers" rfl fun _ => costs_header? h).append fun _ => ?_
  refine (Record.costs_objects h hr "securitySchemes" rfl fun _ => costs_securityScheme? h).append
    fun _ => ?_
  refine (Record.costs_objects h hr "links" rfl fun _ => costs_link? h).append fun _ => ?_
  have hcallbacks : Costs S D (r.cost D false [.below "callbacks"])
      (r.readAll "callbacks" callback?) :=
    Record.costs_readAll h hr rfl fun _ _ hm => costs_callback? h hm
  refine hcallbacks.append fun callbacks => ?_
  exact (Record.costs_componentPathItems h hr).thenPure

end Components

/-! ## The root -/

section Root

variable (h : S.Sole D)
include h

theorem Node.costs_pathItems (hn : n.Plays S (.several .object)) :
    Costs S D (n.share D false) n.pathItems :=
  costs_record? h hn rfl _ .pure fun _ hr =>
    Record.costs_readPlainFields h hr fun member hm => costs_pathItem? h member.1 hm

namespace Record

variable (hr : r.Plays S .object)
include hr

theorem costs_contact? : Costs S D (r.cost D false [.below "contact"]) r.contact? := by
  refine costs_record? h hr rfl .pure fun c (hc : c.Plays S .object) => ?_
  refine Costs.share [.at "name", .at "url", .at "email"] ?_ (by decide)
  refine (costs_outerText? h hc (by decide)).append fun name => ?_
  refine (costs_outerText? h hc (by decide)).append fun url => ?_
  exact (costs_outerText? h hc (by decide)).thenPure

theorem costs_license? : Costs S D (r.cost D false [.below "license"]) r.license? := by
  refine costs_record? h hr rfl .pure fun l (hl : l.Plays S .object) => ?_
  refine Costs.share [.about (.missing "license" "name"), .at "name", .at "identifier", .at "url"]
    ?_ (by decide)
  refine (costs_outerRequired? h hl (by decide) _).append fun name => ?_
  refine .ite_append (costs_outerText? h hl (by decide)) (fun identifier => ?_)
    fun hrest => (hrest none).le (Nat.le_add_left _ _)
  exact (costs_outerText? h hl (by decide)).thenPure

theorem costs_info :
    Costs S D (r.cost D false [.about (.missing "document" "info"), .below "info"]) r.info := by
  unfold info
  split
  · exact (costs_tell rfl h hr _).thenPure.le (Nat.le_add_right _ _)
  next n hfield =>
  refine Costs.le (Costs.field ?_ hfield) (Nat.le_add_left _ _)
  have hn : n.Plays S .object := hr.field hfield
  refine Node.costs_record? h hn rfl _ .pure fun i hi => ?_
  refine Costs.share [.at "summary", .below "contact", .below "license",
    .about (.missing "info" "title"), .at "title", .about (.missing "info" "version"),
    .at "version", .at "description", .at "termsOfService"] ?_ (by decide)
  refine .ite_append (costs_outerText? h hi (by decide)) (fun summary => ?_)
    fun hrest => (hrest none).le (Nat.le_add_left _ _)
  refine (costs_contact? h hi).append fun contact => ?_
  refine (costs_license? h hi).append fun license => ?_
  refine (costs_outerRequired? h hi (by decide) _).append fun title => ?_
  refine (costs_outerRequired? h hi (by decide) _).append fun version => ?_
  refine (costs_outerText? h hi (by decide)).append fun description => ?_
  exact (costs_outerText? h hi (by decide)).thenPure

theorem costs_jsonSchemaDialect? :
    Costs S D (r.cost D false [.at "jsonSchemaDialect"]) r.jsonSchemaDialect? :=
  .ite (fun _ => costs_outerText? h hr (by decide)) fun _ => (costs_refuse h hr rfl).thenPure

theorem costs_components : Costs S D (r.cost D false [.below "components"]) r.components :=
  costs_field hr fun _ hn => Node.costs_components h hn

theorem costs_paths :
    Costs S D (r.cost D false [.about (.missing "document" "paths"), .below "paths"]) r.paths := by
  unfold paths Readers.paths
  split
  · next hfield =>
    exact ((Node.costs_pathItems h (hr.field hfield)).field hfield).le (Nat.le_add_left _ _)
  · exact Costs.le (.ite (fun _ => (costs_tell rfl h hr _).thenPure)
      fun _ => Costs.pure.le (Nat.zero_le _)) (Nat.le_add_right _ _)

theorem costs_webhooks : Costs S D (r.cost D false [.below "webhooks"]) r.webhooks := by
  unfold webhooks Readers.webhooks
  split
  · exact Costs.pure.le (Nat.zero_le _)
  · next hfield =>
    refine .ite (fun _ => (Node.costs_pathItems h (hr.field hfield)).field hfield) fun _ => ?_
    exact (costs_refuse h hr rfl).thenPure.le cost_at_le

theorem costs_security : Costs S D (r.cost D false [.below "security"]) r.security :=
  costs_field hr fun _ hn => Node.costs_security h hn

theorem costs_checkDeclaration (declared : String) :
    Costs S D (r.cost D false [.at "openapi"]) (r.checkDeclaration declared) := by
  unfold checkDeclaration
  split
  · exact costs_tellField h hr rfl _
  · exact Costs.pure.le (Nat.zero_le _)

theorem costs_checkContents :
    Costs S D (r.cost D false [.about .nothingDefined]) r.checkContents :=
  .ite (fun _ => costs_tell rfl h hr _) fun _ => Costs.pure.le (Nat.zero_le _)

/-- What is found about a description. -/
def rootSpots : List Spot :=
  [.at "openapi", .about (.missing "document" "info"), .below "info", .at "jsonSchemaDialect",
    .below "servers", .below "components", .about (.missing "document" "paths"), .below "paths",
    .below "webhooks", .about .nothingDefined, .below "security", .below "tags",
    .below "externalDocs"]

theorem costs_description (declared : String) :
    Costs S D (r.node.share D false) (r.description declared) := by
  refine Costs.share rootSpots ?_ (by decide)
  refine (costs_checkDeclaration h hr declared).append fun _ => ?_
  refine (costs_info h hr).append fun info => ?_
  refine (costs_jsonSchemaDialect? h hr).append fun dialect => ?_
  refine (costs_servers h hr).append fun servers => ?_
  refine (costs_components h hr).append fun components => ?_
  refine (costs_paths h hr).append fun paths => ?_
  refine (costs_webhooks h hr).append fun webhooks => ?_
  refine (costs_checkContents h hr).append fun _ => ?_
  refine (costs_security h hr).append fun security => ?_
  refine (costs_tags h hr).append fun tags => ?_
  -- looking at the schemas in the end adds nothing
  exact costs_externalDocs? h hr

end Record

end Root

end ApiDescription
