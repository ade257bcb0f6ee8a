import ApiDescription.Proofs.Binding.Again
import ApiDescription.Proofs.Parts

/-!
# Parts on the way to the last workspace

What holds of a part whenever it is read on the way to the last workspace holds of every part of the
description, however deep it stands: `Record.toward_description`.

There, too, stands why no component is missing.  The components are read one by one, each of them is
settled, so whatever a field is read as at any other time is what stands under its name.
-/

namespace ApiDescription

open Binding

/-! ## Fields -/

variable {F : Workspace} {S : Setting} {n : Node} {r : Record} {α : Type} {R : Node → α → Prop}

theorem Binding.Toward.readFields {fields : List (String × Node)}
    {step : String → Node → Binding (Option α)}
    (h : ∀ field ∈ fields, (step field.1 field.2).Toward F fun a? => ∀ a ∈ a?, R field.2 a) :
    (Record.readFields fields step).Toward F (Picks R fields) := by
  refine .collect (R := fun field pair? => ∀ pair ∈ pair?, pair.1 = field.1 ∧ R field.2 pair.2)
    .nil ?_ fun field hfield => ?_
  · rintro ⟨key, n⟩ rest pair? entries hpair hrest
    cases pair? with
    | none => exact .skip hrest
    | some pair =>
      obtain ⟨rfl, ha⟩ := hpair pair rfl
      exact .cons ha hrest
  · refine (h field hfield).bind fun a? => .pure fun ha pair hpair => ?_
    obtain ⟨a, rfl, rfl⟩ := Option.map_eq_some_iff.mp hpair
    exact ⟨rfl, ha a rfl⟩

/-- What stands under some keys is read, as far as it is there. -/
theorem Binding.Toward.collect_picks {κ : Type} {keys : List κ} {node? : κ → Option Node}
    {step : κ → Binding (Option (κ × α))}
    (h : ∀ key ∈ keys, (step key).Toward F fun entry? => ∀ entry ∈ entry?,
      ∃ m, node? key = some m ∧ entry.1 = key ∧ R m entry.2) :
    (Binding.collect step keys).Toward F
      (Picks R (keys.filterMap fun key => (node? key).map (key, ·))) := by
  refine Toward.collect
    (R := fun key entry? => ∀ entry ∈ entry?,
      ∃ m, node? key = some m ∧ entry.1 = key ∧ R m entry.2)
    (T := fun keys entries => Picks R (keys.filterMap fun key => (node? key).map (key, ·)) entries)
    .nil ?_ h
  intro key rest entry? entries hentry hrest
  cases entry? with
  | none =>
    cases hm : node? key with
    | none => simpa [hm] using hrest
    | some m => simpa [hm] using hrest.skip
  | some entry =>
    obtain ⟨m, hm, rfl, ha⟩ := hentry entry rfl
    simpa [hm] using hrest.cons ha

/-- The fields of the object that a node is are read, or those of them that are no extensions. -/
theorem Node.toward_fields (n : Node) (what : String) (pick : Record → List (String × Node))
    {step : String → Node → Binding (Option α)}
    (h : ∀ inner, n.object? = some inner → ∀ field ∈ pick inner,
      (step field.1 field.2).Toward F fun a? => ∀ a ∈ a?, R field.2 a) :
    (n.record? what >>= fun
      | none => return []
      | some inner => Record.readFields (pick inner) step).Toward F
        (Picks R (n.object?.elim [] pick)) := by
  refine .after (n.onlyTells_record? what) ?_
  rw [result_record?]
  cases hinner : n.object? with
  | none => exact .pure .nil
  | some inner => exact .readFields (h inner hinner)

namespace Record

theorem fieldsOf_of_eq_some {key : String} (h : r.field? key = some n) :
    r.fieldsOf key = n.object?.elim [] fields := by
  rw [fieldsOf, h, Option.bind_some]

theorem plainFieldsOf_of_eq_some {key : String} (h : r.field? key = some n) :
    r.plainFieldsOf key = n.object?.elim [] plainFields := by
  rw [plainFieldsOf, h, Option.bind_some]

/-- The fields of the object in a field are read. -/
theorem toward_fields (hr : r.node.Inside S) (key : String)
    {step : String → Node → Binding (Option α)}
    (h : ∀ name {m : Node}, m.Inside S → (step name m).Toward F fun a? => ∀ a ∈ a?, R m a) :
    (r.record? key >>= fun
      | none => return []
      | some inner => readFields inner.fields step).Toward F (Picks R (r.fieldsOf key)) := by
  unfold record?
  cases hn : r.field? key with
  | none => exact .pure (.none _)
  | some n =>
    have hn' : n.Inside S := Node.Inside.inherited.field hr hn
    rw [fieldsOf_of_eq_some hn]
    exact n.toward_fields _ fields fun inner hinner field hfield =>
      h field.1 (Node.Inside.inherited.fields (hn'.object hinner) hfield)

theorem toward_readAll (hr : r.node.Inside S) (key : String) {step : Node → Binding (Option α)}
    (h : ∀ {m : Node}, m.Inside S → (step m).Toward F fun a? => ∀ a ∈ a?, R m a) :
    (r.readAll key step).Toward F (Picks R (r.fieldsOf key)) :=
  toward_fields hr key fun _ => h

end Record

/-- What is done with the object that a node stands for, if it is one. -/
theorem Node.toward_resolvedRecord? (hn : n.Inside S) (what : String)
    {f : Option ResolvedRecord → Binding (Option α)} {Q : α → Prop}
    (hnone : f none = pure none)
    (hsome : ∀ r reference, n.behind? = some r → r.node.Inside S →
      (f (some ⟨r, reference⟩)).Toward F fun a? => ∀ a ∈ a?, Q a) :
    (n.resolvedRecord? what >>= f).Toward F fun a? => ∀ a ∈ a?, Q a := by
  refine .after (n.onlyTells_resolvedRecord? what) ?_
  rcases n.result_resolvedRecord?_cases what with hlost | ⟨target, r, ht, hr, hfound⟩
  · rw [hlost, hnone]
    exact .pure (by simp)
  · have hbehind : n.behind? = some r := by
      rw [behind?, ht]
      exact hr
    rw [hfound]
    exact hsome r _ hbehind ((hn.resolved ht).object hr)

theorem Node.toward_enter (hn : n.Inside S) (enclosing : Enclosing) {P : α → Prop}
    {read : Enclosing → Resolved → Binding (Option α)}
    (h : ∀ enclosing target, n.resolved = .ok target → target.node.Inside S →
      (read enclosing target).Toward F fun a? => ∀ a ∈ a?, P a) :
    (n.enter enclosing read).Toward F fun a? => ∀ a ∈ a?, P a := by
  unfold enter
  refine .after (onlyTells_orTell _) ?_
  cases ht : n.resolved with
  | error p => exact .pure (by simp)
  | ok target =>
    exact .ite (fun _ => .after (n.onlyTells_tell _) (.pure (by simp)))
      fun _ => h _ target ht (hn.resolved ht)

/-! ## Parts that are read again -/

theorem PartKind.adds_read (κ : PartKind) (hn : n.Inside S) : Adds F (κ.read n) := by
  cases κ with
  | parameters => exact .of_same (S := S) fun _ => Rerun.same_parameter? hn.scope
  | responses => exact .of_same (S := S) fun _ => Rerun.same_response? hn.scope
  | requestBodies => exact .of_same (S := S) fun _ => Rerun.same_requestBody? hn.scope
  | headers => exact .of_same (S := S) fun _ => Rerun.same_header? hn.scope
  | examples => exact .of_same (S := S) fun _ => GuidedTandem.same_example? hn.scope
  | links => exact .of_same (S := S) fun _ => GuidedTandem.same_link? hn.scope

theorem PartKind.settled_read (κ : PartKind) (hF : F.Single) (hn : n.Inside S) : (κ.read n).Settled F := by
  cases κ with
  | parameters => exact Node.settled_parameter? hF hn
  | responses => exact Node.settled_response? hF hn
  | requestBodies => exact Node.settled_requestBody? hF hn
  | headers => exact Node.settled_header? hF hn
  | examples => exact n.onlyTells_example?.settled
  | links => exact n.onlyTells_link?.settled

/-- Whatever the first field of a name is read as on the way to a given workspace stands under that
name. -/
def Entries.Holds (entries : Entries α) (F : Workspace) (step : Node → Binding (Option α))
    (fields : Entries Node) : Prop :=
  ∀ (name : String) (n : Node), fields.get? name = some n →
    ∀ (w : Workspace) (a : α), (step n w).2.Before F → (step n w).1 = some a →
      entries.get? name = some a

/-- What is settled is the same when it is read again. -/
theorem Binding.Toward.readFields_holds {fields : Entries Node} {step : Node → Binding (Option α)}
    (h : ∀ field ∈ fields, (step field.2).Settled F) :
    (Record.readFields fields fun _ n => step n).Toward F fun entries : Entries α =>
      entries.Holds F step fields := by
  refine Toward.collect
    (R := fun field pair? => ∃ a?, pair? = Option.map (field.1, ·) a? ∧
      ∀ w : Workspace, (step field.2 w).2.Before F → (step field.2 w).1 = a?)
    (T := fun (fields : Entries Node) (entries : Entries α) => entries.Holds F step fields)
    (by simp [Entries.Holds]) ?_ fun field hfield => ?_
  · rintro ⟨key, m⟩ rest pair? entries ⟨a?, rfl, hstep⟩ hrest name n hn w a hw ha
    rw [Entries.get?_cons] at hn
    split at hn
    · next hkey =>
      obtain rfl := Option.some.inj hn
      obtain rfl : a? = some a := (hstep w hw).symm.trans ha
      simp [Entries.get?_cons, hkey]
    · next hkey =>
      have hlater := hrest name n hn w a hw ha
      cases a? with
      | none => exact hlater
      | some a' => simpa [Entries.get?_cons, hkey] using hlater
  · obtain ⟨a?, ha⟩ := h field hfield
    refine (show (step field.2).Toward F _ from ha).bind fun b? => .pure fun hb => ?_
    exact ⟨a?, by rw [hb], fun w hw => (ha w hw).2⟩

/-! ## Parts -/

section Parts

/-! Whenever a part is read on the way to the last workspace, the predicate holds. -/

variable {Q : (κ : PartKind) → Node → κ.Part → Prop}
  (hQ : ∀ (κ : PartKind) {n : Node}, n.Inside S →
    (κ.read n).Toward F fun x? => ∀ x ∈ x?, Q κ n x)
include hQ

theorem Node.toward_mediaType? (hn : n.Inside S) :
    n.mediaType?.Toward F fun m? => ∀ m ∈ m?, MediaType.Each Q n m := by
  refine .after (n.onlyTells_record? _) ?_
  rw [result_record?]
  cases hr : n.object? with
  | none => exact .pure (by simp)
  | some r =>
    have hr' := hn.object hr
    refine (Record.toward_readAll hr' "examples" (hQ .examples)).bind fun examples => ?_
    refine (Record.adds_outerSchema? hr' "schema").toward.seq fun schema => .pure fun hexamples m hm => ?_
    obtain rfl := Option.some.inj hm
    exact ⟨r, hr, hexamples⟩

theorem Record.toward_content (hr : r.node.Inside S) : r.content.Toward F (r.EachContent Q) := by
  unfold content SchemaReader.content EachContent
  cases hn : r.field? "content" with
  | none => exact .pure (.none _)
  | some n =>
    have hn' : n.Inside S := Node.Inside.inherited.field hr hn
    rw [fieldsOf_of_eq_some hn]
    exact n.toward_fields _ fields fun inner hinner field hfield =>
      Node.toward_mediaType? hQ (Node.Inside.inherited.fields (hn'.object hinner) hfield)

theorem Record.toward_parameter (hr : r.node.Inside S) (name : String) (place : ParameterPlace)
    (reference : Option String) (location : Pointer) :
    (r.parameter name place reference location).Toward F fun p =>
      r.EachContent Q p.content ∧ p.location = location := by
  unfold parameter SchemaReader.parameter
  refine .guarded (r.onlyTells_tell _) ?_
  refine .after (r.onlyTells_text? _) (.after (r.onlyTells_flag _) ?_)
  refine .after (r.onlyTells_flag _) (.after (r.onlyTells_flag _) ?_)
  refine .after (r.onlyTells_text? _) (.after (r.onlyTells_flag? _) ?_)
  refine (adds_outerSchema? hr "schema").toward.seq fun schema => ?_
  exact (toward_content hQ hr).bind fun content => .pure fun hcontent => ⟨hcontent, rfl⟩

namespace Node

theorem toward_header? (hn : n.Inside S) :
    n.header?.Toward F fun h? => ∀ h ∈ h?, Header.Each Q n h := by
  have hinner : n.header?.Toward F fun h? => ∀ h ∈ h?,
      ∃ r, n.behind? = some r ∧ r.EachContent Q h.content := by
    refine toward_resolvedRecord? hn _ rfl fun r reference hbehind hr => ?_
    refine .after (r.onlyTells_text? _) (.after (r.onlyTells_flag _) ?_)
    refine .after (r.onlyTells_flag _) ?_
    refine (Record.adds_outerSchema? hr "schema").toward.seq fun schema => ?_
    refine (Record.toward_content hQ hr).bind fun content => .pure fun hcontent h hh => ?_
    obtain rfl := Option.some.inj hh
    exact ⟨r, hbehind, hcontent⟩
  exact (hQ .headers hn).and_of_mem hinner

theorem toward_response? (hn : n.Inside S) :
    n.response?.Toward F fun x? => ∀ x ∈ x?, Response.Each Q n x := by
  have hinner : n.response?.Toward F fun x? => ∀ x ∈ x?, ∃ r, n.behind? = some r ∧
      Picks (Header.Each Q) (r.fieldsOf "headers") x.headers ∧
      Picks (Q .links) (r.fieldsOf "links") x.links ∧ r.EachContent Q x.content := by
    refine toward_resolvedRecord? hn _ rfl fun r reference hbehind hr => ?_
    refine .after r.onlyTells_responseText? ?_
    refine (Record.toward_readAll hr "headers" (toward_header? hQ)).bind fun headers => ?_
    refine (Record.toward_readAll hr "links" (hQ .links)).bind fun links => ?_
    refine (Record.toward_content hQ hr).bind fun content => .pure ?_
    intro hcontent hlinks hheaders x hx
    obtain rfl := Option.some.inj hx
    exact ⟨r, hbehind, hheaders, hlinks, hcontent⟩
  exact (hQ .responses hn).and_of_mem hinner

theorem toward_requestBody? (hn : n.Inside S) :
    n.requestBody?.Toward F fun b? => ∀ b ∈ b?, RequestBody.Each Q n b := by
  have hinner : n.requestBody?.Toward F fun b? => ∀ b ∈ b?,
      ∃ r, n.behind? = some r ∧ r.EachContent Q b.content := by
    refine toward_resolvedRecord? hn _ rfl fun r reference hbehind hr => ?_
    refine .guarded (r.onlyTells_tell _) (.after (r.onlyTells_text? _) ?_)
    refine .after (r.onlyTells_flag _) ?_
    refine (Record.toward_content hQ hr).bind fun content => .pure fun hcontent b hb => ?_
    obtain rfl := Option.some.inj hb
    exact ⟨r, hbehind, hcontent⟩
  exact (hQ .requestBodies hn).and_of_mem hinner

theorem toward_parameter? (hn : n.Inside S) :
    n.parameter?.Toward F fun p? => ∀ p ∈ p?, Parameter.Each Q n p ∧ p.location = n.pointer := by
  have hinner : n.parameter?.Toward F fun p? => ∀ p ∈ p?,
      (∃ r, n.behind? = some r ∧ r.EachContent Q p.content) ∧ p.location = n.pointer := by
    refine toward_resolvedRecord? hn _ rfl fun r reference hbehind hr => ?_
    refine .after (r.onlyTells_requiredText? _ _) (.after r.onlyTells_parameterPlace? ?_)
    split
    · refine (Record.toward_parameter hQ hr _ _ _ _).bind fun p => .pure ?_
      rintro ⟨hcontent, hlocation⟩ p' hp'
      obtain rfl := Option.some.inj hp'
      exact ⟨⟨r, hbehind, hcontent⟩, hlocation⟩
    · exact .pure (by simp)
  refine ((hQ .parameters hn).and_of_mem hinner).imp fun p? h p hp => ?_
  obtain ⟨hpart, hcontent, hlocation⟩ := h p hp
  exact ⟨⟨hpart, hcontent⟩, hlocation⟩

end Node

/-! ## Operations -/

namespace Record

theorem toward_parameters (hr : r.node.Inside S) :
    r.parameters.Toward F fun ps =>
      Picks (Parameter.Each Q) r.parameterNodes (ps.map fun p => (p.location, p)) := by
  unfold parameters SchemaReader.parameters parameterNodes itemsOf
  cases hn : r.field? "parameters" with
  | none => exact .pure .nil
  | some n =>
    have hn' : n.Inside S := Node.Inside.inherited.field hr hn
    refine .after (n.onlyTells_items _) ?_
    rw [Node.result_items, Option.elim_some]
    refine .collect (T := fun nodes (ps : List Parameter) =>
      Picks (Parameter.Each Q) (nodes.map fun m => (m.pointer, m))
        (ps.map fun p => (p.location, p))) .nil ?_
      fun item hitem => Node.toward_parameter? hQ (hn'.item hitem)
    intro item rest p? ps hp hrest
    cases p? with
    | none => exact .skip hrest
    | some p =>
      obtain ⟨hpart, hlocation⟩ := hp p rfl
      change Picks _ ((item.pointer, item) :: _) ((p.location, p) :: _)
      rw [hlocation]
      exact .cons hpart hrest

theorem toward_responses? (hr : r.node.Inside S) :
    r.responses?.Toward F fun xs? =>
      Picks (Response.Each Q) (r.plainFieldsOf "responses") (xs?.getD []) := by
  unfold responses? SchemaReader.responses?
  cases hn : r.field? "responses" with
  | none =>
    refine .ite (fun _ => .after (r.onlyTells_tell _) ?_) fun _ => ?_
    · exact .pure (.none _)
    · exact .pure (.none _)
  | some n =>
    have hn' : n.Inside S := Node.Inside.inherited.field hr hn
    have hresponses : n.responses.Toward F
        (Picks (Response.Each Q) (r.plainFieldsOf "responses")) := by
      rw [plainFieldsOf_of_eq_some hn]
      exact n.toward_fields _ plainFields fun inner hinner field hfield =>
        Node.toward_response? hQ (Node.Inside.inherited.plainFields (hn'.object hinner) hfield)
    exact hresponses.bind fun xs => .pure fun hxs => hxs

theorem toward_requestBody? (hr : r.node.Inside S) :
    r.requestBody?.Toward F fun b? =>
      ∀ b ∈ b?, ∃ m, r.field? "requestBody" = some m ∧ RequestBody.Each Q m b := by
  unfold requestBody? SchemaReader.bodyOf?
  cases hn : r.field? "requestBody" with
  | none => exact .pure (by simp)
  | some n =>
    refine (Node.toward_requestBody? hQ (Node.Inside.inherited.field hr hn)).imp ?_
    exact fun _ h b hb => ⟨n, rfl, h b hb⟩

end Record

section Operations

variable {read : CallbackReader}
  (hread : ∀ {m : Node}, m.Inside S → (read m).Toward F fun c? => ∀ c ∈ c?, Callback.Each Q m c)
include hread

omit hQ in
theorem Record.toward_callbacks (hr : r.node.Inside S) :
    (r.callbacks read).Toward F (Picks (Callback.Each Q) (r.fieldsOf "callbacks")) := by
  unfold callbacks
  cases hn : r.field? "callbacks" with
  | none => exact .pure (.none _)
  | some n =>
    have hn' : n.Inside S := Node.Inside.inherited.field hr hn
    rw [fieldsOf_of_eq_some hn]
    exact n.toward_fields _ fields fun inner hinner field hfield =>
      hread (Node.Inside.inherited.fields (hn'.object hinner) hfield)

theorem Node.toward_operation? (hn : n.Inside S) (method : Method) (path : String) :
    (n.operation? read method path).Toward F fun o? => ∀ o ∈ o?, Operation.Each Q n o := by
  refine .after (n.onlyTells_record? _) ?_
  rw [result_record?]
  cases hr : n.object? with
  | none => exact .pure (by simp)
  | some r =>
    have hr' := hn.object hr
    refine (Record.toward_responses? hQ hr').bind fun responses => ?_
    refine (Record.toward_requestBody? hQ hr').bind fun body => ?_
    refine .after r.onlyTells_security? (.after (r.onlyTells_text? _) ?_)
    refine .after (r.onlyTells_text? _) (.after (r.onlyTells_text? _) ?_)
    refine .after (r.onlyTells_texts _) ?_
    refine (Record.toward_parameters hQ hr').bind fun parameters => ?_
    refine (Record.toward_callbacks hread hr').bind fun callbacks => ?_
    refine .after (r.onlyTells_flag _) (.after r.onlyTells_servers (.pure ?_))
    intro hcallbacks hparameters hbody hresponses o ho
    obtain rfl := Option.some.inj ho
    exact .intro hr hparameters hbody hresponses hcallbacks

theorem Record.toward_operations (hr : r.node.Inside S) (path : String) :
    (Binding.collect (r.operationOf? read path) Method.all).Toward F
      (Picks (Operation.Each Q) r.operationNodes) := by
  refine .collect_picks fun method _ => ?_
  unfold operationOf? SchemaReader.operationOf?
  cases hm : r.field? method.name with
  | none => exact .pure (by simp)
  | some m =>
    have hm' : m.Inside S := Node.Inside.inherited.field hr hm
    refine (Node.toward_operation? hQ hread hm' method path).bind fun o? => .pure ?_
    intro ho entry hentry
    obtain ⟨o, rfl, rfl⟩ := Option.map_eq_some_iff.mp hentry
    exact ⟨m, rfl, rfl, ho o rfl⟩

theorem Resolved.toward_pathItem? {target : Resolved} (ht : n.resolved = .ok target)
    (hn : target.node.Inside S) (path : String) (location : Pointer) :
    (target.pathItem? read path location).Toward F fun item? =>
      ∀ item ∈ item?, PathItem.Each Q n item := by
  refine .after (target.node.onlyTells_record? _) ?_
  rw [Node.result_record?]
  cases hr : target.node.object? with
  | none => exact .pure (by simp)
  | some r =>
    have hr' := hn.object hr
    refine .after (r.onlyTells_text? _) (.after (r.onlyTells_text? _) ?_)
    refine .after r.onlyTells_servers ?_
    refine (Record.toward_parameters hQ hr').bind fun parameters => ?_
    refine (Record.toward_operations hQ hread hr' path).bind fun operations => .pure ?_
    intro hoperations hparameters item hitem
    obtain rfl := Option.some.inj hitem
    exact .intro (by rw [Node.behind?, ht]; exact hr) hparameters hoperations

end Operations

omit hQ in
theorem Resolved.toward_callback? {read : PathItemReader}
    (hread : ∀ path {m : Node}, m.Inside S →
      (read path m).Toward F fun item? => ∀ item ∈ item?, PathItem.Each Q m item)
    {target : Resolved} (ht : n.resolved = .ok target) (hn : target.node.Inside S) :
    (target.callback? read).Toward F fun c? => ∀ c ∈ c?, Callback.Each Q n c := by
  refine .after (target.node.onlyTells_record? _) ?_
  rw [Node.result_record?]
  cases hr : target.node.object? with
  | none => exact .pure (by simp)
  | some r =>
    have hr' := hn.object hr
    refine (Toward.readFields fun field hfield =>
      hread field.1 (Node.Inside.inherited.plainFields hr' hfield)).bind fun expressions => .pure ?_
    intro hexpressions c hc
    obtain rfl := Option.some.inj hc
    exact .intro (by rw [Node.behind?, ht]; exact hr) hexpressions

/-- Path items and callbacks are read inside of each other, as deep as there is room. -/
theorem Node.toward_within (room : Nat) :
    (∀ enclosing path {n : Node}, n.Inside S →
      (n.pathItemWithin room enclosing path).Toward F fun item? =>
        ∀ item ∈ item?, PathItem.Each Q n item) ∧
      ∀ enclosing {n : Node}, n.Inside S →
        (n.callbackWithin room enclosing).Toward F fun c? => ∀ c ∈ c?, Callback.Each Q n c := by
  induction room with
  | zero =>
    constructor
    · intro enclosing path n _
      unfold pathItemWithin
      exact .pure (by simp)
    · intro enclosing n _
      unfold callbackWithin
      exact .pure (by simp)
  | succ room ih =>
    obtain ⟨hpathItem, hcallback⟩ := ih
    constructor
    · intro enclosing path n hn
      unfold pathItemWithin
      exact toward_enter hn enclosing fun inner target ht hinside =>
        Resolved.toward_pathItem? hQ (hcallback inner) ht hinside path n.pointer
    · intro enclosing n hn
      unfold callbackWithin
      exact toward_enter hn enclosing fun inner target ht hinside =>
        Resolved.toward_callback? (hpathItem inner) ht hinside

theorem Node.toward_pathItem? (path : String) (hn : n.Inside S) :
    (n.pathItem? path).Toward F fun item? => ∀ item ∈ item?, PathItem.Each Q n item :=
  (toward_within hQ _).1 [] path hn

theorem Node.toward_callback? (hn : n.Inside S) :
    n.callback?.Toward F fun c? => ∀ c ∈ c?, Callback.Each Q n c :=
  (toward_within hQ _).2 [] hn

/-! ## Sections -/

theorem PartKind.toward_read (κ : PartKind) (hn : n.Inside S) :
    (κ.read n).Toward F fun x? => ∀ x ∈ x?, κ.Each Q n x := by
  cases κ with
  | parameters => exact (Node.toward_parameter? hQ hn).imp fun _ h p hp => (h p hp).1
  | responses => exact Node.toward_response? hQ hn
  | requestBodies => exact Node.toward_requestBody? hQ hn
  | headers => exact Node.toward_header? hQ hn
  | examples => exact hQ .examples hn
  | links => exact hQ .links hn

theorem Node.toward_pathItems (hn : n.Inside S) :
    n.pathItems.Toward F
      (Picks (PathItem.Each Q) (n.object?.elim [] Record.plainFields)) :=
  n.toward_fields _ Record.plainFields fun _ hinner field hfield =>
    toward_pathItem? hQ field.1 (Inside.inherited.plainFields (hn.object hinner) hfield)

theorem Record.toward_paths (hr : r.node.Inside S) :
    r.paths.Toward F (Picks (PathItem.Each Q) (r.plainFieldsOf "paths")) := by
  unfold paths Readers.paths
  cases hn : r.field? "paths" with
  | none =>
    refine .ite (fun _ => .after (r.onlyTells_tell _) ?_) fun _ => ?_
    · exact .pure (.none _)
    · exact .pure (.none _)
  | some n =>
    rw [plainFieldsOf_of_eq_some hn]
    exact Node.toward_pathItems hQ (Node.Inside.inherited.field hr hn)

theorem Record.toward_webhooks (hr : r.node.Inside S) :
    r.webhooks.Toward F (Picks (PathItem.Each Q) (r.plainFieldsOf "webhooks")) := by
  unfold webhooks Readers.webhooks
  cases hn : r.field? "webhooks" with
  | none => exact .pure (.none _)
  | some n =>
    refine .ite (fun _ => ?_) fun _ => .after (r.onlyTells_refuse _) (.pure (.none _))
    rw [plainFieldsOf_of_eq_some hn]
    exact Node.toward_pathItems hQ (Node.Inside.inherited.field hr hn)

theorem Record.toward_componentPathItems (hr : r.node.Inside S) :
    r.componentPathItems.Toward F (Picks (PathItem.Each Q) (r.fieldsOf "pathItems")) := by
  refine .ite (fun _ => toward_fields hr _ fun path _ hm => Node.toward_pathItem? hQ path hm)
    fun _ => ?_
  exact .after (r.onlyTells_refuse _) (.pure (.none _))

/-! ## Components -/

/-- In each section, whatever a component is read as at any other time stands under its name. -/
def Components.Holds (c : Components) (F : Workspace) (fields : String → Entries Node) : Prop :=
  ∀ κ : PartKind, (κ.entries c).Holds F κ.read (fields κ.sectionName)

section Components

variable (hF : F.Single)
include hF

/-- The parts in a section are read. -/
theorem Record.toward_section (hr : r.node.Inside S) (κ : PartKind) :
    (r.readAll κ.sectionName κ.read).Toward F fun entries =>
      Picks (κ.Each Q) (r.fieldsOf κ.sectionName) entries ∧
        entries.Holds F κ.read (r.fieldsOf κ.sectionName) := by
  refine (toward_readAll hr _ (κ.toward_read hQ)).and ?_
  refine .after (r.onlyTells_record? _) ?_
  rw [result_record?]
  unfold fieldsOf
  cases hinner : (r.field? κ.sectionName).bind Node.object? with
  | none => exact .pure (by simp [Entries.Holds])
  | some inner =>
    have hinner' : inner.node.Inside S := by
      obtain ⟨n, hn, hobject⟩ := Option.bind_eq_some_iff.mp hinner
      exact (Node.Inside.inherited.field hr hn).object hobject
    exact .readFields_holds fun field hfield =>
      κ.settled_read hF (Node.Inside.inherited.fields hinner' hfield)

theorem Node.toward_components (hn : n.Inside S) :
    n.components.Toward F fun c =>
      c.Each Q (fun key => n.object?.elim [] fun r => r.fieldsOf key) ∧
        c.Holds F fun key => n.object?.elim [] fun r => r.fieldsOf key := by
  refine .after (n.onlyTells_record? _) ?_
  rw [result_record?]
  cases hr : n.object? with
  | none =>
    refine .pure ⟨⟨fun κ => ?_, .nil, .nil⟩, fun κ name m hm => nomatch hm⟩
    cases κ <;> exact .nil
  | some r =>
    have hr' := hn.object hr
    have hschemas : Adds F r.componentSchemas :=
      .of_same (S := S) fun _ => Rerun.same_componentSchemas hr'.scope
    refine hschemas.toward.seq fun schemas => ?_
    refine (Record.toward_section hQ hF hr' .responses).bind fun responses => ?_
    refine (Record.toward_section hQ hF hr' .parameters).bind fun parameters => ?_
    refine (Record.toward_section hQ hF hr' .examples).bind fun examples => ?_
    refine (Record.toward_section hQ hF hr' .requestBodies).bind fun bodies => ?_
    refine (Record.toward_section hQ hF hr' .headers).bind fun headers => ?_
    refine .after (r.onlyTells_readAll _ onlyTells_securityScheme?) ?_
    refine (Record.toward_section hQ hF hr' .links).bind fun links => ?_
    refine (Record.toward_readAll hr' _ (toward_callback? hQ)).bind fun callbacks => ?_
    refine (Record.toward_componentPathItems hQ hr').bind fun pathItems => .pure ?_
    intro hpathItems hcallbacks hlinks hheaders hbodies hexamples hparameters hresponses
    refine ⟨⟨fun κ => ?_, hcallbacks, hpathItems⟩, fun κ => ?_⟩
    · cases κ with
      | parameters => exact hparameters.1
      | responses => exact hresponses.1
      | requestBodies => exact hbodies.1
      | headers => exact hheaders.1
      | examples => exact hexamples.1
      | links => exact hlinks.1
    · cases κ with
      | parameters => exact hparameters.2
      | responses => exact hresponses.2
      | requestBodies => exact hbodies.2
      | headers => exact hheaders.2
      | examples => exact hexamples.2
      | links => exact hlinks.2

/-! ## The root -/

theorem Record.toward_components (hr : r.node.Inside S) :
    r.components.Toward F fun c => c.Each Q r.componentFields ∧ c.Holds F r.componentFields := by
  unfold components Readers.componentsOf
  cases hn : r.field? "components" with
  | none =>
    have hfields : r.componentFields = fun _ => [] := by
      funext key
      rw [componentFields, componentsRecord?, hn]
      rfl
    rw [hfields]
    refine .pure ⟨⟨fun κ => ?_, .nil, .nil⟩, fun κ name m hm => nomatch hm⟩
    cases κ <;> exact .nil
  | some n =>
    have hfields : r.componentFields = fun key => n.object?.elim [] fun c => c.fieldsOf key := by
      funext key
      rw [componentFields, componentsRecord?, hn, Option.bind_some]
    rw [hfields]
    exact Node.toward_components hQ hF (Node.Inside.inherited.field hr hn)

/-- Every part of the description satisfies the predicate, and no component is missing. -/
theorem Record.toward_description (hr : r.node.Inside S) (declared : String) :
    (r.description declared).Toward F fun d =>
      d.Each Q r ∧ d.components.Holds F r.componentFields := by
  refine .after (r.onlyTells_checkDeclaration _) (.after r.onlyTells_info ?_)
  refine .after r.onlyTells_jsonSchemaDialect? (.after r.onlyTells_servers ?_)
  refine (toward_components hQ hF hr).bind fun components => ?_
  refine (toward_paths hQ hr).bind fun paths => (toward_webhooks hQ hr).bind fun webhooks => ?_
  refine .after r.onlyTells_checkContents (.after r.onlyTells_security ?_)
  refine .after r.onlyTells_tags (.after r.onlyTells_externalDocs? fun w hw => ⟨hw, ?_⟩)
  exact fun hwebhooks hpaths hcomponents => ⟨⟨hpaths, hwebhooks, hcomponents.1⟩, hcomponents.2⟩

end Components

end Parts

end ApiDescription
