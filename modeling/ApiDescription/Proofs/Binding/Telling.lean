import ApiDescription.Proofs.Binding.Tandem

/-!
# Findings side by side

Most of what is read from a node has nothing to do with schemas: it adds findings, and does nothing
else to the workspace.  All of it runs in every `Tandem`, or in every `GuidedTandem` if it may stand
behind a reference.
-/

namespace ApiDescription

namespace Tandem

open Binding

variable {t : Tandem} {r : Record} {n : Node}

/-! ## What is said about a schema -/

theorem blankSchema_record (hr : t.known r.scope) : (t.record r).blankSchema = r.blankSchema := by
  unfold Record.blankSchema
  rw [scope_record, t.label hr]
  rfl

theorem same_enumeration? (hr : t.known r.scope) :
    t.Same r.enumeration? (t.record r).enumeration? := by
  refine (same_read? hr _ _ _).bind fun listed => ?_
  rw [members_record, scope_record, followsJsonSchema_scope hr]
  split
  · exact .pure _
  · exact .ite Iff.rfl (.pure _) ((same_refuse hr _).bind fun _ => .pure _)

theorem same_exampleList (hr : t.known r.scope) :
    t.Same r.exampleList (t.record r).exampleList := by
  unfold Record.exampleList
  rw [members_record, scope_record, followsJsonSchema_scope hr]
  split
  · exact .pure _
  · exact .ite Iff.rfl ((same_tell hr _ _ rfl).bind fun _ => .pure _) (.pure _)
  · exact .pure _

theorem same_annotated (hr : t.known r.scope) : t.Same r.annotated (t.record r).annotated := by
  unfold Record.annotated
  rw [blankSchema_record hr, scope_record, followsJsonSchema_scope hr]
  refine (same_text? hr _).bind fun _ => (same_text? hr _).bind fun _ => ?_
  refine (same_flag hr _).bind fun _ => (same_flag hr _).bind fun _ => ?_
  refine (same_flag hr _).bind fun _ => (same_exampleList hr).bind fun _ => ?_
  refine (same_enumeration? hr).bind fun _ => (same_flag? hr _).bind fun _ => ?_
  exact .ite Iff.rfl ((same_tell hr _ _ rfl).bind fun _ => .pure _) (.pure _)

theorem same_givenTypes (hr : t.known r.scope) : t.Same r.givenTypes (t.record r).givenTypes := by
  unfold Record.givenTypes
  rw [field?_record]
  cases hn : r.field? "type" with
  | none => exact .pure _
  | some n =>
    have hn := known_of_field? hr hn
    dsimp only [Option.map_some]
    rw [value_node, scope_record, followsJsonSchema_scope hr]
    split
    · exact .pure _
    · refine .ite Iff.rfl ((same_tell hn _ _ rfl).bind fun _ => .pure _) ?_
      refine same_items hn _ fun hnodes => .collect fun item hitem => ?_
      rw [value_node]
      split
      · exact .pure _
      · exact (same_tell (hnodes item hitem) _ _ rfl).bind fun _ => .pure _
    · exact (same_tell hr _ _ rfl).bind fun _ => .pure _

theorem same_sortTypes (hr : t.known r.scope) (types : Record.Types) (names : List String) :
    t.Same (r.sortTypes types names) ((t.record r).sortTypes types names) := by
  induction names generalizing types with
  | nil => exact .pure _
  | cons name rest ih =>
    unfold Record.sortTypes
    rw [scope_record, followsJsonSchema_scope hr]
    exact .ite Iff.rfl (ih _) (.ite Iff.rfl (ih _) ((same_tell hr _ _ rfl).bind fun _ => ih _))

theorem same_types (hr : t.known r.scope) : t.Same r.types (t.record r).types :=
  (same_givenTypes hr).bind fun _ => (same_sortTypes hr _ _).bind fun _ =>
    .ite Iff.rfl (.pure _) (.pure _)

theorem same_exclusiveBound (hr : t.known r.scope) (key : String) (bound : Option Float) :
    t.Same (r.exclusiveBound key bound) ((t.record r).exclusiveBound key bound) := by
  unfold Record.exclusiveBound
  rw [members_record, scope_record, followsJsonSchema_scope hr]
  split
  · exact .pure _
  · exact .ite Iff.rfl
      ((same_tellRevised hr _ (.boundNotNumber key) rfl).bind fun _ => .pure _) (.pure _)
  · exact .ite Iff.rfl (.pure _) ((same_tell hr _ _ rfl).bind fun _ => .pure _)
  · exact (same_tell hr _ _ rfl).bind fun _ => .pure _

theorem same_scalarShape (hr : t.known r.scope) (type : ScalarType) :
    t.Same (r.scalarShape type) ((t.record r).scalarShape type) := by
  refine (same_text? hr _).bind fun _ => (same_number? hr _).bind fun minimum => ?_
  refine (same_number? hr _).bind fun maximum => ?_
  refine (same_exclusiveBound hr _ minimum).bind fun _ => ?_
  refine (same_exclusiveBound hr _ maximum).bind fun _ => ?_
  refine (same_number? hr _).bind fun _ => (same_count? hr _).bind fun _ => ?_
  exact (same_count? hr _).bind fun _ => (same_text? hr _).bind fun _ => .pure _

theorem same_withDiscriminator (hr : t.known r.scope) (shape : Shape) (d : Discriminator) :
    t.Same (r.withDiscriminator shape d) ((t.record r).withDiscriminator shape d) := by
  unfold Record.withDiscriminator
  split
  · exact .pure _
  · exact .pure _
  · exact .pure _
  · exact (same_tell hr _ _ rfl).bind fun _ => .pure _

/-! ## Servers, security requirements and tags -/

theorem same_serverVariable? (hn : t.known n.scope) :
    t.Same n.serverVariable? (t.node n).serverVariable? := by
  refine same_record? hn _ (.pure _) fun r hr _ => ?_
  refine .ite_bind Iff.rfl ((same_texts hr _).map _) (fun _ => ?_) (Same.pure _).bind
  exact (same_requiredText? hr _ (by decide)).bind fun _ => (same_text? hr _).bind fun _ => .pure _

theorem same_server? (hn : t.known n.scope) : t.Same n.server? (t.node n).server? := by
  refine same_record? hn _ (.pure _) fun r hr _ => ?_
  refine (same_requiredText? hr _ (by decide)).bind fun
    | none => .pure _
    | some _ => ?_
  refine (same_readAll hr _ fun _ hm => same_serverVariable? hm).bind fun _ => ?_
  exact (same_text? hr _).bind fun _ => .pure _

theorem same_servers (hr : t.known r.scope) : t.Same r.servers (t.record r).servers := by
  unfold Record.servers
  rw [field?_record]
  cases hn : r.field? "servers" with
  | none => exact .pure _
  | some n =>
    refine same_items (known_of_field? hr hn) _ fun hnodes => ?_
    exact .collect fun item hitem => same_server? (hnodes item hitem)

theorem same_securityRequirement? (hn : t.known n.scope) :
    t.Same n.securityRequirement? (t.node n).securityRequirement? := by
  refine same_record? hn _ (.pure _) fun r hr _ => ?_
  refine (same_fields hr fun field _ _ => ?_).bind fun _ => .pure _
  exact (same_texts hr field.1).bind fun _ => .pure _

theorem same_nodeSecurity (hn : t.known n.scope) : t.Same n.security (t.node n).security :=
  same_items hn _ fun hnodes => .collect fun item hitem =>
    same_securityRequirement? (hnodes item hitem)

theorem same_externalDocs? (hr : t.known r.scope) :
    t.Same r.externalDocs? (t.record r).externalDocs? := by
  unfold Record.externalDocs?
  rw [field?_record]
  cases hn : r.field? "externalDocs" with
  | none => exact .pure _
  | some n =>
    refine same_record? (known_of_field? hr hn) _ (.pure _) fun docs hdocs _ => ?_
    exact (same_requiredText? hdocs _ (by decide)).bind fun
      | none => .pure _
      | some _ => (same_text? hdocs _).bind fun _ => .pure _

theorem same_tag? (hn : t.known n.scope) : t.Same n.tag? (t.node n).tag? := by
  refine same_record? hn _ (.pure _) fun r hr _ => ?_
  refine (same_requiredText? hr _ (by decide)).bind fun
    | none => .pure _
    | some _ => ?_
  exact (same_externalDocs? hr).bind fun _ => (same_text? hr _).bind fun _ => .pure _

theorem same_tags (hr : t.known r.scope) : t.Same r.tags (t.record r).tags := by
  unfold Record.tags
  rw [field?_record]
  cases hn : r.field? "tags" with
  | none => exact .pure _
  | some n =>
    refine same_items (known_of_field? hr hn) _ fun hnodes => ?_
    exact .collect fun item hitem => same_tag? (hnodes item hitem)

/-! ## Security schemes -/

theorem same_flowText? (hr : t.known r.scope) (needed : Bool) (owner : String) {key : String}
    (hkey : key ≠ "description") :
    t.Same (r.flowText? needed owner key) ((t.record r).flowText? needed owner key) :=
  .ite Iff.rfl (same_requiredText? hr _ hkey) (same_text? hr _)

theorem same_scopes (hr : t.known r.scope) (owner : String) :
    t.Same (r.scopes owner) ((t.record r).scopes owner) := by
  refine .ite Iff.rfl ((same_tell hr _ _ rfl).bind fun _ => .pure _) ?_
  refine same_fieldRecord? hr _ (.pure _) fun entries hentries _ => ?_
  exact same_fields hentries fun field _ _ => same_text? hentries field.1

theorem same_flow? (hr : t.known r.scope) (key : String) (needsAuthorization needsToken : Bool) :
    t.Same (r.flow? key needsAuthorization needsToken)
      ((t.record r).flow? key needsAuthorization needsToken) := by
  unfold Record.flow?
  rw [field?_record]
  cases hn : r.field? key with
  | none => exact .pure _
  | some n =>
    refine same_record? (known_of_field? hr hn) _ (.pure _) fun flow hflow _ => ?_
    refine (same_flowText? hflow _ _ (by decide)).bind fun _ => ?_
    refine (same_flowText? hflow _ _ (by decide)).bind fun _ => ?_
    exact (same_scopes hflow _).bind fun _ => (same_text? hflow _).bind fun _ => .pure _

theorem same_apiKeyKind? (hr : t.known r.scope) :
    t.Same r.apiKeyKind? (t.record r).apiKeyKind? := by
  refine (same_requiredText? hr _ (by decide)).bind fun name? => ?_
  refine (same_requiredText? hr _ (by decide)).bind fun text? => ?_
  cases text? with
  | none =>
    refine (Same.pure _).bind fun place? => ?_
    cases name? <;> cases place? <;> exact .pure _
  | some text =>
    refine .ite Iff.rfl ((same_tell hr _ _ rfl).bind fun _ => (Same.pure _).bind fun place? => ?_)
      ((Same.pure _).bind fun place? => ?_) <;>
    · cases name? <;> cases place? <;> exact .pure _

theorem same_httpKind? (hr : t.known r.scope) : t.Same r.httpKind? (t.record r).httpKind? :=
  (same_requiredText? hr _ (by decide)).bind fun
    | none => .pure _
    | some _ => (same_text? hr _).bind fun _ => .pure _

theorem same_oauthFlows (hn : t.known n.scope) : t.Same n.oauthFlows (t.node n).oauthFlows :=
  same_record? hn _ (.pure _) fun _ hr _ =>
    (same_flow? hr _ _ _).bind fun _ => (same_flow? hr _ _ _).bind fun _ =>
      (same_flow? hr _ _ _).bind fun _ => (same_flow? hr _ _ _).bind fun _ => .pure _

theorem same_oauth2Kind? (hr : t.known r.scope) :
    t.Same r.oauth2Kind? (t.record r).oauth2Kind? := by
  unfold Record.oauth2Kind?
  rw [field?_record]
  cases hn : r.field? "flows" with
  | none => exact (same_tell hr _ _ rfl).bind fun _ => .pure _
  | some n => exact (same_oauthFlows (known_of_field? hr hn)).bind fun _ => .pure _

theorem same_openIdKind? (hr : t.known r.scope) :
    t.Same r.openIdKind? (t.record r).openIdKind? :=
  (same_requiredText? hr _ (by decide)).bind fun _ => .pure _

theorem same_securityKind? (hr : t.known r.scope) (type : String) :
    t.Same (r.securityKind? type) ((t.record r).securityKind? type) := by
  unfold Record.securityKind?
  rw [scope_record, followsJsonSchema_scope hr]
  split
  · exact same_apiKeyKind? hr
  · exact same_httpKind? hr
  · exact same_oauth2Kind? hr
  · exact same_openIdKind? hr
  · exact .ite Iff.rfl (.pure _)
      ((same_tellRevised hr _ (.unknownSchemeType type) rfl).bind fun _ => .pure _)

/-! ## The root -/

theorem same_contact? (hr : t.known r.scope) : t.Same r.contact? (t.record r).contact? :=
  same_fieldRecord? hr _ (.pure _) fun _ hc _ =>
    (same_text? hc _).bind fun _ => (same_text? hc _).bind fun _ =>
      (same_text? hc _).bind fun _ => .pure _

theorem same_license? (hr : t.known r.scope) : t.Same r.license? (t.record r).license? := by
  refine same_fieldRecord? hr _ (.pure _) fun l hl _ => ?_
  refine (same_requiredText? hl _ (by decide)).bind fun name => ?_
  rw [scope_record, followsJsonSchema_scope hl]
  refine .ite_bind Iff.rfl (same_text? hl _) (fun _ => ?_) (Same.pure _).bind
  exact (same_text? hl _).bind fun _ => .pure _

theorem same_info (hr : t.known r.scope) : t.Same r.info (t.record r).info := by
  unfold Record.info
  rw [field?_record]
  cases hn : r.field? "info" with
  | none => exact (same_tell hr _ _ rfl).bind fun _ => .pure _
  | some n =>
    refine same_record? (known_of_field? hr hn) _ (.pure _) fun i hi _ => ?_
    dsimp only
    rw [scope_record, followsJsonSchema_scope hi]
    refine .ite_bind Iff.rfl (same_text? hi _) (fun summary => ?_) (Same.pure _).bind
    refine (same_contact? hi).bind fun _ => (same_license? hi).bind fun _ => ?_
    refine (same_requiredText? hi _ (by decide)).bind fun _ => ?_
    refine (same_requiredText? hi _ (by decide)).bind fun _ => ?_
    exact (same_text? hi _).bind fun _ => (same_text? hi _).bind fun _ => .pure _

theorem same_jsonSchemaDialect? (hr : t.known r.scope) :
    t.Same r.jsonSchemaDialect? (t.record r).jsonSchemaDialect? := by
  unfold Record.jsonSchemaDialect?
  rw [scope_record, followsJsonSchema_scope hr]
  exact .ite Iff.rfl (same_text? hr _) ((same_refuse hr _).bind fun _ => .pure _)

theorem same_security (hr : t.known r.scope) : t.Same r.security (t.record r).security := by
  unfold Record.security
  rw [field?_record]
  cases hn : r.field? "security" with
  | none => exact .pure _
  | some n => exact same_nodeSecurity (known_of_field? hr hn)

theorem same_security? (hr : t.known r.scope) : t.Same r.security? (t.record r).security? := by
  unfold Record.security?
  rw [field?_record]
  cases hn : r.field? "security" with
  | none => exact .pure _
  | some n => exact (same_nodeSecurity (known_of_field? hr hn)).map _

theorem same_parameterPlace? (hr : t.known r.scope) :
    t.Same r.parameterPlace? (t.record r).parameterPlace? :=
  (same_requiredText? hr _ (by decide)).bind fun
    | none => .pure _
    | some _ => .ite Iff.rfl ((same_tell hr _ _ rfl).bind fun _ => .pure _) (.pure _)

theorem same_checkDeclaration (hr : t.known r.scope) (declared : String) :
    t.Same (r.checkDeclaration declared) ((t.record r).checkDeclaration declared) := by
  unfold Record.checkDeclaration
  rw [members_record]
  split
  · exact same_tell hr _ _ rfl
  · exact .pure _

theorem same_checkContents (hr : t.known r.scope) :
    t.Same r.checkContents (t.record r).checkContents := by
  unfold Record.checkContents
  rw [scope_record, (t.alike hr).requiresPaths]
  exact .ite Iff.rfl (same_tell hr _ _ rfl) (.pure _)

end Tandem

/-! ## Examples, links and security schemes -/

namespace GuidedTandem

open Binding Tandem

variable {t : GuidedTandem} {r : Record} {n : Node}

theorem same_example? (hn : t.known n.scope) : t.Same n.example? (t.node n).example? :=
  same_resolvedRecord? hn _ (.pure _) fun _ _ hr =>
    (same_text? hr _).bind fun _ => (same_text? hr _).bind fun _ =>
      (same_text? hr _).bind fun _ => .pure _

theorem same_link? (hn : t.known n.scope) : t.Same n.link? (t.node n).link? := by
  refine same_resolvedRecord? hn _ (.pure _) fun r reference hr => ?_
  refine .ite_bind Iff.rfl (same_tell hr _ _ rfl) (fun _ => ?_) fun hrest => hrest ()
  rw [members_record]
  refine same_fieldRecord? hr _ ?_ fun inner _ _ => ?_ <;>
    exact (same_text? hr _).bind fun _ => (same_text? hr _).bind fun _ =>
      (same_text? hr _).bind fun _ => .pure _

theorem same_securityScheme? (hn : t.known n.scope) :
    t.Same n.securityScheme? (t.node n).securityScheme? :=
  same_resolvedRecord? hn _ (.pure _) fun _ _ hr =>
    (same_requiredText? hr _ (by decide)).bind fun
      | none => .pure _
      | some type => (same_securityKind? hr type).bind fun
        | none => .pure _
        | some _ => (same_text? hr _).bind fun _ => .pure _

end GuidedTandem

end ApiDescription
