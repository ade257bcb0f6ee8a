import ApiDescription.Proofs.Binding.Places

/-!
# What the places of a description are for

What stands at a place of a description is read as an object, as a list or a map of such, or as a
schema, and `Pointer.role` tells this from the way to the place.  `Node.Plays` tells what a node is
read as by going down from the root and following references.  Without references these are the
same; a reference may lead to a place that is for something else.
-/

namespace ApiDescription

/-- What the nodes at a place of a description are for. -/
inductive Role where
  /-- An object outside of schemas that is read field by field. -/
  | object
  /-- A list or a map whose entries are all of one role. -/
  | several (each : Role)
  /-- Anything else outside of schemas. -/
  | plain
  /-- A schema. -/
  | schema
  /-- A list or a map of schemas that are parts of a schema. -/
  | parts
  /-- How the alternatives of a schema are told apart. -/
  | discriminator
  /-- The names of the alternatives of a schema. -/
  | mapping
  /-- The name of a schema. -/
  | schemaName
  /-- Anything else in a schema. -/
  | detail
deriving DecidableEq

namespace Role

/-- The fields that hold an object. -/
def objectFields : List String :=
  ["info", "contact", "license", "externalDocs", "components", "requestBody", "get", "put", "post",
    "delete", "options", "head", "patch", "trace", "flows", "implicit", "password",
    "clientCredentials", "authorizationCode"]

/-- The fields that hold a list or a map of objects. -/
def listFields : List String :=
  ["servers", "tags", "paths", "webhooks", "pathItems", "parameters", "responses", "headers",
    "links", "examples", "content", "requestBodies", "securitySchemes", "variables", "scopes"]

/-- The fields that hold a list or a map of lists or maps of objects. -/
def nestedFields : List String := ["callbacks", "security"]

/-- The fields of a schema that hold a schema. -/
def schemaFields : List String := ["items", "additionalProperties", "not"]

/-- The fields of a schema that hold a list or a map of schemas. -/
def partFields : List String := ["properties", "allOf", "oneOf", "anyOf", "prefixItems"]

/-- The role of a field of an object. -/
def ofField (key : String) : Role :=
  if key = "schema" then schema
  else if key = "schemas" then several schema
  else if key ∈ objectFields then object
  else if key ∈ listFields then several object
  else if key ∈ nestedFields then several (several object)
  else plain

/-- The role of a field of a schema. -/
def ofKeyword (key : String) : Role :=
  if key ∈ schemaFields then schema
  else if key ∈ partFields then parts
  else if key = "discriminator" then discriminator
  else detail

/-- The role of what stands under a name. -/
def under : Role → String → Role
  | object, key => ofField key
  | several each, _ => each
  | plain, _ => plain
  | schema, key => ofKeyword key
  | parts, _ => schema
  | discriminator, key => if key = "mapping" then mapping else detail
  | mapping, _ => schemaName
  | schemaName, _ => detail
  | detail, _ => detail

theorem ofKeyword_cases (key : String) : ofKeyword key = schema ∨ ofKeyword key = parts ∨
    ofKeyword key = detail ∨ ofKeyword key = discriminator := by
  unfold ofKeyword
  repeat' split
  all_goals simp

/-- Whether a place of the role is a schema or within one. -/
def inSchema : Role → Bool
  | schema | parts | discriminator | mapping | schemaName | detail => true
  | object | several _ | plain => false

/-- Whether a node of the role may be a reference, which leads to a node that is read alike. -/
def refers : Role → Bool
  | object | several _ | schema => true
  | plain | parts | discriminator | mapping | schemaName | detail => false

/-- What is within a schema stays within it. -/
theorem inSchema_under {role : Role} (h : role.inSchema = true) (key : String) :
    (role.under key).inSchema = true := by
  cases role with
  | schema =>
    change (ofKeyword key).inSchema = true
    unfold ofKeyword
    repeat' split
    all_goals rfl
  | discriminator =>
    change (if key = "mapping" then mapping else detail).inSchema = true
    split <;> rfl
  | object | several _ | plain => cases h
  | parts | mapping | schemaName | detail => rfl

theorem inSchema_foldl_under {role : Role} (h : role.inSchema = true) (names : List String) :
    (names.foldl under role).inSchema = true := by
  induction names generalizing role with
  | nil => exact h
  | cons name rest ih => exact ih (inSchema_under h name)

/-- Outside of schemas a schema stands only in two fields. -/
theorem inSchema_under_object {key : String} (h : key ≠ "schema") :
    (object.under key).inSchema = false := by
  change (ofField key).inSchema = false
  unfold ofField
  rw [if_neg h]
  repeat' split
  all_goals rfl

end Role

/-- What the nodes at a pointer of a description are for. -/
def Pointer.role (p : Pointer) : Role := p.segments.foldl Role.under .object

namespace Pointer

@[simp] theorem role_push (p : Pointer) (key : String) : (p.push key).role = p.role.under key := by
  rw [role, segments_push, List.foldl_append]
  rfl

/-- What is below a place has the role that the names on the way give it. -/
theorem role_of_tokens {p q : Pointer} {rest : List String} (h : q.tokens = p.tokens ++ rest) :
    q.role = (rest.map name).foldl Role.under p.role := by
  rw [role, role, segments, segments, h, List.map_append, List.foldl_append]

/-- What is below a place within a schema is within it. -/
theorem inSchema_of_prefix {p q : Pointer} (h : p.tokens <+: q.tokens)
    (hp : p.role.inSchema = true) : q.role.inSchema = true := by
  obtain ⟨rest, hrest⟩ := h
  rw [role_of_tokens hrest.symm]
  exact Role.inSchema_foldl_under hp _

end Pointer

/-! ## Reading -/

/-- What nodes are read as, from the root of the entry document on. -/
inductive Node.Plays (S : Setting) : Role → Node → Prop
  | root {root : Record} (hroot : S.root? = some root) : Plays S .object root.node
  | member {role : Role} {r : Record} {member : String × Json} (hr : Plays S role r.node)
      (hmember : member ∈ r.members) : Plays S (role.under member.1) (r.child member)
  | listed {role : Role} {n m : Node} {i : Nat} (hn : Plays S role n) (hm : m ∈ n.itemNodes)
      (hi : m.pointer = n.pointer.item i) : Plays S (role.under (toString i)) m
  | reference {role : Role} {n target : Node} {text : String} (hn : Plays S role n)
      (hrefers : role.refers = true)
      (htext : n.value.member? referenceKey = some (.string text))
      (htarget : n.scope.locate text = .ok target) : Plays S role target
  | alternative {n target : Node} {name : String} (hn : Plays S .schemaName n)
      (hname : n.value = .string name)
      (htarget : n.scope.locate (componentReference name) = .ok target) : Plays S .schema target

/-- What objects are read as. -/
def Record.Plays (S : Setting) (role : Role) (r : Record) : Prop := r.node.Plays S role

variable {S : Setting} {role : Role}

/-- What is read is at its place. -/
theorem Node.Plays.sited {n : Node} (h : n.Plays S role) : n.Sited S := by
  induction h with
  | root hroot => exact Setting.sited_root hroot
  | member _ hmember ih => exact Record.Sited.child ih hmember
  | listed _ hm _ ih => exact ih.item hm
  | reference _ _ _ htarget ih | alternative _ _ htarget ih => exact ih.scope.locate htarget

theorem Node.Plays.item {n m : Node} (h : n.Plays S role) (hm : m ∈ n.itemNodes) :
    ∃ i : Nat, m.Plays S (role.under (toString i)) := by
  obtain ⟨items, i, -, -, hscope, hpointer⟩ := of_mem_itemNodes hm
  exact ⟨i, .listed h hm hpointer⟩

namespace Record.Plays

variable {r : Record}

theorem sited (h : r.Plays S role) : r.Sited S := Node.Plays.sited h

theorem child (h : r.Plays S role) {member : String × Json} (hmem : member ∈ r.members) :
    (r.child member).Plays S (role.under member.1) :=
  .member h hmem

theorem field (h : r.Plays S role) {key : String} {n : Node} (hfield : r.field? key = some n) :
    n.Plays S (role.under key) := by
  simp only [Record.field?, Option.map_eq_some_iff] at hfield
  obtain ⟨value, hget, rfl⟩ := hfield
  exact h.child (Entries.mem_of_get? hget)

end Record.Plays

end ApiDescription
