import ApiDescription.Options.Field
import ApiDescription.Yaml.Compose

/-!
# Options as YAML

Options are a mapping whose unknown fields are passed over; a document without a node, or with a
plain scalar of no characters, gives the standard options.  Each field is read by the kind that it
takes, so any scalar may stand for a text, but only a plain one, or a literal one under the right
tag, for a truth value or a count.
-/

namespace ApiDescription.Options

open Yaml (Composer Document LoadFault Mark Part Style Trail)
open Yaml.Composer (partAt follow)

/-- How YAML speaks of values. -/
def yamlWording : Wording := ⟨"unit value", .full⟩

/-- A node of a document: the part that it starts with, the mark of that part, and the trail to
the node. -/
structure YamlNode where
  /-- The part. -/
  part : Part
  /-- Its mark. -/
  mark : Mark
  /-- The trail. -/
  trail : Trail

/-- Refuses options at a node. -/
def YamlNode.refuse {α : Type} (n : YamlNode) (problem : OptionProblem) : Composer α :=
  throw (.value (.other (problem.message yamlWording)) n.mark n.trail)

/-- What a scalar means, as an offer. -/
def offerOfMeaning : Yaml.Scalar.Meaning → Offer
  | .null => .null
  | .bool b => .flag b
  | .int n => .integer n
  | .wide n word => .wide n word
  | .float f => .float f
  | .text s => .text s

/-- Refuses a node in place of something else. -/
def YamlNode.expect {α : Type} (n : YamlNode) (expected : String) : Composer α :=
  match n.part with
  | .scalar tag text style =>
    match Yaml.Scalar.meaningUnder tag (style = .plain) text with
    | .ok meaning => n.refuse (.mistyped (offerOfMeaning meaning) expected)
    | .error meant => throw (.value (.mistagged text meant) n.mark n.trail)
  | .sequenceStart _ => n.refuse (.mistyped .list expected)
  | .mappingStart _ => n.refuse (.mistyped .object expected)
  | _ => throw .ended

/-- The text of a scalar that may stand for a value which a tag of the core schema names: a plain
one, or a literal one under that tag. -/
def YamlNode.scalarText? (n : YamlNode) (tagName : String) : Option String :=
  match n.part with
  | .scalar tag text style =>
    if style = .plain || (style = .literal && tag = some (Yaml.Tag.core tagName)) then
      some text
    else none
  | _ => none

/-- The truth value at a node. -/
def YamlNode.flag (n : YamlNode) : Composer Bool :=
  match (n.scalarText? "bool").bind Yaml.Scalar.bool? with
  | some b => return b
  | none => n.expect expectedFlag

/-- The count that a text writes, in 64 bits and without a minus. -/
def count? (text : String) : Option Nat :=
  if text.toList.head? = some '-' then none
  else
    match Yaml.Scalar.integer? text with
    | some (.ofNat n) => if n < Nat.pow 2 64 then some n else none
    | _ => none

/-- The count at a node. -/
def YamlNode.count (n : YamlNode) : Composer Nat :=
  match (n.scalarText? "int").bind count? with
  | some n => return n
  | none => n.expect expectedCount

/-- Whether a node says that there is no text; a scalar under the tag of null must do so. -/
def YamlNode.isNull (n : YamlNode) (owner : YamlNode) : Composer Bool :=
  match n.part with
  | .scalar none text .plain => return text.isEmpty || Yaml.Scalar.isNull text
  | .scalar (some tag) text .plain =>
    if tag = Yaml.Tag.core "null" then
      if Yaml.Scalar.isNull text then return true
      else throw (.value (.mistagged text "null") owner.mark owner.trail)
    else return false
  | _ => return false

/-- The text at a node, or that there is none; `owner` is the mapping that holds it. -/
def YamlNode.text (n : YamlNode) (owner : YamlNode) : Composer (Option String) := do
  if ← n.isNull owner then return none
  match n.part with
  | .scalar _ text _ => return some text
  | _ => n.expect expectedText

/-- The readers of values at a node. -/
def YamlNode.value (n owner : YamlNode) : ValueReader Composer := ⟨n.text owner, n.flag, n.count⟩

/-- The node at a place, or where the reference there points. -/
def nodeAt (d : Document) (trail : Trail) (place : Nat) : Composer YamlNode := do
  match ← partAt d place with
  | (.alias number, _) =>
    let (part, mark) ← partAt d (← follow d number)
    return ⟨part, mark, trail⟩
  | (part, mark) => return ⟨part, mark, trail⟩

/-- The place behind a node of which so many collections are open. -/
def skipNode (d : Document) : Nat → Nat → Nat → Composer Nat
  | 0, _, _ => throw .ended
  | bound + 1, opened, place => do
    let opened :=
      match (← partAt d place).1 with
      | .sequenceStart _ => opened + 1
      | .mappingStart _ => opened + 1
      | .sequenceEnd => opened - 1
      | .mappingEnd => opened - 1
      | _ => opened
    if opened = 0 then return place + 1 else skipNode d bound opened (place + 1)

/-- The place behind the node at a place. -/
def behind (d : Document) (place : Nat) : Composer Nat := skipNode d (d.parts.size + 1) 0 place

/-- The field that a key names, if it is known. -/
def YamlNode.field? (n : YamlNode) : Composer (Option OptionField) :=
  match n.part with
  | .scalar _ text _ => return OptionField.ofName? text
  | _ => n.expect "field identifier"

/-- Reads the fields of a mapping up to its end, behind those already given. -/
def entries (d : Document) (owner : YamlNode) (o : Options) (given : List OptionField) :
    Nat → Nat → Composer Options
  | 0, _ => throw .ended
  | bound + 1, place => do
    match ← partAt d place with
    | (.mappingEnd, _) => return o
    | (part, _) =>
      let key ← nodeAt d owner.trail place
      let field ← key.field?
      let place ← behind d place
      match field with
      | some field =>
        if field ∈ given then owner.refuse (.repeated field)
        let n ← nodeAt d (Yaml.Composer.valueTrail owner.trail part) place
        let change ← field.read (n.value owner)
        entries d owner (change o) (field :: given) bound (← behind d place)
      | none => entries d owner o given bound (← behind d place)

/-- Reads options. -/
def fromYaml (d : Document) : Composer Options := do
  let n ← nodeAt d .root 0
  match n.part with
  | .mappingStart _ => entries d n .standard [] (d.parts.size + 1) 1
  | .nothing => return .standard
  | .scalar _ "" .plain => return .standard
  | _ => n.expect expectedOptions

/-- The options that a YAML text gives. -/
def ofYamlText (text : String) : Except String Options :=
  let d := Yaml.documentOf text
  let result : Except LoadFault Options := do
    let (o, _) ← (fromYaml d).run 0
    d.checkEnd
    return o
  result.mapError fun f => optionsMessage f.message

end ApiDescription.Options
