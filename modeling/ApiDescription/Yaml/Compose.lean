import ApiDescription.Yaml.Document
import ApiDescription.Yaml.Node
import ApiDescription.Yaml.Scalar
import ApiDescription.Text.Quoted

/-!
# Values of YAML documents

The parts of a document become one value.  A reference to an anchor reads the parts of the node it
stands for once more; reading is bounded by the depth of collections and by the number of such
references, so that a node that holds itself is refused.
-/

namespace ApiDescription.Yaml

/-- The way from the root of a document to a part of it. -/
inductive Trail where
  /-- The root. -/
  | root
  /-- An item of a sequence. -/
  | item (parent : Trail) (index : Nat)
  /-- A value under a scalar key. -/
  | member (parent : Trail) (key : String)
  /-- A value under any other key. -/
  | other (parent : Trail)
deriving DecidableEq, Repr, Inhabited

/-- The text of a trail. -/
def Trail.text : Trail → String
  | .root => "."
  | .item parent index => parent.text ++ "[" ++ toString index ++ "]"
  | .member parent key => (if parent = .root then "" else parent.text ++ ".") ++ key
  | .other parent => (if parent = .root then "" else parent.text ++ ".") ++ "?"

/-- What a value can be refused for. -/
inductive ValueProblem where
  /-- A mapping has a key twice. -/
  | duplicateKey (key : Node)
  /-- An integer fits no 64 bits. -/
  | wideInteger (value : Int) (word : String)
  /-- A scalar is not what its tag says. -/
  | mistagged (text : String) (expected : String)
  /-- Anything else, in words. -/
  | other (message : String)
deriving Repr

/-- The message for a refused value. -/
def ValueProblem.message : ValueProblem → String
  | .duplicateKey key =>
    "duplicate entry " ++
      match key with
      | .null => "with null key"
      | .bool b => "with key \x60" ++ (if b then "true" else "false") ++ "\x60"
      | .number n => "with key " ++ numberText n
      | .string s => "with key " ++ Text.quoted s
      | _ => "in YAML map"
  | .wideInteger value word =>
    "invalid type: integer \x60" ++ toString value ++ "\x60 as " ++ word ++
      ", expected any YAML value"
  | .mistagged text expected =>
    "invalid value: string " ++ Text.quoted text ++ ", expected " ++ expected
  | .other message => message

/-- What a merge key can be refused for. -/
inductive MergeProblem where
  /-- Its value is a scalar. -/
  | scalar
  /-- Its value is a list that holds a scalar. -/
  | scalarItem
  /-- Its value is a list that holds a list. -/
  | sequenceItem
  /-- Its value, or an item of it, has a tag. -/
  | tagged
deriving DecidableEq, Repr

/-- The message for a refused merge key. -/
def MergeProblem.message : MergeProblem → String
  | .scalar => "expected a mapping or list of mappings for merging, but found scalar"
  | .scalarItem => "expected a mapping for merging, but found scalar"
  | .sequenceItem => "expected a mapping for merging, but found sequence"
  | .tagged => "unexpected tagged value in merge"

/-- Why a text gives no YAML value. -/
inductive LoadFault where
  /-- The text breaks a rule. -/
  | text (fault : Fault)
  /-- An anchor is not known. -/
  | unknownAnchor (mark : Mark)
  /-- The document ends where a value is expected. -/
  | ended
  /-- Collections are nested too deeply. -/
  | tooDeep (mark : Mark)
  /-- Too many references to anchors are followed. -/
  | tooManyAliases
  /-- There is more than one document. -/
  | severalDocuments
  /-- A value is refused. -/
  | value (problem : ValueProblem) (mark : Mark) (trail : Trail)
  /-- A merge key is refused. -/
  | merge (problem : MergeProblem)
deriving Repr

/-- What ends a document early, as a fault of loading it. -/
def Break.toLoadFault : Break → LoadFault
  | .fault f => .text f
  | .unknownAnchor mark => .unknownAnchor mark

/-- Where a fault of loading is, if it is at one place. -/
def LoadFault.mark? : LoadFault → Option Mark
  | .text f => some f.mark
  | .unknownAnchor mark => some mark
  | .tooDeep mark => some mark
  | .value _ mark _ => some mark
  | _ => none

/-- The text of a fault of loading, its place included. -/
def LoadFault.message : LoadFault → String
  | .text f => f.text
  | .unknownAnchor mark => "unknown anchor" ++ mark.suffix
  | .ended => "EOF while parsing a value"
  | .tooDeep mark => "recursion limit exceeded" ++ mark.suffix
  | .tooManyAliases => "repetition limit exceeded"
  | .severalDocuments => "deserializing from YAML containing more than one document is not supported"
  | .value problem mark trail =>
    (if trail.text = "." then "" else trail.text ++ ": ") ++ problem.message ++ mark.suffix
  | .merge problem => problem.message

/-- A reader of the parts of a document; it counts the references it has followed. -/
abbrev Composer (α : Type) := StateT Nat (Except LoadFault) α

namespace Composer

/-- The collections that may be open at once. -/
def depthLimit : Nat := 128

/-- The references that may be followed, for each part of the document. -/
def aliasLimit : Nat := 100

/-- The part at a place. -/
def partAt (d : Document) (place : Nat) : Composer (Part × Mark) :=
  match d.parts[place]? with
  | some part => return part
  | none =>
    match d.early with
    | some early => throw early.toLoadFault
    | none => throw .ended

/-- Counts a reference that is followed, and finds the place it stands for. -/
def follow (d : Document) (number : Nat) : Composer Nat := do
  modify (· + 1)
  if d.parts.size * aliasLimit < (← get) then throw .tooManyAliases
  match d.targets.lookup number with
  | some place => return place
  | none => throw .ended

/-- The value that a scalar means. -/
def meantNode (refuse : ValueProblem → LoadFault) : Scalar.Meaning → Composer Node
  | .null => return .null
  | .bool b => return .bool b
  | .int n => return .number (.int n)
  | .wide n word => throw (refuse (.wideInteger n word))
  | .float f => return .number (.float f)
  | .text s => return .string s

/-- A value under the tag of an application, or without one. -/
def underTag (tag : Option Tag) (value : Node) : Node :=
  match tag.bind Tag.localName? with
  | some name => .tagged name value
  | none => value

/-- A scalar. -/
def scalarNode (refuse : ValueProblem → LoadFault) (tag : Option Tag) (text : String)
    (style : Style) : Composer Node :=
  match Scalar.meaningUnder tag (style = .plain) text with
  | .ok meaning => return underTag tag (← meantNode refuse meaning)
  | .error expected => throw (refuse (.mistagged text expected))

/-- A reader of the node at a place, on a trail; it gives the place behind the node too. -/
abbrev NodeReader := Trail → Nat → Composer (Node × Nat)

/-- The items of a sequence up to its end. -/
def items (d : Document) (child : NodeReader) (trail : Trail) :
    Nat → Nat → Nat → Composer (List Node × Nat)
  | 0, _, _ => throw .ended
  | bound + 1, index, place => do
    match ← partAt d place with
    | (.sequenceEnd, _) => return ([], place + 1)
    | _ =>
      let (item, place) ← child (.item trail index) place
      let (rest, place) ← items d child trail bound (index + 1) place
      return (item :: rest, place)

/-- The trail to the value under the key at a place. -/
def valueTrail (trail : Trail) : Part → Trail
  | .scalar _ text _ => .member trail text
  | _ => .other trail

/-- The entries of a mapping up to its end, behind those already read. -/
def entries (d : Document) (child : NodeReader) (trail : Trail)
    (refuse : ValueProblem → LoadFault) :
    Nat → List (Node × Node) → Nat → Composer (List (Node × Node) × Nat)
  | 0, _, _ => throw .ended
  | bound + 1, done, place => do
    match ← partAt d place with
    | (.mappingEnd, _) => return (done, place + 1)
    | (part, _) =>
      let (key, place) ← child trail place
      if let some earlier := Node.keyLike? done key then throw (refuse (.duplicateKey earlier))
      let (value, place) ← child (valueTrail trail part) place
      entries d child trail refuse bound (done ++ [(key, value)]) place

/-- The node at a place that is no reference, and the place behind it; `child` reads the parts of a
collection, if it may be opened. -/
def contentAt (d : Document) (child : Option NodeReader) (trail : Trail) (place : Nat) :
    Composer (Node × Nat) := do
  let (part, mark) ← partAt d place
  let refuse (problem : ValueProblem) : LoadFault := .value problem mark trail
  match part with
  | .scalar tag text style => return (← scalarNode refuse tag text style, place + 1)
  | .sequenceStart tag =>
    match child with
    | none => throw (.tooDeep mark)
    | some child =>
      let (nodes, place) ← items d child trail (d.parts.size + 1) 0 (place + 1)
      return (underTag tag (.sequence nodes), place)
  | .mappingStart tag =>
    match child with
    | none => throw (.tooDeep mark)
    | some child =>
      let (nodes, place) ← entries d child trail refuse (d.parts.size + 1) [] (place + 1)
      return (underTag tag (.mapping nodes), place)
  | .nothing => return (.null, place + 1)
  | _ => throw .ended

/-- The node at a place, and the place behind it.  A reference is read where it points. -/
def nodeAt (d : Document) (child : Option NodeReader) : NodeReader := fun trail place => do
  match ← partAt d place with
  | (.alias number, _) =>
    let target ← follow d number
    let (node, _) ← contentAt d child trail target
    return (node, place + 1)
  | _ => contentAt d child trail place

/-- A reader of nodes in which at most `depth` collections are open at once. -/
def reader (d : Document) : Nat → NodeReader
  | 0 => nodeAt d none
  | depth + 1 => nodeAt d (some (reader d depth))

end Composer

/-- The first document of a text. -/
def documentOf (text : String) : Document :=
  let (tokens, fault) := tokensOf text
  let (events, fault) := eventsOf tokens fault
  Document.ofEvents events fault

/-- The faults of a document that are met only behind its value. -/
def Document.checkEnd (d : Document) : Except LoadFault Unit :=
  match d.early with
  | some early => .error early.toLoadFault
  | none => if d.more then .error .severalDocuments else .ok ()

/-- The value of a document. -/
def Document.compose (d : Document) : Except LoadFault Node := do
  let ((node, _), _) ← (Composer.reader d Composer.depthLimit .root 0).run 0
  d.checkEnd
  return node

end ApiDescription.Yaml
