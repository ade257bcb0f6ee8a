import ApiDescription.Yaml.Event

/-!
# The first document of a text

The events of the first document, with anchors replaced by numbers.  An anchor gets the number of
different anchors known before it, and a number stands for the last node that got it; so declaring
an anchor again redirects it from there on.  A fault of the text, or an anchor that is not known,
ends the document early, and is met by a reader only when it has read all that comes before.
-/

namespace ApiDescription.Yaml

/-- A part of a document. -/
inductive Part where
  /-- The node that a number stands for. -/
  | alias (number : Nat)
  /-- A scalar. -/
  | scalar (tag : Option Tag) (text : String) (style : Style)
  /-- A sequence starts. -/
  | sequenceStart (tag : Option Tag)
  /-- A sequence ends. -/
  | sequenceEnd
  /-- A mapping starts. -/
  | mappingStart (tag : Option Tag)
  /-- A mapping ends. -/
  | mappingEnd
  /-- There is no node. -/
  | nothing
deriving DecidableEq, Repr, Inhabited

/-- What ends a document early. -/
inductive Break where
  /-- A fault of the text. -/
  | fault (fault : Fault)
  /-- A reference to an anchor that is not known. -/
  | unknownAnchor (mark : Mark)
deriving DecidableEq, Repr

/-- A document as a list of parts. -/
structure Document where
  /-- The parts, each with its mark. -/
  parts : Array (Part × Mark)
  /-- The places of the nodes that numbers stand for, latest first. -/
  targets : List (Nat × Nat)
  /-- What ends the document early. -/
  early : Option Break
  /-- Whether another document follows. -/
  more : Bool

namespace Document

/-- A document as far as it has been read, with the numbers of its anchors. -/
structure Draft where
  /-- The parts. -/
  parts : Array (Part × Mark)
  /-- The places of numbered nodes, latest first. -/
  targets : List (Nat × Nat)
  /-- The numbers of anchors. -/
  anchors : List (String × Nat)

/-- The draft with one more node, which may have an anchor. -/
def Draft.add (d : Draft) (anchor : Option String) (part : Part) (mark : Mark) : Draft :=
  match anchor with
  | none => { d with parts := d.parts.push (part, mark) }
  | some name =>
    let number := d.anchors.length
    { parts := d.parts.push (part, mark)
      targets := (number, d.parts.size) :: d.targets
      anchors := (name, number) :: d.anchors.filter (·.1 ≠ name) }

/-- A finished document. -/
def Draft.finish (d : Draft) (early : Option Break) (more : Bool) : Document :=
  ⟨d.parts, d.targets, early, more⟩

/-- Whether what follows a document is another one. -/
def isMore (fault : Option Fault) : List Event → Bool
  | event :: _ => event.kind ≠ .streamEnd
  | [] => fault.isSome

/-- Reads the events of the first document behind a draft. -/
def ofEventsFrom (fault : Option Fault) (d : Draft) : List Event → Document
  | [] => d.finish (fault.map .fault) false
  | ⟨kind, mark⟩ :: rest =>
    match kind with
    | .documentStart => ofEventsFrom fault d rest
    | .documentEnd => d.finish none (isMore fault rest)
    | .streamEnd => (if d.parts.isEmpty then d.add none .nothing mark else d).finish none false
    | .alias name =>
      match d.anchors.lookup name with
      | some number => ofEventsFrom fault (d.add none (.alias number) mark) rest
      | none => d.finish (some (.unknownAnchor mark)) false
    | .scalar anchor tag text style =>
      ofEventsFrom fault (d.add anchor (.scalar tag text style) mark) rest
    | .sequenceStart anchor tag => ofEventsFrom fault (d.add anchor (.sequenceStart tag) mark) rest
    | .sequenceEnd => ofEventsFrom fault (d.add none .sequenceEnd mark) rest
    | .mappingStart anchor tag => ofEventsFrom fault (d.add anchor (.mappingStart tag) mark) rest
    | .mappingEnd => ofEventsFrom fault (d.add none .mappingEnd mark) rest

/-- The first document of a text. -/
def ofEvents (events : List Event) (fault : Option Fault) : Document :=
  ofEventsFrom fault ⟨#[], [], []⟩ events

end Document

end ApiDescription.Yaml
