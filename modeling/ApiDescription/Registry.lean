import ApiDescription.Load
import ApiDescription.Registry.Anchor
import ApiDescription.Uri

/-!
# Registries of documents

References may point into other documents, and nothing is fetched: every such document is
registered before.  A document is known under the URI it was registered with and under the URIs
that it gives itself, all without fragments, and no URI stands for two documents.

URIs that are relative are resolved against a placeholder, which is left out again wherever a URI
is shown.
-/

namespace ApiDescription

/-- The base for relative URIs. -/
def Uri.placeholder : Uri where
  scheme := "http"
  authority := some ⟨"", "", .name "example.invalid", none⟩
  path := "/"
  query := none
  fragment := none

/-- The URI that a text names, by itself or against the placeholder. -/
def Uri.ofText? (text : String) : Option Uri :=
  Uri.parse? text <|> Uri.placeholder.resolve? text

/-- The text under which a resource is known: that of its URI without the fragment. -/
def Uri.key (u : Uri) : String := u.withoutFragment.text

/-- A text without another at its front, if it is there. -/
def withoutFront (front text : String) : String :=
  if front.toList.isPrefixOf text.toList then String.ofList (text.toList.drop front.length)
  else text

/-- The text that stands for a key in messages. -/
def shownKey (key : String) : String := withoutFront Uri.placeholder.text key

/-- A document of a registry. -/
structure RegisteredDocument where
  /-- The text it was registered under, in normal form and without a fragment. -/
  key : String
  /-- The base for the references in it. -/
  base : Uri
  /-- The format it was written in. -/
  format : Format
  /-- The tree. -/
  root : Json
  /-- The nodes that have names of their own; of several with one name the first counts. -/
  anchors : Entries Pointer

namespace RegisteredDocument

/-- A document at a URI. -/
def ofLoaded (base : Uri) (d : LoadedDocument) : RegisteredDocument :=
  ⟨base.key, base, d.format, d.root, d.root.anchors .root⟩

/-- The keys that a document gives itself. -/
def declaredKeys (d : RegisteredDocument) : List String :=
  ["$self", "$id"].filterMap fun member =>
    (((d.root.member? member).bind Json.string?).bind d.base.resolve?).map Uri.key

/-- All keys of a document, the one it is registered under first. -/
def keys (d : RegisteredDocument) : List String := (d.key :: d.declaredKeys).eraseDups

/-- The node that has a name of its own. -/
def anchor? (d : RegisteredDocument) (name : String) : Option Pointer := d.anchors.get? name

end RegisteredDocument

/-- What keeps a document from being registered. -/
inductive RegistryFault where
  /-- The text is no URI. -/
  | notUri (text : String)
  /-- A key of the document stands for another one, whose own key is given. -/
  | collision (key existing : String)
deriving DecidableEq, Repr

/-- The message for a fault of registration. -/
def RegistryFault.message : RegistryFault → String
  | .notUri text => "Invalid document URI '" ++ text ++ "'"
  | .collision key existing =>
    "Document registry URI collision for '" ++ key ++ "': already registered as " ++ existing

/-- Documents, and the keys that stand for them. -/
structure Registry where
  /-- The documents, in the order of registration. -/
  documents : List RegisteredDocument
  /-- For each key the place of its document. -/
  places : Entries Nat

namespace Registry

/-- The registry without documents. -/
def empty : Registry := ⟨[], []⟩

instance : Inhabited Registry := ⟨empty⟩

/-- The number of documents. -/
def size (r : Registry) : Nat := r.documents.length

/-- Whether there are no documents. -/
def isEmpty (r : Registry) : Bool := r.documents.isEmpty

/-- The place of the document that a URI stands for. -/
def placeOf? (r : Registry) (u : Uri) : Option Nat := r.places.get? u.key

/-- The place of the document that a text stands for.  The text of a key is read like any other, so
a key that is no normal form of itself does not lead to its document. -/
def place? (r : Registry) (text : String) : Option Nat := (Uri.ofText? text).bind r.placeOf?

/-- The document that a text stands for. -/
def get? (r : Registry) (text : String) : Option RegisteredDocument :=
  (r.place? text).bind (r.documents[·]?)

/-- Whether a text stands for a document. -/
def contains (r : Registry) (text : String) : Bool := (r.get? text).isSome

/-- The registry with one more document behind the others. -/
def add (r : Registry) (d : RegisteredDocument) : Registry where
  documents := r.documents ++ [d]
  places := d.keys.foldl (fun places key => places.put key r.documents.length) r.places

/-- The first key of a document that is taken, and the place of the document it stands for. -/
def taken? (r : Registry) (d : RegisteredDocument) : Option (String × Nat) :=
  d.keys.findSome? fun key => (r.places.get? key).map (key, ·)

/-- Registers a tree under a text. -/
def insert (r : Registry) (text : String) (d : LoadedDocument) : Except RegistryFault Registry :=
  match Uri.ofText? text with
  | none => .error (.notUri text)
  | some base =>
    let document := RegisteredDocument.ofLoaded base d
    match r.taken? document with
    | some (key, place) =>
      .error (.collision key ((r.documents[place]?.map (·.key)).getD ""))
    | none => .ok (r.add document)

/-- Registers a text under a URI. -/
def register (r : Registry) (uri text : String) : Except ImportError Registry := do
  let d ← LoadedDocument.ofText text
  (r.insert uri d).mapError fun fault => .general fault.message

/-- The registry in which a document stands at the place of another. -/
def putAt (r : Registry) (place : Nat) (d : RegisteredDocument) : Registry where
  documents := r.documents.set place d
  places :=
    d.keys.foldl (fun places key => places.put key place)
      (r.places.filter fun entry => entry.2 ≠ place)

/-- Registers a tree in place of the document that one of its keys stands for, if there is one.
The answer is the registry and the key the tree is registered under. -/
def replace (r : Registry) (text : String) (d : LoadedDocument) :
    Except RegistryFault (Registry × String) :=
  match Uri.ofText? text with
  | none => .error (.notUri text)
  | some base =>
    let document := RegisteredDocument.ofLoaded base d
    match r.taken? document with
    | some (_, place) => .ok (r.putAt place document, document.key)
    | none => .ok (r.add document, document.key)

/-- The number of nodes of all documents. -/
def nodeCount (r : Registry) : Nat :=
  r.documents.foldl (fun count document => count + document.root.size) 0

end Registry

end ApiDescription
