import ApiDescription.Uri.Host
import ApiDescription.Uri.Path
import ApiDescription.Text.Blank

/-!
# Absolute URIs

An absolute URI has a scheme, perhaps an authority, a path, and perhaps a query and a fragment.  It
is read from a text of its own, or from a reference that is resolved against another URI; either
way it comes out in normal form, so URIs are compared by their texts.

The schemes of the web have rules of their own: there is always a host and a path, a backslash
counts as a slash, and the usual port is left out.  Files have a host only if it is not this one,
and none beside a drive letter.
-/

namespace ApiDescription

/-- Who answers for a URI. -/
structure Authority where
  /-- The user, encoded. -/
  user : String
  /-- The password, encoded. -/
  password : String
  /-- The host. -/
  host : Host
  /-- The port, if it is not the usual one. -/
  port : Option Nat
deriving DecidableEq, Repr

/-- An absolute URI in normal form. -/
structure Uri where
  /-- The scheme, in small letters. -/
  scheme : String
  /-- The authority, if there is one. -/
  authority : Option Authority
  /-- The path. -/
  path : String
  /-- The query, if there is one. -/
  query : Option String
  /-- The fragment, if there is one. -/
  fragment : Option String
deriving DecidableEq, Repr

namespace Uri

/-! ## Schemes -/

/-- The schemes of the web, and their usual ports. -/
def webPorts : List (String × Nat) :=
  [("http", 80), ("https", 443), ("ws", 80), ("wss", 443), ("ftp", 21)]

/-- Whether a scheme is one of the web. -/
def isWeb (scheme : String) : Bool := webPorts.any (·.1 = scheme)

/-- Whether a scheme is that of files. -/
def isFile (scheme : String) : Bool := scheme = "file"

/-- Whether a backslash counts as a slash. -/
def takesBackslash (scheme : String) : Bool := isWeb scheme || isFile scheme

/-- Whether a character may stand in a scheme. -/
def isSchemeChar (c : Char) : Bool :=
  c.isAlphanum || c = '+' || c = '-' || c = '.'

/-- The scheme at the front of a text, and what follows its colon. -/
def scheme? (text : List Char) : Option (String × List Char) :=
  match Text.cut ':' text with
  | (front, some rest) =>
    match UriPath.withoutGaps front with
    | c :: cs =>
      if c.isAlpha && cs.all isSchemeChar then
        some (String.ofList ((c :: cs).map Char.toLower), rest)
      else none
    | [] => none
  | (_, none) => none

/-! ## Texts -/

/-- The text of an authority. -/
def authorityText (a : Authority) : String :=
  let credentials :=
    if a.user.isEmpty && a.password.isEmpty then ""
    else if a.password.isEmpty then a.user ++ "@"
    else a.user ++ ":" ++ a.password ++ "@"
  "//" ++ credentials ++ a.host.text ++ (a.port.map fun n => ":" ++ toString n).getD ""

/-- Whether a URI has a path of no segments: it has no authority, and no slash at the front. -/
def isFlat (u : Uri) : Bool := u.authority.isNone && u.path.toList.head? ≠ some '/'

/-- The text of the path of a URI.  Without an authority a path that starts with two slashes would
be taken for one, and a dot in front keeps them apart. -/
def pathText (u : Uri) : String :=
  if u.authority.isNone && u.path.toList.take 2 = ['/', '/'] then "/." ++ u.path else u.path

/-- The text of a URI. -/
def text (u : Uri) : String :=
  u.scheme ++ ":" ++ (u.authority.map authorityText).getD "" ++ u.pathText ++
    (u.query.map ("?" ++ ·)).getD "" ++ (u.fragment.map ("#" ++ ·)).getD ""

/-- The URI of the whole resource.  Spaces at the end of a flat path were kept apart from the end
by what followed, and go with it. -/
def withoutFragment (u : Uri) : Uri :=
  let path :=
    if u.isFlat && u.query.isNone then
      String.ofList (u.path.toList.reverse.dropWhile (· = ' ')).reverse
    else u.path
  { u with path, fragment := none }

/-! ## Parts of a reference -/

/-- A reference cut at its marks. -/
structure Parts where
  /-- What stands before the query and the fragment, with the gaps in it. -/
  front : List Char
  /-- The query. -/
  query : Option (List Char)
  /-- The fragment. -/
  fragment : Option (List Char)

/-- The parts of a reference.  Controls and spaces around it, and gaps anywhere, are no part of
it; those in its front are still to be left out. -/
def partsOf (text : String) : Parts :=
  let (whole, fragment) := Text.cut '#' (Text.trimBy (·.toNat ≤ 0x20) text.toList)
  let (front, query) := Text.cut '?' whole
  ⟨front, query.map UriPath.withoutGaps, fragment.map UriPath.withoutGaps⟩

/-- The characters that are encoded in a query; in schemes of the web also the apostrophe. -/
def isEncodedInQuery (scheme : String) (c : Char) : Bool :=
  Host.isControl c || c ∈ [' ', '"', '#', '<', '>'] || (takesBackslash scheme && c = '\x27')

/-- The characters that are encoded in a fragment. -/
def isEncodedInFragment (c : Char) : Bool :=
  Host.isControl c || c ∈ [' ', '"', '<', '>', '\x60']

/-- The characters that are encoded in a user and a password. -/
def isEncodedInCredentials (c : Char) : Bool :=
  UriPath.isEncoded c || c ∈ ['/', ':', ';', '=', '@', '[', '\\', ']', '^', '|']

/-- The query of a reference, encoded. -/
def Parts.queryText (p : Parts) (scheme : String) : Option String :=
  p.query.map fun text => String.ofList (Percent.encode (isEncodedInQuery scheme) text)

/-- The fragment of a reference, encoded. -/
def Parts.fragmentText (p : Parts) : Option String :=
  p.fragment.map fun text => String.ofList (Percent.encode isEncodedInFragment text)

/-- The URI of a given scheme, authority and path with the query and fragment of a reference. -/
def Parts.finish (p : Parts) (scheme : String) (authority : Option Authority)
    (path : List Char) : Uri :=
  ⟨scheme, authority, String.ofList path, p.queryText scheme, p.fragmentText⟩

/-- The URI that differs from a base by the query and fragment of a reference at most. -/
def Parts.finishSame (p : Parts) (base : Uri) : Uri :=
  { base with query := p.queryText base.scheme <|> base.query, fragment := p.fragmentText }

/-! ## Authorities -/

/-- Whether a character ends an authority. -/
def endsAuthority (scheme : String) (c : Char) : Bool :=
  c = '/' || (takesBackslash scheme && c = '\\')

/-- The text before the last place of a character, if there is one, and the text behind it. -/
def cutLast (at_ : Char) (text : List Char) : Option (List Char) × List Char :=
  match Text.cut at_ text.reverse with
  | (behind, some before) => (some before.reverse, behind.reverse)
  | (_, none) => (none, text)

/-- The host and what follows it: a colon in brackets does not end a host. -/
def cutHost (inBrackets : Bool) : List Char → List Char × List Char
  | [] => ([], [])
  | c :: rest =>
    if c = ':' && !inBrackets then ([], c :: rest)
    else
      let (host, behind) := cutHost (c = '[' || (inBrackets && c ≠ ']')) rest
      (c :: host, behind)

/-- The port that stands behind a host, `none` within if it is left out or the usual one. -/
def port? (scheme : String) (text : List Char) : Option (Option Nat) :=
  match text with
  | [] => some none
  | _ :: digits =>
    let n := Host.number 10 digits
    if !Host.areDigits 10 digits || 65535 < n then none
    else if digits.isEmpty || webPorts.contains (scheme, n) then some none
    else some (some n)

/-- The authority that a text writes, and what stands behind its port: a backslash ends a port in
any scheme.  `isLast` tells whether nothing follows the text; only then may a host be missing behind
credentials that are missing as well. -/
def authority? (scheme : String) (isLast : Bool) (text : List Char) :
    Option (Authority × List Char) := do
  let (credentials, place) := cutLast '@' text
  let encode (t : List Char) := String.ofList (Percent.encode isEncodedInCredentials t)
  let (user, password) := Text.cut ':' (credentials.getD [])
  let (hostText, behindHost) := cutHost false place
  let portText := behindHost.takeWhile (· ≠ '\\')
  let host ← if isWeb scheme && hostText.isEmpty then none else Host.parse? (isWeb scheme) hostText
  let port ← port? scheme portText
  let named := !user.isEmpty || !(password.getD []).isEmpty
  let isLost := credentials = some [] && !isLast
  if host.isEmpty && (named || isLost || !portText.isEmpty) then none
  else some (⟨encode user, encode (password.getD []), host, port⟩, behindHost.drop portText.length)

/-- The URI whose authority and path are written by a text behind two slashes. -/
def withAuthority? (scheme : String) (p : Parts) (text : List Char) : Option Uri := do
  let behind := text.dropWhile (!endsAuthority scheme ·)
  let isLast := behind.isEmpty && p.query.isNone && p.fragment.isNone
  let front := UriPath.withoutGaps (text.takeWhile (!endsAuthority scheme ·))
  let (authority, extra) ← authority? scheme isLast front
  let path :=
    if isWeb scheme then UriPath.extend true ['/'] (behind.drop 1)
    else if extra.isEmpty then UriPath.extend false [] behind
    else UriPath.extend false ['/'] (extra ++ behind)
  some (p.finish scheme (some authority) path)

/-! ## Slashes -/

/-- Whether a character is a slash of either direction. -/
def isSlash (c : Char) : Bool := c = '/' || c = '\\'

/-- What stands behind a slash at the front of a text. -/
def behindSlash? (text : List Char) : Option (List Char) :=
  match text.dropWhile UriPath.isGap with
  | c :: rest => if isSlash c then some rest else none
  | [] => none

/-- What stands behind two slashes at the front of a text, neither a backslash. -/
def behindSlashes? (text : List Char) : Option (List Char) :=
  match UriPath.withoutGaps text with
  | '/' :: '/' :: _ => (behindSlash? text).bind behindSlash?
  | _ => none

/-- The number of slashes at the front of a text. -/
def slashCount (text : List Char) : Nat := ((UriPath.withoutGaps text).takeWhile isSlash).length

/-- A text without the slashes at its front. -/
def withoutSlashes (text : List Char) : List Char :=
  text.dropWhile fun c => isSlash c || UriPath.isGap c

/-! ## Files -/

/-- The URI of a file. -/
def fileUri (p : Parts) (host : Host) (path : List Char) : Uri :=
  p.finish "file" (some ⟨"", "", host, none⟩) path

/-- The URI of a file on this host, whose path goes on behind a given one. -/
def localFile (p : Parts) (path text : List Char) : Uri :=
  fileUri p (.name "") (UriPath.fileWalk path text).path

/-- Whether a text starts with a drive letter. -/
def startsWithDrive (text : List Char) : Bool :=
  UriPath.startsWithDrive (UriPath.withoutGaps text)

/-- The URI of a file on the host that is written behind two slashes.  A path behind this host is
read with its slash; a drive letter at the front of a path behind another host takes the host
away. -/
def fileOnHost? (p : Parts) (text : List Char) : Option Uri := do
  let name := UriPath.withoutGaps (text.takeWhile (!isSlash ·))
  let behind := text.dropWhile (!isSlash ·)
  if UriPath.isDrive name then return localFile p ['/'] text
  let host ← if name.isEmpty then some (.name "") else Host.parse? true name
  if host = .name "" || host = .name "localhost" then return localFile p ['/'] behind
  let w := UriPath.fileWalk ['/'] (behind.drop 1)
  return fileUri p (if w.metDrive then .name "" else host) w.path

/-- The host of the URI of a file. -/
def fileHost (u : Uri) : Host := (u.authority.map (·.host)).getD (.name "")

/-- The URI of a file by a path with a slash at its front, on the drive or the host of the base. -/
def fileAtRoot (base : Option Uri) (p : Parts) (text behind : List Char) : Uri :=
  match if startsWithDrive behind then none else base with
  | none => localFile p [] text
  | some base =>
    let drive := UriPath.firstSegment base.path.toList
    if UriPath.isPlainDrive drive then localFile p ('/' :: drive) text
    else fileUri p base.fileHost (UriPath.fileWalk [] text).path

/-- The URI of a file, by a text behind its scheme or a reference against the URI of a file. -/
def file? (base : Option Uri) (p : Parts) (text : List Char) : Option Uri :=
  match behindSlash? text, base with
  | some behind, _ =>
    match behindSlash? behind with
    | some name => fileOnHost? p name
    | none => some (fileAtRoot base p text behind)
  | none, none => some (localFile p ['/'] text)
  | none, some base =>
    if (UriPath.withoutGaps text).isEmpty then some (p.finishSame base)
    else if startsWithDrive text then some (localFile p ['/'] text)
    else
      let w := UriPath.fileWalk (UriPath.shorten true base.path.toList) text
      some (fileUri p base.fileHost w.path)

/-! ## Reading and resolving -/

/-- The path of a URI that does not mean a file, to be gone on from with a relative path. -/
def directory (u : Uri) : List Char :=
  let path := UriPath.shorten false u.path.toList
  if path.isEmpty then ['/'] else path

/-- The URI of a reference without a scheme, or with that of the base, against a base that is not
flat and does not mean a file. -/
def relative? (base : Uri) (p : Parts) (text : List Char) : Option Uri :=
  let rooted (path text : List Char) :=
    p.finish base.scheme base.authority (UriPath.extend (isWeb base.scheme) path text)
  match slashCount text with
  | 0 =>
    if (UriPath.withoutGaps text).isEmpty then some (p.finishSame base)
    else some (rooted base.directory text)
  | 1 => some (rooted ['/'] (withoutSlashes text))
  | _ => withAuthority? base.scheme p ((behindSlashes? text).getD (withoutSlashes text))

/-- The URI of a text behind a scheme. -/
def withScheme? (base : Option Uri) (p : Parts) (scheme : String) (text : List Char) :
    Option Uri :=
  if isFile scheme then file? (base.filter (isFile ·.scheme)) p text
  else if isWeb scheme then
    match base.filter (·.scheme = scheme) with
    | some base =>
      if slashCount text < 2 then relative? base p text
      else withAuthority? scheme p (withoutSlashes text)
    | none => withAuthority? scheme p (withoutSlashes text)
  else
    match behindSlashes? text with
    | some text => withAuthority? scheme p text
    | none =>
      let path := UriPath.withoutGaps text
      if path.head? = some '/' then
        some (p.finish scheme none (UriPath.extend false ['/'] (path.drop 1)))
      else some (p.finish scheme none (Percent.encode Host.isControl path))

/-- The URI that a text writes by itself. -/
def parse? (text : String) : Option Uri :=
  let p := partsOf text
  (scheme? p.front).bind fun (scheme, rest) => withScheme? none p scheme rest

/-- The URI that a reference writes against a base. -/
def resolve? (base : Uri) (reference : String) : Option Uri :=
  let p := partsOf reference
  match scheme? p.front with
  | some (scheme, rest) => withScheme? (some base) p scheme rest
  | none =>
    if base.isFlat then
      if (UriPath.withoutGaps p.front).isEmpty && p.query.isNone && p.fragment.isSome then
        some { base with fragment := p.fragmentText }
      else none
    else if isFile base.scheme then file? (some base) p p.front
    else relative? base p p.front

end Uri

end ApiDescription
