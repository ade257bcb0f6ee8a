import ApiDescription.Text.Percent
import ApiDescription.Text.Split

/-!
# Paths of URIs

A path is a text whose segments stand behind slashes.  It is built segment by segment: a segment of
one dot is left out, and one of two dots takes the segment before it away.  What is taken away ends
at a slash, and the slash behind a drive letter stays, so that no path leaves its drive.

Where files are meant, a drive letter at the front of the path gets its colon, and the empty
segments at the front are one.  Tabs and line ends are no part of a text, but they part a drive
letter from what stands behind it.
-/

namespace ApiDescription.UriPath

/-- Tabs and line ends stand in the text of a URI without being part of it. -/
def isGap (c : Char) : Bool := c = '\t' || c = '\n' || c = '\r'

/-- A text without its gaps. -/
def withoutGaps (text : List Char) : List Char := text.filter (!isGap ·)

/-! ## Segments -/

/-- Whether a segment stands for the directory itself. -/
def isHere (segment : List Char) : Bool :=
  segment.map Char.toLower ∈ [".", "%2e"].map String.toList

/-- Whether a segment stands for the directory above. -/
def isUp (segment : List Char) : Bool :=
  segment.map Char.toLower ∈ ["..", ".%2e", "%2e.", "%2e%2e"].map String.toList

/-- Whether a segment is a drive letter: a letter, and a colon or a bar. -/
def isDrive : List Char → Bool
  | [letter, mark] => letter.isAlpha && (mark = ':' || mark = '|')
  | _ => false

/-- Whether a segment is a drive letter with a colon. -/
def isPlainDrive (segment : List Char) : Bool :=
  isDrive segment && segment.getLast? = some ':'

/-- Whether a text starts with a drive letter that ends there or before one of the marks that end
a segment anywhere. -/
def startsWithDrive (text : List Char) : Bool :=
  isDrive (text.take 2) && (text.drop 2).head?.all fun c => c ∈ ['/', '\\', '?', '#']

/-- The characters that are encoded in a segment. -/
def isEncoded (c : Char) : Bool :=
  c.toNat < 0x20 || c.toNat = 0x7F ||
    c ∈ [' ', '"', '<', '>', '\x60', '#', '?', '\x7b', '\x7d']

/-! ## Parts of a path -/

/-- A path up to its last slash. -/
def directory (path : List Char) : List Char := (path.reverse.dropWhile (· ≠ '/')).reverse

/-- What stands behind the last slash of a path. -/
def lastSegment (path : List Char) : List Char := (path.reverse.takeWhile (· ≠ '/')).reverse

/-- What stands between the first two slashes of a path. -/
def firstSegment (path : List Char) : List Char := (path.drop 1).takeWhile (· ≠ '/')

/-- Nothing of a path is lost between its directory and its last segment. -/
theorem directory_append_lastSegment (path : List Char) :
    directory path ++ lastSegment path = path := by
  rw [directory, lastSegment, ← List.reverse_append, List.takeWhile_append_dropWhile,
    List.reverse_reverse]

/-- Whether a path ends in a slash. -/
def endsInSlash (path : List Char) : Bool := path.getLast? = some '/'

/-- A path with a slash at its end. -/
def closed (path : List Char) : List Char := if endsInSlash path then path else path ++ ['/']

/-! ## Building a path -/

/-- A path without its last segment; where files are meant a drive letter stays. -/
def shorten (ofFile : Bool) (path : List Char) : List Char :=
  if ofFile && isPlainDrive (lastSegment path) then path else directory path

/-- Whether the slash at the end of a path may go: it is not the first one, and no drive letter
stands before it. -/
def mayOpen (path : List Char) : Bool :=
  '/' ∈ path.dropLast && !startsWithDrive (lastSegment path.dropLast ++ ['/'])

/-- The directory above a path. -/
def above (ofFile : Bool) (path : List Char) : List Char :=
  shorten ofFile (if endsInSlash path && mayOpen path then path.dropLast else path)

/-- Whether a segment behind a path is the drive letter of a file. -/
def isDriveAt (ofFile : Bool) (path segment : List Char) : Bool :=
  ofFile && path = ['/'] && isDrive segment

/-- A path with a segment behind it; `more` tells whether a slash follows the segment. -/
def push (ofFile : Bool) (path segment : List Char) (more : Bool) : List Char :=
  if isUp segment then
    if more then closed (above ofFile path) else above ofFile path
  else if isHere segment then closed path
  else
    let segment := if isDriveAt ofFile path segment then segment.take 1 ++ [':'] else segment
    path ++ segment ++ (if more then ['/'] else [])

/-- Where files are meant, a path that is only a drive letter is closed before a segment that is
not empty. -/
def opened (ofFile : Bool) (path segment : List Char) : List Char :=
  if ofFile && isPlainDrive (path.drop 1) && !segment.isEmpty then closed path else path

/-- The text of a segment behind a path, from a text with gaps.  A gap behind the drive letter of a
file parts it from the rest as a slash does. -/
def segmentOf (ofFile : Bool) (path text : List Char) : List Char :=
  let segment := withoutGaps text
  let behind := (Text.cut ':' text).2.getD []
  let isParted := behind.head?.any isGap && 2 < segment.length
  let encoded := Percent.encode isEncoded segment
  if ofFile && path = ['/'] && isPlainDrive (segment.take 2) && isParted then
    encoded.take 2 ++ '/' :: encoded.drop 2
  else encoded

/-- A path, and whether a drive letter was put at its front. -/
structure Walk where
  /-- The path. -/
  path : List Char
  /-- Whether a segment became the drive letter at the front. -/
  metDrive : Bool
deriving DecidableEq, Repr

/-- The path behind a given one through the segments of a text. -/
def walk (ofFile : Bool) (w : Walk) : List (List Char) → Walk
  | [] => w
  | text :: rest =>
    let segment := segmentOf ofFile w.path text
    let path := opened ofFile w.path segment
    let metDrive := w.metDrive || isDriveAt ofFile path segment
    walk ofFile ⟨push ofFile path segment (!rest.isEmpty), metDrive⟩ rest

/-- The texts between slashes; a backslash may stand for a slash. -/
def segmentTexts (backslash : Bool) (text : List Char) : List (List Char) :=
  Text.split '/' (if backslash then text.map fun c => if c = '\\' then '/' else c else text)

/-- The path of a file behind a given one: the empty segments at its front are one. -/
def fileWalk (path text : List Char) : Walk :=
  let w := walk true ⟨path, false⟩ (segmentTexts true text)
  { w with path := '/' :: w.path.dropWhile (· = '/') }

/-- The path behind a given one where no file is meant. -/
def extend (backslash : Bool) (path text : List Char) : List Char :=
  (walk false ⟨path, false⟩ (segmentTexts backslash text)).path

end ApiDescription.UriPath
