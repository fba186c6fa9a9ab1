import Signpost.Url.Basic

/-!
# Paths without dots

The path of a URL is normal when it has no steps `.` and `..` left in it. It is written
segment by segment: a `.` adds nothing, and a `..` takes back the last segment that was
written, down to the first slash.

A **drive letter** – a letter with a colon or a bar – is never taken back. As the first
segment of the path of a file it is written with a colon, and it ends there: what follows it
on the far side of a tab or a line break, which are not part of a URL, becomes a segment of
its own.
-/

namespace Signpost.Url

/-- A tab or a line break: not part of a URL. -/
def isIgnored (c : Char) : Bool :=
  c = '\t' || c = '\n' || c = '\r'

/-- A slash, or what counts as one. -/
def isSlash (special : Bool) (c : Char) : Bool :=
  c = '/' || (special && c = '\\')

/-! ### Segments -/

/-- A letter and a colon or a bar. -/
def isDriveLetter : Text → Bool
  | [letter, mark] => letter.isAlpha && (mark = ':' || mark = '|')
  | _ => false

/-- A letter and a colon. -/
def isColonDrive (segment : Text) : Bool :=
  isDriveLetter segment && segment.getLast? = some ':'

/-- A step that stays where it is. -/
def isSingleDot (segment : Text) : Bool :=
  (segment.map Char.toLower) ∈ [['.'], ['%', '2', 'e']]

/-- A step up. -/
def isDoubleDot (segment : Text) : Bool :=
  (segment.map Char.toLower) ∈
    [['.', '.'], ['.', '%', '2', 'e'], ['%', '2', 'e', '.'], ['%', '2', 'e', '%', '2', 'e']]

/-! ### What is written -/

/-- Whether a path ends with a slash. -/
def endsWithSlash (path : Text) : Bool :=
  path.getLast? = some '/'

/-- What a path has behind its last slash. -/
def lastSegment (path : Text) : Text :=
  (path.reverse.takeWhile (· != '/')).reverse

/-- A path up to its last slash, which stays. -/
def upToSlash (path : Text) : Text :=
  path.take (path.length - (lastSegment path).length)

/-- Whether the slash that ends a path can be taken back: it is not the first, and no drive
letter stands before it. -/
def slashGoes (path : Text) : Bool :=
  let before := path.dropLast
  before.contains '/' && !isDriveLetter (lastSegment before)

/-- Takes back the last segment of a path, unless it is the drive of a file. -/
def shorten (file : Bool) (path : Text) : Text :=
  if file && (isColonDrive (path.drop 1) || isColonDrive (lastSegment path)) then path
  else upToSlash path

/-- Takes back the last segment of a path that ends with a slash. -/
def stepUp (file : Bool) (path : Text) : Text :=
  shorten file (if endsWithSlash path && slashGoes path then path.dropLast else path)

/-- A path with a slash at its end. -/
def closed (path : Text) : Text :=
  if endsWithSlash path then path else path ++ ['/']

/-! ### Walking -/

/-- A path while it is being written. -/
structure Walk where
  /-- The path so far. -/
  written : Text
  /-- Where in it the current segment starts. -/
  start : Nat
  /-- What is read of the segment and not yet written, in reverse. -/
  pending : Text := []
  /-- Whether the first segment is the drive of a file. -/
  drive : Bool := false

namespace Walk

/-- Writes what is read. -/
def flush (w : Walk) : Walk :=
  { w with written := w.written ++ Percent.encode Percent.path w.pending.reverse, pending := [] }

/-- Reads one character of a segment. -/
def readChar (file : Bool) (w : Walk) (c : Char) : Walk :=
  if isIgnored c then w.flush
  else
    let w := if file && isColonDrive (w.written.drop 1) then
        { w with written := w.written ++ ['/'], start := w.start + 1 }
      else w
    { w with pending := c :: w.pending }

/-- Ends a segment, behind which the path goes on with a slash or ends. -/
def settle (file slash : Bool) (w : Walk) : Walk :=
  let before := w.written.take w.start
  let segment := w.written.drop w.start
  let mark := if slash then ['/'] else []
  if isDoubleDot segment then
    let up := stepUp file before
    { w with written := if slash then closed up else up }
  else if isSingleDot segment then
    { w with written := closed before }
  else if file && w.start = 1 && isDriveLetter segment then
    { w with written := before ++ segment.take 1 ++ [':'] ++ mark, drive := true }
  else
    { w with written := w.written ++ mark }

/-- Reads a segment. -/
def readSegment (file slash : Bool) (w : Walk) (segment : Text) : Walk :=
  let w := { w with start := w.written.length }
  (segment.foldl (readChar file) w).flush.settle file slash

/-- Reads segments with slashes between them. -/
def readSegments (file : Bool) (w : Walk) : List Text → Walk
  | [] => w
  | [last] => w.readSegment file false last
  | segment :: rest => readSegments file (w.readSegment file true segment) rest

end Walk

/-- The normal form of a path that goes on behind `front`, and whether it starts with the
drive of a file. The path of a file has one slash at its start. -/
def normalPath (scheme : Text) (special : Bool) (front t : Text) : Text × Bool :=
  let file := scheme = fileScheme
  let w := Walk.readSegments file ⟨front, front.length, [], false⟩ (t.splitOnP (isSlash special))
  (if file then '/' :: w.written.dropWhile (· = '/') else w.written, w.drive)

end Signpost.Url
