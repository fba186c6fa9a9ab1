import Signpost.Text.Digits
import Signpost.Text.Quoted
import Signpost.Text.Utf8

/-!
# Paths

A path is a sequence of bytes, and the byte `/` divides it. What it names depends on
its **components** only: repeated and trailing slashes do not matter, and neither does
a step `.` – except at the very start of a path, where it says that the path is
relative and is a component of its own.

`Path.parent?` and `Path.join` nevertheless work on the bytes, not on the components:
the parent of `/a//b/c` is `/a//b`, with both slashes. That is what shows in messages,
so it is kept.

## Main definitions

* `Signpost.Path.components`: the components of a path.
* `Signpost.Path.join`, `Signpost.Path.parent?`, `Signpost.Path.ancestors`.
* `Signpost.Path.fileName?`, `Signpost.Path.extension?`.
-/

namespace Signpost

/-- A path, as the bytes of its name. -/
structure Path where
  /-- The bytes of the path. -/
  bytes : Bytes
deriving DecidableEq, Repr

namespace Path

/-- The byte that divides a path. -/
def slash : UInt8 := 0x2F

/-- The byte of a dot. -/
def dot : UInt8 := 0x2E

/-- The path that a text names. -/
def ofText (t : Text) : Path := ⟨Utf8.encode t⟩

/-- The path that a string names. -/
def ofString (s : String) : Path := ofText s.toList

/-- The text of a path, for messages. -/
def text (p : Path) : Text := Utf8.display p.bytes

/-- The text of a path as a string, for messages. -/
def display (p : Path) : String := String.ofList p.text

/-- A path that starts at the root. -/
def isAbsolute (p : Path) : Bool := p.bytes.head? == some slash

/-! ### Components -/

/-- A step of a path. -/
inductive Component where
  /-- The root. -/
  | root
  /-- The directory itself; only at the start of a relative path. -/
  | current
  /-- The directory above. -/
  | parent
  /-- A name in the directory. -/
  | name (bytes : Bytes)
deriving DecidableEq, Repr

namespace Component

/-- The bytes of a component. -/
def bytes : Component → Bytes
  | root => [slash]
  | current => [dot]
  | parent => [dot, dot]
  | name b => b

/-- The component that a piece between two slashes stands for, if it matters. -/
def ofPiece? (piece : Bytes) : Option Component :=
  if piece = [] then none
  else if piece = [dot] then none
  else if piece = [dot, dot] then some parent
  else some (name piece)

end Component

/-- The pieces of a path between its slashes. -/
def pieces (p : Path) : List Bytes :=
  p.bytes.splitOn slash

/-- The components of a path. -/
def components (p : Path) : List Component :=
  match p.pieces with
  | [] => []
  | first :: rest =>
    let tail := rest.filterMap Component.ofPiece?
    if p.isAbsolute then .root :: tail
    else if first = [dot] then .current :: tail
    else (Component.ofPiece? first).toList ++ tail

/-! ### Going down and up -/

/-- The path that `q` names when it is read in the directory `p`. -/
def join (p q : Path) : Path :=
  if q.isAbsolute then q
  else if p.bytes = [] || p.bytes.getLast? = some slash then ⟨p.bytes ++ q.bytes⟩
  else ⟨p.bytes ++ slash :: q.bytes⟩

/-- A piece that names nothing. -/
def isIdle (piece : Bytes) : Bool :=
  piece = [] || piece = [dot]

/-- The pieces of a path without the idle ones at its end. -/
def dropIdle (pieces : List Bytes) : List Bytes :=
  (pieces.reverse.dropWhile isIdle).reverse

/-- The pieces of a path in order, with slashes between them. -/
def ofPieces (pieces : List Bytes) : Path :=
  ⟨List.intercalate [slash] pieces⟩

/-- The path without its last component. The root and the empty path have no
parent. -/
def parent? (p : Path) : Option Path :=
  match p.pieces with
  | [] => none
  | first :: rest =>
    match dropIdle rest with
    | [] => if p.bytes = [] || p.isAbsolute then none else some ⟨[]⟩
    | kept =>
      let above := dropIdle kept.dropLast
      if above = [] && p.isAbsolute then some ⟨[slash]⟩ else some (ofPieces (first :: above))

/-- The paths above a path, from the nearest to the farthest. The fuel is spent on
the pieces of the path, of which each step up loses at least one. -/
def ancestorsFrom : Nat → Path → List Path
  | 0, _ => []
  | fuel + 1, p =>
    match p.parent? with
    | none => []
    | some q => q :: ancestorsFrom fuel q

/-- The paths above a path, from the nearest to the farthest. -/
def ancestors (p : Path) : List Path :=
  ancestorsFrom (p.bytes.length + 1) p

/-! ### Names -/

/-- The last component of a path, if it is a name. -/
def fileName? (p : Path) : Option Bytes :=
  match p.components.getLast? with
  | some (.name b) => some b
  | _ => none

/-- What follows the last dot of a name, if something stands before that dot. -/
def extensionOf? (name : Bytes) : Option Bytes :=
  let after := name.reverse.takeWhile (· != dot)
  -- what is left is the dot and, in reverse, what stands before it
  match name.reverse.drop after.length with
  | _ :: _ :: _ => some after.reverse
  | _ => none

/-- The extension of the last component of a path. -/
def extension? (p : Path) : Option Bytes :=
  p.fileName?.bind extensionOf?

/-! ### Quoting -/

/-- A path in double quotes, with its broken bytes in hexadecimal. -/
def quoted (p : Path) : Text :=
  ['"'] ++ (Utf8.pieces p.bytes).flatMap piece ++ ['"']
where
  /-- Two upper-case hexadecimal digits. -/
  byte (b : UInt8) : Text :=
    ['\\', 'x'] ++ Digits.ofByte b
  /-- A character or a broken piece of the path. -/
  piece : Utf8.Piece × Bytes → Text
    | (.char c _, _) => Text.quoteChar c
    | (.broken _, bytes) => bytes.flatMap byte

end Path

end Signpost
