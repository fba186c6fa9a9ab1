import Signpost.Path.Basic

/-!
# Clean paths

A clean path says where it leads without detours: no `.`, no repeated slash, and `..`
only where nothing is left to undo, at the start of a relative path. Cleaning is done
on the components alone and asks no file system, so a `..` always undoes the name
before it, whatever that name is.

`Path.absolute?` does less: it puts the working directory in front of a relative path
and drops what names nothing, but it leaves every `..` where it is, for the file
system to follow. Without a working directory it fails on relative paths, and on these
only.
-/

namespace Signpost.Path

/-- One step of cleaning: `done` holds the components so far, the last one first. -/
def cleanStep (done : List Component) (c : Component) : List Component :=
  match c with
  | .current => done
  | .parent =>
    match done with
    | .root :: _ => done
    | .name _ :: above => above
    | _ => .parent :: done
  | c => c :: done

/-- The components of a clean path. -/
def cleanComponents (components : List Component) : List Component :=
  (components.foldl cleanStep []).reverse

/-- The path with the given components. -/
def ofComponents (components : List Component) : Path :=
  components.foldl (fun p c => p.join ⟨c.bytes⟩) ⟨[]⟩

/-- The path without detours; `.` when nothing is left. -/
def clean (p : Path) : Path :=
  match cleanComponents p.components with
  | [] => ⟨[dot]⟩
  | components => ofComponents components

/-- What the steps of an absolute path go on from: exactly two leading slashes, or
nothing. -/
def front (p : Path) : Path :=
  match p.bytes with
  | 0x2F :: 0x2F :: 0x2F :: _ => ⟨[]⟩
  | 0x2F :: 0x2F :: _ => ⟨[slash, slash]⟩
  | _ => ⟨[]⟩

/-- The path as seen from the working directory, if that is needed and there is one. A
trailing slash is kept, and so are exactly two leading ones. -/
def absolute? (cwd : Option Path) (p : Path) : Option Path := do
  let base ← if p.isAbsolute then some p.front else cwd
  let steps := match p.components with
    | .current :: rest => rest
    | steps => steps
  let steps := if base.bytes = [slash, slash] && p.isAbsolute then steps.drop 1 else steps
  let whole := steps.foldl (fun q c => q.join ⟨c.bytes⟩) base
  return if p.bytes.getLast? = some slash then whole.join ⟨[]⟩ else whole

end Signpost.Path
