import Signpost.Disk.Basic
import Signpost.Log
import Signpost.Url.File

/-!
# From a reference to its target

A reference is resolved in the directory of the document that holds it. It has to be
relative: a path from the root and anything that looks like a URL are not followed.
The rest is three steps – join and clean the path, ask whether it can be opened, name
it by its URL – and a `Lookup` says which of them ended the search.

Whether a path can be opened is up to a `Probe`. It is asked about at most one path,
and only about a clean one.
-/

namespace Signpost

/-- A test whether a path can be the target of a reference. -/
abbrev Probe := Path → Except DiskError Unit

/-- The target of a reference. -/
structure Target where
  /-- The path of the file. -/
  path : Path
  /-- Its URL. -/
  url : Url
deriving DecidableEq, Repr

namespace Target

/-- What divides the scheme of a URL from its host. -/
def schemeMark : Text := [':', '/', '/']

/-- The path that a reference in a directory leads to, if the reference is
relative. -/
def candidate? (directory : Path) (reference : Text) : Option Path :=
  if reference.isEmpty || Text.occursIn schemeMark reference then none
  else
    let relative := Path.ofText reference
    if relative.isAbsolute then none else some (directory.join relative).clean

end Target

/-- How the search for a target ended. -/
inductive Lookup where
  /-- The reference is not relative. -/
  | notRelative (reference : Text)
  /-- The path cannot be opened. -/
  | unreachable (path : Path) (error : DiskError)
  /-- The path has no URL, because it is not absolute. -/
  | noUrl (path : Path)
  /-- The target is there. -/
  | found (target : Target)
deriving DecidableEq, Repr

namespace Lookup

/-- Looks for the target of a reference in a directory. -/
def run (probe : Probe) (directory : Path) (reference : Text) : Lookup :=
  match Target.candidate? directory reference with
  | none => notRelative reference
  | some path =>
    match probe path with
    | .error e => unreachable path e
    | .ok () =>
      match Url.ofPath? path with
      | none => noUrl path
      | some url => found ⟨path, url⟩

/-- The target, if it was found. -/
def target? : Lookup → Option Target
  | found target => some target
  | _ => none

/-- The path that the probe was asked about. -/
def asked? : Lookup → Option Path
  | notRelative _ => none
  | unreachable path _ => some path
  | noUrl path => some path
  | found target => some target.path

/-- What is recorded about a search. -/
def records : Lookup → List Record
  | notRelative reference =>
    [⟨.debug, "dank_ls::target",
      "Skipping non-relative reference " ++ String.ofList (Text.quoted reference)⟩]
  | unreachable path e =>
    [⟨.debug, "dank_ls::target",
      "Target " ++ path.display ++ " cannot be opened: " ++ e.message⟩]
  | _ => []

end Lookup

end Signpost
