import Signpost.Resolve.Target
import Signpost.Token.Construction
import Signpost.Token.Include
import Signpost.Token.Script

/-!
# Resolving what stands under the cursor

A document is read through one of two **grammars**: pages hold includes, scripts hold
worker constructions. Resolution looks at the line of the cursor for a token of the
grammar, decides whether the token really is a reference – an include must name a
page, a script string must be the argument of a construction – and then looks for the
target in the directory of the document.

The outcome is an `Attempt`, which keeps the reason when there is no reference. What a
client sees (`Attempt.reference?`), which path was asked about (`Attempt.asked?`) and
what is recorded (`Attempt.records`) are three views of it.
-/

namespace Signpost

/-- The two ways to read a document. -/
inductive Grammar where
  /-- A page with includes. -/
  | page
  /-- A script with worker constructions. -/
  | script
deriving DecidableEq, Repr

/-- What resolution reads of a document. -/
structure Source where
  /-- The text of a line, without its terminator. -/
  line : Nat → Option Text
  /-- The directory of the document, if it is a file. -/
  directory : Option Path
  /-- The declaration around a position, where it is known. -/
  declaration : Position → Option Range

/-- A reference with its target. -/
structure Reference where
  /-- The range of the token in the document. -/
  origin : Range
  /-- The target. -/
  target : Target
deriving DecidableEq, Repr

/-- How the attempt to resolve a reference ended. -/
inductive Attempt where
  /-- There is no token under the cursor. -/
  | nothing
  /-- An include does not name a page. -/
  | notAPage (path : Text)
  /-- A script string is not the argument of a construction. -/
  | notConstructed (name : Text)
  /-- The document has no directory. -/
  | noDirectory
  /-- A reference was looked up. -/
  | lookedUp (origin : Range) (lookup : Lookup)
deriving DecidableEq, Repr

namespace Attempt

/-- The extension of a page. -/
def pageExtension : Bytes := Utf8.encode ['h', 't', 'm', 'l']

/-- A path that names a page. -/
def namesPage (path : Text) : Bool :=
  (Path.ofText path).extension? = some pageExtension

/-- Looks up a reference from a document. -/
def lookUp (source : Source) (probe : Probe) (origin : Range) (reference : Text) : Attempt :=
  match source.directory with
  | none => noDirectory
  | some directory => lookedUp origin (.run probe directory reference)

/-- The attempt on a page. -/
def onPage (source : Source) (position : Position) (probe : Probe) : Attempt :=
  match (source.line position.line).bind fun t => Include.at? t position.character with
  | none => nothing
  | some k =>
    if namesPage k.content then
      lookUp source probe (k.span.onLine position.line) k.content
    else
      notAPage k.content

/-- The attempt on a script, walking back over at most `limit` lines. -/
def onScript (source : Source) (position : Position) (probe : Probe) (limit : Nat) : Attempt :=
  match (source.line position.line).bind fun t => Script.at? t position.character with
  | none => nothing
  | some k =>
    if Construction.verify source.line position.line (Script.quoteByte k) limit
        (source.declaration position) then
      lookUp source probe (k.span.onLine position.line) k.content
    else
      notConstructed k.content

/-- The lookup of an attempt that came that far. -/
def lookup? : Attempt → Option Lookup
  | lookedUp _ lookup => some lookup
  | _ => none

/-- The reference that was resolved. -/
def reference? : Attempt → Option Reference
  | lookedUp origin lookup => lookup.target?.map fun target => ⟨origin, target⟩
  | _ => none

/-- The path that the probe was asked about. -/
def asked? (a : Attempt) : Option Path :=
  a.lookup?.bind Lookup.asked?

/-- What is recorded about an attempt. -/
def records : Attempt → List Record
  | notAPage path =>
    [⟨.debug, "dank_ls::html_partial",
      "Ignoring partial " ++ String.ofList (Text.quoted path) ++ ": not an .html path"⟩]
  | notConstructed name =>
    [⟨.debug, "dank_ls::worker_url",
      "String " ++ String.ofList (Text.quoted name) ++ " is not a worker constructor argument"⟩]
  | lookedUp _ lookup => lookup.records
  | nothing => []
  | noDirectory => []

end Attempt

/-- How many lines the walk back goes when nothing else is said. -/
def defaultBackwardLines : Nat := 32

/-- Resolves what stands at a position of a document. -/
def resolve (grammar : Grammar) (source : Source) (position : Position) (limit : Nat)
    (probe : Probe) : Attempt :=
  match grammar with
  | .page => .onPage source position probe
  | .script => .onScript source position probe limit

end Signpost
