import Signpost.Resolve.Basic

/-!
# Settings and their layers

Settings come in layers: the defaults, a file of the user, a file of the project, and
what the client sends. A **layer** sets some of the five fields and leaves the others
open; merging two layers takes, field by field, the value of the upper one where it has
one. Lists of languages replace each other, they do not add up, so that an upper layer
can narrow them.

What a resolution works with is a `Settings`, in which no field is open.
-/

namespace Signpost

/-- One layer of settings: each field may be left open. -/
structure Layer where
  /-- Whether includes are resolved. -/
  includes : Option Bool := none
  /-- Whether worker constructions are resolved. -/
  workers : Option Bool := none
  /-- The languages whose documents are pages. -/
  pageLanguages : Option (List String) := none
  /-- The languages whose documents are scripts. -/
  scriptLanguages : Option (List String) := none
  /-- How many lines the walk back to a `new` goes. -/
  backwardLines : Option Nat := none
deriving DecidableEq, Repr

/-- Settings with every field set. -/
structure Settings where
  /-- Whether includes are resolved. -/
  includes : Bool
  /-- Whether worker constructions are resolved. -/
  workers : Bool
  /-- The languages whose documents are pages. -/
  pageLanguages : List String
  /-- The languages whose documents are scripts. -/
  scriptLanguages : List String
  /-- How many lines the walk back to a `new` goes. -/
  backwardLines : Nat
deriving DecidableEq, Repr

namespace Settings

/-- The settings that hold when nothing else is said. -/
def default : Settings where
  includes := true
  workers := true
  pageLanguages := ["html"]
  scriptLanguages := ["javascript", "javascriptreact", "typescript", "typescriptreact"]
  backwardLines := defaultBackwardLines

instance : Inhabited Settings := ⟨default⟩

/-- The settings of a layer, with the defaults where it is open. -/
def ofLayer (layer : Layer) : Settings where
  includes := layer.includes.getD default.includes
  workers := layer.workers.getD default.workers
  pageLanguages := layer.pageLanguages.getD default.pageLanguages
  scriptLanguages := layer.scriptLanguages.getD default.scriptLanguages
  backwardLines := layer.backwardLines.getD default.backwardLines

end Settings

namespace Layer

/-- The lowest layer: the defaults, all of them set. -/
def default : Layer where
  includes := some Settings.default.includes
  workers := some Settings.default.workers
  pageLanguages := some Settings.default.pageLanguages
  scriptLanguages := some Settings.default.scriptLanguages
  backwardLines := some Settings.default.backwardLines

/-- An upper layer stacked on a lower one. -/
def stackedOn (upper lower : Layer) : Layer where
  includes := upper.includes.or lower.includes
  workers := upper.workers.or lower.workers
  pageLanguages := upper.pageLanguages.or lower.pageLanguages
  scriptLanguages := upper.scriptLanguages.or lower.scriptLanguages
  backwardLines := upper.backwardLines.or lower.backwardLines

/-- Two layers of which either may be missing. -/
def merge (lower upper : Option Layer) : Option Layer :=
  match lower, upper with
  | none, upper => upper
  | lower, none => lower
  | some lower, some upper => some (upper.stackedOn lower)

/-- A stack of layers, the lowest first, of which any may be missing. -/
def mergeAll (layers : List (Option Layer)) : Option Layer :=
  layers.foldl merge none

end Layer

/-- The lowest layer reads as the defaults. -/
@[simp] theorem Settings.ofLayer_default : Settings.ofLayer Layer.default = Settings.default :=
  rfl

/-- A layer that is open everywhere reads as the defaults, too. -/
@[simp] theorem Settings.ofLayer_open : Settings.ofLayer {} = Settings.default :=
  rfl

end Signpost
