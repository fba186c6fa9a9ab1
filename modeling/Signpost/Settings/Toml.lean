import Signpost.Decimal
import Signpost.Settings.Basic
import Signpost.Text.Quoted
import Signpost.Toml.Parser
import Signpost.Width

/-!
# Settings from TOML

A file of settings is a TOML document whose top-level members are the fields of a layer,
under the names that a client uses, too. Other members are passed over, but for numbers that
are too great: those are faults wherever they stand. A member of the wrong kind spoils the
whole file. The members are looked at in the order of their names, and the first fault is
reported.
-/

namespace Signpost.Layer

open Toml (Extent Members fail)

/-! ### Numbers that are too great -/

/-- A whole number that can be taken in: one of 128 bits, with a sign or without. -/
def inRange (n : Int) : Bool :=
  fitsSigned 128 n || fitsUnsigned 128 n

/-- Checks that a whole number can be taken in. -/
def checkInteger (extent : Extent) (n : Int) : Except Toml.Fault Unit :=
  if inRange n then .ok () else fail .integerOverflow extent

/-- Checks that a number with a fraction or an exponent can be taken in. -/
def checkFloat (extent : Extent) : Toml.Float → Except Toml.Fault Unit
  | .finite _ n exponent =>
    if Double.overflows n exponent then fail .floatOverflow extent else .ok ()
  | _ => .ok ()

mutual

/-- Checks that all numbers of a value can be taken in. -/
def passOver (extent : Extent) : Toml → Except Toml.Fault Unit
  | .integer n => checkInteger extent n
  | .float x => checkFloat extent x
  | .array items => passOverItems items
  | .table _ members => passOverMembers members
  | .tables items => passOverTables items
  | _ => .ok ()

/-- Checks the numbers of all items. -/
def passOverItems : List (Extent × Toml) → Except Toml.Fault Unit
  | [] => .ok ()
  | (extent, item) :: rest => do
    passOver extent item
    passOverItems rest

/-- Checks the numbers of all members. -/
def passOverMembers : List (Text × Extent × Toml) → Except Toml.Fault Unit
  | [] => .ok ()
  | (_, extent, value) :: rest => do
    passOver extent value
    passOverMembers rest

/-- Checks the numbers of all tables of a list. -/
def passOverTables : List (Extent × List (Text × Extent × Toml)) → Except Toml.Fault Unit
  | [] => .ok ()
  | (_, members) :: rest => do
    passOverMembers members
    passOverTables rest

end

/-! ### Values of the wrong kind -/

/-- How a message calls a number with a fraction or an exponent. -/
def floatText : Toml.Float → String
  | .infinite negative => if negative then "-inf" else "inf"
  | .undefined => "NaN"
  | .finite negative n exponent =>
    (if negative then "-" else "") ++ (Double.ofScaled n exponent).fullText

/-- How a message calls a whole number: one that does not fit into 64 bits is called by its
width, too. -/
def integerText (n : Int) : String :=
  let text := "integer `" ++ toString n ++ "`"
  if fitsSigned 64 n || fitsUnsigned 64 n then text
  else if fitsSigned 128 n then text ++ " as i128"
  else text ++ " as u128"

/-- What a message calls a value that is not of the kind it should be. -/
def describeToml : Toml → String
  | .string t => "string " ++ String.ofList (Text.quoted t)
  | .integer n => integerText n
  | .float x => "floating point `" ++ floatText x ++ "`"
  | .boolean b => if b then "boolean `true`" else "boolean `false`"
  | .array _ => "sequence"
  | .tables _ => "sequence"
  | .moment => "map"
  | .table _ _ => "map"

/-- The fault of a value that is not of the wanted kind. A number that is too great is that
first of all. -/
def wrongKind (extent : Extent) (value : Toml) (wanted : String) : Except Toml.Fault α := do
  match value with
  | .integer n => checkInteger extent n
  | .float x => checkFloat extent x
  | _ => pure ()
  fail (.mismatch (describeToml value) wanted) extent

/-! ### Fields -/

/-- A truth value. -/
def truthOfToml (extent : Extent) : Toml → Except Toml.Fault Bool
  | .boolean b => .ok b
  | value => wrongKind extent value "a boolean"

/-- A string. -/
def stringOfToml (extent : Extent) : Toml → Except Toml.Fault String
  | .string t => .ok (String.ofList t)
  | value => wrongKind extent value "a string"

/-- A list of strings. -/
def stringsOfToml (extent : Extent) : Toml → Except Toml.Fault (List String)
  | .array items => items.mapM fun (extent, item) => stringOfToml extent item
  | .tables items => items.mapM fun (extent, members) =>
    stringOfToml extent (.table .header members)
  | value => wrongKind extent value "a sequence"

/-- A natural number of 32 bits. -/
def countOfToml (extent : Extent) : Toml → Except Toml.Fault Nat
  | .integer n =>
    if fitsUnsigned 32 n then .ok n.toNat
    else if fitsSigned 64 n || fitsUnsigned 64 n then fail (.range n "u32") extent
    else wrongKind extent (.integer n) "u32"
  | value => wrongKind extent value "u32"

/-! ### Layers -/

/-- A layer with one more member of a document in it. -/
def takeMember (layer : Layer) (name : Text) (extent : Extent) (value : Toml) :
    Except Toml.Fault Layer := do
  match String.ofList name with
  | "htmlPartials" => return { layer with includes := ← truthOfToml extent value }
  | "workerUrls" => return { layer with workers := ← truthOfToml extent value }
  | "htmlLanguages" => return { layer with pageLanguages := ← stringsOfToml extent value }
  | "scriptLanguages" => return { layer with scriptLanguages := ← stringsOfToml extent value }
  | "maxBackwardLines" => return { layer with backwardLines := ← countOfToml extent value }
  | _ =>
    passOver extent value
    return layer

/-- The layer that a document holds. -/
def ofMembersOfToml (members : Members) : Except Toml.Fault Layer :=
  members.foldlM (fun (layer : Layer) (name, extent, value) => layer.takeMember name extent value)
    {}

/-- The layer that the text of a file of settings holds. -/
def ofToml (t : Text) : Except Toml.Fault Layer := do
  ofMembersOfToml (← Toml.parse t)

end Signpost.Layer
