import Signpost.Json.Describe
import Signpost.Settings.Basic

/-!
# Settings from JSON

A client sends a layer of settings as an object. A member that is missing or null leaves
its field open, and members that are no fields are passed over. The fields may also come
as an array, in the order of their declaration and all of them.

A layer with a single fault is no layer. The fault that is reported is the first one: in
an object the fields are visited in the order of their names, in an array in the order of
the items.
-/

namespace Signpost

namespace Layer

/-- What a field of a layer, or a part of it, has to be. -/
inductive Wanted where
  /-- A whole layer. -/
  | layer
  /-- A truth value. -/
  | truth
  /-- A list. -/
  | list
  /-- A string. -/
  | string
  /-- A natural number of 32 bits. -/
  | count
deriving DecidableEq, Repr

/-- How a message calls what was wanted. -/
def Wanted.text : Wanted → String
  | layer => "struct DankSettings"
  | truth => "a boolean"
  | list => "a sequence"
  | string => "a string"
  | count => "u32"

/-- Why a JSON value is no layer. -/
inductive Fault where
  /-- A value of one kind stands where another kind is wanted. -/
  | kind (found : Json) (wanted : Wanted)
  /-- A whole number does not fit into 32 bits. -/
  | range (n : Int)
  /-- An array ends after `count` fields. -/
  | tooShort (count : Nat)
  /-- An array has `count` items. -/
  | tooLong (count : Nat)

/-- The number of fields of a layer. -/
def fieldCount : Nat := 5

/-- The wording of a fault. -/
def Fault.message : Fault → String
  | kind found wanted => found.mismatch wanted.text
  | range n => Json.outOfRange n Wanted.count.text
  | tooShort count =>
    "invalid length " ++ toString count ++ ", expected " ++ Wanted.layer.text ++ " with " ++
      toString fieldCount ++ " elements"
  | tooLong count =>
    "invalid length " ++ toString count ++ ", expected fewer elements in array"

/-! ### Fields -/

/-- A truth value. -/
def truth : Json → Except Fault Bool
  | .bool b => .ok b
  | j => .error (.kind j .truth)

/-- A string. -/
def string : Json → Except Fault String
  | .str s => .ok s
  | j => .error (.kind j .string)

/-- A list of strings. -/
def strings : Json → Except Fault (List String)
  | .arr items => items.mapM string
  | j => .error (.kind j .list)

/-- A natural number of 32 bits. -/
def count : Json → Except Fault Nat
  | .num (.int n) => if fitsUnsigned 32 n then .ok n.toNat else .error (.range n)
  | j => .error (.kind j .count)

/-- A field that may be left open: null is no value. -/
def optional (decode : Json → Except Fault α) : Json → Except Fault (Option α)
  | .null => .ok none
  | j => some <$> decode j

/-- The field under a name; a missing member leaves it open. -/
def member (j : Json) (name : String) (decode : Json → Except Fault α) :
    Except Fault (Option α) :=
  optional decode ((j.get? name).getD .null)

/-! ### Layers -/

/-- The layer of the members of an object, visited in the order of their names. -/
def ofMembers (j : Json) : Except Fault Layer := do
  let pageLanguages ← member j "htmlLanguages" strings
  let includes ← member j "htmlPartials" truth
  let backwardLines ← member j "maxBackwardLines" count
  let scriptLanguages ← member j "scriptLanguages" strings
  let workers ← member j "workerUrls" truth
  return { includes, workers, pageLanguages, scriptLanguages, backwardLines }

/-- The layer of the items of an array, in the order of the fields. -/
def ofItems (items : List Json) : Except Fault Layer := do
  let (includes, rest) ← next 0 items truth
  let (workers, rest) ← next 1 rest truth
  let (pageLanguages, rest) ← next 2 rest strings
  let (scriptLanguages, rest) ← next 3 rest strings
  let (backwardLines, rest) ← next 4 rest count
  if rest.isEmpty then
    return { includes, workers, pageLanguages, scriptLanguages, backwardLines }
  else
    throw (.tooLong items.length)
where
  /-- The field at the head of the items, after `seen` others. -/
  next {α : Type} (seen : Nat) (items : List Json) (decode : Json → Except Fault α) :
      Except Fault (Option α × List Json) :=
    match items with
    | [] => .error (.tooShort seen)
    | item :: rest => (·, rest) <$> optional decode item

/-- The layer that a JSON value holds. -/
def ofJson (j : Json) : Except Fault Layer :=
  match j with
  | .obj _ => ofMembers j
  | .arr items => ofItems items
  | _ => .error (.kind j .layer)

end Layer

end Signpost
