import Signpost.Json.Basic
import Signpost.Text.Quoted

/-!
# How messages call a JSON value

A message that complains about a value names its kind and, where that is short, the value
itself.
-/

namespace Signpost.Json

/-- What a message calls a value that is not of the kind it should be. -/
def describe : Json → String
  | null => "null"
  | bool true => "boolean `true`"
  | bool false => "boolean `false`"
  | num (.int n) => "integer `" ++ toString n ++ "`"
  | num x => "floating point `" ++ x.text ++ "`"
  | str s => "string " ++ String.ofList (Text.quoted s.toList)
  | arr _ => "sequence"
  | obj _ => "map"

/-- The complaint about a value that is not of the wanted kind. -/
def mismatch (found : Json) (wanted : String) : String :=
  "invalid type: " ++ found.describe ++ ", expected " ++ wanted

/-- The complaint about a whole number that does not fit the wanted kind. -/
def outOfRange (n : Int) (wanted : String) : String :=
  "invalid value: integer `" ++ toString n ++ "`, expected " ++ wanted

end Signpost.Json
