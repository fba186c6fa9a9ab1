import Signpost.Json.Describe
import Signpost.Json.Printer
import Signpost.Uri

/-!
# Shapes of JSON values

A message carries its parameters as JSON. A **reader** takes a value of the shape it wants
and complains about any other. A **record** is an object with its fields as members, or an
array with all of them in order; members that are no fields are passed over, and a field
that may be missing may also be null. Numbers are whole and fit into 32 bits, and a
document is named by a URI.

Only one fault is reported: the first. The members of an object are visited in the order of
their names, the items of an array in their own, and only then is it asked whether a field
is missing.

Some records take the fields of other records among their own. They come as objects only,
and their own fields are looked at before those that they take.
-/

namespace Signpost.Shape

/-- Why a value does not have the shape it should have. -/
inductive Fault where
  /-- There is no value. -/
  | absent
  /-- There is a value where none is wanted. -/
  | unwanted (found : Json)
  /-- A field is missing. -/
  | missing (field : String)
  /-- A value of one kind stands where another kind is wanted. -/
  | kind (found : Json) (wanted : String)
  /-- A whole number does not fit. -/
  | range (n : Int) (wanted : String)
  /-- An array does not have one item for each field. -/
  | length (count : Nat) (wanted : String)
  /-- A word is none of those that are known. -/
  | unknown (found : String) (known : List String)
  /-- A word is given by an object that does not have exactly one member. -/
  | notOneKey
  /-- A value has none of the shapes that it may have. -/
  | noChoice (title : String)
  /-- A string is no URI. -/
  | uri (fault : Uri.Fault)

/-- The words that are known, as a message lists them. -/
def enumeration (known : List String) : String :=
  match known.map fun word => "`" ++ word ++ "`" with
  | [a, b] => a ++ " or " ++ b
  | [a] => a
  | words => "one of " ++ ", ".intercalate words

/-- The wording of a fault. -/
def Fault.message : Fault → String
  | absent => "Missing params field"
  | unwanted found => "Unexpected params: " ++ found.render
  | missing field => "missing field `" ++ field ++ "`"
  | kind found wanted => found.mismatch wanted
  | range n wanted => Json.outOfRange n wanted
  | length count wanted => "invalid length " ++ toString count ++ ", expected " ++ wanted
  | unknown found known =>
    "unknown variant `" ++ found ++ "`, expected " ++ enumeration known
  | notOneKey => "invalid value: map, expected map with a single key"
  | noChoice title => "data did not match any variant of untagged enum " ++ title
  | uri fault => fault.message

/-- A reader of JSON values. -/
abbrev Reader (α : Type) := Json → Except Fault α

/-! ### Values -/

/-- Any value. -/
def any : Reader Json := .ok

/-- A truth value. -/
def truth : Reader Bool
  | .bool b => .ok b
  | j => .error (.kind j "a boolean")

/-- A string. -/
def string : Reader String
  | .str s => .ok s
  | j => .error (.kind j "a string")

/-- A text. -/
def text : Reader Text :=
  fun j => String.toList <$> string j

/-- A natural number of 32 bits. -/
def natural : Reader Nat
  | .num (.int n) => if fitsUnsigned 32 n then .ok n.toNat else .error (.range n "u32")
  | j => .error (.kind j "u32")

/-- A whole number of 32 bits. -/
def integer : Reader Int
  | .num (.int n) => if fitsSigned 32 n then .ok n else .error (.range n "i32")
  | j => .error (.kind j "i32")

/-- A number of any kind. -/
def real : Reader Number
  | .num n => .ok n
  | j => .error (.kind j "f32")

/-- A URI. -/
def uri : Reader Text := fun j => do
  let t ← text j
  match Uri.check t with
  | .ok () => return t
  | .error fault => throw (.uri fault)

/-- Null, and nothing else. -/
def unit : Reader Unit
  | .null => .ok ()
  | j => .error (.kind j "unit")

/-- A list. -/
def list (item : Reader α) : Reader (List α)
  | .arr items => items.mapM item
  | j => .error (.kind j "a sequence")

/-- One of some known words: a string, or an object whose only member has it as its name and
null as its value. -/
def word (known : List String) : Reader String
  | .str s => if known.contains s then .ok s else .error (.unknown s known)
  | .obj [(name, value)] =>
    if known.contains name then (fun _ => name) <$> unit value
    else .error (.unknown name known)
  | .obj _ => .error .notOneKey
  | j => .error (.kind j "string or map")

/-- A value of any of several shapes. -/
def choice (title : String) (shapes : List (Reader Unit)) : Reader Unit := fun j =>
  if shapes.any fun shape => (shape j) matches .ok _ then .ok () else .error (.noChoice title)

/-- A reader of which only the complaint counts. -/
def only (read : Reader α) : Reader Unit := fun j =>
  (fun _ => ()) <$> read j

/-! ### Records -/

/-- Whether a field may be missing. -/
inductive Presence where
  /-- It must be there. -/
  | required
  /-- An object may leave it out, and it may be null. -/
  | optional
  /-- An array may leave it out, too. -/
  | omissible
  /-- It may be left out, but it is never null. -/
  | assumed
deriving DecidableEq, Repr

/-- A field of a record. -/
structure Field where
  /-- Its name. -/
  name : String
  /-- Whether it may be missing. -/
  presence : Presence
  /-- The shape of its value. -/
  shape : Reader Unit

/-- A field that must be there. -/
def need (name : String) (read : Reader α) : Field :=
  ⟨name, .required, only read⟩

/-- A field that may be missing or null. -/
def may (name : String) (read : Reader α) : Field :=
  ⟨name, .optional, only read⟩

/-- A field that may be missing or null, or left out at the end of an array. -/
def mayOmit (name : String) (read : Reader α) : Field :=
  ⟨name, .omissible, only read⟩

/-- A field that may be missing, but not null. -/
def assume (name : String) (read : Reader α) : Field :=
  ⟨name, .assumed, only read⟩

/-- Whether a field may be null. -/
def Presence.allowsNull : Presence → Bool
  | required => false
  | optional => true
  | omissible => true
  | assumed => false

/-- Whether an array may leave a field out. -/
def Presence.mayBeLeftOut : Presence → Bool
  | required => false
  | optional => false
  | omissible => true
  | assumed => true

/-- Checks the value of a field. -/
def Field.check (field : Field) (value : Json) : Except Fault Unit :=
  match value with
  | .null => if field.presence.allowsNull then .ok () else field.shape .null
  | value => field.shape value

/-- The values of the fields of a record, by name. -/
abbrev Fields := String → Option Json

/-- Checks the members of an object: first those that are fields, then whether all are
there. -/
def checkMembers (fields : List Field) (members : List (String × Json)) : Except Fault Unit := do
  (members.mergeSort fun a b => a.1 ≤ b.1).forM fun (name, value) =>
    match fields.find? (·.name = name) with
    | some field => field.check value
    | none => .ok ()
  fields.forM fun field =>
    if field.presence = .required && (members.lookup field.name).isNone then
      .error (.missing field.name)
    else .ok ()

/-- So many elements. -/
def elements (count : Nat) : String :=
  toString count ++ (if count = 1 then " element" else " elements")

/-- Checks the items of an array against the fields of a record, of which `seen` have been
checked. -/
def checkItems (complete : String) : Nat → List Field → List Json → Except Fault Unit
  | seen, field :: fields, [] => do
    if field.presence.mayBeLeftOut then checkItems complete (seen + 1) fields []
    else throw (.length seen complete)
  | seen, field :: fields, item :: items => do
    field.check item
    checkItems complete (seen + 1) fields items
  | _, [], _ => .ok ()

/-- A record, with the wording for an array that is too long. -/
def recordWith (surplus : String) (title : String) (fields : List Field) : Reader Fields
  | .obj members => do
    checkMembers fields members
    return fun name => members.lookup name
  | .arr items => do
    checkItems ("struct " ++ title ++ " with " ++ elements fields.length) 0 fields items
    if fields.length < items.length then throw (.length items.length surplus)
    else return fun name => ((fields.map Field.name).zip items).lookup name
  | j => .error (.kind j ("struct " ++ title))

/-- A record. -/
def record : String → List Field → Reader Fields :=
  recordWith "fewer elements in array"

/-- A record that stands in a field that another record has taken. -/
def innerRecord (title : String) (fields : List Field) : Reader Fields :=
  recordWith (elements fields.length ++ " in sequence") title fields

/-- A record with the fields of other records among its own. -/
def mixture (title : String) (own : List Field) (taken : List (List Field)) : Reader Fields
  | .obj members => do
    checkMembers own members
    taken.forM fun fields => checkMembers fields members
    return fun name => members.lookup name
  | j => .error (.kind j ("struct " ++ title))

/-- Values by arbitrary names. -/
def dictionary (value : Reader α) : Reader Unit
  | .obj members =>
    (members.mergeSort fun a b => a.1 ≤ b.1).forM fun member => only value member.2
  | j => .error (.kind j "a map")

namespace Fields

/-- A field that must be there. -/
def required (fields : Fields) (name : String) (read : Reader α) : Except Fault α :=
  match fields name with
  | none => .error (.missing name)
  | some j => read j

/-- A field that may be missing or null. -/
def optional (fields : Fields) (name : String) (read : Reader α) : Except Fault (Option α) :=
  match fields name with
  | none => .ok none
  | some .null => .ok none
  | some j => some <$> read j

end Fields

end Signpost.Shape
