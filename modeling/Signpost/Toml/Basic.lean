import Signpost.Toml.Fault

/-!
# TOML documents

A TOML document is a table: names with values, some of which are tables again. It is
written as a sequence of statements, and a table is spread over several of them, so the
rules of the format speak about **what may still be added** to a table. That depends on
how the table came to be, its `Toml.Origin`:

* a table with a header of its own is opened once, and its header may come after those of
  the tables inside it;
* a table that is only implied by the header of another one may still get its own;
* a table made by dotted names grows by dotted names alone;
* a table written between braces is closed.

`Toml.descend` follows a path of names through these rules, and the three statements –
a pair, a header, one more item of a list of tables – differ in what they do where the
path ends.
-/

namespace Signpost

namespace Toml

/-- How a table came to be. -/
inductive Origin where
  /-- By a header of its own; also the document itself, and an item of a list of
  tables. -/
  | header
  /-- By the header of a table inside it. -/
  | implied
  /-- By dotted names. -/
  | dotted
  /-- By being written out between braces. -/
  | closed
deriving DecidableEq, Repr

/-- A number with a fraction or an exponent. -/
inductive Float where
  /-- A finite one: a whole number times a power of ten, possibly negative. -/
  | finite (negative : Bool) (n : Nat) (exponent : Int)
  /-- An infinite one. -/
  | infinite (negative : Bool)
  /-- What is no number. -/
  | undefined
deriving DecidableEq, Repr

end Toml

/-- A value of a TOML document. Every value inside another one has its place in the text. -/
inductive Toml where
  /-- A string. -/
  | string (t : Text)
  /-- A whole number. -/
  | integer (n : Int)
  /-- A number with a fraction or an exponent. -/
  | float (x : Toml.Float)
  /-- A truth value. -/
  | boolean (b : Bool)
  /-- A date, a time or both. -/
  | moment
  /-- A list of values. -/
  | array (items : List (Toml.Extent × Toml))
  /-- A table. -/
  | table (origin : Toml.Origin) (members : List (Text × Toml.Extent × Toml))
  /-- A list of tables, each opened by a header. -/
  | tables (items : List (Toml.Extent × List (Text × Toml.Extent × Toml)))

namespace Toml

/-- The members of a table, in the order of their names. -/
abbrev Members := List (Text × Extent × Toml)

/-- How a message calls the kind of a value. -/
def kindName : Toml → String
  | string _ => "string"
  | integer _ => "integer"
  | float _ => "float"
  | boolean _ => "boolean"
  | moment => "datetime"
  | array _ => "array"
  | table .closed _ => "inline table"
  | table _ _ => "table"
  | tables _ => "array"

/-- A name with its place in the text. -/
structure Name where
  /-- The name. -/
  text : Text
  /-- Where it stands. -/
  extent : Extent
deriving DecidableEq, Repr

/-- The value under a name, with its place. -/
def find? (members : Members) (name : Text) : Option (Extent × Toml) :=
  members.lookup name

/-- The members with one more, in the order of their names. -/
def put : Members → Text → Extent → Toml → Members
  | [], name, extent, value => [(name, extent, value)]
  | m :: rest, name, extent, value =>
    if String.ofList name < String.ofList m.1 then (name, extent, value) :: m :: rest
    else m :: put rest name extent value

/-- The members with another value under a name that they have. -/
def replace (members : Members) (name : Text) (value : Toml) : Members :=
  members.map fun m => if m.1 = name then (name, m.2.1, value) else m

/-- Acts on the table at the end of a path, making the tables that are missing on the
way. With `byDots` the path is part of a dotted name, and such a path goes neither
through a table with a header of its own nor through one that is closed; the path of a
header only stops at the closed ones. A list of tables stands for its last item. -/
def descend (byDots : Bool) (act : Origin → Members → Except Fault Members) :
    List Name → Origin → Members → Except Fault Members
  | [], origin, members => act origin members
  | name :: path, _, members =>
    match find? members name.text with
    | none => do
      let made := if byDots then .dotted else .implied
      let inner ← descend byDots act path made []
      return put members name.text name.extent (table made inner)
    | some (_, table origin inner) => do
      if origin = .closed then fail (.notTable (table origin inner).kindName) name.extent
      else if byDots && origin = .header then fail .duplicate name.extent
      else
        let inner ← descend byDots act path origin inner
        return replace members name.text (table origin inner)
    | some (_, tables items) =>
      match items.getLast? with
      | none => fail (.notTable (tables items).kindName) name.extent
      | some (extent, last) => do
        let inner ← descend byDots act path .header last
        return replace members name.text (tables (items.dropLast ++ [(extent, inner)]))
    | some (_, value) => fail (.notTable value.kindName) name.extent

/-- Defines a name, under a path of dotted names, in a table. Where the path ends there
must be a table of dotted names, unless the path is empty. -/
def define (path : List Name) (name : Name) (extent : Extent) (value : Toml)
    (members : Members) : Except Fault Members :=
  descend true (fun origin members =>
      if decide (origin = .dotted) = path.isEmpty then fail .duplicate name.extent
      else if (find? members name.text).isSome then fail .duplicate name.extent
      else .ok (put members name.text extent value))
    path .header members

/-- Opens the table under a name: a new one, or one that was implied so far. -/
def openTable (name : Name) (extent : Extent) (members : Members) : Except Fault Members :=
  match find? members name.text with
  | none => .ok (put members name.text extent (table .header []))
  | some (_, table .implied inner) => .ok (replace members name.text (table .header inner))
  | some _ => fail .duplicate name.extent

/-- Opens one more item of the list of tables under a name. -/
def openItem (name : Name) (extent : Extent) (members : Members) : Except Fault Members :=
  match find? members name.text with
  | none => .ok (put members name.text extent (tables [(extent, [])]))
  | some (_, tables items) =>
    .ok (replace members name.text (tables (items ++ [(extent, [])])))
  | some _ => fail .duplicate name.extent

/-- A statement of a document. A dotted name is a path and a last name. -/
inductive Statement where
  /-- A name and its value. -/
  | pair (path : List Name) (name : Name) (extent : Extent) (value : Toml)
  /-- The header of a table. -/
  | header (path : List Name) (name : Name) (extent : Extent)
  /-- The header of one more item of a list of tables. -/
  | item (path : List Name) (name : Name) (extent : Extent)

/-- A document that is being put together: what it holds, and the table that the last
header opened. -/
structure Draft where
  /-- What the document holds. -/
  members : Members
  /-- The path of the table that pairs go to. -/
  here : List Name

/-- The empty document. -/
def Draft.empty : Draft := ⟨[], []⟩

/-- The document after one more statement. -/
def Draft.add (draft : Draft) : Statement → Except Fault Draft
  | .pair path name extent value => do
    let members ← descend false (fun _ => define path name extent value) draft.here .header
      draft.members
    return { draft with members }
  | .header path name extent => do
    let members ← descend false (fun _ => openTable name extent) path .header draft.members
    return { members, here := path ++ [name] }
  | .item path name extent => do
    let members ← descend false (fun _ => openItem name extent) path .header draft.members
    return { members, here := path ++ [name] }

end Toml

end Signpost
