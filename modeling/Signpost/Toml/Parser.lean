import Signpost.Toml.Quoted
import Signpost.Toml.Scalar

/-!
# Reading TOML

A text is read in three steps: it is cut into tokens, the tokens get an outline, and the
statements of the outline are read one after the other and put together. So the fault that
is reported is the first one of the outline, and if there is none, the first one of a token
or of what a statement does to the document.
-/

namespace Signpost.Toml

/-! ### Keys -/

/-- How many parts a dotted key may have. -/
def partLimit : Nat := 80

/-- A character of a key without quotes. -/
def isBare (c : Char) : Bool :=
  c.isAlphanum || c = '_' || c = '-'

/-- A part of a key. -/
def name (token : Token) : Except Fault Name := do
  match token.kind.string? with
  | some kind =>
    if kind.multiline then fail (.keyMultiline kind.name) token.extent
    else return ⟨← kind.read token, token.extent⟩
  | none =>
    let good := token.text.takeWhile isBare
    if token.text.isEmpty then fail .keyEmpty token.extent
    else if good.length < token.text.length then fail .keyInvalid (.at (token.start + good.length))
    else return ⟨token.text, token.extent⟩

/-- The parts of a key, of which `seen` came before. -/
def names (seen : Nat) : List Token → Except Fault (List Name)
  | [] => .ok []
  | token :: rest => do
    let name ← name token
    if partLimit ≤ seen then fail .keyTooLong token.extent
    else return name :: (← names (seen + 1) rest)

/-- A dotted key as its path and its last name. -/
def dottedName (tokens : List Token) : Except Fault (List Name × Name) := do
  let names ← names 0 tokens
  return (names.dropLast, names.getLast?.getD ⟨[], .at 0⟩)

/-! ### Values -/

/-- The value of a token. -/
def valueOf (token : Token) : Except Fault Toml :=
  match token.kind.string? with
  | some kind => string <$> kind.read token
  | none => scalar token

mutual

/-- The value of an outline, with its place. -/
def value : Sketch → Except Fault (Extent × Toml)
  | .scalar token => (token.extent, ·) <$> valueOf token
  | .array extent items => do return (extent, array (← values items))
  | .table extent pairs => do return (extent, table .closed (← inlineMembers [] pairs))

/-- The values of outlines. -/
def values : List Sketch → Except Fault (List (Extent × Toml))
  | [] => .ok []
  | item :: rest => do return (← value item) :: (← values rest)

/-- The members of an inline table, after those of `before`. -/
def inlineMembers (before : Members) :
    List (List Token × Sketch) → Except Fault Members
  | [] => .ok before
  | (key, item) :: rest => do
    let (path, name) ← dottedName key
    let (extent, value) ← value item
    inlineMembers (← define path name extent value before) rest

end

/-! ### Documents -/

/-- The statement of an outline. -/
def Line.read : Line → Except Fault Statement
  | .pair key sketch => do
    let (path, name) ← dottedName key
    let (extent, value) ← value sketch
    return .pair path name extent value
  | .header extent key => do
    let (path, name) ← dottedName key
    return .header path name extent
  | .item extent key => do
    let (path, name) ← dottedName key
    return .item path name extent

/-- The document that a text spells. -/
def parse (t : Text) : Except Fault Members := do
  let lines ← outline t
  let draft ← lines.foldlM (fun (draft : Draft) line => do draft.add (← line.read)) Draft.empty
  return draft.members

end Signpost.Toml
