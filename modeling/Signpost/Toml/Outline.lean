import Signpost.Toml.Token

/-!
# The outline of a TOML document

An outline says which tokens of a text are keys, values and headers, and how values nest;
the tokens themselves are not read yet. A document has an outline as soon as its signs are
in order, so a fault of the signs anywhere in a text comes before any fault of a token.

Where a key or a value is missing, and nothing but its absence is wrong, the outline has an
empty token in its place.
-/

namespace Signpost.Toml

/-- The outline of a value. -/
inductive Sketch where
  /-- A token that is a value by itself. -/
  | scalar (token : Token)
  /-- A list of values between brackets. -/
  | array (extent : Extent) (items : List Sketch)
  /-- Keys with values between braces. -/
  | table (extent : Extent) (pairs : List (List Token × Sketch))

/-- The outline of a statement. A dotted key is a list of tokens. -/
inductive Line where
  /-- A key and its value. -/
  | pair (key : List Token) (value : Sketch)
  /-- The header of a table. -/
  | header (extent : Extent) (key : List Token)
  /-- The header of one more item of a list of tables. -/
  | item (extent : Extent) (key : List Token)

/-- How deep arrays and inline tables may nest. -/
def depthLimit : Nat := 80

/-! ### Between keys and values -/

/-- A character that may stand as itself: no control character but the tab. -/
def isPlain (c : Char) : Bool :=
  c = '\t' || (0x20 ≤ c.toNat && c.toNat ≠ 0x7F)

/-- Checks a comment or the end of a line. -/
def checkFiller (token : Token) : Except Fault Unit :=
  if token.kind = .comment then
    let good := token.text.takeWhile isPlain
    if good.length < token.text.length then fail .comment (.at (token.start + good.length))
    else .ok ()
  else if token.kind = .newline && token.text = ['\r'] then fail .carriageReturn token.after
  else .ok ()

/-- Blanks, comments and line ends. -/
def isFiller (token : Token) : Bool :=
  token.kind = .blank || token.kind = .comment || token.kind = .newline

/-- Drops blanks. -/
def skipBlank (tokens : List Token) : List Token :=
  tokens.dropWhile (·.kind = .blank)

/-- Drops blanks, comments and line ends. -/
def skipFiller : List Token → Except Fault (List Token)
  | [] => .ok []
  | token :: rest =>
    if isFiller token then do
      checkFiller token
      skipFiller rest
    else .ok (token :: rest)

/-- Drops everything up to the end of the line. -/
def skipLine (tokens : List Token) : List Token :=
  tokens.dropWhile (·.kind ≠ .newline)

/-- Checks that nothing but blanks and a comment is left of a line, and drops it. -/
def endLine (tokens : List Token) : Except Fault (List Token) :=
  match skipBlank tokens with
  | [] => .ok []
  | token :: rest =>
    if isFiller token then .ok (token :: rest) else fail .trailing token.before

/-- The place where the first of some tokens starts, in a text of the given length. -/
def placeOf (size : Nat) (tokens : List Token) : Nat :=
  match tokens with
  | [] => size
  | token :: _ => token.start

/-! ### Keys -/

/-- A token that can be a part of a key. -/
def isKey (token : Token) : Bool :=
  [.literal, .basic, .multilineLiteral, .multilineBasic, .atom].contains token.kind

/-- The parts of a key from one that is due, and what follows them. A part that is missing
is an empty token. -/
def keyParts (size : Nat) : Nat → List Token → List Token × List Token
  | 0, tokens => ([], tokens)
  | fuel + 1, tokens =>
    let (part, rest) := match skipBlank tokens with
      | token :: rest =>
        if isKey token then (token, rest) else (Token.missing token.start, token :: rest)
      | [] => (Token.missing size, [])
    match skipBlank rest with
    | [] => ([part], [])
    | next :: behind =>
      if next.kind = .dot then
        let (parts, rest) := keyParts size fuel behind
        (part :: parts, rest)
      else ([part], next :: behind)

/-- The parts of a key at the start of some tokens, and what follows them. -/
def key (size : Nat) (tokens : List Token) : List Token × List Token :=
  keyParts size (tokens.length + 1) tokens

/-! ### Values -/

/-- The tokens of a value without quotes, put together: atoms and dots, with the blanks
between them. -/
def unquotedValue : Token → List Token → Token × List Token
  | token, [] => (token, [])
  | token, next :: rest =>
    if next.kind = .atom || next.kind = .dot then unquotedValue (token.join next) rest
    else if next.kind = .blank then
      match rest with
      | [] => (token, next :: rest)
      | after :: behind =>
        if after.kind = .atom || after.kind = .dot then
          unquotedValue ((token.join next).join after) behind
        else (token, next :: rest)
    else (token, next :: rest)

/-- The end of a bracket that starts at a place, up to the given token. -/
def upTo (start : Nat) (token : Token) : Extent := ⟨start, token.stop⟩

mutual

/-- The value at the start of some tokens, inside at most `depth` more brackets, and what
follows it. -/
def sketch (size : Nat) : Nat → Nat → List Token → Except Fault (Sketch × List Token)
  | 0, _, tokens => .ok (.scalar (.missing (placeOf size tokens)), tokens)
  | _, _, [] => .ok (.scalar (.missing size), [])
  | fuel + 1, depth, token :: rest =>
    match token.kind with
    | .equals => fail .extraEquals token.extent
    | .closeBrace => fail .noBrace token.before
    | .closeBracket => fail .noBracket token.before
    | .openBracket =>
      match depth with
      | 0 => fail .tooDeep token.extent
      | depth + 1 => do
        let (items, close, rest) ← items size fuel depth true rest
        return (.array (upTo token.start close) items, rest)
    | .openBrace =>
      match depth with
      | 0 => fail .tooDeep token.extent
      | depth + 1 => do
        let (pairs, close, rest) ← pairs size fuel depth rest
        return (.table (upTo token.start close) pairs, rest)
    | .atom => .ok ((unquotedValue token rest).map .scalar id)
    | .dot => .ok ((unquotedValue token rest).map .scalar id)
    | .comma => .ok (.scalar (.missing token.start), token :: rest)
    | .blank => .ok (.scalar (.missing token.start), token :: rest)
    | .newline => .ok (.scalar (.missing token.start), token :: rest)
    | .comment => .ok (.scalar (.missing token.start), token :: rest)
    | _ => .ok (.scalar token, rest)

/-- The items of an array up to its closing bracket, with that bracket and what follows it.
A comma may follow the last item; `due` says whether an item may come next. -/
def items (size : Nat) : Nat → Nat → Bool → List Token →
    Except Fault (List Sketch × Token × List Token)
  | 0, _, _, _ => fail .arrayUnclosed (.at size)
  | fuel + 1, depth, due, tokens => do
    match ← skipFiller tokens with
    | [] => fail .arrayUnclosed (.at size)
    | token :: rest =>
      match token.kind, due with
      | .closeBracket, _ => return ([], token, rest)
      | .comma, true => fail .arrayComma token.extent
      | .comma, false => items size fuel depth true rest
      | .equals, _ => fail .arrayEquals token.extent
      | _, false => fail .arrayNoComma token.before
      | _, true =>
        let (item, rest) ← sketch size fuel depth (token :: rest)
        let (more, close, rest) ← items size fuel depth false rest
        return (item :: more, close, rest)

/-- The members of an inline table up to its closing brace, with that brace and what follows
it. A comma may follow the last member. -/
def pairs (size : Nat) : Nat → Nat → List Token →
    Except Fault (List (List Token × Sketch) × Token × List Token)
  | 0, _, _ => fail .inlineUnclosed (.at size)
  | fuel + 1, depth, tokens => do
    match ← skipFiller tokens with
    | [] => fail .inlineUnclosed (.at size)
    | token :: rest =>
      match token.kind with
      | .closeBrace => return ([], token, rest)
      | .comma => fail (.inlineComma "key") token.before
      | .openBrace => fail .inlineNoKey token.before
      | .openBracket => fail .inlineNoKey token.before
      | .closeBracket => fail .inlineNoKey token.before
      | _ =>
        let (key, rest) := key size (token :: rest)
        let rest ← inlineEquals rest
        let (value, rest) ← sketch size fuel depth rest
        match ← skipFiller rest with
        | [] => fail .inlineUnclosed (.at size)
        | next :: rest =>
          match next.kind with
          | .closeBrace => return ([(key, value)], next, rest)
          | .comma =>
            let (more, close, rest) ← pairs size fuel depth rest
            return ((key, value) :: more, close, rest)
          | .equals => fail (.inlineEquals "`,`") next.before
          | _ => fail .inlineNoComma next.before
where
  /-- What follows the equals sign of a member, from where its value starts. -/
  inlineEquals (tokens : List Token) : Except Fault (List Token) := do
    match ← skipFiller tokens with
    | [] => fail .inlineUnclosed (.at size)
    | token :: rest =>
      match token.kind with
      | .equals =>
        match ← skipFiller rest with
        | [] => fail .inlineUnclosed (.at size)
        | next :: rest =>
          match next.kind with
          | .comma => fail (.inlineComma "value") next.before
          | .equals => fail (.inlineEquals "value") next.before
          | .closeBrace => return .missing next.start :: next :: rest
          | _ => return next :: rest
      | .comma => fail (.inlineComma "`=`") token.before
      | .closeBrace => fail .keyAlone token.before
      | _ => fail .inlineNoEquals token.before

end

/-! ### Statements -/

/-- The closing bracket of a header, if it comes next, and what follows it. -/
def closing (tokens : List Token) : Option (Token × List Token) :=
  match tokens with
  | token :: rest => if token.kind = .closeBracket then some (token, rest) else none
  | [] => none

/-- The last token of a key, if the key has all its parts. -/
def lastPart? (key : List Token) : Option Token :=
  key.getLast?.filter fun token => !token.text.isEmpty

/-- The header of a table behind its opening bracket, and what follows its line. -/
def tableHeader (size start : Nat) (tokens : List Token) : Except Fault (Line × List Token) := do
  let (key, rest) := key size tokens
  match closing rest, lastPart? key with
  | some (close, rest), _ => return (.header (upTo start close) key, ← endLine rest)
  | none, some last => fail .tableUnclosed last.after
  | none, none => return (.header ⟨start, placeOf size rest⟩ key, skipLine rest)

/-- The header of an item behind its opening brackets, and what follows its line. -/
def itemHeader (size start : Nat) (tokens : List Token) : Except Fault (Line × List Token) := do
  let (key, rest) := key size tokens
  match closing rest, lastPart? key with
  | some (first, rest), _ =>
    match closing rest with
    | some (second, rest) => return (.item (upTo start second) key, ← endLine rest)
    | none => fail (.itemUnclosed "]") first.after
  | none, some last => fail (.itemUnclosed "]]") last.after
  | none, none => return (.item ⟨start, placeOf size rest⟩ key, skipLine rest)

/-- A key and its value, and what follows their line. -/
def keyValue (size : Nat) (tokens : List Token) : Except Fault (Line × List Token) := do
  let (key, rest) := key size tokens
  match rest with
  | token :: rest =>
    if token.kind = .equals then
      let rest := skipBlank rest
      let (value, rest) ← sketch size (rest.length + 1) depthLimit rest
      return (.pair key value, ← endLine rest)
    else fail .keyAlone token.before
  | [] => fail .keyAlone (.at size)

/-- The statement at the start of some tokens, and what follows its line. -/
def statement (size : Nat) (token : Token) (rest : List Token) :
    Except Fault (Line × List Token) :=
  match token.kind, rest with
  | .openBracket, next :: behind =>
    if next.kind = .openBracket then itemHeader size token.start behind
    else tableHeader size token.start rest
  | .openBracket, [] => tableHeader size token.start []
  | .closeBracket, _ => fail .noTableOpen token.before
  | .comma, _ => fail .noKey token.before
  | .openBrace, _ => fail .noKey token.before
  | .closeBrace, _ => fail .noKey token.before
  | _, rest => keyValue size (token :: rest)

/-- The statements of some tokens. The fuel is more than the number of lines. -/
def statements (size : Nat) : Nat → List Token → Except Fault (List Line)
  | 0, _ => .ok []
  | fuel + 1, tokens => do
    match ← skipFiller tokens with
    | [] => return []
    | token :: rest =>
      let (line, rest) ← statement size token rest
      return line :: (← statements size fuel rest)

/-- The outline of a text. -/
def outline (t : Text) : Except Fault (List Line) :=
  let tokens := tokens t
  statements t.length (tokens.length + 1) tokens

end Signpost.Toml
