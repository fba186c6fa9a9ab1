/-!
# Texts and the three ways to measure them

A text is the list of its characters. Three parties count it differently: an
editor counts **UTF-16 units**, a file counts **UTF-8 bytes**, and the recursion
that reads a text counts characters. Everything in this library that speaks of an
offset means bytes, everything that speaks of a column means UTF-16 units, and the
two measures below are the only bridge.

Cutting a text at a byte offset comes in two forms. `Text.splitBytes?` refuses an
offset that falls inside a character; `Text.takeBytes` and `Text.dropBytes` never
refuse, and round such an offset up to the next boundary. On boundaries they agree.

## Main definitions

* `Signpost.utf8Length`, `Signpost.utf16Length`: the two measures.
* `Signpost.Text.splitBytes?`, `Signpost.Text.slice?`: cutting, with refusal.
* `Signpost.Text.takeBytes`, `Signpost.Text.dropBytes`: cutting, total.
* `Signpost.Text.skip?`: what follows a literal at the start of a text.
-/

namespace Signpost

/-- A text is the list of its characters. -/
abbrev Text := List Char

/-- The number of UTF-16 units of a character: two beyond the basic plane. -/
def utf16Size (c : Char) : Nat :=
  if c.toNat < 0x10000 then 1 else 2

/-- The number of UTF-8 bytes of a text. -/
def utf8Length : Text → Nat
  | [] => 0
  | c :: t => c.utf8Size + utf8Length t

/-- The number of UTF-16 units of a text. -/
def utf16Length : Text → Nat
  | [] => 0
  | c :: t => utf16Size c + utf16Length t

@[simp] theorem utf8Length_nil : utf8Length [] = 0 := rfl

@[simp] theorem utf8Length_cons (c : Char) (t : Text) :
    utf8Length (c :: t) = c.utf8Size + utf8Length t := rfl

@[simp] theorem utf16Length_nil : utf16Length [] = 0 := rfl

@[simp] theorem utf16Length_cons (c : Char) (t : Text) :
    utf16Length (c :: t) = utf16Size c + utf16Length t := rfl

@[simp] theorem utf8Length_append (t u : Text) :
    utf8Length (t ++ u) = utf8Length t + utf8Length u := by
  induction t with
  | nil => simp
  | cons c t ih => simp [ih, Nat.add_assoc]

@[simp] theorem utf16Length_append (t u : Text) :
    utf16Length (t ++ u) = utf16Length t + utf16Length u := by
  induction t with
  | nil => simp
  | cons c t ih => simp [ih, Nat.add_assoc]

theorem utf16Size_pos (c : Char) : 0 < utf16Size c := by
  unfold utf16Size
  split <;> decide

namespace Text

/-! ### Cutting at a byte offset -/

/-- The two parts of a text before and after a byte offset, if the offset falls on
a boundary between characters. -/
def splitBytes? : Text → Nat → Option (Text × Text)
  | t, 0 => some ([], t)
  | [], _ + 1 => none
  | c :: t, n + 1 =>
    if c.utf8Size ≤ n + 1 then
      (splitBytes? t (n + 1 - c.utf8Size)).map fun (before, after) => (c :: before, after)
    else
      none

/-- The part of a text between two byte offsets. There is none when the offsets are
reversed, when one lies beyond the end, or when one falls inside a character. -/
def slice? (t : Text) (start stop : Nat) : Option Text := do
  if stop < start then none
  let (front, _) ← splitBytes? t stop
  let (_, part) ← splitBytes? front start
  return part

/-- The characters of a text that begin before a byte offset. -/
def takeBytes : Text → Nat → Text
  | _, 0 => []
  | [], _ + 1 => []
  | c :: t, n + 1 => c :: takeBytes t (n + 1 - c.utf8Size)

/-- The characters of a text that begin at or after a byte offset. -/
def dropBytes : Text → Nat → Text
  | t, 0 => t
  | [], _ + 1 => []
  | c :: t, n + 1 => dropBytes t (n + 1 - c.utf8Size)

/-- **Cutting loses nothing**: wherever the offset falls, the characters that begin
before it and those that begin after it make up the text. -/
@[simp] theorem takeBytes_append_dropBytes (t : Text) (n : Nat) :
    takeBytes t n ++ dropBytes t n = t := by
  fun_induction takeBytes t n with
  | case1 => simp [dropBytes]
  | case2 => simp [dropBytes]
  | case3 c t n ih => simp [dropBytes, ih]

/-! ### Literals -/

/-- What follows a literal at the start of a text, if the text starts with it. -/
def skip? : Text → Text → Option Text
  | [], t => some t
  | _ :: _, [] => none
  | l :: literal, c :: t => if l = c then skip? literal t else none

/-- A literal is skipped exactly where the text reads it. -/
theorem skip?_eq_some_iff {literal t rest : Text} :
    skip? literal t = some rest ↔ t = literal ++ rest := by
  fun_induction skip? literal t with
  | case1 t => simp
  | case2 => simp
  | case3 literal c t ih => simp [ih]
  | case4 l literal c t h =>
    simp only [List.cons_append, List.cons.injEq]
    constructor
    · intro h'; cases h'
    · rintro ⟨rfl, _⟩; exact absurd rfl h

/-- The two parts of a text around the first character with a property, if it has one. -/
def cut? (mark : Char → Bool) (t : Text) : Option (Text × Text) :=
  match t.span fun c => !mark c with
  | (_, []) => none
  | (before, _ :: after) => some (before, after)

/-- Whether one text occurs inside another. -/
def occursIn (needle : Text) : Text → Bool
  | [] => needle.isEmpty
  | c :: t => needle.isPrefixOf (c :: t) || occursIn needle t

end Text

end Signpost
