import Signpost.Text.Blank
import Signpost.Text.Digits
import Signpost.Text.WordChar

/-!
# Kinds of characters

Regular expressions speak of characters by kinds: digits, word characters, white space, and
the classes of ASCII that have names. A kind is the predicate that decides it.
-/

namespace Signpost.Regex

/-- A kind of characters. -/
abbrev Kind := Char → Bool

namespace Kind

set_option maxRecDepth 2000 in
/-- The zeros of all scripts. The nine other digits of a script follow its zero. -/
def zeros : List Nat :=
  [0x30, 0x660, 0x6F0, 0x7C0, 0x966, 0x9E6, 0xA66, 0xAE6, 0xB66, 0xBE6, 0xC66, 0xCE6, 0xD66,
   0xDE6, 0xE50, 0xED0, 0xF20, 0x1040, 0x1090, 0x17E0, 0x1810, 0x1946, 0x19D0, 0x1A80, 0x1A90,
   0x1B50, 0x1BB0, 0x1C40, 0x1C50, 0xA620, 0xA8D0, 0xA900, 0xA9D0, 0xA9F0, 0xAA50, 0xABF0,
   0xFF10, 0x104A0, 0x10D30, 0x10D40, 0x11066, 0x110F0, 0x11136, 0x111D0, 0x112F0, 0x11450,
   0x114D0, 0x11650, 0x116C0, 0x116D0, 0x116DA, 0x11730, 0x118E0, 0x11950, 0x11BF0, 0x11C50,
   0x11D50, 0x11DA0, 0x11F50, 0x16A60, 0x16AC0, 0x16B50, 0x1CCF0, 0x1D7CE, 0x1D7D8, 0x1D7E2,
   0x1D7EC, 0x1D7F6, 0x1E140, 0x1E2F0, 0x1E4F0, 0x1E5F1, 0x1E950, 0x1FBF0]

/-- A decimal digit of any script. -/
def digit : Kind := fun c =>
  zeros.any fun first => first ≤ c.toNat && c.toNat < first + 10

/-- Everything that a kind leaves out. -/
def other (kind : Kind) : Kind := fun c => !kind c

/-- The characters from one to another. -/
def between (first last : Char) : Kind := fun c => first ≤ c && c ≤ last

/-- One character. -/
def just (c : Char) : Kind := fun d => d = c

/-- Either of two kinds. -/
def or (a b : Kind) : Kind := fun c => a c || b c

/-- Punctuation of ASCII. -/
def punctuation : Kind :=
  or (or (between '!' '/') (between ':' '@')) (or (between '[' '`') (between '\x7b' '~'))

/-- White space of ASCII. -/
def asciiBlank : Kind :=
  or (between '\t' '\r') (just ' ')

/-- Word characters of ASCII. -/
def asciiWord : Kind :=
  or Char.isAlphanum (just '_')

/-- The kind with a name that it has inside a class. -/
def ofName? (name : String) : Option Kind :=
  match name with
  | "alnum" => some Char.isAlphanum
  | "alpha" => some Char.isAlpha
  | "ascii" => some fun c => c.toNat < 0x80
  | "blank" => some (or (just ' ') (just '\t'))
  | "cntrl" => some fun c => c.toNat < 0x20 || c.toNat = 0x7F
  | "digit" => some Char.isDigit
  | "graph" => some (between '!' '~')
  | "lower" => some Char.isLower
  | "print" => some (between ' ' '~')
  | "punct" => some punctuation
  | "space" => some asciiBlank
  | "upper" => some Char.isUpper
  | "word" => some asciiWord
  | "xdigit" => some (Digits.isOf 16)
  | _ => none

/-- The kind that a letter behind a backslash stands for, among all characters or in ASCII. -/
def ofLetter? (unicode : Bool) (letter : Char) : Option Kind :=
  match letter with
  | 'd' => some (if unicode then digit else Char.isDigit)
  | 'D' => some (other (if unicode then digit else Char.isDigit))
  | 's' => some (if unicode then Text.isBlank else asciiBlank)
  | 'S' => some (other (if unicode then Text.isBlank else asciiBlank))
  | 'w' => some (if unicode then Text.isWordChar else asciiWord)
  | 'W' => some (other (if unicode then Text.isWordChar else asciiWord))
  | _ => none

/-- The characters that differ from a letter of ASCII in case only. -/
def variants (c : Char) : List Char :=
  match c with
  | 'k' => ['K', '\u212a']
  | 'K' => ['k', '\u212a']
  | '\u212a' => ['k', 'K']
  | 's' => ['S', '\u017f']
  | 'S' => ['s', '\u017f']
  | '\u017f' => ['s', 'S']
  | c => if c.isLower then [c.toUpper] else if c.isUpper then [c.toLower] else []

/-- A kind without regard to the case of letters. -/
def caseless (kind : Kind) : Kind := fun c =>
  kind c || (variants c).any kind

end Kind

end Signpost.Regex
