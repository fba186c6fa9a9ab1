import Signpost.Text.Position

/-!
# Columns of a line against its bytes

An editor points at a column, the text is cut at a byte. Both conversions walk the
line once, character by character.

They are not symmetric. A byte offset inside a character has no column at all,
while a column inside a surrogate pair is **rounded up** to the character after the
pair. There is one column that rounding does not save: the middle of a pair that
ends the line. The walk has run out of characters when it passes that column, and
the conversion fails as it would beyond the end of the line.
-/

namespace Signpost.Text

/-- The byte offset of a UTF-16 column of a line. A column inside a surrogate pair
goes to the character after the pair; it has no offset when there is none. -/
def byteOfColumn? : Text → Nat → Option Nat
  | _, 0 => some 0
  | [], _ + 1 => none
  | c :: t, u + 1 =>
    if utf16Size c ≤ u + 1 then
      (byteOfColumn? t (u + 1 - utf16Size c)).map (c.utf8Size + ·)
    else if t.isEmpty then
      none
    else
      some c.utf8Size

/-- The UTF-16 column of a byte offset of a line, if the offset is a boundary. -/
def columnOfByte? : Text → Nat → Option Nat
  | _, 0 => some 0
  | [], _ + 1 => none
  | c :: t, b + 1 =>
    if c.utf8Size ≤ b + 1 then
      (columnOfByte? t (b + 1 - c.utf8Size)).map (utf16Size c + ·)
    else
      none

end Signpost.Text

namespace Signpost

/-- The span of a byte range of a line, if both ends are boundaries. -/
def Span.ofBytes? (line : Text) (start stop : Nat) : Option Span := do
  let first ← Text.columnOfByte? line start
  let last ← Text.columnOfByte? line stop
  return ⟨first, last⟩

end Signpost
