import Signpost.Text.Digits

/-!
# Tables of characters

What the character database says about a character is looked up in a **table**: ranges of
code points in increasing order, each with a value. A table is written as a text whose
entries are divided by white space. An entry starts with the first code point of its
range in hexadecimal digits; if the range has more than one, a dot and the last one
follow; what is left of the entry is its value.

The tables of this library follow version 17 of the database.
-/

namespace Signpost

/-- A range of code points with a value. -/
structure Entry (α : Type) where
  /-- The first code point. -/
  first : Nat
  /-- The last code point. -/
  last : Nat
  /-- What holds of all of them. -/
  value : α

/-- A table: entries in increasing order, no two of which share a code point. -/
structure Table (α : Type) where
  /-- The entries. -/
  entries : Array (Entry α)

namespace Table

/-- The entry of a code point among those from `low` on and before `high`. -/
def search (table : Table α) (n low high : Nat) : Option (Entry α) :=
  if low < high then
    let middle := (low + high) / 2
    match table.entries[middle]? with
    | none => none
    | some entry =>
      if n < entry.first then search table n low middle
      else if entry.last < n then search table n (middle + 1) high
      else some entry
  else
    none
termination_by high - low

/-- The entry of a code point. -/
def entry? (table : Table α) (n : Nat) : Option (Entry α) :=
  table.search n 0 table.entries.size

/-- The value of a character. -/
def find? (table : Table α) (c : Char) : Option α :=
  (table.entry? c.toNat).map Entry.value

/-- Whether a table has an entry for a character. -/
def has (table : Table α) (c : Char) : Bool :=
  (table.entry? c.toNat).isSome

/-! ### Tables written as texts -/

/-- The entry that a text spells, given how values are spelled. -/
def readEntry (value : Text → α) (t : Text) : Entry α :=
  let first := t.takeWhile (Digits.isOf 16)
  match t.drop first.length with
  | '.' :: rest =>
    let last := rest.takeWhile (Digits.isOf 16)
    ⟨Digits.number 16 first, Digits.number 16 last, value (rest.drop last.length)⟩
  | rest => ⟨Digits.number 16 first, Digits.number 16 first, value rest⟩

/-- The words of a text. -/
def words (source : String) : List Text :=
  (source.toList.splitOnP Char.isWhitespace).filter fun word => !word.isEmpty

/-- The table that a text spells. -/
def read (value : Text → α) (source : String) : Table α :=
  ⟨((words source).map (readEntry value)).toArray⟩

/-- The characters that code points in hexadecimal digits spell, with commas between
them. -/
def readChars (t : Text) : Text :=
  if t.isEmpty then []
  else (t.splitOn ',').map fun digits => Char.ofNat (Digits.number 16 digits)

end Table

end Signpost
