import Signpost.Text.Digits
import Signpost.Text.Utf8

/-!
# Percent-encoding

A byte that a part of a URL may not hold as it is becomes `%` and two upper-case
hexadecimal digits. Each part of a URL has its own set of such bytes; control bytes
and everything beyond ASCII are in all of them.

| part | set |
|---|---|
| fragment | `Percent.fragment` |
| query | `Percent.query`, and `Percent.specialQuery` for the schemes of the web |
| path as it is read | `Percent.path` |
| one name of a path | `Percent.segment` |
| user name and password | `Percent.userInfo` |

Decoding is lenient: a `%` that no two hexadecimal digits follow stands for itself.
-/

namespace Signpost.Percent

/-- A set of bytes to be encoded. -/
abbrev EncodeSet := UInt8 → Bool

/-- The set that adds the given ASCII characters to another. -/
def EncodeSet.with (set : EncodeSet) (more : List Char) : EncodeSet :=
  fun b => set b || more.any fun c => c.toNat = b.toNat

/-- Control bytes and everything beyond ASCII. -/
def control : EncodeSet := fun b => b.toNat < 0x20 || 0x7F ≤ b.toNat

/-- What a fragment may not hold. -/
def fragment : EncodeSet := EncodeSet.with control [' ', '"', '<', '>', '\x60']

/-- What a query may not hold. -/
def query : EncodeSet := EncodeSet.with control [' ', '"', '#', '<', '>']

/-- What a query may not hold in a URL of the web. -/
def specialQuery : EncodeSet := EncodeSet.with query ['\'']

/-- What a path may not hold. -/
def path : EncodeSet := EncodeSet.with fragment ['#', '?', '{', '}']

/-- What a name may not hold if it is to be one segment of a path: the two kinds of
slash would divide it, and a `%` would start an escape. -/
def segment : EncodeSet := EncodeSet.with path ['/', '%', '\\']

/-- What a user name or a password may not hold. -/
def userInfo : EncodeSet :=
  EncodeSet.with path ['/', ':', ';', '=', '@', '[', '\\', ']', '^', '|']

/-- A byte as an escape. -/
def escape (b : UInt8) : Text :=
  '%' :: Digits.ofByte b

/-- Bytes with those of a set escaped. -/
def encodeBytes (set : EncodeSet) (bytes : Bytes) : Text :=
  bytes.flatMap fun b => if set b then escape b else [Char.ofNat b.toNat]

/-- A text with the bytes of a set escaped. -/
def encode (set : EncodeSet) (t : Text) : Text :=
  encodeBytes set (Utf8.encode t)

/-- The value of a byte that is a hexadecimal digit. -/
def digitValue? (b : UInt8) : Option Nat :=
  Digits.value? (Char.ofNat b.toNat)

/-- Bytes with their escapes undone. -/
def decodeBytes : Bytes → Bytes
  | [] => []
  | b :: rest =>
    if b.toNat = 0x25 then
      match rest with
      | high :: low :: tail =>
        match digitValue? high, digitValue? low with
        | some h, some l => UInt8.ofNat (h * 16 + l) :: decodeBytes tail
        | _, _ => b :: decodeBytes (high :: low :: tail)
      | rest => b :: decodeBytes rest
    else
      b :: decodeBytes rest

/-- The bytes that an encoded text stands for. -/
def decode (t : Text) : Bytes :=
  decodeBytes (Utf8.encode t)

end Signpost.Percent
