import Signpost.Text.Basic

/-!
# Texts as bytes

Files and path names are bytes. A text becomes bytes by UTF-8 encoding, and bytes
become a text again in two ways: strictly, when they are to be read, and leniently,
when they are only to be shown. Shown bytes never fail: each longest piece that
starts like a character but does not become one is shown as U+FFFD.

Both ways go through one step, `Utf8.next`, which reads what stands at the start of
a list of bytes: a character, or a broken piece and its length.
-/

namespace Signpost

/-- A sequence of bytes. -/
abbrev Bytes := List UInt8

namespace Utf8

/-- The UTF-8 encoding of a text. -/
def encode (t : Text) : Bytes :=
  t.flatMap String.utf8EncodeChar

/-- What stands at the start of a list of bytes. -/
inductive Piece where
  /-- A character, encoded in `width` bytes. -/
  | char (c : Char) (width : Nat)
  /-- A piece of `width` bytes that starts no character. -/
  | broken (width : Nat)
deriving DecidableEq, Repr

/-- A byte that continues a character. -/
def isContinuation (b : UInt8) : Bool :=
  0x80 ≤ b.toNat && b.toNat ≤ 0xBF

/-- The second bytes that may follow a first byte: they rule out encodings that are
too long, surrogates, and numbers beyond the last code point. -/
def allowsSecond (first second : UInt8) : Bool :=
  let b := second.toNat
  match first.toNat with
  | 0xE0 => 0xA0 ≤ b && b ≤ 0xBF
  | 0xED => 0x80 ≤ b && b ≤ 0x9F
  | 0xF0 => 0x90 ≤ b && b ≤ 0xBF
  | 0xF4 => 0x80 ≤ b && b ≤ 0x8F
  | _ => isContinuation second

/-- The number of bytes of a character, by its first byte. -/
def widthOf? (first : UInt8) : Option Nat :=
  let n := first.toNat
  if n < 0x80 then some 1
  else if 0xC2 ≤ n && n ≤ 0xDF then some 2
  else if 0xE0 ≤ n && n ≤ 0xEF then some 3
  else if 0xF0 ≤ n && n ≤ 0xF4 then some 4
  else none

/-- The six bits that a continuation byte contributes. -/
def payload (b : UInt8) : Nat :=
  b.toNat % 0x40

/-- What stands at the start of a nonempty list of bytes. -/
def next (first : UInt8) (rest : Bytes) : Piece :=
  match widthOf? first with
  | none => .broken 1
  | some 1 => .char (Char.ofNat first.toNat) 1
  | some width =>
    match rest with
    | [] => .broken 1
    | b₁ :: rest =>
      if !allowsSecond first b₁ then .broken 1
      else if width = 2 then
        .char (Char.ofNat (first.toNat % 0x20 * 0x40 + payload b₁)) 2
      else match rest with
        | [] => .broken 2
        | b₂ :: rest =>
          if !isContinuation b₂ then .broken 2
          else if width = 3 then
            .char (Char.ofNat (first.toNat % 0x10 * 0x1000 + payload b₁ * 0x40 + payload b₂)) 3
          else match rest with
            | [] => .broken 3
            | b₃ :: _ =>
              if !isContinuation b₃ then .broken 3
              else
                .char (Char.ofNat (first.toNat % 0x08 * 0x40000 + payload b₁ * 0x1000 +
                  payload b₂ * 0x40 + payload b₃)) 4

/-- The pieces of a list of bytes that starts after `skip` more bytes. -/
def piecesFrom : Nat → Bytes → List (Piece × Bytes)
  | _, [] => []
  | skip + 1, _ :: rest => piecesFrom skip rest
  | 0, b :: rest =>
    match next b rest with
    | .char c width => (.char c width, (b :: rest).take width) :: piecesFrom (width - 1) rest
    | .broken width => (.broken width, (b :: rest).take width) :: piecesFrom (width - 1) rest

/-- The characters and broken pieces of a list of bytes, each with its bytes. -/
def pieces (bytes : Bytes) : List (Piece × Bytes) :=
  piecesFrom 0 bytes

/-- The text that is encoded by a list of bytes, if there is one. -/
def decode? (bytes : Bytes) : Option Text :=
  (pieces bytes).mapM fun (piece, _) =>
    match piece with
    | .char c _ => some c
    | .broken _ => none

/-- The text of a list of bytes with U+FFFD for each broken piece. -/
def display (bytes : Bytes) : Text :=
  (pieces bytes).map fun (piece, _) =>
    match piece with
    | .char c _ => c
    | .broken _ => '\uFFFD'

end Utf8

end Signpost
