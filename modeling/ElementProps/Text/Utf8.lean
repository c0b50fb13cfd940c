import ElementProps.Text.Hex

/-!
# UTF-8

Bytes are read as characters and defects. A defect is a longest run of bytes that begins a
character and cannot be continued, or one byte that begins none.

* `Utf8.pieces bs`       the characters and defects of a byte sequence, in order;
* `Utf8.decode bs`       the text of a byte sequence, or its first defect;
* `Utf8.repair bs`       the text with one U+FFFD in the place of each defect.
-/

namespace ElementProps.Text.Utf8

/-! ## defects -/

inductive Cause where
  /-- no character begins with this byte -/
  | start
  /-- a byte does not continue the character begun before it -/
  | continuation
  /-- the bytes end inside a character -/
  | endOfData
  deriving DecidableEq, Repr

def Cause.text : Cause → String
  | .start => "invalid start byte"
  | .continuation => "invalid continuation byte"
  | .endOfData => "unexpected end of data"

structure Defect where
  /-- where the run begins -/
  offset : Nat
  /-- its first byte -/
  byte : UInt8
  /-- how many bytes it has -/
  length : Nat
  cause : Cause
  deriving DecidableEq, Repr

def Defect.message (d : Defect) : String :=
  let place :=
    if d.length = 1 then
      "byte 0x" ++ String.ofList (hexDigits 2 d.byte.toNat) ++ " in position " ++ toString d.offset
    else "bytes in position " ++ toString d.offset ++ "-" ++ toString (d.offset + d.length - 1)
  "'utf-8' codec can't decode " ++ place ++ ": " ++ d.cause.text

/-! ## characters -/

/-- what the first byte of a character tells -/
structure Lead where
  /-- how many bytes follow -/
  more : Nat
  /-- the least value of the next byte -/
  low : Nat
  /-- the greatest value of the next byte -/
  high : Nat
  /-- the leading bits of the code point -/
  bits : Nat

/-- the lead of a first byte; the next byte is bounded so that no code point is written too long,
is a surrogate or lies above U+10FFFF -/
def lead? (b : Nat) : Option Lead :=
  if b < 0x80 then some ⟨0, 0x80, 0xBF, b⟩
  else if b < 0xC2 then none
  else if b < 0xE0 then some ⟨1, 0x80, 0xBF, b - 0xC0⟩
  else if b = 0xE0 then some ⟨2, 0xA0, 0xBF, 0⟩
  else if b = 0xED then some ⟨2, 0x80, 0x9F, 13⟩
  else if b < 0xF0 then some ⟨2, 0x80, 0xBF, b - 0xE0⟩
  else if b = 0xF0 then some ⟨3, 0x90, 0xBF, 0⟩
  else if b < 0xF4 then some ⟨3, 0x80, 0xBF, b - 0xF0⟩
  else if b = 0xF4 then some ⟨3, 0x80, 0x8F, 4⟩
  else none

/-- The code point that the next bytes complete, and how many of them were taken. When they do not
complete one, those that still fit are taken. -/
def complete (more low high bits : Nat) : List UInt8 → Except Cause Nat × Nat
  | [] => (if more = 0 then .ok bits else .error .endOfData, 0)
  | b :: bs =>
    if more = 0 then (.ok bits, 0)
    else if low ≤ b.toNat ∧ b.toNat ≤ high then
      let (r, n) := complete (more - 1) 0x80 0xBF (64 * bits + (b.toNat - 0x80)) bs
      (r, n + 1)
    else (.error .continuation, 0)

/-- the character or defect that begins with byte `b` at an offset, and how many of the bytes
after `b` belong to it -/
def piece (offset : Nat) (b : UInt8) (bs : List UInt8) : Except Defect Char × Nat :=
  match lead? b.toNat with
  | none => (.error ⟨offset, b, 1, .start⟩, 0)
  | some l =>
    match complete l.more l.low l.high l.bits bs with
    | (.ok codePoint, n) => (.ok (Char.ofNat codePoint), n)
    | (.error cause, n) => (.error ⟨offset, b, n + 1, cause⟩, n)

/-- the characters and defects of bytes from an offset on; the next `skip` bytes belong to the
piece before -/
def piecesFrom (offset skip : Nat) : List UInt8 → List (Except Defect Char)
  | [] => []
  | b :: bs =>
    match skip with
    | skip + 1 => piecesFrom (offset + 1) skip bs
    | 0 =>
      let (p, n) := piece offset b bs
      p :: piecesFrom (offset + 1) n bs

def pieces (bs : List UInt8) : List (Except Defect Char) := piecesFrom 0 0 bs

/-! ## decoding -/

/-- the characters before the first defect, or that defect -/
def collect : List (Except Defect Char) → Except Defect Text
  | [] => .ok []
  | .error d :: _ => .error d
  | .ok c :: rest => (collect rest).map (c :: ·)

def decode (bs : List UInt8) : Except Defect Text := collect (pieces bs)

/-- the text of a byte sequence with one replacement character for each defect -/
def repair (bs : List UInt8) : Text :=
  (pieces bs).map fun
    | .ok c => c
    | .error _ => '\uFFFD'

end ElementProps.Text.Utf8
