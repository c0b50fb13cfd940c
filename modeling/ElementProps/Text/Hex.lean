import ElementProps.Text.Basic

/-!
# Hexadecimal digits
-/

namespace ElementProps.Text

/-- the value of a hexadecimal digit, with letters of either case -/
def hexValue? (c : Char) : Option Nat :=
  if '0' ≤ c && c ≤ '9' then some (c.toNat - '0'.toNat)
  else if 'a' ≤ c && c ≤ 'f' then some (c.toNat - 'a'.toNat + 10)
  else if 'A' ≤ c && c ≤ 'F' then some (c.toNat - 'A'.toNat + 10)
  else none

/-- the value of a run of hexadecimal digits, `none` when one of them is no digit -/
def hexNumber? (ds : Text) : Option Nat :=
  ds.foldlM (fun n d => (hexValue? d).map (16 * n + ·)) 0

/-- the hexadecimal digits of a number in lower case, at least `width` of them -/
def hexDigits (width n : Nat) : Text :=
  let ds := Nat.toDigits 16 n
  List.replicate (width - ds.length) '0' ++ ds

end ElementProps.Text
