import ElementProps.Text.Blank
import ElementProps.Text.Digit

/-!
# Whole numbers

A whole number may have blanks around it and a sign, is written in the decimal digits of any
script, and may have single underscores between its digits.

* `Text.int? t`         the whole number that a text is;
* `Text.padded w n`     a number in decimal digits, with zeros up to a width.
-/

namespace ElementProps.Text

/-! ## reading -/

/-- a blank that may stand around a number; the information separators may not -/
def isMargin (c : Char) : Bool := isBlank c && !(decide (0x1C ≤ c.toNat) && decide (c.toNat < 0x20))

def trimMargins (t : Text) : Text :=
  ((t.dropWhile isMargin).reverse.dropWhile isMargin).reverse

/-- the values of digits with single underscores between them -/
def digits? : Text → Option (List Nat)
  | [] => none
  | [c] => (digitValue? c).map ([·])
  | c :: '_' :: t => do return (← digitValue? c) :: (← digits? t)
  | c :: t => do return (← digitValue? c) :: (← digits? t)

def maxDigits : Nat := 4300

def nat? (t : Text) : Option Nat :=
  match digits? t with
  | none => none
  | some ds => if maxDigits < ds.length then none else some (ds.foldl (fun n d => 10 * n + d) 0)

/-- the whole number that a text is -/
def int? (t : Text) : Option Int :=
  match trimMargins t with
  | '-' :: u => (nat? u).map fun n => -(n : Int)
  | '+' :: u => (nat? u).map fun n => (n : Int)
  | u => (nat? u).map fun n => (n : Int)

/-! ## writing -/

/-- A number in decimal digits, with zeros in front up to a width. A minus sign takes one place. -/
def padded (width : Nat) (n : Int) : String :=
  let ds := Nat.toDigits 10 n.natAbs
  if n < 0 then String.ofList ('-' :: List.replicate (width - 1 - ds.length) '0' ++ ds)
  else String.ofList (List.replicate (width - ds.length) '0' ++ ds)

example : int? " -1_0\n".toList = some (-10) := by decide +kernel
example : int? "1__0".toList = none := by decide +kernel
example : padded 4 (-1) = "-001" := by decide

end ElementProps.Text
