import ElementProps.Text.Hex

/-!
# Numeric addresses of hosts

A version 4 address is four numbers below 256 with points between them. A version 6 address is
eight groups of hexadecimal digits with colons between them; one gap `::` may stand for one or
more groups of zeros, the last two groups may be a version 4 address, and a scope may follow
after `%`.

* `Uri.isV4 t`         a version 4 address;
* `Uri.isV6 t`         a version 6 address;
* `Uri.isFuture t`     an address of a later version: `v`, the version, a point and anything.
-/

namespace ElementProps.Uri

/-! ## version 4 -/

/-- one of the four numbers: at most 255, in ASCII digits and without zeros in front -/
def isOctet (t : Text) : Bool :=
  !t.isEmpty && decide (t.length ≤ 3) && t.all Char.isDigit && (t == ['0'] || t.head? != some '0')
    && decide (t.foldl (fun n d => 10 * n + (d.toNat - '0'.toNat)) 0 ≤ 255)

def isV4 (t : Text) : Bool :=
  let octets := t.splitOn '.'
  octets.length == 4 && octets.all isOctet

/-! ## version 6 -/

def isGroup (t : Text) : Bool :=
  !t.isEmpty && decide (t.length ≤ 4) && t.all fun c => (Text.hexValue? c).isSome

/-- how many groups a text holds, `none` when it holds something else -/
def groups? (t : Text) : Option Nat :=
  if t.isEmpty then some 0
  else
    let parts := t.splitOn ':'
    if parts.all isGroup then some parts.length else none

/-- how many groups the end of an address holds; a version 4 address counts as two of them -/
def lastGroups? (t : Text) : Option Nat :=
  let parts := t.splitOn ':'
  if isV4 (parts.getLastD []) && parts.dropLast.all isGroup then some (parts.length + 1)
  else groups? t

/-- the texts before and after the first gap -/
def splitGap? : Text → Option (Text × Text)
  | [] => none
  | ':' :: ':' :: t => some ([], t)
  | c :: t => (splitGap? t).map fun parts => (c :: parts.1, parts.2)

/-- the groups of a version 6 address are all there, or a gap stands for those that are not -/
def fillsV6 (t : Text) : Bool :=
  match splitGap? t with
  | none => lastGroups? t == some 8
  | some (high, low) =>
    match groups? high, lastGroups? low with
    | some m, some n => decide (m + n < 8)
    | _, _ => false

/-- the text after the first `%` is a scope; there may be none -/
def hasGoodScope (t : Text) : Bool :=
  match t.dropWhile (· != '%') with
  | [] => true
  | _ :: scope => !scope.isEmpty && !scope.contains '%'

def isV6 (t : Text) : Bool := hasGoodScope t && fillsV6 (t.takeWhile (· != '%'))

/-! ## later versions -/

def isFuture : Text → Bool
  | 'v' :: t =>
    let version := t.takeWhile fun c => (Text.hexValue? c).isSome
    !version.isEmpty && match t.dropWhile fun c => (Text.hexValue? c).isSome with
      | '.' :: _ :: _ => true
      | _ => false
  | _ => false

example : isV4 "192.168.0.1".toList = true := by decide +kernel
example : isV4 "192.168.00.1".toList = false := by decide +kernel
example : isV6 "fe80::1%eth0".toList = true := by decide +kernel
example : isV6 "::ffff:10.0.0.1".toList = true := by decide +kernel
example : isV6 "1::2::3".toList = false := by decide +kernel

end ElementProps.Uri
