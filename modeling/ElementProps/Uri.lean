import ElementProps.Text.Hex
import ElementProps.Text.Utf8
import ElementProps.Uri.Authority

/-!
# URIs

The path of a URI is what stands between its authority and its query, with the percent escapes
decoded. Splitting comes first, so an escaped `?` or `#` belongs to the path.

* `Uri.path`                the decoded path, or what is wrong with the authority;
* `Uri.percentDecode`       bytes for escapes, and characters for bytes.
-/

namespace ElementProps.Uri

/-! ## splitting -/

/-- the text without leading controls and spaces, and without tabs and line breaks anywhere -/
def clean (t : Text) : Text :=
  (t.dropWhile fun c => decide (c.toNat ≤ 0x20)).filter
    fun c => !(c == '\t' || c == '\r' || c == '\n')

def isSchemeChar (c : Char) : Bool := c.isAlphanum || c == '+' || c == '-' || c == '.'

/-- the text after its scheme, or all of it when it has none -/
def dropScheme (t : Text) : Text :=
  match t.takeWhile (· != ':'), t.dropWhile (· != ':') with
  | c :: scheme, _ :: rest => if c.isAlpha && (c :: scheme).all isSchemeChar then rest else t
  | _, _ => t

def endsAuthority (c : Char) : Bool := c == '/' || c == '?' || c == '#'

/-- the text after its authority, which must be a good one, or all of it when it has none -/
def dropAuthority : Text → Except Error Text
  | '/' :: '/' :: t =>
    (checkAuthority (t.takeWhile (!endsAuthority ·))).map fun _ =>
      t.dropWhile (!endsAuthority ·)
  | t => .ok t

def rawPath (t : Text) : Except Error Text :=
  (dropAuthority (dropScheme (clean t))).map fun rest =>
    (rest.takeWhile (· != '#')).takeWhile (· != '?')

/-! ## percent escapes -/

/-- a byte, or a character that is no ASCII character and stands for itself -/
inductive Item where
  | byte (b : UInt8)
  | char (c : Char)

/-- the item of a character that is not part of an escape -/
def Item.ofChar (c : Char) : Item :=
  if c.toNat < 0x80 then .byte (UInt8.ofNat c.toNat) else .char c

/-- the items of a text: an escape is one byte, and a `%` without two digits stays -/
def itemsOf : Text → List Item
  | [] => []
  | '%' :: a :: b :: t =>
    match Text.hexNumber? [a, b] with
    | some n => .byte (UInt8.ofNat n) :: itemsOf t
    | none => .ofChar '%' :: itemsOf (a :: b :: t)
  | c :: t => .ofChar c :: itemsOf t

/-- The text of items after the given bytes, which come in reverse. Bytes are decoded in runs; a
character between them is not. -/
def joinItems (pending : List UInt8) : List Item → Text
  | [] => Text.Utf8.repair pending.reverse
  | .byte b :: rest => joinItems (b :: pending) rest
  | .char c :: rest => Text.Utf8.repair pending.reverse ++ c :: joinItems [] rest

def percentDecode (t : Text) : Text := joinItems [] (itemsOf t)

/-! ## paths -/

def path (uri : String) : Except Error Text := (rawPath uri.toList).map percentDecode

example : (path "file:///a%20b.lua?x").toOption = some "/a b.lua".toList := by decide +kernel
example : (path "http://[x.lua").toOption = none := by decide +kernel

end ElementProps.Uri
