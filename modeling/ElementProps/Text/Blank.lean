import ElementProps.Text.Basic

/-!
# Blank characters

The white space of the Unicode character database, with the four information separators
U+001C to U+001F. Zero-width characters (U+200B, U+2060, U+FEFF) and U+180E are not blank.
-/

namespace ElementProps.Text

def blankRanges : List (Nat × Nat) :=
  [(0x09, 0x0D), (0x1C, 0x20), (0x85, 0x85), (0xA0, 0xA0), (0x1680, 0x1680), (0x2000, 0x200A),
   (0x2028, 0x2029), (0x202F, 0x202F), (0x205F, 0x205F), (0x3000, 0x3000)]

/-- white space in running text -/
def isBlank (c : Char) : Bool := inRanges blankRanges c

def skipBlanks (t : Text) : Text := t.dropWhile isBlank

theorem length_skipBlanks_le (t : Text) : (skipBlanks t).length ≤ t.length :=
  (List.dropWhile_sublist isBlank).length_le

end ElementProps.Text
