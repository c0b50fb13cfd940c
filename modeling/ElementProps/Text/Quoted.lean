import ElementProps.Text.Hex
import ElementProps.Text.Printable

/-!
# Quoted texts

A text in a message stands between quotes, with its quote, backslashes and unprintable characters
escaped. Single quotes are preferred; a text that holds one, and no double quote, gets double ones.

* `quoted s`          a text between quotes;
* `quotedList ss`     a list of texts between brackets.
-/

namespace ElementProps.Text

def quoteFor (t : Text) : Char :=
  if t.contains '\'' && !t.contains '"' then '"' else '\''

def quotedChar (quote c : Char) : Text :=
  if c = quote || c = '\\' then ['\\', c]
  else if c = '\n' then ['\\', 'n']
  else if c = '\r' then ['\\', 'r']
  else if c = '\t' then ['\\', 't']
  else if isPrintable c then [c]
  else if c.toNat < 0x100 then '\\' :: 'x' :: hexDigits 2 c.toNat
  else if c.toNat < 0x10000 then '\\' :: 'u' :: hexDigits 4 c.toNat
  else '\\' :: 'U' :: hexDigits 8 c.toNat

/-- a text between quotes -/
def quotedText (t : Text) : Text :=
  let q := quoteFor t
  q :: t.flatMap (quotedChar q) ++ [q]

/-- a text between quotes -/
def quoted (s : String) : String := String.ofList (quotedText s.toList)

def quotedList (ss : List String) : String :=
  "[" ++ ", ".intercalate (ss.map quoted) ++ "]"

example : quoted "it's" = "\"it's\"" := by decide
example : quoted "a'b\"\\\n" = "'a\\'b\"\\\\\\n'" := by decide
example : quotedList ["A", "\u200b"] = "['A', '\\u200b']" := by decide +kernel

end ElementProps.Text
