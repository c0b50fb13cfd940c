import ElementProps.ElementCall

/-!
# The table of a call

The second argument of an element call is a table. It is open at the end of a text when its brace
has no partner there. Every brace counts, also one in a string or a comment.

* `staysOpen n t`             no brace of `t` closes a table that holds `n` open tables;
* `lastCallOf? t c`           the last call of a class;
* `insideTable t c`           the table of that call is open at the end of the text.
-/

namespace ElementProps

/-- a table in which `inner` further tables are open is not closed by the text that follows -/
def staysOpen (inner : Nat) : Text → Bool
  | [] => true
  | c :: t =>
    if c = '{' then staysOpen (inner + 1) t
    else if c = '}' then inner != 0 && staysOpen (inner - 1) t
    else staysOpen inner t

def lastCallOf? (t : Text) (className : String) : Option ElementCall :=
  ((elementCalls t).filter fun s => s.className == className).getLast?

def insideTable (t : Text) (className : String) : Bool :=
  match lastCallOf? t className with
  | none => false
  | some site => staysOpen 0 (t.drop (site.brace + 1))

end ElementProps
