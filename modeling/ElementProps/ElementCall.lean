import ElementProps.Text.Blank
import ElementProps.Text.Word

/-!
# Element calls

An element call is a call of one of the element constructors whose first argument names a class
and whose second argument opens a table:

    React.createElement("TextLabel", {   e('Frame', {   e(ImageLabel, {

Recognition is lexical: blanks may stand between the parts, the constructor must not continue a
word, and nothing is known of strings and comments.

* `callAt? t`          the class name of the call with which `t` begins, and what follows its brace;
* `elementCalls t`     the calls of a text from left to right, none inside another's span;
* `lastCall? t`        the class name of the last of them;
* `length_of_callAt?`  a call takes characters, so what follows it is shorter.
-/

namespace ElementProps

/-- a call found in a text; offsets are relative to that text -/
structure ElementCall where
  /-- the offset of the first character of the constructor -/
  start : Nat
  /-- the offset of the brace that opens the table -/
  brace : Nat
  /-- the class named by the first argument -/
  className : String
  deriving DecidableEq, Repr

/-! ## the parts of a call -/

def constructors : List String := ["React.createElement", "e"]

def isNameChar (c : Char) : Bool := c.isAlphanum || c == '_'

/-- what follows the constructor with which a text begins -/
def afterConstructor? (t : Text) : Option Text :=
  constructors.findSome? fun name => Text.after? name.toList t

/-- what follows the given mark, blanks before it apart -/
def afterMark? (mark : Char) (t : Text) : Option Text := Text.after? [mark] (Text.skipBlanks t)

/-- the longest name with which a text begins, and what follows it -/
def bareName? (t : Text) : Option (Text × Text) :=
  match t.takeWhile isNameChar with
  | [] => none
  | c :: name => some (c :: name, t.dropWhile isNameChar)

/-- a name between two equal quotes, the first of which is already read -/
def quotedName? (quote : Char) (t : Text) : Option (Text × Text) :=
  (bareName? t).bind fun (name, rest) => (Text.after? [quote] rest).map (name, ·)

/-- a class name, bare or quoted, and what follows it -/
def className? : Text → Option (Text × Text)
  | '"' :: t => quotedName? '"' t
  | '\'' :: t => quotedName? '\'' t
  | t => bareName? t

def callAt? (t : Text) : Option (Text × Text) := do
  let t ← afterConstructor? t
  let t ← afterMark? '(' t
  let (name, t) ← className? (Text.skipBlanks t)
  let t ← afterMark? ',' t
  let t ← afterMark? '{' t
  return (name, t)

/-! ## what the parts take -/

theorem length_of_after? {s t r : Text} (h : Text.after? s t = some r) :
    t.length = s.length + r.length := by
  rw [Text.eq_append_of_after? h, List.length_append]

theorem length_of_afterConstructor? {t r : Text} (h : afterConstructor? t = some r) :
    r.length < t.length := by
  obtain ⟨name, hn, h⟩ := List.exists_of_findSome?_eq_some h
  have hl := length_of_after? h
  have hpos : 0 < name.toList.length := by
    simp only [constructors, List.mem_cons, List.not_mem_nil, or_false] at hn
    rcases hn with rfl | rfl <;> decide
  omega

theorem length_of_afterMark? {m : Char} {t r : Text} (h : afterMark? m t = some r) :
    r.length < t.length := by
  have hl := length_of_after? h
  have := Text.length_skipBlanks_le t
  simp only [List.length_singleton] at hl
  omega

theorem length_of_bareName? {t name r : Text} (h : bareName? t = some (name, r)) :
    r.length ≤ t.length := by
  unfold bareName? at h
  split at h
  · simp at h
  · simp only [Option.some.injEq, Prod.mk.injEq] at h
    exact h.2 ▸ (List.dropWhile_sublist isNameChar).length_le

theorem length_of_quotedName? {q : Char} {t name r : Text} (h : quotedName? q t = some (name, r)) :
    r.length ≤ t.length := by
  obtain ⟨⟨n, rest⟩, hb, h⟩ := Option.bind_eq_some_iff.1 h
  obtain ⟨r', ha, he⟩ := Option.map_eq_some_iff.1 h
  obtain ⟨-, rfl⟩ := Prod.mk.inj he
  have h1 := length_of_bareName? hb
  have h2 := length_of_after? ha
  omega

theorem length_of_className? {t name r : Text} (h : className? t = some (name, r)) :
    r.length ≤ t.length := by
  unfold className? at h
  split at h
  · have := length_of_quotedName? h
    simp only [List.length_cons]
    omega
  · have := length_of_quotedName? h
    simp only [List.length_cons]
    omega
  · exact length_of_bareName? h

/-- a call takes characters, so what follows it is shorter -/
theorem length_of_callAt? {t name r : Text} (h : callAt? t = some (name, r)) :
    r.length < t.length := by
  obtain ⟨t1, h1, h⟩ := Option.bind_eq_some_iff.1 h
  obtain ⟨t2, h2, h⟩ := Option.bind_eq_some_iff.1 h
  obtain ⟨⟨n, t3⟩, h3, h⟩ := Option.bind_eq_some_iff.1 h
  obtain ⟨t4, h4, h⟩ := Option.bind_eq_some_iff.1 h
  obtain ⟨t5, h5, h⟩ := Option.bind_eq_some_iff.1 h
  obtain ⟨-, rfl⟩ := Prod.mk.inj (Option.some.inj h)
  have l1 := length_of_afterConstructor? h1
  have l2 := length_of_afterMark? h2
  have l3 := length_of_className? h3
  have l4 := length_of_afterMark? h4
  have l5 := length_of_afterMark? h5
  have l6 := Text.length_skipBlanks_le t2
  omega

/-! ## all calls of a text -/

/-- the call that begins a text, unless its constructor would continue the word before it -/
def callAfter? (before : Option Char) (t : Text) : Option (Text × Text) :=
  if before.any Text.isWord then none else callAt? t

/-- The calls of the text that begins at the offset and is preceded by `before`. The next `skip`
characters belong to a call already found, and no call begins there. -/
def elementCallsFrom (before : Option Char) (offset skip : Nat) : Text → List ElementCall
  | [] => []
  | c :: t =>
    match skip with
    | skip + 1 => elementCallsFrom (some c) (offset + 1) skip t
    | 0 =>
      match callAfter? before (c :: t) with
      | none => elementCallsFrom (some c) (offset + 1) 0 t
      | some (name, rest) =>
        let inside := t.length - rest.length
        ⟨offset, offset + inside, String.ofList name⟩ ::
          elementCallsFrom (some c) (offset + 1) inside t

def elementCalls (t : Text) : List ElementCall := elementCallsFrom none 0 0 t

/-- The class name of the last call of a text. It stands for the innermost open call: scopes are
not analysed. -/
def lastCall? (t : Text) : Option String := (elementCalls t).getLast?.map ElementCall.className

example : elementCalls "e(Frame, \x7b e ('X' ,\x7b".toList = [⟨0, 9, "Frame"⟩, ⟨11, 19, "X"⟩] := by
  decide +kernel

end ElementProps
