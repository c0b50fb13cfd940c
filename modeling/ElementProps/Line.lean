import ElementProps.Text.Basic

/-!
# Lines

A line is its body and the break that ends it: `\n`, `\r\n` or a lone `\r`. Only the last line of
a text can have no break, and then its body is not empty.

* `linesOf t`             the lines of a text;
* `unifyBreaks t`         the text with every line break written as `\n`;
* `lineStart ls k`        the offset at which line `k` begins;
* `cursorOffset t l c`    the offset of a zero-based line and character, clamped;
* `linesOf_flatten`       the lines concatenate to the text;
* `cursorOffset_le`       every offset so computed lies in the text.
-/

namespace ElementProps

inductive LineBreak where
  | crlf
  | cr
  | lf
  deriving DecidableEq, Repr

def LineBreak.text : LineBreak → Text
  | .crlf => ['\r', '\n']
  | .cr => ['\r']
  | .lf => ['\n']

structure Line where
  /-- the characters before the break -/
  body : Text
  /-- the break, which the last line may lack -/
  ending : Option LineBreak
  deriving DecidableEq, Repr

namespace Line

/-- the characters of a line, with its break -/
def text : Line → Text
  | ⟨body, none⟩ => body
  | ⟨body, some b⟩ => body ++ b.text

theorem text_none (body : Text) : text ⟨body, none⟩ = body := rfl
theorem text_some (body : Text) (b : LineBreak) : text ⟨body, some b⟩ = body ++ b.text := rfl

theorem text_cons (c : Char) (body : Text) (e : Option LineBreak) :
    text ⟨c :: body, e⟩ = c :: text ⟨body, e⟩ := by
  cases e <;> rfl

theorem length_body_le (l : Line) : l.body.length ≤ l.text.length := by
  obtain ⟨body, _ | b⟩ := l <;> simp [text]

end Line

/-! ## splitting -/

/-- one more character at the front of the first line -/
def consLine (c : Char) : List Line → List Line
  | [] => [⟨[c], none⟩]
  | l :: ls => ⟨c :: l.body, l.ending⟩ :: ls

def linesOf : Text → List Line
  | [] => []
  | '\r' :: '\n' :: t => ⟨[], some .crlf⟩ :: linesOf t
  | '\r' :: t => ⟨[], some .cr⟩ :: linesOf t
  | '\n' :: t => ⟨[], some .lf⟩ :: linesOf t
  | c :: t => consLine c (linesOf t)

theorem flatMap_text_consLine (c : Char) (ls : List Line) :
    (consLine c ls).flatMap Line.text = c :: ls.flatMap Line.text := by
  cases ls with
  | nil => rfl
  | cons l ls => simp [consLine, Line.text_cons]

/-- the lines concatenate to the text -/
theorem linesOf_flatten (t : Text) : (linesOf t).flatMap Line.text = t := by
  fun_induction linesOf t with
  | case1 => rfl
  | case2 t ih => simp [Line.text, LineBreak.text, ih]
  | case3 t _ ih => simp [Line.text, LineBreak.text, ih]
  | case4 t ih => simp [Line.text, LineBreak.text, ih]
  | case5 c t _ _ _ ih => rw [flatMap_text_consLine, ih]

/-- the text with every line break written as `\n` -/
def unifyBreaks : Text → Text
  | [] => []
  | '\r' :: '\n' :: t => '\n' :: unifyBreaks t
  | '\r' :: t => '\n' :: unifyBreaks t
  | c :: t => c :: unifyBreaks t

/-! ## offsets -/

/-- the offset at which line `k` begins: the length of all lines before it -/
def lineStart (ls : List Line) (k : Nat) : Nat := ((ls.take k).flatMap Line.text).length

theorem lineStart_zero (ls : List Line) : lineStart ls 0 = 0 := by simp [lineStart]

theorem lineStart_succ_cons (l : Line) (ls : List Line) (k : Nat) :
    lineStart (l :: ls) (k + 1) = l.text.length + lineStart ls k := by
  simp [lineStart]

theorem lineStart_add_le {ls : List Line} {k : Nat} {l : Line} (h : ls[k]? = some l) :
    lineStart ls k + l.text.length ≤ (ls.flatMap Line.text).length := by
  induction ls generalizing k with
  | nil => simp at h
  | cons x ls ih =>
    cases k with
    | zero =>
      simp only [List.getElem?_cons_zero, Option.some.injEq] at h
      subst h
      simp [lineStart_zero]
    | succ k =>
      have := ih (by simpa using h)
      simp only [lineStart_succ_cons, List.flatMap_cons, List.length_append]
      omega

/-- The offset of a zero-based line and character. A character before its line counts as its
start and one past its line as its end; a line that does not exist is the end of the text. -/
def cursorOffset (t : Text) (line character : Int) : Nat :=
  if line < 0 then t.length
  else
    let ls := linesOf t
    match ls[line.toNat]? with
    | none => t.length
    | some l => lineStart ls line.toNat + min character.toNat l.body.length

theorem cursorOffset_le (t : Text) (line character : Int) :
    cursorOffset t line character ≤ t.length := by
  unfold cursorOffset
  split
  · exact Nat.le_refl _
  · dsimp only
    split
    · exact Nat.le_refl _
    · next l hl =>
      have h := lineStart_add_le hl
      rw [linesOf_flatten] at h
      have := l.length_body_le
      omega

end ElementProps
