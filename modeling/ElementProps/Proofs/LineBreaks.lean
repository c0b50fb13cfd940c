import ElementProps.Proofs.CallWindow

/-!
# Line breaks

A text is a chain of lines, each with its break. Writing every break as `\n` keeps the lines and what
stands in them, and nothing that completion looks at tells one break from another.

* `NoBreak t`                     a text without a character of line breaks;
* `Text.lineInduction`            a text is its first line with its break, followed by the rest;
* `linesOf_append`, `unifyBreaks_append`   what that means for lines and for unified breaks;
* `callAt?_unifyBreaks`           a call with unified breaks is the same call;
* `lastCallFrom`                  the last call as a name and what follows its brace;
* `findIn_unifyBreaks`            completion finds the same in a text with unified breaks;
* `take_cursorOffset_unifyBreaks` and a line and character stand for the same place.
-/

namespace ElementProps

/-! ## texts as chains of lines -/

def NoBreak (t : Text) : Prop := ∀ c ∈ t, c ≠ '\r' ∧ c ≠ '\n'

theorem NoBreak.cons {c : Char} {t : Text} (hr : c ≠ '\r') (hn : c ≠ '\n') (h : NoBreak t) :
    NoBreak (c :: t) := by
  intro d hd
  rcases List.mem_cons.1 hd with rfl | hd
  · exact ⟨hr, hn⟩
  · exact h d hd

theorem NoBreak.take {t : Text} (h : NoBreak t) (n : Nat) : NoBreak (t.take n) :=
  fun c hc => h c (List.mem_of_mem_take hc)

theorem LineBreak.length_text_pos (b : LineBreak) : 0 < b.text.length := by cases b <;> decide

/-- what may follow a line break: a lone `\r` is not followed by `\n` -/
def LineBreak.Fits (b : LineBreak) (rest : Text) : Prop := b = .cr → ∀ r, rest ≠ '\n' :: r

theorem LineBreak.Fits.take {b : LineBreak} {rest : Text} (h : b.Fits rest) (n : Nat) :
    b.Fits (rest.take n) := by
  intro hb r hr
  cases rest with
  | nil => simp at hr
  | cons c rest =>
    cases n with
    | zero => simp at hr
    | succ n =>
      obtain ⟨rfl, -⟩ := List.cons.inj hr
      exact h hb rest rfl

theorem exists_firstLine (t : Text) :
    NoBreak t ∨ ∃ body b rest, NoBreak body ∧ LineBreak.Fits b rest ∧
      t = body ++ (b.text ++ rest) := by
  fun_induction linesOf t with
  | case1 => exact Or.inl fun c hc => absurd hc List.not_mem_nil
  | case2 t _ => exact Or.inr ⟨[], .crlf, t, by simp [NoBreak], by simp [LineBreak.Fits], rfl⟩
  | case3 t hn _ => exact Or.inr ⟨[], .cr, t, by simp [NoBreak], fun _ r hr => hn r hr, rfl⟩
  | case4 t _ => exact Or.inr ⟨[], .lf, t, by simp [NoBreak], by simp [LineBreak.Fits], rfl⟩
  | case5 c t _ hr hn ih =>
    rcases ih with h | ⟨body, b, rest, hbody, hfits, rfl⟩
    · exact Or.inl (h.cons hr hn)
    · exact Or.inr ⟨c :: body, b, rest, hbody.cons hr hn, hfits, rfl⟩

/-- Induction on the lines of a text. The last line has no break, and may be empty. -/
@[elab_as_elim]
theorem Text.lineInduction {motive : Text → Prop} (last : ∀ body, NoBreak body → motive body)
    (line : ∀ body b rest, NoBreak body → LineBreak.Fits b rest → motive rest →
      motive (body ++ (b.text ++ rest))) (t : Text) : motive t := by
  rcases exists_firstLine t with h | ⟨body, b, rest, hbody, hfits, ht⟩
  · exact last t h
  · have hlt : rest.length < t.length := by
      have hb := b.length_text_pos
      rw [ht, List.length_append, List.length_append]
      omega
    rw [ht]
    exact line body b rest hbody hfits (Text.lineInduction last line rest)
termination_by t.length

/-! ## the lines and the unified breaks of a chain -/

theorem linesOf_cons {c : Char} (hr : c ≠ '\r') (hn : c ≠ '\n') (t : Text) :
    linesOf (c :: t) = consLine c (linesOf t) := by
  rw [linesOf]
  · exact fun _ h _ => hr h
  · exact hr
  · exact hn

theorem linesOf_append {body : Text} (hbody : NoBreak body) {b : LineBreak} {rest : Text}
    (hfits : b.Fits rest) : linesOf (body ++ (b.text ++ rest)) = ⟨body, some b⟩ :: linesOf rest := by
  induction body with
  | nil =>
    cases b with
    | crlf => rfl
    | lf => rfl
    | cr =>
      show linesOf ('\r' :: rest) = _
      rw [linesOf]
      exact fun r hr => hfits rfl r hr
  | cons c body ih =>
    obtain ⟨hr, hn⟩ := hbody c List.mem_cons_self
    rw [List.cons_append, linesOf_cons hr hn, ih fun d hd => hbody d (List.mem_cons_of_mem c hd)]
    rfl

theorem unifyBreaks_cons {c : Char} (hr : c ≠ '\r') (t : Text) :
    unifyBreaks (c :: t) = c :: unifyBreaks t := by
  rw [unifyBreaks]
  · exact fun _ h _ => hr h
  · exact hr

theorem unifyBreaks_cr {t : Text} (h : ∀ r, t ≠ '\n' :: r) :
    unifyBreaks ('\r' :: t) = '\n' :: unifyBreaks t := by
  rw [unifyBreaks]
  exact h

theorem exists_unifyBreaks_cr (t : Text) : ∃ r, unifyBreaks ('\r' :: t) = '\n' :: r := by
  by_cases h : ∃ r, t = '\n' :: r
  · obtain ⟨r, rfl⟩ := h
    exact ⟨unifyBreaks r, rfl⟩
  · exact ⟨unifyBreaks t, unifyBreaks_cr fun r hr => h ⟨r, hr⟩⟩

theorem unifyBreaks_noBreak_append {x : Text} (hx : NoBreak x) (t : Text) :
    unifyBreaks (x ++ t) = x ++ unifyBreaks t := by
  induction x with
  | nil => rfl
  | cons c x ih =>
    rw [List.cons_append, unifyBreaks_cons (hx c List.mem_cons_self).1,
      ih fun d hd => hx d (List.mem_cons_of_mem c hd)]
    rfl

theorem unifyBreaks_noBreak {x : Text} (hx : NoBreak x) : unifyBreaks x = x := by
  have h := unifyBreaks_noBreak_append hx []
  rw [List.append_nil] at h
  rw [h]
  exact List.append_nil x

theorem unifyBreaks_append {body : Text} (hbody : NoBreak body) {b : LineBreak} {rest : Text}
    (hfits : b.Fits rest) :
    unifyBreaks (body ++ (b.text ++ rest)) = body ++ '\n' :: unifyBreaks rest := by
  rw [unifyBreaks_noBreak_append hbody]
  cases b with
  | crlf => rfl
  | lf => rfl
  | cr => exact congrArg (body ++ ·) (unifyBreaks_cr (hfits rfl))

theorem length_unifyBreaks_le (t : Text) : (unifyBreaks t).length ≤ t.length := by
  fun_induction unifyBreaks t with
  | case1 => exact Nat.le_refl _
  | case2 t ih => simp only [List.length_cons]; omega
  | case3 t _ ih => simp only [List.length_cons]; omega
  | case4 c t _ _ ih => simp only [List.length_cons]; omega

/-! ## calls in a text with unified breaks -/

/-- Skipping characters of a kind commutes with unifying breaks, as both characters of breaks are of
that kind or neither is. -/
theorem dropWhile_unifyBreaks {p : Char → Bool} (hp : p '\r' = p '\n') (t : Text) :
    (unifyBreaks t).dropWhile p = unifyBreaks (t.dropWhile p) := by
  fun_induction unifyBreaks t with
  | case1 => rfl
  | case2 t ih =>
    cases hn : p '\n' with
    | true => simp [hp, hn, ih]
    | false => simp [hp, hn, unifyBreaks]
  | case3 t h ih =>
    cases hn : p '\n' with
    | true => simp [hp, hn, ih]
    | false => simp [hp, hn, unifyBreaks_cr h]
  | case4 c t _ hr ih =>
    cases hc : p c with
    | true => simp [hc, ih]
    | false => simp [hc, unifyBreaks_cons hr]

theorem takeWhile_unifyBreaks {p : Char → Bool} (hr : p '\r' = false) (hn : p '\n' = false)
    (t : Text) : (unifyBreaks t).takeWhile p = t.takeWhile p := by
  fun_induction unifyBreaks t with
  | case1 => rfl
  | case2 t ih => simp [hr, hn]
  | case3 t h ih => simp [hr, hn]
  | case4 c t _ _ ih =>
    cases hc : p c with
    | true => simp [hc, ih]
    | false => simp [hc]

theorem skipBlanks_unifyBreaks (t : Text) :
    Text.skipBlanks (unifyBreaks t) = unifyBreaks (Text.skipBlanks t) :=
  dropWhile_unifyBreaks (by decide) t

theorem after?_unifyBreaks {s : Text} (hs : NoBreak s) (t : Text) :
    Text.after? s (unifyBreaks t) = (Text.after? s t).map unifyBreaks := by
  induction s generalizing t with
  | nil => rfl
  | cons a s ih =>
    obtain ⟨hr, hn⟩ := hs a List.mem_cons_self
    cases t with
    | nil => rfl
    | cons c t =>
      by_cases hc : c = '\r'
      · obtain ⟨r, he⟩ := exists_unifyBreaks_cr t
        rw [hc, he, Text.after?, Text.after?, if_neg hn, if_neg hr]
        rfl
      · rw [unifyBreaks_cons hc, Text.after?, Text.after?]
        split
        · exact ih (fun d hd => hs d (List.mem_cons_of_mem a hd)) t
        · rfl

theorem afterConstructor?_unifyBreaks (t : Text) :
    afterConstructor? (unifyBreaks t) = (afterConstructor? t).map unifyBreaks := by
  have h1 := after?_unifyBreaks (s := "React.createElement".toList) (by simp [NoBreak]) t
  have h2 := after?_unifyBreaks (s := "e".toList) (by simp [NoBreak]) t
  simp only [afterConstructor?, constructors, List.findSome?_cons, List.findSome?_nil, h1, h2]
  cases Text.after? "React.createElement".toList t with
  | some r => rfl
  | none => cases Text.after? "e".toList t <;> rfl

theorem afterMark?_unifyBreaks {m : Char} (hr : m ≠ '\r') (hn : m ≠ '\n') (t : Text) :
    afterMark? m (unifyBreaks t) = (afterMark? m t).map unifyBreaks := by
  have hm : NoBreak [m] := NoBreak.cons hr hn fun c hc => absurd hc List.not_mem_nil
  rw [afterMark?, skipBlanks_unifyBreaks, after?_unifyBreaks hm]
  rfl

theorem bareName?_unifyBreaks (t : Text) :
    bareName? (unifyBreaks t) = (bareName? t).map fun (n, r) => (n, unifyBreaks r) := by
  rw [bareName?, takeWhile_unifyBreaks (by decide) (by decide), dropWhile_unifyBreaks (by decide),
    bareName?]
  cases t.takeWhile isNameChar <;> rfl

theorem quotedName?_unifyBreaks {q : Char} (hr : q ≠ '\r') (hn : q ≠ '\n') (t : Text) :
    quotedName? q (unifyBreaks t) = (quotedName? q t).map fun (n, r) => (n, unifyBreaks r) := by
  have hq : NoBreak [q] := NoBreak.cons hr hn fun c hc => absurd hc List.not_mem_nil
  rw [quotedName?, bareName?_unifyBreaks, quotedName?]
  cases bareName? t with
  | none => rfl
  | some found =>
    obtain ⟨n, r⟩ := found
    show (Text.after? [q] (unifyBreaks r)).map _ = _
    rw [after?_unifyBreaks hq]
    cases h : Text.after? [q] r <;> simp [h]

theorem className?_of_ne {c : Char} (hd : c ≠ '"') (hs : c ≠ '\'') (t : Text) :
    className? (c :: t) = bareName? (c :: t) := by
  rw [className?]
  · exact fun _ h => hd (List.cons.inj h).1
  · exact fun _ h => hs (List.cons.inj h).1

theorem className?_unifyBreaks (t : Text) :
    className? (unifyBreaks t) = (className? t).map fun (n, r) => (n, unifyBreaks r) := by
  cases t with
  | nil => rfl
  | cons c t =>
    by_cases hd : c = '"'
    · subst hd
      rw [unifyBreaks_cons (by decide)]
      exact quotedName?_unifyBreaks (by decide) (by decide) t
    · by_cases hs : c = '\''
      · subst hs
        rw [unifyBreaks_cons (by decide)]
        exact quotedName?_unifyBreaks (by decide) (by decide) t
      · rw [className?_of_ne hd hs, ← bareName?_unifyBreaks]
        by_cases hr : c = '\r'
        · obtain ⟨r, he⟩ := exists_unifyBreaks_cr t
          rw [hr, he, className?_of_ne (by decide) (by decide)]
        · rw [unifyBreaks_cons hr, className?_of_ne hd hs]

/-- A call with unified breaks is the same call. -/
theorem callAt?_unifyBreaks (t : Text) :
    callAt? (unifyBreaks t) = (callAt? t).map fun (n, r) => (n, unifyBreaks r) := by
  unfold callAt?
  rw [afterConstructor?_unifyBreaks]
  cases afterConstructor? t with
  | none => rfl
  | some t1 =>
    simp only [Option.map_some, Option.bind_eq_bind, Option.bind_some,
      afterMark?_unifyBreaks (m := '(') (by decide) (by decide)]
    cases afterMark? '(' t1 with
    | none => rfl
    | some t2 =>
      simp only [Option.map_some, Option.bind_some, skipBlanks_unifyBreaks, className?_unifyBreaks]
      cases className? (Text.skipBlanks t2) with
      | none => rfl
      | some found =>
        simp only [Option.map_some, Option.bind_some,
          afterMark?_unifyBreaks (m := ',') (by decide) (by decide)]
        cases afterMark? ',' found.2 with
        | none => rfl
        | some t4 =>
          simp only [Option.map_some, Option.bind_some,
            afterMark?_unifyBreaks (m := '{') (by decide) (by decide)]
          cases afterMark? '{' t4 <;> rfl

/-! ## the last call -/

/-- the last call of a text that is preceded by `before`: its class and what follows its brace -/
def lastCallFrom (before : Option Char) : Text → Option (Text × Text)
  | [] => none
  | c :: t => (lastCallFrom (some c) t).or (callAfter? before (c :: t))

/-- what follows the brace of a call found after `p` -/
theorem drop_of_callAfter? {p t name r : Text} {c : Char} {before : Option Char}
    (h : callAfter? before (c :: t) = some (name, r)) :
    (p ++ c :: t).drop (p.length + (t.length - r.length) + 1) = r := by
  obtain ⟨-, u, htext, hu⟩ := callAfter?_eq_some_iff.1 h
  obtain ⟨d, v, rfl, -⟩ := htext.head
  have ht : t = v ++ r := (List.cons.inj hu).2
  have hlen : t.length - r.length = v.length := by
    rw [ht, List.length_append]
    omega
  rw [Nat.add_assoc, hlen, List.drop_length_add_append, List.drop_succ_cons, ht, List.drop_left]

theorem getLast?_filterMap_callFrom? (p t : Text) :
    ((List.range' p.length t.length).filterMap (callFrom? (p ++ t))).getLast?.map
        (fun s => (s.className, (p ++ t).drop (s.brace + 1))) =
      (lastCallFrom p.getLast? t).map fun (n, r) => (String.ofList n, r) := by
  induction t generalizing p with
  | nil => rfl
  | cons c t ih =>
    have h := ih (p ++ [c])
    rw [List.getLast?_concat, List.length_append, List.length_singleton, List.append_assoc,
      List.singleton_append] at h
    rw [List.length_cons, List.range'_succ, List.filterMap_cons, callFrom?_append, lastCallFrom,
      Option.map_or, ← h]
    cases hc : callAfter? p.getLast? (c :: t) with
    | none => simp
    | some found =>
      obtain ⟨name, r⟩ := found
      have hdrop := drop_of_callAfter? (p := p) hc
      simp only [Option.map_some, List.getLast?_cons]
      cases ((List.range' (p.length + 1) t.length).filterMap
          (callFrom? (p ++ c :: t))).getLast? with
      | none => simp [hdrop]
      | some s => rfl

theorem findIn_eq_lastCallFrom (builtin : PropertyMap) (user : Option PropertyMap) (w : Text) :
    findIn builtin user w = match lastCallFrom none w with
      | none => .noCall
      | some (name, rest) => findingInTable builtin user (String.ofList name) rest := by
  have h := getLast?_filterMap_callFrom? [] w
  rw [List.nil_append, List.length_nil, ← List.range_eq_range', ← elementCalls_eq_filterMap,
    List.getLast?_nil] at h
  rw [findIn_eq]
  cases hs : (elementCalls w).getLast? with
  | none =>
    rw [hs] at h
    rw [Option.map_eq_none_iff.1 h.symm]
  | some s =>
    rw [hs] at h
    obtain ⟨⟨name, rest⟩, hl, he⟩ := Option.map_eq_some_iff.1 h.symm
    obtain ⟨hn, rfl⟩ := Prod.mk.inj he
    rw [hl]
    show findingInTable builtin user s.className _ = findingInTable builtin user (String.ofList name) _
    rw [hn]

theorem callAfter?_break {c : Char} (hc : c = '\r' ∨ c = '\n') (before : Option Char) (t : Text) :
    callAfter? before (c :: t) = none := by
  have h : callAt? (c :: t) = none := by
    rcases hc with rfl | rfl <;> rfl
  rw [callAfter?, h, ite_self]

theorem lastCallFrom_unifyBreaks {before before' : Option Char}
    (h : before'.any Text.isWord = before.any Text.isWord) (t : Text) :
    lastCallFrom before' (unifyBreaks t) =
      (lastCallFrom before t).map fun (n, r) => (n, unifyBreaks r) := by
  fun_induction unifyBreaks t generalizing before before' with
  | case1 => rfl
  | case2 t ih =>
    rw [lastCallFrom, lastCallFrom, lastCallFrom, callAfter?_break (Or.inr rfl),
      callAfter?_break (Or.inr rfl), callAfter?_break (Or.inl rfl), Option.or_none, Option.or_none,
      Option.or_none]
    exact ih rfl
  | case3 t _ ih =>
    rw [lastCallFrom, lastCallFrom, callAfter?_break (Or.inr rfl), callAfter?_break (Or.inl rfl),
      Option.or_none, Option.or_none]
    exact ih (by decide)
  | case4 c t _ hr ih =>
    have hcall : callAfter? before' (c :: unifyBreaks t) =
        (callAfter? before (c :: t)).map fun (n, r) => (n, unifyBreaks r) := by
      rw [callAfter?, callAfter?, h, ← unifyBreaks_cons hr, callAt?_unifyBreaks]
      split <;> rfl
    rw [lastCallFrom, lastCallFrom, Option.map_or, hcall, ih rfl]

theorem staysOpen_unifyBreaks (inner : Nat) (t : Text) :
    staysOpen inner (unifyBreaks t) = staysOpen inner t := by
  fun_induction unifyBreaks t generalizing inner with
  | case1 => rfl
  | case2 t ih => exact ih inner
  | case3 t _ ih => exact ih inner
  | case4 c t _ _ ih =>
    rw [staysOpen, staysOpen]
    simp only [ih]

/-- Completion finds the same in a text with unified breaks. -/
theorem findIn_unifyBreaks (builtin : PropertyMap) (user : Option PropertyMap) (w : Text) :
    findIn builtin user (unifyBreaks w) = findIn builtin user w := by
  rw [findIn_eq_lastCallFrom, findIn_eq_lastCallFrom, lastCallFrom_unifyBreaks rfl]
  cases lastCallFrom none w with
  | none => rfl
  | some found =>
    show findingInTable builtin user _ (unifyBreaks found.2) = findingInTable builtin user _ found.2
    unfold findingInTable
    rw [staysOpen_unifyBreaks]

/-! ## places in a text with unified breaks -/

section
variable {t rest : Text} {l : Line}

theorem cursorOffset_firstLine (h : linesOf t = l :: linesOf rest) (character : Int) :
    cursorOffset t (0 : Nat) character = min character.toNat l.body.length := by
  unfold cursorOffset
  rw [if_neg (by omega)]
  simp [h, lineStart_zero]

theorem cursorOffset_nextLine (h : linesOf t = l :: linesOf rest) (ht : t = l.text ++ rest)
    (line : Nat) (character : Int) :
    cursorOffset t (line + 1 : Nat) character =
      l.text.length + cursorOffset rest line character := by
  unfold cursorOffset
  rw [if_neg (by omega), if_neg (by omega)]
  simp only [h, Int.toNat_natCast, List.getElem?_cons_succ, lineStart_succ_cons]
  split
  · rw [ht, List.length_append]
  · omega

end

/-- A line and character stand for the same place in a text and in the text with unified breaks. The
induction is on the lines; a place in the first line lies before its break. -/
theorem take_cursorOffset_unifyBreaks (t : Text) (line : Nat) (character : Int) :
    (unifyBreaks t).take (cursorOffset (unifyBreaks t) line character) =
      unifyBreaks (t.take (cursorOffset t line character)) := by
  induction t using Text.lineInduction generalizing line with
  | last body hbody => rw [unifyBreaks_noBreak hbody, unifyBreaks_noBreak (hbody.take _)]
  | line body b rest hbody hfits ih =>
    have hlines := linesOf_append hbody hfits
    have hlf : LineBreak.Fits .lf (unifyBreaks rest) := fun h => absurd h (by decide)
    have hlines' : linesOf (body ++ '\n' :: unifyBreaks rest) =
        ⟨body, some .lf⟩ :: linesOf (unifyBreaks rest) := linesOf_append hbody hlf
    rw [unifyBreaks_append hbody hfits]
    cases line with
    | zero =>
      have hle : min character.toNat body.length ≤ body.length := Nat.min_le_right _ _
      have hfirst : cursorOffset (body ++ (b.text ++ rest)) (0 : Nat) character =
          min character.toNat body.length := cursorOffset_firstLine hlines character
      have hfirst' : cursorOffset (body ++ '\n' :: unifyBreaks rest) (0 : Nat) character =
          min character.toNat body.length := cursorOffset_firstLine hlines' character
      rw [hfirst, hfirst', List.take_append_of_le_length hle, List.take_append_of_le_length hle,
        unifyBreaks_noBreak (hbody.take _)]
    | succ line =>
      have hnext : cursorOffset (body ++ (b.text ++ rest)) (line + 1 : Nat) character =
          body.length + (b.text.length + cursorOffset rest line character) := by
        rw [cursorOffset_nextLine hlines (List.append_assoc _ _ _).symm, Line.text_some,
          List.length_append, Nat.add_assoc]
      have hnext' : cursorOffset (body ++ '\n' :: unifyBreaks rest) (line + 1 : Nat) character =
          body.length + (cursorOffset (unifyBreaks rest) line character + 1) := by
        rw [cursorOffset_nextLine hlines' (List.append_cons _ _ _), Line.text_some,
          List.length_append, Nat.add_assoc, Nat.add_comm (cursorOffset _ _ _)]
        rfl
      rw [hnext, hnext', List.take_length_add_append, List.take_succ_cons, ih,
        List.take_length_add_append, List.take_length_add_append,
        unifyBreaks_append hbody (hfits.take _)]

end ElementProps
