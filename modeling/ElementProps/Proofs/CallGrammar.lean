import ElementProps.ElementCall

/-!
# The grammar of an element call

From its constructor to the brace that opens the table, an element call reads

    constructor blanks ( blanks argument blanks , blanks {

where the argument is a class name, bare or between two equal quotes.

* `Blanks s`, `ClassName n`      a run of blanks, and a name that can stand in a call;
* `ClassArgument n a`            `a` is one of the ways to write the class `n`;
* `CallText n u`                 `u` is the text of a call that names the class `n`;
* `callAt?_eq_some_iff`          reading a call takes exactly the texts of this grammar, so a text
                                 begins with at most one of them.
-/

namespace ElementProps

/-! ## the grammar -/

/-- a run of blanks, which may be empty -/
def Blanks (s : Text) : Prop := ∀ c ∈ s, Text.isBlank c = true

/-- a name that can stand in a call -/
structure ClassName (name : Text) : Prop where
  ne_nil : name ≠ []
  chars : ∀ c ∈ name, isNameChar c = true

/-- the ways to write a class as the first argument of a call -/
inductive ClassArgument (name : Text) : Text → Prop where
  | bare : ClassArgument name name
  | quoted (q : Char) (hq : q = '"' ∨ q = '\'') : ClassArgument name (q :: (name ++ [q]))

/-- the texts of a call that names a class, from the constructor to the brace -/
inductive CallText (name : Text) : Text → Prop where
  | intro {token : String} {b₁ b₂ arg b₃ b₄ : Text} (htoken : token ∈ constructors)
      (h₁ : Blanks b₁) (h₂ : Blanks b₂) (hname : ClassName name) (harg : ClassArgument name arg)
      (h₃ : Blanks b₃) (h₄ : Blanks b₄) :
      CallText name
        (token.toList ++ (b₁ ++ '(' :: (b₂ ++ (arg ++ (b₃ ++ ',' :: (b₄ ++ ['{']))))))

/-! ## blanks and marks -/

theorem isBlank_of_isNameChar {c : Char} (h : isNameChar c = true) : Text.isBlank c = false := by
  have hc : 48 ≤ c.toNat ∧ c.toNat ≤ 122 := by
    rcases Bool.or_eq_true_iff.1 h with h | h
    · have := Text.toNat_of_isAlphanum h
      omega
    · rw [beq_iff_eq.1 h]
      decide
  have hb : ¬ Text.isBlank c = true := by
    rw [Text.isBlank, Text.inRanges_eq_true_iff]
    rintro ⟨r, hr, hlo, hhi⟩
    simp only [Text.blankRanges, List.mem_cons, List.not_mem_nil, or_false] at hr
    rcases hr with rfl | rfl | rfl | rfl | rfl | rfl | rfl | rfl | rfl | rfl <;>
      simp only at hlo hhi <;> omega
  simpa using hb

theorem skipBlanks_append {b : Text} (hb : Blanks b) (t : Text) :
    Text.skipBlanks (b ++ t) = Text.skipBlanks t :=
  List.dropWhile_append_of_pos hb

theorem skipBlanks_cons {c : Char} (hc : Text.isBlank c = false) (t : Text) :
    Text.skipBlanks (c :: t) = c :: t := by
  simp [Text.skipBlanks, hc]

theorem exists_blanks_skipBlanks (t : Text) : ∃ b, Blanks b ∧ t = b ++ Text.skipBlanks t :=
  ⟨t.takeWhile Text.isBlank, List.all_eq_true.1 List.all_takeWhile,
    List.takeWhile_append_dropWhile.symm⟩

/-- a mark is read exactly when only blanks stand before it -/
theorem afterMark?_eq_some_iff {m : Char} (hm : Text.isBlank m = false) {t r : Text} :
    afterMark? m t = some r ↔ ∃ b, Blanks b ∧ t = b ++ m :: r := by
  unfold afterMark?
  rw [Text.after?_eq_some_iff]
  constructor
  · intro h
    obtain ⟨b, hb, ht⟩ := exists_blanks_skipBlanks t
    exact ⟨b, hb, by rw [ht, h]; rfl⟩
  · rintro ⟨b, hb, rfl⟩
    rw [skipBlanks_append hb, skipBlanks_cons hm]
    rfl

/-- no text begins with two constructors -/
theorem afterConstructor?_eq_some_iff {t r : Text} :
    afterConstructor? t = some r ↔ ∃ token ∈ constructors, t = token.toList ++ r := by
  constructor
  · intro h
    obtain ⟨token, htoken, ha⟩ := List.exists_of_findSome?_eq_some h
    exact ⟨token, htoken, Text.eq_append_of_after? ha⟩
  · rintro ⟨token, htoken, rfl⟩
    simp only [constructors, List.mem_cons, List.not_mem_nil, or_false] at htoken
    rcases htoken with rfl | rfl
    · exact rfl
    · exact rfl

/-! ## class names -/

/-- a name is read up to the first character that cannot belong to it -/
theorem bareName?_eq_some_iff {t name r : Text} :
    bareName? t = some (name, r) ↔
      ClassName name ∧ t = name ++ r ∧ ∀ c ∈ r.head?, isNameChar c = false := by
  have hsplit : t.takeWhile isNameChar ++ t.dropWhile isNameChar = t :=
    List.takeWhile_append_dropWhile
  unfold bareName?
  constructor
  · intro h
    split at h
    · simp at h
    · next c n hn =>
      obtain ⟨rfl, rfl⟩ := Prod.mk.inj (Option.some.inj h)
      refine ⟨⟨by simp, fun d hd => ?_⟩, ?_, fun d hd => ?_⟩
      · rw [← hn] at hd
        exact List.all_eq_true.1 List.all_takeWhile d hd
      · rw [← hn, hsplit]
      · have := List.head?_dropWhile_not isNameChar t
        rw [Option.mem_def.1 hd] at this
        simpa using this
  · rintro ⟨hname, rfl, hr⟩
    have hdrop : r.dropWhile isNameChar = r := by
      cases r with
      | nil => rfl
      | cons c r => simp [hr c rfl]
    have htake : r.takeWhile isNameChar = [] := by
      cases r with
      | nil => rfl
      | cons c r => simp [hr c rfl]
    rw [List.takeWhile_append_of_pos hname.chars, List.dropWhile_append_of_pos hname.chars, hdrop,
      htake, List.append_nil]
    obtain _ | ⟨c, n⟩ := name
    · exact absurd rfl hname.ne_nil
    · rfl

theorem quotedName?_eq_some_iff {q : Char} (hq : isNameChar q = false) {t name r : Text} :
    quotedName? q t = some (name, r) ↔ ClassName name ∧ t = name ++ q :: r := by
  unfold quotedName?
  rw [Option.bind_eq_some_iff]
  constructor
  · rintro ⟨⟨n, rest⟩, hb, h⟩
    obtain ⟨r', ha, he⟩ := Option.map_eq_some_iff.1 h
    obtain ⟨rfl, rfl⟩ := Prod.mk.inj he
    obtain ⟨hname, rfl, -⟩ := bareName?_eq_some_iff.1 hb
    exact ⟨hname, by rw [Text.eq_append_of_after? ha]; rfl⟩
  · rintro ⟨hname, rfl⟩
    refine ⟨(name, q :: r), bareName?_eq_some_iff.2 ⟨hname, rfl, ?_⟩, ?_⟩
    · intro c hc
      obtain rfl := Option.some.inj hc
      exact hq
    · have ha : Text.after? [q] (q :: r) = some r := Text.after?_append [q] r
      show (Text.after? [q] (q :: r)).map (name, ·) = some (name, r)
      rw [ha]
      rfl

/-- what is read as a class is one of the ways to write it -/
theorem classArgument_of_className? {t name r : Text} (h : className? t = some (name, r)) :
    ClassName name ∧ ∃ arg, ClassArgument name arg ∧ t = arg ++ r := by
  unfold className? at h
  split at h
  · obtain ⟨hname, rfl⟩ := (quotedName?_eq_some_iff (by decide)).1 h
    exact ⟨hname, _, .quoted '"' (Or.inl rfl), by simp⟩
  · obtain ⟨hname, rfl⟩ := (quotedName?_eq_some_iff (by decide)).1 h
    exact ⟨hname, _, .quoted '\'' (Or.inr rfl), by simp⟩
  · obtain ⟨hname, rfl, -⟩ := bareName?_eq_some_iff.1 h
    exact ⟨hname, name, .bare, rfl⟩

/-- every way to write a class is read, unless the name goes on after it -/
theorem className?_of_classArgument {name arg : Text} (hname : ClassName name)
    (harg : ClassArgument name arg) {r : Text} (hr : ∀ c ∈ r.head?, isNameChar c = false) :
    className? (arg ++ r) = some (name, r) := by
  cases harg with
  | bare =>
    have hb := bareName?_eq_some_iff.2 ⟨hname, rfl, hr⟩
    obtain _ | ⟨c, n⟩ := name
    · exact absurd rfl hname.ne_nil
    · have hc : isNameChar c = true := hname.chars c List.mem_cons_self
      unfold className?
      split
      · next he =>
        obtain ⟨rfl, -⟩ := List.cons.inj he
        exact absurd hc (by decide)
      · next he =>
        obtain ⟨rfl, -⟩ := List.cons.inj he
        exact absurd hc (by decide)
      · exact hb
  | quoted q hq =>
    rw [List.cons_append, List.append_assoc]
    rcases hq with rfl | rfl
    · exact (quotedName?_eq_some_iff (by decide)).2 ⟨hname, rfl⟩
    · exact (quotedName?_eq_some_iff (by decide)).2 ⟨hname, rfl⟩

theorem ClassArgument.head_not_isBlank {name arg : Text} (hname : ClassName name)
    (harg : ClassArgument name arg) (r : Text) : Text.skipBlanks (arg ++ r) = arg ++ r := by
  cases harg with
  | bare =>
    obtain _ | ⟨c, n⟩ := name
    · exact absurd rfl hname.ne_nil
    · exact skipBlanks_cons (isBlank_of_isNameChar (hname.chars c List.mem_cons_self)) _
  | quoted q hq =>
    refine skipBlanks_cons ?_ _
    rcases hq with rfl | rfl <;> decide

/-! ## calls -/

/-- Reading a call takes exactly the texts of the grammar. As reading is a function, a text begins
with at most one call. -/
theorem callAt?_eq_some_iff {t name r : Text} :
    callAt? t = some (name, r) ↔ ∃ u, CallText name u ∧ t = u ++ r := by
  constructor
  · intro h
    obtain ⟨t1, h1, h⟩ := Option.bind_eq_some_iff.1 h
    obtain ⟨t2, h2, h⟩ := Option.bind_eq_some_iff.1 h
    obtain ⟨⟨n, t3⟩, h3, h⟩ := Option.bind_eq_some_iff.1 h
    obtain ⟨t4, h4, h⟩ := Option.bind_eq_some_iff.1 h
    obtain ⟨t5, h5, h⟩ := Option.bind_eq_some_iff.1 h
    obtain ⟨rfl, rfl⟩ := Prod.mk.inj (Option.some.inj h)
    obtain ⟨token, htoken, rfl⟩ := afterConstructor?_eq_some_iff.1 h1
    obtain ⟨b₁, hb₁, rfl⟩ := (afterMark?_eq_some_iff (by decide)).1 h2
    obtain ⟨b₂, hb₂, e2⟩ := exists_blanks_skipBlanks t2
    obtain ⟨hname, arg, harg, e3⟩ := classArgument_of_className? h3
    obtain ⟨b₃, hb₃, rfl⟩ := (afterMark?_eq_some_iff (by decide)).1 h4
    obtain ⟨b₄, hb₄, rfl⟩ := (afterMark?_eq_some_iff (by decide)).1 h5
    refine ⟨_, .intro htoken hb₁ hb₂ hname harg hb₃ hb₄, ?_⟩
    rw [e2, e3]
    simp
  · rintro ⟨u, ⟨htoken, hb₁, hb₂, hname, harg, hb₃, hb₄⟩, rfl⟩
    rename_i token b₁ b₂ arg b₃ b₄
    -- the argument ends where the blanks or the comma after it begin
    have hend : ∀ c ∈ (b₃ ++ ',' :: (b₄ ++ '{' :: r)).head?, isNameChar c = false := by
      intro c hc
      cases b₃ with
      | nil =>
        obtain rfl := Option.some.inj hc
        decide
      | cons d b₃ =>
        obtain rfl := Option.some.inj hc
        have hd : Text.isBlank d = true := hb₃ d List.mem_cons_self
        cases hn : isNameChar d with
        | false => rfl
        | true => rw [isBlank_of_isNameChar hn] at hd; exact absurd hd (by decide)
    have h1 : afterConstructor? (token.toList ++
        (b₁ ++ '(' :: (b₂ ++ (arg ++ (b₃ ++ ',' :: (b₄ ++ '{' :: r)))))) = some _ :=
      afterConstructor?_eq_some_iff.2 ⟨token, htoken, rfl⟩
    have h2 : afterMark? '(' (b₁ ++ '(' :: (b₂ ++ (arg ++ (b₃ ++ ',' :: (b₄ ++ '{' :: r))))) =
        some _ := (afterMark?_eq_some_iff (by decide)).2 ⟨b₁, hb₁, rfl⟩
    have h3 : className? (Text.skipBlanks (b₂ ++ (arg ++ (b₃ ++ ',' :: (b₄ ++ '{' :: r))))) =
        some (name, b₃ ++ ',' :: (b₄ ++ '{' :: r)) := by
      rw [skipBlanks_append hb₂, harg.head_not_isBlank hname]
      exact className?_of_classArgument hname harg hend
    have h4 : afterMark? ',' (b₃ ++ ',' :: (b₄ ++ '{' :: r)) = some _ :=
      (afterMark?_eq_some_iff (by decide)).2 ⟨b₃, hb₃, rfl⟩
    have h5 : afterMark? '{' (b₄ ++ '{' :: r) = some r :=
      (afterMark?_eq_some_iff (by decide)).2 ⟨b₄, hb₄, rfl⟩
    simp only [List.append_assoc, List.cons_append, List.nil_append]
    simp only [callAt?, h1, h2, h3, h4, h5, Option.bind_eq_bind, Option.bind_some, Option.pure_def]

end ElementProps
