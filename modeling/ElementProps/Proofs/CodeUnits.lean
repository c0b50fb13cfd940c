import ElementProps.Position

/-!
# UTF-16 code units

Clients hold their documents in UTF-16: a character is one code unit, an astral one a pair of
surrogates.

* `encode16 t`            the code units of a text;
* `decode16 b`            the text of a sequence of code units;
* `decode16_encode16`     decoding undoes encoding, so no two texts have the same units;
* `splitsPair b o`        the offset `o` lies between the two surrogates of a pair;
* `exists_take_encode16`  every other offset lies between two characters;
* `length_encode16`       the length in units is the one by which positions are measured.
-/

namespace ElementProps

/-! ## encoding and decoding -/

/-- a sequence of UTF-16 code units -/
abbrev Buffer := List UInt16

def codeUnits (c : Char) : Buffer :=
  if isAstral c then
    [.ofNat (0xD800 + (c.toNat - 0x10000) / 0x400), .ofNat (0xDC00 + (c.toNat - 0x10000) % 0x400)]
  else [.ofNat c.toNat]

def encode16 (t : Text) : Buffer := t.flatMap codeUnits

def isHighSurrogate (u : UInt16) : Bool := decide (0xD800 ≤ u.toNat) && decide (u.toNat ≤ 0xDBFF)
def isLowSurrogate (u : UInt16) : Bool := decide (0xDC00 ≤ u.toNat) && decide (u.toNat ≤ 0xDFFF)

/-- The text of a sequence of code units. A surrogate without a partner, which no encoded text
holds, stands for the character U+0000. -/
def decode16 : Buffer → Text
  | [] => []
  | [u] => [Char.ofNat u.toNat]
  | u :: v :: b =>
    if isHighSurrogate u && isLowSurrogate v then
      Char.ofNat (0x10000 + (u.toNat - 0xD800) * 0x400 + (v.toNat - 0xDC00)) :: decode16 b
    else Char.ofNat u.toNat :: decode16 (v :: b)

theorem encode16_cons (c : Char) (t : Text) : encode16 (c :: t) = codeUnits c ++ encode16 t := rfl
theorem encode16_append (s t : Text) : encode16 (s ++ t) = encode16 s ++ encode16 t := by
  simp [encode16]

theorem toNat_valid (c : Char) :
    c.toNat < 0xD800 ∨ 0xDFFF < c.toNat ∧ c.toNat < 0x110000 := c.valid

theorem toNat_ofNat16 {n : Nat} (h : n < 0x10000) : (UInt16.ofNat n).toNat = n :=
  UInt16.toNat_ofNat_of_lt' h

theorem not_isHighSurrogate_of_char {c : Char} (hc : c.toNat < 0x10000) :
    isHighSurrogate (.ofNat c.toNat) = false := by
  have h := toNat_valid c
  rw [isHighSurrogate, toNat_ofNat16 hc]
  simp only [Bool.and_eq_false_iff, decide_eq_false_iff_not]
  omega

theorem isHighSurrogate_of_lt {n : Nat} (hn : n < 0x400) :
    isHighSurrogate (.ofNat (0xD800 + n)) = true := by
  rw [isHighSurrogate, toNat_ofNat16 (by omega)]
  simp only [Bool.and_eq_true, decide_eq_true_eq]
  omega

theorem isLowSurrogate_of_lt {n : Nat} (hn : n < 0x400) :
    isLowSurrogate (.ofNat (0xDC00 + n)) = true := by
  rw [isLowSurrogate, toNat_ofNat16 (by omega)]
  simp only [Bool.and_eq_true, decide_eq_true_eq]
  omega

theorem codeUnits_of_astral {c : Char} (h : isAstral c = true) :
    ∃ hi lo, hi < 0x400 ∧ lo < 0x400 ∧ c.toNat = 0x10000 + hi * 0x400 + lo ∧
      codeUnits c = [.ofNat (0xD800 + hi), .ofNat (0xDC00 + lo)] := by
  have hv := toNat_valid c
  have hlt : 0xFFFF < c.toNat := by simpa [isAstral] using h
  refine ⟨(c.toNat - 0x10000) / 0x400, (c.toNat - 0x10000) % 0x400, by omega, by omega, by omega,
    ?_⟩
  rw [codeUnits, if_pos h]

theorem codeUnits_of_not_astral {c : Char} (h : isAstral c = false) :
    c.toNat < 0x10000 ∧ codeUnits c = [.ofNat c.toNat] := by
  have hle : ¬ 0xFFFF < c.toNat := by simpa [isAstral] using h
  refine ⟨by omega, ?_⟩
  rw [codeUnits, h]
  rfl

theorem decode16_codeUnits_append (c : Char) (b : Buffer) :
    decode16 (codeUnits c ++ b) = c :: decode16 b := by
  cases h : isAstral c with
  | true =>
    obtain ⟨hi, lo, hhi, hlo, hc, hu⟩ := codeUnits_of_astral h
    rw [hu]
    show decode16 (.ofNat (0xD800 + hi) :: .ofNat (0xDC00 + lo) :: b) = c :: decode16 b
    rw [decode16, isHighSurrogate_of_lt hhi, isLowSurrogate_of_lt hlo, Bool.and_self, if_pos rfl,
      toNat_ofNat16 (by omega), toNat_ofNat16 (by omega), Nat.add_sub_cancel_left,
      Nat.add_sub_cancel_left, ← hc, Char.ofNat_toNat]
  | false =>
    obtain ⟨hlt, hu⟩ := codeUnits_of_not_astral h
    rw [hu]
    cases b with
    | nil =>
      show [Char.ofNat (UInt16.ofNat c.toNat).toNat] = [c]
      rw [toNat_ofNat16 hlt, Char.ofNat_toNat]
    | cons v b =>
      show decode16 (.ofNat c.toNat :: v :: b) = c :: decode16 (v :: b)
      rw [decode16, not_isHighSurrogate_of_char hlt, Bool.false_and, if_neg (by decide),
        toNat_ofNat16 hlt, Char.ofNat_toNat]

/-- decoding undoes encoding -/
theorem decode16_encode16 (t : Text) : decode16 (encode16 t) = t := by
  induction t with
  | nil => rfl
  | cons c t ih => rw [encode16_cons, decode16_codeUnits_append, ih]

/-! ## lengths -/

theorem length_codeUnits (c : Char) : (codeUnits c).length = if isAstral c then 2 else 1 := by
  unfold codeUnits
  split <;> rfl

theorem length_encode16 (t : Text) : (encode16 t).length = Encoding.utf16.units t := by
  induction t with
  | nil => rfl
  | cons c t ih =>
    rw [encode16_cons, List.length_append, length_codeUnits, ih, Encoding.units_cons]
    rfl

theorem encode16_take_append_drop (t : Text) (k : Nat) :
    encode16 t = encode16 (t.take k) ++ encode16 (t.drop k) := by
  rw [← encode16_append, List.take_append_drop]

theorem take_encode16 {t : Text} {k o : Nat} (h : (encode16 (t.take k)).length = o) :
    (encode16 t).take o = encode16 (t.take k) := by
  rw [encode16_take_append_drop t k, ← h, List.take_left]

theorem drop_encode16 {t : Text} {k o : Nat} (h : (encode16 (t.take k)).length = o) :
    (encode16 t).drop o = encode16 (t.drop k) := by
  rw [encode16_take_append_drop t k, ← h, List.drop_left]

theorem length_encode16_take_mono {t : Text} {j k : Nat} (h : j ≤ k) :
    (encode16 (t.take j)).length ≤ (encode16 (t.take k)).length := by
  rw [encode16_take_append_drop (t.take k) j, List.take_take, Nat.min_eq_left h, List.length_append]
  omega

/-! ## offsets between characters -/

/-- an offset between the two surrogates of a pair -/
def splitsPair (b : Buffer) (o : Nat) : Bool :=
  (b.take o).getLast?.any isHighSurrogate && (b.drop o).head?.any isLowSurrogate

theorem splitsPair_of_append {x b : Buffer} {o : Nat}
    (h : splitsPair (x ++ b) (x.length + o) = false) : splitsPair b o = false := by
  rw [splitsPair, List.take_length_add_append, List.drop_length_add_append,
    List.getLast?_append] at h
  rw [splitsPair]
  cases hl : (b.take o).getLast? with
  | none => rfl
  | some u => rw [hl] at h; exact h

theorem splitsPair_of_append_left {x b : Buffer} {o : Nat} (ho : o ≤ x.length)
    (h : splitsPair (x ++ b) o = false) : splitsPair x o = false := by
  rw [splitsPair, List.take_append_of_le_length ho, List.drop_append_of_le_length ho] at h
  rw [splitsPair]
  cases hd : (x.drop o).head? with
  | none => exact Bool.and_false _
  | some u => rw [List.head?_append, hd] at h; exact h

/-- An offset of an encoded text that splits no pair lies between two characters. -/
theorem exists_take_encode16 {t : Text} {o : Nat} (ho : o ≤ (encode16 t).length)
    (h : splitsPair (encode16 t) o = false) :
    ∃ k, k ≤ t.length ∧ (encode16 (t.take k)).length = o := by
  induction t generalizing o with
  | nil => exact ⟨0, Nat.le_refl _, (Nat.le_zero.1 ho).symm⟩
  | cons c t ih =>
    rw [encode16_cons] at ho h
    by_cases hlt : o < (codeUnits c).length
    · -- the offset is 0, as the only other place inside a character splits its pair
      refine ⟨0, Nat.zero_le _, ?_⟩
      show 0 = o
      cases hc : isAstral c with
      | false =>
        have h1 : o < 1 := by rwa [length_codeUnits, hc] at hlt
        omega
      | true =>
        obtain ⟨hi, lo, hhi, hlo, -, hu⟩ := codeUnits_of_astral hc
        rw [hu] at hlt h
        match o, hlt with
        | 0, _ => rfl
        | 1, _ =>
          have h1 : splitsPair ([.ofNat (0xD800 + hi), .ofNat (0xDC00 + lo)] ++ encode16 t) 1 =
              (isHighSurrogate (.ofNat (0xD800 + hi)) &&
                isLowSurrogate (.ofNat (0xDC00 + lo))) := rfl
          rw [h1, isHighSurrogate_of_lt hhi, isLowSurrogate_of_lt hlo] at h
          exact absurd h (by decide)
    · obtain ⟨i, rfl⟩ : ∃ i, o = (codeUnits c).length + i := ⟨o - (codeUnits c).length, by omega⟩
      rw [List.length_append] at ho
      obtain ⟨k, hk, hlen⟩ := ih (by omega) (splitsPair_of_append h)
      refine ⟨k + 1, Nat.succ_le_succ hk, ?_⟩
      rw [List.take_succ_cons, encode16_cons, List.length_append, hlen]

end ElementProps
