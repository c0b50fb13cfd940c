import Mathlib.Algebra.Group.Nat.Defs
import Mathlib.Tactic.SplitIfs
import ElementProps.Text.Utf8

/-!
# UTF-8 is read as it is written

The bytes of a character are a first byte, which tells how many follow, and that many bytes with six
bits of its number each. The reader takes exactly such bytes: it refuses a number that is written
too long, a surrogate, and whatever lies above U+10FFFF, by the bounds on the second byte alone.

* `tailBytes k v`       the bytes of the last `k` groups of six bits of a number;
* `complete_eq_ok_iff`  what the bytes after the first can be, and the number they complete;
* `piece_eq_ok_iff`     a character is read exactly where its bytes stand;
* `decode_eq_ok_iff`    a text is read exactly from the bytes of its characters.
-/

namespace ElementProps.Text.Utf8

/-! ## the bytes after the first -/

def tailBytes : Nat → Nat → List UInt8
  | 0, _ => []
  | k + 1, v => UInt8.ofNat (v / 64 ^ k % 64 + 0x80) :: tailBytes k v

theorem length_tailBytes (k v : Nat) : (tailBytes k v).length = k := by
  induction k with
  | zero => rfl
  | succ k ih => rw [tailBytes, List.length_cons, ih]

theorem toNat_tailByte (n : Nat) : (UInt8.ofNat (n % 64 + 0x80)).toNat = n % 64 + 0x80 := by
  rw [UInt8.toNat_ofNat']
  omega

/-- the second byte of a number is within bounds; a number of one byte has none -/
def SecondWithin (low high k v : Nat) : Prop :=
  ∀ j, k = j + 1 → low ≤ v / 64 ^ j % 64 + 0x80 ∧ v / 64 ^ j % 64 + 0x80 ≤ high

theorem secondWithin_tail (k v : Nat) : SecondWithin 0x80 0xBF k v := by
  intro j _
  omega

theorem div_pow_succ (v k : Nat) : v / 64 ^ (k + 1) = v / 64 ^ k / 64 := by
  rw [Nat.pow_succ, Nat.div_div_eq_div_mul]

section
variable {k low high bits v n : Nat}

theorem complete_nil_ne_ok (bits : Nat) : complete (k + 1) low high bits [] ≠ (.ok v, n) := by
  intro h
  exact absurd (Prod.mk.inj h).1 (by simp)

theorem complete_cons_eq_ok_iff {b : UInt8} {bs : List UInt8} :
    complete (k + 1) low high bits (b :: bs) = (.ok v, n + 1) ↔
      (low ≤ b.toNat ∧ b.toNat ≤ high) ∧
        complete k 0x80 0xBF (64 * bits + (b.toNat - 0x80)) bs = (.ok v, n) := by
  rw [complete, if_neg (Nat.succ_ne_zero k)]
  split
  · next hb =>
    rw [Prod.mk.injEq, Nat.succ.injEq, ← Prod.mk.injEq]
    exact (and_iff_right hb).symm
  · next hb =>
    simp [hb]

theorem complete_cons_eq_ok_zero {b : UInt8} {bs : List UInt8} :
    complete (k + 1) low high bits (b :: bs) ≠ (.ok v, 0) := by
  intro h
  rw [complete, if_neg (Nat.succ_ne_zero k)] at h
  split at h
  · exact absurd (Prod.mk.inj h).2 (Nat.succ_ne_zero _)
  · exact absurd (Prod.mk.inj h).1 (by simp)

/-- Bytes complete a number exactly when they begin with its groups of six bits, the leading bits are
those already known, and the second byte is within its bounds. -/
theorem complete_eq_ok_iff {bs : List UInt8} (hlow : 0x80 ≤ low) (hhigh : high ≤ 0xBF) :
    complete k low high bits bs = (.ok v, n) ↔
      n = k ∧ v / 64 ^ k = bits ∧ SecondWithin low high k v ∧ ∃ r, bs = tailBytes k v ++ r := by
  induction k generalizing low high bits n bs with
  | zero =>
    have hval : v / 64 ^ 0 = v := Nat.div_one v
    have hdone : complete 0 low high bits bs = (.ok bits, 0) := by
      cases bs <;> rfl
    rw [hdone, hval]
    constructor
    · intro h
      obtain ⟨hv, hn⟩ := Prod.mk.inj h
      exact ⟨hn.symm, (Except.ok.inj hv).symm, fun j hj => absurd hj (by omega), bs, rfl⟩
    · rintro ⟨rfl, rfl, -, -⟩
      rfl
  | succ k ih =>
    have ih := fun bits n bs => @ih 0x80 0xBF bits n bs (Nat.le_refl _) (Nat.le_refl _)
    constructor
    · intro h
      cases bs with
      | nil => exact absurd h (complete_nil_ne_ok bits)
      | cons b bs =>
        cases n with
        | zero => exact absurd h complete_cons_eq_ok_zero
        | succ n =>
          obtain ⟨hb, h⟩ := complete_cons_eq_ok_iff.1 h
          obtain ⟨rfl, hdiv, -, r, rfl⟩ := (ih _ _ _).1 h
          have hgroup : v / 64 ^ n % 64 + 0x80 = b.toNat := by omega
          refine ⟨rfl, by rw [div_pow_succ]; omega, ?_, r, ?_⟩
          · intro j hj
            obtain rfl : n = j := Nat.succ.inj hj
            rwa [hgroup]
          · rw [tailBytes, hgroup, UInt8.ofNat_toNat]
            rfl
    · rintro ⟨rfl, hdiv, hsecond, r, rfl⟩
      have hbits : v / 64 ^ k = 64 * bits + (v / 64 ^ k % 64 + 0x80 - 0x80) := by
        rw [div_pow_succ] at hdiv
        omega
      rw [tailBytes, List.cons_append, complete_cons_eq_ok_iff, toNat_tailByte]
      exact ⟨hsecond k rfl, (ih _ _ _).2 ⟨rfl, hbits, secondWithin_tail k v, r, rfl⟩⟩

end

/-! ## the first byte -/

/-- how many bytes follow the first byte of a number -/
def tailCount (v : Nat) : Nat :=
  if v < 0x80 then 0 else if v < 0x800 then 1 else if v < 0x10000 then 2 else 3

/-- the bits by which a first byte tells how many bytes follow -/
def leadMark : Nat → Nat
  | 0 => 0
  | 1 => 0xC0
  | 2 => 0xE0
  | _ => 0xF0

theorem lead?_three {b : Nat} (h1 : 0xE0 ≤ b) (h2 : b < 0xF0) : lead? b =
    some ⟨2, if b = 0xE0 then 0xA0 else 0x80, if b = 0xED then 0x9F else 0xBF, b - 0xE0⟩ := by
  rw [lead?, if_neg (by omega), if_neg (by omega), if_neg (by omega)]
  by_cases hfirst : b = 0xE0
  · subst hfirst
    rfl
  · by_cases hlast : b = 0xED
    · subst hlast
      rfl
    · rw [if_neg hfirst, if_neg hfirst, if_neg hlast, if_neg hlast, if_pos h2]

theorem lead?_four {b : Nat} (h1 : 0xF0 ≤ b) (h2 : b < 0xF5) : lead? b =
    some ⟨3, if b = 0xF0 then 0x90 else 0x80, if b = 0xF4 then 0x8F else 0xBF, b - 0xF0⟩ := by
  rw [lead?, if_neg (by omega), if_neg (by omega), if_neg (by omega), if_neg (by omega),
    if_neg (by omega), if_neg (by omega)]
  by_cases hfirst : b = 0xF0
  · subst hfirst
    rfl
  · by_cases hlast : b = 0xF4
    · subst hlast
      rfl
    · rw [if_neg hfirst, if_neg hfirst, if_pos (by omega), if_neg hlast]

/-- the leads of first bytes, by the number of bytes that follow -/
theorem lead?_eq_some_iff {b : Nat} {l : Lead} : lead? b = some l ↔
    (b < 0x80 ∧ l = ⟨0, 0x80, 0xBF, b⟩) ∨
    (0xC2 ≤ b ∧ b < 0xE0 ∧ l = ⟨1, 0x80, 0xBF, b - 0xC0⟩) ∨
    (0xE0 ≤ b ∧ b < 0xF0 ∧
      l = ⟨2, if b = 0xE0 then 0xA0 else 0x80, if b = 0xED then 0x9F else 0xBF, b - 0xE0⟩) ∨
    (0xF0 ≤ b ∧ b < 0xF5 ∧
      l = ⟨3, if b = 0xF0 then 0x90 else 0x80, if b = 0xF4 then 0x8F else 0xBF, b - 0xF0⟩) := by
  have hone (h : b < 0x80) : lead? b = some ⟨0, 0x80, 0xBF, b⟩ := if_pos h
  have htwo (h1 : 0xC2 ≤ b) (h2 : b < 0xE0) : lead? b = some ⟨1, 0x80, 0xBF, b - 0xC0⟩ := by
    rw [lead?, if_neg (by omega), if_neg (by omega), if_pos h2]
  have hnone (h : 0x80 ≤ b ∧ b < 0xC2 ∨ 0xF5 ≤ b) : lead? b = none := by
    unfold lead?
    rcases h with h | h
    · rw [if_neg (by omega), if_pos h.2]
    · rw [if_neg (by omega), if_neg (by omega), if_neg (by omega), if_neg (by omega),
        if_neg (by omega), if_neg (by omega), if_neg (by omega), if_neg (by omega), if_neg (by omega)]
  constructor
  · intro h
    have hranges : b < 0x80 ∨ (0xC2 ≤ b ∧ b < 0xE0) ∨ (0xE0 ≤ b ∧ b < 0xF0) ∨
        (0xF0 ≤ b ∧ b < 0xF5) ∨ (0x80 ≤ b ∧ b < 0xC2 ∨ 0xF5 ≤ b) := by omega
    rcases hranges with h1 | ⟨h1, h2⟩ | ⟨h1, h2⟩ | ⟨h1, h2⟩ | h1
    · exact Or.inl ⟨h1, Option.some.inj (h.symm.trans (hone h1))⟩
    · exact Or.inr (Or.inl ⟨h1, h2, Option.some.inj (h.symm.trans (htwo h1 h2))⟩)
    · exact Or.inr (Or.inr (Or.inl ⟨h1, h2, Option.some.inj (h.symm.trans (lead?_three h1 h2))⟩))
    · exact Or.inr (Or.inr (Or.inr ⟨h1, h2, Option.some.inj (h.symm.trans (lead?_four h1 h2))⟩))
    · cases h.symm.trans (hnone h1)
  · rintro (⟨h, rfl⟩ | ⟨h1, h2, rfl⟩ | ⟨h1, h2, rfl⟩ | ⟨h1, h2, rfl⟩)
    · exact hone h
    · exact htwo h1 h2
    · exact lead?_three h1 h2
    · exact lead?_four h1 h2

theorem lead?_bounds {b : Nat} {l : Lead} (h : lead? b = some l) :
    0x80 ≤ l.low ∧ l.high ≤ 0xBF := by
  obtain ⟨-, rfl⟩ | ⟨-, -, rfl⟩ | ⟨-, -, rfl⟩ | ⟨-, -, rfl⟩ := lead?_eq_some_iff.1 h
  · exact ⟨Nat.le_refl _, Nat.le_refl _⟩
  · exact ⟨Nat.le_refl _, Nat.le_refl _⟩
  all_goals
    dsimp only
    split_ifs <;> omega

theorem tailCount_cases (v : Nat) :
    (v < 0x80 ∧ tailCount v = 0) ∨ (0x80 ≤ v ∧ v < 0x800 ∧ tailCount v = 1) ∨
    (0x800 ≤ v ∧ v < 0x10000 ∧ tailCount v = 2) ∨ (0x10000 ≤ v ∧ tailCount v = 3) := by
  unfold tailCount
  split_ifs <;> omega

/-- A first byte and its bounds leave exactly the numbers of characters, each with the bytes in which
it is written. -/
theorem exists_lead_iff {b k v : Nat} :
    (∃ l, lead? b = some l ∧ l.more = k ∧ v / 64 ^ k = l.bits ∧ SecondWithin l.low l.high k v) ↔
      v.isValidChar ∧ k = tailCount v ∧ b = leadMark k + v / 64 ^ k := by
  have hk := tailCount_cases v
  constructor
  · rintro ⟨l, hl, rfl, hbits, hsecond⟩
    unfold Nat.isValidChar
    obtain ⟨hb, rfl⟩ | ⟨h1, h2, rfl⟩ | ⟨h1, h2, rfl⟩ | ⟨h1, h2, rfl⟩ := lead?_eq_some_iff.1 hl
    · simp only [Nat.pow_zero, Nat.div_one] at hbits ⊢
      simp only [leadMark]
      omega
    · simp only [Nat.reducePow] at hbits ⊢
      simp only [leadMark]
      omega
    · have hbyte := hsecond 1 rfl
      simp only [Nat.reducePow] at hbits hbyte ⊢
      simp only [leadMark]
      split_ifs at hbyte <;> omega
    · have hbyte := hsecond 2 rfl
      simp only [Nat.reducePow] at hbits hbyte ⊢
      simp only [leadMark]
      split_ifs at hbyte <;> omega
  · rintro ⟨hv, rfl, rfl⟩
    unfold Nat.isValidChar at hv
    simp only [lead?_eq_some_iff]
    obtain ⟨hlt, hk⟩ | ⟨hle, hlt, hk⟩ | ⟨hle, hlt, hk⟩ | ⟨hle, hk⟩ := hk
    all_goals rw [hk]; simp only [leadMark, Nat.reducePow, Nat.div_one, Nat.zero_add]
    · exact ⟨_, Or.inl ⟨hlt, rfl⟩, rfl, rfl, secondWithin_tail 0 v⟩
    · refine ⟨_, Or.inr (Or.inl ⟨by omega, by omega, rfl⟩), rfl, ?_, secondWithin_tail 1 v⟩
      exact (Nat.add_sub_cancel_left ..).symm
    · refine ⟨_, Or.inr (Or.inr (Or.inl ⟨by omega, by omega, rfl⟩)), rfl, ?_, ?_⟩
      · exact (Nat.add_sub_cancel_left ..).symm
      · intro j hj
        obtain rfl : 1 = j := Nat.succ.inj hj
        simp only [Nat.reducePow]
        split_ifs <;> omega
    · refine ⟨_, Or.inr (Or.inr (Or.inr ⟨by omega, by omega, rfl⟩)), rfl, ?_, ?_⟩
      · exact (Nat.add_sub_cancel_left ..).symm
      · intro j hj
        obtain rfl : 2 = j := Nat.succ.inj hj
        simp only [Nat.reducePow]
        split_ifs <;> omega

theorem utf8EncodeChar_eq (c : Char) : String.utf8EncodeChar c =
    UInt8.ofNat (leadMark (tailCount c.toNat) + c.toNat / 64 ^ tailCount c.toNat) ::
      tailBytes (tailCount c.toNat) c.toNat := by
  have hc : c.toNat < 0x110000 := by
    have hvalid : c.toNat.isValidChar := c.valid
    unfold Nat.isValidChar at hvalid
    omega
  have hval : c.val.toNat = c.toNat := rfl
  unfold String.utf8EncodeChar
  simp only [hval]
  obtain ⟨hlt, hk⟩ | ⟨hle, hlt, hk⟩ | ⟨hle, hlt, hk⟩ | ⟨hle, hk⟩ := tailCount_cases c.toNat
  · rw [hk, if_pos (by omega)]
    simp only [leadMark, tailBytes, Nat.pow_zero, Nat.div_one, Nat.zero_add]
  · rw [hk, if_neg (by omega), if_pos (by omega), Nat.mod_eq_of_lt (by omega)]
    simp only [leadMark, tailBytes, Nat.reducePow, Nat.div_one, Nat.add_comm]
  · rw [hk, if_neg (by omega), if_neg (by omega), if_pos (by omega),
      Nat.mod_eq_of_lt (show c.toNat / 4096 < 0x10 by omega)]
    simp only [leadMark, tailBytes, Nat.reducePow, Nat.div_one, Nat.add_comm]
  · rw [hk, if_neg (by omega), if_neg (by omega), if_neg (by omega),
      Nat.mod_eq_of_lt (show c.toNat / 262144 < 0x08 by omega)]
    simp only [leadMark, tailBytes, Nat.reducePow, Nat.div_one, Nat.add_comm]

/-! ## characters -/

theorem toNat_ofNat_of_isValidChar {v : Nat} (h : v.isValidChar) : (Char.ofNat v).toNat = v := by
  rw [Char.ofNat, dif_pos h]
  rfl

theorem toNat_firstByte (c : Char) :
    (UInt8.ofNat (leadMark (tailCount c.toNat) + c.toNat / 64 ^ tailCount c.toNat)).toNat =
      leadMark (tailCount c.toNat) + c.toNat / 64 ^ tailCount c.toNat := by
  have hvalid : c.toNat.isValidChar := c.valid
  obtain ⟨l, hl, -⟩ := exists_lead_iff.2 ⟨hvalid, rfl, rfl⟩
  -- a first byte that has a lead is a byte
  have hlt := lead?_eq_some_iff.1 hl
  apply UInt8.toNat_ofNat_of_lt'
  show _ < 256
  omega

theorem piece_eq_ok_iff_complete {offset : Nat} {b : UInt8} {bs : List UInt8} {c : Char} {n : Nat} :
    piece offset b bs = (.ok c, n) ↔
      ∃ l v, lead? b.toNat = some l ∧ complete l.more l.low l.high l.bits bs = (.ok v, n) ∧
        Char.ofNat v = c := by
  unfold piece
  cases lead? b.toNat with
  | none => simp
  | some l =>
    simp only [Option.some.injEq, exists_and_left, exists_eq_left']
    generalize complete l.more l.low l.high l.bits bs = result
    obtain ⟨cause | v, m⟩ := result
    · simp
    · simp only [Prod.mk.injEq, Except.ok.injEq]
      constructor
      · rintro ⟨hc, hn⟩
        exact ⟨v, ⟨rfl, hn⟩, hc⟩
      · rintro ⟨w, ⟨rfl, hn⟩, hc⟩
        exact ⟨hc, hn⟩

/-- A character is read exactly where its bytes stand. -/
theorem piece_eq_ok_iff {offset : Nat} {b : UInt8} {bs : List UInt8} {c : Char} {n : Nat} :
    piece offset b bs = (.ok c, n) ↔
      n + 1 = (String.utf8EncodeChar c).length ∧ ∃ r, b :: bs = String.utf8EncodeChar c ++ r := by
  rw [piece_eq_ok_iff_complete, utf8EncodeChar_eq, List.length_cons, length_tailBytes]
  constructor
  · rintro ⟨l, v, hl, hcomplete, rfl⟩
    obtain ⟨hlow, hhigh⟩ := lead?_bounds hl
    obtain ⟨rfl, hbits, hsecond, r, rfl⟩ := (complete_eq_ok_iff hlow hhigh).1 hcomplete
    obtain ⟨hv, hk, hb⟩ := exists_lead_iff.1 ⟨l, hl, rfl, hbits, hsecond⟩
    rw [toNat_ofNat_of_isValidChar hv, ← hk, ← hb, UInt8.ofNat_toNat]
    exact ⟨rfl, r, rfl⟩
  · rintro ⟨hn, r, hr⟩
    obtain ⟨rfl, rfl⟩ := List.cons.inj hr
    have hvalid : c.toNat.isValidChar := c.valid
    obtain ⟨l, hl, hk, hbits, hsecond⟩ := exists_lead_iff.2 ⟨hvalid, rfl, rfl⟩
    obtain ⟨hlow, hhigh⟩ := lead?_bounds hl
    refine ⟨l, c.toNat, ?_, ?_, Char.ofNat_toNat c⟩
    · rw [toNat_firstByte]
      exact hl
    · rw [hk]
      exact (complete_eq_ok_iff hlow hhigh).2 ⟨Nat.succ.inj hn, hbits, hsecond, r, rfl⟩

/-! ## texts -/

/-- the bytes of a text -/
def encode (t : Text) : List UInt8 := t.flatMap String.utf8EncodeChar

theorem encode_cons (c : Char) (t : Text) : encode (c :: t) = String.utf8EncodeChar c ++ encode t :=
  rfl

theorem piecesFrom_skip (offset : Nat) (xs bs : List UInt8) :
    piecesFrom offset xs.length (xs ++ bs) = piecesFrom (offset + xs.length) 0 bs := by
  induction xs generalizing offset with
  | nil => rfl
  | cons x xs ih =>
    show piecesFrom (offset + 1) xs.length (xs ++ bs) = _
    rw [ih, List.length_cons, Nat.add_right_comm, Nat.add_assoc]

/-- the character at the front is read, and reading goes on behind it -/
theorem piecesFrom_encodeChar (offset : Nat) (c : Char) (bs : List UInt8) :
    piecesFrom offset 0 (String.utf8EncodeChar c ++ bs) =
      .ok c :: piecesFrom (offset + (String.utf8EncodeChar c).length) 0 bs := by
  obtain ⟨b, xs, hbytes⟩ := List.exists_cons_of_ne_nil (String.utf8EncodeChar_ne_nil (c := c))
  have hpiece : piece offset b (xs ++ bs) = (.ok c, xs.length) := by
    rw [piece_eq_ok_iff, hbytes]
    exact ⟨rfl, bs, rfl⟩
  rw [hbytes, List.cons_append, piecesFrom, hpiece]
  show Except.ok c :: piecesFrom (offset + 1) xs.length (xs ++ bs) = _
  rw [piecesFrom_skip, List.length_cons, Nat.add_assoc, Nat.add_comm 1]

theorem piecesFrom_encode (offset : Nat) (t : Text) :
    piecesFrom offset 0 (encode t) = t.map .ok := by
  induction t generalizing offset with
  | nil => rfl
  | cons c t ih => rw [encode_cons, piecesFrom_encodeChar, ih, List.map_cons]

theorem pieces_encode (t : Text) : pieces (encode t) = t.map .ok := piecesFrom_encode 0 t

/-- Pieces that are all characters are the characters of the bytes. -/
theorem eq_encode_of_piecesFrom {offset : Nat} {bs : List UInt8} {t : Text}
    (h : piecesFrom offset 0 bs = t.map .ok) : bs = encode t := by
  induction t generalizing offset bs with
  | nil =>
    cases bs with
    | nil => rfl
    | cons b bs => exact absurd h (by simp [piecesFrom])
  | cons c t ih =>
    cases bs with
    | nil => exact absurd h (by simp [piecesFrom])
    | cons b bs =>
      rw [piecesFrom] at h
      obtain ⟨hfirst, hrest⟩ := List.cons.inj h
      obtain ⟨hlen, r, hr⟩ := piece_eq_ok_iff.1
        (Prod.ext hfirst (rfl : (piece offset b bs).2 = _))
      rw [hr, encode_cons]
      congr 1
      have hskip := piecesFrom_encodeChar offset c r
      rw [← hr, piecesFrom] at hskip
      exact ih ((List.cons.inj hskip).2.symm.trans hrest)

theorem collect_eq_ok_iff {ps : List (Except Defect Char)} {t : Text} :
    collect ps = .ok t ↔ ps = t.map .ok := by
  induction ps generalizing t with
  | nil =>
    cases t <;> simp [collect]
  | cons p ps ih =>
    cases p with
    | error d => cases t <;> simp [collect]
    | ok c =>
      cases t with
      | nil =>
        cases hps : collect ps <;> simp [collect, hps, Except.map]
      | cons c' t =>
        rw [List.map_cons, List.cons.injEq, ← ih, collect]
        cases hps : collect ps <;> simp [Except.map]

/-- **A text is read exactly from the bytes of its characters.** -/
theorem decode_eq_ok_iff {bs : List UInt8} {t : Text} : decode bs = .ok t ↔ bs = encode t := by
  rw [decode, collect_eq_ok_iff]
  constructor
  · exact eq_encode_of_piecesFrom
  · rintro rfl
    exact pieces_encode t

theorem repair_encode (t : Text) : repair (encode t) = t := by
  rw [repair, pieces_encode, List.map_map]
  exact List.map_id t

end ElementProps.Text.Utf8
