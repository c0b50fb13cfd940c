import ElementProps.Edit
import ElementProps.Proofs.CodeUnits

/-!
# The buffer of a client

A client keeps a document as code units and addresses it by line and character, characters counted
in units. Lines end with `\n`, `\r\n` or a lone `\r`; after a final break comes one more, empty
line. A character past the end of its line stands for the end.

* `Buffer.offset? b l c`         the offset that a line and character denote;
* `Buffer.place? b p`            the same for a position that the protocol can carry, at an offset
                                 that splits no surrogate pair;
* `Buffer.edit? b e`             the buffer after a change, if a client can make it;
* `length_encode16_take_offset`  the server finds the same place in its text;
* `encode16_apply`               and makes the same change.
-/

namespace ElementProps

namespace Buffer

/-! ## lines and positions of a buffer -/

def isBreakUnit (u : UInt16) : Bool := u == 13 || u == 10

/-- what follows the first line break -/
def afterBreak? : Buffer → Option Buffer
  | [] => none
  | u :: b =>
    if u = 13 then some (if b.head? = some 10 then b.tail else b)
    else if u = 10 then some b
    else afterBreak? b

/-- the length of the first line, without its break -/
def bodyLength (b : Buffer) : Nat := (b.takeWhile fun u => !isBreakUnit u).length

/-- the offset of a line and character; `none` for a line that does not exist -/
def offset? : Buffer → Nat → Nat → Option Nat
  | b, 0, character => some (min character b.bodyLength)
  | b, line + 1, character =>
    (afterBreak? b).bind fun r => (offset? r line character).map (b.length - r.length + ·)

/-- the offset of a position that a client can send: both components are in the range of the
protocol, and no surrogate pair is split -/
def place? (b : Buffer) (p : Position) : Option Nat :=
  if p.line ≤ Position.max ∧ p.character ≤ Position.max then
    (b.offset? p.line p.character).filter fun o => !splitsPair b o
  else none

/-- the buffer after a change; `none` for one that no client makes -/
def edit? (b : Buffer) : Edit Position → Option Buffer
  | .full text => some (encode16 text)
  | .ranged first last text =>
    (b.place? first).bind fun a => (b.place? last).bind fun z =>
      if a ≤ z then some (b.take a ++ encode16 text ++ b.drop z) else none

/-- the buffer after a list of changes, each made in the buffer that the previous one left -/
def edits? (b : Buffer) : List (Edit Position) → Option Buffer
  | [] => some b
  | e :: es => (b.edit? e).bind fun b => edits? b es

theorem place?_eq_some_iff {b : Buffer} {p : Position} {o : Nat} :
    b.place? p = some o ↔ (p.line ≤ Position.max ∧ p.character ≤ Position.max) ∧
      b.offset? p.line p.character = some o ∧ splitsPair b o = false := by
  unfold place?
  split
  · next h => simp [h, Option.filter_eq_some_iff]
  · next h => simp [h]

/-! ## breaks of an encoded text -/

theorem not_isBreakUnit_of_mem {c : Char} (hr : c ≠ '\r') (hn : c ≠ '\n') :
    ∀ u ∈ codeUnits c, isBreakUnit u = false := by
  have key : ∀ n, n < 0x10000 → n ≠ 13 → n ≠ 10 → isBreakUnit (.ofNat n) = false := by
    intro n hlt h13 h10
    simp only [isBreakUnit, Bool.or_eq_false_iff, beq_eq_false_iff_ne, ne_eq, ← UInt16.toNat_inj,
      toNat_ofNat16 hlt]
    exact ⟨h13, h10⟩
  intro u hu
  cases hc : isAstral c with
  | true =>
    obtain ⟨hi, lo, hhi, hlo, -, he⟩ := codeUnits_of_astral hc
    rw [he, List.mem_cons, List.mem_singleton] at hu
    rcases hu with rfl | rfl
    · exact key _ (by omega) (by omega) (by omega)
    · exact key _ (by omega) (by omega) (by omega)
  | false =>
    obtain ⟨hlt, he⟩ := codeUnits_of_not_astral hc
    rw [he, List.mem_singleton] at hu
    subst hu
    refine key _ hlt (fun h => hr ?_) (fun h => hn ?_)
    · exact Char.toNat_inj.1 h
    · exact Char.toNat_inj.1 h

theorem encode16_cr (t : Text) : encode16 ('\r' :: t) = 13 :: encode16 t := rfl
theorem encode16_lf (t : Text) : encode16 ('\n' :: t) = 10 :: encode16 t := rfl

theorem head?_encode16_ne_lf {t : Text} (h : ∀ r, t ≠ '\n' :: r) :
    (encode16 t).head? ≠ some 10 := by
  intro he
  cases t with
  | nil => exact absurd he (by decide)
  | cons c t =>
    by_cases hr : c = '\r'
    · subst hr
      exact absurd (Option.some.inj he) (by decide)
    · have hn : c ≠ '\n' := fun hc => h t (hc ▸ rfl)
      rw [encode16_cons, List.head?_append] at he
      cases hu : codeUnits c with
      | nil =>
        have hl := length_codeUnits c
        rw [hu, List.length_nil] at hl
        split at hl <;> omega
      | cons u us =>
        rw [hu] at he
        obtain rfl := Option.some.inj he
        have hmem : 10 ∈ codeUnits c := by rw [hu]; exact List.mem_cons_self
        exact absurd (not_isBreakUnit_of_mem hr hn 10 hmem) (by decide)

theorem afterBreak?_append {x : Buffer} (hx : ∀ u ∈ x, isBreakUnit u = false) (b : Buffer) :
    afterBreak? (x ++ b) = afterBreak? b := by
  induction x with
  | nil => rfl
  | cons u x ih =>
    obtain ⟨h13, h10⟩ : u ≠ 13 ∧ u ≠ 10 := by
      simpa [isBreakUnit] using hx u List.mem_cons_self
    rw [List.cons_append, afterBreak?, if_neg h13, if_neg h10]
    exact ih (fun v hv => hx v (List.mem_cons_of_mem u hv))

theorem bodyLength_append {x : Buffer} (hx : ∀ u ∈ x, isBreakUnit u = false) (b : Buffer) :
    bodyLength (x ++ b) = x.length + bodyLength b := by
  rw [bodyLength, bodyLength, List.takeWhile_append_of_pos (fun u hu => by rw [hx u hu]; rfl),
    List.length_append]

end Buffer

open Buffer

/-! ## lines of a text and of its buffer -/

/-- The first line of a text and of its buffer end at the same place. -/
theorem linesOf_eq_cons (t : Text) :
    t = [] ∨ ∃ l rest, linesOf t = l :: linesOf rest ∧ t = l.text ++ rest ∧
      bodyLength (encode16 t) = (encode16 l.body).length ∧
      afterBreak? (encode16 t) = if l.ending.isSome then some (encode16 rest) else none := by
  fun_induction linesOf t with
  | case1 => exact Or.inl rfl
  | case2 t _ =>
    refine Or.inr ⟨⟨[], some .crlf⟩, t, rfl, rfl, rfl, ?_⟩
    rw [encode16_cr, encode16_lf]
    rfl
  | case3 t hn _ =>
    refine Or.inr ⟨⟨[], some .cr⟩, t, rfl, rfl, rfl, ?_⟩
    rw [encode16_cr, afterBreak?, if_pos rfl, if_neg (head?_encode16_ne_lf hn)]
    rfl
  | case4 t _ => exact Or.inr ⟨⟨[], some .lf⟩, t, rfl, rfl, rfl, rfl⟩
  | case5 c t _ hr hn ih =>
    have hc : ∀ u ∈ codeUnits c, isBreakUnit u = false := not_isBreakUnit_of_mem hr hn
    rw [encode16_cons, bodyLength_append hc, afterBreak?_append hc]
    rcases ih with rfl | ⟨l, rest, hl, ht, hbody, hbreak⟩
    · refine Or.inr ⟨⟨[c], none⟩, [], rfl, rfl, ?_, rfl⟩
      rw [encode16_cons, List.length_append]
      rfl
    · refine Or.inr ⟨⟨c :: l.body, l.ending⟩, rest, ?_, ?_, ?_, hbreak⟩
      · rw [hl]
        rfl
      · rw [Line.text_cons, List.cons_append, ht]
      · rw [hbody, encode16_cons, List.length_append]

/-! ## places -/

theorem reach_units_take {x : Text} {k : Nat} (hk : k ≤ x.length) :
    Encoding.utf16.reach (Encoding.utf16.units (x.take k)) x = k := by
  induction x generalizing k with
  | nil => rw [Nat.le_zero.1 hk]; rfl
  | cons c x ih =>
    cases k with
    | zero => exact Encoding.reach_zero _ _
    | succ k =>
      have hstep : (if isAstral c then Encoding.utf16.stride else 1) =
          if isAstral c then Encoding.utf16.length else 1 := rfl
      have hpos : 0 < if isAstral c then Encoding.utf16.length else 1 := by
        split <;> decide
      rw [List.take_succ_cons, Encoding.units_cons, Encoding.reach, if_neg (by omega), hstep,
        Nat.add_sub_cancel_left, ih (Nat.le_of_succ_le_succ hk), Nat.add_comm]

theorem length_encode16_take_column {l : Line} {character : Nat}
    (h : splitsPair (encode16 l.body) (min character (encode16 l.body).length) = false) :
    (encode16 (l.body.take (l.column .utf16 character))).length =
      min character (encode16 l.body).length := by
  unfold Line.column
  rw [← length_encode16]
  split
  · next hle =>
    rw [Nat.min_eq_left hle] at h ⊢
    obtain ⟨k, hk, hlen⟩ := exists_take_encode16 hle h
    have hreach : Encoding.utf16.reach character l.body = k := by
      rw [← hlen, length_encode16]
      exact reach_units_take hk
    rw [hreach]
    exact hlen
  · next hgt =>
    rw [List.take_length]
    omega

theorem offset_zero_eq {t rest : Text} {l : Line} (h : linesOf t = l :: linesOf rest) (e : Encoding)
    (character : Nat) : Position.offset e t ⟨0, character⟩ = l.column e character := by
  unfold Position.offset
  simp only [h, List.getElem?_cons_zero, lineStart_zero, Nat.zero_add]

theorem offset_succ_eq {t rest : Text} {l : Line} (h : linesOf t = l :: linesOf rest)
    (ht : t = l.text ++ rest) (e : Encoding) (line character : Nat) :
    Position.offset e t ⟨line + 1, character⟩ =
      l.text.length + Position.offset e rest ⟨line, character⟩ := by
  unfold Position.offset
  simp only [h, List.getElem?_cons_succ, lineStart_succ_cons]
  split
  · rw [ht, List.length_append]
  · rw [Nat.add_assoc]

theorem take_body (l : Line) (rest : Text) {k : Nat} (hk : k ≤ l.body.length) :
    (l.text ++ rest).take k = l.body.take k := by
  rw [List.take_append_of_le_length (Nat.le_trans hk l.length_body_le)]
  obtain ⟨body, _ | b⟩ := l
  · rfl
  · exact List.take_append_of_le_length hk

/-- **A position denotes the same place in the text and in the buffer.** The induction is on the
line; each step takes the first line off the text and off the buffer. -/
theorem length_encode16_take_offset {t : Text} {line character o : Nat}
    (h : offset? (encode16 t) line character = some o) (hs : splitsPair (encode16 t) o = false) :
    (encode16 (t.take (Position.offset .utf16 t ⟨line, character⟩))).length = o := by
  induction line generalizing t o with
  | zero =>
    obtain rfl := Option.some.inj h
    rcases linesOf_eq_cons t with rfl | ⟨l, rest, hl, ht, hbody, -⟩
    · show 0 = min character 0
      omega
    · have htake : t.take l.body.length = l.body := by
        rw [ht, take_body l rest (Nat.le_refl _), List.take_length]
      have happ := encode16_take_append_drop t l.body.length
      rw [htake] at happ
      rw [hbody] at hs ⊢
      rw [happ] at hs
      rw [offset_zero_eq hl, ht, take_body l rest (l.column_le _ _)]
      exact length_encode16_take_column (splitsPair_of_append_left (Nat.min_le_right _ _) hs)
  | succ line ih =>
    obtain ⟨r, hr, h⟩ := Option.bind_eq_some_iff.1 h
    obtain ⟨o', ho', rfl⟩ := Option.map_eq_some_iff.1 h
    rcases linesOf_eq_cons t with rfl | ⟨l, rest, hl, ht, -, hbreak⟩
    · exact absurd hr (by simp [encode16, afterBreak?])
    · obtain rfl : encode16 rest = r := by
        rw [hr] at hbreak
        split at hbreak
        · exact (Option.some.inj hbreak).symm
        · exact absurd hbreak (by simp)
      have hlen : (encode16 t).length - (encode16 rest).length = (encode16 l.text).length := by
        rw [ht, encode16_append, List.length_append, Nat.add_sub_cancel]
      rw [hlen] at hs ⊢
      rw [ht, encode16_append] at hs
      rw [offset_succ_eq hl ht, ht, List.take_length_add_append, encode16_append,
        List.length_append, ih ho' (splitsPair_of_append hs)]

/-! ## changes -/

/-- **A change leaves the text and the buffer equal.** -/
theorem encode16_apply {t : Text} {b : Buffer} {e : Edit Position}
    (h : edit? (encode16 t) e = some b) : encode16 (e.apply .utf16 t) = b := by
  cases e with
  | full text => exact Option.some.inj h
  | ranged first last text =>
    obtain ⟨a, ha, h⟩ := Option.bind_eq_some_iff.1 h
    obtain ⟨z, hz, h⟩ := Option.bind_eq_some_iff.1 h
    obtain ⟨-, ha, hsa⟩ := place?_eq_some_iff.1 ha
    obtain ⟨-, hz, hsz⟩ := place?_eq_some_iff.1 hz
    have hA := length_encode16_take_offset ha hsa
    have hZ := length_encode16_take_offset hz hsz
    split at h
    · next haz =>
      -- a range that is empty in units is empty in characters, so the greater end is the right one
      have hmax : (encode16
          (t.take (max (first.offset .utf16 t) (last.offset .utf16 t)))).length = z := by
        rcases Nat.le_total (first.offset .utf16 t) (last.offset .utf16 t) with hle | hle
        · rw [Nat.max_eq_right hle]
          exact hZ
        · have hge := length_encode16_take_mono (t := t) hle
          rw [Nat.max_eq_left hle, hA]
          rw [hA, hZ] at hge
          omega
      rw [← Option.some.inj h, take_encode16 hA, drop_encode16 hmax, ← encode16_append,
        ← encode16_append]
      rfl
    · exact absurd h (by simp)

theorem encode16_applyEdits {t : Text} {b : Buffer} {es : List (Edit Position)}
    (h : edits? (encode16 t) es = some b) : encode16 (applyEdits .utf16 t es) = b := by
  induction es generalizing t with
  | nil => exact Option.some.inj h
  | cons e es ih =>
    obtain ⟨b', hb', h⟩ := Option.bind_eq_some_iff.1 h
    obtain rfl := encode16_apply hb'
    rw [applyEdits_cons]
    exact ih h

end ElementProps
