import Mathlib.Data.List.TakeWhile
import ElementProps.Proofs.CompletionAnswers
import ElementProps.Proofs.Utf8Bytes

/-!
# File URIs

A path is written as a URI by escaping: a letter, a digit and a few marks stand for themselves, and of
every other character each byte is written as `%` and two digits. Splitting such a URI finds nothing
to split in its path, and decoding gives the path back, whatever characters it holds.

* `Encodes p u`            `u` is a way to write the path `p`;
* `rawPath_file`           the path of the URI is what was written, with its escapes;
* `Encodes.itemsOf_eq`     its escapes are the bytes of the path;
* `file_uris_decoded`      the path of a file URI is the path that it encodes, and its end decides
                           whether completions are offered.
-/

namespace ElementProps.Uri

/-! ## paths as URIs -/

/-- a character that stands for itself -/
def isUnreserved (c : Char) : Bool := c.isAlphanum || ['-', '.', '_', '~', '/'].contains c

/-- a hexadecimal digit of either case -/
def IsHexDigit (n : Nat) (d : Char) : Prop := d = n.digitChar ∨ d = n.digitChar.toUpper

/-- the escapes of bytes -/
inductive Escapes : List UInt8 → Text → Prop where
  | nil : Escapes [] []
  | cons {b : UInt8} {bs : List UInt8} {high low : Char} {e : Text} :
    IsHexDigit (b.toNat / 16) high → IsHexDigit (b.toNat % 16) low → Escapes bs e →
      Escapes (b :: bs) ('%' :: high :: low :: e)

/-- the ways to write a path; the two digits of an escape may be of either case -/
inductive Encodes : Text → Text → Prop where
  | nil : Encodes [] []
  | plain {c : Char} {p u : Text} : isUnreserved c = true → Encodes p u → Encodes (c :: p) (c :: u)
  | escaped {c : Char} {p e u : Text} : isUnreserved c = false →
      Escapes (String.utf8EncodeChar c) e → Encodes p u → Encodes (c :: p) (e ++ u)

/-! ## the characters of a written path -/

theorem isHexDigit_table : ∀ n < 16, (isUnreserved n.digitChar = true ∧
    isUnreserved n.digitChar.toUpper = true) ∧ Text.hexValue? n.digitChar = some n ∧
      Text.hexValue? n.digitChar.toUpper = some n := by
  decide

section
variable {n : Nat} {d : Char} (hn : n < 16) (h : IsHexDigit n d)
include hn h

theorem IsHexDigit.isUnreserved_eq : isUnreserved d = true := by
  rcases h with rfl | rfl
  · exact (isHexDigit_table n hn).1.1
  · exact (isHexDigit_table n hn).1.2

theorem IsHexDigit.hexValue?_eq : Text.hexValue? d = some n := by
  rcases h with rfl | rfl
  · exact (isHexDigit_table n hn).2.1
  · exact (isHexDigit_table n hn).2.2

end

theorem isUnreserved_cases {c : Char} (h : isUnreserved c = true) :
    c.isAlphanum = true ∨ c ∈ ['-', '.', '_', '~', '/'] := by
  rwa [isUnreserved, Bool.or_eq_true, List.contains_iff_mem] at h

theorem toNat_of_isUnreserved {c : Char} (h : isUnreserved c = true) :
    0x20 < c.toNat ∧ c.toNat < 0x80 := by
  rcases isUnreserved_cases h with h | h
  · have := Text.toNat_of_isAlphanum h
    omega
  · have hmarks : ∀ c ∈ ['-', '.', '_', '~', '/'], 0x20 < c.toNat ∧ c.toNat < 0x80 := by simp
    exact hmarks c h

/-- a character of a written path is no mark that divides a URI, and no blank -/
def IsPathChar (c : Char) : Prop := isUnreserved c = true ∨ c = '%'

theorem Escapes.isPathChar {bs : List UInt8} {e : Text} (h : Escapes bs e) :
    ∀ c ∈ e, IsPathChar c := by
  induction h with
  | nil => intro c hc; exact absurd hc (by simp)
  | @cons b _ _ _ _ hhigh hlow _ ih =>
    have hb := b.toNat_lt
    intro c hc
    simp only [List.mem_cons] at hc
    rcases hc with rfl | rfl | rfl | hc
    · exact Or.inr rfl
    · exact Or.inl (hhigh.isUnreserved_eq (by omega))
    · exact Or.inl (hlow.isUnreserved_eq (by omega))
    · exact ih c hc

theorem Encodes.isPathChar {p u : Text} (h : Encodes p u) : ∀ c ∈ u, IsPathChar c := by
  induction h with
  | nil => intro c hc; exact absurd hc (by simp)
  | plain hc _ ih =>
    intro d hd
    rcases List.mem_cons.1 hd with rfl | hd
    · exact Or.inl hc
    · exact ih d hd
  | escaped _ he _ ih =>
    intro d hd
    rcases List.mem_append.1 hd with hd | hd
    · exact he.isPathChar d hd
    · exact ih d hd

/-! ## splitting -/

theorem IsPathChar.toNat_gt {c : Char} (h : IsPathChar c) : 0x20 < c.toNat := by
  rcases h with h | rfl
  · exact (toNat_of_isUnreserved h).1
  · decide

theorem IsPathChar.ne {c d : Char} (h : IsPathChar c) (hd : isUnreserved d = false) (hp : d ≠ '%') :
    c ≠ d := by
  rintro rfl
  rcases h with h | h
  · exact absurd h (by rw [hd]; decide)
  · exact hp h

theorem takeWhile_of_isPathChar {u : Text} (hu : ∀ c ∈ u, IsPathChar c) {d : Char}
    (hd : isUnreserved d = false) (hp : d ≠ '%') : u.takeWhile (· != d) = u := by
  rw [List.takeWhile_eq_self_iff]
  intro c hc
  exact bne_iff_ne.2 ((hu c hc).ne hd hp)

theorem clean_eq_self {t : Text} (h : ∀ c ∈ t, 0x20 < c.toNat) : clean t = t := by
  have hdrop : t.dropWhile (fun c => decide (c.toNat ≤ 0x20)) = t := by
    cases t with
    | nil => rfl
    | cons c t =>
      have hc := h c List.mem_cons_self
      exact List.dropWhile_cons_of_neg (by simpa using hc)
  rw [clean, hdrop, List.filter_eq_self]
  intro c hc
  have hbreaks : ∀ d ∈ ['\t', '\r', '\n'], d.toNat ≤ 0x20 := by simp
  have hne : ∀ d ∈ ['\t', '\r', '\n'], c ≠ d := by
    rintro d hd rfl
    exact absurd (hbreaks c hd) (Nat.not_le.2 (h c hc))
  simpa [and_assoc] using hne

/-- nothing of a written path is split off -/
theorem rawPath_file {u : Text} (hu : ∀ c ∈ u, IsPathChar c) (hhead : u.head? = some '/') :
    rawPath ("file://".toList ++ u) = .ok u := by
  have hclean : clean ("file://".toList ++ u) = "file://".toList ++ u := by
    refine clean_eq_self fun c hc => ?_
    rcases List.mem_append.1 hc with hc | hc
    · have hscheme : ∀ c ∈ "file://".toList, 0x20 < c.toNat := by simp
      exact hscheme c hc
    · exact (hu c hc).toNat_gt
  have hscheme : dropScheme ("file://".toList ++ u) = '/' :: '/' :: u := rfl
  have hauthority : dropAuthority ('/' :: '/' :: u) = .ok u := by
    obtain ⟨rest, rfl⟩ := List.head?_eq_some_iff.1 hhead
    rfl
  rw [rawPath, hclean, hscheme, hauthority]
  show Except.ok ((u.takeWhile (· != '#')).takeWhile (· != '?')) = _
  rw [takeWhile_of_isPathChar hu (by decide) (by decide),
    takeWhile_of_isPathChar hu (by decide) (by decide)]

/-! ## decoding -/

theorem itemsOf_plain {c : Char} (h : isUnreserved c = true) (t : Text) :
    itemsOf (c :: t) = (String.utf8EncodeChar c).map Item.byte ++ itemsOf t := by
  have hlt := (toNat_of_isUnreserved h).2
  have hne : c ≠ '%' := by
    rintro rfl
    exact absurd h (by decide)
  have hbytes : String.utf8EncodeChar c = [UInt8.ofNat c.toNat] := by
    unfold String.utf8EncodeChar
    exact if_pos (Nat.le_of_lt_succ hlt)
  rw [hbytes, itemsOf, Item.ofChar, if_pos hlt]
  · rfl
  · rintro a b r rfl
    exact absurd rfl hne

theorem Escapes.itemsOf_append {bs : List UInt8} {e : Text} (h : Escapes bs e) (t : Text) :
    itemsOf (e ++ t) = bs.map Item.byte ++ itemsOf t := by
  induction h with
  | nil => rfl
  | @cons b bs high low e hhigh hlow _ ih =>
    have hb := b.toNat_lt
    have hnum : Text.hexNumber? [high, low] = some b.toNat := by
      have hvalue : 16 * (16 * 0 + b.toNat / 16) + b.toNat % 16 = b.toNat := by omega
      simp only [Text.hexNumber?, List.foldlM_cons, List.foldlM_nil,
        hhigh.hexValue?_eq (by omega), hlow.hexValue?_eq (by omega)]
      exact congrArg some hvalue
    rw [List.cons_append, List.cons_append, List.cons_append, itemsOf, hnum]
    show Item.byte (UInt8.ofNat b.toNat) :: itemsOf (e ++ t) = _
    rw [ih, UInt8.ofNat_toNat]
    rfl

theorem Encodes.itemsOf_eq {p u : Text} (h : Encodes p u) :
    itemsOf u = (Text.Utf8.encode p).map Item.byte := by
  induction h with
  | nil => rfl
  | plain hc _ ih => rw [itemsOf_plain hc, ih, Text.Utf8.encode_cons, List.map_append]
  | escaped _ he _ ih => rw [he.itemsOf_append, ih, Text.Utf8.encode_cons, List.map_append]

theorem joinItems_bytes (pending bs : List UInt8) :
    joinItems pending (bs.map Item.byte) = Text.Utf8.repair (pending.reverse ++ bs) := by
  induction bs generalizing pending with
  | nil => rw [List.append_nil]; rfl
  | cons b bs ih =>
    show joinItems (b :: pending) (bs.map Item.byte) = _
    rw [ih, List.reverse_cons, List.append_assoc]
    rfl

theorem Encodes.percentDecode_eq {p u : Text} (h : Encodes p u) : percentDecode u = p := by
  rw [percentDecode, h.itemsOf_eq, joinItems_bytes]
  exact Text.Utf8.repair_encode p

/-! ## paths and their ends -/

theorem Encodes.path_eq {p u : Text} (h : Encodes p u) (hp : p.head? = some '/') :
    path ("file://" ++ String.ofList u) = .ok p := by
  have hhead : u.head? = some '/' := by
    cases h with
    | nil => exact hp
    | plain _ _ => exact hp
    | escaped hc _ _ =>
      obtain rfl := Option.some.inj hp
      exact absurd hc (by decide)
  have htext : ("file://" ++ String.ofList u).toList = "file://".toList ++ u := by
    simp
  rw [path, htext, rawPath_file h.isPathChar hhead]
  exact congrArg Except.ok h.percentDecode_eq

/-- **File URIs decode to the path they encode.** For every absolute path `p`, with whatever
characters in it, and every way `u` to write it, the path of `file://` and `u` is `p`. So for an open
document whose language says nothing, the end of `p` says whether completions are offered. -/
theorem file_uris_decoded (p u : Text) (hp : p.head? = some '/') (h : Encodes p u) :
    path ("file://" ++ String.ofList u) = .ok p ∧
    ∀ (s : Session) (d : Document), s.docs.get? ("file://" ++ String.ofList u) = some d →
      ¬ KnownLanguage d →
      s.step (.supports ("file://" ++ String.ofList u)) =
        (s, ⟨.supported (decide (".lua".toList <:+ p ∨ ".luau".toList <:+ p)), []⟩) := by
  have hpath := h.path_eq hp
  refine ⟨hpath, fun s d hd hlanguage => ?_⟩
  have hserves : s.serves ("file://" ++ String.ofList u) = .ok (Session.hasKnownSuffix p) := by
    rw [serves_of_not_knownLanguage hd hlanguage, hpath]
    rfl
  have hsuffix : Session.hasKnownSuffix p =
      decide (".lua".toList <:+ p ∨ ".luau".toList <:+ p) := by
    rw [Bool.eq_iff_iff, hasKnownSuffix_iff, decide_eq_true_iff]
  rw [Session.step, hserves, hsuffix]

/-- a path with a mark that begins a fragment, a line break, an accent, a character above U+FFFF and a
percent sign -/
def oddPath : Text := "/#\né😀%.luau".toList

theorem encodes_oddPath : Encodes oddPath "/%23%0A%c3%A9%F0%9f%98%80%25.luau".toList := by
  have hdigit : ∀ n, IsHexDigit n n.digitChar := fun n => Or.inl rfl
  have hupper : ∀ n, IsHexDigit n n.digitChar.toUpper := fun n => Or.inr rfl
  have hend : Encodes ".luau".toList ".luau".toList :=
    .plain rfl (.plain rfl (.plain rfl (.plain rfl (.plain rfl .nil))))
  have hpercent : Escapes (String.utf8EncodeChar '%') "%25".toList :=
    .cons (hdigit 2) (hdigit 5) .nil
  have hastral : Escapes (String.utf8EncodeChar '😀') "%F0%9f%98%80".toList :=
    .cons (hupper 15) (hdigit 0) (.cons (hdigit 9) (hdigit 15)
      (.cons (hdigit 9) (hdigit 8) (.cons (hdigit 8) (hdigit 0) .nil)))
  have haccent : Escapes (String.utf8EncodeChar 'é') "%c3%A9".toList :=
    .cons (hdigit 12) (hdigit 3) (.cons (hupper 10) (hdigit 9) .nil)
  have hbreak : Escapes (String.utf8EncodeChar '\n') "%0A".toList :=
    .cons (hdigit 0) (hupper 10) .nil
  have hfragment : Escapes (String.utf8EncodeChar '#') "%23".toList :=
    .cons (hdigit 2) (hdigit 3) .nil
  exact .plain rfl (.escaped rfl hfragment (.escaped rfl hbreak (.escaped rfl haccent
    (.escaped rfl hastral (.escaped rfl hpercent hend)))))

/-- a session with an open document under that path, in a language that says nothing -/
def oddSession : Session :=
  (Session.run {} [.opened "file:///%23%0A%c3%A9%F0%9f%98%80%25.luau" (some "plaintext") []]).1

theorem file_uris_decoded_oddPath :
    path "file:///%23%0A%c3%A9%F0%9f%98%80%25.luau" = .ok oddPath ∧
    oddSession.step (.supports "file:///%23%0A%c3%A9%F0%9f%98%80%25.luau") =
      (oddSession, ⟨.supported true, []⟩) := by
  obtain ⟨hpath, hsupports⟩ := file_uris_decoded oddPath _ rfl encodes_oddPath
  have hlanguage : ¬ KnownLanguage ⟨some "plaintext", []⟩ := by
    unfold KnownLanguage
    decide
  exact ⟨hpath, hsupports oddSession ⟨some "plaintext", []⟩ (by decide +kernel) hlanguage⟩

end ElementProps.Uri
