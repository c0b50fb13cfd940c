import Mathlib.Data.List.Infix
import ElementProps.CommandLine.Outcome
import ElementProps.Proofs.CompletionAnswers
import ElementProps.Proofs.LineBreaks
import ElementProps.Proofs.Utf8Bytes

/-!
# The command line and the sessions agree

The command `complete` reads a file with its line breaks unified, counts lines and columns from one
and characters as they are. A session keeps the text as the client has it, counts from zero, and
counts in code units. Both offer the same.

* `offset_eq_cursorOffset`    in a line without astral characters all encodings count alike;
* `findAt_unifyBreaks`        completion at a line and character does not see the kind of breaks;
* `Holds read name t`         a file holds a text;
* `surrogatesPaired t`        no surrogate stands alone in a string of a JSON text;
* `HoldsJson`                 a file holds a text and a JSON value, with no such surrogate;
* `commandLine_agrees`        what the command prints is what a session answers.
-/

namespace ElementProps

open CommandLine

/-! ## lines without astral characters -/

section
variable {e : Encoding} {t : Text}

theorem units_eq_length (h : ∀ c ∈ t, isAstral c = false) : e.units t = t.length := by
  induction t with
  | nil => rfl
  | cons c t ih =>
    have hc : isAstral c = false := h c List.mem_cons_self
    rw [Encoding.units_cons, hc, ih fun d hd => h d (List.mem_cons_of_mem c hd), List.length_cons,
      Nat.add_comm]
    rfl

theorem reach_eq_min (h : ∀ c ∈ t, isAstral c = false) (n : Nat) : e.reach n t = min n t.length := by
  induction t generalizing n with
  | nil => rw [Encoding.reach, List.length_nil, Nat.min_zero]
  | cons c t ih =>
    have hc : isAstral c = false := h c List.mem_cons_self
    rw [Encoding.reach, hc, List.length_cons]
    split
    · omega
    · rw [ih fun d hd => h d (List.mem_cons_of_mem c hd)]
      simp only [Bool.false_eq_true, if_false]
      omega

/-- In a line without astral characters all encodings count alike. -/
theorem offset_eq_cursorOffset {line : Nat} (character : Nat)
    (h : ∀ l, (linesOf t)[line]? = some l → ∀ c ∈ l.body, isAstral c = false) :
    Position.offset e t ⟨line, character⟩ = cursorOffset t line character := by
  unfold Position.offset cursorOffset
  rw [if_neg (by omega)]
  simp only [Int.toNat_natCast]
  cases hl : (linesOf t)[line]? with
  | none => rfl
  | some l =>
    have hcolumn : l.column e character = min character l.body.length := by
      unfold Line.column
      rw [units_eq_length (h l hl), reach_eq_min (h l hl)]
      split
      · rfl
      · omega
    simp only [hcolumn]

end

/-! ## completion and line breaks -/

section
variable {k : Completer} {user : Option PropertyMap} {t : Text}

/-- where the lookback reaches the start of the text, nothing is cut off -/
theorem find_of_near {o : Nat} (ho : o ≤ t.length) (hnear : (o : Int) ≤ k.lookback) :
    k.find user t o = findIn k.builtin user (t.take o) := by
  have hcut : ((t.take o).length - k.lookback).toNat = 0 := by
    rw [List.length_take]
    omega
  rw [Completer.find, beforeCursor, inText_of_le ho, hcut, List.drop_zero]

theorem cursorOffset_unifyBreaks_le (t : Text) (line : Nat) (character : Int) :
    cursorOffset (unifyBreaks t) line character ≤ cursorOffset t line character := by
  have hle := cursorOffset_le (unifyBreaks t) line character
  have hshort := length_unifyBreaks_le (t.take (cursorOffset t line character))
  have hlen := congrArg List.length (take_cursorOffset_unifyBreaks t line character)
  rw [List.length_take, Nat.min_eq_left hle] at hlen
  rw [List.length_take] at hshort
  omega

/-- Completion at a line and character does not see the kind of breaks. -/
theorem findAt_unifyBreaks {line : Nat} {character : Int}
    (hnear : (cursorOffset t line character : Int) ≤ k.lookback) :
    k.findAt user (unifyBreaks t) line character = k.findAt user t line character := by
  have hle := cursorOffset_unifyBreaks_le t line character
  rw [Completer.findAt, Completer.findAt, find_of_near (cursorOffset_le t line character) hnear,
    find_of_near (cursorOffset_le _ line character) (by omega), take_cursorOffset_unifyBreaks,
    findIn_unifyBreaks]

end

/-! ## the command -/

/-- a file holds a text; its name holds no NUL character -/
structure Holds (read : FileReader) (name : String) (t : Text) : Prop where
  named : (Path.ofString name).text.toList.contains '\x00' = false
  decoded : ∃ bytes, read (.ofString name) = .ok bytes ∧ Text.Utf8.decode bytes = .ok t

theorem Holds.readText_eq {read : FileReader} {name : String} {t : Text} (h : Holds read name t) :
    readText read (.ofString name) = .ok (unifyBreaks t) := by
  obtain ⟨bytes, hread, hdecode⟩ := h.decoded
  rw [readText, h.named]
  simp only [Bool.false_eq_true, if_false, hread, hdecode]

/-- No surrogate stands alone in a JSON text: wherever a quote begins a string, all code points of
the string are characters. -/
def Json.surrogatesPaired (t : Text) : Bool :=
  t.tails.all fun s =>
    match s.head?, Json.readString s with
    | some '"', .ok (ns, _) => ns.all fun n => decide n.isValidChar
    | _, _ => true

/-- A file holds a text, and that text a JSON value. No surrogate stands alone in it, as it depends on
the output whether one can be printed. -/
structure HoldsJson (room : Nat) (read : FileReader) (name : String) (u : Text) (raw : Json) : Prop
    extends Holds read name u where
  paired : Json.surrogatesPaired (unifyBreaks u) = true
  value : Json.read room (unifyBreaks u) = .ok raw

section
variable {room : Nat} {read : FileReader} {file : String}

theorem userMap_of_ne {name : String} (hname : name ≠ "") :
    userMap room read (some name) = readProperties room read (.ofString name) := by
  have hne : ¬ name.isEmpty = true := by simpa using hname
  exact if_neg hne

theorem HoldsJson.userMap_eq {name : String} {u : Text} {raw : Json}
    (h : HoldsJson room read name u raw) (hname : name ≠ "") :
    userMap room read (some name) = .ok (PropertyMap.ofJson raw) := by
  rw [userMap_of_ne hname, readProperties, h.readText_eq]
  simp only [h.value]

theorem completeFile_of_userMap {props : Option String} {t : Text}
    {m : Option PropertyMap × List Warning} (ht : Holds read file t)
    (hmap : userMap room read props = .ok m) (line column : Int) :
    ∃ log, completeFile room read file (some line) (some column) props =
      .ok ((({} : Completer).findAt m.1 (unifyBreaks t) (line - 1) (column - 1)).completions,
        log) := by
  unfold completeFile
  rw [ht.readText_eq, hmap]
  exact ⟨_, rfl⟩

theorem outcome_of_completeFile {terminal : Terminal} {level : Log.Level}
    {line column : Option Int} {props : Option String} {completions : List Completion}
    {log : List Log.Record}
    (h : completeFile room read file line column props = .ok (completions, log)) :
    Invocation.outcome terminal room read ⟨level, .complete file line column props⟩ =
      .done 0 (String.join (completions.map completionLine)) (logLines terminal level log) none := by
  unfold Invocation.outcome
  simp only [h]

end

/-! ## the session -/

/-- A document and a property map that have just been sent are there, whichever came first. -/
theorem run_of_sent {s : Session} {uri : String} {languageId : Option String} {t : Text} {v : Json}
    {rs : List Request} (hv : v.present? = some v)
    (h : rs = [.configured v, .opened uri languageId t] ∨
      rs = [.opened uri languageId t, .configured v]) :
    (s.run rs).1.docs.get? uri = some ⟨languageId, t⟩ ∧ (s.run rs).1.props = (ofPayload v).1 := by
  have hdoc : ∀ s : Session, (s.step (.opened uri languageId t)).1.docs.get? uri =
      some ⟨languageId, t⟩ := fun s => Documents.get?_insert_self s.docs uri _
  have hset : ∀ s : Session, (s.step (.configured v)).1.props = (ofPayload v).1 := by
    intro s
    show (s.configure v).1.props = _
    rw [configure_props, hv]
    rfl
  rcases h with rfl | rfl
  · exact ⟨hdoc _, hset s⟩
  · refine ⟨?_, hset _⟩
    show ((s.step (.opened uri languageId t)).1.configure v).1.docs.get? uri = _
    rw [configure_docs]
    exact hdoc s

/-! ## the agreement -/

/-- **The command line and the sessions agree.** For a file and a document with the same text, and
the same properties, the command prints a line for each completion that a session answers at the
same place, in their order. The place lies within the lookback, and its line has no character above
U+FFFF; the encoding of the session does not matter, nor how the lines of the text are broken, nor
how deep the stack lets the properties be nested. No surrogate stands alone in the property file. -/
theorem commandLine_agrees (terminal : Terminal) (level : Log.Level) (room : Nat)
    (read : FileReader) (file props : String) (t u : Text) (raw : Json)
    (hfile : Holds read file t) (hprops : HoldsJson room read props u raw) (hname : props ≠ "")
    (line column : Int) (hline : 1 ≤ line ∧ line ≤ 2147483648)
    (hcolumn : 1 ≤ column ∧ column ≤ 2147483648)
    (hnear : cursorOffset t (line - 1) (column - 1) ≤ 2000)
    (hplain : ∀ l, (linesOf t)[(line - 1).toNat]? = some l → ∀ c ∈ l.body, c.toNat ≤ 0xFFFF)
    (s : Session) (uri : String) (rs : List Request)
    (hrs : rs = [.configured (.obj [("props", raw)]), .opened uri (some "luau") t] ∨
      rs = [.opened uri (some "luau") t, .configured (.obj [("props", raw)])]) :
    ∃ items log stderr,
      (s.run rs).1.step (.completion uri (line - 1) (column - 1)) =
        ((s.run rs).1, ⟨.completions items, log⟩) ∧
      Invocation.outcome terminal room read
          ⟨level, .complete file (some line) (some column) (some props)⟩ =
        .done 0 (String.join (items.map fun c => c.label ++ "\t" ++ c.detail ++ "\n")) stderr
          none := by
  obtain ⟨hdoc, hset⟩ := run_of_sent (s := s) (v := .obj [("props", raw)]) rfl hrs
  have huser : (s.run rs).1.props = (PropertyMap.ofJson raw).1 := by
    rw [hset]
    exact congrArg Prod.fst (ofPayload_props raw)
  -- from one to zero, and from integers to positions
  have hl : line - 1 = ((line - 1).toNat : Int) := by omega
  have hc : column - 1 = ((column - 1).toNat : Int) := by omega
  have hplace : Position.offset (s.run rs).1.encoding t ⟨(line - 1).toNat, (column - 1).toNat⟩ =
      cursorOffset t (line - 1) (column - 1) := by
    rw [hl, hc]
    refine offset_eq_cursorOffset _ fun l hl c hc => ?_
    have hle := hplain l hl c hc
    simp only [isAstral, decide_eq_false_iff_not]
    omega
  have hanswer : ∃ log, (s.run rs).1.step (.completion uri (line - 1) (column - 1)) =
      ((s.run rs).1, ⟨.completions (Completer.complete {} (PropertyMap.ofJson raw).1 t
        (cursorOffset t (line - 1) (column - 1))), log⟩) := by
    have hp : Position.check (line - 1) (column - 1) =
        .ok ⟨(line - 1).toNat, (column - 1).toNat⟩ := check_of_inRange (by omega) (by omega)
    have h := step_completion_of_served hp hdoc (serves_of_knownLanguage hdoc (Or.inr rfl))
    dsimp only at h
    rw [huser, hplace] at h
    exact h
  have hprinted : ({} : Completer).findAt (PropertyMap.ofJson raw).1 (unifyBreaks t) (line - 1)
      (column - 1) = ({} : Completer).findAt (PropertyMap.ofJson raw).1 t (line - 1) (column - 1) := by
    rw [hl] at hnear ⊢
    refine findAt_unifyBreaks ?_
    show (cursorOffset t _ _ : Int) ≤ 2000
    omega
  obtain ⟨log, hstep⟩ := hanswer
  obtain ⟨log', hcomplete⟩ := completeFile_of_userMap hfile (hprops.userMap_eq hname) line column
  rw [hprinted] at hcomplete
  exact ⟨_, log, _, hstep, outcome_of_completeFile hcomplete⟩

/-- a text with three kinds of breaks -/
def brokenText : Text := "é\n\r\ne(Frame,\r\x7b ".toList

/-- a property map with a name that is written as a pair of surrogates -/
def pairText : Text := "\x7b\"Frame\": [\"Z\", \"\\ud83d\\ude00\"]\x7d".toList

def pairMap : Json := .obj [("Frame", .arr [.str "Z", .str "😀"])]

/-- a file and a property file with the given texts -/
def twoFiles (t u : Text) : FileReader :=
  FileTree.read [(["a.luau"], Text.Utf8.encode t), (["p.json"], Text.Utf8.encode u)]

theorem holds_file_twoFiles (t u : Text) : Holds (twoFiles t u) "a.luau" t :=
  ⟨by decide, _, rfl, Text.Utf8.decode_eq_ok_iff.2 rfl⟩

theorem holds_props_twoFiles (t u : Text) : Holds (twoFiles t u) "p.json" u :=
  ⟨by decide, _, rfl, Text.Utf8.decode_eq_ok_iff.2 rfl⟩

/-- that text and those properties as a client sends them -/
def sentBoth : List Request :=
  [.opened "a" (some "luau") brokenText, .configured (.obj [("props", pairMap)])]

/-- the cursor stands behind the brace, in the fourth line -/
theorem commandLine_agrees_twoFiles :
    ∃ items log,
      (Session.run { encoding := .utf8 } sentBoth).1.step (.completion "a" 3 2) =
        ((Session.run { encoding := .utf8 } sentBoth).1, ⟨.completions items, log⟩) ∧
      String.join (items.map fun c => c.label ++ "\t" ++ c.detail ++ "\n") =
        "Z\tFrame property (React Luau helper)\n😀\tFrame property (React Luau helper)\n" := by
  have hvalue : Json.read 2 (unifyBreaks pairText) = .ok pairMap := by
    unfold pairText
    simp only [String.reduceToList]
    rfl
  have hprops : HoldsJson 2 (twoFiles brokenText pairText) "p.json" pairText pairMap :=
    ⟨holds_props_twoFiles brokenText pairText, by decide +kernel, hvalue⟩
  have hline : (linesOf brokenText)[((4 : Int) - 1).toNat]? = some ⟨"\x7b ".toList, none⟩ := by
    decide +kernel
  have hplain : ∀ l, (linesOf brokenText)[((4 : Int) - 1).toNat]? = some l →
      ∀ c ∈ l.body, c.toNat ≤ 0xFFFF := by
    intro l hl
    rw [hline] at hl
    obtain rfl := Option.some.inj hl
    simp
  obtain ⟨items, log, stderr, hstep, hprinted⟩ := commandLine_agrees ⟨false, ""⟩ .info 2
    (twoFiles brokenText pairText) "a.luau" "p.json" brokenText pairText pairMap
    (holds_file_twoFiles brokenText pairText) hprops (by decide) 4 3 (by decide) (by decide)
    (by decide +kernel) hplain { encoding := .utf8 } "a" sentBoth (Or.inr rfl)
  have hrun : Invocation.outcome ⟨false, ""⟩ 2 (twoFiles brokenText pairText)
      ⟨.info, .complete "a.luau" (some 4) (some 3) (some "p.json")⟩ =
        .done 0 "Z\tFrame property (React Luau helper)\n😀\tFrame property (React Luau helper)\n" ""
          none := by decide +kernel
  rw [hrun] at hprinted
  exact ⟨items, log, hstep, (Outcome.done.inj hprinted).2.1.symm⟩

end ElementProps
