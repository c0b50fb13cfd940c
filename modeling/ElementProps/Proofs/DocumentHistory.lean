import ElementProps.Proofs.RequestEffect

/-!
# Documents and their histories

What a session holds under a URI depends on the requests about that URI, and on the encodings that
were chosen before its changes, and on nothing else.

* `LeavesOpen uri rs`        a run opens a document and does not close it again;
* `chosenEncoding rs`        the encoding chosen last in a run;
* `changesOf uri before rs`  the changes that a run makes to a document, each with its encoding;
* `run_get?_of_kept`         from one opening to the next, a document gets its changes in order;
* `run_get?_filter`          where no encoding is chosen, only the requests about a document count;
* `documents_follow_history`  both together, with what changes no document.
-/

namespace ElementProps

/-! ## histories -/

def LeavesOpen (uri : String) (rs : List Request) : Prop :=
  ∃ before languageId content after,
    rs = before ++ .opened uri languageId content :: after ∧ .closed uri ∉ after

/-- the encoding chosen last in a run, UTF-16 if none is chosen -/
def chosenEncoding (rs : List Request) : Encoding :=
  (rs.filterMap Request.encoding?).getLastD .utf16

/-- The changes that a run makes to a document, each with the encoding chosen last before it. The
requests before the run are given first. -/
def changesOf (uri : String) (before : List Request) :
    List Request → List (Encoding × List (Edit Position))
  | [] => []
  | r :: rs =>
    ((r.edits? uri).map fun edits => (chosenEncoding before, edits)).toList
      ++ changesOf uri (before ++ [r]) rs

/-- the text after a list of changes, each under its own encoding -/
def applyChanges (t : Text) (changes : List (Encoding × List (Edit Position))) : Text :=
  changes.foldl (fun t c => applyEdits c.1 t c.2) t

/-- a request opens, changes or closes the document of a URI -/
def Request.concerns (uri : String) : Request → Bool
  | .opened u _ _ => u == uri
  | .changed u _ => u == uri
  | .closed u => u == uri
  | _ => false

/-- all positions of a change are in the range of the protocol -/
def Edit.inRange : Edit (Int × Int) → Bool
  | .full _ => true
  | .ranged a b _ =>
    Position.inRange a.1 && Position.inRange a.2 && (Position.inRange b.1 && Position.inRange b.2)

theorem chosenEncoding_concat (rs : List Request) (r : Request) :
    chosenEncoding (rs ++ [r]) = r.encoding?.getD (chosenEncoding rs) := by
  unfold chosenEncoding
  rw [List.filterMap_append]
  cases h : r.encoding? with
  | none => simp [h]
  | some e => simp [h]

theorem run_encoding (rs : List Request) :
    (Session.run {} rs).1.encoding = chosenEncoding rs :=
  run_last Session.encoding Request.encoding? step_encoding {} rs

/-! ## open documents -/

theorem isSome_onDocument (uri : String) (e : Encoding) (r : Request) (d : Option Document) :
    (r.onDocument uri e d).isSome = true ↔
      (∃ l t, r = .opened uri l t) ∨ (d.isSome = true ∧ r ≠ .closed uri) := by
  cases r with
  | opened u languageId content =>
    by_cases hu : u = uri <;> simp [Request.onDocument, hu]
  | closed u => by_cases hu : u = uri <;> simp [Request.onDocument, hu]
  | changed u edits =>
    rw [onDocument_changed]
    cases (Request.changed u edits).edits? uri <;> simp
  | _ => simp [Request.onDocument, Request.edits?]

theorem leavesOpen_cons {uri : String} {r : Request} {rs : List Request} :
    LeavesOpen uri (r :: rs) ↔
      ((∃ l t, r = .opened uri l t) ∧ .closed uri ∉ rs) ∨ LeavesOpen uri rs := by
  constructor
  · rintro ⟨before, languageId, content, after, he, hc⟩
    cases before with
    | nil =>
      obtain ⟨rfl, rfl⟩ := List.cons.inj he
      exact Or.inl ⟨⟨languageId, content, rfl⟩, hc⟩
    | cons b before =>
      obtain ⟨rfl, rfl⟩ := List.cons.inj he
      exact Or.inr ⟨before, languageId, content, after, rfl, hc⟩
  · rintro (⟨⟨languageId, content, rfl⟩, hc⟩ | ⟨before, languageId, content, after, rfl, hc⟩)
    · exact ⟨[], languageId, content, rs, rfl, hc⟩
    · exact ⟨r :: before, languageId, content, after, rfl, hc⟩

theorem isSome_run (s : Session) (rs : List Request) (uri : String) :
    ((s.run rs).1.docs.get? uri).isSome = true ↔
      LeavesOpen uri rs ∨ ((s.docs.get? uri).isSome = true ∧ .closed uri ∉ rs) := by
  induction rs generalizing s with
  | nil =>
    have hnil : ¬ LeavesOpen uri [] := by
      rintro ⟨before, _, _, _, he, -⟩
      exact absurd he (by simp)
    simp [hnil, Session.run_nil]
  | cons r rs ih =>
    rw [Session.run_cons, ih, step_get?, isSome_onDocument, leavesOpen_cons, List.mem_cons]
    constructor
    · rintro (h | ⟨ho | ⟨hd, hr⟩, hc⟩)
      · exact Or.inl (Or.inr h)
      · exact Or.inl (Or.inl ⟨ho, hc⟩)
      · exact Or.inr ⟨hd, fun h => h.elim (fun h => hr h.symm) hc⟩
    · rintro ((⟨ho, hc⟩ | h) | ⟨hd, hc⟩)
      · exact Or.inr ⟨Or.inl ho, hc⟩
      · exact Or.inl h
      · exact Or.inr ⟨Or.inr ⟨hd, fun h => hc (Or.inl h.symm)⟩, fun h => hc (Or.inr h)⟩

/-! ## the content of a document -/

theorem onDocument_of_kept {uri : String} {r : Request} (ho : ∀ l t, r ≠ .opened uri l t)
    (hc : r ≠ .closed uri) (e : Encoding) (d : Document) :
    r.onDocument uri e (some d) = some ⟨d.languageId,
      applyChanges d.content ((r.edits? uri).map fun edits => (e, edits)).toList⟩ := by
  cases r with
  | opened u languageId content =>
    have hu : u ≠ uri := fun hu => ho languageId content (hu ▸ rfl)
    rw [Request.onDocument, if_neg hu]
    rfl
  | closed u =>
    have hu : u ≠ uri := fun hu => hc (hu ▸ rfl)
    rw [Request.onDocument, if_neg hu]
    rfl
  | changed u edits =>
    rw [onDocument_changed]
    cases (Request.changed u edits).edits? uri <;> rfl
  | _ => rfl

/-- A document that is neither opened anew nor closed gets its changes in order. The encoding of the
session stays the one that the requests so far have chosen. -/
theorem run_get?_of_kept {uri : String} {s : Session} {before rs : List Request} {d : Document}
    (hd : s.docs.get? uri = some d) (he : s.encoding = chosenEncoding before)
    (ho : ∀ l t, .opened uri l t ∉ rs) (hc : .closed uri ∉ rs) :
    (s.run rs).1.docs.get? uri =
      some ⟨d.languageId, applyChanges d.content (changesOf uri before rs)⟩ := by
  induction rs generalizing s before d with
  | nil => exact hd
  | cons r rs ih =>
    have hstep : (s.step r).1.docs.get? uri = some ⟨d.languageId, applyChanges d.content
        ((r.edits? uri).map fun edits => (chosenEncoding before, edits)).toList⟩ := by
      rw [step_get?, hd, ← he]
      refine onDocument_of_kept (fun l t h => ?_) (fun h => ?_) _ _
      · exact ho l t (h ▸ List.mem_cons_self)
      · exact hc (h ▸ List.mem_cons_self)
    have hencoding : (s.step r).1.encoding = chosenEncoding (before ++ [r]) := by
      rw [step_encoding, he, chosenEncoding_concat]
    rw [Session.run_cons]
    show ((s.step r).1.run rs).1.docs.get? uri = _
    rw [ih hstep hencoding (fun l t h => ho l t (List.mem_cons_of_mem r h))
      (fun h => hc (List.mem_cons_of_mem r h)), changesOf, applyChanges, applyChanges, applyChanges,
      List.foldl_append]

/-! ## interleavings -/

theorem onDocument_of_not_concerns {uri : String} {r : Request} (h : r.concerns uri = false)
    (e : Encoding) (d : Option Document) : r.onDocument uri e d = d := by
  cases r with
  | opened u languageId content =>
    have hu : u ≠ uri := by simpa [Request.concerns] using h
    rw [Request.onDocument, if_neg hu]
  | closed u =>
    have hu : u ≠ uri := by simpa [Request.concerns] using h
    rw [Request.onDocument, if_neg hu]
  | changed u edits =>
    have hu : u ≠ uri := by simpa [Request.concerns] using h
    simp [Request.onDocument, Request.edits?, hu]
  | _ => rfl

/-- While no client introduces itself, a document is made by the requests about it alone. -/
theorem run_get?_filter {s : Session} {rs : List Request} (h : ∀ p, .setup p ∉ rs) (uri : String) :
    (s.run rs).1.docs.get? uri = (rs.filter (Request.concerns uri)).foldl
      (fun d r => r.onDocument uri s.encoding d) (s.docs.get? uri) := by
  induction rs generalizing s with
  | nil => rfl
  | cons r rs ih =>
    have hencoding : (s.step r).1.encoding = s.encoding := by
      have hnone : r.encoding? = none := by
        cases r with
        | setup p => exact absurd List.mem_cons_self (h p)
        | _ => rfl
      rw [step_encoding, hnone]
      rfl
    rw [Session.run_cons]
    show ((s.step r).1.run rs).1.docs.get? uri = _
    rw [ih (fun p hp => h p (List.mem_cons_of_mem r hp)), hencoding, step_get?, List.filter_cons]
    cases hr : r.concerns uri with
    | true => rfl
    | false => rw [onDocument_of_not_concerns hr]; rfl

/-! ## failures -/

theorem isOk_check (line character : Int) :
    (Position.check line character).isOk =
      (Position.inRange line && Position.inRange character) := by
  unfold Position.check
  cases Position.inRange line <;> cases Position.inRange character <;> rfl

theorem isOk_bind {ε α β : Type} (x : Except ε α) (f : α → Except ε β) (b : Bool)
    (h : ∀ a, (f a).isOk = b) : (x >>= f).isOk = (x.isOk && b) := by
  cases x with
  | error e => rfl
  | ok a => exact h a

theorem Edit.isOk_check (c : Edit (Int × Int)) : c.check.isOk = c.inRange := by
  cases c with
  | full text => rfl
  | ranged a b text =>
    unfold Edit.check Edit.inRange
    rw [isOk_bind _ _ (Position.inRange b.1 && Position.inRange b.2), ElementProps.isOk_check]
    intro first
    rw [isOk_bind _ _ true (fun _ => rfl), ElementProps.isOk_check, Bool.and_true]

theorem isOk_mapM_check (edits : List (Edit (Int × Int))) :
    (edits.mapM Edit.check).isOk = edits.all Edit.inRange := by
  induction edits with
  | nil => rfl
  | cons c cs ih =>
    rw [List.mapM_cons, isOk_bind _ _ (cs.all Edit.inRange), Edit.isOk_check, List.all_cons]
    intro c'
    rw [isOk_bind _ _ true (fun _ => rfl), ih, Bool.and_true]

theorem changed_failed {edits : List (Edit (Int × Int))} (h : ∃ c ∈ edits, c.inRange = false)
    (s : Session) (uri : String) :
    ∃ e, (s.step (.changed uri edits)).2.answer = .failed e := by
  have hall : (edits.mapM Edit.check).isOk = false := by
    rw [isOk_mapM_check, List.all_eq_false]
    obtain ⟨c, hc, hr⟩ := h
    exact ⟨c, hc, by simp [hr]⟩
  rw [Session.step]
  cases hm : edits.mapM Edit.check with
  | error e => exact ⟨_, rfl⟩
  | ok edits => exact absurd (isOk_iff.2 ⟨edits, hm⟩) (by simp [hall])

theorem step_changed_of_unknown {s : Session} {uri : String} (h : s.docs.get? uri = none)
    (edits : List (Edit (Int × Int))) : (s.step (.changed uri edits)).1 = s := by
  rw [step_changed]
  cases (edits.mapM Edit.check).toOption with
  | none => rfl
  | some edits =>
    show (s.change uri edits).1 = s
    rw [Session.change, h]

/-! ## the documents after a run -/

/-- **Documents follow their own histories.** After a run a document is open when the run leaves it
open; it then has the language of its last opening, and the content given there with all its later
changes, each under the encoding chosen before it. So the order of requests about different documents
does not matter as long as no client introduces itself among them; a change of a document that is not
open does nothing; and a request that fails, as a change with one bad position does, leaves the
session as it was. -/
theorem documents_follow_history (rs : List Request) :
    (∀ uri, ((Session.run {} rs).1.docs.get? uri).isSome = true ↔ LeavesOpen uri rs) ∧
    (∀ uri before languageId content after,
      rs = before ++ .opened uri languageId content :: after →
      (∀ l t, .opened uri l t ∉ after) → .closed uri ∉ after →
      (Session.run {} rs).1.docs.get? uri = some ⟨languageId, applyChanges content
        (changesOf uri (before ++ [.opened uri languageId content]) after)⟩) ∧
    (∀ qs qs', (∀ p, .setup p ∉ qs) → (∀ p, .setup p ∉ qs') →
      (∀ uri, qs.filter (Request.concerns uri) = qs'.filter (Request.concerns uri)) →
      ∀ uri, (Session.run {} (rs ++ qs)).1.docs.get? uri =
        (Session.run {} (rs ++ qs')).1.docs.get? uri) ∧
    (∀ uri edits, ¬ LeavesOpen uri rs →
      ((Session.run {} rs).1.step (.changed uri edits)).1 = (Session.run {} rs).1) ∧
    (∀ r e, ((Session.run {} rs).1.step r).2.answer = .failed e →
      ((Session.run {} rs).1.step r).1 = (Session.run {} rs).1) ∧
    (∀ uri edits, (∃ c ∈ edits, Edit.inRange c = false) →
      ∃ e, ((Session.run {} rs).1.step (.changed uri edits)).2.answer = .failed e) := by
  have hopen : ∀ uri, ((Session.run {} rs).1.docs.get? uri).isSome = true ↔ LeavesOpen uri rs := by
    intro uri
    rw [isSome_run]
    exact or_iff_left fun h => absurd h.1 (by simp [Documents.get?_nil])
  refine ⟨hopen, ?_, ?_, ?_, fun r e h => step_of_failed h,
    fun uri edits h => changed_failed h _ uri⟩
  · intro uri before languageId content after hrs ho hc
    subst hrs
    have hrun : (Session.run {} (before ++ .opened uri languageId content :: after)).1 =
        ((Session.run {} (before ++ [.opened uri languageId content])).1.run after).1 := by
      rw [List.append_cons, Session.run_append]
    have hd : (Session.run {} (before ++ [.opened uri languageId content])).1.docs.get? uri =
        some ⟨languageId, content⟩ := by
      rw [Session.run_append]
      exact Documents.get?_insert_self _ uri _
    rw [hrun]
    exact run_get?_of_kept hd (run_encoding _) ho hc
  · intro qs qs' hq hq' hsame uri
    rw [Session.run_append, Session.run_append]
    show ((Session.run {} rs).1.run qs).1.docs.get? uri =
      ((Session.run {} rs).1.run qs').1.docs.get? uri
    rw [run_get?_filter hq, run_get?_filter hq', hsame]
  · intro uri edits hclosed
    refine step_changed_of_unknown ?_ edits
    rw [← hopen, Bool.not_eq_true, Option.isSome_eq_false_iff, Option.isNone_iff_eq_none] at hclosed
    exact hclosed

/-- a client that says nothing of folders, roots and settings -/
def plainSetup (encodings : Option (List String)) : Setup := ⟨encodings, [], none, none, .null⟩

/-- a run that changes a document under two encodings, with refused requests and requests about
another document in between -/
def editedTwice : List Request :=
  [.setup (plainSetup (some ["utf-32"])),
    .changed "b" [.full "lost".toList],
    .opened "a" (some "lua") "😀😀b".toList,
    .opened "b" none "x".toList,
    .changed "a" [.ranged (0, 3) (0, 3) "!".toList],
    .changed "a" [.full [], .ranged (0, 0) (0, -1) []],
    .setup { plainSetup (some ["utf-8"]) with rootUri := some "//[" },
    .closed "b",
    .setup (plainSetup none),
    .changed "a" [.ranged (0, 3) (0, 5) "?".toList]]

theorem documents_follow_history_editedTwice :
    LeavesOpen "a" editedTwice ∧ ¬ LeavesOpen "b" editedTwice ∧
    (Session.run {} editedTwice).1.docs.get? "a" = some ⟨some "lua", "😀!?b".toList⟩ ∧
    (∀ uri, (Session.run {} (editedTwice ++
        [.opened "b" none [], .changed "a" [.full []], .closed "b"])).1.docs.get? uri =
      (Session.run {} (editedTwice ++
        [.changed "a" [.full []], .opened "b" none [], .closed "b"])).1.docs.get? uri) ∧
    ((Session.run {} editedTwice).1.step (.changed "b" [.full []])).1 =
      (Session.run {} editedTwice).1 ∧
    ((Session.run {} editedTwice).1.step (.changed "a" [.full [], .ranged (0, 0) (0, -1) []])).1 =
      (Session.run {} editedTwice).1 := by
  obtain ⟨hopen, hcontent, horder, hunknown, hfailed, hrange⟩ := documents_follow_history editedTwice
  have hb : ¬ LeavesOpen "b" editedTwice := by
    rw [← hopen]
    decide +kernel
  refine ⟨(hopen "a").1 (by decide +kernel), hb, ?_, ?_, hunknown "b" _ hb, ?_⟩
  · have h := hcontent "a" (editedTwice.take 2) (some "lua") "😀😀b".toList (editedTwice.drop 3) rfl
      (by simp [editedTwice]) (by simp [editedTwice])
    rw [h]
    decide +kernel
  · refine horder _ _ (by simp) (by simp) (fun uri => ?_)
    by_cases ha : "a" = uri
    · subst ha
      rfl
    · simp [List.filter_cons, Request.concerns, ha]
  · obtain ⟨e, he⟩ := hrange "a" [.full [], .ranged (0, 0) (0, -1) []]
      ⟨.ranged (0, 0) (0, -1) [], by simp, rfl⟩
    exact hfailed _ e he

end ElementProps
