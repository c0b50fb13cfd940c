import ElementProps.Proofs.ClientBuffer
import ElementProps.Proofs.RequestEffect

/-!
# Sessions follow their clients

A client opens documents, changes and closes them, and tells the server. It may also send any other
request in between, as long as UTF-16 stays agreed on. The server sees only what is sent, and still
holds the same documents.

* `Client`, `Client.notify?`   the buffers that a client holds, and what a notification does to
                               them;
* `Synced c s`                 the session `s` holds the documents of the client `c`;
* `Synced.step`                every notification keeps it so;
* `session_follows_client`     so it stays in every run, and completion answers for the text that
                               the client sees.
-/

namespace ElementProps

/-! ## clients -/

/-- the buffers of the documents that a client has open, by URI -/
abbrev Client := String → Option Buffer

inductive Notification where
  | opened (uri : String) (languageId : Option String) (text : Text)
  | changed (uri : String) (edits : List (Edit Position))
  | closed (uri : String)
  /-- a request that says nothing of the documents -/
  | other (r : Request)

/-- a request that changes no document, and after which UTF-16 is agreed on -/
def Request.keepsUtf16 : Request → Bool
  | .setup p => decide (Encoding.negotiate p.encodings = .utf16)
  | .configured _ => true
  | .supports _ => true
  | .completion _ _ _ => true
  | _ => false

namespace Client

def put (c : Client) (uri : String) (b : Option Buffer) : Client :=
  fun other => if other = uri then b else c other

/-- what a client holds after a notification; `none` for one that it never sends -/
def notify? (c : Client) : Notification → Option Client
  | .opened uri _ text => some (c.put uri (some (encode16 text)))
  | .changed uri edits => (c uri).bind fun b => (b.edits? edits).map fun b => c.put uri (some b)
  | .closed uri => some (c.put uri none)
  | .other r => if r.keepsUtf16 then some c else none

/-- what a client holds after a list of notifications -/
def run? (c : Client) : List Notification → Option Client
  | [] => some c
  | n :: ns => (c.notify? n).bind fun c => run? c ns

theorem put_self (c : Client) (uri : String) (b : Option Buffer) : c.put uri b uri = b := if_pos rfl
theorem put_of_ne (c : Client) {uri other : String} (h : other ≠ uri) (b : Option Buffer) :
    c.put uri b other = c other := if_neg h

end Client

/-! ## what is sent -/

/-- a position as it is sent -/
def Position.sent (p : Position) : Int × Int := (p.line, p.character)

/-- a change as it is sent -/
def Edit.sent : Edit Position → Edit (Int × Int)
  | .full text => .full text
  | .ranged first last text => .ranged first.sent last.sent text

/-- a notification as it is sent -/
def Notification.request : Notification → Request
  | .opened uri languageId text => .opened uri languageId text
  | .changed uri edits => .changed uri (edits.map Edit.sent)
  | .closed uri => .closed uri
  | .other r => r

theorem Position.check_sent {p : Position} (hl : p.line ≤ Position.max)
    (hc : p.character ≤ Position.max) : Position.check p.line p.character = .ok p := by
  have h1 : Position.inRange p.line = true := by
    simp only [Position.inRange, Bool.and_eq_true, decide_eq_true_eq]
    omega
  have h2 : Position.inRange p.character = true := by
    simp only [Position.inRange, Bool.and_eq_true, decide_eq_true_eq]
    omega
  rw [Position.check, h1, h2]
  rfl

theorem Edit.check_sent {b b' : Buffer} {e : Edit Position} (h : b.edit? e = some b') :
    e.sent.check = .ok e := by
  cases e with
  | full text => rfl
  | ranged first last text =>
    obtain ⟨a, ha, h⟩ := Option.bind_eq_some_iff.1 h
    obtain ⟨z, hz, -⟩ := Option.bind_eq_some_iff.1 h
    obtain ⟨⟨hal, hac⟩, -⟩ := Buffer.place?_eq_some_iff.1 ha
    obtain ⟨⟨hzl, hzc⟩, -⟩ := Buffer.place?_eq_some_iff.1 hz
    show (do
      let first' ← Position.check first.line first.character
      let last' ← Position.check last.line last.character
      return .ranged first' last' text : Except PositionError (Edit Position)) = _
    rw [Position.check_sent hal hac, Position.check_sent hzl hzc]
    rfl

theorem mapM_check_sent {b b' : Buffer} {es : List (Edit Position)} (h : b.edits? es = some b') :
    (es.map Edit.sent).mapM Edit.check = .ok es := by
  induction es generalizing b with
  | nil => rfl
  | cons e es ih =>
    obtain ⟨b₁, h1, h2⟩ := Option.bind_eq_some_iff.1 h
    rw [List.map_cons, List.mapM_cons, Edit.check_sent h1, ih h2]
    rfl

/-! ## what a request does to the documents -/

theorem step_of_keepsUtf16 {s : Session} {r : Request} (hr : r.keepsUtf16 = true)
    (hs : s.encoding = .utf16) :
    (s.step r).1.docs = s.docs ∧ (s.step r).1.encoding = .utf16 := by
  cases r with
  | setup p =>
    have hp : Encoding.negotiate p.encodings = .utf16 := by simpa [Request.keepsUtf16] using hr
    unfold Session.step
    dsimp only
    split
    · exact ⟨rfl, hs⟩
    · exact ⟨setup_docs s p, (setup_encoding s p).trans hp⟩
  | configured payload => exact ⟨configure_docs s payload, (configure_encoding s payload).trans hs⟩
  | opened _ _ _ => exact absurd hr (by simp [Request.keepsUtf16])
  | changed _ _ => exact absurd hr (by simp [Request.keepsUtf16])
  | closed _ => exact absurd hr (by simp [Request.keepsUtf16])
  | supports uri =>
    unfold Session.step
    dsimp only
    split
    · exact ⟨rfl, hs⟩
    · exact ⟨rfl, hs⟩
  | completion uri line character =>
    unfold Session.step
    dsimp only
    split
    · exact ⟨rfl, hs⟩
    · split
      · exact ⟨rfl, hs⟩
      · exact ⟨rfl, hs⟩

/-! ## client and session in step -/

/-- the session holds the documents of the client -/
structure Synced (c : Client) (s : Session) : Prop where
  encoding : s.encoding = .utf16
  content : ∀ uri, (s.docs.get? uri).map (fun d => encode16 d.content) = c uri

theorem Synced.insert {c : Client} {s : Session} (h : Synced c s) (uri : String) (d : Document) :
    Synced (c.put uri (some (encode16 d.content))) { s with docs := s.docs.insert uri d } := by
  refine ⟨h.encoding, fun other => ?_⟩
  by_cases he : other = uri
  · subst he
    rw [Client.put_self, Documents.get?_insert_self]
    rfl
  · rw [Client.put_of_ne c he, Documents.get?_insert_of_ne s.docs he]
    exact h.content other

theorem Synced.erase {c : Client} {s : Session} (h : Synced c s) (uri : String) :
    Synced (c.put uri none) { s with docs := s.docs.erase uri } := by
  refine ⟨h.encoding, fun other => ?_⟩
  by_cases he : other = uri
  · subst he
    rw [Client.put_self, Documents.get?_erase_self]
    rfl
  · rw [Client.put_of_ne c he, Documents.get?_erase_of_ne s.docs he]
    exact h.content other

theorem Synced.exists_document {c : Client} {s : Session} (h : Synced c s) {uri : String}
    {b : Buffer} (hb : c uri = some b) :
    ∃ d, s.docs.get? uri = some d ∧ encode16 d.content = b := by
  have h1 := h.content uri
  rw [hb] at h1
  exact Option.map_eq_some_iff.1 h1

theorem Synced.step {c c' : Client} {s : Session} {n : Notification} (h : Synced c s)
    (hn : c.notify? n = some c') : Synced c' (s.step n.request).1 := by
  cases n with
  | opened uri languageId text =>
    obtain rfl := Option.some.inj hn
    exact h.insert uri ⟨languageId, text⟩
  | changed uri edits =>
    obtain ⟨b, hb, hn⟩ := Option.bind_eq_some_iff.1 hn
    obtain ⟨b', hb', rfl⟩ := Option.map_eq_some_iff.1 hn
    obtain ⟨d, hd, rfl⟩ := h.exists_document hb
    have hstep : (s.step (.changed uri (edits.map Edit.sent))).1 =
        { s with docs :=
            s.docs.insert uri ⟨d.languageId, applyEdits s.encoding d.content edits⟩ } := by
      rw [Session.step, mapM_check_sent hb']
      simp only [Session.change, hd]
      rfl
    have hcontent : encode16 (applyEdits s.encoding d.content edits) = b' := by
      rw [h.encoding]
      exact encode16_applyEdits hb'
    show Synced _ (s.step (.changed uri (edits.map Edit.sent))).1
    rw [hstep, ← hcontent]
    exact h.insert uri ⟨d.languageId, applyEdits s.encoding d.content edits⟩
  | closed uri =>
    obtain rfl := Option.some.inj hn
    exact h.erase uri
  | other r =>
    by_cases hr : r.keepsUtf16 = true
    · rw [Client.notify?, if_pos hr] at hn
      obtain rfl := Option.some.inj hn
      obtain ⟨hdocs, hencoding⟩ := step_of_keepsUtf16 hr h.encoding
      refine ⟨hencoding, fun uri => ?_⟩
      show ((s.step r).1.docs.get? uri).map _ = _
      rw [hdocs]
      exact h.content uri
    · rw [Client.notify?, if_neg hr] at hn
      exact absurd hn (by simp)

theorem Synced.run {c c' : Client} {s : Session} {ns : List Notification} (h : Synced c s)
    (hn : c.run? ns = some c') : Synced c' (s.run (ns.map Notification.request)).1 := by
  induction ns generalizing c s with
  | nil =>
    obtain rfl := Option.some.inj hn
    exact h
  | cons n ns ih =>
    obtain ⟨c₁, h1, hn⟩ := Option.bind_eq_some_iff.1 hn
    rw [List.map_cons, Session.run_cons]
    exact ih (h.step h1) hn

/-- Completion at a place of the client's buffer answers for the client's text. -/
theorem Synced.completion {c : Client} {s : Session} (h : Synced c s) {uri : String} {b : Buffer}
    {p : Position} {o : Nat} (hb : c uri = some b) (hp : b.place? p = some o)
    (hserves : s.serves uri = .ok true) :
    ∃ log, s.step (.completion uri p.line p.character) =
      (s, ⟨.completions (Completer.complete {} s.props (decode16 b) (decode16 (b.take o)).length),
        log⟩) := by
  obtain ⟨d, hd, rfl⟩ := h.exists_document hb
  obtain ⟨⟨hl, hc⟩, hoff, hsplit⟩ := Buffer.place?_eq_some_iff.1 hp
  have hplace : (decode16 ((encode16 d.content).take o)).length = p.offset .utf16 d.content := by
    rw [take_encode16 (length_encode16_take_offset hoff hsplit), decode16_encode16,
      List.length_take]
    exact Nat.min_eq_left (Position.offset_le .utf16 d.content p)
  rw [hplace, decode16_encode16]
  simp only [Session.step, Position.check_sent hl hc, Session.complete, hserves, Except.map, hd,
    h.encoding]
  exact ⟨_, rfl⟩

/-- **A session follows its client.** After every run of notifications the documents of the session,
encoded, are the buffers of the client; and completion at a place of a buffer, in a document that is
served, answers for the text of the buffer at the number of characters before that place. -/
theorem session_follows_client (ns : List Notification) (c : Client)
    (h : Client.run? (fun _ => none) ns = some c) :
    (∀ uri, ((Session.run {} (ns.map Notification.request)).1.docs.get? uri).map
      (fun d => encode16 d.content) = c uri) ∧
    ∀ uri b p o, c uri = some b → b.place? p = some o →
      (Session.run {} (ns.map Notification.request)).1.serves uri = .ok true →
      ∃ log, (Session.run {} (ns.map Notification.request)).1.step
          (.completion uri p.line p.character) =
        ((Session.run {} (ns.map Notification.request)).1,
          ⟨.completions (Completer.complete {}
            (Session.run {} (ns.map Notification.request)).1.props
            (decode16 b) (decode16 (b.take o)).length), log⟩) := by
  have hstart : Synced (fun _ => none) {} := ⟨rfl, fun _ => rfl⟩
  have hsynced := hstart.run h
  exact ⟨hsynced.content, fun uri b p o hb hp hserves => hsynced.completion hb hp hserves⟩

/-- a client that opens a document, then completes a line break and begins a table behind it, then
writes behind the astral character -/
def typedFrame : List Notification :=
  [.opened "a" (some "luau") "😀\r".toList,
    .changed "a" [.ranged ⟨1, 0⟩ ⟨1, 0⟩ "\ne(Frame, \x7b".toList, .ranged ⟨0, 2⟩ ⟨0, 9⟩ "!".toList]]

theorem session_follows_client_frame :
    ((Session.run {} (typedFrame.map Notification.request)).1.docs.get? "a").map
      (fun d => encode16 d.content) = some (encode16 "😀!\r\ne(Frame, \x7b".toList) ∧
    ∃ log, (Session.run {} (typedFrame.map Notification.request)).1.step (.completion "a" 1 10) =
      ((Session.run {} (typedFrame.map Notification.request)).1,
        ⟨.completions (Completer.complete {} none "😀!\r\ne(Frame, \x7b".toList 14), log⟩) := by
  have hrun : (Client.run? (fun _ => none) typedFrame).isSome := by decide +kernel
  have hbuffer : ((Client.run? (fun _ => none) typedFrame).bind fun c => c "a") =
      some (encode16 "😀!\r\ne(Frame, \x7b".toList) := by decide +kernel
  have hdoc : (Session.run {} (typedFrame.map Notification.request)).1.docs.get? "a" =
      some ⟨some "luau", "😀!\r\ne(Frame, \x7b".toList⟩ := by decide +kernel
  have hserves : (Session.run {} (typedFrame.map Notification.request)).1.serves "a" =
      .ok true := by
    rw [Session.serves, hdoc]
    rfl
  have hprops : (Session.run {} (typedFrame.map Notification.request)).1.props = none := by
    decide +kernel
  have hlength : (decode16 ((encode16 "😀!\r\ne(Frame, \x7b".toList).take 15)).length = 14 := by
    decide +kernel
  obtain ⟨c, hc⟩ := Option.isSome_iff_exists.1 hrun
  rw [hc] at hbuffer
  have h := session_follows_client typedFrame c hc
  have hstep := h.2 "a" _ ⟨1, 10⟩ 15 hbuffer (by decide +kernel) hserves
  rw [hprops, decode16_encode16, hlength] at hstep
  exact ⟨(h.1 "a").trans hbuffer, hstep⟩

end ElementProps
