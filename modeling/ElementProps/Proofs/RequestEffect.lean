import ElementProps.Session

/-!
# What a request does to a session

Later answers depend on the encoding, the user's properties and the documents of a session. A request
treats each of them apart from the others, and each document apart from the others.

* `Request.encoding? r`         the encoding that a request chooses;
* `Request.settings? r`         the settings that a request carries, if they are not `null`;
* `Request.isRead r`            a session gets to the settings of a request;
* `Request.onDocument`          what a request makes of the document of one URI;
* `step_encoding`, `step_props`, `step_get?`   a request does this and no more;
* `step_of_failed`              a request that fails changes nothing at all;
* `run_last`                    a part that each request sets or keeps has, after a run, the last
                                value to which it was set.
-/

namespace ElementProps

/-! ## what a request says -/

/-- The places that a client names can be read: its first folder, its root, and the path of the root
when it has no URI. -/
def Setup.isReadable (p : Setup) : Bool :=
  p.folders.head?.all (fun uri => (Uri.path uri).isOk)
    && p.rootUri.all (fun uri => (Uri.path uri).isOk)
    && (p.rootUri.isSome || p.rootPath.all fun path => !Session.isBareServer path.toList)

/-- a value that is not `null` -/
def Json.present? : Json → Option Json
  | .null => none
  | v => some v

namespace Request

/-- The encoding that a request chooses. An introduction that is refused chooses none. -/
def encoding? : Request → Option Encoding
  | .setup p => if (Session.checkRoot p).isOk then some (.negotiate p.encodings) else none
  | _ => none

def settings? : Request → Option Json
  | .setup p => p.options.present?
  | .configured payload => payload.present?
  | _ => none

/-- A session gets to the settings of an introduction only after the places that it names. -/
def isRead : Request → Bool
  | .setup p => p.isReadable
  | _ => true

/-- the changes that a request makes to the document of a URI, if all their positions are good -/
def edits? (uri : String) : Request → Option (List (Edit Position))
  | .changed u edits => if u = uri then (edits.mapM Edit.check).toOption else none
  | _ => none

end Request

def Document.edited (e : Encoding) (edits : List (Edit Position)) (d : Document) : Document :=
  { d with content := applyEdits e d.content edits }

/-- what a request makes of the document of a URI -/
def Request.onDocument (uri : String) (e : Encoding) (r : Request) (d : Option Document) :
    Option Document :=
  match r with
  | .opened u languageId content => if u = uri then some ⟨languageId, content⟩ else d
  | .closed u => if u = uri then none else d
  | r => ((r.edits? uri).map fun edits => d.map (Document.edited e edits)).getD d

theorem onDocument_changed (uri : String) (e : Encoding) (u : String)
    (edits : List (Edit (Int × Int))) (d : Option Document) :
    (Request.changed u edits).onDocument uri e d =
      (((Request.changed u edits).edits? uri).map fun edits =>
        d.map (Document.edited e edits)).getD d := rfl

/-! ## the parts of a step -/

theorem configure_docs (s : Session) (payload : Json) : (s.configure payload).1.docs = s.docs := by
  cases payload <;> rfl

theorem configure_encoding (s : Session) (payload : Json) :
    (s.configure payload).1.encoding = s.encoding := by
  cases payload <;> rfl

theorem configure_props (s : Session) (payload : Json) :
    (s.configure payload).1.props =
      (payload.present?.map fun v => (ofPayload v).1).getD s.props := by
  cases payload <;> rfl

theorem setup_docs (s : Session) (p : Setup) : (s.setup p).1.docs = s.docs := by
  unfold Session.setup
  dsimp only
  split
  · rfl
  · exact configure_docs _ _

theorem setup_encoding (s : Session) (p : Setup) :
    (s.setup p).1.encoding = Encoding.negotiate p.encodings := by
  unfold Session.setup
  dsimp only
  split
  · rfl
  · exact configure_encoding _ _

theorem setup_props (s : Session) (p : Setup) :
    (s.setup p).1.props = if (Session.rootOf p s.root).isOk then
      (p.options.present?.map fun v => (ofPayload v).1).getD s.props else s.props := by
  unfold Session.setup
  dsimp only
  split
  · next h => simp [h, Except.isOk, Except.toBool]
  · next h =>
    rw [configure_props]
    simp [h, Except.isOk, Except.toBool]

theorem change_get? (s : Session) (uri u : String) (edits : List (Edit Position)) :
    (s.change u edits).1.docs.get? uri = if u = uri then
      (s.docs.get? uri).map (Document.edited s.encoding edits) else s.docs.get? uri := by
  unfold Session.change
  by_cases hu : u = uri
  · subst hu
    rw [if_pos rfl]
    cases hd : s.docs.get? u with
    | none => exact hd
    | some d => exact Documents.get?_insert_self s.docs u _
  · rw [if_neg hu]
    cases s.docs.get? u with
    | none => rfl
    | some d => exact Documents.get?_insert_of_ne s.docs (Ne.symm hu) _

theorem isOk_map {ε α β : Type} (f : α → β) (x : Except ε α) : (x.map f).isOk = x.isOk := by
  cases x <;> rfl

theorem isOk_iff {ε α : Type} {x : Except ε α} : x.isOk = true ↔ ∃ a, x = .ok a := by
  cases x <;> simp [Except.isOk, Except.toBool]

theorem isOk_checkRoot (p : Setup) :
    (Session.checkRoot p).isOk = (p.rootUri.all (fun uri => (Uri.path uri).isOk)
      && (p.rootUri.isSome || p.rootPath.all fun path => !Session.isBareServer path.toList)) := by
  unfold Session.checkRoot
  cases p.rootUri with
  | some uri =>
    have herr : ((Uri.path uri).mapError RequestError.uri).isOk = (Uri.path uri).isOk := by
      cases Uri.path uri <;> rfl
    simp [isOk_map, herr]
  | none =>
    cases p.rootPath with
    | none => rfl
    | some path =>
      dsimp only
      cases hb : Session.isBareServer path.toList <;> simp [hb, Except.isOk, Except.toBool]

theorem isOk_rootOf (p : Setup) (known : Option String) (h : (Session.checkRoot p).isOk = true) :
    (Session.rootOf p known).isOk = p.folders.head?.all (fun uri => (Uri.path uri).isOk) := by
  unfold Session.rootOf
  cases p.folders with
  | cons folder _ => simp [isOk_map]
  | nil =>
    have hroot : (Uri.path (p.rootUri.getD "")).isOk = true := by
      rw [isOk_checkRoot] at h
      cases hu : p.rootUri with
      | none => decide +kernel
      | some uri => rw [hu] at h; simpa using h
    dsimp only
    split
    · simp [isOk_map, hroot]
    · split <;> rfl

theorem isReadable_eq (p : Setup) (known : Option String) :
    p.isReadable = ((Session.checkRoot p).isOk && (Session.rootOf p known).isOk) := by
  cases h : (Session.checkRoot p).isOk with
  | true =>
    rw [Bool.true_and, isOk_rootOf p known h]
    rw [isOk_checkRoot] at h
    rw [Setup.isReadable, Bool.and_assoc, h, Bool.and_true]
  | false =>
    rw [isOk_checkRoot] at h
    rw [Setup.isReadable, Bool.and_assoc, h, Bool.and_false, Bool.false_and]

/-! ## steps -/

theorem step_setup (s : Session) (p : Setup) :
    (s.step (.setup p)).1 = if (Session.checkRoot p).isOk then (s.setup p).1 else s := by
  rw [Session.step]
  cases Session.checkRoot p <;> rfl

theorem step_changed (s : Session) (uri : String) (edits : List (Edit (Int × Int))) :
    (s.step (.changed uri edits)).1 =
      ((edits.mapM Edit.check).toOption.map fun edits => (s.change uri edits).1).getD s := by
  rw [Session.step]
  cases edits.mapM Edit.check <;> rfl

theorem step_supports (s : Session) (uri : String) : (s.step (.supports uri)).1 = s := by
  rw [Session.step]
  cases s.serves uri <;> rfl

theorem step_completion (s : Session) (uri : String) (line character : Int) :
    (s.step (.completion uri line character)).1 = s := by
  rw [Session.step]
  cases Position.check line character with
  | error e => rfl
  | ok p => dsimp only; cases s.complete uri p <;> rfl

/-- a request that fails changes nothing at all -/
theorem step_of_failed {s : Session} {r : Request} {e : RequestError}
    (h : (s.step r).2.answer = .failed e) : (s.step r).1 = s := by
  cases r with
  | setup p =>
    rw [Session.step] at h
    rw [step_setup]
    cases hc : Session.checkRoot p with
    | error e => rfl
    | ok u => rw [hc] at h; exact absurd h (by simp)
  | configured payload => exact absurd h (by simp [Session.step])
  | opened uri languageId content => exact absurd h (by simp [Session.step, Session.shown])
  | changed uri edits =>
    rw [Session.step] at h
    rw [step_changed]
    cases hc : edits.mapM Edit.check with
    | error e => rfl
    | ok edits => rw [hc] at h; exact absurd h (by simp [Session.shown])
  | closed uri => exact absurd h (by simp [Session.step, Session.shown])
  | supports uri => exact step_supports s uri
  | completion uri line character => exact step_completion s uri line character

theorem change_encoding (s : Session) (uri : String) (edits : List (Edit Position)) :
    (s.change uri edits).1.encoding = s.encoding := by
  unfold Session.change
  cases s.docs.get? uri <;> rfl

theorem change_props (s : Session) (uri : String) (edits : List (Edit Position)) :
    (s.change uri edits).1.props = s.props := by
  unfold Session.change
  cases s.docs.get? uri <;> rfl

theorem step_encoding (s : Session) (r : Request) :
    (s.step r).1.encoding = r.encoding?.getD s.encoding := by
  cases r with
  | setup p =>
    rw [step_setup, Request.encoding?]
    split
    · exact setup_encoding s p
    · rfl
  | configured payload => exact configure_encoding s payload
  | opened uri languageId content => rfl
  | changed uri edits =>
    rw [step_changed]
    cases (edits.mapM Edit.check).toOption with
    | none => rfl
    | some edits => exact change_encoding s uri edits
  | closed uri => rfl
  | supports uri => rw [step_supports]; rfl
  | completion uri line character => rw [step_completion]; rfl

theorem step_props (s : Session) (r : Request) :
    (s.step r).1.props =
      ((if r.isRead then r.settings? else none).map fun v => (ofPayload v).1).getD s.props := by
  cases r with
  | setup p =>
    show _ = ((if p.isReadable then p.options.present? else none).map fun v =>
      (ofPayload v).1).getD s.props
    rw [step_setup, isReadable_eq p s.root]
    cases (Session.checkRoot p).isOk with
    | false => rfl
    | true =>
      rw [if_pos rfl, setup_props, Bool.true_and]
      split <;> rfl
  | configured payload => exact configure_props s payload
  | opened uri languageId content => rfl
  | changed uri edits =>
    rw [step_changed]
    cases (edits.mapM Edit.check).toOption with
    | none => rfl
    | some edits => exact change_props s uri edits
  | closed uri => rfl
  | supports uri => rw [step_supports]; rfl
  | completion uri line character => rw [step_completion]; rfl

theorem step_get? (s : Session) (r : Request) (uri : String) :
    (s.step r).1.docs.get? uri = r.onDocument uri s.encoding (s.docs.get? uri) := by
  cases r with
  | setup p =>
    rw [step_setup]
    split
    · rw [setup_docs]; rfl
    · rfl
  | configured payload =>
    show (s.configure payload).1.docs.get? uri = _
    rw [configure_docs]
    rfl
  | opened u languageId content =>
    show (s.docs.insert u ⟨languageId, content⟩).get? uri = if u = uri then _ else _
    by_cases hu : u = uri
    · rw [if_pos hu, hu, Documents.get?_insert_self]
    · rw [if_neg hu, Documents.get?_insert_of_ne s.docs (Ne.symm hu)]
  | changed u edits =>
    rw [step_changed, onDocument_changed, Request.edits?]
    cases (edits.mapM Edit.check).toOption with
    | none => rw [ite_self]; rfl
    | some edits =>
      show (s.change u edits).1.docs.get? uri = _
      rw [change_get?]
      split <;> rfl
  | closed u =>
    show (s.docs.erase u).get? uri = if u = uri then _ else _
    by_cases hu : u = uri
    · rw [if_pos hu, hu, Documents.get?_erase_self]
    · rw [if_neg hu, Documents.get?_erase_of_ne s.docs (Ne.symm hu)]
  | supports u => rw [step_supports]; rfl
  | completion u line character => rw [step_completion]; rfl

/-! ## runs -/

/-- A part of the session that each request sets or keeps has, after a run, the last value to which
it was set. -/
theorem run_last {α : Type} (part : Session → α) (value? : Request → Option α)
    (hstep : ∀ s r, part (s.step r).1 = (value? r).getD (part s)) (s : Session)
    (rs : List Request) : part (s.run rs).1 = (rs.filterMap value?).getLastD (part s) := by
  induction rs generalizing s with
  | nil => rfl
  | cons r rs ih =>
    rw [Session.run_cons, List.filterMap_cons]
    show part ((s.step r).1.run rs).1 = _
    rw [ih, hstep]
    cases value? r with
    | none => rfl
    | some a => rw [List.getLastD_cons]; rfl

end ElementProps
