import ElementProps.Proofs.CompletionAnswers
import ElementProps.Proofs.WholeDocument

/-!
# The completions of an answer

The items of an answer differ from each other in what they show and in what they insert, although
nothing looks at that where items are made: the names of a class are made distinct when settings are
read, and no request brings in others. All items of an answer belong to one class, that of the last
call in the text that completion looks at.

* `escapeChars_inj`           different names are different as snippet text;
* `NamesDistinct m`           no class of a property map has a name twice;
* `run_namesDistinct`         so it is in every session that can be reached;
* `run_getElem?`              the reply to a request is that of the session before it;
* `OfClass props w c items`   the items are the properties of the class `c`, called in `w`;
* `completions_wellFormed`    every answer of every run is of this kind.
-/

namespace ElementProps

/-! ## snippet text -/

theorem escapeChars_cons_mark {c : Char} (h : isSnippetMark c = true) (t : List Char) :
    escapeChars (c :: t) = '\\' :: c :: escapeChars t := by
  show (if isSnippetMark c then ['\\', c] else [c]) ++ escapeChars t = _
  rw [if_pos h]
  rfl

theorem escapeChars_cons_plain {c : Char} (h : isSnippetMark c = false) (t : List Char) :
    escapeChars (c :: t) = c :: escapeChars t := by
  show (if isSnippetMark c then ['\\', c] else [c]) ++ escapeChars t = _
  rw [h]
  rfl

/-- the first character of an escaped text is a backslash exactly when an escape begins there -/
theorem escapeChars_ne {c d : Char} (hc : isSnippetMark c = true) (hd : isSnippetMark d = false)
    (s t : List Char) : escapeChars (c :: s) ≠ escapeChars (d :: t) := by
  rw [escapeChars_cons_mark hc, escapeChars_cons_plain hd]
  intro h
  rw [← (List.cons.inj h).1] at hd
  exact absurd hd (by decide)

theorem escapeChars_ne_nil (c : Char) (t : List Char) : escapeChars (c :: t) ≠ [] := by
  cases h : isSnippetMark c with
  | true => rw [escapeChars_cons_mark h]; exact List.cons_ne_nil _ _
  | false => rw [escapeChars_cons_plain h]; exact List.cons_ne_nil _ _

theorem escapeChars_inj {s t : List Char} (h : escapeChars s = escapeChars t) : s = t := by
  induction s generalizing t with
  | nil =>
    cases t with
    | nil => rfl
    | cons d t => exact absurd h.symm (escapeChars_ne_nil d t)
  | cons c s ih =>
    cases t with
    | nil => exact absurd h (escapeChars_ne_nil c s)
    | cons d t =>
      cases hc : isSnippetMark c with
      | true =>
        cases hd : isSnippetMark d with
        | true =>
          rw [escapeChars_cons_mark hc, escapeChars_cons_mark hd] at h
          obtain ⟨hcd, hrest⟩ := List.cons.inj (List.cons.inj h).2
          rw [hcd, ih hrest]
        | false => exact absurd h (escapeChars_ne hc hd s t)
      | false =>
        cases hd : isSnippetMark d with
        | true => exact absurd h.symm (escapeChars_ne hd hc t s)
        | false =>
          rw [escapeChars_cons_plain hc, escapeChars_cons_plain hd] at h
          obtain ⟨hcd, hrest⟩ := List.cons.inj h
          rw [hcd, ih hrest]

theorem insertText_inj {className m n : String}
    (h : (Completion.ofProperty className m).insertText =
      (Completion.ofProperty className n).insertText) : m = n := by
  have hescape : escape m = escape n := (String.append_left_inj " = $0").1 h
  exact String.toList_inj.1 (escapeChars_inj (String.ofList_inj.1 hescape))

theorem nodup_insertText {names : List String} (h : names.Nodup) (className : String) :
    ((completionsFor className names).map Completion.insertText).Nodup := by
  rw [completionsFor, List.map_map]
  apply List.Pairwise.map _ _ h
  intro m n hne he
  exact hne (insertText_inj he)

theorem detail_of_mem {className : String} {names : List String} {item : Completion}
    (h : item ∈ completionsFor className names) :
    item.detail = className ++ " property (React Luau helper)" := by
  obtain ⟨name, -, rfl⟩ := List.mem_map.1 h
  rfl

/-! ## names of a property map -/

/-- no class has a name twice -/
def PropertyMap.NamesDistinct (m : PropertyMap) : Prop := ∀ entry ∈ m, entry.2.Nodup

instance (m : PropertyMap) : Decidable m.NamesDistinct :=
  inferInstanceAs (Decidable (∀ entry ∈ m, entry.2.Nodup))

theorem PropertyMap.NamesDistinct.nodup_of_get? {m : PropertyMap} (h : m.NamesDistinct)
    {className : String} {names : List String} (hget : m.get? className = some names) :
    names.Nodup := by
  obtain ⟨front, back, rfl, -⟩ := List.lookup_eq_some_iff.1 hget
  exact h (className, names) (by simp)

theorem namesDistinct_builtin : PropertyMap.builtin.NamesDistinct := by decide +kernel

theorem namesDistinct_ofJson {v : Json} {m : PropertyMap} (h : (PropertyMap.ofJson v).1 = some m) :
    m.NamesDistinct := by
  cases v with
  | obj members =>
    obtain rfl := Option.some.inj h
    intro entry hentry
    obtain ⟨⟨className, value⟩, -, he⟩ := List.mem_filterMap.1 hentry
    cases value with
    | arr items =>
      obtain rfl := Option.some.inj he
      exact nodup_distinct _
    | _ => exact absurd he (by simp [entryOf?])
  | _ => exact absurd h (by simp [PropertyMap.ofJson])

theorem namesDistinct_ofPayload {v : Json} {m : PropertyMap} (h : (ofPayload v).1 = some m) :
    m.NamesDistinct := by
  unfold ofPayload at h
  split at h
  · split at h
    · exact namesDistinct_ofJson h
    · exact absurd h (by simp)
  · exact absurd h (by simp)

/-! ## sessions that can be reached -/

/-- a request keeps the names of the settings in force distinct -/
theorem step_namesDistinct {s : Session} (hs : ∀ m ∈ s.props, m.NamesDistinct) (r : Request) :
    ∀ m ∈ (s.step r).1.props, m.NamesDistinct := by
  intro m hm
  rw [step_props] at hm
  cases hv : (if r.isRead then r.settings? else none) with
  | none =>
    rw [hv] at hm
    exact hs m hm
  | some v =>
    rw [hv] at hm
    exact namesDistinct_ofPayload hm

theorem run_namesDistinct {s : Session} (hs : ∀ m ∈ s.props, m.NamesDistinct)
    (rs : List Request) : ∀ m ∈ (s.run rs).1.props, m.NamesDistinct := by
  induction rs generalizing s with
  | nil => exact hs
  | cons r rs ih =>
    show ∀ m ∈ ((s.step r).1.run rs).1.props, m.NamesDistinct
    exact ih (step_namesDistinct hs r)

/-- the session that gets the request `i` of a run -/
def Session.before (rs : List Request) (i : Nat) : Session := (Session.run {} (rs.take i)).1

theorem run_getElem? (s : Session) (rs : List Request) (i : Nat) :
    (s.run rs).2[i]? = rs[i]?.map fun r => ((s.run (rs.take i)).1.step r).2 := by
  induction rs generalizing s i with
  | nil => rfl
  | cons r rs ih =>
    cases i with
    | zero => rfl
    | succ i =>
      show ((s.step r).1.run rs).2[i]? = _
      rw [ih]
      rfl

/-! ## the names offered for a class -/

theorem nodup_of_offered {user : Option PropertyMap} (huser : ∀ m ∈ user, m.NamesDistinct)
    {className : String} {names : List String}
    (h : PropertyMap.offered PropertyMap.builtin user className = some names) : names.Nodup := by
  unfold PropertyMap.offered at h
  split at h
  · next p ps hget =>
    obtain ⟨m, hm, hget⟩ := Option.bind_eq_some_iff.1 hget
    rw [← Option.some.inj h]
    exact (huser m hm).nodup_of_get? hget
  · exact namesDistinct_builtin.nodup_of_get? h

/-- the list of the settings, if it has names -/
theorem offered_of_configured {builtin : PropertyMap} {user : Option PropertyMap}
    {className : String} {names : List String} (h : user.bind (·.get? className) = some names)
    (hne : names ≠ []) : PropertyMap.offered builtin user className = some names := by
  unfold PropertyMap.offered
  rw [h]
  cases names with
  | nil => exact absurd rfl hne
  | cons p ps => rfl

/-- the built-in list otherwise -/
theorem offered_of_not_configured {builtin : PropertyMap} {user : Option PropertyMap}
    {className : String} (h : ∀ names, user.bind (·.get? className) = some names → names = []) :
    PropertyMap.offered builtin user className = builtin.get? className := by
  unfold PropertyMap.offered
  cases hget : user.bind (·.get? className) with
  | none => rfl
  | some names =>
    rw [h names hget]

/-! ## answers -/

/-- The items are the properties of a class, which the last call of a text names. Their labels are
the list of the settings, or the built-in list where the settings have no names for the class. -/
structure OfClass (props : Option PropertyMap) (w : Text) (c : String) (items : List Completion) :
    Prop where
  named : ClassName c.toList
  called : ∃ call ∈ elementCalls w, call.className = c ∧
    ∀ other ∈ elementCalls w, other.start ≤ call.start
  detail : ∀ item ∈ items, item.detail = c ++ " property (React Luau helper)"
  configured : ∀ names, props.bind (·.get? c) = some names → names ≠ [] →
    items.map Completion.label = names
  otherwise : (∀ names, props.bind (·.get? c) = some names → names = []) →
    PropertyMap.builtin.get? c = some (items.map Completion.label)

theorem CallText.className {name u : Text} (h : CallText name u) : ClassName name := by
  obtain ⟨-, -, -, hname, -, -, -⟩ := h
  exact hname

/-- completion offers nothing, or the names of the class of the last call before the cursor -/
theorem completions_complete (k : Completer) (user : Option PropertyMap) (t : Text)
    (offset : Int) : k.complete user t offset = [] ∨
      ∃ call names, (elementCalls (beforeCursor t offset k.lookback)).getLast? = some call ∧
        PropertyMap.offered k.builtin user call.className = some names ∧
        k.complete user t offset = completionsFor call.className names := by
  rw [Completer.complete, Completer.find, findIn_eq]
  cases hlast : (elementCalls (beforeCursor t offset k.lookback)).getLast? with
  | none => exact Or.inl rfl
  | some call =>
    by_cases hnil : (findingInTable k.builtin user call.className
        ((beforeCursor t offset k.lookback).drop (call.brace + 1))).completions = []
    · exact Or.inl hnil
    · obtain ⟨names, hoffered, hne, hopen⟩ := of_findingInTable_completions_ne_nil hnil
      exact Or.inr ⟨call, names, rfl, hoffered,
        findingInTable_completions_of_open hoffered hne hopen⟩

theorem ofClass_of_offered {user : Option PropertyMap} {w : Text} {call : ElementCall}
    {names : List String} (hlast : (elementCalls w).getLast? = some call)
    (hoffered : PropertyMap.offered PropertyMap.builtin user call.className = some names) :
    OfClass user w call.className (completionsFor call.className names) := by
  obtain ⟨hcall, hmax⟩ := getLast?_elementCalls_eq_some_iff.1 hlast
  refine ⟨hcall.text.className, ⟨call, mem_elementCalls.2 hcall, rfl, ?_⟩, ?_, ?_, ?_⟩
  · intro other hother
    exact hmax other (mem_elementCalls.1 hother)
  · intro item hitem
    exact detail_of_mem hitem
  · intro configured hget hne
    rw [offered_of_configured hget hne] at hoffered
    rw [map_label_completionsFor, Option.some.inj hoffered]
  · intro hnone
    rw [offered_of_not_configured hnone] at hoffered
    rw [map_label_completionsFor, hoffered]

theorem check_eq_ok {line character : Int} {p : Position}
    (h : Position.check line character = .ok p) : p = ⟨line.toNat, character.toNat⟩ := by
  unfold Position.check at h
  split at h
  · exact absurd h (by simp)
  · split at h
    · exact absurd h (by simp)
    · exact (Except.ok.inj h).symm

/-- only requests for completions are answered with completions -/
theorem completion_of_answer {s : Session} {r : Request} {items : List Completion}
    (h : (s.step r).2.answer = .completions items) :
    ∃ uri line character, r = .completion uri line character := by
  cases r with
  | setup p =>
    rw [Session.step] at h
    cases hc : Session.checkRoot p with
    | error e => rw [hc] at h; exact absurd h (by simp [Session.refused])
    | ok u => rw [hc] at h; exact absurd h (by simp)
  | configured payload => exact absurd h (by simp [Session.step])
  | opened uri languageId content => exact absurd h (by simp [Session.step, Session.shown])
  | changed uri edits =>
    rw [Session.step] at h
    cases hc : edits.mapM Edit.check with
    | error e => rw [hc] at h; exact absurd h (by simp [Session.refused])
    | ok edits => rw [hc] at h; exact absurd h (by simp [Session.shown])
  | closed uri => exact absurd h (by simp [Session.step, Session.shown])
  | supports uri =>
    rw [Session.step] at h
    cases hc : s.serves uri with
    | error e => rw [hc] at h; exact absurd h (by simp [Session.refused])
    | ok yes => rw [hc] at h; exact absurd h (by simp)
  | completion uri line character => exact ⟨uri, line, character, rfl⟩

/-- an answer holds nothing, or what completion finds in an open document -/
theorem items_of_answer {s : Session} {uri : String} {line character : Int}
    {items : List Completion}
    (h : (s.step (.completion uri line character)).2.answer = .completions items) :
    items = [] ∨ ∃ d, s.docs.get? uri = some d ∧
      items = Completer.complete {} s.props d.content
        (Position.offset s.encoding d.content ⟨line.toNat, character.toNat⟩) := by
  cases hp : Position.check line character with
  | error e =>
    rw [Session.step, hp] at h
    exact absurd h (by simp [Session.refused])
  | ok p =>
    obtain rfl := check_eq_ok hp
    cases hserves : s.serves uri with
    | error e =>
      rw [step_completion_of_error hp hserves] at h
      exact absurd h (by simp)
    | ok yes =>
      cases yes with
      | false =>
        rw [step_completion_of_not_served hp hserves] at h
        exact Or.inl (Answer.completions.inj h).symm
      | true =>
        cases hd : s.docs.get? uri with
        | none =>
          rw [serves_of_closed hd] at hserves
          exact absurd (Except.ok.inj hserves) (by simp)
        | some d =>
          obtain ⟨log, hstep⟩ := step_completion_of_served hp hd hserves
          rw [hstep] at h
          exact Or.inr ⟨d, rfl, (Answer.completions.inj h).symm⟩

/-- **Completion lists are well formed in every reachable state.** In every run, the items of every
answer have distinct labels and distinct insert texts. If there are any, they are the properties of
one class, called in the last characters before the cursor: the list that the settings in force give
it, or else the built-in one. -/
theorem completions_wellFormed (rs : List Request) (i : Nat) (items : List Completion)
    (log : List Log.Record)
    (h : (Session.run {} rs).2[i]? = some ⟨.completions items, log⟩) :
    (items.map Completion.label).Nodup ∧ (items.map Completion.insertText).Nodup ∧
    (items ≠ [] → ∃ uri line character d c,
      rs[i]? = some (.completion uri line character) ∧
      (Session.before rs i).docs.get? uri = some d ∧
      OfClass (Session.before rs i).props
        (beforeCursor d.content
          (Position.offset (Session.before rs i).encoding d.content ⟨line.toNat, character.toNat⟩)
          defaultLookback)
        c items) := by
  rw [run_getElem?] at h
  obtain ⟨r, hr, hreply⟩ := Option.map_eq_some_iff.1 h
  have hanswer : ((Session.before rs i).step r).2.answer = .completions items :=
    congrArg Reply.answer hreply
  obtain ⟨uri, line, character, rfl⟩ := completion_of_answer hanswer
  have hdistinct : ∀ m ∈ (Session.before rs i).props, m.NamesDistinct := by
    apply run_namesDistinct
    intro m hm
    exact absurd hm (by simp)
  rcases items_of_answer hanswer with rfl | ⟨d, hd, rfl⟩
  · exact ⟨List.nodup_nil, List.nodup_nil, fun hne => absurd rfl hne⟩
  · rcases completions_complete {} (Session.before rs i).props d.content
        (Position.offset (Session.before rs i).encoding d.content ⟨line.toNat, character.toNat⟩)
      with hnil | ⟨call, names, hlast, hoffered, he⟩
    · rw [hnil]
      exact ⟨List.nodup_nil, List.nodup_nil, fun hne => absurd rfl hne⟩
    · rw [he]
      have hnames := nodup_of_offered hdistinct hoffered
      refine ⟨?_, nodup_insertText hnames _, fun _ => ?_⟩
      · rw [map_label_completionsFor]
        exact hnames
      · exact ⟨uri, line, character, d, call.className, hr, hd, ofClass_of_offered hlast hoffered⟩

/-- settings that name a property twice, and then a document with one call -/
def namedTwice : List Request :=
  [.configured (.obj [("props", .obj [("Frame",
      .arr [.str "Size", .str "$x", .int 3, .str "Size"])])]),
    .opened "a" (some "luau") "e(Frame, \x7b".toList, .completion "a" 0 10]

theorem completions_wellFormed_namedTwice :
    ∃ log, (Session.run {} namedTwice).2[2]? =
        some ⟨.completions (completionsFor "Frame" ["Size", "$x"]), log⟩ ∧
      ((completionsFor "Frame" ["Size", "$x"]).map Completion.label).Nodup ∧
      ((completionsFor "Frame" ["Size", "$x"]).map Completion.insertText).Nodup ∧
      ∃ uri line character d c,
        namedTwice[2]? = some (.completion uri line character) ∧
        (Session.before namedTwice 2).docs.get? uri = some d ∧
        OfClass (Session.before namedTwice 2).props
          (beforeCursor d.content
            (Position.offset (Session.before namedTwice 2).encoding d.content
              ⟨line.toNat, character.toNat⟩) defaultLookback)
          c (completionsFor "Frame" ["Size", "$x"]) := by
  have hdoc : (Session.before namedTwice 2).docs.get? "a" =
      some ⟨some "luau", "e(Frame, \x7b".toList⟩ := by decide +kernel
  have hp : Position.check 0 10 = .ok ⟨0, 10⟩ := rfl
  obtain ⟨log, hstep⟩ := step_completion_of_served hp hdoc
    (serves_of_knownLanguage hdoc (Or.inr rfl))
  have hitems : Completer.complete {} (Session.before namedTwice 2).props
      "e(Frame, \x7b".toList (Position.offset (Session.before namedTwice 2).encoding
        "e(Frame, \x7b".toList ⟨0, 10⟩) = completionsFor "Frame" ["Size", "$x"] := by
    decide +kernel
  have hreply : (Session.run {} namedTwice).2[2]? =
      some ⟨.completions (completionsFor "Frame" ["Size", "$x"]), log⟩ := by
    rw [run_getElem?, ← hitems]
    exact congrArg (fun x => some x.2) hstep
  have hwf := completions_wellFormed namedTwice 2 _ log hreply
  exact ⟨log, hreply, hwf.1, hwf.2.1, hwf.2.2 (List.cons_ne_nil _ _)⟩

end ElementProps
