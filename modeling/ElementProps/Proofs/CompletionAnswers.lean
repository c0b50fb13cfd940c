import ElementProps.Proofs.RequestEffect

/-!
# Answers to requests for completions

Completions are offered for an open document when its language says so, or else its file name. The
file name is the path of the URI, and a URI with a bad authority has none: that is the one way in
which a request at a good position fails.

* `KnownLanguage d`         the language of a document says that completions are offered;
* `isOk_serves_iff`         when it can be told whether completions are offered;
* `isOk_path_of_plain`      a URI without brackets and without characters that look like delimiters
                            has a path;
* `completion_answered`     when a request for completions is answered, and when with none.
-/

namespace ElementProps

/-! ## documents for which completions are offered -/

def KnownLanguage (d : Document) : Prop := d.languageId = some "lua" ∨ d.languageId = some "luau"

theorem any_languageIds_iff (d : Document) :
    d.languageId.any Session.languageIds.contains = true ↔ KnownLanguage d := by
  unfold KnownLanguage Session.languageIds
  cases d.languageId with
  | none => simp
  | some l => simp

theorem hasKnownSuffix_iff (path : Text) :
    Session.hasKnownSuffix path = true ↔ ".lua".toList <:+ path ∨ ".luau".toList <:+ path := by
  simp [Session.hasKnownSuffix, Session.fileSuffixes]

section
variable {s : Session} {uri : String}

theorem serves_of_closed (h : s.docs.get? uri = none) : s.serves uri = .ok false := by
  rw [Session.serves, h]

theorem serves_of_knownLanguage {d : Document} (h : s.docs.get? uri = some d)
    (hd : KnownLanguage d) : s.serves uri = .ok true := by
  rw [Session.serves, h]
  exact if_pos ((any_languageIds_iff d).2 hd)

theorem serves_of_not_knownLanguage {d : Document} (h : s.docs.get? uri = some d)
    (hd : ¬ KnownLanguage d) : s.serves uri = (Uri.path uri).map Session.hasKnownSuffix := by
  rw [Session.serves, h]
  exact if_neg fun hl => hd ((any_languageIds_iff d).1 hl)

/-- whether completions are offered can be told unless the URI is needed and has no path -/
theorem isOk_serves_iff : (s.serves uri).isOk = true ↔
    ∀ d, s.docs.get? uri = some d → KnownLanguage d ∨ ∃ path, Uri.path uri = .ok path := by
  cases hd : s.docs.get? uri with
  | none =>
    rw [serves_of_closed hd, isOk_iff]
    simp
  | some d =>
    by_cases hl : KnownLanguage d
    · rw [serves_of_knownLanguage hd hl]
      refine ⟨fun _ d' hd' => ?_, fun _ => rfl⟩
      obtain rfl := Option.some.inj hd'
      exact Or.inl hl
    · rw [serves_of_not_knownLanguage hd hl, isOk_map, isOk_iff]
      constructor
      · intro h d' _
        exact Or.inr h
      · intro h
        exact (h d rfl).resolve_left hl

/-! ## answers -/

theorem inRange_iff (n : Int) : Position.inRange n = true ↔ 0 ≤ n ∧ n ≤ 2147483647 := by
  unfold Position.inRange Position.max
  rw [Bool.and_eq_true, decide_eq_true_eq, decide_eq_true_eq]
  exact Iff.rfl

theorem check_of_inRange {line character : Int} (hl : 0 ≤ line ∧ line ≤ 2147483647)
    (hc : 0 ≤ character ∧ character ≤ 2147483647) :
    Position.check line character = .ok ⟨line.toNat, character.toNat⟩ := by
  rw [Position.check, (inRange_iff line).2 hl, (inRange_iff character).2 hc]
  rfl

variable {line character : Int} {p : Position}

theorem step_completion_of_error {e : Uri.Error} (hp : Position.check line character = .ok p)
    (h : s.serves uri = .error e) :
    s.step (.completion uri line character) = (s, ⟨.failed (.uri e), []⟩) := by
  rw [Session.step, hp]
  simp only [Session.complete, h]
  rfl

theorem step_completion_of_not_served (hp : Position.check line character = .ok p)
    (h : s.serves uri = .ok false) :
    s.step (.completion uri line character) = (s, ⟨.completions [], []⟩) := by
  rw [Session.step, hp]
  simp only [Session.complete, h]
  rfl

theorem step_completion_of_served {d : Document} (hp : Position.check line character = .ok p)
    (hd : s.docs.get? uri = some d) (h : s.serves uri = .ok true) :
    ∃ log, s.step (.completion uri line character) =
      (s, ⟨.completions (Completer.complete {} s.props d.content (p.offset s.encoding d.content)),
        log⟩) := by
  rw [Session.step, hp]
  simp only [Session.complete, h, hd, Except.map]
  exact ⟨_, rfl⟩

theorem completion_answered_iff (hp : Position.check line character = .ok p) :
    (∃ items log, s.step (.completion uri line character) = (s, ⟨.completions items, log⟩)) ↔
      (s.serves uri).isOk = true := by
  cases h : s.serves uri with
  | error e =>
    rw [step_completion_of_error hp h, isOk_iff]
    simp
  | ok yes =>
    refine ⟨fun _ => rfl, fun _ => ?_⟩
    rw [Session.step, hp]
    simp only [Session.complete, h, Except.map]
    exact ⟨_, _, rfl⟩

end

/-! ## URIs that have a path -/

/-- no bracket, and no character that looks like a delimiter -/
def Plain (t : Text) : Prop := ∀ c ∈ t, c ≠ '[' ∧ c ≠ ']' ∧ Uri.isLookalike c = false

theorem Plain.of_subset {t r : Text} (h : Plain t) (hr : r ⊆ t) : Plain r := fun c hc => h c (hr hc)

theorem Plain.isOk_checkAuthority {t : Text} (h : Plain t) : (Uri.checkAuthority t).isOk = true := by
  have hopen : t.contains '[' = false := by
    rw [← Bool.not_eq_true, List.contains_iff_mem]
    exact fun hc => (h _ hc).1 rfl
  have hclose : t.contains ']' = false := by
    rw [← Bool.not_eq_true, List.contains_iff_mem]
    exact fun hc => (h _ hc).2.1 rfl
  have hlook : t.any Uri.isLookalike = false := by
    rw [List.any_eq_false]
    intro c hc
    rw [(h c hc).2.2]
    exact Bool.false_ne_true
  rw [Uri.checkAuthority, Uri.checkBrackets, hopen, hclose, hlook]
  rfl

theorem clean_subset (t : Text) : Uri.clean t ⊆ t :=
  List.Subset.trans List.filter_sublist.subset (List.dropWhile_sublist _).subset

theorem dropScheme_subset (t : Text) : Uri.dropScheme t ⊆ t := by
  unfold Uri.dropScheme
  split
  · next hrest =>
    split
    · intro c hc
      refine (List.dropWhile_sublist (· != ':')).subset ?_
      rw [hrest]
      exact List.mem_cons_of_mem _ hc
    · exact List.Subset.refl t
  · exact List.Subset.refl t

theorem Plain.isOk_dropAuthority {t : Text} (h : Plain t) : (Uri.dropAuthority t).isOk = true := by
  unfold Uri.dropAuthority
  split
  · next r =>
    rw [isOk_map]
    refine (h.of_subset (r := _) fun c hc => ?_).isOk_checkAuthority
    exact List.mem_cons_of_mem _ (List.mem_cons_of_mem _ ((List.takeWhile_sublist _).subset hc))
  · rfl

theorem isOk_path_of_plain {uri : String} (h : Plain uri.toList) : (Uri.path uri).isOk = true := by
  rw [Uri.path, isOk_map, Uri.rawPath, isOk_map]
  exact ((h.of_subset (clean_subset _)).of_subset (dropScheme_subset _)).isOk_dropAuthority

/-! ## requests at good positions -/

/-- **When a request for completions is answered.** At a good position a request fails only for an
open document whose language is not known and whose URI has no path. The answer holds no completions
when the document is not open, and when neither its language nor its file name is known. -/
theorem completion_answered (s : Session) (uri : String) (line character : Int)
    (hline : 0 ≤ line ∧ line ≤ 2147483647) (hcharacter : 0 ≤ character ∧ character ≤ 2147483647) :
    ((∃ items log, s.step (.completion uri line character) = (s, ⟨.completions items, log⟩)) ↔
      ∀ d, s.docs.get? uri = some d → KnownLanguage d ∨ ∃ path, Uri.path uri = .ok path) ∧
    (Plain uri.toList →
      ∃ items log, s.step (.completion uri line character) = (s, ⟨.completions items, log⟩)) ∧
    (∀ d e, s.docs.get? uri = some d → ¬ KnownLanguage d → Uri.path uri = .error e →
      s.step (.completion uri line character) = (s, ⟨.failed (.uri e), []⟩)) ∧
    (s.docs.get? uri = none →
      s.step (.completion uri line character) = (s, ⟨.completions [], []⟩)) ∧
    (∀ d path, s.docs.get? uri = some d → ¬ KnownLanguage d → Uri.path uri = .ok path →
      ¬ ".lua".toList <:+ path → ¬ ".luau".toList <:+ path →
      s.step (.completion uri line character) = (s, ⟨.completions [], []⟩)) := by
  have hp := check_of_inRange hline hcharacter
  have hiff : (∃ items log,
      s.step (.completion uri line character) = (s, ⟨.completions items, log⟩)) ↔
        ∀ d, s.docs.get? uri = some d → KnownLanguage d ∨ ∃ path, Uri.path uri = .ok path :=
    (completion_answered_iff hp).trans isOk_serves_iff
  refine ⟨hiff, fun hplain => ?_, fun d e hd hl he => ?_, fun hd => ?_, ?_⟩
  · rw [hiff]
    intro d _
    exact Or.inr (isOk_iff.1 (isOk_path_of_plain hplain))
  · refine step_completion_of_error hp ?_
    rw [serves_of_not_knownLanguage hd hl, he]
    rfl
  · exact step_completion_of_not_served hp (serves_of_closed hd)
  · intro d path hd hl hpath hlua hluau
    refine step_completion_of_not_served hp ?_
    have hsuffix : Session.hasKnownSuffix path = false := by
      rw [← Bool.not_eq_true, hasKnownSuffix_iff]
      exact fun h => h.elim hlua hluau
    rw [serves_of_not_knownLanguage hd hl, hpath]
    exact congrArg Except.ok hsuffix

/-- a text document with a good name, one with a bad authority in Lua, and one that is not open -/
theorem completion_answered_texts :
    let s := (Session.run {} [.opened "file:///a.txt" none [], .opened "//[" (some "lua") []]).1
    s.step (.completion "file:///a.txt" 0 7) = (s, ⟨.completions [], []⟩) ∧
    (∃ items log, s.step (.completion "//[" 0 0) = (s, ⟨.completions items, log⟩)) ∧
    s.step (.completion "//]" 2147483647 0) = (s, ⟨.completions [], []⟩) := by
  intro s
  have ha : s.docs.get? "file:///a.txt" = some ⟨none, []⟩ := by decide +kernel
  have hb : s.docs.get? "//[" = some ⟨some "lua", []⟩ := by decide +kernel
  refine ⟨?_, ?_, ?_⟩
  · exact (completion_answered s "file:///a.txt" 0 7 (by decide) (by decide)).2.2.2.2 ⟨none, []⟩
      "/a.txt".toList ha (by simp [KnownLanguage]) rfl (by decide) (by decide)
  · refine (completion_answered s "//[" 0 0 (by decide) (by decide)).1.2 fun d hd => ?_
    rw [hb] at hd
    obtain rfl := Option.some.inj hd
    exact Or.inl (Or.inl rfl)
  · exact (completion_answered s "//]" 2147483647 0 (by decide) (by decide)).2.2.2.1
      (by decide +kernel)

/-- a text document whose URI has a bad authority -/
theorem completion_failed_behind_authority :
    ((Session.run {} [.opened "http://[x" (some "plaintext") []]).1.step
      (.completion "http://[x" 0 0)).2.answer = .failed (.uri .brackets) := rfl

end ElementProps
