import ElementProps.Proofs.CompletionItems

/-!
# What a snippet inserts

An editor reads snippet text from left to right. A backslash takes the meaning off a mark behind
it, and any other `$` begins something that the editor fills in. Escaping goes character by
character and reading is a scan; the scan gives every name back, at any depth of braces and whatever
follows the name.

* `Snippet.Part`                 what an editor finds in snippet text;
* `Snippet.read d t`             the parts of a text inside `d` braces;
* `read_escaped`, `read_plain`   one step over a character of an escaped text;
* `read_escapeChars_append`      an escaped text is read as itself, character by character;
* `snippets_insert_names`        so a completion inserts its name and an assignment.
-/

namespace ElementProps

namespace Snippet

inductive Part where
  /-- a character that is inserted -/
  | literal (c : Char)
  /-- `$` and a number -/
  | tabstop (n : Nat)
  /-- `$` and a name, which may be empty -/
  | named (name : Text)
  /-- `$` and a brace, with the number or name behind it: a tabstop, a placeholder, a choice or a
  variable, all of which may hold further parts -/
  | opening (head : Text)
  /-- the brace that ends the innermost of these -/
  | closing
  deriving DecidableEq, Repr

/-- the parts of snippet text that stands inside `depth` braces -/
def read (depth : Nat) : Text → List Part
  | [] => []
  | '\\' :: '\\' :: t => .literal '\\' :: read depth t
  | '\\' :: '$' :: t => .literal '$' :: read depth t
  | '\\' :: '}' :: t => .literal '}' :: read depth t
  | '$' :: '{' :: t =>
    .opening (t.takeWhile isNameChar) :: read (depth + 1) (t.dropWhile isNameChar)
  | '$' :: t =>
    if (t.takeWhile Char.isDigit).isEmpty then
      .named (t.takeWhile isNameChar) :: read depth (t.dropWhile isNameChar)
    else
      .tabstop (Nat.ofDigitChars 10 (t.takeWhile Char.isDigit) 0)
        :: read depth (t.dropWhile Char.isDigit)
  -- outside all braces a closing brace is a character like others
  | '}' :: t => if depth = 0 then .literal '}' :: read 0 t else .closing :: read (depth - 1) t
  | c :: t => .literal c :: read depth t
termination_by t => t.length
decreasing_by
  all_goals
    have hname := (List.dropWhile_suffix (l := t) isNameChar).length_le
    have hdigit := (List.dropWhile_suffix (l := t) Char.isDigit).length_le
    simp only [List.length_cons]
    omega

theorem read_nil (depth : Nat) : read depth [] = [] := by
  rw [read]

theorem isSnippetMark_iff {c : Char} : isSnippetMark c = true ↔ c = '\\' ∨ c = '$' ∨ c = '}' := by
  simp [isSnippetMark, or_assoc]

theorem read_escaped {c : Char} (h : isSnippetMark c = true) (depth : Nat) (t : Text) :
    read depth ('\\' :: c :: t) = .literal c :: read depth t := by
  rcases isSnippetMark_iff.1 h with rfl | rfl | rfl
  · rw [read]
  · rw [read]
  · rw [read]

theorem read_plain {c : Char} (h : isSnippetMark c = false) (depth : Nat) (t : Text) :
    read depth (c :: t) = .literal c :: read depth t := by
  have hmark : ¬ (c = '\\' ∨ c = '$' ∨ c = '}') := by
    rw [← isSnippetMark_iff, h]
    decide
  obtain ⟨hslash, hrest⟩ := not_or.1 hmark
  obtain ⟨hdollar, hbrace⟩ := not_or.1 hrest
  rw [read]
  · exact fun _ hc _ => hslash hc
  · exact fun _ hc _ => hslash hc
  · exact fun _ hc _ => hslash hc
  · exact fun _ hc _ => hdollar hc
  · exact hdollar
  · exact hbrace

/-- **An escaped text is read as itself.** It does not matter how many braces are open, or what
follows: an escape is complete in itself, so a mark at the end of the text takes nothing off what
stands behind it. -/
theorem read_escapeChars_append (depth : Nat) (t rest : Text) :
    read depth (escapeChars t ++ rest) = t.map Part.literal ++ read depth rest := by
  induction t with
  | nil => rfl
  | cons c t ih =>
    rw [List.map_cons, List.cons_append, ← ih]
    cases h : isSnippetMark c with
    | true =>
      rw [escapeChars_cons_mark h]
      exact read_escaped h depth _
    | false =>
      rw [escapeChars_cons_plain h]
      exact read_plain h depth _

/-- the end of every snippet: an assignment and the place of the cursor -/
theorem read_assignment (depth : Nat) :
    read depth " = $0".toList = " = ".toList.map Part.literal ++ [.tabstop 0] := by
  show read depth [' ', '=', ' ', '$', '0'] = [.literal ' ', .literal '=', .literal ' ', .tabstop 0]
  rw [read_plain rfl, read_plain rfl, read_plain rfl, read]
  · show Part.literal ' ' :: .literal '=' :: .literal ' ' :: .tabstop 0 :: read depth [] = _
    rw [read_nil]
  · exact fun _ h => absurd (List.cons.inj h).1 (by decide)

end Snippet

theorem read_insertText (className name : String) :
    Snippet.read 0 (Completion.ofProperty className name).insertText.toList =
      (name.toList ++ " = ".toList).map .literal ++ [.tabstop 0] := by
  show Snippet.read 0 (String.ofList (escapeChars name.toList) ++ " = $0").toList = _
  rw [String.toList_append, String.toList_ofList, Snippet.read_escapeChars_append,
    Snippet.read_assignment, List.map_append, List.append_assoc]

/-- **Snippets insert exactly the property name.** There is one completion for each name, in the
order of the names. It is labelled with its name, and an editor reads its snippet as the characters
of the name and of an assignment, followed by the final tabstop and nothing else. So different names
have different snippets. -/
theorem snippets_insert_names (className : String) (names : List String) :
    (completionsFor className names).length = names.length ∧
    (∀ (i : Nat) (name : String), names[i]? = some name →
      ∃ item, (completionsFor className names)[i]? = some item ∧ item.label = name ∧
        Snippet.read 0 item.insertText.toList =
          (name.toList ++ " = ".toList).map .literal ++ [.tabstop 0]) ∧
    (∀ a ∈ completionsFor className names, ∀ b ∈ completionsFor className names,
      a.label ≠ b.label → a.insertText ≠ b.insertText) := by
  refine ⟨List.length_map _, fun i name hi => ?_, fun a ha b hb hne heq => ?_⟩
  · refine ⟨Completion.ofProperty className name, ?_, rfl, read_insertText className name⟩
    rw [completionsFor, List.getElem?_map, hi]
    rfl
  · obtain ⟨m, -, rfl⟩ := List.mem_map.1 ha
    obtain ⟨n, -, rfl⟩ := List.mem_map.1 hb
    exact hne (insertText_inj heq)

/-- a name that looks like a placeholder, and one that ends in a backslash before the assignment -/
theorem snippets_insert_names_marks :
    ["$\x7b1:x\x7d", "a\\"][0]? = some "$\x7b1:x\x7d" ∧
    (∃ item, (completionsFor "Frame" ["$\x7b1:x\x7d", "a\\"])[0]? = some item ∧
      item.label = "$\x7b1:x\x7d" ∧ item.insertText = "\\$\x7b1:x\\\x7d = $0" ∧
      Snippet.read 0 item.insertText.toList =
        "$\x7b1:x\x7d = ".toList.map .literal ++ [.tabstop 0]) ∧
    (Completion.ofProperty "Frame" "$\x7b1:x\x7d").insertText ≠
      (Completion.ofProperty "Frame" "a\\").insertText := by
  obtain ⟨-, hread, hne⟩ := snippets_insert_names "Frame" ["$\x7b1:x\x7d", "a\\"]
  obtain ⟨item, hitem, hlabel, hparts⟩ := hread 0 "$\x7b1:x\x7d" rfl
  have htext : item.insertText = "\\$\x7b1:x\\\x7d = $0" := by
    rw [← Option.some.inj hitem]
    decide
  refine ⟨rfl, ⟨item, hitem, hlabel, htext, hparts⟩, ?_⟩
  exact hne _ (by simp [completionsFor]) _ (by simp [completionsFor]) (by decide)

-- without escapes the same name is something to fill in
example : Snippet.read 0 "$\x7b1:x\x7d".toList =
    [.opening ['1'], .literal ':', .literal 'x', .closing] := by decide +kernel

end ElementProps
