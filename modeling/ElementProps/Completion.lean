/-!
# Completions

A completion offers a property name and inserts a snippet that assigns to it, with the cursor
right after the assignment.

* `escape name`               the name as snippet text: `\`, `$` and `}` get a backslash;
* `Completion.ofProperty`     the completion of one property of a class;
* `completionsFor`            one completion per property, in the given order.
-/

namespace ElementProps

structure Completion where
  /-- the property name -/
  label : String
  /-- snippet text; `$0` is where the cursor ends up -/
  insertText : String
  /-- the remark shown beside the name -/
  detail : String
  deriving DecidableEq, Repr

/-! ## snippets -/

/-- a character with a meaning of its own in snippet text -/
def isSnippetMark (c : Char) : Bool := c == '\\' || c == '$' || c == '}'

/-- a text as snippet text that stands for it literally -/
def escapeChars (t : List Char) : List Char :=
  t.flatMap fun c => if isSnippetMark c then ['\\', c] else [c]

/-- a name as snippet text that stands for it literally -/
def escape (name : String) : String := String.ofList (escapeChars name.toList)

/-! ## completions -/

def detailSuffix : String := " property (React Luau helper)"

/-- the remark beside the properties of a class -/
def detailFor (className : String) : String := className ++ detailSuffix

namespace Completion

def ofProperty (className name : String) : Completion where
  label := name
  insertText := escape name ++ " = $0"
  detail := detailFor className

end Completion

def completionsFor (className : String) (properties : List String) : List Completion :=
  properties.map (Completion.ofProperty className)

theorem map_label_completionsFor (className : String) (properties : List String) :
    (completionsFor className properties).map Completion.label = properties := by
  simp [completionsFor, Function.comp_def, Completion.ofProperty]

end ElementProps
