import ElementProps.Json.Basic
import ElementProps.Log.Basic
import ElementProps.PropertyMap

/-!
# The user's settings

A client sends its settings as a JSON value, and anything malformed in it is dropped with a
warning. The properties stand under `props`, either directly or in the section of this program.

* `Warning`                    what was dropped, and the words for it;
* `distinct xs`                the items of a list, each at its first occurrence;
* `PropertyMap.ofJson v`       a property map from the value under `props`, with the warnings;
* `ofPayload v`                the property map of a whole payload, with the warnings;
* `ofPayload_section`          a payload with the section;
* `ofPayload_bare`             a payload that is the section itself.
-/

namespace ElementProps

/-! ## warnings -/

def settingsSection : String := "reactLuauPropsHelper"

def propsKey : String := "props"

inductive Warning where
  /-- the section is not an object but of the named kind -/
  | sectionKind (kind : String)
  /-- the property map is not an object -/
  | mapExpected
  /-- the properties of a class are not a list -/
  | listExpected (className : String)
  /-- some properties of a class are not strings -/
  | namesDropped (className : String)
  deriving DecidableEq, Repr

namespace Warning

def message : Warning → String
  | .sectionKind kind => "Ignoring " ++ settingsSection ++ " settings of type " ++ kind
  | .mapExpected => "Ignoring '" ++ propsKey ++ "' setting: expected an object"
  | .listExpected c => "Ignoring properties for " ++ c ++ ": expected a list"
  | .namesDropped c => "Dropped non-string property names for " ++ c

def record (w : Warning) : Log.Record := .warning .settings w.message

end Warning

def Json.kind : Json → String
  | .null => "NoneType"
  | .bool _ => "bool"
  | .int _ => "int"
  | .float _ => "float"
  | .str _ => "str"
  | .arr _ => "list"
  | .obj _ => "dict"

/-! ## property maps -/

def distinct : List String → List String
  | [] => []
  | x :: xs => x :: (distinct xs).filter (· != x)

theorem distinct_nil : distinct [] = [] := rfl
theorem distinct_cons (x : String) (xs : List String) :
    distinct (x :: xs) = x :: (distinct xs).filter (· != x) := rfl

theorem mem_distinct {x : String} {xs : List String} : x ∈ distinct xs ↔ x ∈ xs := by
  induction xs with
  | nil => simp [distinct]
  | cons y ys ih =>
    by_cases h : x = y
    · simp [distinct, h]
    · simp [distinct, ih, h]

theorem nodup_distinct (xs : List String) : (distinct xs).Nodup := by
  induction xs with
  | nil => simp [distinct]
  | cons y ys ih =>
    rw [distinct, List.nodup_cons]
    exact ⟨by simp, ih.filter _⟩

/-- the entry of a member whose value is a list -/
def entryOf? : String × Json → Option (String × List String)
  | (c, .arr items) => some (c, distinct (items.filterMap Json.str?))
  | _ => none

def entryWarnings : String × Json → List Warning
  | (c, .arr items) =>
    if (items.filterMap Json.str?).length ≠ items.length then [.namesDropped c] else []
  | (c, _) => [.listExpected c]

/-- there is one about a list unless all its items are strings -/
theorem entryWarnings_arr (c : String) (items : List Json) :
    entryWarnings (c, .arr items) =
      if items.all fun v => v.str?.isSome then [] else [.namesDropped c] := by
  have hall : (items.filterMap Json.str?).length = items.length ↔
      (items.all fun v => v.str?.isSome) = true := by
    rw [List.filterMap_length_eq_length, List.all_eq_true]
  by_cases h : (items.all fun v => v.str?.isSome) = true
  · rw [if_pos h]
    exact if_neg fun hne => hne (hall.2 h)
  · rw [if_neg h]
    exact if_pos fun heq => h (hall.1 heq)

/-- the property map that a value stands for, with the warnings in their order -/
def PropertyMap.ofJson : Json → Option PropertyMap × List Warning
  | .null => (none, [])
  | .obj members => (some (members.filterMap entryOf?), members.flatMap entryWarnings)
  | _ => (none, [.mapExpected])

theorem PropertyMap.ofJson_null : ofJson .null = (none, []) := rfl
theorem PropertyMap.ofJson_obj (members : List (String × Json)) :
    ofJson (.obj members) = (some (members.filterMap entryOf?), members.flatMap entryWarnings) :=
  rfl

/-! ## payloads -/

/-- the property map of a payload: its section, or the payload itself when it has none -/
def ofPayload : Json → Option PropertyMap × List Warning
  | .obj members =>
    match (members.lookup settingsSection).getD (.obj members) with
    | .obj section_ => PropertyMap.ofJson ((section_.lookup propsKey).getD .null)
    | other => (none, [.sectionKind other.kind])
  | _ => (none, [])

theorem ofPayload_section (members : List (String × Json)) :
    ofPayload (.obj [(settingsSection, .obj members)]) =
      PropertyMap.ofJson ((members.lookup propsKey).getD .null) := rfl

theorem ofPayload_bare {members : List (String × Json)}
    (h : members.lookup settingsSection = none) :
    ofPayload (.obj members) = PropertyMap.ofJson ((members.lookup propsKey).getD .null) := by
  rw [ofPayload, h]
  rfl

theorem ofPayload_props (raw : Json) :
    ofPayload (.obj [(propsKey, raw)]) = PropertyMap.ofJson raw := ofPayload_bare rfl

end ElementProps
