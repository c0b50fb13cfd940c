import Mathlib.Data.List.Nodup
import ElementProps.Proofs.CompletionItems

/-!
# Settings in normal form

Reading a property map keeps the keys that have a list and of each list the names that are strings,
each where it comes first; everything else is named in a warning. What has been read is in normal
form: it is read as itself, without a warning, and in whichever way a client wraps it up.

* `Precedes l a b`                 the element `a` occurs in `l` before the first `b`;
* `FirstOccurrences items names`   the names are the strings among the items, each at its first
                                   place;
* `Normalized members m ws`        what the map and the warnings of a JSON object have to be;
* `Normalized.unique`              there is one such map, with one list of warnings;
* `settings_normalized`            and these are the ones that reading gives;
* `PropertyMap.toJson`             a property map as a JSON object;
* `ofJson_toJson`                  which is read as itself if no class has a name twice;
* `settings_fixed`                 so it is for all settings that have been read once.
-/

namespace ElementProps

/-! ## lists in the order of another list -/

section
variable {α β : Type}

/-- a leading part of the list holds one element and not the other -/
def Precedes (l : List α) (a b : α) : Prop := ∃ n, a ∈ l.take n ∧ b ∉ l.take n

theorem Precedes.ne {l : List α} {a b : α} (h : Precedes l a b) : a ≠ b := by
  rintro rfl
  obtain ⟨n, ha, hb⟩ := h
  exact hb ha

theorem Precedes.asymm {l : List α} {a b : α} (h : Precedes l a b) : ¬ Precedes l b a := by
  rintro ⟨k, hb, ha⟩
  obtain ⟨n, ha', hb'⟩ := h
  -- of two leading parts one contains the other
  rcases Nat.le_total n k with hle | hle
  · exact ha ((List.take_prefix_take_left hle).subset ha')
  · exact hb' ((List.take_prefix_take_left hle).subset hb)

theorem Precedes.head {l : List α} {a b : α} (h : b ≠ a) : Precedes (a :: l) a b :=
  ⟨1, List.mem_cons_self, fun hb => h (List.mem_singleton.1 hb)⟩

theorem Precedes.cons {l : List α} {a b : α} (h : Precedes l a b) {c : α} (hc : b ≠ c) :
    Precedes (c :: l) a b := by
  obtain ⟨n, ha, hb⟩ := h
  refine ⟨n + 1, List.mem_cons_of_mem c ha, fun hmem => ?_⟩
  rcases List.mem_cons.1 hmem with heq | hmem
  · exact hc heq
  · exact hb hmem

theorem pairwise_precedes_self {l : List α} (h : l.Nodup) : l.Pairwise (Precedes l) := by
  induction l with
  | nil => exact List.Pairwise.nil
  | cons a l ih =>
    obtain ⟨ha, hl⟩ := List.nodup_cons.1 h
    have hne : ∀ b ∈ l, b ≠ a := fun b hb hba => ha (hba ▸ hb)
    refine List.Pairwise.cons (fun b hb => .head (hne b hb)) ?_
    exact (ih hl).imp_of_mem fun _ hb hab => hab.cons (hne _ hb)

/-- A list is determined by its members when their keys come in the order of a given list. -/
theorem eq_of_pairwise_precedes {f : α → β} {l : List β} {xs ys : List α}
    (hx : (xs.map f).Pairwise (Precedes l)) (hy : (ys.map f).Pairwise (Precedes l))
    (hmem : ∀ a, a ∈ xs ↔ a ∈ ys) : xs = ys := by
  rw [List.pairwise_map] at hx hy
  have hnodup : ∀ {zs : List α}, zs.Pairwise (fun a b => Precedes l (f a) (f b)) → zs.Nodup :=
    fun hz => hz.imp fun hab heq => hab.ne (congrArg f heq)
  have hperm := (List.perm_ext_iff_of_nodup (hnodup hx) (hnodup hy)).2 hmem
  refine List.Perm.eq_of_pairwise ?_ hx hy hperm
  intro a b _ _ hab hba
  exact absurd hba hab.asymm

end

/-! ## first occurrences -/

def Json.isList : Json → Bool
  | .arr _ => true
  | _ => false

theorem Json.str?_eq_some_iff {v : Json} {s : String} : v.str? = some s ↔ v = .str s := by
  cases v <;> simp [Json.str?]

/-- the names are the strings among the items, each once and in the order of first occurrence -/
structure FirstOccurrences (items : List Json) (names : List String) : Prop where
  mem : ∀ s, s ∈ names ↔ Json.str s ∈ items
  ordered : (names.map Json.str).Pairwise (Precedes items)

theorem FirstOccurrences.unique {items : List Json} {names names' : List String}
    (h : FirstOccurrences items names) (h' : FirstOccurrences items names') : names = names' := by
  refine eq_of_pairwise_precedes h.ordered h'.ordered fun s => ?_
  rw [h.mem, h'.mem]

theorem pairwise_precedes_distinct (items : List Json) :
    ((distinct (items.filterMap Json.str?)).map Json.str).Pairwise (Precedes items) := by
  rw [List.pairwise_map]
  induction items with
  | nil => exact List.Pairwise.nil
  | cons v items ih =>
    cases v with
    | str s =>
      show List.Pairwise _ (s :: (distinct (items.filterMap Json.str?)).filter (· != s))
      have hne : ∀ y ∈ (distinct (items.filterMap Json.str?)).filter (· != s),
          Json.str y ≠ .str s := by
        intro y hy
        simpa using (List.mem_filter.1 hy).2
      refine List.Pairwise.cons (fun y hy => .head (hne y hy)) ?_
      exact (ih.filter _).imp_of_mem fun _ hy hxy => hxy.cons (hne _ hy)
    | _ => exact ih.imp fun hxy => hxy.cons (by simp)

theorem firstOccurrences_distinct (items : List Json) :
    FirstOccurrences items (distinct (items.filterMap Json.str?)) := by
  refine ⟨fun s => ?_, pairwise_precedes_distinct items⟩
  rw [mem_distinct]
  simp [List.mem_filterMap, Json.str?_eq_some_iff]

/-! ## what reading has to give -/

/-- the class that a warning is about -/
def Warning.className? : Warning → Option String
  | .listExpected c => some c
  | .namesDropped c => some c
  | _ => none

/-- the property map and the warnings for the members of a JSON object -/
structure Normalized (members : List (String × Json)) (m : PropertyMap) (ws : List Warning) :
    Prop where
  /-- the classes are the keys with a list, in their order -/
  classes : m.classes = (members.filter fun p => p.2.isList).map Prod.fst
  names : ∀ c names, (c, names) ∈ m →
    ∃ items, (c, Json.arr items) ∈ members ∧ FirstOccurrences items names
  /-- the warnings are about the keys without a list and the keys whose list has other items than
  strings -/
  warnings : ∀ w, w ∈ ws ↔
    (∃ c v, (c, v) ∈ members ∧ v.isList = false ∧ w = .listExpected c) ∨
    (∃ c items, (c, Json.arr items) ∈ members ∧ (∃ v ∈ items, v.str? = none) ∧ w = .namesDropped c)
  /-- one about each, in the order of the keys -/
  ordered : (ws.map Warning.className?).Pairwise (Precedes ((members.map Prod.fst).map some))

section
variable {members : List (String × Json)} (hkeys : (members.map Prod.fst).Nodup)
include hkeys

theorem eq_of_mem_members {c : String} {v v' : Json} (h : (c, v) ∈ members)
    (h' : (c, v') ∈ members) : v = v' :=
  (Prod.mk.inj (List.inj_on_of_nodup_map hkeys h h' rfl)).2

variable {m m' : PropertyMap} {ws ws' : List Warning}

theorem Normalized.pairwise_classes (h : Normalized members m ws) :
    m.classes.Pairwise (Precedes (members.map Prod.fst)) := by
  rw [h.classes]
  exact (pairwise_precedes_self hkeys).sublist (List.filter_sublist.map Prod.fst)

theorem Normalized.mem_of_mem (h : Normalized members m ws) (h' : Normalized members m' ws')
    {entry : String × List String} (hm : entry ∈ m) : entry ∈ m' := by
  obtain ⟨c, names⟩ := entry
  obtain ⟨items, hitems, hnames⟩ := h.names c names hm
  have hclass : c ∈ m'.classes := by
    rw [h'.classes, ← h.classes]
    exact List.mem_map_of_mem hm
  obtain ⟨⟨d, names'⟩, hm', rfl⟩ := List.mem_map.1 hclass
  obtain ⟨items', hitems', hnames'⟩ := h'.names d names' hm'
  obtain rfl := Json.arr.inj (eq_of_mem_members hkeys hitems hitems')
  rw [hnames.unique hnames']
  exact hm'

/-- **One map, with one list of warnings.** -/
theorem Normalized.unique (h : Normalized members m ws) (h' : Normalized members m' ws') :
    m = m' ∧ ws = ws' := by
  constructor
  · exact eq_of_pairwise_precedes (h.pairwise_classes hkeys) (h'.pairwise_classes hkeys)
      fun entry => ⟨h.mem_of_mem hkeys h', h'.mem_of_mem hkeys h⟩
  · refine eq_of_pairwise_precedes h.ordered h'.ordered fun w => ?_
    rw [h.warnings, h'.warnings]

end

/-! ## what reading gives -/

theorem classes_filterMap (members : List (String × Json)) :
    PropertyMap.classes (members.filterMap entryOf?) =
      (members.filter fun p => p.2.isList).map Prod.fst := by
  induction members with
  | nil => rfl
  | cons p members ih =>
    obtain ⟨c, v⟩ := p
    cases v with
    | arr items => exact congrArg (c :: ·) ih
    | _ => exact ih

theorem mem_entryWarnings {c : String} {v : Json} {w : Warning} :
    w ∈ entryWarnings (c, v) ↔ (v.isList = false ∧ w = .listExpected c) ∨
      (∃ items, v = .arr items ∧ (∃ item ∈ items, item.str? = none) ∧ w = .namesDropped c) := by
  cases v with
  | arr items =>
    have hall : (items.all fun v => v.str?.isSome) = false ↔ ∃ item ∈ items, item.str? = none := by
      simp [List.all_eq_false]
    rw [entryWarnings_arr]
    cases h : items.all fun v => v.str?.isSome <;> simp [Json.isList, ← hall, h]
  | _ => simp [entryWarnings, Json.isList]

theorem entryWarnings_sublist (p : String × Json) :
    ((entryWarnings p).map Warning.className?).Sublist [some p.1] := by
  obtain ⟨c, v⟩ := p
  cases v with
  | arr items =>
    rw [entryWarnings_arr]
    split
    · exact List.nil_sublist _
    · exact List.Sublist.refl _
  | _ => exact List.Sublist.refl _

theorem warnings_sublist (members : List (String × Json)) :
    ((members.flatMap entryWarnings).map Warning.className?).Sublist
      ((members.map Prod.fst).map some) := by
  induction members with
  | nil => exact List.Sublist.refl _
  | cons p members ih =>
    rw [List.flatMap_cons, List.map_append]
    exact (entryWarnings_sublist p).append ih

theorem normalized_members {members : List (String × Json)}
    (hkeys : (members.map Prod.fst).Nodup) :
    Normalized members (members.filterMap entryOf?) (members.flatMap entryWarnings) where
  classes := classes_filterMap members
  names := by
    intro c names hm
    obtain ⟨⟨d, v⟩, hp, hentry⟩ := List.mem_filterMap.1 hm
    cases v with
    | arr items =>
      obtain ⟨rfl, rfl⟩ := Prod.mk.inj (Option.some.inj hentry)
      exact ⟨items, hp, firstOccurrences_distinct items⟩
    | _ => exact absurd hentry (by simp [entryOf?])
  warnings := by
    intro w
    constructor
    · intro hw
      obtain ⟨⟨c, v⟩, hp, hw⟩ := List.mem_flatMap.1 hw
      rcases mem_entryWarnings.1 hw with ⟨hv, rfl⟩ | ⟨items, rfl, hitems, rfl⟩
      · exact Or.inl ⟨c, v, hp, hv, rfl⟩
      · exact Or.inr ⟨c, items, hp, hitems, rfl⟩
    · rintro (⟨c, v, hp, hv, rfl⟩ | ⟨c, items, hp, hitems, rfl⟩)
      · exact List.mem_flatMap.2 ⟨(c, v), hp, mem_entryWarnings.2 (Or.inl ⟨hv, rfl⟩)⟩
      · exact List.mem_flatMap.2
          ⟨(c, .arr items), hp, mem_entryWarnings.2 (Or.inr ⟨items, rfl, hitems, rfl⟩)⟩
  ordered := by
    have hsome : ((members.map Prod.fst).map some).Nodup := hkeys.map fun _ _ h => Option.some.inj h
    exact (pairwise_precedes_self hsome).sublist (warnings_sublist members)

/-- **Exact result and warnings of reading a property map.** For every JSON object with distinct
keys, the map that is read has the keys with a list, in their order, each with the strings of its
list in the order of first occurrence. The warnings are one for each key without a list and one for
each key whose list has an item that is no string, in the order of the keys, and no others. -/
theorem settings_normalized (members : List (String × Json))
    (hkeys : (members.map Prod.fst).Nodup) :
    (∃ m ws, PropertyMap.ofJson (.obj members) = (some m, ws) ∧ Normalized members m ws ∧
      ∀ m' ws', Normalized members m' ws' → m' = m ∧ ws' = ws) ∧
    (∀ c, (Warning.listExpected c).record =
      .warning .settings ("Ignoring properties for " ++ c ++ ": expected a list")) ∧
    (∀ c, (Warning.namesDropped c).record =
      .warning .settings ("Dropped non-string property names for " ++ c)) := by
  refine ⟨⟨_, _, PropertyMap.ofJson_obj members, normalized_members hkeys, ?_⟩, ?_, ?_⟩
  · intro m' ws' h
    exact h.unique hkeys (normalized_members hkeys)
  · intro c
    rfl
  · intro c
    rfl

/-- a class with a name twice and an item that is no string, one that has no list, and one whose
only fault is a name twice -/
def mixedMembers : List (String × Json) :=
  [("Frame", .arr [.str "Size", .int 3, .str "Name", .str "Size"]), ("Text", .str "Font"),
    ("Image", .arr [.str "Tint", .str "Tint"])]

theorem settings_normalized_mixed :
    (mixedMembers.map Prod.fst).Nodup ∧
    PropertyMap.ofJson (.obj mixedMembers) =
      (some [("Frame", ["Size", "Name"]), ("Image", ["Tint"])],
        [.namesDropped "Frame", .listExpected "Text"]) ∧
    Normalized mixedMembers [("Frame", ["Size", "Name"]), ("Image", ["Tint"])]
      [.namesDropped "Frame", .listExpected "Text"] := by
  have hkeys : (mixedMembers.map Prod.fst).Nodup := by decide
  have hread : PropertyMap.ofJson (.obj mixedMembers) =
      (some [("Frame", ["Size", "Name"]), ("Image", ["Tint"])],
        [.namesDropped "Frame", .listExpected "Text"]) := by decide +kernel
  obtain ⟨⟨m, ws, heq, hnormal, -⟩, -⟩ := settings_normalized mixedMembers hkeys
  rw [hread] at heq
  obtain ⟨hm, rfl⟩ := Prod.mk.inj heq
  obtain rfl := Option.some.inj hm
  exact ⟨hkeys, hread, hnormal⟩

/-! ## settings that have been read -/

/-- a property map as a JSON object -/
def PropertyMap.toJson (m : PropertyMap) : Json :=
  .obj (m.map fun entry => (entry.1, .arr (entry.2.map Json.str)))

/-- the value of a property map that may be absent -/
def propsValue : Option PropertyMap → Json
  | none => .null
  | some m => m.toJson

theorem distinct_eq_self {xs : List String} (h : xs.Nodup) : distinct xs = xs := by
  induction xs with
  | nil => rfl
  | cons x xs ih =>
    obtain ⟨hx, hxs⟩ := List.nodup_cons.1 h
    rw [distinct_cons, ih hxs]
    congr 1
    rw [List.filter_eq_self]
    intro y hy
    have hne : y ≠ x := fun he => hx (he ▸ hy)
    simpa using hne

theorem filterMap_str (names : List String) : (names.map Json.str).filterMap Json.str? = names := by
  rw [List.filterMap_map]
  exact List.filterMap_some

theorem ofJson_toJson {m : PropertyMap} (h : m.NamesDistinct) :
    PropertyMap.ofJson m.toJson = (some m, []) := by
  have hentry : ∀ entry ∈ m,
      entryOf? (entry.1, .arr (entry.2.map Json.str)) = some entry := by
    intro entry hm
    show some (entry.1, distinct ((entry.2.map Json.str).filterMap Json.str?)) = some entry
    rw [filterMap_str, distinct_eq_self (h entry hm)]
  have hwarnings : ∀ entry : String × List String,
      entryWarnings (entry.1, .arr (entry.2.map Json.str)) = [] := by
    intro entry
    rw [entryWarnings_arr]
    exact if_pos (by simp [Json.str?])
  show PropertyMap.ofJson (.obj (m.map fun entry => (entry.1, .arr (entry.2.map Json.str)))) = _
  rw [PropertyMap.ofJson_obj, List.filterMap_map, List.flatMap_map]
  congr 1
  · exact congrArg some ((List.filterMap_congr hentry).trans List.filterMap_some)
  · exact List.flatMap_eq_nil_iff.2 fun entry _ => hwarnings entry

theorem ofJson_propsValue {user : Option PropertyMap} (h : ∀ m ∈ user, m.NamesDistinct) :
    PropertyMap.ofJson (propsValue user) = (user, []) := by
  cases user with
  | none => rfl
  | some m => exact ofJson_toJson (h m rfl)

/-- A section means the same with and without its name around it, unless it holds a section of this
name itself. -/
theorem ofPayload_wrapped {s : Json} (h : s.get? settingsSection = none) :
    (ofPayload (.obj [(settingsSection, s)])).1 = (ofPayload s).1 := by
  cases s with
  | obj members => rw [ofPayload_section, ofPayload_bare h]
  | _ => rfl

/-- **Settings that have been read are read as themselves.** The properties that any payload gives,
sent back as they are or in the section of this program, give the same properties and no warning.
And it makes no difference to the properties whether a value is sent as it is or as the section,
unless it is an object that has the section itself. -/
theorem settings_fixed (payload : Json) :
    ofPayload (.obj [(propsKey, propsValue (ofPayload payload).1)]) = ((ofPayload payload).1, []) ∧
    ofPayload (.obj [(settingsSection, .obj [(propsKey, propsValue (ofPayload payload).1)])]) =
      ((ofPayload payload).1, []) ∧
    ∀ s : Json, s.get? settingsSection = none →
      (ofPayload (.obj [(settingsSection, s)])).1 = (ofPayload s).1 := by
  have hread : PropertyMap.ofJson (propsValue (ofPayload payload).1) =
      ((ofPayload payload).1, []) := ofJson_propsValue fun m hm => namesDistinct_ofPayload hm
  refine ⟨?_, ?_, fun s hs => ofPayload_wrapped hs⟩
  · rw [ofPayload_props]
    exact hread
  · rw [ofPayload_section]
    exact hread

/-- the properties of `mixedMembers`, sent back in the section, and the object itself in it -/
theorem settings_fixed_mixed :
    (ofPayload (.obj [(propsKey, .obj mixedMembers)])).1 =
      some [("Frame", ["Size", "Name"]), ("Image", ["Tint"])] ∧
    ofPayload (.obj [(settingsSection, .obj [(propsKey,
        PropertyMap.toJson [("Frame", ["Size", "Name"]), ("Image", ["Tint"])])])]) =
      (some [("Frame", ["Size", "Name"]), ("Image", ["Tint"])], []) ∧
    (ofPayload (.obj [(settingsSection, .obj [(propsKey, .obj mixedMembers)])])).1 =
      some [("Frame", ["Size", "Name"]), ("Image", ["Tint"])] := by
  have hread : (ofPayload (.obj [(propsKey, .obj mixedMembers)])).1 =
      some [("Frame", ["Size", "Name"]), ("Image", ["Tint"])] := by decide +kernel
  obtain ⟨-, hsection, hwrapped⟩ := settings_fixed (.obj [(propsKey, .obj mixedMembers)])
  rw [hread] at hsection
  refine ⟨hread, hsection, ?_⟩
  rw [hwrapped _ rfl]
  exact hread

end ElementProps
