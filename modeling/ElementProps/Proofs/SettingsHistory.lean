import ElementProps.Proofs.RequestEffect

/-!
# The settings in force

The settings that come last replace all earlier ones. A client that introduces itself sends settings
too, but a session turns to the places that the client names first, and when it cannot read one of
them it never gets to the settings.

* `lastSettings rs`          the properties of the last settings that the requests of a run carry;
* `run_props`                in force are those of the last settings that are read;
* `settings_last_read`       so the last settings of all are in force unless they come with an
                             unreadable place, and then nothing changes.
-/

namespace ElementProps

/-- the properties of the last settings among the given requests -/
def lastSettings (rs : List Request) : Option PropertyMap :=
  (rs.filterMap Request.settings?).getLast?.bind fun v => (ofPayload v).1

theorem run_props (rs : List Request) :
    (Session.run {} rs).1.props = lastSettings (rs.filter Request.isRead) := by
  have h := run_last Session.props
    (fun r => (if r.isRead then r.settings? else none).map fun v => (ofPayload v).1) step_props {} rs
  rw [h, lastSettings, List.filterMap_filter, ← List.map_filterMap, List.getLastD_eq_getLast?,
    List.getLast?_map]
  cases (rs.filterMap fun r => if r.isRead then r.settings? else none).getLast? <;> rfl

theorem lastSettings_concat {rs : List Request} {r : Request} {v : Json} (h : r.settings? = some v) :
    lastSettings (rs ++ [r]) = (ofPayload v).1 := by
  unfold lastSettings
  rw [List.filterMap_append, List.filterMap_cons_some h, List.filterMap_nil, List.getLast?_concat]
  rfl

theorem lastSettings_of_none {rs : List Request} (h : ∀ r ∈ rs, r.settings? = none) :
    lastSettings rs = none := by
  unfold lastSettings
  rw [List.filterMap_eq_nil_iff.2 h]
  rfl

/-- only the requests that carry settings count -/
theorem lastSettings_filter (rs : List Request) :
    lastSettings (rs.filter fun r => r.settings?.isSome) = lastSettings rs := by
  have hsame : (fun r : Request => if r.settings?.isSome then r.settings? else none) =
      Request.settings? := by
    funext r
    cases r.settings? <;> rfl
  unfold lastSettings
  rw [List.filterMap_filter, hsame]

/-- When the last settings are read, it does not matter whether earlier ones were. -/
theorem lastSettings_filter_isRead {rs : List Request}
    (h : ∀ r, (rs.filter fun r => r.settings?.isSome).getLast? = some r → r.isRead = true) :
    lastSettings (rs.filter Request.isRead) = lastSettings rs := by
  have hcomm : ((rs.filter Request.isRead).filter fun r => r.settings?.isSome) =
      (rs.filter fun r => r.settings?.isSome).filter Request.isRead := by
    simp only [List.filter_filter, Bool.and_comm]
  rw [← lastSettings_filter rs, ← lastSettings_filter (rs.filter Request.isRead), hcomm]
  obtain hnil | ⟨front, r, hlast⟩ := List.eq_nil_or_concat (rs.filter fun r => r.settings?.isSome)
  · rw [hnil]
    rfl
  · rw [List.concat_eq_append] at hlast
    have hr : r.isRead = true := h r (by rw [hlast, List.getLast?_concat])
    have hmem : r ∈ rs.filter fun r => r.settings?.isSome := by rw [hlast]; simp
    obtain ⟨v, hv⟩ := Option.isSome_iff_exists.1 (List.mem_filter.1 hmem).2
    rw [hlast, List.filter_append, List.filter_cons_of_pos hr, List.filter_nil,
      lastSettings_concat hv, lastSettings_concat hv]

/-- **The last settings that are read are in force.** They are the last settings of all when the
request that carries those can be read; an introduction that names an unreadable place leaves the
settings as they were, whatever settings it carries. -/
theorem settings_last_read (rs : List Request) :
    (Session.run {} rs).1.props = lastSettings (rs.filter Request.isRead) ∧
    ((∀ r, (rs.filter fun r => r.settings?.isSome).getLast? = some r → r.isRead = true) →
      (Session.run {} rs).1.props = lastSettings rs) ∧
    ((∀ r ∈ rs, r.settings? = none) → (Session.run {} rs).1.props = none) ∧
    (∀ p : Setup, p.isReadable = false →
      (Session.run {} (rs ++ [.setup p])).1.props = (Session.run {} rs).1.props) := by
  refine ⟨run_props rs, fun h => ?_, fun h => ?_, fun p hp => ?_⟩
  · rw [run_props, lastSettings_filter_isRead h]
  · rw [run_props]
    exact lastSettings_of_none fun r hr => h r (List.mem_filter.1 hr).1
  · have hread : Request.isRead (.setup p) = false := hp
    rw [run_props, run_props, List.filter_append, List.filter_cons_of_neg (by simp [hread]),
      List.filter_nil, List.append_nil]

/-- settings that give a class one property -/
def oneProperty (className property : String) : Json :=
  .obj [("props", .obj [(className, .arr [.str property])])]

/-- an introduction with the folder `http://[bad`, after which the settings change once more -/
def badFolderFirst : List Request :=
  [.setup ⟨none, ["http://[bad"], none, none, oneProperty "Frame" "Y"⟩,
    .configured (oneProperty "Frame" "Z"), .configured .null]

theorem settings_last_read_badFolderFirst :
    (Session.run {} badFolderFirst).1.props = lastSettings badFolderFirst ∧
    lastSettings badFolderFirst = some [("Frame", ["Z"])] := by
  refine ⟨(settings_last_read badFolderFirst).2.1 fun r hr => ?_, by decide +kernel⟩
  have hlast : (badFolderFirst.filter fun r => r.settings?.isSome).getLast? =
      some (.configured (oneProperty "Frame" "Z")) := rfl
  rw [hlast] at hr
  obtain rfl := Option.some.inj hr
  rfl

/-- the settings of an introduction are lost behind a folder that cannot be read -/
theorem settings_lost_behind_folder :
    (Session.run {} [.setup ⟨none, ["http://[bad"], none, none, oneProperty "Frame" "Z"⟩]).1.props =
      none ∧
    lastSettings [.setup ⟨none, ["http://[bad"], none, none, oneProperty "Frame" "Z"⟩] =
      some [("Frame", ["Z"])] := by
  decide +kernel

end ElementProps
