import DeviceProfile.Static.Loader

/-!
# The version that is expanded

The infos of the file are searched from the first one on, and the version a device has told is
compared with that of each info. The comparison accepts any two valid versions, so the search
stops at the first info with a valid version, whatever the device has told.
-/

namespace DeviceProfile

open Library

namespace StaticJson

/-- The infos of the file, none where there is no list of them. -/
def staticInfos (json : StaticJson) : List StaticJson :=
  ((json.getObjectItem STATIC_INFO).bind items).getD []

/-- The version of an info, if it has one. -/
def version (item : StaticJson) : Option Text :=
  (item.getObjectItemCaseSensitive DP_VERSION).bind valuestring

theorem isObject_of_getObjectItem {json item : StaticJson} {name : Text}
    (h : json.getObjectItem name = some item) : json.isObject := by
  cases json with
  | object members => rfl
  | string valuestring => cases h
  | array items => cases h
  | other => cases h

theorem isObject_of_version {item : StaticJson} {version : Text}
    (h : item.version = some version) : item.isObject := by
  cases item with
  | object members => rfl
  | string valuestring => cases h
  | array items => cases h
  | other => cases h

end StaticJson

/-- A valid version passes with exactly the valid versions. -/
theorem staticVersionCheck_iff {peerVersion localVersion : Text}
    (hvalid : IsValidVersion peerVersion) :
    StaticVersionCheck peerVersion localVersion ↔ IsValidVersion localVersion := by
  constructor
  · rintro (rfl | ⟨-, hlocal⟩)
    · exact hvalid
    · exact hlocal
  · exact fun hlocal => .inr ⟨hvalid, hlocal⟩

namespace StaticCapabilityLoader

/-- The info has a version that passes. -/
def Passes (staticVersion : Text) (item : StaticJson) : Prop :=
  ∃ version ∈ item.version, StaticVersionCheck staticVersion version

/-- An info passes when it has a valid version, whichever was asked for. -/
theorem passes_iff {staticVersion : Text} (hvalid : IsValidVersion staticVersion)
    (item : StaticJson) :
    Passes staticVersion item ↔ ∃ version ∈ item.version, IsValidVersion version :=
  exists_congr fun _ => and_congr_right fun _ => staticVersionCheck_iff hvalid

/-- The test of the search. -/
theorem test_iff_passes (staticVersion : Text) (item : StaticJson) :
    ((item.isObject && ((item.getObjectItemCaseSensitive DP_VERSION).bind (·.valuestring)).any
      fun version => decide (StaticVersionCheck staticVersion version)) = true) ↔
      Passes staticVersion item := by
  rw [Bool.and_eq_true, Option.any_eq_true]
  constructor
  · rintro ⟨-, version, hversion, hcheck⟩
    exact ⟨version, hversion, of_decide_eq_true hcheck⟩
  · rintro ⟨version, hversion, hcheck⟩
    exact ⟨StaticJson.isObject_of_version hversion, version, hversion, decide_eq_true hcheck⟩

/-- The search finds the first info that passes, if the version and the list are not too long. -/
theorem getStaticInfoJsonByVersion_eq_some_iff {json item : StaticJson} {staticVersion : Text} :
    getStaticInfoJsonByVersion json staticVersion = some item ↔
      ¬IsTextInvalid staticVersion ∧ json.staticInfos.length ≤ MAX_STATIC_CAPABILITY_SIZE ∧
        ∃ before after, json.staticInfos = before ++ item :: after ∧
          Passes staticVersion item ∧ ∀ earlier ∈ before, ¬Passes staticVersion earlier := by
  have hnot : ∀ earlier : StaticJson, (!(earlier.isObject &&
      ((earlier.getObjectItemCaseSensitive DP_VERSION).bind (·.valuestring)).any
        fun version => decide (StaticVersionCheck staticVersion version))) = true ↔
      ¬Passes staticVersion earlier := by
    intro earlier
    rw [Bool.not_eq_true', ← Bool.not_eq_true, test_iff_passes]
  simp only [getStaticInfoJsonByVersion, Option.bind_eq_bind, Option.bind_eq_some_iff,
    Option.guard_eq_some', exists_const, List.find?_eq_some_iff_append, test_iff_passes, hnot]
  constructor
  · rintro ⟨-, htext, field, hfield, infos, hitems, ⟨-, hsize⟩, hpasses, before, after, rfl,
      hbefore⟩
    have hinfos : json.staticInfos = before ++ item :: after := by
      rw [StaticJson.staticInfos, hfield, Option.bind_some, hitems, Option.getD_some]
    rw [hinfos]
    exact ⟨htext, hsize, before, after, rfl, hpasses, hbefore⟩
  · rintro ⟨htext, hsize, before, after, hinfos, hpasses, hbefore⟩
    have hne : json.staticInfos.length ≠ 0 := by
      rw [hinfos, List.length_append, List.length_cons]
      omega
    cases hfield : json.getObjectItem STATIC_INFO with
    | none =>
      rw [StaticJson.staticInfos, hfield] at hne
      exact absurd rfl hne
    | some field =>
      cases hitems : field.items with
      | none =>
        rw [StaticJson.staticInfos, hfield, Option.bind_some, hitems] at hne
        exact absurd rfl hne
      | some infos =>
        have heq : json.staticInfos = infos := by
          rw [StaticJson.staticInfos, hfield, Option.bind_some, hitems, Option.getD_some]
        rw [heq] at hsize hne hinfos
        exact ⟨StaticJson.isObject_of_getObjectItem hfield, htext, field, rfl, infos, hitems,
          ⟨hne, hsize⟩, hpasses, before, after, hinfos, hbefore⟩

/-- Where an info has the version, the search delivers an info of this version. -/
def FindsVersion (json : StaticJson) (staticVersion : Text) : Prop :=
  (∃ item ∈ json.staticInfos, item.version = some staticVersion) →
    ∃ item, getStaticInfoJsonByVersion json staticVersion = some item ∧
      item.version = some staticVersion

/-- A version that is there is found if and only if it is that of the first info with a valid
version, and the version and the list are not too long. -/
theorem findsVersion_iff (json : StaticJson) (staticVersion : Text)
    (hvalid : IsValidVersion staticVersion) :
    FindsVersion json staticVersion ↔
      ((∃ item ∈ json.staticInfos, item.version = some staticVersion) →
        staticVersion.length ≤ MAX_STRING_LEN ∧
        json.staticInfos.length ≤ MAX_STATIC_CAPABILITY_SIZE ∧
        ∃ before item after, json.staticInfos = before ++ item :: after ∧
          item.version = some staticVersion ∧
          ∀ earlier ∈ before, ∀ version ∈ earlier.version, ¬IsValidVersion version) := by
  refine imp_congr_right fun _ => ?_
  simp only [getStaticInfoJsonByVersion_eq_some_iff, passes_iff hvalid, not_exists, not_and]
  have hne : staticVersion ≠ [] := by
    rintro rfl
    exact absurd hvalid.1 (by decide)
  constructor
  · rintro ⟨item, ⟨htext, hsize, before, after, hinfos, -, hbefore⟩, hversion⟩
    exact ⟨Nat.le_of_not_lt fun h => htext (.inr h), hsize, before, item, after, hinfos, hversion,
      hbefore⟩
  · rintro ⟨hlength, hsize, before, item, after, hinfos, hversion, hbefore⟩
    have htext : ¬IsTextInvalid staticVersion := fun h =>
      h.elim hne (Nat.not_lt_of_le hlength)
    exact ⟨item, ⟨htext, hsize, before, after, hinfos, ⟨staticVersion, hversion, hvalid⟩,
      hbefore⟩, hversion⟩

/-- The check of a version as a run through its parts. -/
theorem isValidVersion_iff_all (version : Text) :
    IsValidVersion version ↔ (version.splitOn '.').length = 4 ∧
      (version.splitOn '.').all fun part => !part.isEmpty && part.all Char.isDigit := by
  simp [IsValidVersion]

/-- A file with an info for each of the versions. -/
def infosOf (versions : List Text) : StaticJson :=
  .object [(STATIC_INFO, .array (versions.map fun version =>
    .object [(DP_VERSION, .string version)]))]

/-- Of several versions the requested one is found behind one that is no version. -/
theorem findsVersion_severalVersions :
    FindsVersion (infosOf [("beta" : Text), ("1.0.0.0" : Text), ("2.0.0.0" : Text),
      ("1.0.0.1" : Text)]) ("1.0.0.0" : Text) := by
  have hvalid : IsValidVersion ("1.0.0.0" : Text) := (isValidVersion_iff_all _).mpr (by decide)
  refine (findsVersion_iff _ _ hvalid).mpr fun _ => ⟨by decide, by decide,
    [.object [(DP_VERSION, .string ("beta" : Text))]], _, _, rfl, rfl, ?_⟩
  intro earlier hearlier version hversion hbeta
  obtain rfl := List.mem_singleton.mp hearlier
  obtain rfl : ("beta" : Text) = version := Option.some.inj hversion
  exact absurd ((isValidVersion_iff_all _).mp hbeta) (by decide)

/-- Of two versions the second one is not found. -/
theorem not_findsVersion :
    ¬∀ (json : StaticJson) (staticVersion : Text), IsValidVersion staticVersion →
      FindsVersion json staticVersion := by
  intro h
  have hpeer : IsValidVersion ("2.0.0.0" : Text) := (isValidVersion_iff_all _).mpr (by decide)
  have hlocal : IsValidVersion ("1.0.0.0" : Text) := (isValidVersion_iff_all _).mpr (by decide)
  have hsecond : (.object [(DP_VERSION, .string ("2.0.0.0" : Text))] : StaticJson) ∈
      (infosOf [("1.0.0.0" : Text), ("2.0.0.0" : Text)]).staticInfos :=
    List.mem_cons_of_mem _ List.mem_cons_self
  obtain ⟨item, hget, hversion⟩ :=
    h (infosOf [("1.0.0.0" : Text), ("2.0.0.0" : Text)]) ("2.0.0.0" : Text) hpeer
      ⟨_, hsecond, rfl⟩
  obtain rfl : (.object [(DP_VERSION, .string ("1.0.0.0" : Text))] : StaticJson) = item := by
    refine Option.some.inj (Eq.trans (Eq.symm ?_) hget)
    exact getStaticInfoJsonByVersion_eq_some_iff.mpr ⟨by decide, by decide, [], _, rfl,
      ⟨("1.0.0.0" : Text), rfl, .inr ⟨hpeer, hlocal⟩⟩, by simp⟩
  exact absurd hversion (by decide)

end StaticCapabilityLoader

end DeviceProfile
