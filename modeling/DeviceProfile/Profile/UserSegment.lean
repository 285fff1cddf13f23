import DeviceProfile.Profile.DbKey

/-!
# The user segment of a key

The splitter cuts a text, with one more separator behind it, at every separator; the joiner
puts separators between the parts again. On the keys of the generators the two are inverse,
the user id is read back where it was written, and leaving it out gives the key of no user.
-/

namespace DeviceProfile

open Library

/-! ## The loops -/

/-- The loop of `SplitString`: what is before the first separator is a segment. -/
def splitLoop (strs : Text) : List Text :=
  if separator ∈ strs then
    strs.takeWhile (fun c => decide (c ≠ separator)) ::
      splitLoop (strs.dropWhile (fun c => decide (c ≠ separator))).tail
  else []
termination_by strs.length
decreasing_by
  have hle := (List.dropWhile_suffix (fun c => decide (c ≠ separator)) (l := strs)).length_le
  have hne : strs.dropWhile (fun c => decide (c ≠ separator)) ≠ [] := by
    intro hnil
    rw [List.dropWhile_eq_nil_iff] at hnil
    exact of_decide_eq_true (hnil separator ‹_›) rfl
  have hpos := List.length_pos_of_ne_nil hne
  rw [List.length_tail]
  omega

/-- The loop of `JoinString`: every part but the last one gets a separator behind it. -/
def joinLoop (strs : List Text) : Text :=
  strs.zipIdx.foldl (fun res x =>
    if x.2 ≠ strs.length - 1 then res ++ x.1 ++ SEPARATOR else res ++ x.1) []

/-- A segment and the separator behind it are taken off. -/
theorem splitLoop_append {segment : Text} (h : separator ∉ segment) (rest : Text) :
    splitLoop (segment ++ SEPARATOR ++ rest) = segment :: splitLoop rest := by
  have hclean : ∀ c ∈ segment, decide (c ≠ separator) = true := by
    intro c hc
    exact decide_eq_true fun heq => h (heq ▸ hc)
  have hmem : separator ∈ segment ++ SEPARATOR ++ rest :=
    List.mem_append_left _ (List.mem_append_right _ List.mem_cons_self)
  rw [splitLoop, if_pos hmem, List.append_assoc, List.takeWhile_append_of_pos hclean,
    List.dropWhile_append_of_pos hclean]
  simp [SEPARATOR]

/-- The loop finds the segments that were joined. -/
theorem splitLoop_joinString {strs : List Text} (hne : strs ≠ [])
    (h : ∀ str ∈ strs, separator ∉ str) : splitLoop (joinString strs ++ SEPARATOR) = strs := by
  induction strs with
  | nil => exact absurd rfl hne
  | cons first rest ih =>
    rw [List.forall_mem_cons] at h
    cases rest with
    | nil =>
      have hend : splitLoop [] = [] := by
        rw [splitLoop, if_neg List.not_mem_nil]
      have hfirst := splitLoop_append h.1 []
      rw [hend, List.append_nil] at hfirst
      rw [joinString, List.intercalate_singleton]
      exact hfirst
    | cons second rest =>
      have hrest := ih (List.cons_ne_nil _ _) h.2
      rw [joinString] at hrest ⊢
      rw [List.intercalate_cons_cons, List.append_assoc, List.append_assoc,
        ← List.append_assoc first, splitLoop_append h.1, hrest]

/-- Joining what a text was split into gives the text back. -/
theorem joinString_splitOn (str : Text) : joinString (str.splitOn separator) = str :=
  List.intercalate_splitOn separator

/-- `SplitString` as it is computed. -/
theorem splitString_eq_splitLoop (str : Text) :
    splitString str = if str = [] then none else some (splitLoop (str ++ SEPARATOR)) := by
  have hloop := splitLoop_joinString (List.splitOn_ne_nil separator str)
    fun segment => separator_not_mem_of_mem_splitOn
  rw [joinString_splitOn] at hloop
  rw [splitString, hloop]

/-- The parts that are left are joined behind those that are done. -/
theorem foldl_joinLoop (strs : List Text) (done : Nat) (res : Text) :
    (strs.zipIdx done).foldl (fun res x =>
      if x.2 ≠ done + strs.length - 1 then res ++ x.1 ++ SEPARATOR else res ++ x.1) res =
        res ++ joinString strs := by
  induction strs generalizing done res with
  | nil => exact (List.append_nil res).symm
  | cons first rest ih =>
    rw [List.zipIdx_cons, List.foldl_cons]
    cases rest with
    | nil =>
      rw [if_neg (by simp), joinString, List.intercalate_singleton]
      rfl
    | cons second rest =>
      have hnext : done + (first :: second :: rest).length =
          done + 1 + (second :: rest).length := by
        rw [List.length_cons (a := first)]
        omega
      rw [hnext, ih, if_pos (by rw [List.length_cons]; omega), joinString, joinString,
        List.intercalate_cons_cons, List.append_assoc, List.append_assoc, List.append_assoc]

/-- `JoinString` as it is computed. -/
theorem joinString_eq_joinLoop (strs : List Text) : joinString strs = joinLoop strs := by
  have hloop := foldl_joinLoop strs 0 []
  rw [Nat.zero_add] at hloop
  rw [joinLoop, hloop, List.nil_append]

/-! ## The keys of the generators -/

/-- A profile key that is generated from parts without separators. -/
inductive IsGenerated : Text → Prop where
  | device {deviceId : Text} (hdevice : separator ∉ deviceId) :
      IsGenerated (generateDeviceProfileKey deviceId)
  | service {deviceId serviceName : Text} (hdevice : separator ∉ deviceId)
      (hservice : separator ∉ serviceName) :
      IsGenerated (generateServiceProfileKey deviceId serviceName)
  | characteristic {deviceId serviceName charKey : Text} (hdevice : separator ∉ deviceId)
      (hservice : separator ∉ serviceName) (hcharacteristic : separator ∉ charKey) :
      IsGenerated (generateCharProfileKey deviceId serviceName charKey)

/-- A generated key is the stored form of a profile's name. -/
theorem IsGenerated.exists_profileKey {key : Text} (h : IsGenerated key) :
    ∃ k : ProfileKey, k.render = key := by
  cases h with
  | @device deviceId hdevice =>
    have hclean : ∀ segment ∈ [deviceId], separator ∉ segment := by
      rintro segment (_ | ⟨_, ⟨⟩⟩)
      exact hdevice
    exact ⟨⟨.dev, [deviceId], rfl, hclean⟩, (generateDeviceProfileKey_eq deviceId).symm⟩
  | @service deviceId serviceName hdevice hservice =>
    have hclean : ∀ segment ∈ [deviceId, serviceName], separator ∉ segment := by
      rintro segment (_ | ⟨_, _ | ⟨_, ⟨⟩⟩⟩)
      · exact hdevice
      · exact hservice
    exact ⟨⟨.svr, [deviceId, serviceName], rfl, hclean⟩,
      (generateServiceProfileKey_eq deviceId serviceName).symm⟩
  | @characteristic deviceId serviceName charKey hdevice hservice hcharacteristic =>
    have hclean : ∀ segment ∈ [deviceId, serviceName, charKey], separator ∉ segment := by
      rintro segment (_ | ⟨_, _ | ⟨_, _ | ⟨_, ⟨⟩⟩⟩⟩)
      · exact hdevice
      · exact hservice
      · exact hcharacteristic
    exact ⟨⟨.char, [deviceId, serviceName, charKey], rfl, hclean⟩,
      (generateCharProfileKey_eq deviceId serviceName charKey).symm⟩

/-- The user id of a generated key is read back where it is written, leaving it out gives the
key of no user, and the splitter and the joiner are inverse on the key. -/
theorem user_segment_is_exact {key property : Text} (hkey : IsGenerated key)
    (hproperty : separator ∉ property) (userId : Int32) :
    getUserIdFromDbKey (generateDBKey key property userId) =
        (if userId ≠ DEFAULT_USER_ID then userId else DEFAULT_USER_ID) ∧
      removeUserIdFromDbKey (generateDBKey key property userId) =
        generateDBKey key property ∧
      ∃ segments, splitString (generateDBKey key property userId) = some segments ∧
        joinString segments = generateDBKey key property userId ∧
        splitString (joinString segments) = some segments := by
  obtain ⟨profileKey, rfl⟩ := hkey.exists_profileKey
  let k : DbKey := { profileKey with property, userId := userId, clean_property := hproperty }
  have hrender : generateDBKey profileKey.render property userId = k.render :=
    generateDBKey_eq_render k
  have hrenderDefault : generateDBKey profileKey.render property =
      (k.forUser DEFAULT_USER_ID).render :=
    generateDBKey_eq_render (k.forUser DEFAULT_USER_ID)
  rw [hrender, hrenderDefault]
  refine ⟨?_, k.removeUserIdFromDbKey_render, k.segments, k.splitString_render, rfl,
    k.splitString_render⟩
  rw [k.getUserIdFromDbKey_render]
  split
  · rfl
  · rename_i hdefault
    exact not_not.mp hdefault

/-- The key of a service carries its user as the fifth segment. -/
theorem user_segment_is_exact_service :
    getUserIdFromDbKey ("svr#udid#camera#serviceType#100" : Text) = 100 ∧
      removeUserIdFromDbKey ("svr#udid#camera#serviceType#100" : Text) =
        ("svr#udid#camera#serviceType" : Text) := by
  have hkey : IsGenerated ("svr#udid#camera" : Text) :=
    @IsGenerated.service ("udid" : Text) ("camera" : Text) (by decide) (by decide)
  have hexact := @user_segment_is_exact _ SERVICE_TYPE hkey (by decide) 100
  exact ⟨hexact.1, hexact.2.1⟩

end DeviceProfile
