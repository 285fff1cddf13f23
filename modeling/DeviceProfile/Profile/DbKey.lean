import DeviceProfile.Profile.Keys

/-!
# What a key says

A well-formed key names a profile, one of its properties and a user. Its segments are
free of separators, so its stored form determines them, and the readers of stored keys
find in it what was written.
-/

namespace DeviceProfile

open Library

/-- The three kinds of profiles. -/
inductive Kind where
  | dev
  | svr
  | char
  deriving DecidableEq, Repr

/-- The first segment of the keys of a kind. -/
def Kind.tag : Kind → Text
  | .dev => DEV_PREFIX
  | .svr => SVR_PREFIX
  | .char => CHAR_PREFIX

/-- How many segments name a profile of a kind. -/
def Kind.arity : Kind → Nat
  | .dev => 1
  | .svr => 2
  | .char => 3

/-- Which profile it is. -/
@[ext] structure ProfileKey where
  kind : Kind
  path : List Text
  length_path : path.length = kind.arity
  clean_path : ∀ segment ∈ path, separator ∉ segment

/-- What a key says: a profile, one of its properties and a user, or no user. -/
@[ext] structure DbKey extends ProfileKey where
  property : Text
  userId : Int32
  clean_property : separator ∉ property

/-- The part of the stored keys that a profile's entries share. -/
def ProfileKey.render (k : ProfileKey) : Text := joinString (k.kind.tag :: k.path)

namespace DbKey

/-- The user segment, if there is one. -/
def userSegment (userId : Int32) : List Text :=
  if userId ≠ DEFAULT_USER_ID then [numeral userId.toInt] else []

/-- The segments of a key. -/
def segments (k : DbKey) : List Text :=
  k.kind.tag :: (k.path ++ k.property :: userSegment k.userId)

/-- The stored form of a key. -/
def render (k : DbKey) : Text := joinString k.segments

theorem separator_not_mem_tag (kind : Kind) : separator ∉ kind.tag := by
  cases kind <;> decide

theorem separator_not_mem_numeral (n : Int) : separator ∉ numeral n :=
  not_mem_numeral (by decide) (by decide) n

variable {k k' : DbKey}

/-- No segment of a key contains a separator. -/
theorem clean_segments (k : DbKey) : ∀ segment ∈ k.segments, separator ∉ segment := by
  intro segment h
  rw [segments, List.mem_cons, List.mem_append, List.mem_cons] at h
  rcases h with rfl | h | rfl | h
  · exact separator_not_mem_tag k.kind
  · exact k.clean_path segment h
  · exact k.clean_property
  · unfold userSegment at h
    split at h
    · rw [List.mem_singleton.mp h]
      exact separator_not_mem_numeral k.userId.toInt
    · cases h

theorem render_ne_nil (k : DbKey) : k.render ≠ [] := by
  intro h
  have hsplit := List.splitOn_intercalate separator k.clean_segments (List.cons_ne_nil _ _)
  rw [← SEPARATOR, ← joinString, ← render, h, List.splitOn_nil] at hsplit
  have hlength := congrArg List.length hsplit
  simp only [segments, List.length_cons, List.length_append, List.length_nil] at hlength
  omega

/-- Splitting a stored key gives its segments back. -/
@[simp] theorem splitString_render (k : DbKey) : splitString k.render = some k.segments := by
  rw [splitString, if_neg k.render_ne_nil]
  exact congrArg some
    (List.splitOn_intercalate separator k.clean_segments (List.cons_ne_nil _ _))

theorem tag_injective {kind kind' : Kind} (h : kind.tag = kind'.tag) : kind = kind' := by
  revert h
  cases kind <;> cases kind' <;> decide

theorem userSegment_injective {u u' : Int32} (h : userSegment u = userSegment u') : u = u' := by
  unfold userSegment at h
  split at h <;> split at h
  · exact Int32.toInt.inj (numeral_injective (List.cons.inj h).1)
  · cases h
  · cases h
  · rename_i hu hu'
    rw [ne_eq, not_not] at hu hu'
    rw [hu, hu']

/-- Two keys with the same stored form say the same. -/
theorem render_injective (h : k.render = k'.render) : k = k' := by
  have hsegments : k.segments = k'.segments := by
    have hsplit := k.splitString_render
    rw [h, splitString_render] at hsplit
    exact (Option.some.inj hsplit).symm
  obtain ⟨htag, hrest⟩ := List.cons.inj hsegments
  have hkind : k.kind = k'.kind := tag_injective htag
  have hlength : k.path.length = k'.path.length := by
    rw [k.length_path, k'.length_path, hkind]
  obtain ⟨hpath, hrest⟩ := List.append_inj hrest hlength
  obtain ⟨hproperty, huser⟩ := List.cons.inj hrest
  exact DbKey.ext hkind hpath hproperty (userSegment_injective huser)

/-! ## Reading a stored key -/

theorem three_le_length_segments (k : DbKey) : 3 ≤ k.segments.length := by
  have harity : 1 ≤ k.kind.arity := by cases k.kind <;> decide
  simp only [segments, List.length_cons, List.length_append, k.length_path]
  omega

/-- The path follows the kind. -/
theorem getElem?_segments_path {i : Nat} (h : i < k.kind.arity) :
    k.segments[i + 1]? = k.path[i]? := by
  rw [segments, List.getElem?_cons_succ, List.getElem?_append_left (k.length_path ▸ h)]

/-- The property follows the path. -/
theorem getElem?_segments_property (k : DbKey) :
    k.segments[k.kind.arity + 1]? = some k.property := by
  rw [segments, List.getElem?_cons_succ, ← k.length_path,
    List.getElem?_append_right (Nat.le_refl _), Nat.sub_self, List.getElem?_cons_zero]

/-- The user segment is the last one. -/
theorem getElem?_segments_user (k : DbKey) :
    k.segments[k.kind.arity + 2]? = (userSegment k.userId)[0]? := by
  have hsub : k.path.length + 1 - k.path.length = 0 + 1 := by omega
  rw [segments, List.getElem?_cons_succ, ← k.length_path,
    List.getElem?_append_right (Nat.le_succ _), hsub, List.getElem?_cons_succ]

/-- A position is read as the user id only in keys of its kind. -/
theorem userIdAt_segments (k : DbKey) (kind : Kind) (userId : Int32) :
    userIdAt k.segments kind.tag (kind.arity + 2) userId =
      if k.kind = kind ∧ k.userId ≠ DEFAULT_USER_ID then k.userId else userId := by
  by_cases hkind : k.kind = kind
  · subst hkind
    rw [userIdAt, getElem?_segments_user, userSegment]
    by_cases huser : k.userId = DEFAULT_USER_ID
    · simp only [huser, ne_eq, not_true_eq_false, and_false, if_false, List.getElem?_nil]
    · simp only [huser, ne_eq, not_false_eq_true, if_true, List.getElem?_cons_zero,
        segments, List.head?_cons, isNumeral_numeral, and_self, atoi_numeral]
  · have hhead : k.segments.head? ≠ some kind.tag := by
      intro h
      exact hkind (tag_injective (Option.some.inj h))
    simp only [userIdAt, hhead, hkind, false_and, if_false]
    split <;> rfl

/-- The user id of a key is read back. -/
@[simp] theorem getUserIdFromDbKey_render (k : DbKey) :
    getUserIdFromDbKey k.render = k.userId := by
  have hlength : ¬k.segments.length < 3 := Nat.not_lt.mpr k.three_le_length_segments
  have hdev := k.userIdAt_segments .dev
  have hsvr := k.userIdAt_segments .svr
  have hchar := k.userIdAt_segments .char
  simp only [Kind.tag, Kind.arity, Nat.reduceAdd] at hdev hsvr hchar
  simp only [getUserIdFromDbKey, splitString_render, if_neg hlength, hdev, hsvr, hchar]
  by_cases huser : k.userId = DEFAULT_USER_ID
  · simp only [huser, ne_eq, not_true_eq_false, and_false, if_false]
  · cases k.kind <;> simp only [huser, ne_eq, not_false_eq_true, reduceCtorEq, true_and,
      false_and, if_true, if_false]

/-- A key that is not too long shows its property to the users that may see it. -/
theorem getProfileProperty_render (h : k.render.length ≤ MAX_STRING_LEN) (userId : Int32) :
    getProfileProperty k.render userId = visibleProperty k.property userId k.userId := by
  have hkey : HasKeyLength k.render := ⟨by simpa using k.render_ne_nil, h⟩
  have hlength : ¬k.segments.length < 3 := Nat.not_lt.mpr k.three_le_length_segments
  have hlong : k.kind.arity + 2 ≤ k.segments.length := by
    simp only [segments, List.length_cons, List.length_append, k.length_path]
    omega
  have hproperty := k.getElem?_segments_property
  have hhead : k.segments.head? = some k.kind.tag := rfl
  rw [getProfileProperty, if_pos hkey]
  simp only [splitString_render, if_neg hlength, getUserIdFromDbKey_render, hhead]
  cases hkind : k.kind with
  | dev =>
    rw [hkind] at hproperty
    have htag : some Kind.dev.tag = some DEV_PREFIX := rfl
    rw [if_pos htag, show (2 : Nat) = Kind.dev.arity + 1 from rfl, hproperty, Option.getD_some]
  | svr =>
    rw [hkind] at hproperty hlong
    rw [if_neg (by decide), if_pos ⟨rfl, hlong⟩, show (3 : Nat) = Kind.svr.arity + 1 from rfl,
      hproperty, Option.getD_some]
  | char =>
    rw [hkind] at hproperty hlong
    have hsvr : some Kind.char.tag ≠ some SVR_PREFIX := by decide
    rw [if_neg (by decide), if_neg fun h => hsvr h.1, if_pos ⟨rfl, hlong⟩,
      show (4 : Nat) = Kind.char.arity + 1 from rfl, hproperty, Option.getD_some]

/-- A key that is not too long shows the segments of its path. -/
theorem segmentByDBKey_render (h : k.render.length ≤ MAX_STRING_LEN) {i : Nat}
    (hi : i < k.kind.arity) : segmentByDBKey (i + 1) k.render = k.path[i]?.getD [] := by
  have hkey : HasKeyLength k.render := ⟨by simpa using k.render_ne_nil, h⟩
  simp only [segmentByDBKey, if_pos hkey, splitString_render, getElem?_segments_path hi]

/-! ## The key of no user -/

/-- The key of the same property for another user. -/
def forUser (k : DbKey) (userId : Int32) : DbKey := { k with userId }

@[simp] theorem userId_forUser (k : DbKey) (userId : Int32) : (k.forUser userId).userId = userId :=
  rfl

@[simp] theorem property_forUser (k : DbKey) (userId : Int32) :
    (k.forUser userId).property = k.property :=
  rfl

@[simp] theorem toProfileKey_forUser (k : DbKey) (userId : Int32) :
    (k.forUser userId).toProfileKey = k.toProfileKey :=
  rfl

@[simp] theorem forUser_userId (k : DbKey) : k.forUser k.userId = k := rfl

@[simp] theorem forUser_forUser (k : DbKey) (userId userId' : Int32) :
    (k.forUser userId).forUser userId' = k.forUser userId' :=
  rfl

/-- The user segment is left out only in keys of the kind. -/
theorem dropUserIdAt_segments (k : DbKey) (kind : Kind) :
    dropUserIdAt kind.tag (kind.arity + 2) k.segments =
      if k.kind = kind then (k.forUser DEFAULT_USER_ID).segments else k.segments := by
  by_cases hkind : k.kind = kind
  · subst hkind
    rw [if_pos rfl, dropUserIdAt, getElem?_segments_user, userSegment]
    by_cases huser : k.userId = DEFAULT_USER_ID
    · simp only [huser, ne_eq, not_true_eq_false, if_false, List.getElem?_nil]
      rw [← huser, forUser_userId]
    · have hhead : k.segments.head? = some k.kind.tag := rfl
      have hsplit : k.segments =
          (k.forUser DEFAULT_USER_ID).segments ++ [numeral k.userId.toInt] := by
        simp only [segments, userSegment, forUser, huser, ne_eq, not_false_eq_true, if_true,
          not_true_eq_false, if_false, List.cons_append, List.append_assoc, List.nil_append]
      have hlength : (k.forUser DEFAULT_USER_ID).segments.length = k.kind.arity + 2 := by
        simp only [segments, userSegment, forUser, ne_eq, not_true_eq_false, if_false,
          List.length_cons, List.length_append, List.length_nil, k.length_path]
      simp only [huser, ne_eq, not_false_eq_true, if_true, List.getElem?_cons_zero, hhead,
        isNumeral_numeral, and_self]
      rw [hsplit, List.eraseIdx_append_of_length_le (Nat.le_of_eq hlength), hlength, Nat.sub_self,
        List.eraseIdx_zero, List.tail_cons, List.append_nil]
  · have hhead : k.segments.head? ≠ some kind.tag := fun h =>
      hkind (tag_injective (Option.some.inj h))
    rw [if_neg hkind]
    simp only [dropUserIdAt, hhead, false_and, if_false]
    split <;> rfl

/-- Leaving out the user id of a key gives the key of no user. -/
@[simp] theorem removeUserIdFromDbKey_render (k : DbKey) :
    removeUserIdFromDbKey k.render = (k.forUser DEFAULT_USER_ID).render := by
  have hlength : ¬k.segments.length < 3 := Nat.not_lt.mpr k.three_le_length_segments
  have hdrop : ∀ (l : List Text) (k' : DbKey), l = k'.segments → ∀ kind : Kind,
      dropUserIdAt kind.tag (kind.arity + 2) l =
        (if k'.kind = kind then k'.forUser DEFAULT_USER_ID else k').segments := by
    rintro l k' rfl kind
    rw [dropUserIdAt_segments]
    split <;> rfl
  have hdev := hdrop k.segments k rfl .dev
  have hsvr := hdrop _ _ hdev .svr
  have hchar := hdrop _ _ hsvr .char
  simp only [Kind.tag, Kind.arity, Nat.reduceAdd] at hdev hsvr hchar
  rw [removeUserIdFromDbKey, splitString_render]
  simp only [if_neg hlength, hchar]
  refine congrArg render ?_
  cases hkind : k.kind <;> simp [hkind, forUser]

/-- A key starts with its kind and the first segment of its path. -/
theorem prefix_render {k : DbKey} {segment : Text} (h : k.path.head? = some segment) :
    k.kind.tag ++ SEPARATOR ++ segment <+: k.render := by
  obtain ⟨rest, hpath⟩ : ∃ rest, k.path = segment :: rest := by
    cases hp : k.path with
    | nil =>
      rw [hp] at h
      cases h
    | cons first rest =>
      rw [hp] at h
      exact ⟨rest, Option.some.inj h ▸ rfl⟩
  obtain ⟨second, more, hmore⟩ : ∃ second more,
      rest ++ k.property :: userSegment k.userId = second :: more := by
    cases rest with
    | nil => exact ⟨_, _, rfl⟩
    | cons first rest => exact ⟨_, _, rfl⟩
  rw [render, segments, hpath, List.cons_append, hmore, joinString]
  simp only [List.intercalate_cons_cons, List.append_assoc]
  refine (List.prefix_append_right_inj _).mpr ((List.prefix_append_right_inj _).mpr ?_)
  exact List.prefix_append _ _

/-- A key starts with the tag of its kind and of no other. -/
theorem tag_prefix_render_iff (k : DbKey) (kind : Kind) :
    kind.tag <+: k.render ↔ k.kind = kind := by
  have hown : k.kind.tag <+: k.render := by
    obtain ⟨segment, hsegment⟩ : ∃ segment, k.path.head? = some segment := by
      cases hpath : k.path with
      | nil =>
        have hlength := k.length_path
        rw [hpath] at hlength
        cases hkind : k.kind <;> rw [hkind] at hlength <;> cases hlength
      | cons segment rest => exact ⟨segment, rfl⟩
    exact ((List.prefix_append _ _).trans (List.prefix_append _ _)).trans (prefix_render hsegment)
  constructor
  · intro hother
    have hboth := List.prefix_or_prefix_of_prefix hown hother
    revert hboth
    cases k.kind <;> cases kind <;> decide
  · rintro rfl
    exact hown

end DbKey

/-! ## The keys the generators write -/

/-- Segments without separators are determined by what they are joined to. -/
theorem joinString_injective {strs strs' : List Text} (hne : strs ≠ []) (hne' : strs' ≠ [])
    (h : ∀ str ∈ strs, separator ∉ str) (h' : ∀ str ∈ strs', separator ∉ str)
    (heq : joinString strs = joinString strs') : strs = strs' := by
  have hsplit := List.splitOn_intercalate separator h hne
  have hsplit' := List.splitOn_intercalate separator h' hne'
  rw [← SEPARATOR, ← joinString] at hsplit hsplit'
  rw [← hsplit, heq, hsplit']

/-- What is between separators has none. -/
theorem separator_not_mem_of_mem_splitOn {text segment : Text}
    (h : segment ∈ text.splitOn separator) : separator ∉ segment := by
  induction text generalizing segment with
  | nil =>
    rw [List.splitOn_nil, List.mem_singleton] at h
    rw [h]
    exact List.not_mem_nil
  | cons letter rest ih =>
    rw [List.splitOn_cons_eq_if_modifyHead] at h
    split at h
    · rcases List.mem_cons.mp h with rfl | h
      · exact List.not_mem_nil
      · exact ih h
    · rename_i hletter
      cases hrest : rest.splitOn separator with
      | nil => exact absurd hrest (List.splitOn_ne_nil _ _)
      | cons first others =>
        rw [hrest] at h ih
        rcases List.mem_cons.mp h with rfl | h
        · rintro (_ | ⟨_, hmem⟩)
          · exact hletter (by simp)
          · exact ih List.mem_cons_self hmem
        · exact ih (List.mem_cons_of_mem _ h)

namespace ProfileKey

variable {key key' : ProfileKey}

theorem clean_segments (key : ProfileKey) :
    ∀ segment ∈ key.kind.tag :: key.path, separator ∉ segment := by
  rw [List.forall_mem_cons]
  exact ⟨DbKey.separator_not_mem_tag key.kind, key.clean_path⟩

theorem render_ne_nil (key : ProfileKey) : key.render ≠ [] := by
  rw [render, joinString]
  cases key.path with
  | nil =>
    rw [List.intercalate_singleton]
    cases key.kind <;> decide
  | cons segment rest =>
    rw [List.intercalate_cons_cons]
    simp [SEPARATOR]

theorem render_injective (h : key.render = key'.render) : key = key' := by
  have hsegments := joinString_injective (List.cons_ne_nil _ _) (List.cons_ne_nil _ _)
    key.clean_segments key'.clean_segments h
  obtain ⟨htag, hpath⟩ := List.cons.inj hsegments
  exact ProfileKey.ext (DbKey.tag_injective htag) hpath

end ProfileKey

/-- Joining one more segment appends it after a separator. -/
theorem joinString_concat (strs : List Text) (h : strs ≠ []) (str : Text) :
    joinString (strs ++ [str]) = joinString strs ++ SEPARATOR ++ str := by
  induction strs with
  | nil => exact absurd rfl h
  | cons first rest ih =>
    cases rest with
    | nil => simp only [joinString, List.cons_append, List.nil_append,
        List.intercalate_cons_cons, List.intercalate_singleton]
    | cons second rest =>
      have htail := ih (List.cons_ne_nil _ _)
      rw [joinString, joinString] at htail ⊢
      simp only [List.cons_append, List.intercalate_cons_cons] at htail ⊢
      rw [htail]
      simp only [List.append_assoc]

/-- The generated key of a property is the stored form of what it says. -/
theorem generateDBKey_eq_render (k : DbKey) :
    generateDBKey k.toProfileKey.render k.property k.userId = k.render := by
  have hproperty := joinString_concat _ (List.cons_ne_nil k.kind.tag k.path) k.property
  rw [generateDBKey, ProfileKey.render, DbKey.render, DbKey.segments, DbKey.userSegment]
  split
  · have huser := joinString_concat (k.kind.tag :: k.path ++ [k.property])
      (List.cons_ne_nil _ _) (numeral k.userId.toInt)
    rw [hproperty] at huser
    rw [← huser]
    simp only [List.cons_append, List.append_assoc, List.nil_append]
  · rw [← hproperty]
    rfl

theorem generateDeviceProfileKey_eq (deviceId : Text) :
    generateDeviceProfileKey deviceId = joinString [DEV_PREFIX, deviceId] := by
  simp only [generateDeviceProfileKey, joinString, List.intercalate_cons_cons,
    List.intercalate_singleton]

theorem generateServiceProfileKey_eq (deviceId serviceName : Text) :
    generateServiceProfileKey deviceId serviceName =
      joinString [SVR_PREFIX, deviceId, serviceName] := by
  simp only [generateServiceProfileKey, joinString, List.intercalate_cons_cons,
    List.intercalate_singleton, List.append_assoc]

theorem generateCharProfileKey_eq (deviceId serviceName charKey : Text) :
    generateCharProfileKey deviceId serviceName charKey =
      joinString [CHAR_PREFIX, deviceId, serviceName, charKey] := by
  simp only [generateCharProfileKey, joinString, List.intercalate_cons_cons,
    List.intercalate_singleton, List.append_assoc]

end DeviceProfile
