import DeviceProfile.Profile.Codec

/-!
# What a decoder sees of written entries

The entries of one profile have different keys, and a user who may see them finds each
property with the value it was written with.
-/

namespace DeviceProfile

open Library Std

/-! ## Written entries -/

/-- Different properties of a profile have different keys. -/
theorem generateDBKey_injective {profileKey property property' : Text} {userId : Int32}
    (h : generateDBKey profileKey property userId = generateDBKey profileKey property' userId) :
    property = property' := by
  unfold generateDBKey at h
  split at h
  · simp only [List.append_assoc] at h
    exact List.append_cancel_right (List.append_cancel_left (List.append_cancel_left h))
  · exact List.append_cancel_left h

/-- An entry is found under the key of its property, in front of what was there before. -/
theorem getElem?_putProperties {profileKey : Text} {userId : Int32}
    {properties : List (Text × Text)} (h : (properties.map Prod.fst).Nodup) (values : Entries)
    (key value : Text) :
    (putProperties profileKey userId properties values)[key]? = some value ↔
      (∃ p, generateDBKey profileKey p userId = key ∧ (p, value) ∈ properties) ∨
        (∀ x ∈ properties, generateDBKey profileKey x.1 userId ≠ key) ∧
          values[key]? = some value := by
  have hinj : properties.Pairwise fun x y => ∀ r,
      some (generateDBKey profileKey x.1 userId) = some r →
        some (generateDBKey profileKey y.1 userId) ≠ some r := by
    refine (List.pairwise_map.mp h).imp fun hne r hx hy => hne ?_
    exact generateDBKey_injective (Option.some.inj (hx.trans hy.symm))
  have hcollect := getElem?_collectList
    (fun p => some (generateDBKey profileKey p userId)) properties hinj values key value
  simp only [ne_eq, Option.some.injEq] at hcollect
  exact hcollect

theorem size_putProperties_le (profileKey : Text) (userId : Int32)
    (properties : List (Text × Text)) (values : Entries) :
    (putProperties profileKey userId properties values).size ≤
      values.size + properties.length := by
  induction properties generalizing values with
  | nil => exact Nat.le_refl _
  | cons x rest ih =>
    have hrest := ih (values.insert (generateDBKey profileKey x.1 userId) x.2)
    have hfirst := ExtTreeMap.size_insert_le (t := values)
      (k := generateDBKey profileKey x.1 userId) (v := x.2)
    rw [List.length_cons]
    exact hrest.trans (by omega)

/-! ## The properties a user sees -/

/-- The property an entry of no user holds. -/
def plainProperty (userId : Int32) (key : Text) : Option Text :=
  if getProfileProperty key userId = [] ∨ getUserIdFromDbKey key ≠ DEFAULT_USER_ID then none
  else some (getProfileProperty key userId)

/-- The property an entry of a user holds. -/
def userProperty (userId : Int32) (key : Text) : Option Text :=
  if getProfileProperty key userId = [] ∨ getUserIdFromDbKey key = DEFAULT_USER_ID then none
  else some (getProfileProperty key userId)

/-- The two maps of the loop are filled independently. -/
theorem getProfilePropertiesMap_eq {userId : Int32} (h : userId = DEFAULT_USER_ID ∨ 0 < userId)
    (dbEntries : Entries) :
    getProfilePropertiesMap dbEntries userId =
      if userId ≠ DEFAULT_USER_ID ∧ ¬(collect (userProperty userId) dbEntries).isEmpty then
        collect (userProperty userId) dbEntries
      else collect (plainProperty userId) dbEntries := by
  have hstep : (fun (maps : Entries × Entries) key value =>
      let profileProperty := getProfileProperty key userId
      if profileProperty = [] then maps
      else if getUserIdFromDbKey key = DEFAULT_USER_ID then
        (maps.1.insert profileProperty value, maps.2)
      else (maps.1, maps.2.insert profileProperty value)) =
    fun maps key value => (collectStep (plainProperty userId) maps.1 key value,
      collectStep (userProperty userId) maps.2 key value) := by
    funext maps key value
    by_cases hproperty : getProfileProperty key userId = []
    · simp only [hproperty, if_true, collectStep, plainProperty, userProperty, true_or]
    · by_cases huser : getUserIdFromDbKey key = DEFAULT_USER_ID <;>
        simp only [hproperty, huser, collectStep, plainProperty, userProperty, ne_eq,
          not_true_eq_false, not_false_eq_true, or_self, or_true, if_true, if_false]
  have hvalid : ¬(userId ≤ 0 ∧ userId ≠ DEFAULT_USER_ID) := by
    rintro ⟨hle, hne⟩
    rcases h with h | h
    · exact hne h
    · exact Int32.not_le.mpr h hle
  rw [getProfilePropertiesMap, if_neg hvalid]
  simp only [hstep, foldl_collectStep_pair]

/-- Properties that can be written: their names are distinct segments, and the keys are not
too long to be read. -/
structure Writable (key : ProfileKey) (userId : Int32) (properties : List (Text × Text)) :
    Prop where
  nodup : (properties.map Prod.fst).Nodup
  clean : ∀ x ∈ properties, separator ∉ x.1
  ne_nil : ∀ x ∈ properties, x.1 ≠ []
  short : ∀ x ∈ properties, (generateDBKey key.render x.1 userId).length ≤ MAX_STRING_LEN

section Written

variable {key : ProfileKey} {userId : Int32} {properties : List (Text × Text)}

/-- The entries of a profile. -/
abbrev written (key : ProfileKey) (userId : Int32) (properties : List (Text × Text)) : Entries :=
  putProperties key.render userId properties ∅

/-- The entries of a written profile. -/
theorem getElem?_written (h : Writable key userId properties) {k value : Text} :
    (written key userId properties)[k]? = some value ↔
      ∃ p, generateDBKey key.render p userId = k ∧ (p, value) ∈ properties := by
  rw [getElem?_putProperties h.nodup]
  simp only [ExtTreeMap.getElem?_empty, reduceCtorEq, and_false, or_false]

/-- The key of a property of the profile. -/
def Writable.dbKey (h : Writable key userId properties) {x : Text × Text}
    (hx : x ∈ properties) : DbKey :=
  { key with property := x.1, userId, clean_property := h.clean x hx }

theorem Writable.generateDBKey_eq (h : Writable key userId properties) {x : Text × Text}
    (hx : x ∈ properties) : generateDBKey key.render x.1 userId = (h.dbKey hx).render :=
  generateDBKey_eq_render (h.dbKey hx)

/-- A key of the profile shows the user id it was written with. -/
theorem Writable.getUserIdFromDbKey_eq (h : Writable key userId properties) {x : Text × Text}
    (hx : x ∈ properties) :
    getUserIdFromDbKey (generateDBKey key.render x.1 userId) = userId := by
  rw [h.generateDBKey_eq hx, DbKey.getUserIdFromDbKey_render]
  rfl

/-- A user sees the own properties and those of no user. -/
theorem Writable.getProfileProperty_eq (h : Writable key userId properties)
    {x : Text × Text} (hx : x ∈ properties) {viewer : Int32}
    (hviewer : userId = DEFAULT_USER_ID ∨ userId = viewer) :
    getProfileProperty (generateDBKey key.render x.1 userId) viewer = x.1 := by
  have hshort := h.short x hx
  rw [h.generateDBKey_eq hx] at hshort ⊢
  rw [DbKey.getProfileProperty_render hshort]
  change visibleProperty x.1 viewer userId = x.1
  unfold visibleProperty
  split
  · rfl
  · rename_i hother
    rw [if_pos]
    rcases hviewer with hplain | hown
    · by_contra hne
      exact hother ⟨fun hv => hne (hv.trans hplain.symm), hplain⟩
    · exact hown.symm

/-- Where every key is given its property, the values are found under the properties. -/
theorem getElem?_collect_written (h : Writable key userId properties) {f : Text → Option Text}
    (hf : ∀ x ∈ properties, f (generateDBKey key.render x.1 userId) = some x.1)
    {p value : Text} :
    (collect f (written key userId properties))[p]? = some value ↔ (p, value) ∈ properties := by
  have hkey : ∀ k ∈ written key userId properties,
      ∃ x ∈ properties, generateDBKey key.render x.1 userId = k := by
    intro k hk
    obtain ⟨v, hv⟩ := mem_iff_exists_getElem?.mp hk
    obtain ⟨q, hq, hmem⟩ := (getElem?_written h).mp hv
    exact ⟨(q, v), hmem, hq⟩
  rw [getElem?_collect]
  · constructor
    · rintro ⟨k, hfk, hk⟩
      obtain ⟨q, rfl, hmem⟩ := (getElem?_written h).mp hk
      rw [hf _ hmem] at hfk
      exact Option.some.inj hfk ▸ hmem
    · intro hmem
      exact ⟨_, hf _ hmem, (getElem?_written h).mpr ⟨p, rfl, hmem⟩⟩
  · intro k hk k' hk' r hr hr'
    obtain ⟨x, hx, rfl⟩ := hkey k hk
    obtain ⟨x', hx', rfl⟩ := hkey k' hk'
    rw [hf x hx] at hr
    rw [hf x' hx'] at hr'
    rw [Option.some.inj (hr.trans hr'.symm)]

/-- Where no key is given a property, nothing is collected. -/
theorem collect_written_eq_empty (h : Writable key userId properties) {f : Text → Option Text}
    (hf : ∀ x ∈ properties, f (generateDBKey key.render x.1 userId) = none) :
    collect f (written key userId properties) = ∅ := by
  have hnone : ∀ k ∈ written key userId properties, f k = none := by
    intro k hk
    obtain ⟨v, hv⟩ := mem_iff_exists_getElem?.mp hk
    obtain ⟨q, rfl, hmem⟩ := (getElem?_written h).mp hv
    exact hf _ hmem
  refine ExtTreeMap.ext_getElem? fun r => ?_
  rw [ExtTreeMap.getElem?_empty, Option.eq_none_iff_forall_ne_some]
  intro a ha
  rw [getElem?_collect] at ha
  · obtain ⟨k, hfk, hk⟩ := ha
    have hmem : k ∈ written key userId properties := by
      exact mem_iff_exists_getElem?.mpr ⟨_, hk⟩
    rw [hnone k hmem] at hfk
    cases hfk
  · intro k hk k' hk' r' hr
    rw [hnone k hk] at hr
    cases hr

/-- Each property is seen with the value it was written with, and nothing else is seen. -/
theorem getElem?_getProfilePropertiesMap_written (h : Writable key userId properties)
    {viewer : Int32} (hviewer : userId = DEFAULT_USER_ID ∨ userId = viewer)
    (hvalid : viewer = DEFAULT_USER_ID ∨ 0 < viewer) {p value : Text} :
    (getProfilePropertiesMap (written key userId properties) viewer)[p]? = some value ↔
      (p, value) ∈ properties := by
  have hproperty := fun x hx => h.getProfileProperty_eq (x := x) hx hviewer
  rw [getProfilePropertiesMap_eq hvalid]
  by_cases hplain : userId = DEFAULT_USER_ID
  · have huser : collect (userProperty viewer) (written key userId properties) = ∅ :=
      collect_written_eq_empty h fun x hx => by
        rw [userProperty, if_pos (.inr ((h.getUserIdFromDbKey_eq hx).trans hplain))]
    rw [huser, if_neg (by simp)]
    refine getElem?_collect_written h fun x hx => ?_
    rw [plainProperty, hproperty x hx, h.getUserIdFromDbKey_eq hx, if_neg]
    exact not_or.mpr ⟨h.ne_nil x hx, not_not.mpr hplain⟩
  · have hown : userId = viewer := hviewer.resolve_left hplain
    have huser : (collect (userProperty viewer) (written key userId properties))[p]? =
        some value ↔ (p, value) ∈ properties :=
      getElem?_collect_written h fun x hx => by
        rw [userProperty, hproperty x hx, h.getUserIdFromDbKey_eq hx, if_neg]
        exact not_or.mpr ⟨h.ne_nil x hx, hplain⟩
    have hnone : collect (plainProperty viewer) (written key userId properties) = ∅ :=
      collect_written_eq_empty h fun x hx => by
        rw [plainProperty, if_pos (.inr ((h.getUserIdFromDbKey_eq hx).symm ▸ hplain))]
    split
    · exact huser
    · rename_i hempty
      have hempty' : collect (userProperty viewer) (written key userId properties) = ∅ := by
        by_contra hne
        refine hempty ⟨hown ▸ hplain, ?_⟩
        rwa [ExtTreeMap.isEmpty_iff]
      rw [hempty'] at huser
      rw [hnone]
      exact huser

/-- A property that was written with a value of the right length is found. -/
theorem validProperty_written (h : Writable key userId properties) {viewer : Int32}
    (hviewer : userId = DEFAULT_USER_ID ∨ userId = viewer)
    (hvalid : viewer = DEFAULT_USER_ID ∨ 0 < viewer) {p value : Text}
    (hmem : (p, value) ∈ properties) (hpos : 0 < value.length)
    (hlt : value.length < MAX_STRING_LEN) :
    validProperty (getProfilePropertiesMap (written key userId properties) viewer) p =
      some value := by
  have hget := (getElem?_getProfilePropertiesMap_written h hviewer hvalid).mpr hmem
  simp only [validProperty, hget, Option.filter_some, hpos, hlt, and_self, decide_true, if_true]

/-- The entries of a profile are neither none nor too many. -/
theorem checkEntriesSize_written (h : Writable key userId properties) (hne : properties ≠ [])
    (hsize : properties.length ≤ MAX_DB_RECORD_SIZE) :
    checkEntriesSize (written key userId properties) = .ok () := by
  have hle := size_putProperties_le key.render userId properties ∅
  rw [ExtTreeMap.size_empty, Nat.zero_add] at hle
  obtain ⟨x, hx⟩ := List.exists_mem_of_ne_nil _ hne
  have hget := (getElem?_written h).mpr ⟨x.1, rfl, hx⟩
  have hempty : ¬(written key userId properties).isEmpty := by
    intro he
    rw [ExtTreeMap.isEmpty_iff.mp he, ExtTreeMap.getElem?_empty] at hget
    cases hget
  rw [checkEntriesSize, if_neg (not_or.mpr ⟨hempty, Nat.not_lt.mpr (hle.trans hsize)⟩)]
  rfl

/-- The first key is one of the profile's. -/
theorem beginKey_written (h : Writable key userId properties) (hne : properties ≠ []) :
    ∃ k : DbKey, k.toProfileKey = key ∧ beginKey (written key userId properties) = k.render ∧
      k.render.length ≤ MAX_STRING_LEN := by
  obtain ⟨y, hy⟩ := List.exists_mem_of_ne_nil _ hne
  have hget := (getElem?_written h).mpr ⟨y.1, rfl, hy⟩
  obtain ⟨x, hx⟩ : ∃ x, (written key userId properties).toList.head? = some x := by
    cases hlist : (written key userId properties).toList with
    | nil =>
      rw [← ExtTreeMap.mem_toList_iff_getElem?_eq_some, hlist] at hget
      cases hget
    | cons x rest => exact ⟨x, rfl⟩
  obtain ⟨p, hp, hmem⟩ := (getElem?_written h).mp (mem_of_head?_toList hx)
  have hbegin : beginKey (written key userId properties) = x.1 := by
    rw [beginKey, hx]
    rfl
  have hshort := h.short _ hmem
  rw [h.generateDBKey_eq hmem] at hp hshort
  exact ⟨h.dbKey hmem, rfl, hbegin.trans hp.symm, hshort⟩

end Written

end DeviceProfile
