import DeviceProfile.Ipc.Marshalling

/-!
# What is received of what was sent

With a parcel that gives back what was written, a record whose fields were all written is
restored. A trust device profile is restored if the target has no services yet and the
services are not too many, access control profiles if there are any and the target has none,
and a map if no key has a separator and the target has no other keys.
-/

namespace DeviceProfile

open Library Std

variable {σ : Type} {p : Parcel σ} {holds : σ → List Primitive → Prop}

/-! ## Sizes -/

/-- A size that has been written stands in the parcel, modulo its 32 bits. -/
theorem holds_writeSize (hp : p.IsFaithful holds) {length : Nat} {s s' : σ}
    {items : List Primitive} (h : holds s items) (hok : writeSize p length s = some s') :
    holds s' (items ++ [⟨.uint32, (uint32Size length : Int)⟩]) :=
  hp.write h hok

theorem readSize_of_holds (hp : p.IsFaithful holds) {n : Nat} {s : σ} {rest : List Primitive}
    (h : holds s (⟨.uint32, (n : Int)⟩ :: rest)) :
    ∃ s', readSize p s = (n, s') ∧ holds s' rest := by
  obtain ⟨s', hread, hs'⟩ := hp.read h
  refine ⟨s', ?_, hs'⟩
  rw [readSize, hread]
  rfl

theorem uint32Size_of_le {length bound : Nat} (h : length ≤ bound) (hbound : bound < 2 ^ 32) :
    uint32Size length = length :=
  Nat.mod_eq_of_lt (h.trans_lt hbound)

theorem uint32Size_le (length : Nat) : uint32Size length ≤ length := Nat.mod_le _ _

/-! ## Trust device profiles -/

/-- The services that arrive are the sent ones: their number fits, and nothing stands before
them. -/
def IsListRestored (target sent : List Int) : Prop :=
  uint32Size sent.length ≤ MAX_SERVICE_SIZE ∧ target ++ sent.take (uint32Size sent.length) = sent

/-- Unless there are more services than 32 bits count, the target has none and they are not too
many. -/
theorem isListRestored_iff {target sent : List Int} (h : sent.length < 2 ^ 32) :
    IsListRestored target sent ↔ target = [] ∧ sent.length ≤ MAX_SERVICE_SIZE := by
  rw [IsListRestored, uint32Size, Nat.mod_eq_of_lt h, List.take_length, List.append_left_eq_self]
  exact and_comm

theorem copyFields_trustFields (t u : TrustDeviceProfile) :
    copyFields trustFields t u = { t with serviceIdList := u.serviceIdList } := rfl

/-- What the reader makes of a trust device profile that was sent. -/
theorem unMarshalling_trust (hp : p.IsFaithful holds) {t : TrustDeviceProfile} {s : σ}
    (hs : holds s []) (hok : (t.marshalling p s).1 = true) (target : TrustDeviceProfile) :
    ((target.unMarshalling p (t.marshalling p s).2).1 = true ∧
        (target.unMarshalling p (t.marshalling p s).2).2.1 = t) ↔
      IsListRestored target.serviceIdList t.serviceIdList := by
  obtain ⟨s₁, hfields, hholds⟩ : ∃ s₁, writeFields p trustFields t s = (true, s₁) ∧
      holds s₁ (fieldItems trustFields t) := by
    cases hwrite : writeFields p trustFields t s with
    | mk result s₁ =>
      cases result with
      | false =>
        rw [TrustDeviceProfile.marshalling, hwrite] at hok
        cases hok
      | true =>
        have h := holds_writeFields hp hs (congrArg Prod.fst hwrite)
        rw [hwrite, List.nil_append] at h
        exact ⟨s₁, rfl, h⟩
  rw [TrustDeviceProfile.marshalling, hfields] at hok ⊢
  simp only at hok ⊢
  cases hsize : writeSize p t.serviceIdList.length s₁ with
  | none =>
    rw [hsize] at hok
    cases hok
  | some s₂ =>
    rw [hsize] at hok
    simp only at hok ⊢
    have hall := holds_writeValues hp (holds_writeSize hp hholds hsize) hok
    rw [List.append_assoc] at hall
    obtain ⟨s₃, hread, hs₃⟩ := readFields_of_holds hp hall target
    obtain ⟨s₄, hreadSize, hs₄⟩ := hp.read hs₃
    rw [copyFields_trustFields] at hread
    rw [TrustDeviceProfile.unMarshalling, hread]
    simp only [hreadSize, Int.toNat_natCast]
    rw [IsListRestored]
    by_cases hmany : MAX_SERVICE_SIZE < uint32Size t.serviceIdList.length
    · rw [if_pos hmany]
      exact iff_of_false (fun h => Bool.false_ne_true h.1) fun h =>
        absurd hmany (Nat.not_lt.mpr h.1)
    · rw [if_neg hmany]
      rw [← List.append_nil (t.serviceIdList.map _)] at hs₄
      obtain ⟨s₅, hvalues, -⟩ := readValues_of_holds hp (uint32Size_le _) hs₄
      rw [hvalues]
      simp only [true_and, Nat.not_lt.mp hmany]
      constructor
      · intro h
        exact congrArg TrustDeviceProfile.serviceIdList h
      · intro h
        rw [h]

/-! ## Access control profiles -/

theorem copyFields_partyFields (a b : Party) : copyFields partyFields a b = a := rfl

theorem copyFields_aclFields (a b : AccessControlProfile) :
    copyFields aclFields a b = { a with accesser := b.accesser, accessee := b.accessee } := rfl

/-- What a profile leaves in a parcel: its own fields, then those of its two parties. -/
def aclItems (a : AccessControlProfile) : List Primitive :=
  fieldItems aclFields a ++ (fieldItems partyFields a.accesser ++ fieldItems partyFields a.accessee)

variable (p) in
/-- The parcel has taken the parties of a profile. -/
def ArePartiesWritten (a : AccessControlProfile) (s : σ) : Prop :=
  let s := (writeFields p aclFields a s).2
  (writeFields p partyFields a.accesser s).1 = true ∧
    (writeFields p partyFields a.accessee (writeFields p partyFields a.accesser s).2).1 = true

variable (p) in
/-- The parcel has taken the parties of all profiles. -/
def AreAllPartiesWritten : List AccessControlProfile → σ → Prop
  | [], _ => True
  | a :: rest, s => ArePartiesWritten p a s ∧ AreAllPartiesWritten rest (a.marshalling p s).2

/-- A profile whose parties have been written stands in the parcel. -/
theorem holds_marshalling_acl (hp : p.IsFaithful holds) {a : AccessControlProfile} {s : σ}
    {items : List Primitive} (hs : holds s items) (hok : (a.marshalling p s).1 = true)
    (hparties : ArePartiesWritten p a s) :
    holds (a.marshalling p s).2 (items ++ aclItems a) := by
  rw [AccessControlProfile.marshalling] at hok ⊢
  rw [ArePartiesWritten] at hparties
  cases hwrite : writeFields p aclFields a s with
  | mk result s₁ =>
    rw [hwrite] at hok hparties
    cases result with
    | false => cases hok
    | true =>
      have hacl := holds_writeFields hp hs (congrArg Prod.fst hwrite)
      rw [hwrite] at hacl
      have haccesser := holds_writeFields hp hacl hparties.1
      have haccessee := holds_writeFields hp haccesser hparties.2
      rw [List.append_assoc, List.append_assoc] at haccessee
      exact haccessee

/-- A profile is read back as it stands in the parcel, whatever the object held before. -/
theorem unMarshalling_acl (hp : p.IsFaithful holds) {a : AccessControlProfile} {s : σ}
    {rest : List Primitive} (hs : holds s (aclItems a ++ rest)) (target : AccessControlProfile) :
    ∃ s', target.unMarshalling p s = (true, a, s') ∧ holds s' rest := by
  rw [aclItems, List.append_assoc, List.append_assoc] at hs
  obtain ⟨s₁, hacl, hs₁⟩ := readFields_of_holds hp hs target
  obtain ⟨s₂, haccesser, hs₂⟩ := readFields_of_holds hp hs₁ target.accesser
  obtain ⟨s₃, haccessee, hs₃⟩ := readFields_of_holds hp hs₂ target.accessee
  rw [copyFields_aclFields] at hacl
  rw [copyFields_partyFields] at haccesser haccessee
  refine ⟨s₃, ?_, hs₃⟩
  rw [AccessControlProfile.unMarshalling, hacl]
  simp only [haccesser, haccessee]

/-- Profiles are written with the parties that the parcel takes. -/
theorem holds_writeEach_acl (hp : p.IsFaithful holds) {aclProfiles : List AccessControlProfile}
    {s : σ} {items : List Primitive} (hs : holds s items)
    (hok : (writeEach (fun a => a.marshalling p) aclProfiles s).1 = true)
    (hparties : AreAllPartiesWritten p aclProfiles s) :
    holds (writeEach (fun a => a.marshalling p) aclProfiles s).2
      (items ++ aclProfiles.flatMap aclItems) := by
  induction aclProfiles generalizing s items with
  | nil =>
    rw [List.flatMap_nil, List.append_nil]
    exact hs
  | cons a rest ih =>
    rw [writeEach] at hok ⊢
    have hfirst := holds_marshalling_acl (a := a) hp hs
    cases hmarshal : a.marshalling p s with
    | mk result s₁ =>
      rw [hmarshal] at hok hfirst
      cases result with
      | false => cases hok
      | true =>
        have hrest := hparties.2
        rw [hmarshal] at hrest
        have hall := ih (hfirst rfl hparties.1) hok hrest
        rw [List.append_assoc] at hall
        exact hall

/-- What the reader makes of profiles that were sent with all their parties. -/
theorem unMarshallingProfiles_iff (hp : p.IsFaithful holds)
    {aclProfiles : List AccessControlProfile} {s : σ} (hs : holds s [])
    (hok : (marshallingProfiles p aclProfiles s).1 = true)
    (hparties : ∀ s', writeSize p aclProfiles.length s = some s' →
      AreAllPartiesWritten p aclProfiles s') (target : List AccessControlProfile) :
    ((unMarshallingProfiles p target (marshallingProfiles p aclProfiles s).2).1 = true ∧
        (unMarshallingProfiles p target (marshallingProfiles p aclProfiles s).2).2.1 =
          aclProfiles) ↔ aclProfiles ≠ [] ∧ target = [] := by
  rw [marshallingProfiles] at hok ⊢
  cases hsize : writeSize p aclProfiles.length s with
  | none =>
    rw [hsize] at hok
    cases hok
  | some s₁ =>
    rw [hsize] at hok
    have hs₁ := holds_writeSize hp hs hsize
    rw [List.nil_append] at hs₁
    by_cases hempty : aclProfiles = []
    · obtain ⟨s₂, hread, -⟩ := readSize_of_holds hp hs₁
      subst hempty
      simp only [if_true, unMarshallingProfiles, hread]
      exact iff_of_false (fun h => Bool.false_ne_true h.1) fun h => h.1 rfl
    · simp only [hempty, if_false] at hok ⊢
      by_cases hmany : MAX_PROFILE_SIZE < aclProfiles.length
      · rw [if_pos hmany] at hok
        cases hok
      · rw [if_neg hmany] at hok ⊢
        have hlength : uint32Size aclProfiles.length = aclProfiles.length :=
          uint32Size_of_le (Nat.not_lt.mp hmany) (by decide)
        have hall := holds_writeEach_acl hp hs₁ hok (hparties s₁ hsize)
        obtain ⟨s₂, hread, hs₂⟩ := readSize_of_holds hp hall
        rw [← List.append_nil (aclProfiles.flatMap _)] at hs₂
        obtain ⟨s₃, heach, -⟩ :=
          readEach_of_holds (fun a _ _ _ ha => unMarshalling_acl hp ha freshProfile) hs₂ target
        have hne : ¬(aclProfiles.length = 0 ∨ MAX_PROFILE_SIZE < aclProfiles.length) :=
          not_or.mpr ⟨mt List.length_eq_zero_iff.mp hempty, hmany⟩
        rw [unMarshallingProfiles, hread]
        simp only [hlength, if_neg hne, heach, true_and, List.append_left_eq_self]
        exact (and_iff_right hempty).symm

/-! ## Maps of strings -/

/-- No key of a map has a separator. -/
def HasCleanKeys (params : Entries) : Prop := ∀ key ∈ params, separator ∉ key

/-- The map arrives whole: its keys have no separators, and the target has no other keys. -/
def IsMapRestored (target sent : Entries) : Prop :=
  HasCleanKeys sent ∧ ∀ key ∈ target, key ∈ sent

/-- A pair falls into its two parts when its name does not hold the separator. -/
theorem splitItem_mapItem {x : Text × Text} (h : separator ∉ x.1) :
    splitItem (mapItem x) = some x := by
  have hne : ∀ c ∈ x.1, decide (c ≠ separator) = true := by
    intro c hc
    exact decide_eq_true fun heq => h (heq ▸ hc)
  have hitem : mapItem x = x.1 ++ separator :: x.2 := by
    rw [mapItem, SEPARATOR, List.append_assoc, List.singleton_append]
  rw [splitItem, hitem, if_pos (List.mem_append_right _ List.mem_cons_self),
    List.takeWhile_append_of_pos hne, List.takeWhile_cons_of_neg (by simp), List.append_nil,
    List.dropWhile_append_of_pos hne, List.dropWhile_cons_of_neg (by simp)]
  rfl

/-- A key that is read has no separator. -/
theorem separator_not_mem_of_splitItem {item : Text} {x : Text × Text}
    (h : splitItem item = some x) : separator ∉ x.1 := by
  rw [splitItem] at h
  split at h
  · obtain rfl := Option.some.inj h
    intro hmem
    have hne := List.mem_takeWhile_imp hmem
    exact absurd hne (by simp)
  · cases h

/-- Without separators in its keys a map is joined to the target. -/
theorem filterMap_splitItem {sent : Entries} (hclean : HasCleanKeys sent) :
    (sent.toList.map mapItem).filterMap splitItem = sent.toList := by
  rw [List.filterMap_map]
  have hsome : ∀ x ∈ sent.toList, (splitItem ∘ mapItem) x = some x := by
    intro x hx
    refine splitItem_mapItem (hclean x.1 ?_)
    exact mem_iff_exists_getElem?.mpr ⟨_, ExtTreeMap.mem_toList_iff_getElem?_eq_some.mp hx⟩
  rw [List.filterMap_congr hsome, List.filterMap_some]

/-- The pairs of a map that can be restored give the map. -/
theorem readMap_of_isMapRestored {target sent : Entries} (h : IsMapRestored target sent) :
    insertAll Prod.fst Prod.snd ((sent.toList.map mapItem).filterMap splitItem) target =
      sent := by
  rw [filterMap_splitItem h.1, insertAll_toList_eq_union]
  refine ExtTreeMap.ext_getElem? fun key => ?_
  rw [ExtTreeMap.getElem?_union]
  cases hkey : sent[key]? with
  | some value => rfl
  | none =>
    rw [Option.none_or]
    cases htarget : target[key]? with
    | none => rfl
    | some value =>
      have hmem : key ∈ target := by
        exact mem_iff_exists_getElem?.mpr ⟨_, htarget⟩
      have hin := h.2 key hmem
      rw [ExtTreeMap.mem_iff_isSome_getElem?, hkey] at hin
      cases hin

/-- A map that arrives whole has no separators in its keys, unless the target had some in its
own, and the target had no other keys. -/
theorem isMapRestored_of_readMap {target sent : Entries} (hclean : HasCleanKeys target)
    (h : insertAll Prod.fst Prod.snd ((sent.toList.map mapItem).filterMap splitItem) target =
      sent) : IsMapRestored target sent := by
  constructor
  · intro key hkey hsep
    rw [← h, mem_insertAll] at hkey
    rcases hkey with ⟨x, hx, rfl⟩ | htarget
    · obtain ⟨item, -, hitem⟩ := List.mem_filterMap.mp hx
      exact separator_not_mem_of_splitItem hitem hsep
    · exact hclean key htarget hsep
  · intro key hkey
    rw [← h, mem_insertAll]
    exact .inr hkey

/-- What the reader makes of a map that was sent. -/
theorem unMarshallingMap_eq (hp : p.IsFaithful holds) {params : Entries} {s : σ}
    (hs : holds s []) (hok : (marshallingMap p params s).1 = true) (target : Entries) :
    ∃ s', unMarshallingMap p target (marshallingMap p params s).2 = (true,
      insertAll Prod.fst Prod.snd ((params.toList.map mapItem).filterMap splitItem) target,
        s') := by
  rw [marshallingMap] at hok ⊢
  cases hsize : writeSize p params.size s with
  | none =>
    rw [hsize] at hok
    cases hok
  | some s₁ =>
    rw [hsize] at hok
    simp only at hok ⊢
    have hs₁ := holds_writeSize hp hs hsize
    by_cases hbad : params.size = 0 ∨ MAX_PARAM_SIZE < params.size
    · rw [if_pos hbad] at hok
      cases hok
    · rw [if_neg hbad] at hok ⊢
      have hle : params.size ≤ MAX_PARAM_SIZE := Nat.not_lt.mp (not_or.mp hbad).2
      have hlength : (params.toList.map mapItem).length = params.size := by
        rw [List.length_map, ExtTreeMap.length_toList]
      have hall := holds_writeValues hp hs₁ hok
      rw [List.nil_append] at hall
      obtain ⟨s₂, hread, hs₂⟩ := readSize_of_holds hp hall
      rw [← List.append_nil (List.map _ (params.toList.map mapItem))] at hs₂
      obtain ⟨s₃, hvalues, -⟩ := readValues_of_holds hp (Nat.le_of_eq hlength.symm) hs₂
      refine ⟨s₃, ?_⟩
      rw [unMarshallingMap, hread, uint32Size_of_le hle (by decide)]
      simp only [if_neg hbad, hvalues]
      rw [List.take_of_length_le (Nat.le_of_eq hlength)]

/-! ## Everything that is sent -/

/-- When what is sent is received. -/
theorem received_iff (hp : p.IsFaithful holds) {s : σ} (hs : holds s []) :
    (∀ (t target : TrustDeviceProfile), (t.marshalling p s).1 = true →
      (((target.unMarshalling p (t.marshalling p s).2).1 = true ∧
          (target.unMarshalling p (t.marshalling p s).2).2.1 = t) ↔
        IsListRestored target.serviceIdList t.serviceIdList)) ∧
    (∀ aclProfiles target : List AccessControlProfile,
      (marshallingProfiles p aclProfiles s).1 = true →
      (∀ s', writeSize p aclProfiles.length s = some s' →
        AreAllPartiesWritten p aclProfiles s') →
      (((unMarshallingProfiles p target (marshallingProfiles p aclProfiles s).2).1 = true ∧
          (unMarshallingProfiles p target (marshallingProfiles p aclProfiles s).2).2.1 =
            aclProfiles) ↔ aclProfiles ≠ [] ∧ target = [])) ∧
    (∀ params target : Entries, (marshallingMap p params s).1 = true →
      (IsMapRestored target params →
        (unMarshallingMap p target (marshallingMap p params s).2).1 = true ∧
          (unMarshallingMap p target (marshallingMap p params s).2).2.1 = params) ∧
      (HasCleanKeys target →
        (unMarshallingMap p target (marshallingMap p params s).2).1 = true ∧
          (unMarshallingMap p target (marshallingMap p params s).2).2.1 = params →
        IsMapRestored target params)) := by
  refine ⟨fun t target hok => unMarshalling_trust hp hs hok target,
    fun aclProfiles target hok hparties => unMarshallingProfiles_iff hp hs hok hparties target,
    fun params target hok => ?_⟩
  obtain ⟨s', heq⟩ := unMarshallingMap_eq hp hs hok target
  rw [heq]
  exact ⟨fun h => ⟨rfl, readMap_of_isMapRestored h⟩,
    fun hclean h => isMapRestored_of_readMap hclean h.2⟩

/-- A trust device profile with some services. -/
def sampleTrust (serviceIdList : List Int) : TrustDeviceProfile where
  deviceId := ("peer" : Text)
  status := 1
  serviceIdList

/-- An access control profile with a party. -/
def sampleAcl : AccessControlProfile where
  accessControlId := 1
  accesser := { deviceId := ("peer" : Text), userId := 100 }

/-- Parameters of a query. -/
def sampleParams : Entries :=
  ExtTreeMap.ofList
    [(("trustDeviceId" : Text), ("peer#1" : Text)), (("userId" : Text), ("100" : Text))]

theorem mem_sampleParams {key : Text} :
    key ∈ sampleParams ↔ key = ("trustDeviceId" : Text) ∨ key = ("userId" : Text) := by
  simp [sampleParams, ExtTreeMap.mem_ofList]

/-- The parameters arrive at a target with an old value of theirs. -/
theorem isMapRestored_sampleParams :
    IsMapRestored ((∅ : Entries).insert ("userId" : Text) ("101" : Text)) sampleParams := by
  constructor
  · intro key hkey
    obtain rfl | rfl := mem_sampleParams.mp hkey <;> decide
  · intro key hkey
    rw [ExtTreeMap.mem_insert] at hkey
    obtain heq | hempty := hkey
    · exact mem_sampleParams.mpr (Or.inr (compare_eq_iff_eq.mp heq).symm)
    · cases ExtTreeMap.not_mem_empty hempty

/-- A trust device, two profiles and a map, each read into a fresh object. -/
theorem received_by_fresh_targets :
    (((({} : TrustDeviceProfile).unMarshalling (listParcel 100)
          ((sampleTrust [7, 8]).marshalling (listParcel 100) []).2).1 = true ∧
        (({} : TrustDeviceProfile).unMarshalling (listParcel 100)
          ((sampleTrust [7, 8]).marshalling (listParcel 100) []).2).2.1 = sampleTrust [7, 8]) ↔
      IsListRestored [] [7, 8]) ∧
    (((unMarshallingProfiles (listParcel 100) []
          (marshallingProfiles (listParcel 100) [sampleAcl, {}] []).2).1 = true ∧
        (unMarshallingProfiles (listParcel 100) []
          (marshallingProfiles (listParcel 100) [sampleAcl, {}] []).2).2.1 = [sampleAcl, {}]) ↔
      [sampleAcl, {}] ≠ [] ∧ ([] : List AccessControlProfile) = []) ∧
    ((unMarshallingMap (listParcel 100) ((∅ : Entries).insert ("userId" : Text) ("101" : Text))
          (marshallingMap (listParcel 100) sampleParams []).2).1 = true ∧
        (unMarshallingMap (listParcel 100) ((∅ : Entries).insert ("userId" : Text) ("101" : Text))
          (marshallingMap (listParcel 100) sampleParams []).2).2.1 = sampleParams) := by
  have h := received_iff (listParcel_isFaithful 100) (s := []) rfl
  refine ⟨h.1 (sampleTrust [7, 8]) {} (by decide +kernel), h.2.1 [sampleAcl, {}] []
    (by decide +kernel) ?_,
    (h.2.2 sampleParams _ (by decide +kernel)).1 isMapRestored_sampleParams⟩
  rintro s' hsize
  obtain rfl := Option.some.inj hsize
  exact ⟨⟨by decide +kernel, by decide +kernel⟩, ⟨by decide +kernel, by decide +kernel⟩, trivial⟩

/-- A profile added to the services of its target, an empty vector, a vector whose parties the
parcel does not take, and a key with a separator: all are sent, and arrive changed or not. -/
theorem sent_but_not_received :
    ((sampleTrust []).marshalling (listParcel 100) []).1 = true ∧
      ((sampleTrust [9]).unMarshalling (listParcel 100)
        ((sampleTrust []).marshalling (listParcel 100) []).2).2.1 = sampleTrust [9] ∧
      (marshallingProfiles (listParcel 100) [] []).1 = true ∧
      (unMarshallingProfiles (listParcel 100) []
        (marshallingProfiles (listParcel 100) [] []).2).1 = false ∧
      (marshallingProfiles (listParcel 15) [sampleAcl] []).1 = true ∧
      (unMarshallingProfiles (listParcel 15) []
        (marshallingProfiles (listParcel 15) [sampleAcl] []).2).2.1 ≠ [sampleAcl] ∧
      (marshallingMap (listParcel 100)
        ((∅ : Entries).insert ("a#b" : Text) ("c" : Text)) []).1 = true ∧
      (unMarshallingMap (listParcel 100) ∅ (marshallingMap (listParcel 100)
        ((∅ : Entries).insert ("a#b" : Text) ("c" : Text)) []).2).2.1[("a" : Text)]? =
          some ("b#c" : Text) := by
  decide +kernel

end DeviceProfile
