import DeviceProfile.Profile.Put

/-!
# What a run of puts leaves in the store

A put writes its valid profiles, each for the users that are to see it. Of the profiles that a
run writes under one identity the last one is stored. A scan for a kind finds the entries of the
profiles of the kind, and under the keys of a profile the values of the last one that is written
under them.
-/

namespace DeviceProfile

open Library Std

/-! ## What puts write -/

namespace StoredProfile

variable {localUdid : Text}

/-- The profile as it is written for a user. -/
def forUser (userId : Int32) : StoredProfile → StoredProfile
  | dev p => dev { p with userId }
  | svr p => svr { p with userId }
  | char p => char { p with userId }

theorem isValid_forUser {p : StoredProfile} {u : Int32} :
    (p.forUser u).IsValid localUdid ↔ p.IsValid localUdid := by
  cases p <;> exact Iff.rfl

/-- The keys of a profile start with the tag of its kind and of no other. -/
theorem tag_prefix_entryKey_iff (p : StoredProfile) {h : p.IsValid localUdid} {name : Text}
    {hname : name ∈ p.kind.propertyNames} {userId : Int32} {kind : Kind} :
    kind.tag <+: (p.entryKey h hname userId).render ↔ p.kind = kind := by
  rw [DbKey.tag_prefix_render_iff, ← p.kind_key h]
  rfl

theorem pairs_forUser (p : StoredProfile) (u : Int32) :
    (p.forUser u).pairs (p.forUser u).userId = p.pairs u := by
  cases p <;> rfl

end StoredProfile

/-- What a profile is known by: its kind, its names and its user. -/
structure ProfileIdentity where
  kind : Kind
  deviceId : Text
  serviceName : Text
  characteristicKey : Text
  userId : Int32
  deriving DecidableEq, Repr

/-- What tells a stored profile from every other. -/
def StoredProfile.identity (p : StoredProfile) : ProfileIdentity where
  kind := p.kind
  deviceId := p.deviceId
  serviceName := p.serviceName
  characteristicKey := p.characteristicKey
  userId := p.userId

/-- The profiles that a put writes, each for the users it is written for. -/
def PutCall.writes (localUdid : Text) (curUserId : Int32) (call : PutCall) : List StoredProfile :=
  (call.profiles.filter fun p => p.profile.IsValid localUdid).flatMap fun p =>
    (p.writtenUsers curUserId).map fun u => p.profile.forUser u

/-- The entries after profiles have been written one after another. -/
def writtenEntries (writes : List StoredProfile) : Entries :=
  insertAll Prod.fst Prod.snd (writes.flatMap fun w => w.pairs w.userId) ∅

/-- The profile is the last one that was written under its identity. -/
def IsStored (writes : List StoredProfile) (p : StoredProfile) : Prop :=
  IsLast StoredProfile.identity writes p

/-- The entries of a put are those of the profiles that it writes. -/
theorem PutCall.entries_eq (localUdid : Text) (curUserId : Int32) (call : PutCall) :
    call.entries localUdid curUserId = writtenEntries (call.writes localUdid curUserId) := by
  have hpairs : Flagged.pairs curUserId = fun p : Flagged StoredProfile =>
      ((p.writtenUsers curUserId).map fun u => p.profile.forUser u).flatMap fun w =>
        w.pairs w.userId := by
    funext p
    simp only [Flagged.pairs, List.flatMap_map, StoredProfile.pairs_forUser]
  rw [entries, Manager.pairsOf, hpairs, writtenEntries, writes, List.flatMap_assoc]

/-- What a put writes is valid. -/
theorem PutCall.isValid_of_mem_writes {localUdid : Text} {curUserId : Int32} {call : PutCall}
    {w : StoredProfile} (h : w ∈ call.writes localUdid curUserId) : w.IsValid localUdid := by
  obtain ⟨p, hp, hw⟩ := List.mem_flatMap.mp h
  obtain ⟨u, -, rfl⟩ := List.mem_map.mp hw
  exact StoredProfile.isValid_forUser.mpr (of_decide_eq_true (List.mem_filter.mp hp).2)

theorem writtenEntries_append (writes writes' : List StoredProfile) :
    writtenEntries (writes ++ writes') = writtenEntries writes ∪ writtenEntries writes' := by
  rw [writtenEntries, List.flatMap_append, insertAll_append, ← union_insertAll]
  rfl

/-- The store holds what has been written. -/
structure HoldsWrites (localUdid : Text) (s : KvStore) (writes : List StoredProfile) : Prop where
  valid : ∀ w ∈ writes, w.IsValid localUdid
  valueAt : ∀ key, s.valueAt key = (writtenEntries writes)[key]?

/-- The profiles that a run of puts writes. -/
def writesOf (localUdid : Text) (curUserId : Int32) (puts : List (Bool × PutCall)) :
    List StoredProfile :=
  puts.flatMap fun x => x.2.writes localUdid curUserId

/-- A put that succeeds adds its writes to those the store holds. -/
theorem HoldsWrites.putStep {device : LocalDevice} {m : Manager} {x : Bool × PutCall}
    {writes : List StoredProfile} (h : HoldsWrites device.udid m.store writes)
    (hput : PutSucceeds device m x) (hfirst : m.isFirst = false) :
    HoldsWrites device.udid (DeviceProfile.putStep device m x).store
      (writes ++ x.2.writes device.udid (m.currentUser device)) := by
  constructor
  · intro w hw
    rcases List.mem_append.mp hw with hw | hw
    · exact h.valid w hw
    · exact PutCall.isValid_of_mem_writes hw
  · intro key
    rw [valueAt_putStep hput hfirst, h.valueAt, PutCall.entries_eq, writtenEntries_append,
      ExtTreeMap.getElem?_union]

/-- After a run of puts the store holds what they have written. -/
theorem HoldsWrites.run {device : LocalDevice} {puts : List (Bool × PutCall)} {m : Manager}
    {writes : List StoredProfile} (h : HoldsWrites device.udid m.store writes)
    (hputs : Admits (DeviceProfile.putStep device) (PutSucceeds device) m puts)
    (hfirst : m.isFirst = false) :
    HoldsWrites device.udid (puts.foldl (DeviceProfile.putStep device) m).store
      (writes ++ writesOf device.udid (m.currentUser device) puts) := by
  induction puts generalizing m writes with
  | nil => simpa [writesOf] using h
  | cons x rest ih =>
    have hstep := ih (h.putStep hputs.1 hfirst) hputs.2
      ((isFirst_putStep hputs.1).trans hfirst)
    rw [currentUser_putStep hputs.1] at hstep
    simpa [writesOf, List.append_assoc] using hstep

/-! ## What a scan finds -/

theorem mem_writtenEntries {writes : List StoredProfile} {k : Text} :
    k ∈ writtenEntries writes ↔
      ∃ w ∈ writes, ∃ name ∈ w.kind.propertyNames,
        generateDBKey w.profileKey name w.userId = k := by
  rw [writtenEntries, mem_insertAll]
  simp only [List.mem_flatMap, ExtTreeMap.not_mem_empty, or_false]
  constructor
  · rintro ⟨x, ⟨w, hw, hx⟩, rfl⟩
    obtain ⟨name, hname, hk⟩ := StoredProfile.mem_pairs.mp hx
    exact ⟨w, hw, name, StoredProfile.mem_propertyNames hname, hk⟩
  · rintro ⟨w, hw, name, hname, rfl⟩
    obtain ⟨x, hx, rfl⟩ := List.mem_map.mp (w.map_fst_properties ▸ hname)
    exact ⟨(generateDBKey w.profileKey x.1 w.userId, x.2),
      ⟨w, hw, StoredProfile.mem_pairs.mpr ⟨x.1, hx, rfl⟩⟩, rfl⟩

section Scan

variable {localUdid : Text} {s : KvStore} {writes : List StoredProfile} {kind : Kind}

/-- The properties of the last profile with a profile key are found. -/
theorem HoldsWrites.valueAt_of_isLast (h : HoldsWrites localUdid s writes) {w : StoredProfile}
    (hw : IsLast StoredProfile.profileKey writes w) {name value : Text}
    (hmem : (name, value) ∈ w.properties) :
    s.valueAt (generateDBKey w.profileKey name w.userId) = some value := by
  have hvalid := h.valid w hw.mem
  have hname := StoredProfile.mem_propertyNames hmem
  rw [h.valueAt]
  obtain ⟨before, after, rfl, hafter⟩ := hw
  rw [writtenEntries, List.flatMap_append, List.flatMap_cons, insertAll_append, insertAll_append,
    getElem?_insertAll_of_not_mem]
  · have hpair : (generateDBKey w.profileKey name w.userId, value) ∈ w.pairs w.userId :=
      StoredProfile.mem_pairs.mpr ⟨name, hmem, rfl⟩
    refine getElem?_insertAll_of_mem hpair (fun y hy hkey => ?_) _
    obtain ⟨name', hname', hk⟩ := StoredProfile.mem_pairs.mp hy
    obtain ⟨-, rfl, -⟩ := StoredProfile.eq_of_generateDBKey_eq hvalid hvalid
      (StoredProfile.mem_propertyNames hname') hname (hk.trans hkey)
    exact StoredProfile.properties_functional hname' hmem
  · intro x hx hkey
    obtain ⟨y, hy, hx⟩ := List.mem_flatMap.mp hx
    obtain ⟨name', hname', hk⟩ := StoredProfile.mem_pairs.mp hx
    have hyvalid := h.valid y (List.mem_append_right _ (List.mem_cons_of_mem _ hy))
    have hkeys := StoredProfile.eq_of_generateDBKey_eq hyvalid hvalid
      (StoredProfile.mem_propertyNames hname') hname (hk.trans hkey)
    exact hafter y hy ((StoredProfile.key_eq_iff_profileKey hyvalid hvalid).mp hkeys.1)

/-- A scan for a kind finds the keys of the profiles of the kind. -/
theorem HoldsWrites.mem_scan (h : HoldsWrites localUdid s writes) {k : Text} :
    k ∈ s.getEntries kind.tag ↔
      ∃ w ∈ writes, w.kind = kind ∧ ∃ hw : w.IsValid localUdid, ∃ name,
        ∃ hname : name ∈ w.kind.propertyNames, (w.entryKey hw hname w.userId).render = k := by
  rw [ExtTreeMap.mem_iff_isSome_getElem?, KvStore.getElem?_getEntries, h.valueAt]
  constructor
  · intro hsome
    split at hsome
    · rename_i hprefix
      rw [← ExtTreeMap.mem_iff_isSome_getElem?, mem_writtenEntries] at hsome
      obtain ⟨w, hmem, name, hname, rfl⟩ := hsome
      have hw := h.valid w hmem
      rw [w.generateDBKey_eq_entryKey hw hname, w.tag_prefix_entryKey_iff] at hprefix
      exact ⟨w, hmem, hprefix, hw, name, hname, (w.generateDBKey_eq_entryKey hw hname _).symm⟩
    · cases hsome
  · rintro ⟨w, hmem, hk, hw, name, hname, rfl⟩
    rw [if_pos (w.tag_prefix_entryKey_iff.mpr hk), ← ExtTreeMap.mem_iff_isSome_getElem?,
      mem_writtenEntries]
    exact ⟨w, hmem, name, hname, w.generateDBKey_eq_entryKey hw hname _⟩

end Scan

end DeviceProfile
