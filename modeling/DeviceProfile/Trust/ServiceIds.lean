import DeviceProfile.Info.Manager
import DeviceProfile.Library.EachOnce
import DeviceProfile.Trust.Integrity

/-!
# The service ids of an account

A notice about an account lists service ids. An entry of the same account stands for all stored
services of the peer, and an entry of another bind type for the one its accessee names. The ids
are put behind one another as they are found, so it depends on the entries and on the store
whether each service is listed once.
-/

namespace DeviceProfile

open Library Std

/-! ## Where the ids come from -/

/-- What a member is handed over as: a number is a double. -/
def JsonItem.handedOver : JsonItem → JsonItem
  | number value => .number (toDouble value)
  | item => item

/-- What the trust profile manager reads of a service info. -/
def ServiceInfo.ofInfo (s : Info.ServiceInfo) : ServiceInfo where
  udid := s.udid
  userId := s.userId.toInt
  serviceId := s.serviceId.toInt
  extraData := s.extraData

/-- The texts with what is written in them, and the manager of the service infos. -/
structure ServiceSources where
  /-- The members of the object in a text, with the numbers as they are written. -/
  written : Text → Option (List (Text × JsonItem))
  outOfRange : Rat → Int64
  json : Json
  manager : Info.InfoManager

namespace ServiceSources

variable (src : ServiceSources)

/-- What the trust profile manager gets to see. -/
def env : Env where
  cjsonObject text := (src.written text).map fun members => members.map fun m =>
    (m.1, m.2.handedOver)
  serviceInfoList := (src.manager.getAllServiceInfoList src.json).2.map .ofInfo
  outOfRange := src.outOfRange

/-- What is written under a name in the object of a text. -/
def writtenItem (text name : Text) : Option JsonItem :=
  if text.isEmpty then none else (src.written text).bind (List.lookup name)

/-- The service id that is written in a text, a 64-bit integer. -/
def writtenServiceId (text : Text) : Option Int :=
  match src.writtenItem text "serviceId" with
  | some (.number value) =>
    if value.den = 1 ∧ -2 ^ 63 ≤ value.num ∧ value.num < 2 ^ 63 then some value.num else none
  | _ => none

/-- The infos in the records of the store. -/
def storedInfos : List ServiceInfo :=
  (src.manager.store.toList.filterMap fun entry =>
    Info.InfoManager.readRecord src.json entry.2).map .ofInfo

/-- The infos in front of the first record that is refused, unless the store is too large. -/
def shownInfos : List ServiceInfo :=
  if MAX_DB_SIZE < src.manager.store.size then []
  else ((src.manager.store.toList.takeWhile fun entry =>
    !Info.InfoManager.isRefused src.json entry.2).filterMap fun entry =>
      Info.InfoManager.readRecord src.json entry.2).map .ofInfo

/-- The listed infos are those shown for the same account. -/
theorem serviceInfoList_env : src.env.serviceInfoList = src.shownInfos := by
  rw [env, Info.InfoManager.getAllServiceInfoList_snd, shownInfos]
  split
  · rfl
  · rfl

/-- The device, the user and the account of an info are those of the peer. -/
def isOfPeer (params : ProfileQueryParams) (s : ServiceInfo) : Bool :=
  decide (s.udid = params.peerDeviceId) && decide (s.userId = params.peerUserId) &&
    decide (src.env.parseAccountIdFromJson s.extraData = some params.peerAccountId)

/-- The ids of the services of the peer. -/
def peerIds (params : ProfileQueryParams) (infos : List ServiceInfo) : List Int :=
  (infos.filter (src.isOfPeer params)).map ServiceInfo.serviceId

/-- The numbers of the same account are those of the peer's shown infos. -/
theorem collectSameAccountServiceIds_env (params : ProfileQueryParams) :
    collectSameAccountServiceIds src.env params = src.peerIds params src.shownInfos := by
  rw [collectSameAccountServiceIds, serviceInfoList_env]
  rfl

/-! ## One service id -/

theorem lookup_map_snd {α β : Type} (name : Text) (f : α → β) (members : List (Text × α)) :
    (members.map fun m => (m.1, f m.2)).lookup name = (members.lookup name).map f := by
  induction members with
  | nil => rfl
  | cons m members ih =>
    obtain ⟨other, value⟩ := m
    rw [List.map_cons, List.lookup_cons, List.lookup_cons, ih]
    cases name == other with
    | true => rfl
    | false => rfl

/-- The item of a text, as the library hands it over. -/
theorem objectItem_env (text name : Text) :
    src.env.objectItem text name = (src.writtenItem text name).map JsonItem.handedOver := by
  rw [Env.objectItem, writtenItem, env]
  split
  · rfl
  · dsimp only
    cases src.written text with
    | none => rfl
    | some members => exact lookup_map_snd name JsonItem.handedOver members

variable {src} in
/-- A service id that is written is handed over as a double. -/
theorem objectItem_of_written {text : Text} {id : Int}
    (h : src.writtenServiceId text = some id) :
    src.env.objectItem text "serviceId" = some (.number (toDouble id)) := by
  rw [writtenServiceId] at h
  rw [objectItem_env]
  split at h
  · rename_i value hvalue
    rw [hvalue]
    split at h
    · rename_i hwhole
      obtain rfl := Option.some.inj h
      have hnum : (value.num : Rat) = value := Rat.ext rfl hwhole.1.symm
      rw [hnum]
      rfl
    · cases h
  · cases h

end ServiceSources

/-- A text that is read as a service id has the double of the id. -/
theorem Env.objectItem_of_parse {env : Env} {text : Text} {id : Int}
    (h : env.parseServiceIdFromJson text = some id) :
    env.objectItem text "serviceId" = some (.number (toDouble id)) := by
  rw [parseServiceIdFromJson] at h
  split at h
  · rename_i value hvalue
    dsimp only at h
    split at h
    · cases h
    · rename_i hexact
      rw [not_or, not_not] at hexact
      rw [hvalue, hexact.1, Option.some.inj h]
  · cases h

/-- Where an id is read from one text, it is read from every text in which it is written. -/
theorem ServiceSources.parse_of_written {src : ServiceSources} {text other : Text} {id : Int}
    (h : src.env.parseServiceIdFromJson text = some id)
    (hother : src.writtenServiceId other = some id) :
    src.env.parseServiceIdFromJson other = some id := by
  rw [← h, Env.parseServiceIdFromJson, Env.parseServiceIdFromJson, objectItem_of_written hother,
    Env.objectItem_of_parse h]

/-! ## What a query lists -/

section Query

variable (env : Env) (t : Tables) (p : AccessControlProfile)

/-- What a query without database failures leaves in an empty list. -/
def queriedServiceIds : List Int :=
  ((queryServiceIdList env p).exec { tables := t }).1.toOption.getD []

/-- The entries that join the two accounts of a profile. -/
def joiningEntries : List AccessControlProfile :=
  (t.checked env).filter fun aclProfile => isMatchingAclProfile aclProfile p.queryParams

/-- The joining entries that were bound by the same account. -/
def sameAccountEntries : List AccessControlProfile :=
  (joiningEntries env t p).filter fun aclProfile => decide (aclProfile.bindType = SAME_ACCOUNT)

/-- The joining entries that were bound in another way. -/
def otherEntries : List AccessControlProfile :=
  (joiningEntries env t p).filter fun aclProfile => decide ¬aclProfile.bindType = SAME_ACCOUNT

/-- The ids that the entries of other bind types are read as. -/
def readIds : List Int :=
  (otherEntries env t p).filterMap fun aclProfile =>
    env.parseServiceIdFromJson aclProfile.accessee.extraData

/-- The queried numbers, in another order: those of the account, once for each entry, and those read
from the others. -/
theorem queriedServiceIds_perm :
    (queriedServiceIds env t p).Perm
      ((sameAccountEntries env t p).flatMap
        (fun _ => collectSameAccountServiceIds env p.queryParams) ++ readIds env t p) := by
  have hexec := exec_check_getD env (fun aclProfiles =>
    (aclProfiles.filter fun aclProfile =>
      isMatchingAclProfile aclProfile p.queryParams).flatMap fun aclProfile =>
        if aclProfile.bindType = SAME_ACCOUNT then collectSameAccountServiceIds env p.queryParams
        else (env.parseServiceIdFromJson aclProfile.accessee.extraData).toList) t []
  rw [Prog.exec_getD] at hexec
  have hids : queriedServiceIds env t p = (joiningEntries env t p).flatMap fun aclProfile =>
      if aclProfile.bindType = SAME_ACCOUNT then collectSameAccountServiceIds env p.queryParams
      else (env.parseServiceIdFromJson aclProfile.accessee.extraData).toList :=
    Except.ok.inj (Prod.mk.inj hexec).1
  rw [hids, readIds, List.filterMap_eq_flatMap_toList]
  exact perm_flatMap_ite _ _ _ _

end Query

/-! ## Each service once -/

section Exact

variable (src : ServiceSources) (t : Tables) (p : AccessControlProfile)

/-- An entry that joins the two accounts stands for the service: it is one of the same account
and the service is a stored one of the peer, or it is of another bind type and its accessee
names the service. -/
def Provides (id : Int) : Prop :=
  ∃ aclProfile ∈ t.profiles, src.env.isLnnAcl aclProfile = false ∧
    isMatchingAclProfile aclProfile p.queryParams = true ∧
      if aclProfile.bindType = SAME_ACCOUNT then
        ∃ s ∈ src.storedInfos, src.isOfPeer p.queryParams s = true ∧ s.serviceId = id
      else src.writtenServiceId aclProfile.accessee.extraData = some id

/-- The query lists the services that an entry stands for once each, and no other. -/
def ListsEachOnce : Prop :=
  ∀ id, (Provides src t p id → (queriedServiceIds src.env t p).count id = 1) ∧
    (¬Provides src t p id → id ∉ queriedServiceIds src.env t p)

/-- The ids of all stored services of the peer. -/
def storedIds : List Int := src.peerIds p.queryParams src.storedInfos

/-- The ids of the stored services of the peer that the trust profile manager gets to see. -/
def shownIds : List Int := src.peerIds p.queryParams src.shownInfos

/-- No id is found twice, none is read that is not there, and none is missed. -/
structure FindsEachOnce : Prop where
  /-- A second entry of the same account would repeat the services of the peer. -/
  one_entry : shownIds src p ≠ [] → (sameAccountEntries src.env t p).length ≤ 1
  /-- No two of these services have one id. -/
  shown_distinct : sameAccountEntries src.env t p ≠ [] → (shownIds src p).Nodup
  /-- No two other entries are read as one id. -/
  read_distinct : (readIds src.env t p).Nodup
  /-- No other entry is read as the id of one of these services. -/
  apart : sameAccountEntries src.env t p ≠ [] → ∀ id ∈ shownIds src p, id ∉ readIds src.env t p
  /-- An id that is written is not rounded away. -/
  written_read : ∀ aclProfile ∈ otherEntries src.env t p, ∀ id,
    src.writtenServiceId aclProfile.accessee.extraData = some id →
      src.env.parseServiceIdFromJson aclProfile.accessee.extraData = some id ∨
        sameAccountEntries src.env t p ≠ [] ∧ id ∈ shownIds src p
  /-- An id that is read is the one that is written. -/
  read_written : ∀ aclProfile ∈ otherEntries src.env t p, ∀ id,
    src.env.parseServiceIdFromJson aclProfile.accessee.extraData = some id →
      src.writtenServiceId aclProfile.accessee.extraData = some id ∨
        sameAccountEntries src.env t p ≠ [] ∧ id ∈ storedIds src p
  /-- No stored service of the peer is hidden behind a record that is refused. -/
  stored_shown : sameAccountEntries src.env t p ≠ [] → ∀ id ∈ storedIds src p,
    id ∈ shownIds src p ∨ id ∈ readIds src.env t p

variable {src t p}

/-- The numbers that are read from the extra data. -/
theorem mem_readIds {env : Env} {id : Int} : id ∈ readIds env t p ↔
    ∃ aclProfile ∈ otherEntries env t p,
      env.parseServiceIdFromJson aclProfile.accessee.extraData = some id := by
  rw [readIds, List.mem_filterMap]

/-- The entries that join the parties of a profile. -/
theorem mem_joiningEntries {env : Env} {aclProfile : AccessControlProfile} :
    aclProfile ∈ joiningEntries env t p ↔ aclProfile ∈ t.profiles ∧
      env.isLnnAcl aclProfile = false ∧ isMatchingAclProfile aclProfile p.queryParams = true := by
  rw [joiningEntries, List.mem_filter, Tables.checked, Env.removeLnnAcl, List.mem_filter,
    Bool.not_eq_true', and_assoc]

/-- Where a queried number comes from. -/
theorem mem_queriedServiceIds {id : Int} : id ∈ queriedServiceIds src.env t p ↔
    sameAccountEntries src.env t p ≠ [] ∧ id ∈ shownIds src p ∨ id ∈ readIds src.env t p := by
  rw [(queriedServiceIds_perm src.env t p).mem_iff, List.mem_append, List.mem_flatMap,
    src.collectSameAccountServiceIds_env]
  apply or_congr_left
  constructor
  · rintro ⟨aclProfile, hmem, hid⟩
    exact ⟨List.ne_nil_of_mem hmem, hid⟩
  · rintro ⟨hne, hid⟩
    obtain ⟨aclProfile, hmem⟩ := List.exists_mem_of_ne_nil _ hne
    exact ⟨aclProfile, hmem, hid⟩

/-- The numbers that the peer has stored. -/
theorem mem_storedIds {id : Int} : id ∈ storedIds src p ↔
    ∃ s ∈ src.storedInfos, src.isOfPeer p.queryParams s = true ∧ s.serviceId = id := by
  rw [storedIds, ServiceSources.peerIds, List.mem_map]
  simp only [List.mem_filter, and_assoc]

/-- Only stored services are shown. -/
theorem shownIds_subset_storedIds : shownIds src p ⊆ storedIds src p := by
  have hinfos : src.shownInfos ⊆ src.storedInfos := by
    rw [ServiceSources.shownInfos, ServiceSources.storedInfos]
    split
    · exact List.nil_subset _
    · exact (((List.takeWhile_sublist _).filterMap _).map _).subset
  exact List.map_subset _ (List.filter_subset _ hinfos)

/-- The entries of the same account stand for the stored services of the peer, the others for
what is written in them. -/
theorem provides_iff {id : Int} : Provides src t p id ↔
    (sameAccountEntries src.env t p ≠ [] ∧ id ∈ storedIds src p) ∨
      ∃ aclProfile ∈ otherEntries src.env t p,
        src.writtenServiceId aclProfile.accessee.extraData = some id := by
  constructor
  · rintro ⟨aclProfile, hmem, hlnn, hmatch, hid⟩
    have hjoin := mem_joiningEntries.mpr ⟨hmem, hlnn, hmatch⟩
    split at hid
    · rename_i hsame
      left
      have hin : aclProfile ∈ sameAccountEntries src.env t p :=
        List.mem_filter.mpr ⟨hjoin, decide_eq_true hsame⟩
      exact ⟨List.ne_nil_of_mem hin, mem_storedIds.mpr hid⟩
    · rename_i hother
      right
      exact ⟨aclProfile, List.mem_filter.mpr ⟨hjoin, decide_eq_true hother⟩, hid⟩
  · rintro (⟨hne, hid⟩ | ⟨aclProfile, hmem, hid⟩)
    · obtain ⟨aclProfile, hin⟩ := List.exists_mem_of_ne_nil _ hne
      obtain ⟨hjoin, hsame⟩ := List.mem_filter.mp hin
      obtain ⟨hmem, hlnn, hmatch⟩ := mem_joiningEntries.mp hjoin
      refine ⟨aclProfile, hmem, hlnn, hmatch, ?_⟩
      rw [if_pos (of_decide_eq_true hsame)]
      exact mem_storedIds.mp hid
    · obtain ⟨hjoin, hother⟩ := List.mem_filter.mp hmem
      obtain ⟨hmem, hlnn, hmatch⟩ := mem_joiningEntries.mp hjoin
      refine ⟨aclProfile, hmem, hlnn, hmatch, ?_⟩
      rw [if_neg (of_decide_eq_true hother)]
      exact hid

/-- When no id is listed twice. -/
theorem nodup_queriedServiceIds_iff : (queriedServiceIds src.env t p).Nodup ↔
    (shownIds src p ≠ [] → (sameAccountEntries src.env t p).length ≤ 1) ∧
      (sameAccountEntries src.env t p ≠ [] → (shownIds src p).Nodup) ∧
      (readIds src.env t p).Nodup ∧
      (sameAccountEntries src.env t p ≠ [] →
        ∀ id ∈ shownIds src p, id ∉ readIds src.env t p) := by
  rw [(queriedServiceIds_perm src.env t p).nodup_iff, List.nodup_append,
    nodup_flatMap_const_iff, src.collectSameAccountServiceIds_env, and_assoc]
  refine and_congr_right fun _ => and_congr_right fun _ => and_congr_right fun _ => ?_
  constructor
  · intro h hne id hid hread
    obtain ⟨aclProfile, hmem⟩ := List.exists_mem_of_ne_nil _ hne
    exact h id (List.mem_flatMap.mpr ⟨aclProfile, hmem, hid⟩) id hread rfl
  · rintro h id hid other hread rfl
    obtain ⟨aclProfile, hmem, hid⟩ := List.mem_flatMap.mp hid
    exact h (List.ne_nil_of_mem hmem) id hid hread

/-- Two entries that are read as one id are the same one. -/
theorem eq_of_nodup_readIds {env : Env} (h : (readIds env t p).Nodup)
    {aclProfile other : AccessControlProfile} (hmem : aclProfile ∈ otherEntries env t p)
    (hother : other ∈ otherEntries env t p) {id : Int}
    (hread : env.parseServiceIdFromJson aclProfile.accessee.extraData = some id)
    (hread' : env.parseServiceIdFromJson other.accessee.extraData = some id) :
    aclProfile = other := by
  by_contra hne
  rw [readIds, List.Nodup, List.pairwise_filterMap] at h
  have hsymm : Std.Symm fun a b : AccessControlProfile =>
      ∀ x, env.parseServiceIdFromJson a.accessee.extraData = some x →
        ∀ y, env.parseServiceIdFromJson b.accessee.extraData = some y → x ≠ y :=
    ⟨fun _ _ hab x hx y hy => Ne.symm (hab y hy x hx)⟩
  exact h.forall hmem hother hne id hread id hread' rfl

/-- For all entries and all stored service infos, the query lists each service once exactly when
no id is found twice, none is read that is not there, and none is missed. -/
theorem query_lists_each_once_iff (src : ServiceSources) (t : Tables) (p : AccessControlProfile) :
    ListsEachOnce src t p ↔ FindsEachOnce src t p := by
  rw [ListsEachOnce, forall_count_iff, nodup_queriedServiceIds_iff]
  simp only [mem_queriedServiceIds, provides_iff]
  constructor
  · rintro ⟨⟨hone, hdistinct, hread, hapart⟩, hexact⟩
    refine ⟨hone, hdistinct, hread, hapart, ?_, ?_, ?_⟩
    · intro aclProfile hmem id hwritten
      rcases (hexact id).mpr (.inr ⟨aclProfile, hmem, hwritten⟩) with hshown | hin
      · exact .inr hshown
      · obtain ⟨other, -, hother⟩ := mem_readIds.mp hin
        exact .inl (ServiceSources.parse_of_written hother hwritten)
    · intro aclProfile hmem id hid
      rcases (hexact id).mp (.inr (mem_readIds.mpr ⟨aclProfile, hmem, hid⟩)) with
        hstored | ⟨other, hother, hwritten⟩
      · exact .inr hstored
      · -- the other entry is read as the id too, so it is this one
        have hother' := ServiceSources.parse_of_written hid hwritten
        rw [eq_of_nodup_readIds hread hmem hother hid hother']
        exact .inl hwritten
    · intro hne id hid
      exact ((hexact id).mpr (.inl ⟨hne, hid⟩)).imp_left And.right
  · rintro ⟨hone, hdistinct, hread, hapart, hwritten, hid, hshown⟩
    refine ⟨⟨hone, hdistinct, hread, hapart⟩, fun id => ⟨?_, ?_⟩⟩
    · rintro (⟨hne, hin⟩ | hin)
      · exact .inl ⟨hne, shownIds_subset_storedIds hin⟩
      · obtain ⟨aclProfile, hmem, hparse⟩ := mem_readIds.mp hin
        rcases hid aclProfile hmem id hparse with h | h
        · exact .inr ⟨aclProfile, hmem, h⟩
        · exact .inl h
    · rintro (⟨hne, hin⟩ | ⟨aclProfile, hmem, h⟩)
      · exact (hshown hne id hin).imp_left fun h => ⟨hne, h⟩
      · rcases hwritten aclProfile hmem id h with hparse | h
        · exact .inr (mem_readIds.mpr ⟨aclProfile, hmem, hparse⟩)
        · exact .inl h

end Exact

/-- Extra data that names the account of a service. -/
def accountData : Text := "\x7b\"accountId\":\"acc\"\x7d".toList

/-- A service that the television announces. -/
def tvService : Info.ServiceInfo where
  udid := ("tv" : Text)
  userId := 100
  displayId := 7
  serviceOwnerTokenId := 11
  serviceOwnerPkgName := ("pkg" : Text)
  serviceRegisterTokenId := 12
  serviceId := 5
  timeStamp := 1700000000000
  publishState := 1
  serviceType := ("type" : Text)
  serviceName := ("name" : Text)
  serviceDisplayName := ("shown" : Text)
  customData := ("data" : Text)
  serviceCode := ("code" : Text)
  dataLen := 4
  extraData := accountData
  version := ("1.0" : Text)
  description := ("text" : Text)

/-- The store has one service of the account. -/
def tvSources : ServiceSources where
  written text :=
    if text = accountData then some [(("accountId" : Text), .string ("acc" : Text))] else none
  outOfRange _ := Int64.minValue
  json := flatJson
  manager := { store := Info.serviceInfoToEntries flatJson tvService }

/-- A phone as a party, with a token. -/
def phoneParty (partyId tokenId : Int) : Party where
  partyId
  deviceId := ("phone" : Text)
  userId := 100
  accountId := ("acc" : Text)
  tokenId

/-- The television as a party. -/
def tvParty : Party where
  partyId := 1
  deviceId := ("tv" : Text)
  userId := 100
  accountId := ("acc" : Text)

/-- A row that trusts the television by the same account. -/
def accountRow (id : Int) : AccessControlRow where
  accessControlId := id
  accesserId := id
  accesseeId := 1
  trustDeviceId := ("tv" : Text)
  bindType := SAME_ACCOUNT

/-- Two entries of the same account, for two tokens of this device. -/
def accountTables : Tables where
  accessControl :=
    { rows := [accountRow 1, accountRow 2], ascending := by decide, indexed := by decide }
  accesser :=
    { rows := [phoneParty 1 1, phoneParty 2 2], ascending := by decide, indexed := by decide }
  accessee := { rows := [tvParty], ascending := by decide, indexed := by decide }

theorem integrity_accountTables : accountTables.Integrity := by
  intro role id
  cases role with
  | accesser =>
    simp [Tables.Stores, Tables.Names, Tables.parties, Table.mem_iff, accountTables, phoneParty,
      accountRow, AccessControlRow.partyId]
  | accessee =>
    simp [Tables.Stores, Tables.Names, Tables.parties, Table.mem_iff, accountTables, tvParty,
      accountRow, AccessControlRow.partyId]

/-- The service is listed once for each of the two entries. -/
theorem not_query_lists_each_once :
    ¬∀ (src : ServiceSources) (t : Tables) (p : AccessControlProfile),
      t.Integrity → ListsEachOnce src t p := by
  intro h
  have hlists := h tvSources accountTables
    { accountRow 1 with accesser := phoneParty 1 1, accessee := tvParty } integrity_accountTables
  have hids : queriedServiceIds tvSources.env accountTables
      { accountRow 1 with accesser := phoneParty 1 1, accessee := tvParty } = [5, 5] := by
    decide +kernel
  have hnodup := (forall_count_iff.mp hlists).1
  rw [hids] at hnodup
  revert hnodup
  decide

end DeviceProfile
