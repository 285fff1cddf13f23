import DeviceProfile.Cache.SwitchAgreement

/-!
# Runs of switch calls

The agreement of cached switches with the word along runs of single puts, batches and
refreshes, and what a batch has in common with its single puts.
-/

namespace DeviceProfile

open Library Std

variable {localUdid : Text} {c : ProfileCache}

/-! ## Refreshing -/

/-- The profile that is cached for a switch of the word. -/
def stateProfile (localUdid : Text) (w : BitVec 32) (x : Text × SwitchFlag) :
    Flagged CharacteristicProfile :=
  { profile := {
      deviceId := localUdid
      serviceName := x.1
      characteristicKey := SWITCH_STATUS
      characteristicValue := numeral ((w >>> x.2.pos) &&& 1#32).toNat } }

/-- A refresh caches one profile for each switch. -/
theorem refreshedProfiles_eq (localUdid : Text) (w : BitVec 32) :
    (List.range SWITCH_FLAG_MAX).filterMap (refreshedProfile localUdid w) =
      SWITCH_SERVICE_MAP.map (stateProfile localUdid w) := rfl

/-- The digit of a bit is the value of a switch. -/
theorem numeral_bit (w : BitVec 32) (i : Nat) :
    numeral ((w >>> i) &&& 1#32).toNat = if w.getLsbD i then SWITCH_ON else SWITCH_OFF := by
  rw [BitVec.and_one_eq_setWidth_ofBool_getLsbD, BitVec.getLsbD_ushiftRight, Nat.add_zero]
  cases w.getLsbD i <;> decide

/-- The digit of a bit is the value of a switch that is on exactly when the bit is set. -/
theorem numeral_bit_eq_iff (w : BitVec 32) (i : Nat) :
    numeral ((w >>> i) &&& 1#32).toNat = SWITCH_ON ↔ w.getLsbD i = true := by
  rw [numeral_bit]
  cases w.getLsbD i <;> decide

/-- The profiles that a word stands for hold one profile for each service. -/
theorem statusOf_map_stateProfile (localUdid : Text) (w : BitVec 32) {x : Text × SwitchFlag}
    (hx : x ∈ SWITCH_SERVICE_MAP) :
    statusOf x.1 (SWITCH_SERVICE_MAP.map (stateProfile localUdid w)) =
      [stateProfile localUdid w x] := by
  have hnames : ∀ x ∈ SWITCH_SERVICE_MAP,
      (SWITCH_SERVICE_MAP.filter fun y => y.1 = x.1) = [x] := by
    decide
  rw [statusOf, List.filter_map, ← List.map_singleton, ← hnames x hx]
  congr 1
  refine List.filter_congr fun y _ => ?_
  simp [stateProfile]

/-- The profiles of a refresh are valid where the id of this device is. -/
theorem isCharProfileValid_stateProfile (hlocal : IsKeyValid localUdid) (w : BitVec 32)
    {x : Text × SwitchFlag} (hx : x ∈ SWITCH_SERVICE_MAP) :
    IsCharProfileValid localUdid (stateProfile localUdid w x).profile :=
  ⟨hlocal, ⟨hlocal.1, rfl⟩, isKeyValid_of_mem x hx,
    show IsKeyValid SWITCH_STATUS by decide⟩

/-- A refresh for whose profiles there is room brings the cache and the word into agreement. -/
theorem switchAgrees_refresh (hlocal : IsKeyValid localUdid) {w : BitVec 32}
    (hroom : HasRoom (SWITCH_SERVICE_MAP.map (stateProfile localUdid w)) c.charProfileMap) :
    SwitchAgrees localUdid
      { (SWITCH_SERVICE_MAP.map (stateProfile localUdid w)).foldl
          ProfileCache.cacheCharProfile c with curLocalSwitch := w } := by
  have hvalid : ∀ p ∈ SWITCH_SERVICE_MAP.map (stateProfile localUdid w),
      IsCharProfileValid localUdid p.profile := by
    intro p hp
    obtain ⟨x, hx, rfl⟩ := List.mem_map.mp hp
    exact isCharProfileValid_stateProfile hlocal w hx
  rw [foldl_cacheCharProfile (fun p hp => areCharKeysValid (hvalid p hp)) hroom]
  refine switchAgrees_withProfiles (c := c) hvalid (fun x hx p hp => ?_) fun x hx hnil => ?_
  · rw [statusOf_map_stateProfile localUdid w hx, List.getLast?_singleton] at hp
    rw [← Option.some.inj hp]
    exact numeral_bit_eq_iff w x.2.pos
  · rw [statusOf_map_stateProfile localUdid w hx] at hnil
    cases hnil

/-! ## Events -/

/-- The switch calls; the switch store answers all of them. -/
inductive SwitchEvent where
  | put (charProfile : Flagged CharacteristicProfile)
  | putBatch (charProfiles : List (Flagged CharacteristicProfile))
  | refresh (localNetwork : Text) (newSwitch : BitVec 32)

/-- A call, which changes nothing if it fails. -/
def switchStep (localUdid : Text) (c : ProfileCache) : SwitchEvent → ProfileCache
  | .put charProfile =>
    (putSwitchCharacteristicProfile localUdid true charProfile c).toOption.getD c
  | .putBatch charProfiles =>
    (putSwitchCharacteristicProfileBatch localUdid true charProfiles c).toOption.getD c
  | .refresh localNetwork newSwitch =>
    (refreshLocalSwitchProfile localUdid localNetwork (some newSwitch) c).toOption.getD c

/-- The cache takes every profile of the call, and a batch settles every switch. -/
def SwitchEventFits (localUdid : Text) (c : ProfileCache) : SwitchEvent → Prop
  | .put p => (∃ flag, IsPutAccepted localUdid c p flag) → c.charProfileMap.size ≤ MAX_CHAR_SIZE
  | .putBatch items => IsBatchAccepted localUdid items →
      HasRoom items c.charProfileMap ∧ ∀ x ∈ SWITCH_SERVICE_MAP, Settles c items x
  | .refresh _ newSwitch =>
      HasRoom (SWITCH_SERVICE_MAP.map (stateProfile localUdid newSwitch)) c.charProfileMap

/-- Every profile of the list turns a switch. -/
def AllSwitchPuts (localUdid : Text) (items : List (Flagged CharacteristicProfile)) : Prop :=
  ∀ p ∈ items, IsCharProfileValid localUdid p.profile ∧ ∃ flag, IsSwitchPut p.profile flag

/-- The call fits, and an accepted batch holds puts of switches only. -/
def SwitchEventAdmissible (localUdid : Text) (c : ProfileCache) (event : SwitchEvent) : Prop :=
  SwitchEventFits localUdid c event ∧
    ∀ items, event = .putBatch items → IsBatchAccepted localUdid items →
      AllSwitchPuts localUdid items

/-- An accepted put sets its bit and caches its profile. -/
theorem switchStep_put_of_accepted {p : Flagged CharacteristicProfile} {flag : SwitchFlag}
    (h : IsPutAccepted localUdid c p flag) :
    switchStep localUdid c (.put p) =
      (c.withSwitch flag (p.profile.characteristicValue = SWITCH_ON)).cacheCharProfile p := by
  rw [switchStep, putSwitchCharacteristicProfile_of_accepted h]
  rfl

/-- A put that is not accepted changes nothing. -/
theorem switchStep_put_of_not_accepted {p : Flagged CharacteristicProfile}
    (h : ∀ flag, ¬IsPutAccepted localUdid c p flag) : switchStep localUdid c (.put p) = c := by
  obtain ⟨e, he⟩ := putSwitchCharacteristicProfile_of_not_accepted h true
  rw [switchStep, he]
  rfl

/-- An accepted batch sets the bits of all its items, then caches them. -/
theorem switchStep_putBatch_of_accepted {items : List (Flagged CharacteristicProfile)}
    (h : IsBatchAccepted localUdid items) :
    switchStep localUdid c (.putBatch items) = items.foldl ProfileCache.cacheCharProfile
      { c with curLocalSwitch := items.foldl (switchAfter c) c.curLocalSwitch } := by
  rw [switchStep, putSwitchCharacteristicProfileBatch_of_accepted h]
  rfl

theorem switchStep_putBatch_of_not_accepted {items : List (Flagged CharacteristicProfile)}
    (h : ¬IsBatchAccepted localUdid items) : switchStep localUdid c (.putBatch items) = c := by
  obtain ⟨e, he⟩ := putSwitchCharacteristicProfileBatch_of_not_accepted (c := c) h true
  rw [switchStep, he]
  rfl

/-- A refresh is refused, or it takes over the word and caches the state of each switch. -/
theorem switchStep_refresh (localUdid localNetwork : Text) (w : BitVec 32) (c : ProfileCache) :
    switchStep localUdid c (.refresh localNetwork w) = c ∨
      switchStep localUdid c (.refresh localNetwork w) =
        { (SWITCH_SERVICE_MAP.map (stateProfile localUdid w)).foldl
            ProfileCache.cacheCharProfile c with curLocalSwitch := w } := by
  rw [switchStep, refreshLocalSwitchProfile]
  split
  · exact .inl rfl
  · exact .inr rfl

/-- Every call that fits keeps the agreement. -/
theorem switchAgrees_step (hlocal : IsKeyValid localUdid) (c : ProfileCache) (event : SwitchEvent)
    (hagree : SwitchAgrees localUdid c) (hfits : SwitchEventFits localUdid c event) :
    SwitchAgrees localUdid (switchStep localUdid c event) := by
  cases event with
  | put p =>
    by_cases h : ∃ flag, IsPutAccepted localUdid c p flag
    · obtain ⟨flag, haccepted⟩ := h
      rw [switchStep_put_of_accepted haccepted]
      exact switchAgrees_put hagree haccepted (hfits ⟨flag, haccepted⟩)
    · rw [switchStep_put_of_not_accepted fun flag hflag => h ⟨flag, hflag⟩]
      exact hagree
  | putBatch items =>
    by_cases h : IsBatchAccepted localUdid items
    · rw [switchStep_putBatch_of_accepted h]
      exact switchAgrees_batch hagree h.2.2 (hfits h).1 (hfits h).2
    · rw [switchStep_putBatch_of_not_accepted h]
      exact hagree
  | refresh localNetwork w =>
    rcases switchStep_refresh localUdid localNetwork w c with hsame | hstep
    · rw [hsame]
      exact hagree
    · rw [hstep]
      exact switchAgrees_refresh hlocal hfits

/-- With an id that cannot be part of a key nothing is ever cached. -/
theorem charProfileMap_step_of_not_valid (hlocal : ¬IsKeyValid localUdid)
    (hempty : c.charProfileMap = ∅) (event : SwitchEvent) :
    (switchStep localUdid c event).charProfileMap = ∅ := by
  have hinvalid : ∀ p, ¬IsCharProfileValid localUdid p :=
    fun p hp => hlocal (hp.2.1.2 ▸ hp.1)
  cases event with
  | put p =>
    rw [switchStep_put_of_not_accepted fun flag h => hinvalid _ h.1]
    exact hempty
  | putBatch items =>
    rw [switchStep_putBatch_of_not_accepted]
    · exact hempty
    · rintro ⟨hne, -, hvalid⟩
      obtain ⟨p, hp⟩ := List.exists_mem_of_ne_nil _ hne
      exact hinvalid _ (hvalid p hp)
  | refresh localNetwork w =>
    rcases switchStep_refresh localUdid localNetwork w c with hsame | hstep
    · rw [hsame]
      exact hempty
    · rw [hstep]
      have hrefused : ∀ (l : List (Text × SwitchFlag)) (c : ProfileCache),
          (l.map (stateProfile localUdid w)).foldl ProfileCache.cacheCharProfile c = c := by
        intro l
        induction l with
        | nil => exact fun _ => rfl
        | cons x rest ih =>
          intro c
          have hadd : c.cacheCharProfile (stateProfile localUdid w x) = c := by
            rw [ProfileCache.cacheCharProfile, ProfileCache.addCharProfile,
              if_pos fun h => hlocal h.1]
            rfl
          rw [List.map_cons, List.foldl_cons, hadd, ih]
      rw [hrefused]
      exact hempty

/-! ## A batch and its single puts -/

/-- What a list of switch puts leaves: the profiles are cached, the word agrees with the cache,
and only the bits of the switches in the list may have changed. -/
structure PutsDone (localUdid : Text) (items : List (Flagged CharacteristicProfile))
    (c c' : ProfileCache) : Prop where
  services : c'.serviceProfileMap = c.serviceProfileMap
  chars : c'.charProfileMap = withProfiles items c.charProfileMap
  agrees : SwitchAgrees localUdid c'
  kept : ∀ i, (∀ p ∈ items, ∀ flag, IsSwitchPut p.profile flag → flag.pos ≠ i) →
    c'.curLocalSwitch.getLsbD i = c.curLocalSwitch.getLsbD i

/-- The facts determine the cache and the word. -/
theorem PutsDone.unique {items : List (Flagged CharacteristicProfile)} {c₁ c₂ : ProfileCache}
    (hputs : AllSwitchPuts localUdid items) (h₁ : PutsDone localUdid items c c₁)
    (h₂ : PutsDone localUdid items c c₂) : c₁ = c₂ := by
  have hword : c₁.curLocalSwitch = c₂.curLocalSwitch := by
    refine BitVec.eq_of_getLsbD_eq fun i _ => ?_
    by_cases hbit : ∃ p ∈ items, ∃ flag, IsSwitchPut p.profile flag ∧ flag.pos = i
    · obtain ⟨p, hp, flag, hput, hpos⟩ := hbit
      have hmem := mem_of_lookup hput.2.2
      obtain ⟨hname, hkey, -⟩ := (isSwitchPut_iff hmem).mp hput
      have hstatus : p ∈ statusOf p.profile.serviceName items :=
        List.mem_filter.mpr ⟨hp, decide_eq_true ⟨rfl, hkey⟩⟩
      obtain ⟨q, hq⟩ := Option.ne_none_iff_exists'.mp
        (mt List.getLast?_eq_none_iff.mp (List.ne_nil_of_mem hstatus))
      have hcached : (withProfiles items c.charProfileMap)[
          switchKey localUdid p.profile.serviceName]? = some q := by
        rw [getElem?_withProfiles (fun r hr => (hputs r hr).1) hmem, hq, Option.some_or]
      have hone := h₁.agrees _ hmem q (by rw [h₁.chars]; exact hcached)
      have htwo := h₂.agrees _ hmem q (by rw [h₂.chars]; exact hcached)
      rw [← hpos]
      exact Bool.eq_iff_iff.mpr (hone.symm.trans htwo)
    · have hfree : ∀ p ∈ items, ∀ flag, IsSwitchPut p.profile flag → flag.pos ≠ i :=
        fun p hp flag hput hpos => hbit ⟨p, hp, flag, hput, hpos⟩
      rw [h₁.kept i hfree, h₂.kept i hfree]
  obtain ⟨services₁, chars₁, word₁⟩ := c₁
  obtain ⟨services₂, chars₂, word₂⟩ := c₂
  obtain rfl : services₁ = services₂ := h₁.services.trans h₂.services.symm
  obtain rfl : chars₁ = chars₂ := h₁.chars.trans h₂.chars.symm
  obtain rfl : word₁ = word₂ := hword
  rfl

/-- A put of a profile that is cached already fails and leaves the map as caching it would. -/
theorem insert_of_exist {p : Flagged CharacteristicProfile} (h : c.IsCharProfileExist p) :
    c.charProfileMap.insert p.profile.cacheKey p = c.charProfileMap := by
  refine ExtTreeMap.ext_getElem? fun k => ?_
  rw [ExtTreeMap.getElem?_insert]
  split
  · rename_i hk
    rw [← LawfulEqCmp.compare_eq_iff_eq.mp hk, h.2]
  · rfl

/-- The single puts of a list for which there is room. -/
theorem putsDone_singles (hagree : SwitchAgrees localUdid c)
    {items : List (Flagged CharacteristicProfile)} (hputs : AllSwitchPuts localUdid items)
    (hroom : HasRoom items c.charProfileMap) :
    PutsDone localUdid items c ((items.map SwitchEvent.put).foldl (switchStep localUdid) c) := by
  induction items using List.reverseRecOn with
  | nil => exact ⟨rfl, rfl, hagree, fun _ _ => rfl⟩
  | append_singleton rest p ih =>
    have hlength : (rest ++ [p]).length = rest.length + 1 := by
      rw [List.length_append, List.length_singleton]
    have hrest : HasRoom rest c.charProfileMap := by
      intro n hn
      have hsize := hroom n (hlength.symm ▸ Nat.lt_succ_of_lt hn)
      rwa [List.take_append_of_le_length hn.le] at hsize
    have hlast := hroom rest.length (hlength.symm ▸ Nat.lt_succ_self _)
    rw [List.take_left] at hlast
    have hdone := ih (fun q hq => hputs q (List.mem_append_left _ hq)) hrest
    obtain ⟨hvalid, flag, hput⟩ := hputs p (List.mem_append_right _ List.mem_cons_self)
    rw [List.map_append, List.foldl_append, List.map_singleton, List.foldl_cons, List.foldl_nil]
    generalize (rest.map SwitchEvent.put).foldl (switchStep localUdid) c = s at hdone ⊢
    have hmap : withProfiles (rest ++ [p]) c.charProfileMap =
        s.charProfileMap.insert p.profile.cacheKey p := by
      rw [hdone.chars, withProfiles, withProfiles, insertAll, insertAll, List.foldl_append]
      rfl
    have hfree : ∀ i, (∀ q ∈ rest ++ [p], ∀ flag, IsSwitchPut q.profile flag → flag.pos ≠ i) →
        ∀ q ∈ rest, ∀ flag, IsSwitchPut q.profile flag → flag.pos ≠ i :=
      fun i hi q hq => hi q (List.mem_append_left _ hq)
    rw [← hdone.chars] at hlast
    by_cases hexist : s.IsCharProfileExist p
    · rw [switchStep_put_of_not_accepted fun flag h => h.2.1 hexist]
      refine ⟨hdone.services, ?_, hdone.agrees, fun i hi => hdone.kept i (hfree i hi)⟩
      rw [hmap, insert_of_exist hexist]
    · have haccepted : IsPutAccepted localUdid s p flag := ⟨hvalid, hexist, hput⟩
      have hagree' := switchAgrees_put hdone.agrees haccepted hlast
      rw [switchStep_put_of_accepted haccepted]
      rw [cacheCharProfile_eq (c := s.withSwitch flag _) (areCharKeysValid hvalid) hlast]
        at hagree' ⊢
      refine ⟨hdone.services, hmap.symm, hagree', fun i hi => ?_⟩
      change (withBit s.curLocalSwitch flag.pos _).getLsbD i = _
      rw [getLsbD_withBit _ flag.pos_lt, if_neg, hdone.kept i (hfree i hi)]
      exact (hi p (List.mem_append_right _ List.mem_cons_self) flag hput).symm

/-- An accepted batch of switch puts that has room and settles every switch. -/
theorem putsDone_batch (hagree : SwitchAgrees localUdid c)
    {items : List (Flagged CharacteristicProfile)} (haccepted : IsBatchAccepted localUdid items)
    (hfits : SwitchEventFits localUdid c (.putBatch items)) :
    PutsDone localUdid items c (switchStep localUdid c (.putBatch items)) := by
  obtain ⟨hroom, hsettle⟩ := hfits haccepted
  have hvalid := haccepted.2.2
  have hkeys : AllKeysValid items := fun p hp => areCharKeysValid (hvalid p hp)
  have hagree' := switchAgrees_batch hagree hvalid hroom hsettle
  let newSwitch := items.foldl (switchAfter c) c.curLocalSwitch
  rw [switchStep_putBatch_of_accepted haccepted]
  rw [foldl_cacheCharProfile (c := { c with curLocalSwitch := newSwitch }) hkeys hroom]
    at hagree' ⊢
  refine ⟨rfl, rfl, hagree', fun i hi => ?_⟩
  rcases getLsbD_foldl_switchAfter c items c.curLocalSwitch i with
    ⟨hbit, -⟩ | ⟨flag, q, hpos, hlast, -⟩
  · exact hbit
  · obtain ⟨hqmem, hq⟩ := List.mem_filter.mp (List.mem_of_getLast? hlast)
    exact absurd hpos (hi q hqmem flag (of_decide_eq_true hq).1)

/-! ## The run -/

/-- A cache without characteristic profiles. -/
def emptyCharCache (services : ExtTreeMap Text (Flagged ServiceProfile)) (w : BitVec 32) :
    ProfileCache :=
  { serviceProfileMap := services, curLocalSwitch := w }

/-- In every run of calls that fit the cached switches agree with the word after every call. -/
theorem switchAgrees_run (localUdid : Text) (services : ExtTreeMap Text (Flagged ServiceProfile))
    (w : BitVec 32) (events : List SwitchEvent)
    (hfits : Admits (switchStep localUdid) (SwitchEventFits localUdid)
      (emptyCharCache services w) events) (n : Nat) :
    SwitchAgrees localUdid
      ((events.take n).foldl (switchStep localUdid) (emptyCharCache services w)) := by
  by_cases hlocal : IsKeyValid localUdid
  · refine foldl_invariant (fun c event h hc => switchAgrees_step hlocal c event h hc) ?_
      (hfits.take n)
    intro x hx p hp
    rw [emptyCharCache, ExtTreeMap.getElem?_empty] at hp
    cases hp
  · have hempty : ((events.take n).foldl (switchStep localUdid)
        (emptyCharCache services w)).charProfileMap = ∅ :=
      foldl_invariant (P := fun c => c.charProfileMap = ∅)
        (fun c event h _ => charProfileMap_step_of_not_valid hlocal h event) rfl (hfits.take n)
    intro x hx p hp
    rw [hempty, ExtTreeMap.getElem?_empty] at hp
    cases hp

/-- In every run of admissible calls the cached switches agree with the word after every call, and
every accepted batch leaves what its single puts leave. -/
theorem cached_switches_agree (localUdid : Text)
    (services : ExtTreeMap Text (Flagged ServiceProfile)) (w : BitVec 32)
    (events : List SwitchEvent)
    (hadm : Admits (switchStep localUdid) (SwitchEventAdmissible localUdid)
      (emptyCharCache services w) events) :
    (∀ n, SwitchAgrees localUdid
      ((events.take n).foldl (switchStep localUdid) (emptyCharCache services w))) ∧
    ∀ n items, events[n]? = some (.putBatch items) → IsBatchAccepted localUdid items →
      (events.take (n + 1)).foldl (switchStep localUdid) (emptyCharCache services w) =
        (items.map SwitchEvent.put).foldl (switchStep localUdid)
          ((events.take n).foldl (switchStep localUdid) (emptyCharCache services w)) := by
  have hagree := switchAgrees_run localUdid services w events (hadm.imp fun _ _ h => h.1)
  refine ⟨hagree, fun n items hitem haccepted => ?_⟩
  obtain ⟨hfits, hswitches⟩ := hadm.get hitem
  have hputs := hswitches items rfl haccepted
  rw [List.take_add_one, hitem, List.foldl_append]
  exact PutsDone.unique hputs (putsDone_batch (hagree n) haccepted hfits)
    (putsDone_singles (hagree n) hputs (hfits haccepted).1)

/-- A batch of switch puts that turns no switch both ways settles every switch. -/
theorem settles_of_forall_eq {items : List (Flagged CharacteristicProfile)}
    (hputs : AllSwitchPuts localUdid items)
    (hone : ∀ p ∈ items, ∀ q ∈ items, p.profile.serviceName = q.profile.serviceName →
      p.profile.characteristicValue = q.profile.characteristicValue) {x : Text × SwitchFlag}
    (hx : x ∈ SWITCH_SERVICE_MAP) : Settles c items x := by
  intro p hp
  obtain ⟨hpmem, hstatus⟩ := List.mem_filter.mp (List.mem_of_getLast? hp)
  obtain ⟨hname, hkey⟩ := of_decide_eq_true hstatus
  obtain ⟨-, flag, -, hvalue, -⟩ := hputs p hpmem
  refine ⟨(isSwitchPut_iff hx).mpr ⟨hname, hkey, hvalue⟩, fun q hq => ?_⟩
  obtain ⟨hqmem, hqnew⟩ := List.mem_filter.mp (List.mem_of_getLast? hq)
  obtain ⟨hqname, -, -⟩ := (isSwitchPut_iff hx).mp (of_decide_eq_true hqnew).1
  exact hone q hqmem p hpmem (hqname.trans hname.symm)

/-- The state of a switch of the local device. -/
def switchStatus (serviceName value : Text) : Flagged CharacteristicProfile :=
  { profile := {
      deviceId := ("udid" : Text)
      serviceName := serviceName
      characteristicKey := SWITCH_STATUS
      characteristicValue := value } }

/-- The state of the first switch. -/
def edgeCrossing (value : Text) : Flagged CharacteristicProfile :=
  switchStatus ("SwitchStatus_Key_Mouse_Edge_Crossing" : Text) value

/-- The state of the second switch. -/
def pasteboard (value : Text) : Flagged CharacteristicProfile :=
  switchStatus ("SwitchStatus_Key_Distributed_Pasteboard" : Text) value

/-- Turns the first switch off twice and the second one on in between. -/
def switchBatch : List (Flagged CharacteristicProfile) :=
  [edgeCrossing SWITCH_OFF, pasteboard SWITCH_ON, edgeCrossing SWITCH_OFF]

theorem allSwitchPuts_switchBatch : AllSwitchPuts ("udid" : Text) switchBatch := by
  simp only [AllSwitchPuts, switchBatch, List.forall_mem_cons, List.not_mem_nil, false_implies,
    implies_true, and_true]
  exact ⟨⟨by decide, .keyMouseEdgeCrossing, by decide⟩,
    ⟨by decide, .keyDistributedPasteboard, by decide⟩,
    by decide, .keyMouseEdgeCrossing, by decide⟩

/-- After a put that turns the first switch on, a batch that repeats a switch leaves agreement and
the cache and word of its three puts. -/
theorem cached_switches_agree_on_off :
    let events := [SwitchEvent.put (edgeCrossing SWITCH_ON), .putBatch switchBatch]
    SwitchAgrees ("udid" : Text)
      (events.foldl (switchStep ("udid" : Text)) (emptyCharCache ∅ 0)) ∧
    events.foldl (switchStep ("udid" : Text)) (emptyCharCache ∅ 0) =
      (switchBatch.map SwitchEvent.put).foldl (switchStep ("udid" : Text))
        (switchStep ("udid" : Text) (emptyCharCache ∅ 0) (.put (edgeCrossing SWITCH_ON))) := by
  have hrun := cached_switches_agree ("udid" : Text) ∅ 0
    [.put (edgeCrossing SWITCH_ON), .putBatch switchBatch]
    ⟨⟨fun _ => Nat.zero_le _, nofun⟩, ⟨fun _ => ⟨?_, fun x hx => ?_⟩, ?_⟩, trivial⟩
  · exact ⟨hrun.1 2, hrun.2 1 switchBatch rfl
      ⟨by decide, by decide, fun p hp => (allSwitchPuts_switchBatch p hp).1⟩⟩
  · show ∀ n < switchBatch.length, _
    decide
  · exact settles_of_forall_eq allSwitchPuts_switchBatch (by decide) hx
  · rintro items hitems -
    exact SwitchEvent.putBatch.inj hitems ▸ allSwitchPuts_switchBatch

/-- A batch caches a value that is neither on nor off, and the bit stays set. -/
theorem not_switchAgrees_of_invalid_value :
    ¬SwitchAgrees ("udid" : Text)
      ([SwitchEvent.put (edgeCrossing SWITCH_ON),
        SwitchEvent.putBatch [edgeCrossing ("2" : Text)]].foldl (switchStep ("udid" : Text))
          (emptyCharCache ∅ 0)) := by
  intro h
  have hfirst := h (("SwitchStatus_Key_Mouse_Edge_Crossing" : Text), .keyMouseEdgeCrossing)
    (by decide) (edgeCrossing ("2" : Text)) (by decide)
  exact absurd (hfirst.mpr (by decide)) (by decide)

end DeviceProfile
