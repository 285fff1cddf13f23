import DeviceProfile.Cache.SwitchStatus

/-!
# Cached switches and the word

The cached profile of a switch says on exactly when the bit of the switch is set. A single
put keeps this as long as the cache has room. A batch caches every profile of its list, also
those that did not change the word.
-/

namespace DeviceProfile

open Library Std

variable {localUdid : Text} {c c' : ProfileCache}

/-! ## One bit of the word -/

/-- A profile that turns a switch on or off. -/
def IsSwitchPut (p : CharacteristicProfile) (flag : SwitchFlag) : Prop :=
  p.characteristicKey = SWITCH_STATUS ∧
    (p.characteristicValue = SWITCH_OFF ∨ p.characteristicValue = SWITCH_ON) ∧
      switchFlag p = some flag

instance (p : CharacteristicProfile) (flag : SwitchFlag) : Decidable (IsSwitchPut p flag) :=
  inferInstanceAs (Decidable (_ ∧ _))

/-- Write one bit of a word. -/
def withBit (w : BitVec 32) (i : Nat) (on : Bool) : BitVec 32 :=
  if on then w ||| 1#32 <<< i else w &&& ~~~(1#32 <<< i)

/-- Only the written bit changes. -/
theorem getLsbD_withBit (w : BitVec 32) {i : Nat} (hi : i < 32) (on : Bool) (j : Nat) :
    (withBit w i on).getLsbD j = if j = i then on else w.getLsbD j := by
  have hmask : (1#32 <<< i).getLsbD j = decide (j = i) := by
    rw [← BitVec.twoPow_eq, BitVec.getLsbD_twoPow]
    simp [hi, eq_comm]
  unfold withBit
  by_cases hj : j = i
  · cases on <;> simp [hj, hi]
  · cases on
    · rw [if_neg Bool.false_ne_true, BitVec.getLsbD_and, BitVec.getLsbD_not, hmask, if_neg hj]
      by_cases hlt : j < 32
      · simp [hlt, hj]
      · rw [BitVec.getLsbD_of_ge _ _ (Nat.not_lt.mp hlt), Bool.false_and]
    · rw [if_pos rfl, BitVec.getLsbD_or, hmask, if_neg hj, decide_eq_false hj, Bool.or_false]

theorem SwitchFlag.pos_lt (flag : SwitchFlag) : flag.pos < 32 := by
  cases flag <;> decide

theorem SwitchFlag.pos_injective {flag flag' : SwitchFlag} (h : flag.pos = flag'.pos) :
    flag = flag' := by
  revert h
  cases flag <;> cases flag' <;> decide

/-- The switch services are found under their names. -/
theorem lookup_of_mem : ∀ x ∈ SWITCH_SERVICE_MAP, SWITCH_SERVICE_MAP.lookup x.1 = some x.2 := by
  decide

theorem isKeyValid_of_mem : ∀ x ∈ SWITCH_SERVICE_MAP, IsKeyValid x.1 := by
  decide

/-- Each switch has one service. -/
theorem service_injective : ∀ x ∈ SWITCH_SERVICE_MAP, ∀ y ∈ SWITCH_SERVICE_MAP,
    x.2 = y.2 → x.1 = y.1 := by
  decide

theorem mem_of_lookup {name : Text} {flag : SwitchFlag}
    (h : SWITCH_SERVICE_MAP.lookup name = some flag) : (name, flag) ∈ SWITCH_SERVICE_MAP := by
  obtain ⟨l₁, l₂, hlist, -⟩ := List.lookup_eq_some_iff.mp h
  rw [hlist]
  exact List.mem_append_right _ List.mem_cons_self

/-- A profile that turns a switch on or off writes its bit. -/
theorem setSwitchByProfile_of_put {p : CharacteristicProfile} {flag : SwitchFlag}
    (h : IsSwitchPut p flag) (w : BitVec 32) :
    setSwitchByProfile p w = .ok (withBit w flag.pos (p.characteristicValue = SWITCH_ON)) := by
  obtain ⟨hkey, hvalue, hflag⟩ := h
  have hne : p.characteristicValue ≠ [] := by
    rcases hvalue with h | h <;> rw [h] <;> decide
  have hvalid : IsSwitchValid p .put :=
    ⟨hkey, by decide, fun _ => ⟨hne, hvalue⟩, by rw [hflag]; exact Option.some_ne_none _⟩
  rw [setSwitchByProfile, if_neg (not_not.mpr hvalid)]
  simp only [hflag]
  rcases hvalue with hoff | hon
  · have hchars : fromChars SWITCH_OFF = some 0 := by decide
    have hdiff : SWITCH_OFF ≠ SWITCH_ON := by decide
    simp only [hoff, hchars, withBit, ne_eq, not_true_eq_false, if_false, decide_eq_true_eq,
      if_neg hdiff]
  · have hchars : fromChars SWITCH_ON = some 1 := by decide
    simp only [hon, hchars, withBit, decide_true, if_true]
    rfl

/-- No other profile changes the word. -/
theorem setSwitchByProfile_of_not_put {p : CharacteristicProfile}
    (h : ∀ flag, ¬IsSwitchPut p flag) (w : BitVec 32) :
    setSwitchByProfile p w = .error .invalidParams := by
  rw [setSwitchByProfile, if_pos]
  rintro ⟨hkey, -, hvalue, hflag⟩
  obtain ⟨flag, hflag⟩ := Option.ne_none_iff_exists'.mp hflag
  exact h flag ⟨hkey, (hvalue rfl).2, hflag⟩

/-! ## Agreement -/

/-- The key under which the state of a switch is cached. -/
def switchKey (localUdid serviceName : Text) : Text :=
  generateCharProfileKey localUdid serviceName SWITCH_STATUS

/-- What is cached for a switch says on exactly when its bit is set. -/
def AgreesAt (localUdid : Text) (c : ProfileCache) (x : Text × SwitchFlag) : Prop :=
  ∀ p, c.charProfileMap[switchKey localUdid x.1]? = some p →
    (p.profile.characteristicValue = SWITCH_ON ↔ c.curLocalSwitch.getLsbD x.2.pos = true)

/-- Every cached switch agrees with the word. -/
def SwitchAgrees (localUdid : Text) (c : ProfileCache) : Prop :=
  ∀ x ∈ SWITCH_SERVICE_MAP, AgreesAt localUdid c x

/-- The checks of a put are those of the cache. -/
theorem areCharKeysValid {p : CharacteristicProfile} (h : IsCharProfileValid localUdid p) :
    AreCharKeysValid p.deviceId p.serviceName p.characteristicKey := ⟨h.1, h.2.2⟩

/-- The profile of a local service is cached under the key of a switch only if it is the state of
the switch. -/
theorem cacheKey_eq_switchKey_iff {p : CharacteristicProfile} (h : IsCharProfileValid localUdid p)
    {x : Text × SwitchFlag} (hx : x ∈ SWITCH_SERVICE_MAP) :
    p.cacheKey = switchKey localUdid x.1 ↔
      p.serviceName = x.1 ∧ p.characteristicKey = SWITCH_STATUS := by
  have hlocal : localUdid = p.deviceId := h.2.1.2
  have hkeys : AreCharKeysValid localUdid x.1 SWITCH_STATUS :=
    ⟨hlocal ▸ h.1, isKeyValid_of_mem x hx, by decide⟩
  constructor
  · intro heq
    exact (generateCharProfileKey_injective (areCharKeysValid h) hkeys heq).2
  · rintro ⟨hname, hkey⟩
    rw [CharacteristicProfile.cacheKey, switchKey, hname, hkey, hlocal]

/-- A profile of a switch service turns its switch if its key and its value are right. -/
theorem isSwitchPut_iff {p : CharacteristicProfile} {x : Text × SwitchFlag}
    (hx : x ∈ SWITCH_SERVICE_MAP) :
    IsSwitchPut p x.2 ↔ p.serviceName = x.1 ∧ p.characteristicKey = SWITCH_STATUS ∧
      (p.characteristicValue = SWITCH_OFF ∨ p.characteristicValue = SWITCH_ON) := by
  have hservice : switchFlag p = some x.2 ↔ p.serviceName = x.1 := by
    constructor
    · intro h
      exact service_injective _ (mem_of_lookup h) x hx rfl
    · intro h
      rw [switchFlag, h]
      exact lookup_of_mem x hx
  rw [IsSwitchPut, hservice]
  constructor
  · rintro ⟨hkey, hvalue, hname⟩
    exact ⟨hname, hkey, hvalue⟩
  · rintro ⟨hname, hkey, hvalue⟩
    exact ⟨hkey, hvalue, hname⟩

/-! ## Caching a list of profiles -/

/-- The map with all profiles of a list. -/
def withProfiles (items : List (Flagged CharacteristicProfile))
    (m : ExtTreeMap Text (Flagged CharacteristicProfile)) :
    ExtTreeMap Text (Flagged CharacteristicProfile) :=
  insertAll (fun p => p.profile.cacheKey) id items m

/-- The map has room for each profile of a list in turn. -/
def HasRoom (items : List (Flagged CharacteristicProfile))
    (m : ExtTreeMap Text (Flagged CharacteristicProfile)) : Prop :=
  ∀ n < items.length, (withProfiles (items.take n) m).size ≤ MAX_CHAR_SIZE

/-- The profiles of the list have valid names. -/
def AllKeysValid (items : List (Flagged CharacteristicProfile)) : Prop :=
  ∀ p ∈ items, AreCharKeysValid p.profile.deviceId p.profile.serviceName
    p.profile.characteristicKey

/-- A cached characteristic stands under its key as long as there is room. -/
theorem cacheCharProfile_eq {p : Flagged CharacteristicProfile}
    (hkeys : AreCharKeysValid p.profile.deviceId p.profile.serviceName
      p.profile.characteristicKey) (hroom : c.charProfileMap.size ≤ MAX_CHAR_SIZE) :
    c.cacheCharProfile p =
      { c with charProfileMap := c.charProfileMap.insert p.profile.cacheKey p } := by
  rw [ProfileCache.cacheCharProfile, ProfileCache.addCharProfile, if_neg (not_not.mpr hkeys),
    if_neg (Nat.not_lt.mpr hroom)]
  rfl

/-- With room for all of them, all profiles of a list are cached. -/
theorem foldl_cacheCharProfile {items : List (Flagged CharacteristicProfile)}
    (hkeys : AllKeysValid items) (hroom : HasRoom items c.charProfileMap) :
    items.foldl ProfileCache.cacheCharProfile c =
      { c with charProfileMap := withProfiles items c.charProfileMap } := by
  induction items using List.reverseRecOn with
  | nil => rfl
  | append_singleton rest p ih =>
    have hrest : HasRoom rest c.charProfileMap := by
      intro n hn
      have hlt : n < (rest ++ [p]).length := by
        rw [List.length_append]
        omega
      have hsize := hroom n hlt
      rwa [List.take_append_of_le_length hn.le] at hsize
    have hlast := hroom rest.length (by rw [List.length_append]; exact Nat.lt_succ_self _)
    rw [List.take_left] at hlast
    have hkey := hkeys p (List.mem_append_right _ List.mem_cons_self)
    rw [List.foldl_append, ih (fun q hq => hkeys q (List.mem_append_left _ hq)) hrest,
      List.foldl_cons, List.foldl_nil, cacheCharProfile_eq hkey hlast]
    rw [withProfiles, withProfiles, insertAll, insertAll, List.foldl_append]
    rfl

/-- The profiles of a list that hold the state of a switch. -/
def statusOf (serviceName : Text) (items : List (Flagged CharacteristicProfile)) :
    List (Flagged CharacteristicProfile) :=
  items.filter fun p => p.profile.serviceName = serviceName ∧
    p.profile.characteristicKey = SWITCH_STATUS

/-- The last state of a switch in the list is cached. -/
theorem getElem?_withProfiles {items : List (Flagged CharacteristicProfile)}
    (hvalid : ∀ p ∈ items, IsCharProfileValid localUdid p.profile) {x : Text × SwitchFlag}
    (hx : x ∈ SWITCH_SERVICE_MAP) (m : ExtTreeMap Text (Flagged CharacteristicProfile)) :
    (withProfiles items m)[switchKey localUdid x.1]? =
      (statusOf x.1 items).getLast?.or m[switchKey localUdid x.1]? := by
  have hfilter : (items.filter fun p => p.profile.cacheKey = switchKey localUdid x.1) =
      statusOf x.1 items :=
    List.filter_congr fun p hp => by
      simp only [cacheKey_eq_switchKey_iff (hvalid p hp) hx]
  rw [withProfiles, getElem?_insertAll, hfilter, Option.map_id]
  rfl

/-! ## Single puts -/

/-- A single put passed its checks, or it changed nothing. -/
def IsPutAccepted (localUdid : Text) (c : ProfileCache) (p : Flagged CharacteristicProfile)
    (flag : SwitchFlag) : Prop :=
  IsCharProfileValid localUdid p.profile ∧ ¬c.IsCharProfileExist p ∧ IsSwitchPut p.profile flag

/-- The cache with one bit of the word written. -/
def ProfileCache.withSwitch (c : ProfileCache) (flag : SwitchFlag) (on : Bool) : ProfileCache :=
  { c with curLocalSwitch := withBit c.curLocalSwitch flag.pos on }

/-- An accepted put writes the bit and caches the profile. -/
theorem putSwitchCharacteristicProfile_of_accepted {p : Flagged CharacteristicProfile}
    {flag : SwitchFlag} (h : IsPutAccepted localUdid c p flag) :
    putSwitchCharacteristicProfile localUdid true p c =
      .ok ((c.withSwitch flag (p.profile.characteristicValue = SWITCH_ON)).cacheCharProfile p) := by
  obtain ⟨hvalid, hexist, hput⟩ := h
  simp only [putSwitchCharacteristicProfile, hvalid, hexist, not_true_eq_false, if_false,
    setSwitchByProfile_of_put hput]
  rfl

/-- No other put succeeds. -/
theorem putSwitchCharacteristicProfile_of_not_accepted {p : Flagged CharacteristicProfile}
    (h : ∀ flag, ¬IsPutAccepted localUdid c p flag) (stored : Bool) :
    ∃ e, putSwitchCharacteristicProfile localUdid stored p c = .error e := by
  by_cases hvalid : IsCharProfileValid localUdid p.profile
  · by_cases hexist : c.IsCharProfileExist p
    · refine ⟨.cacheExist, ?_⟩
      simp only [putSwitchCharacteristicProfile, hvalid, hexist, not_true_eq_false, if_false,
        if_true]
      rfl
    · refine ⟨.invalidParams, ?_⟩
      have hset := setSwitchByProfile_of_not_put (p := p.profile)
        (fun flag hput => h flag ⟨hvalid, hexist, hput⟩) c.curLocalSwitch
      simp only [putSwitchCharacteristicProfile, hvalid, hexist, not_true_eq_false, if_false, hset]
      rfl
  · refine ⟨.invalidParams, ?_⟩
    simp only [putSwitchCharacteristicProfile, hvalid, not_false_eq_true, if_true]
    rfl

/-! ## Batches -/

/-- The word after one profile of a batch whose profiles are valid. -/
def switchAfter (c : ProfileCache) (w : BitVec 32) (p : Flagged CharacteristicProfile) :
    BitVec 32 :=
  if c.IsCharProfileExist p then w else (setSwitchByProfile p.profile w).toOption.getD w

/-- The batch is taken: it is not empty, not too long and all its profiles are valid. -/
def IsBatchAccepted (localUdid : Text) (items : List (Flagged CharacteristicProfile)) : Prop :=
  items ≠ [] ∧ items.length ≤ MAX_CHAR_SIZE ∧ ∀ p ∈ items, IsCharProfileValid localUdid p.profile

/-- An accepted batch sets the word once and caches all of its profiles. -/
theorem putSwitchCharacteristicProfileBatch_of_accepted
    {items : List (Flagged CharacteristicProfile)} (h : IsBatchAccepted localUdid items) :
    putSwitchCharacteristicProfileBatch localUdid true items c =
      .ok (items.foldl ProfileCache.cacheCharProfile
        { c with curLocalSwitch := items.foldl (switchAfter c) c.curLocalSwitch }) := by
  obtain ⟨hne, hlength, hvalid⟩ := h
  have hitems : ∀ (l : List (Flagged CharacteristicProfile)),
      (∀ p ∈ l, IsCharProfileValid localUdid p.profile) → ∀ w,
        l.foldlM (setSwitchOfItem localUdid c) w = .ok (l.foldl (switchAfter c) w) := by
    intro l
    induction l with
    | nil => exact fun _ _ => rfl
    | cons p rest ih =>
      intro hall w
      have hstep : setSwitchOfItem localUdid c w p = .ok (switchAfter c w p) := by
        rw [setSwitchOfItem, if_neg (not_not.mpr (hall p List.mem_cons_self)), switchAfter]
        split
        · rfl
        · cases setSwitchByProfile p.profile w <;> rfl
      rw [List.foldlM_cons, hstep, List.foldl_cons]
      exact ih (fun q hq => hall q (List.mem_cons_of_mem p hq)) (switchAfter c w p)
  simp only [putSwitchCharacteristicProfileBatch, hne, if_false, if_neg (Nat.not_lt.mpr hlength),
    hitems items hvalid]
  rfl

/-- No other batch succeeds. -/
theorem putSwitchCharacteristicProfileBatch_of_not_accepted
    {items : List (Flagged CharacteristicProfile)} (h : ¬IsBatchAccepted localUdid items)
    (stored : Bool) :
    ∃ e, putSwitchCharacteristicProfileBatch localUdid stored items c = .error e := by
  refine ⟨.invalidParams, ?_⟩
  by_cases hne : items = []
  · simp only [putSwitchCharacteristicProfileBatch, hne, if_true]
    rfl
  by_cases hlength : MAX_CHAR_SIZE < items.length
  · simp only [putSwitchCharacteristicProfileBatch, hne, hlength, if_false, if_true]
    rfl
  have hinvalid : ¬∀ p ∈ items, IsCharProfileValid localUdid p.profile :=
    fun hvalid => h ⟨hne, Nat.not_lt.mp hlength, hvalid⟩
  have hitems : ∀ (l : List (Flagged CharacteristicProfile)),
      (¬∀ p ∈ l, IsCharProfileValid localUdid p.profile) → ∀ w,
        l.foldlM (setSwitchOfItem localUdid c) w = .error .invalidParams := by
    intro l
    induction l with
    | nil => exact fun hall => absurd nofun hall
    | cons p rest ih =>
      intro hall w
      rw [List.foldlM_cons]
      by_cases hp : IsCharProfileValid localUdid p.profile
      · have hrest : ¬∀ q ∈ rest, IsCharProfileValid localUdid q.profile :=
          fun hq => hall (List.forall_mem_cons.mpr ⟨hp, hq⟩)
        rw [setSwitchOfItem, if_neg (not_not.mpr hp)]
        split
        · exact ih hrest w
        · split <;> exact ih hrest _
      · rw [setSwitchOfItem, if_pos hp]
        rfl
  simp only [putSwitchCharacteristicProfileBatch, hne, hlength, if_false,
    hitems items hinvalid]
  rfl

/-- The profiles of a list that turn a switch and are not cached already. -/
def newPutsOf (c : ProfileCache) (flag : SwitchFlag)
    (items : List (Flagged CharacteristicProfile)) : List (Flagged CharacteristicProfile) :=
  items.filter fun p => IsSwitchPut p.profile flag ∧ ¬c.IsCharProfileExist p

/-- The bit of a switch after a batch comes from the last new profile that turns the switch. -/
theorem getLsbD_foldl_switchAfter (c : ProfileCache) (items : List (Flagged CharacteristicProfile))
    (w : BitVec 32) (i : Nat) :
    (items.foldl (switchAfter c) w).getLsbD i = w.getLsbD i ∧
        (∀ flag : SwitchFlag, flag.pos = i → newPutsOf c flag items = []) ∨
      ∃ (flag : SwitchFlag) (p : Flagged CharacteristicProfile), flag.pos = i ∧
        (newPutsOf c flag items).getLast? = some p ∧
          (items.foldl (switchAfter c) w).getLsbD i =
            decide (p.profile.characteristicValue = SWITCH_ON) := by
  induction items using List.reverseRecOn with
  | nil => exact .inl ⟨rfl, fun _ _ => rfl⟩
  | append_singleton rest p ih =>
    rw [List.foldl_append, List.foldl_cons, List.foldl_nil]
    generalize rest.foldl (switchAfter c) w = w' at ih ⊢
    by_cases hnew : ∃ flag : SwitchFlag, flag.pos = i ∧ IsSwitchPut p.profile flag ∧
        ¬c.IsCharProfileExist p
    · obtain ⟨flag, hpos, hput, hexist⟩ := hnew
      refine .inr ⟨flag, p, hpos, ?_, ?_⟩
      · simp only [newPutsOf, List.filter_append, List.filter_cons, hput, hexist,
          not_false_eq_true, and_self, decide_true, if_true, List.filter_nil,
          List.getLast?_append, List.getLast?_singleton, Option.some_or]
      · rw [switchAfter, if_neg hexist, setSwitchByProfile_of_put hput]
        change (withBit w' flag.pos _).getLsbD i = _
        rw [getLsbD_withBit w' flag.pos_lt, if_pos hpos.symm]
    · have hsame : (switchAfter c w' p).getLsbD i = w'.getLsbD i := by
        unfold switchAfter
        split
        · rfl
        · rename_i hexist
          by_cases hany : ∃ flag, IsSwitchPut p.profile flag
          · obtain ⟨flag, hput⟩ := hany
            rw [setSwitchByProfile_of_put hput]
            change (withBit w' flag.pos _).getLsbD i = _
            rw [getLsbD_withBit w' flag.pos_lt, if_neg]
            exact fun hpos => hnew ⟨flag, hpos.symm, hput, hexist⟩
          · rw [setSwitchByProfile_of_not_put fun flag hput => hany ⟨flag, hput⟩]
            rfl
      have hfilter : ∀ flag : SwitchFlag, flag.pos = i →
          newPutsOf c flag (rest ++ [p]) = newPutsOf c flag rest := by
        intro flag hpos
        have hnot : ¬(IsSwitchPut p.profile flag ∧ ¬c.IsCharProfileExist p) :=
          fun h => hnew ⟨flag, hpos, h⟩
        simp only [newPutsOf, List.filter_append, List.filter_cons, hnot, decide_false,
          Bool.false_eq_true, if_false, List.filter_nil, List.append_nil]
      rw [hsame]
      rcases ih with ⟨hbit, hnil⟩ | ⟨flag, q, hpos, hlast, hbit⟩
      · exact .inl ⟨hbit, fun flag hpos => (hfilter flag hpos).trans (hnil flag hpos)⟩
      · exact .inr ⟨flag, q, hpos, (hfilter flag hpos).symm ▸ hlast, hbit⟩

/-! ## One call -/

/-- What a list of cached profiles leaves in agreement: for each switch its last state in the list
says what the bit says, and where there is none the old state does. -/
theorem switchAgrees_withProfiles {items : List (Flagged CharacteristicProfile)}
    (hvalid : ∀ p ∈ items, IsCharProfileValid localUdid p.profile) {w : BitVec 32}
    (hlast : ∀ x ∈ SWITCH_SERVICE_MAP, ∀ p, (statusOf x.1 items).getLast? = some p →
      (p.profile.characteristicValue = SWITCH_ON ↔ w.getLsbD x.2.pos = true))
    (hnone : ∀ x ∈ SWITCH_SERVICE_MAP, statusOf x.1 items = [] →
      AgreesAt localUdid { c with curLocalSwitch := w } x) :
    SwitchAgrees localUdid
      { c with charProfileMap := withProfiles items c.charProfileMap, curLocalSwitch := w } := by
  intro x hx p hp
  change (withProfiles items c.charProfileMap)[switchKey localUdid x.1]? = some p at hp
  rw [getElem?_withProfiles hvalid hx] at hp
  cases hget : (statusOf x.1 items).getLast? with
  | some q =>
    rw [hget, Option.some_or] at hp
    exact Option.some.inj hp ▸ hlast x hx q hget
  | none =>
    rw [hget, Option.none_or] at hp
    exact hnone x hx (List.getLast?_eq_none_iff.mp hget) p hp

/-- An accepted put keeps the agreement if the cache has room for the profile. -/
theorem switchAgrees_put (hagree : SwitchAgrees localUdid c) {p : Flagged CharacteristicProfile}
    {flag : SwitchFlag} (h : IsPutAccepted localUdid c p flag)
    (hroom : c.charProfileMap.size ≤ MAX_CHAR_SIZE) :
    SwitchAgrees localUdid
      ((c.withSwitch flag (p.profile.characteristicValue = SWITCH_ON)).cacheCharProfile p) := by
  obtain ⟨hvalid, -, hput⟩ := h
  have hmem : (p.profile.serviceName, flag) ∈ SWITCH_SERVICE_MAP := mem_of_lookup hput.2.2
  have hname := ((isSwitchPut_iff hmem).mp hput).2.1
  rw [cacheCharProfile_eq (c := c.withSwitch flag _) (areCharKeysValid hvalid) hroom]
  have hitems : ∀ q ∈ [p], IsCharProfileValid localUdid q.profile := fun q hq =>
    List.mem_singleton.mp hq ▸ hvalid
  refine switchAgrees_withProfiles (c := c) hitems (fun x hx q hq => ?_) fun x hx hnil => ?_
  · have hqmem := List.mem_filter.mp (List.mem_of_getLast? hq)
    obtain rfl := List.mem_singleton.mp hqmem.1
    have hsame := (of_decide_eq_true hqmem.2).1
    have hflag : x.2 = flag := by
      have hlookup := lookup_of_mem x hx
      rw [← hsame] at hlookup
      exact Option.some.inj (hlookup.symm.trans (lookup_of_mem _ hmem))
    change _ ↔ (withBit c.curLocalSwitch flag.pos _).getLsbD x.2.pos = true
    rw [getLsbD_withBit _ flag.pos_lt, if_pos (congrArg SwitchFlag.pos hflag), decide_eq_true_eq]
  · have hother : p.profile.serviceName ≠ x.1 := by
      intro hsame
      have hpmem : p ∈ statusOf x.1 [p] :=
        List.mem_filter.mpr ⟨List.mem_cons_self, decide_eq_true ⟨hsame, hname⟩⟩
      rw [hnil] at hpmem
      cases hpmem
    intro q hq
    change _ ↔ (withBit c.curLocalSwitch flag.pos _).getLsbD x.2.pos = true
    rw [getLsbD_withBit _ flag.pos_lt, if_neg]
    · exact hagree x hx q hq
    · intro hpos
      exact hother (service_injective _ hmem x hx (SwitchFlag.pos_injective hpos).symm)

/-- The last state of a switch in a batch is on or off, and the last of its states that are not
cached already is the same. -/
def Settles (c : ProfileCache) (items : List (Flagged CharacteristicProfile))
    (x : Text × SwitchFlag) : Prop :=
  ∀ p, (statusOf x.1 items).getLast? = some p → IsSwitchPut p.profile x.2 ∧
    ∀ q, (newPutsOf c x.2 items).getLast? = some q →
      q.profile.characteristicValue = p.profile.characteristicValue

/-- The bit of a switch that a batch settles is what the last state in the batch says. -/
theorem getLsbD_of_settles (hagree : SwitchAgrees localUdid c)
    {items : List (Flagged CharacteristicProfile)}
    (hvalid : ∀ p ∈ items, IsCharProfileValid localUdid p.profile) {x : Text × SwitchFlag}
    (hx : x ∈ SWITCH_SERVICE_MAP) (hsettle : Settles c items x) {p : Flagged CharacteristicProfile}
    (hp : (statusOf x.1 items).getLast? = some p) :
    p.profile.characteristicValue = SWITCH_ON ↔
      (items.foldl (switchAfter c) c.curLocalSwitch).getLsbD x.2.pos = true := by
  obtain ⟨hput, hnew⟩ := hsettle p hp
  have hmem := List.mem_filter.mp (List.mem_of_getLast? hp)
  rcases getLsbD_foldl_switchAfter c items c.curLocalSwitch x.2.pos with
    ⟨hbit, hnil⟩ | ⟨flag, q, hpos, hlast, hbit⟩
  · -- no state in the batch is new, so the last one is cached already
    have hexist : c.IsCharProfileExist p := by
      by_contra hexist
      have hpnew : p ∈ newPutsOf c x.2 items :=
        List.mem_filter.mpr ⟨hmem.1, decide_eq_true ⟨hput, hexist⟩⟩
      rw [hnil x.2 rfl] at hpnew
      cases hpnew
    have hkey := (cacheKey_eq_switchKey_iff (hvalid p hmem.1) hx).mpr (of_decide_eq_true hmem.2)
    rw [hbit]
    exact hagree x hx p (hkey ▸ hexist.2)
  · rw [hbit, decide_eq_true_eq, hnew q (SwitchFlag.pos_injective hpos ▸ hlast)]

/-- A batch that has room and settles every switch keeps the agreement. -/
theorem switchAgrees_batch (hagree : SwitchAgrees localUdid c)
    {items : List (Flagged CharacteristicProfile)}
    (hvalid : ∀ p ∈ items, IsCharProfileValid localUdid p.profile)
    (hroom : HasRoom items c.charProfileMap)
    (hsettle : ∀ x ∈ SWITCH_SERVICE_MAP, Settles c items x) :
    SwitchAgrees localUdid (items.foldl ProfileCache.cacheCharProfile
      { c with curLocalSwitch := items.foldl (switchAfter c) c.curLocalSwitch }) := by
  have hkeys : AllKeysValid items := fun p hp => areCharKeysValid (hvalid p hp)
  let newSwitch := items.foldl (switchAfter c) c.curLocalSwitch
  rw [foldl_cacheCharProfile (c := { c with curLocalSwitch := newSwitch }) hkeys hroom]
  refine switchAgrees_withProfiles (c := c) hvalid (fun x hx p hp => ?_) fun x hx hnil p hp => ?_
  · exact getLsbD_of_settles hagree hvalid hx (hsettle x hx) hp
  · have hbit : (items.foldl (switchAfter c) c.curLocalSwitch).getLsbD x.2.pos =
        c.curLocalSwitch.getLsbD x.2.pos := by
      rcases getLsbD_foldl_switchAfter c items c.curLocalSwitch x.2.pos with
        ⟨hbit, -⟩ | ⟨flag, q, hpos, hlast, -⟩
      · exact hbit
      · obtain ⟨hqmem, hq⟩ := List.mem_filter.mp (List.mem_of_getLast? hlast)
        rw [SwitchFlag.pos_injective hpos] at hq
        obtain ⟨hname, hkey, -⟩ := (isSwitchPut_iff hx).mp (of_decide_eq_true hq).1
        have hstatus : q ∈ statusOf x.1 items :=
          List.mem_filter.mpr ⟨hqmem, decide_eq_true ⟨hname, hkey⟩⟩
        rw [hnil] at hstatus
        cases hstatus
    change _ ↔ (items.foldl (switchAfter c) c.curLocalSwitch).getLsbD x.2.pos = true
    rw [hbit]
    exact hagree x hx p hp

end DeviceProfile
