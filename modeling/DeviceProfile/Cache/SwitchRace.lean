import DeviceProfile.Cache.SwitchRun

/-!
# Puts beside notifications

Puts of switches run one at a time, under a lock. The threads that handle the notifications of
the switch store and the refreshes replace the cached word without the lock, by a word that the
store may no longer hold. A put rebuilds the whole word from the cached one.
-/

namespace DeviceProfile

open Library Std

variable {localUdid localNetwork : Text}

/-! ## The steps -/

/-- Where a put stands that holds the lock. -/
inductive PutPhase where
  | test (charProfile : Flagged CharacteristicProfile)
  | readWord (charProfile : Flagged CharacteristicProfile)
  | readBatch (charProfiles : List (Flagged CharacteristicProfile))
  | testItems (charProfiles rest : List (Flagged CharacteristicProfile)) (newSwitch : BitVec 32)
  | replace (charProfiles : List (Flagged CharacteristicProfile)) (newSwitch : BitVec 32)
  | setWord (charProfiles : List (Flagged CharacteristicProfile)) (newSwitch : BitVec 32)
  | cache (charProfiles rest : List (Flagged CharacteristicProfile))
  deriving DecidableEq, Repr

/-- Where a thread without the lock stands: at a bit of a notified word, before it sets the
notified word, before or after it has read the word of the store for a refresh. -/
inductive ThreadPhase where
  | notify (bits : List Nat) (switchValue : BitVec 32)
  | setNotified (bits : List Nat) (switchValue : BitVec 32)
  | getSwitch (answered : Bool)
  | refreshBits (bits : List Nat) (newSwitch : BitVec 32)
  | setRefreshed (newSwitch : BitVec 32)
  deriving DecidableEq, Repr

/-- The switch store, the cache, the put that holds the lock, the words that are still to be
notified, the other threads, and the profiles of the puts that have returned success. -/
structure SwitchWorld where
  stored : BitVec 32 := 0
  cache : ProfileCache := {}
  put : Option PutPhase := none
  notices : List (BitVec 32) := []
  threads : List ThreadPhase := []
  succeeded : List (Flagged CharacteristicProfile) := []

/-- A client takes the lock, a thread starts, or one of them takes its next step. -/
inductive SwitchRaceEvent where
  | putSwitch (charProfile : Flagged CharacteristicProfile)
  | putSwitchBatch (charProfiles : List (Flagged CharacteristicProfile))
  | advance
  | onSwitchChange (n : Nat)
  | refresh (answered : Bool)
  | runThread (n : Nat)
  deriving DecidableEq, Repr

/-- The next step of the put that holds the lock. -/
def lockedStep (localUdid : Text) (w : SwitchWorld) : PutPhase → SwitchWorld
  | .test p =>
    if ¬IsCharProfileValid localUdid p.profile then { w with put := none }
    else if w.cache.IsCharProfileExist p then { w with put := none }
    else { w with put := some (.readWord p) }
  | .readWord p =>
    match setSwitchByProfile p.profile w.cache.curLocalSwitch with
    | .error _ => { w with put := none }
    | .ok newSwitch => { w with put := some (.replace [p] newSwitch) }
  | .readBatch items =>
    if items = [] ∨ MAX_CHAR_SIZE < items.length then { w with put := none }
    else { w with put := some (.testItems items items w.cache.curLocalSwitch) }
  | .testItems items [] newSwitch => { w with put := some (.replace items newSwitch) }
  | .testItems items (p :: rest) newSwitch =>
    match setSwitchOfItem localUdid w.cache newSwitch p with
    | .error _ => { w with put := none }
    | .ok outSwitch => { w with put := some (.testItems items rest outSwitch) }
  | .replace items newSwitch => { w with
      stored := newSwitch
      notices := if newSwitch = w.stored then w.notices else w.notices ++ [newSwitch]
      put := some (.setWord items newSwitch) }
  | .setWord items newSwitch => { w with
      cache := { w.cache with curLocalSwitch := newSwitch }
      put := some (.cache items items) }
  | .cache items (p :: rest) => { w with
      cache := w.cache.cacheCharProfile p
      put := some (.cache items rest) }
  | .cache items [] => { w with put := none, succeeded := w.succeeded ++ items }

/-- The profile of a notified bit is cached, unless it is cached already. -/
def generateSwitchNotify (c : ProfileCache) (p : Flagged CharacteristicProfile) :
    ProfileCache :=
  if c.IsCharProfileExist p then c else c.cacheCharProfile p

/-- The next step of a thread without the lock, if it has one. -/
def threadStep (localUdid : Text) (w : SwitchWorld) :
    ThreadPhase → SwitchWorld × Option ThreadPhase
  | .notify [] _ => (w, none)
  | .notify (i :: bits) switchValue =>
    match refreshedProfile localUdid switchValue i with
    | none => (w, none)
    | some p =>
      if ¬IsKeyValid localUdid then (w, none)
      else ({ w with cache := generateSwitchNotify w.cache p },
        some (.setNotified bits switchValue))
  | .setNotified bits switchValue =>
    ({ w with cache := { w.cache with curLocalSwitch := switchValue } },
      some (.notify bits switchValue))
  | .getSwitch answered =>
    if answered then (w, some (.refreshBits (List.range SWITCH_FLAG_MAX) w.stored)) else (w, none)
  | .refreshBits [] newSwitch => (w, some (.setRefreshed newSwitch))
  | .refreshBits (i :: bits) newSwitch =>
    match refreshedProfile localUdid newSwitch i with
    | none => (w, some (.refreshBits bits newSwitch))
    | some p =>
      ({ w with cache := w.cache.cacheCharProfile p }, some (.refreshBits bits newSwitch))
  | .setRefreshed newSwitch =>
    ({ w with cache := { w.cache with curLocalSwitch := newSwitch } }, none)

/-- One event: a put of switches starts unless one is under way, moves on by one locked step, or a
notice of the switch store is handled. -/
def switchRaceStep (localUdid localNetwork : Text) (w : SwitchWorld) : SwitchRaceEvent → SwitchWorld
  | .putSwitch p => if w.put.isSome then w else { w with put := some (.test p) }
  | .putSwitchBatch items => if w.put.isSome then w else { w with put := some (.readBatch items) }
  | .advance =>
    match w.put with
    | some phase => lockedStep localUdid w phase
    | none => w
  | .onSwitchChange n =>
    match w.notices[n]? with
    | some switchValue => { w with
        notices := w.notices.eraseIdx n
        threads := w.threads ++ [.notify (List.range SWITCH_FLAG_MAX) switchValue] }
    | none => w
  | .refresh answered =>
    if localNetwork = [] ∨ localUdid = [] then w
    else { w with threads := w.threads ++ [.getSwitch answered] }
  | .runThread n =>
    match w.threads[n]? with
    | none => w
    | some phase =>
      let (w', next) := threadStep localUdid w phase
      match next with
      | some next => { w' with threads := w'.threads.set n next }
      | none => { w' with threads := w'.threads.eraseIdx n }

/-! ## What the store shows -/

/-- The bit of a service in a word has the value of a profile. -/
def Shows (w : BitVec 32) (x : Text × SwitchFlag) (p : Flagged CharacteristicProfile) : Prop :=
  numeral ((w >>> x.2.pos) &&& 1#32).toNat = p.profile.characteristicValue

instance (w : BitVec 32) (x : Text × SwitchFlag) (p : Flagged CharacteristicProfile) :
    Decidable (Shows w x p) :=
  inferInstanceAs (Decidable (_ = _))

/-- The word shows for each service the last of its states in a list. -/
def ShowsLast (w : BitVec 32) (items : List (Flagged CharacteristicProfile)) : Prop :=
  ∀ x ∈ SWITCH_SERVICE_MAP, ∀ p, (statusOf x.1 items).getLast? = some p → Shows w x p

/-- A word has the bit of a service that another word has. -/
def SameBit (w w' : BitVec 32) (x : Text × SwitchFlag) : Prop :=
  w.getLsbD x.2.pos = w'.getLsbD x.2.pos

instance (w w' : BitVec 32) (x : Text × SwitchFlag) : Decidable (SameBit w w' x) :=
  inferInstanceAs (Decidable (_ = _))

/-- The profiles for which the word of the store is replaced next. -/
def SwitchWorld.replacing (w : SwitchWorld) : List (Flagged CharacteristicProfile) :=
  match w.put with
  | some (.replace items _) => items
  | _ => []

/-- The profiles for which the word is replaced by a put that has not returned. -/
def SwitchWorld.replaced (w : SwitchWorld) : List (Flagged CharacteristicProfile) :=
  match w.put with
  | some (.setWord items _) => items
  | some (.cache items _) => items
  | _ => []

/-- Where no put for a service is about to return, its bit has the value of the last put for it
that has returned success. -/
def BitsFollowPuts (w : SwitchWorld) : Prop :=
  ∀ x ∈ SWITCH_SERVICE_MAP, statusOf x.1 w.replaced = [] →
    ∀ p, (statusOf x.1 w.succeeded).getLast? = some p → Shows w.stored x p

/-- The next event does not change the bits of services that the put does not name. -/
def KeepsOtherBits (localUdid localNetwork : Text) (w : SwitchWorld) : Prop :=
  ∀ event, ∀ x ∈ SWITCH_SERVICE_MAP, statusOf x.1 w.replacing = [] →
    SameBit (switchRaceStep localUdid localNetwork w event).stored w.stored x

/-! ## Fresh reads -/

/-- The word is not stale for the services that a put does not name. -/
def IsFreshFor (items : List (Flagged CharacteristicProfile)) (w : SwitchWorld) : Prop :=
  ∀ x ∈ SWITCH_SERVICE_MAP, statusOf x.1 items = [] →
    SameBit w.cache.curLocalSwitch w.stored x

/-- The last state of a service in a batch is on or off, and it is only passed over as cached when
the word of the batch has its value. -/
def IsSettledBy (newSwitch : BitVec 32) (c : ProfileCache) (p : Flagged CharacteristicProfile)
    (rest : List (Flagged CharacteristicProfile)) : Prop :=
  ∀ x ∈ SWITCH_SERVICE_MAP, statusOf x.1 [p] ≠ [] → statusOf x.1 rest = [] →
    IsSwitchPut p.profile x.2 ∧ (c.IsCharProfileExist p → Shows newSwitch x p)

/-- A put that will not be refused reads a word and profiles that are not stale. -/
def IsFreshPhase (localUdid : Text) (w : SwitchWorld) : PutPhase → Prop
  | .readWord p =>
    (∃ x ∈ SWITCH_SERVICE_MAP, IsSwitchPut p.profile x.2) → IsFreshFor [p] w
  | .readBatch items => IsBatchAccepted localUdid items → IsFreshFor items w
  | .testItems items (p :: rest) newSwitch =>
    IsBatchAccepted localUdid items → IsSettledBy newSwitch w.cache p rest
  | _ => True

/-- Where the put that holds the lock takes a step, it reads nothing stale. -/
def IsFreshStep (localUdid : Text) (w : SwitchWorld) (event : SwitchRaceEvent) : Prop :=
  event = .advance → ∀ phase ∈ w.put, IsFreshPhase localUdid w phase

instance (items : List (Flagged CharacteristicProfile)) (w : SwitchWorld) :
    Decidable (IsFreshFor items w) :=
  inferInstanceAs (Decidable (∀ x ∈ SWITCH_SERVICE_MAP, _))

instance (newSwitch : BitVec 32) (c : ProfileCache) (p : Flagged CharacteristicProfile)
    (rest : List (Flagged CharacteristicProfile)) : Decidable (IsSettledBy newSwitch c p rest) :=
  inferInstanceAs (Decidable (∀ x ∈ SWITCH_SERVICE_MAP, _))

instance (localUdid : Text) (items : List (Flagged CharacteristicProfile)) :
    Decidable (IsBatchAccepted localUdid items) :=
  inferInstanceAs (Decidable (_ ∧ _))

instance (localUdid : Text) (w : SwitchWorld) :
    ∀ phase, Decidable (IsFreshPhase localUdid w phase)
  | .readWord _ => inferInstanceAs (Decidable (_ → _))
  | .readBatch _ => inferInstanceAs (Decidable (_ → _))
  | .testItems _ (_ :: _) _ => inferInstanceAs (Decidable (_ → _))
  | .testItems _ [] _ => isTrue trivial
  | .test _ => isTrue trivial
  | .replace _ _ => isTrue trivial
  | .setWord _ _ => isTrue trivial
  | .cache _ _ => isTrue trivial

instance (localUdid : Text) (w : SwitchWorld) (event : SwitchRaceEvent) :
    Decidable (IsFreshStep localUdid w event) :=
  inferInstanceAs (Decidable (_ → ∀ phase ∈ w.put, _))

/-! ## Bits and values -/

/-- Two words with the same bit of a service show the same switch. -/
theorem Shows.of_sameBit {w w' : BitVec 32} {x : Text × SwitchFlag}
    {p : Flagged CharacteristicProfile} (h : Shows w' x p) (hsame : SameBit w w' x) :
    Shows w x p := by
  rw [Shows, numeral_bit] at h ⊢
  rw [hsame]
  exact h

/-- A written bit has the value of the profile it was written for. -/
theorem shows_withBit {x : Text × SwitchFlag} {p : Flagged CharacteristicProfile}
    (hput : IsSwitchPut p.profile x.2) (w : BitVec 32) :
    Shows (withBit w x.2.pos (p.profile.characteristicValue = SWITCH_ON)) x p := by
  rw [Shows, numeral_bit, getLsbD_withBit w x.2.pos_lt, if_pos rfl]
  have hdiff : SWITCH_OFF ≠ SWITCH_ON := by decide
  rcases hput.2.1 with hoff | hon
  · simp [hoff, hdiff]
  · simp [hon]

/-- The bits of other services stay. -/
theorem sameBit_withBit {x : Text × SwitchFlag} {flag : SwitchFlag} (hne : x.2 ≠ flag)
    (w : BitVec 32) (on : Bool) : SameBit (withBit w flag.pos on) w x := by
  rw [SameBit, getLsbD_withBit w flag.pos_lt, if_neg]
  exact fun hpos => hne (SwitchFlag.pos_injective hpos)

theorem statusOf_append (serviceName : Text)
    (items rest : List (Flagged CharacteristicProfile)) :
    statusOf serviceName (items ++ rest) =
      statusOf serviceName items ++ statusOf serviceName rest :=
  List.filter_append ..

/-- A profile that turns a switch is a state of the service of the switch, and of no other. -/
theorem statusOf_singleton_eq_nil_iff {p : Flagged CharacteristicProfile}
    {x : Text × SwitchFlag} (hx : x ∈ SWITCH_SERVICE_MAP) {flag : SwitchFlag}
    (hput : IsSwitchPut p.profile flag) : statusOf x.1 [p] = [] ↔ x.2 ≠ flag := by
  have hmem : (p.profile.serviceName, flag) ∈ SWITCH_SERVICE_MAP := mem_of_lookup hput.2.2
  have hname : p.profile.serviceName = x.1 ↔ x.2 = flag := by
    constructor
    · intro hsame
      have hlookup := lookup_of_mem x hx
      rw [← hsame] at hlookup
      exact Option.some.inj (hlookup.symm.trans hput.2.2)
    · intro hflag
      exact service_injective _ hmem x hx hflag.symm
  simp [statusOf, hname, hput.1]

/-- The word after a profile that turns a switch: its bit has the value of the profile. -/
theorem setSwitchByProfile_ok {p : Flagged CharacteristicProfile} {w newSwitch : BitVec 32}
    (h : setSwitchByProfile p.profile w = .ok newSwitch) :
    ∃ x ∈ SWITCH_SERVICE_MAP, IsSwitchPut p.profile x.2 ∧
      newSwitch = withBit w x.2.pos (p.profile.characteristicValue = SWITCH_ON) := by
  by_cases hput : ∃ flag, IsSwitchPut p.profile flag
  · obtain ⟨flag, hput⟩ := hput
    rw [setSwitchByProfile_of_put hput] at h
    exact ⟨_, mem_of_lookup hput.2.2, hput, (Except.ok.inj h).symm⟩
  · rw [setSwitchByProfile_of_not_put fun flag hflag => hput ⟨flag, hflag⟩] at h
    cases h

/-! ## The word of a put -/

/-- For the services whose states have all been passed, the word of a put has the value of the
last one, and the bit of the store where there is none. -/
def Builds (newSwitch stored : BitVec 32) (items rest : List (Flagged CharacteristicProfile)) :
    Prop :=
  ∀ x ∈ SWITCH_SERVICE_MAP, statusOf x.1 rest = [] →
    (statusOf x.1 items = [] → SameBit newSwitch stored x) ∧
      ∀ p, (statusOf x.1 items).getLast? = some p → Shows newSwitch x p

/-- The word of a single put. -/
theorem builds_of_single {p : Flagged CharacteristicProfile} {w newSwitch stored : BitVec 32}
    (h : setSwitchByProfile p.profile w = .ok newSwitch)
    (hfresh : ∀ x ∈ SWITCH_SERVICE_MAP, statusOf x.1 [p] = [] → SameBit w stored x) :
    Builds newSwitch stored [p] [] := by
  obtain ⟨y, hy, hput, rfl⟩ := setSwitchByProfile_ok h
  intro x hx _
  constructor
  · intro hnil
    have hne := (statusOf_singleton_eq_nil_iff hx hput).mp hnil
    exact (sameBit_withBit hne w _).trans (hfresh x hx hnil)
  · intro q hlast
    have hmem := List.mem_filter.mp (List.mem_of_getLast? hlast)
    obtain rfl := List.mem_singleton.mp hmem.1
    have hflag : x.2 = y.2 := by
      by_contra hne
      rw [(statusOf_singleton_eq_nil_iff hx hput).mpr hne] at hlast
      cases hlast
    have hshows := shows_withBit (x := x) (p := q) (hflag ▸ hput) w
    rwa [hflag] at hshows

/-- The word of a batch after one more of its profiles. -/
theorem Builds.testItem {c : ProfileCache} {p : Flagged CharacteristicProfile}
    {w newSwitch stored : BitVec 32} {tested rest : List (Flagged CharacteristicProfile)}
    (h : Builds w stored (tested ++ p :: rest) (p :: rest))
    (hset : setSwitchOfItem localUdid c w p = .ok newSwitch)
    (hsettled : IsSettledBy w c p rest) :
    Builds newSwitch stored (tested ++ p :: rest) rest := by
  -- what is not on or off, and what is cached, leaves the word as it is
  have hcases : newSwitch = w ∧ (∀ flag, IsSwitchPut p.profile flag → c.IsCharProfileExist p) ∨
      ∃ y ∈ SWITCH_SERVICE_MAP, IsSwitchPut p.profile y.2 ∧
        newSwitch = withBit w y.2.pos (p.profile.characteristicValue = SWITCH_ON) := by
    rw [setSwitchOfItem] at hset
    by_cases hvalid : IsCharProfileValid localUdid p.profile
    swap
    · rw [if_pos hvalid] at hset
      cases hset
    rw [if_neg (not_not.mpr hvalid)] at hset
    by_cases hexist : c.IsCharProfileExist p
    · rw [if_pos hexist] at hset
      exact .inl ⟨(Except.ok.inj hset).symm, fun _ _ => hexist⟩
    rw [if_neg hexist] at hset
    cases hword : setSwitchByProfile p.profile w with
    | ok outSwitch =>
      rw [hword] at hset
      obtain rfl : outSwitch = newSwitch := Except.ok.inj hset
      exact .inr (setSwitchByProfile_ok hword)
    | error e =>
      rw [hword] at hset
      refine .inl ⟨(Except.ok.inj hset).symm, fun flag hput => ?_⟩
      rw [setSwitchByProfile_of_put hput] at hword
      cases hword
  intro x hx hrest
  by_cases hstatus : statusOf x.1 [p] = []
  · -- a profile of another service
    have hpassed : statusOf x.1 (p :: rest) = [] := by
      rw [← List.singleton_append, statusOf_append, hstatus, hrest]
      rfl
    obtain ⟨hnone, hlast⟩ := h x hx hpassed
    have hsame : SameBit newSwitch w x := by
      rcases hcases with ⟨rfl, -⟩ | ⟨y, hy, hput, rfl⟩
      · rfl
      · exact sameBit_withBit ((statusOf_singleton_eq_nil_iff hx hput).mp hstatus) w _
    exact ⟨fun hnil => hsame.trans (hnone hnil), fun q hq => (hlast q hq).of_sameBit hsame⟩
  · -- the last state of the service
    obtain ⟨hput, hcached⟩ := hsettled x hx hstatus hrest
    have hsingle : statusOf x.1 [p] = [p] := by
      rw [statusOf, List.filter_singleton] at hstatus ⊢
      by_cases hkey : p.profile.serviceName = x.1 ∧ p.profile.characteristicKey = SWITCH_STATUS
      · simp [hkey]
      · simp [hkey] at hstatus
    have hlist : statusOf x.1 (tested ++ p :: rest) = statusOf x.1 tested ++ [p] := by
      rw [statusOf_append, ← List.singleton_append, statusOf_append, hsingle, hrest,
        List.append_nil]
    rw [hlist]
    refine ⟨fun hnil => absurd hnil (List.append_ne_nil_of_right_ne_nil _ (List.cons_ne_nil _ _)),
      fun q hq => ?_⟩
    rw [List.getLast?_concat] at hq
    obtain rfl := Option.some.inj hq
    rcases hcases with ⟨rfl, hexist⟩ | ⟨y, hy, hput', rfl⟩
    · exact hcached (hexist x.2 hput)
    · have hflag : x.2 = y.2 := Option.some.inj (hput.2.2.symm.trans hput'.2.2)
      have hshows := shows_withBit (x := x) (p := p) hput w
      rwa [hflag] at hshows

/-- With the word of a put the store shows the last states of all puts. -/
theorem Builds.showsLast {newSwitch stored : BitVec 32}
    {items succeeded : List (Flagged CharacteristicProfile)}
    (h : Builds newSwitch stored items []) (hshows : ShowsLast stored succeeded) :
    ShowsLast newSwitch (succeeded ++ items) := by
  intro x hx p hp
  obtain ⟨hnone, hlast⟩ := h x hx rfl
  rw [statusOf_append] at hp
  by_cases hnil : statusOf x.1 items = []
  · rw [hnil, List.append_nil] at hp
    exact (hshows x hx p hp).of_sameBit (hnone hnil)
  · rw [List.getLast?_append_of_ne_nil _ hnil] at hp
    exact hlast p hp

/-! ## Every step -/

/-- What a put has reached, seen from the word of the store and the puts that succeeded. -/
def PhaseHolds (localUdid : Text) (stored : BitVec 32)
    (succeeded : List (Flagged CharacteristicProfile)) : PutPhase → Prop
  | .testItems items rest newSwitch =>
    ShowsLast stored succeeded ∧ items ≠ [] ∧ items.length ≤ MAX_CHAR_SIZE ∧
      ∃ tested, items = tested ++ rest ∧
        (∀ p ∈ tested, IsCharProfileValid localUdid p.profile) ∧
          (IsBatchAccepted localUdid items → Builds newSwitch stored items rest)
  | .replace items newSwitch => ShowsLast stored succeeded ∧ Builds newSwitch stored items []
  | .setWord items _ => ShowsLast stored (succeeded ++ items)
  | .cache items _ => ShowsLast stored (succeeded ++ items)
  | _ => ShowsLast stored succeeded

/-- The store shows the last states of all puts that have replaced its word. -/
def SwitchWorld.Holds (localUdid : Text) (w : SwitchWorld) : Prop :=
  match w.put with
  | none => ShowsLast w.stored w.succeeded
  | some phase => PhaseHolds localUdid w.stored w.succeeded phase

/-- Only a valid profile sets a bit. -/
theorem setSwitchOfItem_ok {c : ProfileCache} {p : Flagged CharacteristicProfile}
    {w newSwitch : BitVec 32} (h : setSwitchOfItem localUdid c w p = .ok newSwitch) :
    IsCharProfileValid localUdid p.profile := by
  by_contra hvalid
  rw [setSwitchOfItem, if_pos hvalid] at h
  cases h

/-- A step of the put that holds the lock. -/
theorem holds_lockedStep {w : SwitchWorld} {phase : PutPhase} (hput : w.put = some phase)
    (h : PhaseHolds localUdid w.stored w.succeeded phase)
    (hfresh : IsFreshPhase localUdid w phase) :
    (lockedStep localUdid w phase).Holds localUdid := by
  cases phase with
  | test p =>
    rw [lockedStep]
    split
    · exact h
    · split <;> exact h
  | readWord p =>
    rw [lockedStep]
    split
    · exact h
    · rename_i newSwitch hset
      obtain ⟨x, hx, hturn, -⟩ := setSwitchByProfile_ok hset
      exact ⟨h, builds_of_single hset (hfresh ⟨x, hx, hturn⟩)⟩
  | readBatch items =>
    rw [lockedStep]
    split
    · exact h
    · rename_i hitems
      obtain ⟨hne, hlength⟩ := not_or.mp hitems
      refine ⟨h, hne, Nat.not_lt.mp hlength, [], rfl, List.forall_mem_nil _, fun haccepted => ?_⟩
      intro x hx hnil
      refine ⟨fun _ => hfresh haccepted x hx hnil, fun p hp => ?_⟩
      rw [hnil] at hp
      cases hp
  | testItems items rest newSwitch =>
    obtain ⟨hshows, hne, hlength, tested, hitems, hvalid, hbuilds⟩ := h
    cases rest with
    | nil =>
      rw [List.append_nil] at hitems
      exact ⟨hshows, hbuilds ⟨hne, hlength, hitems ▸ hvalid⟩⟩
    | cons p rest =>
      rw [lockedStep]
      split
      · exact hshows
      · rename_i outSwitch hset
        refine ⟨hshows, hne, hlength, tested ++ [p], ?_, ?_, fun haccepted => ?_⟩
        · rw [hitems, List.append_assoc, List.singleton_append]
        · intro q hq
          rcases List.mem_append.mp hq with hold | hnew
          · exact hvalid q hold
          · exact List.mem_singleton.mp hnew ▸ setSwitchOfItem_ok hset
        · have hsettled := hfresh haccepted
          have hbuilt := hbuilds haccepted
          subst hitems
          exact hbuilt.testItem hset hsettled
  | replace items newSwitch => exact h.2.showsLast h.1
  | setWord items newSwitch => exact h
  | cache items rest =>
    cases rest with
    | nil => exact h
    | cons p rest => exact h

/-- The threads without the lock leave the store and the puts alone. -/
theorem threadStep_frame (localUdid : Text) (w : SwitchWorld) (phase : ThreadPhase) :
    (threadStep localUdid w phase).1.stored = w.stored ∧
      (threadStep localUdid w phase).1.put = w.put ∧
        (threadStep localUdid w phase).1.succeeded = w.succeeded := by
  cases phase with
  | notify bits switchValue =>
    cases bits with
    | nil => exact ⟨rfl, rfl, rfl⟩
    | cons i bits =>
      rw [threadStep]
      split
      · exact ⟨rfl, rfl, rfl⟩
      · split <;> exact ⟨rfl, rfl, rfl⟩
  | setNotified bits switchValue => exact ⟨rfl, rfl, rfl⟩
  | getSwitch answered =>
    rw [threadStep]
    split <;> exact ⟨rfl, rfl, rfl⟩
  | refreshBits bits newSwitch =>
    cases bits with
    | nil => exact ⟨rfl, rfl, rfl⟩
    | cons i bits =>
      rw [threadStep]
      split <;> exact ⟨rfl, rfl, rfl⟩
  | setRefreshed newSwitch => exact ⟨rfl, rfl, rfl⟩

/-- A put that has just taken the lock. -/
def PutPhase.IsFirst : PutPhase → Prop
  | .test _ => True
  | .readBatch _ => True
  | _ => False

/-- The put that holds the lock takes a step, or a put takes the lock, or the store and the puts
stay as they are. -/
theorem switchRaceStep_cases (localUdid localNetwork : Text) (w : SwitchWorld)
    (event : SwitchRaceEvent) :
    (∃ phase, event = .advance ∧ w.put = some phase ∧
      switchRaceStep localUdid localNetwork w event = lockedStep localUdid w phase) ∨
    ((switchRaceStep localUdid localNetwork w event).stored = w.stored ∧
      (switchRaceStep localUdid localNetwork w event).succeeded = w.succeeded ∧
        ((switchRaceStep localUdid localNetwork w event).put = w.put ∨
          w.put = none ∧ ∃ phase, (switchRaceStep localUdid localNetwork w event).put = some phase ∧
            phase.IsFirst)) := by
  cases event with
  | putSwitch p =>
    rw [switchRaceStep]
    split
    · exact .inr ⟨rfl, rfl, .inl rfl⟩
    · rename_i hfree
      exact .inr ⟨rfl, rfl, .inr ⟨Option.not_isSome_iff_eq_none.mp hfree, _, rfl, trivial⟩⟩
  | putSwitchBatch items =>
    rw [switchRaceStep]
    split
    · exact .inr ⟨rfl, rfl, .inl rfl⟩
    · rename_i hfree
      exact .inr ⟨rfl, rfl, .inr ⟨Option.not_isSome_iff_eq_none.mp hfree, _, rfl, trivial⟩⟩
  | advance =>
    cases hput : w.put with
    | none =>
      have hsame : switchRaceStep localUdid localNetwork w .advance = w := by
        rw [switchRaceStep, hput]
      rw [hsame]
      exact .inr ⟨rfl, rfl, .inl hput⟩
    | some phase =>
      have hstep :
          switchRaceStep localUdid localNetwork w .advance = lockedStep localUdid w phase := by
        rw [switchRaceStep, hput]
      exact .inl ⟨phase, rfl, rfl, hstep⟩
  | onSwitchChange n =>
    rw [switchRaceStep]
    split <;> exact .inr ⟨rfl, rfl, .inl rfl⟩
  | refresh answered =>
    rw [switchRaceStep]
    split <;> exact .inr ⟨rfl, rfl, .inl rfl⟩
  | runThread n =>
    rw [switchRaceStep]
    split
    · exact .inr ⟨rfl, rfl, .inl rfl⟩
    · rename_i phase _
      obtain ⟨hstored, hput, hsucceeded⟩ := threadStep_frame localUdid w phase
      dsimp only
      split <;> exact .inr ⟨hstored, hsucceeded, .inl hput⟩

/-- Every step that reads nothing stale keeps what the store shows. -/
theorem holds_switchRaceStep {w : SwitchWorld} {event : SwitchRaceEvent} (h : w.Holds localUdid)
    (hfresh : IsFreshStep localUdid w event) :
    (switchRaceStep localUdid localNetwork w event).Holds localUdid := by
  rcases switchRaceStep_cases localUdid localNetwork w event with
    ⟨phase, hadvance, hput, hstep⟩ | ⟨hstored, hsucceeded, hput | ⟨hfree, phase, hput, hfirst⟩⟩
  · rw [SwitchWorld.Holds, hput] at h
    rw [hstep]
    exact holds_lockedStep hput h (hfresh hadvance phase hput)
  · rw [SwitchWorld.Holds, hstored, hsucceeded, hput]
    exact h
  · rw [SwitchWorld.Holds, hfree] at h
    rw [SwitchWorld.Holds, hstored, hsucceeded, hput]
    cases phase with
    | test p => exact h
    | readBatch items => exact h
    | readWord | testItems | replace | setWord | cache => exact hfirst.elim

/-- The word of the store is only replaced by a put that stands before this step. -/
theorem stored_lockedStep {w : SwitchWorld} {phase : PutPhase}
    (hphase : ∀ items newSwitch, phase ≠ .replace items newSwitch) :
    (lockedStep localUdid w phase).stored = w.stored := by
  cases phase with
  | test p =>
    rw [lockedStep]
    split
    · rfl
    · split <;> rfl
  | readWord p =>
    rw [lockedStep]
    split <;> rfl
  | readBatch items =>
    rw [lockedStep]
    split <;> rfl
  | testItems items rest newSwitch =>
    cases rest with
    | nil => rfl
    | cons p rest =>
      rw [lockedStep]
      split <;> rfl
  | replace items newSwitch => exact absurd rfl (hphase items newSwitch)
  | setWord items newSwitch => rfl
  | cache items rest => cases rest <;> rfl

/-- What the store shows keeps the bits that the next put does not name. -/
theorem keepsOtherBits_of_holds {w : SwitchWorld} (h : w.Holds localUdid) :
    KeepsOtherBits localUdid localNetwork w := by
  intro event x hx hother
  rcases switchRaceStep_cases localUdid localNetwork w event with
    ⟨phase, -, hput, hstep⟩ | ⟨hstored, -⟩
  · rw [hstep]
    by_cases hphase : ∃ items newSwitch, phase = .replace items newSwitch
    · obtain ⟨items, newSwitch, rfl⟩ := hphase
      rw [SwitchWorld.Holds, hput] at h
      rw [SwitchWorld.replacing, hput] at hother
      exact (h.2 x hx rfl).1 hother
    · rw [SameBit, stored_lockedStep fun items newSwitch heq => hphase ⟨items, newSwitch, heq⟩]
  · rw [SameBit, hstored]

/-- What the store shows has the values of the last puts that have returned success. -/
theorem bitsFollowPuts_of_holds {w : SwitchWorld} (h : w.Holds localUdid) : BitsFollowPuts w := by
  intro x hx hreplaced p hp
  have hreplacing : ∀ items : List (Flagged CharacteristicProfile), w.replaced = items →
      ShowsLast w.stored (w.succeeded ++ items) → Shows w.stored x p := by
    intro items hitems hshows
    refine hshows x hx p ?_
    rw [statusOf_append, ← hitems, hreplaced, List.append_nil]
    exact hp
  cases hput : w.put with
  | none =>
    rw [SwitchWorld.Holds, hput] at h
    exact h x hx p hp
  | some phase =>
    rw [SwitchWorld.Holds, hput] at h
    cases phase with
    | test q => exact h x hx p hp
    | readWord q => exact h x hx p hp
    | readBatch items => exact h x hx p hp
    | testItems items rest newSwitch => exact h.1 x hx p hp
    | replace items newSwitch => exact h.1 x hx p hp
    | setWord items newSwitch =>
      exact hreplacing items (by rw [SwitchWorld.replaced, hput]) h
    | cache items rest =>
      exact hreplacing items (by rw [SwitchWorld.replaced, hput]) h

/-- In a run whose puts read nothing stale, in every state the bit of each service has the value
of the last put for it that succeeded, and no put changes the bits of other services. -/
theorem switch_bits_follow_puts {w : SwitchWorld} {events : List SwitchRaceEvent}
    (hfree : w.put = none) (hnone : w.succeeded = [])
    (hfresh : Admits (switchRaceStep localUdid localNetwork) (IsFreshStep localUdid) w events)
    (n : Nat) :
    BitsFollowPuts ((events.take n).foldl (switchRaceStep localUdid localNetwork) w) ∧
      KeepsOtherBits localUdid localNetwork
        ((events.take n).foldl (switchRaceStep localUdid localNetwork) w) := by
  have hstart : w.Holds localUdid := by
    rw [SwitchWorld.Holds, hfree, hnone]
    intro x _ p hp
    cases hp
  have hrun : ((events.take n).foldl (switchRaceStep localUdid localNetwork) w).Holds localUdid :=
    foldl_invariant (fun _ _ h hstep => holds_switchRaceStep h hstep) hstart (hfresh.take n)
  exact ⟨bitsFollowPuts_of_holds hrun, keepsOtherBits_of_holds hrun⟩

/-- A switch that is turned on. -/
def switchedOn (serviceName : Text) : Flagged CharacteristicProfile :=
  { profile := {
      deviceId := ("udid" : Text)
      serviceName
      characteristicKey := SWITCH_STATUS
      characteristicValue := SWITCH_ON } }

/-- A single put with all of its steps. -/
def putSteps (serviceName : Text) : List SwitchRaceEvent :=
  .putSwitch (switchedOn serviceName) :: List.replicate 6 .advance

/-- The first put is notified before the second put begins. -/
def promptNotice : List SwitchRaceEvent :=
  putSteps ("SwitchStatus_Key_Mouse_Edge_Crossing" : Text) ++
    [.onSwitchChange 0, .runThread 0, .runThread 0] ++
      putSteps ("SwitchStatus_Key_Distributed_Pasteboard" : Text)

/-- The first put is notified after the second put, and a third put follows. -/
def lateNotice : List SwitchRaceEvent :=
  putSteps ("SwitchStatus_Key_Mouse_Edge_Crossing" : Text) ++
    putSteps ("SwitchStatus_Key_Distributed_Pasteboard" : Text) ++
      [.onSwitchChange 0, .runThread 0, .runThread 0] ++
        putSteps ("SwitchStatus_DcShareSwitch" : Text)

/-- Notices that come at once let the bits follow the puts. -/
theorem switch_bits_follow_puts_prompt :
    BitsFollowPuts
        ((promptNotice.take 17).foldl (switchRaceStep ("udid" : Text) ("net" : Text)) {}) ∧
      KeepsOtherBits ("udid" : Text) ("net" : Text)
        ((promptNotice.take 17).foldl (switchRaceStep ("udid" : Text) ("net" : Text)) {}) :=
  switch_bits_follow_puts rfl rfl (by decide +kernel) 17

/-- The third put starts from the word of the late notice and turns the second switch off. -/
theorem not_bitsFollowPuts_of_late_notice :
    ¬BitsFollowPuts (lateNotice.foldl (switchRaceStep ("udid" : Text) ("net" : Text)) {}) := by
  intro h
  have hpasteboard := h (("SwitchStatus_Key_Distributed_Pasteboard" : Text),
    .keyDistributedPasteboard) (by decide) (by decide +kernel)
    (switchedOn ("SwitchStatus_Key_Distributed_Pasteboard" : Text)) (by decide +kernel)
  exact absurd hpasteboard (by decide +kernel)

end DeviceProfile
