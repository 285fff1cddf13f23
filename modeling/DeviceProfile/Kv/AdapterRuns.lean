import DeviceProfile.Kv.Adapter

/-!
# The adapter as a map

Under the keys that no other device writes, the calls of the adapter are calls of a map from keys
to values, whatever the database answers and whatever other devices write between any two of its
calls. An answered success tells what the call did, and a batch that could not be deleted as a
whole lost a start of it.
-/

namespace DeviceProfile

open Library Std

/-! ## The map -/

/-- What is stored under the keys of this device, and whether the store is open. -/
structure KvMap where
  values : Text → Option Text
  isOpen : Bool

/-- A request with the arguments that the caller passes in. -/
inductive KvRequest where
  | init
  | unInit
  | put (key value : Text)
  | putBatch (values : Entries)
  | delete (key : Text)
  | deleteBatch (keys : List Text)
  | deleteByPrefix (keyPrefix : Text)
  | get (key value : Text)
  | getByPrefix (keyPrefix : Text) (values : Entries)
  | getDeviceEntries (udid : Text) (values : Entries)
  | removeDeviceData (uuid : Text)
  | sync (deviceList : List Text) (syncMode : Int)

/-- A request, and what the database answers while it is served. -/
structure KvCall where
  request : KvRequest
  turn : KvTurn := {}

/-- What the caller gets. -/
inductive KvAnswer where
  | done (code : KvCode)
  | value (code : KvCode) (value : Text)
  | entries (code : KvCode) (values : Entries)

/-- The adapter serves a call. -/
def KvCall.run (device : Text) (call : KvCall) : KvProg KvAnswer :=
  match call.request with
  | .init => do return .done (← KvAdapter.init call.turn)
  | .unInit => do return .done (← KvAdapter.unInit)
  | .put key value => do return .done (← KvAdapter.put device call.turn key value)
  | .putBatch values => do return .done (← KvAdapter.putBatch device call.turn values)
  | .delete key => do return .done (← KvAdapter.delete call.turn key)
  | .deleteBatch keys => do return .done (← KvAdapter.deleteBatch call.turn keys)
  | .deleteByPrefix keyPrefix => do
    return .done (← KvAdapter.deleteByPrefix call.turn keyPrefix)
  | .get key value => do
    let r ← KvAdapter.get call.turn key value
    return .value r.1 r.2
  | .getByPrefix keyPrefix values => do
    let r ← KvAdapter.getByPrefix call.turn keyPrefix values
    return .entries r.1 r.2
  | .getDeviceEntries udid values => do
    let r ← KvAdapter.getDeviceEntries call.turn udid values
    return .entries r.1 r.2
  | .removeDeviceData uuid => do return .done (← KvAdapter.removeDeviceData call.turn uuid)
  | .sync deviceList syncMode => do
    return .done (← KvAdapter.sync call.turn deviceList syncMode)

namespace KvMap

/-- Writes values over those of a map. -/
def write (m : KvMap) (values : Text → Option Text) : KvMap :=
  { m with values := fun key => (values key).or (m.values key) }

/-- Removes keys from a map. -/
def remove (m : KvMap) (keys : Text → Bool) : KvMap :=
  { m with values := fun key => if keys key then none else m.values key }

/-- Keys that are removed one after the other are removed together. -/
theorem remove_append (m : KvMap) (keys keys' : List Text) :
    (m.remove (· ∈ keys)).remove (· ∈ keys') = m.remove (· ∈ keys ++ keys') := by
  simp only [remove, mk.injEq, and_true]
  funext key
  by_cases h : key ∈ keys <;> by_cases h' : key ∈ keys' <;> simp [h, h']

theorem remove_nil (m : KvMap) : m.remove (· ∈ ([] : List Text)) = m := rfl

end KvMap

/-- A try at which the store is deleted: none that came before it had succeeded. -/
def KvTurn.Rebuilds (turn : KvTurn) : Prop :=
  ∃ i < MAX_INIT_RETRY_TIMES, (turn.openings i).result.isBroken = true ∧
    (turn.openings i).deleted = true ∧
    ∀ j, i < j → j < MAX_INIT_RETRY_TIMES → (turn.openings j).result ≠ .success

/-- The answers of a request that failed and changed nothing. A failed batch of deletions and a
failed start are no such answers. -/
def KvRequest.IsRefused : KvRequest → KvAnswer → Prop
  | .init, _ => False
  | .unInit, _ => False
  | .deleteBatch _, .done code => code = .invalidParams ∨ code = .kvDbPtrNull
  | .get _ value, .value code value' => code ≠ .success ∧ value' = value
  | .getByPrefix _ values, .entries code values' => code ≠ .success ∧ values' = values
  | .getDeviceEntries _ values, .entries code values' => code ≠ .success ∧ values' = values
  | .put _ _, .done code => code ≠ .success
  | .putBatch _, .done code => code ≠ .success
  | .delete _, .done code => code ≠ .success
  | .deleteByPrefix _, .done code => code ≠ .success
  | .removeDeviceData _, .done code => code ≠ .success
  | .sync _ _, .done code => code ≠ .success
  | _, _ => False

/-- What a request and its answer make of the map. Of the keys that others write it tells
nothing. -/
inductive KvMap.Step (Mine : Text → Prop) (device : Text) :
    KvCall → KvAnswer → KvMap → KvMap → Prop where
  | refused {request : KvRequest} {turn : KvTurn} {answer : KvAnswer} (m : KvMap)
      (hrefused : request.IsRefused answer) : Step Mine device ⟨request, turn⟩ answer m m
  | opened {turn : KvTurn} {code : KvCode} (m m' : KvMap)
      (hcode : code = .success ∧ m'.isOpen = true ∨ code = .kvDbInitFail)
      (hvalues : m'.values = m.values ∨ turn.Rebuilds ∧ m'.values = fun _ => none) :
      Step Mine device ⟨.init, turn⟩ (.done code) m m'
  | closed {turn : KvTurn} (m : KvMap) :
      Step Mine device ⟨.unInit, turn⟩ (.done .success) m { m with isOpen := false }
  | put {turn : KvTurn} {key value : Text} {m : KvMap} (hopen : m.isOpen = true) :
      Step Mine device ⟨.put key value, turn⟩ (.done .success) m
        (m.write ([(key, value)].lookup ·))
  | putBatch {turn : KvTurn} {values : Entries} {m : KvMap} (hopen : m.isOpen = true) :
      Step Mine device ⟨.putBatch values, turn⟩ (.done .success) m (m.write (values[·]?))
  | delete {turn : KvTurn} {key : Text} {m : KvMap} (hopen : m.isOpen = true) :
      Step Mine device ⟨.delete key, turn⟩ (.done .success) m (m.remove (· = key))
  | deleteBatch {turn : KvTurn} {keys : List Text} {m : KvMap} (hopen : m.isOpen = true) :
      Step Mine device ⟨.deleteBatch keys, turn⟩ (.done .success) m (m.remove (· ∈ keys))
  | deleteSome {turn : KvTurn} {keys : List Text} {m : KvMap} (hopen : m.isOpen = true) (i : Nat)
      (hi : i * MAX_BATCH_SIZE < keys.length) :
      Step Mine device ⟨.deleteBatch keys, turn⟩ (.done .delKvDbFail) m
        (m.remove (· ∈ keys.take (i * MAX_BATCH_SIZE)))
  | deleteByPrefix {turn : KvTurn} {keyPrefix : Text} {m : KvMap} (hopen : m.isOpen = true) :
      Step Mine device ⟨.deleteByPrefix keyPrefix, turn⟩ (.done .success) m
        (m.remove (keyPrefix <+: ·))
  | get {turn : KvTurn} {key value found : Text} {m : KvMap} (hopen : m.isOpen = true)
      (hfound : Mine key → m.values key = some found) :
      Step Mine device ⟨.get key value, turn⟩ (.value .success found) m m
  | getByPrefix {turn : KvTurn} {keyPrefix : Text} {values found : Entries} {m : KvMap}
      (hopen : m.isOpen = true)
      (hfound : ∀ key, Mine key → found[key]? =
        (if keyPrefix <+: key then m.values key else none).or values[key]?) :
      Step Mine device ⟨.getByPrefix keyPrefix values, turn⟩ (.entries .success found) m m
  | getDeviceEntries {turn : KvTurn} {udid : Text} {values found : Entries} {m : KvMap}
      (hopen : m.isOpen = true)
      (hfound : ∀ key, Mine key → found[key]? =
        (if udid = device ∧ key ≠ [] then m.values key else none).or values[key]?) :
      Step Mine device ⟨.getDeviceEntries udid values, turn⟩ (.entries .success found) m m
  | removeDeviceData {turn : KvTurn} {uuid : Text} {m : KvMap} (hopen : m.isOpen = true) :
      Step Mine device ⟨.removeDeviceData uuid, turn⟩ (.done .success) m
        (m.remove fun _ => uuid = device)
  | sync {turn : KvTurn} {deviceList : List Text} {syncMode : Int} {m : KvMap}
      (hopen : m.isOpen = true) :
      Step Mine device ⟨.sync deviceList syncMode, turn⟩ (.done .success) m m

/-! ## What the map tells of the store -/

/-- Under the keys that only this device writes the store has the values of the map. -/
structure KvMap.IsStored (Mine : Text → Prop) (device : Text) (m : KvMap) (s : KvService) :
    Prop where
  pointer : s.kvStorePtr = m.isOpen
  cell : ∀ key, Mine key → s.store[key]? = (m.values key).map fun value => ⟨value, device⟩

/-- Other devices leave the keys of this one alone. -/
structure KvService.ChangesOthers (Mine : Text → Prop) (s s' : KvService) : Prop where
  pointer : s'.kvStorePtr = s.kvStorePtr
  cell : ∀ key, Mine key → s'.store[key]? = s.store[key]?

variable {Mine : Text → Prop} {device : Text} {m : KvMap} {s : KvService}

/-- Changes of others under other keys keep the own part of the store. -/
theorem KvMap.stable_isStored (m : KvMap) :
    Stable (KvService.ChangesOthers Mine) (m.IsStored Mine device) := by
  intro s s' hchange hs
  refine ⟨hchange.pointer.trans hs.pointer, fun key hkey => ?_⟩
  rw [hchange.cell key hkey, hs.cell key hkey]

/-- Under an own key the store holds what the map says. -/
theorem KvMap.IsStored.valueAt (hs : m.IsStored Mine device s) {key : Text} (hkey : Mine key) :
    s.store.valueAt key = m.values key := by
  rw [KvStore.valueAt, hs.cell key hkey]
  cases m.values key <;> rfl

/-- The store is changed under its own keys as the map is. -/
theorem KvMap.IsStored.change (hs : m.IsStored Mine device s) {store : KvStore}
    {values : Text → Option Text}
    (h : ∀ key, Mine key → store[key]? = (values key).map fun value => ⟨value, device⟩) :
    ({ m with values } : KvMap).IsStored Mine device { s with store } :=
  ⟨hs.pointer, h⟩

/-- Only the keys of this device count. -/
theorem KvMap.IsStored.congr {m' : KvMap} (hopen : m'.isOpen = m.isOpen)
    (hvalues : ∀ key, Mine key → m'.values key = m.values key) (s : KvService)
    (hs : m.IsStored Mine device s) : m'.IsStored Mine device s := by
  refine ⟨hs.pointer.trans hopen.symm, fun key hkey => ?_⟩
  rw [hs.cell key hkey, hvalues key hkey]

/-- A program of the adapter among the other devices. -/
abbrev KvProg.Leads {α : Type} (Mine : Text → Prop) (device : Text) (prog : KvProg α) (m : KvMap)
    (Q : α → KvMap → Prop) : Prop :=
  Prog.Simulates (KvService.ChangesOthers Mine) (KvMap.IsStored Mine device) prog m Q

/-! ## The database -/

/-- Entries with different keys are found behind what is stored already. -/
theorem getElem?_insertMany_map (store : KvStore) {entries : List (Text × Text)}
    (hdistinct : entries.Pairwise fun e e' => e.1 ≠ e'.1) (key : Text) :
    (store.insertMany (entries.map fun e => (e.1, (⟨e.2, device⟩ : Cell))))[key]? =
      ((entries.lookup key).map fun value => (⟨value, device⟩ : Cell)).or store[key]? := by
  cases hlookup : entries.lookup key with
  | none =>
    rw [ExtTreeMap.getElem?_insertMany_list_of_contains_eq_false]
    · rfl
    · have hnot : ∀ value, (key, value) ∉ entries := by
        intro value hmem
        have hne := List.lookup_eq_none_iff.mp hlookup _ hmem
        simp at hne
      simpa using hnot
  | some value =>
    obtain ⟨before, after, rfl, -⟩ := List.lookup_eq_some_iff.mp hlookup
    refine ExtTreeMap.getElem?_insertMany_list_of_mem compare_self ?_ ?_
    · rw [List.pairwise_map]
      exact hdistinct.imp fun hne => mt Std.compare_eq_iff_eq.mp hne
    · exact List.mem_map_of_mem (List.mem_append_right _ List.mem_cons_self)

namespace KvService

theorem leads_hasStore :
    KvProg.Leads Mine device hasStore m fun found m' => found = m.isOpen ∧ m' = m :=
  Prog.simulates_act KvMap.stable_isStored fun _ hs => ⟨m, ⟨hs.pointer, rfl⟩, hs⟩

/-- A value that is read is the one in the map. -/
theorem leads_getValue (status : KvStatus) (key : Text) :
    KvProg.Leads Mine device (getValue status key) m fun found m' =>
      m' = m ∧ ∀ value, found = some value → Mine key → m.values key = some value := by
  refine Prog.simulates_act KvMap.stable_isStored fun s hs => ⟨m, ⟨rfl, ?_⟩, hs⟩
  intro value hvalue hkey
  by_cases hstatus : status = .success
  · rw [← hs.valueAt hkey]
    simpa [hstatus] using hvalue
  · simp [hstatus] at hvalue

/-- A batch of distinct keys is a write of its entries, if it succeeds. -/
theorem leads_putEntries (status : KvStatus) (entries : List (Text × Text))
    (hdistinct : entries.Pairwise fun e e' => e.1 ≠ e'.1) :
    KvProg.Leads Mine device (putEntries device status entries) m fun answer m' =>
      answer = status ∧ m' = if status = .success then m.write (entries.lookup ·) else m := by
  refine Prog.simulates_act KvMap.stable_isStored fun s hs => ?_
  by_cases hstatus : status = .success
  · simp only [hstatus, if_true]
    refine ⟨_, ⟨trivial, rfl⟩, hs.change fun key hkey => ?_⟩
    rw [getElem?_insertMany_map _ hdistinct, hs.cell key hkey]
    exact Option.map_or.symm
  · simp only [hstatus, if_false]
    exact ⟨m, ⟨trivial, rfl⟩, hs⟩

/-- A batch of deletions removes its keys, if it succeeds. -/
theorem leads_deleteKeys (status : KvStatus) (keys : List Text) :
    KvProg.Leads Mine device (deleteKeys status keys) m fun answer m' =>
      answer = status ∧ m' = if status = .success then m.remove (· ∈ keys) else m := by
  refine Prog.simulates_act KvMap.stable_isStored fun s hs => ?_
  by_cases hstatus : status = .success
  · simp only [hstatus, if_true]
    refine ⟨_, ⟨trivial, rfl⟩, hs.change fun key hkey => ?_⟩
    rw [getElem?_foldl_erase, hs.cell key hkey]
    by_cases hmem : key ∈ keys <;> simp [hmem]
  · simp only [hstatus, if_false]
    exact ⟨m, ⟨trivial, rfl⟩, hs⟩

/-- The entries under a prefix are those of the map. -/
theorem leads_getEntries (status : KvStatus) (keyPrefix : Text) :
    KvProg.Leads Mine device (getEntries status keyPrefix) m fun found m' =>
      m' = m ∧ ∀ entries, found = some entries → ∀ key, Mine key →
        entries[key]? = if keyPrefix <+: key then m.values key else none := by
  refine Prog.simulates_act KvMap.stable_isStored fun s hs => ⟨m, ⟨rfl, ?_⟩, hs⟩
  intro entries hentries key hkey
  by_cases hstatus : status = .success
  · simp only [hstatus, if_true, Option.some.injEq] at hentries
    rw [← hentries, KvStore.getElem?_getEntries, hs.valueAt hkey]
  · simp [hstatus] at hentries

/-- The entries of this device are those of the map. -/
theorem leads_getDeviceEntries (status : KvStatus) (uuid : Text) :
    KvProg.Leads Mine device (getDeviceEntries status uuid) m fun found m' =>
      m' = m ∧ ∀ entries, found = some entries → ∀ key, Mine key →
        entries[key]? = if uuid = device then m.values key else none := by
  refine Prog.simulates_act KvMap.stable_isStored fun s hs => ⟨m, ⟨rfl, ?_⟩, hs⟩
  intro entries hentries key hkey
  by_cases hstatus : status = .success
  · simp only [hstatus, if_true, Option.some.injEq] at hentries
    rw [← hentries, ExtTreeMap.getElem?_filterMap', hs.cell key hkey]
    cases m.values key with
    | none => simp
    | some value => simp [eq_comm]
  · simp [hstatus] at hentries

/-- Removing the data of this device empties the map, if it succeeds. -/
theorem leads_removeDeviceData (status : KvStatus) (uuid : Text) :
    KvProg.Leads Mine device (removeDeviceData status uuid) m fun answer m' =>
      answer = status ∧
        m' = if status = .success then m.remove fun _ => uuid = device else m := by
  refine Prog.simulates_act KvMap.stable_isStored fun s hs => ?_
  by_cases hstatus : status = .success
  · simp only [hstatus, if_true]
    refine ⟨_, ⟨trivial, rfl⟩, hs.change fun key hkey => ?_⟩
    rw [ExtTreeMap.getElem?_filter', hs.cell key hkey]
    cases m.values key with
    | none => simp
    | some value =>
      by_cases huuid : uuid = device <;> simp [Option.filter_some, huuid, eq_comm]
  · simp only [hstatus, if_false]
    exact ⟨m, ⟨trivial, rfl⟩, hs⟩

end KvService

/-! ## The adapter -/

namespace KvAdapter

open KvService

theorem leads_getKvStorePtr (opening : KvOpening) :
    KvProg.Leads Mine device (getKvStorePtr opening) m fun status m' =>
      status = opening.result ∧ m' = { m with isOpen := opening.kvStorePtr } :=
  Prog.simulates_act KvMap.stable_isStored fun _ hs => ⟨_, ⟨rfl, rfl⟩, ⟨rfl, hs.cell⟩⟩

/-- A deletion of the store empties the map, if it succeeds. -/
theorem leads_deleteKvStore (opening : KvOpening) :
    KvProg.Leads Mine device (deleteKvStore opening) m fun _ m' =>
      m' = if opening.deleted = true then { m with values := fun _ => none } else m := by
  refine Prog.simulates_act KvMap.stable_isStored fun s hs => ⟨_, rfl, ?_⟩
  cases opening.deleted with
  | false => exact hs
  | true => exact ⟨hs.pointer, fun _ _ => ExtTreeMap.getElem?_empty⟩

theorem KvOpening.kvStorePtr_of_result {opening : KvOpening} (h : opening.result = .success) :
    opening.kvStorePtr = true := by
  rw [KvOpening.result] at h
  by_contra hnone
  by_cases hstatus : opening.status = .success <;> simp_all

/-- What the tries that are left have made of the map. -/
structure IsInited (openings : Nat → KvOpening) (n : Nat) (m : KvMap) (code : KvCode)
    (m' : KvMap) : Prop where
  code : code = .success ∧ m'.isOpen = true ∨ code = .kvDbInitFail
  values : m'.values = m.values ∨ (∃ i < n, (openings i).result.isBroken = true ∧
    (openings i).deleted = true ∧ ∀ j, i < j → j < n → (openings j).result ≠ .success) ∧
      m'.values = fun _ => none

/-- A failed try before the others. -/
theorem IsInited.succ {openings : Nat → KvOpening} {n : Nat} {m₁ m' : KvMap} {code : KvCode}
    (h : IsInited openings n m₁ code m') (hfailed : (openings n).result ≠ .success)
    (hvalues : m₁.values = m.values ∨ ((openings n).result.isBroken = true ∧
      (openings n).deleted = true) ∧ m₁.values = fun _ => none) :
    IsInited openings (n + 1) m code m' := by
  refine ⟨h.code, ?_⟩
  rcases h.values with hsame | ⟨⟨i, hi, hbroken, hdeleted, hlater⟩, hnone⟩
  · rcases hvalues with hkept | ⟨⟨hbroken, hdeleted⟩, hnone⟩
    · exact Or.inl (hsame.trans hkept)
    · refine Or.inr ⟨⟨n, Nat.lt_succ_self n, hbroken, hdeleted, ?_⟩, hsame.trans hnone⟩
      intro j hj hjn
      omega
  · refine Or.inr ⟨⟨i, Nat.lt_succ_of_lt hi, hbroken, hdeleted, fun j hj hjn => ?_⟩, hnone⟩
    by_cases hlast : j = n
    · rw [hlast]
      exact hfailed
    · exact hlater j hj (by omega)

/-- The tries to open the store, one after another. -/
theorem leads_initTries (openings : Nat → KvOpening) (n : Nat) (m : KvMap) :
    KvProg.Leads Mine device (initTries openings n) m (IsInited openings n m) := by
  induction n generalizing m with
  | zero => exact Prog.simulates_ret ⟨Or.inr rfl, Or.inl rfl⟩
  | succ n ih =>
    refine Prog.simulates_bind (leads_getKvStorePtr _) fun status m₁ h => ?_
    obtain ⟨rfl, rfl⟩ := h
    by_cases hsuccess : (openings n).result = .success
    · rw [if_pos hsuccess]
      have hopen := KvOpening.kvStorePtr_of_result hsuccess
      exact Prog.simulates_ret ⟨Or.inl ⟨rfl, hopen⟩, Or.inl rfl⟩
    · rw [if_neg hsuccess]
      by_cases hbroken : (openings n).result.isBroken = true
      · rw [if_pos hbroken]
        refine Prog.simulates_bind (leads_deleteKvStore _) fun _ m₂ h => ?_
        refine (ih m₂).imp fun code m' hinited => hinited.succ hsuccess ?_
        rw [h]
        cases hdeleted : (openings n).deleted with
        | false => exact Or.inl rfl
        | true => exact Or.inr ⟨⟨hbroken, rfl⟩, rfl⟩
      · rw [if_neg hbroken]
        exact (ih _).imp fun code m' hinited => hinited.succ hsuccess (Or.inl rfl)

/-- Every method first looks for the store. -/
theorem leads_of_hasStore {α : Type} {prog : KvProg α} {Q : α → KvMap → Prop} {a : α}
    (hnone : m.isOpen = false → Q a m) (hsome : m.isOpen = true → prog.Leads Mine device m Q) :
    KvProg.Leads Mine device (do
      if !(← hasStore) then
        return a
      prog) m Q := by
  refine Prog.simulates_bind leads_hasStore fun found m' h => ?_
  obtain ⟨rfl, rfl⟩ := h
  cases hopen : m'.isOpen with
  | false => exact Prog.simulates_ret (hnone hopen)
  | true => exact hsome hopen

/-- A method that writes: it fails and changes nothing, or the map is changed. -/
def Writes (m : KvMap) (changed : KvMap) (code : KvCode) (m' : KvMap) : Prop :=
  code ≠ .success ∧ m' = m ∨ code = .success ∧ m.isOpen = true ∧ m' = changed

/-- A single write, whose code says whether it was made. -/
theorem writes_of_status {status : KvStatus} {fail : KvCode} (hfail : fail ≠ .success)
    {changed : KvMap} (hopen : m.isOpen = true) :
    Writes m changed (if status = .success then .success else fail)
      (if status = .success then changed else m) := by
  by_cases hstatus : status = .success
  · rw [if_pos hstatus, if_pos hstatus]
    exact Or.inr ⟨rfl, hopen, rfl⟩
  · rw [if_neg hstatus, if_neg hstatus]
    exact Or.inl ⟨hfail, rfl⟩

/-- A put writes one value. -/
theorem leads_put (turn : KvTurn) (key value : Text) :
    KvProg.Leads Mine device (put device turn key value) m
      (Writes m (m.write ([(key, value)].lookup ·))) := by
  rw [put]
  split
  · exact Prog.simulates_ret (Or.inl ⟨by decide, rfl⟩)
  refine leads_of_hasStore (fun _ => Or.inl ⟨by decide, rfl⟩) fun hopen => ?_
  refine Prog.simulates_bind (leads_getValue _ key) fun old m' h => ?_
  obtain ⟨rfl, hold⟩ := h
  split
  · rename_i hsame
    refine (Prog.simulates_ret (P := fun code m'' => code = .success ∧ m'' = m')
      ⟨rfl, rfl⟩).represented ?_
    rintro code _ ⟨rfl, rfl⟩
    refine ⟨_, Or.inr ⟨rfl, hopen, rfl⟩, KvMap.IsStored.congr rfl fun key' hkey' => ?_⟩
    by_cases hkey : key' = key
    · subst hkey
      simp [KvMap.write, hold value hsame hkey']
    · simp [KvMap.write, List.lookup_cons, beq_eq_false_iff_ne.mpr hkey]
  · refine Prog.simulates_bind
      (leads_putEntries _ [(key, value)] (List.pairwise_singleton _ _)) fun status m₁ h => ?_
    obtain ⟨rfl, rfl⟩ := h
    exact Prog.simulates_ret (writes_of_status (by decide) hopen)

/-- What a batch leaves out has its value already. -/
theorem leads_changedEntries (statuses : Nat → KvStatus) (l : List (Text × Text)) :
    KvProg.Leads Mine device (changedEntries statuses l) m fun entries m' =>
      m' = m ∧ entries.Sublist l ∧
        ∀ e ∈ l, e ∉ entries → Mine e.1 → m.values e.1 = some e.2 := by
  induction l generalizing statuses with
  | nil => exact Prog.simulates_ret ⟨rfl, List.Sublist.slnil, fun e he => by cases he⟩
  | cons first rest ih =>
    refine Prog.simulates_bind (leads_getValue _ first.1) fun old m' h => ?_
    obtain ⟨rfl, hold⟩ := h
    refine Prog.simulates_bind (ih _) fun entries m₁ h => ?_
    obtain ⟨rfl, hsub, hsame⟩ := h
    refine Prog.simulates_ret ⟨rfl, ?_⟩
    by_cases hfound : old = some first.2
    · rw [if_pos hfound]
      refine ⟨hsub.cons _, fun e he hnot hmine => ?_⟩
      rcases List.mem_cons.mp he with rfl | he
      · exact hold _ hfound hmine
      · exact hsame e he hnot hmine
    · rw [if_neg hfound]
      refine ⟨hsub.cons_cons _, fun e he hnot hmine => ?_⟩
      rcases List.mem_cons.mp he with rfl | he
      · exact absurd List.mem_cons_self hnot
      · exact hsame e he (fun hmem => hnot (List.mem_cons_of_mem _ hmem)) hmine

/-- Batches of deletions stop at the first that fails; those before it are made. -/
theorem leads_deleteBatches (statuses : Nat → KvStatus) (bs : List (List Text)) :
    KvProg.Leads Mine device (deleteBatches statuses bs) m fun code m' =>
      ∃ i, m' = m.remove (· ∈ (bs.take i).flatten) ∧
        (code = .success ∧ i = bs.length ∨ code = .delKvDbFail ∧ i < bs.length) := by
  induction bs generalizing m statuses with
  | nil => exact Prog.simulates_ret ⟨0, m.remove_nil.symm, Or.inl ⟨rfl, rfl⟩⟩
  | cons first rest ih =>
    refine Prog.simulates_bind (leads_deleteKeys _ first) fun status m₁ h => ?_
    obtain ⟨rfl, rfl⟩ := h
    by_cases hstatus : statuses 0 = .success
    · simp only [hstatus, ne_eq, not_true_eq_false, if_true, if_false]
      refine (ih _).imp fun code m' h => ?_
      obtain ⟨i, rfl, hcode⟩ := h
      refine ⟨i + 1, ?_, ?_⟩
      · rw [KvMap.remove_append, List.take_succ_cons, List.flatten_cons]
      · simpa using hcode
    · simp only [hstatus, ne_eq, not_false_eq_true, if_true, if_false]
      exact Prog.simulates_ret ⟨0, m.remove_nil.symm, Or.inr ⟨rfl, Nat.succ_pos _⟩⟩

/-- The entries of a map have distinct keys. -/
theorem distinct_of_sublist {values : Entries} {entries : List (Text × Text)}
    (hsub : entries.Sublist values.toList) : entries.Pairwise fun e e' => e.1 ≠ e'.1 := by
  refine (ExtTreeMap.distinct_keys_toList.sublist hsub).imp fun h => ?_
  exact mt Std.compare_eq_iff_eq.mpr h

/-- The entries of a map are found under their keys. -/
theorem lookup_eq_of_mem {values : Entries} {entries : List (Text × Text)}
    (hsub : entries.Sublist values.toList) {e : Text × Text} (he : e ∈ entries) :
    entries.lookup e.1 = some e.2 := by
  obtain ⟨before, after, rfl⟩ := List.append_of_mem he
  refine List.lookup_eq_some_iff.mpr ⟨before, after, rfl, fun e' he' => ?_⟩
  have hdistinct := (distinct_of_sublist hsub)
  have hne := (List.pairwise_append.mp hdistinct).2.2 e' he' e List.mem_cons_self
  exact bne_iff_ne.mpr (Ne.symm hne)

/-- The entries that are written make of the map what all entries would make of it. -/
theorem values_write_changed {values : Entries} {entries : List (Text × Text)}
    (hsub : entries.Sublist values.toList)
    (hsame : ∀ e ∈ values.toList, e ∉ entries → Mine e.1 → m.values e.1 = some e.2) (key : Text)
    (hkey : Mine key) :
    (m.write (values[·]?)).values key = (m.write (entries.lookup ·)).values key := by
  change values[key]?.or _ = (entries.lookup key).or _
  cases hvalue : values[key]? with
  | none =>
    cases hlookup : entries.lookup key with
    | none => rfl
    | some value =>
      obtain ⟨before, after, rfl, -⟩ := List.lookup_eq_some_iff.mp hlookup
      have hmem := hsub.subset (List.mem_append_right before List.mem_cons_self)
      rw [ExtTreeMap.mem_toList_iff_getElem?_eq_some, hvalue] at hmem
      cases hmem
  | some value =>
    have hmem : (key, value) ∈ values.toList :=
      ExtTreeMap.mem_toList_iff_getElem?_eq_some.mpr hvalue
    by_cases hwritten : (key, value) ∈ entries
    · rw [lookup_eq_of_mem hsub hwritten]
    · have hold := hsame _ hmem hwritten hkey
      rw [hold]
      cases hlookup : entries.lookup key with
      | none => rfl
      | some value' =>
        obtain ⟨before, after, rfl, -⟩ := List.lookup_eq_some_iff.mp hlookup
        have hmem' := hsub.subset (List.mem_append_right before List.mem_cons_self)
        rw [ExtTreeMap.mem_toList_iff_getElem?_eq_some, hvalue] at hmem'
        rw [hmem']

/-- A put of a batch writes its values, or fails as a whole. -/
theorem leads_putBatch (turn : KvTurn) (values : Entries) :
    KvProg.Leads Mine device (putBatch device turn values) m
      (Writes m (m.write (values[·]?))) := by
  rw [putBatch]
  split
  · exact Prog.simulates_ret (Or.inl ⟨by decide, rfl⟩)
  refine leads_of_hasStore (fun _ => Or.inl ⟨by decide, rfl⟩) fun hopen => ?_
  refine Prog.simulates_bind (leads_changedEntries _ _) fun entries m' h => ?_
  obtain ⟨rfl, hsub, hsame⟩ := h
  have hchanged := values_write_changed hsub hsame
  split
  · rename_i hempty
    subst hempty
    refine (Prog.simulates_ret (P := fun code m'' => code = .success ∧ m'' = m')
      ⟨rfl, rfl⟩).represented ?_
    rintro code _ ⟨rfl, rfl⟩
    exact ⟨_, Or.inr ⟨rfl, hopen, rfl⟩, KvMap.IsStored.congr rfl hchanged⟩
  · refine Prog.simulates_bind (leads_putEntries _ entries (distinct_of_sublist hsub)) ?_
    rintro status _ ⟨rfl, rfl⟩
    refine (Prog.simulates_ret (writes_of_status (by decide) hopen)).represented ?_
    rintro code m₁ (⟨hcode, rfl⟩ | ⟨hcode, -, rfl⟩)
    · exact ⟨_, Or.inl ⟨hcode, rfl⟩, fun _ hs => hs⟩
    · exact ⟨_, Or.inr ⟨hcode, hopen, rfl⟩, KvMap.IsStored.congr rfl hchanged⟩

/-- A deletion removes one key. -/
theorem leads_delete (turn : KvTurn) (key : Text) :
    KvProg.Leads Mine device (delete turn key) m (Writes m (m.remove (· = key))) := by
  refine leads_of_hasStore (fun _ => Or.inl ⟨by decide, rfl⟩) fun hopen => ?_
  refine Prog.simulates_bind (leads_deleteKeys _ [key]) fun status m₁ h => ?_
  obtain ⟨rfl, rfl⟩ := h
  simp only [List.mem_singleton]
  exact Prog.simulates_ret (writes_of_status (by decide) hopen)

/-- The data of a device are removed, or the call fails as a whole. -/
theorem leads_removeDeviceData (turn : KvTurn) (uuid : Text) :
    KvProg.Leads Mine device (removeDeviceData turn uuid) m
      (Writes m (m.remove fun _ => uuid = device)) := by
  rw [removeDeviceData]
  split
  · exact Prog.simulates_ret (Or.inl ⟨by decide, rfl⟩)
  refine leads_of_hasStore (fun _ => Or.inl ⟨by decide, rfl⟩) fun hopen => ?_
  refine Prog.simulates_bind (KvService.leads_removeDeviceData _ uuid) fun status m₁ h => ?_
  obtain ⟨rfl, rfl⟩ := h
  exact Prog.simulates_ret (writes_of_status (by decide) hopen)

/-- The keys under a prefix are removed, or the call fails as a whole. -/
theorem leads_deleteByPrefix (turn : KvTurn) (keyPrefix : Text) :
    KvProg.Leads Mine device (deleteByPrefix turn keyPrefix) m
      (Writes m (m.remove (keyPrefix <+: ·))) := by
  refine leads_of_hasStore (fun _ => Or.inl ⟨by decide, rfl⟩) fun hopen => ?_
  refine Prog.simulates_bind (leads_getEntries _ keyPrefix) fun found m' h => ?_
  obtain ⟨rfl, hfound⟩ := h
  cases found with
  | none => exact Prog.simulates_ret (Or.inl ⟨by decide, rfl⟩)
  | some allEntries =>
    refine Prog.simulates_bind (leads_deleteKeys _ allEntries.keys) fun status m₁ h => ?_
    obtain ⟨rfl, rfl⟩ := h
    refine (Prog.simulates_ret (writes_of_status (by decide) hopen)).represented ?_
    rintro code m₁ (⟨hcode, rfl⟩ | ⟨hcode, -, rfl⟩)
    · exact ⟨_, Or.inl ⟨hcode, rfl⟩, fun _ hs => hs⟩
    · refine ⟨_, Or.inr ⟨hcode, hopen, rfl⟩, KvMap.IsStored.congr rfl fun key hkey => ?_⟩
      have hmem : key ∈ allEntries.keys ↔
          (if keyPrefix <+: key then m'.values key else none).isSome = true := by
        rw [ExtTreeMap.mem_keys, ExtTreeMap.mem_iff_isSome_getElem?,
          hfound allEntries rfl key hkey]
      simp only [KvMap.remove, hmem]
      by_cases hstarts : keyPrefix <+: key
      · cases m'.values key <;> simp [hstarts]
      · simp [hstarts]

theorem leads_sync (turn : KvTurn) (deviceList : List Text) (syncMode : Int) :
    KvProg.Leads Mine device (sync turn deviceList syncMode) m (Writes m m) := by
  refine leads_of_hasStore (fun _ => Or.inl ⟨by decide, rfl⟩) fun hopen => ?_
  split
  · exact Prog.simulates_ret (Or.inl ⟨by decide, rfl⟩)
  split
  · exact Prog.simulates_ret (Or.inl ⟨by decide, rfl⟩)
  refine Prog.simulates_ret ?_
  split
  · exact Or.inr ⟨rfl, hopen, rfl⟩
  · exact Or.inl ⟨by decide, rfl⟩

/-- A batch of deletions is refused, or a start of it is removed; a success removes all. -/
theorem leads_deleteBatch (turn : KvTurn) (keys : List Text) :
    KvProg.Leads Mine device (deleteBatch turn keys) m fun code m' =>
      (code = .invalidParams ∨ code = .kvDbPtrNull) ∧ m' = m ∨ m.isOpen = true ∧
        (code = .success ∧ m' = m.remove (· ∈ keys) ∨ code = .delKvDbFail ∧
          ∃ i, i * MAX_BATCH_SIZE < keys.length ∧
            m' = m.remove (· ∈ keys.take (i * MAX_BATCH_SIZE))) := by
  have hsize : 0 < MAX_BATCH_SIZE := by decide
  rw [deleteBatch]
  split
  · exact Prog.simulates_ret (Or.inl ⟨Or.inl rfl, rfl⟩)
  refine leads_of_hasStore (fun _ => Or.inl ⟨Or.inr rfl, rfl⟩) fun hopen => ?_
  refine (leads_deleteBatches _ _).imp fun code m' h => Or.inr ⟨hopen, ?_⟩
  obtain ⟨i, rfl, ⟨hcode, rfl⟩ | ⟨hcode, hi⟩⟩ := h
  · rw [List.take_length, flatten_batches hsize]
    exact Or.inl ⟨hcode, rfl⟩
  · rw [flatten_take_batches hsize]
    exact Or.inr ⟨hcode, i, (lt_length_batches_iff hsize i).mp hi, rfl⟩

/-- A method that reads: it fails and hands back what it was given, or finds something. -/
def Reads {α : Type} (m : KvMap) (given : α) (Found : α → Prop) (r : KvCode × α) (m' : KvMap) :
    Prop :=
  m' = m ∧ (r.1 ≠ .success ∧ r.2 = given ∨ r.1 = .success ∧ m.isOpen = true ∧ Found r.2)

theorem leads_failed {α : Type} {given : α} {Found : α → Prop} {code : KvCode}
    (hcode : code ≠ .success) :
    KvProg.Leads Mine device (.ret (code, given)) m (Reads m given Found) :=
  Prog.simulates_ret ⟨rfl, Or.inl ⟨hcode, rfl⟩⟩

/-- A read finds the value in the map. -/
theorem leads_get (turn : KvTurn) (key value : Text) :
    KvProg.Leads Mine device (get turn key value) m
      (Reads m value fun found => Mine key → m.values key = some found) := by
  refine leads_of_hasStore (fun _ => ⟨rfl, Or.inl ⟨by simp, rfl⟩⟩) fun hopen => ?_
  refine Prog.simulates_bind (leads_getValue _ key) fun found m' h => ?_
  obtain ⟨rfl, hfound⟩ := h
  cases found with
  | none => exact leads_failed (by decide)
  | some found => exact Prog.simulates_ret ⟨rfl, Or.inr ⟨rfl, hopen, hfound found rfl⟩⟩

/-- A read by prefix adds the entries of the map to those it was given. -/
theorem leads_getByPrefix (turn : KvTurn) (keyPrefix : Text) (values : Entries) :
    KvProg.Leads Mine device (getByPrefix turn keyPrefix values) m
      (Reads m values fun found => ∀ key, Mine key → found[key]? =
        (if keyPrefix <+: key then m.values key else none).or values[key]?) := by
  refine leads_of_hasStore (fun _ => ⟨rfl, Or.inl ⟨by simp, rfl⟩⟩) fun hopen => ?_
  refine Prog.simulates_bind (leads_getEntries _ keyPrefix) fun found m' h => ?_
  obtain ⟨rfl, hfound⟩ := h
  cases found with
  | none => exact leads_failed (by decide)
  | some allEntries =>
    dsimp only
    split
    · exact leads_failed (by decide)
    · refine Prog.simulates_ret ⟨rfl, Or.inr ⟨rfl, hopen, fun key hkey => ?_⟩⟩
      rw [ExtTreeMap.getElem?_union, hfound allEntries rfl key hkey]

/-- A read by device adds the entries of the map to those it was given. -/
theorem leads_getDeviceEntries (turn : KvTurn) (udid : Text) (values : Entries) :
    KvProg.Leads Mine device (getDeviceEntries turn udid values) m
      (Reads m values fun found => ∀ key, Mine key → found[key]? =
        (if udid = device ∧ key ≠ [] then m.values key else none).or values[key]?) := by
  rw [getDeviceEntries]
  split
  · exact leads_failed (by decide)
  refine leads_of_hasStore (fun _ => ⟨rfl, Or.inl ⟨by simp, rfl⟩⟩) fun hopen => ?_
  refine Prog.simulates_bind (KvService.leads_getDeviceEntries _ udid) fun found m' h => ?_
  obtain ⟨rfl, hfound⟩ := h
  cases found with
  | none => exact leads_failed (by decide)
  | some entries =>
    refine Prog.simulates_ret ⟨rfl, Or.inr ⟨rfl, hopen, fun key hkey => ?_⟩⟩
    rw [ExtTreeMap.getElem?_union, ExtTreeMap.getElem?_filter', hfound entries rfl key hkey]
    by_cases hudid : udid = device <;> cases m'.values key <;>
      by_cases hempty : key = [] <;> simp [Option.filter_some, hudid, hempty]

end KvAdapter

open KvAdapter

/-! ## Runs -/

/-- A request that is answered with a code only. -/
theorem KvProg.Leads.answered {α : Type} {prog : KvProg α} {answer : α → KvAnswer}
    {P : α → KvMap → Prop} {Q : KvAnswer → KvMap → Prop} (h : prog.Leads Mine device m P)
    (hQ : ∀ a m', P a m' → Q (answer a) m') :
    KvProg.Leads Mine device (do return answer (← prog)) m Q :=
  Prog.simulates_bind h fun a m' hP => Prog.simulates_ret (hQ a m' hP)

/-- A call that writes is a step of the map, refused or done. -/
theorem step_of_writes {request : KvRequest} {turn : KvTurn} {changed m' : KvMap} {code : KvCode}
    (h : Writes m changed code m')
    (hrefused : code ≠ .success → request.IsRefused (.done code))
    (hstep : m.isOpen = true → KvMap.Step Mine device ⟨request, turn⟩ (.done .success) m changed) :
    KvMap.Step Mine device ⟨request, turn⟩ (.done code) m m' := by
  rcases h with ⟨hcode, rfl⟩ | ⟨rfl, hopen, rfl⟩
  · exact .refused _ (hrefused hcode)
  · exact hstep hopen

/-- The calls of the adapter are calls of the map. -/
theorem implements_kvMap (Mine : Text → Prop) (device : Text) :
    Implements (KvService.ChangesOthers Mine) (KvMap.Step Mine device)
      (KvMap.IsStored Mine device) (KvCall.run device) := by
  rintro ⟨request, turn⟩ m
  cases request with
  | init =>
    exact (leads_initTries _ _ m).answered fun code m' h => .opened _ _ h.code h.values
  | unInit =>
    refine KvProg.Leads.answered (P := fun code m' => code = .success ∧
      m' = { m with isOpen := false }) ?_ ?_
    · exact Prog.simulates_act KvMap.stable_isStored fun _ hs => ⟨_, ⟨rfl, rfl⟩, rfl, hs.cell⟩
    · rintro code m' ⟨rfl, rfl⟩
      exact .closed m
  | put key value =>
    exact (leads_put turn key value).answered fun code m' h => step_of_writes h id .put
  | putBatch values =>
    exact (leads_putBatch turn values).answered fun code m' h => step_of_writes h id .putBatch
  | delete key =>
    exact (leads_delete turn key).answered fun code m' h => step_of_writes h id .delete
  | deleteBatch keys =>
    refine (leads_deleteBatch turn keys).answered fun code m' h => ?_
    rcases h with ⟨hcode, rfl⟩ | ⟨hopen, ⟨rfl, rfl⟩ | ⟨rfl, i, hi, rfl⟩⟩
    · exact .refused _ hcode
    · exact .deleteBatch hopen
    · exact .deleteSome hopen i hi
  | deleteByPrefix keyPrefix =>
    exact (leads_deleteByPrefix turn keyPrefix).answered fun code m' h =>
      step_of_writes h id .deleteByPrefix
  | get key value =>
    refine (leads_get turn key value).answered fun r m' h => ?_
    rcases h with ⟨rfl, hrefused | ⟨hcode, hopen, hfound⟩⟩
    · exact .refused _ hrefused
    · rw [hcode]
      exact .get hopen hfound
  | getByPrefix keyPrefix values =>
    refine (leads_getByPrefix turn keyPrefix values).answered fun r m' h => ?_
    rcases h with ⟨rfl, hrefused | ⟨hcode, hopen, hfound⟩⟩
    · exact .refused _ hrefused
    · rw [hcode]
      exact .getByPrefix hopen hfound
  | getDeviceEntries udid values =>
    refine (leads_getDeviceEntries turn udid values).answered fun r m' h => ?_
    rcases h with ⟨rfl, hrefused | ⟨hcode, hopen, hfound⟩⟩
    · exact .refused _ hrefused
    · rw [hcode]
      exact .getDeviceEntries hopen hfound
  | removeDeviceData uuid =>
    exact (leads_removeDeviceData turn uuid).answered fun code m' h =>
      step_of_writes h id .removeDeviceData
  | sync deviceList syncMode =>
    exact (leads_sync turn deviceList syncMode).answered fun code m' h => step_of_writes h id .sync

/-- Over every interleaving with other devices, and whatever the database answers, the calls of
the adapter behave under the keys of this device as calls of a map, and the store has there what
the map has. -/
theorem adapter_is_a_map (Mine : Text → Prop) (device : Text)
    {others : List (KvProg (List KvAnswer))}
    (hothers : ∀ other ∈ others, other.Steps (KvService.ChangesOthers Mine))
    (calls : List KvCall) {m : KvMap} {s : KvService} (hs : m.IsStored Mine device s)
    (schedule : List Nat) {answers : List KvAnswer}
    (hdone : (schedule.foldl Pool.schedule
      ⟨s, performAll (KvCall.run device) calls :: others⟩).threads[0]? = some (.ret answers)) :
    ∃ m', Performs (KvMap.Step Mine device) calls answers m m' ∧
      m'.IsStored Mine device (schedule.foldl Pool.schedule
        ⟨s, performAll (KvCall.run device) calls :: others⟩).shared :=
  (implements_kvMap Mine device).run KvMap.stable_isStored hothers calls hs schedule hdone

/-- Another device, which writes a key of its own. -/
def peerWrite : KvProg (List KvAnswer) :=
  .step (fun s => { s with store := s.store.insert ['b'] ⟨['w'], ['e']⟩ }) fun _ => .ret []

theorem peerWrite_steps : peerWrite.Steps (KvService.ChangesOthers (· = ['a'])) := by
  intro s
  refine ⟨⟨rfl, ?_⟩, trivial⟩
  rintro key rfl
  rw [ExtTreeMap.getElem?_insert, if_neg (by decide)]

/-- The store is opened, and a value is put before another device writes. -/
theorem adapter_is_a_map_beside_peer :
    let run := ([0, 0, 0, 1, 0, 0].foldl Pool.schedule ⟨{}, performAll (KvCall.run ['d'])
      [⟨.init, {}⟩, ⟨.put ['a'] ['v'], {}⟩] :: [peerWrite]⟩ : Pool Empty KvService (List KvAnswer))
    ∃ m', Performs (KvMap.Step (· = ['a']) ['d']) [⟨.init, {}⟩, ⟨.put ['a'] ['v'], {}⟩]
      [.done .success, .done .success] ⟨fun _ => none, false⟩ m' ∧
        m'.IsStored (· = ['a']) ['d'] run.shared :=
  adapter_is_a_map (· = ['a']) ['d'] (List.forall_mem_singleton.mpr peerWrite_steps) _
    ⟨rfl, fun _ _ => ExtTreeMap.getElem?_empty⟩ _ rfl

/-! ## The last write decides -/

/-- What a request that succeeds leaves under a key, or nothing if it leaves the key alone. -/
def KvRequest.leaves (device key : Text) : KvRequest → Option (Option Text)
  | .put key' value => if key' = key then some (some value) else none
  | .putBatch values => values[key]?.map some
  | .delete key' => if key' = key then some none else none
  | .deleteBatch keys => if key ∈ keys then some none else none
  | .deleteByPrefix keyPrefix => if keyPrefix <+: key then some none else none
  | .removeDeviceData uuid => if uuid = device then some none else none
  | _ => none

theorem of_deletes {p : Prop} [Decidable p] {left : Option Text}
    (h : (if p then some (none : Option Text) else none) = some left) : p ∧ left = none := by
  split at h
  · rename_i hp
    exact ⟨hp, (Option.some.inj h).symm⟩
  · cases h

/-- A request that succeeded left what it says under the key. -/
theorem values_of_step {call : KvCall} {m' : KvMap} {key : Text} {left : Option Text}
    (h : KvMap.Step Mine device call (.done .success) m m')
    (hleaves : call.request.leaves device key = some left) : m'.values key = left := by
  cases h with
  | @refused request _ _ _ hrefused =>
    cases request <;> simp [KvRequest.IsRefused] at hrefused
  | opened => cases hleaves
  | closed => cases hleaves
  | sync => cases hleaves
  | @put _ key' value _ hopen =>
    simp only [KvRequest.leaves] at hleaves
    split at hleaves
    · rename_i hkey
      rw [← Option.some.inj hleaves]
      simp [KvMap.write, hkey]
    · cases hleaves
  | @putBatch _ values =>
    obtain ⟨value, hvalue, rfl⟩ := Option.map_eq_some_iff.mp hleaves
    simp [KvMap.write, hvalue]
  | delete =>
    obtain ⟨hkey, rfl⟩ := of_deletes hleaves
    simp [KvMap.remove, hkey]
  | deleteBatch =>
    obtain ⟨hkey, rfl⟩ := of_deletes hleaves
    simp [KvMap.remove, hkey]
  | deleteByPrefix =>
    obtain ⟨hkey, rfl⟩ := of_deletes hleaves
    simp [KvMap.remove, hkey]
  | removeDeviceData =>
    obtain ⟨hkey, rfl⟩ := of_deletes hleaves
    simp [KvMap.remove, hkey]

/-- A request that leaves a key alone, whether it succeeded or not. -/
theorem values_of_other {call : KvCall} {answer : KvAnswer} {m' : KvMap} {key : Text}
    (h : KvMap.Step Mine device call answer m m') (hinit : call.request ≠ .init)
    (hleaves : call.request.leaves device key = none) : m'.values key = m.values key := by
  cases h with
  | refused => rfl
  | opened => exact absurd rfl hinit
  | closed => rfl
  | put hopen =>
    simp only [KvRequest.leaves, ite_eq_right_iff, reduceCtorEq, imp_false] at hleaves
    simp [KvMap.write, Ne.symm hleaves]
  | putBatch hopen => simp [KvMap.write, Option.map_eq_none_iff.mp hleaves]
  | delete hopen =>
    simp only [KvRequest.leaves, ite_eq_right_iff, reduceCtorEq, imp_false] at hleaves
    simp [KvMap.remove, Ne.symm hleaves]
  | deleteBatch hopen =>
    simp only [KvRequest.leaves, ite_eq_right_iff, reduceCtorEq, imp_false] at hleaves
    simp [KvMap.remove, hleaves]
  | deleteSome hopen i hi =>
    simp only [KvRequest.leaves, ite_eq_right_iff, reduceCtorEq, imp_false] at hleaves
    simp [KvMap.remove, mt List.mem_of_mem_take hleaves]
  | deleteByPrefix hopen =>
    simp only [KvRequest.leaves, ite_eq_right_iff, reduceCtorEq, imp_false] at hleaves
    simp [KvMap.remove, hleaves]
  | get => rfl
  | getByPrefix => rfl
  | getDeviceEntries => rfl
  | removeDeviceData hopen =>
    simp only [KvRequest.leaves, ite_eq_right_iff, reduceCtorEq, imp_false] at hleaves
    simp [KvMap.remove, hleaves]
  | sync => rfl

/-- What the last successful change left under a key of this device is what is read, whatever
other devices wrote meanwhile and whatever failed: a value that was put is found, and one that
was deleted is not. -/
theorem last_change_is_read (Mine : Text → Prop) (device : Text)
    {others : List (KvProg (List KvAnswer))}
    (hothers : ∀ other ∈ others, other.Steps (KvService.ChangesOthers Mine))
    {calls before between after : List KvCall} {change reading : KvCall}
    (hcalls : calls = before ++ change :: (between ++ reading :: after)) {key given : Text}
    (hkey : Mine key)
    (hreading : reading.request = .get key given)
    {left : Option Text} (hchange : change.request.leaves device key = some left)
    (hbetween : ∀ call ∈ between, call.request ≠ .init ∧
      call.request.leaves device key = none)
    {m : KvMap} {s : KvService} (hs : m.IsStored Mine device s) (schedule : List Nat)
    {answers : List KvAnswer}
    (hdone : (schedule.foldl Pool.schedule
      ⟨s, performAll (KvCall.run device) calls :: others⟩).threads[0]? = some (.ret answers))
    (hsuccess : answers[before.length]? = some (.done .success)) {code : KvCode} {found : Text}
    (hfound : answers[before.length + 1 + between.length]? = some (.value code found)) :
    code = .success ∧ left = some found ∨ code ≠ .success ∧ found = given := by
  subst hcalls
  obtain ⟨m', hall, -⟩ :=
    (implements_kvMap Mine device).run KvMap.stable_isStored hothers _ hs schedule hdone
  obtain ⟨as₁, as₂, m₁, rfl, hbefore, hrest⟩ := hall.of_append
  cases hrest with
  | @cons _ a _ as₃ _ m₂ _ hfirst hrest =>
    obtain ⟨as₄, as₅, m₃, rfl, hmiddle, hrest⟩ := hrest.of_append
    cases hrest with
    | @cons _ b _ as₆ _ m₄ _ hread hafter =>
      have hlength₁ := hbefore.length_eq
      have hlength₂ := hmiddle.length_eq
      obtain rfl : a = .done .success := by
        rw [← hlength₁] at hsuccess
        simpa using hsuccess
      obtain rfl : b = .value code found := by
        rw [← hlength₁, ← hlength₂, Nat.add_assoc] at hfound
        simpa [List.getElem?_append_right, Nat.add_comm 1] using hfound
      have hleft : m₃.values key = left :=
        hmiddle.invariant (I := fun m => m.values key = left)
          (fun call hcall answer m m' hstep hm =>
            (values_of_other hstep (hbetween call hcall).1 (hbetween call hcall).2).trans hm)
          (values_of_step hfirst hchange)
      obtain ⟨request, turn⟩ := reading
      obtain rfl : request = .get key given := hreading
      cases hread with
      | refused _ hrefused => exact Or.inr hrefused
      | get hopen hvalue => exact Or.inl ⟨rfl, hleft.symm.trans (hvalue hkey)⟩

/-- A value is put, another device writes, a deletion fails, and the value is read. -/
theorem last_change_is_read_beside_peer :
    ([0, 0, 0, 1, 0, 0, 0, 0].foldl Pool.schedule ⟨⟨∅, true⟩, performAll (KvCall.run ['d'])
      [⟨.put ['a'] ['v'], {}⟩, ⟨.delete ['c'], { statuses := fun _ => .error }⟩,
        ⟨.get ['a'] [], {}⟩] :: [peerWrite]⟩ :
          Pool Empty KvService (List KvAnswer)).threads[0]? =
        some (.ret [.done .success, .done .delKvDbFail, .value .success ['v']]) ∧
      (KvCode.success = .success ∧ some ['v'] = some ['v'] ∨
        KvCode.success ≠ .success ∧ ['v'] = []) := by
  have hdone : ([0, 0, 0, 1, 0, 0, 0, 0].foldl Pool.schedule ⟨⟨∅, true⟩,
      performAll (KvCall.run ['d']) [⟨.put ['a'] ['v'], {}⟩,
        ⟨.delete ['c'], { statuses := fun _ => .error }⟩, ⟨.get ['a'] [], {}⟩] :: [peerWrite]⟩ :
          Pool Empty KvService (List KvAnswer)).threads[0]? =
        some (.ret [.done .success, .done .delKvDbFail, .value .success ['v']]) := rfl
  have hothers : ∀ other ∈ [peerWrite], other.Steps (KvService.ChangesOthers (· = ['a'])) :=
    List.forall_mem_singleton.mpr peerWrite_steps
  have hbegin : (⟨fun _ => none, true⟩ : KvMap).IsStored (· = ['a']) ['d'] ⟨∅, true⟩ :=
    ⟨rfl, fun _ _ => ExtTreeMap.getElem?_empty⟩
  have hcalls : [⟨.put ['a'] ['v'], {}⟩, ⟨.delete ['c'], { statuses := fun _ => .error }⟩,
      (⟨.get ['a'] [], {}⟩ : KvCall)] = [] ++ ⟨.put ['a'] ['v'], {}⟩ ::
        ([⟨.delete ['c'], { statuses := fun _ => .error }⟩] ++ ⟨.get ['a'] [], {}⟩ :: []) := rfl
  exact ⟨hdone, last_change_is_read (· = ['a']) ['d'] hothers hcalls rfl rfl rfl
    (List.forall_mem_singleton.mpr ⟨by simp, rfl⟩) hbegin _ hdone rfl rfl⟩

/-! ## The store of the profile manager -/

/-- A result of the store as the adapter hands it on. -/
def KvService.handsOn (s : KvService) : Except KvError KvStore → Except Empty KvCode × KvService
  | .ok store => (.ok .success, { s with store })
  | .error .invalidParams => (.ok .invalidParams, s)
  | .error .putKvDbFail => (.ok .putKvDbFail, s)

/-- With every answer good, the entries that are left are those that change something. -/
theorem exec_changedEntries {statuses : Nat → KvStatus} (l : List (Text × Text))
    (hstatuses : ∀ i < l.length, statuses i = .success) (s : KvService) :
    (changedEntries statuses l).exec s =
      (.ok (l.filter fun e => s.store.valueAt e.1 ≠ some e.2), s) := by
  induction l generalizing statuses with
  | nil => rfl
  | cons first rest ih =>
    have hget : (KvService.getValue (statuses 0) first.1).exec s =
        (.ok (s.store.valueAt first.1), s) := by
      rw [hstatuses 0 (Nat.succ_pos _)]
      rfl
    have hrest : (changedEntries (fun i => statuses (i + 1)) rest).exec s =
        (.ok (rest.filter fun e => s.store.valueAt e.1 ≠ some e.2), s) :=
      ih fun i hi => hstatuses (i + 1) (Nat.succ_lt_succ hi)
    rw [changedEntries, Prog.exec_bind_ok hget, Prog.exec_bind_ok hrest, List.filter_cons]
    by_cases hsame : s.store.valueAt first.1 = some first.2 <;> simp [hsame]

/-- With every answer good, all batches are deleted. -/
theorem exec_deleteBatches {statuses : Nat → KvStatus} (bs : List (List Text))
    (hstatuses : ∀ i < bs.length, statuses i = .success) (s : KvService) :
    (deleteBatches statuses bs).exec s =
      (.ok .success, { s with store := bs.flatten.foldl ExtTreeMap.erase s.store }) := by
  induction bs generalizing statuses s with
  | nil => rfl
  | cons first rest ih =>
    have hdelete : (KvService.deleteKeys (statuses 0) first).exec s =
        (.ok .success, { s with store := first.foldl ExtTreeMap.erase s.store }) := by
      rw [hstatuses 0 (Nat.succ_pos _)]
      rfl
    rw [deleteBatches, Prog.exec_bind_ok hdelete, List.flatten_cons, List.foldl_append]
    exact ih (fun i hi => hstatuses (i + 1) (Nat.succ_lt_succ hi)) _

/-- The batches in front of the first one that fails are deleted. -/
theorem exec_deleteBatches_of_failed {statuses : Nat → KvStatus} {n : Nat}
    (hbefore : ∀ i < n, statuses i = .success) (hfailed : statuses n ≠ .success)
    {bs : List (List Text)} (hn : n < bs.length) (s : KvService) :
    (deleteBatches statuses bs).exec s =
      (.ok .delKvDbFail,
        { s with store := (bs.take n).flatten.foldl ExtTreeMap.erase s.store }) := by
  induction n generalizing statuses bs s with
  | zero =>
    obtain ⟨first, rest, rfl⟩ := List.exists_cons_of_length_pos hn
    have hdelete : (KvService.deleteKeys (statuses 0) first).exec s =
        (.ok (statuses 0), s) := by
      simp [KvService.deleteKeys, Prog.act, hfailed]
    rw [deleteBatches, Prog.exec_bind_ok hdelete, if_pos hfailed]
    rfl
  | succ n ih =>
    obtain ⟨first, rest, rfl⟩ := List.exists_cons_of_length_pos (Nat.zero_lt_of_lt hn)
    have hdelete : (KvService.deleteKeys (statuses 0) first).exec s =
        (.ok .success, { s with store := first.foldl ExtTreeMap.erase s.store }) := by
      rw [hbefore 0 (Nat.succ_pos _)]
      rfl
    rw [deleteBatches, Prog.exec_bind_ok hdelete, List.take_succ_cons, List.flatten_cons,
      List.foldl_append]
    exact ih (fun i hi => hbefore (i + 1) (Nat.succ_lt_succ hi)) hfailed
      (Nat.lt_of_succ_lt_succ hn) _

theorem lookup_toList (values : Entries) (key : Text) :
    values.toList.lookup key = values[key]? := by
  cases hvalue : values[key]? with
  | none =>
    refine List.lookup_eq_none_iff.mpr fun e he => ?_
    have hfound := ExtTreeMap.mem_toList_iff_getElem?_eq_some.mp he
    refine bne_iff_ne.mpr fun hkey => ?_
    rw [← hkey, hvalue] at hfound
    cases hfound
  | some value =>
    have hmem := ExtTreeMap.mem_toList_iff_getElem?_eq_some.mpr hvalue
    exact lookup_eq_of_mem (List.Sublist.refl _) hmem

/-- The new entries, put one by one, are put under this device. -/
theorem insertMany_newEntries (store : KvStore) (device : Text) (values : Entries) :
    store.insertMany ((store.newEntries values).toList.map
        fun e => (e.1, (⟨e.2, device⟩ : Cell))) =
      store ∪ (store.newEntries values).map fun _ value => { value, writer := device } := by
  refine ExtTreeMap.ext_getElem? fun key => ?_
  rw [getElem?_insertMany_map _ (distinct_of_sublist (List.Sublist.refl _)), lookup_toList,
    ExtTreeMap.getElem?_union, ExtTreeMap.getElem?_map]

theorem exec_hasStore {s : KvService} (hopen : s.kvStorePtr = true) :
    KvService.hasStore.exec s = (.ok true, s) := by
  rw [← hopen]
  rfl

/-- Where the reads are answered, `PutBatch` puts the entries that are new. -/
theorem exec_putBatch {s : KvService} (hopen : s.kvStorePtr = true) (device : Text)
    {turn : KvTurn} {values : Entries} (hstatuses : ∀ i < values.size, turn.statuses i = .success) :
    (putBatch device turn values).exec s =
      s.handsOn (s.store.putBatch device (turn.statuses values.size = .success) values) := by
  rw [putBatch, KvStore.putBatch]
  by_cases hbad : values.isEmpty ∨ MAX_PROFILE_SIZE < values.size
  · rw [if_pos hbad, if_pos hbad]
    rfl
  · have hchanged := exec_changedEntries values.toList (by simpa using hstatuses) s
    have hlist : values.toList.filter (fun e => s.store.valueAt e.1 ≠ some e.2) =
        (s.store.newEntries values).toList := by
      rw [KvStore.newEntries, ExtTreeMap.toList_filter]
    rw [hlist] at hchanged
    rw [if_neg hbad, if_neg hbad, Prog.exec_bind_ok (exec_hasStore hopen)]
    change (changedEntries turn.statuses values.toList >>= _).exec s = _
    rw [Prog.exec_bind_ok hchanged]
    by_cases hempty : (s.store.newEntries values).isEmpty = true
    · have hnone : (s.store.newEntries values).toList = [] :=
        ExtTreeMap.toList_eq_nil_iff.mpr (ExtTreeMap.isEmpty_iff.mp hempty)
      rw [if_pos hempty, if_pos hnone]
      rfl
    · have hsome : (s.store.newEntries values).toList ≠ [] := fun h =>
        hempty (ExtTreeMap.isEmpty_iff.mpr (ExtTreeMap.toList_eq_nil_iff.mp h))
      rw [if_neg hempty, if_neg hsome, ← insertMany_newEntries]
      by_cases hput : turn.statuses values.size = .success
      · rw [hput]
        rfl
      · have hput' : (KvService.putEntries device (turn.statuses values.size)
            (s.store.newEntries values).toList).exec s =
              (.ok (turn.statuses values.size), s) := by
          simp [KvService.putEntries, Prog.act, hput]
        rw [Prog.exec_bind_ok hput']
        simp [hput, KvService.handsOn]

/-- Where every batch is deleted, `DeleteBatch` deletes all keys. -/
theorem exec_deleteBatch {s : KvService} (hopen : s.kvStorePtr = true) {turn : KvTurn}
    {keys : List Text}
    (hstatuses : ∀ i, i * MAX_BATCH_SIZE < keys.length → turn.statuses i = .success) :
    (deleteBatch turn keys).exec s = s.handsOn (s.store.deleteBatch keys) := by
  have hsize : 0 < MAX_BATCH_SIZE := by decide
  rw [deleteBatch, KvStore.deleteBatch]
  by_cases hbad : keys = [] ∨ MAX_PROFILE_SIZE < keys.length
  · rw [if_pos hbad, if_pos hbad]
    rfl
  · rw [if_neg hbad, if_neg hbad, Prog.exec_bind_ok (exec_hasStore hopen)]
    have hdelete := exec_deleteBatches (batches MAX_BATCH_SIZE keys)
      (fun i hi => hstatuses i ((lt_length_batches_iff hsize i).mp hi)) s
    rw [flatten_batches hsize] at hdelete
    exact hdelete

/-- Where a batch fails, `DeleteBatch` has deleted the keys in front of it. -/
theorem exec_deleteBatch_of_failed {s : KvService} (hopen : s.kvStorePtr = true) {turn : KvTurn}
    {keys : List Text} (hle : keys.length ≤ MAX_PROFILE_SIZE) {n : Nat}
    (hn : n * MAX_BATCH_SIZE < keys.length) (hbefore : ∀ i < n, turn.statuses i = .success)
    (hfailed : turn.statuses n ≠ .success) :
    (deleteBatch turn keys).exec s =
      (.ok .delKvDbFail,
        { s with store := (keys.take (n * MAX_BATCH_SIZE)).foldl ExtTreeMap.erase s.store }) := by
  have hsize : 0 < MAX_BATCH_SIZE := by decide
  have hne : keys ≠ [] := List.ne_nil_of_length_pos (Nat.zero_lt_of_lt hn)
  rw [deleteBatch, if_neg (not_or.mpr ⟨hne, Nat.not_lt.mpr hle⟩),
    Prog.exec_bind_ok (exec_hasStore hopen), ← flatten_take_batches hsize]
  exact exec_deleteBatches_of_failed hbefore hfailed ((lt_length_batches_iff hsize n).mpr hn) s

/-- With a pointer to the store, and a database that answers what is read, the batches of the
adapter are those of the store that the profile manager works with: `PutBatch` writes what changed
in one step, and fails with the write; `DeleteBatch` deletes all keys, or, where one of its batches
fails, the keys in front of that. -/
theorem adapter_serves_the_store {s : KvService} (hopen : s.kvStorePtr = true) (device : Text)
    (turn : KvTurn) :
    (∀ values : Entries, (∀ i < values.size, turn.statuses i = .success) →
      (putBatch device turn values).exec s =
        s.handsOn (s.store.putBatch device (turn.statuses values.size = .success) values)) ∧
    (∀ keys : List Text, (∀ i, i * MAX_BATCH_SIZE < keys.length → turn.statuses i = .success) →
      (deleteBatch turn keys).exec s = s.handsOn (s.store.deleteBatch keys)) ∧
    ∀ (keys : List Text) (n : Nat), keys.length ≤ MAX_PROFILE_SIZE →
      n * MAX_BATCH_SIZE < keys.length → (∀ i < n, turn.statuses i = .success) →
      turn.statuses n ≠ .success →
        (deleteBatch turn keys).exec s =
          (.ok .delKvDbFail,
            { s with store := (keys.take (n * MAX_BATCH_SIZE)).foldl ExtTreeMap.erase s.store }) :=
  ⟨fun _ hstatuses => exec_putBatch hopen device hstatuses,
    fun _ hstatuses => exec_deleteBatch hopen hstatuses,
    fun _ _ hle hn hbefore hfailed => exec_deleteBatch_of_failed hopen hle hn hbefore hfailed⟩

/-- Keys for two batches. -/
def sampleKeys : List Text := (List.range 130).map fun n : Nat => numeral n

/-- A store that holds the keys. -/
def sampleService : KvService where
  store := ExtTreeMap.ofList <|
    sampleKeys.map fun key => (key, ({ value := ['v'], writer := ['d'] } : Cell))
  kvStorePtr := true

/-- An entry that is stored already, one with another value, and a new one. -/
def sampleValues : Entries :=
  ExtTreeMap.ofList [(numeral 0, ['v']), (numeral 1, ['w']), (['k'], ['v'])]

/-- A batch of old and new entries is put; the keys are deleted, and where the second batch fails
the first 128 of them are. -/
theorem adapter_serves_the_store_beyond_batch :
    (putBatch ['d'] {} sampleValues).exec sampleService =
      sampleService.handsOn (sampleService.store.putBatch ['d'] true sampleValues) ∧
    (deleteBatch {} sampleKeys).exec sampleService =
      sampleService.handsOn (sampleService.store.deleteBatch sampleKeys) ∧
    (deleteBatch { statuses := fun i => if i = 1 then .error else .success } sampleKeys).exec
        sampleService =
      (.ok .delKvDbFail,
        { sampleService with
          store := (sampleKeys.take 128).foldl ExtTreeMap.erase sampleService.store }) := by
  refine ⟨(adapter_serves_the_store rfl ['d'] {}).1 _ fun _ _ => rfl,
    (adapter_serves_the_store rfl ['d'] {}).2.1 _ fun _ _ => rfl,
    (adapter_serves_the_store rfl ['d'] _).2.2 sampleKeys 1 ?_ ?_ ?_ ?_⟩
  · simp [sampleKeys, MAX_PROFILE_SIZE]
  · simp [sampleKeys, MAX_BATCH_SIZE]
  · intro i hi
    simp [Nat.lt_one_iff.mp hi]
  · simp

end DeviceProfile
