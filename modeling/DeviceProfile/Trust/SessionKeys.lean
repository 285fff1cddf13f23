import DeviceProfile.Library.KeyedSet
import DeviceProfile.Trust.Calls

/-!
# Session keys

A session key is stored in the asset store under its user and a random id. The id reaches the
party tables later, with an access control entry, and from then on these tables tell whose it
is. A new id is only compared with the ids in the party tables, so that between two entries the
same id can be given to two users.
-/

namespace DeviceProfile

open Library

/-- The longest session key. -/
def MAX_SESSIONKEY_SIZE : Nat := 8 * 1024

/-- The error codes of the session key manager. -/
inductive SessionKeyError where
  | invalidParams
  | assetDuplicated
  | putAssetError
  | getAssetNotFind
  | getAssetErroe
  | deleteAssetError
  | trust (e : DpError)
  deriving DecidableEq, Repr

/-- A secret of the asset store, under its user and its alias. -/
structure Asset where
  userId : Nat
  sessionKeyId : Int
  secret : List UInt8
  deriving DecidableEq, Repr

/-- What tells two assets apart. -/
def Asset.key (a : Asset) : Nat × Int := (a.userId, a.sessionKeyId)

/-- The asset store, one asset for each key. -/
abbrev AssetStore := KeyedSet Asset.key

/-- The trust store, and the asset store. -/
structure SessionState where
  world : World := {}
  assets : AssetStore := .empty _

/-! ## The party tables -/

/-- The parties of one side with a session key. -/
def Tables.partiesWithSessionKey (t : Tables) (role : Role) (sessionKeyId : Int) : List Party :=
  (t.parties role).select fun a => decide (a.sessionKeyId = sessionKeyId)

/-- `GetUserIdBySessionKeyId`: every row that is read overwrites the user id. -/
def getUserIdBySessionKeyId (sessionKeyId userId : Int) : DpProg Int :=
  (do
    let accessers ← getResultSet (·.partiesWithSessionKey .accesser sessionKeyId)
    if accessers.length > 0 then
      return accessers.foldl (fun _ a => a.userId) userId
    let accessees ← getResultSet (·.partiesWithSessionKey .accessee sessionKeyId)
    if accessees.length ≤ 0 then
      throw .notFindData
    return accessees.foldl (fun _ a => a.userId) userId : DpProg Int).atomic

/-- `CheckSessionKeyIdExists`: a query that fails counts as no. -/
def checkSessionKeyIdExists (sessionKeyId : Int) : DpProg Bool :=
  ((do
    let accessers ← getResultSet (·.partiesWithSessionKey .accesser sessionKeyId)
    if accessers.length > 0 then
      return true
    let accessees ← getResultSet (·.partiesWithSessionKey .accessee sessionKeyId)
    return decide (accessees.length > 0)).getD false).atomic

/-! ## The session key manager -/

/-- `GeneratedSessionKeyId` with the numbers that are drawn; it goes on while the number is in
the tables. -/
def generatedSessionKeyId : List Int → DpProg (Option Int)
  | [] => return none
  | randomNumber :: draws => do
    match ← checkSessionKeyIdExists randomNumber with
    | true => generatedSessionKeyId draws
    | false => return some randomNumber

/-- `AssetAdapter::PutAsset`. -/
def AssetStore.putAsset (assets : AssetStore) (a : Asset) (fault : Bool) :
    Except SessionKeyError AssetStore :=
  if fault then .error .putAssetError
  else if (assets.find? a.key).isSome then .error .assetDuplicated
  else .ok (assets.emplace a)

/-- `AssetAdapter::DeleteAsset`. -/
def AssetStore.deleteAsset (assets : AssetStore) (key : Nat × Int) (fault : Bool) :
    Except SessionKeyError AssetStore :=
  if fault then .error .deleteAssetError
  else match assets.find? key with
    | none => .error .deleteAssetError
    | some a => .ok (assets.erase a)

/-- The parameters `PutSessionKey` accepts. -/
def IsSessionKey (userId : Nat) (sessionKey : List UInt8) : Prop :=
  userId ≠ 0 ∧ sessionKey ≠ [] ∧ sessionKey.length ≤ MAX_SESSIONKEY_SIZE

instance (userId : Nat) (sessionKey : List UInt8) : Decidable (IsSessionKey userId sessionKey) :=
  inferInstanceAs (Decidable (_ ∧ _ ∧ _))

/-- `PutSessionKey`: the id of the key. It has not returned when the drawn numbers are used up. -/
def putSessionKey (userId : Nat) (sessionKey : List UInt8) (draws : List Int) (fault : Bool)
    (s : SessionState) : Option (Except SessionKeyError Int) × SessionState :=
  if ¬IsSessionKey userId sessionKey then (some (.error .invalidParams), s)
  else match (generatedSessionKeyId draws).exec s.world with
    | (.ok (some sessionKeyId), w) =>
      match s.assets.putAsset ⟨userId, sessionKeyId, sessionKey⟩ fault with
      | .ok assets => (some (.ok sessionKeyId), ⟨w, assets⟩)
      | .error e => (some (.error e), { s with world := w })
    | (_, w) => (none, { s with world := w })

/-- `GetSessionKey` with a user id. -/
def AssetStore.getSessionKey (assets : AssetStore) (userId : Nat) (sessionKeyId : Int) :
    Except SessionKeyError (List UInt8) :=
  if userId = 0 then .error .invalidParams
  else match assets.find? (userId, sessionKeyId) with
    | none => .error .getAssetNotFind
    | some a =>
      if a.secret.length = 0 ∨ a.secret.length > MAX_SESSIONKEY_SIZE then .error .getAssetErroe
      else .ok a.secret

/-- `GetSessionKey` with an id only. A user id below zero ends it before the key is written. -/
def getSessionKey (sessionKeyId : Int) (sessionKey : List UInt8) (s : SessionState) :
    Except SessionKeyError (List UInt8) :=
  match ((getUserIdBySessionKeyId sessionKeyId 0).exec s.world).1 with
  | .error e => .error (.trust e)
  | .ok userId =>
    if userId < 0 then .ok sessionKey else s.assets.getSessionKey userId.toNat sessionKeyId

/-- `DeleteSessionKey`. -/
def deleteSessionKey (userId : Nat) (sessionKeyId : Int) (fault : Bool) (s : SessionState) :
    Except SessionKeyError Unit × SessionState :=
  if userId = 0 then (.error .invalidParams, s)
  else match s.assets.deleteAsset (userId, sessionKeyId) fault with
    | .ok assets => (.ok (), { s with assets })
    | .error e => (.error e, s)

/-! ## Runs -/

/-- A call of a run: one of the session key manager, with the numbers it draws and whether the
asset store fails, or one of the trust profile manager. -/
inductive SessionCall where
  | putSessionKey (userId : Nat) (sessionKey : List UInt8) (draws : List Int) (fault : Bool)
  | deleteSessionKey (userId : Nat) (sessionKeyId : Int) (fault : Bool)
  | acl (call : Call)
  deriving DecidableEq, Repr

/-- The call is not one that deletes a session key. -/
def SessionCall.KeepsKeys : SessionCall → Prop
  | .deleteSessionKey _ _ _ => False
  | _ => True

/-- A state, the keys put so far under the ids that were returned, and those not deleted. -/
structure SessionRun where
  state : SessionState := {}
  returned : List Asset := []
  kept : List Asset := []

/-- The run after one more call. -/
def SessionRun.step (env : Env) (r : SessionRun) : SessionCall → SessionRun
  | .putSessionKey userId sessionKey draws fault =>
    match DeviceProfile.putSessionKey userId sessionKey draws fault r.state with
    | (some (.ok sessionKeyId), state) =>
      { state
        returned := ⟨userId, sessionKeyId, sessionKey⟩ :: r.returned
        kept := ⟨userId, sessionKeyId, sessionKey⟩ :: r.kept }
    | (_, state) => { r with state }
  | .deleteSessionKey userId sessionKeyId fault =>
    match DeviceProfile.deleteSessionKey userId sessionKeyId fault r.state with
    | (.ok (), state) =>
      { r with state, kept := r.kept.filter fun g => g.key ≠ (userId, sessionKeyId) }
    | (.error _, state) => { r with state }
  | .acl call => { r with state := { r.state with world := call.run env r.state.world } }

namespace SessionRun

/-- The run before its first call, with the database calls that will fail. -/
def start (faults : List Bool) : SessionRun := { state := { world := { faults } } }

/-- The id of the party was returned for its user. -/
def Owns (r : SessionRun) (a : Party) : Prop :=
  ∃ g ∈ r.returned, (g.userId : Int) = a.userId ∧ g.sessionKeyId = a.sessionKeyId

instance (r : SessionRun) (a : Party) : Decidable (r.Owns a) :=
  inferInstanceAs (Decidable (∃ g ∈ r.returned, _))

/-- The parties that a call brings carry ids that were returned for their users. -/
def CarriesOwn (r : SessionRun) : SessionCall → Prop
  | .acl (.put p) => ∀ role, r.Owns (p.party role)
  | .acl (.update p) => ∀ role, r.Owns (p.party role)
  | _ => True

/-- The number that ends the drawing of a call was not returned for another user before. -/
def DrawsOwn (r : SessionRun) : SessionCall → Prop
  | .putSessionKey userId sessionKey draws false =>
    IsSessionKey userId sessionKey → ∀ sessionKeyId w,
      (generatedSessionKeyId draws).exec r.state.world = (.ok (some sessionKeyId), w) →
      ∀ g ∈ r.returned, g.sessionKeyId = sessionKeyId → g.userId = userId
  | _ => True

/-- The state, when no further database call fails. -/
def calm (r : SessionRun) : SessionState :=
  { r.state with world := { r.state.world with faults := [] } }

/-- A stored party carries the id. -/
def Carried (r : SessionRun) (sessionKeyId : Int) : Prop :=
  ∃ role, ∃ a ∈ r.state.world.tables.parties role, a.sessionKeyId = sessionKeyId

/-- Every id resolves to its owner. -/
structure Resolves (r : SessionRun) : Prop where
  /-- No two keys that are kept have the same id. -/
  distinct : (r.kept.map Asset.sessionKeyId).Nodup
  /-- The user of an id that is in the tables is the one it was returned for. -/
  owner : ∀ g ∈ r.returned, r.Carried g.sessionKeyId → ∀ userId,
    ((getUserIdBySessionKeyId g.sessionKeyId userId).exec r.calm.world).1 = .ok (g.userId : Int)
  /-- Under such an id its key is found. -/
  key : ∀ g ∈ r.kept, r.Carried g.sessionKeyId → ∀ sessionKey,
    getSessionKey g.sessionKeyId sessionKey r.calm = .ok g.secret

end SessionRun

/-! ## Reading the tables -/

theorem reads_checkSessionKeyIdExists (sessionKeyId : Int) :
    (checkSessionKeyIdExists sessionKeyId).Steps Reads := by
  refine Prog.steps_atomic fun w => ?_
  refine Prog.Steps.exec (Prog.steps_getD ?_ _) Reads.refl Reads.trans w
  refine Prog.steps_bind (reads_getResultSet _) fun accessers => ?_
  split
  · trivial
  · exact Prog.steps_bind (reads_getResultSet _) fun _ => trivial

theorem reads_generatedSessionKeyId (draws : List Int) :
    (generatedSessionKeyId draws).Steps Reads := by
  induction draws with
  | nil => trivial
  | cons randomNumber draws ih =>
    refine Prog.steps_bind (reads_checkSessionKeyIdExists randomNumber) fun found => ?_
    cases found
    · trivial
    · exact ih

/-- The last of the rows gives the user; rows of one user give that user. -/
theorem foldl_userId {rows : List Party} {owner : Int} (hrows : ∀ a ∈ rows, a.userId = owner)
    (hne : rows ≠ []) (userId : Int) :
    rows.foldl (fun _ a => a.userId) userId = owner := by
  induction rows generalizing userId with
  | nil => exact absurd rfl hne
  | cons a rest ih =>
    rw [List.foldl_cons, hrows a List.mem_cons_self]
    cases rest with
    | nil => rfl
    | cons b rest =>
      apply ih (fun c hc => hrows c (List.mem_cons_of_mem a hc))
      simp

theorem mem_partiesWithSessionKey {t : Tables} {role : Role} {sessionKeyId : Int} {a : Party} :
    a ∈ t.partiesWithSessionKey role sessionKeyId ↔
      a ∈ t.parties role ∧ a.sessionKeyId = sessionKeyId := by
  rw [Tables.partiesWithSessionKey, Table.mem_select, decide_eq_true_iff]

/-- When all parties with an id are of one user, and there is one, that user is found. -/
theorem exec_getUserIdBySessionKeyId {t : Tables} {n : List Notice} {sessionKeyId owner : Int}
    (howner : ∀ role, ∀ a ∈ t.parties role, a.sessionKeyId = sessionKeyId → a.userId = owner)
    (hcarried : ∃ role, ∃ a ∈ t.parties role, a.sessionKeyId = sessionKeyId) (userId : Int) :
    ((getUserIdBySessionKeyId sessionKeyId userId).exec ⟨t, [], n⟩).1 = .ok owner := by
  have hrows : ∀ role, ∀ a ∈ t.partiesWithSessionKey role sessionKeyId, a.userId = owner := by
    intro role a ha
    obtain ⟨hmem, hid⟩ := mem_partiesWithSessionKey.mp ha
    exact howner role a hmem hid
  rw [getUserIdBySessionKeyId, Prog.exec_atomic,
    Prog.exec_bind_ok ((fetches_getResultSet _ t).calm n)]
  cases haccessers : t.partiesWithSessionKey .accesser sessionKeyId with
  | cons a rest =>
    simp only [List.length_cons, Nat.zero_lt_succ, if_true, Prog.pure_eq, Prog.exec_ret]
    rw [← haccessers, foldl_userId (hrows .accesser) (by simp [haccessers])]
  | nil =>
    have hne : t.partiesWithSessionKey .accessee sessionKeyId ≠ [] := by
      obtain ⟨role, a, ha, hid⟩ := hcarried
      have hmem := mem_partiesWithSessionKey.mpr ⟨ha, hid⟩
      cases role with
      | accesser => simp [haccessers] at hmem
      | accessee => exact List.ne_nil_of_mem hmem
    have hlength := List.length_pos_iff.mpr hne
    have hfetch := (fetches_getResultSet (·.partiesWithSessionKey .accessee sessionKeyId) t).calm n
    simp only [List.length_nil, Nat.lt_irrefl, if_false, Prog.exec_bind_ok hfetch,
      if_neg (Nat.not_le.mpr hlength), Prog.pure_eq, Prog.exec_ret, gt_iff_lt]
    rw [foldl_userId (hrows .accessee) hne]

/-! ## The parties a call brings -/

/-- Every party was there before, or has the index columns of the one that is brought. -/
def Brings (p : AccessControlProfile) (w w' : World) : Prop :=
  ∀ role, ∀ a ∈ w'.tables.parties role,
    a ∈ w.tables.parties role ∨ a.indexColumns = (p.party role).indexColumns

theorem Brings.refl (p : AccessControlProfile) (w : World) : Brings p w w :=
  fun _ _ ha => .inl ha

/-- What is brought along two steps. -/
theorem Brings.trans (p : AccessControlProfile) (w₁ w₂ w₃ : World) (h : Brings p w₁ w₂)
    (h' : Brings p w₂ w₃) : Brings p w₁ w₃ := by
  intro role a ha
  rcases h' role a ha with ha | hcols
  · exact h role a ha
  · exact .inr hcols

/-- What runs after the lock brings no party. -/
theorem Unlocked.brings {p : AccessControlProfile} {w w' : World} (h : Unlocked w w') :
    Brings p w w' := by
  intro role a ha
  rw [h.parties] at ha
  exact .inl ha

/-- An update of a party brings the party of its profile at most. -/
theorem brings_updatePartyProfile (role : Role) (err : DpError) (p : AccessControlProfile) :
    (updatePartyProfile role err p).Steps (Brings p) := by
  refine steps_execute (fun w => Brings.refl p w) fun w t hwrite other a ha => ?_
  obtain ⟨parties, hupdate, rfl⟩ := Option.map_eq_some_iff.mp hwrite
  by_cases hrole : other = role
  · subst hrole
    simp only [Tables.parties_setParties] at ha
    rcases (Table.mem_update? hupdate).mp ha with ⟨rfl, _⟩ | ⟨ha, _⟩
    · exact .inr rfl
    · exact .inl ha
  · simp only [Tables.parties_setParties_of_ne _ _ hrole] at ha
    exact .inl ha

/-- An update brings the parties of its profile at most. -/
theorem brings_updateAccessControlProfile (env : Env) (p : AccessControlProfile) :
    (updateAccessControlProfile env p).Steps (Brings p) := by
  have hreads : ∀ {α : Type} {m : DpProg α}, m.Steps Reads → m.Steps (Brings p) :=
    fun hm => hm.mono fun _ _ h => h.unlocked.brings
  have hacl : (execute (·.updateAcl p) .updateAclProfileFail).Steps (Brings p) := by
    refine steps_execute (fun w => Brings.refl p w) fun w t hwrite role a ha => ?_
    obtain ⟨_, _, rfl⟩ := Option.map_eq_some_iff.mp hwrite
    cases role <;> exact .inl ha
  have hlocked : (updateAccessControlProfileLocked p).Steps (Brings p) :=
    Prog.steps_bind (hreads (reads_updateAclCheck p)) fun _ =>
      Prog.steps_bind (Prog.steps_getD (brings_updatePartyProfile _ _ p) _) fun _ =>
      Prog.steps_bind (Prog.steps_getD (brings_updatePartyProfile _ _ p) _) fun _ =>
      Prog.steps_bind hacl fun _ => trivial
  refine Prog.steps_bind (Prog.steps_atomic fun w =>
    hlocked.exec (Brings.refl p) (Brings.trans p) w) fun old => ?_
  exact (unlocked_updateTail p old).mono fun _ _ h => h.brings

/-- A put brings the parties of its profile at most. -/
theorem PutEffect.brings {env : Env} {p : AccessControlProfile} {w w' : World}
    {r : Except DpError (Option (AccessControlProfile × Bool × Bool))}
    (he : PutEffect env p w w' r) : Brings p w w' := by
  have hens : ∀ role, w.tables.Ensured w'.tables role ((w.tables.prepared p).party role) →
      ∀ a ∈ w'.tables.parties role,
        a ∈ w.tables.parties role ∨ a.indexColumns = (p.party role).indexColumns :=
    fun role h a ha => (h.mem_cases ha).imp_right fun hnew => hnew.2.2
  intro role a ha
  cases he with
  | failed e _ _ hparties =>
    rcases hparties role with hsame | h
    · rw [hsame] at ha
      exact .inl ha
    · exact hens role h a ha
  | found _ hparties _ => exact hens role (hparties role) a ha
  | stored u b _ hparties _ => exact hens role (hparties role) a ha

/-- A deletion brings no party. -/
theorem DeleteEffect.mem_parties {id : Int} {w w' : World}
    {r : Except DpError AccessControlProfile} (he : DeleteEffect id w w' r) {role : Role}
    {a : Party} (ha : a ∈ w'.tables.parties role) : a ∈ w.tables.parties role := by
  cases he with
  | missing htables =>
    rw [htables] at ha
    exact ha
  | failed e _ _ hparties =>
    rcases hparties role with hsame | ⟨_, _, _, hdrop⟩
    · rw [hsame] at ha
      exact ha
    · exact ((hdrop a).mp ha).1
  | deleted row _ _ _ hparties => exact ((hparties role a).mp ha).1

/-- A party after a call was there before, or it is one that the call brings. -/
theorem mem_parties_run {env : Env} {w : World} {call : Call} {role : Role} {a : Party}
    (ha : a ∈ (call.run env w).tables.parties role) :
    a ∈ w.tables.parties role ∨ ∃ p, (call = .put p ∨ call = .update p) ∧
      a.indexColumns = (p.party role).indexColumns := by
  obtain ⟨r, hexec⟩ := call.exists_exec env w
  cases call with
  | put p =>
    obtain ⟨_, he, _⟩ := putAccessControlProfile_effect hexec
    exact (he.brings role a ha).imp_right fun hcols => ⟨p, .inl rfl, hcols⟩
  | update p =>
    have hbrings : Brings p w (Call.run env w (.update p)) :=
      (brings_updateAccessControlProfile env p).exec (Brings.refl p) (Brings.trans p) w
    exact (hbrings role a ha).imp_right fun hcols => ⟨p, .inr rfl, hcols⟩
  | delete id =>
    obtain ⟨_, he⟩ := deleteAccessControlProfile_effect hexec
    exact .inl (he.mem_parties ha)

/-! ## What one call does -/

/-- A key goes into the asset store when its place is free and the call does not fail. -/
theorem AssetStore.putAsset_eq_ok_iff {assets assets' : AssetStore} {a : Asset} {fault : Bool} :
    assets.putAsset a fault = .ok assets' ↔
      fault = false ∧ assets.find? a.key = none ∧ assets' = assets.emplace a := by
  unfold putAsset
  cases fault with
  | true => simp
  | false =>
    by_cases hfind : assets.find? a.key = none
    · simp [hfind, eq_comm]
    · have hsome := Option.isSome_iff_ne_none.mpr hfind
      simp [hfind, hsome]

/-- A put that returned an id, or one that left the asset store and the tables alone. -/
theorem putSessionKey_cases (userId : Nat) (sessionKey : List UInt8) (draws : List Int)
    (fault : Bool) (s : SessionState) :
    (∃ sessionKeyId w, IsSessionKey userId sessionKey ∧ fault = false ∧
      (generatedSessionKeyId draws).exec s.world = (.ok (some sessionKeyId), w) ∧
      s.assets.find? (userId, sessionKeyId) = none ∧ w.tables = s.world.tables ∧
      putSessionKey userId sessionKey draws fault s = (some (.ok sessionKeyId),
        ⟨w, s.assets.emplace ⟨userId, sessionKeyId, sessionKey⟩⟩)) ∨
      ((∀ sessionKeyId, (putSessionKey userId sessionKey draws fault s).1 ≠
        some (.ok sessionKeyId)) ∧
        (IsSessionKey userId sessionKey → fault = false → ∀ sessionKeyId w,
          (generatedSessionKeyId draws).exec s.world = (.ok (some sessionKeyId), w) →
          s.assets.find? (userId, sessionKeyId) ≠ none) ∧
        (putSessionKey userId sessionKey draws fault s).2.assets = s.assets ∧
        (putSessionKey userId sessionKey draws fault s).2.world.tables = s.world.tables) := by
  have htables := ((reads_generatedSessionKeyId draws).exec Reads.refl Reads.trans s.world).tables
  unfold putSessionKey
  by_cases hvalid : IsSessionKey userId sessionKey
  · rw [if_neg (not_not.mpr hvalid)]
    cases hexec : (generatedSessionKeyId draws).exec s.world with
    | mk result w =>
      rw [hexec] at htables
      match result with
      | .error e => exact .inr ⟨nofun, nofun, rfl, htables⟩
      | .ok none => exact .inr ⟨nofun, nofun, rfl, htables⟩
      | .ok (some sessionKeyId) =>
        dsimp only
        cases hput : s.assets.putAsset ⟨userId, sessionKeyId, sessionKey⟩ fault with
        | error e =>
          refine .inr ⟨nofun, fun _ hfault id _ hid hfree => ?_, rfl, htables⟩
          obtain rfl : sessionKeyId = id :=
            Option.some.inj (Except.ok.inj (Prod.mk.inj hid).1)
          rw [AssetStore.putAsset_eq_ok_iff.mpr ⟨hfault, hfree, rfl⟩] at hput
          cases hput
        | ok assets =>
          obtain ⟨rfl, hfind, rfl⟩ := AssetStore.putAsset_eq_ok_iff.mp hput
          exact .inl ⟨sessionKeyId, w, hvalid, rfl, rfl, hfind, htables, rfl⟩
  · rw [if_pos hvalid]
    exact .inr ⟨nofun, fun h => absurd h hvalid, rfl, rfl⟩

namespace SessionRun

variable {env : Env} {r : SessionRun}

/-- A put adds the key to everything, or it changes none of it. -/
theorem step_putSessionKey_cases (env : Env) (r : SessionRun) (userId : Nat)
    (sessionKey : List UInt8) (draws : List Int) (fault : Bool) :
    (∃ sessionKeyId w, IsSessionKey userId sessionKey ∧ fault = false ∧
      (generatedSessionKeyId draws).exec r.state.world = (.ok (some sessionKeyId), w) ∧
      r.state.assets.find? (userId, sessionKeyId) = none ∧ w.tables = r.state.world.tables ∧
      r.step env (.putSessionKey userId sessionKey draws fault) =
        { state := ⟨w, r.state.assets.emplace ⟨userId, sessionKeyId, sessionKey⟩⟩
          returned := ⟨userId, sessionKeyId, sessionKey⟩ :: r.returned
          kept := ⟨userId, sessionKeyId, sessionKey⟩ :: r.kept }) ∨
      ∃ state, state.assets = r.state.assets ∧ state.world.tables = r.state.world.tables ∧
        (IsSessionKey userId sessionKey → fault = false → ∀ sessionKeyId w,
          (generatedSessionKeyId draws).exec r.state.world = (.ok (some sessionKeyId), w) →
          r.state.assets.find? (userId, sessionKeyId) ≠ none) ∧
        r.step env (.putSessionKey userId sessionKey draws fault) = { r with state } := by
  unfold step
  obtain ⟨sessionKeyId, w, hvalid, hfault, hexec, hfind, htables, hput⟩ |
      ⟨hno, hused, hassets, htables⟩ :=
    putSessionKey_cases userId sessionKey draws fault r.state
  · refine .inl ⟨sessionKeyId, w, hvalid, hfault, hexec, hfind, htables, ?_⟩
    simp only [hput]
  · right
    cases hput : DeviceProfile.putSessionKey userId sessionKey draws fault r.state with
    | mk id state =>
      rw [hput] at hno hassets htables
      refine ⟨state, hassets, htables, hused, ?_⟩
      match id with
      | none => simp only [hput]
      | some (.error e) => simp only [hput]
      | some (.ok sessionKeyId) => exact absurd rfl (hno sessionKeyId)

/-- What the asset store holds are the keys that are kept, and they were returned for users
that can own one. -/
structure Recorded (r : SessionRun) : Prop where
  assets : r.state.assets.elems = r.kept
  returned : r.kept ⊆ r.returned
  valid : ∀ g ∈ r.returned, IsSessionKey g.userId g.secret

theorem recorded_start (faults : List Bool) : (start faults).Recorded :=
  ⟨rfl, fun _ hg => hg, nofun⟩

/-- Every call records what it returns. -/
theorem recorded_step (h : r.Recorded) (call : SessionCall) : (r.step env call).Recorded := by
  cases call with
  | putSessionKey userId sessionKey draws fault =>
    obtain ⟨sessionKeyId, w, hvalid, -, -, hfind, -, hstep⟩ | ⟨state, hassets, -, -, hstep⟩ :=
      step_putSessionKey_cases env r userId sessionKey draws fault
    · rw [hstep]
      refine ⟨?_, List.cons_subset_cons _ h.returned, ?_⟩
      · rw [← h.assets]
        exact KeyedSet.elems_emplace hfind
      · simpa using ⟨hvalid, h.valid⟩
    · rw [hstep]
      exact ⟨hassets ▸ h.assets, h.returned, h.valid⟩
  | deleteSessionKey userId sessionKeyId fault =>
    unfold step deleteSessionKey AssetStore.deleteAsset
    by_cases huser : userId = 0
    · simpa [huser] using h
    cases fault with
    | true => simpa [huser] using h
    | false =>
      cases hfind : r.state.assets.find? (userId, sessionKeyId) with
      | none => simpa [huser, hfind] using h
      | some a =>
        have hkey := KeyedSet.key_of_find? hfind
        simp only [huser, if_false, hfind, Bool.false_eq_true]
        refine ⟨?_, ?_, h.valid⟩
        · simp only [KeyedSet.erase, hkey, h.assets]
        · exact fun g hg => h.returned (List.mem_of_mem_filter hg)
  | acl call => exact ⟨h.assets, h.returned, h.valid⟩

/-- Ids returned for different users differ, and parties carry ids of their users. -/
structure Owned (r : SessionRun) : Prop where
  owner : ∀ g ∈ r.returned, ∀ g' ∈ r.returned, g.sessionKeyId = g'.sessionKeyId →
    g.userId = g'.userId
  carried : ∀ role, ∀ a ∈ r.state.world.tables.parties role, r.Owns a

theorem owned_start (faults : List Bool) : (start faults).Owned := by
  refine ⟨nofun, fun role a ha => ?_⟩
  cases role <;> exact absurd ha (Table.not_mem_empty a)

/-- A call that carries and draws its own keys leaves every party its own. -/
theorem owned_step (h : r.Owned) {call : SessionCall} (hcarries : r.CarriesOwn call)
    (hdraws : r.DrawsOwn call) : (r.step env call).Owned := by
  cases call with
  | putSessionKey userId sessionKey draws fault =>
    obtain ⟨sessionKeyId, w, hvalid, rfl, hexec, -, htables, hstep⟩ |
        ⟨state, -, htables, -, hstep⟩ :=
      step_putSessionKey_cases env r userId sessionKey draws fault
    · have hown := hdraws hvalid sessionKeyId w hexec
      rw [hstep]
      constructor
      · intro g hg g' hg' hid
        rcases List.mem_cons.mp hg with rfl | hg
        · rcases List.mem_cons.mp hg' with rfl | hg'
          · rfl
          · exact (hown g' hg' hid.symm).symm
        · rcases List.mem_cons.mp hg' with rfl | hg'
          · exact hown g hg hid
          · exact h.owner g hg g' hg' hid
      · intro role a ha
        simp only [htables] at ha
        obtain ⟨g, hg, hgives⟩ := h.carried role a ha
        exact ⟨g, List.mem_cons_of_mem _ hg, hgives⟩
    · rw [hstep]
      refine ⟨h.owner, fun role a ha => ?_⟩
      simp only [htables] at ha
      exact h.carried role a ha
  | deleteSessionKey userId sessionKeyId fault =>
    unfold step deleteSessionKey
    by_cases huser : userId = 0
    · simpa [huser] using h
    cases hdelete : r.state.assets.deleteAsset (userId, sessionKeyId) fault with
    | error e => simpa [huser, hdelete] using h
    | ok assets =>
      simp only [huser, if_false, hdelete]
      exact ⟨h.owner, h.carried⟩
  | acl call =>
    refine ⟨h.owner, fun role a ha => ?_⟩
    rcases mem_parties_run ha with ha | ⟨p, hcall, hcols⟩
    · exact h.carried role a ha
    · have hown : r.Owns (p.party role) := by
        rcases hcall with rfl | rfl <;> exact hcarries role
      obtain ⟨g, hg, huser, hid⟩ := hown
      refine ⟨g, hg, ?_, ?_⟩
      · rw [huser]
        exact (congrArg PartyIndex.userId hcols).symm
      · rw [hid]
        exact (congrArg PartyIndex.sessionKeyId hcols).symm

/-! ## Runs -/

/-- The users of the kept keys are told apart by the ids. -/
theorem Owned.resolves (h : r.Owned) (hrecorded : r.Recorded) : r.Resolves := by
  have howner : ∀ g ∈ r.returned, ∀ role, ∀ a ∈ r.state.world.tables.parties role,
      a.sessionKeyId = g.sessionKeyId → a.userId = g.userId := by
    intro g hg role a ha hid
    obtain ⟨g', hg', huser, hid'⟩ := h.carried role a ha
    rw [← huser, h.owner g' hg' g hg (hid'.trans hid)]
  refine ⟨?_, fun g hg hcarried userId => ?_, fun g hg hcarried sessionKey => ?_⟩
  · apply List.pairwise_map.mpr
    rw [← hrecorded.assets]
    refine r.state.assets.distinct.imp_of_mem fun {g g'} hg hg' hkey hid => hkey ?_
    rw [hrecorded.assets] at hg hg'
    have huser := h.owner g (hrecorded.returned hg) g' (hrecorded.returned hg') hid
    simp [Asset.key, huser, hid]
  · exact exec_getUserIdBySessionKeyId (howner g hg) hcarried userId
  · have hreturned := hrecorded.returned hg
    have huser := exec_getUserIdBySessionKeyId (n := r.state.world.notices)
      (howner g hreturned) hcarried 0
    have hfind : r.state.assets.find? (g.userId, g.sessionKeyId) = some g :=
      KeyedSet.find?_of_mem (x := g) (hrecorded.assets ▸ hg)
    obtain ⟨huserId, hsecret, hlength⟩ := hrecorded.valid g hreturned
    have hnonempty : g.secret.length ≠ 0 := by simpa using hsecret
    have hget : r.state.assets.getSessionKey g.userId g.sessionKeyId = .ok g.secret := by
      rw [AssetStore.getSessionKey, if_neg huserId, hfind]
      simp only
      rw [if_neg (by omega)]
    unfold getSessionKey calm
    rw [huser]
    simp only [Int.natCast_nonneg, Int.not_lt.mpr, if_false, Int.toNat_natCast, hget]

/-- A put that draws the id of another user leaves two kept keys with that id. -/
theorem drawsOwn_of_resolves (hrecorded : r.Recorded) (hkept : r.returned ⊆ r.kept)
    (h : r.Resolves) {call : SessionCall} (hnext : (r.step env call).Resolves) :
    r.DrawsOwn call := by
  match call with
  | .deleteSessionKey _ _ _ => trivial
  | .acl _ => trivial
  | .putSessionKey _ _ _ true => trivial
  | .putSessionKey userId sessionKey draws false =>
    intro hvalid sessionKeyId w hexec g hg hid
    have hunique : ∀ {r : SessionRun}, r.Resolves → ∀ g ∈ r.kept, ∀ g' ∈ r.kept,
        g.sessionKeyId = g'.sessionKeyId → g = g' :=
      fun h _ hg _ hg' heq => List.inj_on_of_nodup_map h.distinct hg hg' heq
    obtain ⟨id, _, -, -, hid', -, -, hstep⟩ | ⟨_, -, -, hused, -⟩ :=
      step_putSessionKey_cases env r userId sessionKey draws false
    · rw [hexec] at hid'
      obtain rfl : sessionKeyId = id := Option.some.inj (Except.ok.inj (Prod.mk.inj hid').1)
      rw [hstep] at hnext
      rw [hunique hnext g (List.mem_cons_of_mem _ (hkept hg)) _ List.mem_cons_self hid]
    · obtain ⟨a, ha⟩ := Option.ne_none_iff_exists'.mp (hused hvalid rfl sessionKeyId w hexec)
      have hkey : a.key = (userId, sessionKeyId) := KeyedSet.key_of_find? ha
      obtain ⟨huser, hid'⟩ := Prod.mk.inj hkey
      have hmem : a ∈ r.kept := hrecorded.assets ▸ KeyedSet.mem_of_find? ha
      rw [hunique h g (hkept hg) a hmem (hid.trans hid'.symm), huser]

/-- Only a call that deletes a key makes one that was returned disappear. -/
theorem returned_subset_kept_step (h : r.returned ⊆ r.kept) {call : SessionCall}
    (hcall : call.KeepsKeys) : (r.step env call).returned ⊆ (r.step env call).kept := by
  cases call with
  | putSessionKey userId sessionKey draws fault =>
    obtain ⟨_, _, -, -, -, -, -, hstep⟩ | ⟨_, -, -, -, hstep⟩ :=
      step_putSessionKey_cases env r userId sessionKey draws fault
    · rw [hstep]
      exact List.cons_subset_cons _ h
    · rw [hstep]
      exact h
  | deleteSessionKey => exact absurd hcall id
  | acl call => exact h

end SessionRun

/-- Every id resolves to its owner in each state of a run whose puts draw no id of another
user. Where no key is deleted, these are all such runs. -/
theorem sessionKeys_resolve (env : Env) (faults : List Bool) (calls : List SessionCall)
    (hcarries : Admits (SessionRun.step env) SessionRun.CarriesOwn (.start faults) calls) :
    (Admits (SessionRun.step env) SessionRun.DrawsOwn (.start faults) calls →
      ∀ n, ((calls.take n).foldl (SessionRun.step env) (.start faults)).Resolves) ∧
    ((∀ call ∈ calls, call.KeepsKeys) →
      ((∀ n, ((calls.take n).foldl (SessionRun.step env) (.start faults)).Resolves) ↔
        Admits (SessionRun.step env) SessionRun.DrawsOwn (.start faults) calls)) := by
  have hresolves : Admits (SessionRun.step env) SessionRun.DrawsOwn (.start faults) calls →
      ∀ n, ((calls.take n).foldl (SessionRun.step env) (.start faults)).Resolves := by
    intro hdraws n
    have hinv := foldl_invariant (P := fun r => r.Recorded ∧ r.Owned)
      (fun r call h hcall => ⟨SessionRun.recorded_step h.1 call,
        SessionRun.owned_step h.2 hcall.1 hcall.2⟩)
      ⟨SessionRun.recorded_start faults, SessionRun.owned_start faults⟩
      ((hcarries.and hdraws).take n)
    exact hinv.2.resolves hinv.1
  refine ⟨hresolves, fun hkeeps => ⟨fun h => ?_, hresolves⟩⟩
  exact admits_of_forall_take (I := fun r => r.Recorded ∧ r.returned ⊆ r.kept)
    (fun r call hcall h => ⟨SessionRun.recorded_step h.1 call,
      SessionRun.returned_subset_kept_step h.2 hcall⟩)
    (fun r call h hr hnext => SessionRun.drawsOwn_of_resolves h.1 h.2 hr hnext)
    hkeeps ⟨SessionRun.recorded_start faults, fun _ hg => hg⟩ h

/-- An entry whose parties carry a session key of their user. -/
def sessionEntry : AccessControlProfile :=
  { boundEntry with
    accesser := { boundEntry.accesser with sessionKeyId := 7 }
    accessee := { boundEntry.accessee with sessionKeyId := 7 } }

/-- A key is put, and an entry with its id. -/
theorem sessionKeys_resolve_bound :
    (([.putSessionKey 100 [1] [7] false, .acl (.put sessionEntry)] : List SessionCall).foldl
      (SessionRun.step .bare) (.start [])).Resolves := by
  refine (sessionKeys_resolve .bare [] [.putSessionKey 100 [1] [7] false,
    .acl (.put sessionEntry)] ?_).1 ?_ 2
  · refine ⟨trivial, fun role => ?_, trivial⟩
    cases role <;> exact ⟨⟨100, 7, [1]⟩, List.mem_cons_self, rfl, rfl⟩
  · exact ⟨fun _ _ _ _ g hg => absurd hg List.not_mem_nil, trivial, trivial⟩

/-- Two users are given one id while no entry carries it. -/
theorem not_sessionKeys_resolve :
    ¬∀ (env : Env) (faults : List Bool) (calls : List SessionCall),
      Admits (SessionRun.step env) SessionRun.CarriesOwn (.start faults) calls →
      ∀ n, ((calls.take n).foldl (SessionRun.step env) (.start faults)).Resolves := by
  intro h
  have hdistinct := (h .bare [] [.putSessionKey 100 [1] [7] false, .putSessionKey 101 [2] [7] false]
    ⟨trivial, trivial, trivial⟩ 2).distinct
  revert hdistinct
  decide +kernel

end DeviceProfile
