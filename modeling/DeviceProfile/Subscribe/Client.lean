import DeviceProfile.Profile.DbKey
import DeviceProfile.Subscribe.Table

/-!
# The subscriptions of a client

A client keeps a map of its own subscriptions, and sends it to the service after the service has
restarted. A call changes the map first and then asks the service; what the service answers does
not change the map again. Calls and restarts may overlap in any way.
-/

namespace DeviceProfile

open Library Std

/-- The most subscriptions that a client sends at once. -/
def MAX_SUBSCRIBE_INFO_SIZE : Nat := 500

/-! ## The map of the client -/

/-- The key of a subscription in the map of the client. -/
def subscribeTag (subscribeKey : Text) (saId : Int) : Text :=
  subscribeKey ++ SEPARATOR ++ numeral saId

/-- A subscription is kept under its key and its subscriber. -/
def SubscribeInfo.tag (info : SubscribeInfo) : Text := subscribeTag info.subscribeKey info.saId

/-- What a client has subscribed to. -/
abbrev SubscribeInfos := ExtTreeMap Text SubscribeInfo

/-- What becomes of a message to the service: it is answered, it does not arrive or is refused
before anything is done, or only the answer is lost. -/
inductive Delivery where
  | answered
  | undelivered
  | unanswered
  deriving DecidableEq, Repr

namespace DistributedDeviceProfileClient

/-- What is done before the service is asked. -/
def subscribeDeviceProfile (subscribeInfo : SubscribeInfo) (subscribeInfos : SubscribeInfos) :
    Except SubscribeError SubscribeInfos :=
  if MAX_LISTENER_SIZE < subscribeInfos.size then .error .exceedMaxSizeFail
  else .ok (subscribeInfos.insert subscribeInfo.tag subscribeInfo)

/-- What is done before the service is asked. -/
def unSubscribeDeviceProfile (subscribeInfo : SubscribeInfo) (subscribeInfos : SubscribeInfos) :
    SubscribeInfos :=
  subscribeInfos.erase subscribeInfo.tag

/-- The messages that can be written: a subscription needs a listener. -/
def CanSend (info : SubscribeInfo) : Prop := info.listener.isSome

instance (info : SubscribeInfo) : Decidable (CanSend info) :=
  inferInstanceAs (Decidable (_ = true))

/-- A map can be written when it is neither empty nor too large and all of it can. -/
def CanSendInfos (infos : SubscribeInfos) : Prop :=
  infos.size ≠ 0 ∧ infos.size ≤ MAX_LISTENER_SIZE ∧ ∀ item ∈ infos.toList, CanSend item.2

instance (infos : SubscribeInfos) : Decidable (CanSendInfos infos) :=
  inferInstanceAs (Decidable (_ ∧ _ ∧ _))

/-- The map as the service reads it. -/
def receivedInfos (infos : SubscribeInfos) : SubscribeInfos :=
  insertAll SubscribeInfo.tag id (infos.toList.map Prod.snd) ∅

/-- Sends the kept subscriptions in one call, unless the map is empty or too large. -/
def sendSubscribeInfos (delivery : Delivery) (listenerMap : SubscribeInfos)
    (table : SubscribeInfoMap) : SubscribeInfoMap :=
  if ¬CanSendInfos listenerMap ∨ delivery = .undelivered then table
  else subscribeDeviceProfiles (receivedInfos listenerMap) table

/-- Without a service nothing is delivered. -/
def sendSubscribeInfosToService (delivery : Delivery) (subscribeInfos : SubscribeInfos)
    (table : SubscribeInfoMap) : SubscribeInfoMap :=
  if subscribeInfos.isEmpty ∨ MAX_SUBSCRIBE_INFO_SIZE < subscribeInfos.size then table
  else sendSubscribeInfos delivery subscribeInfos table

end DistributedDeviceProfileClient

/-! ## Calls and restarts -/

/-- What the service does for a call. -/
def SubscribeCall.onTable (call : SubscribeCall) (table : SubscribeInfoMap) :
    Except SubscribeError Unit × SubscribeInfoMap :=
  match call with
  | subscribe info => subscribeDeviceProfile info table
  | unSubscribe info => (.ok (), unSubscribeDeviceProfile info table)

/-- A client and the service: the map of the client, the calls that have changed it and not yet
come back, the table of the service, whether it has restarted without having been sent the map,
and the calls that returned success. -/
structure ClientWorld where
  subscribeInfos : SubscribeInfos := ∅
  pending : List SubscribeCall := []
  table : SubscribeInfoMap := ∅
  restarting : Bool := false
  acknowledged : List SubscribeCall := []

/-- What can happen: a call starts, one of those under way comes back, the service restarts, and
the client sends its map. -/
inductive ClientEvent where
  | start (call : SubscribeCall) (hasService : Bool)
  | finish (i : Nat) (delivery : Delivery)
  | restart
  | resend (delivery : Delivery)

namespace ClientWorld

/-- A call changes the map of the client, unless there is no service or the map is full. -/
def start (w : ClientWorld) (call : SubscribeCall) (hasService : Bool) : ClientWorld :=
  if ¬hasService then w
  else
    match call with
    | .subscribe info =>
      match DistributedDeviceProfileClient.subscribeDeviceProfile info w.subscribeInfos with
      | .error _ => w
      | .ok subscribeInfos => { w with subscribeInfos, pending := w.pending ++ [call] }
    | .unSubscribe info =>
      { w with
        subscribeInfos :=
          DistributedDeviceProfileClient.unSubscribeDeviceProfile info w.subscribeInfos
        pending := w.pending ++ [call] }

/-- The service is asked, and the call returns; the map of the client stays as it is. -/
def ask (w : ClientWorld) (call : SubscribeCall) (delivery : Delivery) : ClientWorld :=
  if ¬DistributedDeviceProfileClient.CanSend call.info then w
  else
    match delivery, call.onTable w.table with
    | .undelivered, _ => w
    | .unanswered, (_, table) => { w with table }
    | .answered, (.error _, table) => { w with table }
    | .answered, (.ok (), table) => { w with table, acknowledged := w.acknowledged ++ [call] }

/-- A call under way comes back. -/
def finish (w : ClientWorld) (i : Nat) (delivery : Delivery) : ClientWorld :=
  match w.pending[i]? with
  | none => w
  | some call => { w with pending := w.pending.eraseIdx i }.ask call delivery

/-- One event: a call begins or ends, the service restarts, or the client sends its subscriptions
anew. -/
def step (w : ClientWorld) : ClientEvent → ClientWorld
  | .start call hasService => w.start call hasService
  | .finish i delivery => w.finish i delivery
  | .restart => { w with table := ∅, restarting := true }
  | .resend delivery =>
    { w with
      table := DistributedDeviceProfileClient.sendSubscribeInfosToService delivery
        w.subscribeInfos w.table
      restarting := false }

end ClientWorld

/-! ## The last call for a subscription -/

/-- The call is for this subscribe key and this system ability. -/
def SubscribeCall.IsFor (call : SubscribeCall) (key : Text) (saId : Int) : Prop :=
  call.info.subscribeKey = key ∧ call.info.saId = saId

instance (call : SubscribeCall) (key : Text) (saId : Int) : Decidable (call.IsFor key saId) :=
  inferInstanceAs (Decidable (_ ∧ _))

/-- What a call that succeeds leaves for its subscription. -/
def SubscribeCall.leaves : SubscribeCall → Option SubscribeInfo
  | subscribe info => some info
  | unSubscribe _ => none

section Last

variable {calls more : List SubscribeCall} {call : SubscribeCall} {key : Text} {saId : Int}

/-- The last subscription of a subscriber to a key is what its last call leaves. -/
theorem lastSubscribed_eq (calls : List SubscribeCall) (key : Text) (saId : Int) :
    lastSubscribed calls key saId =
      (calls.filter fun call => call.IsFor key saId).getLast?.bind SubscribeCall.leaves := by
  unfold lastSubscribed
  change _ = Option.bind ((calls.filter fun call =>
    call.info.subscribeKey = key ∧ call.info.saId = saId).getLast?) _
  generalize (calls.filter fun call =>
    call.info.subscribeKey = key ∧ call.info.saId = saId).getLast? = last
  rcases last with _ | _ | _ <;> rfl

/-- Only the calls for a subscription matter. -/
theorem lastSubscribed_congr {calls' : List SubscribeCall}
    (h : (calls.filter fun call => call.IsFor key saId) =
      calls'.filter fun call => call.IsFor key saId) :
    lastSubscribed calls key saId = lastSubscribed calls' key saId := by
  rw [lastSubscribed_eq, lastSubscribed_eq, h]

theorem lastSubscribed_append_of_none (h : ∀ call ∈ more, ¬call.IsFor key saId) :
    lastSubscribed (calls ++ more) key saId = lastSubscribed calls key saId := by
  have hmore : (more.filter fun call => call.IsFor key saId) = [] := by
    simpa [List.filter_eq_nil_iff] using h
  refine lastSubscribed_congr ?_
  rw [List.filter_append, hmore, List.append_nil]

/-- The last of two runs of calls is in the second, if there is one for the subscription. -/
theorem lastSubscribed_append_of_mem (hmem : call ∈ more) (hfor : call.IsFor key saId) :
    lastSubscribed (calls ++ more) key saId = lastSubscribed more key saId := by
  have hne : (more.filter fun call => call.IsFor key saId) ≠ [] :=
    List.ne_nil_of_mem (List.mem_filter.mpr ⟨hmem, decide_eq_true hfor⟩)
  rw [lastSubscribed_eq, lastSubscribed_eq, List.filter_append,
    List.getLast?_append_of_ne_nil _ hne]

/-- One more call leaves its own subscription, or the last one. -/
theorem lastSubscribed_concat_eq (calls : List SubscribeCall) (call : SubscribeCall) (key : Text)
    (saId : Int) :
    lastSubscribed (calls ++ [call]) key saId =
      if call.IsFor key saId then call.leaves else lastSubscribed calls key saId := by
  rw [lastSubscribed_concat]
  refine if_congr ?_ ?_ rfl
  · exact and_congr eq_comm eq_comm
  · cases call <;> rfl

/-- What two runs of calls have left is what the first has left, or one of the second. -/
theorem lastSubscribed_append_cases (calls more : List SubscribeCall) (key : Text) (saId : Int) :
    lastSubscribed (calls ++ more) key saId = lastSubscribed calls key saId ∨
      ∃ call ∈ more, call.IsFor key saId ∧
        lastSubscribed (calls ++ more) key saId = call.leaves := by
  induction more using List.reverseRecOn with
  | nil => exact .inl (by rw [List.append_nil])
  | append_singleton rest call ih =>
    rw [← List.append_assoc, lastSubscribed_concat_eq]
    by_cases hfor : call.IsFor key saId
    · rw [if_pos hfor]
      exact .inr ⟨call, by simp, hfor, rfl⟩
    · rw [if_neg hfor]
      refine ih.imp_right ?_
      rintro ⟨other, hother, hboth⟩
      exact ⟨other, by simp [hother], hboth⟩

/-- A call may be moved before calls for other subscriptions. -/
theorem lastSubscribed_move {before : List SubscribeCall}
    (h : ∀ other ∈ before, ¬other.IsFor call.info.subscribeKey call.info.saId)
    (calls after : List SubscribeCall) (key : Text) (saId : Int) :
    lastSubscribed (calls ++ [call] ++ (before ++ after)) key saId =
      lastSubscribed (calls ++ (before ++ call :: after)) key saId := by
  refine lastSubscribed_congr ?_
  by_cases hfor : call.IsFor key saId
  · have hbefore : (before.filter fun other => other.IsFor key saId) = [] := by
      obtain ⟨rfl, rfl⟩ := hfor
      simpa [List.filter_eq_nil_iff] using h
    simp [List.filter_append, hbefore, hfor]
  · simp [List.filter_append, hfor]

/-- A call that would leave what is there already may be left out. -/
theorem lastSubscribed_drop
    (h : lastSubscribed calls call.info.subscribeKey call.info.saId = call.leaves)
    (more : List SubscribeCall) (key : Text) (saId : Int) :
    lastSubscribed (calls ++ [call] ++ more) key saId =
      lastSubscribed (calls ++ more) key saId := by
  by_cases hmore : ∃ other ∈ more, other.IsFor key saId
  · obtain ⟨other, hother, hfor⟩ := hmore
    rw [lastSubscribed_append_of_mem hother hfor, lastSubscribed_append_of_mem hother hfor]
  · have hnone : ∀ other ∈ more, ¬other.IsFor key saId := fun other hother hfor =>
      hmore ⟨other, hother, hfor⟩
    rw [lastSubscribed_append_of_none hnone, lastSubscribed_append_of_none hnone,
      lastSubscribed_concat_eq]
    split
    · rename_i hfor
      rw [← h, hfor.1, hfor.2]
    · rfl

end Last

/-! ## What a step changes -/

/-- A text before the last separator is determined. -/
theorem append_separator_inj {a a' b b' : Text} (hb : separator ∉ b) (hb' : separator ∉ b')
    (h : a ++ SEPARATOR ++ b = a' ++ SEPARATOR ++ b') : a = a' ∧ b = b' := by
  rw [SEPARATOR, List.append_assoc, List.append_assoc] at h
  simp only [List.singleton_append] at h
  rcases List.append_eq_append_iff.mp h with ⟨mid, ha, hmid⟩ | ⟨mid, ha, hmid⟩
  · cases mid with
    | nil => exact ⟨by rw [ha, List.append_nil], (List.cons.inj hmid).2⟩
    | cons first rest =>
      rw [List.cons_append] at hmid
      refine absurd ?_ hb
      rw [(List.cons.inj hmid).2]
      exact List.mem_append_right _ List.mem_cons_self
  · cases mid with
    | nil => exact ⟨by rw [ha, List.append_nil], (List.cons.inj hmid).2.symm⟩
    | cons first rest =>
      rw [List.cons_append] at hmid
      refine absurd ?_ hb'
      rw [(List.cons.inj hmid).2]
      exact List.mem_append_right _ List.mem_cons_self

/-- Different subscriptions have different keys in the map of the client. -/
theorem subscribeTag_inj {key key' : Text} {saId saId' : Int} :
    subscribeTag key saId = subscribeTag key' saId' ↔ key = key' ∧ saId = saId' := by
  constructor
  · intro h
    obtain ⟨hkey, hid⟩ := append_separator_inj (DbKey.separator_not_mem_numeral saId)
      (DbKey.separator_not_mem_numeral saId') h
    exact ⟨hkey, numeral_injective hid⟩
  · rintro ⟨rfl, rfl⟩
    rfl

/-- A call is for a subscriber and a key when its tag says so. -/
theorem SubscribeCall.isFor_iff_tag (call : SubscribeCall) (key : Text) (saId : Int) :
    call.IsFor key saId ↔ call.info.tag = subscribeTag key saId :=
  subscribeTag_inj.symm

/-- A sound table stays sound and holds for the subscription of a call what it asks for, and for
every other subscription what it held. -/
structure SubscribeCall.Leaves (call : SubscribeCall) (m table : SubscribeInfoMap) : Prop where
  sound : m.IsSound → table.IsSound
  held : ∀ key saId, SubscribeInfoMap.held table key saId =
    if call.IsFor key saId then call.leaves else SubscribeInfoMap.held m key saId

/-- The service refuses a call and its table stays as it is, or it accepts it. -/
theorem onTable_spec (call : SubscribeCall) (m : SubscribeInfoMap) :
    (call.onTable m = (.error .exceedMaxSizeFail, m) ∧
      ∃ info, call = .subscribe info ∧ ¬SubscribeInfoMap.HasRoomFor m info) ∨
    ∃ table, call.onTable m = (.ok (), table) ∧ call.Leaves m table := by
  have hcomm : ∀ (info : SubscribeInfo) (key : Text) (saId : Int),
      (key = info.subscribeKey ∧ saId = info.saId) ↔
        info.subscribeKey = key ∧ info.saId = saId := fun _ _ _ => and_congr eq_comm eq_comm
  cases call with
  | subscribe info =>
    by_cases hroom : SubscribeInfoMap.HasRoomFor m info
    · refine .inr ⟨(subscribeDeviceProfile info m).2, ?_, fun h => h.subscribe info,
        fun key saId => ?_⟩
      · rw [SubscribeCall.onTable, SubscribeInfoMap.subscribeDeviceProfile_of_room hroom]
      · rw [SubscribeInfoMap.held_subscribe hroom]
        exact if_congr (hcomm info key saId) rfl rfl
    · exact .inl ⟨SubscribeInfoMap.subscribeDeviceProfile_of_no_room hroom, info, rfl, hroom⟩
  | unSubscribe info =>
    refine .inr ⟨_, rfl, fun h => h.unSubscribe info, fun key saId => ?_⟩
    rw [SubscribeInfoMap.held_unSubscribe]
    exact if_congr (hcomm info key saId) rfl rfl

/-! ### Sending the map -/

/-- There is room for the subscriptions of a list, one after the other. -/
def HasRoomForAll : SubscribeInfoMap → List SubscribeInfo → Prop
  | _, [] => True
  | m, info :: rest =>
    SubscribeInfoMap.HasRoomFor m info ∧ HasRoomForAll (subscribeDeviceProfile info m).2 rest

instance decidableHasRoomForAll :
    (m : SubscribeInfoMap) → (infos : List SubscribeInfo) → Decidable (HasRoomForAll m infos)
  | _, [] => isTrue trivial
  | m, info :: rest =>
    have := decidableHasRoomForAll (subscribeDeviceProfile info m).2 rest
    inferInstanceAs (Decidable (_ ∧ _))

/-- Subscribe to all of a list. -/
def subscribeAll (infos : List SubscribeInfo) (m : SubscribeInfoMap) : SubscribeInfoMap :=
  infos.foldl (fun m info => (subscribeDeviceProfile info m).2) m

theorem subscribeDeviceProfiles_eq (infos : SubscribeInfos) (m : SubscribeInfoMap) :
    subscribeDeviceProfiles infos m = subscribeAll (infos.toList.map Prod.snd) m := by
  rw [subscribeDeviceProfiles, subscribeAll, List.foldl_map]

section SubscribeAll

variable {infos : List SubscribeInfo} {m : SubscribeInfoMap} {key : Text} {saId : Int}

/-- Subscriptions in a row leave a sound table. -/
theorem isSound_subscribeAll (infos : List SubscribeInfo) (h : m.IsSound) :
    (subscribeAll infos m).IsSound := by
  induction infos generalizing m with
  | nil => exact h
  | cons info rest ih => exact ih (h.subscribe info)

/-- The table holds what it held before, or a subscription of the list. -/
theorem held_subscribeAll_cases (infos : List SubscribeInfo) (m : SubscribeInfoMap) (key : Text)
    (saId : Int) :
    (subscribeAll infos m).held key saId = m.held key saId ∨
      ∃ info ∈ infos, info.tag = subscribeTag key saId ∧
        (subscribeAll infos m).held key saId = some info := by
  induction infos generalizing m with
  | nil => exact .inl rfl
  | cons info rest ih =>
    rcases ih (subscribeDeviceProfile info m).2 with hsame | ⟨other, hother, hboth⟩
    · have hcons : (subscribeAll (info :: rest) m).held key saId =
          SubscribeInfoMap.held (subscribeDeviceProfile info m).2 key saId := hsame
      rw [hcons]
      by_cases hroom : SubscribeInfoMap.HasRoomFor m info
      · rw [SubscribeInfoMap.held_subscribe hroom]
        by_cases hfor : key = info.subscribeKey ∧ saId = info.saId
        · rw [if_pos hfor]
          exact .inr ⟨info, List.mem_cons_self, subscribeTag_inj.mpr ⟨hfor.1.symm, hfor.2.symm⟩,
            rfl⟩
        · rw [if_neg hfor]
          exact .inl rfl
      · rw [SubscribeInfoMap.subscribeDeviceProfile_of_no_room hroom]
        exact .inl rfl
    · exact .inr ⟨other, List.mem_cons_of_mem _ hother, hboth⟩

/-- Where there is room for all, the table holds the one subscription of the list for a key and
a system ability. -/
theorem held_subscribeAll {info : SubscribeInfo} (hroom : HasRoomForAll m infos)
    (hfor : info.tag = subscribeTag key saId)
    (hone : ∀ other ∈ infos, other.tag = subscribeTag key saId → other = info)
    (h : info ∈ infos ∨ m.held key saId = some info) :
    (subscribeAll infos m).held key saId = some info := by
  induction infos generalizing m with
  | nil => exact h.resolve_left List.not_mem_nil
  | cons first rest ih =>
    refine ih hroom.2 (fun other hother => hone other (List.mem_cons_of_mem _ hother)) ?_
    rw [SubscribeInfoMap.held_subscribe hroom.1]
    by_cases hfirst : first.tag = subscribeTag key saId
    · obtain ⟨hkey, hid⟩ := subscribeTag_inj.mp hfirst
      rw [if_pos ⟨hkey.symm, hid.symm⟩, hone first List.mem_cons_self hfirst]
      exact .inr rfl
    · have hne : ¬(key = first.subscribeKey ∧ saId = first.saId) := fun heq =>
        hfirst (subscribeTag_inj.mpr ⟨heq.1.symm, heq.2.symm⟩)
      rw [if_neg hne]
      refine h.imp_left fun hmem => ?_
      rcases List.mem_cons.mp hmem with rfl | hmem
      · exact absurd hfor hfirst
      · exact hmem

end SubscribeAll

/-! ## Runs -/

namespace ClientWorld

open DistributedDeviceProfileClient

/-- A call under way may come back when no call for the same subscription has changed the map
before it, and it either returns success or asks for what the last call that did has left. -/
def MayReturn (w : ClientWorld) (i : Nat) (delivery : Delivery) (call : SubscribeCall) : Prop :=
  (∀ other ∈ w.pending.take i, ¬other.IsFor call.info.subscribeKey call.info.saId) ∧
    (lastSubscribed w.acknowledged call.info.subscribeKey call.info.saId = call.leaves ∨
      CanSend call.info ∧ delivery = .answered ∧ (call.onTable w.table).1 = .ok ())

instance (w : ClientWorld) (i : Nat) (delivery : Delivery) (call : SubscribeCall) :
    Decidable (w.MayReturn i delivery call) :=
  inferInstanceAs (Decidable (_ ∧ (_ ∨ _ ∧ _ ∧ _)))

/-- Calls come back as they may, and when the map is sent to a service that has restarted, all of
it is accepted. -/
def IsSafe (w : ClientWorld) : ClientEvent → Prop
  | .start _ _ => True
  | .finish i delivery => ∀ call ∈ w.pending[i]?, w.MayReturn i delivery call
  | .restart => True
  | .resend delivery => w.restarting → ¬w.subscribeInfos.isEmpty →
    CanSendInfos w.subscribeInfos ∧ delivery ≠ .undelivered ∧
      HasRoomForAll w.table (w.subscribeInfos.toList.map Prod.snd)

instance (w : ClientWorld) (event : ClientEvent) : Decidable (w.IsSafe event) :=
  match event with
  | .start _ _ => isTrue trivial
  | .finish i delivery => Option.decidableForallMem (p := w.MayReturn i delivery) w.pending[i]?
  | .restart => isTrue trivial
  | .resend _ => inferInstanceAs (Decidable (_ → _ → _ ∧ _ ∧ _))

/-- The map of the client is what the calls have left when those under way are counted, and the
table of the service holds for each subscription what the calls that returned have left, or what
one under way asks for, or nothing while the service has not been sent the map. -/
structure IsInStep (w : ClientWorld) : Prop where
  tags : ∀ {tag : Text} {info : SubscribeInfo}, w.subscribeInfos[tag]? = some info → info.tag = tag
  sound : w.table.IsSound
  asked : ∀ key saId, w.subscribeInfos[subscribeTag key saId]? =
    lastSubscribed (w.acknowledged ++ w.pending) key saId
  held : ∀ key saId,
    SubscribeInfoMap.held w.table key saId = lastSubscribed w.acknowledged key saId ∨
    (∃ call ∈ w.pending, call.IsFor key saId ∧
      SubscribeInfoMap.held w.table key saId = call.leaves) ∨
    (w.restarting ∧ SubscribeInfoMap.held w.table key saId = none)

variable {w : ClientWorld}

theorem held_empty (key : Text) (saId : Int) :
    SubscribeInfoMap.held ∅ key saId = none := by
  rw [SubscribeInfoMap.held, SubscribeInfoMap.bucket_of_not_mem ExtTreeMap.not_mem_empty]
  rfl

theorem isInStep_start : ({} : ClientWorld).IsInStep where
  tags := fun h => by
    rw [ExtTreeMap.getElem?_empty] at h
    cases h
  sound := SubscribeInfoMap.isSound_empty
  asked := fun key saId => by
    rw [ExtTreeMap.getElem?_empty]
    rfl
  held := fun key saId => .inl (held_empty key saId)

/-- What the map of the client holds is what the last call that returned has left, or what a call
under way asks for. -/
theorem IsInStep.asked_cases (h : w.IsInStep) (key : Text) (saId : Int) :
    w.subscribeInfos[subscribeTag key saId]? = lastSubscribed w.acknowledged key saId ∨
      ∃ call ∈ w.pending, call.IsFor key saId ∧
        w.subscribeInfos[subscribeTag key saId]? = call.leaves := by
  rw [h.asked]
  exact lastSubscribed_append_cases _ _ _ _

/-- A call that changes the map as it asks keeps the two in step. -/
theorem IsInStep.enter (h : w.IsInStep) {call : SubscribeCall} {infos : SubscribeInfos}
    (htags : ∀ {tag : Text} {info : SubscribeInfo}, infos[tag]? = some info → info.tag = tag)
    (hinfos : ∀ key saId, infos[subscribeTag key saId]? =
      if call.IsFor key saId then call.leaves else w.subscribeInfos[subscribeTag key saId]?) :
    { w with subscribeInfos := infos, pending := w.pending ++ [call] : ClientWorld }.IsInStep where
  tags := htags
  sound := h.sound
  asked := fun key saId => by
    dsimp only
    rw [hinfos, ← List.append_assoc, lastSubscribed_concat_eq, h.asked]
  held := fun key saId => by
    refine (h.held key saId).imp_right (Or.imp_left ?_)
    rintro ⟨other, hother, hboth⟩
    exact ⟨other, List.mem_append_left _ hother, hboth⟩

/-- A call that begins leaves client and service in step. -/
theorem IsInStep.start (h : w.IsInStep) (call : SubscribeCall) (hasService : Bool) :
    (w.start call hasService).IsInStep := by
  cases hasService with
  | false => cases call <;> exact h
  | true =>
    cases call with
    | subscribe info =>
      by_cases hfull : MAX_LISTENER_SIZE < w.subscribeInfos.size
      · have hlocal : DistributedDeviceProfileClient.subscribeDeviceProfile info w.subscribeInfos =
            .error .exceedMaxSizeFail := if_pos hfull
        simp only [ClientWorld.start.eq_def, hlocal]
        exact h
      · have hlocal : DistributedDeviceProfileClient.subscribeDeviceProfile info w.subscribeInfos =
            .ok (w.subscribeInfos.insert info.tag info) := if_neg hfull
        simp only [ClientWorld.start.eq_def, hlocal]
        refine h.enter (fun {tag other} hother => ?_) fun key saId => ?_
        · rw [ExtTreeMap.getElem?_insert] at hother
          split at hother
          · rename_i heq
            rw [← Option.some.inj hother]
            exact LawfulEqCmp.compare_eq_iff_eq.mp heq
          · exact h.tags hother
        · rw [ExtTreeMap.getElem?_insert]
          refine if_congr ?_ rfl rfl
          rw [LawfulEqCmp.compare_eq_iff_eq, SubscribeCall.isFor_iff_tag]
          rfl
    | unSubscribe info =>
      refine h.enter (fun {tag other} hother => ?_) fun key saId => ?_
      · rw [DistributedDeviceProfileClient.unSubscribeDeviceProfile,
          ExtTreeMap.getElem?_erase] at hother
        split at hother
        · cases hother
        · exact h.tags hother
      · rw [DistributedDeviceProfileClient.unSubscribeDeviceProfile, ExtTreeMap.getElem?_erase]
        refine if_congr ?_ rfl rfl
        rw [LawfulEqCmp.compare_eq_iff_eq, SubscribeCall.isFor_iff_tag]
        rfl

/-- A call that comes back either returns success, and the table holds what it asks for; or it
does not, and the table is as it was or holds what it asks for all the same. -/
theorem ask_cases (w : ClientWorld) (call : SubscribeCall) (delivery : Delivery) :
    (∃ table, call.Leaves w.table table ∧
      w.ask call delivery = { w with table, acknowledged := w.acknowledged ++ [call] }) ∨
    ¬(CanSend call.info ∧ delivery = .answered ∧ (call.onTable w.table).1 = .ok ()) ∧
      ∃ table, (table = w.table ∨ call.Leaves w.table table) ∧
        w.ask call delivery = { w with table } := by
  rw [ask.eq_def]
  by_cases hsend : CanSend call.info
  swap
  · rw [if_pos hsend]
    exact .inr ⟨fun h => hsend h.1, w.table, .inl rfl, rfl⟩
  rw [if_neg (not_not.mpr hsend)]
  rcases onTable_spec call w.table with ⟨hrefused, -⟩ | ⟨table, haccepted, hleaves⟩
  · rw [hrefused]
    refine .inr ⟨(fun h => by cases h.2.2), w.table, .inl rfl, ?_⟩
    cases delivery <;> rfl
  · rw [haccepted]
    cases delivery with
    | answered => exact .inl ⟨table, hleaves, rfl⟩
    | undelivered => exact .inr ⟨(fun h => by cases h.2.1), w.table, .inl rfl, rfl⟩
    | unanswered => exact .inr ⟨(fun h => by cases h.2.1), table, .inr hleaves, rfl⟩

/-- A call under way that is the first for its subscription may go, when the calls that returned
leave for its subscription what it asks for, and so does the table, unless nothing has changed. -/
theorem IsInStep.leave (h : w.IsInStep) {before after : List SubscribeCall} {call : SubscribeCall}
    (hpending : w.pending = before ++ call :: after)
    (hfirst : ∀ other ∈ before, ¬other.IsFor call.info.subscribeKey call.info.saId)
    {table : SubscribeInfoMap} {acknowledged : List SubscribeCall}
    (hlast : ∀ more key saId, lastSubscribed (acknowledged ++ more) key saId =
      lastSubscribed (w.acknowledged ++ [call] ++ more) key saId)
    (htable : call.Leaves w.table table ∨ table = w.table ∧
      lastSubscribed w.acknowledged call.info.subscribeKey call.info.saId = call.leaves) :
    { w with table, acknowledged, pending := before ++ after : ClientWorld }.IsInStep := by
  have hreturned : ∀ key saId, lastSubscribed acknowledged key saId =
      if call.IsFor key saId then call.leaves else lastSubscribed w.acknowledged key saId := by
    intro key saId
    have hnone := hlast [] key saId
    rwa [List.append_nil, List.append_nil, lastSubscribed_concat_eq] at hnone
  constructor
  case tags => exact h.tags
  case sound =>
    rcases htable with hleaves | ⟨rfl, -⟩
    · exact hleaves.sound h.sound
    · exact h.sound
  case asked =>
    intro key saId
    dsimp only
    rw [h.asked, hpending, hlast, lastSubscribed_move hfirst]
  case held =>
    intro key saId
    dsimp only
    have hstays : ∀ other ∈ w.pending, other.IsFor key saId →
        call.IsFor key saId ∧ other = call ∨ other ∈ before ++ after := by
      intro other hother hfor
      rw [hpending, List.mem_append, List.mem_cons] at hother
      rcases hother with hbefore | rfl | hafter
      · exact .inr (List.mem_append_left _ hbefore)
      · exact .inl ⟨hfor, rfl⟩
      · exact .inr (List.mem_append_right _ hafter)
    by_cases hfor : call.IsFor key saId
    · rw [hreturned, if_pos hfor]
      rcases htable with hleaves | ⟨rfl, hkept⟩
      · rw [hleaves.held, if_pos hfor]
        exact .inl rfl
      · rcases h.held key saId with hheld | ⟨other, hother, hotherFor, hheld⟩ | hnone
        · rw [hheld, ← hkept, hfor.1, hfor.2]
          exact .inl rfl
        · rcases hstays other hother hotherFor with ⟨-, rfl⟩ | hmem
          · exact .inl hheld
          · exact .inr (.inl ⟨other, hmem, hotherFor, hheld⟩)
        · exact .inr (.inr hnone)
    · have hsame : SubscribeInfoMap.held table key saId =
          SubscribeInfoMap.held w.table key saId := by
        rcases htable with hleaves | ⟨rfl, -⟩
        · rw [hleaves.held, if_neg hfor]
        · rfl
      rw [hreturned, if_neg hfor, hsame]
      refine (h.held key saId).imp_right (Or.imp_left ?_)
      rintro ⟨other, hother, hotherFor, hheld⟩
      have hmem := (hstays other hother hotherFor).resolve_left fun hboth => hfor hboth.1
      exact ⟨other, hmem, hotherFor, hheld⟩

/-- A call that comes back keeps the two in step. -/
theorem IsInStep.finish (h : w.IsInStep) {i : Nat} {delivery : Delivery}
    (hsafe : w.IsSafe (.finish i delivery)) : (w.finish i delivery).IsInStep := by
  rw [ClientWorld.finish]
  cases hcall : w.pending[i]? with
  | none => exact h
  | some call =>
    obtain ⟨hfirst, hanswer⟩ := hsafe call hcall
    obtain ⟨before, after, hpending, hlength⟩ : ∃ before after,
        w.pending = before ++ call :: after ∧ before.length = i := by
      obtain ⟨hi, hget⟩ := List.getElem?_eq_some_iff.mp hcall
      refine ⟨w.pending.take i, w.pending.drop (i + 1), ?_, ?_⟩
      · rw [← hget, List.getElem_cons_drop, List.take_append_drop]
      · rw [List.length_take]
        omega
    have htake : w.pending.take i = before := by
      rw [hpending, ← hlength, List.take_left]
    have herase : w.pending.eraseIdx i = before ++ after := by
      rw [hpending, ← hlength, List.eraseIdx_append_of_length_le (Nat.le_refl _), Nat.sub_self,
        List.eraseIdx_zero, List.tail_cons]
    rw [htake] at hfirst
    simp only [herase]
    rcases ask_cases { w with pending := before ++ after } call delivery with
      ⟨table, hleaves, hasked⟩ | ⟨hfailed, table, htable, hasked⟩
    · rw [hasked]
      exact h.leave hpending hfirst (fun _ _ _ => rfl) (.inl hleaves)
    · have hkept := hanswer.resolve_right hfailed
      rw [hasked]
      refine h.leave hpending hfirst (fun more key saId => ?_) ?_
      · exact (lastSubscribed_drop hkept more key saId).symm
      · exact htable.symm.imp_right fun heq => ⟨heq, hkept⟩

/-- The service restarts. -/
theorem IsInStep.restart (h : w.IsInStep) :
    { w with table := ∅, restarting := true : ClientWorld }.IsInStep where
  tags := h.tags
  sound := SubscribeInfoMap.isSound_empty
  asked := h.asked
  held := fun key saId => .inr (.inr ⟨rfl, held_empty key saId⟩)

/-- The map is sent, or it is not. -/
theorem sendSubscribeInfosToService_cases (h : w.IsInStep) (delivery : Delivery) :
    sendSubscribeInfosToService delivery w.subscribeInfos w.table =
        subscribeAll (w.subscribeInfos.toList.map Prod.snd) w.table ∨
      sendSubscribeInfosToService delivery w.subscribeInfos w.table = w.table ∧
        (w.subscribeInfos.isEmpty ∨
          ¬(CanSendInfos w.subscribeInfos ∧ delivery ≠ .undelivered)) := by
  have hreceived : receivedInfos w.subscribeInfos = w.subscribeInfos := insertAll_toList h.tags
  rw [sendSubscribeInfosToService, sendSubscribeInfos]
  by_cases hempty : w.subscribeInfos.isEmpty
  · rw [if_pos (.inl hempty)]
    exact .inr ⟨rfl, .inl hempty⟩
  by_cases hsend : CanSendInfos w.subscribeInfos ∧ delivery ≠ .undelivered
  · have hsize : ¬MAX_SUBSCRIBE_INFO_SIZE < w.subscribeInfos.size := by
      have hle := hsend.1.2.1
      rw [MAX_LISTENER_SIZE] at hle
      rw [MAX_SUBSCRIBE_INFO_SIZE]
      omega
    rw [if_neg (not_or.mpr ⟨hempty, hsize⟩),
      if_neg (not_or.mpr ⟨not_not.mpr hsend.1, hsend.2⟩), hreceived, subscribeDeviceProfiles_eq]
    exact .inl rfl
  · refine .inr ⟨?_, .inr hsend⟩
    split
    · rfl
    · rw [if_pos]
      exact (not_and_or.mp hsend).imp_right not_not.mp

/-- The map holds each subscription under its tag. -/
theorem IsInStep.mem_subscribeInfos_iff (h : w.IsInStep) {info : SubscribeInfo} :
    info ∈ w.subscribeInfos.toList.map Prod.snd ↔ w.subscribeInfos[info.tag]? = some info := by
  rw [List.mem_map]
  constructor
  · rintro ⟨item, hitem, rfl⟩
    have hget := ExtTreeMap.mem_toList_iff_getElem?_eq_some.mp hitem
    rwa [h.tags hget]
  · intro hget
    exact ⟨(info.tag, info), ExtTreeMap.mem_toList_iff_getElem?_eq_some.mpr hget, rfl⟩

/-- What a table may hold for a subscription after the map is sent: what it held before, or what
the map holds; and the latter if it held nothing since a restart. -/
theorem IsInStep.held_resent (h : w.IsInStep) {key : Text} {saId : Int}
    {table : SubscribeInfoMap}
    (hheld : SubscribeInfoMap.held table key saId = w.subscribeInfos[subscribeTag key saId]? ∨
      SubscribeInfoMap.held table key saId = SubscribeInfoMap.held w.table key saId ∧
        (w.restarting → SubscribeInfoMap.held w.table key saId = none →
          SubscribeInfoMap.held table key saId = w.subscribeInfos[subscribeTag key saId]?)) :
    SubscribeInfoMap.held table key saId = lastSubscribed w.acknowledged key saId ∨
      (∃ call ∈ w.pending, call.IsFor key saId ∧
        SubscribeInfoMap.held table key saId = call.leaves) ∨
      (false = true ∧ SubscribeInfoMap.held table key saId = none) := by
  have hasked := h.asked_cases key saId
  rcases hheld with heq | ⟨hsame, hnone⟩
  · rw [heq]
    exact hasked.imp_right .inl
  · rcases h.held key saId with hlast | hpending | ⟨hrestarting, hheld⟩
    · exact .inl (hsame.trans hlast)
    · rw [hsame]
      exact .inr (.inl hpending)
    · rw [hnone hrestarting hheld]
      exact hasked.imp_right .inl

/-- Sending the map keeps the two in step, and ends a restart when all of it is accepted. -/
theorem IsInStep.resend (h : w.IsInStep) {delivery : Delivery}
    (hsafe : w.IsSafe (.resend delivery)) : (w.step (.resend delivery)).IsInStep := by
  constructor
  case tags => exact h.tags
  case sound =>
    dsimp only [step]
    rcases sendSubscribeInfosToService_cases h delivery with hsent | ⟨hkept, -⟩
    · rw [hsent]
      exact isSound_subscribeAll _ h.sound
    · rw [hkept]
      exact h.sound
  case asked => exact h.asked
  case held =>
    intro key saId
    apply h.held_resent
    dsimp only [step]
    have hempty : w.subscribeInfos.isEmpty → w.subscribeInfos[subscribeTag key saId]? = none := by
      intro hisEmpty
      rw [ExtTreeMap.isEmpty_iff.mp hisEmpty, ExtTreeMap.getElem?_empty]
    rcases sendSubscribeInfosToService_cases h delivery with hsent | ⟨hkept, hreason⟩
    · rw [hsent]
      rcases held_subscribeAll_cases (w.subscribeInfos.toList.map Prod.snd) w.table key saId with
        hsame | ⟨info, hinfo, htag, hheld⟩
      · refine .inr ⟨hsame, fun hrestarting hnone => ?_⟩
        cases hget : w.subscribeInfos[subscribeTag key saId]? with
        | none => exact hsame.trans hnone
        | some info =>
          have hisEmpty : ¬w.subscribeInfos.isEmpty := fun hisEmpty => by
            rw [hempty hisEmpty] at hget
            cases hget
          have htag := h.tags hget
          refine held_subscribeAll (hsafe hrestarting hisEmpty).2.2 htag
            (fun other hother heq => ?_)
            (.inl (h.mem_subscribeInfos_iff.mpr (htag ▸ hget)))
          have hotherGet := h.mem_subscribeInfos_iff.mp hother
          rw [heq, hget] at hotherGet
          exact (Option.some.inj hotherGet).symm
      · refine .inl (hheld.trans ?_)
        rw [← htag, h.mem_subscribeInfos_iff.mp hinfo]
    · rw [hkept]
      refine .inr ⟨rfl, fun hrestarting hnone => ?_⟩
      have hisEmpty : w.subscribeInfos.isEmpty := by
        by_contra hne
        have hsend := hsafe hrestarting hne
        exact hreason.elim hne fun hnot => hnot ⟨hsend.1, hsend.2.1⟩
      rw [hempty hisEmpty, hnone]

/-- Every safe step keeps the client and the service in step. -/
theorem IsInStep.step (h : w.IsInStep) {event : ClientEvent} (hsafe : w.IsSafe event) :
    (w.step event).IsInStep := by
  cases event with
  | start call hasService => exact h.start call hasService
  | finish i delivery => exact h.finish hsafe
  | restart => exact h.restart
  | resend delivery => exact h.resend hsafe

/-- The table of the service holds for each subscribe key and system ability exactly what the last
call that returned success has left. -/
def Agrees (w : ClientWorld) : Prop :=
  ∀ key saId, ((getSubscribeInfos key w.table).elems.filter fun info => info.saId = saId) =
    (lastSubscribed w.acknowledged key saId).toList

/-- In a run whose steps are safe, client and service agree whenever no call is under way and the
service has been sent the map since it has restarted. -/
theorem client_and_service_agree {events : List ClientEvent}
    (hsafe : Admits ClientWorld.step ClientWorld.IsSafe {} events) {n : Nat}
    (hpending : ((events.take n).foldl ClientWorld.step {}).pending = [])
    (hrestarting : ((events.take n).foldl ClientWorld.step {}).restarting = false) :
    ((events.take n).foldl ClientWorld.step {}).Agrees := by
  have hrun : ((events.take n).foldl ClientWorld.step {}).IsInStep :=
    foldl_invariant (fun _ _ h hc => h.step hc) isInStep_start (hsafe.take n)
  intro key saId
  rw [hrun.sound.filter_saId]
  rcases hrun.held key saId with hheld | ⟨call, hcall, -⟩ | ⟨hrestart, -⟩
  · rw [hheld]
  · rw [hpending] at hcall
    cases hcall
  · rw [hrestarting] at hrestart
    cases hrestart

/-- A subscription to a service profile. -/
def cameraInfo (saId : Int) (listener : Option Nat) : SubscribeInfo :=
  { saId, subscribeKey := ("svr#udid#camera#serviceType" : Text)
    subscribeChangeTypes := {.SERVICE_PROFILE_UPDATE}, listener }

/-- Two subscriptions are granted, and the service restarts while one is taken back. -/
def restartsInTime : List ClientEvent :=
  [.start (.subscribe (cameraInfo 1 (some 0))) true, .finish 0 .answered,
    .start (.subscribe (cameraInfo 2 (some 1))) true, .finish 0 .answered,
    .start (.unSubscribe (cameraInfo 1 (some 0))) true, .restart, .finish 0 .answered,
    .resend .answered]

/-- A subscription that has not reached the service is sent after a restart. -/
def revived : List ClientEvent :=
  [.start (.subscribe (cameraInfo 1 (some 0))) true, .finish 0 .undelivered, .restart,
    .resend .answered]

/-- A subscription that cannot be written keeps the map from being sent after a restart. -/
def dropped : List ClientEvent :=
  [.start (.subscribe (cameraInfo 1 (some 0))) true, .finish 0 .answered,
    .start (.subscribe (cameraInfo 2 none)) true, .finish 0 .answered, .restart,
    .resend .answered]

/-- The table has lost the granted subscription with the restart, and holds it again at the
end. -/
theorem client_and_service_agree_in_time :
    ((restartsInTime.take 6).foldl ClientWorld.step {}).table.isEmpty ∧
      (getSubscribeInfos ("svr#udid#camera#serviceType" : Text)
        ((restartsInTime.take 8).foldl ClientWorld.step {}).table).elems =
          [cameraInfo 2 (some 1)] ∧
      ((restartsInTime.take 8).foldl ClientWorld.step {}).Agrees :=
  ⟨by decide +kernel, by decide +kernel,
    client_and_service_agree (by decide +kernel) (by decide +kernel) (by decide +kernel)⟩

/-- A restart revives a subscription whose call has failed, and drops one whose call has returned
success. -/
theorem restart_revives_and_drops :
    ((revived.foldl ClientWorld.step {}).pending = [] ∧
      (revived.foldl ClientWorld.step {}).restarting = false ∧
      (revived.foldl ClientWorld.step {}).acknowledged.isEmpty ∧
      ¬(revived.foldl ClientWorld.step {}).Agrees) ∧
    (dropped.foldl ClientWorld.step {}).pending = [] ∧
      (dropped.foldl ClientWorld.step {}).restarting = false ∧
      (dropped.foldl ClientWorld.step {}).acknowledged.length = 1 ∧
      ¬(dropped.foldl ClientWorld.step {}).Agrees := by
  refine ⟨⟨rfl, rfl, rfl, fun h => ?_⟩, rfl, rfl, by decide +kernel, fun h => ?_⟩
  · exact absurd (h ("svr#udid#camera#serviceType" : Text) 1) (by decide +kernel)
  · exact absurd (h ("svr#udid#camera#serviceType" : Text) 1) (by decide +kernel)

end ClientWorld

end DeviceProfile
