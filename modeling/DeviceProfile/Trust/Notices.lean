import DeviceProfile.Trust.TrustDevice

/-!
# What the calls announce

The notifications that follow the locked section of a call, in the order in which
they are sent. Later parts of a call only add to them, so it is enough to follow
a call up to the notification in question.
-/

namespace DeviceProfile

open Library

variable {env : Env}

/-- The notifications a call has added. -/
def issued (w w' : World) : List Notice := w'.notices.drop w.notices.length

/-- A notification that was added after the start of a call is one of the call. -/
theorem mem_issued {w w' : World} {l : List Notice} {n : Notice} (hl : w.notices <+: l)
    (h : l ++ [n] <+: w'.notices) : n ∈ issued w w' := by
  obtain ⟨between, rfl⟩ := hl
  obtain ⟨rest, hrest⟩ := h
  rw [issued, ← hrest, List.append_assoc, List.append_assoc, List.drop_left, List.mem_append]
  exact Or.inr (List.mem_append_left rest (List.mem_singleton_self n))

/-- The rest of a sequence only adds notifications. -/
private theorem notices_of_rest {α β : Type} {m : DpProg α} {f : α → DpProg β} {w w₁ w' : World}
    {a : α} {r : Except DpError β} (hm : (m >>= f).Steps Unlocked) (h₁ : m.exec w = (.ok a, w₁))
    (h : (f a).exec w₁ = (r, w')) : w₁.notices <+: w'.notices :=
  (Unlocked.of_exec (hm.of_bind h₁) h).notices

/-- A Put announces a new trusted device first, unless the users were joined before. -/
theorem putAclCheck_notices {p : AccessControlProfile} {u a : Bool} {w w' : World}
    {r : Except DpError Unit} (h : (putAclCheck env p u a).exec w = (r, w')) :
    w.notices ++ (if !u && !env.isLnnAcl p then
      [.trustDeviceProfileAdd (convertToTrustDeviceProfile p)] else []) <+: w'.notices := by
  obtain ⟨_, w₁, h₁, h⟩ | ⟨e, h₁, _⟩ := Prog.exec_bind_cases h
  · have hrest := notices_of_rest (unlocked_putAclCheck env p u a) h₁ h
    rw [exec_notifyIf] at h₁
    obtain ⟨_, rfl⟩ := Prod.mk.inj h₁
    exact hrest
  · rw [exec_notifyIf] at h₁
    cases (Prod.mk.inj h₁).1

/-- A Delete announces users that are not joined any more, and then a device without active
entries. -/
theorem deleteTrustDeviceCheck_notices {p : AccessControlProfile} {w w' : World}
    {r : Except DpError Unit} (hw : w.faults = [])
    (h : (deleteTrustDeviceCheck env p).exec w = (r, w')) :
    (w.notices ++ if !w.tables.usersJoined env p && !env.isLnnAcl p then
      [.trustDeviceProfileDelete (convertToTrustDeviceProfile p)] else []) ++
      (if !w.tables.deviceActive env p && !env.isLnnAcl p then
        [.deviceAclInactiveByDelete (convertToTrustDeviceProfile p)] else []) <+: w'.notices := by
  obtain ⟨t, f, n⟩ := w
  obtain rfl : f = [] := hw
  have hsteps := unlocked_deleteTrustDeviceCheck env p
  have hjoined := exec_checkDeviceIdAndUserIdExists env p t n
  unfold deleteTrustDeviceCheck at h hsteps
  replace hsteps := hsteps.of_bind hjoined
  rw [Prog.exec_bind_ok hjoined] at h
  replace hsteps := hsteps.of_bind (exec_notifyIf _ _ ⟨t, [], n⟩)
  rw [Prog.exec_bind_ok (exec_notifyIf _ _ _)] at h
  have hactive := exec_checkDeviceIdActiveAclExists env p t
    (n ++ if !t.usersJoined env p && !env.isLnnAcl p then
      [.trustDeviceProfileDelete (convertToTrustDeviceProfile p)] else [])
  replace hsteps := hsteps.of_bind hactive
  rw [Prog.exec_bind_ok hactive] at h
  obtain ⟨_, w₁, h₁, h⟩ | ⟨e, h₁, _⟩ := Prog.exec_bind_cases h
  · have hrest := notices_of_rest hsteps h₁ h
    rw [exec_notifyIf] at h₁
    obtain ⟨_, rfl⟩ := Prod.mk.inj h₁
    exact hrest
  · rw [exec_notifyIf] at h₁
    cases (Prod.mk.inj h₁).1

/-- How many active entries join the two users of a profile. -/
def Tables.usersActive (env : Env) (t : Tables) (p : AccessControlProfile) : Nat :=
  (t.checked env).countP fun aclProfile =>
    decide (aclProfile.status = STATUS_ACTIVE) && p.queryParams.matchesUsers aclProfile

/-- The count of active entries, where there are entries at all. -/
theorem exec_checkDeviceIdAndUserIdActive {t : Tables} (ht : t.profiles ≠ [])
    (p : AccessControlProfile) (err : DpError) (n : List Notice) :
    ((checkDeviceIdAndUserIdActive env p).orFail err).exec ⟨t, [], n⟩ =
      (.ok (t.usersActive env p), ⟨t, [], n⟩) := by
  have hall := exec_getAllAccessControlProfiles t n
  rw [if_neg (by rwa [List.isEmpty_iff])] at hall
  rw [Prog.exec_orFail, checkDeviceIdAndUserIdActive, getCheckedProfiles,
    Prog.exec_bind_ok (Prog.exec_bind_ok hall _)]
  rfl

/-- An Update announces users that became active, and then users that became inactive. -/
theorem notifyCheck_notices {p old : AccessControlProfile} {w w' : World}
    {r : Except DpError Unit} (hw : w.faults = []) (hne : w.tables.profiles ≠ [])
    (h : (notifyCheck env p old).exec w = (r, w')) :
    ∃ l, w.notices <+: l ∧
      (l ++ if decide (w.tables.usersActive env p = 1 ∧ p.status = STATUS_ACTIVE ∧
          old.status = STATUS_INACTIVE) && !env.isLnnAcl p then
        [.trustDeviceProfileActive (convertToTrustDeviceProfile p)] else []) ++
      (if decide (w.tables.usersActive env p = 0 ∧ p.status = STATUS_INACTIVE ∧
          old.status = STATUS_ACTIVE) && !env.isLnnAcl p then
        [.trustDeviceProfileInactive (convertToTrustDeviceProfile p)] else []) <+:
        w'.notices := by
  have hsteps : (notifyCheck env p old).Steps Unlocked :=
    unlocked_of_notifies (notifies_notifyCheck env p old)
  unfold notifyCheck at h hsteps
  obtain ⟨_, w₁, h₁, h⟩ | ⟨e, h₁, _⟩ := Prog.exec_bind_cases h
  swap
  · obtain ⟨_, _, hv⟩ := Prog.exec_getD_cases h₁
    cases hv
  replace hsteps := hsteps.of_bind h₁
  have hn := Notifies.of_exec
    (Prog.steps_getD (notifies_notifyAccountAclCheck env p old) ()) h₁
  obtain ⟨t, f, l⟩ := w₁
  obtain rfl : t = w.tables := hn.tables
  obtain rfl : f = [] := hn.calm hw
  refine ⟨l, hn.notices, ?_⟩
  have hcount := @exec_checkDeviceIdAndUserIdActive env _ hne p .notifyTrustDeviceFail l
  replace hsteps := hsteps.of_bind hcount
  rw [Prog.exec_bind_ok hcount] at h
  replace hsteps := hsteps.of_bind (exec_notifyIf _ _ ⟨w.tables, [], l⟩)
  rw [Prog.exec_bind_ok (exec_notifyIf _ _ _)] at h
  obtain ⟨_, w₂, h₂, h⟩ | ⟨e, h₂, _⟩ := Prog.exec_bind_cases h
  · have hrest := notices_of_rest hsteps h₂ h
    rw [exec_notifyIf] at h₂
    obtain ⟨_, rfl⟩ := Prod.mk.inj h₂
    exact hrest
  · rw [exec_notifyIf] at h₂
    cases (Prod.mk.inj h₂).1

/-- What follows the notifications of an Update adds to them. -/
theorem updateTail_notices {p old : AccessControlProfile} {w w' : World}
    {r : Except DpError Unit} (hw : w.faults = []) (hne : w.tables.profiles ≠ [])
    (h : (updateTail env p old).exec w = (r, w')) :
    ∃ l, w.notices <+: l ∧
      (l ++ if decide (w.tables.usersActive env p = 1 ∧ p.status = STATUS_ACTIVE ∧
          old.status = STATUS_INACTIVE) && !env.isLnnAcl p then
        [.trustDeviceProfileActive (convertToTrustDeviceProfile p)] else []) ++
      (if decide (w.tables.usersActive env p = 0 ∧ p.status = STATUS_INACTIVE ∧
          old.status = STATUS_ACTIVE) && !env.isLnnAcl p then
        [.trustDeviceProfileInactive (convertToTrustDeviceProfile p)] else []) <+:
        w'.notices := by
  obtain ⟨_, w₁, h₁, h⟩ | ⟨e, h₁, _⟩ := Prog.exec_bind_cases h
  · have hrest := notices_of_rest (unlocked_updateTail p old) h₁ h
    obtain ⟨x, hx, _⟩ := Prog.exec_getD_cases h₁
    obtain ⟨l, hl, hnotices⟩ := notifyCheck_notices hw hne hx
    exact ⟨l, hl, hnotices.trans hrest⟩
  · obtain ⟨_, _, hv⟩ := Prog.exec_getD_cases h₁
    cases hv

end DeviceProfile
