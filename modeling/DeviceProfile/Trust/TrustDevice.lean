import Mathlib.Logic.Function.Basic
import DeviceProfile.Trust.Calls

/-!
# The derived trust device row

The trust device table is a map from devices to statuses. Without database
failures, what follows the locked section of a call changes this map at one
device only, and the new value is determined by the access control rows the
section left behind.
-/

namespace DeviceProfile

open Library

namespace Tables

/-- The status stored for a device, where there is one. -/
def trustStatus (t : Tables) (deviceId : Text) : Option Int :=
  (t.trustDeviceRows deviceId).head?.map TrustDeviceRow.status

/-- An access control row trusts the device. -/
def Trusts (t : Tables) (deviceId : Text) : Prop :=
  ∃ row ∈ t.accessControl, row.trustDeviceId = deviceId

/-- The status the access control rows of a device add up to. -/
def aclStatus (t : Tables) (deviceId : Text) : Int :=
  if (t.aclRows deviceId).any (fun row => decide (row.status = STATUS_ACTIVE)) then
    STATUS_ACTIVE else STATUS_INACTIVE

theorem mem_trustDeviceRows {t : Tables} {deviceId : Text} {row : TrustDeviceRow} :
    row ∈ t.trustDeviceRows deviceId ↔ row ∈ t.trustDevice ∧ row.deviceId = deviceId := by
  rw [trustDeviceRows, Table.mem_select, decide_eq_true_iff]

theorem mem_aclRows {t : Tables} {deviceId : Text} {row : AccessControlRow} :
    row ∈ t.aclRows deviceId ↔ row ∈ t.accessControl ∧ row.trustDeviceId = deviceId := by
  rw [aclRows, Table.mem_select, decide_eq_true_iff]

/-- A status is that of a row of the device. -/
theorem trustStatus_eq_some {t : Tables} {deviceId : Text} {s : Int} :
    t.trustStatus deviceId = some s ↔
      ∃ row ∈ t.trustDevice, row.deviceId = deviceId ∧ row.status = s := by
  rw [trustStatus, Option.map_eq_some_iff]
  constructor
  · rintro ⟨row, hrow, hs⟩
    obtain ⟨hmem, hid⟩ := mem_trustDeviceRows.mp (List.mem_of_head? hrow)
    exact ⟨row, hmem, hid, hs⟩
  · rintro ⟨row, hmem, hid, hs⟩
    have hrow : row ∈ t.trustDeviceRows deviceId := mem_trustDeviceRows.mpr ⟨hmem, hid⟩
    cases hrows : t.trustDeviceRows deviceId with
    | nil =>
      rw [hrows] at hrow
      cases hrow
    | cons first rest =>
      obtain ⟨hfirst, hfid⟩ := mem_trustDeviceRows.mp
        (show first ∈ t.trustDeviceRows deviceId from hrows ▸ List.mem_cons_self)
      obtain rfl := Table.eq_of_index hfirst hmem (hfid.trans hid.symm)
      exact ⟨first, rfl, hs⟩

theorem trustStatus_eq_none {t : Tables} {deviceId : Text} :
    t.trustStatus deviceId = none ↔ ∀ row ∈ t.trustDevice, row.deviceId ≠ deviceId := by
  rw [Option.eq_none_iff_forall_ne_some]
  simp only [ne_eq, trustStatus_eq_some]
  exact ⟨fun h row hrow hid => h row.status ⟨row, hrow, hid, rfl⟩,
    fun h s ⟨row, hrow, hid, _⟩ => h row hrow hid⟩

/-- A device has no rows when it has no status. -/
theorem trustDeviceRows_eq_nil {t : Tables} {deviceId : Text} :
    t.trustDeviceRows deviceId = [] ↔ t.trustStatus deviceId = none := by
  rw [trustStatus, Option.map_eq_none_iff, List.head?_eq_none_iff]

/-- The aggregated status is active exactly when a row of the device is. -/
theorem aclStatus_eq_active {t : Tables} {deviceId : Text} :
    t.aclStatus deviceId = STATUS_ACTIVE ↔
      ∃ row ∈ t.accessControl, row.trustDeviceId = deviceId ∧ row.status = STATUS_ACTIVE := by
  have hne : STATUS_INACTIVE ≠ STATUS_ACTIVE := by decide
  unfold aclStatus
  split
  case isTrue h =>
    obtain ⟨row, hrow, hs⟩ := List.any_eq_true.mp h
    obtain ⟨hmem, hid⟩ := mem_aclRows.mp hrow
    exact iff_of_true rfl ⟨row, hmem, hid, of_decide_eq_true hs⟩
  case isFalse h =>
    refine iff_of_false hne fun ⟨row, hmem, hid, hs⟩ => h ?_
    exact List.any_eq_true.mpr ⟨row, mem_aclRows.mpr ⟨hmem, hid⟩, decide_eq_true hs⟩

/-! ## Writes to the row of one device -/

/-- A map that differs from the old one at one device is read off from its rows. -/
private theorem trustStatus_eq_update {t t' : Tables} {deviceId : Text} {s : Int}
    (new : TrustDeviceRow) (hid : new.deviceId = deviceId) (hs : new.status = s)
    (hrows : ∀ row, row ∈ t'.trustDevice ↔
      row = new ∨ (row ∈ t.trustDevice ∧ row.deviceId ≠ deviceId)) :
    t'.trustStatus = Function.update t.trustStatus deviceId (some s) := by
  funext d
  by_cases hd : d = deviceId
  · subst hd
    rw [Function.update_self]
    exact trustStatus_eq_some.mpr ⟨new, (hrows new).mpr (Or.inl rfl), hid, hs⟩
  · rw [Function.update_of_ne hd]
    refine Option.ext fun v => ?_
    rw [trustStatus_eq_some, trustStatus_eq_some]
    constructor
    · rintro ⟨row, hrow, hrd, hv⟩
      rcases (hrows row).mp hrow with rfl | ⟨hrow, _⟩
      · exact absurd (hrd.symm.trans hid) hd
      · exact ⟨row, hrow, hrd, hv⟩
    · rintro ⟨row, hrow, hrd, hv⟩
      exact ⟨row, (hrows row).mpr (Or.inr ⟨hrow, fun h => hd (hrd.symm.trans h)⟩), hrd, hv⟩

/-- A device without a row gets one. -/
theorem insertTrustDevice_spec {t : Tables} (profile : TrustDeviceProfile)
    (h : t.trustStatus profile.deviceId = none) :
    ∃ t', t.insertTrustDevice profile = some t' ∧
      t'.trustStatus = Function.update t.trustStatus profile.deviceId (some profile.status) := by
  rw [trustStatus_eq_none] at h
  obtain ⟨x, hx⟩ := Table.exists_insert? (t := t.trustDevice)
    (r := trustDeviceProfileToEntries t.trustDevice.nextKey profile) rfl h
  refine ⟨{ t with trustDevice := x }, by rw [insertTrustDevice, hx]; rfl,
    trustStatus_eq_update (trustDeviceProfileToEntries t.trustDevice.nextKey profile) rfl rfl
      fun row => ?_⟩
  rw [Table.mem_insert? hx]
  exact or_congr_right ⟨fun hrow => ⟨hrow, h row hrow⟩, And.left⟩

/-- A device with a row keeps it under its row id, with the new columns. -/
theorem updateTrustDevice_spec {t : Tables} {profile : TrustDeviceProfile}
    (h : t.trustStatus profile.deviceId ≠ none) :
    ∃ t', t.updateTrustDevice profile = some t' ∧
      t'.trustStatus = Function.update t.trustStatus profile.deviceId (some profile.status) := by
  rw [Ne, ← trustDeviceRows_eq_nil] at h
  unfold updateTrustDevice
  cases hrows : t.trustDeviceRows profile.deviceId with
  | nil => exact absurd hrows h
  | cons row rest =>
    obtain ⟨hmem, hid⟩ := mem_trustDeviceRows.mp
      (show row ∈ t.trustDeviceRows profile.deviceId from hrows ▸ List.mem_cons_self)
    have hsame : ∀ r ∈ t.trustDevice, r.rowId = row.rowId ↔ r.deviceId = profile.deviceId :=
      fun r hr => ⟨fun he => Table.eq_of_key hr hmem he ▸ hid,
        fun he => Table.eq_of_index hr hmem (he.trans hid.symm) ▸ rfl⟩
    cases hu : t.trustDevice.update? row.rowId
        (trustDeviceProfileToEntries row.rowId profile) with
    | none =>
      obtain ⟨_, a, ha, hk, hi⟩ := (Table.update?_eq_none
        (r := trustDeviceProfileToEntries row.rowId profile) rfl).mp hu
      exact absurd ((hsame a ha).mpr hi) hk
    | some x =>
      refine ⟨{ t with trustDevice := x }, by simp only [hu, Option.map_some],
        trustStatus_eq_update (trustDeviceProfileToEntries row.rowId profile) rfl rfl fun r => ?_⟩
      rw [Table.mem_update? hu]
      refine or_congr ⟨And.left, fun h => ⟨h, row, hmem, rfl⟩⟩ ?_
      exact and_congr_right fun hr => not_congr (hsame r hr)

/-- After the deletion the device has no row. -/
theorem deleteTrustDevice_spec (t : Tables) (deviceId : Text) :
    (t.deleteTrustDevice deviceId).trustStatus =
      Function.update t.trustStatus deviceId none := by
  funext d
  by_cases hd : d = deviceId
  · subst hd
    rw [Function.update_self, trustStatus_eq_none]
    intro row hrow
    rw [deleteTrustDevice, Table.mem_delete, decide_eq_false_iff_not] at hrow
    exact hrow.2
  · rw [Function.update_of_ne hd]
    refine Option.ext fun v => ?_
    rw [trustStatus_eq_some, trustStatus_eq_some]
    refine exists_congr fun row => ?_
    rw [deleteTrustDevice, Table.mem_delete, decide_eq_false_iff_not]
    constructor
    · rintro ⟨⟨hrow, _⟩, h⟩
      exact ⟨hrow, h⟩
    · rintro ⟨hrow, hrd, hv⟩
      exact ⟨⟨hrow, fun h => hd (hrd.symm.trans h)⟩, hrd, hv⟩

end Tables

/-! ## Programs that write the row -/

/-- Without failures the row of a device is overwritten; a device without a row is an error. -/
theorem updateTrustDeviceProfile_calm {profile : TrustDeviceProfile} {w w' : World}
    {r : Except DpError Unit} (hw : w.faults = [])
    (h : (updateTrustDeviceProfile profile).exec w = (r, w')) :
    w'.tables.trustStatus = Function.update w.tables.trustStatus profile.deviceId
      ((w.tables.trustStatus profile.deviceId).map fun _ => profile.status) ∧
    (r = .ok () ↔ w.tables.trustStatus profile.deviceId ≠ none) := by
  obtain ⟨w₁, hread, h⟩ | ⟨_, hf, _⟩ := (fetches_getResultSet _ w.tables).bind_cases h
  swap
  · exact absurd hw hf
  by_cases hnone : w.tables.trustStatus profile.deviceId = none
  · rw [Tables.trustDeviceRows_eq_nil.mpr hnone] at h
    obtain ⟨rfl, rfl⟩ := Prod.mk.inj h
    rw [hread.tables, hnone, Option.map_none, ← hnone, Function.update_eq_self]
    exact ⟨rfl, iff_of_false (fun hr => by cases hr) fun hne => hne rfl⟩
  · obtain ⟨s, hs⟩ := Option.ne_none_iff_exists'.mp hnone
    obtain ⟨t', ht', hspec⟩ := Tables.updateTrustDevice_spec hnone
    cases hrows : w.tables.trustDeviceRows profile.deviceId with
    | nil => exact absurd (Tables.trustDeviceRows_eq_nil.mp hrows) hnone
    | cons row rest =>
      rw [hrows] at h
      obtain ⟨_, w₂, h₂, h⟩ | ⟨e, h₂, _⟩ := Prog.exec_bind_cases h
      · rcases execute_cases h₂ with ⟨_, hwrite⟩ | ⟨hv, _⟩
        · rw [hread.tables, ht'] at hwrite
          have htables : w'.tables = w₂.tables ∧ r = .ok () := by
            split at h <;> obtain ⟨rfl, rfl⟩ := Prod.mk.inj h <;> exact ⟨rfl, rfl⟩
          rw [htables.1, ← Option.some.inj hwrite, hspec, hs, Option.map_some]
          exact ⟨rfl, iff_of_true htables.2 fun he => by cases he⟩
        · cases hv
      · rcases execute_cases h₂ with ⟨hv, _⟩ | ⟨_, _, hf | hf⟩
        · cases hv
        · exact absurd (hread.calm hw) hf
        · rw [hread.tables, ht'] at hf
          cases hf

/-- Without failures the device has no row afterwards. -/
theorem deleteTrustDeviceProfile_calm {deviceId : Text} {w w' : World} {r : Except DpError Unit}
    (hw : w.faults = []) (h : (deleteTrustDeviceProfile deviceId).exec w = (r, w')) :
    w'.tables.trustStatus = Function.update w.tables.trustStatus deviceId none := by
  obtain ⟨w₁, hread, h⟩ | ⟨_, hf, _⟩ := (fetches_getResultSet _ w.tables).bind_cases h
  swap
  · exact absurd hw hf
  cases hrows : w.tables.trustDeviceRows deviceId with
  | nil =>
    have hnone := Tables.trustDeviceRows_eq_nil.mp hrows
    rw [hrows] at h
    obtain ⟨rfl, rfl⟩ := Prod.mk.inj h
    rw [hread.tables, ← hnone, Function.update_eq_self]
  | cons row rest =>
    rw [hrows] at h
    rcases execute_cases h with ⟨_, hwrite⟩ | ⟨_, _, hf | hf⟩
    · rw [← Option.some.inj hwrite, hread.tables, Tables.deleteTrustDevice_spec]
    · exact absurd (hread.calm hw) hf
    · cases hf

/-- A device with access control rows has their aggregated status. -/
theorem fetches_getResultStatus {t : Tables} {deviceId : Text} (h : t.aclRows deviceId ≠ []) :
    Fetches (getResultStatus deviceId) t (t.aclStatus deviceId) := by
  refine (fetches_getResultSet _ t).bind ?_
  unfold Tables.aclStatus
  cases hrows : t.aclRows deviceId with
  | nil => exact absurd hrows h
  | cons row rest => exact fetches_ret t _

/-- With the default of its callers the status is the aggregated one in any case. -/
theorem getResultStatus_getD_calm {deviceId : Text} {w w' : World} {r : Except DpError Int}
    (hw : w.faults = [])
    (h : ((getResultStatus deviceId).getD STATUS_INACTIVE).exec w = (r, w')) :
    r = .ok (w.tables.aclStatus deviceId) ∧ Reads w w' := by
  refine ⟨?_, Reads.of_exec (Prog.steps_getD (reads_getResultStatus deviceId) _) h⟩
  obtain ⟨x, hx, rfl⟩ := Prog.exec_getD_cases h
  by_cases hrows : w.tables.aclRows deviceId = []
  · obtain ⟨w₁, _, h⟩ | ⟨_, hf, _⟩ := (fetches_getResultSet _ w.tables).bind_cases hx
    · rw [hrows] at h
      obtain ⟨rfl, _⟩ := Prod.mk.inj h
      rw [Tables.aclStatus, hrows]
      rfl
    · exact absurd hw hf
  · obtain ⟨_, rfl | ⟨hf, _⟩⟩ := (fetches_getResultStatus hrows).cases hx
    · rfl
    · exact absurd hw hf

/-! ## What follows the locked sections -/

section Tails

variable {env : Env}

/-- A conditional notification is sent, and changes nothing else. -/
theorem exec_notifyIf (c : Bool) (n : Notice) (w : World) :
    (notifyIf c n).exec w =
      (.ok (), { w with notices := w.notices ++ if c then [n] else [] }) := by
  cases c
  · simp only [notifyIf, Bool.false_eq_true, if_false, List.append_nil]
    rfl
  · rfl

/-- The completed trust profile differs from the given one in its services only. -/
theorem notifyAccountAcl_cases {c : Bool} {p : AccessControlProfile}
    {trustProfile : TrustDeviceProfile} {notice : TrustDeviceProfile → Notice} {w w' : World}
    {r : Except DpError TrustDeviceProfile}
    (h : (notifyAccountAcl env c p trustProfile notice).exec w = (r, w')) :
    Notifies w w' ∧ ∃ serviceIdList, r = .ok { trustProfile with serviceIdList } := by
  refine ⟨Notifies.of_exec (notifies_notifyAccountAcl env c p trustProfile notice) h, ?_⟩
  cases c with
  | false =>
    obtain ⟨rfl, _⟩ := Prod.mk.inj h
    exact ⟨_, rfl⟩
  | true =>
    obtain ⟨l, w₁, _, h⟩ | ⟨e, h₁, _⟩ := Prog.exec_bind_cases h
    · obtain ⟨rfl, _⟩ := Prod.mk.inj h
      exact ⟨l, rfl⟩
    · obtain ⟨_, _, hv⟩ := Prog.exec_getD_cases h₁
      cases hv

/-- A part that only notifies and never fails hands its value to the rest. -/
private theorem notifies_bind_cases {α β : Type} {m : DpProg α} {f : α → DpProg β}
    {w w' : World} {r : Except DpError β} (hm : m.Steps Notifies)
    (hok : ∀ {e w₁}, m.exec w ≠ (.error e, w₁)) (h : (m >>= f).exec w = (r, w')) :
    ∃ x w₁, m.exec w = (.ok x, w₁) ∧ Notifies w w₁ ∧ (f x).exec w₁ = (r, w') := by
  obtain ⟨x, w₁, h₁, h⟩ | ⟨e, h₁, _⟩ := Prog.exec_bind_cases h
  · exact ⟨x, w₁, h₁, Notifies.of_exec hm h₁, h⟩
  · exact absurd h₁ hok

/-- A program whose errors are ignored does not fail. -/
private theorem getD_ne_error {α : Type} {m : DpProg α} {d : α} {w w₁ : World} {e : DpError} :
    (m.getD d).exec w ≠ (.error e, w₁) := by
  intro h
  obtain ⟨_, _, hv⟩ := Prog.exec_getD_cases h
  cases hv

private theorem notifyIf_ne_error {c : Bool} {n : Notice} {w w₁ : World} {e : DpError} :
    (notifyIf c n).exec w ≠ (.error e, w₁) := by
  rw [exec_notifyIf]
  intro h
  cases (Prod.mk.inj h).1

private theorem notifyAccountAcl_ne_error {c : Bool} {p : AccessControlProfile}
    {trustProfile : TrustDeviceProfile} {notice : TrustDeviceProfile → Notice} {w w₁ : World}
    {e : DpError} : (notifyAccountAcl env c p trustProfile notice).exec w ≠ (.error e, w₁) := by
  intro h
  obtain ⟨_, _, hv⟩ := notifyAccountAcl_cases h
  cases hv

private theorem notifies_getD_of_reads {α : Type} {m : DpProg α} {d : α} (hm : m.Steps Reads) :
    (m.getD d).Steps Notifies :=
  Prog.steps_getD (hm.mono fun _ _ => Reads.notifies) d

/-- After a Put stored a row, its device has a row with the aggregated status, or with the
status of the entry when it is the first one. -/
theorem putAclCheck_calm {p : AccessControlProfile} {u a : Bool} {w w' : World}
    {r : Except DpError Unit} (hw : w.faults = [])
    (hrow : ∃ row ∈ w.tables.accessControl, row.trustDeviceId = p.trustDeviceId)
    (h : (putAclCheck env p u a).exec w = (r, w')) :
    r = .ok () ∧ w'.tables.trustStatus = Function.update w.tables.trustStatus p.trustDeviceId
      (some (if w.tables.trustStatus p.trustDeviceId = none then p.status
        else w.tables.aclStatus p.trustDeviceId)) := by
  obtain ⟨_, w₁, _, hn₁, h⟩ :=
    notifies_bind_cases (notifies_notifyIf _ _) notifyIf_ne_error h
  obtain ⟨trustProfile, w₂, h₂, hn₂, h⟩ := notifies_bind_cases
    (notifies_notifyAccountAcl env _ _ _ _) notifyAccountAcl_ne_error h
  obtain ⟨_, services, hv⟩ := notifyAccountAcl_cases h₂
  obtain rfl := Except.ok.inj hv
  have hn := Notifies.trans _ _ _ hn₁ hn₂
  have htab₂ : w₂.tables = w.tables := hn.tables
  obtain ⟨w₃, hread₃, h⟩ | ⟨_, hf, _⟩ := (fetches_getResultSet _ w₂.tables).bind_cases h
  swap
  · exact absurd (hn.calm hw) hf
  rw [htab₂] at h
  have htab₃ : w₃.tables = w.tables := hread₃.tables.trans htab₂
  have hcalm₃ : w₃.faults = [] := hread₃.calm (hn.calm hw)
  cases hrows : w.tables.trustDeviceRows p.trustDeviceId with
  | nil =>
    -- the first row of the device
    have hnone := Tables.trustDeviceRows_eq_nil.mp hrows
    rw [hrows] at h
    obtain ⟨x, hx, rfl⟩ := Prog.exec_getD_cases h
    refine ⟨rfl, ?_⟩
    rw [if_pos hnone]
    obtain ⟨t', ht', hspec⟩ := Tables.insertTrustDevice_spec
      { convertToTrustDeviceProfile p with serviceIdList := services } hnone
    rcases execute_cases hx with ⟨_, hwrite⟩ | ⟨_, _, hf | hf⟩
    · rw [htab₃, ht'] at hwrite
      rw [← Option.some.inj hwrite, hspec]
      rfl
    · exact absurd hcalm₃ hf
    · rw [htab₃, ht'] at hf
      cases hf
  | cons first rest =>
    have hsome : w.tables.trustStatus p.trustDeviceId ≠ none := fun hnone => by
      rw [Tables.trustDeviceRows_eq_nil.mpr hnone] at hrows
      cases hrows
    rw [hrows] at h
    rw [if_neg hsome]
    have hacl : w₃.tables.aclRows p.trustDeviceId ≠ [] := by
      obtain ⟨row, hmem, hid⟩ := hrow
      rw [htab₃]
      exact List.ne_nil_of_mem (Tables.mem_aclRows.mpr ⟨hmem, hid⟩)
    obtain ⟨w₄, hread₄, h⟩ | ⟨_, hf, _⟩ :=
      ((fetches_getResultStatus hacl).orFail .getResultSetFail).bind_cases h
    swap
    · exact absurd hcalm₃ hf
    have htab₄ : w₄.tables = w.tables := hread₄.tables.trans htab₃
    rw [htab₃] at h
    obtain ⟨x, hx, rfl⟩ := Prog.exec_orFail_cases h
    obtain ⟨hstatus, hok⟩ := updateTrustDeviceProfile_calm (hread₄.calm hcalm₃) hx
    rw [htab₄] at hstatus hok
    refine ⟨?_, ?_⟩
    · rw [hok.mpr hsome]
      rfl
    · rw [hstatus]
      obtain ⟨s, hs⟩ := Option.ne_none_iff_exists'.mp hsome
      refine congrArg (Function.update _ _) ?_
      change (w.tables.trustStatus p.trustDeviceId).map _ = _
      rw [hs]
      rfl

/-- After a Delete the device has no row when it has no access control row any more, and
otherwise keeps its row with the aggregated status. -/
theorem deleteTrustDeviceCheck_calm {p : AccessControlProfile} {w w' : World}
    {r : Except DpError Unit} (hw : w.faults = [])
    (h : (deleteTrustDeviceCheck env p).exec w = (r, w')) :
    w'.tables.trustStatus = Function.update w.tables.trustStatus p.trustDeviceId
      (if w.tables.aclRows p.trustDeviceId = [] then none
        else (w.tables.trustStatus p.trustDeviceId).map fun _ =>
          w.tables.aclStatus p.trustDeviceId) := by
  obtain ⟨_, w₁, _, hn₁, h⟩ := notifies_bind_cases
    (notifies_getD_of_reads (reads_checkDeviceIdAndUserIdExists env p)) getD_ne_error h
  obtain ⟨_, w₂, _, hn₂, h⟩ := notifies_bind_cases (notifies_notifyIf _ _) notifyIf_ne_error h
  obtain ⟨_, w₃, _, hn₃, h⟩ := notifies_bind_cases
    (notifies_getD_of_reads (reads_checkDeviceIdActiveAclExists env p)) getD_ne_error h
  obtain ⟨_, w₄, _, hn₄, h⟩ := notifies_bind_cases (notifies_notifyIf _ _) notifyIf_ne_error h
  obtain ⟨_, w₅, _, hn₅, h⟩ := notifies_bind_cases
    (notifies_getD_of_reads (reads_checkAccountAclExists env p)) getD_ne_error h
  obtain ⟨trustProfile, w₆, h₆, hn₆, h⟩ := notifies_bind_cases
    (notifies_notifyAccountAcl env _ _ _ _) notifyAccountAcl_ne_error h
  obtain ⟨_, services, hv⟩ := notifyAccountAcl_cases h₆
  obtain rfl := Except.ok.inj hv
  have hn : Notifies w w₆ := hn₁.trans _ _ _ <| hn₂.trans _ _ _ <| hn₃.trans _ _ _ <|
    hn₄.trans _ _ _ <| hn₅.trans _ _ _ hn₆
  obtain ⟨w₇, hread₇, h⟩ | ⟨_, hf, _⟩ := (fetches_getResultSet _ w₆.tables).bind_cases h
  swap
  · exact absurd (hn.calm hw) hf
  rw [hn.tables] at h
  have htab₇ : w₇.tables = w.tables := hread₇.tables.trans hn.tables
  have hcalm₇ : w₇.faults = [] := hread₇.calm (hn.calm hw)
  cases hrows : w.tables.aclRows p.trustDeviceId with
  | nil =>
    rw [hrows] at h
    rw [if_pos rfl, deleteTrustDeviceProfile_calm hcalm₇ h, htab₇]
  | cons row rest =>
    rw [hrows] at h
    rw [if_neg (List.cons_ne_nil row rest)]
    obtain ⟨status, w₈, h₈, h⟩ | ⟨e, h₈, _⟩ := Prog.exec_bind_cases h
    · obtain ⟨hv, hread₈⟩ := getResultStatus_getD_calm hcalm₇ h₈
      obtain rfl := Except.ok.inj hv
      rw [htab₇] at h
      have hstatus := (updateTrustDeviceProfile_calm (hread₈.calm hcalm₇) h).1
      rw [hread₈.tables, htab₇] at hstatus
      exact hstatus
    · exact absurd h₈ getD_ne_error

/-- After an Update the device of the new entry keeps its row, if it has one, with the
aggregated status. -/
theorem updateTail_calm {p old : AccessControlProfile} {w w' : World}
    {r : Except DpError Unit} (hw : w.faults = [])
    (h : (updateTail env p old).exec w = (r, w')) :
    w'.tables.trustStatus = Function.update w.tables.trustStatus p.trustDeviceId
      ((w.tables.trustStatus p.trustDeviceId).map fun _ =>
        w.tables.aclStatus p.trustDeviceId) ∧
      (r = .ok () ↔ w.tables.trustStatus p.trustDeviceId ≠ none) := by
  obtain ⟨_, w₁, _, hn₁, h⟩ := notifies_bind_cases
    (Prog.steps_getD (notifies_notifyCheck env p old) _) getD_ne_error h
  obtain ⟨status, w₂, h₂, h⟩ | ⟨e, h₂, _⟩ := Prog.exec_bind_cases h
  swap
  · exact absurd h₂ getD_ne_error
  obtain ⟨hv, hread₂⟩ := getResultStatus_getD_calm (hn₁.calm hw) h₂
  obtain rfl := Except.ok.inj hv
  have htab : w₂.tables = w.tables := hread₂.tables.trans hn₁.tables
  rw [hn₁.tables] at h
  obtain ⟨x, hx, rfl⟩ := Prog.exec_orFail_cases h
  obtain ⟨hstatus, hok⟩ := updateTrustDeviceProfile_calm (hread₂.calm (hn₁.calm hw)) hx
  rw [htab] at hstatus hok
  refine ⟨hstatus, Iff.trans ?_ hok⟩
  cases x with
  | ok u => exact Iff.rfl
  | error e => exact iff_of_false (fun h => by cases h) (fun h => by cases h)

end Tails

end DeviceProfile
