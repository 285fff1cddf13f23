import DeviceProfile.Trust.TrustDevice

/-!
# The trust device table as a view of the access control table

The trust device table is meant to be derived: a device has a row exactly when an
access control row trusts it, and the row is active exactly when such a row is.
Put and Delete maintain the view. Update maintains it for the device of the new
row only, so a row that moves to another device breaks it unless other rows keep
both devices as they are.
-/

namespace DeviceProfile

open Library

variable {env : Env}

namespace Tables

/-- An active access control row trusts the device. -/
def TrustsActive (t : Tables) (deviceId : Text) : Prop :=
  ∃ row ∈ t.accessControl, row.trustDeviceId = deviceId ∧ row.status = STATUS_ACTIVE

/-- The trust device table is the view of the access control table. -/
def Mirrors (t : Tables) : Prop :=
  ∀ deviceId, ((∃ row ∈ t.trustDevice, row.deviceId = deviceId) ↔ t.Trusts deviceId) ∧
    ∀ row ∈ t.trustDevice, row.deviceId = deviceId →
      (row.status = STATUS_ACTIVE ↔ t.TrustsActive deviceId)

/-- The view in terms of the status map, device by device. -/
theorem mirrors_iff {t : Tables} : t.Mirrors ↔
    ∀ deviceId, (t.trustStatus deviceId ≠ none ↔ t.Trusts deviceId) ∧
      ∀ s, t.trustStatus deviceId = some s → (s = STATUS_ACTIVE ↔ t.TrustsActive deviceId) := by
  refine forall_congr' fun deviceId => and_congr (iff_congr ?_ Iff.rfl) ?_
  · rw [ne_eq, trustStatus_eq_none]
    push Not
    rfl
  · constructor
    · intro h s hs
      obtain ⟨row, hrow, hid, rfl⟩ := trustStatus_eq_some.mp hs
      exact h row hrow hid
    · exact fun h row hrow hid => h row.status (trustStatus_eq_some.mpr ⟨row, hrow, hid, rfl⟩)

theorem trustStatus_congr {t t' : Tables} (h : t'.trustDevice = t.trustDevice) :
    t'.trustStatus = t.trustStatus := by
  funext deviceId
  unfold trustStatus trustDeviceRows
  rw [h]

end Tables

/-! ## The effect of a call on both tables -/

/-- A Put stores no row and leaves the view alone, or stores its row and sets its device. -/
theorem putAccessControlProfile_trust {p : AccessControlProfile} {w w' : World}
    {r : Except DpError Unit} (hw : w.faults = [])
    (h : (putAccessControlProfile env p).exec w = (r, w')) :
    (w'.tables.accessControl = w.tables.accessControl ∧
        w'.tables.trustDevice = w.tables.trustDevice) ∨
      ((∀ row, row ∈ w'.tables.accessControl ↔
          row = (w.tables.prepared p).toAccessControlRow ∨ row ∈ w.tables.accessControl) ∧
        w'.tables.trustStatus = Function.update w.tables.trustStatus p.trustDeviceId
          (some (if w.tables.trustStatus p.trustDeviceId = none then p.status
            else w'.tables.aclStatus p.trustDeviceId))) := by
  obtain ⟨e, h₁, _⟩ | ⟨h₁, _⟩ | ⟨q, u, a, w₁, h₁, h₂⟩ := putAccessControlProfile_cases h
  · cases putAccessControlProfileLocked_effect h₁ with
    | failed _ hfaults => exact absurd hw hfaults
  · have hl := Locked.of_exec (locked_putAccessControlProfileLocked env p) h₁
    cases putAccessControlProfileLocked_effect h₁ with
    | found hacl => exact Or.inl ⟨hacl, hl.trustDevice⟩
  · have hl := Locked.of_exec (locked_putAccessControlProfileLocked env p) h₁
    cases putAccessControlProfileLocked_effect h₁ with
    | stored _ _ hacl =>
      right
      have hrow : ∃ row ∈ w₁.tables.accessControl,
          row.trustDeviceId = (w.tables.prepared p).trustDeviceId :=
        ⟨_, (Table.mem_insert? hacl).mpr (Or.inl rfl), rfl⟩
      obtain ⟨_, w₂, h₂, h₃⟩ | ⟨e, h₂, _⟩ := Prog.exec_bind_cases h₂
      swap
      · cases (putAclCheck_calm (hl.calm hw) hrow h₂).1
      have hn := Notifies.of_exec (notifies_notify _) h₃
      have hunlocked := Unlocked.of_exec (unlocked_putAclCheck env _ u a) h₂
      have hacl₂ : w'.tables.accessControl = w₁.tables.accessControl := by
        rw [hn.tables, hunlocked.accessControl]
      refine ⟨fun row => by rw [hacl₂, Table.mem_insert? hacl], ?_⟩
      have hstatus := (putAclCheck_calm (hl.calm hw) hrow h₂).2
      have haclStatus : w'.tables.aclStatus = w₁.tables.aclStatus := by
        funext d
        unfold Tables.aclStatus Tables.aclRows
        rw [hacl₂]
      rw [Tables.trustStatus_congr hl.trustDevice] at hstatus
      rw [haclStatus, hn.tables]
      exact hstatus

/-- A Delete deletes nothing and leaves the view alone, or deletes its row and sets the
device of that row. -/
theorem deleteAccessControlProfile_trust {id : Int} {w w' : World}
    {r : Except DpError Unit} (hw : w.faults = [])
    (h : (deleteAccessControlProfile env id).exec w = (r, w')) :
    (w'.tables.accessControl = w.tables.accessControl ∧
        w'.tables.trustDevice = w.tables.trustDevice) ∨
      ∃ row ∈ w.tables.accessControl,
        (∀ r, r ∈ w'.tables.accessControl ↔ r ∈ w.tables.accessControl ∧ r ≠ row) ∧
        w'.tables.trustStatus = Function.update w.tables.trustStatus row.trustDeviceId
          (if w'.tables.aclRows row.trustDeviceId = [] then none
            else (w.tables.trustStatus row.trustDeviceId).map fun _ =>
              w'.tables.aclStatus row.trustDeviceId) := by
  obtain ⟨e, h₁, _⟩ | ⟨p, w₁, h₁, h₂⟩ := deleteAccessControlProfile_cases h
  · cases deleteAccessControlProfileLocked_effect h₁ with
    | missing htables => exact Or.inl ⟨by rw [htables], by rw [htables]⟩
    | failed _ hfaults => exact absurd hw hfaults
  · have hl := Locked.of_exec (locked_deleteAccessControlProfileLocked id) h₁
    cases deleteAccessControlProfileLocked_effect h₁ with
    | deleted row hrow _ hacl =>
      right
      have hacl₂ := (Unlocked.of_exec (unlocked_deleteTrustDeviceCheck env _) h₂).accessControl
      refine ⟨row, hrow, fun r => by rw [hacl₂]; exact hacl r, ?_⟩
      have hstatus := deleteTrustDeviceCheck_calm (hl.calm hw) h₂
      rw [Tables.trustStatus_congr hl.trustDevice] at hstatus
      unfold Tables.aclStatus Tables.aclRows at hstatus ⊢
      rw [hacl₂]
      exact hstatus

/-- An Update is refused and leaves the view alone, or writes its row and sets the device
of the new row. -/
theorem updateAccessControlProfile_trust {p : AccessControlProfile} {w w' : World}
    {r : Except DpError Unit} (hw : w.faults = [])
    (h : (updateAccessControlProfile env p).exec w = (r, w')) :
    (w'.tables.accessControl = w.tables.accessControl ∧
        w'.tables.trustDevice = w.tables.trustDevice ∧
        ∀ row ∈ w.tables.accessControl, row.accessControlId = p.accessControlId →
          p.NamesPartiesOf row → ∃ other ∈ w.tables.accessControl,
            other.accessControlId ≠ p.accessControlId ∧ other.indexColumns = p.indexColumns) ∨
      ∃ row ∈ w.tables.accessControl, row.accessControlId = p.accessControlId ∧
        p.NamesPartiesOf row ∧ (∀ other ∈ w.tables.accessControl,
          other.accessControlId ≠ p.accessControlId → other.indexColumns ≠ p.indexColumns) ∧
        (∀ r, r ∈ w'.tables.accessControl ↔
          r = p.toAccessControlRow ∨ (r ∈ w.tables.accessControl ∧ r ≠ row)) ∧
        w'.tables.trustStatus = Function.update w.tables.trustStatus p.trustDeviceId
          ((w.tables.trustStatus p.trustDeviceId).map fun _ =>
            w'.tables.aclStatus p.trustDeviceId) := by
  have hconflicts := Table.update?_eq_none (t := w.tables.accessControl)
    (r := p.toAccessControlRow) rfl
  obtain ⟨e, h₁, _⟩ | ⟨old, w₁, h₁, h₂⟩ := updateAccessControlProfile_cases h
  · have hl := Locked.of_exec (locked_updateAccessControlProfileLocked p) h₁
    cases updateAccessControlProfileLocked_effect hw h₁ with
    | refused _ htables hrefused =>
      exact Or.inl ⟨by rw [htables], by rw [htables],
        fun row hrow hid hnames => absurd hnames (hrefused row hrow hid)⟩
    | conflict _ row hrow hid hnames hconflict hacl =>
      exact Or.inl ⟨hacl, hl.trustDevice, fun _ _ _ _ => (hconflicts.mp hconflict).2⟩
  · have hl := Locked.of_exec (locked_updateAccessControlProfileLocked p) h₁
    cases updateAccessControlProfileLocked_effect hw h₁ with
    | updated row hrow hid hnames hacl =>
      right
      have hacl₂ := (Unlocked.of_exec (unlocked_updateTail p _) h₂).accessControl
      refine ⟨row, hrow, hid, hnames, fun other hother hne hcols => ?_, fun r => ?_, ?_⟩
      · have hnone := hconflicts.mpr ⟨⟨row, hrow, hid⟩, other, hother, hne, hcols⟩
        rw [hacl] at hnone
        cases hnone
      · rw [hacl₂, Table.mem_update? hacl]
        refine or_congr ⟨And.left, fun hr => ⟨hr, row, hrow, hid⟩⟩ (and_congr_right fun hr => ?_)
        refine not_congr ⟨fun he => Table.eq_of_key hr hrow (he.trans hid.symm), ?_⟩
        rintro rfl
        exact hid
      · have hstatus := (updateTail_calm (hl.calm hw) h₂).1
        rw [Tables.trustStatus_congr hl.trustDevice] at hstatus
        unfold Tables.aclStatus Tables.aclRows at hstatus ⊢
        rw [hacl₂]
        exact hstatus

/-! ## One call -/

/-- The view holds at the devices whose status and access control rows are unchanged, so it
is enough to look at the others. -/
private theorem mirrors_of_update {t t' : Tables} {deviceId : Text} {v : Option Int}
    (hm : t.Mirrors) (hstatus : t'.trustStatus = Function.update t.trustStatus deviceId v)
    (hothers : ∀ d, d ≠ deviceId → (t'.Trusts d ↔ t.Trusts d) ∧
      (t'.TrustsActive d ↔ t.TrustsActive d))
    (hdevice : (v ≠ none ↔ t'.Trusts deviceId) ∧
      ∀ s, v = some s → (s = STATUS_ACTIVE ↔ t'.TrustsActive deviceId)) : t'.Mirrors := by
  rw [Tables.mirrors_iff] at hm ⊢
  intro d
  rw [hstatus]
  by_cases hd : d = deviceId
  · subst hd
    rw [Function.update_self]
    exact hdevice
  · rw [Function.update_of_ne hd, (hothers d hd).1, (hothers d hd).2]
    exact hm d

private theorem mirrors_congr {t t' : Tables} (hacl : t'.accessControl = t.accessControl)
    (htrust : t'.trustDevice = t.trustDevice) : t'.Mirrors ↔ t.Mirrors := by
  unfold Tables.Mirrors Tables.Trusts Tables.TrustsActive
  rw [hacl, htrust]

/-- A put leaves the trusted devices in step with the rows. -/
theorem mirrors_put {p : AccessControlProfile} {w : World} (hw : w.faults = [])
    (hm : w.tables.Mirrors) : (Call.run env w (.put p)).tables.Mirrors := by
  obtain ⟨r, hexec⟩ := Call.exists_exec env w (.put p)
  generalize Call.run env w (.put p) = w' at hexec ⊢
  rcases putAccessControlProfile_trust hw hexec with
    ⟨hacl, htrust⟩ | ⟨hacl, hstatus⟩
  · exact (mirrors_congr hacl htrust).mpr hm
  · have hnew : (w.tables.prepared p).toAccessControlRow ∈ w'.tables.accessControl :=
      (hacl _).mpr (Or.inl rfl)
    refine mirrors_of_update hm hstatus (fun d hd => ?_) ⟨?_, fun s hs => ?_⟩
    · have hother : ∀ row, row.trustDeviceId = d →
          (row ∈ w'.tables.accessControl ↔ row ∈ w.tables.accessControl) := by
        intro row hrow
        rw [hacl]
        refine or_iff_right fun he => hd ?_
        rw [← hrow, he]
        rfl
      exact ⟨exists_congr fun row => and_congr_left (hother row),
        exists_congr fun row => and_congr_left fun h => hother row h.1⟩
    · exact iff_of_true (fun h => by cases h) ⟨_, hnew, rfl⟩
    · obtain rfl := Option.some.inj hs
      split
      case isTrue hnone =>
        -- the first row of the device decides the status alone
        have hno : ¬w.tables.Trusts p.trustDeviceId := fun ht =>
          ((Tables.mirrors_iff.mp hm p.trustDeviceId).1.mpr ht) hnone
        constructor
        · exact fun hs => ⟨_, hnew, rfl, hs⟩
        · rintro ⟨row, hrow, hid, hs⟩
          rcases (hacl row).mp hrow with rfl | hrow
          · exact hs
          · exact absurd ⟨row, hrow, hid⟩ hno
      case isFalse => exact Tables.aclStatus_eq_active

/-- A deletion leaves the trusted devices in step with the rows. -/
theorem mirrors_delete {id : Int} {w : World} (hw : w.faults = [])
    (hm : w.tables.Mirrors) : (Call.run env w (.delete id)).tables.Mirrors := by
  obtain ⟨r, hexec⟩ := Call.exists_exec env w (.delete id)
  generalize Call.run env w (.delete id) = w' at hexec ⊢
  rcases deleteAccessControlProfile_trust hw hexec with
    ⟨hacl, htrust⟩ | ⟨row, hrow, hacl, hstatus⟩
  · exact (mirrors_congr hacl htrust).mpr hm
  · have hbefore : w.tables.trustStatus row.trustDeviceId ≠ none :=
      (Tables.mirrors_iff.mp hm _).1.mpr ⟨row, hrow, rfl⟩
    have hrows : w'.tables.aclRows row.trustDeviceId = [] ↔
        ¬w'.tables.Trusts row.trustDeviceId := by
      rw [List.eq_nil_iff_forall_not_mem]
      simp only [Tables.mem_aclRows]
      exact ⟨fun h ⟨r, hr, hid⟩ => h r ⟨hr, hid⟩, fun h r hr => h ⟨r, hr⟩⟩
    refine mirrors_of_update hm hstatus (fun d hd => ?_) ⟨?_, fun s hs => ?_⟩
    · have hother : ∀ r : AccessControlRow, r.trustDeviceId = d →
          (r ∈ w'.tables.accessControl ↔ r ∈ w.tables.accessControl) := by
        intro r hr
        rw [hacl]
        refine and_iff_left fun he => hd ?_
        rw [← hr, he]
      exact ⟨exists_congr fun r => and_congr_left (hother r),
        exists_congr fun r => and_congr_left fun h => hother r h.1⟩
    · split
      case isTrue hnil => exact iff_of_false (fun h => h rfl) (hrows.mp hnil)
      case isFalse hne =>
        rw [ne_eq, Option.map_eq_none_iff]
        exact iff_of_true hbefore (not_not.mp (mt hrows.mpr hne))
    · split at hs
      · cases hs
      · obtain ⟨_, _, rfl⟩ := Option.map_eq_some_iff.mp hs
        exact Tables.aclStatus_eq_active

/-- An Update moves a row between devices safely when the device it leaves keeps a row, an
active one if the moved row was active, and the device it reaches has a row already. -/
def MirrorSafe (w : World) : Call → Prop
  | .update p => ∀ row ∈ w.tables.accessControl, row.accessControlId = p.accessControlId →
      p.NamesPartiesOf row → (∀ other ∈ w.tables.accessControl,
        other.accessControlId ≠ p.accessControlId → other.indexColumns ≠ p.indexColumns) →
      row.trustDeviceId = p.trustDeviceId ∨
        (∃ other ∈ w.tables.accessControl, other ≠ row ∧
          other.trustDeviceId = row.trustDeviceId) ∧
        (row.status = STATUS_ACTIVE → ∃ other ∈ w.tables.accessControl, other ≠ row ∧
          other.trustDeviceId = row.trustDeviceId ∧ other.status = STATUS_ACTIVE) ∧
        w.tables.Trusts p.trustDeviceId
  | _ => True

/-- An Update keeps the view exactly when it moves its row safely, if at all. -/
theorem mirrors_update_iff {p : AccessControlProfile} {w : World} (hw : w.faults = [])
    (hm : w.tables.Mirrors) :
    (Call.run env w (.update p)).tables.Mirrors ↔ MirrorSafe w (.update p) := by
  obtain ⟨r, hexec⟩ := Call.exists_exec env w (.update p)
  generalize Call.run env w (.update p) = w' at hexec ⊢
  rcases updateAccessControlProfile_trust hw hexec with
    ⟨hacl, htrust, hrefused⟩ | ⟨row, hrow, hid, hnames, hcols, hacl, hstatus⟩
  · rw [mirrors_congr hacl htrust]
    refine iff_of_true hm fun row hrow hid hnames hcols => ?_
    obtain ⟨other, hother, hne, hc⟩ := hrefused row hrow hid hnames
    exact absurd hc (hcols other hother hne)
  have hold := Tables.mirrors_iff.mp hm
  have hnew : p.toAccessControlRow ∈ w'.tables.accessControl := (hacl _).mpr (Or.inl rfl)
  have hkeep : ∀ r ∈ w.tables.accessControl, r ≠ row → r ∈ w'.tables.accessControl :=
    fun r hr hne => (hacl r).mpr (Or.inr ⟨hr, hne⟩)
  constructor
  · intro hm' row' hrow' hid' _ _
    obtain rfl := Table.eq_of_key hrow' hrow (hid'.trans hid.symm)
    by_cases hmove : row'.trustDeviceId = p.trustDeviceId
    · exact Or.inl hmove
    have hview := Tables.mirrors_iff.mp hm'
    -- the device the row leaves keeps its trust device row
    have hleft : w'.tables.trustStatus row'.trustDeviceId =
        w.tables.trustStatus row'.trustDeviceId := by
      rw [hstatus, Function.update_of_ne hmove]
    have hstays : ∀ r ∈ w'.tables.accessControl, r.trustDeviceId = row'.trustDeviceId →
        r ∈ w.tables.accessControl ∧ r ≠ row' := by
      intro r hr hd
      rcases (hacl r).mp hr with rfl | h
      · exact absurd hd.symm hmove
      · exact h
    refine Or.inr ⟨?_, fun hactive => ?_, ?_⟩
    · have hne := (hold row'.trustDeviceId).1.mpr ⟨row', hrow, rfl⟩
      rw [← hleft] at hne
      obtain ⟨r, hr, hd⟩ := (hview row'.trustDeviceId).1.mp hne
      exact ⟨r, (hstays r hr hd).1, (hstays r hr hd).2, hd⟩
    · obtain ⟨s, hs⟩ := Option.ne_none_iff_exists'.mp
        ((hold row'.trustDeviceId).1.mpr ⟨row', hrow, rfl⟩)
      have hsa : s = STATUS_ACTIVE := ((hold _).2 s hs).mpr ⟨row', hrow, rfl, hactive⟩
      obtain ⟨r, hr, hd, ha⟩ := ((hview _).2 s (hleft.trans hs)).mp hsa
      exact ⟨r, (hstays r hr hd).1, (hstays r hr hd).2, hd, ha⟩
    · have hne := (hview p.trustDeviceId).1.mpr ⟨_, hnew, rfl⟩
      rw [hstatus, Function.update_self, ne_eq, Option.map_eq_none_iff] at hne
      exact (hold _).1.mp hne
  · intro hsafe
    have hcase := hsafe row hrow hid hnames hcols
    have hreached : w.tables.trustStatus p.trustDeviceId ≠ none := by
      rcases hcase with hd | ⟨_, _, ht⟩
      · exact (hold _).1.mpr ⟨row, hrow, hd⟩
      · exact (hold _).1.mpr ht
    refine mirrors_of_update hm hstatus (fun d hd => ?_) ⟨?_, fun s hs => ?_⟩
    · have hback : ∀ r ∈ w'.tables.accessControl, r.trustDeviceId = d →
          r ∈ w.tables.accessControl := by
        intro r hr hrd
        rcases (hacl r).mp hr with rfl | h
        · exact absurd hrd.symm hd
        · exact h.1
      have hleave : row.trustDeviceId = d → row.trustDeviceId ≠ p.trustDeviceId :=
        fun h he => hd (h.symm.trans he)
      constructor
      · refine ⟨fun ⟨r, hr, hrd⟩ => ⟨r, hback r hr hrd, hrd⟩, fun ⟨r, hr, hrd⟩ => ?_⟩
        by_cases he : r = row
        · subst he
          rcases hcase with h | ⟨⟨other, ho, hne, hod⟩, _⟩
          · exact absurd h (hleave hrd)
          · exact ⟨other, hkeep other ho hne, hod.trans hrd⟩
        · exact ⟨r, hkeep r hr he, hrd⟩
      · refine ⟨fun ⟨r, hr, hrd, ha⟩ => ⟨r, hback r hr hrd, hrd, ha⟩,
          fun ⟨r, hr, hrd, ha⟩ => ?_⟩
        by_cases he : r = row
        · subst he
          rcases hcase with h | ⟨_, hactive, _⟩
          · exact absurd h (hleave hrd)
          · obtain ⟨other, ho, hne, hod, hoa⟩ := hactive ha
            exact ⟨other, hkeep other ho hne, hod.trans hrd, hoa⟩
        · exact ⟨r, hkeep r hr he, hrd, ha⟩
    · rw [ne_eq, Option.map_eq_none_iff]
      exact iff_of_true hreached ⟨_, hnew, rfl⟩
    · obtain ⟨_, _, rfl⟩ := Option.map_eq_some_iff.mp hs
      exact Tables.aclStatus_eq_active

/-! ## Every run -/

/-- A call keeps the view exactly when it moves no row unsafely. -/
theorem mirrors_run_iff {w : World} (call : Call) (hw : w.faults = [])
    (hm : w.tables.Mirrors) : (call.run env w).tables.Mirrors ↔ MirrorSafe w call := by
  cases call with
  | put p => exact iff_of_true (mirrors_put hw hm) trivial
  | update p => exact mirrors_update_iff hw hm
  | delete id => exact iff_of_true (mirrors_delete hw hm) trivial

theorem mirrors_empty : ({} : Tables).Mirrors := by
  refine fun d => ⟨iff_of_false ?_ ?_, fun _ h => (Table.not_mem_empty _ h).elim⟩
  · exact fun ⟨_, h, _⟩ => Table.not_mem_empty _ h
  · exact fun ⟨_, h, _⟩ => Table.not_mem_empty _ h

/-- The trust device table mirrors the access control table in every state of a run exactly
when no Update of the run moves a row unsafely. -/
theorem trust_device_mirrors_acls (env : Env) (calls : List Call) :
    Admits (Call.run env) MirrorSafe {} calls ↔
      ∀ n, (run env {} (calls.take n)).tables.Mirrors :=
  admits_iff (I := fun w : World => w.faults = []) (fun _ call => calm_run env call)
    (fun _ call hw hm => mirrors_run_iff call hw hm) rfl mirrors_empty

/-- The stored entry, moved to a device without entries. -/
def movedEntry : AccessControlProfile := { storedEntry with trustDeviceId := "other" }

/-- Not every run keeps the view: after the entry moved, its old device still has a row. -/
theorem not_mirrors_of_moved_entry :
    ¬∀ (env : Env) (calls : List Call), (∀ call ∈ calls, call.StatusKnown) →
      (run env {} calls).tables.Mirrors := by
  intro h
  have hview := (h .bare [.put boundEntry, .update movedEntry] (by decide) "peer").1
  have hrow : ∃ row ∈ (run .bare {} [.put boundEntry, .update movedEntry]).tables.trustDevice.rows,
      row.deviceId = "peer".toList := by decide
  have hno : ¬∃ row ∈
      (run .bare {} [.put boundEntry, .update movedEntry]).tables.accessControl.rows,
      row.trustDeviceId = "peer".toList := by decide
  exact hno (hview.mp hrow)

end DeviceProfile
