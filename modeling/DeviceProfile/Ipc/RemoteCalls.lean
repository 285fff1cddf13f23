import DeviceProfile.Ipc.RemoteMethods

/-!
# Remote calls of the service

What the methods bring over: their arguments, and those of their results that are not too many
and not none. Calls of any clients, with all tries and with messages that are lost, are a run of
the service, and no client takes an answer that the service did not give it.
-/

namespace DeviceProfile

open Library Std LocalServiceInfoManager

variable {σ : Type} {p : Parcel σ} {holds : σ → List Primitive → Prop}

/-! ## Fields -/

/-- In a roomy parcel the arguments are written. -/
theorem writeArgFields_eq_ok (hroom : p.IsRoomy) {A : Type} (fields : List (WireField A))
    (fail : Failure) (args : A) (s : σ) :
    Remote.writeArgFields p fields fail args s = .ok (writeFields p fields args s).2 := by
  have hok := hroom.writeFields fields args s
  cases hwrite : writeFields p fields args s with
  | mk result s' =>
    rw [hwrite] at hok
    obtain rfl : result = true := hok
    rw [Remote.writeArgFields, hwrite]
    rfl

/-- Fields that make up a record are read as they were written. -/
theorem readArgFields_of_write (hp : p.IsFaithful holds) {A : Type} {fields : List (WireField A)}
    (hcopy : ∀ t u, copyFields fields t u = t) {fail fail' : Failure} {fresh args : A} {s s' : σ}
    (hs : holds s []) (h : Remote.writeArgFields p fields fail args s = .ok s') :
    Remote.readArgFields p fields fresh fail' s' = .ok args := by
  rw [Remote.writeArgFields] at h
  cases hwrite : writeFields p fields args s with
  | mk result u =>
    rw [hwrite] at h
    cases result with
    | false => cases h
    | true =>
      obtain rfl : u = s' := Except.ok.inj h
      have hall := holds_writeFields hp hs (congrArg Prod.fst hwrite)
      rw [hwrite, List.nil_append, ← List.append_nil (fieldItems fields args)] at hall
      obtain ⟨v, hread, -⟩ := readFields_of_holds hp hall fresh
      rw [Remote.readArgFields, hread, hcopy]
      rfl

/-! ## Trust device profiles -/

/-- What a trust device leaves in a parcel. -/
def trustItems (t : TrustDeviceProfile) : List Primitive :=
  fieldItems trustFields t ++ ⟨.uint32, (uint32Size t.serviceIdList.length : Int)⟩ ::
    t.serviceIdList.map fun v => ⟨.int64, v⟩

/-- A trust device that has been written stands in the parcel. -/
theorem holds_marshalling_trust (hp : p.IsFaithful holds) {t : TrustDeviceProfile} {s : σ}
    {items : List Primitive} (hs : holds s items) (hok : (t.marshalling p s).1 = true) :
    holds (t.marshalling p s).2 (items ++ trustItems t) := by
  rw [TrustDeviceProfile.marshalling] at hok ⊢
  cases hwrite : writeFields p trustFields t s with
  | mk result s₁ =>
    rw [hwrite] at hok
    cases result with
    | false => cases hok
    | true =>
      have hfields := holds_writeFields hp hs (congrArg Prod.fst hwrite)
      rw [hwrite] at hfields
      dsimp only at hok ⊢
      cases hsize : writeSize p t.serviceIdList.length s₁ with
      | none =>
        rw [hsize] at hok
        cases hok
      | some s₂ =>
        rw [hsize] at hok
        have hall := holds_writeValues hp (holds_writeSize hp hfields hsize) hok
        rw [List.append_assoc, List.append_assoc] at hall
        exact hall

/-- What the reader makes of the fields and of the number of services. -/
theorem unMarshalling_trust_size (hp : p.IsFaithful holds) {t : TrustDeviceProfile} {s : σ}
    {rest : List Primitive} (hs : holds s (trustItems t ++ rest))
    (hfits : t.serviceIdList.length < 2 ^ 32) :
    ∃ s', holds s' ((t.serviceIdList.map fun v => (⟨.int64, v⟩ : Primitive)) ++ rest) ∧
      ({} : TrustDeviceProfile).unMarshalling p s =
        if MAX_SERVICE_SIZE < t.serviceIdList.length then
          (false, { t with serviceIdList := [] }, s')
        else
          ((readValues p .int64 t.serviceIdList.length s').1,
            { t with serviceIdList := (readValues p .int64 t.serviceIdList.length s').2.1 },
            (readValues p .int64 t.serviceIdList.length s').2.2) := by
  rw [trustItems, List.append_assoc] at hs
  obtain ⟨s₁, hread, hs₁⟩ := readFields_of_holds hp hs {}
  obtain ⟨s₂, hsize, hs₂⟩ := hp.read hs₁
  refine ⟨s₂, hs₂, ?_⟩
  rw [copyFields_trustFields] at hread
  have hlength : uint32Size t.serviceIdList.length = t.serviceIdList.length :=
    Nat.mod_eq_of_lt hfits
  rw [hlength] at hsize
  rw [TrustDeviceProfile.unMarshalling, hread]
  simp only [hsize, Int.toNat_natCast, List.nil_append]

/-- A trust device is read back as it stands in the parcel, up to the limit on service ids. -/
theorem unMarshalling_trust_of_holds (hp : p.IsFaithful holds) {t : TrustDeviceProfile} {s : σ}
    {rest : List Primitive} (hs : holds s (trustItems t ++ rest))
    (hle : t.serviceIdList.length ≤ MAX_SERVICE_SIZE) :
    ∃ s', ({} : TrustDeviceProfile).unMarshalling p s = (true, t, s') ∧ holds s' rest := by
  have hfits : t.serviceIdList.length < 2 ^ 32 := hle.trans_lt (by decide)
  obtain ⟨s₁, hs₁, hread⟩ := unMarshalling_trust_size hp hs hfits
  obtain ⟨s₂, hvalues, hs₂⟩ := readValues_of_holds hp (Nat.le_refl _) hs₁
  rw [if_neg (Nat.not_lt.mpr hle), hvalues, List.take_length] at hread
  rw [List.drop_length] at hs₂
  exact ⟨s₂, hread, hs₂⟩

/-- A trust device with too many service ids is not read. -/
theorem unMarshalling_trust_of_many (hp : p.IsFaithful holds) {t : TrustDeviceProfile} {s : σ}
    {rest : List Primitive} (hs : holds s (trustItems t ++ rest))
    (hfits : t.serviceIdList.length < 2 ^ 32) (hmany : MAX_SERVICE_SIZE < t.serviceIdList.length) :
    (({} : TrustDeviceProfile).unMarshalling p s).1 = false := by
  obtain ⟨s₁, -, hread⟩ := unMarshalling_trust_size hp hs hfits
  rw [hread, if_pos hmany]

/-- One profile with too many services spoils the vector. -/
theorem readEach_trust_of_many (hp : p.IsFaithful holds)
    {trusts : List TrustDeviceProfile} {s : σ} {rest : List Primitive}
    (hs : holds s (trusts.flatMap trustItems ++ rest))
    (hfits : ∀ t ∈ trusts, t.serviceIdList.length < 2 ^ 32)
    (hmany : ¬∀ t ∈ trusts, t.serviceIdList.length ≤ MAX_SERVICE_SIZE)
    (target : List TrustDeviceProfile) :
    (readEach (({} : TrustDeviceProfile).unMarshalling p) trusts.length target s).1 = false := by
  induction trusts generalizing s target with
  | nil => exact absurd (fun t ht => by cases ht) hmany
  | cons t trusts ih =>
    rw [List.flatMap_cons, List.append_assoc] at hs
    rw [List.length_cons, readEach]
    by_cases hle : t.serviceIdList.length ≤ MAX_SERVICE_SIZE
    · obtain ⟨s₁, hread, hs₁⟩ := unMarshalling_trust_of_holds hp hs hle
      rw [hread]
      refine ih hs₁ (fun u hu => hfits u (List.mem_cons_of_mem t hu)) (fun hall => hmany ?_) _
      exact List.forall_mem_cons.mpr ⟨hle, hall⟩
    · have hfail := unMarshalling_trust_of_many hp hs (hfits t List.mem_cons_self)
        (Nat.not_le.mp hle)
      cases hread : ({} : TrustDeviceProfile).unMarshalling p s with
      | mk result r =>
        rw [hread] at hfail
        obtain rfl : result = false := hfail
        rfl

/-- A vector: its size and its elements. -/
def vectorItems (length : Nat) (items : List Primitive) : List Primitive :=
  ⟨.uint32, (length : Int)⟩ :: items

/-- A vector of trust devices that has been written stands in the parcel, and its size is within the
limits. -/
theorem holds_marshallingTrusts (hp : p.IsFaithful holds) {trusts : List TrustDeviceProfile}
    {s : σ} {items : List Primitive} (hs : holds s items)
    (hok : (marshallingTrusts p trusts s).1 = true) :
    (trusts ≠ [] ∧ trusts.length ≤ MAX_PROFILE_SIZE) ∧
      holds (marshallingTrusts p trusts s).2
        (items ++ vectorItems trusts.length (trusts.flatMap trustItems)) := by
  rw [marshallingTrusts] at hok ⊢
  cases hsize : writeSize p trusts.length s with
  | none =>
    rw [hsize] at hok
    cases hok
  | some s₁ =>
    rw [hsize] at hok
    by_cases hbad : trusts = [] ∨ MAX_PROFILE_SIZE < trusts.length
    · simp only [hbad, if_true] at hok
      cases hok
    · simp only [hbad, if_false] at hok ⊢
      obtain ⟨hne, hle⟩ := not_or.mp hbad
      have hlength : uint32Size trusts.length = trusts.length :=
        uint32Size_of_le (Nat.not_lt.mp hle) (by decide)
      have hall := holds_writeEach (fun hs hok => holds_marshalling_trust hp hs hok)
        (holds_writeSize hp hs hsize) hok
      rw [hlength, List.append_assoc] at hall
      exact ⟨⟨hne, Nat.not_lt.mp hle⟩, hall⟩

/-- A vector of trust devices is read back exactly when none of them has too many service ids. -/
theorem unMarshallingTrusts_of_holds (hp : p.IsFaithful holds) {trusts : List TrustDeviceProfile}
    {s : σ} (hne : trusts ≠ []) (hle : trusts.length ≤ MAX_PROFILE_SIZE)
    (hfits : ∀ t ∈ trusts, t.serviceIdList.length < 2 ^ 32)
    (hs : holds s (vectorItems trusts.length (trusts.flatMap trustItems))) :
    ((unMarshallingTrusts p [] s).1 = true ↔
        ∀ t ∈ trusts, t.serviceIdList.length ≤ MAX_SERVICE_SIZE) ∧
      ((∀ t ∈ trusts, t.serviceIdList.length ≤ MAX_SERVICE_SIZE) →
        (unMarshallingTrusts p [] s).2.1 = trusts) := by
  obtain ⟨s₁, hread, hs₁⟩ := readSize_of_holds hp hs
  rw [← List.append_nil (trusts.flatMap _)] at hs₁
  have hgood : ¬(trusts.length = 0 ∨ MAX_PROFILE_SIZE < trusts.length) :=
    not_or.mpr ⟨mt List.length_eq_zero_iff.mp hne, Nat.not_lt.mpr hle⟩
  rw [unMarshallingTrusts, hread]
  simp only [if_neg hgood]
  by_cases hall : ∀ t ∈ trusts, t.serviceIdList.length ≤ MAX_SERVICE_SIZE
  · have hone : ∀ t ∈ trusts, ∀ (s : σ) (rest : List Primitive), holds s (trustItems t ++ rest) →
        ∃ s', ({} : TrustDeviceProfile).unMarshalling p s = (true, t, s') ∧ holds s' rest :=
      fun t ht _ _ hs => unMarshalling_trust_of_holds hp hs (hall t ht)
    obtain ⟨s₂, heach, -⟩ := readEach_of_holds hone hs₁ []
    rw [heach]
    exact ⟨iff_of_true rfl hall, fun _ => List.nil_append _⟩
  · rw [readEach_trust_of_many hp hs₁ hfits hall]
    exact ⟨iff_of_false Bool.false_ne_true hall, fun h => absurd h hall⟩

/-! ## Access control profiles -/

/-- A roomy parcel takes the parties of a profile, whose answers nobody looks at. -/
theorem arePartiesWritten_of_isRoomy (hroom : p.IsRoomy) (a : AccessControlProfile) (s : σ) :
    ArePartiesWritten p a s :=
  ⟨hroom.writeFields _ _ _, hroom.writeFields _ _ _⟩

/-- A roomy parcel takes the parties of all profiles. -/
theorem areAllPartiesWritten_of_isRoomy (hroom : p.IsRoomy)
    (profiles : List AccessControlProfile) (s : σ) : AreAllPartiesWritten p profiles s := by
  induction profiles generalizing s with
  | nil => trivial
  | cons a rest ih => exact ⟨arePartiesWritten_of_isRoomy hroom a s, ih _⟩

/-- A vector of profiles that has been written stands in the parcel. -/
theorem holds_marshallingProfiles (hp : p.IsFaithful holds) (hroom : p.IsRoomy)
    {profiles : List AccessControlProfile} {s : σ} {items : List Primitive} (hs : holds s items)
    (hok : (marshallingProfiles p profiles s).1 = true) :
    profiles.length ≤ MAX_PROFILE_SIZE ∧
      holds (marshallingProfiles p profiles s).2
        (items ++ vectorItems profiles.length (profiles.flatMap aclItems)) := by
  rw [marshallingProfiles] at hok ⊢
  cases hsize : writeSize p profiles.length s with
  | none =>
    rw [hsize] at hok
    cases hok
  | some s₁ =>
    rw [hsize] at hok
    have hs₁ := holds_writeSize hp hs hsize
    by_cases hempty : profiles = []
    · subst hempty
      exact ⟨Nat.zero_le _, hs₁⟩
    · by_cases hmany : MAX_PROFILE_SIZE < profiles.length
      · simp only [hempty, hmany, if_false, if_true] at hok
        cases hok
      · simp only [hempty, hmany, if_false] at hok ⊢
        have hlength : uint32Size profiles.length = profiles.length :=
          uint32Size_of_le (Nat.not_lt.mp hmany) (by decide)
        have hall := holds_writeEach_acl hp hs₁ hok
          (areAllPartiesWritten_of_isRoomy hroom profiles s₁)
        rw [hlength, List.append_assoc] at hall
        exact ⟨Nat.not_lt.mp hmany, hall⟩

/-- A vector of profiles is read back exactly when it is not empty. -/
theorem unMarshallingProfiles_of_holds (hp : p.IsFaithful holds)
    {profiles : List AccessControlProfile} {s : σ} (hle : profiles.length ≤ MAX_PROFILE_SIZE)
    (hs : holds s (vectorItems profiles.length (profiles.flatMap aclItems))) :
    ((unMarshallingProfiles p [] s).1 = true ↔ profiles ≠ []) ∧
      (profiles ≠ [] → (unMarshallingProfiles p [] s).2.1 = profiles) := by
  obtain ⟨s₁, hread, hs₁⟩ := readSize_of_holds hp hs
  rw [unMarshallingProfiles, hread]
  by_cases hempty : profiles = []
  · subst hempty
    exact ⟨iff_of_false Bool.false_ne_true fun h => h rfl, fun h => absurd rfl h⟩
  · have hgood : ¬(profiles.length = 0 ∨ MAX_PROFILE_SIZE < profiles.length) :=
      not_or.mpr ⟨mt List.length_eq_zero_iff.mp hempty, Nat.not_lt.mpr hle⟩
    rw [← List.append_nil (profiles.flatMap _)] at hs₁
    obtain ⟨s₂, heach, -⟩ :=
      readEach_of_holds (fun a _ _ _ ha => unMarshalling_acl hp ha freshProfile) hs₁ []
    simp only [if_neg hgood, heach]
    exact ⟨iff_of_true trivial hempty, fun _ => List.nil_append _⟩

/-! ## Trusted devices -/

theorem writeResult_eq_ok {fail : Failure} {r : Bool × σ} {s : σ} (h : writeResult fail r = .ok s) :
    r = (true, s) := by
  obtain ⟨result, s'⟩ := r
  cases result with
  | false => cases h
  | true => rw [Except.ok.inj h]

theorem copyFields_trustedDeviceFields (d e : TrustedDeviceInfo) :
    copyFields trustedDeviceFields d e = d := rfl

/-- The service reads the trusted devices that the client has written. -/
theorem devices_args (hp : p.IsFaithful holds) (hroom : p.IsRoomy) {fail fail' : Failure}
    {deviceInfos : List TrustedDeviceInfo} {s s' : σ} (hs : holds s [])
    (h : writeResult fail (marshallingDevices p deviceInfos s) = .ok s') :
    readResult fail' (unMarshallingDevices p [] s') = .ok deviceInfos := by
  have hok := writeResult_eq_ok h
  rw [marshallingDevices] at hok
  cases hsize : writeSize p deviceInfos.length s with
  | none =>
    rw [hsize] at hok
    cases hok
  | some s₁ =>
    rw [hsize] at hok
    by_cases hbad : deviceInfos = [] ∨ MAX_PROFILE_SIZE < deviceInfos.length
    · simp only [hbad, if_true] at hok
      cases hok
    simp only [hbad, if_false] at hok
    obtain ⟨hne, hle⟩ := not_or.mp hbad
    have hone : ∀ {d : TrustedDeviceInfo} {s : σ} {items : List Primitive}, holds s items →
        (true, (writeFields p trustedDeviceFields d s).2).1 = true →
        holds (true, (writeFields p trustedDeviceFields d s).2).2
          (items ++ fieldItems trustedDeviceFields d) :=
      fun {d s _} hs _ => holds_writeFields hp hs (hroom.writeFields trustedDeviceFields d s)
    have hwrite := holds_writeEach hone (holds_writeSize hp hs hsize) (congrArg Prod.fst hok)
    have hlength : uint32Size deviceInfos.length = deviceInfos.length :=
      uint32Size_of_le (Nat.not_lt.mp hle) (by decide)
    rw [hok, hlength, List.nil_append] at hwrite
    obtain ⟨s₂, hread, hs₂⟩ := readSize_of_holds hp hwrite
    rw [← List.append_nil (deviceInfos.flatMap _)] at hs₂
    obtain ⟨s₃, heach, -⟩ := readEach_of_holds (fun d _ _ _ hd => by
      obtain ⟨u, hfields, hu⟩ := readFields_of_holds hp hd {}
      exact ⟨u, copyFields_trustedDeviceFields d {} ▸ hfields, hu⟩) hs₂ []
    have hgood : ¬(deviceInfos.length = 0 ∨ MAX_PROFILE_SIZE < deviceInfos.length) :=
      not_or.mpr ⟨mt List.length_eq_zero_iff.mp hne, hle⟩
    rw [unMarshallingDevices, hread]
    simp only [if_neg hgood, heach, List.nil_append]
    rfl

/-! ## Session keys -/

/-- Bytes: their number, and the bytes where there are some. -/
def bytesItems (params : List UInt8) : List Primitive :=
  ⟨.uint32, (params.length : Int)⟩ :: if params = [] then [] else [⟨.rawData, params⟩]

/-- Bytes that have been written stand in the parcel, and there are not too many. -/
theorem holds_marshallingBytes (hp : p.IsFaithful holds) {params : List UInt8} {s : σ}
    {items : List Primitive} (hs : holds s items)
    (hok : (marshallingBytes p params s).1 = true) :
    params.length ≤ MAX_ICON_SIZE ∧
      holds (marshallingBytes p params s).2 (items ++ bytesItems params) := by
  rw [marshallingBytes] at hok ⊢
  by_cases hlong : MAX_ICON_SIZE < params.length
  · rw [if_pos hlong] at hok
    cases hok
  rw [if_neg hlong] at hok ⊢
  refine ⟨Nat.not_lt.mp hlong, ?_⟩
  cases hsize : writeSize p params.length s with
  | none =>
    rw [hsize] at hok
    cases hok
  | some s₁ =>
    rw [hsize] at hok
    have hs₁ := holds_writeSize hp hs hsize
    rw [uint32Size_of_le (Nat.not_lt.mp hlong) (by decide)] at hs₁
    by_cases hempty : params = []
    · simpa [bytesItems, hempty] using hs₁
    · cases hraw : p.write .rawData params s₁ with
      | none => simp [hempty, hraw] at hok
      | some s₂ =>
        have hs₂ := hp.write hs₁ hraw
        simpa [bytesItems, hempty, hraw] using hs₂

/-- Bytes are read back as they stand in the parcel, up to their limit. -/
theorem unMarshallingBytes_of_holds (hp : p.IsFaithful holds) {params : List UInt8} {s : σ}
    (hle : params.length ≤ MAX_ICON_SIZE) (hs : holds s (bytesItems params)) :
    ∃ s', unMarshallingBytes p [] s = (true, params, s') := by
  obtain ⟨s₁, hsize, hs₁⟩ := readSize_of_holds hp hs
  by_cases hempty : params = []
  · exact ⟨s₁, by simp only [unMarshallingBytes, hsize, hempty, List.length_nil, if_true]⟩
  · rw [if_neg hempty] at hs₁
    obtain ⟨s₂, hraw, -⟩ := hp.read hs₁
    have hne : params.length ≠ 0 := mt List.length_eq_zero_iff.mp hempty
    refine ⟨s₂, ?_⟩
    simp only [unMarshallingBytes, hsize, hne, Nat.not_lt.mpr hle, hraw, if_false, if_true]

/-- The service reads the user and the key that the client has written. -/
theorem sessionKey_args (hp : p.IsFaithful holds) {ERR_FLATTEN_OBJECT : Failure}
    {args : Int × List UInt8} {s s' : σ} (hs : holds s [])
    (h : (Remote.putSessionKey p ERR_FLATTEN_OBJECT).writeArgs args s = .ok s') :
    (Remote.putSessionKey p ERR_FLATTEN_OBJECT).readArgs s' = .ok args := by
  obtain ⟨userId, sessionKey⟩ := args
  simp only [Remote.putSessionKey] at h ⊢
  cases huser : p.write .uint32 userId s with
  | none =>
    rw [huser] at h
    cases h
  | some s₁ =>
    rw [huser] at h
    have hok := writeResult_eq_ok h
    obtain ⟨hle, hs'⟩ := holds_marshallingBytes hp (hp.write hs huser) (congrArg Prod.fst hok)
    rw [hok] at hs'
    obtain ⟨u, hread, hu⟩ := hp.read hs'
    obtain ⟨v, hkey⟩ := unMarshallingBytes_of_holds hp hle hu
    simp only [hread, hkey, readResult]

/-! ## The methods -/

/-- The results whose vectors have a size that 32 bits count. -/
def RetriedMethod.Fits : (m : RetriedMethod) → m.Outs → Prop
  | .getTrustDeviceProfile, t => t.serviceIdList.length < 2 ^ 32
  | .getAllTrustDeviceProfile, trusts => ∀ t ∈ trusts, t.serviceIdList.length < 2 ^ 32
  | _, _ => True

/-- The results that the proxy can read. -/
def RetriedMethod.Arrives : (m : RetriedMethod) → m.Outs → Prop
  | .getTrustDeviceProfile, t => t.serviceIdList.length ≤ MAX_SERVICE_SIZE
  | .getAllTrustDeviceProfile, trusts =>
    ∀ t ∈ trusts, t.serviceIdList.length ≤ MAX_SERVICE_SIZE
  | .getAccessControlProfile, profiles => profiles ≠ []
  | .getAllAccessControlProfile, profiles => profiles ≠ []
  | .getAllAclIncludeLnnAcl, profiles => profiles ≠ []
  | _, _ => True

/-- The arguments that the stub reads as they are. -/
def RetriedMethod.Sends : (m : RetriedMethod) → m.Args → Prop
  | .getAccessControlProfile, params => HasCleanKeys params
  | _, _ => True

theorem readInto_eq_ok_iff {τ : Type} {fail : Failure} (r : Bool × τ × σ) :
    (readInto fail r).1 = .ok () ↔ r.1 = true := by
  obtain ⟨result, t, s⟩ := r
  cases result with
  | false => exact iff_of_false (fun h => by cases h) Bool.false_ne_true
  | true => exact iff_of_true rfl rfl

theorem readInto_snd {τ : Type} {fail : Failure} (r : Bool × τ × σ) :
    (readInto fail r).2 = r.2.1 := by
  obtain ⟨result, t, s⟩ := r
  cases result <;> rfl

/-- A method without results brings over its arguments. -/
theorem transmits_command (hp : p.IsFaithful holds) {A : Type} {Sends : A → Prop}
    {writeArgs : A → σ → Except Failure σ} {readArgs : σ → Except Failure A} {replyFail : Failure}
    (hargs : ∀ {args : A} {s s' : σ}, Sends args → holds s [] → writeArgs args s = .ok s' →
      readArgs s' = .ok args) {Arrives : Unit → Prop} (harrives : Arrives ()) :
    (Remote.command writeArgs readArgs replyFail).Transmits p holds Sends (fun _ => True)
      Arrives := by
  refine ParcelMethod.Transmits.of_items hp (fun _ => []) hargs ?_ ?_
  · intro outs before s s' hs hok
    obtain rfl : s = s' := Except.ok.inj hok
    rw [List.append_nil]
    exact hs
  · intro outs before s s' u _ _ _ _
    exact ⟨iff_of_true rfl harrives, fun _ => rfl⟩

/-- The service reads the profile that the client has written. -/
theorem acl_args (hp : p.IsFaithful holds) (hroom : p.IsRoomy) {fail fail' : Failure}
    {a : AccessControlProfile} {s s' : σ} (hs : holds s [])
    (h : writeResult fail (a.marshalling p s) = .ok s') :
    readResult fail' (freshProfile.unMarshalling p s') = .ok a := by
  have hok := writeResult_eq_ok h
  have hall := holds_marshalling_acl hp hs (congrArg Prod.fst hok)
    (arePartiesWritten_of_isRoomy hroom a s)
  rw [hok, List.nil_append, ← List.append_nil (aclItems a)] at hall
  obtain ⟨u, hread, -⟩ := unMarshalling_acl hp hall freshProfile
  rw [hread]
  rfl

/-- The service reads the parameters that the client has written, as no name of them holds the
separator. -/
theorem map_args (hp : p.IsFaithful holds) {fail fail' : Failure} {params : Entries} {s s' : σ}
    (hclean : HasCleanKeys params) (hs : holds s [])
    (h : writeResult fail (marshallingMap p params s) = .ok s') :
    readResult fail' (unMarshallingMap p ∅ s') = .ok params := by
  have hok := writeResult_eq_ok h
  obtain ⟨u, hread⟩ := unMarshallingMap_eq hp hs (congrArg Prod.fst hok) ∅
  rw [hok] at hread
  have hrestored : IsMapRestored ∅ params :=
    ⟨hclean, fun key hkey => absurd hkey ExtTreeMap.not_mem_empty⟩
  rw [hread, readMap_of_isMapRestored hrestored]
  rfl

theorem deviceId_copy (t u : Text) : copyFields deviceIdFields t u = t := rfl

theorem id_copy (t u : Int) : copyFields idFields t u = t := rfl

theorem serviceKey_copy (t u : ServiceKey) : copyFields serviceKeyFields t u = t := rfl

theorem sessionKey_copy (t u : Int × Int) : copyFields sessionKeyFields t u = t := rfl

theorem localServiceInfo_copy (t u : LocalServiceInfo) :
    copyFields localServiceInfoFields t u = t := rfl

/-- A query for profiles passes its arguments and its results on, if its arguments are. -/
theorem transmits_profileQuery (hp : p.IsFaithful holds) (hroom : p.IsRoomy)
    {ERR_FLATTEN_OBJECT : Failure} {A : Type} {Sends : A → Prop}
    {writeArgs : A → σ → Except Failure σ} {readArgs : σ → Except Failure A}
    (hargs : ∀ {args : A} {s s' : σ}, Sends args → holds s [] → writeArgs args s = .ok s' →
      readArgs s' = .ok args) :
    (Remote.profileQuery p ERR_FLATTEN_OBJECT writeArgs readArgs).Transmits p holds Sends
      (fun _ => True) (· ≠ []) := by
  refine ParcelMethod.Transmits.of_items hp
    (fun profiles => vectorItems profiles.length (profiles.flatMap aclItems)) hargs ?_ ?_
  · intro profiles before s s' hs hok
    have hwrite := writeResult_eq_ok hok
    have hall := (holds_marshallingProfiles hp hroom hs (congrArg Prod.fst hwrite)).2
    rw [hwrite] at hall
    exact hall
  · intro profiles before s s' u _ hs hok hu
    have hwrite := writeResult_eq_ok hok
    have hle := (holds_marshallingProfiles hp hroom hs (congrArg Prod.fst hwrite)).1
    obtain ⟨hread, hvalue⟩ := unMarshallingProfiles_of_holds hp hle hu
    refine ⟨(readInto_eq_ok_iff _).trans hread, fun hne => ?_⟩
    exact (readInto_snd _).trans (hvalue hne)

/-- The query for one trust device passes on a device that does not have too many service ids. -/
theorem transmits_getTrustDeviceProfile (hp : p.IsFaithful holds) (ERR_FLATTEN_OBJECT : Failure) :
    (Remote.getTrustDeviceProfile p ERR_FLATTEN_OBJECT).Transmits p holds (fun _ => True)
      (·.serviceIdList.length < 2 ^ 32) (·.serviceIdList.length ≤ MAX_SERVICE_SIZE) := by
  refine ParcelMethod.Transmits.of_items hp trustItems
    (fun _ hs h => readArgFields_of_write hp deviceId_copy hs h) ?_ ?_
  · intro t before s s' hs hok
    have hwrite := writeResult_eq_ok hok
    have hall := holds_marshalling_trust hp hs (congrArg Prod.fst hwrite)
    rw [hwrite] at hall
    exact hall
  · intro t before s s' u hfits _ _ hu
    rw [← List.append_nil (trustItems t)] at hu
    rw [Remote.getTrustDeviceProfile, readInto_eq_ok_iff, readInto_snd]
    by_cases hle : t.serviceIdList.length ≤ MAX_SERVICE_SIZE
    · obtain ⟨v, hread, -⟩ := unMarshalling_trust_of_holds hp hu hle
      rw [hread]
      exact ⟨iff_of_true rfl hle, fun _ => rfl⟩
    · rw [unMarshalling_trust_of_many hp hu hfits (Nat.not_le.mp hle)]
      exact ⟨iff_of_false Bool.false_ne_true hle, fun h => absurd h hle⟩

/-- The query for all trust devices passes on devices none of which has too many service ids. -/
theorem transmits_getAllTrustDeviceProfile (hp : p.IsFaithful holds)
    (ERR_FLATTEN_OBJECT : Failure) :
    (Remote.getAllTrustDeviceProfile p ERR_FLATTEN_OBJECT).Transmits p holds (fun _ => True)
      (fun trusts => ∀ t ∈ trusts, t.serviceIdList.length < 2 ^ 32)
      fun trusts => ∀ t ∈ trusts, t.serviceIdList.length ≤ MAX_SERVICE_SIZE := by
  refine ParcelMethod.Transmits.of_items hp
    (fun trusts => vectorItems trusts.length (trusts.flatMap trustItems)) (fun _ _ _ => rfl) ?_ ?_
  · intro trusts before s s' hs hok
    have hwrite := writeResult_eq_ok hok
    have hall := (holds_marshallingTrusts hp hs (congrArg Prod.fst hwrite)).2
    rw [hwrite] at hall
    exact hall
  · intro trusts before s s' u hfits hs hok hu
    have hwrite := writeResult_eq_ok hok
    obtain ⟨hne, hle⟩ := (holds_marshallingTrusts hp hs (congrArg Prod.fst hwrite)).1
    obtain ⟨hread, hvalue⟩ := unMarshallingTrusts_of_holds hp hne hle hfits hu
    refine ⟨(readInto_eq_ok_iff _).trans hread, fun harrives => ?_⟩
    exact (readInto_snd _).trans (hvalue harrives)

/-- The query for a local service info passes it on. -/
theorem transmits_getLocalServiceInfo (hp : p.IsFaithful holds) (ERR_FLATTEN_OBJECT : Failure) :
    (Remote.getLocalServiceInfoByBundleAndPinType p ERR_FLATTEN_OBJECT).Transmits p holds
      (fun _ => True) (fun _ => True) fun _ => True := by
  refine ParcelMethod.Transmits.of_items hp (fieldItems localServiceInfoFields)
    (fun _ hs h => readArgFields_of_write hp serviceKey_copy hs h) ?_ ?_
  · intro info before s s' hs hok
    have hwrite := writeResult_eq_ok hok
    have hall := holds_writeFields hp hs (congrArg Prod.fst hwrite)
    rw [hwrite] at hall
    exact hall
  · intro info before s s' u _ _ _ hu
    rw [← List.append_nil (fieldItems _ info)] at hu
    obtain ⟨v, hread, -⟩ := readFields_of_holds hp hu freshLocalServiceInfo
    rw [Remote.getLocalServiceInfoByBundleAndPinType, readInto_eq_ok_iff, readInto_snd, hread,
      localServiceInfo_copy]
    exact ⟨iff_of_true rfl trivial, fun _ => rfl⟩

/-- The put of a session key passes the new id on. -/
theorem transmits_putSessionKey (hp : p.IsFaithful holds) (ERR_FLATTEN_OBJECT : Failure) :
    (Remote.putSessionKey p ERR_FLATTEN_OBJECT).Transmits p holds (fun _ => True)
      (fun _ => True) fun _ => True := by
  refine ParcelMethod.Transmits.of_items hp (fieldItems idFields)
    (fun _ hs h => sessionKey_args hp hs h) ?_ ?_
  · intro sessionKeyId before s s' hs hok
    have hwrite := writeResult_eq_ok hok
    have hall := holds_writeFields hp hs (congrArg Prod.fst hwrite)
    rw [hwrite] at hall
    exact hall
  · intro sessionKeyId before s s' u _ _ _ hu
    rw [← List.append_nil (fieldItems _ sessionKeyId)] at hu
    obtain ⟨v, hread, -⟩ := readFields_of_holds hp hu 0
    rw [Remote.putSessionKey, readInto_eq_ok_iff, readInto_snd, hread, id_copy]
    exact ⟨iff_of_true rfl trivial, fun _ => rfl⟩

/-- Every method brings over what it is given. -/
theorem RetriedMethod.transmits (hp : p.IsFaithful holds) (hroom : p.IsRoomy)
    (ERR_FLATTEN_OBJECT : Failure) (m : RetriedMethod) :
    (m.remote p ERR_FLATTEN_OBJECT).Transmits p holds m.Sends m.Fits m.Arrives := by
  cases m with
  | putAccessControlProfile =>
    exact transmits_command hp (fun _ hs h => acl_args hp hroom hs h) trivial
  | updateAccessControlProfile =>
    exact transmits_command hp (fun _ hs h => acl_args hp hroom hs h) trivial
  | getTrustDeviceProfile => exact transmits_getTrustDeviceProfile hp _
  | getAllTrustDeviceProfile => exact transmits_getAllTrustDeviceProfile hp _
  | getAccessControlProfile =>
    exact transmits_profileQuery hp hroom fun hclean hs h => map_args hp hclean hs h
  | getAllAccessControlProfile => exact transmits_profileQuery hp hroom fun _ _ _ => rfl
  | getAllAclIncludeLnnAcl => exact transmits_profileQuery hp hroom fun _ _ _ => rfl
  | deleteAccessControlProfile =>
    exact transmits_command hp
      (fun _ hs h => readArgFields_of_write hp id_copy hs h) trivial
  | putAllTrustedDevices =>
    exact transmits_command hp (fun _ hs h => devices_args hp hroom hs h) trivial
  | putSessionKey => exact transmits_putSessionKey hp _
  | deleteSessionKey =>
    exact transmits_command hp
      (fun _ hs h => readArgFields_of_write hp sessionKey_copy hs h) trivial
  | putLocalServiceInfo =>
    exact transmits_command hp
      (fun _ hs h => readArgFields_of_write hp localServiceInfo_copy hs h) trivial
  | updateLocalServiceInfo =>
    exact transmits_command hp
      (fun _ hs h => readArgFields_of_write hp localServiceInfo_copy hs h) trivial
  | getLocalServiceInfoByBundleAndPinType => exact transmits_getLocalServiceInfo hp _
  | deleteLocalServiceInfo =>
    exact transmits_command hp
      (fun _ hs h => readArgFields_of_write hp serviceKey_copy hs h) trivial

/-! ## Codes -/

/-- The codes of what cannot be written or read. -/
def IsParcelFailure (ERR_FLATTEN_OBJECT e : Failure) : Prop :=
  e = DP_WRITE_PARCEL_FAIL ∨ e = DP_READ_PARCEL_FAIL ∨ e = ERR_FLATTEN_OBJECT

theorem writeResult_eq_error {fail e : Failure} {r : Bool × σ} (h : writeResult fail r = .error e) :
    e = fail := by
  obtain ⟨result, s⟩ := r
  cases result with
  | false => exact (Except.error.inj h).symm
  | true => cases h

theorem readInto_eq_error {τ : Type} {fail e : Failure} {r : Bool × τ × σ}
    (h : (readInto fail r).1 = .error e) : e = fail := by
  obtain ⟨result, t, s⟩ := r
  cases result with
  | false => exact (Except.error.inj h).symm
  | true => cases h

variable {ERR_FLATTEN_OBJECT : Failure}

/-- A command fails with a code of the parcels only. -/
theorem canFail_command {A : Type} {writeArgs : A → σ → Except Failure σ}
    {readArgs : σ → Except Failure A} {replyFail : Failure}
    (hreply : IsParcelFailure ERR_FLATTEN_OBJECT replyFail) {e : Failure}
    (h : (Remote.command writeArgs readArgs replyFail).CanFail e) :
    IsParcelFailure ERR_FLATTEN_OBJECT e := by
  rcases h with rfl | ⟨outs, s, hs⟩ | ⟨outs, s, hs⟩
  · exact hreply
  · cases hs
  · cases hs

/-- A method whose results are written and read as a whole. -/
theorem canFail_of_outs {A O : Type} {m : ParcelMethod σ A O}
    (hreply : IsParcelFailure ERR_FLATTEN_OBJECT m.replyFail) {written unread : Failure}
    (hwritten : IsParcelFailure ERR_FLATTEN_OBJECT written)
    (hunread : IsParcelFailure ERR_FLATTEN_OBJECT unread)
    (hwrite : ∀ outs s, ∃ r, m.writeOuts outs s = writeResult written r)
    (hread : ∀ outs s, ∃ r : Bool × O × σ, m.readOuts outs s = readInto unread r) {e : Failure}
    (h : m.CanFail e) : IsParcelFailure ERR_FLATTEN_OBJECT e := by
  rcases h with rfl | ⟨outs, s, hs⟩ | ⟨outs, s, hs⟩
  · exact hreply
  · obtain ⟨r, hr⟩ := hwrite outs s
    rw [hr] at hs
    rw [writeResult_eq_error hs]
    exact hwritten
  · obtain ⟨r, hr⟩ := hread outs s
    rw [hr] at hs
    rw [readInto_eq_error hs]
    exact hunread

/-- Every failure behind a method is about a parcel. -/
theorem RetriedMethod.isParcelFailure_of_canFail (m : RetriedMethod) {e : Failure}
    (h : (m.remote p ERR_FLATTEN_OBJECT).CanFail e) : IsParcelFailure ERR_FLATTEN_OBJECT e := by
  have hwriteFail : IsParcelFailure ERR_FLATTEN_OBJECT DP_WRITE_PARCEL_FAIL := Or.inl rfl
  have hreadFail : IsParcelFailure ERR_FLATTEN_OBJECT DP_READ_PARCEL_FAIL := Or.inr (Or.inl rfl)
  have hflatten : IsParcelFailure ERR_FLATTEN_OBJECT ERR_FLATTEN_OBJECT := Or.inr (Or.inr rfl)
  cases m with
  | putAccessControlProfile => exact canFail_command hwriteFail h
  | updateAccessControlProfile => exact canFail_command hflatten h
  | getTrustDeviceProfile =>
    exact canFail_of_outs hflatten hwriteFail hwriteFail (fun _ _ => ⟨_, rfl⟩)
      (fun _ _ => ⟨_, rfl⟩) h
  | getAllTrustDeviceProfile =>
    exact canFail_of_outs hflatten hreadFail hreadFail (fun _ _ => ⟨_, rfl⟩)
      (fun _ _ => ⟨_, rfl⟩) h
  | getAccessControlProfile =>
    exact canFail_of_outs hflatten hwriteFail hreadFail (fun _ _ => ⟨_, rfl⟩)
      (fun _ _ => ⟨_, rfl⟩) h
  | getAllAccessControlProfile =>
    exact canFail_of_outs hflatten hwriteFail hreadFail (fun _ _ => ⟨_, rfl⟩)
      (fun _ _ => ⟨_, rfl⟩) h
  | getAllAclIncludeLnnAcl =>
    exact canFail_of_outs hflatten hwriteFail hreadFail (fun _ _ => ⟨_, rfl⟩)
      (fun _ _ => ⟨_, rfl⟩) h
  | deleteAccessControlProfile => exact canFail_command hflatten h
  | putAllTrustedDevices => exact canFail_command hflatten h
  | putSessionKey =>
    exact canFail_of_outs hwriteFail hflatten hflatten (fun _ _ => ⟨_, rfl⟩)
      (fun _ _ => ⟨_, rfl⟩) h
  | deleteSessionKey => exact canFail_command hwriteFail h
  | putLocalServiceInfo => exact canFail_command hwriteFail h
  | updateLocalServiceInfo => exact canFail_command hwriteFail h
  | getLocalServiceInfoByBundleAndPinType =>
    exact canFail_of_outs hflatten hwriteFail hreadFail (fun _ _ => ⟨_, rfl⟩)
      (fun _ _ => ⟨_, rfl⟩) h
  | deleteLocalServiceInfo => exact canFail_command hwriteFail h

/-- No such failure is tried again. -/
theorem not_retried_of_isParcelFailure (hflatten : ERR_FLATTEN_OBJECT.1 ∉ retryErrCodes)
    {e : Failure} (h : IsParcelFailure ERR_FLATTEN_OBJECT e) : e.1 ∉ retryErrCodes := by
  rcases h with rfl | rfl | rfl
  · decide
  · decide
  · exact hflatten

/-! ## One call -/

/-- The arguments that the proxy writes. -/
def RetriedMethod.IsSendable : (m : RetriedMethod) → m.Args → Prop
  | .getAccessControlProfile, params => ¬(params.size = 0 ∨ MAX_PARAM_SIZE < params.size)
  | .putAllTrustedDevices, deviceInfos =>
    ¬(deviceInfos = [] ∨ MAX_PROFILE_SIZE < deviceInfos.length)
  | .putSessionKey, args => ¬MAX_ICON_SIZE < args.2.length
  | _, _ => True

/-- The results that the stub writes. -/
def RetriedMethod.IsReplied : (m : RetriedMethod) → m.Outs → Prop
  | .getAllTrustDeviceProfile, trusts => ¬(trusts = [] ∨ MAX_PROFILE_SIZE < trusts.length)
  | .getAccessControlProfile, profiles => ¬MAX_PROFILE_SIZE < profiles.length
  | .getAllAccessControlProfile, profiles => ¬MAX_PROFILE_SIZE < profiles.length
  | .getAllAclIncludeLnnAcl, profiles => ¬MAX_PROFILE_SIZE < profiles.length
  | _, _ => True

/-- The code of the stub for results that it does not write. -/
def RetriedMethod.replyCode : RetriedMethod → Failure
  | .getAllTrustDeviceProfile => DP_READ_PARCEL_FAIL
  | _ => DP_WRITE_PARCEL_FAIL

theorem writeResult_of_fst {fail : Failure} {r : Bool × σ} (h : r.1 = true) :
    ∃ s, writeResult fail r = .ok s := by
  obtain ⟨result, s⟩ := r
  obtain rfl : result = true := h
  exact ⟨s, rfl⟩

theorem writeResult_of_not {fail : Failure} {r : Bool × σ} (h : r.1 = false) :
    writeResult fail r = .error fail := by
  obtain ⟨result, s⟩ := r
  obtain rfl : result = false := h
  rfl

theorem writeValues_of_isRoomy (hroom : p.IsRoomy) {k : WireKind} (values : List k.Val) (s : σ) :
    (writeValues p k values s).1 = true := by
  induction values generalizing s with
  | nil => rfl
  | cons v values ih =>
    obtain ⟨s', hs'⟩ := Option.isSome_iff_exists.mp (hroom k v s)
    simp only [writeValues, hs']
    exact ih s'

theorem exists_writeSize (hroom : p.IsRoomy) (length : Nat) (s : σ) :
    ∃ s', writeSize p length s = some s' :=
  Option.isSome_iff_exists.mp (hroom _ _ s)

/-- A roomy parcel takes every profile. -/
theorem marshalling_acl_of_isRoomy (hroom : p.IsRoomy) (a : AccessControlProfile) (s : σ) :
    (a.marshalling p s).1 = true := by
  have hfields := hroom.writeFields aclFields a s
  rw [AccessControlProfile.marshalling]
  cases hwrite : writeFields p aclFields a s with
  | mk result s' =>
    rw [hwrite] at hfields
    obtain rfl : result = true := hfields
    rfl

/-- A roomy parcel takes every trust device. -/
theorem marshalling_trust_of_isRoomy (hroom : p.IsRoomy) (t : TrustDeviceProfile) (s : σ) :
    (t.marshalling p s).1 = true := by
  have hfields := hroom.writeFields trustFields t s
  rw [TrustDeviceProfile.marshalling]
  cases hwrite : writeFields p trustFields t s with
  | mk result s' =>
    rw [hwrite] at hfields
    obtain rfl : result = true := hfields
    obtain ⟨s₁, hsize⟩ := exists_writeSize hroom t.serviceIdList.length s'
    simp only [hsize]
    exact writeValues_of_isRoomy hroom _ s₁

/-- With room, only the size of a vector keeps it from being written. -/
theorem marshallingProfiles_of_isRoomy (hroom : p.IsRoomy) (profiles : List AccessControlProfile)
    (s : σ) :
    (marshallingProfiles p profiles s).1 = true ↔ ¬MAX_PROFILE_SIZE < profiles.length := by
  obtain ⟨s', hsize⟩ := exists_writeSize hroom profiles.length s
  rw [marshallingProfiles, hsize]
  by_cases hempty : profiles = []
  · subst hempty
    exact iff_of_true rfl (Nat.not_lt_zero _)
  · by_cases hmany : MAX_PROFILE_SIZE < profiles.length
    · simp [hempty, hmany]
    · simp only [hempty, hmany, if_false, not_false_eq_true, iff_true]
      exact writeEach_eq_true (marshalling_acl_of_isRoomy hroom) profiles s'

/-- In a roomy parcel a vector of trust devices is refused for its size only. -/
theorem marshallingTrusts_of_isRoomy (hroom : p.IsRoomy) (trusts : List TrustDeviceProfile)
    (s : σ) :
    (marshallingTrusts p trusts s).1 = true ↔
      ¬(trusts = [] ∨ MAX_PROFILE_SIZE < trusts.length) := by
  obtain ⟨s', hsize⟩ := exists_writeSize hroom trusts.length s
  rw [marshallingTrusts, hsize]
  by_cases hbad : trusts = [] ∨ MAX_PROFILE_SIZE < trusts.length
  · simp [hbad]
  · simp only [hbad, if_false, not_false_eq_true, iff_true]
    exact writeEach_eq_true (marshalling_trust_of_isRoomy hroom) trusts s'

/-- In a roomy parcel a map is refused for its size only. -/
theorem marshallingMap_of_isRoomy (hroom : p.IsRoomy) (params : Entries) (s : σ) :
    (marshallingMap p params s).1 = true ↔
      ¬(params.size = 0 ∨ MAX_PARAM_SIZE < params.size) := by
  obtain ⟨s', hsize⟩ := exists_writeSize hroom params.size s
  rw [marshallingMap, hsize]
  by_cases hbad : params.size = 0 ∨ MAX_PARAM_SIZE < params.size
  · simp [hbad]
  · simp only [hbad, if_false, not_false_eq_true, iff_true]
    exact writeValues_of_isRoomy hroom _ s'

/-- In a roomy parcel a vector of trusted devices is refused for its size only. -/
theorem marshallingDevices_of_isRoomy (hroom : p.IsRoomy) (deviceInfos : List TrustedDeviceInfo)
    (s : σ) :
    (marshallingDevices p deviceInfos s).1 = true ↔
      ¬(deviceInfos = [] ∨ MAX_PROFILE_SIZE < deviceInfos.length) := by
  obtain ⟨s', hsize⟩ := exists_writeSize hroom deviceInfos.length s
  rw [marshallingDevices, hsize]
  by_cases hbad : deviceInfos = [] ∨ MAX_PROFILE_SIZE < deviceInfos.length
  · simp [hbad]
  · simp only [hbad, if_false, not_false_eq_true, iff_true]
    exact writeEach_eq_true (fun _ _ => rfl) deviceInfos s'

/-- In a roomy parcel bytes are refused for their number only. -/
theorem marshallingBytes_of_isRoomy (hroom : p.IsRoomy) (params : List UInt8) (s : σ) :
    (marshallingBytes p params s).1 = true ↔ ¬MAX_ICON_SIZE < params.length := by
  rw [marshallingBytes]
  by_cases hlong : MAX_ICON_SIZE < params.length
  · simp [hlong]
  · obtain ⟨s', hsize⟩ := exists_writeSize hroom params.length s
    obtain ⟨s'', hraw⟩ := Option.isSome_iff_exists.mp (hroom .rawData params s')
    simp only [hlong, if_false, hsize, hraw, not_false_eq_true, iff_true]
    split <;> rfl

/-- What is written, and what not, by its result alone. -/
theorem writeResult_cases {fail : Failure} {r : Bool × σ} {P : Prop} (h : r.1 = true ↔ P) :
    (P → ∃ s, writeResult fail r = .ok s) ∧ (¬P → writeResult fail r = .error fail) :=
  ⟨fun hP => writeResult_of_fst (h.mpr hP), fun hP => writeResult_of_not (Bool.eq_false_iff.mpr
    (mt h.mp hP))⟩

/-- The proxy writes the arguments exactly if they are sendable. -/
theorem RetriedMethod.writeArgs_cases (hroom : p.IsRoomy) (m : RetriedMethod) (args : m.Args)
    (s : σ) :
    (m.IsSendable args → ∃ s', (m.remote p ERR_FLATTEN_OBJECT).writeArgs args s = .ok s') ∧
      (¬m.IsSendable args →
        (m.remote p ERR_FLATTEN_OBJECT).writeArgs args s = .error DP_WRITE_PARCEL_FAIL) := by
  cases m with
  | putAccessControlProfile =>
    exact writeResult_cases (iff_true_intro (marshalling_acl_of_isRoomy hroom args s))
  | updateAccessControlProfile =>
    exact writeResult_cases (iff_true_intro (marshalling_acl_of_isRoomy hroom args s))
  | getAccessControlProfile => exact writeResult_cases (marshallingMap_of_isRoomy hroom args s)
  | getAllTrustDeviceProfile => exact ⟨fun _ => ⟨s, rfl⟩, fun h => absurd trivial h⟩
  | getAllAccessControlProfile => exact ⟨fun _ => ⟨s, rfl⟩, fun h => absurd trivial h⟩
  | getAllAclIncludeLnnAcl => exact ⟨fun _ => ⟨s, rfl⟩, fun h => absurd trivial h⟩
  | putLocalServiceInfo => exact writeResult_cases (iff_true_intro (hroom.writeFields _ args s))
  | updateLocalServiceInfo => exact writeResult_cases (iff_true_intro (hroom.writeFields _ args s))
  | getTrustDeviceProfile =>
    exact ⟨fun _ => ⟨_, writeArgFields_eq_ok hroom _ _ args s⟩, fun h => absurd trivial h⟩
  | deleteAccessControlProfile =>
    exact ⟨fun _ => ⟨_, writeArgFields_eq_ok hroom _ _ args s⟩, fun h => absurd trivial h⟩
  | putAllTrustedDevices => exact writeResult_cases (marshallingDevices_of_isRoomy hroom args s)
  | putSessionKey =>
    obtain ⟨s', huser⟩ := Option.isSome_iff_exists.mp (hroom .uint32 args.1 s)
    simp only [remote, Remote.putSessionKey, huser]
    exact writeResult_cases (marshallingBytes_of_isRoomy hroom args.2 s')
  | deleteSessionKey =>
    exact ⟨fun _ => ⟨_, writeArgFields_eq_ok hroom _ _ args s⟩, fun h => absurd trivial h⟩
  | getLocalServiceInfoByBundleAndPinType =>
    exact ⟨fun _ => ⟨_, writeArgFields_eq_ok hroom _ _ args s⟩, fun h => absurd trivial h⟩
  | deleteLocalServiceInfo =>
    exact ⟨fun _ => ⟨_, writeArgFields_eq_ok hroom _ _ args s⟩, fun h => absurd trivial h⟩

/-- The stub writes the results exactly if they can be replied. -/
theorem RetriedMethod.writeOuts_cases (hroom : p.IsRoomy) (m : RetriedMethod) (outs : m.Outs)
    (s : σ) :
    (m.IsReplied outs → ∃ s', (m.remote p ERR_FLATTEN_OBJECT).writeOuts outs s = .ok s') ∧
      (¬m.IsReplied outs →
        (m.remote p ERR_FLATTEN_OBJECT).writeOuts outs s = .error m.replyCode) := by
  cases m with
  | getTrustDeviceProfile =>
    exact writeResult_cases (iff_true_intro (marshalling_trust_of_isRoomy hroom outs s))
  | getAllTrustDeviceProfile => exact writeResult_cases (marshallingTrusts_of_isRoomy hroom outs s)
  | getAccessControlProfile => exact writeResult_cases (marshallingProfiles_of_isRoomy hroom outs s)
  | getAllAccessControlProfile =>
    exact writeResult_cases (marshallingProfiles_of_isRoomy hroom outs s)
  | getAllAclIncludeLnnAcl => exact writeResult_cases (marshallingProfiles_of_isRoomy hroom outs s)
  | getLocalServiceInfoByBundleAndPinType =>
    exact writeResult_cases (iff_true_intro (hroom.writeFields _ outs s))
  | putAccessControlProfile => exact ⟨fun _ => ⟨s, rfl⟩, fun h => absurd trivial h⟩
  | updateAccessControlProfile => exact ⟨fun _ => ⟨s, rfl⟩, fun h => absurd trivial h⟩
  | deleteAccessControlProfile => exact ⟨fun _ => ⟨s, rfl⟩, fun h => absurd trivial h⟩
  | putAllTrustedDevices => exact ⟨fun _ => ⟨s, rfl⟩, fun h => absurd trivial h⟩
  | putSessionKey =>
    exact ⟨fun _ => ⟨_, writeArgFields_eq_ok hroom _ _ outs s⟩, fun h => absurd trivial h⟩
  | deleteSessionKey => exact ⟨fun _ => ⟨s, rfl⟩, fun h => absurd trivial h⟩
  | putLocalServiceInfo => exact ⟨fun _ => ⟨s, rfl⟩, fun h => absurd trivial h⟩
  | updateLocalServiceInfo => exact ⟨fun _ => ⟨s, rfl⟩, fun h => absurd trivial h⟩
  | deleteLocalServiceInfo => exact ⟨fun _ => ⟨s, rfl⟩, fun h => absurd trivial h⟩

variable (ERR_FLATTEN_OBJECT)

/-- A call whose message is delivered agrees with a call of the service itself, but for arguments
that the proxy does not write, results that the stub does not write, whatever the code of the
method is, and results that the proxy does not read. -/
theorem remote_call_agrees {τ : Type} (hp : p.IsFaithful holds) (hroom : p.IsRoomy)
    (m : RetriedMethod) (direct : Direct τ m.Args m.Outs) (args : m.Args) (hsends : m.Sends args)
    (line : Line σ) (hrefusal : line.refusal = none) (hdelivered : line.delivery = .delivered)
    (hdata : holds line.data []) (hreply : holds line.reply []) (t : τ) :
    let remote := m.remote p ERR_FLATTEN_OBJECT
    let answer := direct args remote.freshOuts t
    let received := remote.call p direct line args remote.freshOuts t
    (¬m.IsSendable args →
        received = (DP_WRITE_PARCEL_FAIL.1, remote.freshOuts, t)) ∧
      (m.IsSendable args →
        received.2.2 = answer.2.2 ∧
          (¬m.IsReplied answer.2.1 → received.1 = m.replyCode.1) ∧
          (m.IsReplied answer.2.1 →
            (answer.1 ≠ 0 → received.1 = answer.1) ∧
              (answer.1 = 0 → m.Fits answer.2.1 →
                (received.1 = 0 ↔ m.Arrives answer.2.1) ∧
                  (m.Arrives answer.2.1 → received.2.1 = answer.2.1)))) := by
  intro remote answer received
  constructor
  · intro hunsendable
    have hwrite : remote.writeArgs args line.data = .error DP_WRITE_PARCEL_FAIL :=
      (m.writeArgs_cases hroom args line.data).2 hunsendable
    simp only [received, ParcelMethod.call, hrefusal, hwrite]
  · intro hsendable
    have htransmits := m.transmits hp hroom ERR_FLATTEN_OBJECT
    obtain ⟨data, hwrite⟩ : ∃ data, remote.writeArgs args line.data = .ok data :=
      (m.writeArgs_cases hroom args line.data).1 hsendable
    have hargs := htransmits.args hsends hdata hwrite
    obtain ⟨reply, hret⟩ := Option.isSome_iff_exists.mp (hroom .int32 answer.1 line.reply)
    have hcall : received = _ :=
      ParcelMethod.call_of_delivered hrefusal hdelivered hwrite hargs hret
    by_cases hreplied : m.IsReplied answer.2.1
    · obtain ⟨reply', houts⟩ : ∃ s, remote.writeOuts answer.2.1 reply = .ok s :=
        (m.writeOuts_cases hroom answer.2.1 reply).1 hreplied
      have hreceived : received = ((remote.receive p remote.freshOuts reply').1,
          (remote.receive p remote.freshOuts reply').2, answer.2.2) := by
        rw [hcall, houts]
      refine ⟨by rw [hreceived], fun h => absurd hreplied h, fun _ => ?_⟩
      have hcases := ParcelMethod.receive_cases htransmits (hp.write hreply hret) houts
      change answer.1 ≠ 0 ∧ remote.receive p remote.freshOuts reply' = _ ∨ _ at hcases
      rcases hcases with
        ⟨hne, hreceive⟩ | ⟨hzero, ⟨outs, hsame, hreceive⟩ | ⟨e, -, hnot, hcode⟩⟩
      · rw [hreceived, hreceive]
        exact ⟨fun _ => rfl, fun h => absurd h hne⟩
      · rw [hreceived, hreceive]
        refine ⟨fun h => absurd hzero h, fun _ hfits => ?_⟩
        exact ⟨iff_of_true rfl (hsame hfits).1, fun _ => (hsame hfits).2⟩
      · rw [hreceived, hcode]
        refine ⟨fun h => absurd hzero h, fun _ hfits => ?_⟩
        exact ⟨iff_of_false e.2 (hnot hfits), fun h => absurd h (hnot hfits)⟩
    · have houts : remote.writeOuts answer.2.1 reply = .error m.replyCode :=
        (m.writeOuts_cases hroom answer.2.1 reply).2 hreplied
      have hreceived : received = (m.replyCode.1, remote.freshOuts, answer.2.2) := by
        rw [hcall, houts]
      exact ⟨by rw [hreceived], fun _ => by rw [hreceived], fun h => absurd h hreplied⟩

/-- A trust device with two services that the service finds. -/
def servedDevice : TrustDeviceProfile := { deviceId := ['a'], serviceIdList := [7, 8] }

/-- A trust device comes back as the service has it, as does the id of a session key, and a vector
without devices does not reach the service. -/
theorem remote_call_agrees_of_trusted :
    let line : Line (List Primitive) := ⟨none, [], [], .delivered⟩
    let trust := RetriedMethod.getTrustDeviceProfile.remote roomyParcel ⟨3, by decide⟩
    let key := RetriedMethod.putSessionKey.remote roomyParcel ⟨3, by decide⟩
    let devices := RetriedMethod.putAllTrustedDevices.remote roomyParcel ⟨3, by decide⟩
    trust.call roomyParcel (fun _ _ n => (0, servedDevice, n + 1)) line ['a'] {} (0 : Nat) =
        (0, servedDevice, 1) ∧
      key.call roomyParcel (fun args _ n => (0, args.2.length, n + 1)) line (100, [1, 2]) 0
          (0 : Nat) = (0, 2, 1) ∧
      devices.call roomyParcel (fun _ outs n => (0, outs, n + 1)) line [] () (0 : Nat) =
        (DP_WRITE_PARCEL_FAIL.1, (), 0) := by
  intro line trust key devices
  refine ⟨?_, ?_, ?_⟩
  · obtain ⟨-, hsent⟩ := remote_call_agrees ⟨3, by decide⟩ roomyParcel_isFaithful
      roomyParcel_isRoomy .getTrustDeviceProfile (fun _ _ n => (0, servedDevice, n + 1)) ['a']
      trivial line rfl rfl rfl rfl (0 : Nat)
    obtain ⟨hstate, -, hreplied⟩ := hsent trivial
    obtain ⟨hcode, houts⟩ := (hreplied trivial).2 rfl
      (show servedDevice.serviceIdList.length < 2 ^ 32 by decide)
    have harrives : servedDevice.serviceIdList.length ≤ MAX_SERVICE_SIZE := by decide
    exact Prod.ext (hcode.mpr harrives) (Prod.ext (houts harrives) hstate)
  · obtain ⟨-, hsent⟩ := remote_call_agrees ⟨3, by decide⟩ roomyParcel_isFaithful
      roomyParcel_isRoomy .putSessionKey (fun args _ n => (0, args.2.length, n + 1))
      (100, [1, 2]) trivial line rfl rfl rfl rfl (0 : Nat)
    obtain ⟨hstate, -, hreplied⟩ := hsent (show ¬MAX_ICON_SIZE < 2 by decide)
    obtain ⟨hcode, houts⟩ := (hreplied trivial).2 rfl trivial
    exact Prod.ext (hcode.mpr trivial) (Prod.ext (houts trivial) hstate)
  · exact (remote_call_agrees ⟨3, by decide⟩ roomyParcel_isFaithful roomyParcel_isRoomy
      .putAllTrustedDevices (fun _ outs n => (0, outs, n + 1)) [] trivial line rfl rfl rfl rfl
      (0 : Nat)).1 fun hsendable => hsendable (Or.inl rfl)

/-! ## Runs of clients -/

/-- The service with all its remote methods. -/
abbrev RemoteService (τ : Type) : Type := (m : RetriedMethod) → Direct τ m.Args m.Outs

/-- A client of the service with what becomes of its tries. -/
abbrev DeviceProfileClient (σ : Type) : Type := RemoteClient σ RetriedMethod RetriedMethod.Args

/-- Clients of the service that have not begun. -/
def deviceProfileClients {τ : Type} (p : Parcel σ) (ERR_FLATTEN_OBJECT : Failure)
    (service : RemoteService τ) (clients : List (DeviceProfileClient σ)) (t : τ) :
    Pool Empty (Served τ RetriedMethod RetriedMethod.Args RetriedMethod.Outs)
      (ClientAnswer RetriedMethod RetriedMethod.Outs) :=
  clientsPool p (RetriedMethod.remote p ERR_FLATTEN_OBJECT) service retryErrCodes
    DP_GET_SERVICE_FAILED RetriedMethod.check (MAX_RETRY_TIMES + 1) clients t

/-- However the calls and the retries of clients are interleaved, and whatever becomes of their
messages, the methods that were run are a run of the service. Each client that has an answer
caused one run and one more for every reply that was lost at most, runs whose code is tried again
for aside. Its answer, be it a success or not, is what its last run answered, or what became of
the message to it or of the reply from it. -/
theorem remote_calls_are_a_run {τ : Type} (hp : p.IsFaithful holds) (hroom : p.IsRoomy)
    (hflatten : ERR_FLATTEN_OBJECT.1 ∉ retryErrCodes) (service : RemoteService τ)
    (clients : List (DeviceProfileClient σ)) (hsends : ∀ c ∈ clients, c.method.Sends c.args)
    (hlines : ∀ c ∈ clients, ∀ k line, c.lines k = some line →
      holds line.data [] ∧ holds line.reply []) (t : τ) (schedule : List Nat) :
    let remote := RetriedMethod.remote p ERR_FLATTEN_OBJECT
    let c := schedule.foldl Pool.schedule
      (deviceProfileClients p ERR_FLATTEN_OBJECT service clients t)
    Replays remote service t c.shared.log c.shared.state ∧
      ∀ i client answer, clients[i]? = some client → c.threads[i]? = some (.ret answer) →
        IsAnswered remote RetriedMethod.Fits RetriedMethod.Arrives retryErrCodes
          DP_GET_SERVICE_FAILED RetriedMethod.check i client.method client.args client.lines
          (MAX_RETRY_TIMES + 1) answer (runsOf i c.shared) :=
  clients_run hp (RetriedMethod.transmits hp hroom ERR_FLATTEN_OBJECT)
    (fun m _ h => not_retried_of_isParcelFailure hflatten (m.isParcelFailure_of_canFail h))
    (by decide) hsends hlines (Nat.succ_pos _) t schedule

/-- A service that counts its runs. It answers with the count as the id of a session key, and finds
no trust device. -/
def countingService : RemoteService Nat
  | .putSessionKey, _, _, n => (0, n + 1, n + 1)
  | .getTrustDeviceProfile, _, outs, n => (98566164, outs, n + 1)
  | _, _, outs, n => (0, outs, n + 1)

/-- The lines of a client whose reply to the first of eight tries is lost. -/
def lossyLines (k : Nat) : Option (Line (List Primitive)) :=
  some ⟨none, [], [], if k = MAX_RETRY_TIMES then .lost ⟨DP_ERR_DEAD_OBJECT, by decide⟩
    else .delivered⟩

/-- The lines of a client whose messages all come through. -/
def goodLines (_ : Nat) : Option (Line (List Primitive)) := some ⟨none, [], [], .delivered⟩

/-- The runs of two clients: the reply to the first one's key is lost, the second one asks for a
device in vain, and the first one tries again. -/
def sampleRuns : List (Execution RetriedMethod RetriedMethod.Args RetriedMethod.Outs) :=
  [⟨0, .putSessionKey, (100, [1, 2]), 0, 1⟩, ⟨1, .getTrustDeviceProfile, ['a'], 98566164, {}⟩,
    ⟨0, .putSessionKey, (100, [1, 2]), 0, 3⟩]

/-- The key is put twice, and its second id is answered; the other answer is the error code. -/
theorem remote_calls_are_a_run_after_loss :
    let remote := RetriedMethod.remote roomyParcel ⟨3, by decide⟩
    Replays remote countingService 0 sampleRuns 3 ∧
      IsAnswered remote RetriedMethod.Fits RetriedMethod.Arrives retryErrCodes
        DP_GET_SERVICE_FAILED RetriedMethod.check 0 .putSessionKey (100, [1, 2]) lossyLines
        (MAX_RETRY_TIMES + 1) ⟨.putSessionKey, 0, 3⟩ (sampleRuns.filter fun e => e.client = 0) ∧
      IsAnswered remote RetriedMethod.Fits RetriedMethod.Arrives retryErrCodes
        DP_GET_SERVICE_FAILED RetriedMethod.check 1 .getTrustDeviceProfile ['a'] goodLines
        (MAX_RETRY_TIMES + 1) ⟨.getTrustDeviceProfile, 98566164, {}⟩
        (sampleRuns.filter fun e => e.client = 1) := by
  intro remote
  obtain ⟨hreplays, hanswered⟩ := remote_calls_are_a_run ⟨3, by decide⟩
    roomyParcel_isFaithful roomyParcel_isRoomy (by decide) countingService
    [⟨.putSessionKey, (100, [1, 2]), lossyLines⟩, ⟨.getTrustDeviceProfile, ['a'], goodLines⟩]
    (List.forall_mem_cons.mpr ⟨trivial, List.forall_mem_singleton.mpr trivial⟩)
    (List.forall_mem_cons.mpr
      ⟨fun k line hline => Option.some.inj hline ▸ ⟨rfl, rfl⟩,
        List.forall_mem_singleton.mpr fun k line hline => Option.some.inj hline ▸ ⟨rfl, rfl⟩⟩)
    0 [0, 1, 0]
  exact ⟨hreplays, hanswered 0 _ _ rfl rfl, hanswered 1 _ _ rfl rfl⟩

end DeviceProfile
