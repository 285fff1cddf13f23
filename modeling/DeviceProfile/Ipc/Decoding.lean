import DeviceProfile.Ipc.Marshalling
import DeviceProfile.Subscribe.Data

/-!
# What a reader accepts

The readers of access control profiles and of subscriptions check the primitives they read
themselves, and drop the results of the readers they call. So a parcel that ends, or holds
something else, behind the fields of an access control profile is accepted, and so is a
subscription whose kinds of changes cannot be read.
-/

namespace DeviceProfile

open Library

/-- The most change types that one subscription names. -/
def MAX_SUBSCRIBE_CHANGE_SIZE : Nat := 20

variable {σ : Type} (p : Parcel σ)

/-- A number that cannot be read is zero, which is no kind of change. -/
def unMarshallingTypes : Nat → Finset ProfileChangeType → σ →
    Bool × Finset ProfileChangeType × σ
  | 0, changeTypes, s => (true, changeTypes, s)
  | n + 1, changeTypes, s =>
    let (num, s) := ((p.read .uint32 s).1.getD 0, (p.read .uint32 s).2)
    match ProfileChangeType.ofValue num with
    | none => (false, changeTypes, s)
    | some changeType => unMarshallingTypes n (insert changeType changeTypes) s

/-- A set of change types is its size and its elements; an empty or too large one is refused. -/
def unMarshallingChangeTypes (target : Finset ProfileChangeType) (s : σ) :
    Bool × Finset ProfileChangeType × σ :=
  let (size, s) := readSize p s
  if size = 0 ∨ MAX_SUBSCRIBE_CHANGE_SIZE < size then (false, target, s)
  else unMarshallingTypes p size target s

/-- The fields in front of the kinds of changes. -/
def subscribeFields : List (WireField SubscribeInfo) :=
  [⟨.int32, fun t => t.saId, fun v t => { t with saId := v }⟩,
    ⟨.string, fun t => t.subscribeKey, fun v t => { t with subscribeKey := v }⟩]

/-- The result for the kinds of changes is dropped. -/
def SubscribeInfo.unMarshalling (target : SubscribeInfo) (s : σ) : Bool × SubscribeInfo × σ :=
  match readFields p subscribeFields target s with
  | (false, t, s) => (false, t, s)
  | (true, t, s) =>
    let (_, subscribeChangeTypes, s) := unMarshallingChangeTypes p t.subscribeChangeTypes s
    match p.read .remoteObject s with
    | (none, s) => (false, { t with subscribeChangeTypes, listener := none }, s)
    | (some object, s) => (true, { t with subscribeChangeTypes, listener := some object }, s)

/-! ## Complete encodings -/

/-- As many kinds of changes can be read, one after another. -/
def AreTypesRead : Nat → σ → σ → Prop
  | 0, s, s' => s' = s
  | n + 1, s, s' => ∃ num next, p.read .uint32 s = (some num, next) ∧
      (ProfileChangeType.ofValue num).isSome ∧ AreTypesRead n next s'

/-- The number of the kinds of changes can be read, is allowed, and so many follow. -/
def AreChangeTypesRead (s s' : σ) : Prop :=
  ∃ size next, p.read .uint32 s = (some size, next) ∧ size.toNat ≠ 0 ∧
    size.toNat ≤ MAX_SUBSCRIBE_CHANGE_SIZE ∧ AreTypesRead p size.toNat next s'

/-- The kinds of the values that a profile writes for itself. -/
def aclKinds : List WireKind := aclFields.map WireField.kind

/-- The kinds of the values that a party of a profile writes. -/
def partyKinds : List WireKind := partyFields.map WireField.kind

/-- The kinds of the values that a subscription writes. -/
def subscribeKinds : List WireKind := subscribeFields.map WireField.kind

/-- All fields of an access control profile and of its two parties can be read. -/
def IsAclRead (s : σ) : Prop := (readAll p (aclKinds ++ (partyKinds ++ partyKinds)) s).isSome

/-- All fields of a subscription can be read. -/
def IsSubscribeInfoRead (s : σ) : Prop :=
  ∃ s₁ s₂, readAll p subscribeKinds s = some s₁ ∧ AreChangeTypesRead p s₁ s₂ ∧
    (p.read .remoteObject s₂).1.isSome

variable {p}

/-- The loop over the kinds of changes accepts exactly what it has read. -/
theorem unMarshallingTypes_iff {n : Nat} {changeTypes : Finset ProfileChangeType} {s s' : σ} :
    (unMarshallingTypes p n changeTypes s).1 = true ∧
        (unMarshallingTypes p n changeTypes s).2.2 = s' ↔ AreTypesRead p n s s' := by
  induction n generalizing changeTypes s with
  | zero =>
    rw [AreTypesRead, unMarshallingTypes, eq_comm (a := s')]
    exact and_iff_right rfl
  | succ n ih =>
    rw [unMarshallingTypes, AreTypesRead]
    cases hread : p.read .uint32 s with
    | mk value next =>
      cases value with
      | none =>
        refine iff_of_false (fun h => Bool.false_ne_true h.1) ?_
        rintro ⟨num, next', hnum, -⟩
        cases hnum
      | some num =>
        simp only [Option.getD_some]
        cases htype : ProfileChangeType.ofValue num with
        | none =>
          refine iff_of_false (fun h => Bool.false_ne_true h.1) ?_
          rintro ⟨num', next', hnum, hsome, -⟩
          cases hnum
          rw [htype] at hsome
          cases hsome
        | some changeType =>
          simp only
          rw [ih]
          constructor
          · intro h
            exact ⟨num, next, rfl, by rw [htype]; rfl, h⟩
          · rintro ⟨num', next', hnum, -, h⟩
            cases hnum
            exact h

/-- The reader of the kinds of changes accepts exactly a complete set. -/
theorem unMarshallingChangeTypes_iff {target : Finset ProfileChangeType} {s s' : σ} :
    (unMarshallingChangeTypes p target s).1 = true ∧
        (unMarshallingChangeTypes p target s).2.2 = s' ↔ AreChangeTypesRead p s s' := by
  rw [unMarshallingChangeTypes, readSize, AreChangeTypesRead]
  cases hread : p.read .uint32 s with
  | mk value next =>
    cases value with
    | none =>
      refine iff_of_false (fun h => Bool.false_ne_true h.1) ?_
      rintro ⟨size, next', hsize, -⟩
      cases hsize
    | some size =>
      simp only [Option.getD_some]
      by_cases hbad : size.toNat = 0 ∨ MAX_SUBSCRIBE_CHANGE_SIZE < size.toNat
      · rw [if_pos hbad]
        refine iff_of_false (fun h => Bool.false_ne_true h.1) ?_
        rintro ⟨size', next', hsize, hne, hle, -⟩
        cases hsize
        rcases hbad with hbad | hbad
        · exact hne hbad
        · exact absurd hbad (Nat.not_lt.mpr hle)
      · rw [if_neg hbad, unMarshallingTypes_iff]
        obtain ⟨hne, hle⟩ := not_or.mp hbad
        constructor
        · intro h
          exact ⟨size, next, rfl, hne, Nat.not_lt.mp hle, h⟩
        · rintro ⟨size', next', hsize, -, -, h⟩
          cases hsize
          exact h

/-- A reading succeeds as a whole exactly when each of its fields does. -/
theorem readAll_isSome_iff {T : Type} {fields : List (WireField T)} {t : T} {s : σ} :
    (readAll p (fields.map WireField.kind) s).isSome ↔ (readFields p fields t s).1 = true := by
  constructor
  · intro h
    obtain ⟨s', hs'⟩ := Option.isSome_iff_exists.mp h
    exact (readAll_eq_some hs' t).1
  · intro h
    rw [readFields_eq_true_iff.mp h]
    rfl

/-! ## What is accepted -/

/-- An access control profile is accepted as soon as its own fields can be read. -/
theorem unMarshalling_acl_eq_true_iff {target : AccessControlProfile} {s : σ} :
    (target.unMarshalling p s).1 = true ↔ (readAll p aclKinds s).isSome := by
  rw [aclKinds, readAll_isSome_iff (t := target), AccessControlProfile.unMarshalling]
  cases hread : readFields p aclFields target s with
  | mk result rest =>
    cases result with
    | false => exact iff_of_false Bool.false_ne_true Bool.false_ne_true
    | true => exact iff_of_true rfl rfl

/-- The fields that are read first leave the kinds of changes as they are. -/
theorem subscribeChangeTypes_readFields (target : SubscribeInfo) (s : σ) :
    (readFields p subscribeFields target s).2.1.subscribeChangeTypes =
      target.subscribeChangeTypes := by
  simp only [subscribeFields, readFields]
  cases p.read .int32 s with
  | mk saId s₁ =>
    cases saId with
    | none => rfl
    | some saId =>
      cases hkey : p.read .string s₁ with
      | mk subscribeKey s₂ =>
        cases subscribeKey with
        | none => simp only [hkey]
        | some subscribeKey => simp only [hkey]

/-- A subscription is accepted as soon as its number, its key and, behind whatever is left of the
kinds of changes, its listener can be read. -/
theorem unMarshalling_subscribeInfo_eq_true_iff {target : SubscribeInfo} {s : σ} :
    (target.unMarshalling p s).1 = true ↔
      ∃ s₁, readAll p subscribeKinds s = some s₁ ∧
        (p.read .remoteObject
          (unMarshallingChangeTypes p target.subscribeChangeTypes s₁).2.2).1.isSome := by
  have htypes := subscribeChangeTypes_readFields (p := p) target s
  have hall : ∀ s₁, readAll p subscribeKinds s = some s₁ →
      (readFields p subscribeFields target s).1 = true ∧
        (readFields p subscribeFields target s).2.2 = s₁ :=
    fun s₁ h => readAll_eq_some h target
  rw [SubscribeInfo.unMarshalling]
  cases hread : readFields p subscribeFields target s with
  | mk result rest =>
    obtain ⟨t, s₁⟩ := rest
    rw [hread] at htypes hall
    cases result with
    | false =>
      exact iff_of_false Bool.false_ne_true fun h => absurd (hall _ h.choose_spec.1).1 nofun
    | true =>
      have hsome : readAll p subscribeKinds s = some s₁ := by
        have hkinds := readFields_eq_true_iff.mp (congrArg Prod.fst hread)
        rwa [hread] at hkinds
      dsimp only at htypes ⊢
      rw [htypes]
      cases hobject : p.read .remoteObject
          (unMarshallingChangeTypes p target.subscribeChangeTypes s₁).2.2 with
      | mk object s₂ =>
        cases object with
        | none =>
          refine iff_of_false Bool.false_ne_true ?_
          rintro ⟨s₁', hs₁', hlistener⟩
          obtain rfl := Option.some.inj (hsome.symm.trans hs₁')
          rw [hobject] at hlistener
          cases hlistener
        | some object =>
          refine iff_of_true rfl ⟨s₁, hsome, ?_⟩
          rw [hobject]
          rfl

/-- When an accepted parcel is a complete encoding: the parties can be read wherever the fields of
the profile can, and the kinds of changes wherever the other fields of the subscription can. -/
theorem accepted_is_read_iff (p : Parcel σ) (s : σ) (acl : AccessControlProfile)
    (info : SubscribeInfo) :
    (((acl.unMarshalling p s).1 = true → IsAclRead p s) ↔
      ∀ s₁, readAll p aclKinds s = some s₁ →
        (readAll p (partyKinds ++ partyKinds) s₁).isSome) ∧
    (((info.unMarshalling p s).1 = true → IsSubscribeInfoRead p s) ↔
      ∀ s₁, readAll p subscribeKinds s = some s₁ →
        (p.read .remoteObject
          (unMarshallingChangeTypes p info.subscribeChangeTypes s₁).2.2).1.isSome →
        ∃ s₂, AreChangeTypesRead p s₁ s₂) := by
  constructor
  · rw [unMarshalling_acl_eq_true_iff, IsAclRead, readAll_append]
    cases readAll p aclKinds s with
    | none => exact iff_of_true nofun nofun
    | some s₁ =>
      constructor
      · rintro h s₁' heq
        obtain rfl := Option.some.inj heq
        exact h rfl
      · exact fun h _ => h s₁ rfl
  · rw [unMarshalling_subscribeInfo_eq_true_iff]
    constructor
    · rintro h s₁ hs₁ hlistener
      obtain ⟨s₁', s₂, hs₁', htypes, -⟩ := h ⟨s₁, hs₁, hlistener⟩
      obtain rfl := Option.some.inj (hs₁.symm.trans hs₁')
      exact ⟨s₂, htypes⟩
    · rintro h ⟨s₁, hs₁, hlistener⟩
      obtain ⟨s₂, htypes⟩ := h s₁ hs₁ hlistener
      obtain ⟨-, hend⟩ : (unMarshallingChangeTypes p info.subscribeChangeTypes s₁).1 = true ∧
          (unMarshallingChangeTypes p info.subscribeChangeTypes s₁).2.2 = s₂ :=
        unMarshallingChangeTypes_iff.mpr htypes
      rw [hend] at hlistener
      exact ⟨s₁, s₂, hs₁, htypes, hlistener⟩

/-- The fields of an access control profile without its parties. -/
def truncatedAcl : List Primitive := fieldItems aclFields freshProfile

/-- A subscription with more kinds of changes than there may be. -/
def tooManyTypes : List Primitive :=
  [⟨.int32, (1 : Int)⟩, ⟨.string, ("key" : Text)⟩, ⟨.uint32, (21 : Int)⟩,
    ⟨.remoteObject, (7 : Nat)⟩]

/-- Both are accepted, although neither is complete. -/
theorem incomplete_is_accepted :
    ((freshProfile.unMarshalling (listParcel 0) truncatedAcl).1 = true ∧
        ¬IsAclRead (listParcel 0) truncatedAcl) ∧
      (({} : SubscribeInfo).unMarshalling (listParcel 0) tooManyTypes).1 = true ∧
        ¬IsSubscribeInfoRead (listParcel 0) tooManyTypes := by
  refine ⟨⟨by decide +kernel, ?_⟩, by decide +kernel, ?_⟩
  · rw [IsAclRead]
    decide +kernel
  · rintro ⟨s₁, s₂, hs₁, ⟨size, next, hsize, -, hle, -⟩, -⟩
    obtain rfl := Option.some.inj hs₁
    obtain rfl := Option.some.inj (congrArg Prod.fst hsize)
    exact absurd hle (by decide)

end DeviceProfile
