import DeviceProfile.Library.Simulation
import DeviceProfile.Trust.Concurrency
import DeviceProfile.Trust.ParameterQuery

/-!
# Queries between the calls of other clients

A query holds the lock of the tables, so it answers from the state of one moment, in which the
tables agree whatever Puts, Updates and Deletes are under way. The two questions for a relation
to another device are such queries. A database that fails may make them answer no, but not yes.
-/

namespace DeviceProfile

open Library Std

/-! ## The questions for a relation -/

/-- The bind type of devices that were paired. -/
def POINT_TO_POINT : Int := 256

/-- The parameters of the questions: no bundle, a bind type and the active status. -/
def relationParams (bindType : Int) : Params :=
  ExtTreeMap.ofList [(BUNDLENAME, []), (BIND_TYPE, numeral bindType),
    (STATUS, numeral STATUS_ACTIVE)]

/-- Whether an entry that was found trusts the device; a failed query counts as no. -/
def isFoundFor (deviceId : Text) : Except DpError (List AccessControlProfile) → Bool
  | .error _ => false
  | .ok profile =>
    if profile.isEmpty then false
    else profile.any fun item => decide (item.trustDeviceId = deviceId)

section Relations

variable (env : Env) (libc : Libc)

/-- The body of `IsSameAccount` and of `HasTrustP2PRelation`, which differ in the bind type. -/
def hasRelation (bindType : Int) (deviceId : Text) : DpProg Bool :=
  if deviceId.isEmpty then return false
  else do
    let res ← (getAccessControlProfileByParams env libc (relationParams bindType)).attempt
    return isFoundFor deviceId res

/-- `IsSameAccount` -/
def isSameAccount (deviceId : Text) : DpProg Bool := hasRelation env libc SAME_ACCOUNT deviceId

/-- `HasTrustP2PRelation` -/
def hasTrustP2PRelation (deviceId : Text) : DpProg Bool :=
  hasRelation env libc POINT_TO_POINT deviceId

end Relations

/-! ## Clients -/

/-- What is asked of the tables. -/
inductive TrustQuery where
  | getAccessControlProfile (params : Params)
  | isSameAccount (deviceId : Text)
  | hasTrustP2PRelation (deviceId : Text)

/-- What a client asks of the trust tables. -/
inductive TrustRequest where
  | call (call : Call)
  | query (query : TrustQuery)

/-- What a client gets back. -/
inductive TrustAnswer where
  | done (result : Except DpError Unit)
  | profiles (result : Except DpError (List AccessControlProfile))
  | holds (result : Bool)

section Clients

variable (env : Env) (libc : Libc)

/-- A query, which answers its failures as well. -/
def TrustQuery.prog : TrustQuery → DpProg TrustAnswer
  | .getAccessControlProfile params => do
    let result ← (getAccessControlProfileByParams env libc params).attempt
    return .profiles result
  | .isSameAccount deviceId => do
    let result ← DeviceProfile.isSameAccount env libc deviceId
    return .holds result
  | .hasTrustP2PRelation deviceId => do
    let result ← DeviceProfile.hasTrustP2PRelation env libc deviceId
    return .holds result

/-- A request, which answers its failures as well. -/
def TrustRequest.prog : TrustRequest → DpProg TrustAnswer
  | .call c => do
    let result ← (c.prog env).attempt
    return .done result
  | .query q => q.prog env libc

/-- Clients that make one request each. -/
def trustClients (w : World) (requests : List TrustRequest) :
    Pool DpError World TrustAnswer :=
  ⟨w, requests.map (TrustRequest.prog env libc)⟩

end Clients

/-! ## What the answers say -/

/-- The outcome of a query by parameters. -/
def Tables.AnswersParams (t : Tables) (env : Env) (libc : Libc) (params : Params)
    (r : Except DpError (List AccessControlProfile)) : Prop :=
  match getAccessControlQuery libc params with
  | some query => t.Answers env query r
  | none => r = .error .invalidParams

/-- An active entry of the bind type, not of the network layer, trusts the device. -/
def Tables.Relates (t : Tables) (env : Env) (bindType : Int) (deviceId : Text)
    (suits : AccessControlProfile → Prop) : Prop :=
  deviceId ≠ [] ∧ ∃ p ∈ t.profiles, p.trustDeviceId = deviceId ∧ p.bindType = bindType ∧
    p.status = STATUS_ACTIVE ∧ env.isLnnAcl p = false ∧ suits p

/-- The answer agrees with the tables. Devices of one account need no more than an entry; paired
ones an entry for all applications of its users, or one with a party without bundle. -/
def TrustQuery.IsAnswered (env : Env) (libc : Libc) (t : Tables) :
    TrustQuery → TrustAnswer → Prop
  | .getAccessControlProfile params, .profiles r => t.AnswersParams env libc params r
  | .isSameAccount deviceId, .holds b =>
    b = true ↔ t.Relates env SAME_ACCOUNT deviceId fun _ => True
  | .hasTrustP2PRelation deviceId, .holds b =>
    b = true ↔ t.Relates env POINT_TO_POINT deviceId fun p =>
      p.bindLevel = BIND_LEVEL_USER ∨ p.HasParty fun a => a.bundleName = []
  | _, _ => False

/-! ## Only stored rows are delivered -/

section Stored

/-- The program only reads, and all entries it delivers have a property. -/
structure ReadsOnly (m : DpProg (List AccessControlProfile)) (P : AccessControlProfile → Prop) :
    Prop where
  reads : m.Steps Reads
  delivers : m.Returns fun profiles => ∀ p ∈ profiles, P p

variable {P : AccessControlProfile → Prop} {row : AccessControlRow}

theorem readsOnly_ret {profiles : List AccessControlProfile} (h : ∀ p ∈ profiles, P p) :
    ReadsOnly (.ret profiles) P :=
  ⟨trivial, h⟩

theorem readsOnly_nil : ReadsOnly (.ret []) P :=
  readsOnly_ret fun _ hp => absurd hp List.not_mem_nil

/-- What is read first does not matter. -/
theorem readsOnly_bind {α : Type} {m : DpProg α} {f : α → DpProg (List AccessControlProfile)}
    (hm : m.Steps Reads) (hf : ∀ a, ReadsOnly (f a) P) : ReadsOnly (m >>= f) P :=
  ⟨Prog.steps_bind hm fun a => (hf a).reads,
    Prog.returns_bind m.returns_true fun a _ => (hf a).delivers⟩

/-- One profile of a row is read. -/
theorem readsOnly_of_row (accesser : Accesser) (accessee : Accessee) :
    ReadsOnly (.ret [convertToAccessControlProfiles row accesser accessee])
      fun p => p.toAccessControlRow = row := by
  refine readsOnly_ret fun p hp => ?_
  rw [List.mem_singleton.mp hp]
  rfl

/-- The profiles of a row are read from it. -/
theorem readsOnly_getAccessControlProfilesWith (row : AccessControlRow)
    (test other : Party → Bool) : ReadsOnly (getAccessControlProfilesWith row test other)
      fun p => p.toAccessControlRow = row := by
  refine readsOnly_bind (reads_getResultSet _) fun accessers => ?_
  split
  · exact readsOnly_bind (reads_getResultSet _) fun _ => readsOnly_of_row _ _
  · refine readsOnly_bind (reads_getResultSet _) fun accessees => ?_
    split
    · exact readsOnly_bind (reads_getResultSet _) fun _ => readsOnly_of_row _ _
    · exact readsOnly_nil

theorem returns_getAccessControlProfile (row : AccessControlRow) :
    (getAccessControlProfile row).Returns fun p => p.toAccessControlRow = row := by
  refine Prog.returns_bind (Prog.returns_true _) fun accessers _ => ?_
  cases accessers with
  | nil => trivial
  | cons accesser _ =>
    refine Prog.returns_bind (Prog.returns_true _) fun accessees _ => ?_
    cases accessees with
    | nil => trivial
    | cons accessee _ => rfl

theorem readsOnly_getAccessControlProfile (row : AccessControlRow) :
    ReadsOnly (do
      let profile ← getAccessControlProfile row
      return [profile]) fun p => p.toAccessControlRow = row := by
  refine ⟨Prog.steps_bind (reads_getAccessControlProfile row) fun _ => trivial,
    Prog.returns_bind (returns_getAccessControlProfile row) fun profile hprofile p hp => ?_⟩
  rw [List.mem_singleton.mp hp]
  exact hprofile

theorem readsOnly_forEachRow {f : AccessControlRow → DpProg (List AccessControlProfile)}
    (hf : ∀ row, ReadsOnly (f row) fun p => p.toAccessControlRow = row)
    (rows : List AccessControlRow) :
    ReadsOnly (forEachRow f rows) fun p => p.toAccessControlRow ∈ rows := by
  induction rows with
  | nil => exact readsOnly_nil
  | cons row rows ih =>
    refine ⟨Prog.steps_bind (hf row).reads fun _ => Prog.steps_bind ih.reads fun _ => trivial,
      Prog.returns_bind (hf row).delivers fun profile hprofile =>
        Prog.returns_bind ih.delivers fun profiles hprofiles p hp => ?_⟩
    rcases List.mem_append.mp hp with hp | hp
    · exact hprofile p hp ▸ List.mem_cons_self
    · exact List.mem_cons_of_mem _ (hprofiles p hp)

/-- The walk of the query for a token is the loop over its rows. -/
theorem getAclProfileByTokenId_eq (trustDeviceId : Text) (tokenId : Int)
    (rows : List AccessControlRow) :
    getAclProfileByTokenId trustDeviceId tokenId rows = forEachRow (fun row =>
      if row.IsForAllTokens then getAccessControlProfilesByDeviceId row trustDeviceId
      else getAccessControlProfilesByTokenId row trustDeviceId tokenId) rows := by
  induction rows with
  | nil => rfl
  | cons row rows ih => rw [getAclProfileByTokenId, forEachRow, ih]

/-- The program changes no table, and delivers nothing but stored rows a query selects. -/
def DeliversStored (query : AclQuery) (m : DpProg (List AccessControlProfile)) : Prop :=
  ∀ w, Reads w (m.exec w).2 ∧ ∀ profiles, (m.exec w).1 = .ok profiles → ∀ p ∈ profiles,
    p.toAccessControlRow ∈ w.tables.accessControl ∧ query.Selects p.toAccessControlRow

/-- A query by frame delivers stored profiles when its parts read the selected rows. -/
theorem deliversStored_frame {query : AclQuery} {env : Env} {select : AccessControlRow → Bool}
    {collect : List AccessControlRow → DpProg (List AccessControlProfile)}
    (hselect : ∀ row, select row = true ↔ query.Selects row)
    (hcollect : ∀ rows, ReadsOnly (collect rows) fun p => p.toAccessControlRow ∈ rows) :
    DeliversStored query (getAccessControlProfileOf env select collect) := by
  intro w
  have hreads : (getAccessControlProfileOf env select collect).Steps Reads := by
    refine Prog.steps_bind (reads_getResultSet _) fun rows => ?_
    split
    · trivial
    · refine Prog.steps_bind (hcollect rows).reads fun profile => ?_
      dsimp only
      split <;> trivial
  refine ⟨hreads.exec Reads.refl Reads.trans w, fun profiles hexec p hp => ?_⟩
  obtain ⟨w₁, -, hrest⟩ | ⟨-, -, e, he⟩ :=
    (fetches_getResultSet _ w.tables).bind_cases (Prod.ext hexec rfl)
  · have hfrom : p.toAccessControlRow ∈ w.tables.accessControl.select select := by
      split at hrest
      · cases congrArg Prod.fst hrest
      · obtain ⟨profile, w₂, hprofile, hrest⟩ | ⟨e, -, hr⟩ := Prog.exec_bind_cases hrest
        · dsimp only at hrest
          split at hrest
          · cases congrArg Prod.fst hrest
          · obtain rfl := Except.ok.inj (congrArg Prod.fst hrest)
            exact (hcollect _).delivers.exec (congrArg Prod.fst hprofile) p
              (List.mem_filter.mp hp).1
        · cases hr
    rw [Table.mem_select, hselect] at hfrom
    exact hfrom
  · cases he

/-- Checks of the texts deliver nothing. -/
theorem DeliversStored.checked {query : AclQuery} {m : DpProg (List AccessControlProfile)}
    (h : DeliversStored query m) (long : Prop) [Decidable long] :
    DeliversStored query (do
      if long then
        throw .invalidParams
      m) := by
  by_cases hlong : long
  · simp only [hlong, if_true]
    exact fun w => ⟨Reads.refl w, nofun⟩
  · simp only [hlong, if_false]
    exact h

/-- The profiles of a type are active. -/
theorem mem_getAclByQueryType {queryType : QueryType} {q : QueryProfile}
    {profiles : List AccessControlProfile} {p : AccessControlProfile}
    (hp : p ∈ getAclByQueryType queryType q profiles) :
    p ∈ profiles ∧ p.status = STATUS_ACTIVE := by
  cases queryType with
  | acerAndAceeTokenId =>
    obtain ⟨hmem, -, hcheck⟩ := mem_getAclByCheck.mp hp
    rw [Bool.or_eq_true, checkForWardByAcerAndAcee_iff, checkReverseByAcerAndAcee_iff,
      ← and_or_left] at hcheck
    exact ⟨hmem, hcheck.1⟩
  | acerTokenId =>
    obtain ⟨hmem, -, hcheck⟩ := mem_getAclByCheck.mp hp
    rw [Bool.or_eq_true, checkForWardByAcer_iff, checkReverseByAcer_iff, ← and_or_left] at hcheck
    exact ⟨hmem, hcheck.1⟩

/-- The collected profiles are those of the rows. -/
theorem returns_collectProfiles (rows : List AccessControlRow) :
    (collectProfiles rows).Returns fun profiles =>
      ∀ p ∈ profiles, p.toAccessControlRow ∈ rows := by
  induction rows with
  | nil => exact fun _ hp => absurd hp List.not_mem_nil
  | cons row rows ih =>
    have hhead : (getAccessControlProfile row).attempt.Returns fun x =>
        ∀ p ∈ x.toOption.toList, p.toAccessControlRow = row := by
      refine Prog.returns_attempt (returns_getAccessControlProfile row) (fun p hp p' hp' => ?_)
        fun _ _ hp => absurd hp List.not_mem_nil
      rw [List.mem_singleton.mp hp']
      exact hp
    refine Prog.returns_bind hhead fun x hx =>
      Prog.returns_bind ih fun profiles hprofiles p hp => ?_
    rcases List.mem_append.mp hp with hp | hp
    · exact hx p hp ▸ List.mem_cons_self
    · exact List.mem_cons_of_mem _ (hprofiles p hp)

/-- The list of all entries holds entries of stored rows. -/
theorem mem_of_getAllAccessControlProfiles {w w' : World} {profiles : List AccessControlProfile}
    (h : getAllAccessControlProfiles.exec w = (.ok profiles, w')) :
    ∀ p ∈ profiles, p.toAccessControlRow ∈ w.tables.accessControl := by
  obtain ⟨w₁, -, hrest⟩ | ⟨-, -, e, he⟩ := (fetches_getResultSet _ w.tables).bind_cases h
  · split at hrest
    · cases congrArg Prod.fst hrest
    · obtain ⟨collected, w₂, hcollected, hrest⟩ | ⟨e, -, hr⟩ := Prog.exec_bind_cases hrest
      · split at hrest
        · cases congrArg Prod.fst hrest
        · obtain rfl := Except.ok.inj (congrArg Prod.fst hrest)
          exact (returns_collectProfiles _).exec (congrArg Prod.fst hcollected)
      · cases hr
  · cases he

/-- A query by a profile delivers stored profiles. -/
theorem deliversStored_byQueryProfile (env : Env) (queryType : QueryType) (q : QueryProfile) :
    DeliversStored (.byQueryProfile queryType q)
      (getAccessControlProfileByQuery env queryType q) := by
  intro w
  have hreads : (getAccessControlProfileByQuery env queryType q).Steps Reads := by
    refine Prog.steps_bind reads_getAllAccessControlProfiles fun profiles => ?_
    dsimp only
    split <;> trivial
  refine ⟨hreads.exec Reads.refl Reads.trans w, fun profiles hexec p hp => ?_⟩
  obtain ⟨stored, w₁, hstored, hrest⟩ | ⟨e, -, hr⟩ := Prog.exec_bind_cases (Prod.ext hexec rfl)
  · dsimp only at hrest
    split at hrest
    · cases congrArg Prod.fst hrest
    · obtain rfl := Except.ok.inj (congrArg Prod.fst hrest)
      obtain ⟨hmem, hstatus⟩ := mem_getAclByQueryType (List.mem_filter.mp hp).1
      exact ⟨mem_of_getAllAccessControlProfiles hstored p hmem, hstatus⟩
  · cases hr

/-- The query by user and bundle reads its rows. -/
theorem readsOnly_getAclProfileByUserIdAndBundleName (userId : Int) (bundleName : Text)
    (rows : List AccessControlRow) :
    ReadsOnly (getAclProfileByUserIdAndBundleName userId bundleName rows)
      fun p => p.toAccessControlRow ∈ rows := by
  refine readsOnly_forEachRow (fun row => ?_) rows
  split <;> exact readsOnly_getAccessControlProfilesWith row _ _

/-- The query by bundle reads its rows. -/
theorem readsOnly_getAclProfileByBundleName (bundleName : Text) (rows : List AccessControlRow) :
    ReadsOnly (getAclProfileByBundleName bundleName rows)
      fun p => p.toAccessControlRow ∈ rows := by
  refine readsOnly_forEachRow (fun row => ?_) rows
  split
  · exact readsOnly_getAccessControlProfile row
  · exact readsOnly_getAccessControlProfilesWith row _ _

/-- The query by token reads its rows. -/
theorem readsOnly_getAclProfileByTokenId (trustDeviceId : Text) (tokenId : Int)
    (rows : List AccessControlRow) :
    ReadsOnly (getAclProfileByTokenId trustDeviceId tokenId rows)
      fun p => p.toAccessControlRow ∈ rows := by
  rw [getAclProfileByTokenId_eq]
  refine readsOnly_forEachRow (fun row => ?_) rows
  split
  · rw [getAccessControlProfilesByDeviceId, getAccessControlProfilesBy_eq]
    exact readsOnly_getAccessControlProfilesWith row _ _
  · rw [getAccessControlProfilesByTokenId, getAccessControlProfilesBy_eq]
    exact readsOnly_getAccessControlProfilesWith row _ _

/-- Whatever database calls fail and whatever the tables hold, a query delivers only entries of
rows that are stored and that it asks for. -/
theorem deliversStored_query (env : Env) (query : AclQuery) :
    DeliversStored query (getAccessControlProfileByQueryOf env query) := by
  cases query with
  | byUserAndBundle userId bundleName trustDeviceId status =>
    exact (deliversStored_frame (fun _ => isOfDevice_iff)
      (readsOnly_getAclProfileByUserIdAndBundleName _ _)).checked _
  | byBundle bundleName trustDeviceId status =>
    exact (deliversStored_frame (fun _ => isOfDevice_iff)
      (readsOnly_getAclProfileByBundleName _)).checked _
  | byTokenId tokenId trustDeviceId status =>
    have hselect : ∀ row : AccessControlRow, decide (row.status = status) = true ↔
        (AclQuery.byTokenId tokenId trustDeviceId status).Selects row :=
      fun _ => decide_eq_true_iff
    exact (deliversStored_frame hselect (readsOnly_getAclProfileByTokenId _ _)).checked _
  | byUserAndBundleOfBindType userId bundleName bindType status =>
    refine (deliversStored_frame (fun _ => isOfBindType_iff) fun rows => ?_).checked _
    have hloop := readsOnly_getAclProfileByUserIdAndBundleName userId bundleName rows
    exact ⟨Prog.steps_orFail hloop.reads _, Prog.returns_orFail hloop.delivers⟩
  | byBundleOfBindType bundleName bindType status =>
    exact (deliversStored_frame (fun _ => isOfBindType_iff)
      (readsOnly_getAclProfileByBundleName _)).checked _
  | byUserAndAccount userId accountId =>
    have hselect : ∀ row, true = true ↔
        (AclQuery.byUserAndAccount userId accountId).Selects row := fun _ => iff_of_true rfl trivial
    refine (deliversStored_frame hselect fun rows => ?_).checked _
    exact readsOnly_forEachRow (fun row => readsOnly_getAccessControlProfilesWith row _ _) rows
  | byUser userId =>
    have hselect : ∀ row, true = true ↔ (AclQuery.byUser userId).Selects row :=
      fun _ => iff_of_true rfl trivial
    exact deliversStored_frame hselect fun rows =>
      readsOnly_forEachRow (fun row => readsOnly_getAccessControlProfilesWith row _ _) rows
  | byQueryProfile queryType q => exact deliversStored_byQueryProfile env queryType q

end Stored

/-! ## The parameters of the questions -/

section Parameters

variable (libc : Libc) {bindType : Int}

/-- The three parameters of a relation. -/
theorem valueOf_relationParams (bindType : Int) {name value : Text}
    (h : (name, value) ∈ [(BUNDLENAME, ([] : Text)), (BIND_TYPE, numeral bindType),
      (STATUS, numeral STATUS_ACTIVE)]) :
    (relationParams bindType).contains name = true ∧
      (relationParams bindType).valueOf name = value := by
  have hdistinct : [(BUNDLENAME, ([] : Text)), (BIND_TYPE, numeral bindType),
      (STATUS, numeral STATUS_ACTIVE)].Pairwise fun a b => ¬compare a.1 b.1 = .eq := by
    simp only [List.pairwise_cons, List.mem_cons, List.not_mem_nil, or_false, forall_eq_or_imp,
      forall_eq, false_imp_iff, implies_true, List.Pairwise.nil, and_true]
    decide
  have hget : (relationParams bindType)[name]? = some value :=
    ExtTreeMap.getElem?_ofList_of_mem (Std.ReflCmp.compare_self) hdistinct h
  refine ⟨?_, ?_⟩
  · rw [ExtTreeMap.contains_eq_isSome_getElem?, hget]
    rfl
  · rw [Params.valueOf, hget]
    rfl

/-- An integer that was written is read again. -/
theorem isPropertyValid_numeral {params : Params} {property : Text} {n : Int}
    (hcontains : params.contains property = true) (hvalue : params.valueOf property = numeral n)
    (hproperty : property.isEmpty = false) (hlow : INT32_MIN < n) (hhigh : n < INT32_MAX) :
    isPropertyValid libc params property INT32_MIN INT32_MAX = true ∧
      libc.atoi (params.valueOf property) = n := by
  have hread : libc.atoi (numeral n) = n := by
    have hint : IsInt32 (readInt (numeral n)) := by
      rw [readInt_numeral]
      exact ⟨hlow.le, hhigh.le⟩
    rw [(libc.atoi_eq_iff _).mpr hint, readInt_numeral]
  rw [isPropertyValid, hvalue, hread]
  simp [hcontains, hproperty, isNumeral_numeral, hlow, hhigh]

/-- The questions lead to the query by bundle and bind type. -/
theorem getAccessControlQuery_relationParams (hlow : INT32_MIN < bindType)
    (hhigh : bindType < INT32_MAX) :
    getAccessControlQuery libc (relationParams bindType) =
      some (.byBundleOfBindType [] bindType STATUS_ACTIVE) := by
  have habsent : ∀ name : Text, name ≠ BUNDLENAME → name ≠ BIND_TYPE → name ≠ STATUS →
      (relationParams bindType).contains name = false := by
    intro name h₁ h₂ h₃
    simp [relationParams, h₁, h₂, h₃]
  obtain ⟨hbundle, hname⟩ := valueOf_relationParams bindType List.mem_cons_self
  obtain ⟨hbind, hbindType⟩ := valueOf_relationParams bindType
    (List.mem_cons_of_mem _ List.mem_cons_self)
  obtain ⟨hstat, hstatus⟩ := valueOf_relationParams bindType
    (List.mem_cons_of_mem _ (List.mem_cons_of_mem _ List.mem_cons_self))
  obtain ⟨hvalid, htype⟩ := isPropertyValid_numeral libc hbind hbindType (by decide) hlow hhigh
  obtain ⟨hvalid', hactive⟩ := isPropertyValid_numeral libc hstat hstatus (by decide) (by decide)
    (by decide)
  have hdevice : hasTrustDevice libc (relationParams bindType) = false := by
    rw [hasTrustDevice, habsent TRUST_DEVICE_ID (by decide) (by decide) (by decide)]
    rfl
  have huser : hasUser libc (relationParams bindType) = false := by
    rw [hasUser, isPropertyValid, habsent USERID (by decide) (by decide) (by decide)]
    rfl
  have htypes : hasBindType libc (relationParams bindType) = true := by
    rw [hasBindType, hvalid, hvalid']
    rfl
  rw [getAccessControlQuery, queryOfTrustDevice, hdevice, queryOfBindType, htypes, huser, hbundle,
    hname, htype, hactive]
  rfl

end Parameters

/-! ## One request -/

section Requests

variable (env : Env) (libc : Libc) {t : Tables}

/-- A query by parameters changes no table, and delivers stored rows. -/
theorem deliversStored_byParams (params : Params) (w : World) :
    Reads w ((getAccessControlProfileByParams env libc params).exec w).2 ∧
      ∀ query profiles, getAccessControlQuery libc params = some query →
        ((getAccessControlProfileByParams env libc params).exec w).1 = .ok profiles →
          ∀ p ∈ profiles, p.toAccessControlRow ∈ w.tables.accessControl ∧
            query.Selects p.toAccessControlRow := by
  rw [getAccessControlProfileByParams, Prog.exec_atomic]
  cases hquery : getAccessControlQuery libc params with
  | none => exact ⟨Reads.refl w, nofun⟩
  | some query =>
    obtain ⟨hreads, hstored⟩ := deliversStored_query env query w
    refine ⟨hreads, fun query' profiles hsome hexec => ?_⟩
    obtain rfl := Option.some.inj hsome
    exact hstored profiles hexec

/-- Where the tables agree, a query by parameters answers from them. -/
theorem exec_getAccessControlProfileByParams (hi : t.Integrity) (params : Params)
    (n : List Notice) :
    t.AnswersParams env libc params
      ((getAccessControlProfileByParams env libc params).exec ⟨t, [], n⟩).1 := by
  rw [getAccessControlProfileByParams, Prog.exec_atomic, Tables.AnswersParams]
  cases hquery : getAccessControlQuery libc params with
  | none => rfl
  | some query =>
    obtain ⟨r, hr, hexec⟩ := exec_getAccessControlProfileByQueryOf env hi query n
    rw [hexec]
    exact hr

/-- A relation holds when the query finds a profile of the device. -/
theorem exec_hasRelation (bindType : Int) (deviceId : Text) (w : World) :
    ((hasRelation env libc bindType deviceId).exec w).1 =
      .ok (if deviceId.isEmpty then false
        else isFoundFor deviceId
          ((getAccessControlProfileByParams env libc (relationParams bindType)).exec w).1) := by
  rw [hasRelation]
  split
  · rfl
  · rw [Prog.exec_bind_ok (Prog.exec_attempt _ w)]
    rfl

/-- Whatever the query answered, an entry that was found trusts the device. -/
theorem isFoundFor_eq_true {deviceId : Text} {r : Except DpError (List AccessControlProfile)} :
    isFoundFor deviceId r = true ↔
      ∃ profiles, r = .ok profiles ∧ ∃ p ∈ profiles, p.trustDeviceId = deviceId := by
  cases r with
  | error e => exact iff_of_false Bool.false_ne_true fun ⟨_, h, _⟩ => nomatch h
  | ok profile =>
    cases profile with
    | nil => simp [isFoundFor]
    | cons p rest => simp [isFoundFor]

/-- The answer of the query decides the relation. -/
theorem isFoundFor_iff {bindType : Int} {deviceId : Text}
    {r : Except DpError (List AccessControlProfile)}
    (h : t.Answers env (.byBundleOfBindType [] bindType STATUS_ACTIVE) r) :
    isFoundFor deviceId r = true ↔ ∃ p ∈ t.profiles, p.trustDeviceId = deviceId ∧
      p.bindType = bindType ∧ p.status = STATUS_ACTIVE ∧ env.isLnnAcl p = false ∧
        (p.IsForAllTokens ∨ p.HasParty fun a => a.bundleName = []) := by
  rw [isFoundFor_eq_true]
  have hmem : ∀ profiles, t.Delivers env (.byBundleOfBindType [] bindType STATUS_ACTIVE) profiles →
      ((∃ p ∈ profiles, p.trustDeviceId = deviceId) ↔
        ∃ p ∈ t.profiles, p.trustDeviceId = deviceId ∧ p.bindType = bindType ∧
          p.status = STATUS_ACTIVE ∧ env.isLnnAcl p = false ∧
            (p.IsForAllTokens ∨ p.HasParty fun a => a.bundleName = [])) := by
    rintro profiles ⟨hsub, hiff⟩
    constructor
    · rintro ⟨p, hp, hdevice⟩
      obtain ⟨hlnn, ⟨htype, hstatus⟩, hsuits⟩ := (hiff p (hsub.subset hp)).mp hp
      exact ⟨p, hsub.subset hp, hdevice, htype, hstatus, hlnn, hsuits⟩
    · rintro ⟨p, hp, hdevice, htype, hstatus, hlnn, hsuits⟩
      exact ⟨p, (hiff p hp).mpr ⟨hlnn, ⟨htype, hstatus⟩, hsuits⟩, hdevice⟩
  cases h with
  | tooLong hlong => exact absurd (Nat.zero_le _) hlong
  | empty _ hnone => rw [← hmem [] hnone]; simp
  | found _ _ hdelivers => rw [← hmem _ hdelivers]; simp

/-- A relation is answered by the rows that join the device. -/
theorem relates_iff (bindType : Int) (hi : t.Integrity) (hlow : INT32_MIN < bindType)
    (hhigh : bindType < INT32_MAX) (deviceId : Text) (n : List Notice) :
    ∃ b, ((hasRelation env libc bindType deviceId).exec ⟨t, [], n⟩).1 = .ok b ∧
      (b = true ↔ t.Relates env bindType deviceId fun p =>
        p.IsForAllTokens ∨ p.HasParty fun a => a.bundleName = []) := by
  refine ⟨_, exec_hasRelation env libc bindType deviceId _, ?_⟩
  have hanswers := exec_getAccessControlProfileByParams env libc hi (relationParams bindType) n
  rw [Tables.AnswersParams, getAccessControlQuery_relationParams libc hlow hhigh] at hanswers
  rw [Tables.Relates, ← isFoundFor_iff env hanswers]
  cases deviceId with
  | nil => simp
  | cons c rest => simp

/-- Where the tables agree and no database call fails, a query is answered from the tables. -/
theorem isAnswered_of_exec (hi : t.Integrity) (query : TrustQuery) {n : List Notice}
    {answer : TrustAnswer} (hexec : ((query.prog env libc).exec ⟨t, [], n⟩).1 = .ok answer) :
    query.IsAnswered env libc t answer := by
  cases query with
  | getAccessControlProfile params =>
    rw [TrustQuery.prog, Prog.exec_bind_ok (Prog.exec_attempt _ _)] at hexec
    obtain rfl := Except.ok.inj hexec
    exact exec_getAccessControlProfileByParams env libc hi params n
  | isSameAccount deviceId =>
    obtain ⟨b, hb, hrelates⟩ :=
      relates_iff env libc SAME_ACCOUNT hi (by decide) (by decide) deviceId n
    rw [TrustQuery.prog, isSameAccount, Prog.exec_bind_ok (Prod.ext hb rfl)] at hexec
    obtain rfl := Except.ok.inj hexec
    refine hrelates.trans (and_congr_right fun _ => exists_congr fun p => ?_)
    refine and_congr_right fun _ => and_congr_right fun _ => and_congr_right fun htype => ?_
    simp only [AccessControlRow.IsForAllTokens, htype, true_or, and_true]
  | hasTrustP2PRelation deviceId =>
    obtain ⟨b, hb, hrelates⟩ :=
      relates_iff env libc POINT_TO_POINT hi (by decide) (by decide) deviceId n
    rw [TrustQuery.prog, hasTrustP2PRelation, Prog.exec_bind_ok (Prod.ext hb rfl)] at hexec
    obtain rfl := Except.ok.inj hexec
    refine hrelates.trans (and_congr_right fun _ => exists_congr fun p => ?_)
    refine and_congr_right fun _ => and_congr_right fun _ => and_congr_right fun htype => ?_
    have hne : POINT_TO_POINT ≠ SAME_ACCOUNT := by decide
    simp only [AccessControlRow.IsForAllTokens, htype, hne, false_or]

/-- A question for a relation is one step. -/
theorem immediate_hasRelation (bindType : Int) (deviceId : Text) :
    (do
      let result ← hasRelation env libc bindType deviceId
      return .holds result : DpProg TrustAnswer).Immediate := by
  rw [hasRelation]
  split
  · trivial
  · rw [Prog.bind_assoc]
    exact Prog.immediate_attempt_atomic _ fun r => TrustAnswer.holds (isFoundFor deviceId r)

/-- Every query is one step. -/
theorem immediate_query (query : TrustQuery) : (query.prog env libc).Immediate := by
  cases query with
  | getAccessControlProfile params => exact Prog.immediate_attempt_atomic _ TrustAnswer.profiles
  | isSameAccount deviceId => exact immediate_hasRelation env libc _ deviceId
  | hasTrustP2PRelation deviceId => exact immediate_hasRelation env libc _ deviceId

end Requests

/-! ## Every interleaving -/

section Interleavings

variable (env : Env) (libc : Libc)

/-- The tables go on to agree, while no database call fails. -/
def KeepsAgreement (w w' : World) : Prop :=
  w.faults = [] ∧ w.tables.Integrity → w'.faults = [] ∧ w'.tables.Integrity

theorem Reads.keepsAgreement {w w' : World} (h : Reads w w') : KeepsAgreement w w' :=
  fun ⟨hw, hi⟩ => ⟨h.calm hw, h.tables ▸ hi⟩

theorem KeepsParties.keepsAgreement {w w' : World} (h : KeepsParties w w') :
    KeepsAgreement w w' := by
  rintro ⟨hw, hi⟩
  obtain ⟨hw', hi', -⟩ := h hw hi
  exact ⟨hw', hi'⟩

/-- Every step of a call keeps the agreement of the tables. -/
theorem keepsAgreement_call (call : Call) : (call.prog env).Steps KeepsAgreement := by
  have hbinds : ∀ call : Call, call.Binds → (call.prog env).Steps KeepsAgreement :=
    fun _ hcall => (keepsParties_prog env hcall).mono fun _ _ h => h.keepsAgreement
  cases call with
  | put p => exact hbinds (.put p) trivial
  | delete id => exact hbinds (.delete id) trivial
  | update p =>
    refine Prog.steps_bind (Prog.steps_atomic fun w => ?_) fun old =>
      (unlocked_updateTail p old).mono fun _ _ h => h.keepsParties.keepsAgreement
    rintro ⟨hw, hi⟩
    obtain ⟨r, w', h⟩ : ∃ r w', (updateAccessControlProfileLocked p).exec w = (r, w') :=
      ⟨_, _, rfl⟩
    rw [h]
    exact ⟨(Locked.of_exec (locked_updateAccessControlProfileLocked p) h).calm hw,
      (updateAccessControlProfileLocked_effect hw h).integrity hi⟩

/-- A query keeps the tables in agreement. -/
theorem keepsAgreement_query (query : TrustQuery) : (query.prog env libc).Steps KeepsAgreement := by
  have hparams : ∀ params, (getAccessControlProfileByParams env libc params).Steps
      KeepsAgreement := by
    intro params
    refine Prog.steps_atomic fun w => ?_
    have hreads := (deliversStored_byParams env libc params w).1
    rw [getAccessControlProfileByParams, Prog.exec_atomic] at hreads
    exact hreads.keepsAgreement
  have hrelation : ∀ bindType deviceId,
      (hasRelation env libc bindType deviceId).Steps KeepsAgreement := by
    intro bindType deviceId
    rw [hasRelation]
    split
    · trivial
    · exact Prog.steps_bind (Prog.steps_attempt (hparams _)) fun _ => trivial
  cases query with
  | getAccessControlProfile params =>
    exact Prog.steps_bind (Prog.steps_attempt (hparams params)) fun _ => trivial
  | isSameAccount deviceId => exact Prog.steps_bind (hrelation _ deviceId) fun _ => trivial
  | hasTrustP2PRelation deviceId => exact Prog.steps_bind (hrelation _ deviceId) fun _ => trivial

/-- Every request keeps the tables in agreement. -/
theorem keepsAgreement_request (request : TrustRequest) :
    (request.prog env libc).Steps KeepsAgreement := by
  cases request with
  | call call =>
    exact Prog.steps_bind (Prog.steps_attempt (keepsAgreement_call env call)) fun _ => trivial
  | query query => exact keepsAgreement_query env libc query

/-- The tables agree in every state of every interleaving. -/
theorem agreement_trustClients {w : World} (hw : Reachable env w) (requests : List TrustRequest)
    (schedule : List Nat) :
    (schedule.foldl Pool.schedule (trustClients env libc w requests)).shared.faults = [] ∧
      (schedule.foldl Pool.schedule
        (trustClients env libc w requests)).shared.tables.Integrity := by
  have hrelies : (trustClients env libc w requests).Relies (fun _ => fun _ _ => True)
      (fun _ => KeepsAgreement) (fun _ _ _ => True) fun _ _ _ => True := by
    intro i m hm
    rw [trustClients, List.getElem?_map, Option.map_eq_some_iff] at hm
    obtain ⟨request, -, rfl⟩ := hm
    exact ⟨fun _ => True, fun _ _ _ _ => trivial, trivial,
      (keepsAgreement_request env libc request).relies⟩
  exact hrelies.invariant (fun _ _ _ _ _ _ => trivial) (fun _ _ _ h => h)
    ⟨hw.calm, hw.integrity⟩ schedule

/-- In every interleaving of Puts, Updates, Deletes and queries, while no database call fails, a
query answers from the tables at its turn, at which it takes its one step: its entries are the
stored ones that it selects and that suit it, and the relations to a device are those of its
entries. -/
theorem queries_answer_from_a_moment {w : World} (hw : Reachable env w)
    (requests : List TrustRequest) (schedule : List Nat) (i : Nat) {query : TrustQuery}
    {answer : TrustAnswer} (hquery : requests[i]? = some (.query query))
    (hanswer : (schedule.foldl Pool.schedule
      (trustClients env libc w requests)).threads[i]? = some (.ret answer)) :
    query.IsAnswered env libc ((Pool.beforeTurn schedule i).foldl Pool.schedule
      (trustClients env libc w requests)).shared.tables answer := by
  have hthread : (trustClients env libc w requests).threads[i]? = some (query.prog env libc) := by
    rw [trustClients, List.getElem?_map, hquery]
    rfl
  have hexec := Pool.exec_of_turn hthread (immediate_query env libc query) hanswer
  obtain ⟨hcalm, hi⟩ := agreement_trustClients env libc hw requests (Pool.beforeTurn schedule i)
  generalize ((Pool.beforeTurn schedule i).foldl Pool.schedule
    (trustClients env libc w requests)).shared = s at hexec hcalm hi ⊢
  obtain ⟨t, faults, n⟩ := s
  obtain rfl : faults = [] := hcalm
  exact isAnswered_of_exec env libc hi query hexec

end Interleavings

/-- An entry that pairs the local device with a peer. -/
def pairedEntry : AccessControlProfile := { boundEntry with bindType := POINT_TO_POINT }

/-- One client stores the entry, one deletes it, and two ask for the relation. -/
def pairingRequests : List TrustRequest :=
  [.call (.put pairedEntry), .query (.hasTrustP2PRelation ("peer" : String)), .call (.delete 1),
    .query (.hasTrustP2PRelation ("peer" : String))]

/-- The schedule in which the first question comes before the deletion, and the second behind. -/
def pairingSchedule : List Nat := [0, 1] ++ List.replicate 3 2 ++ [3]

/-- Two questions for a relation around the pairing, each answered from its moment. -/
theorem queries_answer_from_a_moment_paired :
    (TrustQuery.hasTrustP2PRelation ("peer" : String)).IsAnswered .bare .wrapping
      ((Pool.beforeTurn pairingSchedule 1).foldl Pool.schedule
        (trustClients .bare .wrapping {} pairingRequests)).shared.tables (.holds true) ∧
    (TrustQuery.hasTrustP2PRelation ("peer" : String)).IsAnswered .bare .wrapping
      ((Pool.beforeTurn pairingSchedule 3).foldl Pool.schedule
        (trustClients .bare .wrapping {} pairingRequests)).shared.tables (.holds false) :=
  ⟨queries_answer_from_a_moment .bare .wrapping ⟨[], rfl⟩ pairingRequests pairingSchedule 1 rfl
      rfl,
    queries_answer_from_a_moment .bare .wrapping ⟨[], rfl⟩ pairingRequests pairingSchedule 3 rfl
      rfl⟩

end DeviceProfile
