import DeviceProfile.Library.Run
import DeviceProfile.Rdb.Migration

/-!
# The database survives the move

Whatever fails and wherever the process dies, the file that counts holds the database with every
accepted write, as long as corrupt files are restored: the old file counts until it is deleted,
and by then the new one has all of it. The old file is never made anew.
-/

namespace DeviceProfile

open Library Prog

variable {s t : TrustDatabase}

namespace TrustDatabase

@[simp] theorem file_setHandle (h : RdbHandle) (path : Option RdbPath) (s : TrustDatabase) :
    (s.setHandle h path).file = s.file := rfl

@[simp] theorem accepted_setHandle (h : RdbHandle) (path : Option RdbPath) (s : TrustDatabase) :
    (s.setHandle h path).accepted = s.accepted := rfl

@[simp] theorem accepted_setFile (path : RdbPath) (file : Option RdbFile) (s : TrustDatabase) :
    (s.setFile path file).accepted = s.accepted := rfl

@[simp] theorem handle_setFile (h : RdbHandle) (path : RdbPath) (file : Option RdbFile)
    (s : TrustDatabase) : (s.setFile path file).handle h = s.handle h := rfl

theorem file_setFile (path other : RdbPath) (file : Option RdbFile) (s : TrustDatabase) :
    (s.setFile path file).file other = if other = path then file else s.file other := by
  simp only [setFile, Function.update_apply]

theorem handle_setHandle (h other : RdbHandle) (path : Option RdbPath) (s : TrustDatabase) :
    (s.setHandle h path).handle other =
      if other = h then s.rdbStore.bind fun _ => path else s.handle other := by
  cases hs : s.rdbStore with
  | none => simp [handle, setHandle, hs]
  | some a =>
    by_cases ho : other = h
    · simp [handle, setHandle, hs, ho]
    · simp [handle, setHandle, hs, ho]

theorem content_of_old {f : RdbFile} (h : s.file .old = some f) : s.content = f.store := by
  simp [content, served, h]

theorem content_of_acl {f : RdbFile} (hold : s.file .old = none) (h : s.file .acl = some f) :
    s.content = f.store := by
  simp [content, served, hold, h]

end TrustDatabase

/-! ## Opening a file -/

/-- Opening a file keeps what it holds. -/
theorem keeps_openFile (f : RdbFile) : f.store.Keeps (openFile (some f)).store := by
  simp only [openFile]
  split
  · exact keeps_exec_onUpgrade _ _ _
  · exact .refl _

/-- A file that is there keeps what it holds, unless it was corrupt and is not restored. -/
theorem OpenAnswer.keeps_file {answer : OpenAnswer} (h : answer.Restores) (f : RdbFile) :
    ∃ f', answer.file (some f) = some f' ∧ f.store.Keeps f'.store := by
  cases answer with
  | opened => exact ⟨_, rfl, keeps_openFile f⟩
  | refused => exact ⟨f, rfl, .refl _⟩
  | rebuiltUnknown => exact ⟨_, rfl, keeps_openFile f⟩
  | rebuilt restored =>
    cases restored with
    | false => exact absurd rfl h
    | true => exact ⟨_, rfl, keeps_openFile f⟩

/-- A file that could be opened is there. -/
theorem OpenAnswer.isSome_file {answer : OpenAnswer} (h : answer.result = .ok ())
    (f : Option RdbFile) : (answer.file f).isSome ∧ ∀ path, answer.handle path = some path := by
  cases answer with
  | opened => exact ⟨rfl, fun _ => rfl⟩
  | refused => cases h
  | rebuiltUnknown => cases h
  | rebuilt restored =>
    cases restored with
    | false => cases h
    | true => exact ⟨rfl, fun _ => rfl⟩

/-- A handle is on the file that was opened, which is there. -/
theorem OpenAnswer.isSome_file_of_handle {answer : OpenAnswer} {path served : RdbPath}
    (h : answer.handle path = some served) (f : Option RdbFile) :
    served = path ∧ (answer.file f).isSome := by
  cases answer with
  | refused => cases h
  | opened => exact ⟨(Option.some.inj h).symm, rfl⟩
  | rebuiltUnknown => exact ⟨(Option.some.inj h).symm, rfl⟩
  | rebuilt restored =>
    refine ⟨(Option.some.inj h).symm, ?_⟩
    cases restored <;> rfl

/-- What every try to open a file keeps holds after the tries. The handle is on the file if one
of them succeeded. -/
theorem guards_connectDB {I : TrustDatabase → Prop} (h : RdbHandle) (path : RdbPath)
    (answers : Nat → OpenAnswer) (hI : ∀ s n, I s → I (s.openAt h path (answers n)))
    (hmanager : ∀ s, I s → s.rdbStore.isSome) (n : Nat) (hs : I s) :
    (connectDB h path answers n).Guards I
      (fun _ t => I t ∧ t.handle h = some path ∧ (t.file path).isSome)
      (fun e t => I t ∧ e = .rdbAdapterInitFail ∧
        ∀ k, 0 < k → k ≤ n → (answers k).result ≠ .ok ()) s := by
  induction n generalizing s with
  | zero => exact ⟨hs, hs, rfl, fun k hpos hk => absurd hpos (by omega)⟩
  | succ n ih =>
    have hopen := hI s (n + 1) hs
    obtain ⟨a, ha⟩ := Option.isSome_iff_exists.mp (hmanager s hs)
    refine guards_bind (guards_attempt ⟨hs, ?_⟩)
    cases hresult : (answers (n + 1)).result with
    | ok u =>
      obtain ⟨hfile, hhandle⟩ := OpenAnswer.isSome_file hresult (s.file path)
      refine ⟨hopen, hopen, hopen, ?_, ?_⟩
      · simp [TrustDatabase.openAt, TrustDatabase.handle_setHandle, hhandle,
          TrustDatabase.setFile, ha]
      · simpa [TrustDatabase.openAt, TrustDatabase.file_setFile] using hfile
    | error e =>
      refine ⟨hopen, (ih hopen).mono (fun _ ht => ht) (fun _ _ _ ht => ht) ?_⟩
      rintro e' t - ⟨ht, he', hall⟩
      refine ⟨ht, he', fun k hpos hk => ?_⟩
      rcases Nat.lt_or_eq_of_le hk with hlt | rfl
      · exact hall k hpos (Nat.le_of_lt_succ hlt)
      · rw [hresult]
        simp

/-! ## What always holds -/

/-- The file counts, and it is there. -/
structure TrustDatabase.IsServing (s : TrustDatabase) (path : RdbPath) : Prop where
  isSome : (s.file path).isSome
  old : path = .acl → s.file .old = none

/-- The database has what it had and the accepted writes are what they were, a retired old file
is not there, and the store handle is on the file that counts. -/
structure Stands (db : RdbStore) (accepted : List (RdbStore → RdbStore)) (retired : Prop)
    (s : TrustDatabase) : Prop where
  keeps : db.Keeps s.content
  accepted : s.accepted = accepted
  retired : retired → s.file .old = none
  serving : ∀ path, s.handle .store = some path → s.IsServing path

/-- The old file counts, and the new adapter has no store yet. -/
structure Moving (db : RdbStore) (accepted : List (RdbStore → RdbStore)) (s : TrustDatabase) :
    Prop where
  old : ∃ f, s.file .old = some f ∧ db.Keeps f.store
  accepted : s.accepted = accepted
  manager : s.rdbStore.isSome
  store : s.handle .store = none

/-- The new file has all of the old one. -/
def IsCopied (db : RdbStore) (s : TrustDatabase) : Prop :=
  ∃ f, s.file .acl = some f ∧ db.Keeps f.store

variable {db : RdbStore} {accepted : List (RdbStore → RdbStore)} {retired : Prop}

/-- While the move is under way everything stands. -/
theorem Moving.stands (h : Moving db accepted s) (hr : ¬retired) :
    Stands db accepted retired s := by
  obtain ⟨f, hf, hkeeps⟩ := h.old
  refine ⟨?_, h.accepted, fun hretired => absurd hretired hr, ?_⟩
  · rw [TrustDatabase.content_of_old hf]
    exact hkeeps
  · intro path hpath
    rw [h.store] at hpath
    cases hpath

/-- Handles other than the store may change while the database is moved. -/
theorem Moving.setHandle (h : Moving db accepted s) (handle : RdbHandle)
    (hne : handle ≠ .store) (path : Option RdbPath) :
    Moving db accepted (s.setHandle handle path) := by
  refine ⟨h.old, h.accepted, ?_, ?_⟩
  · simpa [TrustDatabase.setHandle] using h.manager
  · rw [TrustDatabase.handle_setHandle, if_neg (Ne.symm hne)]
    exact h.store

/-- The new file may be anything as long as the old one counts. -/
theorem Moving.setAcl (h : Moving db accepted s) (file : Option RdbFile) :
    Moving db accepted (s.setFile .acl file) := by
  obtain ⟨f, hf, hkeeps⟩ := h.old
  refine ⟨⟨f, ?_, hkeeps⟩, h.accepted, h.manager, h.store⟩
  rw [TrustDatabase.file_setFile, if_neg (by decide)]
  exact hf

/-- Opening the old file does not disturb the move. -/
theorem Moving.openOld (h : Moving db accepted s) {handle : RdbHandle} (hne : handle ≠ .store)
    {answer : OpenAnswer} (hanswer : answer.Restores) :
    Moving db accepted (s.openAt handle .old answer) := by
  obtain ⟨f, hf, hkeeps⟩ := h.old
  obtain ⟨f', hf', hkeeps'⟩ := OpenAnswer.keeps_file hanswer f
  have hfile : Moving db accepted (s.setFile .old (answer.file (s.file .old))) := by
    refine ⟨⟨f', ?_, Database.Keeps.trans _ _ _ hkeeps hkeeps'⟩, h.accepted, h.manager, h.store⟩
    rw [TrustDatabase.file_setFile, if_pos rfl, hf, hf']
  exact hfile.setHandle _ hne _

/-- Opening the copy disturbs neither the move nor the copy. -/
theorem Moving.openAcl (h : Moving db accepted s) (hcopy : IsCopied db s) (handle : RdbHandle)
    (hne : handle ≠ .store) {answer : OpenAnswer} (hanswer : answer.Restores) :
    Moving db accepted (s.openAt handle .acl answer) ∧
      IsCopied db (s.openAt handle .acl answer) := by
  obtain ⟨f, hf, hkeeps⟩ := hcopy
  obtain ⟨f', hf', hkeeps'⟩ := OpenAnswer.keeps_file hanswer f
  refine ⟨(h.setAcl _).setHandle _ hne _, f', ?_, Database.Keeps.trans _ _ _ hkeeps hkeeps'⟩
  simp [TrustDatabase.openAt, TrustDatabase.file_setFile, hf, hf']

/-! ## The steps of the move -/

/-- Some try to open the file succeeds. -/
def Connects (answers : Nat → OpenAnswer) : Prop :=
  ∃ n, 0 < n ∧ n ≤ RDB_INIT_MAX_TIMES ∧ (answers n).result = .ok ()

/-- Nothing that the move needs fails. -/
structure StorageAnswers.Succeeds (a : StorageAnswers) : Prop where
  connectOld : Connects a.connectOld
  backup : a.backup.ok = true
  connectAcl : Connects a.connectAcl
  deleteOld : a.deleteOld = .deleted

theorem not_connects {answers : Nat → OpenAnswer}
    (h : ∀ k, 0 < k → k ≤ RDB_INIT_MAX_TIMES → (answers k).result ≠ .ok ()) :
    ¬Connects answers := by
  rintro ⟨n, hpos, hn, hok⟩
  exact h n hpos hn hok

/-- The old file is gone, and the new one is open and has all of it. -/
structure Moved (db : RdbStore) (accepted : List (RdbStore → RdbStore)) (s : TrustDatabase) :
    Prop where
  old : s.file .old = none
  copied : IsCopied db s
  accepted : s.accepted = accepted
  manager : s.rdbStore.isSome
  store : s.handle .store = none
  postMigStore : s.handle .postMigStore = some .acl

/-- After the move everything stands. -/
theorem Moved.stands (h : Moved db accepted s) : Stands db accepted retired s := by
  obtain ⟨f, hf, hkeeps⟩ := h.copied
  refine ⟨?_, h.accepted, fun _ => h.old, ?_⟩
  · rw [TrustDatabase.content_of_acl h.old hf]
    exact hkeeps
  · intro path hpath
    rw [h.store] at hpath
    cases hpath

/-- A move ends with the deletion of the old file. -/
theorem Moving.moved (h : Moving db accepted s) (hcopy : IsCopied db s)
    (hpost : s.handle .postMigStore = some .acl) : Moved db accepted (s.setFile .old none) := by
  obtain ⟨g, hg, hkeeps⟩ := hcopy
  refine ⟨rfl, ⟨g, ?_, hkeeps⟩, h.accepted, h.manager, h.store, hpost⟩
  rw [TrustDatabase.file_setFile, if_neg (by decide)]
  exact hg

/-- How a move that did not come to its end leaves the database: `DP_PRE_MIGRATION_DB_AVAILABLE`
promises the old file with its handle. -/
structure MoveFailed (a : StorageAnswers) (db : RdbStore)
    (accepted : List (RdbStore → RdbStore)) (retired : Prop) (e : RdbAdapterError)
    (s : TrustDatabase) : Prop where
  stands : Stands db accepted retired s
  store : s.handle .store = none
  needed : e ≠ .notNeedMigration
  available : e = .preMigrationDbAvailable →
    Moving db accepted s ∧ s.handle .preMigStore = some .old
  fails : ¬a.Succeeds

/-- The copying keeps the database wherever it stops: the old file stays until the copy is whole. -/
theorem guards_backup {answer : BackupAnswer} (h : Moving db accepted s) (hr : ¬retired)
    (hpre : s.handle .preMigStore = some .old) :
    (backup answer).Guards (Stands db accepted retired)
      (fun _ t => Moving db accepted t ∧ IsCopied db t ∧ t.handle .preMigStore = some .old)
      (fun e t => e = .preMigrationDbAvailable ∧ answer.ok = false ∧ Moving db accepted t ∧
        t.handle .preMigStore = some .old) s := by
  have hleft := h.setAcl answer.left
  refine ⟨h.stands hr, hleft.stands hr, ?_⟩
  cases hok : answer.ok with
  | false => exact ⟨hleft.stands hr, rfl, rfl, hleft, hpre⟩
  | true =>
    obtain ⟨f, hf, hkeeps⟩ := hleft.old
    have hall := hleft.setAcl (some f)
    rw [← hf] at hall
    refine ⟨hall.stands hr, hall, ⟨f, ?_, hkeeps⟩, hpre⟩
    simp only [if_true, TrustDatabase.file_setFile]
    rw [TrustDatabase.file_setFile] at hf
    exact hf

/-- Reading the state decides how the program goes on. -/
theorem guards_readState {C : TrustDatabase → Prop} {Q : Unit → TrustDatabase → Prop}
    {E : RdbAdapterError → TrustDatabase → Prop} {f : TrustDatabase → TrustDatabaseProg Unit}
    (hs : C s) (h : (f s).Guards C Q E s) : (readState >>= f).Guards C Q E s :=
  ⟨hs, h⟩

/-- The old file is deleted once the new one has all of it; where the deletion fails, the old
file still counts or is gone. -/
theorem guards_retireOldFile {a : StorageAnswers} (ha : a.Restores) (h : Moving db accepted s)
    (hr : ¬retired) (hcopy : IsCopied db s) (hpost : s.handle .postMigStore = some .acl) :
    (retireOldFile a).Guards (Stands db accepted retired) (fun _ t => Moved db accepted t)
      (MoveFailed a db accepted retired) s := by
  have hgone := h.moved hcopy hpost
  refine guards_bind (guards_attempt ?_)
  rw [deleteRdbStore]
  cases hdelete : a.deleteOld with
  | deleted => exact ⟨h.stands hr, hgone.stands, hgone.stands, hgone⟩
  | failed gone =>
    have hnot : ¬a.Succeeds := fun hall => by
      rw [hall.deleteOld] at hdelete
      cases hdelete
    cases gone with
    | true =>
      refine ⟨h.stands hr, hgone.stands, ?_⟩
      refine guards_readState hgone.stands (guards_ite (fun _ => ?_) fun hne => ?_)
      · exact ⟨hgone.stands, hgone.stands, hgone.store, by simp, by simp, hnot⟩
      · exact absurd rfl hne
    | false =>
      refine ⟨h.stands hr, h.stands hr, ?_⟩
      refine guards_readState (h.stands hr) (guards_ite (fun hnone => ?_) fun _ => ?_)
      · obtain ⟨g, hg, -⟩ := h.old
        change (s.file .old).isNone at hnone
        rw [hg] at hnone
        cases hnone
      · have hdropped := h.setHandle .preMigStore (by decide) none
        refine guards_bind ⟨h.stands hr, hdropped.stands hr, guards_bind ?_⟩
        have hconnect := guards_connectDB (I := Moving db accepted) .preMigStore .old
          a.reconnectOld
          (fun s n hs => hs.openOld (by decide) (ha n).2.2) (fun s hs => hs.manager)
          RDB_INIT_MAX_TIMES hdropped
        refine hconnect.mono (fun t ht => ht.stands hr) ?_ ?_
        · rintro ⟨⟩ t - ⟨ht, hpre, -⟩
          exact ⟨ht.stands hr, ht.stands hr, ht.store, by simp, fun _ => ⟨ht, hpre⟩, hnot⟩
        · rintro e t - ⟨ht, rfl, -⟩
          exact ⟨ht.stands hr, ht.store, by simp, by simp, hnot⟩

/-- The move keeps the database wherever it stops, and ends with a whole copy or tells how it
failed. -/
theorem guards_migrateDatabase {a : StorageAnswers} (ha : a.Restores)
    (h : Moving db accepted s) (hr : ¬retired) :
    (migrateDatabase a).Guards (Stands db accepted retired) (fun _ t => Moved db accepted t)
      (MoveFailed a db accepted retired) s := by
  refine guards_bind ?_
  have hconnect := guards_connectDB (I := Moving db accepted) .preMigStore .old a.connectOld
    (fun s n hs => hs.openOld (by decide) (ha n).1) (fun s hs => hs.manager)
    RDB_INIT_MAX_TIMES h
  refine hconnect.mono (fun t ht => ht.stands hr) ?_ ?_
  · rintro ⟨⟩ t - ⟨ht, hpre, -⟩
    refine guards_readState (ht.stands hr) (guards_ite (fun hnone => ?_) fun _ => ?_)
    · rw [hpre] at hnone
      cases hnone
    refine guards_bind ((guards_backup ht hr hpre).mono (fun _ hs => hs) ?_ ?_)
    · rintro ⟨⟩ t - ⟨ht, hcopy, hpre⟩
      refine guards_bind (guards_orFail ?_)
      have hopen := guards_connectDB
        (I := fun t => Moving db accepted t ∧ IsCopied db t ∧
          t.handle .preMigStore = some .old)
        .postMigStore .acl a.connectAcl
        (fun s n hs => by
          obtain ⟨hmoving, hcopied⟩ := hs.1.openAcl hs.2.1 .postMigStore
            (by decide) (ha n).2.1
          refine ⟨hmoving, hcopied, ?_⟩
          rw [TrustDatabase.openAt, TrustDatabase.handle_setHandle, if_neg (by decide)]
          exact hs.2.2)
        (fun s hs => hs.1.manager) RDB_INIT_MAX_TIMES ⟨ht, hcopy, hpre⟩
      refine hopen.mono (fun t ht => ht.1.stands hr) ?_ ?_
      · rintro ⟨⟩ t - ⟨⟨ht, hcopy, -⟩, hpost, -⟩
        exact guards_retireOldFile ha ht hr hcopy hpost
      · rintro e t - ⟨⟨ht, -, hpre⟩, -, hall⟩
        exact ⟨ht.stands hr, ht.store, by simp, fun _ => ⟨ht, hpre⟩,
          fun ha => not_connects hall ha.connectAcl⟩
    · rintro e t hstands ⟨rfl, hbackup, ht, hpre⟩
      refine ⟨hstands, ht.store, by simp, fun _ => ⟨ht, hpre⟩, fun hall => ?_⟩
      rw [hall.backup] at hbackup
      cases hbackup
  · rintro e t hstands ⟨ht, rfl, hall⟩
    exact ⟨ht.stands hr, ht.store, by simp, by simp, fun ha => not_connects hall ha.connectOld⟩

/-! ## The start of the manager -/

/-- If nothing failed, the new file is served and the old one is gone. -/
def IsMoveComplete (a : StorageAnswers) (s : TrustDatabase) : Prop :=
  a.Succeeds → s.file .old = none ∧ s.handle .store = some .acl

/-- The store handle is put on the file that counts. -/
theorem guards_serveHandle {h dropped : RdbHandle} (hne : dropped ≠ .store) {path : RdbPath}
    {E : RdbAdapterError → TrustDatabase → Prop} (hs : Stands db accepted retired s)
    (hmanager : s.rdbStore.isSome) (hpath : s.handle h = some path) (hserving : s.IsServing path) :
    (serveHandle h dropped).Guards (Stands db accepted retired)
      (fun _ t => Stands db accepted retired t ∧ t.file = s.file ∧
        t.handle .store = some path) E s := by
  obtain ⟨a, ha⟩ := Option.isSome_iff_exists.mp hmanager
  have hserved : (s.setHandle .store (s.handle h)).handle .store = some path := by
    simp [TrustDatabase.handle_setHandle, ha, hpath]
  have hstore : Stands db accepted retired (s.setHandle .store (s.handle h)) := by
    refine ⟨hs.keeps, hs.accepted, hs.retired, fun p hp => ?_⟩
    rw [hserved] at hp
    obtain rfl := Option.some.inj hp
    exact ⟨hserving.isSome, hserving.old⟩
  have hkept : ∀ t : TrustDatabase,
      (t.setHandle dropped none).handle .store = t.handle .store := fun t => by
    rw [TrustDatabase.handle_setHandle, if_neg (Ne.symm hne)]
  have hdropped : Stands db accepted retired
      ((s.setHandle .store (s.handle h)).setHandle dropped none) := by
    refine ⟨hstore.keeps, hstore.accepted, hstore.retired, fun p hp => ?_⟩
    rw [hkept] at hp
    have hold := hstore.serving p hp
    exact ⟨hold.isSome, hold.old⟩
  refine guards_readState hs (guards_ite (fun hnone => ?_) fun _ => ?_)
  · rw [hpath] at hnone
    cases hnone
  · exact ⟨hs, hstore, hdropped, hdropped, rfl, (hkept _).trans hserved⟩

/-- What the check for an old file comes to where there is one. -/
theorem guards_checkMigrateDB {a : StorageAnswers} (ha : a.Restores) (h : Moving db accepted s)
    (hr : ¬retired) :
    (checkMigrateDB a).Guards (Stands db accepted retired)
      (fun _ t => Stands db accepted retired t ∧ IsMoveComplete a t)
      (fun e t => Stands db accepted retired t ∧ e ≠ .notNeedMigration ∧ ¬a.Succeeds) s := by
  refine guards_readState (h.stands hr) (guards_ite (fun hnone => ?_) fun _ => ?_)
  · obtain ⟨f, hf, -⟩ := h.old
    rw [hf] at hnone
    cases hnone
  refine guards_bind (guards_attempt ((guards_migrateDatabase ha h hr).mono (fun _ ht => ht) ?_ ?_))
  · rintro ⟨⟩ t - ht
    have hserving : t.IsServing .acl := by
      obtain ⟨f, hf, -⟩ := ht.copied
      exact ⟨by rw [hf]; rfl, fun _ => ht.old⟩
    refine (guards_serveHandle (by decide) ht.stands ht.manager ht.postMigStore hserving).mono
      (fun _ ht => ht) ?_ fun _ _ _ h => h
    rintro ⟨⟩ u - ⟨hu, hfile, hstore⟩
    exact ⟨hu, fun _ => ⟨by rw [hfile]; exact ht.old, hstore⟩⟩
  · rintro e t - ht
    refine guards_ite (fun he => ?_) fun _ => ⟨ht.stands, ht.stands, ht.needed, ht.fails⟩
    obtain ⟨hmoving, hpre⟩ := ht.available he
    have hserving : t.IsServing .old := by
      obtain ⟨f, hf, -⟩ := hmoving.old
      exact ⟨by rw [hf]; rfl, by simp⟩
    refine (guards_serveHandle (by decide) ht.stands hmoving.manager hpre hserving).mono
      (fun _ ht => ht) ?_ fun _ _ _ h => h
    rintro ⟨⟩ u - ⟨hu, -⟩
    exact ⟨hu, fun hall => absurd hall ht.fails⟩

/-- Without an old file the new one is opened, or made. -/
theorem Stands.openAcl (h : Stands db accepted retired s) (hold : s.file .old = none)
    {answer : OpenAnswer} (hanswer : answer.Restores) :
    Stands db accepted retired (s.openAt .store .acl answer) ∧
      (s.openAt .store .acl answer).file .old = none := by
  have hnone : (s.openAt .store .acl answer).file .old = none := by
    simp [TrustDatabase.openAt, TrustDatabase.file_setFile, hold]
  have hacl : (s.openAt .store .acl answer).file .acl = answer.file (s.file .acl) := by
    simp [TrustDatabase.openAt, TrustDatabase.file_setFile]
  refine ⟨⟨Database.Keeps.trans _ _ _ h.keeps ?_, h.accepted, fun _ => hnone, ?_⟩, hnone⟩
  · cases hfile : s.file .acl with
    | none =>
      have hempty : s.content = {} := by simp [TrustDatabase.content, TrustDatabase.served,
        hold, hfile]
      rw [hempty]
      rintro table t ⟨⟩
    | some f =>
      obtain ⟨f', hf', hkeeps⟩ := OpenAnswer.keeps_file hanswer f
      rw [TrustDatabase.content_of_acl hold hfile,
        TrustDatabase.content_of_acl hnone (by rw [hacl, hfile, hf'])]
      exact hkeeps
  · intro path hpath
    have hhandle : answer.handle .acl = some path := by
      rw [TrustDatabase.openAt, TrustDatabase.handle_setHandle, if_pos rfl] at hpath
      cases hm : (s.setFile .acl (answer.file (s.file .acl))).rdbStore with
      | none =>
        rw [hm] at hpath
        cases hpath
      | some a =>
        rw [hm] at hpath
        exact hpath
    obtain ⟨rfl, hsome⟩ := OpenAnswer.isSome_file_of_handle hhandle (s.file .acl)
    refine ⟨?_, fun _ => hnone⟩
    rw [hacl]
    exact hsome

/-- The start of the adapter keeps the database wherever it stops. -/
theorem guards_adapterInit {a : StorageAnswers} (ha : a.Restores)
    (h : Stands db accepted retired s) (hmanager : s.rdbStore.isSome)
    (hstore : s.handle .store = none) :
    (adapterInit a).Guards (Stands db accepted retired)
      (fun _ t => Stands db accepted retired t ∧ IsMoveComplete a t)
      (fun _ t => Stands db accepted retired t ∧ ¬a.Succeeds) s := by
  refine guards_bind (guards_attempt ?_)
  cases hold : s.file .old with
  | some f =>
    have hr : ¬retired := fun hretired => by
      rw [h.retired hretired] at hold
      cases hold
    have hmoving : Moving db accepted s := by
      refine ⟨⟨f, hold, ?_⟩, h.accepted, hmanager, hstore⟩
      rw [← TrustDatabase.content_of_old hold]
      exact h.keeps
    refine (guards_checkMigrateDB ha hmoving hr).mono (fun _ ht => ht) ?_ ?_
    · rintro ⟨⟩ t hstands ht
      exact ⟨hstands, ht⟩
    · rintro e t hstands ⟨-, hne, hfails⟩
      exact guards_ite (fun he => absurd he hne) fun _ => ⟨hstands, hstands, hfails⟩
  | none =>
    refine guards_readState h (guards_ite (fun _ => ⟨h, guards_ite (fun _ => ?_) ?_⟩) ?_)
    · have hconnect := guards_connectDB
        (I := fun t => Stands db accepted retired t ∧ t.file .old = none ∧ t.rdbStore.isSome)
        .store .acl a.connectAcl
        (fun s n hs => by
          obtain ⟨hstands, hnone⟩ := hs.1.openAcl hs.2.1 (ha n).2.1
          refine ⟨hstands, hnone, ?_⟩
          simpa [TrustDatabase.openAt, TrustDatabase.setHandle, TrustDatabase.setFile]
            using hs.2.2)
        (fun s hs => hs.2.2) RDB_INIT_MAX_TIMES ⟨h, hold, hmanager⟩
      refine hconnect.mono (fun t ht => ht.1) ?_ ?_
      · rintro ⟨⟩ t hstands ⟨⟨-, hnone, -⟩, hhandle, -⟩
        exact ⟨hstands.1, fun _ => ⟨hnone, hhandle⟩⟩
      · rintro e t hstands ⟨-, -, hall⟩
        exact ⟨hstands.1, fun ha => not_connects hall ha.connectAcl⟩
    · exact fun hne => absurd rfl hne
    · intro hne
      rw [hold] at hne
      exact absurd rfl hne

namespace TrustDatabase

@[simp] theorem handle_onStore (f : RdbStore → RdbStore) (h : RdbHandle) (s : TrustDatabase) :
    (s.onStore f).handle h = s.handle h := by
  rw [onStore]
  split <;> rfl

@[simp] theorem accepted_onStore (f : RdbStore → RdbStore) (s : TrustDatabase) :
    (s.onStore f).accepted = s.accepted := by
  rw [onStore]
  split <;> rfl

/-- A statement adds no file and removes none. -/
theorem isSome_file_onStore (f : RdbStore → RdbStore) (path : RdbPath) (s : TrustDatabase) :
    ((s.onStore f).file path).isSome = (s.file path).isSome := by
  rw [onStore]
  split
  · rfl
  · rename_i served _
    rw [file_setFile]
    split
    · rename_i hpath
      rw [hpath, Option.isSome_map]
    · rfl

theorem old_onStore {f : RdbStore → RdbStore} :
    (s.onStore f).file .old = none ↔ s.file .old = none := by
  rw [← Option.not_isSome_iff_eq_none, isSome_file_onStore, Option.not_isSome_iff_eq_none]

theorem IsServing.onStore {path : RdbPath} (h : s.IsServing path) (f : RdbStore → RdbStore) :
    (s.onStore f).IsServing path :=
  ⟨by rw [isSome_file_onStore]; exact h.isSome, fun hacl => old_onStore.mpr (h.old hacl)⟩

/-- A statement on the file that counts is a statement on the database. -/
theorem content_onStore {path : RdbPath} (h : s.handle .store = some path)
    (hserving : s.IsServing path) (f : RdbStore → RdbStore) :
    (s.onStore f).content = f s.content := by
  obtain ⟨file, hfile⟩ := Option.isSome_iff_exists.mp hserving.isSome
  have hnew : (s.onStore f).file path = some { file with store := f file.store } := by
    simp [onStore, h, file_setFile, hfile]
  cases path with
  | old => rw [content_of_old hnew, content_of_old hfile]
  | acl =>
    have hold := hserving.old rfl
    rw [content_of_acl (old_onStore.mpr hold) hnew, content_of_acl hold hfile]

end TrustDatabase

/-- What stood stands when rows change, as long as no table is lost. -/
theorem Stands.onStore (h : Stands db accepted retired s) {f : RdbStore → RdbStore}
    (hf : ∀ db : RdbStore, db.Keeps (f db)) : Stands db accepted retired (s.onStore f) := by
  refine ⟨?_, by rw [TrustDatabase.accepted_onStore, h.accepted],
    fun hr => TrustDatabase.old_onStore.mpr (h.retired hr), fun path hpath => ?_⟩
  · cases hstore : s.handle .store with
    | none =>
      rw [TrustDatabase.onStore, hstore]
      exact h.keeps
    | some path =>
      rw [TrustDatabase.content_onStore hstore (h.serving path hstore)]
      exact Database.Keeps.trans _ _ _ h.keeps (hf _)
  · rw [TrustDatabase.handle_onStore] at hpath
    exact (h.serving path hpath).onStore f

theorem IsMoveComplete.onStore {a : StorageAnswers} (h : IsMoveComplete a s)
    (f : RdbStore → RdbStore) : IsMoveComplete a (s.onStore f) := by
  intro hall
  obtain ⟨hold, hstore⟩ := h hall
  refine ⟨TrustDatabase.old_onStore.mpr hold, ?_⟩
  rw [TrustDatabase.handle_onStore]
  exact hstore

/-- Statements that keep the rows keep all of it. -/
theorem guards_onStoreProg {a : StorageAnswers} {m : RdbProg Unit} (hm : m.Steps Database.Keeps)
    (h : Stands db accepted retired s) (hcomplete : IsMoveComplete a s) :
    (onStoreProg m).Guards (Stands db accepted retired)
      (fun _ t => Stands db accepted retired t ∧ IsMoveComplete a t)
      (fun _ t => Stands db accepted retired t ∧ IsMoveComplete a t) s := by
  induction m generalizing s with
  | ret u => exact ⟨h, h, hcomplete⟩
  | fail e => exact ⟨h, h, hcomplete⟩
  | step upd next ih =>
    exact ⟨h, ih _ (hm s.content).2 (h.onStore fun db => (hm db).1) (hcomplete.onStore upd)⟩

/-- Statements whose failure is ignored. -/
theorem guards_ignored {a : StorageAnswers} {m : RdbProg Unit} (hm : m.Steps Database.Keeps)
    (h : Stands db accepted retired s) (hcomplete : IsMoveComplete a s)
    {f : Unit → TrustDatabaseProg Unit} {Q : Unit → TrustDatabase → Prop}
    {E : RdbAdapterError → TrustDatabase → Prop}
    (hf : ∀ t, Stands db accepted retired t → IsMoveComplete a t →
      (f ()).Guards (Stands db accepted retired) Q E t) :
    ((onStoreProg m).getD () >>= f).Guards (Stands db accepted retired) Q E s := by
  refine guards_bind (guards_getD ?_)
  exact (guards_onStoreProg hm h hcomplete).mono (fun _ ht => ht)
    (fun _ t _ ht => hf t ht.1 ht.2) fun _ t _ ht => hf t ht.1 ht.2

/-- The manager's start keeps the database, and ends with the new file unless something failed
or the manager had started before. -/
theorem guards_trustInit {a : StorageAnswers} (ha : a.Restores)
    (h : Stands db accepted retired s) :
    (trustInit a).Guards (Stands db accepted retired)
      (fun _ t => Stands db accepted retired t ∧ (s.isInited = false → IsMoveComplete a t))
      (fun _ t => Stands db accepted retired t ∧ (s.isInited = false → IsMoveComplete a t)) s := by
  refine guards_readState h (guards_ite (fun hinited => ?_) fun _ => ?_)
  · refine ⟨h, h, fun hnot => ?_⟩
    rw [hnot] at hinited
    cases hinited
  have hnew : Stands db accepted retired { s with rdbStore := some fun _ => none } :=
    ⟨h.keeps, h.accepted, h.retired, by rintro path ⟨⟩⟩
  have hinit : ∀ t, Stands db accepted retired t →
      Stands db accepted retired { t with isInited := true } :=
    fun t ht => ⟨ht.keeps, ht.accepted, ht.retired, fun path hpath =>
      ⟨(ht.serving path hpath).isSome, (ht.serving path hpath).old⟩⟩
  refine guards_bind ⟨h, hnew, guards_bind (guards_orFail ?_)⟩
  refine (guards_adapterInit ha hnew rfl rfl).mono (fun _ ht => ht) ?_ ?_
  · rintro ⟨⟩ t - ⟨ht, hcomplete⟩
    refine guards_ignored (keeps_executeAll _ _) ht hcomplete fun t ht hcomplete => ?_
    refine guards_ignored (keeps_executeAll _ _) ht hcomplete fun t ht hcomplete => ?_
    refine guards_readState ht (guards_ite (fun _ => ?_) fun _ => ?_)
    · exact ⟨ht, hinit t ht, hinit t ht, fun _ => hcomplete⟩
    · refine guards_bind ((guards_onStoreProg (keeps_executeSql _ _) ht hcomplete).mono
        (fun _ ht => ht) ?_ ?_)
      · rintro ⟨⟩ t - ⟨ht, hcomplete⟩
        exact ⟨ht, hinit t ht, hinit t ht, fun _ => hcomplete⟩
      · rintro e t - ⟨ht, hcomplete⟩
        exact ⟨ht, fun _ => hcomplete⟩
  · rintro e t - ⟨ht, hfails⟩
    exact ⟨ht, fun _ hall => absurd hall hfails⟩

/-! ## Runs -/

/-- The store handle of a process is on the file that counts. -/
def TrustDatabase.Sound (s : TrustDatabase) : Prop :=
  ∀ path, s.handle .store = some path → s.IsServing path

theorem TrustDatabase.Sound.stands (h : s.Sound) :
    Stands s.content s.accepted (s.file .old = none) s :=
  ⟨.refl _, rfl, id, h⟩

/-- Without a process only the files count. -/
theorem Stands.afterDeath (h : Stands db accepted retired s) :
    Stands db accepted retired s.afterDeath :=
  ⟨h.keeps, h.accepted, h.retired, by rintro path ⟨⟩⟩

/-- What a statement on the rows comes to: it is refused and changes nothing, or it is accepted. -/
theorem changeRows_cases (code : RdbAdapterError) (table : Text) (answer : WriteAnswer)
    (f : RdbStore → RdbStore) (s : TrustDatabase) :
    (∃ e, changeRows code table answer f s = (.error e, s)) ∨
      (s.handle .store).isSome ∧ changeRows code table answer f s =
        (.ok (), { s.onStore f with accepted := s.accepted ++ [f] }) := by
  unfold changeRows
  split
  · exact .inl ⟨_, rfl⟩
  split
  · exact .inl ⟨_, rfl⟩
  rename_i hstore
  split
  · exact .inl ⟨_, rfl⟩
  split
  · exact .inr ⟨by simpa [Option.isSome_iff_ne_none] using hstore, rfl⟩
  · exact .inl ⟨_, rfl⟩

/-- A step of a sound process keeps the database up to a write that it accepts, and makes no old
file. -/
structure StepsTo (s t : TrustDatabase) : Prop where
  evolves : (t.accepted = s.accepted ∧ s.content.Keeps t.content) ∨
    ∃ f, t.accepted = s.accepted ++ [f] ∧ t.content = f s.content
  retired : s.file .old = none → t.file .old = none
  sound : t.Sound

theorem Stands.stepsTo (h : Stands s.content s.accepted (s.file .old = none) t) : StepsTo s t :=
  ⟨.inl ⟨h.accepted, h.keeps⟩, h.retired, h.serving⟩

/-- A call on the rows is a step that loses nothing. -/
theorem stepsTo_changeRows (h : s.Sound) (code : RdbAdapterError) (table : Text)
    (answer : WriteAnswer) (f : RdbStore → RdbStore) :
    StepsTo s (changeRows code table answer f s).2 := by
  rcases changeRows_cases code table answer f s with ⟨e, he⟩ | ⟨hstore, hdone⟩
  · rw [he]
    exact h.stands.stepsTo
  · obtain ⟨path, hpath⟩ := Option.isSome_iff_exists.mp hstore
    rw [hdone]
    refine ⟨.inr ⟨f, rfl, TrustDatabase.content_onStore hpath (h path hpath) f⟩,
      TrustDatabase.old_onStore.mpr, fun path hpath => ?_⟩
    have hserving := (h path ((TrustDatabase.handle_onStore f .store s).symm.trans hpath)).onStore f
    exact ⟨hserving.isSome, hserving.old⟩

/-- A manager without an adapter refuses. -/
theorem stepsTo_callAdapter (h : s.Sound)
    {change : TrustDatabase → Except RdbAdapterError Unit × TrustDatabase}
    (hchange : StepsTo s (change s).2) : StepsTo s (callAdapter change s).2 := by
  unfold callAdapter
  split
  · exact h.stands.stepsTo
  · exact hchange

/-- One event. -/
theorem TrustDatabase.Sound.stepsTo (h : s.Sound) {e : TrustDatabaseEvent} (he : e.Restores) :
    StepsTo s (s.step e) := by
  cases e with
  | init a =>
    have hguards := guards_trustInit he h.stands
    cases hexec : (trustInit a).exec s with
    | mk r t =>
      rw [TrustDatabase.step, hexec]
      cases r with
      | ok u => exact (hguards.of_ok hexec).1.stepsTo
      | error e => exact (hguards.of_error hexec).1.stepsTo
  | dieIn a n =>
    have hguards := guards_trustInit he h.stands
    rw [TrustDatabase.step]
    cases hpass : ((trustInit a).passes s)[n]? with
    | none => exact h.stands.afterDeath.stepsTo
    | some t => exact (hguards.passes (List.mem_of_getElem? hpass)).afterDeath.stepsTo
  | die => exact h.stands.afterDeath.stepsTo
  | unInit =>
    rw [TrustDatabase.step, trustUnInit]
    split
    · exact h.stands.stepsTo
    · exact h.stands.afterDeath.stepsTo
  | put table answer f => exact stepsTo_callAdapter h (stepsTo_changeRows h _ table answer f)
  | delete table answer f => exact stepsTo_callAdapter h (stepsTo_changeRows h _ table answer f)
  | update table answer f => exact stepsTo_callAdapter h (stepsTo_changeRows h _ table answer f)

/-- A process that has just been started has nothing in memory. -/
structure TrustDatabase.IsStarting (s : TrustDatabase) : Prop where
  rdbStore : s.rdbStore = none
  accepted : s.accepted = []

theorem TrustDatabase.IsStarting.sound (h : s.IsStarting) : s.Sound := by
  intro path hpath
  rw [TrustDatabase.handle, h.rdbStore] at hpath
  cases hpath

/-- Over every run of starts, stops, deaths and writes the database evolves by exactly the writes
that were accepted, and what a process serves is that database. -/
theorem nothing_is_lost (hs : s.IsStarting) {events : List TrustDatabaseEvent}
    (h : ∀ e ∈ events, e.Restores) :
    Evolves Database.Keeps s.content (events.foldl TrustDatabase.step s).accepted
        (events.foldl TrustDatabase.step s).content ∧
      ∀ path, (events.foldl TrustDatabase.step s).handle .store = some path →
        ∃ file, (events.foldl TrustDatabase.step s).file path = some file ∧
          file.store = (events.foldl TrustDatabase.step s).content := by
  have hinv : ∀ t : TrustDatabase, ∀ e, (Evolves Database.Keeps s.content t.accepted t.content ∧
      t.Sound) → e.Restores →
      Evolves Database.Keeps s.content (t.step e).accepted (t.step e).content ∧
        (t.step e).Sound := by
    rintro t e ⟨hevolves, hsound⟩ he
    have hstep := hsound.stepsTo he
    refine ⟨?_, hstep.sound⟩
    rcases hstep.evolves with ⟨haccepted, hkeeps⟩ | ⟨f, haccepted, hcontent⟩
    · rw [haccepted]
      exact .keep hevolves hkeeps
    · rw [haccepted, hcontent]
      exact .write hevolves f
  have hstart : Evolves Database.Keeps s.content s.accepted s.content := by
    rw [hs.accepted]
    exact .start
  obtain ⟨hevolves, hsound⟩ := (admits_of_forall (fun _ _ => trivial) s events).and_forall h
    |> foldl_invariant (fun t e ht he => hinv t e ht he.2) ⟨hstart, hs.sound⟩
  refine ⟨hevolves, fun path hpath => ?_⟩
  obtain ⟨file, hfile⟩ := Option.isSome_iff_exists.mp (hsound path hpath).isSome
  refine ⟨file, hfile, ?_⟩
  cases path with
  | old => exact (TrustDatabase.content_of_old hfile).symm
  | acl => exact (TrustDatabase.content_of_acl ((hsound .acl hpath).old rfl) hfile).symm

/-- A run keeps a process sound, and makes no old file. -/
theorem TrustDatabase.Sound.run (h : s.Sound) {events : List TrustDatabaseEvent}
    (he : ∀ e ∈ events, e.Restores) :
    (events.foldl TrustDatabase.step s).Sound ∧
      (s.file .old = none → (events.foldl TrustDatabase.step s).file .old = none) := by
  refine (admits_of_forall (fun _ _ => trivial) s events).and_forall he
    |> foldl_invariant (P := fun t => t.Sound ∧ (s.file .old = none → t.file .old = none))
      (fun t e ht he => ?_) ⟨h, id⟩
  have hstep := ht.1.stepsTo he.2
  exact ⟨hstep.sound, fun hold => hstep.retired (ht.2 hold)⟩

/-- Whatever happened before, a start of the manager at which nothing fails completes the move:
from then on there is no old file, and every store is the new file. -/
theorem move_is_completed (hs : s.IsStarting) {before after : List TrustDatabaseEvent}
    {a : StorageAnswers} (hbefore : ∀ e ∈ before, e.Restores) (ha : a.Restores)
    (hafter : ∀ e ∈ after, e.Restores) (hall : a.Succeeds)
    (hinit : (before.foldl TrustDatabase.step s).isInited = false) :
    ((before.foldl TrustDatabase.step s).step (.init a)).handle .store = some .acl ∧
      (((before ++ .init a :: after).foldl TrustDatabase.step s).file .old = none ∧
        ∀ path, ((before ++ .init a :: after).foldl TrustDatabase.step s).handle .store =
          some path → path = .acl) := by
  rw [List.foldl_append, List.foldl_cons]
  obtain ⟨hsound, -⟩ := hs.sound.run hbefore
  generalize before.foldl TrustDatabase.step s = t at hsound hinit ⊢
  have hguards := guards_trustInit ha hsound.stands
  have hcomplete : IsMoveComplete a (t.step (.init a)) := by
    cases hexec : (trustInit a).exec t with
    | mk r u =>
      rw [TrustDatabase.step, hexec]
      cases r with
      | ok x => exact (hguards.of_ok hexec).2 hinit
      | error e => exact (hguards.of_error hexec).2 hinit
  obtain ⟨hold, hstore⟩ := hcomplete hall
  have hstep : (t.step (.init a)).Sound := (hsound.stepsTo (e := .init a) ha).sound
  obtain ⟨hlast, hretired⟩ := hstep.run hafter
  refine ⟨hstore, hretired hold, fun path hpath => ?_⟩
  have hserving := (hlast path hpath).isSome
  cases path with
  | acl => rfl
  | old =>
    rw [hretired hold] at hserving
    cases hserving

/-- A database of version 2 that still lies below `RDB_PATH`. -/
def unmoved : TrustDatabase where
  file
    | .old => some ⟨RDB_VERSION_5_1, storeAt RDB_VERSION_5_1 bundleRows⟩
    | .acl => none

/-- The old file cannot be deleted, the process dies behind a backup, and rows are deleted in
between. -/
def troubledStart : List TrustDatabaseEvent :=
  [.init { deleteOld := .failed false },
    .delete ("trust_device_table" : Text) {} fun db =>
      { db with tables := Function.update db.tables .trustDevice none },
    .die, .dieIn {} 9]

theorem troubledStart_restores : ∀ e ∈ troubledStart, e.Restores := by
  simp [troubledStart, TrustDatabaseEvent.Restores, StorageAnswers.Restores,
    OpenAnswer.Restores]

/-- A start with a death inside it and failing files loses nothing. -/
theorem nothing_is_lost_in_trouble :
    Evolves Database.Keeps unmoved.content
        (troubledStart.foldl TrustDatabase.step unmoved).accepted
        (troubledStart.foldl TrustDatabase.step unmoved).content ∧
      (troubledStart.foldl TrustDatabase.step unmoved).accepted.length = 1 :=
  ⟨(nothing_is_lost ⟨rfl, rfl⟩ troubledStart_restores).1, by decide +kernel⟩

/-- The next good start ends with the new file open. -/
theorem move_is_completed_after_trouble :
    ((troubledStart.foldl TrustDatabase.step unmoved).step (.init {})).handle .store =
      some .acl :=
  (@move_is_completed unmoved ⟨rfl, rfl⟩ troubledStart [] {} troubledStart_restores
    (by simp [StorageAnswers.Restores, OpenAnswer.Restores]) (by simp)
    ⟨⟨5, by decide, by decide, rfl⟩, rfl, ⟨5, by decide, by decide, rfl⟩, rfl⟩
    (by decide +kernel)).1

end DeviceProfile
