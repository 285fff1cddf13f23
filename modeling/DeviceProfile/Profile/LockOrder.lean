import DeviceProfile.Library.Locks
import DeviceProfile.Library.Run

/-!
# Locks of the user change and of the profile calls

A change of the user holds the lock of the user id while it scans and writes the store, each
time under the lock of the store. Puts and Gets read the user id before they take the lock of
the store. The Deletes of profiles of a user read it while they hold the lock of the store.
-/

namespace DeviceProfile

open Library

/-- The locks of the user id and of the store. -/
inductive ProfileLock where
  | foregroundUserIdLock
  | dynamicStoreMutex
  deriving DecidableEq, Repr

/-- The calls that take one of the locks, with what decides which sections they reach. -/
inductive LockedCall where
  /-- The user is another one, there is something to save, there is something to delete. -/
  | setCurrentForegroundUserID (changed saves deletes : Bool)
  | getCurrentForegroundUserID
  /-- A batch reads the user id for each of its profiles that has a user; before the first
  initialization nothing is written. -/
  | putProfileBatch (multiUsers : Nat) (isFirst : Bool)
  /-- The test of a profile of another user reads the user id twice and ends the call. -/
  | getProfile (reads : Nat) (isMultiUserValid : Bool)
  | deleteServiceProfile (isMultiUser : Bool)
  | deleteCharacteristicProfile (isMultiUser : Bool)
  deriving DecidableEq, Repr

namespace LockedCall

/-- One section under the lock of the store. -/
def storeSection : List (LockStep ProfileLock) := locked .dynamicStoreMutex []

/-- `GetCurrentForegroundUserID` -/
def userIdSection : List (LockStep ProfileLock) := locked .foregroundUserIdLock []

/-- `OnUserChange`: the scan, and the two batches that are not empty. -/
def onUserChange (changed saves deletes : Bool) : List (LockStep ProfileLock) :=
  if changed then
    storeSection ++ (if saves then storeSection else []) ++ (if deletes then storeSection else [])
  else []

/-- `DeleteServiceProfile` and `DeleteCharacteristicProfile` of the control utilities run under
the lock of the store. -/
def deleteProfile (isMultiUser : Bool) : List (LockStep ProfileLock) :=
  locked .dynamicStoreMutex (if isMultiUser then userIdSection else [])

/-- The locks a call takes and gives back. -/
def steps : LockedCall → List (LockStep ProfileLock)
  | setCurrentForegroundUserID changed saves deletes =>
    locked .foregroundUserIdLock (onUserChange changed saves deletes)
  | getCurrentForegroundUserID => userIdSection
  | putProfileBatch multiUsers isFirst =>
    (List.replicate multiUsers userIdSection).flatten ++ if isFirst then [] else storeSection
  | getProfile reads isMultiUserValid =>
    (List.replicate reads userIdSection).flatten ++
      if isMultiUserValid then storeSection else []
  | deleteServiceProfile isMultiUser => deleteProfile isMultiUser
  | deleteCharacteristicProfile isMultiUser => deleteProfile isMultiUser

/-- The call is a Delete of the profiles of a user. -/
def IsMultiUserDelete : LockedCall → Prop
  | deleteServiceProfile isMultiUser => isMultiUser = true
  | deleteCharacteristicProfile isMultiUser => isMultiUser = true
  | _ => False

/-- The call is a change of the user that reaches the store. -/
def IsUserChange : LockedCall → Prop
  | setCurrentForegroundUserID changed _ _ => changed = true
  | _ => False

end LockedCall

/-- Threads that each make some calls, one after the other. -/
def lockThreads (threads : List (List LockedCall)) : LockPool ProfileLock :=
  .start (threads.map fun calls => calls.flatMap LockedCall.steps)

/-! ## The rules the calls follow -/

/-- No lock is taken that is held already. -/
def Fresh (held : List ProfileLock) (lock : ProfileLock) : Prop := lock ∉ held

/-- The order of a user change. -/
def userIdFirst : ProfileLock → Nat
  | .foregroundUserIdLock => 0
  | .dynamicStoreMutex => 1

/-- The order of a Delete. -/
def storeFirst : ProfileLock → Nat
  | .foregroundUserIdLock => 1
  | .dynamicStoreMutex => 0

section Rules

open LockPool

variable {may : List ProfileLock → ProfileLock → Prop}

/-- A section without further locks inside. -/
theorem follows_section {held : List ProfileLock} {lock : ProfileLock} (h : may held lock)
    {more : List (LockStep ProfileLock)} (hmore : Follows may held more) :
    Follows may held (locked lock [] ++ more) :=
  ⟨h, held, rfl, hmore⟩

/-- Taking the one lock over and over follows a rule that lets it be taken first. -/
theorem follows_replicate (h : may [] .foregroundUserIdLock) (n : Nat) :
    Follows may [] (List.replicate n LockedCall.userIdSection).flatten := by
  induction n with
  | zero => rfl
  | succ n ih =>
    rw [List.replicate_succ, List.flatten_cons]
    exact follows_section h ih

/-- Every call follows a rule that admits single locks, the lock of the store in a change of
the user, and the lock of the user id in a Delete for a user. -/
theorem follows_steps (hsingle : ∀ lock, may [] lock) (call : LockedCall)
    (hchange : call.IsUserChange → may [.foregroundUserIdLock] .dynamicStoreMutex)
    (hdelete : call.IsMultiUserDelete → may [.dynamicStoreMutex] .foregroundUserIdLock) :
    Follows may [] call.steps := by
  have hends : ∀ lock, Follows may [lock] [.release lock] := fun lock => ⟨[], rfl, rfl⟩
  have hstore : ∀ b : Bool, Follows may [] (if b then [] else LockedCall.storeSection) := by
    intro b
    cases b
    · exact follows_section (hsingle _) rfl
    · rfl
  have hdel : ∀ isMultiUser : Bool,
      (isMultiUser = true → may [.dynamicStoreMutex] .foregroundUserIdLock) →
      Follows may [] (LockedCall.deleteProfile isMultiUser) := by
    intro isMultiUser hmay
    refine ⟨hsingle _, ?_⟩
    cases isMultiUser
    · exact hends _
    · exact follows_section (hmay rfl) (hends _)
  cases call with
  | setCurrentForegroundUserID changed saves deletes =>
    refine ⟨hsingle _, ?_⟩
    cases changed
    · exact hends _
    · have hmay : may [.foregroundUserIdLock] .dynamicStoreMutex := hchange rfl
      have hmore : ∀ (b : Bool) {more : List (LockStep ProfileLock)},
          Follows may [.foregroundUserIdLock] more → Follows may [.foregroundUserIdLock]
            ((if b then LockedCall.storeSection else []) ++ more) := by
        intro b more h
        cases b
        · exact h
        · exact follows_section hmay h
      rw [LockedCall.onUserChange, if_pos rfl, List.append_assoc, List.append_assoc]
      exact follows_section hmay (hmore saves (hmore deletes (hends _)))
  | getCurrentForegroundUserID => exact follows_section (hsingle _) rfl
  | putProfileBatch multiUsers isFirst =>
    exact (follows_replicate (hsingle _) multiUsers).append (hstore isFirst)
  | getProfile reads isMultiUserValid =>
    refine (follows_replicate (hsingle _) reads).append ?_
    cases isMultiUserValid
    · rfl
    · exact follows_section (hsingle _) rfl
  | deleteServiceProfile isMultiUser => exact hdel isMultiUser hdelete
  | deleteCharacteristicProfile isMultiUser => exact hdel isMultiUser hdelete

/-- A thread follows the order when its calls do, each with the pair of locks that it nests. -/
theorem follows_thread (hsingle : ∀ lock, may [] lock) {calls : List LockedCall}
    (hchange : ∀ call ∈ calls, call.IsUserChange →
      may [.foregroundUserIdLock] .dynamicStoreMutex)
    (hdelete : ∀ call ∈ calls, call.IsMultiUserDelete →
      may [.dynamicStoreMutex] .foregroundUserIdLock) :
    Follows may [] (calls.flatMap LockedCall.steps) :=
  follows_flatMap fun call hcall => follows_steps hsingle call (hchange call hcall)
    (hdelete call hcall)

end Rules

/-! ## When a cycle is closed -/

section Cycles

open LockPool

/-- A thread is about to take a free lock, and inside it another one, which is owned by a thread
that wants the first one next. -/
def Crosses (s : LockPool ProfileLock) (i : Nat) : Prop :=
  ∃ lock inner rest j others, s.threads[i]? = some (.acquire lock :: .acquire inner :: rest) ∧
    s.owner lock = none ∧ s.owner inner = some j ∧
      s.threads[j]? = some (.acquire lock :: others)

/-- Two threads own one lock each and want the one of the other. -/
def Interlocked (s : LockPool ProfileLock) : Prop :=
  ∃ lock inner i j rest others, lock ≠ inner ∧ s.owner lock = some i ∧
    s.owner inner = some j ∧ s.threads[i]? = some (.acquire inner :: rest) ∧
      s.threads[j]? = some (.acquire lock :: others)

variable {s : LockPool ProfileLock}

/-- With two locks the cycles are those of two threads. -/
theorem deadlocked_iff_interlocked (hs : s.Owned Fresh) : s.Deadlocked ↔ Interlocked s := by
  constructor
  · intro h
    have hother : ∀ i lock own rest, s.threads[i]? = some (.acquire lock :: rest) →
        s.owner own = some i → lock ≠ own := by
      rintro i lock own rest hi hown rfl
      obtain ⟨held, howner, hmay⟩ := hs.admits hi
      exact hmay ((howner lock).mp hown)
    obtain ⟨i, lock, own, rest, hi, hown, hle⟩ := h.exists_rank_le userIdFirst
    obtain ⟨j, lock', own', rest', hj, hown', hle'⟩ := h.exists_rank_le storeFirst
    have hne := hother i lock own rest hi hown
    have hne' := hother j lock' own' rest' hj hown'
    -- One of the two wants the lock of the user id, the other one that of the store.
    cases lock <;> cases own <;> simp only [ne_eq, not_true_eq_false, userIdFirst] at hne hle
    · cases lock' <;> cases own' <;>
        simp only [ne_eq, not_true_eq_false, storeFirst] at hne' hle'
      · omega
      · exact ⟨_, _, i, j, rest, rest', by decide, hown, hown', hi, hj⟩
    · omega
  · rintro ⟨lock, inner, i, j, rest, others, -, hown, hown', hi, hj⟩
    exact ⟨i, .tail (.single ⟨inner, rest, hi, hown'⟩) ⟨lock, others, hj, hown⟩⟩

/-- A step closes a cycle exactly when it crosses another thread. -/
theorem interlocked_schedule_iff (hs : s.Owned Fresh) (hnot : ¬Interlocked s) (i : Nat) :
    Interlocked (s.schedule i) ↔ Crosses s i := by
  constructor
  · rcases s.schedule_cases i with hsame | ⟨taken, todo, hi, hfree, hstep⟩ |
      ⟨given, todo, hi, hstep⟩
    · rw [hsame]
      exact fun h => absurd h hnot
    · rw [hstep]
      have hlt := (List.getElem?_eq_some_iff.mp hi).1
      rintro ⟨lock, inner, a, b, rest, others, hne, hown, hown', ha, hb⟩
      dsimp only at hown hown' ha hb
      -- The two locks are the only ones, so the one that is taken is one of them.
      have hcross : ∀ {lock inner a b rest others}, lock ≠ inner → taken = lock →
          Function.update s.owner taken (some i) lock = some a →
          Function.update s.owner taken (some i) inner = some b →
          (s.threads.set i todo)[a]? = some (.acquire inner :: rest) →
          (s.threads.set i todo)[b]? = some (.acquire lock :: others) → Crosses s i := by
        rintro lock inner a b rest others hne rfl hown hown' ha hb
        rw [Function.update_self] at hown
        rw [Function.update_of_ne hne.symm] at hown'
        obtain rfl : i = a := Option.some.inj hown
        have hib : i ≠ b := by
          rintro rfl
          rw [ha] at hb
          simp only [Option.some.injEq, List.cons.injEq, LockStep.acquire.injEq] at hb
          exact hne hb.1.symm
        rw [List.getElem?_set_self hlt] at ha
        rw [List.getElem?_set_ne hib] at hb
        rw [Option.some.inj ha] at hi
        exact ⟨taken, inner, rest, b, others, hi, hfree, hown', hb⟩
      have htaken : taken = lock ∨ taken = inner := by
        cases taken <;> cases lock <;> cases inner <;> simp at hne ⊢
      rcases htaken with htaken | htaken
      · exact hcross hne htaken hown hown' ha hb
      · exact hcross hne.symm htaken hown' hown hb ha
    · rw [hstep]
      rintro ⟨lock, inner, a, b, rest, others, hne, hown, hown', -, -⟩
      have hgiven : given = lock ∨ given = inner := by
        cases given <;> cases lock <;> cases inner <;> simp at hne ⊢
      rcases hgiven with rfl | rfl
      · simp at hown
      · simp at hown'
  · rintro ⟨lock, inner, rest, j, others, hi, hfree, hown, hj⟩
    have hlt := (List.getElem?_eq_some_iff.mp hi).1
    have hne : lock ≠ inner := by
      rintro rfl
      rw [hfree] at hown
      cases hown
    have hij : i ≠ j := by
      rintro rfl
      obtain ⟨held, -, howner, -, hmay, -⟩ := hs i _ hi
      exact hmay (List.mem_cons_of_mem lock ((howner inner).mp hown))
    rw [schedule, hi]
    dsimp only
    rw [if_pos hfree]
    refine ⟨lock, inner, i, j, rest, others, hne, Function.update_self .., ?_, ?_, ?_⟩
    · exact (Function.update_of_ne hne.symm ..).trans hown
    · exact List.getElem?_set_self hlt
    · exact (List.getElem?_set_ne hij).trans hj

end Cycles

/-- Threads of any calls in any order: no state of a run has threads that wait for each other in
a cycle exactly when no step of the run crosses another thread. -/
theorem calls_never_deadlock_iff (threads : List (List LockedCall)) (order : List Nat) :
    (∀ n, ¬((order.take n).foldl LockPool.schedule (lockThreads threads)).Deadlocked) ↔
      Admits LockPool.schedule (fun s i => ¬Crosses s i) (lockThreads threads) order := by
  have hnew : ∀ held lock, Fresh held lock → lock ∉ held := fun _ _ h => h
  have hstart : (lockThreads threads).Owned Fresh := by
    refine LockPool.owned_start fun todo htodo => ?_
    obtain ⟨calls, -, rfl⟩ := List.mem_map.mp htodo
    refine follows_thread (fun lock => List.not_mem_nil) (fun _ _ _ => ?_) fun _ _ _ => ?_
    · exact fun h => nomatch List.mem_singleton.mp h
    · exact fun h => nomatch List.mem_singleton.mp h
  symm
  refine admits_iff (I := LockPool.Owned Fresh) (P := fun s => ¬s.Deadlocked)
    (fun s i hs => LockPool.owned_schedule hnew hs i) (fun s i hs hdead => ?_) hstart
    (LockPool.not_deadlocked_start _)
  rw [deadlocked_iff_interlocked hs] at hdead
  rw [deadlocked_iff_interlocked (LockPool.owned_schedule hnew hs i),
    interlocked_schedule_iff hs hdead]

/-- A Delete for a user takes the lock of the store, a change of the user takes the lock of the
user id, and each wants the lock of the other. -/
theorem delete_and_change_deadlock :
    ¬∀ (threads : List (List LockedCall)) (order : List Nat),
      ¬(order.foldl LockPool.schedule (lockThreads threads)).Deadlocked := by
  intro h
  refine h [[.deleteServiceProfile true], [.setCurrentForegroundUserID true true true]] [0, 1]
    ⟨0, .tail (.single (b := 1) ?_) ?_⟩
  · exact ⟨.foregroundUserIdLock, _, rfl, rfl⟩
  · exact ⟨.dynamicStoreMutex, _, rfl, rfl⟩

end DeviceProfile
