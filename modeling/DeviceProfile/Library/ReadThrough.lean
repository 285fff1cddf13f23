import DeviceProfile.Library.Run

/-!
# A cache that reads fill

A read looks into a cache first and fetches only what is not there. The cache mirrors what would
be fetched when it holds nothing else, and then a read does not show whether it is there. Reads
keep it so; when what would be fetched changes, it stays so as far as nothing cached is concerned.
-/

namespace Library

variable {κ ν ε : Type} {cache cache' : κ → Option ν} {fetch fetch' : κ → Except ε ν}

/-- What is cached, or else fetched. -/
def readThrough (cache : κ → Option ν) (fetch : κ → Except ε ν) (k : κ) : Except ε ν :=
  match cache k with
  | some v => .ok v
  | none => fetch k

/-- What is cached is what would be fetched. -/
def Mirrors (cache : κ → Option ν) (fetch : κ → Except ε ν) : Prop :=
  ∀ k v, cache k = some v → fetch k = .ok v

theorem readThrough_of_cached {k : κ} {v : ν} (h : cache k = some v) :
    readThrough cache fetch k = .ok v := by
  rw [readThrough, h]

theorem readThrough_of_not_cached {k : κ} (h : cache k = none) :
    readThrough cache fetch k = fetch k := by
  rw [readThrough, h]

/-- A mirror is what no read shows. -/
theorem mirrors_iff : Mirrors cache fetch ↔ ∀ k, readThrough cache fetch k = fetch k := by
  constructor
  · intro h k
    cases hk : cache k with
    | none => exact readThrough_of_not_cached hk
    | some v => rw [readThrough_of_cached hk, h k v hk]
  · intro h k v hk
    rw [← h k, readThrough_of_cached hk]

/-- A mirror may be filled with what would be fetched. -/
theorem Mirrors.fill (h : Mirrors cache fetch)
    (hfill : ∀ k v, cache' k = some v → cache k = some v ∨ fetch k = .ok v) :
    Mirrors cache' fetch := by
  intro k v hk
  rcases hfill k v hk with hold | hfetch
  · exact h k v hold
  · exact hfetch

/-- A mirror stays one exactly when what is fetched for its keys stays the same. -/
theorem Mirrors.change_iff (h : Mirrors cache fetch) :
    Mirrors cache fetch' ↔ ∀ k, (cache k).isSome → fetch' k = fetch k := by
  constructor
  · intro hchanged k hk
    obtain ⟨v, hv⟩ := Option.isSome_iff_exists.mp hk
    rw [hchanged k v hv, h k v hv]
  · intro hsame k v hv
    rw [hsame k (Option.isSome_of_eq_some hv), h k v hv]

/-- When steps fill the cache only with what would be fetched, whatever is read in a run would
have been fetched then or at some time before. -/
theorem exists_fetch_of_readThrough {σ ι : Type} {step : σ → ι → σ} {I : σ → Prop}
    {cache : σ → κ → Option ν} {fetch : σ → κ → Except ε ν} (hI : ∀ s i, I s → I (step s i))
    (hfill : ∀ s i k v, I s → cache (step s i) k = some v →
      cache s k = some v ∨ fetch s k = .ok v)
    {s : σ} (hs : I s) (hempty : ∀ k, cache s k = none) (events : List ι) (n : Nat) (k : κ) :
    ∃ m ≤ n, readThrough (cache ((events.take n).foldl step s))
      (fetch ((events.take n).foldl step s)) k = fetch ((events.take m).foldl step s) k := by
  have hstep : ∀ s i, I s → True → I (step s i) := fun s i hs _ => hI s i hs
  have hinv : ∀ n, I ((events.take n).foldl step s) := fun n =>
    foldl_invariant hstep hs (admits_of_forall (fun _ _ => trivial) s _)
  have hcached : ∀ n v, cache ((events.take n).foldl step s) k = some v →
      ∃ m ≤ n, fetch ((events.take m).foldl step s) k = .ok v := by
    intro n
    induction n with
    | zero =>
      intro v hv
      rw [List.take_zero, List.foldl_nil, hempty k] at hv
      cases hv
    | succ n ih =>
      intro v hv
      rw [List.take_add_one, List.foldl_append] at hv
      cases hi : events[n]? with
      | none =>
        rw [hi] at hv
        obtain ⟨m, hm, hfetch⟩ := ih v hv
        exact ⟨m, by omega, hfetch⟩
      | some i =>
        rw [hi] at hv
        rcases hfill _ i k v (hinv n) hv with hold | hfetch
        · obtain ⟨m, hm, hfetch⟩ := ih v hold
          exact ⟨m, by omega, hfetch⟩
        · exact ⟨n, by omega, hfetch⟩
  cases hk : cache ((events.take n).foldl step s) k with
  | none => exact ⟨n, Nat.le_refl n, readThrough_of_not_cached hk⟩
  | some v =>
    obtain ⟨m, hm, hfetch⟩ := hcached n v hk
    exact ⟨m, hm, by rw [readThrough_of_cached hk, hfetch]⟩

end Library
