import Mathlib.Data.List.TakeWhile

/-!
# Message parcels

A parcel is written and read one primitive after another. What a read does is left open,
so that a parcel may hold anything; a faithful parcel gives back what was written, in order.
Records are written and read field by field, and a record whose fields cover it is restored.
-/

namespace Library

/-- The primitives of a parcel. -/
inductive WireKind where
  | int32
  | uint16
  | uint32
  | int64
  | string
  | rawData
  | remoteObject
  deriving DecidableEq, Repr

/-- Numbers are integers, and remote objects their handles. -/
@[reducible] def WireKind.Val : WireKind → Type
  | .int32 => Int
  | .uint16 => Int
  | .uint32 => Int
  | .int64 => Int
  | .string => List Char
  | .rawData => List UInt8
  | .remoteObject => Nat

/-- One written primitive. -/
abbrev Primitive := (k : WireKind) × k.Val

/-- A write may be refused; a read may fail, and leaves some state in either case. -/
structure Parcel (σ : Type) where
  write : (k : WireKind) → k.Val → σ → Option σ
  read : (k : WireKind) → σ → Option k.Val × σ

/-- A field of a record. -/
structure WireField (T : Type) where
  kind : WireKind
  get : T → kind.Val
  set : kind.Val → T → T

section Records

variable {σ T : Type}

/-- A parcel gives back what it holds, in the order of the writes. -/
structure Parcel.IsFaithful (p : Parcel σ) (holds : σ → List Primitive → Prop) : Prop where
  write : ∀ {s s' : σ} {items : List Primitive} {k : WireKind} {v : k.Val},
    holds s items → p.write k v s = some s' → holds s' (items ++ [⟨k, v⟩])
  read : ∀ {s : σ} {items : List Primitive} {k : WireKind} {v : k.Val},
    holds s (⟨k, v⟩ :: items) → ∃ s', p.read k s = (some v, s') ∧ holds s' items

/-- Write fields up to the first that is refused. -/
def writeFields (p : Parcel σ) : List (WireField T) → T → σ → Bool × σ
  | [], _, s => (true, s)
  | f :: fields, t, s =>
    match p.write f.kind (f.get t) s with
    | none => (false, s)
    | some s => writeFields p fields t s

/-- Read fields up to the first that cannot be read. -/
def readFields (p : Parcel σ) : List (WireField T) → T → σ → Bool × T × σ
  | [], t, s => (true, t, s)
  | f :: fields, t, s =>
    match p.read f.kind s with
    | (none, s) => (false, t, s)
    | (some v, s) => readFields p fields (f.set v t) s

/-- The primitives of the fields of a record. -/
def fieldItems (fields : List (WireField T)) (t : T) : List Primitive :=
  fields.map fun f => ⟨f.kind, f.get t⟩

/-- Copy fields of one record into another. -/
def copyFields (fields : List (WireField T)) (t u : T) : T :=
  fields.foldl (fun u f => f.set (f.get t) u) u

/-- Read primitives of these kinds, up to the first that cannot be read. -/
def readAll (p : Parcel σ) : List WireKind → σ → Option σ
  | [], s => some s
  | k :: kinds, s =>
    match p.read k s with
    | (none, _) => none
    | (some _, s) => readAll p kinds s

/-- Write values of one kind up to the first that is refused. -/
def writeValues (p : Parcel σ) (k : WireKind) : List k.Val → σ → Bool × σ
  | [], s => (true, s)
  | v :: values, s =>
    match p.write k v s with
    | none => (false, s)
    | some s => writeValues p k values s

/-- Read values of one kind up to the first that cannot be read. -/
def readValues (p : Parcel σ) (k : WireKind) : Nat → σ → Bool × List k.Val × σ
  | 0, s => (true, [], s)
  | n + 1, s =>
    match p.read k s with
    | (none, s) => (false, [], s)
    | (some v, s) =>
      let (result, values, s) := readValues p k n s
      (result, v :: values, s)

/-- Write records up to the first that is refused. -/
def writeEach (write : T → σ → Bool × σ) : List T → σ → Bool × σ
  | [], s => (true, s)
  | t :: rest, s =>
    match write t s with
    | (false, s) => (false, s)
    | (true, s) => writeEach write rest s

/-- Read records behind those there are, up to the first that cannot be read. -/
def readEach (read : σ → Bool × T × σ) : Nat → List T → σ → Bool × List T × σ
  | 0, ts, s => (true, ts, s)
  | n + 1, ts, s =>
    match read s with
    | (false, _, s) => (false, ts, s)
    | (true, t, s) => readEach read n (ts ++ [t]) s

/-- What is written comes behind what the parcel holds. -/
theorem holds_writeFields {p : Parcel σ} {holds : σ → List Primitive → Prop}
    (hp : p.IsFaithful holds) {fields : List (WireField T)} {t : T} {s : σ} {items : List Primitive}
    (h : holds s items) (hok : (writeFields p fields t s).1 = true) :
    holds (writeFields p fields t s).2 (items ++ fieldItems fields t) := by
  induction fields generalizing s items with
  | nil =>
    rw [fieldItems, List.map_nil, List.append_nil]
    exact h
  | cons f fields ih =>
    cases hwrite : p.write f.kind (f.get t) s with
    | none =>
      simp only [writeFields, hwrite] at hok
      cases hok
    | some s' =>
      simp only [writeFields, hwrite] at hok ⊢
      have hrest := ih (hp.write h hwrite) hok
      rwa [List.append_assoc] at hrest

/-- Fields that a parcel holds are read into the record. -/
theorem readFields_of_holds {p : Parcel σ} {holds : σ → List Primitive → Prop}
    (hp : p.IsFaithful holds) {fields : List (WireField T)} {t : T} {s : σ} {rest : List Primitive}
    (h : holds s (fieldItems fields t ++ rest)) (u : T) :
    ∃ s', readFields p fields u s = (true, copyFields fields t u, s') ∧ holds s' rest := by
  induction fields generalizing s u with
  | nil => exact ⟨s, rfl, h⟩
  | cons f fields ih =>
    obtain ⟨s', hread, hs'⟩ := hp.read h
    obtain ⟨last, hrest, hlast⟩ := ih hs' (f.set (f.get t) u)
    refine ⟨last, ?_, hlast⟩
    simp only [readFields, hread, hrest]
    rfl

/-- Values that have been written stand in the parcel. -/
theorem holds_writeValues {p : Parcel σ} {holds : σ → List Primitive → Prop}
    (hp : p.IsFaithful holds) {k : WireKind} {values : List k.Val} {s : σ} {items : List Primitive}
    (h : holds s items) (hok : (writeValues p k values s).1 = true) :
    holds (writeValues p k values s).2 (items ++ values.map fun v => ⟨k, v⟩) := by
  induction values generalizing s items with
  | nil =>
    rw [List.map_nil, List.append_nil]
    exact h
  | cons v values ih =>
    cases hwrite : p.write k v s with
    | none =>
      simp only [writeValues, hwrite] at hok
      cases hok
    | some s' =>
      simp only [writeValues, hwrite] at hok ⊢
      have hrest := ih (hp.write h hwrite) hok
      rwa [List.append_assoc] at hrest

/-- The first of the values that stand in the parcel are read. -/
theorem readValues_of_holds {p : Parcel σ} {holds : σ → List Primitive → Prop}
    (hp : p.IsFaithful holds) {k : WireKind} {values : List k.Val} {n : Nat} {s : σ}
    {rest : List Primitive} (hn : n ≤ values.length)
    (h : holds s ((values.map fun v => (⟨k, v⟩ : Primitive)) ++ rest)) :
    ∃ s', readValues p k n s = (true, values.take n, s') ∧
      holds s' (((values.drop n).map fun v => (⟨k, v⟩ : Primitive)) ++ rest) := by
  induction n generalizing s values with
  | zero => exact ⟨s, rfl, h⟩
  | succ n ih =>
    cases values with
    | nil => exact absurd hn (Nat.not_succ_le_zero n)
    | cons v values =>
      obtain ⟨s', hread, hs'⟩ := hp.read h
      obtain ⟨last, hrest, hlast⟩ := ih (Nat.le_of_succ_le_succ hn) hs'
      refine ⟨last, ?_, hlast⟩
      simp only [readValues, hread, hrest]
      rfl

/-- Records that are written as primitives each. -/
theorem holds_writeEach {holds : σ → List Primitive → Prop} {write : T → σ → Bool × σ}
    {itemsOf : T → List Primitive}
    (hwrite : ∀ {t : T} {s : σ} {items : List Primitive}, holds s items →
      (write t s).1 = true → holds (write t s).2 (items ++ itemsOf t))
    {ts : List T} {s : σ} {items : List Primitive} (h : holds s items)
    (hok : (writeEach write ts s).1 = true) :
    holds (writeEach write ts s).2 (items ++ ts.flatMap itemsOf) := by
  induction ts generalizing s items with
  | nil =>
    rw [List.flatMap_nil, List.append_nil]
    exact h
  | cons t rest ih =>
    rw [writeEach] at hok ⊢
    have hfirst := hwrite (t := t) h
    cases hresult : write t s with
    | mk result s₁ =>
      rw [hresult] at hok hfirst
      cases result with
      | false => cases hok
      | true =>
        have hall := ih (hfirst rfl) hok
        rwa [List.append_assoc] at hall

/-- Elements that are all written are written as a whole. -/
theorem writeEach_eq_true {write : T → σ → Bool × σ} (h : ∀ t s, (write t s).1 = true)
    (ts : List T) (s : σ) : (writeEach write ts s).1 = true := by
  induction ts generalizing s with
  | nil => rfl
  | cons t rest ih =>
    have hfirst := h t s
    rw [writeEach]
    cases hresult : write t s with
    | mk result s' =>
      rw [hresult] at hfirst
      obtain rfl : result = true := hfirst
      exact ih s'

/-- Records that are read from the primitives of each come behind those there were. -/
theorem readEach_of_holds {holds : σ → List Primitive → Prop} {read : σ → Bool × T × σ}
    {itemsOf : T → List Primitive} {ts : List T}
    (hread : ∀ t ∈ ts, ∀ (s : σ) (rest : List Primitive), holds s (itemsOf t ++ rest) →
      ∃ s', read s = (true, t, s') ∧ holds s' rest)
    {s : σ} {rest : List Primitive} (hs : holds s (ts.flatMap itemsOf ++ rest))
    (target : List T) :
    ∃ s', readEach read ts.length target s = (true, target ++ ts, s') ∧ holds s' rest := by
  induction ts generalizing s target with
  | nil => exact ⟨s, by rw [List.append_nil]; rfl, hs⟩
  | cons t ts ih =>
    rw [List.flatMap_cons, List.append_assoc] at hs
    obtain ⟨s₁, hfirst, hs₁⟩ := hread t List.mem_cons_self s _ hs
    obtain ⟨s₂, hrest, hs₂⟩ := ih (fun u hu => hread u (List.mem_cons_of_mem t hu)) hs₁
      (target ++ [t])
    refine ⟨s₂, ?_, hs₂⟩
    simp only [List.length_cons, readEach, hfirst, hrest, List.append_assoc,
      List.singleton_append]

/-- Fields are read without a failure exactly if all their primitives can be read. -/
theorem readFields_eq_true_iff {p : Parcel σ} {fields : List (WireField T)} {t : T} {s : σ} :
    (readFields p fields t s).1 = true ↔
      readAll p (fields.map WireField.kind) s = some (readFields p fields t s).2.2 := by
  induction fields generalizing t s with
  | nil => exact iff_of_true rfl rfl
  | cons f fields ih =>
    rw [List.map_cons, readAll, readFields]
    cases hread : p.read f.kind s with
    | mk value s' =>
      cases value with
      | none => exact iff_of_false Bool.false_ne_true nofun
      | some v => exact ih

/-- Reading the primitives of fields ends where reading the fields ends. -/
theorem readAll_eq_some {p : Parcel σ} {fields : List (WireField T)} {s s' : σ}
    (h : readAll p (fields.map WireField.kind) s = some s') (t : T) :
    (readFields p fields t s).1 = true ∧ (readFields p fields t s).2.2 = s' := by
  induction fields generalizing t s with
  | nil => exact ⟨rfl, Option.some.inj h⟩
  | cons f fields ih =>
    rw [List.map_cons, readAll] at h
    rw [readFields]
    cases hread : p.read f.kind s with
    | mk value next =>
      rw [hread] at h
      cases value with
      | none => cases h
      | some v => exact ih h _

/-- Reading two lists of kinds is reading one after the other. -/
theorem readAll_append (p : Parcel σ) (kinds kinds' : List WireKind) (s : σ) :
    readAll p (kinds ++ kinds') s = (readAll p kinds s).bind (readAll p kinds') := by
  induction kinds generalizing s with
  | nil => rfl
  | cons k kinds ih =>
    rw [List.cons_append, readAll, readAll]
    cases hread : p.read k s with
    | mk value s' =>
      cases value with
      | none => rfl
      | some v => exact ih s'

end Records

/-! ## A parcel of typed primitives -/

/-- A parcel with room for this many primitives. A read of another kind than the next one
fails. -/
def listParcel (capacity : Nat) : Parcel (List Primitive) where
  write k v s := if s.length < capacity then some (s ++ [⟨k, v⟩]) else none
  read k s :=
    match s with
    | [] => (none, [])
    | ⟨k', v⟩ :: rest => if h : k' = k then (some (h ▸ v), rest) else (none, ⟨k', v⟩ :: rest)

/-- A parcel that is a list of its values is faithful. -/
theorem listParcel_isFaithful (capacity : Nat) :
    (listParcel capacity).IsFaithful fun s items => s = items where
  write := by
    rintro s s' items k v rfl h
    simp only [listParcel] at h
    split at h
    · exact (Option.some.inj h).symm
    · cases h
  read := by
    rintro s items k v rfl
    exact ⟨items, dif_pos rfl, rfl⟩

end Library
