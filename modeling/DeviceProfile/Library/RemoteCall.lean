import DeviceProfile.Library.Parcel
import DeviceProfile.Library.Rely

/-!
# Calls of a method through a message

A proxy writes the arguments of a method into a parcel and sends it; a stub reads them, runs the
method, and writes its code and its results into the reply, which the proxy reads. A message may
be refused, and a reply may be lost behind the method. Some failures let the client try again.

The methods that were run, in their order, are a run of the service itself. What a client gets
is what its last run answered, or a failure on the way to it or back, and it caused one run and one
more for every reply that was lost.
-/

namespace Library

/-- The code of a failure, which is not the code of a success. -/
abbrev Failure := { code : Int // code ≠ 0 }

/-- What becomes of a message. -/
inductive Delivery where
  | delivered
  | refused (failure : Failure)
  | lost (failure : Failure)
  deriving DecidableEq

/-- How a method goes through parcels. The results are read into those of the caller, which may
be changed even if that fails. -/
structure ParcelMethod (σ A O : Type) where
  writeArgs : A → σ → Except Failure σ
  readArgs : σ → Except Failure A
  freshOuts : O
  replyFail : Failure
  writeOuts : O → σ → Except Failure σ
  readOuts : O → σ → Except Failure Unit × O

/-- The way of one message: whether it is refused before it is written, the empty parcels, and
what becomes of it. -/
structure Line (σ : Type) where
  refusal : Option Failure := none
  data : σ
  reply : σ
  delivery : Delivery := .delivered

/-- A method with its arguments and results answers a code. -/
abbrev Direct (τ A O : Type) := A → O → τ → Int × O × τ

namespace ParcelMethod

variable {σ τ A O : Type} (p : Parcel σ) (m : ParcelMethod σ A O) (direct : Direct τ A O)

/-- The stub. -/
def inner (data reply : σ) (t : τ) : Except Failure σ × τ :=
  match m.readArgs data with
  | .error e => (.error e, t)
  | .ok args =>
    match direct args m.freshOuts t with
    | (ret, outs, t) =>
      match p.write .int32 ret reply with
      | none => (.error m.replyFail, t)
      | some reply => (m.writeOuts outs reply, t)

/-- What the proxy gets of the stub. -/
def send (delivery : Delivery) (data reply : σ) (t : τ) : Except Failure σ × τ :=
  match delivery with
  | .refused e => (.error e, t)
  | .lost e => (.error e, (m.inner p direct data reply t).2)
  | .delivered => m.inner p direct data reply t

/-- What the proxy makes of a reply; the code is zero where none can be read. -/
def receive (outs : O) (reply : σ) : Int × O :=
  match p.read .int32 reply with
  | (ret, reply) =>
    if ret.getD 0 ≠ 0 then (ret.getD 0, outs)
    else
      match m.readOuts outs reply with
      | (.error e, outs) => (e.1, outs)
      | (.ok _, outs) => (0, outs)

/-- The proxy. -/
def call (line : Line σ) (args : A) (outs : O) (t : τ) : Int × O × τ :=
  match line.refusal with
  | some e => (e.1, outs, t)
  | none =>
    match m.writeArgs args line.data with
    | .error e => (e.1, outs, t)
    | .ok data =>
      match m.send p direct line.delivery data line.reply t with
      | (.error e, t) => (e.1, outs, t)
      | (.ok reply, t) => ((m.receive p outs reply).1, (m.receive p outs reply).2, t)

/-! ## What arrives -/

/-- Arguments that may be sent are read if they are written. Results that are written behind a
code are read behind it if they are of the kind that arrives, and of those that fit no others are
read. -/
structure Transmits (holds : σ → List Primitive → Prop) (Sends : A → Prop)
    (Fits Arrives : O → Prop) : Prop where
  args : ∀ {args : A} {s s' : σ}, Sends args → holds s [] → m.writeArgs args s = .ok s' →
    m.readArgs s' = .ok args
  outs : ∀ {outs : O} {ret : Int} {s s' : σ}, holds s [⟨.int32, ret⟩] →
    m.writeOuts outs s = .ok s' → ∃ s'', p.read .int32 s' = (some ret, s'') ∧
      (Fits outs → ((m.readOuts m.freshOuts s'').1 = .ok () ↔ Arrives outs) ∧
        (Arrives outs → (m.readOuts m.freshOuts s'').2 = outs))

/-- The failures of the stub and of the proxy behind the method. -/
def CanFail (e : Failure) : Prop :=
  e = m.replyFail ∨ (∃ outs s, m.writeOuts outs s = .error e) ∨
    ∃ outs s, (m.readOuts outs s).1 = .error e

/-- The failures that keep an answer of the method from the caller: its code is not written, or its
results are not, or those of a success do not arrive. -/
inductive Garbles (Fits Arrives : O → Prop) (ret : Int) (outs : O) : Failure → Prop where
  | code : Garbles Fits Arrives ret outs m.replyFail
  | unwritten (e : Failure) (s : σ) (h : m.writeOuts outs s = .error e) :
      Garbles Fits Arrives ret outs e
  | unread (e : Failure) (outs' : O) (s : σ) (h : (m.readOuts outs' s).1 = .error e)
      (hret : ret = 0) (hnot : Fits outs → ¬Arrives outs) : Garbles Fits Arrives ret outs e

/-- Why a message does not come to the stub. -/
def IsUnsent (line : Line σ) (args : A) (e : Failure) : Prop :=
  line.refusal = some e ∨ m.writeArgs args line.data = .error e ∨ line.delivery = .refused e

/-- What a call leads to: the method was not run and the call failed, or it was run. Then the
reply was lost, or the code of the method arrived, or the reply could not be made or read, or the
results arrived too. -/
inductive Outcome (Fits Arrives : O → Prop) (args : A) (t : τ) (line : Line σ) :
    Int × O × τ → Prop where
  | unsent (e : Failure) (hunsent : m.IsUnsent line args e) :
      Outcome Fits Arrives args t line (e.1, m.freshOuts, t)
  | lost (e : Failure) (hlost : line.delivery = .lost e) :
      Outcome Fits Arrives args t line (e.1, m.freshOuts, (direct args m.freshOuts t).2.2)
  | answered (hret : (direct args m.freshOuts t).1 ≠ 0) :
      Outcome Fits Arrives args t line
        ((direct args m.freshOuts t).1, m.freshOuts, (direct args m.freshOuts t).2.2)
  | garbled (e : Failure) (outs : O)
      (hfail : m.Garbles Fits Arrives (direct args m.freshOuts t).1
        (direct args m.freshOuts t).2.1 e) :
      Outcome Fits Arrives args t line (e.1, outs, (direct args m.freshOuts t).2.2)
  | received (outs : O) (hret : (direct args m.freshOuts t).1 = 0)
      (harrives : Fits (direct args m.freshOuts t).2.1 →
        Arrives (direct args m.freshOuts t).2.1 ∧ outs = (direct args m.freshOuts t).2.1) :
      Outcome Fits Arrives args t line (0, outs, (direct args m.freshOuts t).2.2)

variable {p m direct}
variable {holds : σ → List Primitive → Prop} {Sends : A → Prop} {Fits Arrives : O → Prop}
  {line : Line σ} {args : A}
  {t : τ}

/-- Results that are written as primitives behind the code, and read from these. -/
theorem Transmits.of_items (hp : p.IsFaithful holds) (items : O → List Primitive)
    (hargs : ∀ {args : A} {s s' : σ}, Sends args → holds s [] → m.writeArgs args s = .ok s' →
      m.readArgs s' = .ok args)
    (hwrite : ∀ {outs : O} {before : List Primitive} {s s' : σ}, holds s before →
      m.writeOuts outs s = .ok s' → holds s' (before ++ items outs))
    (hread : ∀ {outs : O} {before : List Primitive} {s s' u : σ}, Fits outs → holds s before →
      m.writeOuts outs s = .ok s' → holds u (items outs) →
        ((m.readOuts m.freshOuts u).1 = .ok () ↔ Arrives outs) ∧
          (Arrives outs → (m.readOuts m.freshOuts u).2 = outs)) :
    m.Transmits p holds Sends Fits Arrives where
  args := hargs
  outs := by
    intro outs ret s s' hs hok
    obtain ⟨s'', hret, hs''⟩ := hp.read (hwrite hs hok)
    exact ⟨s'', hret, fun hfits => hread hfits hs hok hs''⟩

theorem Garbles.canFail {ret : Int} {outs : O} {e : Failure}
    (h : m.Garbles Fits Arrives ret outs e) : m.CanFail e := by
  cases h with
  | code => exact Or.inl rfl
  | unwritten e s h => exact Or.inr (Or.inl ⟨outs, s, h⟩)
  | unread e outs' s h hret hnot => exact Or.inr (Or.inr ⟨outs', s, h⟩)

/-- What the proxy makes of the reply of a stub that came to its end. -/
theorem receive_cases (hm : m.Transmits p holds Sends Fits Arrives) {outs : O} {ret : Int}
    {s s' : σ} (hs : holds s [⟨.int32, ret⟩]) (hwrite : m.writeOuts outs s = .ok s') :
    ret ≠ 0 ∧ m.receive p m.freshOuts s' = (ret, m.freshOuts) ∨
      ret = 0 ∧ ((∃ outs', (Fits outs → Arrives outs ∧ outs' = outs) ∧
          m.receive p m.freshOuts s' = (0, outs')) ∨
        ∃ e, m.Garbles Fits Arrives 0 outs e ∧ (Fits outs → ¬Arrives outs) ∧
          (m.receive p m.freshOuts s').1 = e.1) := by
  obtain ⟨s'', hread, houts⟩ := hm.outs hs hwrite
  rw [receive, hread]
  by_cases hret : ret = 0
  · refine Or.inr ⟨hret, ?_⟩
    subst hret
    simp only [Option.getD_some, ne_eq, not_true_eq_false, if_false]
    cases hresult : m.readOuts m.freshOuts s'' with
    | mk result outs' =>
      rw [hresult] at houts
      cases result with
      | error e =>
        have hnot : Fits outs → ¬Arrives outs := fun hfits harrives => by
          have hok := (houts hfits).1.mpr harrives
          cases hok
        exact Or.inr ⟨e, .unread e m.freshOuts s'' (by rw [hresult]) rfl hnot, hnot, rfl⟩
      | ok u =>
        refine Or.inl ⟨outs', fun hfits => ?_, rfl⟩
        have harrives := (houts hfits).1.mp rfl
        exact ⟨harrives, (houts hfits).2 harrives⟩
  · exact Or.inl ⟨hret, by simp [hret]⟩

variable (direct t Fits Arrives) in
/-- What the stub leads to when it can read the arguments. -/
theorem inner_cases (hp : p.IsFaithful holds) {data reply : σ} (hargs : m.readArgs data = .ok args)
    (hreply : holds reply []) :
    (∃ e, m.Garbles Fits Arrives (direct args m.freshOuts t).1 (direct args m.freshOuts t).2.1 e ∧
        m.inner p direct data reply t = (.error e, (direct args m.freshOuts t).2.2)) ∨
      ∃ s s', holds s [⟨.int32, (direct args m.freshOuts t).1⟩] ∧
        m.writeOuts (direct args m.freshOuts t).2.1 s = .ok s' ∧
        m.inner p direct data reply t = (.ok s', (direct args m.freshOuts t).2.2) := by
  simp only [inner, hargs]
  cases hwrite : p.write .int32 (direct args m.freshOuts t).1 reply with
  | none => exact Or.inl ⟨m.replyFail, .code, rfl⟩
  | some s =>
    cases houts : m.writeOuts (direct args m.freshOuts t).2.1 s with
    | error e => exact Or.inl ⟨e, .unwritten e s houts, by simp [houts]⟩
    | ok s' => exact Or.inr ⟨s, s', hp.write hreply hwrite, houts, by simp [houts]⟩

/-- The method is run once, whatever becomes of the reply. -/
theorem inner_snd {data reply : σ} (hargs : m.readArgs data = .ok args) :
    (m.inner p direct data reply t).2 = (direct args m.freshOuts t).2.2 := by
  simp only [inner, hargs]
  split <;> rfl

/-- A call whose message is delivered, whose arguments can be read and whose code can be
written. -/
theorem call_of_delivered (hrefusal : line.refusal = none) (hdelivered : line.delivery = .delivered)
    {data reply : σ} (hwrite : m.writeArgs args line.data = .ok data)
    (hargs : m.readArgs data = .ok args)
    (hret : p.write .int32 (direct args m.freshOuts t).1 line.reply = some reply) :
    m.call p direct line args m.freshOuts t =
      match m.writeOuts (direct args m.freshOuts t).2.1 reply with
      | .error e => (e.1, m.freshOuts, (direct args m.freshOuts t).2.2)
      | .ok reply => ((m.receive p m.freshOuts reply).1, (m.receive p m.freshOuts reply).2,
          (direct args m.freshOuts t).2.2) := by
  simp only [call, hrefusal, hwrite, send, hdelivered, inner, hargs, hret]
  cases m.writeOuts (direct args m.freshOuts t).2.1 reply <;> rfl

/-- Every call with results that are fresh has one of the outcomes. -/
theorem call_outcome (hp : p.IsFaithful holds) (hm : m.Transmits p holds Sends Fits Arrives)
    (hsends : Sends args) (hdata : holds line.data []) (hreply : holds line.reply []) :
    Outcome m direct Fits Arrives args t line (m.call p direct line args m.freshOuts t) := by
  rw [call]
  cases hrefusal : line.refusal with
  | some e => exact .unsent e (Or.inl hrefusal)
  | none =>
    cases hwrite : m.writeArgs args line.data with
    | error e => exact .unsent e (Or.inr (Or.inl hwrite))
    | ok data =>
      have hargs := hm.args hsends hdata hwrite
      cases hdelivery : line.delivery with
      | refused e => exact .unsent e (Or.inr (Or.inr hdelivery))
      | lost e =>
        simp only [send, inner_snd hargs]
        exact .lost e hdelivery
      | delivered =>
        simp only [send]
        rcases inner_cases direct Fits Arrives t hp hargs hreply with
          ⟨e, hfail, hinner⟩ | ⟨s, s', hs, houts, hinner⟩
        · simp only [hinner]
          exact .garbled e m.freshOuts hfail
        · simp only [hinner]
          rcases receive_cases hm hs houts with
            ⟨hret, hreceive⟩ | ⟨hret, ⟨outs, harrives, hreceive⟩ | ⟨e, hfail, -, hcode⟩⟩
          · rw [hreceive]
            exact .answered hret
          · rw [hreceive]
            exact .received outs hret harrives
          · rw [hcode]
            exact .garbled e _ (hret ▸ hfail)

end ParcelMethod

/-! ## Clients that try again -/

section Clients

variable {σ τ M : Type} {A O : M → Type}

/-- A method that was run for a client, with its answer. -/
structure Execution (M : Type) (A O : M → Type) where
  client : Nat
  method : M
  args : A method
  ret : Int
  outs : O method

/-- The state of a service with a record of what was run. -/
structure Served (τ : Type) (M : Type) (A O : M → Type) where
  state : τ
  log : List (Execution M A O) := []

/-- What is answered to a client. -/
structure ClientAnswer (M : Type) (O : M → Type) where
  method : M
  code : Int
  outs : O method

variable (p : Parcel σ) (remote : (m : M) → ParcelMethod σ (A m) (O m))
  (service : (m : M) → Direct τ (A m) (O m))

/-- The service with the record. -/
def logged (client : Nat) (m : M) : Direct (Served τ M A O) (A m) (O m) := fun args outs s =>
  ((service m args outs s.state).1, (service m args outs s.state).2.1,
    ⟨(service m args outs s.state).2.2,
      s.log ++ [⟨client, m, args, (service m args outs s.state).1,
        (service m args outs s.state).2.1⟩]⟩)

variable (retryCodes : List Int) (noService : Int) (client : Nat) (m : M) (args : A m)

/-- Try until no retry is left, no service is found, or the code is none to try again for. -/
def retry (lines : Nat → Option (Line σ)) :
    Nat → Int → O m → Prog Empty (Served τ M A O) (ClientAnswer M O)
  | 0, code, outs => .ret ⟨m, code, outs⟩
  | n + 1, _, outs =>
    match lines n with
    | none => .ret ⟨m, noService, outs⟩
    | some line =>
      .step (fun s => ((remote m).call p (logged service client m) line args outs s).2.2) fun s =>
        if ((remote m).call p (logged service client m) line args outs s).1 ∈ retryCodes then
          retry lines n ((remote m).call p (logged service client m) line args outs s).1
            ((remote m).call p (logged service client m) line args outs s).2.1
        else
          .ret ⟨m, ((remote m).call p (logged service client m) line args outs s).1,
            ((remote m).call p (logged service client m) line args outs s).2.1⟩

/-- The tries among the next ones whose reply is lost. -/
def lostReplies (lines : Nat → Option (Line σ)) : Nat → Nat
  | 0 => 0
  | n + 1 =>
    lostReplies lines n +
      match lines n with
      | some ⟨_, _, _, .lost _⟩ => 1
      | _ => 0

/-- What was run for a client. -/
def runsOf (client : Nat) (s : Served τ M A O) : List (Execution M A O) :=
  s.log.filter fun e => e.client = client

/-- How many runs gave an answer that is none to try again for. -/
def finalRuns (runs : List (Execution M A O)) : Nat := runs.countP fun e => e.ret ∉ retryCodes

/-- A record is a run of the service: every method was run in the state the ones before it
left, and gave the answer that is recorded. -/
inductive Replays (t : τ) : List (Execution M A O) → τ → Prop where
  | start : Replays t [] t
  | run (client : Nat) (m : M) (args : A m) {log : List (Execution M A O)} {u : τ}
      (h : Replays t log u) :
      Replays t (log ++ [⟨client, m, args, (service m args (remote m).freshOuts u).1,
          (service m args (remote m).freshOuts u).2.1⟩])
        (service m args (remote m).freshOuts u).2.2

/-- A client runs nothing, or a method on the service. -/
inductive ClientStep (client : Nat) (s : Served τ M A O) : Served τ M A O → Prop where
  | unsent : ClientStep client s s
  | run (m : M) (args : A m) :
      ClientStep client s (logged service client m args (remote m).freshOuts s).2.2

/-- The other clients step. -/
def OthersStep (client : Nat) (s s' : Served τ M A O) : Prop :=
  ∃ other, other ≠ client ∧ ClientStep remote service other s s'

variable {p remote service retryCodes noService client m args}
variable {holds : σ → List Primitive → Prop} {Sends : (m : M) → A m → Prop}
  {Fits Arrives : (m : M) → O m → Prop}
  {s s' : Served τ M A O}

/-- A step of a client is a step of others for every other client. -/
theorem compatible_others :
    Compatible (OthersStep remote service) (ClientStep remote service) :=
  fun _ j hne _ _ h => ⟨j, Ne.symm hne, h⟩

/-- A logged call is the client's last run. -/
theorem runsOf_logged (outs : O m) :
    runsOf client (logged service client m args outs s).2.2 =
      runsOf client s ++ [⟨client, m, args, (service m args outs s.state).1,
        (service m args outs s.state).2.1⟩] := by
  rw [runsOf, logged, List.filter_append]
  simp [runsOf]

/-- What others run is none of the runs of a client. -/
theorem runsOf_of_others (h : OthersStep remote service client s s') :
    runsOf client s' = runsOf client s := by
  obtain ⟨other, hne, hstep⟩ := h
  cases hstep with
  | unsent => rfl
  | run m args => simp [runsOf, logged, List.filter_append, hne]

/-- What is said of a client's own runs is kept by others. -/
theorem stable_runsOf (P : List (Execution M A O) → Prop) :
    Stable (OthersStep remote service client) fun s => P (runsOf client s) := by
  intro s s' h hP
  rw [runsOf_of_others h]
  exact hP

/-- The log replays to the state, whoever steps. -/
theorem stable_replays (t : τ) (client : Nat) :
    Stable (ClientStep remote service client) fun s => Replays remote service t s.log s.state := by
  intro s s' h hs
  cases h with
  | unsent => exact hs
  | run m args => exact .run client m args hs

/-- All runs are of the method and the arguments of the client. -/
def AreOwn (client : Nat) (m : M) (args : A m) (runs : List (Execution M A O)) : Prop :=
  ∀ e ∈ runs, ∃ ret outs, e = ⟨client, m, args, ret, outs⟩

/-- Where the answer of a client comes from: its arguments were refused before the first try, or
no service was found, or a message did not come to the service, or a reply was lost behind the
last run for the client, or the answer is what that run answered or what became of it. -/
inductive Explains (remote : (m : M) → ParcelMethod σ (A m) (O m))
    (Fits Arrives : (m : M) → O m → Prop) (noService : Int)
    (check : (m : M) → A m → Option Failure) (client : Nat) (m : M) (args : A m)
    (lines : Nat → Option (Line σ)) (total : Nat) (runs : List (Execution M A O)) :
    ClientAnswer M O → Prop where
  | refused (e : Failure) (hcheck : check m args = some e) (hruns : runs = []) :
      Explains remote Fits Arrives noService check client m args lines total runs
        ⟨m, e.1, (remote m).freshOuts⟩
  | noService (n : Nat) (hn : n < total) (hline : lines n = none) :
      Explains remote Fits Arrives noService check client m args lines total runs
        ⟨m, noService, (remote m).freshOuts⟩
  | unsent (n : Nat) (line : Line σ) (e : Failure) (hn : n < total) (hline : lines n = some line)
      (hunsent : (remote m).IsUnsent line args e) :
      Explains remote Fits Arrives noService check client m args lines total runs
        ⟨m, e.1, (remote m).freshOuts⟩
  | lost (n : Nat) (line : Line σ) (e : Failure) (ret : Int) (outs : O m) (hn : n < total)
      (hline : lines n = some line) (hlost : line.delivery = .lost e)
      (hlast : runs.getLast? = some ⟨client, m, args, ret, outs⟩) :
      Explains remote Fits Arrives noService check client m args lines total runs
        ⟨m, e.1, (remote m).freshOuts⟩
  | answered (ret : Int) (outs : O m) (hret : ret ≠ 0)
      (hlast : runs.getLast? = some ⟨client, m, args, ret, outs⟩) :
      Explains remote Fits Arrives noService check client m args lines total runs
        ⟨m, ret, (remote m).freshOuts⟩
  | garbled (e : Failure) (ret : Int) (outs outs' : O m)
      (hfail : (remote m).Garbles (Fits m) (Arrives m) ret outs e)
      (hlast : runs.getLast? = some ⟨client, m, args, ret, outs⟩) :
      Explains remote Fits Arrives noService check client m args lines total runs ⟨m, e.1, outs'⟩
  | received (outs outs' : O m) (harrives : Fits m outs → Arrives m outs ∧ outs' = outs)
      (hlast : runs.getLast? = some ⟨client, m, args, 0, outs⟩) :
      Explains remote Fits Arrives noService check client m args lines total runs ⟨m, 0, outs'⟩

/-- Before the next tries a client has caused no more final runs than replies were lost, and the
code of the try before them is explained. -/
structure Tried (remote : (m : M) → ParcelMethod σ (A m) (O m))
    (Fits Arrives : (m : M) → O m → Prop) (retryCodes : List Int) (noService : Int)
    (check : (m : M) → A m → Option Failure) (client : Nat) (m : M) (args : A m)
    (lines : Nat → Option (Line σ)) (total n : Nat) (code : Int)
    (runs : List (Execution M A O)) : Prop where
  own : AreOwn client m args runs
  final : finalRuns retryCodes runs + lostReplies lines n ≤ lostReplies lines total
  left : n ≤ total
  explained : n < total → Explains remote Fits Arrives noService check client m args lines total
    runs ⟨m, code, (remote m).freshOuts⟩

/-- All runs for a client are its own, one of them and one more for every lost reply at most is
final, and its answer is explained. -/
structure IsAnswered (remote : (m : M) → ParcelMethod σ (A m) (O m))
    (Fits Arrives : (m : M) → O m → Prop) (retryCodes : List Int) (noService : Int)
    (check : (m : M) → A m → Option Failure) (client : Nat) (m : M) (args : A m)
    (lines : Nat → Option (Line σ)) (total : Nat) (answer : ClientAnswer M O)
    (runs : List (Execution M A O)) : Prop where
  own : AreOwn client m args runs
  final : finalRuns retryCodes runs ≤ 1 + lostReplies lines total
  explained : Explains remote Fits Arrives noService check client m args lines total runs answer

variable {check : (m : M) → A m → Option Failure}
variable {lines : Nat → Option (Line σ)} {total n : Nat} {runs : List (Execution M A O)}

/-- One more run of the own call. -/
theorem AreOwn.append (h : AreOwn client m args runs) (ret : Int) (outs : O m) :
    AreOwn client m args (runs ++ [⟨client, m, args, ret, outs⟩]) := by
  intro e he
  rcases List.mem_append.mp he with he | he
  · exact h e he
  · exact ⟨ret, outs, List.mem_singleton.mp he⟩

/-- One more run makes one more final run at most. -/
theorem finalRuns_append_le (retryCodes : List Int) (runs : List (Execution M A O))
    (e : Execution M A O) :
    finalRuns retryCodes (runs ++ [e]) ≤ finalRuns retryCodes runs + 1 := by
  rw [finalRuns, List.countP_append]
  exact Nat.add_le_add_left List.countP_le_length _

/-- An answer to try again for is not a final one. -/
theorem finalRuns_append_of_mem {e : Execution M A O} (he : e.ret ∈ retryCodes) :
    finalRuns retryCodes (runs ++ [e]) = finalRuns retryCodes runs := by
  simp [finalRuns, he]

/-- More tries lose more replies. -/
theorem lostReplies_le_succ (lines : Nat → Option (Line σ)) (n : Nat) :
    lostReplies lines n ≤ lostReplies lines (n + 1) :=
  Nat.le_add_right _ _

/-- A lost reply counts. -/
theorem lostReplies_of_lost {line : Line σ} {e : Failure} (hline : lines n = some line)
    (hlost : line.delivery = .lost e) : lostReplies lines (n + 1) = lostReplies lines n + 1 := by
  obtain ⟨refusal, data, reply, delivery⟩ := line
  obtain rfl : delivery = .lost e := hlost
  rw [lostReplies, hline]

/-- A tried call is answered as its result explains. -/
theorem Tried.isAnswered {code : Int}
    (h : Tried remote Fits Arrives retryCodes noService check client m args lines total n code runs)
    {answer : ClientAnswer M O} (hexplained : Explains remote Fits Arrives noService check client m
      args lines total runs answer) :
    IsAnswered remote Fits Arrives retryCodes noService check client m args lines total answer
      runs := by
  refine ⟨h.own, ?_, hexplained⟩
  have hle := h.final
  omega

/-- The last run may be a final one. -/
theorem Tried.isAnswered_append {code : Int}
    (h : Tried remote Fits Arrives retryCodes noService check client m args lines total n code runs)
    {ret : Int} {outs : O m} {answer : ClientAnswer M O}
    (hexplained : Explains remote Fits Arrives noService check client m args lines total
      (runs ++ [⟨client, m, args, ret, outs⟩]) answer) :
    IsAnswered remote Fits Arrives retryCodes noService check client m args lines total answer
      (runs ++ [⟨client, m, args, ret, outs⟩]) := by
  refine ⟨h.own.append ret outs, ?_, hexplained⟩
  have hle := h.final
  have happend := finalRuns_append_le retryCodes runs ⟨client, m, args, ret, outs⟩
  omega

section Steps

variable {code ret : Int} {e : Failure} {line : Line σ}
  (h : Tried remote Fits Arrives retryCodes noService check client m args lines total (n + 1) code
    runs)
include h

/-- A try that was not sent caused no run. -/
theorem Tried.unsent (hline : lines n = some line)
    (hunsent : (remote m).IsUnsent line args e) :
    Tried remote Fits Arrives retryCodes noService check client m args lines total n e.1 runs := by
  have hle := h.final
  have hlost := lostReplies_le_succ lines n
  refine ⟨h.own, by omega, Nat.le_of_succ_le h.left, fun hn => ?_⟩
  exact .unsent n line e hn hline hunsent

/-- A run whose reply is lost is counted with the lost replies. -/
theorem Tried.lost (hline : lines n = some line) (hlost : line.delivery = .lost e) (outs : O m) :
    Tried remote Fits Arrives retryCodes noService check client m args lines total n e.1
      (runs ++ [⟨client, m, args, ret, outs⟩]) := by
  refine ⟨h.own.append ret outs, ?_, Nat.le_of_succ_le h.left, fun hn => ?_⟩
  · have hle := h.final
    rw [lostReplies_of_lost hline hlost] at hle
    have happend := finalRuns_append_le retryCodes runs ⟨client, m, args, ret, outs⟩
    omega
  · exact .lost n line e ret outs hn hline hlost List.getLast?_concat

/-- A run that is answered with a code to try again for is not a final one. -/
theorem Tried.answered (hret : ret ≠ 0) (hretried : ret ∈ retryCodes) (outs : O m) :
    Tried remote Fits Arrives retryCodes noService check client m args lines total n ret
      (runs ++ [⟨client, m, args, ret, outs⟩]) := by
  refine ⟨h.own.append ret outs, ?_, Nat.le_of_succ_le h.left, fun hn => ?_⟩
  · have hle := h.final
    have hlost := lostReplies_le_succ lines n
    rw [finalRuns_append_of_mem hretried]
    omega
  · exact .answered ret outs hret List.getLast?_concat

end Steps

/-- The retries of a client. -/
theorem retry_relies {E : Empty → Served τ M A O → Prop} (hp : p.IsFaithful holds)
    (hm : (remote m).Transmits p holds (Sends m) (Fits m) (Arrives m)) (hsends : Sends m args)
    (hfail : ∀ e, (remote m).CanFail e → e.1 ∉ retryCodes) (hzero : 0 ∉ retryCodes)
    (hlines : ∀ k line, lines k = some line → holds line.data [] ∧ holds line.reply [])
    (htotal : 0 < total) (n : Nat) {code : Int} :
    (retry p remote service retryCodes noService client m args lines n code
        (remote m).freshOuts).Relies (OthersStep remote service client)
      (ClientStep remote service client)
      (fun answer s => IsAnswered remote Fits Arrives retryCodes noService check client m args
        lines total answer (runsOf client s)) E
      fun s => Tried remote Fits Arrives retryCodes noService check client m args lines total n
        code (runsOf client s) := by
  induction n generalizing code with
  | zero => exact fun s hs => hs.isAnswered (hs.explained htotal)
  | succ n ih =>
    rw [retry]
    cases hline : lines n with
    | none => exact fun s hs => hs.isAnswered (.noService n hs.left hline)
    | some line =>
      intro s hs
      obtain ⟨hdata, hreply⟩ := hlines n line hline
      have houtcome : ParcelMethod.Outcome (remote m) (logged service client m) (Fits m)
          (Arrives m) args s line
          ((remote m).call p (logged service client m) line args (remote m).freshOuts s) :=
        ParcelMethod.call_outcome hp hm hsends hdata hreply
      have hstable (answer : ClientAnswer M O) :
          Stable (OthersStep remote service client) fun s => IsAnswered remote Fits Arrives
            retryCodes noService check client m args lines total answer (runsOf client s) :=
        stable_runsOf (IsAnswered remote Fits Arrives retryCodes noService check client m args
          lines total answer)
      -- The code of a try leads to the other tries or is the answer.
      have hnext (u : Served τ M A O) {e : Int} (htried : Tried remote Fits Arrives retryCodes
          noService check client m args lines total n e (runsOf client u)) :
          (if e ∈ retryCodes then
              retry p remote service retryCodes noService client m args lines n e
                (remote m).freshOuts
            else .ret ⟨m, e, (remote m).freshOuts⟩).ReliesFrom
            (OthersStep remote service client) (ClientStep remote service client)
            (fun answer s => IsAnswered remote Fits Arrives retryCodes noService check client m
              args lines total answer (runsOf client s)) E u := by
        refine Prog.Relies.reliesFrom ?_ (stable_runsOf (Tried remote Fits Arrives retryCodes
          noService check client m args lines total n e)) htried
        split
        · exact ih
        · exact fun s htried => htried.isAnswered (htried.explained hs.left)
      dsimp only
      generalize (remote m).call p (logged service client m) line args (remote m).freshOuts s = r
        at houtcome ⊢
      cases houtcome with
      | unsent e hunsent => exact ⟨.unsent, hnext s (hs.unsent hline hunsent)⟩
      | lost e hlost =>
        refine ⟨.run m args, hnext _ ?_⟩
        rw [runsOf_logged]
        exact hs.lost hline hlost _
      | answered hret =>
        refine ⟨.run m args, ?_⟩
        by_cases hmem : (service m args (remote m).freshOuts s.state).1 ∈ retryCodes
        · refine hnext _ ?_
          rw [runsOf_logged]
          exact hs.answered hret hmem _
        · have hfinal : (logged service client m args (remote m).freshOuts s).1 ∉ retryCodes :=
            hmem
          simp only [hfinal, if_false]
          refine Prog.reliesFrom_ret (hstable _) ?_
          rw [runsOf_logged]
          exact hs.isAnswered_append (.answered _ _ hret List.getLast?_concat)
      | garbled e outs hgarbled =>
        refine ⟨.run m args, ?_⟩
        simp only [hfail e hgarbled.canFail, if_false]
        refine Prog.reliesFrom_ret (hstable _) ?_
        rw [runsOf_logged]
        exact hs.isAnswered_append (.garbled e _ _ outs hgarbled List.getLast?_concat)
      | received outs hret hfits =>
        refine ⟨.run m args, ?_⟩
        simp only [hzero, if_false]
        refine Prog.reliesFrom_ret (hstable _) ?_
        rw [runsOf_logged]
        have hcode : (service m args (remote m).freshOuts s.state).1 = 0 := hret
        rw [hcode]
        exact hs.isAnswered_append (.received _ outs hfits List.getLast?_concat)

/-- A client with what becomes of its tries. -/
structure RemoteClient (σ M : Type) (A : M → Type) where
  method : M
  args : A method
  lines : Nat → Option (Line σ)

variable (p remote service retryCodes noService) in
/-- A client looks at its arguments when it has found a service, before the first try. -/
def request (check : (m : M) → A m → Option Failure) (tries : Nat) (client : Nat)
    (c : RemoteClient σ M A) : Prog Empty (Served τ M A O) (ClientAnswer M O) :=
  match check c.method c.args, c.lines (tries - 1) with
  | some e, some _ => .ret ⟨c.method, e.1, (remote c.method).freshOuts⟩
  | _, _ =>
    retry p remote service retryCodes noService client c.method c.args c.lines tries noService
      (remote c.method).freshOuts

variable (p remote service retryCodes noService) in
/-- Clients that have not begun. -/
def clientsPool (check : (m : M) → A m → Option Failure) (tries : Nat)
    (clients : List (RemoteClient σ M A)) (t : τ) :
    Pool Empty (Served τ M A O) (ClientAnswer M O) :=
  ⟨⟨t, []⟩, clients.mapIdx (request p remote service retryCodes noService check tries)⟩

variable {tries : Nat}

/-- A client's whole request: what it relies on, what its tries do, and what its answer says. -/
theorem request_relies {E : Empty → Served τ M A O → Prop} {c : RemoteClient σ M A}
    (hp : p.IsFaithful holds)
    (hm : (remote c.method).Transmits p holds (Sends c.method) (Fits c.method) (Arrives c.method))
    (hsends : Sends c.method c.args)
    (hfail : ∀ e, (remote c.method).CanFail e → e.1 ∉ retryCodes) (hzero : 0 ∉ retryCodes)
    (hlines : ∀ k line, c.lines k = some line → holds line.data [] ∧ holds line.reply [])
    (htries : 0 < tries) :
    (request p remote service retryCodes noService check tries client c).Relies
      (OthersStep remote service client) (ClientStep remote service client)
      (fun answer s => IsAnswered remote Fits Arrives retryCodes noService check client c.method
        c.args c.lines tries answer (runsOf client s)) E
      fun s => runsOf client s = [] := by
  have hbegin : ∀ s : Served τ M A O, runsOf client s = [] →
      Tried remote Fits Arrives retryCodes noService check client c.method c.args c.lines tries
        tries noService (runsOf client s) := by
    intro s hs
    rw [hs]
    refine ⟨fun e he => absurd he List.not_mem_nil, Nat.le_of_eq (Nat.zero_add _), le_rfl, ?_⟩
    exact fun hlt => absurd hlt (Nat.lt_irrefl _)
  rw [request]
  split
  · rename_i e _ hcheck _
    exact fun s hs => (hbegin s hs).isAnswered (.refused e hcheck hs)
  · exact (retry_relies hp hm hsends hfail hzero hlines htries tries).mono hbegin

/-- However the clients are interleaved, what was run is a run of the service, and the answer of
every client that has one is explained by what was run for it. -/
theorem clients_run {clients : List (RemoteClient σ M A)} (hp : p.IsFaithful holds)
    (hm : ∀ m, (remote m).Transmits p holds (Sends m) (Fits m) (Arrives m))
    (hfail : ∀ m e, (remote m).CanFail e → e.1 ∉ retryCodes) (hzero : 0 ∉ retryCodes)
    (hsends : ∀ c ∈ clients, Sends c.method c.args)
    (hlines : ∀ c ∈ clients, ∀ k line, c.lines k = some line →
      holds line.data [] ∧ holds line.reply []) (htries : 0 < tries) (t : τ)
    (schedule : List Nat) :
    let c := schedule.foldl Pool.schedule
      (clientsPool p remote service retryCodes noService check tries clients t)
    Replays remote service t c.shared.log c.shared.state ∧
      ∀ i client answer, clients[i]? = some client → c.threads[i]? = some (.ret answer) →
        IsAnswered remote Fits Arrives retryCodes noService check i client.method client.args
          client.lines tries answer (runsOf i c.shared) := by
  have hstart : (clientsPool p remote service retryCodes noService check tries clients t).Relies
      (OthersStep remote service) (ClientStep remote service)
      (fun i answer s => ∀ client, clients[i]? = some client →
        IsAnswered remote Fits Arrives retryCodes noService check i client.method client.args
          client.lines tries answer (runsOf i s)) fun _ _ _ => True := by
    intro i prog hprog
    change (clients.mapIdx _)[i]? = some prog at hprog
    rw [List.getElem?_mapIdx] at hprog
    obtain ⟨client, hclient, rfl⟩ := Option.map_eq_some_iff.mp hprog
    have hmem := List.mem_of_getElem? hclient
    refine ⟨fun s => runsOf i s = [], stable_runsOf (· = []), rfl, ?_⟩
    simp only [hclient, Option.some.injEq, forall_eq']
    exact request_relies hp (hm client.method) (hsends client hmem) (hfail client.method) hzero
      (hlines client hmem) htries
  refine ⟨hstart.invariant compatible_others (stable_replays t) .start schedule, ?_⟩
  intro i client answer hclient hanswer
  exact (hstart.run compatible_others schedule).of_ret hanswer client hclient

end Clients

/-! ## A parcel with room for everything -/

/-- A parcel that takes every write. -/
def Parcel.IsRoomy {σ : Type} (p : Parcel σ) : Prop :=
  ∀ (k : WireKind) (v : k.Val) (s : σ), (p.write k v s).isSome

/-- A roomy parcel takes every list of fields. -/
theorem Parcel.IsRoomy.writeFields {σ T : Type} {p : Parcel σ} (h : p.IsRoomy)
    (fields : List (WireField T)) (t : T) (s : σ) : (writeFields p fields t s).1 = true := by
  induction fields generalizing s with
  | nil => rfl
  | cons f fields ih =>
    obtain ⟨s', hs'⟩ := Option.isSome_iff_exists.mp (h f.kind (f.get t) s)
    simp only [Library.writeFields, hs']
    exact ih s'

/-- A parcel of typed primitives without an end. -/
def roomyParcel : Parcel (List Primitive) where
  write k v s := some (s ++ [⟨k, v⟩])
  read := (listParcel 0).read

theorem roomyParcel_isRoomy : roomyParcel.IsRoomy := fun _ _ _ => rfl

theorem roomyParcel_isFaithful : roomyParcel.IsFaithful fun s items => s = items where
  write := by
    rintro s s' items k v rfl h
    exact (Option.some.inj h).symm
  read := (listParcel_isFaithful 0).read

end Library
