import AwsKmsDemo.Session
import AwsKmsDemo.Refinement

/-!
# The sessions of the system

Every exchange of an enclave process with its broker is a session: when the process has connected,
it is in a session at its beginning (`start_in`), and whatever then happens in the system is a step
of the session or leaves it alone (`Session.In.step`), until the process drops the connection.
-/

namespace AwsKmsDemo

open Interaction Interaction.Program Stream Storage

/-! ## Sessions in a state of the system -/

/-- What a session is like in the system: process `n` has the connection and goes on by `f`. -/
structure Session.In (t : Session) (s : SocketState) (n : ℕ) (id : ConnectionId)
    (f : AppResult BrokerResponse → EnclaveSocketProgram Unit) : Prop where
  process : s.processes n = ⟨(onSocket t.client).bind f, some id⟩
  line : s.lines id = some ⟨some n, false, t.request, t.response, t.thread⟩
  /-- No other process has the connection. -/
  sole : ∀ m, (s.processes m).connection = some id → m = n

/-- Everything may happen on a connection. -/
def Anything (_ : Prop) (_ _ : Channel) (o : SocketOp) (_ : o.Ans) : Prop := True

variable {crates : Crates} {brokers : Brokers} {s s' : SocketState} {t : Session} {n : ℕ}
  {id : ConnectionId} {f : AppResult BrokerResponse → EnclaveSocketProgram Unit}

/-- A step that changes neither the process nor the connection leaves the session alone. -/
theorem Session.In.frame (h : t.In s n id f) (hprocess : s'.processes n = s.processes n)
    (hline : s'.lines id = s.lines id)
    (hsole : ∀ m, (s'.processes m).connection = some id → (s.processes m).connection = some id) :
    t.In s' n id f :=
  ⟨hprocess.trans h.process, hline.trans h.line, fun m hm => h.sole m (hsole m hm)⟩

/-- The process of a session that is not at its end is about to use its connection. -/
theorem Session.In.op (h : t.In s n id f) (hopen : ¬ AtEnd t.client) :
    ∃ (o : SocketOp) (k : o.Ans → SocketProgram AppError (AppResult BrokerResponse)),
      t.client = .op o k ∧
      s.processes n = ⟨.op (.socket o) fun a => (onSocket (k a)).bind f, some id⟩ := by
  cases hclient : t.client with
  | ret r =>
    rw [hclient] at hopen
    exact absurd trivial hopen
  | fail e =>
    rw [hclient] at hopen
    exact absurd trivial hopen
  | op o k =>
    refine ⟨o, k, rfl, ?_⟩
    rw [h.process, hclient]
    rfl

/-- A process that takes a step of its own is not in the session. -/
theorem Session.In.ne_of_own (h : t.In s n id f) (hopen : ¬ AtEnd t.client) {m : ℕ} {o : EnclaveOp}
    {k : o.Ans → EnclaveSocketProgram Unit} {connection : Option ConnectionId}
    (hm : s.processes m = ⟨.op (.own o) k, connection⟩) : m ≠ n := by
  rintro rfl
  obtain ⟨o', k', _, hprocess⟩ := h.op hopen
  rw [hm] at hprocess
  cases hprocess

/-- Replacing another process without that connection leaves the session alone. -/
theorem Session.In.setProcess (h : t.In s n id f) {m : ℕ} {process : SocketProcess} (hm : m ≠ n)
    (hconnection : process.connection ≠ some id) : t.In (s.setProcess m process) n id f := by
  refine h.frame (SocketState.setProcess_of_ne s process hm.symm) rfl fun m' hm' => ?_
  by_cases hsame : m' = m
  · subst hsame
    rw [SocketState.setProcess_self] at hm'
    exact absurd hm' hconnection
  · rwa [SocketState.setProcess_of_ne s process hsame] at hm'

/-- Replacing another connection leaves the session alone. -/
theorem Session.In.setLine (h : t.In s n id f) {id' : ConnectionId} {line : Line} (hid : id' ≠ id) :
    t.In (s.setLine id' line) n id f :=
  h.frame rfl (SocketState.setLine_of_ne s line hid.symm) fun _ => fun hm => hm

/-- Whatever happens in the system, in a session it is a step of the session or nothing at all. -/
theorem Session.In.step (h : t.In s n id f) (hopen : ¬ AtEnd t.client)
    (hstep : brokers.SocketStep crates s s') :
    t.In s' n id f ∨ ∃ t', t.Step Anything t' ∧ t'.In s' n id f := by
  cases hstep with
  | @act m o k connection a ho hm =>
    have hne := h.ne_of_own hopen hm
    refine .inl (h.setProcess hne fun hconnection => hne (h.sole m ?_))
    rw [hm]
    exact hconnection
  | @connect m endpoint k connection id' hid' hm =>
    have hne := h.ne_of_own hopen hm
    have hid : id' ≠ id := by
      rintro rfl
      rw [h.line] at hid'
      cases hid'
    exact .inl ((h.setLine hid).setProcess hne fun hconnection => hid (Option.some.inj hconnection))
  | @connectFails m endpoint k connection message hm =>
    have hne := h.ne_of_own hopen hm
    refine .inl (h.setProcess hne fun hconnection => hne (h.sole m ?_))
    rw [hm]
    exact hconnection
  | @move m id' line o k a request response hm hid' hopen' hmove =>
    by_cases hsame : id' = id
    · subst hsame
      obtain rfl : m = n := h.sole m (by rw [hm])
      obtain ⟨o', k', hclient, hprocess⟩ := h.op hopen
      rw [hm] at hprocess
      cases hprocess
      obtain rfl := Option.some.inj (hid'.symm.trans h.line)
      refine .inr ⟨_, .client hclient hmove trivial, ?_, ?_, fun m' hm' => ?_⟩
      · exact SocketState.setProcess_self ..
      · exact SocketState.setLine_self ..
      · by_contra hne
        rw [SocketState.setProcess_of_ne _ _ hne] at hm'
        exact hne (h.sole m' hm')
    · have hne : m ≠ n := by
        rintro rfl
        rw [h.process] at hm
        exact hsame (Option.some.inj (congrArg SocketProcess.connection hm)).symm
      exact .inl ((h.setLine hsame).setProcess hne fun hconnection =>
        hsame (Option.some.inj hconnection))
  | @drop m id' line k hm hid' =>
    have hne : m ≠ n := by
      rintro rfl
      obtain ⟨o', k', _, hprocess⟩ := h.op hopen
      rw [hm] at hprocess
      cases hprocess
    have hsame : id' ≠ id := by
      rintro rfl
      exact hne (h.sole m (by rw [hm]))
    exact .inl ((h.setLine hsame).setProcess hne fun hconnection => by cases hconnection)
  | arrive id' hforeign hid' =>
    refine .inl (h.setLine ?_)
    rintro rfl
    rw [h.line] at hid'
    cases hid'
  | @bring id' line bytes hforeign hid' hprocess hopen' =>
    refine .inl (h.setLine ?_)
    rintro rfl
    obtain rfl := Option.some.inj (hid'.symm.trans h.line)
    cases hprocess
  | @serve id' line o k a request response hid' hthread hmove =>
    by_cases hsame : id' = id
    · subst hsame
      obtain rfl := Option.some.inj (hid'.symm.trans h.line)
      exact .inr ⟨_, .serve hthread hmove trivial, h.process, SocketState.setLine_self .., h.sole⟩
    · exact .inl (h.setLine hsame)
  | @perform id' line o k a choice hid' hthread ha =>
    by_cases hsame : id' = id
    · subst hsame
      obtain rfl := Option.some.inj (hid'.symm.trans h.line)
      exact .inr ⟨_, .perform a hthread, h.process, SocketState.setLine_self .., h.sole⟩
    · exact .inl (h.frame rfl (SocketState.setLine_of_ne _ _ (Ne.symm hsame)) fun _ hm => hm)
  | @finish id' line k hid' hthread =>
    by_cases hsame : id' = id
    · subst hsame
      obtain rfl := Option.some.inj (hid'.symm.trans h.line)
      exact .inr ⟨_, .finish hthread, h.process, SocketState.setLine_self .., h.sole⟩
    · exact .inl (h.setLine hsame)
  | deliver hput => exact .inl (h.frame rfl rfl fun _ hm => hm)

/-- What happens to a session in a run is a run of the session. -/
theorem Session.In.run (h : t.In s n id f) (hlater : brokers.SocketLater crates s s') :
    ∃ t', Relation.ReflTransGen (Session.Step Anything) t t' ∧
    (t'.In s' n id f ∨ AtEnd t'.client) := by
  induction hlater with
  | refl => exact ⟨t, .refl, .inl h⟩
  | tail _ hstep ih =>
    obtain ⟨t', hrun, hin⟩ := ih
    by_cases hend : AtEnd t'.client
    · exact ⟨t', hrun, .inr hend⟩
    · rcases (hin.resolve_right hend).step hend hstep with hin' | ⟨t'', hstep', hin'⟩
      · exact ⟨t', hrun, .inl hin'⟩
      · exact ⟨t'', hrun.tail hstep', .inl hin'⟩

/-! ## How a session begins -/

/-- The connections of the processes have been made. -/
def SocketState.Connected (s : SocketState) : Prop :=
  ∀ m id, (s.processes m).connection = some id → (s.lines id).isSome

/-- A connection that was made stays. -/
theorem SocketState.isSome_setLine {id' : ConnectionId} {line : Line} (h : (s.lines id).isSome) :
    ((s.setLine id' line).lines id).isSome := by
  by_cases hsame : id = id'
  · subst hsame
    rw [SocketState.setLine_self]
    rfl
  · rwa [SocketState.setLine_of_ne s line hsame]

/-- A line that is set takes no line from a process. -/
theorem SocketState.Connected.setLine (h : s.Connected) (id' : ConnectionId) (line : Line) :
    (s.setLine id' line).Connected :=
  fun m id hm => SocketState.isSome_setLine (h m id hm)

/-- A process that is set has to be on a line that is there. -/
theorem SocketState.Connected.setProcess (h : s.Connected) {m : ℕ} {process : SocketProcess}
    (hprocess : ∀ id, process.connection = some id → (s.lines id).isSome) :
    (s.setProcess m process).Connected := by
  intro m' id hm'
  by_cases hsame : m' = m
  · subst hsame
    rw [SocketState.setProcess_self] at hm'
    exact hprocess id hm'
  · rw [SocketState.setProcess_of_ne _ _ hsame] at hm'
    exact h m' id hm'

/-- In a step, no line of a process disappears. -/
theorem SocketState.Connected.step (h : s.Connected) (hstep : brokers.SocketStep crates s s') :
    s'.Connected := by
  cases hstep with
  | @act m o k connection a ho hm =>
    exact h.setProcess fun id hid => h m id (by rw [hm]; exact hid)
  | connect id' hid' hm =>
    refine (h.setLine _ _).setProcess fun id hid => ?_
    obtain rfl := Option.some.inj hid
    rw [SocketState.setLine_self]
    rfl
  | @connectFails m endpoint k connection message hm =>
    exact h.setProcess fun id hid => h m id (by rw [hm]; exact hid)
  | move hm hid' hopen hmove =>
    refine (h.setLine _ _).setProcess fun id hid => ?_
    obtain rfl := Option.some.inj hid
    rw [SocketState.setLine_self]
    rfl
  | drop hm hid' => exact (h.setLine _ _).setProcess fun id hid => by cases hid
  | arrive id' hforeign hid' => exact h.setLine _ _
  | bring bytes hforeign hid' hprocess hopen => exact h.setLine _ _
  | serve hid' hthread hmove => exact h.setLine _ _
  | @perform id' line o k a choice hid' hthread ha =>
    exact fun m id hm => SocketState.isSome_setLine (h m id hm)
  | finish hid' hthread => exact h.setLine _ _
  | deliver hput => exact h

/-- In every reachable state, the line of a process is there. -/
theorem Brokers.SocketReaches.connected {store₀ : S3Store}
    (h : brokers.SocketReaches crates store₀ s) : s.Connected := by
  induction h with
  | refl => exact fun m id hm => by cases hm
  | tail _ hstep ih => exact ih.step hstep

/-- A process that connects to send a request is in a session at its beginning. -/
theorem start_in (brokers : Brokers) (n : ℕ) (hconnected : s.Connected) (hid : s.lines id = none)
    {endpoint : Endpoint} {request : BrokerRequest} {g : BrokerResponse → EnclaveSocketProgram Unit}
    {k : Except String Unit → EnclaveSocketProgram Unit}
    (hk : (Sockets.requestBroker crates endpoint request).bind g =
      .op (.own (.connect endpoint)) k) :
    ∃ f, (Session.start crates (brokers.config id) id.peerCid request).In
      ((s.setLine id (brokers.newLine crates (some n) id)).setProcess n
        ⟨k (.ok ()), some id⟩) n id f := by
  obtain ⟨f, hf⟩ : ∃ f, k (.ok ()) =
      (onSocket (Session.start crates (brokers.config id) id.peerCid request).client).bind f := by
    unfold Sockets.requestBroker at hk
    cases hk
    show ∃ f, Program.bind (Program.bind (onSocket _) _) g = _
    exact ⟨_, Program.bind_assoc _ _ _⟩
  refine ⟨f, ?_, SocketState.setLine_self .., fun m hm => ?_⟩
  · rw [SocketState.setProcess_self, hf]
  · -- The connection is new, so that nobody else has it.
    by_contra hne
    rw [SocketState.setProcess_of_ne _ _ hne] at hm
    have hsome := hconnected m id hm
    rw [hid] at hsome
    cases hsome

/-- Requests on sockets come to their end. A process that is about to send a request that fits may
connect, and is then in a session at its beginning. Whatever happens in the system from then on,
happens to it as a run of that session. And a session on a connection without faults ends, however
few bytes its channels hold and in whatever order its two ends take their turns: the thread does
what it does when it is given the request as a whole, and the process hears just what the thread
says, or the end of the stream if it says nothing. -/
theorem requests_end {store₀ : S3Store} {endpoint : Endpoint} {request : BrokerRequest}
    {g : BrokerResponse → EnclaveSocketProgram Unit}
    {connection : Option ConnectionId} {capacity : ℕ}
    (hreach : brokers.SocketReaches crates store₀ s) (hid : s.lines id = none)
    (hn : s.processes n = ⟨(Sockets.requestBroker crates endpoint request).bind g, connection⟩)
    (hfits : Fits request) (hcap : 0 < capacity) :
    ∃ (s₁ : SocketState) (f : AppResult BrokerResponse → EnclaveSocketProgram Unit),
      brokers.SocketStep crates s s₁ ∧
      (Session.start crates (brokers.config id) id.peerCid request).In s₁ n id f ∧
      (∀ s₂, brokers.SocketLater crates s₁ s₂ → ∃ t, Relation.ReflTransGen (Session.Step Anything)
        (Session.start crates (brokers.config id) id.peerCid request) t ∧
          (t.In s₂ n id f ∨ AtEnd t.client)) ∧
      Eventually (Session.Step (Flawless capacity))
        (Session.Over crates (brokers.config id) id.peerCid request)
        (Session.start crates (brokers.config id) id.peerCid request) := by
  obtain ⟨k, hk⟩ : ∃ k, (Sockets.requestBroker crates endpoint request).bind g =
      .op (.own (.connect endpoint)) k := ⟨_, rfl⟩
  rw [hk] at hn
  obtain ⟨f, hin⟩ := start_in brokers n hreach.connected hid hk
  exact ⟨_, f, .connect id hid hn, hin, fun s₂ hlater => hin.run hlater, session_ends hfits hcap⟩

/-- A process asks for the settings, byte by byte. -/
theorem requests_end_deployment : ∃ s : SocketState,
    deployedBrokers.SocketReaches reference emptyStore s ∧
    (∃ s₁ f, deployedBrokers.SocketStep reference s s₁ ∧
      (Session.start reference (deployedBrokers.config ⟨none, 0⟩) none .getSettings).In
        s₁ 0 ⟨none, 0⟩ f) ∧
    Eventually (Session.Step (Flawless 1))
      (Session.Over reference (deployedBrokers.config ⟨none, 0⟩) none .getSettings)
      (Session.start reference (deployedBrokers.config ⟨none, 0⟩) none .getSettings) := by
  have hfits : Fits BrokerRequest.getSettings := by
    unfold Fits
    decide +kernel
  obtain ⟨s, g, hreach, hn, hid⟩ := exists_asking reference deployedBrokers emptyStore
  obtain ⟨s₁, f, hstep, hin, _, hends⟩ := requests_end hreach hid hn hfits Nat.one_pos
  exact ⟨s, hreach, ⟨s₁, f, hstep, hin⟩, hends⟩

end AwsKmsDemo
