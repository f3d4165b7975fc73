import Mathlib.Logic.Relation
import AwsKmsDemo.BrokerRuns
import AwsKmsDemo.Delivery
import AwsKmsDemo.Initialize

/-!
# Runs of initialization against brokers and S3

Any number of runs of `initialize_key_material`, the brokers that they talk to, and the S3 store
behind the brokers, as one system. Its steps interleave in any order. A run may stop anywhere, an
operation other than an exchange may be answered in any way, a connection may be cut on its way to
the broker or back, and an answer may be lost after the request took effect.
-/

namespace AwsKmsDemo

open Interaction Interaction.Program Stream Storage

/-! ## The system -/

/-- The parameters of one run of `initialize_key_material`. -/
structure InitRun where
  s3Client : BrokerS3Client
  kmsClient : KmsDataKeyClient
  settings : ParentSettings

/-- The program of a run. -/
def InitRun.program (crates : Crates) (run : InitRun) : EnclaveProgram RestoredKeyPair :=
  initializeKeyMaterial crates run.s3Client run.kmsClient run.settings

/-- The frames that a run sends are those of requests, and it neither reads the environment nor
serves. -/
theorem InitRun.uses {crates : Crates} {run : InitRun} : (run.program crates).Uses Initializes :=
  uses_initializeKeyMaterial

/-- How far a run has come. -/
structure RunState where
  /-- What has happened to it. -/
  trace : List EnclaveEvent
  /-- What is left of it. -/
  program : EnclaveProgram RestoredKeyPair
  /-- The connection on which it waits for an answer. -/
  pending : Option ConnectionId

/-- The state of the runs, the brokers and S3. -/
structure SystemState where
  broker : BrokerState
  runs : ℕ → RunState

/-- The thread of a connection to the broker that is responsible for it. -/
def brokersThread (crates : Crates) (configs : ConnectionId → BrokerConfig) (id : ConnectionId)
    (received : Reader) : BrokerProgram Bytes :=
  serveConnection crates (configs id) id.peerCid received

/-- Whether an operation is an exchange with a broker. -/
def EnclaveOp.IsExchange : EnclaveOp → Prop
  | .exchange _ _ => True
  | _ => False

/-- What a run may make of the connection on which it waits: it reads the beginning of what was
written so far, or nothing but an error. -/
def Replies (broker : BrokerState) (id : ConnectionId) : Except String Reader → Prop
  | .ok stream => stream.bytes <+: (broker.written id).getD []
  | .error _ => True

/-- Replace the state of a run. -/
def setRun (runs : ℕ → RunState) (n : ℕ) (run : RunState) : ℕ → RunState :=
  fun n' => if n' = n then run else runs n'

/-- The state of the run that was set. -/
@[simp] theorem setRun_self (runs : ℕ → RunState) (n : ℕ) (run : RunState) :
    setRun runs n run n = run :=
  if_pos rfl

/-- The other runs stay as they are. -/
theorem setRun_of_ne (runs : ℕ → RunState) {n n' : ℕ} (run : RunState) (h : n' ≠ n) :
    setRun runs n run n' = runs n' :=
  if_neg h

section System

variable (crates : Crates) (configs : ConnectionId → BrokerConfig)

/-- The steps of the system. -/
inductive SystemStep : SystemState → SystemState → Prop where
  /-- A run performs an operation other than an exchange, with any answer. -/
  | act {s : SystemState} (n : ℕ) {tr : List EnclaveEvent} {o : EnclaveOp}
      {k : o.Ans → EnclaveProgram RestoredKeyPair} (a : o.Ans) (ho : ¬ o.IsExchange)
      (hrun : s.runs n = ⟨tr, .op o k, none⟩) :
      SystemStep s { s with runs := setRun s.runs n ⟨tr ++ [⟨o, a⟩], k a, none⟩ }
  /-- A run sends a frame, of which the beginning reaches the broker. -/
  | send {s : SystemState} (n : ℕ) {tr : List EnclaveEvent} {endpoint : Endpoint} {frame : Bytes}
      {k : Except String Reader → EnclaveProgram RestoredKeyPair} (id : ConnectionId)
      (received : Reader) {broker : BrokerState}
      (hrun : s.runs n = ⟨tr, .op (.exchange endpoint frame) k, none⟩)
      (hcut : received.bytes <+: frame)
      (haccept : BrokerStep (brokersThread crates configs) s.broker (.accept id received) broker) :
      SystemStep s
        { broker := broker
          runs := setRun s.runs n ⟨tr, .op (.exchange endpoint frame) k, some id⟩ }
  /-- A run reads an answer, or gives up waiting. -/
  | reply {s : SystemState} (n : ℕ) {tr : List EnclaveEvent} {endpoint : Endpoint} {frame : Bytes}
      {k : Except String Reader → EnclaveProgram RestoredKeyPair} {id : ConnectionId}
      (a : Except String Reader)
      (hrun : s.runs n = ⟨tr, .op (.exchange endpoint frame) k, some id⟩)
      (ha : Replies s.broker id a) :
      SystemStep s
        { s with runs := setRun s.runs n ⟨tr ++ [⟨.exchange endpoint frame, a⟩], k a, none⟩ }
  /-- A thread of a broker performs its next operation. -/
  | perform {s : SystemState} (id : ConnectionId) (choice : Choice) {broker : BrokerState}
      (hperform : BrokerStep (brokersThread crates configs) s.broker (.perform id choice) broker) :
      SystemStep s { s with broker := broker }
  /-- A request to write that had failed takes effect. -/
  | deliver {s : SystemState} (put : PutRequest) {broker : BrokerState}
      (hdeliver : BrokerStep (brokersThread crates configs) s.broker (.deliver put) broker) :
      SystemStep s { s with broker := broker }

variable (inits : ℕ → InitRun)

/-- The start of the system: no run has done anything yet. -/
def SystemState.start (store₀ : S3Store) : SystemState where
  broker := .start store₀
  runs := fun n => ⟨[], (inits n).program crates, none⟩

/-- The states that the system can reach from a store. -/
def Reachable (store₀ : S3Store) (s : SystemState) : Prop :=
  Relation.ReflTransGen (SystemStep crates configs) (.start crates inits store₀) s

end System

/-! ## What holds in every state -/

variable {crates : Crates} {configs : ConnectionId → BrokerConfig} {inits : ℕ → InitRun}
  {store₀ : S3Store} {s t : SystemState}

/-- What a response tells about the store. -/
def Tells (store : S3Store) (request : BrokerRequest) : BrokerResponse → Prop
  | .object (some body) => ∃ bucket key, request = .loadObject bucket key ∧
      store.object (bucket, key) = some body
  | .saved => ∃ bucket key body, request = .saveObjectIfAbsent bucket key body ∧
      store.object (bucket, key) = some body
  | _ => True

/-- What an answer to an exchange tells is true. -/
def Truthful (crates : Crates) (store : S3Store) : EnclaveEvent → Prop
  | ⟨.exchange _ frame, .ok stream⟩ => ∀ request response, frame = frameOf (toVec request) →
      receiveResponse crates stream = .ok response → Tells store request response
  | _ => True

/-- What a response tells about a store holds of every later store. -/
theorem Tells.mono {store store' : S3Store} {request : BrokerRequest} {response : BrokerResponse}
    (h : Tells store request response) (hle : store ≤ store') : Tells store' request response := by
  match response, h with
  | .object (some body), ⟨bucket, key, hrequest, hobject⟩ =>
    exact ⟨bucket, key, hrequest, Store.object_of_le hle hobject⟩
  | .saved, ⟨bucket, key, body, hrequest, hobject⟩ =>
    exact ⟨bucket, key, body, hrequest, Store.object_of_le hle hobject⟩
  | .object none, _ => trivial
  | .settings _, _ => trivial
  | .awsCredentials _, _ => trivial
  | .error _, _ => trivial

/-- What was true of a store is true of every later store. -/
theorem Truthful.mono {store store' : S3Store} {e : EnclaveEvent} (h : Truthful crates store e)
    (hle : store ≤ store') : Truthful crates store' e := by
  unfold Truthful at h ⊢
  split at h
  · exact fun request response hframe hreceive => (h request response hframe hreceive).mono hle
  · trivial

/-- What the broker vouches for is true. -/
theorem tells_of_vouches {store : S3Store} {request : BrokerRequest} {response : BrokerResponse}
    {tr : List BrokerEvent} (h : Vouches request tr response) (htr : ∀ e ∈ tr, Holds store e) :
    Tells store request response := by
  match response, h with
  | .object (some body), ⟨bucket, key, hrequest, hmem⟩ =>
    exact ⟨bucket, key, hrequest, htr _ hmem⟩
  | .saved, ⟨bucket, key, body, hrequest, hmem⟩ =>
    exact ⟨bucket, key, body, hrequest, hmem.elim (htr _) (htr _)⟩
  | .object none, _ => trivial
  | .settings _, _ => trivial
  | .awsCredentials _, _ => trivial
  | .error _, _ => trivial

/-- The text of a request determines it. -/
theorem toVec_injective (hlaw : crates.Lawful) {request request' : BrokerRequest}
    (h : toVec request = toVec request') : request = request' := by
  have heq := hlaw.requestFromSlice request
  rw [h, hlaw.requestFromSlice] at heq
  exact (Except.ok.inj heq).symm

/-- In the state `s`, a run has come to, or past, the exchange of a frame. -/
def Exchanges (crates : Crates) (inits : ℕ → InitRun) (s : SystemState) (n : ℕ) (frame : Bytes) :
    Prop :=
  ∃ endpoint tr, tr <+: (s.runs n).trace ∧
    ((inits n).program crates).Issues tr (.exchange endpoint frame)

/-- What holds of a run: it is somewhere in its program, what it was told is true, and a connection
on which it waits carries the beginning of its frame. -/
structure RunInvariant (crates : Crates) (init : InitRun) (broker : BrokerState) (run : RunState) :
    Prop where
  steps : (init.program crates).Steps run.trace run.program
  truthful : ∀ e ∈ run.trace, Truthful crates broker.store e
  pending : ∀ id, run.pending = some id → ∃ connection endpoint frame k,
    broker.connections id = some connection ∧ run.program = .op (.exchange endpoint frame) k ∧
      connection.received.bytes <+: frame

/-- What holds in every state that is reached from a store. -/
structure SystemInvariant (crates : Crates) (configs : ConnectionId → BrokerConfig)
    (inits : ℕ → InitRun) (store₀ : S3Store) (s : SystemState) : Prop where
  /-- What holds of the brokers alone. -/
  broker : BrokerInvariant (brokersThread crates configs) store₀ s.broker
  /-- What holds of every run. -/
  runs : ∀ n, RunInvariant crates (inits n) s.broker (s.runs n)
  /-- Every connection carries the beginning of a frame of a run. -/
  connections : ∀ id connection, s.broker.connections id = some connection →
    ∃ n frame, Exchanges crates inits s n frame ∧ connection.received.bytes <+: frame

/-- A connection whose bytes are no request is written an error. -/
theorem serveConnection_of_error {config : BrokerConfig} {peerCid : Option UInt32}
    {received : Reader} {e : AppError} (h : receivedRequest crates received = .error e) :
    serveConnection crates config peerCid received =
      .ret (writtenResponse (.error e.message)) := by
  unfold serveConnection
  rw [h]
  rfl

/-- What a run reads from a connection is what the thread of the connection has to tell about its
request. -/
theorem tells_of_written (hlaw : crates.Lawful)
    (hbroker : BrokerInvariant (brokersThread crates configs) store₀ s.broker) {id : ConnectionId}
    {connection : Connection} (hid : s.broker.connections id = some connection)
    {request : BrokerRequest} (hfits : Fits request)
    (hcut : connection.received.bytes <+: frameOf (toVec request)) {stream : Reader}
    (hstream : stream.bytes <+: (s.broker.written id).getD []) {response : BrokerResponse}
    (hreceive : receiveResponse crates stream = .ok response) :
    Tells s.broker.store request response := by
  have hread := receiveResponse_eq_ok hreceive
  -- A thread that has written nothing gives the run too little for a header.
  cases hwritten : s.broker.written id with
  | none =>
    rw [hwritten, Option.getD_none, List.prefix_nil] at hstream
    have hshort : stream.bytes.length < 4 := by rw [hstream]; decide
    rw [readJsonFrame_of_short_header _ hshort] at hread
    cases hread
  | some bytes =>
    rw [hwritten, Option.getD_some] at hstream
    have hprogram : connection.program = .ret bytes := by
      unfold BrokerState.written at hwritten
      rw [hid, Option.bind_some] at hwritten
      unfold Connection.written at hwritten
      split at hwritten
      · rename_i hret
        rw [hret, Option.some.inj hwritten]
      · cases hwritten
    -- The thread is finished, and what it was told on the way still holds.
    obtain ⟨tr, hsteps, hholds⟩ := hbroker.threads id connection hid
    rw [hprogram] at hsteps
    cases hreceived : receivedRequest crates connection.received with
    | error e =>
      unfold brokersThread at hsteps
      rw [serveConnection_of_error hreceived] at hsteps
      obtain ⟨_, hret⟩ := steps_ret.mp hsteps
      injection hret with hret
      subst hret
      rw [readJsonFrame_of_prefix_writtenResponse hlaw hstream hread]
      trivial
    | ok request' =>
      obtain rfl := receivedRequest_of_prefix hlaw hfits hcut hreceived
      obtain ⟨response', rfl, hvouches⟩ := yields_serveConnection hreceived hsteps
      rw [readJsonFrame_of_prefix_writtenResponse hlaw hstream hread]
      exact tells_of_vouches hvouches hholds

/-- What the broker replies to a run is true. -/
theorem RunInvariant.truthful_reply (hlaw : crates.Lawful)
    (hbroker : BrokerInvariant (brokersThread crates configs) store₀ s.broker) {init : InitRun}
    {tr : List EnclaveEvent} {endpoint : Endpoint} {frame : Bytes}
    {k : Except String Reader → EnclaveProgram RestoredKeyPair} {id : ConnectionId}
    (hrun : RunInvariant crates init s.broker ⟨tr, .op (.exchange endpoint frame) k, some id⟩)
    {a : Except String Reader} (ha : Replies s.broker id a) :
    Truthful crates s.broker.store ⟨.exchange endpoint frame, a⟩ := by
  cases a with
  | error message => trivial
  | ok stream =>
    intro request response hframe hreceive
    obtain ⟨connection, _, _, _, hid, hprogram, hcut⟩ := hrun.pending id rfl
    injection hprogram with ho _
    injection ho with _ hsame
    subst hsame
    have hissues : (init.program crates).Issues tr (.exchange endpoint frame) := ⟨k, hrun.steps⟩
    -- The frame on the connection is that of the run's own request.
    obtain ⟨request', hfits, hframe'⟩ := InitRun.uses.of_issues hissues
    obtain rfl : request' = request :=
      toVec_injective hlaw (frameOf_injective (hframe'.symm.trans hframe))
    rw [hframe] at hcut
    exact tells_of_written hlaw hbroker hid hfits hcut ha hreceive

/-- A run that was answered truthfully. -/
theorem RunInvariant.answer {init : InitRun} {broker : BrokerState} {tr : List EnclaveEvent}
    {o : EnclaveOp} {k : o.Ans → EnclaveProgram RestoredKeyPair} {waits : Option ConnectionId}
    (hrun : RunInvariant crates init broker ⟨tr, .op o k, waits⟩) {a : o.Ans}
    (ha : Truthful crates broker.store ⟨o, a⟩) :
    RunInvariant crates init broker ⟨tr ++ [⟨o, a⟩], k a, none⟩ where
  steps := hrun.steps.trans (.step (.refl _))
  truthful e he := by
    rcases List.mem_append.mp he with he | he
    · exact hrun.truthful e he
    · rw [List.mem_singleton.mp he]
      exact ha
  pending id hid := by cases hid

/-- What holds of a run goes on to hold when the brokers take a step. -/
theorem RunInvariant.of_brokerStep {init : InitRun} {broker broker' : BrokerState} {run : RunState}
    {l : BrokerLabel} (hrun : RunInvariant crates init broker run)
    (hstep : BrokerStep (brokersThread crates configs) broker l broker') :
    RunInvariant crates init broker' run where
  steps := hrun.steps
  truthful e he := (hrun.truthful e he).mono hstep.le
  pending id hid := by
    obtain ⟨connection, endpoint, frame, k, hconnection, hprogram, hcut⟩ := hrun.pending id hid
    obtain ⟨connection', hconnection', hreceived⟩ := hstep.received hconnection
    exact ⟨connection', endpoint, frame, k, hconnection', hprogram, by rw [hreceived]; exact hcut⟩

/-! ## Steps -/

/-- No step takes anything from the store. -/
theorem SystemStep.le (h : SystemStep crates configs s t) : s.broker.store ≤ t.broker.store := by
  cases h with
  | act => exact le_rfl
  | send n id received hrun hcut haccept => exact haccept.le
  | reply => exact le_rfl
  | perform id choice hperform => exact hperform.le
  | deliver put hdeliver => exact hdeliver.le

/-- What has happened to a run stays. -/
theorem SystemStep.trace (h : SystemStep crates configs s t) (n : ℕ) :
    (s.runs n).trace <+: (t.runs n).trace := by
  have hset : ∀ {n' : ℕ} {run : RunState}, (s.runs n').trace <+: run.trace →
      (s.runs n).trace <+: (setRun s.runs n' run n).trace := by
    intro n' run hle
    by_cases heq : n = n'
    · subst heq
      rwa [setRun_self]
    · exact ⟨[], by rw [List.append_nil, setRun_of_ne _ _ heq]⟩
  cases h with
  | act n' a ho hrun => exact hset (by rw [hrun]; exact List.prefix_append _ _)
  | send n' id received hrun hcut haccept => exact hset ⟨[], by rw [hrun, List.append_nil]⟩
  | reply n' a hrun ha => exact hset (by rw [hrun]; exact List.prefix_append _ _)
  | perform id choice hperform => exact List.prefix_rfl
  | deliver put hdeliver => exact List.prefix_rfl

/-- A run that has exchanged a frame keeps having exchanged it. -/
theorem Exchanges.step {n : ℕ} {frame : Bytes} (h : Exchanges crates inits s n frame)
    (hstep : SystemStep crates configs s t) : Exchanges crates inits t n frame := by
  obtain ⟨endpoint, tr, htr, hissues⟩ := h
  exact ⟨endpoint, tr, htr.trans (hstep.trace n), hissues⟩

/-- The invariant holds at the start. -/
theorem systemInvariant_start :
    SystemInvariant crates configs inits store₀ (.start crates inits store₀) where
  broker := brokerInvariant_start store₀
  runs n := ⟨.refl _, fun e he => absurd he List.not_mem_nil, fun id h => by cases h⟩
  connections id connection h := by cases h

/-- What holds of every run still does when one of them is replaced. -/
theorem forall_setRun {P : ℕ → RunState → Prop} {runs : ℕ → RunState}
    (h : ∀ n, P n (runs n)) {n : ℕ}
    {run : RunState} (hrun : P n run) : ∀ n', P n' (setRun runs n run n') := by
  intro n'
  by_cases heq : n' = n
  · subst heq
    rw [setRun_self]
    exact hrun
  · rw [setRun_of_ne _ _ heq]
    exact h n'

/-- Every step keeps the invariant. -/
theorem SystemInvariant.step (hlaw : crates.Lawful)
    (hinv : SystemInvariant crates configs inits store₀ s) (hstep : SystemStep crates configs s t) :
    SystemInvariant crates configs inits store₀ t := by
  have hexchanges : ∀ {n frame}, Exchanges crates inits s n frame →
      Exchanges crates inits t n frame :=
    fun h => h.step hstep
  have hconnections : ∀ id connection, s.broker.connections id = some connection →
      ∃ n frame, Exchanges crates inits t n frame ∧ connection.received.bytes <+: frame := by
    intro id connection hid
    obtain ⟨n, frame, h, hcut⟩ := hinv.connections id connection hid
    exact ⟨n, frame, hexchanges h, hcut⟩
  -- The invariant of the brokers and those of the runs are kept one by one. Only a reply needs
  -- both: what it tells the run comes from a thread whose events hold.
  cases hstep with
  | @act n tr o k a ho hrun =>
    have hold := hinv.runs n
    rw [hrun] at hold
    refine ⟨hinv.broker, forall_setRun hinv.runs (hold.answer ?_), hconnections⟩
    cases o with
    | exchange endpoint frame => exact absurd trivial ho
    | _ => trivial
  | @send n tr endpoint frame k id received broker hrun hcut haccept =>
    have hold := hinv.runs n
    rw [hrun] at hold
    have hruns : ∀ n, RunInvariant crates (inits n) broker (s.runs n) :=
      fun n' => (hinv.runs n').of_brokerStep haccept
    refine ⟨hinv.broker.step haccept, forall_setRun hruns ?_, fun id' connection hid' => ?_⟩
    · -- The new connection is that of this run, and carries the beginning of its frame.
      obtain ⟨_, rfl⟩ := brokerStep_accept.mp haccept
      refine ⟨hold.steps, hold.truthful, fun id' hid' => ?_⟩
      obtain rfl := Option.some.inj hid'
      exact ⟨_, endpoint, frame, k, setConnection_self _ _ _, rfl, hcut⟩
    · obtain ⟨_, rfl⟩ := brokerStep_accept.mp haccept
      rcases setConnection_cases hid' with ⟨rfl, rfl⟩ | ⟨_, hid'⟩
      · have htr : tr <+: (s.runs n).trace := ⟨[], by rw [hrun, List.append_nil]⟩
        exact ⟨n, frame, hexchanges ⟨endpoint, tr, htr, k, hold.steps⟩, hcut⟩
      · exact hconnections id' connection hid'
  | @reply n tr endpoint frame k id a hrun ha =>
    have hold := hinv.runs n
    rw [hrun] at hold
    exact ⟨hinv.broker, forall_setRun hinv.runs
      (hold.answer (hold.truthful_reply hlaw hinv.broker ha)), hconnections⟩
  | @perform id choice broker hperform =>
    refine ⟨hinv.broker.step hperform, fun n => (hinv.runs n).of_brokerStep hperform,
      fun id' connection hid' => ?_⟩
    obtain ⟨received, o, k, a, hconnection, _, rfl⟩ := brokerStep_perform.mp hperform
    rcases setConnection_cases hid' with ⟨rfl, rfl⟩ | ⟨_, hid'⟩
    · exact hconnections id' ⟨received, .op o k⟩ hconnection
    · exact hconnections id' connection hid'
  | @deliver put broker hdeliver =>
    obtain ⟨_, rfl⟩ := brokerStep_deliver.mp hdeliver
    exact ⟨hinv.broker.step hdeliver, fun n => (hinv.runs n).of_brokerStep hdeliver, hconnections⟩

/-- The invariant holds in every state that the system reaches. -/
theorem systemInvariant_of_reachable (hlaw : crates.Lawful)
    (h : Reachable crates configs inits store₀ s) :
    SystemInvariant crates configs inits store₀ s := by
  induction h with
  | refl => exact systemInvariant_start
  | tail _ hstep ih => exact ih.step hlaw hstep

/-- However the system goes on, it takes nothing from the store. -/
theorem store_le_of_steps (h : Relation.ReflTransGen (SystemStep crates configs) s t) :
    s.broker.store ≤ t.broker.store := by
  induction h with
  | refl => exact le_rfl
  | tail _ hstep ih => exact ih.trans hstep.le

/-! ## Where objects come from -/

/-- Every object that was not there from the start is one that a run asked to save. -/
theorem SystemInvariant.asksToSave (hlaw : crates.Lawful)
    (hinv : SystemInvariant crates configs inits store₀ s) {bucket key : String} {body : Bytes}
    (hobject : s.broker.store.object (bucket, key) = some body) :
    store₀.object (bucket, key) = some body ∨ ∃ n endpoint tr, tr <+: (s.runs n).trace ∧
      AsksToSave crates (inits n).s3Client (inits n).kmsClient (inits n).settings tr
        (.exchange endpoint (frameOf
          (toVec (BrokerRequest.saveObjectIfAbsent bucket key body)))) := by
  rcases hinv.broker.objects _ _ hobject with hold | ⟨id, connection, trb, hid, hissues⟩
  · exact .inl hold
  · -- The thread that wrote it was asked to by its connection, and the connection carries a run's
    -- frame.
    obtain ⟨_, request, hreceived, hbelow, hinit, rfl⟩ := uses_serveConnection.of_issues hissues
    obtain ⟨n, frame, ⟨endpoint, tr, htr, hexchange⟩, hcut⟩ := hinv.connections id connection hid
    obtain ⟨request', hfits, rfl⟩ := InitRun.uses.of_issues hexchange
    obtain rfl := receivedRequest_of_prefix hlaw hfits hcut hreceived
    exact .inr ⟨n, endpoint, tr, htr, asksToSave_of_issues
      ⟨.saveObjectIfAbsent bucket key body, trivial, rfl⟩ hexchange⟩

end AwsKmsDemo
