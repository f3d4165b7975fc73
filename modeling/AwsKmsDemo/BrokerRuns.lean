import AwsKmsDemo.Broker
import AwsKmsDemo.Interaction.Unwinding
import AwsKmsDemo.Reference
import AwsKmsDemo.Storage.WriteOnce

/-!
# Runs of the broker

`serve_enclave_broker` as a machine. It accepts any number of connections, each of which is served
by a thread of its own, and the threads share an S3 store that honours `If-None-Match: *`. A step
lets one thread perform its next operation. What the surroundings decide about the operation, such
as that the request fails, is part of the step's label, and everything else follows from the state,
so that the machine is deterministic. A connection is accepted with all that it sends: until then
its thread would only wait for more. A request to write that fails stays in flight: it may be
delivered at any later time, or never.
-/

namespace AwsKmsDemo

open Interaction Interaction.Program Stream Storage

/-! ## The S3 service -/

/-- The objects in S3, by bucket and key. -/
abbrev S3Store := Store (String × String) Bytes

/-- What the surroundings decide about one operation of the broker. -/
inductive Choice where
  /-- S3 serves the request. -/
  | served
  /-- S3 serves the request, but the body of the object cannot be collected. -/
  | unreadable (message : String)
  /-- The request fails, with any error. -/
  | failed (error : SdkError)
  /-- A runtime is built, or not. -/
  | runtime (result : Except String Unit)
  /-- The default chain provides credentials, or not. -/
  | credentials (result : Except String Credentials)

/-- The answer to a request for an object that does not exist. -/
def noSuchKey : SdkError where
  kind := .serviceError
    { status := 404
      noSuchKey := true
      code := some "NoSuchKey"
      message := some "The specified key does not exist." }
  display := "service error"
  debug := "ServiceError(NoSuchKey)"

/-- The answer to a request to write an object that exists. -/
def preconditionFailed : SdkError where
  kind := .serviceError
    { status := 412
      noSuchKey := false
      code := some "PreconditionFailed"
      message := some "At least one of the pre-conditions you specified did not hold" }
  display := "service error"
  debug := "ServiceError(PreconditionFailed)"

/-- The answer to `GetObject`, by the object found. -/
def getAnswer (found : Option Bytes) : Choice → Option (Except SdkError (Except String Bytes))
  | .served => some (match found with | some body => .ok (.ok body) | none => .error noSuchKey)
  | .unreadable message =>
    some (match found with | some _ => .ok (.error message) | none => .error noSuchKey)
  | .failed error => some (.error error)
  | _ => none

/-- The answer to a conditional `PutObject`, by the object found. -/
def putAnswer (found : Option Bytes) : Choice → Option (Except SdkError Unit)
  | .served => some (match found with | some _ => .error preconditionFailed | none => .ok ())
  | .failed error => some (.error error)
  | _ => none

/-- The answer to an operation, if the choice is one about such an operation. -/
def answer (store : S3Store) : (o : BrokerOp) → Choice → Option o.Ans
  | .buildRuntime, choice => match choice with | .runtime result => some result | _ => none
  | .defaultCredentials, choice =>
    match choice with | .credentials result => some result | _ => none
  | .getObject bucket key, choice => getAnswer (store.object (bucket, key)) choice
  | .putObject bucket key _, choice => putAnswer (store.object (bucket, key)) choice

/-- The store after an operation. -/
def effect (store : S3Store) : BrokerOp → Choice → S3Store
  | .putObject bucket key body, .served => store.putIfAbsent (bucket, key) body
  | _, _ => store

/-- No operation takes an object away or changes one. -/
theorem le_effect (store : S3Store) (o : BrokerOp) (choice : Choice) :
    store ≤ effect store o choice := by
  unfold effect
  split
  · exact store.le_putIfAbsent _ _
  · exact le_rfl

/-- What the answer to an operation says about the store. -/
def Holds (store : S3Store) : BrokerEvent → Prop
  | ⟨.getObject bucket key, .ok (.ok body)⟩ => store.object (bucket, key) = some body
  | ⟨.putObject bucket key body, .ok ()⟩ => store.object (bucket, key) = some body
  | _ => True

/-- What an answer says stays true. -/
theorem Holds.mono {store store' : S3Store} {e : BrokerEvent} (h : Holds store e)
    (hle : store ≤ store') : Holds store' e := by
  unfold Holds at h ⊢
  split at h
  · exact Store.object_of_le hle h
  · exact Store.object_of_le hle h
  · trivial

/-- Every answer is true of the store after the operation. -/
theorem holds_of_answer {store : S3Store} {o : BrokerOp} {choice : Choice} {a : o.Ans}
    (h : answer store o choice = some a) : Holds (effect store o choice) ⟨o, a⟩ := by
  cases o with
  | buildRuntime => trivial
  | defaultCredentials => trivial
  | getObject bucket key =>
    unfold answer getAnswer at h
    cases hfound : store.object (bucket, key) with
    | none => cases choice <;> simp [hfound] at h <;> subst h <;> trivial
    | some body =>
      cases choice <;> simp [hfound] at h <;> subst h
      · exact hfound
      all_goals trivial
  | putObject bucket key body =>
    unfold answer putAnswer at h
    cases hfound : store.object (bucket, key) with
    | none =>
      cases choice <;> simp [hfound] at h <;> subst h
      · exact Store.object_putIfAbsent_of_none body hfound
      · trivial
    -- A put that was refused or failed says nothing about the store.
    | some found => cases choice <;> simp [hfound] at h <;> subst h <;> trivial

/-! ## The machine -/

/-- A connection: its peer, and its number among the connections of that peer. -/
structure ConnectionId where
  peerCid : Option UInt32
  number : ℕ
  deriving DecidableEq

/-- A connection that was accepted. -/
structure Connection where
  /-- What it sends. -/
  received : Reader
  /-- What is left of its thread. -/
  program : BrokerProgram Bytes

/-- What was written to a connection, once its thread is done. -/
def Connection.written (connection : Connection) : Option Bytes :=
  match connection.program with
  | .ret bytes => some bytes
  | _ => none

/-- A request to write an object that failed. -/
structure PutRequest where
  connection : ConnectionId
  bucket : String
  key : String
  body : Bytes
  deriving DecidableEq

/-- The state of the broker and of S3. -/
structure BrokerState where
  store : S3Store
  inflight : List PutRequest
  connections : ConnectionId → Option Connection

/-- The start: no connection yet. -/
def BrokerState.start (store : S3Store) : BrokerState where
  store := store
  inflight := []
  connections := fun _ => none

/-- What was written to a connection. -/
def BrokerState.written (s : BrokerState) (id : ConnectionId) : Option Bytes :=
  (s.connections id).bind Connection.written

/-- What can happen in one step. -/
inductive BrokerLabel where
  /-- A connection is accepted. -/
  | accept (id : ConnectionId) (received : Reader)
  /-- The thread of a connection performs its next operation. -/
  | perform (id : ConnectionId) (choice : Choice)
  /-- A request to write that had failed takes effect. -/
  | deliver (put : PutRequest)

/-- The requests that an operation leaves in flight. -/
def delayed (id : ConnectionId) : BrokerOp → Choice → List PutRequest
  | .putObject bucket key body, .failed _ => [⟨id, bucket, key, body⟩]
  | _, _ => []

/-- Replace a connection. -/
def setConnection (connections : ConnectionId → Option Connection) (id : ConnectionId)
    (connection : Connection) : ConnectionId → Option Connection :=
  fun id' => if id' = id then some connection else connections id'

/-- The connection that was set. -/
@[simp] theorem setConnection_self (connections : ConnectionId → Option Connection)
    (id : ConnectionId) (connection : Connection) :
    setConnection connections id connection id = some connection :=
  if_pos rfl

/-- The other connections stay. -/
theorem setConnection_of_ne (connections : ConnectionId → Option Connection)
    {id id' : ConnectionId} (connection : Connection) (h : id' ≠ id) :
    setConnection connections id connection id' = connections id' :=
  if_neg h

/-- A connection after a replacement is the new one, or it was there before. -/
theorem setConnection_cases {connections : ConnectionId → Option Connection}
    {id id' : ConnectionId} {connection connection' : Connection}
    (h : setConnection connections id connection id' = some connection') :
    (id' = id ∧ connection' = connection) ∨ (id' ≠ id ∧ connections id' = some connection') := by
  by_cases heq : id' = id
  · subst heq
    rw [setConnection_self] at h
    exact .inl ⟨rfl, (Option.some.inj h).symm⟩
  · rw [setConnection_of_ne _ _ heq] at h
    exact .inr ⟨heq, h⟩

/-- The same replacement keeps connections that were the same. -/
theorem setConnection_congr {connections connections' : ConnectionId → Option Connection}
    {id' : ConnectionId} (h : connections id' = connections' id') (id : ConnectionId)
    (connection : Connection) :
    setConnection connections id connection id' = setConnection connections' id connection id' := by
  unfold setConnection
  rw [h]

section Machine

variable (serve : ConnectionId → Reader → BrokerProgram Bytes)

/-- One step of the machine, whose connections are served by `serve`. -/
def brokerStep (s : BrokerState) : BrokerLabel → Option BrokerState
  | .accept id received =>
    match s.connections id with
    | none => some
        { s with connections := setConnection s.connections id ⟨received, serve id received⟩ }
    | some _ => none
  | .perform id choice =>
    match s.connections id with
    | some ⟨received, .op o k⟩ =>
      match answer s.store o choice with
      | some a => some
          { store := effect s.store o choice
            inflight := s.inflight ++ delayed id o choice
            connections := setConnection s.connections id ⟨received, k a⟩ }
      | none => none
    | _ => none
  | .deliver put =>
    if put ∈ s.inflight then
      some { s with store := s.store.putIfAbsent (put.bucket, put.key) put.body }
    else none

/-- The steps of the machine. -/
def BrokerStep (s : BrokerState) (l : BrokerLabel) (t : BrokerState) : Prop :=
  brokerStep serve s l = some t

variable {serve}

/-- A connection with a new name is accepted. -/
theorem brokerStep_accept {s t : BrokerState} {id : ConnectionId} {received : Reader} :
    BrokerStep serve s (.accept id received) t ↔ s.connections id = none ∧
      t = { s with
        connections := setConnection s.connections id ⟨received, serve id received⟩ } := by
  unfold BrokerStep brokerStep
  dsimp only
  cases s.connections id <;> simp [eq_comm]

/-- A thread performs its next operation, with an answer from the store. -/
theorem brokerStep_perform {s t : BrokerState} {id : ConnectionId} {choice : Choice} :
    BrokerStep serve s (.perform id choice) t ↔ ∃ received o k a,
      s.connections id = some ⟨received, .op o k⟩ ∧ answer s.store o choice = some a ∧
        t = { store := effect s.store o choice
              inflight := s.inflight ++ delayed id o choice
              connections := setConnection s.connections id ⟨received, k a⟩ } := by
  unfold BrokerStep brokerStep
  constructor
  · intro h
    dsimp only at h
    split at h
    · rename_i received o k hconnection
      split at h
      · rename_i a ha
        injection h with h
        exact ⟨received, o, k, a, hconnection, ha, h.symm⟩
      · cases h
    · cases h
  · rintro ⟨received, o, k, a, hconnection, ha, rfl⟩
    simp only [hconnection, ha]

/-- A request to write that was lost takes effect. -/
theorem brokerStep_deliver {s t : BrokerState} {put : PutRequest} :
    BrokerStep serve s (.deliver put) t ↔ put ∈ s.inflight ∧
      t = { s with store := s.store.putIfAbsent (put.bucket, put.key) put.body } := by
  unfold BrokerStep brokerStep
  dsimp only
  split_ifs with h <;> simp [h, eq_comm]

/-- A connection that is new can be accepted. -/
theorem exists_accept {s : BrokerState} {id : ConnectionId} (h : s.connections id = none)
    (received : Reader) : ∃ t, BrokerStep serve s (.accept id received) t ∧ t.store = s.store ∧
      t.connections id = some ⟨received, serve id received⟩ :=
  ⟨_, brokerStep_accept.mpr ⟨h, rfl⟩, rfl, setConnection_self _ _ _⟩

/-- An operation that can be answered can be performed. -/
theorem exists_perform {s : BrokerState} {id : ConnectionId} {received : Reader} {o : BrokerOp}
    {k : o.Ans → BrokerProgram Bytes} {choice : Choice} {a : o.Ans}
    (h : s.connections id = some ⟨received, .op o k⟩) (ha : answer s.store o choice = some a) :
    ∃ t, BrokerStep serve s (.perform id choice) t ∧ t.store = effect s.store o choice ∧
      t.connections id = some ⟨received, k a⟩ :=
  ⟨_, brokerStep_perform.mpr ⟨received, o, k, a, h, ha, rfl⟩, rfl, setConnection_self _ _ _⟩

/-- No step takes anything from the store. -/
theorem BrokerStep.le {s t : BrokerState} {l : BrokerLabel} (h : BrokerStep serve s l t) :
    s.store ≤ t.store := by
  cases l with
  | accept id received =>
    obtain ⟨_, rfl⟩ := brokerStep_accept.mp h
    exact le_rfl
  | perform id choice =>
    obtain ⟨_, _, _, _, _, _, rfl⟩ := brokerStep_perform.mp h
    exact le_effect _ _ _
  | deliver put =>
    obtain ⟨_, rfl⟩ := brokerStep_deliver.mp h
    exact Store.le_putIfAbsent _ _ _

/-! ## What holds in every run -/

/-- In the state `s`, the thread of a connection has come to, or past, a request to write `body`. -/
def Writes (serve : ConnectionId → Reader → BrokerProgram Bytes) (s : BrokerState)
    (id : ConnectionId) (bucket key : String) (body : Bytes) : Prop :=
  ∃ connection tr, s.connections id = some connection ∧
    (serve id connection.received).Issues tr (.putObject bucket key body)

/-- What holds in every state that is reached from a store. -/
structure BrokerInvariant (serve : ConnectionId → Reader → BrokerProgram Bytes)
    (store₀ : S3Store) (s : BrokerState) : Prop where
  /-- Every thread is somewhere in its program, and what it was told is true. -/
  threads : ∀ id connection, s.connections id = some connection →
    ∃ tr, (serve id connection.received).Steps tr connection.program ∧
      ∀ e ∈ tr, Holds s.store e
  /-- Every request in flight is one that a thread made. -/
  inflight : ∀ put ∈ s.inflight, Writes serve s put.connection put.bucket put.key put.body
  /-- Every object that was not there is one that a thread requested to write. -/
  objects : ∀ name body, s.store.object name = some body →
    store₀.object name = some body ∨ ∃ id, Writes serve s id name.1 name.2 body

/-- Connections keep what they send. -/
theorem BrokerStep.received {s t : BrokerState} {l : BrokerLabel} (h : BrokerStep serve s l t)
    {id : ConnectionId} {connection : Connection} (hid : s.connections id = some connection) :
    ∃ connection', t.connections id = some connection' ∧
      connection'.received = connection.received := by
  cases l with
  | accept id' received =>
    obtain ⟨hnone, rfl⟩ := brokerStep_accept.mp h
    have hne : id ≠ id' := by
      rintro rfl
      rw [hnone] at hid
      cases hid
    exact ⟨connection, by rw [← hid]; exact setConnection_of_ne _ _ hne, rfl⟩
  | perform id' choice =>
    obtain ⟨received, o, k, a, hconnection, _, rfl⟩ := brokerStep_perform.mp h
    -- The thread's program changes, and what it has received does not.
    by_cases heq : id = id'
    · subst heq
      rw [hconnection] at hid
      injection hid with hid
      exact ⟨_, setConnection_self _ _ _, by rw [← hid]⟩
    · exact ⟨connection, by rw [← hid]; exact setConnection_of_ne _ _ heq, rfl⟩
  | deliver put =>
    obtain ⟨_, rfl⟩ := brokerStep_deliver.mp h
    exact ⟨connection, hid, rfl⟩

/-- What has been written, or may still be, remains so. -/
theorem Writes.step {s t : BrokerState} {l : BrokerLabel} {id : ConnectionId}
    {bucket key : String} {body : Bytes} (h : Writes serve s id bucket key body)
    (hstep : BrokerStep serve s l t) : Writes serve t id bucket key body := by
  obtain ⟨connection, tr, hid, hissues⟩ := h
  obtain ⟨connection', hid', hreceived⟩ := hstep.received hid
  exact ⟨connection', tr, hid', by rw [hreceived]; exact hissues⟩

/-- The invariant holds at the start. -/
theorem brokerInvariant_start (store₀ : S3Store) :
    BrokerInvariant serve store₀ (.start store₀) where
  threads id connection h := by cases h
  inflight put h := by cases h
  objects name body h := .inl h

/-- Every step keeps the invariant. -/
theorem BrokerInvariant.step {store₀ : S3Store} {s t : BrokerState} {l : BrokerLabel}
    (hinv : BrokerInvariant serve store₀ s) (hstep : BrokerStep serve s l t) :
    BrokerInvariant serve store₀ t := by
  have hle := hstep.le
  have hwrites : ∀ {id bucket key body}, Writes serve s id bucket key body →
      Writes serve t id bucket key body := fun h => h.step hstep
  -- A thread that did not move is where it was, and what it was told stays true.
  have hold : ∀ id connection, s.connections id = some connection →
      ∃ tr, (serve id connection.received).Steps tr connection.program ∧
        ∀ e ∈ tr, Holds t.store e := by
    intro id connection hid
    obtain ⟨tr, hsteps, hholds⟩ := hinv.threads id connection hid
    exact ⟨tr, hsteps, fun e he => (hholds e he).mono hle⟩
  cases l with
  | accept id received =>
    obtain ⟨_, rfl⟩ := brokerStep_accept.mp hstep
    refine ⟨fun id' connection hid' => ?_, fun put hput => hwrites (hinv.inflight put hput),
      fun name body hobject => (hinv.objects name body hobject).imp_right ?_⟩
    · rcases setConnection_cases hid' with ⟨rfl, rfl⟩ | ⟨-, hid'⟩
      · exact ⟨[], .refl _, by simp⟩
      · exact hold id' connection hid'
    · exact fun ⟨id', h⟩ => ⟨id', hwrites h⟩
  | perform id choice =>
    obtain ⟨received, o, k, a, hconnection, ha, rfl⟩ := brokerStep_perform.mp hstep
    obtain ⟨tr, hsteps, hholds⟩ := hold id _ hconnection
    -- A write that is requested in this step is one that its thread has come to.
    have hissues : ∀ bucket key body, o = .putObject bucket key body →
        Writes serve s id bucket key body := by
      intro bucket key body ho
      subst ho
      obtain ⟨tr, hsteps, _⟩ := hinv.threads id _ hconnection
      exact ⟨_, tr, hconnection, k, hsteps⟩
    refine ⟨fun id' connection hid' => ?_, fun put hput => ?_, fun name body hobject => ?_⟩
    · rcases setConnection_cases hid' with ⟨rfl, rfl⟩ | ⟨-, hid'⟩
      · refine ⟨tr ++ [⟨o, a⟩], hsteps.trans (.step (.refl _)), fun e he => ?_⟩
        rcases List.mem_append.mp he with he | he
        · exact hholds e he
        · rw [List.mem_singleton] at he
          subst he
          exact holds_of_answer ha
      · exact hold id' connection hid'
    · rcases List.mem_append.mp hput with hput | hput
      · exact hwrites (hinv.inflight put hput)
      · -- Besides the writes that were in flight there is at most the one that was just requested.
        unfold delayed at hput
        split at hput
        · rw [List.mem_singleton] at hput
          subst hput
          exact hwrites (hissues _ _ _ rfl)
        · cases hput
    · unfold effect at hobject
      split at hobject
      · rcases Store.object_putIfAbsent_cases hobject with hobject | ⟨rfl, rfl⟩
        · exact (hinv.objects name body hobject).imp_right fun ⟨id', h⟩ => ⟨id', hwrites h⟩
        · exact .inr ⟨id, hwrites (hissues _ _ _ rfl)⟩
      · exact (hinv.objects name body hobject).imp_right fun ⟨id', h⟩ => ⟨id', hwrites h⟩
  | deliver put =>
    obtain ⟨hput, rfl⟩ := brokerStep_deliver.mp hstep
    refine ⟨hold, fun put' hput' => hwrites (hinv.inflight put' hput'), fun name body hobject => ?_⟩
    rcases Store.object_putIfAbsent_cases hobject with hobject | ⟨rfl, rfl⟩
    · exact (hinv.objects name body hobject).imp_right fun ⟨id', h⟩ => ⟨id', hwrites h⟩
    · exact .inr ⟨_, hwrites (hinv.inflight put hput)⟩

/-- The invariant holds at the end of every run. -/
theorem brokerInvariant_of_runs {store₀ : S3Store} {ls : List BrokerLabel} {s : BrokerState}
    (h : Runs (BrokerStep serve) (.start store₀) ls s) : BrokerInvariant serve store₀ s :=
  h.invariant (fun _ _ _ hinv hstep => hinv.step hstep) (brokerInvariant_start store₀)

end Machine

/-! ## The broker's own runs -/

/-- The thread of a connection to a broker with a configuration. -/
def brokerThread (crates : Crates) (config : BrokerConfig) (id : ConnectionId)
    (received : Reader) : BrokerProgram Bytes :=
  serveConnection crates config id.peerCid received

/-- The steps of a broker with a configuration. -/
abbrev ServeStep (crates : Crates) (config : BrokerConfig) :
    BrokerState → BrokerLabel → BrokerState → Prop :=
  BrokerStep (brokerThread crates config)

section Runs

variable {crates : Crates} {config : BrokerConfig} {store₀ : S3Store}

/-- Whatever a thread comes to write, its connection authorises. -/
theorem Writes.authorised {s : BrokerState} {id : ConnectionId} {bucket key : String}
    {body : Bytes} (h : Writes (brokerThread crates config) s id bucket key body) :
    ∃ connection, s.connections id = some connection ∧
      Authorises crates config id.peerCid connection.received (.putObject bucket key body) := by
  obtain ⟨connection, tr, hid, hissues⟩ := h
  exact ⟨connection, hid, uses_serveConnection.of_issues hissues⟩

/-- In every run of the broker the objects in S3 are only added to. Whatever is added is below the
prefix in the bucket and is the body of a request to save it, sent by a peer whose requests are
answered. A broker in serve mode adds nothing. -/
theorem broker_adds_only {ls ms : List BrokerLabel} {s t : BrokerState}
    (hs : Runs (ServeStep crates config) (.start store₀) ls s)
    (ht : Runs (ServeStep crates config) s ms t) :
    s.store ≤ t.store ∧
    (∀ bucket key body, t.store.object (bucket, key) = some body →
      store₀.object (bucket, key) = some body ∨
        (Below config.settings.s3Bucket config.settings.s3Prefix bucket key ∧
          ∃ id connection, t.connections id = some connection ∧ config.Admits id.peerCid ∧
            receivedRequest crates connection.received =
              .ok (.saveObjectIfAbsent bucket key body))) ∧
    (config.settings.startupMode = .serve → t.store = store₀) := by
  have hinv := brokerInvariant_of_runs (hs.append ht)
  have hle : store₀ ≤ t.store := (hs.append ht).relates (R := fun s t => s.store ≤ t.store)
    (fun _ => le_rfl) (fun _ _ _ => le_trans) (fun _ _ _ => BrokerStep.le)
  refine ⟨ht.relates (R := fun s t => s.store ≤ t.store) (fun _ => le_rfl)
    (fun _ _ _ => le_trans) (fun _ _ _ => BrokerStep.le), fun bucket key body hobject => ?_,
    fun hserve => ?_⟩
  · rcases hinv.objects _ _ hobject with hold | ⟨id, hwrites⟩
    · exact .inl hold
    · obtain ⟨connection, hid, hadmits, request, hreceived, hbelow, _, rfl⟩ := hwrites.authorised
      exact .inr ⟨hbelow, id, connection, hid, hadmits, hreceived⟩
  · -- In serve mode nothing authorises a write, so both stores have the same objects.
    have hback : ∀ name body, t.store.object name = some body → store₀.object name = some body := by
      intro name body hobject
      rcases hinv.objects name body hobject with hold | ⟨id, hwrites⟩
      · exact hold
      · obtain ⟨_, _, _, _, _, _, hinit, _⟩ := hwrites.authorised
        rw [hserve] at hinit
        cases hinit
    have hsame : t.store.object = store₀.object :=
      funext fun name => Option.ext fun body => ⟨hback name body, hle name body⟩
    cases hstore : t.store
    rw [hstore] at hsame
    exact congrArg Store.mk hsame

/-- A thread that was asked to save, and may, builds a runtime and requests the write. -/
theorem brokerThread_of_save {id : ConnectionId} {received : Reader} {bucket key : String}
    {body : Bytes} (hreceived : receivedRequest crates received =
      .ok (.saveObjectIfAbsent bucket key body))
    (hadmits : config.Admits id.peerCid) (hinit : config.settings.startupMode = .initKey)
    (hbelow : Below config.settings.s3Bucket config.settings.s3Prefix bucket key) :
    ∃ k, brokerThread crates config id received = .op .buildRuntime k ∧
      ∃ k', k (.ok ()) = .op (.putObject bucket key body) k' := by
  have hanswer : ∃ k, answerRequest config (.saveObjectIfAbsent bucket key body) =
      .op (.putObject bucket key body) k := by
    unfold answerRequest
    dsimp only
    have htarget : validateS3Target bucket key config.settings.s3Bucket config.settings.s3Prefix =
        .ok () := validateS3Target_eq_ok.mpr hbelow
    rw [failIf_of_not _ (not_not.mpr hinit), htarget]
    exact ⟨_, rfl⟩
  obtain ⟨k, hk⟩ := hanswer
  have hrespond : respond config id.peerCid (.ok (.saveObjectIfAbsent bucket key body)) =
      .op .buildRuntime _ :=
    (respond_of_admits hadmits _).trans (handleRequest_of_ne (by simp))
  unfold brokerThread serveConnection
  rw [hreceived, hrespond]
  refine ⟨_, rfl, ?_⟩
  rw [hk]
  exact ⟨_, rfl⟩

/-- A broker of the deployment for the peer 16. -/
def guardedBroker : BrokerConfig where
  settings := deployment
  credentialsProviders := []
  allowedEnclaveCid := some 16

/-- The peer saves an object of three bytes. -/
theorem broker_adds_only_save : ∃ s t : BrokerState,
    s.store.object ("bucket", "kms-keypair/object") = none ∧
      t.store.object ("bucket", "kms-keypair/object") = some [1, 2, 3] ∧ s.store ≤ t.store := by
  let received : Reader :=
    ⟨frameOf (toVec (BrokerRequest.saveObjectIfAbsent "bucket" "kms-keypair/object" [1, 2, 3])), ""⟩
  let id : ConnectionId := ⟨some 16, 0⟩
  have hreceived : receivedRequest reference received =
      .ok (.saveObjectIfAbsent "bucket" "kms-keypair/object" [1, 2, 3]) :=
    receivedRequest_frameOf reference_lawful (by decide) ""
  have hbelow : Below "bucket" "kms-keypair" "bucket" "kms-keypair/object" := by decide
  have hadmits : guardedBroker.Admits id.peerCid := .inr rfl
  have hsave : ∃ k, brokerThread reference guardedBroker id received = .op .buildRuntime k ∧
      ∃ k', k (.ok ()) = .op (.putObject "bucket" "kms-keypair/object" [1, 2, 3]) k' :=
    brokerThread_of_save hreceived hadmits rfl hbelow
  obtain ⟨k, hthread, k', hk⟩ := hsave
  obtain ⟨s₁, hstep₁, hstore₁, hconnection₁⟩ : ∃ t, ServeStep reference guardedBroker
      (.start ⟨fun _ => none⟩) (.accept id received) t ∧ _ := exists_accept rfl received
  rw [hthread] at hconnection₁
  obtain ⟨s₂, hstep₂, hstore₂, hconnection₂⟩ : ∃ t, ServeStep reference guardedBroker s₁
      (.perform id (.runtime (.ok ()))) t ∧ _ := exists_perform hconnection₁ rfl
  rw [hk] at hconnection₂
  have hempty : s₂.store = ⟨fun _ => none⟩ := hstore₂.trans hstore₁
  obtain ⟨s₃, hstep₃, hstore₃, _⟩ : ∃ t, ServeStep reference guardedBroker s₂
      (.perform id .served) t ∧ _ := exists_perform hconnection₂ (by rw [hempty]; rfl)
  refine ⟨s₂, s₃, by rw [hempty], ?_, (broker_adds_only (.cons hstep₁ (.cons hstep₂ (.nil _)))
    (.cons hstep₃ (.nil _))).1⟩
  rw [hstore₃, hempty]
  exact Store.object_putIfAbsent_of_none _ rfl

/-! ### Isolation -/

/-- Stores that agree on what a broker serves. -/
def AgreeBelow (config : BrokerConfig) (store store' : S3Store) : Prop :=
  ∀ bucket key, Below config.settings.s3Bucket config.settings.s3Prefix bucket key →
    store.object (bucket, key) = store'.object (bucket, key)

/-- The operations that touch only what a broker serves. -/
def OnlyBelow (config : BrokerConfig) : BrokerOp → Prop
  | .getObject bucket key => Below config.settings.s3Bucket config.settings.s3Prefix bucket key
  | .putObject bucket key _ => Below config.settings.s3Bucket config.settings.s3Prefix bucket key
  | _ => True

/-- The peer that a step is about. -/
def BrokerLabel.peerCid : BrokerLabel → Option UInt32
  | .accept id _ => id.peerCid
  | .perform id _ => id.peerCid
  | .deliver put => put.connection.peerCid

/-- In a run of a broker for the peer `cid`, the threads of that peer touch only what the broker
serves, every other thread has already refused, and only that peer has requests in flight. -/
structure Confined (config : BrokerConfig) (cid : UInt32) (s : BrokerState) : Prop where
  own : ∀ id connection, s.connections id = some connection → id.peerCid = some cid →
    connection.program.Uses (OnlyBelow config)
  others : ∀ id connection, s.connections id = some connection → id.peerCid ≠ some cid →
    ∃ message, connection.program = .ret (writtenResponse (.error message))
  inflight : ∀ put ∈ s.inflight, put.connection.peerCid = some cid ∧
    Below config.settings.s3Bucket config.settings.s3Prefix put.bucket put.key

/-- States that look the same to the peer `cid`. -/
structure SameFor (config : BrokerConfig) (cid : UInt32) (s t : BrokerState) : Prop where
  connections : ∀ id, id.peerCid = some cid → s.connections id = t.connections id
  inflight : s.inflight = t.inflight
  store : AgreeBelow config s.store t.store

/-- A thread works on objects below the prefix only. -/
theorem uses_brokerThread_onlyBelow (id : ConnectionId) (received : Reader) :
    (brokerThread crates config id received).Uses (OnlyBelow config) := by
  refine Uses.mono uses_serveConnection fun o ho => ?_
  obtain ⟨_, request, _, hjustifies⟩ := ho
  cases o with
  | buildRuntime => trivial
  | defaultCredentials => trivial
  | getObject bucket key => exact hjustifies.1
  | putObject bucket key body => exact hjustifies.1

/-- Every step keeps the state confined. -/
theorem Confined.step {cid : UInt32} (hcid : config.allowedEnclaveCid = some cid)
    {s t : BrokerState} {l : BrokerLabel} (hs : Confined config cid s)
    (hstep : ServeStep crates config s l t) : Confined config cid t := by
  cases l with
  | accept id received =>
    obtain ⟨_, rfl⟩ := brokerStep_accept.mp hstep
    refine ⟨fun id' connection hid' hpeer => ?_, fun id' connection hid' hpeer => ?_, hs.inflight⟩
    · rcases setConnection_cases hid' with ⟨rfl, rfl⟩ | ⟨-, hid'⟩
      · exact uses_brokerThread_onlyBelow _ _
      · exact hs.own id' connection hid' hpeer
    · rcases setConnection_cases hid' with ⟨rfl, rfl⟩ | ⟨-, hid'⟩
      · refine serveConnection_of_not_admits fun hadmits => ?_
        rw [BrokerConfig.Admits, hcid] at hadmits
        exact hpeer (hadmits.resolve_left (by simp))
      · exact hs.others id' connection hid' hpeer
  | perform id choice =>
    obtain ⟨received, o, k, a, hconnection, ha, rfl⟩ := brokerStep_perform.mp hstep
    -- A thread that still performs something belongs to the peer.
    have hpeer : id.peerCid = some cid := by
      by_contra hne
      obtain ⟨message, hprogram⟩ := hs.others id _ hconnection hne
      cases hprogram
    obtain ⟨hbelow, hk⟩ := hs.own id _ hconnection hpeer
    refine ⟨fun id' connection hid' hpeer' => ?_, fun id' connection hid' hpeer' => ?_,
      fun put hput => ?_⟩
    · rcases setConnection_cases hid' with ⟨rfl, rfl⟩ | ⟨-, hid'⟩
      · exact hk a
      · exact hs.own id' connection hid' hpeer'
    · rcases setConnection_cases hid' with ⟨rfl, rfl⟩ | ⟨-, hid'⟩
      · exact absurd hpeer hpeer'
      · exact hs.others id' connection hid' hpeer'
    · rcases List.mem_append.mp hput with hput | hput
      · exact hs.inflight put hput
      · unfold delayed at hput
        split at hput
        · rw [List.mem_singleton] at hput
          subst hput
          exact ⟨hpeer, hbelow⟩
        · cases hput
  | deliver put =>
    obtain ⟨_, rfl⟩ := brokerStep_deliver.mp hstep
    exact ⟨hs.own, hs.others, hs.inflight⟩

/-- A step that is not about the peer changes nothing for it. -/
theorem SameFor.of_other {cid : UInt32} {s t u : BrokerState} {l : BrokerLabel}
    (hs : Confined config cid s) (hl : l.peerCid ≠ some cid) (hsame : SameFor config cid s u)
    (hstep : ServeStep crates config s l t) : SameFor config cid t u := by
  cases l with
  | accept id received =>
    obtain ⟨_, rfl⟩ := brokerStep_accept.mp hstep
    refine ⟨fun id' hid' => ?_, hsame.inflight, hsame.store⟩
    rw [← hsame.connections id' hid']
    refine setConnection_of_ne _ _ ?_
    rintro rfl
    exact hl hid'
  | perform id choice =>
    obtain ⟨received, o, k, a, hconnection, ha, rfl⟩ := brokerStep_perform.mp hstep
    -- A connection from elsewhere has been refused, so its thread has nothing left to perform.
    obtain ⟨message, hprogram⟩ := hs.others id _ hconnection hl
    cases hprogram
  | deliver put =>
    obtain ⟨hput, _⟩ := brokerStep_deliver.mp hstep
    exact absurd (hs.inflight put hput).1 hl

/-- The answer to an operation that touches only what a broker serves is the same in stores that
agree on that. -/
theorem answer_eq_of_agreeBelow {store store' : S3Store} (h : AgreeBelow config store store')
    {o : BrokerOp} (ho : OnlyBelow config o) (choice : Choice) :
    answer store o choice = answer store' o choice := by
  cases o with
  | buildRuntime => rfl
  | defaultCredentials => rfl
  | getObject bucket key => exact congrArg (getAnswer · choice) (h bucket key ho)
  | putObject bucket key body => exact congrArg (putAnswer · choice) (h bucket key ho)

/-- The same write keeps stores that agree. -/
theorem AgreeBelow.putIfAbsent {store store' : S3Store} (h : AgreeBelow config store store')
    {bucket key : String}
    (hbelow : Below config.settings.s3Bucket config.settings.s3Prefix bucket key) (body : Bytes) :
    AgreeBelow config (store.putIfAbsent (bucket, key) body)
      (store'.putIfAbsent (bucket, key) body) := by
  intro bucket' key' hbelow'
  let names := fun name : String × String =>
    Below config.settings.s3Bucket config.settings.s3Prefix name.1 name.2
  exact Store.putIfAbsent_agree names (fun name hname => h name.1 name.2 hname)
    (k := (bucket, key)) hbelow body (bucket', key') hbelow'

/-- An operation below the prefix has the same effect on stores that agree there. -/
theorem agreeBelow_effect {store store' : S3Store} (h : AgreeBelow config store store')
    {o : BrokerOp} (ho : OnlyBelow config o) (choice : Choice) :
    AgreeBelow config (effect store o choice) (effect store' o choice) := by
  unfold effect
  split
  · exact h.putIfAbsent ho _
  · exact h

/-- The same step about the peer takes states that look the same to it to such states. -/
theorem SameFor.of_own {cid : UInt32} {s t s' t' : BrokerState} {l : BrokerLabel}
    (hs : Confined config cid s) (hl : l.peerCid = some cid) (hsame : SameFor config cid s s')
    (hstep : ServeStep crates config s l t) (hstep' : ServeStep crates config s' l t') :
    SameFor config cid t t' := by
  cases l with
  | accept id received =>
    obtain ⟨_, rfl⟩ := brokerStep_accept.mp hstep
    obtain ⟨_, rfl⟩ := brokerStep_accept.mp hstep'
    refine ⟨fun id' hid' => ?_, hsame.inflight, hsame.store⟩
    exact setConnection_congr (hsame.connections id' hid') _ _
  | perform id choice =>
    obtain ⟨received, o, k, a, hconnection, ha, rfl⟩ := brokerStep_perform.mp hstep
    obtain ⟨received', o', k', a', hconnection', ha', rfl⟩ := brokerStep_perform.mp hstep'
    -- Both states have the same thread on the connection, and it is answered in the same way.
    rw [← hsame.connections id hl, hconnection] at hconnection'
    injection hconnection' with hconnection'
    injection hconnection' with hreceived hprogram
    injection hprogram with ho hk
    subst hreceived ho
    rw [heq_eq_eq] at hk
    subst hk
    obtain ⟨hbelow, _⟩ := hs.own id _ hconnection hl
    rw [← answer_eq_of_agreeBelow hsame.store hbelow choice, ha] at ha'
    injection ha' with ha'
    subst ha'
    refine ⟨fun id' hid' => ?_, ?_, agreeBelow_effect hsame.store hbelow choice⟩
    · exact setConnection_congr (hsame.connections id' hid') _ _
    · show s.inflight ++ _ = s'.inflight ++ _
      rw [hsame.inflight]
  | deliver put =>
    obtain ⟨hput, rfl⟩ := brokerStep_deliver.mp hstep
    obtain ⟨_, rfl⟩ := brokerStep_deliver.mp hstep'
    exact ⟨hsame.connections, hsame.inflight,
      hsame.store.putIfAbsent (hs.inflight put hput).2 put.body⟩

/-- At first there are no connections that could do anything. -/
theorem confined_start {cid : UInt32} : Confined config cid (.start store₀) where
  own id connection h := by cases h
  others id connection h := by cases h
  inflight put h := by cases h

/-- A peer that is not served has been written an error. -/
theorem Confined.written_of_other {cid : UInt32} {s : BrokerState} (hs : Confined config cid s)
    {id : ConnectionId} (hid : id.peerCid ≠ some cid) {connection : Connection}
    (hconnection : s.connections id = some connection) :
    ∃ message, s.written id = some (writtenResponse (.error message)) := by
  obtain ⟨message, hprogram⟩ := hs.others id connection hconnection hid
  refine ⟨message, ?_⟩
  unfold BrokerState.written
  rw [hconnection, Option.bind_some, Connection.written, hprogram]

/-- What a broker that serves the peer `cid` only writes to that peer, and the objects that it
serves, depend on no other peer and on no other object. Every connection of another peer has been
written an error, and nothing else. -/
theorem broker_isolates {cid : UInt32} (hcid : config.allowedEnclaveCid = some cid)
    {store₀' : S3Store} (hstore : AgreeBelow config store₀ store₀') {ls ls' : List BrokerLabel}
    {s s' : BrokerState} (h : Runs (ServeStep crates config) (.start store₀) ls s)
    (h' : Runs (ServeStep crates config) (.start store₀') ls' s')
    (hlabels : ls.filter (fun l => l.peerCid = some cid) =
      ls'.filter (fun l => l.peerCid = some cid)) :
    (∀ id, id.peerCid = some cid → s.written id = s'.written id) ∧
    AgreeBelow config s.store s'.store ∧
    (∀ id, id.peerCid ≠ some cid →
      (∀ connection, s.connections id = some connection →
        ∃ message, s.written id = some (writtenResponse (.error message))) ∧
      (∀ connection, s'.connections id = some connection →
        ∃ message, s'.written id = some (writtenResponse (.error message)))) := by
  -- States are compared together with their being confined.
  let E (s t : BrokerState) := Confined config cid s ∧ Confined config cid t ∧
    SameFor config cid s t
  have hE : E s s' := by
    -- Being compared is symmetric, a step about others keeps it, and so does the same step about
    -- the peer on both sides.
    refine Runs.unwind (E := E) (fun l => l.peerCid = some cid) ?_ ?_ ?_ h h' hlabels
      ⟨confined_start, confined_start, fun _ _ => rfl, rfl, hstore⟩
    · rintro s t ⟨hs, ht, hsame⟩
      exact ⟨ht, hs, fun id hid => (hsame.connections id hid).symm, hsame.inflight.symm,
        fun bucket key hbelow => (hsame.store bucket key hbelow).symm⟩
    · rintro s l t u hl ⟨hs, hu, hsame⟩ hstep
      exact ⟨hs.step hcid hstep, hu, hsame.of_other hs (by simpa using hl) hstep⟩
    · rintro s l t s' t' hl ⟨hs, hs', hsame⟩ hstep hstep'
      exact ⟨hs.step hcid hstep, hs'.step hcid hstep',
        hsame.of_own hs (by simpa using hl) hstep hstep'⟩
  obtain ⟨hs, hs', hsame⟩ := hE
  refine ⟨fun id hid => ?_, hsame.store, fun id hid =>
    ⟨fun _ => hs.written_of_other hid, fun _ => hs'.written_of_other hid⟩⟩
  unfold BrokerState.written
  rw [hsame.connections id hid]

/-- A connection of another peer changes nothing for the peer 16. -/
theorem broker_isolates_stranger : ∃ s s' : BrokerState,
    (s.connections ⟨some 17, 0⟩).isSome ∧ (s'.connections ⟨some 16, 0⟩).isSome ∧
      ∀ id : ConnectionId, id.peerCid = some 16 → s.written id = s'.written id := by
  let own : Reader := ⟨frameOf (toVec BrokerRequest.getSettings), ""⟩
  obtain ⟨s', hown, _, hconnection'⟩ : ∃ t, ServeStep reference guardedBroker
      (.start ⟨fun _ => none⟩) (.accept ⟨some 16, 0⟩ own) t ∧ _ := exists_accept rfl own
  obtain ⟨t, hother, _, hconnection⟩ : ∃ t, ServeStep reference guardedBroker
      (.start ⟨fun _ => none⟩) (.accept ⟨some 17, 0⟩ own) t ∧ _ := exists_accept rfl own
  have hne : (⟨some 16, 0⟩ : ConnectionId) ≠ ⟨some 17, 0⟩ := by decide
  have hnone : t.connections ⟨some 16, 0⟩ = none := by
    obtain ⟨_, rfl⟩ := brokerStep_accept.mp hother
    dsimp only
    rw [setConnection_of_ne _ _ hne]
    rfl
  obtain ⟨s, hthen, _, _⟩ : ∃ u, ServeStep reference guardedBroker t
      (.accept ⟨some 16, 0⟩ own) u ∧ _ := exists_accept hnone own
  obtain ⟨_, hkept, _⟩ := hthen.received hconnection
  refine ⟨s, s', by rw [hkept]; rfl, by rw [hconnection']; rfl, ?_⟩
  exact (broker_isolates rfl (fun _ _ _ => rfl) (.cons hother (.cons hthen (.nil _)))
    (.cons hown (.nil _)) rfl).1

end Runs

end AwsKmsDemo
