import AwsKmsDemo.Agreement
import AwsKmsDemo.Interaction.Solo
import AwsKmsDemo.Recovery

/-!
# From the first start to the server

A process in init-key mode that is alone and meets no fault returns, and from then on, whatever
happens in the meantime, a process in serve mode that is alone and meets no fault starts the gRPC
server with the same public key.
-/

namespace AwsKmsDemo

open Interaction Interaction.Program Stream Storage

variable {crates : Crates} {brokers : Brokers} {world : Surroundings} {env : Environment}
  {config : BrokerConfig} {peerCid : Option UInt32} {store₀ : S3Store}

/-! ## A process that is alone -/

section Alone

variable (crates brokers env world config peerCid)

/-- The answers to the operations of a process, other than exchanges: `load_environment` leaves the
environment `env`, and the gRPC server may end in any way. -/
def LaunchAnswers : EnclaveEvent → Prop
  | ⟨.loadEnvironment, a⟩ => a = .ok env
  | ⟨.serveEnclaveRpc _, _⟩ => True
  | e => world.Answers e

/-- A frame arrives whole, from the peer `peerCid`, at a broker with the configuration `config`. -/
def Brokers.SendsWhole (b : BrokerState) : EnclaveOp → ConnectionId → BrokerState → Prop
  | .exchange _ frame, id, b' => id.peerCid = peerCid ∧ brokers.config id = config ∧
      ∃ ending, BrokerStep (brokersThread crates brokers.config) b (.accept id ⟨frame, ending⟩) b'
  | _, _, _ => False

/-- The whole answer is read. -/
def AnswersWhole (b : BrokerState) (id : ConnectionId) : (o : EnclaveOp) → o.Ans → Prop
  | .exchange _ _, a => ∃ stream : Reader, a = .ok stream ∧ b.written id = some stream.bytes
  | _, _ => False

/-- The circumstances of a process that is alone and meets no fault. -/
def Brokers.alone : (brokers.service crates).Solo where
  Answers := LaunchAnswers world env
  Call := brokers.SendsWhole crates config peerCid
  Serve id b b' := ∃ choice, world.Chooses choice ∧
    BrokerStep (brokersThread crates brokers.config) b (.perform id choice) b'
  Reply := AnswersWhole
  call_le {b o id b'} h := by
    cases o with
    | exchange endpoint frame =>
      obtain ⟨_, _, ending, hstep⟩ := h
      exact ⟨⟨frame, ending⟩, List.prefix_rfl, hstep⟩
    | _ => exact h.elim
  serve_le h := by
    obtain ⟨choice, _, hstep⟩ := h
    exact .perform _ choice hstep
  reply_le {b id o a} h := by
    cases o with
    | exchange endpoint frame =>
      obtain ⟨stream, rfl, hwritten⟩ := h
      show _ <+: (b.written id).getD []
      rw [hwritten]
      exact List.prefix_rfl
    | _ => exact h.elim

end Alone

/-! ## Free connections -/

/-- From some number on, there are no connections yet. -/
def BrokerState.HasFree (b : BrokerState) : Prop :=
  ∃ bound, ∀ id : ConnectionId, bound ≤ id.number → b.connections id = none

/-- A step of the brokers uses up at most one connection. -/
theorem BrokerStep.hasFree {serve : ConnectionId → Reader → BrokerProgram Bytes}
    {b b' : BrokerState}
    {l : BrokerLabel} (h : BrokerStep serve b l b') (hfree : b.HasFree) : b'.HasFree := by
  obtain ⟨bound, hbound⟩ := hfree
  cases l with
  | accept id received =>
    obtain ⟨_, rfl⟩ := brokerStep_accept.mp h
    refine ⟨max bound (id.number + 1), fun id' hid' => ?_⟩
    have hne : id' ≠ id := by
      rintro rfl
      omega
    exact (setConnection_of_ne _ _ hne).trans (hbound id' (by omega))
  | perform id choice =>
    obtain ⟨_, _, _, _, hconnection, _, rfl⟩ := brokerStep_perform.mp h
    refine ⟨bound, fun id' hid' => ?_⟩
    have hne : id' ≠ id := by
      rintro rfl
      rw [hbound id' hid'] at hconnection
      cases hconnection
    exact (setConnection_of_ne _ _ hne).trans (hbound id' hid')
  | deliver put =>
    obtain ⟨_, rfl⟩ := brokerStep_deliver.mp h
    exact ⟨bound, hbound⟩

/-- There always are connections that nobody has used yet. -/
theorem Brokers.Reaches.hasFree {s : Processes} (h : brokers.Reaches crates store₀ s) :
    s.service.HasFree := by
  induction h with
  | refl => exact ⟨0, fun _ _ => rfl⟩
  | tail _ hstep ih =>
    cases hstep with
    | act => exact ih
    | reply => exact ih
    | @call n tr o k id b ho hn hcall =>
      cases o with
      | exchange endpoint frame =>
        obtain ⟨_, _, hstep⟩ := hcall
        exact hstep.hasFree ih
      | _ => exact hcall.elim
    | work hwork =>
      cases hwork with
      | accept id received hforeign hstep => exact hstep.hasFree ih
      | perform id choice hstep => exact hstep.hasFree ih
      | deliver put hstep => exact hstep.hasFree ih

/-- The brokers always have another connection from a peer to a broker with this configuration. -/
def Brokers.Offers (brokers : Brokers) (config : BrokerConfig) (peerCid : Option UInt32) : Prop :=
  ∀ bound, ∃ number, bound ≤ number ∧ brokers.config ⟨peerCid, number⟩ = config

/-! ## What is ensured of a run is ensured of a process -/

/-- The thread of a connection writes what its program ensures. -/
theorem served_of_ensures {b : BrokerState} {id : ConnectionId}
    {endpoint : Endpoint} {frame : Bytes}
    {received : Reader} {q : BrokerProgram Bytes} {post : Bytes → S3Store → Prop}
    (hconnection : b.connections id = some ⟨received, q⟩) (hfree : b.HasFree)
    (h : q.Ensures (servedSpec world) (fun _ _ => False) post b.store) :
    (brokers.alone crates world env config peerCid).Served id (.exchange endpoint frame)
      (fun a b' => ∃ stream : Reader, a = .ok stream ∧ post stream.bytes b'.store ∧
        b'.HasFree) b := by
  -- By induction on what is left of the thread.
  induction q generalizing b with
  | ret bytes =>
    have hwritten : b.written id = some bytes := by
      unfold BrokerState.written
      rw [hconnection]
      rfl
    refine .intro (.inr ⟨.ok ⟨bytes, ""⟩, ⟨bytes, ""⟩, rfl, hwritten⟩) ?_ ?_
    · rintro b' ⟨choice, _, hstep⟩
      obtain ⟨_, _, _, _, hconnection', _, _⟩ := brokerStep_perform.mp hstep
      rw [hconnection] at hconnection'
      cases hconnection'
    · rintro a ⟨stream, rfl, hstream⟩
      rw [hwritten] at hstream
      exact ⟨stream, rfl, Option.some.inj hstream ▸ h, hfree⟩
  | fail e => exact h.elim
  | op o k ih =>
    obtain ⟨⟨choice, a, hchoice, ha⟩, hall⟩ := h
    refine .intro (.inl ⟨_, choice, hchoice,
      brokerStep_perform.mpr ⟨_, _, _, _, hconnection, ha, rfl⟩⟩) ?_ ?_
    · rintro b' ⟨choice', hchoice', hstep⟩
      have hfree' := hstep.hasFree hfree
      obtain ⟨_, _, _, a', hconnection', ha', rfl⟩ := brokerStep_perform.mp hstep
      rw [hconnection] at hconnection'
      cases hconnection'
      exact ih a' (setConnection_self _ _ _) hfree' (hall choice' a' hchoice' ha')
    · -- The thread has not written yet.
      rintro a' ⟨stream, _, hwritten⟩
      unfold BrokerState.written at hwritten
      rw [hconnection] at hwritten
      cases hwritten

/-- The part of the world of a process that its run is about. -/
def runView (w : BrokerState × List EnclaveEvent) : S3Store × List EnclaveEvent := (w.1.store, w.2)

/-- What an operation of a run ensures, it ensures as an operation of a process. -/
theorem alone_of_aloneSpec (hoffers : brokers.Offers config peerCid) (o : EnclaveOp)
    (v : BrokerState × List EnclaveEvent) (post : o.Ans → S3Store × List EnclaveEvent → Prop)
    (hfree : v.1.HasFree) (h : (aloneSpec world crates config peerCid).ensures o (runView v) post) :
    (brokers.alone crates world env config peerCid).spec.ensures o v
      fun a v' => post a (runView v') ∧ v'.1.HasFree := by
  by_cases ho : o.IsExchange
  · refine ⟨fun _ => ?_, fun hlocal => absurd ho hlocal⟩
    cases o with
    | exchange endpoint frame =>
      obtain ⟨bound, hbound⟩ := hfree
      obtain ⟨number, hnumber, hserved⟩ := hoffers bound
      refine ⟨⟨⟨peerCid, number⟩, _, rfl, hserved, "",
        brokerStep_accept.mpr ⟨hbound _ hnumber, rfl⟩⟩, ?_⟩
      rintro id b' ⟨hpeer, hserved', ending, hstep⟩
      have hfree' := hstep.hasFree ⟨bound, hbound⟩
      obtain ⟨_, rfl⟩ := brokerStep_accept.mp hstep
      have hthread : brokersThread crates brokers.config id ⟨frame, ending⟩ =
          serveConnection crates config peerCid ⟨frame, ending⟩ := by
        unfold brokersThread
        rw [hserved', hpeer]
      have hconnection := setConnection_self v.1.connections id
        ⟨⟨frame, ending⟩, brokersThread crates brokers.config id ⟨frame, ending⟩⟩
      refine (served_of_ensures (hconnection.trans (by rw [hthread])) hfree' (h ending)).mono
        fun a b' hanswered => ?_
      obtain ⟨stream, rfl, hpost, hfreeB⟩ := hanswered
      exact ⟨hpost stream.ending, hfreeB⟩
    | _ => exact ho.elim
  · refine ⟨fun hremote => absurd hremote ho, fun _ => ?_⟩
    have hact : (∃ a, world.Answers ⟨o, a⟩) ∧ ∀ a, world.Answers ⟨o, a⟩ →
        post a (v.1.store, v.2 ++ [⟨o, a⟩]) := by
      cases o with
      | exchange endpoint frame => exact absurd trivial ho
      | _ => exact h
    obtain ⟨⟨a, ha⟩, hall⟩ := hact
    -- A process gets the answers that its run gets, and these operations are answered to a run.
    have hiff : ∀ a, LaunchAnswers world env ⟨o, a⟩ ↔ world.Answers ⟨o, a⟩ := by
      intro a'
      cases o with
      | loadEnvironment => exact ha.elim
      | serveEnclaveRpc endpoint => exact ha.elim
      | _ => rfl
    exact ⟨⟨a, (hiff a).mpr ha⟩, fun a' ha' => ⟨hall a' ((hiff a').mp ha'), hfree⟩⟩

/-- What a program ensures as a run, it ensures as a process. -/
theorem ensures_of_run {α : Type} {p : EnclaveProgram α} {v : BrokerState × List EnclaveEvent}
    {fault : AppError → S3Store × List EnclaveEvent → Prop}
    {post : α → S3Store × List EnclaveEvent → Prop}
    (hoffers : brokers.Offers config peerCid)
    (h : p.Ensures (aloneSpec world crates config peerCid) fault post (runView v))
    (hfree : v.1.HasFree) :
    p.Ensures (brokers.alone crates world env config peerCid).spec
      (fun e v' => fault e (runView v') ∧ v'.1.HasFree)
      (fun a v' => post a (runView v') ∧ v'.1.HasFree) v :=
  h.refine (alone_of_aloneSpec hoffers) hfree

/-! ## The start of a process -/

/-- In this environment a process comes to act as this run: it finds the broker, is sent its
settings, and passes the checks on them. -/
structure Starts (env : Environment) (config : BrokerConfig) (run : InitRun) : Prop where
  endpoint : Endpoint.parse ((env.var "ENCLAVE_BROKER_ENDPOINT").getD defaultBrokerEndpoint) =
    .ok run.s3Client.endpoint
  command : ∃ command, env.argument = .ok command ∧
    overrideMode command config.settings = .ok run.settings
  fits : Fits (BrokerResponse.settings config.settings)
  valid : validateKmsConfiguration run.settings = .ok ()
  kmsClient : KmsDataKeyClient.fromEnv env run.s3Client.endpoint = .ok run.kmsClient

variable {run : InitRun} {v : BrokerState × List EnclaveEvent}

/-- Under these circumstances a process is told its settings. -/
theorem ensures_startUp (hlaw : crates.Lawful)
    (hoffers : brokers.Offers config peerCid) (hadmits : config.Admits peerCid)
    (h : Starts env config run) (hfree : v.1.HasFree) :
    (startUp crates).Ensures (brokers.alone crates world env config peerCid).spec
      (fun _ _ => False) (fun started v' => started = (env, run.s3Client.endpoint, run.settings) ∧
        v'.1.store = v.1.store ∧ v'.1.HasFree) v := by
  obtain ⟨command, hargument, hoverride⟩ := h.command
  refine ⟨fun hremote => absurd hremote id, fun _ => ⟨⟨.ok env, rfl⟩, fun loaded hloaded => ?_⟩⟩
  obtain rfl : loaded = .ok env := hloaded
  refine ensures_ofExcept_bind (ofText_eq_ok.mpr h.endpoint) ?_
  -- The settings are those of the broker, which reads nothing from the store for them.
  have hasked : (requestBrokerSettings crates run.s3Client.endpoint).Ensures
      (aloneSpec world crates config peerCid) (fun _ _ => False) (fun settings w =>
        settings = config.settings ∧ w.1 = v.1.store)
      (runView (v.1, v.2 ++ [⟨.loadEnvironment, .ok env⟩])) := by
    have hanswer : (handleRequest config .getSettings).Ensures (servedSpec world)
        (fun _ _ => False) (fun response store => response = .settings config.settings ∧
          store = v.1.store) v.1.store := ⟨rfl, rfl⟩
    refine Ensures.bind ((ensures_requestBroker hlaw hadmits
      (by unfold Fits; decide) hanswer ?_).imp ?_)
    · rintro response store ⟨rfl, _⟩
      exact ⟨h.fits, fun _ => BrokerResponse.noConfusion⟩
    · rintro response w ⟨rfl, hstore⟩
      exact ⟨rfl, hstore⟩
  refine Ensures.bind ((ensures_of_run hoffers hasked hfree).mono (fun _ _ hfalse => hfalse.1) ?_)
  rintro settings v' ⟨⟨rfl, hstore⟩, hfree'⟩
  refine ensures_ofExcept_bind (commandArgument_eq_ok.mpr hargument) ?_
  exact ensures_ofExcept_bind hoverride ⟨rfl, hstore, hfree'⟩

/-! ## In init-key mode -/

/-- A process with the events `tr` initializes as a run, whose events are `tr'`. -/
structure Initializing (crates : Crates) (tr : List EnclaveEvent) (run : InitRun)
    (tr' : List EnclaveEvent) : Prop where
  started : ∃ tr₀ env, tr = tr₀ ++ tr' ∧
    (startUp crates).Yields tr₀ (.ok (env, run.s3Client.endpoint, run.settings)) ∧
    KmsDataKeyClient.fromEnv env run.s3Client.endpoint = .ok run.kmsClient
  mode : run.settings.startupMode = .initKey
  valid : validateKmsConfiguration run.settings = .ok ()

/-- A process that asks to save something initializes, and asks as its run. -/
theorem exists_initializing {tr : List EnclaveEvent} {o : EnclaveOp} (hsaves : o.Saves)
    (h : (decryptServerTeeMain crates).Issues tr o) : ∃ run tr', Initializing crates tr run tr' ∧
      AsksToSave crates run.s3Client run.kmsClient run.settings tr' o := by
  rw [decryptServerTeeMain_eq] at h
  rcases issues_bind.mp h with h | ⟨tr₀, tr', ⟨env, brokerEndpoint, settings⟩, rfl, hstart, h⟩
  · exact absurd hsaves (uses_startUp.of_issues h).2.1
  cases hmode : settings.startupMode with
  | serve =>
    rcases (uses_actInMode_serve hmode).of_issues h with hreads | hstarts
    · exact absurd hsaves (not_saves_of_reads hreads)
    · exact absurd hsaves (not_saves_of_startsServer hstarts).1
  | initKey =>
    have hchecks : (runDecryptServerTee crates env settings brokerEndpoint).Issues tr' o := by
      rcases issues_bind.mp h with h | ⟨_, _, _, _, _, h⟩
      · exact h
      · rw [if_pos hmode] at h
        exact absurd h issues_ret
    obtain ⟨_, hvalid, h₁⟩ := issues_ofExcept_bind.mp hchecks
    obtain ⟨kmsClient, hclient, h₂⟩ := issues_ofExcept_bind.mp h₁
    rw [hmode] at h₂
    rcases issues_bind.mp h₂ with h₂ | ⟨_, _, _, _, _, h₂⟩
    · exact ⟨⟨⟨brokerEndpoint⟩, kmsClient, settings⟩, tr', ⟨⟨tr₀, env, rfl, hstart, hclient⟩, hmode,
        hvalid⟩, asksToSave_of_issues hsaves h₂⟩
    · exact absurd h₂ issues_ret

/-! ## Where objects come from -/

variable {s t : Processes} {bucket pre : String}

/-- Requests from elsewhere are rejected. -/
def Brokers.RejectsForeign (brokers : Brokers) : Prop :=
  ∀ id, brokers.foreign id → ¬ (brokers.config id).Admits id.peerCid

/-- Every connection is from elsewhere, or carries the beginning of a frame of a process. -/
theorem Brokers.Reaches.traced (hlaw : crates.Lawful) (h : brokers.Reaches crates store₀ s) :
    Service.Traced (brokers.contract hlaw store₀)
      (fun b id => ∃ connection, b.connections id = some connection) brokers.foreign
      (fun _ : ℕ => decryptServerTeeMain crates) s := by
  refine Service.traced_of_reachable ?_ ?_ (fun _ => uses_decryptServerTeeMain)
    (brokerInvariant_start store₀) (fun id hid => ?_) h
  · intro b o id b' id' hcall hid
    cases o with
    | exchange endpoint frame =>
      obtain ⟨received, _, hstep⟩ := hcall
      obtain ⟨_, rfl⟩ := brokerStep_accept.mp hstep
      obtain ⟨connection, hid⟩ := hid
      exact (setConnection_cases hid).symm.imp (fun h => ⟨connection, h.2⟩) fun h => h.1
    | _ => exact hcall.elim
  · rintro b b' id hwork ⟨connection, hid⟩
    cases hwork with
    | accept id' received hforeign hstep =>
      obtain ⟨_, rfl⟩ := brokerStep_accept.mp hstep
      rcases setConnection_cases hid with ⟨rfl, _⟩ | ⟨_, hold⟩
      · exact .inr hforeign
      · exact .inl ⟨connection, hold⟩
    | perform id' choice hstep =>
      obtain ⟨_, _, _, _, hconnection, _, rfl⟩ := brokerStep_perform.mp hstep
      rcases setConnection_cases hid with ⟨rfl, _⟩ | ⟨_, hold⟩
      · exact .inl ⟨_, hconnection⟩
      · exact .inl ⟨connection, hold⟩
    | deliver put hstep =>
      obtain ⟨_, rfl⟩ := brokerStep_deliver.mp hstep
      exact .inl ⟨connection, hid⟩
  · obtain ⟨_, hid⟩ := hid
    cases hid

/-- Every object that was not there from the start is one that a process asked to save. -/
theorem Brokers.Reaches.asksToSave (hlaw : crates.Lawful) (h : brokers.Reaches crates store₀ s)
    (hforeign : brokers.RejectsForeign) {name : String} {body : Bytes}
    (hobject : s.service.store.object (bucket, name) = some body) :
    store₀.object (bucket, name) = some body ∨ ∃ n tr run tr' endpoint,
      tr <+: (s.clients n).trace ∧ Initializing crates tr run tr' ∧
      AsksToSave crates run.s3Client run.kmsClient run.settings tr'
        (.exchange endpoint (saveFrame bucket name body)) := by
  have hsound := h.sound hlaw
  rcases BrokerInvariant.objects hsound.service _ _ hobject with hold |
    ⟨id, connection, trb, hid, hissues⟩
  · exact .inl hold
  -- The thread that wrote it was asked to by its connection.
  obtain ⟨hadmits, request, hreceived, _, _, rfl⟩ := uses_serveConnection.of_issues hissues
  rcases h.traced hlaw id ⟨connection, hid⟩ with hstrange | ⟨n, tr, o, htr, hissuesO, ho, hopened⟩
  · exact absurd hadmits (hforeign id hstrange)
  cases o with
  | exchange endpoint frame =>
    obtain ⟨connection', hid', hcut⟩ := hopened
    rw [hid] at hid'
    obtain rfl := Option.some.inj hid'
    obtain ⟨request', hfits, rfl⟩ := uses_decryptServerTeeMain.of_issues hissuesO
    obtain rfl := receivedRequest_of_prefix hlaw hfits hcut hreceived
    have hsaves : (EnclaveOp.exchange endpoint (saveFrame bucket name body)).Saves :=
      ⟨.saveObjectIfAbsent bucket name body, trivial, rfl⟩
    obtain ⟨run, tr', hinit, hasks⟩ := exists_initializing hsaves hissuesO
    exact .inr ⟨n, tr, run, tr', endpoint, htr, hinit, hasks⟩
  | _ => exact ho.elim

/-! ## Collisions -/

/-- More values may have been used. -/
theorem Leaf.mono {used used' : Bytes → Prop} {name : String} {body : Bytes}
    (h : Leaf crates pre used name body) (hle : ∀ v, used v → used' v) :
    Leaf crates pre used' name body := by
  cases h with
  | package d hused => exact .package d (hle _ hused)
  | document draft hused => exact .document draft (hle _ hused)

/-- The values in use by any of the processes. -/
def UsedByProcesses (crates : Crates) (s : Processes) (v : Bytes) : Prop :=
  ∃ n tr run tr', tr <+: (s.clients n).trace ∧ Initializing crates tr run tr' ∧
    Hashed crates run tr' v

/-- A process initializes the bucket and prefix of the brokers. -/
theorem Initializing.target {tr tr' : List EnclaveEvent} (h : Initializing crates tr run tr')
    (hsame : brokers.SameTarget bucket pre) {store : S3Store}
    (htruth : ∀ e ∈ tr, brokers.Truthful crates store e) (hsends : ∀ e ∈ tr, SendsRequests e.op) :
    run.settings.s3Bucket = bucket ∧ run.settings.s3Prefix = pre := by
  obtain ⟨tr₀, env, rfl, hstart, _⟩ := h.started
  exact ActsBy.target (told_of_yields hstart tr') hsame htruth hsends

/-- In every state, what was told to a process is true, and it has sent requests only. -/
theorem Brokers.Reaches.told (hlaw : crates.Lawful) (h : brokers.Reaches crates store₀ s) {n : ℕ}
    {tr : List EnclaveEvent} (htr : tr <+: (s.clients n).trace) :
    (∀ e ∈ tr, brokers.Truthful crates s.service.store e) ∧ ∀ e ∈ tr, SendsRequests e.op := by
  have hclient := (h.sound hlaw).clients n
  have hsends := (uses_decryptServerTeeMain.of_steps hclient.steps).1
  exact ⟨fun e he => hclient.truth e (htr.subset he), fun e he => hsends e (htr.subset he)⟩

/-- What a process asks to save, other than a manifest, is a leaf. -/
theorem Brokers.Reaches.leaf (hlaw : crates.Lawful) (h : brokers.Reaches crates store₀ s)
    (hsame : brokers.SameTarget bucket pre) {n : ℕ} {tr tr' : List EnclaveEvent}
    (htr : tr <+: (s.clients n).trace) (hinit : Initializing crates tr run tr')
    {endpoint : Endpoint}
    {bucket' name : String} {body : Bytes} (hne : name ≠ objectKey pre manifestFileName)
    (hasks : AsksToSave crates run.s3Client run.kmsClient run.settings tr'
      (.exchange endpoint (saveFrame bucket' name body))) :
    Leaf crates pre (UsedByProcesses crates s) name body := by
  obtain ⟨htruth, hsends⟩ := h.told hlaw htr
  obtain ⟨_, rfl⟩ := hinit.target hsame htruth hsends
  -- `AsksToSave.leaf` is about a state of runs: here one in which the run is at this point.
  have hleaf := @AsksToSave.leaf crates (fun _ => run)
    ⟨.start store₀, fun _ => ⟨tr', .fail (.err ""), none⟩⟩ bucket' hlaw 0 _ _ _ _ List.prefix_rfl
    hasks hne
  exact hleaf.mono fun v ⟨_, hv⟩ => ⟨n, tr, run, tr', htr, hinit, hv⟩

/-- What can be restored still can when more is stored. -/
theorem Restorable.mono {store store' : S3Store} {publicKey : Vector UInt8 32}
    {reference : RecoveryObjectReference} {body : Bytes} {package : RecoveryPackage}
    (h : Restorable world crates store bucket pre publicKey reference body package)
    (hle : store ≤ store') :
    Restorable world crates store' bucket pre publicKey reference body package :=
  { h with object := Store.object_of_le hle h.object }

/-- What is complete stays complete when more is stored. -/
theorem Complete.mono {store store' : S3Store} {settings : ParentSettings} {draft : Draft}
    (h : Complete world crates store bucket pre settings draft) (hle : store ≤ store') :
    Complete world crates store' bucket pre settings draft :=
  { h with
    manifest := Store.object_of_le hle h.manifest
    publicObject := Store.object_of_le hle h.publicObject
    recoveryObjects := fun reference hreference => by
      obtain ⟨body, package, hrestorable⟩ := h.recoveryObjects reference hreference
      exact ⟨body, package, hrestorable.mono hle⟩ }

/-- A process up to the point where one in serve mode starts the server. -/
def launch (crates : Crates) : EnclaveProgram (Environment × ParentSettings) := do
  let (env, brokerEndpoint, settings) ← startUp crates
  runDecryptServerTee crates env settings brokerEndpoint
  return (env, settings)

/-- A process from there on. -/
def afterLaunch : Environment × ParentSettings → EnclaveProgram Unit
  | (env, settings) => do
    if settings.startupMode = .initKey then return
    let rpcEndpoint ← ofText
      (Endpoint.parse ((env.var "ENCLAVE_RPC_LISTEN_ENDPOINT").getD defaultEnclaveRpcEndpoint))
    serveEnclaveRpc rpcEndpoint

/-- A process is its two parts. -/
theorem decryptServerTeeMain_eq_launch :
    decryptServerTeeMain crates = (launch crates).bind afterLaunch := by
  rw [decryptServerTeeMain_eq]
  unfold launch actInMode afterLaunch
  simp only [bind_eq, Program.bind_assoc, pure_eq, ret_bind]

/-- A process in serve mode starts the server. -/
theorem afterLaunch_serve {settings : ParentSettings} (hmode : settings.startupMode = .serve)
    {rpcEndpoint : Endpoint}
    (hrpc : Endpoint.parse ((env.var "ENCLAVE_RPC_LISTEN_ENDPOINT").getD
      defaultEnclaveRpcEndpoint) = .ok rpcEndpoint) : ∃ k, afterLaunch (env, settings) =
        .op (.serveEnclaveRpc rpcEndpoint) k := by
  unfold afterLaunch
  dsimp only
  rw [if_neg (by rw [hmode]; decide), hrpc]
  exact ⟨_, rfl⟩

/-- A process that has not done anything yet. -/
def Fresh (crates : Crates) (s : Processes) (m : ℕ) : Prop :=
  s.clients m = ⟨[], decryptServerTeeMain crates, none⟩

/-- A process in serve mode under these circumstances restores the key of a draft that is complete,
and goes on to start the server. -/
theorem ensures_launch_serve (hlaw : crates.Lawful) (hoffers : brokers.Offers config peerCid)
    (hstarts : Starts env config run) (hmode : run.settings.startupMode = .serve)
    (h : Supports world config peerCid run.kmsClient run.settings) {b : BrokerState}
    (hfree : b.HasFree) {settings₀ : ParentSettings} {draft : Draft}
    (hcomplete : Complete world crates b.store run.settings.s3Bucket run.settings.s3Prefix settings₀
      draft) {key : KmsKeySettings} (hkey : key ∈ run.settings.kmsKeys)
    {reference : RecoveryObjectReference} (hreference : reference ∈ draft.recoveryObjects)
    (harn : reference.kmsKeyArn = key.keyArn) :
    (launch crates).Ensures (brokers.alone crates world env config peerCid).spec
      (fun _ _ => False) (fun launched v' => launched = (env, run.settings) ∧
        InUse crates v'.2 (draft.publicKey crates)) (b, []) := by
  refine Ensures.bind ((Service.Solo.ensures_traced
    (ensures_startUp hlaw hoffers h.admits hstarts hfree)).imp ?_)
  rintro _ ⟨b₁, tr₀⟩ ⟨⟨rfl, hstore, hfree₁⟩, tr₀', htr₀, hyields⟩
  rw [List.nil_append] at htr₀
  obtain rfl : tr₀ = tr₀' := htr₀
  show Ensures _ _ _ (Program.bind (runDecryptServerTee crates env run.settings
    run.s3Client.endpoint) fun _ => .ret (env, run.settings)) _
  refine Ensures.bind (ensures_ofExcept_bind hstarts.valid
    (ensures_ofExcept_bind hstarts.kmsClient ?_))
  rw [hmode]
  -- What the manifest refers to is still there.
  have hcomplete₁ : Complete world crates (runView (b₁, tr₀)).1 run.settings.s3Bucket
      run.settings.s3Prefix settings₀ draft := by
    show Complete world crates b₁.store _ _ _ _
    rw [hstore]
    exact hcomplete
  refine Ensures.bind ((ensures_of_run hoffers (ensures_traced (ensures_restoreKeyMaterial hlaw h
    hcomplete₁ hkey hreference harn)) hfree₁).mono (fun _ _ hfalse => hfalse.1) ?_)
  rintro pair ⟨b₂, tr₂⟩ ⟨⟨⟨hpublic, _⟩, tr, htr₂, hpair, _⟩, _⟩
  refine ⟨rfl, ?_⟩
  rw [← hpublic]
  obtain rfl : tr₂ = tr₀ ++ tr := htr₂
  exact .restored (told_of_yields hyields tr) (List.suffix_append _ _).isInfix hpair

/-- From here on a process in serve mode that is alone, meets no fault and still has one of the keys
of a run starts the server with this public key. -/
def Available (world : Surroundings) (crates : Crates) (brokers : Brokers) (run : InitRun)
    (publicKey : Vector UInt8 32) (t : Processes) : Prop :=
  ∀ u, brokers.Later crates t u → ∀ (m : ℕ) (env : Environment) (config : BrokerConfig)
    (peerCid : Option UInt32) (run' : InitRun) (rpcEndpoint : Endpoint), Fresh crates u m →
    brokers.Offers config peerCid → Starts env config run' → run'.settings.startupMode = .serve →
    Supports world config peerCid run'.kmsClient run'.settings →
    (∃ key ∈ run'.settings.kmsKeys, ∃ key' ∈ run.settings.kmsKeys, key'.keyArn = key.keyArn) →
    Endpoint.parse ((env.var "ENCLAVE_RPC_LISTEN_ENDPOINT").getD defaultEnclaveRpcEndpoint) =
      .ok rpcEndpoint →
    Eventually ((brokers.alone crates world env config peerCid).Step m) (fun v =>
      (∃ k, (v.clients m).program = .op (.serveEnclaveRpc rpcEndpoint) k) ∧
        InUse crates (v.clients m).trace publicKey) u

/-- Where everything that the manifest of a draft refers to is there, its key is available. -/
theorem available_of_complete (hlaw : crates.Lawful) (hreach : brokers.Reaches crates store₀ t)
    (hsame : brokers.SameTarget bucket pre) {settings₀ : ParentSettings} {draft : Draft}
    (hcomplete : Complete world crates t.service.store bucket pre settings₀ draft)
    (hreferences : ∀ key ∈ run.settings.kmsKeys, ∃ reference ∈ draft.recoveryObjects,
      reference.kmsKeyArn = key.keyArn) :
    Available world crates brokers run (draft.publicKey crates) t := by
  rintro u hlater m env config peerCid run' rpcEndpoint hfresh hoffers hstarts hmode hsupports
    ⟨key, hkey, key', hkey', harn⟩ hrpc
  obtain ⟨reference, hreference, hreferenceArn⟩ := hreferences key' hkey'
  have hreachU : brokers.Reaches crates store₀ u := hreach.trans hlater
  -- The process serves the bucket and prefix of its broker.
  obtain ⟨command, _, hoverride⟩ := hstarts.command
  obtain ⟨_, hbucket, hpre⟩ := overrideMode_eq_ok hoverride
  obtain ⟨number, _, hconfig⟩ := hoffers 0
  have htarget := hsame ⟨peerCid, number⟩
  rw [hconfig] at htarget
  have hcompleteU := hcomplete.mono (store_le_of_later hlater)
  rw [← htarget.1, ← htarget.2, ← hbucket, ← hpre] at hcompleteU
  have hlaunch := ensures_launch_serve hlaw hoffers hstarts hmode hsupports
    hreachU.hasFree hcompleteU hkey hreference (hreferenceArn.trans harn)
  have hm : u.clients m = ⟨[], (launch crates).bind afterLaunch, none⟩ := by
    rw [← decryptServerTeeMain_eq_launch]
    exact hfresh
  refine (Service.Solo.eventually_of_ensures hm hlaunch).mono ?_
  rintro v ⟨tr, ⟨launched, hv, rfl, hinUse⟩ | ⟨e, _, hfalse⟩⟩
  · rw [hv]
    exact ⟨afterLaunch_serve hmode hrpc, hinUse⟩
  · exact hfalse.elim

end AwsKmsDemo
