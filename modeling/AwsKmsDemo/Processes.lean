import AwsKmsDemo.Gating
import AwsKmsDemo.Interaction.Service
import AwsKmsDemo.System

/-!
# Enclave processes against brokers and S3

Any number of runs of `decrypt_server_tee_main`, each in either mode, the brokers that they talk to,
and the S3 store behind the brokers. Every process asks a broker for its settings first. Connections
from elsewhere may come to the brokers as well, and bring anything.
-/

namespace AwsKmsDemo

open Interaction Interaction.Program Stream Storage

/-! ## The brokers as a service -/

/-- The brokers of a deployment. -/
structure Brokers where
  /-- The configuration of the broker that serves a connection. -/
  config : ConnectionId → BrokerConfig
  /-- The connections that may come from elsewhere. -/
  foreign : ConnectionId → Prop

section Service

variable (crates : Crates) (brokers : Brokers)

/-- A frame is sent, of which the beginning reaches a broker. -/
def Brokers.Sends (s : BrokerState) : EnclaveOp → ConnectionId → BrokerState → Prop
  | .exchange _ frame, id, t => ∃ received : Reader, received.bytes <+: frame ∧
      BrokerStep (brokersThread crates brokers.config) s (.accept id received) t
  | _, _, _ => False

/-- A step of the brokers that no process takes part in. -/
inductive Brokers.Works (s t : BrokerState) : Prop where
  /-- A connection comes from elsewhere. -/
  | accept (id : ConnectionId) (received : Reader) (hforeign : brokers.foreign id)
      (hstep : BrokerStep (brokersThread crates brokers.config) s (.accept id received) t)
  /-- A thread performs its next operation. -/
  | perform (id : ConnectionId) (choice : Choice)
      (hstep : BrokerStep (brokersThread crates brokers.config) s (.perform id choice) t)
  /-- A request to write that had failed takes effect. -/
  | deliver (put : PutRequest)
      (hstep : BrokerStep (brokersThread crates brokers.config) s (.deliver put) t)

/-- What a process may make of a connection on which it waits. -/
def Brokers.Answers (s : BrokerState) (id : ConnectionId) : (o : EnclaveOp) → o.Ans → Prop
  | .exchange _ _, a => Replies s id a
  | _, _ => False

/-- The brokers, as a service for the enclave processes. -/
def Brokers.service : Service EnclaveOp.Ans BrokerState ConnectionId where
  Remote := EnclaveOp.IsExchange
  Call := brokers.Sends crates
  Work := brokers.Works crates
  Reply := Brokers.Answers

/-- The state of the processes, the brokers and S3. -/
abbrev Processes := Clients EnclaveOp.Ans BrokerState ConnectionId ℕ AppError Unit

/-- No process has done anything yet. -/
def Processes.start (store₀ : S3Store) : Processes :=
  Clients.start (.start store₀) fun _ => decryptServerTeeMain crates

/-- The states that the processes and brokers can reach from a store. -/
def Brokers.Reaches (store₀ : S3Store) (s : Processes) : Prop :=
  Relation.ReflTransGen (brokers.service crates).Step (Processes.start crates store₀) s

/-- However the processes and brokers go on from a state. -/
abbrev Brokers.Later (s t : Processes) : Prop :=
  Relation.ReflTransGen (brokers.service crates).Step s t

end Service

/-! ## What the processes send -/

variable {crates : Crates} {brokers : Brokers} {store₀ : S3Store} {s t : Processes}
  {tr : List EnclaveEvent}

/-- The frames that a process sends are those of requests. -/
def SendsRequests : EnclaveOp → Prop
  | .exchange _ frame => ∃ request : BrokerRequest, Fits request ∧ frame = frameOf (toVec request)
  | _ => True

/-- An operation that asks the broker sends a request. -/
theorem sendsRequests_of_asks {endpoint : Endpoint} {request : BrokerRequest} {o : EnclaveOp}
    (ho : Asks endpoint request o) : SendsRequests o := by
  rcases ho with rfl | ⟨hfits, rfl⟩
  · trivial
  · exact ⟨request, hfits, rfl⟩

/-- The frames that an initialization sends are those of requests. -/
theorem sendsRequests_of_initializes {o : EnclaveOp} (ho : Initializes o) : SendsRequests o := by
  cases o with
  | exchange endpoint frame => exact ho
  | _ => trivial

/-- Starting the server sends nothing else than requests. -/
theorem sendsRequests_of_startsServer {o : EnclaveOp} (ho : o.StartsServer) : SendsRequests o := by
  cases o with
  | serveEnclaveRpc endpoint => trivial
  | _ => exact ho.elim

/-- An enclave process sends requests only. -/
theorem uses_decryptServerTeeMain : (decryptServerTeeMain crates).Uses SendsRequests := by
  rw [decryptServerTeeMain_eq]
  refine Uses.bind ?_ fun ⟨env, brokerEndpoint, settings⟩ => ?_
  · refine Uses.bind ⟨trivial, fun _ => uses_ofExcept⟩ fun env =>
      uses_ofExcept_bind fun endpoint _ => ?_
    refine Uses.bind (uses_requestBrokerSettings.mono fun _ => sendsRequests_of_asks) fun _ => ?_
    exact uses_ofExcept_bind fun _ _ => uses_ofExcept_bind fun _ _ => trivial
  · cases hmode : settings.startupMode with
    | initKey => exact (uses_actInMode_initKey hmode).mono fun _ => sendsRequests_of_initializes
    | serve =>
      refine (uses_actInMode_serve hmode).mono fun o ho => ?_
      rcases ho with ho | ho
      · exact sendsRequests_of_initializes (initializes_of_reads ho)
      · exact sendsRequests_of_startsServer ho

/-! ## What the brokers promise -/

/-- What a response tells about the store, and about the brokers. -/
def Brokers.Informs (brokers : Brokers) (store : S3Store) (request : BrokerRequest)
    (response : BrokerResponse) : Prop :=
  Tells store request response ∧
    ∀ settings, response = .settings settings → ∃ id, settings = (brokers.config id).settings

/-- What an answer to an exchange tells is true. -/
def Brokers.Truthful (crates : Crates) (brokers : Brokers) (store : S3Store) : EnclaveEvent → Prop
  | ⟨.exchange _ frame, .ok stream⟩ => ∀ request response, frame = frameOf (toVec request) →
      receiveResponse crates stream = .ok response → brokers.Informs store request response
  | _ => True

/-- What is true for several brokers is true in the sense of a single one. -/
theorem Brokers.Truthful.truthful {store : S3Store} {e : EnclaveEvent}
    (h : brokers.Truthful crates store e) : AwsKmsDemo.Truthful crates store e := by
  obtain ⟨o, a⟩ := e
  cases o with
  | exchange endpoint frame =>
    cases a with
    | error message => trivial
    | ok stream => exact fun request response hframe hreceive =>
      (h request response hframe hreceive).1
  | _ => trivial

/-- What was true of a store is true of every later store. -/
theorem Brokers.Truthful.mono {store store' : S3Store} {e : EnclaveEvent}
    (h : brokers.Truthful crates store e) (hle : store ≤ store') :
    brokers.Truthful crates store' e := by
  unfold Brokers.Truthful at h ⊢
  split at h
  · intro request response hframe hreceive
    obtain ⟨htells, hsettings⟩ := h request response hframe hreceive
    exact ⟨htells.mono hle, hsettings⟩
  · trivial

/-- Only a request for the settings is answered with settings, and with the broker's own. -/
theorem settings_of_yields_handleRequest {config : BrokerConfig} {request : BrokerRequest}
    {settings : ParentSettings} {trb : List BrokerEvent}
    (h : (handleRequest config request).Yields trb (.ok (.settings settings))) :
    settings = config.settings := by
  by_cases hne : request = .getSettings
  · subst hne
    exact BrokerResponse.settings.inj (yields_ret_ok.mp h).2
  · rcases cases_of_yields_handleRequest hne h with
      ⟨_, hresponse, _⟩ | ⟨trb', _, hanswer | ⟨_, hresponse, _⟩⟩
    · cases hresponse
    · cases request with
      | getSettings => exact absurd rfl hne
      | getAwsCredentials slot =>
        obtain ⟨_, _, _, _, _, h₁⟩ := yields_bind_ok.mp hanswer
        obtain ⟨_, _, _, _, _, h₂⟩ := yields_bind_ok.mp h₁
        obtain ⟨_, _, _, _, _, h₃⟩ := yields_bind_ok.mp h₂
        split at h₃
        · simp at h₃
        · cases (yields_ret_ok.mp h₃).2
      | loadObject bucket key =>
        obtain ⟨_, _, h₁⟩ := yields_ofExcept_bind_ok.mp hanswer
        obtain ⟨_, _, _, _, _, h₂⟩ := yields_bind_ok.mp h₁
        cases (yields_ret_ok.mp h₂).2
      | saveObjectIfAbsent bucket key body =>
        obtain ⟨_, _, h₁⟩ := yields_ofExcept_bind_ok.mp hanswer
        obtain ⟨_, _, h₂⟩ := yields_ofExcept_bind_ok.mp h₁
        obtain ⟨_, _, _, _, _, h₃⟩ := yields_bind_ok.mp h₂
        cases (yields_ret_ok.mp h₃).2
    · cases hresponse

/-- The thread of a connection writes the settings of its own broker, if any. -/
theorem settings_of_yields_serveConnection {config : BrokerConfig} {peerCid : Option UInt32}
    {received : Reader} {trb : List BrokerEvent} {bytes : Bytes}
    (h : (serveConnection crates config peerCid received).Yields trb (.ok bytes)) :
    ∃ response, bytes = writtenResponse response ∧
      ∀ settings, response = .settings settings → settings = config.settings := by
  unfold serveConnection at h
  obtain ⟨trb₁, trb₂, response, rfl, hrespond, h₁⟩ := yields_bind_ok.mp h
  obtain ⟨rfl, rfl⟩ := yields_ret_ok.mp h₁
  refine ⟨response, rfl, fun settings hsettings => ?_⟩
  subst hsettings
  by_cases hadmits : config.Admits peerCid
  · cases hreceived : receivedRequest crates received with
    | error e =>
      rw [hreceived] at hrespond
      cases (yields_ret_ok.mp hrespond).2
    | ok request =>
      rw [hreceived, respond_of_admits hadmits] at hrespond
      exact settings_of_yields_handleRequest hrespond
  · obtain ⟨message, hmessage⟩ := respond_of_not_admits hadmits (receivedRequest crates received)
    rw [hmessage] at hrespond
    cases (yields_ret_ok.mp hrespond).2

/-- What was written to a connection, its thread has yielded. -/
theorem BrokerInvariant.yields_of_written {serve : ConnectionId → Reader → BrokerProgram Bytes}
    {b : BrokerState} (h : BrokerInvariant serve store₀ b) {id : ConnectionId} {bytes : Bytes}
    (hwritten : b.written id = some bytes) : ∃ connection trb,
      b.connections id = some connection ∧
      (serve id connection.received).Yields trb (.ok bytes) := by
  unfold BrokerState.written at hwritten
  obtain ⟨connection, hid, hconnection⟩ := Option.bind_eq_some_iff.mp hwritten
  obtain ⟨trb, hsteps, _⟩ := h.threads id connection hid
  unfold Connection.written at hconnection
  split at hconnection
  · rename_i hret
    obtain rfl := Option.some.inj hconnection
    rw [hret] at hsteps
    exact ⟨connection, trb, hid, hsteps⟩
  · cases hconnection

/-- Settings that a process reads from a connection are those of the broker that serves it. -/
theorem settings_of_written (hlaw : crates.Lawful) {b : BrokerState}
    (h : BrokerInvariant (brokersThread crates brokers.config) store₀ b) {id : ConnectionId}
    {stream : Reader} (hstream : stream.bytes <+: (b.written id).getD [])
    {settings : ParentSettings}
    (hreceive : receiveResponse crates stream = .ok (.settings settings)) :
    settings = (brokers.config id).settings := by
  have hread := receiveResponse_eq_ok hreceive
  cases hwritten : b.written id with
  | none =>
    rw [hwritten, Option.getD_none, List.prefix_nil] at hstream
    have hshort : stream.bytes.length < 4 := by rw [hstream]; decide
    rw [readJsonFrame_of_short_header _ hshort] at hread
    cases hread
  | some bytes =>
    rw [hwritten, Option.getD_some] at hstream
    obtain ⟨connection, trb, _, hyields⟩ := h.yields_of_written hwritten
    obtain ⟨response, rfl, hsettings⟩ := settings_of_yields_serveConnection hyields
    exact hsettings settings (readJsonFrame_of_prefix_writtenResponse hlaw hstream hread).symm

/-- A connection carries the beginning of the frame of an exchange. -/
def Carries (b : BrokerState) (id : ConnectionId) : EnclaveOp → Prop
  | .exchange _ frame => ∃ connection, b.connections id = some connection ∧
      connection.received.bytes <+: frame
  | _ => False

/-- What a process reads from a connection that carries its request is true. -/
theorem truthful_of_replies (hlaw : crates.Lawful) {b : BrokerState}
    (h : BrokerInvariant (brokersThread crates brokers.config) store₀ b) {id : ConnectionId}
    {o : EnclaveOp} (ho : SendsRequests o) (hcarries : Carries b id o) {a : o.Ans}
    (ha : Brokers.Answers b id o a) : brokers.Truthful crates b.store ⟨o, a⟩ := by
  cases o with
  | exchange endpoint frame =>
    cases a with
    | error message => trivial
    | ok stream =>
      intro request response hframe hreceive
      obtain ⟨connection, hid, hcut⟩ := hcarries
      obtain ⟨request', hfits, hframe'⟩ := ho
      obtain rfl := toVec_injective hlaw (frameOf_injective (hframe'.symm.trans hframe))
      rw [hframe] at hcut
      -- `tells_of_written` is about a state of runs and brokers, of which only the brokers matter.
      refine ⟨tells_of_written (s := ⟨b, fun _ => ⟨[], .fail (.err ""), none⟩⟩)
        hlaw h hid hfits hcut ha hreceive, fun settings hsettings => ⟨id, ?_⟩⟩
      subst hsettings
      exact settings_of_written hlaw h ha hreceive
  | _ => exact hcarries.elim

/-- The later states of the brokers: nothing is taken from the store, and connections stay. -/
structure BrokerState.Le (b b' : BrokerState) : Prop where
  store : b.store ≤ b'.store
  received : ∀ id connection, b.connections id = some connection →
    ∃ connection', b'.connections id = some connection' ∧
      connection'.received = connection.received

/-- A step of the brokers leads to a later state. -/
theorem BrokerStep.later {serve : ConnectionId → Reader → BrokerProgram Bytes} {b b' : BrokerState}
    {l : BrokerLabel} (h : BrokerStep serve b l b') : b.Le b' where
  store := h.le
  received _ _ hid := h.received hid

/-- What the brokers promise to the processes. -/
def Brokers.contract (hlaw : crates.Lawful) (brokers : Brokers) (store₀ : S3Store) :
    (brokers.service crates).Contract SendsRequests where
  Inv := BrokerInvariant (brokersThread crates brokers.config) store₀
  Le := BrokerState.Le
  Opened := Carries
  Truth b e := brokers.Truthful crates b.store e
  call {b o id b'} hinv _ _ hcall := by
    cases o with
    | exchange endpoint frame =>
      obtain ⟨received, hcut, hstep⟩ := hcall
      refine ⟨hinv.step hstep, hstep.later, ?_⟩
      obtain ⟨_, rfl⟩ := brokerStep_accept.mp hstep
      exact ⟨_, setConnection_self _ _ _, hcut⟩
    | _ => exact hcall.elim
  work hinv hwork := by
    cases hwork with
    | accept id received hforeign hstep => exact ⟨hinv.step hstep, hstep.later⟩
    | perform id choice hstep => exact ⟨hinv.step hstep, hstep.later⟩
    | deliver put hstep => exact ⟨hinv.step hstep, hstep.later⟩
  opened_mono {b b' id o} hle hopened := by
    cases o with
    | exchange endpoint frame =>
      obtain ⟨connection, hid, hcut⟩ := hopened
      obtain ⟨connection', hid', hreceived⟩ := hle.received id connection hid
      exact ⟨connection', hid', by rw [hreceived]; exact hcut⟩
    | _ => exact hopened.elim
  truth_mono hle h := h.mono hle.store
  truth_act {b o a} ho := by
    cases o with
    | exchange endpoint frame => exact absurd trivial ho
    | _ => trivial
  truth_reply hinv ho hopened ha := truthful_of_replies hlaw hinv ho hopened ha

/-- In every state, every process is somewhere in its program, and what it was told is true. -/
theorem Brokers.Reaches.sound (hlaw : crates.Lawful) (h : brokers.Reaches crates store₀ s) :
    (brokers.contract hlaw store₀).Sound (fun _ => decryptServerTeeMain crates) s :=
  (Service.Contract.sound_start (brokerInvariant_start store₀)).of_reachable
    (fun _ => uses_decryptServerTeeMain) h

/-- However the processes and brokers go on, nothing is taken from the store. -/
theorem store_le_of_later (h : brokers.Later crates s t) : s.service.store ≤ t.service.store := by
  induction h with
  | refl => exact le_rfl
  | tail _ hstep ih =>
    refine ih.trans ?_
    cases hstep with
    | act => exact le_rfl
    | reply => exact le_rfl
    | @call n tr o k id b ho hn hcall =>
      cases o with
      | exchange endpoint frame =>
        obtain ⟨_, _, hstep⟩ := hcall
        exact hstep.le
      | _ => exact hcall.elim
    | work hwork =>
      cases hwork with
      | accept id received hforeign hstep => exact hstep.le
      | perform id choice hstep => exact hstep.le
      | deliver put hstep => exact hstep.le

end AwsKmsDemo
