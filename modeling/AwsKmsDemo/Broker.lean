import AwsKmsDemo.Crates
import AwsKmsDemo.Framing
import AwsKmsDemo.S3

/-!
# The broker's connection handler

The body of the loop of `serve_enclave_broker` in `src/lib.rs`, which answers one connection. What a
connection sends is a `Reader`, and what is written to it is the result of the program. A thread
that panics writes nothing.
-/

namespace AwsKmsDemo

open Interaction Interaction.Program Stream

/-- A `SharedCredentialsProvider` that the broker configures. -/
inductive CredentialsProvider where
  /-- The default credential chain. -/
  | defaultChain
  /-- Credentials that were set explicitly. -/
  | explicit (credentials : Credentials)
  deriving DecidableEq

/-- `provide_credentials` -/
def provideCredentials : CredentialsProvider → BrokerProgram (Except String Credentials)
  | .defaultChain => perform BrokerOp.defaultCredentials
  | .explicit credentials => return .ok credentials

/-- What the handler of a connection has from `serve_enclave_broker`. -/
structure BrokerConfig where
  settings : ParentSettings
  credentialsProviders : List (KmsSlot × Option CredentialsProvider)
  allowedEnclaveCid : Option UInt32
  deriving DecidableEq

/-- `find_credentials_provider` -/
def findCredentialsProvider (providers : List (KmsSlot × Option CredentialsProvider))
    (slot : KmsSlot) : AppResult CredentialsProvider :=
  match (providers.find? fun provider => provider.1 = slot).bind Prod.snd with
  | some provider => .ok provider
  | none =>
    .error (.err s!"no credentials provider configured for {slot.label} KMS; set KMS_{slot.upperLabel}_ACCESS_KEY_ID and KMS_{slot.upperLabel}_SECRET_ACCESS_KEY")

/-- The objects that a broker serves: those of its bucket below its prefix. -/
def Below (allowedBucket allowedPrefix bucket key : String) : Prop :=
  bucket = allowedBucket ∧ (allowedPrefix ++ "/").toList <+: key.toList

instance (allowedBucket allowedPrefix bucket key : String) :
    Decidable (Below allowedBucket allowedPrefix bucket key) :=
  inferInstanceAs (Decidable (_ ∧ _))

/-- `validate_s3_target` -/
def validateS3Target (bucket key allowedBucket allowedPrefix : String) : AppResult Unit :=
  let allowedObjectPrefix := allowedPrefix ++ "/"
  failIf (bucket ≠ allowedBucket ∨ ¬ allowedObjectPrefix.toList <+: key.toList)
    (.err s!"enclave-broker rejected s3://{bucket}/{key}; only objects below s3://{allowedBucket}/{allowedPrefix}/ are allowed")

/-- The target check accepts exactly the objects below the prefix. -/
theorem validateS3Target_eq_ok {bucket key allowedBucket allowedPrefix : String} {u : Unit} :
    validateS3Target bucket key allowedBucket allowedPrefix = .ok u ↔
      Below allowedBucket allowedPrefix bucket key := by
  unfold validateS3Target Below
  dsimp only
  rw [failIf_eq_ok, not_or, not_not, not_not]

/-- `debug` text of a peer's CID. -/
def debugCid : Option UInt32 → String
  | none => "None"
  | some cid => s!"Some({cid})"

/-- The whole seconds from the Unix epoch to a time, where it is not before the epoch. -/
def secondsSinceEpoch (time : ℤ) : Option UInt64 :=
  if 0 ≤ time then some (UInt64.ofNat (time.toNat / 10^9)) else none

/-- The `async` block of the handler, which answers a request in a runtime. -/
def answerRequest (config : BrokerConfig) : BrokerRequest → BrokerProgram BrokerResponse
  | .getAwsCredentials slot => do
    let provider ← findCredentialsProvider config.credentialsProviders slot
    let credentials ← ofText (← provideCredentials provider)
    match config.settings.kmsKeys.find? fun key => key.slot = slot with
    | none => throw (.err "KMS credential slot has no key settings")
    | some key =>
      return .awsCredentials
        { region := key.region
          accessKeyId := credentials.accessKeyId
          secretAccessKey := credentials.secretAccessKey
          sessionToken := credentials.sessionToken
          expiresAtEpochSeconds := credentials.expiry.bind secondsSinceEpoch }
  | .loadObject bucket key => do
    validateS3Target bucket key config.settings.s3Bucket config.settings.s3Prefix
    return .object (← loadS3Object bucket key)
  | .saveObjectIfAbsent bucket key body => do
    failIf (config.settings.startupMode ≠ .initKey)
      (.err "enclave-broker rejects S3 writes outside init-key mode")
    validateS3Target bucket key config.settings.s3Bucket config.settings.s3Prefix
    saveS3ObjectIfAbsent bucket key body
    return .saved
  | .getSettings => return .settings config.settings

/-- `unwrap_or_else` on the result of the `async` block. -/
def reportError : AppError → BrokerProgram BrokerResponse
  | .err message => return .error message
  | .panic message => throw (.panic message)

/-- The response to a request that is not rejected. -/
def handleRequest (config : BrokerConfig) : BrokerRequest → BrokerProgram BrokerResponse
  | .getSettings => return .settings config.settings
  | request => do
    match ← perform BrokerOp.buildRuntime with
    | .ok () => (answerRequest config request).tryCatch reportError
    | .error message => return .error message

/-- The response to what was read from a connection. -/
def respond (config : BrokerConfig) (peerCid : Option UInt32) :
    AppResult BrokerRequest → BrokerProgram BrokerResponse
  | .ok request =>
    if config.allowedEnclaveCid.isSome ∧ peerCid ≠ config.allowedEnclaveCid then
      return .error s!"request from vsock CID {debugCid peerCid} was rejected"
    else handleRequest config request
  | .error error => return .error error.message

/-- What `write_json_frame` writes of a response, whether it succeeds or not. -/
def writtenResponse (response : BrokerResponse) : Bytes :=
  ((writeJsonFrame response).on []).2

/-- What `read_json_frame` makes of what a connection sends. -/
def receivedRequest (crates : Crates) (received : Reader) : AppResult BrokerRequest :=
  ((readJsonFrame crates.requestFromSlice).on received).1

/-- The thread of one connection: what it writes to the connection. -/
def serveConnection (crates : Crates) (config : BrokerConfig) (peerCid : Option UInt32)
    (received : Reader) : BrokerProgram Bytes := do
  let response ← respond config peerCid (receivedRequest crates received)
  return writtenResponse response

/-! ## What answering a request does -/

variable {crates : Crates} {config : BrokerConfig} {peerCid : Option UInt32} {received : Reader}
  {tr : List BrokerEvent}

/-- The operations that a request justifies: reading the object that it names, if that is below the
prefix, and writing the body that it brings to that object, in init-key mode only. -/
def Justifies (config : BrokerConfig) (request : BrokerRequest) : BrokerOp → Prop
  | .getObject bucket key =>
    Below config.settings.s3Bucket config.settings.s3Prefix bucket key ∧
      (request = .loadObject bucket key ∨ ∃ body, request = .saveObjectIfAbsent bucket key body)
  | .putObject bucket key body =>
    Below config.settings.s3Bucket config.settings.s3Prefix bucket key ∧
      config.settings.startupMode = .initKey ∧ request = .saveObjectIfAbsent bucket key body
  | .buildRuntime => True
  | .defaultCredentials => True

/-- Answering a request performs only what the request justifies. -/
theorem uses_answerRequest (request : BrokerRequest) :
    (answerRequest config request).Uses (Justifies config request) := by
  cases request with
  | getSettings => trivial
  | getAwsCredentials slot =>
    refine uses_ofExcept_bind fun provider _ => Uses.bind ?_ fun result => ?_
    · cases provider with
      | defaultChain => exact ⟨trivial, fun _ => trivial⟩
      | explicit credentials => trivial
    · refine uses_ofExcept_bind fun credentials _ => ?_
      split <;> trivial
  | loadObject bucket key =>
    refine uses_ofExcept_bind fun _ htarget => ?_
    have hbelow := validateS3Target_eq_ok.mp htarget
    refine Uses.bind (uses_loadS3Object.mono ?_) fun _ => trivial
    intro o ho
    subst ho
    exact ⟨hbelow, .inl rfl⟩
  | saveObjectIfAbsent bucket key body =>
    refine uses_ofExcept_bind fun _ hmode => uses_ofExcept_bind fun _ htarget => ?_
    have hinit : config.settings.startupMode = .initKey := by simpa using hmode
    have hbelow := validateS3Target_eq_ok.mp htarget
    refine Uses.bind (uses_saveS3ObjectIfAbsent.mono ?_) fun _ => trivial
    intro o ho
    rcases ho with rfl | rfl
    · exact ⟨hbelow, hinit, rfl⟩
    · exact ⟨hbelow, .inr ⟨body, rfl⟩⟩

/-- What a response says about the operations before it: an object was read, and a request to save
was carried out, or found to have been. -/
def Vouches (request : BrokerRequest) (tr : List BrokerEvent) : BrokerResponse → Prop
  | .object (some body) => ∃ bucket key, request = .loadObject bucket key ∧
      (⟨.getObject bucket key, .ok (.ok body)⟩ : BrokerEvent) ∈ tr
  | .saved => ∃ bucket key body, request = .saveObjectIfAbsent bucket key body ∧
      ((⟨.putObject bucket key body, .ok ()⟩ : BrokerEvent) ∈ tr ∨
        (⟨.getObject bucket key, .ok (.ok body)⟩ : BrokerEvent) ∈ tr)
  | _ => True

/-- The response to a request vouches for what was done. -/
theorem vouches_of_yields_answerRequest {request : BrokerRequest} {response : BrokerResponse}
    (h : (answerRequest config request).Yields tr (.ok response)) :
    Vouches request tr response := by
  cases request with
  | getSettings =>
    obtain ⟨rfl, rfl⟩ := yields_ret_ok.mp h
    trivial
  | getAwsCredentials slot =>
    obtain ⟨_, tr₁, _, rfl, _, h⟩ := yields_bind_ok.mp h
    obtain ⟨_, tr₂, _, rfl, _, h⟩ := yields_bind_ok.mp h
    obtain ⟨_, tr₃, _, rfl, _, h⟩ := yields_bind_ok.mp h
    split at h
    · simp at h
    · obtain ⟨rfl, rfl⟩ := yields_ret_ok.mp h
      trivial
  | loadObject bucket key =>
    obtain ⟨tr₀, tr', _, rfl, _, h⟩ := yields_bind_ok.mp h
    obtain ⟨tr₁, tr₂, loaded, rfl, hload, h⟩ := yields_bind_ok.mp h
    obtain ⟨rfl, rfl⟩ := yields_ret_ok.mp h
    cases loaded with
    | none => trivial
    | some body =>
      have hmem := mem_of_yields_loadS3Object hload
      exact ⟨bucket, key, rfl, by simp [hmem]⟩
  | saveObjectIfAbsent bucket key body =>
    obtain ⟨tr₀, tr', _, rfl, _, h⟩ := yields_bind_ok.mp h
    obtain ⟨tr₁, tr₂, _, rfl, _, h⟩ := yields_bind_ok.mp h
    obtain ⟨tr₃, tr₄, _, rfl, hsave, h⟩ := yields_bind_ok.mp h
    obtain ⟨rfl, rfl⟩ := yields_ret_ok.mp h
    refine ⟨bucket, key, body, rfl, ?_⟩
    rcases mem_of_yields_saveS3ObjectIfAbsent hsave with hmem | hmem
    · exact .inl (by simp [hmem])
    · exact .inr (by simp [hmem])

/-- What happens to a request other than `GetSettings`. -/
theorem handleRequest_of_ne {request : BrokerRequest} (h : request ≠ .getSettings) :
    handleRequest config request = .op .buildRuntime fun built =>
      match built with
      | .ok () => (answerRequest config request).tryCatch reportError
      | .error message => .ret (.error message) := by
  cases request with
  | getSettings => exact absurd rfl h
  | _ => rfl

/-- The response to a request other than `GetSettings`: there is no runtime, or the response is the
answer, or it is the error that stopped the answer. -/
theorem cases_of_yields_handleRequest {request : BrokerRequest} {response : BrokerResponse}
    (hne : request ≠ .getSettings)
    (h : (handleRequest config request).Yields tr (.ok response)) :
    (∃ message, response = .error message ∧ tr = [⟨.buildRuntime, .error message⟩]) ∨
    ∃ tr', tr = ⟨.buildRuntime, .ok ()⟩ :: tr' ∧
      ((answerRequest config request).Yields tr' (.ok response) ∨
        ∃ message, response = .error message ∧
          (answerRequest config request).Yields tr' (.error (.err message))) := by
  rw [handleRequest_of_ne hne] at h
  obtain ⟨built, tr', rfl, hrest⟩ := yields_op.mp h
  cases built with
  | error message =>
    obtain ⟨rfl, rfl⟩ := yields_ret_ok.mp hrest
    exact .inl ⟨message, rfl, rfl⟩
  | ok _ =>
    refine .inr ⟨tr', rfl, ?_⟩
    rcases yields_tryCatch.mp hrest with ⟨answer, hanswer, heq⟩ |
      ⟨tr₁, tr₂, e, rfl, hanswer, hreport⟩
    · obtain rfl := Except.ok.inj heq
      exact .inl hanswer
    · cases e with
      | panic message => cases (yields_fail.mp hreport).2
      | err message =>
        obtain ⟨rfl, rfl⟩ := yields_ret_ok.mp hreport
        rw [List.append_nil]
        exact .inr ⟨message, rfl, hanswer⟩

/-- Handling a request performs only what the request justifies. -/
theorem uses_handleRequest (request : BrokerRequest) :
    (handleRequest config request).Uses (Justifies config request) := by
  by_cases h : request = .getSettings
  · subst h
    trivial
  · rw [handleRequest_of_ne h]
    refine ⟨trivial, fun built => ?_⟩
    cases built with
    | error message => trivial
    | ok _ =>
      refine Uses.tryCatch (uses_answerRequest request) fun e => ?_
      cases e <;> trivial

/-- What vouches for a response still does after more events. -/
theorem Vouches.mono {request : BrokerRequest} {response : BrokerResponse} {tr' : List BrokerEvent}
    (h : Vouches request tr response) (hsub : ∀ e ∈ tr, e ∈ tr') :
    Vouches request tr' response := by
  match response, h with
  | .object (some body), ⟨bucket, key, hrequest, hmem⟩ =>
    exact ⟨bucket, key, hrequest, hsub _ hmem⟩
  | .saved, ⟨bucket, key, body, hrequest, hmem⟩ =>
    exact ⟨bucket, key, body, hrequest, hmem.imp (hsub _) (hsub _)⟩
  | .object none, _ => trivial
  | .settings _, _ => trivial
  | .awsCredentials _, _ => trivial
  | .error _, _ => trivial

/-- The response to a request that was handled vouches for what was done. -/
theorem vouches_of_yields_handleRequest {request : BrokerRequest} {response : BrokerResponse}
    (h : (handleRequest config request).Yields tr (.ok response)) :
    Vouches request tr response := by
  by_cases hne : request = .getSettings
  · subst hne
    obtain ⟨rfl, rfl⟩ := yields_ret_ok.mp h
    trivial
  · rcases cases_of_yields_handleRequest hne h with
      ⟨message, rfl, _⟩ | ⟨tr', rfl, hanswer | ⟨message, rfl, _⟩⟩
    · trivial
    · exact (vouches_of_yields_answerRequest hanswer).mono fun e he => List.mem_cons_of_mem _ he
    · trivial

/-! ## What a connection does -/

/-- The peers whose requests are answered. -/
def BrokerConfig.Admits (config : BrokerConfig) (peerCid : Option UInt32) : Prop :=
  config.allowedEnclaveCid = none ∨ peerCid = config.allowedEnclaveCid

/-- A request of an admitted peer is handled. -/
theorem respond_of_admits (h : config.Admits peerCid) (request : BrokerRequest) :
    respond config peerCid (.ok request) = handleRequest config request := by
  refine if_neg fun hrejected => ?_
  rcases h with hnone | heq
  · rw [hnone] at hrejected
    exact absurd hrejected.1 (by decide)
  · exact hrejected.2 heq

/-- Whoever is not admitted gets an error, and nothing is done for it. -/
theorem respond_of_not_admits (h : ¬ config.Admits peerCid) (decoded : AppResult BrokerRequest) :
    ∃ message, respond config peerCid decoded = .ret (.error message) := by
  cases decoded with
  | error e => exact ⟨_, rfl⟩
  | ok request =>
    rw [BrokerConfig.Admits, not_or, ← ne_eq, ← Option.isSome_iff_ne_none] at h
    exact ⟨_, if_pos h⟩

/-- A peer that the broker does not admit is written an error. -/
theorem serveConnection_of_not_admits (h : ¬ config.Admits peerCid) :
    ∃ message, serveConnection crates config peerCid received =
      .ret (writtenResponse (.error message)) := by
  obtain ⟨message, hrespond⟩ := respond_of_not_admits h (receivedRequest crates received)
  refine ⟨message, ?_⟩
  unfold serveConnection
  rw [hrespond]
  rfl

/-- The frame of a request is received as the request. -/
theorem receivedRequest_frameOf (hlaw : crates.Lawful) {request : BrokerRequest}
    (hfits : (toVec request).length ≤ maxJsonFrameLength) (ending : String) :
    receivedRequest crates ⟨frameOf (toVec request), ending⟩ = .ok request := by
  have hon := readJsonFrame_frameOf crates.requestFromSlice hfits [] ending
  rw [List.append_nil, hlaw.requestFromSlice] at hon
  unfold receivedRequest
  rw [hon]
  rfl

/-- What the handler may perform for a connection: what the request of an admitted peer
justifies. -/
def Authorises (crates : Crates) (config : BrokerConfig) (peerCid : Option UInt32)
    (received : Reader) (o : BrokerOp) : Prop :=
  config.Admits peerCid ∧
    ∃ request, receivedRequest crates received = .ok request ∧ Justifies config request o

/-- The handler performs only what its connection authorises. -/
theorem uses_serveConnection : (serveConnection crates config peerCid received).Uses
    (Authorises crates config peerCid received) := by
  unfold serveConnection
  refine Uses.bind ?_ fun _ => trivial
  by_cases hadmits : config.Admits peerCid
  · cases hreceived : receivedRequest crates received with
    | error e => trivial
    | ok request =>
      rw [respond_of_admits hadmits]
      exact (uses_handleRequest request).mono fun o ho => ⟨hadmits, request, hreceived, ho⟩
  · obtain ⟨message, hrespond⟩ := respond_of_not_admits hadmits (receivedRequest crates received)
    rw [hrespond]
    trivial

/-- What the handler writes is a response, and the response vouches for what was done. -/
theorem yields_serveConnection {bytes : Bytes} {request : BrokerRequest}
    (hreceived : receivedRequest crates received = .ok request)
    (h : (serveConnection crates config peerCid received).Yields tr (.ok bytes)) :
    ∃ response, bytes = writtenResponse response ∧ Vouches request tr response := by
  unfold serveConnection at h
  obtain ⟨tr₁, tr₂, response, rfl, hrespond, h⟩ := yields_bind_ok.mp h
  obtain ⟨rfl, rfl⟩ := yields_ret_ok.mp h
  rw [List.append_nil]
  refine ⟨response, rfl, ?_⟩
  by_cases hadmits : config.Admits peerCid
  · rw [hreceived, respond_of_admits hadmits] at hrespond
    exact vouches_of_yields_handleRequest hrespond
  · obtain ⟨message, hmessage⟩ := respond_of_not_admits hadmits (receivedRequest crates received)
    rw [hmessage] at hrespond
    obtain ⟨rfl, rfl⟩ := yields_ret_ok.mp hrespond
    trivial

end AwsKmsDemo
