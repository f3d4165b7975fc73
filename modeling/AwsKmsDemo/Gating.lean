import AwsKmsDemo.Delivery
import AwsKmsDemo.Initialize
import AwsKmsDemo.Reference
import AwsKmsDemo.Startup

/-!
# What the enclave process does in each mode

The effective mode of a run of `decrypt_server_tee_main` is fixed by its first events: the command
line, and the settings that the broker sends. It decides what the run can do from there on. Only a
run in serve mode starts the gRPC server, after it has restored the key material. Only a run in
init-key mode writes, or has KMS generate a data key, and not if there is a manifest already.
-/

namespace AwsKmsDemo

open Interaction Interaction.Program Stream

variable {crates : Crates} {tr : List EnclaveEvent}

/-! ## The effective mode -/

/-- What a run was told at its start: the command line, and the settings of the broker. -/
def told (crates : Crates) : List EnclaveEvent → Option (Option String × ParentSettings)
  | ⟨.loadEnvironment, .ok env⟩ :: _ :: ⟨.exchange _ _, .ok stream⟩ :: _ =>
    match env.argument, receiveResponse crates stream with
    | .ok command, .ok (.settings settings) => some (command, settings)
    | _, _ => none
  | _ => none

/-- The mode that the command line asks for, else the one of the broker's settings. -/
def askedMode (settings : ParentSettings) : Option String → Option StartupMode
  | some "init-key" => some .initKey
  | some "serve" => some .serve
  | some _ => none
  | none => some settings.startupMode

/-- The mode that a run is in, as soon as it has been told. -/
def effectiveMode (crates : Crates) (tr : List EnclaveEvent) : Option StartupMode :=
  (told crates tr).bind fun (command, settings) => askedMode settings command

/-- Whether an operation is a request to load an object. -/
def EnclaveOp.LoadsObject (bucket key : String) : EnclaveOp → Prop
  | .exchange _ frame => frame = frameOf (toVec (BrokerRequest.loadObject bucket key))
  | _ => False

instance (bucket key : String) (o : EnclaveOp) : Decidable (o.LoadsObject bucket key) := by
  cases o <;> unfold EnclaveOp.LoadsObject <;> infer_instance

/-- What the first request for the manifest found. -/
def firstManifestLoad (crates : Crates) (tr : List EnclaveEvent) : Option (Option Bytes) :=
  (told crates tr).bind fun (_, settings) =>
    (tr.find? fun e => e.op.LoadsObject settings.s3Bucket (manifestKey settings)).bind
      (loadedObject crates)

/-- Whether an operation is a call of KMS. -/
def EnclaveOp.CallsKms : EnclaveOp → Prop
  | .generateDataKey _ _ => True
  | .decrypt _ _ => True
  | .nkmsGenerateDataKey _ _ _ => True
  | .nkmsDecryptDataKey _ _ _ => True
  | _ => False

/-- Whether an operation has KMS generate a data key. -/
def EnclaveOp.GeneratesDataKey : EnclaveOp → Prop
  | .generateDataKey _ _ => True
  | .nkmsGenerateDataKey _ _ _ => True
  | _ => False

/-- Whether an operation starts the gRPC server. -/
def EnclaveOp.StartsServer : EnclaveOp → Prop
  | .serveEnclaveRpc _ => True
  | _ => False

/-- Generating a data key is a call of KMS. -/
theorem callsKms_of_generatesDataKey {o : EnclaveOp} (h : o.GeneratesDataKey) : o.CallsKms := by
  cases o with
  | generateDataKey client request => trivial
  | nkmsGenerateDataKey client keyId keyBits => trivial
  | _ => exact False.elim h

/-- Reading does not generate a data key. -/
theorem not_generatesDataKey_of_reads {o : EnclaveOp} (h : Reads o) : ¬ o.GeneratesDataKey := by
  cases o with
  | generateDataKey client request => exact False.elim h
  | nkmsGenerateDataKey client keyId keyBits => exact False.elim h
  | _ => exact id

/-- Starting the server is neither a request to save nor a call of KMS. -/
theorem not_saves_of_startsServer {o : EnclaveOp} (h : o.StartsServer) :
    ¬ o.Saves ∧ ¬ o.GeneratesDataKey := by
  cases o with
  | serveEnclaveRpc endpoint => exact ⟨id, id⟩
  | _ => exact False.elim h

/-- Initializing does not start the server. -/
theorem not_startsServer_of_initializes {o : EnclaveOp} (h : Initializes o) : ¬ o.StartsServer := by
  cases o with
  | serveEnclaveRpc endpoint => exact False.elim h
  | _ => exact id

/-! ## The start -/

/-- What a run does before it acts in a mode: it finds out where the broker is, and the settings. -/
def startUp (crates : Crates) : EnclaveProgram (Environment × Endpoint × ParentSettings) := do
  let env ← loadEnvironment
  let brokerEndpoint ← ofText
    (Endpoint.parse ((env.var "ENCLAVE_BROKER_ENDPOINT").getD defaultBrokerEndpoint))
  let brokerSettings ← requestBrokerSettings crates brokerEndpoint
  let command ← commandArgument env
  let settings ← overrideMode command brokerSettings
  return (env, brokerEndpoint, settings)

/-- What a run does in its mode. -/
def actInMode (crates : Crates) (env : Environment) (brokerEndpoint : Endpoint)
    (settings : ParentSettings) : EnclaveProgram Unit := do
  runDecryptServerTee crates env settings brokerEndpoint
  if settings.startupMode = .initKey then return
  let rpcEndpoint ← ofText
    (Endpoint.parse ((env.var "ENCLAVE_RPC_LISTEN_ENDPOINT").getD defaultEnclaveRpcEndpoint))
  serveEnclaveRpc rpcEndpoint

/-- A run is its two parts. -/
theorem decryptServerTeeMain_eq : decryptServerTeeMain crates = (startUp crates).bind
    fun (env, brokerEndpoint, settings) => actInMode crates env brokerEndpoint settings := by
  unfold decryptServerTeeMain startUp actInMode
  simp only [bind_eq, Program.bind_assoc, pure_eq, ret_bind]

/-- The start neither loads an object nor changes anything, and leaves KMS alone. -/
def Prepares (o : EnclaveOp) : Prop :=
  ¬ o.CallsKms ∧ ¬ o.Saves ∧ ¬ o.StartsServer ∧ ∀ bucket key, ¬ o.LoadsObject bucket key

/-- Asking for the settings is a preparation. -/
theorem prepares_of_asks_getSettings {endpoint : Endpoint} {o : EnclaveOp}
    (ho : Asks endpoint .getSettings o) : Prepares o := by
  refine ⟨?_, not_saves_of_reads (reads_of_asks id ho), ?_, fun bucket key hload => ?_⟩
  · rcases ho with rfl | ⟨_, rfl⟩ <;> exact id
  · rcases ho with rfl | ⟨_, rfl⟩ <;> exact id
  · rcases ho with rfl | ⟨_, rfl⟩
    · exact hload
    · -- The texts differ in their third bytes.
      have htext := congrArg (fun bytes => bytes[2]?) (frameOf_injective hload)
      have htag : (toVec (BrokerRequest.loadObject bucket key))[2]? = some 76 := rfl
      rw [htag] at htext
      exact absurd htext (by decide)

/-- Starting up only prepares. -/
theorem uses_startUp : (startUp crates).Uses Prepares := by
  refine Uses.bind ⟨⟨id, id, id, fun _ _ => id⟩, fun _ => uses_ofExcept⟩ fun env => ?_
  refine uses_ofExcept_bind fun endpoint _ =>
    Uses.bind (uses_requestBrokerSettings.mono fun _ => prepares_of_asks_getSettings) ?_
  exact fun _ => uses_ofExcept_bind fun _ _ => uses_ofExcept_bind fun _ _ => trivial

/-- The argument is read as it was passed. -/
theorem commandArgument_eq_ok {env : Environment} {command : Option String} :
    commandArgument env = .ok command ↔ env.argument = .ok command := by
  unfold commandArgument
  cases env.argument <;> simp

/-- The settings of a run that has started are those that it was told, in the effective mode. -/
theorem told_of_yields {env : Environment} {brokerEndpoint : Endpoint} {settings : ParentSettings}
    (h : (startUp crates).Yields tr (.ok (env, brokerEndpoint, settings)))
    (tr' : List EnclaveEvent) :
    ∃ command brokerSettings, told crates (tr ++ tr') = some (command, brokerSettings) ∧
      overrideMode command brokerSettings = .ok settings := by
  obtain ⟨tr₁, tr₂, env', rfl, hload, h₁⟩ := yields_bind_ok.mp h
  obtain ⟨loaded, tr₃, rfl, hrest⟩ := yields_op.mp hload
  obtain ⟨rfl, hloaded⟩ := yields_ofExcept.mp hrest
  obtain ⟨endpoint, _, h₂⟩ := yields_ofExcept_bind_ok.mp h₁
  obtain ⟨tr₄, tr₅, brokerSettings, rfl, hrequest, h₃⟩ := yields_bind_ok.mp h₂
  obtain ⟨command, hcommand, h₄⟩ := yields_ofExcept_bind_ok.mp h₃
  obtain ⟨settings', hoverride, h₅⟩ := yields_ofExcept_bind_ok.mp h₄
  obtain ⟨rfl, heq⟩ := yields_ret_ok.mp h₅
  injection heq with henv heq
  injection heq with hendpoint hsettings
  subst henv hendpoint hsettings
  -- The settings were asked for with one connection and one exchange, whose answer is `stream`.
  obtain ⟨_, stream, rfl, hreceive⟩ := yields_requestBrokerSettings_ok.mp hrequest
  have hargument := commandArgument_eq_ok.mp hcommand
  rw [ofText_eq_ok.mp hloaded.symm]
  refine ⟨command, brokerSettings, ?_, hoverride⟩
  show told crates (⟨.loadEnvironment, .ok env⟩ :: ⟨.connect brokerEndpoint, .ok ()⟩ ::
    ⟨.exchange brokerEndpoint _, .ok stream⟩ :: _) = _
  unfold told
  simp only [hargument, hreceive]

/-- The mode of the settings is the one asked for, and nothing else is overridden. -/
theorem overrideMode_eq_ok {command : Option String} {brokerSettings settings : ParentSettings}
    (h : overrideMode command brokerSettings = .ok settings) :
    askedMode brokerSettings command = some settings.startupMode ∧
      settings.s3Bucket = brokerSettings.s3Bucket ∧
      settings.s3Prefix = brokerSettings.s3Prefix := by
  unfold overrideMode at h
  split at h
  case h_3 => cases h
  all_goals
    injection h with h
    subst h
    exact ⟨rfl, rfl, rfl⟩

/-- A process that has started up knows its mode from then on. -/
theorem effectiveMode_of_yields {env : Environment} {brokerEndpoint : Endpoint}
    {settings : ParentSettings}
    (h : (startUp crates).Yields tr (.ok (env, brokerEndpoint, settings)))
    (tr' : List EnclaveEvent) : effectiveMode crates (tr ++ tr') = some settings.startupMode := by
  obtain ⟨command, brokerSettings, htold, hoverride⟩ := told_of_yields h tr'
  unfold effectiveMode
  rw [htold]
  exact (overrideMode_eq_ok hoverride).1

/-! ## In a mode -/

variable {env : Environment} {brokerEndpoint : Endpoint} {settings : ParentSettings}
  {q : EnclaveProgram Unit}

/-- In init-key mode a run only initializes. -/
theorem uses_actInMode_initKey (h : settings.startupMode = .initKey) :
    (actInMode crates env brokerEndpoint settings).Uses Initializes := by
  unfold actInMode
  refine Uses.bind ?_ fun _ => ?_
  · unfold runDecryptServerTee
    refine uses_ofExcept_bind fun _ _ => uses_ofExcept_bind fun kmsClient _ => ?_
    rw [h]
    exact uses_initializeKeyMaterial.bind fun _ => trivial
  · rw [if_pos h]
    trivial

/-- In serve mode a run only reads, and may start the server. -/
theorem uses_actInMode_serve (h : settings.startupMode = .serve) :
    (actInMode crates env brokerEndpoint settings).Uses fun o => Reads o ∨ o.StartsServer := by
  unfold actInMode
  refine Uses.bind ?_ fun _ => ?_
  · unfold runDecryptServerTee
    refine uses_ofExcept_bind fun _ _ => uses_ofExcept_bind fun kmsClient _ => ?_
    rw [h]
    exact Uses.bind (uses_reads_restoreKeyMaterial.mono fun _ => .inl) fun _ => trivial
  · rw [if_neg (by rw [h]; decide)]
    exact uses_ofExcept_bind fun _ _ => ⟨.inr trivial, fun _ => uses_ofExcept⟩

/-- The server is started only after the key material was restored. -/
theorem restored_of_issues {endpoint : Endpoint}
    (h : (actInMode crates env brokerEndpoint settings).Issues tr (.serveEnclaveRpc endpoint)) :
    settings.startupMode = .serve ∧ ∃ kmsClient pair,
      (restoreKeyMaterial crates ⟨brokerEndpoint⟩ kmsClient settings).Yields tr (.ok pair) := by
  -- In init-key mode no operation starts the server, so the mode is serve.
  have hmode : settings.startupMode = .serve := by
    cases hmode : settings.startupMode with
    | serve => rfl
    | initKey => exact absurd ((uses_actInMode_initKey hmode).of_issues h) id
  refine ⟨hmode, ?_⟩
  unfold actInMode at h
  rcases issues_bind.mp h with hrun | ⟨tr₁, tr₂, _, rfl, hrun, hrest⟩
  · -- The server is not started while the key material is still being restored.
    unfold runDecryptServerTee at hrun
    obtain ⟨_, _, h₁⟩ := issues_ofExcept_bind.mp hrun
    obtain ⟨kmsClient, _, h₂⟩ := issues_ofExcept_bind.mp h₁
    rw [hmode] at h₂
    rcases issues_bind.mp h₂ with hrestore | ⟨_, _, _, _, _, hret⟩
    · exact absurd (uses_reads_restoreKeyMaterial.of_issues hrestore) id
    · exact absurd hret issues_ret
  · -- The restore has returned, and starting the server is the first operation after it.
    have htr₂ : tr₂ = [] := by
      rw [if_neg (by rw [hmode]; decide)] at hrest
      obtain ⟨_, _, hserve⟩ := issues_ofExcept_bind.mp hrest
      rcases issues_op.mp hserve with ⟨hnil, _⟩ | ⟨_, _, _, hrest⟩
      · exact hnil
      · exact absurd hrest issues_ofExcept
    subst htr₂
    unfold runDecryptServerTee at hrun
    obtain ⟨_, _, h₁⟩ := yields_ofExcept_bind_ok.mp hrun
    obtain ⟨kmsClient, _, h₂⟩ := yields_ofExcept_bind_ok.mp h₁
    rw [hmode] at h₂
    obtain ⟨tr₃, tr₄, pair, rfl, hrestore, hret⟩ := yields_bind_ok.mp h₂
    obtain ⟨rfl, _⟩ := yields_ret_ok.mp hret
    refine ⟨kmsClient, pair, ?_⟩
    rw [List.append_nil, List.append_nil]
    exact hrestore

/-! ## A manifest that is there already -/

/-- Once an object was delivered, the request for it has its answer. -/
theorem steps_sendRequest_found {s3Client : BrokerS3Client} {bucket key : String}
    {loaded : Option Bytes} {q : EnclaveProgram Reader}
    (h : (sendRequest s3Client.endpoint (.loadObject bucket key)).Steps tr q)
    (hfound : (tr.find? fun e => e.op.LoadsObject bucket key).bind (loadedObject crates) =
      some loaded) :
    ∃ stream, q = .ret stream ∧ receiveResponse crates stream = .ok (.object loaded) := by
  have hne : ¬ (EnclaveOp.connect s3Client.endpoint).LoadsObject bucket key := id
  rcases steps_sendRequest h with hconnect | ⟨answer, rfl, rfl⟩
  · -- Connecting loads nothing, so there would be no first load.
    have hnone : (tr.find? fun e => e.op.LoadsObject bucket key) = none := by
      refine List.find?_eq_none.mpr fun e he => ?_
      rw [hconnect e he]
      simpa using hne
    rw [hnone] at hfound
    cases hfound
  · have hload : (EnclaveOp.exchange s3Client.endpoint
        (frameOf (toVec (BrokerRequest.loadObject bucket key)))).LoadsObject bucket key := rfl
    rw [List.find?_cons_of_neg (by simpa using hne), List.find?_cons_of_pos (by simpa using hload),
      Option.bind_some] at hfound
    cases answer with
    | error message => cases hfound
    | ok stream =>
      refine ⟨stream, rfl, ?_⟩
      unfold loadedObject at hfound
      dsimp only at hfound
      split at hfound
      · rename_i hreceive
        injection hfound with hfound
        rw [← hfound]
        exact hreceive
      · cases hfound

/-- Once an object was delivered, nothing more happens in the call that loads it. -/
theorem steps_loadObject_found {s3Client : BrokerS3Client} {bucket key : String}
    {loaded : Option Bytes} {q : EnclaveProgram (Option Bytes)}
    (h : (s3Client.loadObject crates bucket key).Steps tr q)
    (hfound : (tr.find? fun e => e.op.LoadsObject bucket key).bind (loadedObject crates) =
      some loaded) : q = .ret loaded := by
  rw [loadObject_eq] at h
  rcases steps_bind h with ⟨q', hq', rfl⟩ | ⟨tr₁, tr₂, stream, rfl, hyields, hrest⟩
  · obtain ⟨stream, rfl, hreceive⟩ := steps_sendRequest_found hq' hfound
    exact receiveObject_of hreceive
  · -- What follows the answer performs nothing.
    have huses : (receiveObject crates stream).Uses fun _ => False := uses_receiveObject
    have hquiet : ∀ e ∈ tr₂, False := (huses.of_steps hrest).1
    obtain rfl := List.eq_nil_iff_forall_not_mem.mpr hquiet
    rw [List.append_nil] at hfound
    obtain ⟨stream', heq, hreceive⟩ := steps_sendRequest_found hyields hfound
    injection heq with heq
    subst heq
    rw [receiveObject_of hreceive] at hrest
    exact (steps_nil.mp hrest).symm

/-- What a call found is what the first request for the object found. -/
theorem find?_of_yields_loadObject {s3Client : BrokerS3Client} {bucket key : String}
    {loaded : Option Bytes} (h : (s3Client.loadObject crates bucket key).Yields tr (.ok loaded))
    (tr' : List EnclaveEvent) :
    ((tr ++ tr').find? fun e => e.op.LoadsObject bucket key).bind (loadedObject crates) =
      some loaded := by
  obtain ⟨_, stream, rfl, hreceive⟩ := yields_loadObject_ok.mp h
  have hne : ¬ (EnclaveOp.connect s3Client.endpoint).LoadsObject bucket key := id
  have hload : (EnclaveOp.exchange s3Client.endpoint
      (frameOf (toVec (BrokerRequest.loadObject bucket key)))).LoadsObject bucket key := rfl
  show (List.find? _ (⟨.connect s3Client.endpoint, .ok ()⟩ ::
    ⟨.exchange s3Client.endpoint _, .ok stream⟩ :: tr')).bind _ = _
  rw [List.find?_cons_of_neg (by simpa using hne), List.find?_cons_of_pos (by simpa using hload),
    Option.bind_some]
  unfold loadedObject
  simp only [hreceive]

/-- The operations before and at the first request for the manifest. -/
def Checks (o : EnclaveOp) : Prop := ¬ o.CallsKms ∧ ¬ o.Saves

/-- Loading an object is a check. -/
theorem uses_checks_loadObject {s3Client : BrokerS3Client} {bucket key : String} :
    (s3Client.loadObject crates bucket key).Uses Checks := by
  refine uses_loadObject.mono fun o ho => ⟨?_, not_saves_of_reads (reads_of_asks id ho)⟩
  rcases ho with rfl | ⟨_, rfl⟩ <;> exact id

/-- An initialization that finds a manifest fails, and has only looked for it. -/
theorem steps_initializeKeyMaterial_found {s3Client : BrokerS3Client} {kmsClient : KmsDataKeyClient}
    {body : Bytes} {q : EnclaveProgram RestoredKeyPair}
    (h : (initializeKeyMaterial crates s3Client kmsClient settings).Steps tr q)
    (hfound : (tr.find? fun e => e.op.LoadsObject settings.s3Bucket (manifestKey settings)).bind
      (loadedObject crates) = some (some body)) :
    (∃ message, q = .fail (.err message)) ∧ ∀ e ∈ tr, Checks e.op := by
  unfold initializeKeyMaterial at h
  rcases steps_bind h with ⟨q', hq', rfl⟩ | ⟨tr₁, tr₂, existing, rfl, hload, hrest⟩
  · obtain rfl := steps_loadObject_found hq' hfound
    exact ⟨⟨_, rfl⟩, (uses_checks_loadObject.of_steps hq').1⟩
  · have hfirst : existing = some body := by
      have hexisting := find?_of_yields_loadObject hload tr₂
      rw [show objectKey settings.s3Prefix manifestFileName = manifestKey settings from rfl,
        hfound] at hexisting
      exact (Option.some.inj hexisting).symm
    subst hfirst
    obtain ⟨rfl, rfl⟩ := steps_fail.mp hrest
    rw [List.append_nil]
    exact ⟨⟨_, rfl⟩, (uses_checks_loadObject.of_steps hload).1⟩

/-- A run in init-key mode that finds a manifest fails, and has only looked for it. -/
theorem steps_actInMode_found {body : Bytes} (hmode : settings.startupMode = .initKey)
    (h : (actInMode crates env brokerEndpoint settings).Steps tr q)
    (hfound : (tr.find? fun e => e.op.LoadsObject settings.s3Bucket (manifestKey settings)).bind
      (loadedObject crates) = some (some body)) :
    (∃ message, q = .fail (.err message)) ∧ ∀ e ∈ tr, Checks e.op := by
  have heq : actInMode crates env brokerEndpoint settings =
      (Program.ofExcept (validateKmsConfiguration settings)).bind fun _ =>
        (Program.ofExcept (KmsDataKeyClient.fromEnv env brokerEndpoint)).bind fun kmsClient =>
          (initializeKeyMaterial crates ⟨brokerEndpoint⟩ kmsClient settings).bind
            fun _ => .ret () := by
    unfold actInMode runDecryptServerTee
    rw [if_pos hmode, hmode]
    simp only [bind_eq, Program.bind_assoc, pure_eq, ret_bind]
    rfl
  rw [heq] at h
  -- A run that fails at its checks has no events, so it has not loaded the manifest either.
  cases hvalid : validateKmsConfiguration settings with
  | error e =>
    rw [hvalid] at h
    obtain ⟨rfl, _⟩ := steps_fail.mp h
    cases hfound
  | ok _ =>
    cases hclient : KmsDataKeyClient.fromEnv env brokerEndpoint with
    | error e =>
      rw [hvalid, hclient] at h
      obtain ⟨rfl, _⟩ := steps_fail.mp h
      cases hfound
    | ok kmsClient =>
      rw [hvalid, hclient, ofExcept_ok, ret_bind, ofExcept_ok, ret_bind] at h
      rcases steps_bind h with ⟨q', hq', rfl⟩ | ⟨tr₁, tr₂, pair, rfl, hinit, hret⟩
      · obtain ⟨⟨message, rfl⟩, htr⟩ := steps_initializeKeyMaterial_found hq' hfound
        exact ⟨⟨message, rfl⟩, htr⟩
      · obtain ⟨rfl, rfl⟩ := steps_ret.mp hret
        rw [List.append_nil] at hfound
        obtain ⟨⟨message, hfail⟩, _⟩ := steps_initializeKeyMaterial_found hinit hfound
        cases hfail

/-! ## Every run -/

/-- What holds at every point of a run, which has gone through the events `tr` and is to go on as
`q`. -/
structure Gated (crates : Crates) (tr : List EnclaveEvent) (q : EnclaveProgram Unit) : Prop where
  /-- The server is started only in serve mode, and after the run has restored the key material,
  with all the evidence that this takes. -/
  starts : ∀ endpoint k, q = .op (.serveEnclaveRpc endpoint) k →
    effectiveMode crates tr = some .serve ∧
      ∃ s3Client kmsClient settings tr' pair, tr' <:+: tr ∧
        (restoreKeyMaterial crates s3Client kmsClient settings).Yields tr' (.ok pair) ∧
        ∃ e, Accepted crates kmsClient settings tr' pair e
  /-- In serve mode nothing is saved, and no data key is generated. -/
  serve : effectiveMode crates tr = some .serve →
    ∀ e ∈ tr, ¬ e.op.Saves ∧ ¬ e.op.GeneratesDataKey
  /-- In init-key mode the server is not started. -/
  initKey : effectiveMode crates tr = some .initKey → ∀ e ∈ tr, ¬ e.op.StartsServer
  /-- In init-key mode a run that finds a manifest has failed, without a call of KMS and without a
  request to save. -/
  refuses : effectiveMode crates tr = some .initKey → ∀ body,
    firstManifestLoad crates tr = some (some body) →
      (∃ message, q = .fail (.err message)) ∧ ∀ e ∈ tr, ¬ e.op.CallsKms ∧ ¬ e.op.Saves

/-- The start asks for no objects, so the first request for the manifest is one of the mode. -/
theorem manifestLoad_of_started {tr' : List EnclaveEvent}
    (hstart : (startUp crates).Yields tr (.ok (env, brokerEndpoint, settings)))
    {loaded : Option Bytes} (hfound : firstManifestLoad crates (tr ++ tr') = some loaded) :
    (tr'.find? fun e => e.op.LoadsObject settings.s3Bucket (manifestKey settings)).bind
      (loadedObject crates) = some loaded := by
  have hprepares := (uses_startUp.of_steps hstart).1
  obtain ⟨command, brokerSettings, htold, hoverride⟩ := told_of_yields hstart tr'
  obtain ⟨_, hbucket, hpre⟩ := overrideMode_eq_ok hoverride
  have hnone : (tr.find? fun e => e.op.LoadsObject settings.s3Bucket (manifestKey settings)) =
      none := by
    refine List.find?_eq_none.mpr fun e he => ?_
    simpa using (hprepares e he).2.2.2 _ _
  -- The override changes the mode only, so the manifest that the broker's settings name is the
  -- same.
  have hname : manifestKey brokerSettings = manifestKey settings := by
    unfold manifestKey
    rw [hpre]
  unfold firstManifestLoad at hfound
  rw [htold, Option.bind_some] at hfound
  dsimp only at hfound
  rwa [← hbucket, hname, List.find?_append, hnone, Option.none_or] at hfound

/-- A run that has been told its mode is gated. -/
theorem gated_of_started {tr' : List EnclaveEvent}
    (hstart : (startUp crates).Yields tr (.ok (env, brokerEndpoint, settings)))
    (hact : (actInMode crates env brokerEndpoint settings).Steps tr' q) :
    Gated crates (tr ++ tr') q := by
  have hmode := effectiveMode_of_yields hstart tr'
  have hprepares := (uses_startUp.of_steps hstart).1
  refine ⟨fun endpoint k hq => ?_, fun hserve e he => ?_, fun hinit e he => ?_,
    fun hinit body hfound => ?_⟩
  · subst hq
    obtain ⟨hserve, kmsClient, pair, hrestore⟩ := restored_of_issues ⟨k, hact⟩
    refine ⟨by rw [hmode, hserve], ⟨brokerEndpoint⟩, kmsClient, settings, tr', pair, ?_, hrestore,
      exists_accepted hrestore⟩
    exact (List.suffix_append tr tr').isInfix
  · rw [hmode] at hserve
    rcases List.mem_append.mp he with he | he
    · have hop := hprepares e he
      exact ⟨hop.2.1, fun hgenerates => hop.1 (callsKms_of_generatesDataKey hgenerates)⟩
    · rcases ((uses_actInMode_serve (Option.some.inj hserve)).of_steps hact).1 e he with hop | hop
      · exact ⟨not_saves_of_reads hop, not_generatesDataKey_of_reads hop⟩
      · exact not_saves_of_startsServer hop
  · rw [hmode] at hinit
    rcases List.mem_append.mp he with he | he
    · exact (hprepares e he).2.2.1
    · have hop := ((uses_actInMode_initKey (Option.some.inj hinit)).of_steps hact).1 e he
      exact not_startsServer_of_initializes hop
  · rw [hmode] at hinit
    have hloaded := manifestLoad_of_started hstart hfound
    obtain ⟨hfail, hchecks⟩ := steps_actInMode_found (Option.some.inj hinit) hact hloaded
    refine ⟨hfail, fun e he => ?_⟩
    rcases List.mem_append.mp he with he | he
    · exact ⟨(hprepares e he).1, (hprepares e he).2.1⟩
    · exact hchecks e he

/-- A run that has not been told its mode is gated. -/
theorem gated_of_starting {x : EnclaveProgram (Environment × Endpoint × ParentSettings)}
    (hstart : (startUp crates).Steps tr x)
    (hq : ∀ endpoint k, q ≠ .op (.serveEnclaveRpc endpoint) k) : Gated crates tr q := by
  have hprepares := (uses_startUp.of_steps hstart).1
  refine ⟨fun endpoint k h => absurd h (hq endpoint k), fun _ e he => ?_,
    fun _ e he => (hprepares e he).2.2.1, fun _ body hfound => ?_⟩
  · have hop := hprepares e he
    exact ⟨hop.2.1, fun hgenerates => hop.1 (callsKms_of_generatesDataKey hgenerates)⟩
  · obtain ⟨⟨command, settings⟩, _, hload⟩ := Option.bind_eq_some_iff.mp hfound
    obtain ⟨e, hfind, _⟩ := Option.bind_eq_some_iff.mp hload
    have hloads := List.find?_some hfind
    exact absurd (of_decide_eq_true hloads)
      ((hprepares e (List.mem_of_find?_eq_some hfind)).2.2.2 _ _)

/-- Every run of the enclave process is gated, whatever the command line, the settings and the
answers are. -/
theorem decryptServerTeeMain_gated (h : (decryptServerTeeMain crates).Steps tr q) :
    Gated crates tr q := by
  rw [decryptServerTeeMain_eq] at h
  rcases steps_bind h with ⟨x, hx, rfl⟩ | ⟨tr₁, tr₂, ⟨env, brokerEndpoint, settings⟩, rfl, hstart,
    hact⟩
  · cases x with
    | ret started =>
      obtain ⟨env, brokerEndpoint, settings⟩ := started
      rw [← List.append_nil tr]
      exact gated_of_started hx (.refl _)
    | fail e => exact gated_of_starting hx fun endpoint k heq => by cases heq
    -- The start was left in the middle: its next operation is not the one that starts the server.
    | op o k =>
      refine gated_of_starting hx fun endpoint k' heq => ?_
      rw [op_bind] at heq
      injection heq with heq
      subst heq
      exact (uses_startUp.of_steps hx).2.1.2.2.1 trivial
  · exact gated_of_started hstart hact

/-- An environment that names the broker and no mode. -/
def plainEnvironment : Environment where
  var name := if name = "ENCLAVE_BROKER_ENDPOINT" then some "tcp:127.0.0.1:7000" else none
  argument := .ok none
  nitroEnclave := false

/-- A run that has received the settings of the deployment, and will act in init-key mode. -/
theorem decryptServerTeeMain_gated_deployment :
    Gated reference (⟨.loadEnvironment, .ok plainEnvironment⟩ :: asked (.tcp "127.0.0.1:7000")
        .getSettings ⟨writtenResponse (.settings deployment), ""⟩)
      (actInMode reference plainEnvironment (.tcp "127.0.0.1:7000") deployment) := by
  have hrequest : Fits BrokerRequest.getSettings := by
    unfold Fits
    decide
  have hresponse : Fits (BrokerResponse.settings deployment) := by
    unfold Fits
    decide +kernel
  have hreceive : receiveResponse reference ⟨writtenResponse (.settings deployment), ""⟩ =
      .ok (.settings deployment) :=
    receiveResponse_writtenResponse hresponse fun _ herror => by cases herror
  have hsettings : (requestBrokerSettings reference (.tcp "127.0.0.1:7000")).Yields
      (asked (.tcp "127.0.0.1:7000") .getSettings ⟨writtenResponse (.settings deployment), ""⟩)
      (.ok deployment) :=
    yields_requestBrokerSettings_ok.mpr ⟨hrequest, _, rfl, hreceive⟩
  refine decryptServerTeeMain_gated ?_
  rw [decryptServerTeeMain_eq]
  have hstart : (startUp reference).Yields _
      (.ok (plainEnvironment, .tcp "127.0.0.1:7000", deployment)) :=
    yields_bind_ok.mpr ⟨[⟨.loadEnvironment, .ok plainEnvironment⟩], _, _, rfl, .step (.refl _),
      yields_ofExcept_bind_ok.mpr ⟨_, rfl, yields_bind_ok.mpr ⟨_, [], _, (List.append_nil _).symm,
        hsettings, .refl _⟩⟩⟩
  exact hstart.bind _

end AwsKmsDemo
