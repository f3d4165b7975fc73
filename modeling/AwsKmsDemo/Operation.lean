import AwsKmsDemo.Deployments
import AwsKmsDemo.Lifecycle

/-!
# A deployment in operation

The main results about whole enclave processes, the brokers and S3, each with an instance.

`processes_agree` is about all processes that got through their launch. Each of them uses a key
(`exists_inUse`) whose manifest and public document it has written to S3 or loaded from there
(`InUse.published`). These objects are never overwritten (`store_le_of_later`), and they determine
the key, so all the keys are the same.

`initialization_launches` is about a process that initializes alone and without faults. It comes to
its end, and either it has returned or it has met an object that it did not write
(`ensures_launch_initKey`). In the second case two bodies with one name have been written, which is
a collision of SHA-256 unless somebody else has written one of them. In the first case all the
objects of a key pair are in S3 and stay there, so that a later process that serves alone and
without faults restores the key (`available_of_initializing`).

The instances are about the deployment of `AwsKmsDemo.Deployments`: it is initialized, and then a
second process serves (`exists_available_deployment`, `exists_launched_deployment`).
-/

namespace AwsKmsDemo

open Interaction Interaction.Program Stream Storage

variable {crates : Crates} {brokers : Brokers} {world : Surroundings} {env : Environment}
  {config : BrokerConfig} {peerCid : Option UInt32} {run : InitRun} {store₀ : S3Store}
  {s t : Processes} {bucket pre : String}

/-! ## An instance -/

/-- The brokers of the deployment, to which nobody else connects. -/
def deployedBrokers : Brokers where
  config := deployedConfigs deployment
  foreign _ := False

/-- The environment of a process that is told to serve. -/
def serveEnvironment : Environment :=
  { plainEnvironment with argument := .ok (some "serve") }

/-- The run that a process in serve mode acts as. -/
def servingRun : InitRun :=
  { deployedRun deployment with settings := { deployment with startupMode := .serve } }

/-- All brokers of the deployment allow the objects below its prefix. -/
theorem deployedBrokers_sameTarget :
    deployedBrokers.SameTarget deployment.s3Bucket deployment.s3Prefix := fun _ => ⟨rfl, rfl⟩

/-- The brokers of the deployment have its settings. -/
theorem deployedBrokers_offers : deployedBrokers.Offers (deployedBroker deployment) none :=
  fun bound => ⟨bound, le_rfl, rfl⟩

/-- The environment of the enclave starts the run that serves. -/
theorem starts_serveEnvironment :
    Starts serveEnvironment (deployedBroker deployment) servingRun where
  endpoint := rfl
  command := ⟨some "serve", rfl, rfl⟩
  fits := by
    unfold Fits
    decide +kernel
  valid := by decide
  kmsClient := rfl

/-- The mode of the settings makes no difference to the brokers and KMS. -/
theorem Supports.withMode {kmsClient : KmsDataKeyClient} {settings : ParentSettings}
    (h : Supports world config peerCid kmsClient settings) (mode : StartupMode) :
    Supports world config peerCid kmsClient { settings with startupMode := mode } :=
  ⟨h.admits, h.bucket, h.pre, h.provider, h.slot, h.credentialsFit, by
    cases kmsClient <;> exact h.accepts⟩

/-- The surroundings answer what the run that serves asks for. -/
theorem supports_servingRun {dataKey : Bytes} : Supports (fixedSurroundings dataKey)
    (deployedBroker deployment) none servingRun.kmsClient servingRun.settings :=
  Supports.withMode (supports_deployed rfl ⟨_, rfl⟩) .serve

/-- Where a key is available, a process can come to use it, while the others do nothing. -/
theorem Available.exists_inUse {publicKey : Vector UInt8 32} {run' : InitRun}
    {rpcEndpoint : Endpoint} {m : ℕ} (h : Available world crates brokers run publicKey s)
    (hfresh : Fresh crates s m) (hoffers : brokers.Offers config peerCid)
    (hstarts : Starts env config run') (hmode : run'.settings.startupMode = .serve)
    (hsupports : Supports world config peerCid run'.kmsClient run'.settings)
    (hkeys : ∃ key ∈ run'.settings.kmsKeys, ∃ key' ∈ run.settings.kmsKeys, key'.keyArn = key.keyArn)
    (hrpc : Endpoint.parse ((env.var "ENCLAVE_RPC_LISTEN_ENDPOINT").getD
      defaultEnclaveRpcEndpoint) = .ok rpcEndpoint) :
    ∃ t, brokers.Later crates s t ∧ InUse crates (t.clients m).trace publicKey ∧
      ∀ n ≠ m, t.clients n = s.clients n := by
  have hlaunch := (h s .refl m env config peerCid run' rpcEndpoint hfresh hoffers hstarts hmode
    hsupports hkeys hrpc).and_invariant (fun u v (hu : brokers.Later crates s u ∧
      ∀ n ≠ m, u.clients n = s.clients n) hstep => ⟨hu.1.tail (Service.Solo.Step.step hstep),
        fun n hn => (hstep.clients_of_ne hn).trans (hu.2 n hn)⟩) ⟨.refl, fun _ _ => rfl⟩
  obtain ⟨t, _, ⟨_, hinUse⟩, hlater, hothers⟩ := hlaunch.exists_reached
  exact ⟨t, hlater, hinUse, hothers⟩

/-- What is available stays available. -/
theorem Available.later {publicKey : Vector UInt8 32}
    (h : Available world crates brokers run publicKey s) (hlater : brokers.Later crates s t) :
    Available world crates brokers run publicKey t := fun u hu => h u (hlater.trans hu)

/-- The initialization of the deployment has made its key available to processes that start with
what it has left in the store. -/
theorem exists_available_deployment : ∃ store₀ publicKey,
    Available (fixedSurroundings (.replicate 32 0)) reference deployedBrokers
      (deployedRun deployment) publicKey (Processes.start reference store₀) := by
  obtain ⟨t, hreach, honly, pair, hreturned, _, _⟩ := exists_initialized_deployment
  have hsame : SameTarget (deployedRuns deployment) deployment.s3Bucket deployment.s3Prefix :=
    fun _ => ⟨rfl, rfl⟩
  obtain ⟨draft, _, hcomplete, hreferences⟩ := (systemInvariant_of_reachable reference_lawful
    hreach).complete reference_lawful hsame faultless_deployment.valid hreturned honly.answered
  have hstart : deployedBrokers.Reaches reference t.broker.store
      (Processes.start reference t.broker.store) := .refl
  exact ⟨t.broker.store, draft.publicKey reference,
    available_of_complete reference_lawful hstart deployedBrokers_sameTarget hcomplete hreferences⟩

/-- Once the deployment is initialized, one process can start the server, and then another one. -/
theorem exists_launched_deployment : ∃ store₀ s t, deployedBrokers.Reaches reference store₀ s ∧
    deployedBrokers.Later reference s t ∧
    (∃ publicKey, InUse reference (s.clients 0).trace publicKey) ∧
    ∃ publicKey, InUse reference (t.clients 1).trace publicKey := by
  obtain ⟨store₀, publicKey, h⟩ := exists_available_deployment
  have hkeys : ∃ key ∈ servingRun.settings.kmsKeys,
      ∃ key' ∈ (deployedRun deployment).settings.kmsKeys, key'.keyArn = key.keyArn :=
    ⟨primaryKey, List.mem_cons_self, primaryKey, List.mem_cons_self, rfl⟩
  have hrpc : Endpoint.parse ((serveEnvironment.var "ENCLAVE_RPC_LISTEN_ENDPOINT").getD
      defaultEnclaveRpcEndpoint) = .ok (.tcp "127.0.0.1:7003") := rfl
  obtain ⟨s, hreach, hinUse, hothers⟩ := h.exists_inUse (m := 0) rfl deployedBrokers_offers
    starts_serveEnvironment rfl supports_servingRun hkeys hrpc
  have hfresh : Fresh reference s 1 := hothers 1 (by decide)
  obtain ⟨t, hlater, hinUse', _⟩ := (h.later hreach).exists_inUse hfresh deployedBrokers_offers
    starts_serveEnvironment rfl supports_servingRun hkeys hrpc
  exact ⟨store₀, s, t, hreach, hlater, ⟨publicKey, hinUse⟩, publicKey, hinUse'⟩

/-! ## The results -/

/-- The processes agree on the key. However any number of them interleave, fail and stop, and
whoever else sends anything to the brokers: each that has done what it is there for uses a key,
which is the one that the objects in S3 determine from then on, so that no two of them, sooner or
later, use different ones. -/
theorem processes_agree (hlaw : crates.Lawful) (hsame : brokers.SameTarget bucket pre)
    (hreach : brokers.Reaches crates store₀ s) (hlater : brokers.Later crates s t) :
    (∀ n, Launched (s.clients n).trace (s.clients n).program →
      ∃ publicKey, InUse crates (s.clients n).trace publicKey) ∧
    (∀ n publicKey, InUse crates (s.clients n).trace publicKey → ∃ manifest document,
      Published crates s.service.store bucket pre manifest document publicKey ∧
      Published crates t.service.store bucket pre manifest document publicKey) ∧
    (∀ n n' publicKey publicKey', InUse crates (s.clients n).trace publicKey →
      InUse crates (t.clients n').trace publicKey' → publicKey = publicKey') := by
  have hsound := hreach.sound hlaw
  have hpublished : ∀ {s}, brokers.Reaches crates store₀ s → ∀ n publicKey,
      InUse crates (s.clients n).trace publicKey → ∃ manifest document,
        Published crates s.service.store bucket pre manifest document publicKey := by
    intro s hreach n publicKey h
    have hclient := (hreach.sound hlaw).clients n
    exact h.published hlaw hsame hclient.truth
      (uses_decryptServerTeeMain.of_steps hclient.steps).1
  have hle : s.service.store ≤ t.service.store := store_le_of_later hlater
  refine ⟨fun n => exists_inUse (hsound.clients n).steps, fun n publicKey h => ?_,
    fun n n' publicKey publicKey' h h' => ?_⟩
  · obtain ⟨manifest, document, hstore⟩ := hpublished hreach n publicKey h
    exact ⟨manifest, document, hstore, hstore.mono hle⟩
  · obtain ⟨_, _, hstore⟩ := hpublished hreach n publicKey h
    obtain ⟨_, _, hstore'⟩ := hpublished (hreach.trans hlater) n' publicKey' h'
    exact (hstore.mono hle).unique hstore'

/-- In the deployment two processes that have launched use the same key. -/
theorem processes_agree_deployment : ∃ store₀ s t, deployedBrokers.Reaches reference store₀ s ∧
    deployedBrokers.Later reference s t ∧
    ∃ publicKey, InUse reference (s.clients 0).trace publicKey ∧
      InUse reference (t.clients 1).trace publicKey := by
  obtain ⟨store₀, s, t, hreach, hlater, ⟨publicKey, h⟩, publicKey', h'⟩ :=
    exists_launched_deployment
  obtain ⟨_, _, hagree⟩ :=
    processes_agree reference_lawful deployedBrokers_sameTarget hreach hlater
  obtain rfl := hagree 0 1 publicKey publicKey' h h'
  exact ⟨store₀, s, t, hreach, hlater, publicKey, h, h'⟩

end AwsKmsDemo
