import AwsKmsDemo.Broker
import AwsKmsDemo.Startup

/-!
# The broker process from its start

`enclave_broker_main` of `src/bin_support.rs` and `serve_enclave_broker` of `src/lib.rs`, up to the
loop that accepts connections. What the loop has for every connection is a `BrokerConfig`.
-/

namespace AwsKmsDemo

open Interaction Interaction.Program

/-- What a broker finds outside its environment when it starts. -/
structure BrokerSurroundings where
  /-- Whether the configuration that the SDK loads has a credentials provider. -/
  hasDefaultProvider : Bool
  /-- `listen_endpoint` -/
  listenEndpoint : Endpoint → Except String Unit

/-- `explicit_kms_credentials_provider` -/
def explicitKmsCredentialsProvider (env : Environment) (pre : String) :
    Except String (Option CredentialsProvider) :=
  let accessKeyName := s!"{pre}_ACCESS_KEY_ID"
  let secretKeyName := s!"{pre}_SECRET_ACCESS_KEY"
  let sessionTokenName := s!"{pre}_SESSION_TOKEN"
  match optionalEnv env accessKeyName, optionalEnv env secretKeyName with
  | none, none => .ok none
  | some accessKeyId, some secretAccessKey =>
    .ok (some (.explicit
      { accessKeyId := accessKeyId
        secretAccessKey := secretAccessKey
        sessionToken := optionalEnv env sessionTokenName
        expiry := none }))
  | _, _ => .error s!"set both {accessKeyName} and {secretKeyName}, or neither"

/-- `serve_enclave_broker`, up to its loop -/
def serveEnclaveBroker (env : Environment) (surroundings : BrokerSurroundings) (endpoint : Endpoint)
    (settings : ParentSettings) (allowedEnclaveCid : Option UInt32) : AppResult BrokerConfig := do
  failIf (¬ surroundings.hasDefaultProvider)
    (.err "AWS credential provider is not configured on enclave-broker")
  let primary ← ofText (explicitKmsCredentialsProvider env "KMS_PRIMARY")
  let backup ← ofText (explicitKmsCredentialsProvider env "KMS_BACKUP")
  ofText (surroundings.listenEndpoint endpoint)
  return {
    settings := settings
    credentialsProviders := [(.primary, some (primary.getD .defaultChain)), (.backup, backup)]
    allowedEnclaveCid := allowedEnclaveCid }

/-- What `enclave_broker_main` comes to. -/
inductive BrokerMain where
  /-- It asks the enclave at an endpoint for its greeting. -/
  | hello (endpoint : Endpoint)
  /-- It serves connections. -/
  | serve (config : BrokerConfig)
  deriving DecidableEq

/-- `enclave_broker_main`, in the environment that `load_environment` leaves -/
def enclaveBrokerMain (env : Environment) (surroundings : BrokerSurroundings) :
    AppResult BrokerMain := do
  match ← commandArgument env with
  | some "hello" =>
    let endpoint ← ofText
      (Endpoint.parse ((env.var "ENCLAVE_RPC_ENDPOINT").getD defaultEnclaveRpcEndpoint))
    return .hello endpoint
  | some command => throw (.err s!"unknown enclave-broker command '{command}'; expected hello")
  | none =>
    let settings ← ofText (ParentSettings.fromEnv env)
    let listenEndpoint ← ofText
      (Endpoint.parse ((env.var "ENCLAVE_BROKER_LISTEN_ENDPOINT").getD defaultBrokerEndpoint))
    let allowedEnclaveCid ← ofText ((optionalEnv env "ENCLAVE_BROKER_ALLOWED_CID").mapM fun value =>
      parseU32 value "ENCLAVE_BROKER_ALLOWED_CID must be a u32")
    let config ← serveEnclaveBroker env surroundings listenEndpoint settings allowedEnclaveCid
    return .serve config

/-- Where the configuration of a broker that has started comes from. -/
theorem config_of_enclaveBrokerMain {env : Environment} {surroundings : BrokerSurroundings}
    {config : BrokerConfig} (h : enclaveBrokerMain env surroundings = .ok (.serve config)) :
    ∃ primary backup,
      ParentSettings.fromEnv env = .ok config.settings ∧
      explicitKmsCredentialsProvider env "KMS_PRIMARY" = .ok primary ∧
      explicitKmsCredentialsProvider env "KMS_BACKUP" = .ok backup ∧
      (optionalEnv env "ENCLAVE_BROKER_ALLOWED_CID").mapM (fun value =>
        parseU32 value "ENCLAVE_BROKER_ALLOWED_CID must be a u32") = .ok config.allowedEnclaveCid ∧
      config.credentialsProviders =
        [(.primary, some (primary.getD .defaultChain)), (.backup, backup)] := by
  unfold enclaveBrokerMain at h
  obtain ⟨command, _, h₁⟩ := except_bind_eq_ok.mp h
  split at h₁
  · obtain ⟨_, _, h₂⟩ := except_bind_eq_ok.mp h₁
    cases h₂
  · cases h₁
  · obtain ⟨settings, hsettings, h₂⟩ := except_bind_eq_ok.mp h₁
    obtain ⟨listenEndpoint, _, h₃⟩ := except_bind_eq_ok.mp h₂
    obtain ⟨allowed, hallowed, h₄⟩ := except_bind_eq_ok.mp h₃
    obtain ⟨config', hserve, h₅⟩ := except_bind_eq_ok.mp h₄
    obtain rfl : config' = config := BrokerMain.serve.inj (Except.ok.inj h₅)
    unfold serveEnclaveBroker at hserve
    obtain ⟨_, _, h₆⟩ := except_bind_eq_ok.mp hserve
    obtain ⟨primary, hprimary, h₇⟩ := except_bind_eq_ok.mp h₆
    obtain ⟨backup, hbackup, h₈⟩ := except_bind_eq_ok.mp h₇
    obtain ⟨_, _, h₉⟩ := except_bind_eq_ok.mp h₈
    rw [← Except.ok.inj h₉]
    exact ⟨primary, backup, ofText_eq_ok.mp hsettings, ofText_eq_ok.mp hprimary,
      ofText_eq_ok.mp hbackup, ofText_eq_ok.mp hallowed, rfl⟩

end AwsKmsDemo
