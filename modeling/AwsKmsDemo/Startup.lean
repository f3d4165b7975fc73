import AwsKmsDemo.KeyMaterial

/-!
# The enclave process from its start

`run_decrypt_server_tee` of `src/key_material.rs` and `decrypt_server_tee_main` of
`src/bin_support.rs`.
-/

namespace AwsKmsDemo

open Interaction Interaction.Program

variable (crates : Crates)

/-- `run_decrypt_server_tee` -/
def runDecryptServerTee (env : Environment) (settings : ParentSettings)
    (brokerEndpoint : Endpoint) : EnclaveProgram Unit := do
  validateKmsConfiguration settings
  let s3Client : BrokerS3Client := ⟨brokerEndpoint⟩
  let kmsClient ← KmsDataKeyClient.fromEnv env brokerEndpoint
  match settings.startupMode with
  | .initKey =>
    let _ ← initializeKeyMaterial crates s3Client kmsClient settings
    return
  | .serve =>
    let _ ← restoreKeyMaterial crates s3Client kmsClient settings
    return

/-- The settings with the mode that the command line asks for. -/
def overrideMode (command : Option String) (settings : ParentSettings) : AppResult ParentSettings :=
  match command with
  | some "init-key" => .ok { settings with startupMode := .initKey }
  | some "serve" => .ok { settings with startupMode := .serve }
  | some command =>
    .error (.err s!"unknown decrypt-server-tee command '{command}'; expected serve or init-key")
  | none => .ok settings

/-- `env::args().nth(1)` -/
def commandArgument (env : Environment) : AppResult (Option String) :=
  match env.argument with
  | .ok argument => .ok argument
  | .error message => .error (.panic message)

/-- `load_environment` -/
def loadEnvironment : EnclaveProgram Environment := do
  ofText (← perform EnclaveOp.loadEnvironment)

/-- `serve_enclave_rpc` -/
def serveEnclaveRpc (endpoint : Endpoint) : EnclaveProgram Unit := do
  ofText (← perform (EnclaveOp.serveEnclaveRpc endpoint))

/-- `decrypt_server_tee_main` -/
def decryptServerTeeMain : EnclaveProgram Unit := do
  let env ← loadEnvironment
  let brokerEndpoint ← ofText
    (Endpoint.parse ((env.var "ENCLAVE_BROKER_ENDPOINT").getD defaultBrokerEndpoint))
  let brokerSettings ← requestBrokerSettings crates brokerEndpoint
  let command ← commandArgument env
  let settings ← overrideMode command brokerSettings
  let startupMode := settings.startupMode
  runDecryptServerTee crates env settings brokerEndpoint
  if startupMode = .initKey then return
  let rpcEndpoint ← ofText
    (Endpoint.parse ((env.var "ENCLAVE_RPC_LISTEN_ENDPOINT").getD defaultEnclaveRpcEndpoint))
  serveEnclaveRpc rpcEndpoint

end AwsKmsDemo
