import AwsKmsDemo.Debug
import AwsKmsDemo.Framing
import AwsKmsDemo.Interaction.Program
import AwsKmsDemo.Settings

/-!
# The enclave process and its clients

What the enclave process asks of its surroundings, and the clients through which it does so: the
broker's protocol (`request_broker` in `src/lib.rs`, `BrokerS3Client` in `src/key_material.rs`), and
KMS (`KmsDataKeyClient` in `src/key_material.rs`, `NitroKmsClient` in `src/nitro_kms.rs`). The C
shim under `NitroKmsClient` is an operation here.
-/

namespace AwsKmsDemo

open Interaction Interaction.Program Stream

/-! ## Operations -/

/-- The KMS client of `local_kms_client`. -/
structure KmsClient where
  accessKeyId : String
  secretAccessKey : String
  sessionToken : Option String
  region : String
  deriving DecidableEq

/-- A `Decrypt` request. -/
structure DecryptRequest where
  ciphertextBlob : Bytes
  keyId : String
  encryptionContext : Option HashMap
  grantTokens : List String
  dryRun : Option Bool
  deriving DecidableEq

/-- The output of `GenerateDataKey`, as far as it is used. -/
structure GenerateDataKeyOutput where
  plaintext : Option Bytes
  ciphertextBlob : Option Bytes
  keyId : Option String
  deriving DecidableEq

/-- The arguments that both functions of the C shim have. -/
structure NativeClient where
  region : String
  parentCid : UInt32
  proxyPort : UInt32
  accessKeyId : String
  secretAccessKey : String
  sessionToken : String
  deriving DecidableEq

/-- The operations of the enclave process. -/
inductive EnclaveOp where
  /-- `load_environment`, after which the environment stays as it is. -/
  | loadEnvironment
  /-- `connect_endpoint` -/
  | connect (endpoint : Endpoint)
  /-- Write a frame to the connection just made, and wait for what comes back. -/
  | exchange (endpoint : Endpoint) (frame : Bytes)
  /-- `rand::random::<[u8; n]>` -/
  | random (n : ℕ)
  /-- `GenerateDataKey`, whose parameters are all those of the settings. -/
  | generateDataKey (client : KmsClient) (request : Settings)
  /-- `Decrypt` -/
  | decrypt (client : KmsClient) (request : DecryptRequest)
  /-- `nkms_generate_data_key` -/
  | nkmsGenerateDataKey (client : NativeClient) (keyId : String) (keyBits : UInt32)
  /-- `nkms_decrypt_data_key` -/
  | nkmsDecryptDataKey (client : NativeClient) (ciphertext : Bytes)
      (encryptionContextJson : Option String)
  /-- `serve_enclave_rpc` -/
  | serveEnclaveRpc (endpoint : Endpoint)
  deriving DecidableEq

/-- The answers to the enclave's operations. Every call of the AWS SDK and of the C shim is taken to
come back, with a result or an error: that the SDK may panic instead, as on credentials that are no
value of an HTTP header, is left out. -/
abbrev EnclaveOp.Ans : EnclaveOp → Type
  | .loadEnvironment => Except String Environment
  | .connect _ => Except String Unit
  | .exchange _ _ => Except String Reader
  | .random n => Vector UInt8 n
  | .generateDataKey _ _ => Except String GenerateDataKeyOutput
  | .decrypt _ _ => Except String (Option Bytes)
  | .nkmsGenerateDataKey _ _ _ => Except String (Bytes × Bytes)
  | .nkmsDecryptDataKey _ _ _ => Except String Bytes
  | .serveEnclaveRpc _ => Except String Unit

/-- Programs of the enclave process. -/
abbrev EnclaveProgram := Program EnclaveOp.Ans AppError

/-- One operation of the enclave process with its answer. -/
abbrev EnclaveEvent := Event EnclaveOp.Ans

/-- `connect_endpoint` -/
def connectEndpoint (endpoint : Endpoint) : EnclaveProgram (Except String Unit) :=
  perform (EnclaveOp.connect endpoint)

/-- Write a frame and wait for what comes back. -/
def exchange (endpoint : Endpoint) (frame : Bytes) : EnclaveProgram (Except String Reader) :=
  perform (EnclaveOp.exchange endpoint frame)

/-- `rand::random` -/
def random (n : ℕ) : EnclaveProgram (Vector UInt8 n) :=
  perform (EnclaveOp.random n)

/-! ## The broker -/

section Broker

variable (crates : Crates)

/-- The bytes that a computation writes to a stream, if it succeeds. -/
def written (write : Write AppError Unit) : AppResult Bytes :=
  match write.on [] with
  | (.ok (), bytes) => .ok bytes
  | (.error error, _) => .error error

/-- The first half of `request_broker`: connect, and send the request. -/
def sendRequest (endpoint : Endpoint) (request : BrokerRequest) : EnclaveProgram Reader := do
  ofText (← connectEndpoint endpoint)
  let frame ← written (writeJsonFrame request)
  ofText (← exchange endpoint frame)

/-- The second half of `request_broker`: read the response. -/
def receiveResponse (stream : Reader) : AppResult BrokerResponse := do
  match ← ((readJsonFrame crates.responseFromSlice).on stream).1 with
  | .error message => throw (.err message)
  | response => return response

/-- `request_broker` -/
def requestBroker (endpoint : Endpoint) (request : BrokerRequest) :
    EnclaveProgram BrokerResponse := do
  let stream ← sendRequest endpoint request
  receiveResponse crates stream

/-- The error about a response of another kind than the one requested. -/
def unexpectedResponse (response : BrokerResponse) : AppError :=
  .err s!"unexpected enclave-broker response: {crates.debugResponse response}"

/-- `request_broker_settings` -/
def requestBrokerSettings (endpoint : Endpoint) : EnclaveProgram ParentSettings := do
  match ← requestBroker crates endpoint .getSettings with
  | .settings settings => return settings
  | response => throw (unexpectedResponse crates response)

/-- `request_broker_credentials` -/
def requestBrokerCredentials (endpoint : Endpoint) (slot : KmsSlot) :
    EnclaveProgram AwsCredentials := do
  match ← requestBroker crates endpoint (.getAwsCredentials slot) with
  | .awsCredentials credentials => return credentials
  | response => throw (unexpectedResponse crates response)

/-- `BrokerS3Client` -/
structure BrokerS3Client where
  endpoint : Endpoint
  deriving DecidableEq

/-- `BrokerS3Client::load_object` -/
def BrokerS3Client.loadObject (s3Client : BrokerS3Client) (bucket key : String) :
    EnclaveProgram (Option Bytes) := do
  match ← requestBroker crates s3Client.endpoint (.loadObject bucket key) with
  | .object body => return body
  | response => throw (unexpectedResponse crates response)

/-- `BrokerS3Client::save_object_if_absent` -/
def BrokerS3Client.saveObjectIfAbsent (s3Client : BrokerS3Client) (bucket key : String)
    (body : Bytes) : EnclaveProgram Unit := do
  match ← requestBroker crates s3Client.endpoint (.saveObjectIfAbsent bucket key body) with
  | .saved => return
  | response => throw (unexpectedResponse crates response)

end Broker

/-! ## KMS through the AWS SDK -/

/-- `local_kms_client` -/
def localKmsClient (credentials : AwsCredentials) : KmsClient where
  accessKeyId := credentials.accessKeyId
  secretAccessKey := credentials.secretAccessKey
  sessionToken := credentials.sessionToken
  region := credentials.region

/-- `ok_or` -/
def okOr {α : Type} (value : Option α) (message : String) : AppResult α :=
  match value with
  | some a => .ok a
  | none => .error (.err message)

/-- `call_generate_data_key` -/
def callGenerateDataKey (kmsClient : KmsClient) (settings : Settings) :
    EnclaveProgram GeneratedDataKey := do
  let output ← ofText (← perform (EnclaveOp.generateDataKey kmsClient settings))
  let plaintextDataKey ← okOr output.plaintext
    "KMS GenerateDataKey response did not include plaintext data key"
  let encryptedDataKey ← okOr output.ciphertextBlob
    "KMS GenerateDataKey response did not include encrypted data key"
  return {
    plaintextDataKey := plaintextDataKey
    encryptedDataKey := encryptedDataKey
    kmsKeyId := output.keyId.getD settings.kmsKeyId }

/-- `call_decrypt_data_key` -/
def callDecryptDataKey (kmsClient : KmsClient) (settings : Settings) (encryptedDataKey : Bytes) :
    EnclaveProgram Bytes := do
  let request : DecryptRequest :=
    { ciphertextBlob := encryptedDataKey
      keyId := settings.kmsKeyId
      encryptionContext := settings.encryptionContext
      grantTokens := settings.grantTokens
      dryRun := settings.dryRun }
  let plaintext ← ofText (← perform (EnclaveOp.decrypt kmsClient request))
  okOr plaintext "KMS Decrypt response did not include plaintext data key"

/-! ## KMS through the Nitro SDK -/

/-- `NitroKmsClient` -/
structure NitroKmsClient where
  parentCid : UInt32
  proxyPort : UInt32
  deriving DecidableEq

/-- `validate_common_options` -/
def validateCommonOptions (settings : ParentSettings) : AppResult Unit := do
  failIf (settings.grantTokens ≠ [])
    (.err "KMS_GRANT_TOKENS is not supported by the Nitro C SDK high-level data-key API")
  failIf (settings.dryRun = some true)
    (.err "KMS_DRY_RUN=true is not supported when RUNNING_IN_ENCLAVE=true")

/-- `data_key_bits` -/
def dataKeyBits (settings : ParentSettings) : AppResult UInt32 :=
  match settings.keySpec, settings.numberOfBytes with
  | some "AES_128", none => .ok 128
  | none, some 16 => .ok 128
  | some "AES_256", none => .ok 256
  | none, some 32 => .ok 256
  | _, _ => .error (.err "Nitro KMS data key must be AES_128/AES_256 or 16/32 bytes")

/-- `c_string` -/
def cString (name value : String) : AppResult String :=
  if Char.ofNat 0 ∈ value.toList then .error (.err s!"{name} contains a NUL byte") else .ok value

/-- `native_error`, of the text in the error buffer. -/
def nativeError (message : String) : AppError :=
  if message = "" then .err "Nitro KMS C SDK call failed" else .err message

/-- The conversion of the arguments that both native functions have. -/
def NitroKmsClient.native (client : NitroKmsClient) (credentials : AwsCredentials) :
    AppResult NativeClient := do
  let region ← cString "AWS region" credentials.region
  let accessKeyId ← cString "AWS access key ID" credentials.accessKeyId
  let secretAccessKey ← cString "AWS secret access key" credentials.secretAccessKey
  let sessionToken ← cString "AWS session token" (credentials.sessionToken.getD "")
  return {
    region := region
    parentCid := client.parentCid
    proxyPort := client.proxyPort
    accessKeyId := accessKeyId
    secretAccessKey := secretAccessKey
    sessionToken := sessionToken }

/-- `NitroKmsClient::generate_data_key` -/
def NitroKmsClient.generateDataKey (client : NitroKmsClient) (settings : ParentSettings)
    (credentials : AwsCredentials) (keyId : String) : EnclaveProgram GeneratedDataKey := do
  validateCommonOptions settings
  failIf settings.encryptionContext.isSome
    (.err "KMS_ENCRYPTION_CONTEXT is not supported for GenerateDataKey by the Nitro C SDK high-level API")
  let keyBits ← dataKeyBits settings
  let native ← client.native credentials
  let keyIdC ← cString "KMS key ID" keyId
  match ← perform (EnclaveOp.nkmsGenerateDataKey native keyIdC keyBits) with
  | .error message => throw (nativeError message)
  | .ok (plaintextDataKey, encryptedDataKey) =>
    return {
      plaintextDataKey := plaintextDataKey
      encryptedDataKey := encryptedDataKey
      kmsKeyId := keyId }

/-- `NitroKmsClient::decrypt_data_key` -/
def NitroKmsClient.decryptDataKey (client : NitroKmsClient) (settings : ParentSettings)
    (credentials : AwsCredentials) (encryptedDataKey : Bytes) : EnclaveProgram Bytes := do
  validateCommonOptions settings
  let native ← client.native credentials
  let contextJson := settings.encryptionContext.map fun context =>
    String.ofList (Json.render none (serialize context))
  let context ← (contextJson.mapM (cString "KMS encryption context") : AppResult (Option String))
  match ← perform (EnclaveOp.nkmsDecryptDataKey native encryptedDataKey context) with
  | .error message => throw (nativeError message)
  | .ok plaintextDataKey => return plaintextDataKey

/-! ## Either of the two -/

/-- `KmsDataKeyClient` -/
inductive KmsDataKeyClient where
  | local (brokerEndpoint : Endpoint)
  | nitro (client : NitroKmsClient) (brokerEndpoint : Endpoint)
  deriving DecidableEq

/-- The `broker_endpoint` of either variant. -/
def KmsDataKeyClient.brokerEndpoint : KmsDataKeyClient → Endpoint
  | .local brokerEndpoint => brokerEndpoint
  | .nitro _ brokerEndpoint => brokerEndpoint

/-- A `u32` from the environment, with a default. -/
def u32Env (env : Environment) (name : String) (default : UInt32) : AppResult UInt32 :=
  match optionalEnv env name with
  | some value => ofText (parseU32 value s!"{name} must be a u32")
  | none => .ok default

/-- The variables by which `KmsDataKeyClient::from_env` tells whether it runs in an enclave. -/
def runningInEnclave (env : Environment) : AppResult Bool :=
  match optionalEnv env "RUNNING_IN_ENCLAVE" with
  | some value => ofText (parseBool "RUNNING_IN_ENCLAVE" value)
  | none =>
    match optionalEnv env "KMS_MODE" with
    | some "nitro" => .ok true
    | some "local-aws" => .ok false
    | none => .ok false
    | some other =>
      .error (.err s!"unsupported legacy KMS_MODE '{other}', expected local-aws or nitro")

/-- `KmsDataKeyClient::from_env` -/
def KmsDataKeyClient.fromEnv (env : Environment) (brokerEndpoint : Endpoint) :
    AppResult KmsDataKeyClient := do
  if !(← runningInEnclave env) then return .local brokerEndpoint
  if env.nitroEnclave then
    let parentCid ← u32Env env "NITRO_PARENT_CID" defaultParentCid
    let proxyPort ← u32Env env "NITRO_KMS_PROXY_PORT" defaultNitroKmsProxyPort
    return .nitro ⟨parentCid, proxyPort⟩ brokerEndpoint
  else
    throw (.err "RUNNING_IN_ENCLAVE=true requires building decrypt-server-tee with --features nitro-enclave")

section Kms

variable (crates : Crates)

/-- `KmsDataKeyClient::generate_data_key` -/
def KmsDataKeyClient.generateDataKey (kmsClient : KmsDataKeyClient) (settings : ParentSettings)
    (key : KmsKeySettings) : EnclaveProgram GeneratedDataKey := do
  let credentials ← requestBrokerCredentials crates kmsClient.brokerEndpoint key.slot
  match kmsClient with
  | .local _ =>
    let client := localKmsClient credentials
    let requestSettings ← ofText (settings.kmsRequestSettings key.keyArn)
    callGenerateDataKey client requestSettings
  | .nitro client _ => client.generateDataKey settings credentials key.keyArn

/-- `KmsDataKeyClient::decrypt_data_key` -/
def KmsDataKeyClient.decryptDataKey (kmsClient : KmsDataKeyClient) (settings : ParentSettings)
    (key : KmsKeySettings) (encryptedDataKey : Bytes) : EnclaveProgram Bytes := do
  let credentials ← requestBrokerCredentials crates kmsClient.brokerEndpoint key.slot
  match kmsClient with
  | .local _ =>
    let client := localKmsClient credentials
    let requestSettings ← ofText (settings.kmsRequestSettings key.keyArn)
    callDecryptDataKey client requestSettings encryptedDataKey
  | .nitro client _ => client.decryptDataKey settings credentials encryptedDataKey

end Kms

end AwsKmsDemo
