import AwsKmsDemo.Json.Render
import AwsKmsDemo.Enclave

/-!
# The native shim

`src/native/nitro_kms_shim.c`, and the code around its calls in `src/nitro_kms.rs`. The functions of
the Nitro SDK and of the C library are operations. A `NULL` pointer is `none`, a C string the bytes
before its NUL, and what a function writes through a pointer to its caller's memory is part of its
result.
-/

namespace AwsKmsDemo

open Interaction Interaction.Program

/-! ## Operations -/

/-- The address of an object of the SDK, or of memory. -/
abbrev Address := ℕ

/-- The bytes of a text. -/
def textBytes (text : String) : Bytes := Json.utf8 text.toList

/-- `aws_byte_buf` -/
structure ByteBuf where
  len : ℕ
  buffer : Option Address
  capacity : ℕ
  deriving DecidableEq

/-- `{0}` -/
def ByteBuf.zero : ByteBuf := ⟨0, none, 0⟩

/-- `aws_key_spec`, as far as it is used. -/
inductive AwsKeySpec where
  /-- `AWS_KS_AES_128` -/
  | aes128
  /-- `AWS_KS_AES_256` -/
  | aes256
  deriving DecidableEq

/-- `aws_socket_endpoint`, over `AWS_SOCKET_VSOCK`. -/
structure VsockEndpoint where
  address : Bytes
  port : UInt32
  deriving DecidableEq

/-- `aws_nitro_enclaves_kms_client_configuration` -/
structure KmsClientConfiguration where
  allocator : Option Address
  region : Option Address
  endpoint : VsockEndpoint
  credentials : Option Address
  deriving DecidableEq

/-- The operations of the shim and of its caller. -/
inductive ShimOp where
  /-- `aws_nitro_enclaves_library_init` -/
  | libraryInit
  /-- `aws_nitro_enclaves_library_clean_up` -/
  | libraryCleanUp
  /-- `aws_nitro_enclaves_library_seed_entropy` -/
  | seedEntropy (bytes : ℕ)
  /-- `aws_nitro_enclaves_get_allocator` -/
  | getAllocator
  /-- `aws_last_error` -/
  | lastError
  /-- `aws_error_debug_str` -/
  | errorDebugStr (code : Int32)
  /-- `aws_string_new_from_c_str` -/
  | stringNew (allocator : Option Address) (text : Bytes)
  /-- `aws_string_destroy` -/
  | stringDestroy (string : Option Address)
  /-- `aws_credentials_new` -/
  | credentialsNew (allocator : Option Address) (accessKeyId secretAccessKey sessionToken : Bytes)
      (expiration : UInt64)
  /-- `aws_credentials_release` -/
  | credentialsRelease (credentials : Address)
  /-- `aws_nitro_enclaves_kms_client_new` -/
  | clientNew (configuration : KmsClientConfiguration)
  /-- `aws_nitro_enclaves_kms_client_destroy` -/
  | clientDestroy (client : Address)
  /-- `aws_kms_generate_data_key_blocking` -/
  | generateDataKeyBlocking (client keyId : Option Address) (keySpec : AwsKeySpec)
  /-- `aws_kms_decrypt_blocking`, or `aws_kms_decrypt_blocking_with_context` if there is a context.
  -/
  | decryptBlocking (client keyId encryptionAlgorithm : Option Address) (ciphertext : Bytes)
      (context : Option Address)
  /-- `aws_byte_buf_clean_up` -/
  | cleanUp (buffer : ByteBuf)
  /-- `aws_byte_buf_clean_up_secure` -/
  | cleanUpSecure (buffer : ByteBuf)
  | malloc (size : ℕ)
  | memcpy (target source : Option Address) (size : ℕ)
  | memset (target : Address) (value : UInt8) (size : ℕ)
  | free (block : Address)
  /-- `slice::from_raw_parts` and `to_vec`, of the caller. -/
  | read (block : Address) (size : ℕ)
  deriving DecidableEq

/-- The answers to the shim's operations. -/
abbrev ShimOp.Ans : ShimOp → Type
  | .libraryInit => Unit
  | .libraryCleanUp => Unit
  | .seedEntropy _ => Int32
  | .getAllocator => Address
  | .lastError => Int32
  | .errorDebugStr _ => Option Bytes
  | .stringNew _ _ => Option Address
  | .stringDestroy _ => Unit
  | .credentialsNew _ _ _ _ _ => Option Address
  | .credentialsRelease _ => Unit
  | .clientNew _ => Option Address
  | .clientDestroy _ => Unit
  | .generateDataKeyBlocking _ _ _ => Int32 × ByteBuf × ByteBuf
  | .decryptBlocking _ _ _ _ _ => Int32 × ByteBuf
  | .cleanUp _ => Unit
  | .cleanUpSecure _ => Unit
  | .malloc _ => Option Address
  | .memcpy _ _ _ => Unit
  | .memset _ _ _ => Unit
  | .free _ => Unit
  | .read _ _ => Bytes

/-- Programs of the shim. A C function always returns. -/
abbrev ShimProgram := Program ShimOp.Ans Empty

/-- `AWS_OP_SUCCESS` -/
def awsOpSuccess : Int32 := 0

/-- `AWS_ERROR_SUCCESS` -/
def awsErrorSuccess : Int32 := 0

/-- `UINT64_MAX` -/
def uint64Max : UInt64 := 18446744073709551615

/-! ## Errors -/

/-- `snprintf` into a buffer: as much of the text as fits, and a NUL. -/
def snprintf (buffer text : Bytes) : Bytes :=
  let written := text.take (buffer.length - 1) ++ [0]
  written ++ buffer.drop written.length

/-- `set_error`, on the caller's buffer for errors. -/
def setError (error : Option Bytes) (message : Option String) : Option Bytes :=
  match error with
  | none => none
  | some buffer =>
    if 0 < buffer.length then
      some (snprintf buffer (textBytes (message.getD "unknown Nitro KMS error")))
    else some buffer

/-- The text that `set_aws_error` writes. -/
def awsErrorText (operation : String) (code : Int32) (detail : Option Bytes) : Bytes :=
  if code = awsErrorSuccess then
    textBytes s!"{operation} failed: Nitro SDK returned AWS_OP_ERR without setting aws_last_error"
  else
    textBytes s!"{operation} failed: " ++ detail.getD (textBytes "unknown") ++
      textBytes s!" ({code.toInt})"

/-- `set_aws_error`, on the caller's buffer for errors. -/
def setAwsError (error : Option Bytes) (operation : String) : ShimProgram (Option Bytes) := do
  let code ← perform ShimOp.lastError
  let detail ← perform (ShimOp.errorDebugStr code)
  match error with
  | none => return none
  | some buffer =>
    if 0 < buffer.length then
      return some (snprintf buffer (awsErrorText operation code detail))
    else return some buffer

/-! ## Buffers -/

/-- `nkms_buffer` -/
structure NkmsBuffer where
  data : Option Address
  len : ℕ
  deriving DecidableEq

/-- A buffer whose data is `NULL`. -/
def NkmsBuffer.null : NkmsBuffer := ⟨none, 0⟩

/-- `copy_buffer` -/
def copyBuffer (source : ByteBuf) : ShimProgram (Int32 × NkmsBuffer) := do
  if source.len = 0 then return (0, .null)
  match ← perform (ShimOp.malloc source.len) with
  | none => return (-1, .null)
  | some data =>
    perform (ShimOp.memcpy (some data) source.buffer source.len)
    return (0, ⟨some data, source.len⟩)

/-- `nkms_buffer_free` -/
def nkmsBufferFree (buffer : NkmsBuffer) : ShimProgram NkmsBuffer := do
  match buffer.data with
  | none => return buffer
  | some data =>
    perform (ShimOp.memset data 0 buffer.len)
    perform (ShimOp.free data)
    return .null

/-! ## The client -/

/-- The arguments that both functions of the shim have. -/
structure ClientArguments where
  region : Bytes
  parentCid : UInt32
  proxyPort : UInt32
  accessKeyId : Bytes
  secretAccessKey : Bytes
  sessionToken : Option Bytes
  deriving DecidableEq

/-- `nkms_client_state` -/
structure NkmsClientState where
  allocator : Option Address
  region : Option Address
  accessKeyId : Option Address
  secretAccessKey : Option Address
  sessionToken : Option Address
  credentials : Option Address
  client : Option Address
  deriving DecidableEq

/-- A state that `memset` has filled with zeros. -/
def NkmsClientState.zero : NkmsClientState := ⟨none, none, none, none, none, none, none⟩

/-- `aws_nitro_enclaves_kms_client_destroy`, unless the client is `NULL`. -/
def destroyClient (client : Option Address) : ShimProgram Unit :=
  match client with
  | some client => perform (ShimOp.clientDestroy client)
  | none => return

/-- `aws_credentials_release`, unless the credentials are `NULL`. -/
def releaseCredentials (credentials : Option Address) : ShimProgram Unit :=
  match credentials with
  | some credentials => perform (ShimOp.credentialsRelease credentials)
  | none => return

/-- `clean_client` -/
def cleanClient (state : NkmsClientState) : ShimProgram NkmsClientState := do
  destroyClient state.client
  releaseCredentials state.credentials
  perform (ShimOp.stringDestroy state.sessionToken)
  perform (ShimOp.stringDestroy state.secretAccessKey)
  perform (ShimOp.stringDestroy state.accessKeyId)
  perform (ShimOp.stringDestroy state.region)
  perform ShimOp.libraryCleanUp
  return .zero

/-- The address of the proxy: `snprintf` of the parent's context identifier, which fits. -/
def ClientArguments.endpoint (arguments : ClientArguments) : VsockEndpoint where
  address := textBytes (toString arguments.parentCid.toNat)
  port := arguments.proxyPort

/-- `init_client` -/
def initClient (arguments : ClientArguments) (error : Option Bytes) :
    ShimProgram (Int32 × NkmsClientState × Option Bytes) := do
  let state := NkmsClientState.zero
  perform ShimOp.libraryInit
  if (← perform (ShimOp.seedEntropy 1024)) ≠ awsOpSuccess then
    let error ← setAwsError error "seeding enclave entropy"
    let state ← cleanClient state
    return (-1, state, error)
  let allocator ← perform ShimOp.getAllocator
  let state := { state with allocator := some allocator }
  let region ← perform (ShimOp.stringNew state.allocator arguments.region)
  let accessKeyId ← perform (ShimOp.stringNew state.allocator arguments.accessKeyId)
  let secretAccessKey ← perform (ShimOp.stringNew state.allocator arguments.secretAccessKey)
  let sessionToken ← perform (ShimOp.stringNew state.allocator (arguments.sessionToken.getD []))
  let state := { state with
    region := region
    accessKeyId := accessKeyId
    secretAccessKey := secretAccessKey
    sessionToken := sessionToken }
  if region = none ∨ accessKeyId = none ∨ secretAccessKey = none ∨ sessionToken = none then
    let error := setError error (some "allocating Nitro KMS client strings failed")
    let state ← cleanClient state
    return (-1, state, error)
  let credentials ← perform (ShimOp.credentialsNew state.allocator arguments.accessKeyId
    arguments.secretAccessKey (arguments.sessionToken.getD []) uint64Max)
  let state := { state with credentials := credentials }
  if credentials = none then
    let error ← setAwsError error "creating AWS credentials"
    let state ← cleanClient state
    return (-1, state, error)
  let client ← perform (ShimOp.clientNew {
    allocator := state.allocator
    region := state.region
    endpoint := arguments.endpoint
    credentials := state.credentials })
  let state := { state with client := client }
  if client = none then
    let error ← setAwsError error "creating Nitro KMS client"
    let state ← cleanClient state
    return (-1, state, error)
  return (0, state, error)

/-! ## GenerateDataKey -/

/-- What `nkms_generate_data_key` returns, and what it leaves in its caller's memory. -/
structure GenerateOutcome where
  result : Int32
  plaintext : NkmsBuffer
  ciphertext : NkmsBuffer
  error : Option Bytes
  deriving DecidableEq

/-- The part of `nkms_generate_data_key` between `init_client` and the label `cleanup`. -/
def generateWithClient (state : NkmsClientState) (kmsKeyId : Option Address) (keyBits : UInt32)
    (error : Option Bytes) : ShimProgram (ByteBuf × ByteBuf × GenerateOutcome) := do
  let keySpec := if keyBits = 128 then AwsKeySpec.aes128 else AwsKeySpec.aes256
  if kmsKeyId = none ∨ (keyBits ≠ 128 ∧ keyBits ≠ 256) then
    let error := setError error (some "Nitro KMS supports only AES-128 or AES-256 data keys")
    return (.zero, .zero, ⟨-1, .null, .null, error⟩)
  let (rc, plain, encrypted) ←
    perform (ShimOp.generateDataKeyBlocking state.client kmsKeyId keySpec)
  if rc ≠ awsOpSuccess then
    let error ← setAwsError error "KMS GenerateDataKey"
    return (plain, encrypted, ⟨-1, .null, .null, error⟩)
  let (copied, plaintext) ← copyBuffer plain
  let (copied, ciphertext) ← if copied ≠ 0 then pure (copied, .null) else copyBuffer encrypted
  if copied ≠ 0 then
    let error := setError error (some "copying KMS data key response failed")
    let plaintext ← nkmsBufferFree plaintext
    let ciphertext ← nkmsBufferFree ciphertext
    return (plain, encrypted, ⟨-1, plaintext, ciphertext, error⟩)
  return (plain, encrypted, ⟨0, plaintext, ciphertext, error⟩)

/-- `nkms_generate_data_key` -/
def nkmsGenerateDataKey (arguments : ClientArguments) (keyId : Bytes) (keyBits : UInt32)
    (error : Option Bytes) : ShimProgram GenerateOutcome := do
  let (rc, state, error) ← initClient arguments error
  if rc ≠ 0 then return ⟨-1, .null, .null, error⟩
  let kmsKeyId ← perform (ShimOp.stringNew state.allocator keyId)
  let (plain, encrypted, outcome) ← generateWithClient state kmsKeyId keyBits error
  -- `cleanup:`
  perform (ShimOp.cleanUpSecure plain)
  perform (ShimOp.cleanUp encrypted)
  perform (ShimOp.stringDestroy kmsKeyId)
  let _ ← cleanClient state
  return outcome

/-! ## Decrypt -/

/-- What `nkms_decrypt_data_key` returns, and what it leaves in its caller's memory. -/
structure DecryptOutcome where
  result : Int32
  plaintext : NkmsBuffer
  error : Option Bytes
  deriving DecidableEq

/-- The part of `nkms_decrypt_data_key` between the calls of the SDK and the label `cleanup`. -/
def finishDecrypt (rc : Int32) (plain : ByteBuf) (error : Option Bytes) :
    ShimProgram DecryptOutcome := do
  if rc ≠ awsOpSuccess then
    let error ← setAwsError error "KMS Decrypt"
    return ⟨-1, .null, error⟩
  let (copied, plaintext) ← copyBuffer plain
  if copied ≠ 0 then
    let error := setError error (some "copying decrypted KMS data key failed")
    return ⟨-1, plaintext, error⟩
  return ⟨0, plaintext, error⟩

/-- The part of `nkms_decrypt_data_key` between `init_client` and the label `cleanup`. -/
def decryptWithClient (state : NkmsClientState) (ciphertext : Bytes)
    (encryptionContextJson : Option Bytes) (error : Option Bytes) :
    ShimProgram (ByteBuf × Option Address × DecryptOutcome) := do
  match encryptionContextJson with
  | some (c :: json) =>
    let context ← perform (ShimOp.stringNew state.allocator (c :: json))
    if context = none then
      let error := setError error (some "allocating KMS encryption context failed")
      return (.zero, none, ⟨-1, .null, error⟩)
    let (rc, plain) ←
      perform (ShimOp.decryptBlocking state.client none none ciphertext context)
    let outcome ← finishDecrypt rc plain error
    return (plain, context, outcome)
  | _ =>
    let (rc, plain) ← perform (ShimOp.decryptBlocking state.client none none ciphertext none)
    let outcome ← finishDecrypt rc plain error
    return (plain, none, outcome)

/-- `nkms_decrypt_data_key` -/
def nkmsDecryptDataKey (arguments : ClientArguments) (ciphertext : Bytes)
    (encryptionContextJson : Option Bytes) (error : Option Bytes) : ShimProgram DecryptOutcome := do
  let (rc, state, error) ← initClient arguments error
  if rc ≠ 0 then return ⟨-1, .null, error⟩
  let (plain, context, outcome) ← decryptWithClient state ciphertext encryptionContextJson error
  -- `cleanup:`
  perform (ShimOp.cleanUpSecure plain)
  perform (ShimOp.stringDestroy context)
  let _ ← cleanClient state
  return outcome

/-! ## The calls in `nitro_kms.rs` -/

/-- `take_native_buffer` -/
def takeNativeBuffer (buffer : NkmsBuffer) : ShimProgram Bytes := do
  let bytes ← match buffer.data with
    | none => pure []
    | some data => if buffer.len = 0 then pure [] else perform (ShimOp.read data buffer.len)
  let _ ← nkmsBufferFree buffer
  return bytes

/-- `ERROR_BUFFER_LENGTH` -/
def errorBufferLength : ℕ := 1024

/-- The arguments as C strings. -/
def NativeClient.arguments (native : NativeClient) : ClientArguments where
  region := textBytes native.region
  parentCid := native.parentCid
  proxyPort := native.proxyPort
  accessKeyId := textBytes native.accessKeyId
  secretAccessKey := textBytes native.secretAccessKey
  sessionToken := some (textBytes native.sessionToken)

/-- The call in `NitroKmsClient::generate_data_key`. It fails with the buffer for errors. -/
def callNkmsGenerateDataKey (native : NativeClient) (keyId : String) (keyBits : UInt32) :
    ShimProgram (Except (Option Bytes) (Bytes × Bytes)) := do
  let error := List.replicate errorBufferLength 0
  let outcome ← nkmsGenerateDataKey native.arguments (textBytes keyId) keyBits (some error)
  if outcome.result ≠ 0 then return .error outcome.error
  let plaintextDataKey ← takeNativeBuffer outcome.plaintext
  let encryptedDataKey ← takeNativeBuffer outcome.ciphertext
  return .ok (plaintextDataKey, encryptedDataKey)

/-- The call in `NitroKmsClient::decrypt_data_key`. It fails with the buffer for errors. -/
def callNkmsDecryptDataKey (native : NativeClient) (ciphertext : Bytes)
    (encryptionContextJson : Option String) : ShimProgram (Except (Option Bytes) Bytes) := do
  let error := List.replicate errorBufferLength 0
  let outcome ← nkmsDecryptDataKey native.arguments ciphertext
    (encryptionContextJson.map textBytes) (some error)
  if outcome.result ≠ 0 then return .error outcome.error
  let plaintextDataKey ← takeNativeBuffer outcome.plaintext
  return .ok plaintextDataKey

end AwsKmsDemo
