import AwsKmsDemo.Enclave

/-!
# Initializing and restoring key material

`src/key_material.rs`: how a key pair is generated and committed to S3, and how it is restored from
there. What is printed on the way is left out, and so is the erasure of secrets from memory.
-/

namespace AwsKmsDemo

open Interaction Interaction.Program

variable (crates : Crates)

/-! ## Hashes and names -/

/-- A byte as two hexadecimal digits, `{byte:02x}`. -/
def hexByte (b : UInt8) : List Char := [Json.hexDigit (b.toNat / 16), Json.hexDigit (b.toNat % 16)]

/-- `sha256_hex` -/
def sha256Hex (bytes : Bytes) : String :=
  String.ofList ((crates.sha256 bytes).toList.flatMap hexByte)

/-- `kms_key_display_id` -/
def kmsKeyDisplayId (keyArn : String) : Except String String := do
  let keyId ← match (Text.splitOnce ":key/".toList keyArn.toList).map Prod.snd with
    | some (c :: cs) => pure (c :: cs)
    | _ => throw s!"KMS key ARN must contain a non-empty key ID: {keyArn}"
  if !keyId.all fun c => c.isAlphanum || c = '-' then
    throw s!"KMS key ARN contains an unsafe key ID: {keyArn}"
  return String.ofList (keyId.reverse.take 8).reverse

/-- `kms_key_storage_id` -/
def kmsKeyStorageId (keyArn : String) : Except String String := do
  let displayId ← kmsKeyDisplayId keyArn
  let arnHash := sha256Hex crates (Json.utf8 keyArn.toList)
  let shortHash := String.ofList (arnHash.toList.take 12)
  return s!"{displayId}-{shortHash}"

/-- `object_key` -/
def objectKey (pre relative : String) : String := s!"{pre}/{relative}"

/-! ## Data keys -/

/-- `validate_data_key_len` -/
def validateDataKeyLen (dataKey : Bytes) : Except String Unit :=
  if dataKey.length = 16 ∨ dataKey.length = 32 then .ok ()
  else .error s!"unsupported plaintext data key length {dataKey.length}; use KMS_KEY_SPEC=AES_128/AES_256 or KMS_NUMBER_OF_BYTES=16/32"

/-- The cipher that `encrypt_private_key` and `decrypt_private_key` use under a data key. -/
def dataKeyCipher (dataKey : Bytes) : AppResult AesGcm :=
  match dataKey.length with
  | 16 => .ok .aes128
  | 32 => .ok .aes256
  | len => .error (.err s!"unsupported plaintext data key length {len}; expected 16 or 32 bytes")

/-- `encrypt_private_key` -/
def encryptPrivateKey (dataKey : Bytes) (nonce : Vector UInt8 12) (privateKey : Bytes) :
    AppResult Bytes := do
  let cipher ← dataKeyCipher dataKey
  ofText (crates.aesGcmEncrypt cipher dataKey nonce privateKey)

/-- `decrypt_private_key` -/
def decryptPrivateKey (dataKey : Bytes) (nonce : Vector UInt8 12) (encryptedPrivateKey : Bytes) :
    AppResult Bytes := do
  let cipher ← dataKeyCipher dataKey
  ofText (crates.aesGcmDecrypt cipher dataKey nonce encryptedPrivateKey)

/-- `decode_base64` -/
def decodeBase64 (name value : String) : Except String Bytes :=
  (crates.base64Decode value).mapError fun error => s!"{name} is not valid base64: {error}"

/-- `fixed_bytes` -/
def fixedBytes (n : ℕ) (name : String) (bytes : Bytes) : Except String (Vector UInt8 n) :=
  if h : bytes.length = n then .ok ⟨bytes.toArray, h⟩
  else .error s!"{name} must be {n} bytes, got {bytes.length}"

/-- `decode_fixed_base64` -/
def decodeFixedBase64 (n : ℕ) (name value : String) : Except String (Vector UInt8 n) := do
  let bytes ← decodeBase64 crates name value
  fixedBytes n name bytes

/-! ## Checks -/

/-- `verify_sha256` -/
def verifySha256 (name : String) (body : Bytes) (expected : String) : AppResult Unit :=
  let actual := sha256Hex crates body
  failIf (actual ≠ expected) (.err s!"{name} SHA-256 mismatch: expected {expected}, got {actual}")

/-- `validate_kms_configuration` -/
def validateKmsConfiguration (settings : ParentSettings) : AppResult Unit :=
  match settings.kmsKeys with
  | [primary, backup] => do
    failIf (primary.keyArn = backup.keyArn)
      (.err "primary and backup KMS key ARNs must be different")
    -- Equal accounts only cause a warning.
    let _ ← kmsAccountFromArn primary.keyArn
    let _ ← kmsAccountFromArn backup.keyArn
    failIf (primary.region ≠ backup.region)
      (.err "primary and backup KMS keys must be in the same region because the enclave uses one KMS vsock-proxy endpoint")
  | _ => throw (.err "exactly two KMS keys are required")

/-- `validate_manifest` -/
def validateManifest (manifest : KeyManifest) : AppResult Unit := do
  failIf (manifest.version ≠ keyMaterialVersion)
    (.err s!"unsupported key manifest version {manifest.version}")
  failIf (manifest.recoveryPolicy ≠ "any-one")
    (.err s!"unsupported recovery policy {manifest.recoveryPolicy}")
  failIf (manifest.privateKeyAlgorithm ≠ privateKeyAlgorithm ∨
      manifest.privateKeyEncryption ≠ privateKeyEncryption)
    (.err "unsupported private key algorithm or encryption in manifest")
  failIf (manifest.recoveryObjects.length ≠ 2)
    (.err "key manifest must contain exactly two recovery objects")

/-- `validate_public_document` -/
def validatePublicDocument (document : PublicKeyDocument) (manifest : KeyManifest) :
    AppResult (Vector UInt8 32) := do
  failIf (document.version ≠ keyMaterialVersion ∨ document.algorithm ≠ privateKeyAlgorithm)
    (.err "unsupported public key document")
  let publicKey ← ofText (decodeFixedBase64 crates 32 "public_key_base64" document.publicKeyBase64)
  let fingerprint := sha256Hex crates publicKey.toList
  failIf (fingerprint ≠ document.fingerprintSha256 ∨ fingerprint ≠ manifest.keyFingerprint)
    (.err "public key fingerprint does not match the manifest")
  return publicKey

/-- `verify_uploaded_object` -/
def verifyUploadedObject (s3Client : BrokerS3Client) (bucket key expectedHash : String) :
    EnclaveProgram Unit := do
  let loaded ← s3Client.loadObject crates bucket key
  let body ← okOr loaded s!"uploaded object disappeared before verification: {key}"
  verifySha256 crates "uploaded object" body expectedHash

/-- `restore_from_package` -/
def restoreFromPackage (kmsClient : KmsDataKeyClient) (settings : ParentSettings)
    (key : KmsKeySettings) (package : RecoveryPackage) (expectedPublicKey : Vector UInt8 32) :
    EnclaveProgram Unit := do
  failIf (package.version ≠ keyMaterialVersion)
    (.err s!"unsupported recovery package version {package.version}")
  let encryptedDataKey ← ofText
    (decodeBase64 crates "encrypted_data_key_base64" package.encryptedDataKeyBase64)
  let encryptedPrivateKey ← ofText
    (decodeBase64 crates "encrypted_private_key_base64" package.encryptedPrivateKeyBase64)
  let nonce ← ofText
    (decodeFixedBase64 crates aesGcmNonceLength "private_key_nonce_base64"
      package.privateKeyNonceBase64)
  let plaintextDataKey ← kmsClient.decryptDataKey crates settings key encryptedDataKey
  ofText (validateDataKeyLen plaintextDataKey)
  let decryptedPrivateKey ← decryptPrivateKey crates plaintextDataKey nonce encryptedPrivateKey
  let privateKey ← ofText (fixedBytes ed25519PrivateKeyLength "private key" decryptedPrivateKey)
  let actualPublicKey := crates.ed25519PublicKey privateKey
  failIf (actualPublicKey ≠ expectedPublicKey)
    (.err "restored private key does not match the stored public key")

/-! ## Initialization -/

/-- The body of the loop of `initialize_key_material`: encrypt the private key under a new data key,
and store and verify the package. -/
def createRecoveryObject (s3Client : BrokerS3Client) (kmsClient : KmsDataKeyClient)
    (settings : ParentSettings) (privateKey publicKey : Vector UInt8 32) (key : KmsKeySettings) :
    EnclaveProgram RecoveryObjectReference := do
  let generated ← kmsClient.generateDataKey crates settings key
  failIf (generated.kmsKeyId ≠ key.keyArn)
    (.err s!"KMS GenerateDataKey returned unexpected key ID {generated.kmsKeyId}; expected {key.keyArn}")
  ofText (validateDataKeyLen generated.plaintextDataKey)
  let nonce ← random aesGcmNonceLength
  let encryptedPrivateKey ←
    encryptPrivateKey crates generated.plaintextDataKey nonce privateKey.toList
  let package : RecoveryPackage :=
    { version := keyMaterialVersion
      encryptedDataKeyBase64 := crates.base64Encode generated.encryptedDataKey
      privateKeyNonceBase64 := crates.base64Encode nonce.toList
      encryptedPrivateKeyBase64 := crates.base64Encode encryptedPrivateKey }
  let packageBody := toVecPretty package
  let packageHash := sha256Hex crates packageBody
  let storageId ← ofText (kmsKeyStorageId crates key.keyArn)
  let displayId ← ofText (kmsKeyDisplayId key.keyArn)
  let relativeKey :=
    s!"kms-key-{storageId}/encrypted_private_key_by_kms-key-{displayId}_sha256-{packageHash}.json"
  let packageObjectKey := objectKey settings.s3Prefix relativeKey
  s3Client.saveObjectIfAbsent crates settings.s3Bucket packageObjectKey packageBody
  verifyUploadedObject crates s3Client settings.s3Bucket packageObjectKey packageHash
  restoreFromPackage crates kmsClient settings key package publicKey
  return {
    kmsKeyArn := key.keyArn
    objectKey := packageObjectKey
    sha256 := packageHash }

/-- The loop of `initialize_key_material`, over the keys that are left. -/
def createRecoveryObjects (s3Client : BrokerS3Client) (kmsClient : KmsDataKeyClient)
    (settings : ParentSettings) (privateKey publicKey : Vector UInt8 32)
    (recoveryObjects : List RecoveryObjectReference) :
    List KmsKeySettings → EnclaveProgram (List RecoveryObjectReference)
  | [] => return recoveryObjects
  | key :: keys => do
    let reference ←
      createRecoveryObject crates s3Client kmsClient settings privateKey publicKey key
    createRecoveryObjects s3Client kmsClient settings privateKey publicKey
      (recoveryObjects ++ [reference]) keys

/-- `initialize_key_material` -/
def initializeKeyMaterial (s3Client : BrokerS3Client) (kmsClient : KmsDataKeyClient)
    (settings : ParentSettings) : EnclaveProgram RestoredKeyPair := do
  let manifestKey := objectKey settings.s3Prefix manifestFileName
  let existing ← s3Client.loadObject crates settings.s3Bucket manifestKey
  failIf existing.isSome
    (.err s!"key manifest already exists at s3://{settings.s3Bucket}/{manifestKey}; refusing to generate or overwrite key material")
  let privateKey ← random ed25519PrivateKeyLength
  let publicKey := crates.ed25519PublicKey privateKey
  let fingerprint := sha256Hex crates publicKey.toList
  let publicDocument : PublicKeyDocument :=
    { version := keyMaterialVersion
      algorithm := privateKeyAlgorithm
      publicKeyBase64 := crates.base64Encode publicKey.toList
      fingerprintSha256 := fingerprint }
  let publicBody := toVecPretty publicDocument
  let publicHash := sha256Hex crates publicBody
  let publicKeyName := s!"public_key_sha256-{fingerprint}.json"
  let publicObjectKey := objectKey settings.s3Prefix publicKeyName
  let recoveryObjects ← createRecoveryObjects crates s3Client kmsClient settings
    privateKey publicKey [] settings.kmsKeys
  s3Client.saveObjectIfAbsent crates settings.s3Bucket publicObjectKey publicBody
  verifyUploadedObject crates s3Client settings.s3Bucket publicObjectKey publicHash
  let manifest : KeyManifest :=
    { version := keyMaterialVersion
      recoveryPolicy := "any-one"
      keyFingerprint := fingerprint
      privateKeyAlgorithm := privateKeyAlgorithm
      privateKeyEncryption := privateKeyEncryption
      publicKey := { objectKey := publicObjectKey, sha256 := publicHash }
      recoveryObjects := recoveryObjects }
  s3Client.saveObjectIfAbsent crates settings.s3Bucket manifestKey (toVecPretty manifest)
  return {
    publicKey := publicKey
    fingerprint := fingerprint
    kmsKeyArn := "" }

/-! ## Restoring -/

/-- One attempt of `restore_key_material`, with one key. -/
def attemptRestore (s3Client : BrokerS3Client) (kmsClient : KmsDataKeyClient)
    (settings : ParentSettings) (expectedPublicKey : Vector UInt8 32) (key : KmsKeySettings)
    (reference : RecoveryObjectReference) : EnclaveProgram Unit := do
  let loaded ← s3Client.loadObject crates settings.s3Bucket reference.objectKey
  let body ← okOr loaded s!"recovery object is missing: {reference.objectKey}"
  verifySha256 crates "recovery object" body reference.sha256
  let package ← ofText (crates.recoveryPackageFromSlice body)
  restoreFromPackage crates kmsClient settings key package expectedPublicKey

/-- The result of an attempt, as a value. A panic is not caught. -/
def caught (attempt : EnclaveProgram Unit) : EnclaveProgram (Except String Unit) :=
  (attempt.bind fun _ => return .ok ()).tryCatch fun
    | .err message => return .error message
    | .panic message => throw (.panic message)

/-- The loop of `restore_key_material`, over the keys that are left. -/
def restoreWith (s3Client : BrokerS3Client) (kmsClient : KmsDataKeyClient)
    (settings : ParentSettings) (manifest : KeyManifest) (expectedPublicKey : Vector UInt8 32)
    (failures : List String) : List KmsKeySettings → EnclaveProgram RestoredKeyPair
  | [] =>
    let joined := "; ".intercalate failures
    throw (.err s!"none of the configured KMS keys could restore the private key: {joined}")
  | key :: keys => do
    match manifest.recoveryObjects.find? fun reference => reference.kmsKeyArn = key.keyArn with
    | none =>
      restoreWith s3Client kmsClient settings manifest expectedPublicKey
        (failures ++ [s!"{key.keyArn}: no recovery object in manifest"]) keys
    | some reference =>
      match ← caught (attemptRestore crates s3Client kmsClient settings expectedPublicKey key
        reference) with
      | .ok () => return {
          publicKey := expectedPublicKey
          fingerprint := manifest.keyFingerprint
          kmsKeyArn := key.keyArn }
      | .error error =>
        restoreWith s3Client kmsClient settings manifest expectedPublicKey
          (failures ++ [s!"{key.keyArn}: {error}"]) keys

/-- `restore_key_material` -/
def restoreKeyMaterial (s3Client : BrokerS3Client) (kmsClient : KmsDataKeyClient)
    (settings : ParentSettings) : EnclaveProgram RestoredKeyPair := do
  let manifestKey := objectKey settings.s3Prefix manifestFileName
  let loadedManifest ← s3Client.loadObject crates settings.s3Bucket manifestKey
  let manifestBody ← okOr loadedManifest
    s!"key manifest does not exist at s3://{settings.s3Bucket}/{manifestKey}; refusing to generate a replacement"
  let manifest ← ofText (crates.manifestFromSlice manifestBody)
  validateManifest manifest
  let loadedPublic ← s3Client.loadObject crates settings.s3Bucket manifest.publicKey.objectKey
  let publicBody ← okOr loadedPublic
    s!"public key object is missing: {manifest.publicKey.objectKey}"
  verifySha256 crates "public key object" publicBody manifest.publicKey.sha256
  let publicDocument ← ofText (crates.publicKeyDocumentFromSlice publicBody)
  let expectedPublicKey ← validatePublicDocument crates publicDocument manifest
  restoreWith crates s3Client kmsClient settings manifest expectedPublicKey [] settings.kmsKeys

end AwsKmsDemo
