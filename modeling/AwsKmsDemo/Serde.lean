import AwsKmsDemo.Json.Render
import AwsKmsDemo.Types

/-!
# How values are serialized

The JSON value of each serialized type, in `serde`'s data format: a struct is an object with its
fields in their order, an enum is externally tagged, `None` is `null`, and a byte sequence is an
array of numbers. `toVec` and `toVecPretty` are `serde_json::to_vec` and
`serde_json::to_vec_pretty`, which cannot fail on these types.
-/

namespace AwsKmsDemo

open Json (Value)

/-- A type that `serde` serializes. -/
class Serialize (α : Type) where
  /-- The JSON value of a value of the type. -/
  serialize : α → Value

export Serialize (serialize)

/-- `serde_json::to_vec` -/
def toVec {α : Type} [Serialize α] (a : α) : Bytes := Json.toVec (serialize a)

/-- `serde_json::to_vec_pretty` -/
def toVecPretty {α : Type} [Serialize α] (a : α) : Bytes := Json.toVecPretty (serialize a)

instance : Serialize String := ⟨.str⟩

instance : Serialize Bool := ⟨.bool⟩

instance {α : Type} [Serialize α] : Serialize (Option α) :=
  ⟨fun | none => .null | some a => serialize a⟩

instance {α : Type} [Serialize α] : Serialize (List α) := ⟨fun as => .arr (as.map serialize)⟩

instance : Serialize UInt8 := ⟨fun n => .num n.toNat⟩

instance : Serialize UInt32 := ⟨fun n => .num n.toNat⟩

instance : Serialize UInt64 := ⟨fun n => .num n.toNat⟩

instance : Serialize Int32 := ⟨fun n => .num n.toInt⟩

instance : Serialize HashMap := ⟨fun m => .obj (m.entries.map fun e => (e.1, .str e.2))⟩

instance : Serialize StartupMode := ⟨fun | .serve => .str "serve" | .initKey => .str "init-key"⟩

instance : Serialize KmsSlot := ⟨fun slot => .str slot.label⟩

instance : Serialize KmsKeySettings :=
  ⟨fun key => .obj [("slot", serialize key.slot), ("key_arn", serialize key.keyArn),
    ("region", serialize key.region)]⟩

instance : Serialize ParentSettings :=
  ⟨fun s => .obj [("kms_keys", serialize s.kmsKeys), ("s3_bucket", serialize s.s3Bucket),
    ("s3_prefix", serialize s.s3Prefix), ("startup_mode", serialize s.startupMode),
    ("key_spec", serialize s.keySpec), ("number_of_bytes", serialize s.numberOfBytes),
    ("encryption_context", serialize s.encryptionContext),
    ("grant_tokens", serialize s.grantTokens), ("dry_run", serialize s.dryRun)]⟩

instance : Serialize AwsCredentials :=
  ⟨fun c => .obj [("region", serialize c.region), ("access_key_id", serialize c.accessKeyId),
    ("secret_access_key", serialize c.secretAccessKey),
    ("session_token", serialize c.sessionToken),
    ("expires_at_epoch_seconds", serialize c.expiresAtEpochSeconds)]⟩

instance : Serialize BrokerRequest :=
  ⟨fun
    | .getSettings => .str "GetSettings"
    | .getAwsCredentials slot => .obj [("GetAwsCredentials", .obj [("slot", serialize slot)])]
    | .loadObject bucket key =>
      .obj [("LoadObject", .obj [("bucket", serialize bucket), ("key", serialize key)])]
    | .saveObjectIfAbsent bucket key body =>
      .obj [("SaveObjectIfAbsent",
        .obj [("bucket", serialize bucket), ("key", serialize key), ("body", serialize body)])]⟩

instance : Serialize BrokerResponse :=
  ⟨fun
    | .settings settings => .obj [("Settings", serialize settings)]
    | .awsCredentials credentials => .obj [("AwsCredentials", serialize credentials)]
    | .object body => .obj [("Object", serialize body)]
    | .saved => .str "Saved"
    | .error message => .obj [("Error", .obj [("message", serialize message)])]⟩

instance : Serialize ObjectReference :=
  ⟨fun r => .obj [("object_key", serialize r.objectKey), ("sha256", serialize r.sha256)]⟩

instance : Serialize RecoveryObjectReference :=
  ⟨fun r => .obj [("kms_key_arn", serialize r.kmsKeyArn), ("object_key", serialize r.objectKey),
    ("sha256", serialize r.sha256)]⟩

instance : Serialize KeyManifest :=
  ⟨fun m => .obj [("version", serialize m.version),
    ("recovery_policy", serialize m.recoveryPolicy),
    ("key_fingerprint", serialize m.keyFingerprint),
    ("private_key_algorithm", serialize m.privateKeyAlgorithm),
    ("private_key_encryption", serialize m.privateKeyEncryption),
    ("public_key", serialize m.publicKey), ("recovery_objects", serialize m.recoveryObjects)]⟩

instance : Serialize PublicKeyDocument :=
  ⟨fun d => .obj [("version", serialize d.version), ("algorithm", serialize d.algorithm),
    ("public_key_base64", serialize d.publicKeyBase64),
    ("fingerprint_sha256", serialize d.fingerprintSha256)]⟩

instance : Serialize RecoveryPackage :=
  ⟨fun p => .obj [("version", serialize p.version),
    ("encrypted_data_key_base64", serialize p.encryptedDataKeyBase64),
    ("private_key_nonce_base64", serialize p.privateKeyNonceBase64),
    ("encrypted_private_key_base64", serialize p.encryptedPrivateKeyBase64)]⟩

end AwsKmsDemo
