import AwsKmsDemo.Json.Parse
import AwsKmsDemo.Serde

/-!
# How values are deserialized

Reading the serialized types back from JSON, and that this undoes serializing. A type is read by an
instance of `Deserialize`, which carries this law, and `fromSlice` reads a value from the bytes of a
text, as `serde_json::from_slice` does from what it has written itself.
-/

namespace AwsKmsDemo

open Json (Value)

/-- A type that `serde` deserializes. -/
class Deserialize (α : Type) [Serialize α] where
  /-- The value that a JSON value stands for. -/
  deserialize : Value → Option α
  /-- Deserializing undoes serializing. -/
  deserialize_serialize : ∀ a, deserialize (serialize a) = some a

export Deserialize (deserialize deserialize_serialize)

attribute [simp] deserialize_serialize

/-- A type none of whose values is written as `null`. -/
class NotNull (α : Type) [Serialize α] : Prop where
  serialize_ne_null : ∀ a : α, serialize a ≠ .null

/-! ## Plain values -/

instance : Deserialize String where
  deserialize
    | .str s => some s
    | _ => none
  deserialize_serialize _ := rfl

instance : Deserialize Bool where
  deserialize
    | .bool b => some b
    | _ => none
  deserialize_serialize _ := rfl

instance : NotNull String := ⟨fun _ h => by cases h⟩
instance : NotNull Bool := ⟨fun _ h => by cases h⟩

/-- A number in a range. -/
def inRange (low high : ℤ) : Value → Option ℤ
  | .num n => if low ≤ n ∧ n < high then some n else none
  | _ => none

/-- A number in the range is read as it is. -/
theorem inRange_num {low high n : ℤ} (hlow : low ≤ n) (hhigh : n < high) :
    inRange low high (.num n) = some n :=
  if_pos ⟨hlow, hhigh⟩

instance : Deserialize UInt8 where
  deserialize v := (inRange 0 256 v).map fun n => UInt8.ofNat n.toNat
  deserialize_serialize a := by
    have ha := a.toNat_lt
    show (inRange 0 256 (.num a.toNat)).map _ = _
    rw [inRange_num (by omega) (by omega)]
    simp

instance : Deserialize UInt32 where
  deserialize v := (inRange 0 (2^32) v).map fun n => UInt32.ofNat n.toNat
  deserialize_serialize a := by
    have ha := a.toNat_lt
    show (inRange 0 (2^32) (.num a.toNat)).map _ = _
    rw [inRange_num (by omega) (by omega)]
    simp

instance : Deserialize UInt64 where
  deserialize v := (inRange 0 (2^64) v).map fun n => UInt64.ofNat n.toNat
  deserialize_serialize a := by
    have ha := a.toNat_lt
    show (inRange 0 (2^64) (.num a.toNat)).map _ = _
    rw [inRange_num (by omega) (by omega)]
    simp

instance : Deserialize Int32 where
  deserialize v := (inRange (-2^31) (2^31) v).map Int32.ofInt
  deserialize_serialize a := by
    have hlow := a.le_toInt
    have hhigh := a.toInt_lt
    show (inRange (-2^31) (2^31) (.num a.toInt)).map _ = _
    rw [inRange_num hlow hhigh]
    simp

instance : NotNull UInt64 := ⟨fun _ h => by cases h⟩
instance : NotNull Int32 := ⟨fun _ h => by cases h⟩

instance {α : Type} [Serialize α] [Deserialize α] [NotNull α] : Deserialize (Option α) where
  deserialize
    | .null => some none
    | v => (deserialize v).map some
  deserialize_serialize a := by
    cases a with
    | none => rfl
    | some a =>
      have hne := NotNull.serialize_ne_null a
      show (match serialize a with | .null => some none | v => (deserialize v).map some) = _
      split
      · rename_i hnull
        exact absurd hnull hne
      · rw [deserialize_serialize]
        rfl

instance {α : Type} [Serialize α] [Deserialize α] : Deserialize (List α) where
  deserialize
    | .arr vs => vs.mapM deserialize
    | _ => none
  deserialize_serialize as := by
    show (as.map serialize).mapM deserialize = some as
    induction as with
    | nil => rfl
    | cons a as ih => rw [List.map_cons, List.mapM_cons, ih, deserialize_serialize]; rfl

instance {α : Type} [Serialize α] : NotNull (List α) := ⟨fun _ h => by cases h⟩

/-- The entry of a map. -/
def deserializeEntry : String × Value → Option ((_ : String) × String)
  | (name, .str s) => some ⟨name, s⟩
  | _ => none

instance : Deserialize HashMap where
  deserialize
    | .obj members => do
      let entries ← members.mapM deserializeEntry
      if h : entries.keys.Nodup then some ⟨entries, h⟩ else none
    | _ => none
  deserialize_serialize m := by
    have hentries : (m.entries.map fun e => (e.1, Value.str e.2)).mapM deserializeEntry =
        some m.entries := by
      induction m.entries with
      | nil => rfl
      | cons e es ih => rw [List.map_cons, List.mapM_cons, ih]; rfl
    show ((m.entries.map fun e => (e.1, Value.str e.2)).mapM deserializeEntry).bind _ = _
    rw [hentries, Option.bind_some]
    exact dif_pos m.nodupKeys

instance : NotNull HashMap := ⟨fun _ h => by cases h⟩

instance : Deserialize StartupMode where
  deserialize
    | .str "serve" => some .serve
    | .str "init-key" => some .initKey
    | _ => none
  deserialize_serialize mode := by cases mode <;> rfl

instance : Deserialize KmsSlot where
  deserialize
    | .str "primary" => some .primary
    | .str "backup" => some .backup
    | _ => none
  deserialize_serialize slot := by cases slot <;> rfl

/-! ## Structs -/

/-- The member of an object. -/
def field {α : Type} [Serialize α] [Deserialize α] (v : Value) (name : String) : Option α :=
  match v with
  | .obj members => (members.lookup name).bind deserialize
  | _ => none

section Fields

variable {α : Type} [Serialize α] [Deserialize α] {members : List (String × Value)}

/-- The member that comes first is found. -/
@[simp] theorem field_cons_self (name : String) (a : α) :
    field (.obj ((name, serialize a) :: members)) name = some a := by
  unfold field
  simp only [List.lookup_cons_self, Option.bind_some, deserialize_serialize]

/-- A member of another name is passed over. -/
@[simp] theorem field_cons_of_ne {name name' : String} (v : Value) (h : name ≠ name') :
    (field (.obj ((name', v) :: members)) name : Option α) = field (.obj members) name := by
  unfold field
  dsimp only
  rw [List.lookup_cons, beq_false_of_ne h]

/-- The member of an object that may be missing. -/
def optionField {α : Type} [Serialize α] [Deserialize α] [NotNull α] (v : Value) (name : String) :
    Option (Option α) :=
  match v with
  | .obj members => ((members.lookup name).getD .null |> deserialize)
  | _ => none

/-- The member that comes first is found, even if it is `null`. -/
@[simp] theorem optionField_cons_self [NotNull α] (name : String) (a : Option α) :
    optionField (.obj ((name, serialize a) :: members)) name = some a := by
  unfold optionField
  simp only [List.lookup_cons_self, Option.getD_some, deserialize_serialize]

/-- A member of another name is passed over. -/
@[simp] theorem optionField_cons_of_ne [NotNull α] {name name' : String} (v : Value)
    (h : name ≠ name') :
    (optionField (.obj ((name', v) :: members)) name : Option (Option α)) =
      optionField (.obj members) name := by
  unfold optionField
  dsimp only
  rw [List.lookup_cons, beq_false_of_ne h]

end Fields

instance : Deserialize KmsKeySettings where
  deserialize v := do
    return {
      slot := ← field v "slot"
      keyArn := ← field v "key_arn"
      region := ← field v "region" }
  deserialize_serialize key := by
    have h : serialize key = .obj [("slot", serialize key.slot), ("key_arn", serialize key.keyArn),
      ("region", serialize key.region)] := rfl
    simp [h]

instance : Deserialize ParentSettings where
  deserialize v := do
    return {
      kmsKeys := ← field v "kms_keys"
      s3Bucket := ← field v "s3_bucket"
      s3Prefix := ← field v "s3_prefix"
      startupMode := ← field v "startup_mode"
      keySpec := ← optionField v "key_spec"
      numberOfBytes := ← optionField v "number_of_bytes"
      encryptionContext := ← optionField v "encryption_context"
      grantTokens := ← field v "grant_tokens"
      dryRun := ← optionField v "dry_run" }
  deserialize_serialize s := by
    have h : serialize s = .obj [("kms_keys", serialize s.kmsKeys),
      ("s3_bucket", serialize s.s3Bucket), ("s3_prefix", serialize s.s3Prefix),
      ("startup_mode", serialize s.startupMode), ("key_spec", serialize s.keySpec),
      ("number_of_bytes", serialize s.numberOfBytes),
      ("encryption_context", serialize s.encryptionContext),
      ("grant_tokens", serialize s.grantTokens), ("dry_run", serialize s.dryRun)] := rfl
    simp [h]

instance : Deserialize AwsCredentials where
  deserialize v := do
    return {
      region := ← field v "region"
      accessKeyId := ← field v "access_key_id"
      secretAccessKey := ← field v "secret_access_key"
      sessionToken := ← optionField v "session_token"
      expiresAtEpochSeconds := ← optionField v "expires_at_epoch_seconds" }
  deserialize_serialize c := by
    have h : serialize c = .obj [("region", serialize c.region),
      ("access_key_id", serialize c.accessKeyId),
      ("secret_access_key", serialize c.secretAccessKey),
      ("session_token", serialize c.sessionToken),
      ("expires_at_epoch_seconds", serialize c.expiresAtEpochSeconds)] := rfl
    simp [h]

instance : Deserialize ObjectReference where
  deserialize v := do
    return {
      objectKey := ← field v "object_key"
      sha256 := ← field v "sha256" }
  deserialize_serialize r := by
    have h : serialize r = .obj [("object_key", serialize r.objectKey),
      ("sha256", serialize r.sha256)] := rfl
    simp [h]

instance : Deserialize RecoveryObjectReference where
  deserialize v := do
    return {
      kmsKeyArn := ← field v "kms_key_arn"
      objectKey := ← field v "object_key"
      sha256 := ← field v "sha256" }
  deserialize_serialize r := by
    have h : serialize r = .obj [("kms_key_arn", serialize r.kmsKeyArn),
      ("object_key", serialize r.objectKey), ("sha256", serialize r.sha256)] := rfl
    simp [h]

instance : Deserialize KeyManifest where
  deserialize v := do
    return {
      version := ← field v "version"
      recoveryPolicy := ← field v "recovery_policy"
      keyFingerprint := ← field v "key_fingerprint"
      privateKeyAlgorithm := ← field v "private_key_algorithm"
      privateKeyEncryption := ← field v "private_key_encryption"
      publicKey := ← field v "public_key"
      recoveryObjects := ← field v "recovery_objects" }
  deserialize_serialize m := by
    have h : serialize m = .obj [("version", serialize m.version),
      ("recovery_policy", serialize m.recoveryPolicy),
      ("key_fingerprint", serialize m.keyFingerprint),
      ("private_key_algorithm", serialize m.privateKeyAlgorithm),
      ("private_key_encryption", serialize m.privateKeyEncryption),
      ("public_key", serialize m.publicKey),
      ("recovery_objects", serialize m.recoveryObjects)] := rfl
    simp [h]

instance : Deserialize PublicKeyDocument where
  deserialize v := do
    return {
      version := ← field v "version"
      algorithm := ← field v "algorithm"
      publicKeyBase64 := ← field v "public_key_base64"
      fingerprintSha256 := ← field v "fingerprint_sha256" }
  deserialize_serialize d := by
    have h : serialize d = .obj [("version", serialize d.version),
      ("algorithm", serialize d.algorithm), ("public_key_base64", serialize d.publicKeyBase64),
      ("fingerprint_sha256", serialize d.fingerprintSha256)] := rfl
    simp [h]

instance : Deserialize RecoveryPackage where
  deserialize v := do
    return {
      version := ← field v "version"
      encryptedDataKeyBase64 := ← field v "encrypted_data_key_base64"
      privateKeyNonceBase64 := ← field v "private_key_nonce_base64"
      encryptedPrivateKeyBase64 := ← field v "encrypted_private_key_base64" }
  deserialize_serialize p := by
    have h : serialize p = .obj [("version", serialize p.version),
      ("encrypted_data_key_base64", serialize p.encryptedDataKeyBase64),
      ("private_key_nonce_base64", serialize p.privateKeyNonceBase64),
      ("encrypted_private_key_base64", serialize p.encryptedPrivateKeyBase64)] := rfl
    simp [h]

/-! ## Enums -/

instance : Deserialize BrokerRequest where
  deserialize
    | .str "GetSettings" => some .getSettings
    | .obj [("GetAwsCredentials", v)] => (field v "slot").map .getAwsCredentials
    | .obj [("LoadObject", v)] =>
      (field v "bucket").bind fun bucket => (field v "key").map (.loadObject bucket)
    | .obj [("SaveObjectIfAbsent", v)] =>
      (field v "bucket").bind fun bucket => (field v "key").bind fun key =>
        (field v "body").map (.saveObjectIfAbsent bucket key)
    | _ => none
  deserialize_serialize request := by
    cases request with
    | getSettings => rfl
    | getAwsCredentials slot =>
      show (field (.obj [("slot", serialize slot)]) "slot").map BrokerRequest.getAwsCredentials = _
      simp
    | loadObject bucket key =>
      show (field (.obj [("bucket", serialize bucket), ("key", serialize key)]) "bucket").bind
        (fun bucket' => (field (.obj [("bucket", serialize bucket), ("key", serialize key)])
          "key").map (BrokerRequest.loadObject bucket')) = _
      simp
    | saveObjectIfAbsent bucket key body =>
      show (field (.obj [("bucket", serialize bucket), ("key", serialize key),
          ("body", serialize body)]) "bucket").bind (fun bucket' =>
        (field (.obj [("bucket", serialize bucket), ("key", serialize key),
          ("body", serialize body)]) "key").bind fun key' =>
        (field (.obj [("bucket", serialize bucket), ("key", serialize key),
          ("body", serialize body)]) "body").map
            (BrokerRequest.saveObjectIfAbsent bucket' key')) = _
      simp

instance : Deserialize BrokerResponse where
  deserialize
    | .obj [("Settings", v)] => (deserialize v).map .settings
    | .obj [("AwsCredentials", v)] => (deserialize v).map .awsCredentials
    | .obj [("Object", v)] => (deserialize v).map .object
    | .str "Saved" => some .saved
    | .obj [("Error", v)] => (field v "message").map .error
    | _ => none
  deserialize_serialize response := by
    cases response with
    | settings settings =>
      show (deserialize (serialize settings)).map BrokerResponse.settings = _
      rw [deserialize_serialize]
      rfl
    | awsCredentials credentials =>
      show (deserialize (serialize credentials)).map BrokerResponse.awsCredentials = _
      rw [deserialize_serialize]
      rfl
    | object body =>
      show (deserialize (serialize body)).map BrokerResponse.object = _
      rw [deserialize_serialize]
      rfl
    | saved => rfl
    | error message =>
      show (field (.obj [("message", serialize message)]) "message").map BrokerResponse.error = _
      rw [field_cons_self]
      rfl

/-! ## From bytes -/

/-- The text that bytes encode in UTF-8. -/
def utf8Decode (bytes : Bytes) : Option (List Char) :=
  bytes.toByteArray.utf8Decode?.map Array.toList

/-- Decoding undoes encoding a text in UTF-8. -/
theorem utf8Decode_utf8 (text : List Char) : utf8Decode (Json.utf8 text) = some text := by
  unfold utf8Decode
  rw [show (Json.utf8 text).toByteArray = text.utf8Encode from rfl, List.utf8Decode?_utf8Encode]
  rfl

/-- `serde_json::from_slice` -/
def fromSlice {α : Type} [Serialize α] [Deserialize α] (bytes : Bytes) : Except String α :=
  match ((utf8Decode bytes).bind Json.parse).bind deserialize with
  | some a => .ok a
  | none => .error "invalid JSON"

/-- Reading undoes writing, compact or indented. -/
theorem fromSlice_utf8_render {α : Type} [Serialize α] [Deserialize α] (depth : Option ℕ) (a : α) :
    fromSlice (Json.utf8 (Json.render depth (serialize a))) = .ok a := by
  unfold fromSlice
  rw [utf8Decode_utf8, Option.bind_some, Json.parse_render, Option.bind_some, deserialize_serialize]

/-- Reading undoes `to_vec`. -/
theorem fromSlice_toVec {α : Type} [Serialize α] [Deserialize α] (a : α) :
    fromSlice (toVec a) = .ok a :=
  fromSlice_utf8_render none a

/-- Reading undoes `to_vec_pretty`. -/
theorem fromSlice_toVecPretty {α : Type} [Serialize α] [Deserialize α] (a : α) :
    fromSlice (toVecPretty a) = .ok a :=
  fromSlice_utf8_render (some 0) a

end AwsKmsDemo
