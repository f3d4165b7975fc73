import AwsKmsDemo.KeyMaterial

/-!
# What an initialization stores

The objects that a run of `initialize_key_material` writes, as functions of what it has drawn and of
what KMS has generated for it: for each key a `Deposit`, whose text is a recovery package, and for
the run as a whole a `Draft`, which determines the public document and the manifest.
-/

namespace AwsKmsDemo

/-! ## Deposits -/

/-- What the loop makes for one key. -/
structure Deposit where
  generated : GeneratedDataKey
  nonce : Vector UInt8 12
  encryptedPrivateKey : Bytes
  storageId : String
  displayId : String

namespace Deposit

variable (crates : Crates) (settings : ParentSettings) (key : KmsKeySettings) (d : Deposit)

/-- The package of a slot. -/
def package : RecoveryPackage where
  version := keyMaterialVersion
  encryptedDataKeyBase64 := crates.base64Encode d.generated.encryptedDataKey
  privateKeyNonceBase64 := crates.base64Encode d.nonce.toList
  encryptedPrivateKeyBase64 := crates.base64Encode d.encryptedPrivateKey

/-- The text of the package. -/
def body : Bytes := toVecPretty (d.package crates)

/-- The hash of the package. -/
def hash : String := sha256Hex crates (d.body crates)

/-- The name of the package below the prefix. -/
def relativeKey : String :=
  let packageHash := d.hash crates
  s!"kms-key-{d.storageId}/encrypted_private_key_by_kms-key-{d.displayId}_sha256-{packageHash}.json"

/-- The key of the package in S3. -/
def objectKey : String := AwsKmsDemo.objectKey settings.s3Prefix (d.relativeKey crates)

/-- The reference to the package in the manifest. -/
def reference : RecoveryObjectReference where
  kmsKeyArn := key.keyArn
  objectKey := d.objectKey crates settings
  sha256 := d.hash crates

end Deposit

/-! ## Drafts -/

/-- What a run has made before it publishes anything about the key pair as a whole. -/
structure Draft where
  privateKey : Vector UInt8 32
  recoveryObjects : List RecoveryObjectReference

namespace Draft

variable (crates : Crates) (settings : ParentSettings) (draft : Draft)

/-- The public key of a draft. -/
def publicKey : Vector UInt8 32 := crates.ed25519PublicKey draft.privateKey

/-- The fingerprint of the public key. -/
def fingerprint : String := sha256Hex crates (draft.publicKey crates).toList

/-- The public document. -/
def document : PublicKeyDocument where
  version := keyMaterialVersion
  algorithm := privateKeyAlgorithm
  publicKeyBase64 := crates.base64Encode (draft.publicKey crates).toList
  fingerprintSha256 := draft.fingerprint crates

/-- The text of the public document. -/
def publicBody : Bytes := toVecPretty (draft.document crates)

/-- The name of the public document below the prefix. -/
def publicKeyName : String :=
  let fingerprint := draft.fingerprint crates
  s!"public_key_sha256-{fingerprint}.json"

/-- The key of the public document in S3. -/
def publicObjectKey : String := objectKey settings.s3Prefix (draft.publicKeyName crates)

/-- The manifest. -/
def manifest : KeyManifest where
  version := keyMaterialVersion
  recoveryPolicy := "any-one"
  keyFingerprint := draft.fingerprint crates
  privateKeyAlgorithm := privateKeyAlgorithm
  privateKeyEncryption := privateKeyEncryption
  publicKey :=
    { objectKey := draft.publicObjectKey crates settings
      sha256 := sha256Hex crates (draft.publicBody crates) }
  recoveryObjects := draft.recoveryObjects

/-- The text of the manifest. -/
def manifestBody : Bytes := toVecPretty (draft.manifest crates settings)

/-- What the run returns. -/
def pair : RestoredKeyPair where
  publicKey := draft.publicKey crates
  fingerprint := draft.fingerprint crates
  kmsKeyArn := ""

end Draft

/-- The key of the manifest in S3. -/
def manifestKey (settings : ParentSettings) : String := objectKey settings.s3Prefix manifestFileName

/-! ## Names -/

/-- The characters of a key. -/
theorem objectKey_toList (pre relative : String) :
    (objectKey pre relative).toList = pre.toList ++ ("/".toList ++ relative.toList) := by
  show (pre ++ "/" ++ relative).toList = _
  simp only [String.toList_append, List.append_assoc]

/-- Below one prefix, different names have different keys. -/
theorem objectKey_injective {pre relative relative' : String}
    (h : objectKey pre relative = objectKey pre relative') : relative = relative' := by
  have hlist := congrArg String.toList h
  rw [objectKey_toList, objectKey_toList] at hlist
  exact String.toList_inj.mp (List.append_cancel_left (List.append_cancel_left hlist))

section Names

variable {crates : Crates} {settings : ParentSettings} {d d' : Deposit} {draft draft' : Draft}

/-- A hash has 64 digits. -/
theorem length_sha256Hex (bytes : Bytes) : (sha256Hex crates bytes).toList.length = 64 := by
  unfold sha256Hex
  rw [String.toList_ofList, List.length_flatMap]
  have hlengths : (crates.sha256 bytes).toList.map (fun b => (hexByte b).length) =
      List.replicate 32 2 := by
    refine List.eq_replicate_iff.mpr ⟨by simp, fun n hn => ?_⟩
    obtain ⟨b, _, rfl⟩ := List.mem_map.mp hn
    rfl
  rw [hlengths]
  rfl

/-- The characters of the name of a package. -/
theorem Deposit.relativeKey_toList : (d.relativeKey crates).toList =
    "kms-key-".toList ++ (d.storageId.toList ++ ("/encrypted_private_key_by_kms-key-".toList ++
      (d.displayId.toList ++ ("_sha256-".toList ++
        ((d.hash crates).toList ++ ".json".toList))))) := by
  show ("kms-key-" ++ d.storageId ++ "/encrypted_private_key_by_kms-key-" ++ d.displayId ++
    "_sha256-" ++ d.hash crates ++ ".json").toList = _
  simp only [String.toList_append, List.append_assoc]

/-- The characters of the name of the public document. -/
theorem Draft.publicKeyName_toList : (draft.publicKeyName crates).toList =
    "public_key_sha256-".toList ++ ((draft.fingerprint crates).toList ++ ".json".toList) := by
  show ("public_key_sha256-" ++ draft.fingerprint crates ++ ".json").toList = _
  simp only [String.toList_append, List.append_assoc]

/-- Names that differ somewhere have different keys. -/
theorem objectKey_ne {pre relative relative' : String} (n : ℕ)
    (h : relative.toList[n]? ≠ relative'.toList[n]?) :
    objectKey pre relative ≠ objectKey pre relative' := by
  intro heq
  rw [objectKey_injective heq] at h
  exact h rfl

/-- No package has the name of the manifest. -/
theorem Deposit.objectKey_ne_manifestKey : d.objectKey crates settings ≠ manifestKey settings := by
  refine objectKey_ne 1 ?_
  rw [Deposit.relativeKey_toList]
  show some 'm' ≠ some 'e'
  decide

/-- The public document has another name than the manifest. -/
theorem Draft.publicObjectKey_ne_manifestKey :
    draft.publicObjectKey crates settings ≠ manifestKey settings := by
  refine objectKey_ne 0 ?_
  rw [Draft.publicKeyName_toList]
  show some 'p' ≠ some 'k'
  decide

/-- Packages and public documents have different keys. -/
theorem objectKey_relativeKey_ne_publicKeyName {pre : String} :
    objectKey pre (d.relativeKey crates) ≠ objectKey pre (draft.publicKeyName crates) := by
  refine objectKey_ne 0 ?_
  rw [Deposit.relativeKey_toList, Draft.publicKeyName_toList]
  show some 'k' ≠ some 'p'
  decide

/-- The name of a package determines the hash of the package, whatever else is in it. -/
theorem Deposit.hash_eq_of_relativeKey_eq (h : d.relativeKey crates = d'.relativeKey crates) :
    d.hash crates = d'.hash crates := by
  have hname := congrArg String.toList h
  rw [Deposit.relativeKey_toList, Deposit.relativeKey_toList] at hname
  simp only [← List.append_assoc] at hname
  have hhash := (List.append_inj' (List.append_cancel_right hname) ?_).2
  · exact String.toList_inj.mp hhash
  · exact (length_sha256Hex _).trans (length_sha256Hex _).symm

/-- The name of a public document determines the fingerprint of the public key. -/
theorem Draft.fingerprint_eq_of_publicKeyName_eq
    (h : draft.publicKeyName crates = draft'.publicKeyName crates) :
    draft.fingerprint crates = draft'.fingerprint crates := by
  have hname := congrArg String.toList h
  rw [Draft.publicKeyName_toList, Draft.publicKeyName_toList] at hname
  exact String.toList_inj.mp (List.append_cancel_right (List.append_cancel_left hname))

/-! ## Hashes as texts -/

/-- Different digits are written differently. -/
theorem hexDigit_injective {i j : ℕ} (hi : i < 16) (hj : j < 16)
    (h : Json.hexDigit i = Json.hexDigit j) : i = j := by
  have hall : ∀ a b : Fin 16, Json.hexDigit a = Json.hexDigit b → a = b := by decide
  exact congrArg Fin.val (hall ⟨i, hi⟩ ⟨j, hj⟩ h)

/-- Different bytes are written differently. -/
theorem hexByte_injective {a b : UInt8} (h : hexByte a = hexByte b) : a = b := by
  have ha := a.toNat_lt
  have hb := b.toNat_lt
  injection h with hhigh hlow
  injection hlow with hlow
  have hhigh := hexDigit_injective (by omega) (by omega) hhigh
  have hlow := hexDigit_injective (by omega) (by omega) hlow
  exact UInt8.toNat_inj.mp (by omega)

/-- Different lists of bytes are written differently. -/
theorem flatMap_hexByte_injective {as bs : Bytes} (h : as.flatMap hexByte = bs.flatMap hexByte) :
    as = bs := by
  induction as generalizing bs with
  | nil =>
    cases bs with
    | nil => rfl
    | cons b bs => cases h
  | cons a as ih =>
    cases bs with
    | nil => cases h
    | cons b bs =>
      have happend : hexByte a ++ as.flatMap hexByte = hexByte b ++ bs.flatMap hexByte := h
      obtain ⟨hhead, htail⟩ := List.append_inj happend rfl
      rw [hexByte_injective hhead, ih htail]

/-- The text of a hash determines the hash. -/
theorem sha256_eq_of_sha256Hex_eq {bytes bytes' : Bytes}
    (h : sha256Hex crates bytes = sha256Hex crates bytes') :
    crates.sha256 bytes = crates.sha256 bytes' :=
  Vector.toList_inj.mp (flatMap_hexByte_injective (String.ofList_injective h))

end Names

end AwsKmsDemo
