import AwsKmsDemo.Crates
import AwsKmsDemo.Crypto.AesGcm
import AwsKmsDemo.Crypto.Base64
import AwsKmsDemo.Crypto.Ed25519
import AwsKmsDemo.Deserialize

/-!
# The crates, implemented

An implementation of the functions that the program takes from crates. It obeys the laws of
`Crates.Lawful`, so what follows from them is not vacuous, and it is what single runs are computed
with.

Hashes, public keys, ciphers and Base64 are those of the crates, apart from the texts of errors. The
reader of JSON reads what `serde_json` writes as `serde_json` does, but not every other text. For
instance, it accepts numbers with leading zeros and takes the first of two members of a struct with
the same name, and it does not accept fractions, exponents, escaped surrogates, a map that has a key
twice, or a struct that is written as an array. `isPrintable` is that of the standard library on
ASCII, and takes no other character to be printable.
-/

namespace AwsKmsDemo

/-! ## The implementation -/

/-- `encrypt` of `Aes128Gcm` and `Aes256Gcm`. -/
def referenceEncrypt (cipher : AesGcm) (key : Bytes) (nonce : Vector UInt8 12) (plaintext : Bytes) :
    Except String Bytes :=
  if key.length = cipher.keyLength then .ok (Crypto.gcmEncrypt key nonce.toList plaintext)
  else .error "Invalid Length"

/-- `decrypt` of `Aes128Gcm` and `Aes256Gcm`. -/
def referenceDecrypt (cipher : AesGcm) (key : Bytes) (nonce : Vector UInt8 12) (sealed : Bytes) :
    Except String Bytes :=
  if key.length = cipher.keyLength then
    match Crypto.gcmDecrypt key nonce.toList sealed with
    | some plaintext => .ok plaintext
    | none => .error "aead::Error"
  else .error "Invalid Length"

/-- `STANDARD.decode` -/
def referenceBase64Decode (value : String) : Except String Bytes :=
  match Crypto.base64Decode value.toList with
  | some bytes => .ok bytes
  | none => .error "Invalid base64"

/-- The crates. -/
def reference : Crates where
  sha256 := Crypto.sha256
  ed25519PublicKey := Crypto.ed25519PublicKey
  aesGcmEncrypt := referenceEncrypt
  aesGcmDecrypt := referenceDecrypt
  base64Encode bytes := String.ofList (Crypto.base64Encode bytes)
  base64Decode := referenceBase64Decode
  requestFromSlice := fromSlice
  responseFromSlice := fromSlice
  manifestFromSlice := fromSlice
  publicKeyDocumentFromSlice := fromSlice
  recoveryPackageFromSlice := fromSlice
  isPrintable c := decide (' ' ≤ c ∧ c ≤ '~')

/-- The implementation obeys the laws. -/
theorem reference_lawful : reference.Lawful where
  base64Decode bytes := by
    show referenceBase64Decode (String.ofList (Crypto.base64Encode bytes)) = .ok bytes
    unfold referenceBase64Decode
    rw [String.toList_ofList, Crypto.base64Decode_base64Encode]
  aesGcmDecrypt cipher key nonce plaintext ciphertext h := by
    change referenceEncrypt cipher key nonce plaintext = .ok ciphertext at h
    show referenceDecrypt cipher key nonce ciphertext = .ok plaintext
    unfold referenceEncrypt at h
    unfold referenceDecrypt
    split_ifs at h ⊢ with hlength
    rw [← Except.ok.inj h, Crypto.gcmDecrypt_gcmEncrypt]
  requestFromSlice := fromSlice_toVec
  responseFromSlice := fromSlice_toVec
  manifestFromSlice := fromSlice_toVecPretty
  publicKeyDocumentFromSlice := fromSlice_toVecPretty
  recoveryPackageFromSlice := fromSlice_toVecPretty

/-- The implementation encrypts under every key of the right length. -/
theorem reference_encrypts : reference.Encrypts := by
  intro cipher dataKey nonce privateKey hlength
  exact ⟨_, if_pos hlength⟩

/-! ## A deployment -/

/-- A key in the first account of a deployment. -/
def primaryKey : KmsKeySettings where
  slot := .primary
  keyArn := "arn:aws:kms:us-east-1:111122223333:key/primary"
  region := "us-east-1"

/-- A key in the second account. -/
def backupKey : KmsKeySettings where
  slot := .backup
  keyArn := "arn:aws:kms:us-east-1:444455556666:key/backup"
  region := "us-east-1"

/-- The settings of a deployment with one key in each of two accounts, about to be initialized. -/
def deployment : ParentSettings where
  kmsKeys := [primaryKey, backupKey]
  s3Bucket := "bucket"
  s3Prefix := "kms-keypair"
  startupMode := .initKey
  keySpec := some "AES_256"
  numberOfBytes := none
  encryptionContext := none
  grantTokens := []
  dryRun := none

end AwsKmsDemo
