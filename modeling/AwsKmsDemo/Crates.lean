import AwsKmsDemo.Serde

/-!
# The crates that the program relies on

The functions of third-party crates whose results the program depends on: SHA-256, Ed25519,
AES-GCM, base64, and reading JSON, and one table of the standard library. The development takes them
as one parameter, `Crates`, and the laws that some results need as a separate one, `Crates.Lawful`.
-/

namespace AwsKmsDemo

/-- The two AES-GCM ciphers in use, by their key length. -/
inductive AesGcm where
  /-- `Aes128Gcm` -/
  | aes128
  /-- `Aes256Gcm` -/
  | aes256
  deriving DecidableEq

/-- The third-party functions. A failing one returns the text of its error. -/
structure Crates where
  /-- `Sha256::digest` -/
  sha256 : Bytes → Vector UInt8 32
  /-- `SigningKey::from_bytes(seed).verifying_key().to_bytes()` -/
  ed25519PublicKey : Vector UInt8 32 → Vector UInt8 32
  /-- `encrypt` of a cipher under a key and a nonce. -/
  aesGcmEncrypt : AesGcm → Bytes → Vector UInt8 12 → Bytes → Except String Bytes
  /-- `decrypt` of a cipher under a key and a nonce. -/
  aesGcmDecrypt : AesGcm → Bytes → Vector UInt8 12 → Bytes → Except String Bytes
  /-- `STANDARD.encode` -/
  base64Encode : Bytes → String
  /-- `STANDARD.decode` -/
  base64Decode : String → Except String Bytes
  /-- `serde_json::from_slice` at `BrokerRequest`. -/
  requestFromSlice : Bytes → Except String BrokerRequest
  /-- `serde_json::from_slice` at `BrokerResponse`. -/
  responseFromSlice : Bytes → Except String BrokerResponse
  /-- `serde_json::from_slice` at `KeyManifest`. -/
  manifestFromSlice : Bytes → Except String KeyManifest
  /-- `serde_json::from_slice` at `PublicKeyDocument`. -/
  publicKeyDocumentFromSlice : Bytes → Except String PublicKeyDocument
  /-- `serde_json::from_slice` at `RecoveryPackage`. -/
  recoveryPackageFromSlice : Bytes → Except String RecoveryPackage
  /-- Whether `{:?}` prints a character as it is. The standard library looks it up in its Unicode
  tables: characters that are printable and do not extend a grapheme. -/
  isPrintable : Char → Bool

/-- What the crates document: decoding undoes encoding, and decryption undoes encryption. -/
structure Crates.Lawful (crates : Crates) : Prop where
  /-- Base64 decoding undoes encoding. -/
  base64Decode : ∀ bytes, crates.base64Decode (crates.base64Encode bytes) = .ok bytes
  /-- AES-GCM decryption undoes encryption. -/
  aesGcmDecrypt : ∀ cipher key nonce plaintext ciphertext,
    crates.aesGcmEncrypt cipher key nonce plaintext = .ok ciphertext →
      crates.aesGcmDecrypt cipher key nonce ciphertext = .ok plaintext
  /-- `from_slice` undoes `to_vec` on requests. -/
  requestFromSlice : ∀ request, crates.requestFromSlice (toVec request) = .ok request
  /-- `from_slice` undoes `to_vec` on responses. -/
  responseFromSlice : ∀ response, crates.responseFromSlice (toVec response) = .ok response
  /-- `from_slice` undoes `to_vec_pretty` on manifests. -/
  manifestFromSlice : ∀ manifest, crates.manifestFromSlice (toVecPretty manifest) = .ok manifest
  /-- `from_slice` undoes `to_vec_pretty` on public key documents. -/
  publicKeyDocumentFromSlice : ∀ document,
    crates.publicKeyDocumentFromSlice (toVecPretty document) = .ok document
  /-- `from_slice` undoes `to_vec_pretty` on recovery packages. -/
  recoveryPackageFromSlice : ∀ package,
    crates.recoveryPackageFromSlice (toVecPretty package) = .ok package

/-- The length of a cipher's keys. -/
def AesGcm.keyLength : AesGcm → ℕ
  | .aes128 => 16
  | .aes256 => 32

/-- AES-GCM encrypts every private key under keys of the right length. -/
def Crates.Encrypts (crates : Crates) : Prop :=
  ∀ (cipher : AesGcm) (dataKey : Bytes) (nonce : Vector UInt8 12) (privateKey : Vector UInt8 32),
    dataKey.length = cipher.keyLength →
      ∃ ciphertext, crates.aesGcmEncrypt cipher dataKey nonce privateKey.toList = .ok ciphertext

end AwsKmsDemo
