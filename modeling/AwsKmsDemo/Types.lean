import Mathlib.Algebra.Group.Int.Defs
import Mathlib.Algebra.Group.Nat.Defs
import Mathlib.Data.List.AList
import Mathlib.Tactic.SplitIfs
import AwsKmsDemo.Interaction.Program

/-!
# The data of the program

The constants and data types of `src/lib.rs` and `src/key_material.rs`. A `Vec<u8>` is a list of
bytes, a fixed-size byte array a `Vector`, and a Rust string a `String`: both are finite sequences
of Unicode scalar values. Machine integers keep their width.
-/

namespace AwsKmsDemo

open Interaction

/-- A byte sequence, `Vec<u8>` or `&[u8]`. -/
abbrev Bytes := List UInt8

/-- How a computation of the program can fail to return. -/
inductive AppError where
  /-- An `Err` with this text, which `?` passes on. -/
  | err (message : String)
  /-- A panic, which nothing in the program catches. -/
  | panic (message : String)
  deriving DecidableEq

/-- The program's `AppResult`. -/
abbrev AppResult := Except AppError

/-- The text of an error, for the `to_string` of an `Err`. -/
def AppError.message : AppError → String
  | .err message => message
  | .panic message => message

/-- A result whose error is a text. -/
def ofText {α : Type} : Except String α → AppResult α
  | .ok a => .ok a
  | .error message => .error (.err message)

/-- A value is passed on. -/
@[simp] theorem ofText_ok {α : Type} (a : α) : ofText (.ok a) = .ok a := rfl

/-- A text becomes an error with this text. -/
@[simp] theorem ofText_error {α : Type} (message : String) :
    (ofText (.error message) : AppResult α) = .error (.err message) := rfl

/-- Exactly a value becomes a value. -/
theorem ofText_eq_ok {α : Type} {x : Except String α} {a : α} :
    ofText x = .ok a ↔ x = .ok a := by
  cases x <;> simp

/-- `if c { return Err(e) }` -/
def failIf (c : Prop) [Decidable c] (e : AppError) : AppResult Unit :=
  if c then .error e else .ok ()

/-- A check fails under its condition. -/
theorem failIf_of {c : Prop} [Decidable c] (e : AppError) (h : c) : failIf c e = .error e :=
  if_pos h

/-- A check passes without its condition. -/
theorem failIf_of_not {c : Prop} [Decidable c] (e : AppError) (h : ¬ c) : failIf c e = .ok () :=
  if_neg h

/-- A check passes exactly without its condition. -/
@[simp] theorem failIf_eq_ok {c : Prop} [Decidable c] {e : AppError} {u : Unit} :
    failIf c e = .ok u ↔ ¬ c := by
  unfold failIf
  split_ifs with h <;> simp [h]

/-- A sequence of computations succeeds exactly when its parts do. -/
theorem except_bind_eq_ok {ε α β : Type} {x : Except ε α} {f : α → Except ε β} {b : β} :
    (x >>= f) = .ok b ↔ ∃ a, x = .ok a ∧ f a = .ok b := by
  cases x with
  | ok a =>
    constructor
    · intro h
      exact ⟨a, rfl, h⟩
    · rintro ⟨a', ha, h⟩
      injection ha with ha
      rw [ha]
      exact h
  | error e =>
    constructor
    · intro h
      cases h
    · rintro ⟨_, h, _⟩
      cases h

/-- A check comes first: it passes, and the rest succeeds. -/
theorem failIf_bind_eq_ok {c : Prop} [Decidable c] {e : AppError} {α : Type}
    {f : Unit → AppResult α} {a : α} : (failIf c e >>= f) = .ok a ↔ ¬ c ∧ f () = .ok a := by
  rw [except_bind_eq_ok]
  constructor
  · rintro ⟨_, hc, hf⟩
    exact ⟨failIf_eq_ok.mp hc, hf⟩
  · rintro ⟨hc, hf⟩
    exact ⟨(), failIf_of_not e hc, hf⟩

/-! ## Panics -/

/-- The failures that are not panics. -/
def AppError.IsErr : AppError → Prop
  | .err _ => True
  | .panic _ => False

/-- A computation that does not panic. -/
def NoPanic {α : Type} (x : AppResult α) : Prop := ∀ e, x = .error e → e.IsErr

/-- A value is no panic. -/
theorem noPanic_ok {α : Type} {a : α} : NoPanic (.ok a : AppResult α) := by
  intro e he
  cases he

/-- An error is no panic. -/
theorem noPanic_err {α : Type} {message : String} :
    NoPanic (.error (.err message) : AppResult α) := by
  intro e he
  injection he with he
  rw [← he]
  trivial

/-- Computations that do not panic can be put one after the other. -/
theorem NoPanic.bind {α β : Type} {x : AppResult α} {f : α → AppResult β} (hx : NoPanic x)
    (hf : ∀ a, NoPanic (f a)) : NoPanic (x >>= f) := by
  cases x with
  | ok a => exact hf a
  | error e =>
    intro e' he'
    injection he' with he'
    rw [← he']
    exact hx e rfl

/-- A text as an error is no panic. -/
theorem noPanic_ofText {α : Type} {x : Except String α} : NoPanic (ofText x) := by
  cases x
  · exact noPanic_err
  · exact noPanic_ok

/-- A check does not panic. -/
theorem noPanic_failIf {c : Prop} [Decidable c] {message : String} :
    NoPanic (failIf c (.err message)) := by
  unfold failIf
  split_ifs
  · exact noPanic_err
  · exact noPanic_ok

/-- A computation that does not panic, as a program. -/
theorem NoPanic.failsOnly {Op : Type} {Ans : Op → Type} {α : Type} {x : AppResult α}
    (h : NoPanic x) : (Program.ofExcept x : Program Ans AppError α).FailsOnly AppError.IsErr :=
  Program.failsOnly_ofExcept h

/-! ## Constants -/

/-- `PRIVATE_KEY_ALGORITHM` -/
def privateKeyAlgorithm : String := "ED25519"

/-- `PRIVATE_KEY_ENCRYPTION` -/
def privateKeyEncryption : String := "AES-GCM"

/-- `ED25519_PRIVATE_KEY_LENGTH` -/
abbrev ed25519PrivateKeyLength : ℕ := 32

/-- `AES_GCM_NONCE_LENGTH` -/
abbrev aesGcmNonceLength : ℕ := 12

/-- `MAX_JSON_FRAME_LENGTH` -/
def maxJsonFrameLength : ℕ := 1024 * 1024

/-- `KEY_MATERIAL_VERSION` -/
def keyMaterialVersion : UInt32 := 2

/-- `MANIFEST_FILE_NAME` -/
def manifestFileName : String := "key_manifest.json"

/-- `DEFAULT_BROKER_ENDPOINT` -/
def defaultBrokerEndpoint : String := "tcp:127.0.0.1:7001"

/-- `DEFAULT_ENCLAVE_RPC_ENDPOINT` -/
def defaultEnclaveRpcEndpoint : String := "tcp:127.0.0.1:7003"

/-- `DEFAULT_NITRO_KMS_PROXY_PORT` -/
def defaultNitroKmsProxyPort : UInt32 := 8000

/-- `DEFAULT_PARENT_CID` -/
def defaultParentCid : UInt32 := 3

/-! ## Settings -/

/-- `StartupMode` -/
inductive StartupMode where
  | serve
  | initKey
  deriving DecidableEq

/-- `KmsSlot` -/
inductive KmsSlot where
  | primary
  | backup
  deriving DecidableEq

/-- `KmsSlot::label` -/
def KmsSlot.label : KmsSlot → String
  | .primary => "primary"
  | .backup => "backup"

/-- The label in upper case, as the broker's message about a missing provider writes it. -/
def KmsSlot.upperLabel : KmsSlot → String
  | .primary => "PRIMARY"
  | .backup => "BACKUP"

/-- `KmsKeySettings` -/
structure KmsKeySettings where
  slot : KmsSlot
  keyArn : String
  region : String
  deriving DecidableEq

/-- `HashMap<String, String>`: no key occurs twice, and the entries are listed in the order in which
the map is iterated. -/
abbrev HashMap := AList fun _ : String => String

/-- `ParentSettings` -/
structure ParentSettings where
  kmsKeys : List KmsKeySettings
  s3Bucket : String
  s3Prefix : String
  startupMode : StartupMode
  keySpec : Option String
  numberOfBytes : Option Int32
  encryptionContext : Option HashMap
  grantTokens : List String
  dryRun : Option Bool
  deriving DecidableEq

/-- `DataKeySpec` -/
inductive DataKeySpec where
  | aes128
  | aes256
  deriving DecidableEq

/-- `Settings`, the parameters of one KMS request. -/
structure Settings where
  kmsKeyId : String
  keySpec : Option DataKeySpec
  numberOfBytes : Option Int32
  encryptionContext : Option HashMap
  grantTokens : List String
  dryRun : Option Bool
  deriving DecidableEq

/-- `AwsCredentials` -/
structure AwsCredentials where
  region : String
  accessKeyId : String
  secretAccessKey : String
  sessionToken : Option String
  expiresAtEpochSeconds : Option UInt64
  deriving DecidableEq

/-- `Endpoint` -/
inductive Endpoint where
  | tcp (addr : String)
  | vsock (cid port : UInt32)
  deriving DecidableEq

/-! ## The broker protocol -/

/-- `BrokerRequest` -/
inductive BrokerRequest where
  | getSettings
  | getAwsCredentials (slot : KmsSlot)
  | loadObject (bucket key : String)
  | saveObjectIfAbsent (bucket key : String) (body : Bytes)
  deriving DecidableEq

/-- `BrokerResponse` -/
inductive BrokerResponse where
  | settings (settings : ParentSettings)
  | awsCredentials (credentials : AwsCredentials)
  | object (body : Option Bytes)
  | saved
  | error (message : String)
  deriving DecidableEq

/-! ## The stored documents -/

/-- `ObjectReference` -/
structure ObjectReference where
  objectKey : String
  sha256 : String
  deriving DecidableEq

/-- `RecoveryObjectReference` -/
structure RecoveryObjectReference where
  kmsKeyArn : String
  objectKey : String
  sha256 : String
  deriving DecidableEq

/-- `KeyManifest` -/
structure KeyManifest where
  version : UInt32
  recoveryPolicy : String
  keyFingerprint : String
  privateKeyAlgorithm : String
  privateKeyEncryption : String
  publicKey : ObjectReference
  recoveryObjects : List RecoveryObjectReference
  deriving DecidableEq

/-- `PublicKeyDocument` -/
structure PublicKeyDocument where
  version : UInt32
  algorithm : String
  publicKeyBase64 : String
  fingerprintSha256 : String
  deriving DecidableEq

/-- `RecoveryPackage` -/
structure RecoveryPackage where
  version : UInt32
  encryptedDataKeyBase64 : String
  privateKeyNonceBase64 : String
  encryptedPrivateKeyBase64 : String
  deriving DecidableEq

/-- `GeneratedDataKey` -/
structure GeneratedDataKey where
  plaintextDataKey : Bytes
  encryptedDataKey : Bytes
  kmsKeyId : String
  deriving DecidableEq

/-- `RestoredKeyPair` -/
structure RestoredKeyPair where
  publicKey : Vector UInt8 32
  fingerprint : String
  kmsKeyArn : String
  deriving DecidableEq

end AwsKmsDemo
