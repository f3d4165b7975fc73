import AwsKmsDemo.Enclave
import AwsKmsDemo.Reference

/-!
# The data key that the settings ask for

`ParentSettings::from_env` reads two options for the data key, a key spec and a number of bytes. The
request of the local client and the number of bits of the Nitro client are derived from both.
-/

namespace AwsKmsDemo

/-- The key spec in the environment, under either of its names. -/
def environmentKeySpec (env : Environment) : Option String :=
  (optionalEnv env "KMS_KEY_SPEC").or (optionalEnv env "KEY_SPEC")

/-- The number of bytes of the data key that a request asks for. KMS wants exactly one of the two
options. -/
def Settings.dataKeyBytes (request : Settings) : Option ℤ :=
  match request.keySpec, request.numberOfBytes with
  | some .aes128, none => some 16
  | some .aes256, none => some 32
  | none, some n => some n.toInt
  | _, _ => none

/-- The settings ask for one data key, and both clients ask for the same. -/
structure AsksForOneDataKey (settings : ParentSettings) : Prop where
  /-- Exactly one of the two options is given. -/
  one : settings.keySpec.isSome ≠ settings.numberOfBytes.isSome
  request : ∀ keyArn, ∃ request, settings.kmsRequestSettings keyArn = .ok request
  bits : ∃ bits, dataKeyBits settings = .ok bits
  /-- The bytes of the local request are the bits of the Nitro request. -/
  agree : ∀ keyArn request bits, settings.kmsRequestSettings keyArn = .ok request →
    dataKeyBits settings = .ok bits → ∃ n, request.dataKeyBytes = some n ∧ n * 8 = bits.toNat

variable {env : Environment} {settings : ParentSettings}

/-- Reading an option keeps whether there is one. -/
theorem isSome_of_mapM {α β ε : Type} {f : α → Except ε β} {a : Option α} {b : Option β}
    (h : a.mapM f = .ok b) : b.isSome = a.isSome := by
  cases a with
  | none =>
    rw [← Except.ok.inj h]
    rfl
  | some a =>
    obtain ⟨b', _, hb⟩ := except_bind_eq_ok.mp h
    rw [← Except.ok.inj hb]
    rfl

/-- Settings with one of the two key specs and no number of bytes ask for one data key. -/
theorem AsksForOneDataKey.of_keySpec (hnumber : settings.numberOfBytes = none) {spec : String}
    (hspec : settings.keySpec = some spec) (hknown : spec = "AES_128" ∨ spec = "AES_256") :
    AsksForOneDataKey settings := by
  have hrequest : ∀ keyArn, ∃ request, settings.kmsRequestSettings keyArn = .ok request := by
    intro keyArn
    unfold ParentSettings.kmsRequestSettings
    rw [hspec]
    rcases hknown with rfl | rfl <;> exact ⟨_, rfl⟩
  refine ⟨by simp [hspec, hnumber], hrequest, ?_, ?_⟩
  · unfold dataKeyBits
    rw [hspec, hnumber]
    rcases hknown with rfl | rfl <;> exact ⟨_, rfl⟩
  · -- Both clients ask for the length of the same spec.
    intro keyArn request bits hrequest hbits
    unfold ParentSettings.kmsRequestSettings at hrequest
    unfold dataKeyBits at hbits
    rw [hspec, hnumber] at hrequest hbits
    rcases hknown with rfl | rfl
    · rw [← Except.ok.inj hrequest, ← Except.ok.inj hbits]
      exact ⟨16, rfl, rfl⟩
    · rw [← Except.ok.inj hrequest, ← Except.ok.inj hbits]
      exact ⟨32, rfl, rfl⟩

/-- Only the two key specs make a request. -/
theorem known_of_kmsRequestSettings {keyArn spec : String} {request : Settings}
    (hspec : settings.keySpec = some spec)
    (h : settings.kmsRequestSettings keyArn = .ok request) :
    spec = "AES_128" ∨ spec = "AES_256" := by
  obtain ⟨keySpec, hparse, _⟩ := except_bind_eq_ok.mp h
  rw [hspec] at hparse
  obtain ⟨parsed, hknown, _⟩ := except_bind_eq_ok.mp hparse
  unfold parseKeySpec at hknown
  split at hknown
  · exact .inl rfl
  · exact .inr rfl
  · cases hknown

/-- The settings that `from_env` accepts ask for one data key exactly when there is no
`KMS_NUMBER_OF_BYTES` and the key spec, if there is one, is `AES_128` or `AES_256`. A number of
bytes is never the only option, because the default key spec comes on top of it. -/
theorem asksForOneDataKey_iff (h : ParentSettings.fromEnv env = .ok settings) :
    AsksForOneDataKey settings ↔
      optionalEnv env "KMS_NUMBER_OF_BYTES" = none ∧
        ∀ spec, environmentKeySpec env = some spec → spec = "AES_128" ∨ spec = "AES_256" := by
  have hread := readFrom_of_fromEnv h
  have hkeySpec : settings.keySpec = (environmentKeySpec env).or (some "AES_256") := hread.keySpec
  have hnumber := hread.numberOfBytes
  have hgiven := isSome_of_mapM hnumber
  -- The key spec has a default, so the number of bytes has to be absent.
  have hsome : settings.keySpec.isSome := by
    rw [hkeySpec]
    cases environmentKeySpec env <;> rfl
  constructor
  · intro hasks
    have hnone : settings.numberOfBytes.isSome = false := by
      have hone := hasks.one
      rw [hsome] at hone
      exact eq_false_of_ne_true hone.symm
    rw [hgiven] at hnone
    refine ⟨Option.isSome_eq_false_iff.mp hnone |> Option.isNone_iff_eq_none.mp,
      fun spec hspec => ?_⟩
    obtain ⟨request, hrequest⟩ := hasks.request ""
    refine known_of_kmsRequestSettings ?_ hrequest
    rw [hkeySpec, hspec]
    rfl
  · rintro ⟨hnone, hknown⟩
    rw [hnone] at hnumber
    have hnumberOfBytes : settings.numberOfBytes = none := (Except.ok.inj hnumber).symm
    cases hspec : environmentKeySpec env with
    | none =>
      rw [hspec] at hkeySpec
      exact .of_keySpec hnumberOfBytes hkeySpec (.inr rfl)
    | some spec =>
      rw [hspec] at hkeySpec
      exact .of_keySpec hnumberOfBytes hkeySpec (hknown spec hspec)

/-! ## Environments -/

/-- An environment with these variables. -/
def environmentOf (vars : List (String × String)) : Environment where
  var name := vars.lookup name
  argument := .ok none
  nitroEnclave := false

/-- The variables that `from_env` requires. -/
def requiredVariables : List (String × String) :=
  [("KMS_PRIMARY_KEY_ARN", primaryKey.keyArn), ("KMS_BACKUP_KEY_ARN", backupKey.keyArn),
    ("S3_BUCKET", "bucket")]

/-- With the required variables alone, the settings ask for one data key. -/
theorem asksForOneDataKey_required :
    AsksForOneDataKey { deployment with startupMode := .serve } ↔
      optionalEnv (environmentOf requiredVariables) "KMS_NUMBER_OF_BYTES" = none ∧
        ∀ spec, environmentKeySpec (environmentOf requiredVariables) = some spec →
          spec = "AES_128" ∨ spec = "AES_256" :=
  asksForOneDataKey_iff (by decide)

/-- An environment that sets only `KMS_NUMBER_OF_BYTES` is accepted, and its settings do not ask for
one data key: they contain both options, and the Nitro client refuses them. -/
theorem not_asksForOneDataKey_numberOfBytes :
    ∃ settings,
      ParentSettings.fromEnv (environmentOf (("KMS_NUMBER_OF_BYTES", "32") :: requiredVariables)) =
        .ok settings ∧
      settings.keySpec.isSome ∧ settings.numberOfBytes.isSome ∧
      (∀ bits, dataKeyBits settings ≠ .ok bits) ∧ ¬ AsksForOneDataKey settings := by
  have hsettings : ParentSettings.fromEnv
      (environmentOf (("KMS_NUMBER_OF_BYTES", "32") :: requiredVariables)) =
        .ok { deployment with startupMode := .serve, numberOfBytes := some 32 } := by decide
  refine ⟨_, hsettings, rfl, rfl, ?_, fun h => h.one rfl⟩
  intro bits h
  cases h

end AwsKmsDemo
