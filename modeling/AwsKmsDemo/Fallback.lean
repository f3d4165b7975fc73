import AwsKmsDemo.RoundTrip

/-!
# The order in which a restore tries the keys

The executions of `restore_key_material` after the manifest and the public document were loaded,
exactly: the configured keys are tried one after the other, each with the first reference to it,
until one succeeds, and then nothing more happens.
-/

namespace AwsKmsDemo

open Interaction Interaction.Program

/-! ## Before the loop -/

/-- The part of `restore_key_material` before its loop: load the manifest and the public key, and
check them. -/
def loadPublicKey (crates : Crates) (s3Client : BrokerS3Client) (settings : ParentSettings) :
    EnclaveProgram (KeyManifest × Vector UInt8 32) := do
  let manifestKey := objectKey settings.s3Prefix manifestFileName
  let loadedManifest ← s3Client.loadObject crates settings.s3Bucket manifestKey
  let manifestBody ← okOr loadedManifest
    s!"key manifest does not exist at s3://{settings.s3Bucket}/{manifestKey}; refusing to generate a replacement"
  let manifest ← ofText (crates.manifestFromSlice manifestBody)
  validateManifest manifest
  let loadedPublic ← s3Client.loadObject crates settings.s3Bucket manifest.publicKey.objectKey
  let publicBody ← okOr loadedPublic
    s!"public key object is missing: {manifest.publicKey.objectKey}"
  verifySha256 crates "public key object" publicBody manifest.publicKey.sha256
  let publicDocument ← ofText (crates.publicKeyDocumentFromSlice publicBody)
  let expectedPublicKey ← validatePublicDocument crates publicDocument manifest
  return (manifest, expectedPublicKey)

variable {crates : Crates} {s3Client : BrokerS3Client} {kmsClient : KmsDataKeyClient}
  {settings : ParentSettings} {manifest : KeyManifest} {publicKey : Vector UInt8 32}
  {tr : List EnclaveEvent}

/-- A restore loads the public key, and then tries the keys. -/
theorem restoreKeyMaterial_eq : restoreKeyMaterial crates s3Client kmsClient settings =
    (loadPublicKey crates s3Client settings).bind fun (manifest, publicKey) =>
      restoreWith crates s3Client kmsClient settings manifest publicKey [] settings.kmsKeys := by
  unfold restoreKeyMaterial loadPublicKey
  simp only [bind_eq, bind_assoc, pure_eq, ret_bind]

/-! ## One key -/

/-- What comes of a key: without a reference to it nothing is done, and otherwise one attempt is
made with the first one. -/
def Tries (crates : Crates) (s3Client : BrokerS3Client) (kmsClient : KmsDataKeyClient)
    (settings : ParentSettings) (manifest : KeyManifest) (publicKey : Vector UInt8 32)
    (key : KmsKeySettings) (tr : List EnclaveEvent) (outcome : Except String Unit) : Prop :=
  match manifest.recoveryObjects.find? fun reference => reference.kmsKeyArn = key.keyArn with
  | none => tr = [] ∧ outcome = .error "no recovery object in manifest"
  | some reference =>
    (attemptRestore crates s3Client kmsClient settings publicKey key reference).Yields tr
      (ofText outcome)

/-- The message about a key that failed. -/
def failure (key : KmsKeySettings) (message : String) : String := s!"{key.keyArn}: {message}"

/-- The message about a key without a recovery object. -/
theorem failure_missing (key : KmsKeySettings) :
    s!"{key.keyArn}: no recovery object in manifest" =
      failure key "no recovery object in manifest" := by
  have hsplit : toString ": no recovery object in manifest" =
      ": " ++ "no recovery object in manifest" := rfl
  unfold failure
  rw [hsplit, ← String.append_assoc]
  rfl

/-- The loop, over one more key. -/
theorem restoreWith_cons {failures : List String} {key : KmsKeySettings}
    {keys : List KmsKeySettings} {r : AppResult RestoredKeyPair} :
    (restoreWith crates s3Client kmsClient settings manifest publicKey failures
      (key :: keys)).Yields tr r ↔
    (Tries crates s3Client kmsClient settings manifest publicKey key tr (.ok ()) ∧
      r = .ok ⟨publicKey, manifest.keyFingerprint, key.keyArn⟩) ∨
    ∃ tr₁ tr₂ message, tr = tr₁ ++ tr₂ ∧
      Tries crates s3Client kmsClient settings manifest publicKey key tr₁ (.error message) ∧
      (restoreWith crates s3Client kmsClient settings manifest publicKey
        (failures ++ [failure key message]) keys).Yields tr₂ r := by
  rw [restoreWith]
  unfold Tries
  cases manifest.recoveryObjects.find? fun reference => reference.kmsKeyArn = key.keyArn with
  | none =>
    dsimp only
    rw [failure_missing]
    constructor
    · exact fun h => .inr ⟨[], tr, _, rfl, ⟨rfl, rfl⟩, h⟩
    · rintro (⟨⟨_, hok⟩, _⟩ | ⟨tr₁, tr₂, message, rfl, ⟨rfl, hmessage⟩, h⟩)
      · cases hok
      · injection hmessage with hmessage
        subst hmessage
        exact h
  | some reference =>
    constructor
    · intro h
      -- The attempt is caught, so the loop itself does not fail here.
      rcases yields_bind.mp h with ⟨e, herror, _⟩ | ⟨tr₁, tr₂, outcome, rfl, hcaught, hrest⟩
      · exact absurd herror (not_yields_caught_error failsOnly_attemptRestore)
      · rcases yields_caught_ok.mp hcaught with ⟨rfl, hattempt⟩ | ⟨message, rfl, hattempt⟩
        · obtain ⟨rfl, rfl⟩ := yields_ret.mp hrest
          rw [List.append_nil]
          exact .inl ⟨hattempt, rfl⟩
        · exact .inr ⟨tr₁, tr₂, message, rfl, hattempt, hrest⟩
    · rintro (⟨hattempt, rfl⟩ | ⟨tr₁, tr₂, message, rfl, hattempt, h⟩)
      · refine yields_bind.mpr (.inr ⟨tr, [], .ok (), (List.append_nil _).symm, ?_, .refl _⟩)
        exact yields_caught_ok.mpr (.inl ⟨rfl, hattempt⟩)
      · refine yields_bind.mpr (.inr ⟨tr₁, tr₂, .error message, rfl, ?_, h⟩)
        exact yields_caught_ok.mpr (.inr ⟨message, rfl, hattempt⟩)

/-! ## The loop -/

section Loop

variable (crates s3Client kmsClient settings manifest publicKey)

/-- Keys are tried one after the other, in their order, and all fail, with these messages. -/
inductive AllFail : List KmsKeySettings → List EnclaveEvent → List String → Prop where
  | nil : AllFail [] [] []
  | cons {key : KmsKeySettings} {keys : List KmsKeySettings} {tr tr' : List EnclaveEvent}
      {message : String} {messages : List String}
      (h : Tries crates s3Client kmsClient settings manifest publicKey key tr (.error message))
      (hs : AllFail keys tr' messages) : AllFail (key :: keys) (tr ++ tr') (message :: messages)

/-- The outcome of the loop: one key succeeds after those before it failed, or all keys fail. What
happens is what happens in the attempts, so that nothing is done for the keys after one that
succeeded. -/
def FallsBack (keys : List KmsKeySettings) (failures : List String) (tr : List EnclaveEvent)
    (r : AppResult RestoredKeyPair) : Prop :=
  (∃ before key after messages tr₁ tr₂, keys = before ++ key :: after ∧ tr = tr₁ ++ tr₂ ∧
    AllFail crates s3Client kmsClient settings manifest publicKey before tr₁ messages ∧
    Tries crates s3Client kmsClient settings manifest publicKey key tr₂ (.ok ()) ∧
    r = .ok ⟨publicKey, manifest.keyFingerprint, key.keyArn⟩) ∨
  ∃ messages, AllFail crates s3Client kmsClient settings manifest publicKey keys tr messages ∧
    r = .error (.err ("none of the configured KMS keys could restore the private key: " ++
      "; ".intercalate (failures ++ List.zipWith failure keys messages)))

end Loop

/-- There is one message for each key. -/
theorem AllFail.length {keys : List KmsKeySettings} {messages : List String}
    (h : AllFail crates s3Client kmsClient settings manifest publicKey keys tr messages) :
    (List.zipWith failure keys messages).length = keys.length := by
  induction h with
  | nil => rfl
  | cons _ _ ih => rw [List.zipWith_cons_cons, List.length_cons, List.length_cons, ih]

/-- Without keys that are left, the outcome is an error with what has failed. -/
theorem fallsBack_nil {failures : List String} {r : AppResult RestoredKeyPair} :
    FallsBack crates s3Client kmsClient settings manifest publicKey [] failures tr r ↔
      tr = [] ∧ r = .error (.err
        ("none of the configured KMS keys could restore the private key: " ++
          "; ".intercalate failures)) := by
  constructor
  · rintro (⟨before, key, after, _, _, _, hkeys, _⟩ | ⟨messages, hfail, rfl⟩)
    · exact absurd hkeys (by simp)
    · cases hfail
      rw [List.zipWith_nil_left, List.append_nil]
      exact ⟨rfl, rfl⟩
  · rintro ⟨rfl, rfl⟩
    refine .inr ⟨[], .nil, ?_⟩
    rw [List.zipWith_nil_left, List.append_nil]

/-- The first key succeeds, or it fails and the other keys follow. -/
theorem fallsBack_cons {failures : List String} {key : KmsKeySettings} {keys : List KmsKeySettings}
    {r : AppResult RestoredKeyPair} :
    FallsBack crates s3Client kmsClient settings manifest publicKey (key :: keys) failures tr r ↔
      (Tries crates s3Client kmsClient settings manifest publicKey key tr (.ok ()) ∧
        r = .ok ⟨publicKey, manifest.keyFingerprint, key.keyArn⟩) ∨
      ∃ tr₁ tr₂ message, tr = tr₁ ++ tr₂ ∧
        Tries crates s3Client kmsClient settings manifest publicKey key tr₁ (.error message) ∧
        FallsBack crates s3Client kmsClient settings manifest publicKey keys
          (failures ++ [failure key message]) tr₂ r := by
  constructor
  · rintro (⟨before, key', after, messages, tr₁, tr₂, hkeys, rfl, hfail, htries, rfl⟩ |
      ⟨messages, hfail, rfl⟩)
    · -- Either the first key is the one that succeeds, or it is the first of those that fail.
      cases hfail with
      | nil =>
        obtain ⟨rfl, rfl⟩ := List.cons.inj hkeys
        exact .inl ⟨htries, rfl⟩
      | @cons _ before' tr₃ tr₄ message messages' h hs =>
        obtain ⟨rfl, rfl⟩ := List.cons.inj hkeys
        rw [List.append_assoc]
        exact .inr ⟨tr₃, _, message, rfl, h,
          .inl ⟨before', key', after, messages', tr₄, tr₂, rfl, rfl, hs, htries, rfl⟩⟩
    · cases hfail with
      | @cons _ _ tr₁ tr₂ message messages' h hs =>
        refine .inr ⟨tr₁, tr₂, message, rfl, h, .inr ⟨messages', hs, ?_⟩⟩
        rw [List.zipWith_cons_cons, List.append_assoc, List.singleton_append]
  · rintro (⟨htries, rfl⟩ | ⟨tr₁, tr₂, message, rfl, h, hrest⟩)
    · exact .inl ⟨[], key, keys, [], [], tr, rfl, rfl, .nil, htries, rfl⟩
    · rcases hrest with ⟨before, key', after, messages, tr₃, tr₄, rfl, rfl, hfail, htries, rfl⟩ |
        ⟨messages, hfail, rfl⟩
      · exact .inl ⟨key :: before, key', after, message :: messages, tr₁ ++ tr₃, tr₄, rfl,
          (List.append_assoc _ _ _).symm, .cons h hfail, htries, rfl⟩
      · refine .inr ⟨message :: messages, .cons h hfail, ?_⟩
        rw [List.zipWith_cons_cons, List.append_assoc, List.singleton_append]

/-- The executions of the loop. -/
theorem yields_restoreWith_iff {keys : List KmsKeySettings} {failures : List String}
    {r : AppResult RestoredKeyPair} :
    (restoreWith crates s3Client kmsClient settings manifest publicKey failures keys).Yields tr r ↔
      FallsBack crates s3Client kmsClient settings manifest publicKey keys failures tr r := by
  induction keys generalizing failures tr with
  | nil => exact yields_fail.trans fallsBack_nil.symm
  | cons key keys ih =>
    rw [restoreWith_cons, fallsBack_cons]
    refine or_congr_right ?_
    constructor
    · rintro ⟨tr₁, tr₂, message, htr, htries, h⟩
      exact ⟨tr₁, tr₂, message, htr, htries, ih.mp h⟩
    · rintro ⟨tr₁, tr₂, message, htr, htries, h⟩
      exact ⟨tr₁, tr₂, message, htr, htries, ih.mpr h⟩

end AwsKmsDemo
