import AwsKmsDemo.Binding
import AwsKmsDemo.Interaction.Twins

/-!
# What the broker learns

The requests that `initialize_key_material` and `restore_key_material` send depend on the private
key and on the plaintext data keys only through what is published anyway: the public key, the
ciphertexts, the encrypted data keys and nonces, and which steps have failed. Two executions are
compared in which these coincide and everything else differs.
-/

namespace AwsKmsDemo

open Interaction Interaction.Program

/-! ## What coincides -/

/-- The secrets that an execution knows by now. -/
structure Secrets where
  /-- The last private key that was drawn. -/
  seed : Vector UInt8 32
  /-- The last plaintext data key that was generated. -/
  dataKey : Bytes

/-- The secrets after an event. -/
def Secrets.learn (secrets : Secrets) : EnclaveEvent → Secrets
  | ⟨.random 32, seed⟩ => { secrets with seed := seed }
  | ⟨.generateDataKey _ _, .ok output⟩ => { secrets with dataKey := output.plaintext.getD [] }
  | ⟨.nkmsGenerateDataKey _ _ _, .ok (plaintext, _)⟩ => { secrets with dataKey := plaintext }
  | _ => secrets

/-- What may be known of an event. -/
inductive Disclosed where
  | connected (answer : Except String Unit)
  | received (answer : Except String Stream.Reader)
  | publicKey (publicKey : Vector UInt8 32)
  /-- A nonce, and the ciphertext that it was drawn for, unless encryption has failed. -/
  | encrypted (nonce : Vector UInt8 12) (ciphertext : Option Bytes)
  | random (bytes : Bytes)
  /-- The length of the plaintext data key, the encrypted data key and the key identifier, unless
  `GenerateDataKey` has failed. -/
  | generated (dataKey : Option (Option ℕ × Option Bytes × Option String))
  | nothing

/-- What may be known of an event, for an execution with these secrets. -/
def disclosed (crates : Crates) (secrets : Secrets) : EnclaveEvent → Disclosed
  | ⟨.connect _, answer⟩ => .connected answer
  | ⟨.exchange _ _, answer⟩ => .received answer
  | ⟨.random 32, seed⟩ => .publicKey (crates.ed25519PublicKey seed)
  | ⟨.random 12, nonce⟩ => .encrypted nonce
    (encryptPrivateKey crates secrets.dataKey nonce secrets.seed.toList).toOption
  | ⟨.random _, bytes⟩ => .random bytes.toList
  | ⟨.generateDataKey _ _, answer⟩ => .generated (answer.toOption.map fun output =>
    (output.plaintext.map List.length, output.ciphertextBlob, output.keyId))
  | ⟨.nkmsGenerateDataKey _ _ _, answer⟩ =>
    .generated (answer.toOption.map fun (plaintext, ciphertext) =>
    (some plaintext.length, some ciphertext, none))
  | _ => .nothing

/-- The same may be known of two executions. -/
def disclosure (crates : Crates) : Coupling EnclaveOp.Ans (Secrets × Secrets) where
  Alike secrets e e' := disclosed crates secrets.1 e = disclosed crates secrets.2 e'
  next secrets e e' := (secrets.1.learn e, secrets.2.learn e')

/-- The checks of a recovery package. -/
def IsCheck (crates : Crates) (call : EnclaveProgram Unit) : Prop :=
  ∃ kmsClient settings key package publicKey,
    call = restoreFromPackage crates kmsClient settings key package publicKey

/-- The frames that an execution has sent, in order. -/
def sentFrames (tr : List EnclaveEvent) : List Bytes :=
  (ops tr).filterMap fun o =>
    match o with
    | .exchange _ frame => some frame
    | _ => none

variable {crates : Crates} {kmsClient : KmsDataKeyClient} {s3Client : BrokerS3Client}
  {settings : ParentSettings} {key : KmsKeySettings} {secrets : Secrets × Secrets}
  {α : Type}

/-! ## The broker's answers -/

/-- The operations whose answers are the same in both executions. -/
def Sends : EnclaveOp → Prop
  | .connect _ => True
  | .exchange _ _ => True
  | _ => False

/-- A request to the broker is a sending. -/
theorem sends_of_asks {endpoint : Endpoint} {request : BrokerRequest} {o : EnclaveOp}
    (ho : Asks endpoint request o) : Sends o := by
  rcases ho with rfl | ⟨_, rfl⟩ <;> trivial

/-- The broker answers both executions alike, and teaches them no secret. -/
theorem disclosure_of_sends {o : EnclaveOp} (ho : Sends o) (a a' : o.Ans)
    (halike : (disclosure crates).Alike secrets ⟨o, a⟩ ⟨o, a'⟩) :
    a = a' ∧ (disclosure crates).next secrets ⟨o, a⟩ ⟨o, a'⟩ = secrets := by
  cases o with
  | connect endpoint => exact ⟨Disclosed.connected.inj halike, rfl⟩
  | exchange endpoint frame => exact ⟨Disclosed.received.inj halike, rfl⟩
  | _ => exact ho.elim

/-- A program that only asks the broker has the same result in both executions. -/
theorem twins_of_sends {p : EnclaveProgram α} (hp : p.Uses Sends) :
    Twins (disclosure crates) (IsCheck crates) p p secrets fun r r' secrets' =>
      r = r' ∧ secrets' = secrets :=
  Twins.self hp fun _ => disclosure_of_sends

/-- Loading an object only sends. -/
theorem uses_sends_loadObject {bucket name : String} :
    (s3Client.loadObject crates bucket name).Uses Sends :=
  uses_loadObject.mono fun _ => sends_of_asks

/-- Saving an object only sends. -/
theorem uses_sends_saveObjectIfAbsent {bucket name : String} {body : Bytes} :
    (s3Client.saveObjectIfAbsent crates bucket name body).Uses Sends :=
  uses_saveObjectIfAbsent.mono fun _ => sends_of_asks

/-- Asking for credentials only sends. -/
theorem uses_sends_requestBrokerCredentials {endpoint : Endpoint} {slot : KmsSlot} :
    (requestBrokerCredentials crates endpoint slot).Uses Sends :=
  uses_requestBrokerCredentials.mono fun _ => sends_of_asks

/-- Verifying an upload only sends. -/
theorem uses_sends_verifyUploadedObject {bucket name expectedHash : String} :
    (verifyUploadedObject crates s3Client bucket name expectedHash).Uses Sends := by
  refine uses_sends_loadObject.bind fun _ => uses_ofExcept_bind fun _ _ => ?_
  exact uses_ofExcept

/-- Two results of the same kind. -/
theorem cases_of_isOk_eq {ε β : Type} {r r' : Except ε β} (h : r.isOk = r'.isOk) :
    (∃ e e', r = .error e ∧ r' = .error e') ∨ ∃ b b', r = .ok b ∧ r' = .ok b' := by
  cases r with
  | error e =>
    cases r' with
    | error e' => exact .inl ⟨e, e', rfl, rfl⟩
    | ok _ => cases h
  | ok b =>
    cases r' with
    | error e' => cases h
    | ok b' => exact .inr ⟨b, b', rfl, rfl⟩

/-- Two results that are failures, or coincide in a part. -/
theorem cases_of_map_toOption_eq {ε β γ : Type} {r r' : Except ε β} {f : β → γ}
    (h : r.toOption.map f = r'.toOption.map f) :
    (∃ e e', r = .error e ∧ r' = .error e') ∨ ∃ b b', r = .ok b ∧ r' = .ok b' ∧ f b = f b' := by
  have hkind : r.isOk = r'.isOk := by
    cases r <;> cases r' <;> first | rfl | cases h
  rcases cases_of_isOk_eq hkind with herror | ⟨b, b', rfl, rfl⟩
  · exact .inl herror
  · exact .inr ⟨b, b', rfl, rfl, Option.some.inj h⟩

/-! ## Checking a package -/

/-- A call of KMS to decrypt a data key. -/
def Decrypting : EnclaveOp → Prop
  | .decrypt _ _ => True
  | .nkmsDecryptDataKey _ _ _ => True
  | _ => False

/-- After KMS has decrypted a data key, checking a package performs nothing more. -/
theorem endsAfter_restoreFromPackage {package : RecoveryPackage} {publicKey : Vector UInt8 32} :
    (restoreFromPackage crates kmsClient settings key package publicKey).EndsAfter Sends
      Decrypting := by
  refine EndsAfter.ofExcept_bind fun _ _ => EndsAfter.ofExcept_bind fun _ _ =>
    EndsAfter.ofExcept_bind fun _ _ => EndsAfter.ofExcept_bind fun nonce _ => ?_
  refine EndsAfter.bind_silent ?_ fun dataKey => ?_
  · refine EndsAfter.of_uses_bind uses_sends_requestBrokerCredentials fun credentials => ?_
    cases kmsClient with
    | «local» endpoint =>
      refine EndsAfter.ofExcept_bind fun requestSettings _ => .inl ⟨trivial, fun answer => ?_⟩
      exact uses_ofExcept_bind fun _ _ => uses_ofExcept
    | nitro client endpoint =>
      refine EndsAfter.ofExcept_bind fun _ _ => EndsAfter.ofExcept_bind fun native _ =>
        EndsAfter.ofExcept_bind fun context _ => .inl ⟨trivial, fun answer => ?_⟩
      cases answer <;> trivial
  · refine uses_ofExcept_bind fun _ _ => uses_ofExcept_bind fun _ _ =>
      uses_ofExcept_bind fun _ _ => ?_
    exact uses_ofExcept

/-- Decrypting tells no new secret. -/
theorem next_of_decrypting {o : EnclaveOp} (ho : Decrypting o) (a a' : o.Ans) :
    (disclosure crates).next secrets ⟨o, a⟩ ⟨o, a'⟩ = secrets := by
  cases o with
  | decrypt client request => rfl
  | nkmsDecryptDataKey client ciphertext context => rfl
  | _ => exact ho.elim

/-- The checks of a package perform the same operations and come to the same verdict. -/
theorem twins_restoreFromPackage {package : RecoveryPackage} {publicKey : Vector UInt8 32} :
    Twins (disclosure crates) (IsCheck crates)
      (restoreFromPackage crates kmsClient settings key package publicKey)
      (restoreFromPackage crates kmsClient settings key package publicKey) secrets
      fun r r' secrets' => secrets' = secrets ∧ r.isOk = r'.isOk := by
  refine Twins.call ?_ ⟨kmsClient, settings, key, package, publicKey, rfl⟩
  exact endsAfter_restoreFromPackage.twins (fun _ => disclosure_of_sends) fun _ =>
    next_of_decrypting

/-! ## Generating a data key -/

/-- Both calls have failed, or both have generated a data key, of which everything but the plaintext
is the same. -/
inductive GeneratedAlike (secrets : Secrets × Secrets) :
    AppResult GeneratedDataKey → AppResult GeneratedDataKey → Secrets × Secrets → Prop
  | failed (e e' : AppError) (secrets' : Secrets × Secrets) :
    GeneratedAlike secrets (.error e) (.error e') secrets'
  | generated (plaintextDataKey plaintextDataKey' encryptedDataKey : Bytes) (kmsKeyId : String)
    (hlength : plaintextDataKey.length = plaintextDataKey'.length) :
    GeneratedAlike secrets (.ok ⟨plaintextDataKey, encryptedDataKey, kmsKeyId⟩)
      (.ok ⟨plaintextDataKey', encryptedDataKey, kmsKeyId⟩)
      ({ secrets.1 with dataKey := plaintextDataKey },
        { secrets.2 with dataKey := plaintextDataKey' })

/-- The local client generates alike. -/
theorem twins_callGenerateDataKey {client : KmsClient} {request : Settings} :
    Twins (disclosure crates) (IsCheck crates) (callGenerateDataKey client request)
      (callGenerateDataKey client request) secrets (GeneratedAlike secrets) := by
  refine Twins.op fun answer answer' halike => ?_
  -- Both answers disclose the same: whether there is a data key, and its ciphertext.
  rcases cases_of_map_toOption_eq (Disclosed.generated.inj halike) with
    ⟨message, message', rfl, rfl⟩ | ⟨⟨plaintext, ciphertextBlob, keyId⟩,
      ⟨plaintext', ciphertextBlob', keyId'⟩, rfl, rfl, hgenerated⟩
  · exact Twins.fail (.failed _ _ _)
  · obtain ⟨hplaintext, hrest⟩ := Prod.mk.inj hgenerated
    obtain ⟨rfl, rfl⟩ := Prod.mk.inj hrest
    dsimp only at hplaintext
    cases plaintext with
    | none =>
      obtain rfl := Option.map_eq_none_iff.mp hplaintext.symm
      exact Twins.fail (.failed _ _ _)
    | some plaintextDataKey =>
      obtain ⟨plaintextDataKey', rfl, hlength⟩ := Option.map_eq_some_iff.mp hplaintext.symm
      cases ciphertextBlob with
      | none => exact Twins.fail (.failed _ _ _)
      | some encryptedDataKey => exact Twins.ret (.generated _ _ _ _ hlength.symm)

/-- The Nitro client generates alike. -/
theorem twins_nitroGenerateDataKey {client : NitroKmsClient} {credentials : AwsCredentials}
    {keyId : String} :
    Twins (disclosure crates) (IsCheck crates)
      (client.generateDataKey settings credentials keyId)
      (client.generateDataKey settings credentials keyId) secrets (GeneratedAlike secrets) := by
  have hfailed : ∀ e, GeneratedAlike secrets (.error e) (.error e) secrets := fun e => .failed e e _
  refine Twins.ofExcept_bind (fun _ _ => ?_) fun e _ => hfailed e
  refine Twins.ofExcept_bind (fun _ _ => ?_) fun e _ => hfailed e
  refine Twins.ofExcept_bind (fun keyBits _ => ?_) fun e _ => hfailed e
  refine Twins.ofExcept_bind (fun native _ => ?_) fun e _ => hfailed e
  refine Twins.ofExcept_bind (fun keyIdC _ => ?_) fun e _ => hfailed e
  refine Twins.op fun answer answer' halike => ?_
  rcases cases_of_map_toOption_eq (Disclosed.generated.inj halike) with
    ⟨message, message', rfl, rfl⟩ | ⟨⟨plaintextDataKey, encryptedDataKey⟩,
      ⟨plaintextDataKey', encryptedDataKey'⟩, rfl, rfl, hgenerated⟩
  · exact Twins.fail (.failed _ _ _)
  · obtain ⟨hplaintext, hrest⟩ := Prod.mk.inj hgenerated
    obtain rfl := Option.some.inj (Prod.mk.inj hrest).1
    exact Twins.ret (.generated _ _ _ _ (Option.some.inj hplaintext))

/-- Either client generates alike. -/
theorem twins_generateDataKey :
    Twins (disclosure crates) (IsCheck crates) (kmsClient.generateDataKey crates settings key)
      (kmsClient.generateDataKey crates settings key) secrets (GeneratedAlike secrets) := by
  refine Twins.bind_self (twins_of_sends uses_sends_requestBrokerCredentials)
    (fun credentials => ?_) fun e => .failed e e _
  cases kmsClient with
  | «local» endpoint =>
    refine Twins.ofExcept_bind (fun requestSettings _ => ?_) fun e _ => .failed e e _
    exact twins_callGenerateDataKey
  | nitro client endpoint => exact twins_nitroGenerateDataKey

/-! ## Initialization -/

/-- Both executions have failed, or both have returned the same. -/
def SameReturn (r r' : AppResult α) : Prop := r.toOption = r'.toOption

/-- Two results are the same, or both are errors. -/
theorem SameReturn.cases {r r' : AppResult α} (h : SameReturn r r') :
    (∃ e e', r = .error e ∧ r' = .error e') ∨ ∃ a, r = .ok a ∧ r' = .ok a := by
  have hmap : r.toOption.map id = r'.toOption.map id := congrArg (Option.map id) h
  rcases cases_of_map_toOption_eq hmap with herror | ⟨a, a', hr, hr', heq⟩
  · exact .inl herror
  · have heq' : a = a' := heq
    exact .inr ⟨a, hr, by rw [hr', heq']⟩

/-- The seeds that two executions know. -/
def Secrets.Seeds (secrets : Secrets × Secrets) (privateKey privateKey' : Vector UInt8 32) : Prop :=
  secrets.1.seed = privateKey ∧ secrets.2.seed = privateKey'

variable {privateKey privateKey' publicKey : Vector UInt8 32}

/-- The check of a data key sees its length only. -/
theorem validateDataKeyLen_of_length_eq {dataKey dataKey' : Bytes}
    (hlength : dataKey.length = dataKey'.length) :
    validateDataKeyLen dataKey = validateDataKeyLen dataKey' := by
  unfold validateDataKeyLen
  rw [hlength]

/-- Under different private keys, the loop body sends the same, and stores the same package. -/
theorem twins_createRecoveryObject (hseeds : Secrets.Seeds secrets privateKey privateKey') :
    Twins (disclosure crates) (IsCheck crates)
      (createRecoveryObject crates s3Client kmsClient settings privateKey publicKey key)
      (createRecoveryObject crates s3Client kmsClient settings privateKey' publicKey key) secrets
      fun r r' secrets' => SameReturn r r' ∧
        (r.isOk → Secrets.Seeds secrets' privateKey privateKey') := by
  have hfailed : ∀ (e e' : AppError) (secrets' : Secrets × Secrets),
      SameReturn (.error e : AppResult RecoveryObjectReference) (.error e') ∧
        ((.error e : AppResult RecoveryObjectReference).isOk →
          Secrets.Seeds secrets' privateKey privateKey') :=
    fun e e' secrets' => ⟨rfl, fun h => by cases h⟩
  refine Twins.bind (twins_generateDataKey.imp fun r r' secrets' hgenerated => ?_)
  obtain ⟨e, e', secrets'⟩ | ⟨dataKey, dataKey', encryptedDataKey, kmsKeyId, hlength⟩ := hgenerated
  · exact hfailed e e' secrets'
  dsimp only
  rw [validateDataKeyLen_of_length_eq hlength]
  refine Twins.ofExcept_bind (fun _ _ => ?_) fun e _ => hfailed e e _
  refine Twins.ofExcept_bind (fun _ _ => ?_) fun e _ => hfailed e e _
  -- The nonce is the same, and the ciphertext under it is, if there is one.
  refine Twins.op fun nonce nonce' halike => ?_
  obtain ⟨rfl, hciphertext⟩ := Disclosed.encrypted.inj halike
  dsimp only at hciphertext
  rw [hseeds.1, hseeds.2] at hciphertext
  refine Twins.bind (Twins.ret (Twins.bind (Twins.ofExcept ?_)))
  cases hencrypt : encryptPrivateKey crates dataKey nonce privateKey.toList with
  | error e =>
    cases hencrypt' : encryptPrivateKey crates dataKey' nonce privateKey'.toList with
    | error e' => exact hfailed e e' _
    | ok _ => rw [hencrypt, hencrypt'] at hciphertext; cases hciphertext
  | ok ciphertext =>
    cases hencrypt' : encryptPrivateKey crates dataKey' nonce privateKey'.toList with
    | error e' => rw [hencrypt, hencrypt'] at hciphertext; cases hciphertext
    | ok ciphertext' =>
      rw [hencrypt, hencrypt'] at hciphertext
      obtain rfl := Option.some.inj hciphertext
      refine Twins.ofExcept_bind (fun storageId _ => ?_) fun e _ => hfailed e e _
      refine Twins.ofExcept_bind (fun displayId _ => ?_) fun e _ => hfailed e e _
      refine Twins.bind_self (twins_of_sends uses_sends_saveObjectIfAbsent) (fun _ => ?_)
        fun e => hfailed e e _
      refine Twins.bind_self (twins_of_sends uses_sends_verifyUploadedObject) (fun _ => ?_)
        fun e => hfailed e e _
      refine Twins.bind (twins_restoreFromPackage.imp fun r r' secrets' hchecked => ?_)
      obtain ⟨rfl, hverdict⟩ := hchecked
      rcases cases_of_isOk_eq hverdict with ⟨e, e', rfl, rfl⟩ | ⟨_, _, rfl, rfl⟩
      · exact hfailed e e' _
      · exact Twins.ret ⟨rfl, fun _ => hseeds⟩

/-- The packages of all keys are created alike. -/
theorem twins_createRecoveryObjects (hseeds : Secrets.Seeds secrets privateKey privateKey')
    {keys : List KmsKeySettings} {recoveryObjects : List RecoveryObjectReference} :
    Twins (disclosure crates) (IsCheck crates)
      (createRecoveryObjects crates s3Client kmsClient settings privateKey publicKey recoveryObjects
        keys)
      (createRecoveryObjects crates s3Client kmsClient settings privateKey'
        publicKey recoveryObjects keys) secrets fun r r' _ => SameReturn r r' := by
  induction keys generalizing secrets recoveryObjects with
  | nil => exact Twins.ret rfl
  | cons key keys ih =>
    refine Twins.bind ((twins_createRecoveryObject hseeds).imp fun r r' secrets' hcreated => ?_)
    obtain ⟨hsame, hseeds'⟩ := hcreated
    rcases hsame.cases with ⟨e, e', rfl, rfl⟩ | ⟨reference, rfl, rfl⟩
    · rfl
    · exact ih (hseeds' rfl)

/-- Initializations whose secrets differ do the same. -/
theorem twins_initializeKeyMaterial :
    Twins (disclosure crates) (IsCheck crates)
      (initializeKeyMaterial crates s3Client kmsClient settings)
      (initializeKeyMaterial crates s3Client kmsClient settings) secrets
      fun r r' _ => SameReturn r r' := by
  refine Twins.bind_self (twins_of_sends uses_sends_loadObject) (fun existing => ?_) fun _ => rfl
  refine Twins.ofExcept_bind (fun _ _ => ?_) fun _ _ => rfl
  refine Twins.op fun privateKey privateKey' halike => ?_
  have hpublicKey : crates.ed25519PublicKey privateKey = crates.ed25519PublicKey privateKey' :=
    Disclosed.publicKey.inj halike
  have hseeds : Secrets.Seeds ((disclosure crates).next secrets
      ⟨.random ed25519PrivateKeyLength, privateKey⟩ ⟨.random ed25519PrivateKeyLength, privateKey'⟩)
      privateKey privateKey' := ⟨rfl, rfl⟩
  dsimp only [ret_bind]
  rw [hpublicKey]
  refine Twins.bind ((twins_createRecoveryObjects hseeds).imp fun r r' secrets' hsame => ?_)
  rcases hsame.cases with ⟨e, e', rfl, rfl⟩ | ⟨references, rfl, rfl⟩
  · rfl
  · -- The public document and the manifest are made from what both executions have in common.
    refine Twins.bind_self (twins_of_sends uses_sends_saveObjectIfAbsent) (fun _ => ?_) fun _ => rfl
    refine Twins.bind_self (twins_of_sends uses_sends_verifyUploadedObject) (fun _ => ?_)
      fun _ => rfl
    refine Twins.bind_self (twins_of_sends uses_sends_saveObjectIfAbsent) (fun _ => ?_) fun _ => rfl
    exact Twins.ret rfl

/-! ## Restoring -/

/-- An attempt sends the same, and comes to the same verdict. -/
theorem twins_attemptRestore {reference : RecoveryObjectReference} :
    Twins (disclosure crates) (IsCheck crates)
      (attemptRestore crates s3Client kmsClient settings publicKey key reference)
      (attemptRestore crates s3Client kmsClient settings publicKey key reference) secrets
      fun r r' secrets' => secrets' = secrets ∧ r.isOk = r'.isOk := by
  refine Twins.bind_self (twins_of_sends uses_sends_loadObject) (fun loaded => ?_)
    fun _ => ⟨rfl, rfl⟩
  refine Twins.ofExcept_bind (fun body _ => ?_) fun _ _ => ⟨rfl, rfl⟩
  refine Twins.ofExcept_bind (fun _ _ => ?_) fun _ _ => ⟨rfl, rfl⟩
  refine Twins.ofExcept_bind (fun package _ => ?_) fun _ _ => ⟨rfl, rfl⟩
  exact twins_restoreFromPackage

/-- The caught results of an attempt are both successes or both failures. -/
theorem twins_caught {attempt : EnclaveProgram Unit}
    (hattempt : Twins (disclosure crates) (IsCheck crates) attempt attempt secrets
      fun r r' secrets' => secrets' = secrets ∧ r.isOk = r'.isOk)
    (hfails : attempt.FailsOnly AppError.IsErr) :
    Twins (disclosure crates) (IsCheck crates) (caught attempt) (caught attempt) secrets
      fun r r' secrets' => secrets' = secrets ∧
        ∃ result result', r = .ok result ∧ r' = .ok result' ∧ result.isOk = result'.isOk := by
  refine Twins.tryCatch (Twins.bind ((hattempt.and_failsOnly hfails hfails).imp ?_))
  rintro r r' secrets' ⟨⟨rfl, hverdict⟩, hfails, hfails'⟩
  rcases cases_of_isOk_eq hverdict with ⟨e, e', rfl, rfl⟩ | ⟨_, _, rfl, rfl⟩
  · -- An attempt does not panic, so both failures are caught.
    cases e with
    | panic message => exact (hfails _ rfl).elim
    | err message =>
      cases e' with
      | panic message' => exact (hfails' _ rfl).elim
      | err message' => exact Twins.ret ⟨rfl, _, _, rfl, rfl, rfl⟩
  · exact Twins.ret ⟨rfl, _, _, rfl, rfl, rfl⟩

/-- The loop tries the same keys, whatever the texts of the failures are. -/
theorem twins_restoreWith {manifest : KeyManifest} {keys : List KmsKeySettings}
    {failures failures' : List String} :
    Twins (disclosure crates) (IsCheck crates)
      (restoreWith crates s3Client kmsClient settings manifest publicKey failures keys)
      (restoreWith crates s3Client kmsClient settings manifest publicKey failures' keys) secrets
      fun r r' _ => SameReturn r r' := by
  induction keys generalizing failures failures' with
  | nil => exact Twins.fail rfl
  | cons key keys ih =>
    unfold restoreWith
    cases manifest.recoveryObjects.find? fun reference => reference.kmsKeyArn = key.keyArn with
    | none => exact ih
    | some reference =>
      refine Twins.bind ((twins_caught twins_attemptRestore failsOnly_attemptRestore).imp ?_)
      rintro r r' secrets' ⟨rfl, result, result', rfl, rfl, hverdict⟩
      -- Only whether the attempt succeeded decides how the loop goes on. Its error text goes into
      -- the failures, which nothing sends.
      rcases cases_of_isOk_eq hverdict with ⟨message, message', rfl, rfl⟩ | ⟨_, _, rfl, rfl⟩
      · exact ih
      · exact Twins.ret rfl

/-- Restores whose secrets differ do the same. -/
theorem twins_restoreKeyMaterial :
    Twins (disclosure crates) (IsCheck crates)
      (restoreKeyMaterial crates s3Client kmsClient settings)
      (restoreKeyMaterial crates s3Client kmsClient settings) secrets
      fun r r' _ => SameReturn r r' := by
  refine Twins.bind_self (twins_of_sends uses_sends_loadObject) (fun loadedManifest => ?_)
    fun _ => rfl
  refine Twins.ofExcept_bind (fun manifestBody _ => ?_) fun _ _ => rfl
  refine Twins.ofExcept_bind (fun manifest _ => ?_) fun _ _ => rfl
  refine Twins.ofExcept_bind (fun _ _ => ?_) fun _ _ => rfl
  refine Twins.bind_self (twins_of_sends uses_sends_loadObject) (fun loadedPublic => ?_)
    fun _ => rfl
  refine Twins.ofExcept_bind (fun publicBody _ => ?_) fun _ _ => rfl
  refine Twins.ofExcept_bind (fun _ _ => ?_) fun _ _ => rfl
  refine Twins.ofExcept_bind (fun publicDocument _ => ?_) fun _ _ => rfl
  refine Twins.ofExcept_bind (fun expectedPublicKey _ => ?_) fun _ _ => rfl
  exact twins_restoreWith

/-! ## The broker learns nothing more -/

/-- Two runs of initialization, or two of restoring, that got the same answers from the broker and
agree in what is published, send the same frames, whatever their private keys and data keys are. -/
theorem broker_learns_only_what_is_disclosed {procedure : EnclaveProgram RestoredKeyPair}
    (hprocedure : procedure = initializeKeyMaterial crates s3Client kmsClient settings ∨
      procedure = restoreKeyMaterial crates s3Client kmsClient settings)
    {tr tr' : List EnclaveEvent} {r r' : AppResult RestoredKeyPair}
    (hyields : procedure.Yields tr r) (hyields' : procedure.Yields tr' r')
    (hrelated : (disclosure crates).Related secrets tr tr')
    (hagree : Agree (IsCheck crates) procedure procedure tr tr') :
    sentFrames tr = sentFrames tr' ∧ ops tr = ops tr' ∧ SameReturn r r' := by
  have htwins : Twins (disclosure crates) (IsCheck crates) procedure procedure secrets
      fun r r' _ => SameReturn r r' := by
    rcases hprocedure with rfl | rfl
    · exact twins_initializeKeyMaterial
    · exact twins_restoreKeyMaterial
  obtain ⟨hops, hsame⟩ := htwins tr tr' r r' hyields hyields' hrelated hagree
  exact ⟨congrArg (List.filterMap _) hops, hops, hsame⟩

/-- The client of a process that is not in an enclave. -/
def localClient : KmsDataKeyClient := .local localEndpoint

/-- The events of generating this data key. -/
def generation (dataKey : Bytes) : List EnclaveEvent :=
  asked localEndpoint (.getAwsCredentials .primary) (credentialsStream storedCredentials) ++
    [⟨.generateDataKey (localKmsClient storedCredentials)
        ⟨primaryKey.keyArn, some .aes256, none, none, [], none⟩,
      .ok ⟨some dataKey, some [1], some primaryKey.keyArn⟩⟩]

/-- KMS generates the data key. -/
theorem yields_generation (dataKey : Bytes) :
    (localClient.generateDataKey reference deployment primaryKey).Yields (generation dataKey)
      (.ok ⟨dataKey, [1], primaryKey.keyArn⟩) := by
  have hslot : Fits (BrokerRequest.getAwsCredentials .primary) := by
    unfold Fits
    decide
  have hstored : Fits (BrokerResponse.awsCredentials storedCredentials) := by
    unfold Fits
    decide +kernel
  refine yields_bind_ok.mpr ⟨_, _, storedCredentials, rfl, ?_, .step (.refl _)⟩
  exact yields_bind_ok.mpr ⟨_, [], _, (List.append_nil _).symm, yields_requestBroker_ok.mpr
    ⟨hslot, _, rfl, receiveResponse_credentialsStream hstored⟩, .refl _⟩

/-- An initialization that got this data key from KMS. -/
def keyedRun (dataKey : Bytes) : List EnclaveEvent :=
  asked localEndpoint (.loadObject deployment.s3Bucket (manifestKey deployment))
    ⟨writtenResponse (.object none), ""⟩ ++ ⟨.random 32, .replicate 32 0⟩ :: generation dataKey

/-- The data key is of no use if it is not 16 or 32 bytes long. -/
theorem yields_keyedRun (dataKey : Bytes) (hlength : dataKey.length = 24) :
    ∃ e, (initializeKeyMaterial reference ⟨localEndpoint⟩ localClient deployment).Yields
      (keyedRun dataKey) (.error e) := by
  have hload : Fits (BrokerRequest.loadObject deployment.s3Bucket (manifestKey deployment)) := by
    unfold Fits
    decide +kernel
  have hnone : Fits (BrokerResponse.object none) := by
    unfold Fits
    decide
  have hreceive : receiveResponse reference ⟨writtenResponse (.object none), ""⟩ =
      .ok (.object none) :=
    receiveResponse_writtenResponse hnone fun _ h => by cases h
  have hcreate : ∀ privateKey publicKey, ∃ e, (createRecoveryObject reference ⟨localEndpoint⟩
      localClient deployment privateKey publicKey primaryKey).Yields (generation dataKey)
      (.error e) := by
    intro privateKey publicKey
    -- A data key of 24 bytes is refused, and the run ends there.
    obtain ⟨message, hrefused⟩ : ∃ message, validateDataKeyLen dataKey = .error message :=
      ⟨_, if_neg (by omega)⟩
    refine ⟨.err message, yields_bind.mpr (.inr ⟨_, [], _, (List.append_nil _).symm,
      yields_generation dataKey, ?_⟩)⟩
    dsimp only
    rw [failIf_of_not _ (not_not.mpr rfl), hrefused]
    exact .refl _
  obtain ⟨e, he⟩ := hcreate (.replicate 32 0) (reference.ed25519PublicKey (.replicate 32 0))
  refine ⟨e, yields_bind.mpr (.inr ⟨_, _, none, rfl,
    yields_loadObject_ok.mpr ⟨hload, _, rfl, hreceive⟩, .step ?_⟩)⟩
  rw [ret_bind]
  refine yields_bind.mpr (.inl ⟨e, ?_, rfl⟩)
  exact yields_bind.mpr (.inl ⟨e, he, rfl⟩)

/-- The public key and the packages of a key pair whose second package is gone. -/
def halfDraft : Draft where
  privateKey := .replicate 32 0
  recoveryObjects :=
    [zeroDeposit.reference reference deployment primaryKey,
      ⟨backupKey.keyArn, objectKey deployment.s3Prefix "missing", ""⟩]

/-- The events of looking for an object. -/
def lookup (name : String) (found : Option Bytes) : List EnclaveEvent :=
  asked localEndpoint (.loadObject deployment.s3Bucket name) ⟨writtenResponse (.object found), ""⟩

/-- The events of decrypting the first data key to this one. -/
def decryption (dataKey : Bytes) : List EnclaveEvent :=
  asked localEndpoint (.getAwsCredentials .primary) (credentialsStream storedCredentials) ++
    [⟨.decrypt (localKmsClient storedCredentials) ⟨[1], primaryKey.keyArn, none, [], none⟩,
      .ok (some dataKey)⟩]

/-- A restore that gets this data key for the first package, and does not find the second. -/
def halfRestore (dataKey : Bytes) : List EnclaveEvent :=
  (lookup (manifestKey deployment) (some (halfDraft.manifestBody reference deployment)) ++
    lookup (halfDraft.publicObjectKey reference deployment)
      (some (halfDraft.publicBody reference))) ++
  ((lookup (zeroDeposit.objectKey reference deployment) (some (zeroDeposit.body reference)) ++
    decryption dataKey) ++ lookup (objectKey deployment.s3Prefix "missing") none)

/-- An object of moderate size is loaded. -/
theorem yields_lookup (relative : String) {body : Bytes} (hlength : relative.toList.length ≤ 150)
    (hbody : body.length ≤ 200000) :
    (BrokerS3Client.loadObject reference ⟨localEndpoint⟩ deployment.s3Bucket
      (objectKey deployment.s3Prefix relative)).Yields
        (lookup (objectKey deployment.s3Prefix relative) (some body)) (.ok (some body)) :=
  yields_loadObject_of_fits_save reference_lawful (fits_shadowed hlength hbody) ⟨localEndpoint⟩ ""

/-- The manifest of the key pair is of moderate size. -/
theorem length_halfDraft_manifestBody :
    (halfDraft.manifestBody reference deployment).length ≤ 200000 := by
  refine length_manifestBody_le rfl ?_ (by decide)
  have hprimary : primaryKey.keyArn.toList.length ≤ 1000 := by decide
  have hbackup : backupKey.keyArn.toList.length ≤ 1000 := by decide
  intro r hr
  rcases List.mem_pair.mp hr with rfl | rfl
  · refine ⟨hprimary, ?_, Nat.le_of_eq (length_sha256Hex _)⟩
    show (objectKey deployment.s3Prefix (zeroDeposit.relativeKey reference)).toList.length ≤ 2000
    have hlength := length_zeroDeposit_relativeKey
    rw [length_objectKey, show deployment.s3Prefix.toList.length = 11 from rfl]
    omega
  · exact ⟨hbackup, by decide, by decide⟩

/-- The restore loads the manifest and the public key. -/
theorem yields_loadPublicKey_halfDraft :
    (loadPublicKey reference ⟨localEndpoint⟩ deployment).Yields
      (lookup (manifestKey deployment) (some (halfDraft.manifestBody reference deployment)) ++
        lookup (halfDraft.publicObjectKey reference deployment)
          (some (halfDraft.publicBody reference)))
      (.ok (halfDraft.manifest reference deployment, halfDraft.publicKey reference)) := by
  have hmanifest := yields_lookup manifestFileName (by decide) length_halfDraft_manifestBody
  have hpublic := yields_lookup (halfDraft.publicKeyName reference)
    (by rw [length_publicKeyName]; decide) (length_publicBody_le halfDraft)
  refine yields_bind_ok.mpr ⟨_, _, _, rfl, hmanifest, ?_⟩
  refine yields_ofExcept_bind_ok.mpr ⟨_, okOr_eq_ok.mpr rfl, ?_⟩
  refine yields_ofExcept_bind_ok.mpr
    ⟨_, (ofText_eq_ok.mpr (reference_lawful.manifestFromSlice _)), ?_⟩
  refine yields_ofExcept_bind_ok.mpr ⟨(), Draft.validateManifest rfl, ?_⟩
  refine yields_bind_ok.mpr ⟨_, [], _, (List.append_nil _).symm, hpublic, ?_⟩
  refine yields_ofExcept_bind_ok.mpr ⟨_, okOr_eq_ok.mpr rfl, ?_⟩
  refine yields_ofExcept_bind_ok.mpr ⟨(), verifySha256_eq_ok.mpr rfl, ?_⟩
  refine yields_ofExcept_bind_ok.mpr
    ⟨_, (ofText_eq_ok.mpr (reference_lawful.publicKeyDocumentFromSlice _)), ?_⟩
  exact yields_ofExcept_bind_ok.mpr
    ⟨_, Draft.validatePublicDocument reference_lawful halfDraft, .refl _⟩

/-- The credentials are asked for, and KMS decrypts the data key. -/
theorem yields_decryption (dataKey : Bytes) :
    (localClient.decryptDataKey reference deployment primaryKey [1]).Yields (decryption dataKey)
      (.ok dataKey) := by
  have hslot : Fits (BrokerRequest.getAwsCredentials .primary) := by
    unfold Fits
    decide
  have hstored : Fits (BrokerResponse.awsCredentials storedCredentials) := by
    unfold Fits
    decide +kernel
  refine yields_bind_ok.mpr ⟨_, _, storedCredentials, rfl, ?_, .step (.refl _)⟩
  exact yields_bind_ok.mpr ⟨_, [], _, (List.append_nil _).symm, yields_requestBroker_ok.mpr
    ⟨hslot, _, rfl, receiveResponse_credentialsStream hstored⟩, .refl _⟩

/-- The package is checked with a data key of 24 bytes, which is refused. -/
theorem yields_restoreFromPackage_short {dataKey : Bytes} (hlength : dataKey.length = 24) :
    ∃ message, (restoreFromPackage reference localClient deployment primaryKey
      (zeroDeposit.package reference) (halfDraft.publicKey reference)).Yields (decryption dataKey)
        (.error (.err message)) := by
  obtain ⟨message, hrefused⟩ : ∃ message, validateDataKeyLen dataKey = .error message :=
    ⟨_, if_neg (by omega)⟩
  obtain ⟨nonce, encryptedPrivateKey, hnonce, hprivate, -⟩ := opens_zeroDeposit.privateKey
  have hkey : decodeBase64 reference "encrypted_data_key_base64" _ = .ok [1] :=
    decodeBase64_eq_ok.mpr opens_zeroDeposit.encryptedDataKey
  have hprivate : decodeBase64 reference "encrypted_private_key_base64" _ =
      .ok encryptedPrivateKey :=
    decodeBase64_eq_ok.mpr hprivate
  have hnonce : decodeFixedBase64 reference aesGcmNonceLength
      "private_key_nonce_base64" _ = .ok nonce :=
    decodeFixedBase64_eq_ok.mpr hnonce
  -- The package is in order, so that it is decrypted. What comes of that is too short or too long.
  unfold restoreFromPackage
  rw [failIf_of_not _ (not_not.mpr opens_zeroDeposit.version), hkey, hprivate, hnonce]
  refine ⟨message, ?_⟩
  change ((localClient.decryptDataKey reference deployment primaryKey [1]).bind _).Yields _ _
  refine yields_bind.mpr (.inr ⟨_, [], _, (List.append_nil _).symm, yields_decryption dataKey, ?_⟩)
  dsimp only
  rw [hrefused]
  exact .refl _

/-- The attempt with the first key gets its package and its data key, and fails with the latter. -/
theorem yields_attemptRestore_primary {dataKey : Bytes} (hlength : dataKey.length = 24) :
    ∃ message, (attemptRestore reference ⟨localEndpoint⟩ localClient deployment
      (halfDraft.publicKey reference) primaryKey
      (zeroDeposit.reference reference deployment primaryKey)).Yields
        (lookup (zeroDeposit.objectKey reference deployment) (some (zeroDeposit.body reference)) ++
          decryption dataKey) (.error (.err message)) := by
  obtain ⟨message, hrefused⟩ := yields_restoreFromPackage_short hlength
  have hpackage := yields_lookup (zeroDeposit.relativeKey reference) length_zeroDeposit_relativeKey
    length_zeroDeposit_body
  have hhash : verifySha256 reference "recovery object" (zeroDeposit.body reference)
      (zeroDeposit.reference reference deployment primaryKey).sha256 = .ok () :=
    verifySha256_eq_ok.mpr rfl
  have hslice : ofText (reference.recoveryPackageFromSlice (zeroDeposit.body reference)) =
      .ok (zeroDeposit.package reference) :=
    ofText_eq_ok.mpr (reference_lawful.recoveryPackageFromSlice _)
  refine ⟨message, yields_bind.mpr (.inr ⟨_, _, _, rfl, hpackage, ?_⟩)⟩
  refine (yields_ofExcept_bind (okOr_eq_ok.mpr rfl)).mpr ?_
  exact (yields_ofExcept_bind hhash).mpr ((yields_ofExcept_bind hslice).mpr hrefused)

/-- The attempt with the second key does not find its package. -/
theorem yields_attemptRestore_backup : ∃ message,
    (attemptRestore reference ⟨localEndpoint⟩ localClient deployment (halfDraft.publicKey reference)
      backupKey ⟨backupKey.keyArn, objectKey deployment.s3Prefix "missing", ""⟩).Yields
        (lookup (objectKey deployment.s3Prefix "missing") none) (.error (.err message)) := by
  have hload : Fits (BrokerRequest.loadObject deployment.s3Bucket
      (objectKey deployment.s3Prefix "missing")) :=
    fits_load_of_fits_save (@fits_shadowed _ [] (by decide) (by decide))
  have hreceive : receiveResponse reference ⟨writtenResponse (.object none), ""⟩ =
      .ok (.object none) :=
    receiveResponse_writtenResponse fits_object_none fun _ h => by cases h
  refine ⟨_, yields_bind.mpr (.inr ⟨_, [], none, (List.append_nil _).symm,
    yields_loadObject_ok.mpr ⟨hload, _, rfl, hreceive⟩, .refl _⟩)⟩

/-- A data key of 24 bytes does not restore the private key. -/
theorem yields_halfRestore (dataKey : Bytes) (hlength : dataKey.length = 24) :
    ∃ e, (restoreKeyMaterial reference ⟨localEndpoint⟩ localClient deployment).Yields
      (halfRestore dataKey) (.error e) := by
  obtain ⟨message, hprimary⟩ := yields_attemptRestore_primary hlength
  obtain ⟨message', hbackup⟩ := yields_attemptRestore_backup
  -- The first key fails with its data key, and then the second, whose package is missing.
  obtain ⟨e, hwith⟩ : ∃ e, (restoreWith reference ⟨localEndpoint⟩ localClient deployment
      (halfDraft.manifest reference deployment) (halfDraft.publicKey reference) []
      deployment.kmsKeys).Yields _ (.error e) :=
    ⟨_, restoreWith_cons.mpr (.inr ⟨_, _, message, rfl, hprimary, restoreWith_cons.mpr
      (.inr ⟨_, [], message', (List.append_nil _).symm, hbackup, .refl _⟩)⟩)⟩
  rw [restoreKeyMaterial_eq]
  exact ⟨e, yields_bind.mpr (.inr ⟨_, _, _, rfl, yields_loadPublicKey_halfDraft, hwith⟩)⟩

/-- KMS has decrypted a data key in this event. -/
def Decrypted (dataKey : Bytes) : EnclaveEvent → Prop
  | ⟨.decrypt _ _, answer⟩ => answer = .ok (some dataKey)
  | ⟨.nkmsDecryptDataKey _ _ _, answer⟩ => answer = .ok dataKey
  | _ => False

/-- A data key is decrypted by KMS. -/
theorem exists_decrypted {encryptedDataKey dataKey : Bytes} {tr : List EnclaveEvent}
    (h : (kmsClient.decryptDataKey crates settings key encryptedDataKey).Yields tr (.ok dataKey)) :
    ∃ e ∈ tr, Decrypted dataKey e := by
  obtain ⟨tr₁, tr₂, credentials, rfl, -, h₁⟩ := yields_bind_ok.mp h
  cases kmsClient with
  | «local» endpoint =>
    obtain ⟨request, -, h₂⟩ := yields_ofExcept_bind_ok.mp h₁
    obtain ⟨answer, tr₃, rfl, h₃⟩ := yields_op.mp h₂
    obtain ⟨output, houtput, h₄⟩ := yields_ofExcept_bind_ok.mp h₃
    obtain ⟨rfl, hdataKey⟩ := yields_ofExcept.mp h₄
    refine ⟨_, List.mem_append_right _ List.mem_cons_self, ?_⟩
    rw [ofText_eq_ok.mp houtput, okOr_eq_ok.mp hdataKey.symm]
    exact rfl
  | nitro client endpoint =>
    obtain ⟨_, -, h₂⟩ := yields_ofExcept_bind_ok.mp h₁
    obtain ⟨native, -, h₃⟩ := yields_ofExcept_bind_ok.mp h₂
    obtain ⟨context, -, h₄⟩ := yields_ofExcept_bind_ok.mp h₃
    obtain ⟨answer, tr₃, rfl, h₅⟩ := yields_op.mp h₄
    refine ⟨_, List.mem_append_right _ List.mem_cons_self, ?_⟩
    cases answer with
    | ok plaintextDataKey =>
      obtain ⟨-, hdataKey⟩ := yields_ret.mp h₅
      rw [Except.ok.inj hdataKey]
      exact rfl
    | error message =>
      obtain ⟨-, hdataKey⟩ := yields_fail.mp h₅
      cases hdataKey

/-- With data keys of 24 bytes no check of a package succeeds, so all of them agree. -/
theorem agree_of_decrypted {procedure : EnclaveProgram α} {tr tr' : List EnclaveEvent}
    (htr : ∀ e ∈ tr, ∀ dataKey, Decrypted dataKey e → dataKey.length = 24)
    (htr' : ∀ e ∈ tr', ∀ dataKey, Decrypted dataKey e → dataKey.length = 24) :
    Agree (IsCheck crates) procedure procedure tr tr' := by
  have hfails : ∀ {call : EnclaveProgram Unit} {tr₁ tr₂ tr₃ tr : List EnclaveEvent}
      {r : AppResult Unit}, IsCheck crates call → tr = tr₁ ++ (tr₂ ++ tr₃) →
      (∀ e ∈ tr, ∀ dataKey, Decrypted dataKey e → dataKey.length = 24) → call.Yields tr₂ r →
      r.isOk = false := by
    rintro call tr₁ tr₂ tr₃ tr r ⟨kmsClient, settings, key, package, publicKey, rfl⟩
      rfl hshort hyields
    cases r with
    | error e => rfl
    -- A package that restores the private key has got a data key of 16 or 32 bytes.
    | ok _ =>
      obtain ⟨encryptedDataKey, dataKey, seed, hopens, hdecrypt⟩ :=
        yields_restoreFromPackage_ok.mp hyields
      obtain ⟨e, he, hdecrypted⟩ := exists_decrypted hdecrypt
      have hlength := hshort e (by simp [he]) dataKey hdecrypted
      have huseful := hopens.dataKeyLength
      omega
  intro call hcall tr₁ tr₂ tr₃ tr₁' tr₂' tr₃' q q' r r' hsplit hsplit' _ _ _ _ _ hyields hyields'
  rw [hfails hcall hsplit htr hyields, hfails hcall hsplit' htr' hyields']

/-- To ask the broker is not to decrypt. -/
theorem not_decrypted_of_mem_asked {endpoint : Endpoint} {request : BrokerRequest}
    {stream : Stream.Reader} {dataKey : Bytes} {event : EnclaveEvent}
    (hevent : event ∈ asked endpoint request stream) : ¬ Decrypted dataKey event := by
  rcases List.mem_pair.mp hevent with rfl | rfl <;> exact id

/-- No data key is decrypted in the initialization. -/
theorem not_decrypted_keyedRun {dataKey decrypted : Bytes} {event : EnclaveEvent}
    (hevent : event ∈ keyedRun dataKey) : ¬ Decrypted decrypted event := by
  simp only [keyedRun, generation, List.mem_append, List.mem_cons, List.not_mem_nil,
    or_false] at hevent
  rcases hevent with hmanifest | rfl | hcredentials | rfl
  · exact not_decrypted_of_mem_asked hmanifest
  · exact id
  · exact not_decrypted_of_mem_asked hcredentials
  · exact id

/-- Only one data key is decrypted in the restore. -/
theorem decrypted_halfRestore {dataKey decrypted : Bytes} {event : EnclaveEvent}
    (hevent : event ∈ halfRestore dataKey) (h : Decrypted decrypted event) :
    decrypted = dataKey := by
  simp only [halfRestore, lookup, decryption, List.mem_append, List.mem_singleton] at hevent
  rcases hevent with (hmanifest | hpublic) | (hpackage | hcredentials | rfl) | hmissing
  · exact absurd h (not_decrypted_of_mem_asked hmanifest)
  · exact absurd h (not_decrypted_of_mem_asked hpublic)
  · exact absurd h (not_decrypted_of_mem_asked hpackage)
  · exact absurd h (not_decrypted_of_mem_asked hcredentials)
  · exact (Option.some.inj (Except.ok.inj h)).symm
  · exact absurd h (not_decrypted_of_mem_asked hmissing)

/-- Two initializations got data keys that are 24 bytes long, and so did two restores for a package
that they loaded. The broker cannot tell which. -/
theorem broker_learns_only_what_is_disclosed_keyedRun :
    sentFrames (keyedRun (.replicate 24 1)) = sentFrames (keyedRun (.replicate 24 2)) ∧
    sentFrames (halfRestore (.replicate 24 1)) = sentFrames (halfRestore (.replicate 24 2)) := by
  constructor
  · obtain ⟨e, hyields⟩ := yields_keyedRun (.replicate 24 1) rfl
    obtain ⟨e', hyields'⟩ := yields_keyedRun (.replicate 24 2) rfl
    have hnone : ∀ dataKey, ∀ event ∈ keyedRun dataKey, ∀ decrypted, Decrypted decrypted event →
        decrypted.length = 24 :=
      fun _ _ hevent _ h => absurd h (not_decrypted_keyedRun hevent)
    have hrelated : (disclosure reference).Related (⟨.replicate 32 0, []⟩, ⟨.replicate 32 0, []⟩)
        (keyedRun (.replicate 24 1)) (keyedRun (.replicate 24 2)) :=
      fun _ => ⟨rfl, fun _ => ⟨rfl, fun _ => ⟨rfl, fun _ => ⟨rfl, fun _ => ⟨rfl, fun _ =>
        ⟨rfl, trivial⟩⟩⟩⟩⟩⟩
    exact (broker_learns_only_what_is_disclosed (.inl rfl) hyields hyields' hrelated
      (agree_of_decrypted (hnone _) (hnone _))).1
  · obtain ⟨e, hyields⟩ := yields_halfRestore (.replicate 24 1) rfl
    obtain ⟨e', hyields'⟩ := yields_halfRestore (.replicate 24 2) rfl
    have honly : ∀ dataKey : Bytes, dataKey.length = 24 → ∀ event ∈ halfRestore dataKey,
        ∀ decrypted, Decrypted decrypted event → decrypted.length = 24 := by
      intro dataKey hlength event hevent decrypted h
      rw [decrypted_halfRestore hevent h]
      exact hlength
    have hrelated : (disclosure reference).Related (⟨.replicate 32 0, []⟩, ⟨.replicate 32 0, []⟩)
        (halfRestore (.replicate 24 1)) (halfRestore (.replicate 24 2)) :=
      fun _ => ⟨rfl, fun _ => ⟨rfl, fun _ => ⟨rfl, fun _ => ⟨rfl, fun _ => ⟨rfl, fun _ => ⟨rfl,
        fun _ => ⟨rfl, fun _ => ⟨rfl, fun _ => ⟨rfl, fun _ => ⟨rfl, fun _ =>
          ⟨rfl, trivial⟩⟩⟩⟩⟩⟩⟩⟩⟩⟩⟩
    exact (broker_learns_only_what_is_disclosed (.inr rfl) hyields hyields' hrelated
      (agree_of_decrypted (honly _ rfl) (honly _ rfl))).1

end AwsKmsDemo
