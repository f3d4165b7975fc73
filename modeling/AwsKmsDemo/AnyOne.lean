import AwsKmsDemo.Fallback
import AwsKmsDemo.Interaction.Oracle
import AwsKmsDemo.Sizes

/-!
# The any-one policy

A restore in surroundings that do not change: which of the recovery objects of a manifest are enough
for it. An object that is usable is found only if no entry before it has the same ARN, which
`validate_manifest` does not check.
-/

namespace AwsKmsDemo

open Interaction Interaction.Program Stream

variable {crates : Crates} {s3Client : BrokerS3Client} {kmsClient : KmsDataKeyClient}
  {settings : ParentSettings} {manifest : KeyManifest} {publicKey : Vector UInt8 32}
  {answers : (o : EnclaveOp) → o.Ans}

/-! ## What a restore comes to -/

/-- The outcome of an attempt that may fail, but not panic. -/
theorem eval_caught {attempt : EnclaveProgram Unit} (h : attempt.FailsOnly AppError.IsErr) :
    (attempt.eval answers = .ok () ∧ (caught attempt).eval answers = .ok (.ok ())) ∨
      ∃ message, attempt.eval answers = .error (.err message) ∧
        (caught attempt).eval answers = .ok (.error message) := by
  obtain ⟨tr, htr, _⟩ := exists_yields_eval attempt answers
  unfold caught
  rw [eval_tryCatch, eval_bind]
  cases hattempt : attempt.eval answers with
  | ok _ => exact .inl ⟨rfl, rfl⟩
  | error e =>
    rw [hattempt] at htr
    cases e with
    | err message => exact .inr ⟨message, rfl, rfl⟩
    | panic message => exact (h.of_yields htr).elim

/-- The loop returns exactly when the first entry for one of its keys restores. -/
theorem eval_restoreWith_iff {keys : List KmsKeySettings} {failures : List String} :
    (∃ pair, (restoreWith crates s3Client kmsClient settings manifest publicKey failures keys).eval
      answers = .ok pair) ↔
    ∃ key ∈ keys, ∃ reference,
      manifest.recoveryObjects.find? (fun reference => reference.kmsKeyArn = key.keyArn) =
        some reference ∧
      (attemptRestore crates s3Client kmsClient settings publicKey key reference).eval answers =
        .ok () := by
  induction keys generalizing failures with
  | nil =>
    constructor
    · rintro ⟨pair, h⟩
      cases h
    · rintro ⟨key, hkey, _⟩
      cases hkey
  | cons key keys ih =>
    rw [restoreWith, List.exists_mem_cons_iff]
    cases hfind : manifest.recoveryObjects.find? fun reference =>
      reference.kmsKeyArn = key.keyArn with
    | none =>
      refine (ih).trans (iff_of_eq (Eq.symm ?_))
      simp
    | some reference =>
      simp only [bind_eq]
      rw [eval_bind]
      rcases eval_caught failsOnly_attemptRestore with ⟨hattempt, hcaught⟩ |
        ⟨message, hattempt, hcaught⟩
      · -- The attempt succeeds, and the loop returns.
        rw [hcaught]
        exact iff_of_true ⟨_, rfl⟩ (.inl ⟨reference, rfl, hattempt⟩)
      · rw [hcaught]
        refine ih.trans ⟨.inr, fun h => h.resolve_left ?_⟩
        rintro ⟨reference', hreference, hattempt'⟩
        obtain rfl := Option.some.inj hreference
        rw [hattempt] at hattempt'
        cases hattempt'

/-! ## The policy -/

/-- An entry of the manifest is usable: it names a configured key, and its object is there, is as
recorded, and restores a private key of the public key. -/
def Usable (answers : (o : EnclaveOp) → o.Ans) (crates : Crates) (s3Client : BrokerS3Client)
    (kmsClient : KmsDataKeyClient) (settings : ParentSettings) (publicKey : Vector UInt8 32)
    (reference : RecoveryObjectReference) : Prop :=
  ∃ key ∈ settings.kmsKeys, reference.kmsKeyArn = key.keyArn ∧
    (attemptRestore crates s3Client kmsClient settings publicKey key reference).eval answers =
    .ok ()

/-- No entry before this one has the same ARN. -/
def IsFirst (manifest : KeyManifest) (reference : RecoveryObjectReference) : Prop :=
  ∃ before after, manifest.recoveryObjects = before ++ reference :: after ∧
    ∀ other ∈ before, other.kmsKeyArn ≠ reference.kmsKeyArn

/-- The search for an ARN finds the first entry that has it. -/
theorem find?_eq_some_iff_isFirst {keyArn : String} {reference : RecoveryObjectReference} :
    manifest.recoveryObjects.find?
      (fun reference => reference.kmsKeyArn = keyArn) = some reference ↔
      reference.kmsKeyArn = keyArn ∧ IsFirst manifest reference := by
  rw [List.find?_eq_some_iff_append]
  constructor
  · rintro ⟨harn, before, after, hsplit, hbefore⟩
    have harn' : reference.kmsKeyArn = keyArn := by simpa using harn
    refine ⟨harn', before, after, hsplit, fun other hother => ?_⟩
    rw [harn']
    simpa using hbefore other hother
  · rintro ⟨rfl, before, after, hsplit, hbefore⟩
    exact ⟨by simp, before, after, hsplit, fun other hother => by simpa using hbefore other hother⟩

/-- Once the manifest and the public key are loaded, a restore returns exactly when some usable
entry is the first one with its ARN. -/
theorem eval_restoreKeyMaterial_iff
    (hloaded : (loadPublicKey crates s3Client settings).eval answers = .ok (manifest, publicKey)) :
    (∃ pair, (restoreKeyMaterial crates s3Client kmsClient settings).eval answers = .ok pair) ↔
      ∃ reference, Usable answers crates s3Client kmsClient settings publicKey reference ∧
        IsFirst manifest reference := by
  rw [restoreKeyMaterial_eq, eval_bind_of_ok hloaded, eval_restoreWith_iff]
  constructor
  · rintro ⟨key, hkey, reference, hfind, hattempt⟩
    obtain ⟨harn, hfirst⟩ := find?_eq_some_iff_isFirst.mp hfind
    exact ⟨reference, ⟨key, hkey, harn, hattempt⟩, hfirst⟩
  · rintro ⟨reference, ⟨key, hkey, harn, hattempt⟩, hfirst⟩
    exact ⟨key, hkey, reference, find?_eq_some_iff_isFirst.mpr ⟨harn, hfirst⟩, hattempt⟩

/-! ## An entry behind another one -/

/-- The credentials that a broker hands out. -/
def storedCredentials : AwsCredentials where
  region := "us-east-1"
  accessKeyId := "id"
  secretAccessKey := "secret"
  sessionToken := none
  expiresAtEpochSeconds := none

/-- What a broker that has these objects, and credentials for every slot, responds to a frame. -/
def storedResponse (objects : String → Option Bytes) (frame : Bytes) : BrokerResponse :=
  match reference.requestFromSlice (frame.drop 4) with
  | .ok (.loadObject _ key) => .object (objects key)
  | .ok (.getAwsCredentials _) => .awsCredentials storedCredentials
  | _ => .error "refused"

/-- Surroundings with such a broker, and a KMS that decrypts to one data key. -/
def storedAnswers (objects : String → Option Bytes) (dataKey : Bytes) : (o : EnclaveOp) → o.Ans
  | .loadEnvironment => .error "refused"
  | .connect _ => .ok ()
  | .exchange _ frame => .ok ⟨writtenResponse (storedResponse objects frame), ""⟩
  | .random n => Vector.replicate n 0
  | .generateDataKey _ _ => .error "AccessDeniedException"
  | .decrypt _ _ => .ok (some dataKey)
  | .nkmsGenerateDataKey _ _ _ => .error "AccessDeniedException"
  | .nkmsDecryptDataKey _ _ _ => .ok dataKey
  | .serveEnclaveRpc _ => .ok ()

section Stored

variable {objects : String → Option Bytes} {dataKey : Bytes}

/-- A request is sent, and the response to it comes back. -/
theorem eval_sendRequest {endpoint : Endpoint} {request : BrokerRequest} (hfits : Fits request) :
    (sendRequest endpoint request).eval (storedAnswers objects dataKey) =
      .ok ⟨writtenResponse (storedResponse objects (frameOf (toVec request))), ""⟩ := by
  refine (yields_sendRequest_ok.mpr ⟨hfits, rfl⟩).eval_eq fun e he => ?_
  rcases List.mem_pair.mp he with rfl | rfl <;> rfl

/-- A request is answered with the response to it. -/
theorem eval_requestBroker {endpoint : Endpoint} {request : BrokerRequest}
    {response : BrokerResponse} (hrequest : Fits request) (hresponse : Fits response)
    (hstored : storedResponse objects (frameOf (toVec request)) = response)
    (herror : ∀ message, response ≠ .error message) :
    (requestBroker reference endpoint request).eval (storedAnswers objects dataKey) =
      .ok response := by
  have hreceive : receiveResponse reference ⟨writtenResponse response, ""⟩ = .ok response :=
    receiveResponse_writtenResponse hresponse herror
  rw [← hstored] at hreceive ⊢
  exact (eval_bind_of_ok (eval_sendRequest hrequest)).trans ((eval_ofExcept _).trans hreceive)

/-- The broker answers a request by its kind. -/
theorem storedResponse_frameOf (request : BrokerRequest) :
    storedResponse objects (frameOf (toVec request)) =
      match request with
      | .loadObject _ key => .object (objects key)
      | .getAwsCredentials _ => .awsCredentials storedCredentials
      | _ => .error "refused" := by
  unfold storedResponse frameOf
  rw [List.drop_left' (length_toBeBytes _), reference_lawful.requestFromSlice]
  cases request <;> rfl

/-- Loading returns the object. -/
theorem eval_loadObject {bucket key : String} {found : Option Bytes}
    (hrequest : Fits (BrokerRequest.loadObject bucket key))
    (hresponse : Fits (BrokerResponse.object found)) (hobject : objects key = found) :
    (s3Client.loadObject reference bucket key).eval
      (storedAnswers objects dataKey) = .ok found := by
  have hstored : storedResponse objects _ = .object (objects key) :=
    storedResponse_frameOf (.loadObject bucket key)
  rw [← hobject] at hresponse ⊢
  exact eval_bind_of_ok (eval_requestBroker hrequest hresponse hstored (by simp))

/-- KMS decrypts every encrypted data key for the local client. -/
theorem eval_decryptDataKey {endpoint : Endpoint} {key : KmsKeySettings}
    {encryptedDataKey : Bytes} :
    ((KmsDataKeyClient.local endpoint).decryptDataKey reference deployment key
      encryptedDataKey).eval (storedAnswers objects dataKey) = .ok dataKey := by
  have hstored : storedResponse objects _ = .awsCredentials _ :=
    storedResponse_frameOf (.getAwsCredentials key.slot)
  have hrequest : Fits (BrokerRequest.getAwsCredentials key.slot) := by
    unfold Fits
    cases key.slot <;> decide
  have hresponse : Fits (BrokerResponse.awsCredentials storedCredentials) := by
    unfold Fits
    decide +kernel
  have hcredentials : (requestBroker reference endpoint _).eval
      (storedAnswers objects dataKey) = _ :=
    eval_requestBroker hrequest hresponse hstored (by simp)
  unfold KmsDataKeyClient.decryptDataKey
  exact (eval_bind_of_ok (eval_bind_of_ok hcredentials)).trans rfl

end Stored

/-! ### What is left of a key pair -/

section Survivors

variable {draft : Draft} {d : Deposit}

/-- The manifest, the public document and one package. -/
def survivors (draft : Draft) (d : Deposit) (key : String) : Option Bytes :=
  if key = manifestKey deployment then some (draft.manifestBody reference deployment)
  else if key = draft.publicObjectKey reference deployment then some (draft.publicBody reference)
  else if key = d.objectKey reference deployment then some (d.body reference)
  else none

/-- The manifest is left. -/
theorem survivors_manifest :
    survivors draft d (manifestKey deployment) = some (draft.manifestBody reference deployment) :=
  if_pos rfl

/-- The public document is left. -/
theorem survivors_publicKey : survivors draft d (draft.publicObjectKey reference deployment) =
    some (draft.publicBody reference) := by
  unfold survivors
  rw [if_neg Draft.publicObjectKey_ne_manifestKey, if_pos rfl]

/-- The package is left. -/
theorem survivors_package :
    survivors draft d (d.objectKey reference deployment) = some (d.body reference) := by
  have hne : d.objectKey reference deployment ≠ draft.publicObjectKey reference deployment :=
    objectKey_relativeKey_ne_publicKeyName
  unfold survivors
  rw [if_neg Deposit.objectKey_ne_manifestKey, if_neg hne, if_pos rfl]

end Survivors

/-! ### The deposit of the second entry -/

/-- The package of a private key of zeros, under a data key of zeros. -/
def zeroDeposit : Deposit where
  generated :=
    { plaintextDataKey := List.replicate 32 0
      encryptedDataKey := [1]
      kmsKeyId := primaryKey.keyArn }
  nonce := .replicate 12 0
  encryptedPrivateKey :=
    Crypto.gcmEncrypt (List.replicate 32 0) (List.replicate 12 0) (List.replicate 32 0)
  storageId := "primary"
  displayId := "primary"

/-- A key pair with two entries for the same key. The object of the first one is missing. -/
def shadowedDraft : Draft where
  privateKey := .replicate 32 0
  recoveryObjects :=
    [⟨primaryKey.keyArn, objectKey deployment.s3Prefix "missing", ""⟩,
      zeroDeposit.reference reference deployment primaryKey]

/-- The manifest, the public document and the package of the second entry. -/
def shadowedObjects : String → Option Bytes := survivors shadowedDraft zeroDeposit

/-- The data key opens the package. -/
theorem opens_zeroDeposit : Opens reference (zeroDeposit.package reference)
    (shadowedDraft.publicKey reference) [1] (List.replicate 32 0) shadowedDraft.privateKey where
  version := rfl
  encryptedDataKey := reference_lawful.base64Decode _
  dataKeyLength := .inr rfl
  privateKey := by
    refine ⟨zeroDeposit.nonce, zeroDeposit.encryptedPrivateKey, reference_lawful.base64Decode _,
      reference_lawful.base64Decode _, ?_⟩
    have hencrypt : reference.aesGcmEncrypt .aes256 (List.replicate 32 0) zeroDeposit.nonce
        shadowedDraft.privateKey.toList = .ok zeroDeposit.encryptedPrivateKey := by
      have hnonce : zeroDeposit.nonce.toList = List.replicate 12 0 := Vector.toList_replicate
      have hprivate : shadowedDraft.privateKey.toList = List.replicate 32 0 :=
        Vector.toList_replicate
      rw [hprivate, show reference.aesGcmEncrypt = referenceEncrypt from rfl]
      unfold referenceEncrypt
      rw [if_pos (show (List.replicate 32 (0 : UInt8)).length = AesGcm.aes256.keyLength from rfl),
        hnonce]
      rfl
    exact except_bind_eq_ok.mpr ⟨.aes256, rfl,
      ofText_eq_ok.mpr (reference_lawful.aesGcmDecrypt _ _ _ _ _ hencrypt)⟩
  publicKey := rfl

/-- The package restores the private key. -/
theorem eval_restoreFromPackage_zeroDeposit {endpoint : Endpoint} {key : KmsKeySettings} :
    (restoreFromPackage reference (.local endpoint) deployment key (zeroDeposit.package reference)
      (shadowedDraft.publicKey reference)).eval
      (storedAnswers shadowedObjects (List.replicate 32 0)) = .ok () := by
  obtain ⟨tr, hyields, htr⟩ := exists_yields_eval
    ((KmsDataKeyClient.local endpoint).decryptDataKey reference deployment key [1])
    (storedAnswers shadowedObjects (List.replicate 32 0))
  rw [eval_decryptDataKey] at hyields
  exact (yields_restoreFromPackage_ok.mpr ⟨_, _, _, opens_zeroDeposit, hyields⟩).eval_eq htr

/-! ### What the objects answer -/

/-- A request to save an object of moderate size in the deployment fits a frame. -/
theorem fits_shadowed {relative : String} {body : Bytes} (hlength : relative.toList.length ≤ 150)
    (hbody : body.length ≤ 200000) :
    Fits (BrokerRequest.saveObjectIfAbsent deployment.s3Bucket
      (objectKey deployment.s3Prefix relative) body) := by
  refine fits_save_of_le (by decide) ?_ hbody
  rw [length_objectKey, show deployment.s3Prefix.toList.length = 11 from rfl]
  omega

/-- The name of the package is short. -/
theorem length_zeroDeposit_relativeKey : (zeroDeposit.relativeKey reference).toList.length ≤ 150 :=
  length_relativeKey_le (by decide) (by decide)

/-- The manifest with both entries is of moderate size. -/
theorem length_shadowed_manifestBody :
    (shadowedDraft.manifestBody reference deployment).length ≤ 200000 := by
  refine length_manifestBody_le rfl ?_ (by decide)
  have harn : primaryKey.keyArn.toList.length ≤ 1000 := by decide
  intro r hr
  rcases List.mem_pair.mp hr with rfl | rfl
  · exact ⟨harn, by decide, by decide⟩
  · refine ⟨harn, ?_, Nat.le_of_eq (length_sha256Hex _)⟩
    show (objectKey deployment.s3Prefix (zeroDeposit.relativeKey reference)).toList.length ≤ 2000
    have hlength := length_zeroDeposit_relativeKey
    rw [length_objectKey, show deployment.s3Prefix.toList.length = 11 from rfl]
    omega

/-- The package is of moderate size. -/
theorem length_zeroDeposit_body : (zeroDeposit.body reference).length ≤ 200000 := by
  refine length_body_le (by decide) ?_
  show (Crypto.gcmEncrypt _ _ _).length ≤ 4096
  rw [Crypto.length_gcmEncrypt]
  decide

section Shadowed

variable {dataKey : Bytes}

/-- An object of the three is loaded. -/
theorem eval_loadObject_shadowed {relative : String} {body : Bytes}
    (hlength : relative.toList.length ≤ 150) (hbody : body.length ≤ 200000)
    (hobject : shadowedObjects (objectKey deployment.s3Prefix relative) = some body) :
    (s3Client.loadObject reference deployment.s3Bucket
      (objectKey deployment.s3Prefix relative)).eval (storedAnswers shadowedObjects dataKey) =
        .ok (some body) :=
  eval_loadObject (fits_load_of_fits_save (fits_shadowed hlength hbody))
    (fits_object_of_fits_save (fits_shadowed hlength hbody)) hobject

/-- There is no object of the first entry. -/
theorem shadowedObjects_missing :
    shadowedObjects (objectKey deployment.s3Prefix "missing") = none := by
  unfold shadowedObjects survivors
  rw [if_neg, if_neg, if_neg]
  · refine objectKey_ne 0 ?_
    rw [Deposit.relativeKey_toList]
    show some 'm' ≠ some 'k'
    decide
  · refine objectKey_ne 0 ?_
    rw [Draft.publicKeyName_toList]
    show some 'm' ≠ some 'p'
    decide
  · exact objectKey_ne 0 (by decide)

/-- The manifest and the public key are loaded. -/
theorem eval_loadPublicKey_shadowed : (loadPublicKey reference s3Client deployment).eval
    (storedAnswers shadowedObjects dataKey) =
      .ok (shadowedDraft.manifest reference deployment, shadowedDraft.publicKey reference) := by
  have hmanifest : (s3Client.loadObject reference deployment.s3Bucket (manifestKey deployment)).eval
      (storedAnswers shadowedObjects dataKey) = _ :=
    eval_loadObject_shadowed (by decide) length_shadowed_manifestBody survivors_manifest
  have hpublic : (s3Client.loadObject reference deployment.s3Bucket
      (shadowedDraft.publicObjectKey reference deployment)).eval
        (storedAnswers shadowedObjects dataKey) = _ :=
    eval_loadObject_shadowed (by rw [length_publicKeyName]; decide) (length_publicBody_le _)
      survivors_publicKey
  have hok : ∀ {α : Type} {x : AppResult α} {a : α}, x = .ok a →
      (Program.ofExcept x : EnclaveProgram α).eval
        (storedAnswers shadowedObjects dataKey) = .ok a :=
    fun hx => (eval_ofExcept _).trans hx
  refine (eval_bind_of_ok hmanifest).trans ((eval_bind_of_ok (hok rfl)).trans ?_)
  refine (eval_bind_of_ok (hok (ofText_eq_ok.mpr (reference_lawful.manifestFromSlice _)))).trans ?_
  refine (eval_bind_of_ok (hok (Draft.validateManifest rfl))).trans ?_
  refine (eval_bind_of_ok hpublic).trans ((eval_bind_of_ok (hok rfl)).trans ?_)
  refine (eval_bind_of_ok (hok (verifySha256_eq_ok (u := ()).mpr rfl))).trans ?_
  refine (eval_bind_of_ok (hok (ofText_eq_ok.mpr
    (reference_lawful.publicKeyDocumentFromSlice _)))).trans ?_
  exact eval_bind_of_ok (hok (Draft.validatePublicDocument reference_lawful _))

/-- The attempt with the second entry succeeds. -/
theorem eval_attemptRestore_second {endpoint : Endpoint} {key : KmsKeySettings} :
    (attemptRestore reference s3Client (.local endpoint) deployment
      (shadowedDraft.publicKey reference) key
        (zeroDeposit.reference reference deployment primaryKey)).eval
      (storedAnswers shadowedObjects (List.replicate 32 0)) = .ok () := by
  have hobject : (s3Client.loadObject reference deployment.s3Bucket
      (zeroDeposit.objectKey reference deployment)).eval
        (storedAnswers shadowedObjects (List.replicate 32 0)) = _ :=
    eval_loadObject_shadowed length_zeroDeposit_relativeKey length_zeroDeposit_body
      survivors_package
  have hok : ∀ {α : Type} {x : AppResult α} {a : α}, x = .ok a →
      (Program.ofExcept x : EnclaveProgram α).eval
        (storedAnswers shadowedObjects (List.replicate 32 0)) = .ok a :=
    fun hx => (eval_ofExcept _).trans hx
  refine (eval_bind_of_ok hobject).trans ((eval_bind_of_ok (hok rfl)).trans ?_)
  refine (eval_bind_of_ok (hok (verifySha256_eq_ok (u := ()).mpr rfl))).trans ?_
  refine (eval_bind_of_ok (hok (ofText_eq_ok.mpr
    (reference_lawful.recoveryPackageFromSlice _)))).trans ?_
  exact eval_restoreFromPackage_zeroDeposit

/-- The attempt with the first entry fails. -/
theorem not_eval_attemptRestore_first {kmsClient : KmsDataKeyClient} {key : KmsKeySettings} :
    (attemptRestore reference s3Client kmsClient deployment (shadowedDraft.publicKey reference) key
      ⟨primaryKey.keyArn, objectKey deployment.s3Prefix "missing", ""⟩).eval
      (storedAnswers shadowedObjects dataKey) ≠ .ok () := by
  have hobject : (s3Client.loadObject reference deployment.s3Bucket
      (objectKey deployment.s3Prefix "missing")).eval (storedAnswers shadowedObjects dataKey) = _ :=
    eval_loadObject (fits_load_of_fits_save (@fits_shadowed _ [] (by decide) (by decide)))
      fits_object_none shadowedObjects_missing
  unfold attemptRestore
  rw [bind_eq, eval_bind_of_ok hobject]
  intro h
  cases h

end Shadowed

/-! ## The policy for every manifest -/

/-- For a manifest that passes the validator, and with a public document that does, one usable entry
is enough exactly when, if there is one, some usable entry is the first one with its ARN. -/
theorem any_one_suffices_iff
    (hloaded : (loadPublicKey crates s3Client settings).eval answers = .ok (manifest, publicKey)) :
    ((∃ reference ∈ manifest.recoveryObjects,
        Usable answers crates s3Client kmsClient settings publicKey reference) →
      ∃ pair, (restoreKeyMaterial crates s3Client kmsClient settings).eval answers = .ok pair) ↔
    ((∃ reference ∈ manifest.recoveryObjects,
        Usable answers crates s3Client kmsClient settings publicKey reference) →
      ∃ reference, Usable answers crates s3Client kmsClient settings publicKey reference ∧
        IsFirst manifest reference) :=
  imp_congr_right fun _ => eval_restoreKeyMaterial_iff hloaded

/-- For a manifest whose second entry is usable, and whose first is not. -/
theorem any_one_suffices_iff_shadowed :
    ((∃ r ∈ (shadowedDraft.manifest reference deployment).recoveryObjects,
        Usable (storedAnswers shadowedObjects (List.replicate 32 0)) reference
          ⟨.tcp "127.0.0.1:7001"⟩ (.local (.tcp "127.0.0.1:7001")) deployment
            (shadowedDraft.publicKey reference) r) →
      ∃ pair, (restoreKeyMaterial reference ⟨.tcp "127.0.0.1:7001"⟩
        (.local (.tcp "127.0.0.1:7001")) deployment).eval
          (storedAnswers shadowedObjects (List.replicate 32 0)) = .ok pair) ↔
    ((∃ r ∈ (shadowedDraft.manifest reference deployment).recoveryObjects,
        Usable (storedAnswers shadowedObjects (List.replicate 32 0)) reference
          ⟨.tcp "127.0.0.1:7001"⟩ (.local (.tcp "127.0.0.1:7001")) deployment
            (shadowedDraft.publicKey reference) r) →
      ∃ r, Usable (storedAnswers shadowedObjects (List.replicate 32 0)) reference
          ⟨.tcp "127.0.0.1:7001"⟩ (.local (.tcp "127.0.0.1:7001")) deployment
            (shadowedDraft.publicKey reference) r ∧
        IsFirst (shadowedDraft.manifest reference deployment) r) :=
  any_one_suffices_iff eval_loadPublicKey_shadowed

/-- A manifest with two entries for the primary key, the second of which is usable: it is accepted,
and yet the restore fails, because only the first entry is tried. -/
theorem any_one_does_not_suffice :
    validateKmsConfiguration deployment = .ok () ∧
    validateManifest (shadowedDraft.manifest reference deployment) = .ok () ∧
    (loadPublicKey reference ⟨.tcp "127.0.0.1:7001"⟩ deployment).eval
      (storedAnswers shadowedObjects (List.replicate 32 0)) =
        .ok (shadowedDraft.manifest reference deployment, shadowedDraft.publicKey reference) ∧
    (∃ r ∈ (shadowedDraft.manifest reference deployment).recoveryObjects,
      Usable (storedAnswers shadowedObjects (List.replicate 32 0)) reference ⟨.tcp "127.0.0.1:7001"⟩
        (.local (.tcp "127.0.0.1:7001")) deployment (shadowedDraft.publicKey reference) r) ∧
    ¬ ∃ pair, (restoreKeyMaterial reference ⟨.tcp "127.0.0.1:7001"⟩ (.local (.tcp "127.0.0.1:7001"))
      deployment).eval (storedAnswers shadowedObjects (List.replicate 32 0)) = .ok pair := by
  refine ⟨by decide, Draft.validateManifest rfl, eval_loadPublicKey_shadowed,
    ⟨_, ?_, primaryKey, ?_, rfl, eval_attemptRestore_second⟩, ?_⟩
  · exact List.mem_cons_of_mem _ List.mem_cons_self
  · exact List.mem_cons_self
  · rw [eval_restoreKeyMaterial_iff eval_loadPublicKey_shadowed]
    rintro ⟨r, ⟨key, _, harn, hattempt⟩, hfirst⟩
    have hfind := find?_eq_some_iff_isFirst.mpr ⟨rfl, hfirst⟩
    have hmem := List.mem_of_find?_eq_some hfind
    -- Both entries name the primary key, so the first of them is the only one that is ever tried.
    have hprimary : r.kmsKeyArn = primaryKey.keyArn := by
      rcases List.mem_pair.mp hmem with rfl | rfl <;> rfl
    rw [hprimary] at hfind
    obtain rfl := Option.some.inj (hfind.symm.trans (List.find?_cons_of_pos (by simp)))
    exact not_eval_attemptRestore_first hattempt

end AwsKmsDemo
