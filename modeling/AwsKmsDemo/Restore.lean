import AwsKmsDemo.Exchange
import AwsKmsDemo.KeyMaterial

/-!
# What restoring does

The executions of `restore_key_material` and of its parts. A restore that returns has gone through a
chain of checks from the manifest to the private key, which `Accepted` lists.
-/

namespace AwsKmsDemo

open Interaction Interaction.Program Stream

variable {crates : Crates} {kmsClient : KmsDataKeyClient} {s3Client : BrokerS3Client}
  {settings : ParentSettings} {key : KmsKeySettings} {tr : List EnclaveEvent}

/-! ## Small parts -/

/-- A result is not affected by how its error is reported. -/
theorem mapError_eq_ok {ε ε' α : Type} {f : ε → ε'} {x : Except ε α} {a : α} :
    x.mapError f = .ok a ↔ x = .ok a := by
  cases x <;> simp [Except.mapError]

/-- `decode_base64` returns what the decoder returns. -/
theorem decodeBase64_eq_ok {name value : String} {bytes : Bytes} :
    decodeBase64 crates name value = .ok bytes ↔ crates.base64Decode value = .ok bytes :=
  mapError_eq_ok

/-- `fixed_bytes` accepts the bytes of a vector, and nothing else. -/
theorem fixedBytes_eq_ok {n : ℕ} {name : String} {bytes : Bytes} {v : Vector UInt8 n} :
    fixedBytes n name bytes = .ok v ↔ bytes = v.toList := by
  unfold fixedBytes
  split_ifs with h
  · rw [Except.ok.injEq, ← Vector.toList_inj]
    simp
  · constructor
    · intro heq
      cases heq
    · rintro rfl
      exact absurd Vector.length_toList h

/-- `decode_fixed_base64` returns what the decoder returns, if it has the right length. -/
theorem decodeFixedBase64_eq_ok {n : ℕ} {name value : String} {v : Vector UInt8 n} :
    decodeFixedBase64 crates n name value = .ok v ↔ crates.base64Decode value = .ok v.toList := by
  unfold decodeFixedBase64
  cases hdecode : decodeBase64 crates name value with
  | error message =>
    have hne : crates.base64Decode value ≠ .ok v.toList := by
      intro h
      rw [decodeBase64_eq_ok.mpr h] at hdecode
      cases hdecode
    refine iff_of_false (fun h => ?_) hne
    cases h
  | ok bytes =>
    rw [decodeBase64_eq_ok.mp hdecode, Except.ok.injEq]
    exact fixedBytes_eq_ok

/-- `validate_data_key_len` accepts 16 and 32 bytes. -/
theorem validateDataKeyLen_eq_ok {dataKey : Bytes} {u : Unit} :
    validateDataKeyLen dataKey = .ok u ↔ dataKey.length = 16 ∨ dataKey.length = 32 := by
  unfold validateDataKeyLen
  split_ifs with h <;> simp [h]

/-- `verify_sha256` accepts a body with the expected hash. -/
theorem verifySha256_eq_ok {name expected : String} {body : Bytes} {u : Unit} :
    verifySha256 crates name body expected = .ok u ↔ sha256Hex crates body = expected := by
  unfold verifySha256
  dsimp only
  rw [failIf_eq_ok, not_not]

/-- `ok_or` returns the value that is there. -/
theorem okOr_eq_ok {α : Type} {value : Option α} {message : String} {a : α} :
    okOr value message = .ok a ↔ value = some a := by
  cases value <;> simp [okOr]

/-! ## Operations -/

/-- Whether a request asks for a write. -/
def BrokerRequest.IsSave : BrokerRequest → Prop
  | .saveObjectIfAbsent _ _ _ => True
  | _ => False

/-- The third byte of a request's text tells whether it asks for a write. -/
theorem isSave_iff (request : BrokerRequest) : request.IsSave ↔ (toVec request)[2]? = some 83 := by
  cases request with
  | getSettings => exact iff_of_false id (by decide)
  | getAwsCredentials slot =>
    have htag : (toVec (BrokerRequest.getAwsCredentials slot))[2]? = some 71 := rfl
    exact iff_of_false id (by rw [htag]; decide)
  | loadObject bucket key =>
    have htag : (toVec (BrokerRequest.loadObject bucket key))[2]? = some 76 := rfl
    exact iff_of_false id (by rw [htag]; decide)
  | saveObjectIfAbsent bucket key body => exact iff_of_true trivial rfl

/-- Requests with the same frame both ask for a write, or neither does. -/
theorem isSave_iff_of_frameOf_eq {request request' : BrokerRequest}
    (h : frameOf (toVec request) = frameOf (toVec request')) :
    request.IsSave ↔ request'.IsSave := by
  rw [isSave_iff, isSave_iff, frameOf_injective h]

/-- Whether an operation sends a request to write. -/
def EnclaveOp.Saves : EnclaveOp → Prop
  | .exchange _ frame => ∃ request : BrokerRequest, request.IsSave ∧ frame = frameOf (toVec request)
  | _ => False

/-- The operations that change nothing: requests other than to save, and decryption by KMS. -/
def Reads : EnclaveOp → Prop
  | .connect _ => True
  | .exchange _ frame =>
    ∃ request : BrokerRequest,
      Fits request ∧ frame = frameOf (toVec request) ∧ ¬ request.IsSave
  | .decrypt _ _ => True
  | .nkmsDecryptDataKey _ _ _ => True
  | _ => False

/-- To ask for anything but a save is to read. -/
theorem reads_of_asks {endpoint : Endpoint} {request : BrokerRequest} (h : ¬ request.IsSave)
    {o : EnclaveOp} (ho : Asks endpoint request o) : Reads o := by
  rcases ho with rfl | ⟨hfits, rfl⟩
  · trivial
  · exact ⟨request, hfits, rfl, h⟩

/-- To read is not to save. -/
theorem not_saves_of_reads {o : EnclaveOp} (ho : Reads o) : ¬ o.Saves := by
  cases o with
  | exchange endpoint frame =>
    rintro ⟨request, hsave, hframe⟩
    obtain ⟨request', _, hframe', hread⟩ := ho
    rw [hframe] at hframe'
    exact hread ((isSave_iff_of_frameOf_eq hframe').mp hsave)
  | _ => exact id

/-- Loading an object reads. -/
theorem uses_reads_loadObject {bucket key : String} :
    (s3Client.loadObject crates bucket key).Uses Reads :=
  uses_loadObject.mono fun _ => reads_of_asks id

/-- Decrypting a data key reads. -/
theorem uses_reads_decryptDataKey {encryptedDataKey : Bytes} :
    (kmsClient.decryptDataKey crates settings key encryptedDataKey).Uses Reads := by
  refine Uses.bind (uses_requestBrokerCredentials.mono fun _ => reads_of_asks id) ?_
  intro credentials
  cases kmsClient with
  | «local» endpoint =>
    refine uses_ofExcept_bind fun requestSettings _ => ⟨trivial, fun answer => ?_⟩
    exact uses_ofExcept_bind fun _ _ => uses_ofExcept
  | nitro client endpoint =>
    refine uses_ofExcept_bind fun _ _ => uses_ofExcept_bind fun native _ =>
      uses_ofExcept_bind fun context _ => ⟨trivial, fun answer => ?_⟩
    cases answer <;> trivial

/-- Restoring from a package reads. -/
theorem uses_reads_restoreFromPackage {package : RecoveryPackage}
    {expectedPublicKey : Vector UInt8 32} :
    (restoreFromPackage crates kmsClient settings key package expectedPublicKey).Uses Reads := by
  refine uses_ofExcept_bind fun _ _ => uses_ofExcept_bind fun _ _ => uses_ofExcept_bind fun _ _ =>
    uses_ofExcept_bind fun _ _ => uses_reads_decryptDataKey.bind fun _ => ?_
  refine uses_ofExcept_bind fun _ _ => uses_ofExcept_bind fun _ _ =>
    uses_ofExcept_bind fun _ _ => ?_
  exact uses_ofExcept

/-- An attempt to restore reads. -/
theorem uses_reads_attemptRestore {expectedPublicKey : Vector UInt8 32}
    {reference : RecoveryObjectReference} :
    (attemptRestore crates s3Client kmsClient settings expectedPublicKey key reference).Uses Reads
    := by
  refine uses_reads_loadObject.bind fun _ => uses_ofExcept_bind fun _ _ => ?_
  refine uses_ofExcept_bind fun _ _ => uses_ofExcept_bind fun _ _ => ?_
  exact uses_reads_restoreFromPackage

/-- Catching an error does nothing else. -/
theorem uses_caught {allowed : EnclaveOp → Prop} {attempt : EnclaveProgram Unit}
    (h : attempt.Uses allowed) : (caught attempt).Uses allowed := by
  refine Uses.tryCatch (h.bind fun _ => trivial) fun e => ?_
  cases e <;> trivial

/-- Trying the keys one after the other reads. -/
theorem uses_reads_restoreWith {manifest : KeyManifest} {expectedPublicKey : Vector UInt8 32}
    (keys : List KmsKeySettings) (failures : List String) :
    (restoreWith crates s3Client kmsClient settings manifest expectedPublicKey failures keys).Uses
      Reads := by
  induction keys generalizing failures with
  | nil => trivial
  | cons key keys ih =>
    unfold restoreWith
    split
    · exact ih _
    · refine (uses_caught uses_reads_attemptRestore).bind fun result => ?_
      cases result with
      | ok _ => trivial
      | error message => exact ih _

/-- Restoring changes nothing. -/
theorem uses_reads_restoreKeyMaterial :
    (restoreKeyMaterial crates s3Client kmsClient settings).Uses Reads := by
  refine uses_reads_loadObject.bind fun _ => uses_ofExcept_bind fun _ _ => ?_
  refine uses_ofExcept_bind fun manifest _ => uses_ofExcept_bind fun _ _ => ?_
  refine uses_reads_loadObject.bind fun _ => uses_ofExcept_bind fun _ _ => ?_
  refine uses_ofExcept_bind fun _ _ => uses_ofExcept_bind fun _ _ =>
    uses_ofExcept_bind fun _ _ => ?_
  exact uses_reads_restoreWith _ _

/-! ## Opening a package -/

/-- Under a data key, a package opens to the private key `seed` of a public key. -/
structure Opens (crates : Crates) (package : RecoveryPackage) (publicKey : Vector UInt8 32)
    (encryptedDataKey dataKey : Bytes) (seed : Vector UInt8 32) : Prop where
  version : package.version = keyMaterialVersion
  encryptedDataKey : crates.base64Decode package.encryptedDataKeyBase64 = .ok encryptedDataKey
  dataKeyLength : dataKey.length = 16 ∨ dataKey.length = 32
  /-- The encrypted private key decrypts to exactly the seed. -/
  privateKey : ∃ nonce : Vector UInt8 12, ∃ encryptedPrivateKey,
    crates.base64Decode package.privateKeyNonceBase64 = .ok nonce.toList ∧
    crates.base64Decode package.encryptedPrivateKeyBase64 = .ok encryptedPrivateKey ∧
    decryptPrivateKey crates dataKey nonce encryptedPrivateKey = .ok seed.toList
  publicKey : crates.ed25519PublicKey seed = publicKey

/-- A package is restored exactly when the data key that KMS returns for it opens it. -/
theorem yields_restoreFromPackage_ok {package : RecoveryPackage} {publicKey : Vector UInt8 32} :
    (restoreFromPackage crates kmsClient settings key package publicKey).Yields tr (.ok ()) ↔
      ∃ encryptedDataKey dataKey seed,
        Opens crates package publicKey encryptedDataKey dataKey seed ∧
        (kmsClient.decryptDataKey crates settings key encryptedDataKey).Yields tr
          (.ok dataKey) := by
  constructor
  · intro h
    obtain ⟨_, hversion, h₁⟩ := yields_ofExcept_bind_ok.mp h
    obtain ⟨encryptedDataKey, hencrypted, h₂⟩ := yields_ofExcept_bind_ok.mp h₁
    obtain ⟨encryptedPrivateKey, hprivate, h₃⟩ := yields_ofExcept_bind_ok.mp h₂
    obtain ⟨nonce, hnonce, h₄⟩ := yields_ofExcept_bind_ok.mp h₃
    obtain ⟨tr₁, tr₂, dataKey, rfl, hdata, h₅⟩ := yields_bind_ok.mp h₄
    obtain ⟨_, hlength, h₆⟩ := yields_ofExcept_bind_ok.mp h₅
    obtain ⟨decrypted, hdecrypted, h₇⟩ := yields_ofExcept_bind_ok.mp h₆
    obtain ⟨seed, hseed, h₈⟩ := yields_ofExcept_bind_ok.mp h₇
    obtain ⟨rfl, hpublic⟩ := yields_ofExcept.mp h₈
    -- What each check has accepted is one field of `Opens`.
    have hversion := not_not.mp (failIf_eq_ok.mp hversion)
    have hpublic := not_not.mp (failIf_eq_ok.mp hpublic.symm)
    obtain rfl := fixedBytes_eq_ok.mp (ofText_eq_ok.mp hseed)
    refine ⟨encryptedDataKey, dataKey, seed, ⟨hversion, ?_, ?_, ⟨nonce, encryptedPrivateKey, ?_, ?_,
      hdecrypted⟩, hpublic⟩, ?_⟩
    · exact decodeBase64_eq_ok.mp (ofText_eq_ok.mp hencrypted)
    · exact validateDataKeyLen_eq_ok.mp (ofText_eq_ok.mp hlength)
    · exact decodeFixedBase64_eq_ok.mp (ofText_eq_ok.mp hnonce)
    · exact decodeBase64_eq_ok.mp (ofText_eq_ok.mp hprivate)
    · rwa [List.append_nil]
  · rintro ⟨encryptedDataKey, dataKey, seed, hopens, hdata⟩
    obtain ⟨nonce, encryptedPrivateKey, hnonce, hprivate, hdecrypted⟩ := hopens.privateKey
    refine yields_ofExcept_bind_ok.mpr ⟨(), failIf_of_not _ (not_not.mpr hopens.version), ?_⟩
    refine yields_ofExcept_bind_ok.mpr ⟨_, ofText_eq_ok.mpr
      (decodeBase64_eq_ok.mpr hopens.encryptedDataKey), ?_⟩
    refine yields_ofExcept_bind_ok.mpr ⟨_, ofText_eq_ok.mpr (decodeBase64_eq_ok.mpr hprivate), ?_⟩
    refine yields_ofExcept_bind_ok.mpr ⟨_, ofText_eq_ok.mpr
      (decodeFixedBase64_eq_ok.mpr hnonce), ?_⟩
    refine yields_bind_ok.mpr ⟨tr, [], dataKey, (List.append_nil _).symm, hdata, ?_⟩
    refine yields_ofExcept_bind_ok.mpr ⟨(), ofText_eq_ok.mpr
      (validateDataKeyLen_eq_ok.mpr hopens.dataKeyLength), ?_⟩
    refine yields_ofExcept_bind_ok.mpr ⟨_, hdecrypted, ?_⟩
    refine yields_ofExcept_bind_ok.mpr ⟨seed, ofText_eq_ok.mpr (fixedBytes_eq_ok.mpr rfl), ?_⟩
    exact yields_ofExcept.mpr ⟨rfl, (failIf_of_not _ (not_not.mpr hopens.publicKey)).symm⟩

/-! ## Attempts -/

/-- In the events `tr`, an object was loaded with this content. -/
def Loads (crates : Crates) (tr : List EnclaveEvent) (bucket key : String) (body : Bytes) : Prop :=
  ∃ endpoint stream,
    (⟨.exchange endpoint (frameOf (toVec (BrokerRequest.loadObject bucket key))), .ok stream⟩ :
      EnclaveEvent) ∈ tr ∧ receiveResponse crates stream = .ok (.object (some body))

/-- What was loaded on a part of a trace was loaded on the trace. -/
theorem Loads.mono {bucket key : String} {body : Bytes} {tr' : List EnclaveEvent}
    (h : Loads crates tr bucket key body) (hsub : tr ⊆ tr') : Loads crates tr' bucket key body := by
  obtain ⟨endpoint, stream, hmem, hreceive⟩ := h
  exact ⟨endpoint, stream, hsub hmem, hreceive⟩

/-- A load that returns a body has loaded it. -/
theorem loads_of_yields {bucket key : String} {body : Bytes}
    (h : (s3Client.loadObject crates bucket key).Yields tr (.ok (some body))) :
    Loads crates tr bucket key body := by
  obtain ⟨_, stream, rfl, hreceive⟩ := yields_loadObject_ok.mp h
  exact ⟨s3Client.endpoint, stream, List.mem_cons_of_mem _ List.mem_cons_self, hreceive⟩

/-- What an attempt that returned has loaded and opened. -/
theorem yields_attemptRestore_ok {publicKey : Vector UInt8 32} {reference : RecoveryObjectReference}
    (h : (attemptRestore crates s3Client kmsClient settings publicKey key reference).Yields tr
      (.ok ())) :
    ∃ body package tr₁ tr₂, tr = tr₁ ++ tr₂ ∧
      (s3Client.loadObject crates settings.s3Bucket reference.objectKey).Yields tr₁
        (.ok (some body)) ∧
      sha256Hex crates body = reference.sha256 ∧
      crates.recoveryPackageFromSlice body = .ok package ∧
      (restoreFromPackage crates kmsClient settings key package publicKey).Yields tr₂ (.ok ()) := by
  obtain ⟨tr₁, tr₂, loaded, rfl, hload, h₁⟩ := yields_bind_ok.mp h
  obtain ⟨body, hbody, h₂⟩ := yields_ofExcept_bind_ok.mp h₁
  obtain ⟨_, hhash, h₃⟩ := yields_ofExcept_bind_ok.mp h₂
  obtain ⟨package, hpackage, h₄⟩ := yields_ofExcept_bind_ok.mp h₃
  obtain rfl := okOr_eq_ok.mp hbody
  exact ⟨body, package, tr₁, tr₂, rfl, hload, verifySha256_eq_ok.mp hhash, ofText_eq_ok.mp hpackage,
    h₄⟩

/-- What became of an attempt, as a value. -/
theorem yields_caught_ok {attempt : EnclaveProgram Unit} {result : Except String Unit} :
    (caught attempt).Yields tr (.ok result) ↔
      (result = .ok () ∧ attempt.Yields tr (.ok ())) ∨
        ∃ message, result = .error message ∧ attempt.Yields tr (.error (.err message)) := by
  unfold caught
  rw [yields_tryCatch]
  constructor
  · rintro (⟨r, hattempt, heq⟩ | ⟨tr₁, tr₂, e, rfl, hattempt, hcatch⟩)
    · injection heq with heq
      subst heq
      obtain ⟨tr₁, tr₂, _, rfl, hok, hret⟩ := yields_bind_ok.mp hattempt
      obtain ⟨rfl, rfl⟩ := yields_ret_ok.mp hret
      exact .inl ⟨rfl, by rwa [List.append_nil]⟩
    · rcases yields_bind.mp hattempt with ⟨e', herror, heq⟩ | ⟨_, _, _, _, _, hret⟩
      · injection heq with heq
        subst heq
        cases e with
        | err message =>
          obtain ⟨rfl, rfl⟩ := yields_ret_ok.mp hcatch
          exact .inr ⟨message, rfl, by rwa [List.append_nil]⟩
        | panic message => simp at hcatch
      · simp at hret
  · rintro (⟨rfl, hattempt⟩ | ⟨message, rfl, hattempt⟩)
    · refine .inl ⟨.ok (), yields_bind_ok.mpr ⟨tr, [], (), (List.append_nil _).symm, hattempt, ?_⟩,
        rfl⟩
      exact yields_ret_ok.mpr ⟨rfl, rfl⟩
    · refine .inr ⟨tr, [], .err message, (List.append_nil _).symm,
        yields_bind.mpr (.inl ⟨_, hattempt, rfl⟩), ?_⟩
      exact yields_ret_ok.mpr ⟨rfl, rfl⟩

/-- A restore that returns ends with an attempt that returned, with a configured key and the first
reference to it. -/
theorem yields_restoreWith_ok {manifest : KeyManifest} {publicKey : Vector UInt8 32}
    {failures : List String} {keys : List KmsKeySettings} {pair : RestoredKeyPair}
    (h : (restoreWith crates s3Client kmsClient settings manifest publicKey failures keys).Yields tr
      (.ok pair)) :
    ∃ key ∈ keys, ∃ reference,
      manifest.recoveryObjects.find? (fun reference => reference.kmsKeyArn = key.keyArn) =
        some reference ∧
      pair = ⟨publicKey, manifest.keyFingerprint, key.keyArn⟩ ∧
      ∃ tr₁ tr₂, tr = tr₁ ++ tr₂ ∧
        (attemptRestore crates s3Client kmsClient settings publicKey key reference).Yields tr₂
          (.ok ()) := by
  induction keys generalizing failures tr with
  | nil => simp [restoreWith] at h
  | cons key keys ih =>
    unfold restoreWith at h
    split at h
    · obtain ⟨key', hkey', hrest⟩ := ih h
      exact ⟨key', List.mem_cons_of_mem _ hkey', hrest⟩
    · rename_i reference hfind
      obtain ⟨tr₁, tr₂, result, rfl, hcaught, h₁⟩ := yields_bind_ok.mp h
      rcases yields_caught_ok.mp hcaught with ⟨rfl, hattempt⟩ | ⟨message, rfl, _⟩
      · obtain ⟨rfl, rfl⟩ := yields_ret_ok.mp h₁
        exact ⟨key, List.mem_cons_self, reference, hfind, rfl, [], tr₁, by simp, hattempt⟩
      · obtain ⟨key', hkey', reference', hfind', hpair, tr₃, tr₄, rfl, hattempt⟩ := ih h₁
        exact ⟨key', List.mem_cons_of_mem _ hkey', reference', hfind', hpair, tr₁ ++ tr₃, tr₄,
          by simp, hattempt⟩

/-! ## What a restore accepts -/

/-- What a public document that passes the checks against a manifest contains. -/
theorem validatePublicDocument_eq_ok {document : PublicKeyDocument} {manifest : KeyManifest}
    {publicKey : Vector UInt8 32} :
    validatePublicDocument crates document manifest = .ok publicKey ↔
      document.version = keyMaterialVersion ∧ document.algorithm = privateKeyAlgorithm ∧
      crates.base64Decode document.publicKeyBase64 = .ok publicKey.toList ∧
      sha256Hex crates publicKey.toList = document.fingerprintSha256 ∧
      sha256Hex crates publicKey.toList = manifest.keyFingerprint := by
  unfold validatePublicDocument
  rw [failIf_bind_eq_ok, except_bind_eq_ok]
  constructor
  · rintro ⟨hversion, publicKey', hkey, hfingerprint⟩
    rw [not_or, not_not, not_not] at hversion
    obtain ⟨hprints, heq⟩ := failIf_bind_eq_ok.mp hfingerprint
    rw [not_or, not_not, not_not] at hprints
    injection heq with heq
    subst heq
    exact ⟨hversion.1, hversion.2, decodeFixedBase64_eq_ok.mp (ofText_eq_ok.mp hkey), hprints⟩
  · rintro ⟨hversion, halgorithm, hkey, hdocument, hmanifest⟩
    refine ⟨by rw [not_or, not_not, not_not]; exact ⟨hversion, halgorithm⟩, publicKey,
      ofText_eq_ok.mpr (decodeFixedBase64_eq_ok.mpr hkey), failIf_bind_eq_ok.mpr ⟨?_, rfl⟩⟩
    rw [not_or, not_not, not_not]
    exact ⟨hdocument, hmanifest⟩

/-- The content of the object that an answer of the broker delivered, or its absence. -/
def loadedObject (crates : Crates) : EnclaveEvent → Option (Option Bytes)
  | ⟨.exchange _ _, .ok stream⟩ =>
    match receiveResponse crates stream with
    | .ok (.object loaded) => some loaded
    | _ => none
  | _ => none

/-- What the broker delivered, in order. -/
def loadedObjects (crates : Crates) (tr : List EnclaveEvent) : List (Option Bytes) :=
  tr.filterMap (loadedObject crates)

/-- A load that returns has loaded what it returns, once. -/
theorem loadedObjects_of_yields {bucket key : String} {loaded : Option Bytes}
    (h : (s3Client.loadObject crates bucket key).Yields tr (.ok loaded)) :
    loadedObjects crates tr = [loaded] := by
  obtain ⟨_, stream, rfl, hreceive⟩ := yields_loadObject_ok.mp h
  have hexchange : ∀ frame, loadedObject crates ⟨.exchange s3Client.endpoint frame, .ok stream⟩ =
      some loaded := by
    intro frame
    unfold loadedObject
    simp only [hreceive]
  have hconnect : loadedObject crates ⟨.connect s3Client.endpoint, .ok ()⟩ = none := rfl
  unfold loadedObjects asked
  rw [List.filterMap_cons_none hconnect, List.filterMap_cons_some (hexchange _)]
  rfl

/-- The objects that a restore went by. -/
structure Evidence where
  manifestBody : Bytes
  manifest : KeyManifest
  publicBody : Bytes
  document : PublicKeyDocument
  key : KmsKeySettings
  reference : RecoveryObjectReference
  recoveryBody : Bytes
  package : RecoveryPackage
  encryptedDataKey : Bytes
  dataKey : Bytes
  seed : Vector UInt8 32

/-- The restore with the events `tr` returned `pair`, and this is why: every object that it went by
was loaded, each is tied to the one before it, and the last one opened to a private key of the
public key returned. -/
structure Accepted (crates : Crates) (kmsClient : KmsDataKeyClient) (settings : ParentSettings)
    (tr : List EnclaveEvent) (pair : RestoredKeyPair) (e : Evidence) : Prop where
  /-- The manifest and the public document are loaded first. -/
  loaded : (loadedObjects crates tr).take 2 = [some e.manifestBody, some e.publicBody]
  manifestLoaded : Loads crates tr settings.s3Bucket (objectKey settings.s3Prefix manifestFileName)
    e.manifestBody
  manifest : crates.manifestFromSlice e.manifestBody = .ok e.manifest
  manifestValid : validateManifest e.manifest = .ok ()
  publicLoaded : Loads crates tr settings.s3Bucket e.manifest.publicKey.objectKey e.publicBody
  publicHash : sha256Hex crates e.publicBody = e.manifest.publicKey.sha256
  document : crates.publicKeyDocumentFromSlice e.publicBody = .ok e.document
  documentKey : crates.base64Decode e.document.publicKeyBase64 = .ok pair.publicKey.toList
  fingerprint : pair.fingerprint = sha256Hex crates pair.publicKey.toList
  manifestFingerprint : pair.fingerprint = e.manifest.keyFingerprint
  documentFingerprint : pair.fingerprint = e.document.fingerprintSha256
  configured : e.key ∈ settings.kmsKeys
  keyArn : pair.kmsKeyArn = e.key.keyArn
  reference : e.reference ∈ e.manifest.recoveryObjects ∧ e.reference.kmsKeyArn = pair.kmsKeyArn
  recoveryLoaded : Loads crates tr settings.s3Bucket e.reference.objectKey e.recoveryBody
  recoveryHash : sha256Hex crates e.recoveryBody = e.reference.sha256
  package : crates.recoveryPackageFromSlice e.recoveryBody = .ok e.package
  /-- KMS returned the data key. -/
  dataKey : ∃ tr', tr' <:+: tr ∧
    (kmsClient.decryptDataKey crates settings e.key e.encryptedDataKey).Yields tr' (.ok e.dataKey)
  opens : Opens crates e.package pair.publicKey e.encryptedDataKey e.dataKey e.seed

/-- A restore returns only what the evidence supports. -/
theorem exists_accepted {pair : RestoredKeyPair}
    (h : (restoreKeyMaterial crates s3Client kmsClient settings).Yields tr (.ok pair)) :
    ∃ e, Accepted crates kmsClient settings tr pair e := by
  -- The steps of the restore, in the order of the source. Each of them leaves one piece of
  -- evidence.
  obtain ⟨tr₁, tr₂, loadedManifest, rfl, hmanifest, h₁⟩ := yields_bind_ok.mp h
  obtain ⟨manifestBody, hmanifestBody, h₂⟩ := yields_ofExcept_bind_ok.mp h₁
  obtain ⟨manifest, hmanifestSlice, h₃⟩ := yields_ofExcept_bind_ok.mp h₂
  obtain ⟨_, hvalid, h₄⟩ := yields_ofExcept_bind_ok.mp h₃
  obtain ⟨tr₃, tr₄, loadedPublic, rfl, hpublic, h₅⟩ := yields_bind_ok.mp h₄
  obtain ⟨publicBody, hpublicBody, h₆⟩ := yields_ofExcept_bind_ok.mp h₅
  obtain ⟨_, hpublicHash, h₇⟩ := yields_ofExcept_bind_ok.mp h₆
  obtain ⟨document, hdocumentSlice, h₈⟩ := yields_ofExcept_bind_ok.mp h₇
  obtain ⟨publicKey, hdocument, h₉⟩ := yields_ofExcept_bind_ok.mp h₈
  obtain ⟨key, hkey, reference, hfind, rfl, tr₅, tr₆, rfl, hattempt⟩ := yields_restoreWith_ok h₉
  obtain ⟨recoveryBody, package, tr₇, tr₈, rfl, hrecovery, hrecoveryHash, hpackage, hrestore⟩ :=
    yields_attemptRestore_ok hattempt
  obtain ⟨encryptedDataKey, dataKey, seed, hopens, hdata⟩ :=
    yields_restoreFromPackage_ok.mp hrestore
  obtain rfl := okOr_eq_ok.mp hmanifestBody
  obtain rfl := okOr_eq_ok.mp hpublicBody
  obtain ⟨_, _, hdocumentKey, hdocumentPrint, hmanifestPrint⟩ :=
    validatePublicDocument_eq_ok.mp hdocument
  refine ⟨⟨manifestBody, manifest, publicBody, document, key, reference, recoveryBody, package,
    encryptedDataKey, dataKey, seed⟩, ?_⟩
  exact {
    loaded := by
      have h₁ := loadedObjects_of_yields hmanifest
      have h₂ := loadedObjects_of_yields hpublic
      unfold loadedObjects at h₁ h₂ ⊢
      rw [List.filterMap_append, List.filterMap_append, h₁, h₂]
      rfl
    manifestLoaded := (loads_of_yields hmanifest).mono (by simp)
    manifest := ofText_eq_ok.mp hmanifestSlice
    manifestValid := hvalid
    publicLoaded := (loads_of_yields hpublic).mono fun x hx => by simp [hx]
    publicHash := verifySha256_eq_ok.mp hpublicHash
    document := ofText_eq_ok.mp hdocumentSlice
    documentKey := hdocumentKey
    fingerprint := hmanifestPrint.symm
    manifestFingerprint := rfl
    documentFingerprint := hmanifestPrint.symm.trans hdocumentPrint
    configured := hkey
    keyArn := rfl
    reference := by
      have harn := List.find?_some hfind
      exact ⟨List.mem_of_find?_eq_some hfind, by simpa using harn⟩
    recoveryLoaded := (loads_of_yields hrecovery).mono fun x hx => by simp [hx]
    recoveryHash := hrecoveryHash
    package := hpackage
    dataKey := ⟨tr₈, ⟨tr₁ ++ tr₃ ++ tr₅ ++ tr₇, [], by simp⟩, hdata⟩
    opens := hopens }

/-- The public key of an accepted restore is determined by the public document that was loaded. -/
theorem Accepted.publicKey_eq {kmsClient' : KmsDataKeyClient} {settings' : ParentSettings}
    {tr' : List EnclaveEvent} {pair pair' : RestoredKeyPair} {e e' : Evidence}
    (h : Accepted crates kmsClient settings tr pair e)
    (h' : Accepted crates kmsClient' settings' tr' pair' e')
    (heq : (loadedObjects crates tr).take 2 = (loadedObjects crates tr').take 2) :
    pair.publicKey = pair'.publicKey := by
  rw [h.loaded, h'.loaded] at heq
  injection heq with _ heq
  injection heq with heq _
  injection heq with heq
  have hdocument : e.document = e'.document := by
    have := h.document
    rw [heq, h'.document] at this
    exact (Except.ok.inj this).symm
  have hkey := h.documentKey
  rw [hdocument, h'.documentKey] at hkey
  exact Vector.toList_inj.mp (Except.ok.inj hkey).symm

end AwsKmsDemo
