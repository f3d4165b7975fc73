import AwsKmsDemo.Delivery
import AwsKmsDemo.Initialize

/-!
# Restoring what was initialized

Any one of the two recovery packages of an initialization is enough to restore the key pair,
whatever has become of the other one. The world in which a restore takes place is known through the
calls of the restore: those for the surviving objects and for the surviving data key return what
they should, and every other call returns anything.
-/

namespace AwsKmsDemo

open Interaction Interaction.Program Stream

variable {crates : Crates} {kmsClient : KmsDataKeyClient} {s3Client : BrokerS3Client}
  {settings : ParentSettings} {key : KmsKeySettings} {tr : List EnclaveEvent}

/-! ## An attempt does not panic -/

/-- `ok_or` does not panic. -/
theorem noPanic_okOr {α : Type} {value : Option α} {message : String} :
    NoPanic (okOr value message) := by
  cases value
  · exact noPanic_err
  · exact noPanic_ok

/-- `c_string` does not panic. -/
theorem noPanic_cString {name value : String} : NoPanic (cString name value) := by
  unfold cString
  split_ifs
  · exact noPanic_err
  · exact noPanic_ok

/-- Preparing the native client does not panic. -/
theorem noPanic_native {client : NitroKmsClient} {credentials : AwsCredentials} :
    NoPanic (client.native credentials) :=
  noPanic_cString.bind fun _ => noPanic_cString.bind fun _ => noPanic_cString.bind fun _ =>
    noPanic_cString.bind fun _ => noPanic_ok

/-- Preparing an encryption context does not panic. -/
theorem noPanic_contextJson {contextJson : Option String} {name : String} :
    NoPanic (contextJson.mapM (cString name)) := by
  cases contextJson with
  | none => exact noPanic_ok
  | some context => exact noPanic_cString.bind fun _ => noPanic_ok

/-- Decrypting a private key does not panic. -/
theorem noPanic_decryptPrivateKey {dataKey encryptedPrivateKey : Bytes} {nonce : Vector UInt8 12} :
    NoPanic (decryptPrivateKey crates dataKey nonce encryptedPrivateKey) := by
  refine NoPanic.bind ?_ fun _ => noPanic_ofText
  unfold dataKeyCipher
  split
  · exact noPanic_ok
  · exact noPanic_ok
  · exact noPanic_err

/-- Writing a frame does not panic. -/
theorem noPanic_written {α : Type} [Serialize α] {value : α} :
    NoPanic (written (writeJsonFrame value)) := by
  unfold written
  by_cases hfits : (toVec value).length ≤ maxJsonFrameLength
  · rw [writeJsonFrame_of_le [] hfits]
    exact noPanic_ok
  · obtain ⟨message, hwrite⟩ := writeJsonFrame_of_lt value [] (Nat.not_le.mp hfits)
    rw [hwrite]
    exact noPanic_err

/-- Reading a response does not panic. -/
theorem noPanic_receiveResponse {stream : Reader} : NoPanic (receiveResponse crates stream) := by
  refine NoPanic.bind (fun e he => ?_) fun response => ?_
  · obtain ⟨message, rfl⟩ := readJsonFrame_error _ he
    trivial
  · cases response with
    | error message => exact noPanic_err
    | _ => exact noPanic_ok

/-- A request to the broker fails with errors only, and does not panic. -/
theorem failsOnly_requestBroker {endpoint : Endpoint} {request : BrokerRequest} :
    (requestBroker crates endpoint request).FailsOnly AppError.IsErr := by
  refine FailsOnly.bind ?_ fun stream => noPanic_receiveResponse.failsOnly
  refine FailsOnly.bind (fun _ => trivial) fun connected =>
    FailsOnly.bind noPanic_ofText.failsOnly fun _ => FailsOnly.bind noPanic_written.failsOnly ?_
  exact fun frame => FailsOnly.bind (fun _ => trivial) fun _ => noPanic_ofText.failsOnly

/-- Loading an object fails with errors only, and does not panic. -/
theorem failsOnly_loadObject {bucket name : String} :
    (s3Client.loadObject crates bucket name).FailsOnly AppError.IsErr := by
  refine FailsOnly.bind failsOnly_requestBroker fun response => ?_
  cases response <;> trivial

/-- Decrypting a data key fails with errors only, and does not panic. -/
theorem failsOnly_decryptDataKey {encryptedDataKey : Bytes} :
    (kmsClient.decryptDataKey crates settings key encryptedDataKey).FailsOnly AppError.IsErr := by
  refine FailsOnly.bind (FailsOnly.bind failsOnly_requestBroker fun response => ?_) ?_
  · cases response <;> trivial
  · intro credentials
    cases kmsClient with
    | «local» endpoint =>
      refine FailsOnly.bind noPanic_ofText.failsOnly fun request =>
        FailsOnly.bind (fun _ => trivial) fun _ => ?_
      exact FailsOnly.bind noPanic_ofText.failsOnly fun _ => noPanic_okOr.failsOnly
    | nitro client endpoint =>
      have hoptions : NoPanic (validateCommonOptions settings) :=
        noPanic_failIf.bind fun _ => noPanic_failIf
      refine FailsOnly.bind hoptions.failsOnly fun _ => FailsOnly.bind noPanic_native.failsOnly
        fun native => FailsOnly.bind noPanic_contextJson.failsOnly fun context =>
          FailsOnly.bind (fun _ => trivial) fun answer => ?_
      cases answer with
      | ok plaintext => trivial
      | error message =>
        show (nativeError message).IsErr
        unfold nativeError
        split_ifs <;> trivial

/-- An attempt to restore does not panic, whatever it meets. -/
theorem failsOnly_attemptRestore {publicKey : Vector UInt8 32}
    {reference : RecoveryObjectReference} :
    (attemptRestore crates s3Client kmsClient settings publicKey key reference).FailsOnly
      AppError.IsErr := by
  refine FailsOnly.bind failsOnly_loadObject fun loaded => FailsOnly.bind noPanic_okOr.failsOnly
    fun body => FailsOnly.bind noPanic_failIf.failsOnly fun _ =>
      FailsOnly.bind noPanic_ofText.failsOnly fun package => ?_
  refine FailsOnly.bind noPanic_failIf.failsOnly fun _ => FailsOnly.bind noPanic_ofText.failsOnly
    fun _ => FailsOnly.bind noPanic_ofText.failsOnly fun _ =>
      FailsOnly.bind noPanic_ofText.failsOnly fun nonce => ?_
  refine FailsOnly.bind failsOnly_decryptDataKey fun dataKey =>
    FailsOnly.bind noPanic_ofText.failsOnly fun _ =>
      FailsOnly.bind noPanic_decryptPrivateKey.failsOnly fun _ => ?_
  exact FailsOnly.bind noPanic_ofText.failsOnly fun _ => noPanic_failIf.failsOnly

/-! ## The later world -/

/-- An answer of the broker that delivers an object with this content. -/
def Delivers (body : Bytes) (answer : AppResult Reader) : Prop :=
  ∃ stream, answer = .ok stream ∧ stream.bytes = writtenResponse (.object (some body))

/-- The execution `tr` of `main` comes to its end with `r`, and while it lasts, these objects are
loaded as they are, and KMS decrypts a data key of the given key. Nothing is said about any other
call. -/
structure Reaches {α : Type} (crates : Crates) (s3Client : BrokerS3Client)
    (kmsClient : KmsDataKeyClient) (settings : ParentSettings) (key : KmsKeySettings)
    (objects : List (String × Bytes)) (generated : GeneratedDataKey) (main : EnclaveProgram α)
    (tr : List EnclaveEvent) (r : AppResult α) : Prop where
  yields : main.Yields tr r
  objects : ∀ name body, (name, body) ∈ objects → main.Returns tr
    (sendRequest s3Client.endpoint (.loadObject settings.s3Bucket name)) (Delivers body)
  dataKey : main.Returns tr
    (kmsClient.decryptDataKey crates settings key generated.encryptedDataKey)
    fun result => result = .ok generated.plaintextDataKey

section Reaches

variable {objects : List (String × Bytes)} {generated : GeneratedDataKey} {α β : Type}
  {tr' : List EnclaveEvent}

/-- The first part of a sequence. -/
theorem Reaches.left {q : EnclaveProgram α} {f : α → EnclaveProgram β} {r : AppResult β}
    {r' : AppResult α}
    (h : Reaches crates s3Client kmsClient settings key objects generated (q.bind f) (tr ++ tr') r)
    (hq : q.Yields tr r') :
    Reaches crates s3Client kmsClient settings key objects generated q tr r' :=
  ⟨hq, fun name body hmem => (h.objects name body hmem).left, h.dataKey.left⟩

/-- What comes after the first part of a sequence. -/
theorem Reaches.right {q : EnclaveProgram α} {f : α → EnclaveProgram β} {r : AppResult β} {a : α}
    (h : Reaches crates s3Client kmsClient settings key objects generated (q.bind f) (tr ++ tr') r)
    (hq : q.Yields tr (.ok a)) (hf : (f a).Yields tr' r) :
    Reaches crates s3Client kmsClient settings key objects generated (f a) tr' r :=
  ⟨hf, fun name body hmem => (h.objects name body hmem).right hq, h.dataKey.right hq⟩

/-- An attempt whose failure is caught. -/
theorem Reaches.of_caught {attempt : EnclaveProgram Unit} {r : AppResult (Except String Unit)}
    {r' : AppResult Unit}
    (h : Reaches crates s3Client kmsClient settings key objects generated (caught attempt) tr r)
    (hattempt : attempt.Yields tr r') :
    Reaches crates s3Client kmsClient settings key objects generated attempt tr r' := by
  obtain ⟨_, hobjects, hdata⟩ := h
  rw [← List.append_nil tr, ← List.append_nil tr] at hobjects hdata
  exact ⟨hattempt, fun name body hmem => (hobjects name body hmem).body.left, hdata.body.left⟩

/-- A first part that can only return `a` is followed by what comes after `a`. -/
theorem Reaches.bind {q : EnclaveProgram α} {f : α → EnclaveProgram β} {r : AppResult β} {a : α}
    (h : Reaches crates s3Client kmsClient settings key objects generated (q.bind f) tr r)
    (hq : ∀ tr₁ r₁, Reaches crates s3Client kmsClient settings key objects generated q tr₁ r₁ →
      r₁ = .ok a) :
    ∃ tr₂, Reaches crates s3Client kmsClient settings key objects generated (f a) tr₂ r := by
  rcases yields_bind.mp h.yields with ⟨e, herror, rfl⟩ | ⟨tr₁, tr₂, b, rfl, hb, hrest⟩
  · rw [← List.append_nil tr] at h
    have hcontra := hq tr _ (h.left herror)
    cases hcontra
  · have hba := hq tr₁ _ (h.left hb)
    injection hba with hba
    subst hba
    exact ⟨tr₂, h.right hb hrest⟩

/-- A computed result that is `a` is followed by what comes after `a`. -/
theorem Reaches.ofExcept_bind {x : AppResult α} {f : α → EnclaveProgram β} {r : AppResult β} {a : α}
    (h : Reaches crates s3Client kmsClient settings key objects generated
      ((Program.ofExcept x).bind f) tr r) (hx : x = .ok a) :
    Reaches crates s3Client kmsClient settings key objects generated (f a) tr r := by
  rw [hx] at h
  exact h

/-- An object that is delivered is loaded. -/
theorem Reaches.loadObject (hlaw : crates.Lawful) {name : String} {body : Bytes}
    {r : AppResult (Option Bytes)} (hmem : (name, body) ∈ objects)
    (hfits : Fits (BrokerResponse.object (some body)))
    (h : Reaches crates s3Client kmsClient settings key objects generated
      (s3Client.loadObject crates settings.s3Bucket name) tr r) :
    r = .ok (some body) := by
  rw [loadObject_eq] at h
  have hobject := h.objects name body hmem
  rcases yields_bind.mp h.yields with ⟨e, herror, rfl⟩ | ⟨tr₁, tr₂, stream, rfl, hsend, hrest⟩
  · rw [← List.append_nil tr] at hobject
    obtain ⟨_, hcontra, _⟩ := hobject.left.self herror
    cases hcontra
  · obtain ⟨_, heq, hbytes⟩ := hobject.left.self hsend
    injection heq with heq
    subst heq
    have hreceive : receiveResponse crates stream = .ok (.object (some body)) :=
      receiveResponse_of_written hlaw hfits hbytes fun _ => BrokerResponse.noConfusion
    rw [receiveObject_of hreceive] at hrest
    exact (yields_ret.mp hrest).2

end Reaches

/-! ## Restoring from one slot -/

/-- A package is restored by the data key that opens it. -/
theorem restoreFromPackage_of_opens {package : RecoveryPackage} {publicKey : Vector UInt8 32}
    {encryptedDataKey dataKey : Bytes} {seed : Vector UInt8 32}
    (h : Opens crates package publicKey encryptedDataKey dataKey seed) :
    ∃ f : Bytes → EnclaveProgram Unit, f dataKey = .ret () ∧
      restoreFromPackage crates kmsClient settings key package publicKey =
        (kmsClient.decryptDataKey crates settings key encryptedDataKey).bind f := by
  obtain ⟨nonce, encryptedPrivateKey, hnonce, hprivate, hdecrypted⟩ := h.privateKey
  have hkey : decodeBase64 crates "encrypted_data_key_base64" package.encryptedDataKeyBase64 =
      .ok encryptedDataKey := decodeBase64_eq_ok.mpr h.encryptedDataKey
  have hprivate : decodeBase64 crates "encrypted_private_key_base64"
      package.encryptedPrivateKeyBase64 = .ok encryptedPrivateKey := decodeBase64_eq_ok.mpr hprivate
  have hnonce : decodeFixedBase64 crates aesGcmNonceLength "private_key_nonce_base64"
      package.privateKeyNonceBase64 = .ok nonce := decodeFixedBase64_eq_ok.mpr hnonce
  unfold restoreFromPackage
  rw [failIf_of_not _ (not_not.mpr h.version), hkey, hprivate, hnonce]
  refine ⟨_, ?_, rfl⟩
  have hlength : validateDataKeyLen dataKey = .ok () := validateDataKeyLen_eq_ok.mpr h.dataKeyLength
  have hseed : fixedBytes ed25519PrivateKeyLength "private key" seed.toList = .ok seed :=
    fixedBytes_eq_ok.mpr rfl
  dsimp only
  rw [hlength, hdecrypted]
  show Program.bind (Program.ofExcept (ofText (fixedBytes _ _ _))) _ = _
  rw [hseed]
  show Program.ofExcept (failIf _ _) = _
  rw [failIf_of_not _ (not_not.mpr h.publicKey)]
  rfl

/-- What a surviving slot is restored from: the body of its package is delivered, is the one that
the reference names, and opens to a private key of the public key. -/
structure Intact (crates : Crates) (objects : List (String × Bytes)) (generated : GeneratedDataKey)
    (publicKey : Vector UInt8 32) (reference : RecoveryObjectReference) (body : Bytes)
    (package : RecoveryPackage) : Prop where
  delivered : (reference.objectKey, body) ∈ objects
  fits : Fits (BrokerResponse.object (some body))
  hash : sha256Hex crates body = reference.sha256
  slice : crates.recoveryPackageFromSlice body = .ok package
  opens : ∃ seed,
    Opens crates package publicKey generated.encryptedDataKey generated.plaintextDataKey seed

variable {objects : List (String × Bytes)} {generated : GeneratedDataKey}
  {publicKey : Vector UInt8 32} {reference : RecoveryObjectReference} {body : Bytes}
  {package : RecoveryPackage}

/-- An attempt for the slot that survives returns. -/
theorem Reaches.attemptRestore (hlaw : crates.Lawful)
    (hintact : Intact crates objects generated publicKey reference body package)
    {r : AppResult Unit} (h : Reaches crates s3Client kmsClient settings key objects generated
      (attemptRestore crates s3Client kmsClient settings publicKey key reference) tr r) :
    r = .ok () := by
  obtain ⟨tr₁, h₁⟩ := h.bind fun _ _ => Reaches.loadObject hlaw hintact.delivered hintact.fits
  have h₂ := h₁.ofExcept_bind (okOr_eq_ok.mpr rfl)
  have h₃ := h₂.ofExcept_bind (a := ()) (verifySha256_eq_ok.mpr hintact.hash)
  have h₄ := h₃.ofExcept_bind (ofText_eq_ok.mpr hintact.slice)
  obtain ⟨seed, hopens⟩ := hintact.opens
  obtain ⟨f, hf, hrestore⟩ := restoreFromPackage_of_opens hopens
  rw [hrestore] at h₄
  obtain ⟨tr₂, h₅⟩ := h₄.bind fun _ _ hdecrypt => hdecrypt.dataKey.self hdecrypt.yields
  rw [hf] at h₅
  exact (yields_ret.mp h₅.yields).2

/-- An attempt cannot end the search for a key. -/
theorem not_yields_caught_error {attempt : EnclaveProgram Unit} {e : AppError}
    (h : attempt.FailsOnly AppError.IsErr) : ¬ (caught attempt).Yields tr (.error e) := by
  intro hyields
  rcases yields_tryCatch.mp hyields with ⟨_, _, heq⟩ | ⟨tr₁, tr₂, e', rfl, hattempt, hcatch⟩
  · cases heq
  · rcases yields_bind.mp hattempt with ⟨_, herror, heq⟩ | ⟨_, _, _, _, _, hret⟩
    · injection heq with heq
      subst heq
      cases e' with
      | err message => simp at hcatch
      | panic message => exact h.of_yields herror
    · simp at hret

/-- Restoring from a manifest whose reference to the surviving slot is intact returns, whatever
becomes of the other attempts. -/
theorem Reaches.restoreWith (hlaw : crates.Lawful)
    (hintact : Intact crates objects generated publicKey reference body package)
    {manifest : KeyManifest}
    (hfind : manifest.recoveryObjects.find? (fun reference => reference.kmsKeyArn = key.keyArn) =
      some reference)
    {keys : List KmsKeySettings} (hkey : key ∈ keys) {failures : List String}
    {r : AppResult RestoredKeyPair}
    (h : Reaches crates s3Client kmsClient settings key objects generated
      (restoreWith crates s3Client kmsClient settings manifest publicKey failures keys) tr r) :
    ∃ keyArn, r = .ok ⟨publicKey, manifest.keyFingerprint, keyArn⟩ := by
  induction keys generalizing failures tr with
  | nil => cases hkey
  | cons key' keys ih =>
    -- The surviving slot is still to come unless this is its turn.
    have htail : key' ≠ key → key ∈ keys := fun hne =>
      (List.mem_cons.mp hkey).resolve_left fun heq => hne heq.symm
    unfold AwsKmsDemo.restoreWith at h
    cases hfind' : manifest.recoveryObjects.find? fun reference =>
      reference.kmsKeyArn = key'.keyArn with
    | none =>
      rw [hfind'] at h
      refine ih (htail ?_) h
      rintro rfl
      rw [hfind] at hfind'
      cases hfind'
    | some reference' =>
      rw [hfind'] at h
      rcases yields_bind.mp h.yields with ⟨e, herror, _⟩ | ⟨tr₁, tr₂, result, rfl, hcaught, hrest⟩
      · exact absurd herror (not_yields_caught_error failsOnly_attemptRestore)
      · rcases yields_caught_ok.mp hcaught with ⟨rfl, _⟩ | ⟨message, rfl, hattempt⟩
        · exact ⟨key'.keyArn, (yields_ret.mp hrest).2⟩
        · refine ih (htail ?_) (h.right hcaught hrest)
          rintro rfl
          rw [hfind] at hfind'
          injection hfind' with hfind'
          subst hfind'
          have hcontra := ((h.left hcaught).of_caught hattempt).attemptRestore hlaw hintact
          cases hcontra

/-! ## What an initialization leaves behind -/

/-- In the events `tr`, the broker confirmed that an object was saved with this content. -/
def Saved (crates : Crates) (tr : List EnclaveEvent) (bucket name : String) (body : Bytes) : Prop :=
  ∃ endpoint stream,
    (⟨.exchange endpoint (frameOf (toVec (BrokerRequest.saveObjectIfAbsent bucket name body))),
      .ok stream⟩ : EnclaveEvent) ∈ tr ∧ receiveResponse crates stream = .ok .saved

/-- What was saved on a part of a trace was saved on the trace. -/
theorem Saved.mono {bucket name : String} {body : Bytes} {tr' : List EnclaveEvent}
    (h : Saved crates tr bucket name body) (hsub : tr ⊆ tr') :
    Saved crates tr' bucket name body := by
  obtain ⟨endpoint, stream, hmem, hreceive⟩ := h
  exact ⟨endpoint, stream, hsub hmem, hreceive⟩

/-- What a save that returned has left behind. -/
theorem saved_of_yields {bucket name : String} {body : Bytes}
    (h : (s3Client.saveObjectIfAbsent crates bucket name body).Yields tr (.ok ())) :
    Saved crates tr bucket name body ∧ Fits (BrokerResponse.object (some body)) := by
  obtain ⟨hfits, stream, rfl, hreceive⟩ := yields_saveObjectIfAbsent_ok.mp h
  refine ⟨⟨s3Client.endpoint, stream, ?_, hreceive⟩, fits_object_of_fits_save hfits⟩
  exact List.mem_cons_of_mem _ List.mem_cons_self

/-- What a configuration that passes the checks contains. -/
theorem kmsKeys_of_validateKmsConfiguration (h : validateKmsConfiguration settings = .ok ()) :
    ∃ primary backup, settings.kmsKeys = [primary, backup] ∧ primary.keyArn ≠ backup.keyArn := by
  unfold validateKmsConfiguration at h
  split at h
  · rename_i primary backup hkeys
    obtain ⟨hne, _⟩ := failIf_bind_eq_ok.mp h
    exact ⟨primary, backup, hkeys, hne⟩
  · cases h

/-- A deposit of the private key opens under the data key that it was encrypted with. -/
theorem Deposited.opens (hlaw : crates.Lawful) {privateKey : Vector UInt8 32} {d : Deposit}
    (h : Deposited crates kmsClient settings privateKey key tr d) :
    Opens crates (d.package crates) (crates.ed25519PublicKey privateKey)
      d.generated.encryptedDataKey d.generated.plaintextDataKey privateKey := by
  obtain ⟨cipher, hcipher, hencrypt⟩ := except_bind_eq_ok.mp h.encrypted
  exact {
    version := rfl
    encryptedDataKey := hlaw.base64Decode _
    dataKeyLength := h.dataKeyLength
    privateKey := by
      refine ⟨d.nonce, d.encryptedPrivateKey, hlaw.base64Decode _, hlaw.base64Decode _, ?_⟩
      refine except_bind_eq_ok.mpr ⟨cipher, hcipher, ofText_eq_ok.mpr ?_⟩
      exact hlaw.aesGcmDecrypt _ _ _ _ _ (ofText_eq_ok.mp hencrypt)
    publicKey := rfl }

/-- The reference to a key is the one that was made for it, if no other key has the same ARN. -/
theorem SlotsFilled.find? {privateKey publicKey : Vector UInt8 32} {keys : List KmsKeySettings}
    {references : List RecoveryObjectReference}
    (h : SlotsFilled crates s3Client kmsClient settings privateKey publicKey tr keys references)
    (hdistinct : (keys.map KmsKeySettings.keyArn).Nodup) (hkey : key ∈ keys) :
    ∃ tr' d, tr' <:+: tr ∧
      references.find? (fun reference => reference.kmsKeyArn = key.keyArn) =
        some (d.reference crates settings key) ∧
      SlotFilled crates s3Client kmsClient settings privateKey publicKey key tr' d := by
  induction h with
  | nil => cases hkey
  | @cons key' reference keys references hmade hrest ih =>
    rw [List.map_cons, List.nodup_cons] at hdistinct
    obtain ⟨tr', d, htr', rfl, hfilled⟩ := hmade
    rcases List.mem_cons.mp hkey with rfl | htail
    · exact ⟨tr', d, htr', List.find?_cons_of_pos (decide_eq_true rfl), hfilled⟩
    · -- The ARNs of the configured keys differ, so the search goes past the references of earlier
      -- keys.
      have hne : (d.reference crates settings key').kmsKeyArn ≠ key.keyArn := fun heq =>
        hdistinct.1 (List.mem_map.mpr ⟨key, htail, heq.symm⟩)
      rw [List.find?_cons_of_neg (by simpa using hne)]
      exact ih hdistinct.2 htail

/-- The manifest of a run that filled two slots passes the checks. -/
theorem Draft.validateManifest {draft : Draft} (h : draft.recoveryObjects.length = 2) :
    validateManifest (draft.manifest crates settings) = .ok () := by
  unfold AwsKmsDemo.validateManifest
  refine failIf_bind_eq_ok.mpr ⟨by simp [Draft.manifest], ?_⟩
  refine failIf_bind_eq_ok.mpr ⟨by simp [Draft.manifest], ?_⟩
  refine failIf_bind_eq_ok.mpr ⟨by simp [Draft.manifest], ?_⟩
  exact failIf_of_not _ (not_not.mpr h)

/-- The public document of a run passes the checks against its manifest. -/
theorem Draft.validatePublicDocument (hlaw : crates.Lawful) (draft : Draft) :
    validatePublicDocument crates (draft.document crates) (draft.manifest crates settings) =
      .ok (draft.publicKey crates) :=
  validatePublicDocument_eq_ok.mpr ⟨rfl, rfl, hlaw.base64Decode _, rfl, rfl⟩

end AwsKmsDemo
