import AwsKmsDemo.RoundTrip
import AwsKmsDemo.System

/-!
# The manifest as a commit mark

What the presence of a manifest means while any number of runs of `initialize_key_material`
interleave: everything that it refers to is there and can be restored from. The manifest is never
replaced, so at most one run can return.
-/

namespace AwsKmsDemo

open Interaction Interaction.Program Stream Storage

variable {crates : Crates} {configs : ConnectionId → BrokerConfig} {inits : ℕ → InitRun}
  {store₀ : S3Store} {s t : SystemState} {bucket pre : String}

/-- All runs initialize the same bucket and prefix. -/
def SameTarget (inits : ℕ → InitRun) (bucket pre : String) : Prop :=
  ∀ n, (inits n).settings.s3Bucket = bucket ∧ (inits n).settings.s3Prefix = pre

/-! ## What a run was told -/

/-- An object whose save was confirmed is in the store. -/
theorem object_of_yields_save {store : S3Store} {s3Client : BrokerS3Client} {name : String}
    {body : Bytes} {tr : List EnclaveEvent}
    (h : (s3Client.saveObjectIfAbsent crates bucket name body).Yields tr (.ok ()))
    (htr : ∀ e ∈ tr, Truthful crates store e) : store.object (bucket, name) = some body := by
  obtain ⟨_, stream, rfl, hreceive⟩ := yields_saveObjectIfAbsent_ok.mp h
  have htold := htr ⟨.exchange s3Client.endpoint _, .ok stream⟩
    (List.mem_cons_of_mem _ List.mem_cons_self) _ _ rfl hreceive
  obtain ⟨_, _, _, hrequest, hobject⟩ := htold
  injection hrequest with hbucket hname hbody
  rw [hbucket, hname, hbody]
  exact hobject

/-- The request of an exchange that a request asks for. -/
theorem eq_of_asks_exchange (hlaw : crates.Lawful) {endpoint endpoint' : Endpoint}
    {request request' : BrokerRequest}
    (h : Asks endpoint request (.exchange endpoint' (frameOf (toVec request')))) :
    request' = request := by
  rcases h with h | ⟨_, h⟩
  · cases h
  · injection h with _ hframe
    exact toVec_injective hlaw (frameOf_injective hframe)

/-- Where a manifest comes from: a run that has made a draft and published it. -/
theorem SystemInvariant.exists_draft (hlaw : crates.Lawful)
    (hinv : SystemInvariant crates configs inits store₀ s) (hsame : SameTarget inits bucket pre)
    (hempty : store₀.object (bucket, objectKey pre manifestFileName) = none) {body : Bytes}
    (hmanifest : s.broker.store.object (bucket, objectKey pre manifestFileName) = some body) :
    ∃ n draft tr₁ tr₂, tr₁ ++ tr₂ <+: (s.runs n).trace ∧
      (draftKeyMaterial crates (inits n).s3Client (inits n).kmsClient (inits n).settings).Yields tr₁
        (.ok draft) ∧
      (publish crates (inits n).s3Client (inits n).settings draft).Yields tr₂ (.ok ()) ∧
      body = draft.manifestBody crates (inits n).settings := by
  rcases hinv.asksToSave hlaw hmanifest with hold | ⟨n, endpoint, tr, htr, hasks⟩
  · rw [hempty] at hold
    cases hold
  · obtain ⟨_, hpre⟩ := hsame n
    have hname : objectKey pre manifestFileName = manifestKey (inits n).settings := by
      rw [← hpre, manifestKey]
    rw [hname] at hasks
    cases hasks with
    | package privateKey key d tr' hkey hprivate htr' hd ho =>
      have heq := eq_of_asks_exchange hlaw ho
      injection heq with _ hkeyName _
      exact absurd hkeyName.symm Deposit.objectKey_ne_manifestKey
    | document draft hprivate ho =>
      have heq := eq_of_asks_exchange hlaw ho
      injection heq with _ hkeyName _
      exact absurd hkeyName.symm Draft.publicObjectKey_ne_manifestKey
    | manifest draft tr₁ tr₂ tr₃ htr' hdraft hpublish ho =>
      have heq := eq_of_asks_exchange hlaw ho
      injection heq with _ _ hbody
      refine ⟨n, draft, tr₁, tr₂, ?_, hdraft, hpublish, hbody⟩
      rw [htr', ← List.append_assoc] at htr
      exact (List.prefix_append _ _).trans htr

/-! ## What a manifest marks -/

/-- A recovery object is as the reference to it says, and its package restores a private key of the
public key as long as KMS decrypts its data key as it did when the run verified the package. -/
structure Recoverable (crates : Crates) (store : S3Store) (bucket : String) (run : InitRun)
    (tr : List EnclaveEvent) (publicKey : Vector UInt8 32) (reference : RecoveryObjectReference)
    (package : RecoveryPackage) (encryptedDataKey dataKey : Bytes) : Prop where
  /-- The object is there, with the hash in the reference, and is a package. -/
  object : ∃ body, store.object (bucket, reference.objectKey) = some body ∧
    sha256Hex crates body = reference.sha256 ∧ crates.recoveryPackageFromSlice body = .ok package
  /-- The run has verified the package, and KMS has returned the data key. -/
  verified : ∃ key tr', key.keyArn = reference.kmsKeyArn ∧ tr' <:+: tr ∧
    (restoreFromPackage crates run.kmsClient run.settings key package
      publicKey).Yields tr' (.ok ()) ∧
    (run.kmsClient.decryptDataKey crates run.settings key encryptedDataKey).Yields tr' (.ok dataKey)
  /-- Whoever gets the same data key from KMS restores from the package. -/
  restores : ∀ (kmsClient : KmsDataKeyClient) (settings : ParentSettings) (key : KmsKeySettings)
    (tr' : List EnclaveEvent), key.keyArn = reference.kmsKeyArn →
    (kmsClient.decryptDataKey crates settings key encryptedDataKey).Yields tr' (.ok dataKey) →
    (restoreFromPackage crates kmsClient settings key package publicKey).Yields tr' (.ok ())

/-- Everything that a manifest refers to is there, and passes the checks of a restore. -/
structure Committed (crates : Crates) (store : S3Store) (bucket : String) (body : Bytes)
    (run : InitRun) (tr : List EnclaveEvent) (manifest : KeyManifest)
    (publicKey : Vector UInt8 32) : Prop where
  slice : crates.manifestFromSlice body = .ok manifest
  valid : validateManifest manifest = .ok ()
  publicObject : ∃ publicBody document,
    store.object (bucket, manifest.publicKey.objectKey) = some publicBody ∧
    sha256Hex crates publicBody = manifest.publicKey.sha256 ∧
    crates.publicKeyDocumentFromSlice publicBody = .ok document ∧
    validatePublicDocument crates document manifest = .ok publicKey
  two : manifest.recoveryObjects.length = 2
  recoveryObjects : ∀ reference ∈ manifest.recoveryObjects, ∃ package encryptedDataKey dataKey,
    Recoverable crates store bucket run tr publicKey reference package encryptedDataKey dataKey

/-- A slot that was filled can be recovered. -/
theorem SlotFilled.recoverable (hlaw : crates.Lawful) {store : S3Store} {run : InitRun}
    {tr tr' : List EnclaveEvent} {privateKey publicKey : Vector UInt8 32} {key : KmsKeySettings}
    {d : Deposit}
    (h : SlotFilled crates run.s3Client run.kmsClient run.settings privateKey publicKey key tr' d)
    (htr' : tr' <:+: tr) (htr : ∀ e ∈ tr, Truthful crates store e) :
    ∃ package encryptedDataKey dataKey, Recoverable crates store run.settings.s3Bucket run tr
      publicKey (d.reference crates run.settings key) package encryptedDataKey dataKey := by
  obtain ⟨tr₁, tr₂, tr₃, tr₄, rfl, _, hsave, _, hrestore⟩ := h.parts
  obtain ⟨encryptedDataKey, dataKey, seed, hopens, hdata⟩ :=
    yields_restoreFromPackage_ok.mp hrestore
  have hobject := object_of_yields_save hsave fun e he => htr e (htr'.subset (by simp [he]))
  refine ⟨d.package crates, encryptedDataKey, dataKey,
    ⟨_, hobject, rfl, hlaw.recoveryPackageFromSlice _⟩, ⟨key, tr₄, rfl, ?_, hrestore, hdata⟩, ?_⟩
  · refine List.IsInfix.trans ?_ htr'
    exact ⟨tr₁ ++ (tr₂ ++ tr₃), [], by simp⟩
  · intro kmsClient settings key' tr'' _ hdata'
    exact yields_restoreFromPackage_ok.mpr ⟨_, _, _, hopens, hdata'⟩

/-! ## One winner -/

/-- In the state `s`, a run has made this draft. -/
def HasDrafted (crates : Crates) (inits : ℕ → InitRun) (s : SystemState) (n : ℕ) (draft : Draft) :
    Prop :=
  ∃ tr, tr <+: (s.runs n).trace ∧
    (draftKeyMaterial crates (inits n).s3Client (inits n).kmsClient (inits n).settings).Yields tr
      (.ok draft)

/-- A run that has returned left its own manifest in the store. -/
theorem SystemInvariant.manifest_of_returned
    (hinv : SystemInvariant crates configs inits store₀ s) (hsame : SameTarget inits bucket pre)
    {n : ℕ} {pair : RestoredKeyPair} (hreturned : (s.runs n).program = .ret pair) :
    ∃ draft, HasDrafted crates inits s n draft ∧ pair = draft.pair crates ∧
      s.broker.store.object (bucket, objectKey pre manifestFileName) =
        some (draft.manifestBody crates (inits n).settings) := by
  have hsteps := (hinv.runs n).steps
  rw [hreturned] at hsteps
  obtain ⟨draft, tr₁, tr₂, tr₃, htr, rfl, hdraft, _, hcommit⟩ :=
    yields_initializeKeyMaterial_ok hsteps
  refine ⟨draft, ⟨tr₁, by rw [htr]; exact List.prefix_append _ _, hdraft⟩, rfl, ?_⟩
  have hobject := object_of_yields_save hcommit fun e he =>
    (hinv.runs n).truthful e (by rw [htr]; simp [he])
  rw [manifestKey, (hsame n).1, (hsame n).2] at hobject
  exact hobject

end AwsKmsDemo
