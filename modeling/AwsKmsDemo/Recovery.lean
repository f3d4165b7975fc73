import AwsKmsDemo.Commit
import AwsKmsDemo.Faultless

/-!
# Initializing after failed initializations

What runs that failed leave behind does not get in the way of later ones: a run that is alone and
meets no fault returns, from any state in which there is no manifest, and restoring then gives its
key pair. All that could stop it is an object of the same name with other content, which a name that
contains a SHA-256 hash excludes as long as no two values in use have the same hash.
-/

namespace AwsKmsDemo

open Interaction Interaction.Program Stream Storage

variable {crates : Crates} {world : Surroundings} {config : BrokerConfig}
  {peerCid : Option UInt32} {run : InitRun} {w : S3Store × List EnclaveEvent}

/-! ## The circumstances -/

/-- A private key is encrypted under every data key of a length that passes the check. -/
theorem Crates.Encrypts.encryptPrivateKey (h : crates.Encrypts) {dataKey : Bytes}
    (hlength : dataKey.length = 16 ∨ dataKey.length = 32) (nonce : Vector UInt8 12)
    (privateKey : Vector UInt8 32) :
    ∃ ciphertext, encryptPrivateKey crates dataKey nonce privateKey.toList = .ok ciphertext := by
  have hcipher : ∃ cipher, dataKeyCipher dataKey = .ok cipher ∧
      dataKey.length = cipher.keyLength := by
    unfold dataKeyCipher
    rcases hlength with hlength | hlength <;> rw [hlength]
    · exact ⟨.aes128, rfl, rfl⟩
    · exact ⟨.aes256, rfl, rfl⟩
  obtain ⟨cipher, hcipher, hkeyLength⟩ := hcipher
  obtain ⟨ciphertext, hencrypt⟩ := h cipher dataKey nonce privateKey hkeyLength
  exact ⟨ciphertext, except_bind_eq_ok.mpr ⟨cipher, hcipher, ofText_eq_ok.mpr hencrypt⟩⟩

/-- The frames of a run that is alone and meets no fault all fit. -/
structure FramesFit (world : Surroundings) (crates : Crates) (run : InitRun) : Prop where
  loadManifest : Fits (BrokerRequest.loadObject run.settings.s3Bucket (manifestKey run.settings))
  savePackage : ∀ key ∈ run.settings.kmsKeys, ∀ privateKey tr d, (∀ e ∈ tr, world.Answered e) →
    Deposited crates run.kmsClient run.settings privateKey key tr d →
    Fits (BrokerRequest.saveObjectIfAbsent run.settings.s3Bucket (d.objectKey crates run.settings)
      (d.body crates))
  savePublic : ∀ draft : Draft, world.draws 32 draft.privateKey →
    Fits (BrokerRequest.saveObjectIfAbsent run.settings.s3Bucket
      (draft.publicObjectKey crates run.settings) (draft.publicBody crates))
  saveManifest : ∀ tr draft, (∀ e ∈ tr, world.Answered e) →
    Drafted crates run.s3Client run.kmsClient run.settings tr draft →
    Fits (BrokerRequest.saveObjectIfAbsent run.settings.s3Bucket (manifestKey run.settings)
      (draft.manifestBody crates run.settings))

/-- What an initialization needs when it is alone and meets no fault. -/
structure Faultless (world : Surroundings) (crates : Crates) (config : BrokerConfig)
    (peerCid : Option UInt32) (run : InitRun) : Prop where
  supports : Supports world config peerCid run.kmsClient run.settings
  mode : config.settings.startupMode = .initKey
  /-- The settings are valid. -/
  valid : validateKmsConfiguration run.settings = .ok ()
  /-- The keys have a storage id. -/
  storageId : ∀ key ∈ run.settings.kmsKeys, ∃ id, kmsKeyStorageId crates key.keyArn = .ok id
  /-- KMS generates data keys of AES. -/
  dataKeyLength : ∀ {plaintext ciphertext}, world.generates plaintext ciphertext →
    plaintext.length = 16 ∨ plaintext.length = 32
  frames : FramesFit world crates run

/-- The key of an object below the prefix is one that the broker serves. -/
theorem Supports.below {kmsClient : KmsDataKeyClient} {settings : ParentSettings}
    (h : Supports world config peerCid kmsClient settings) (relative : String) :
    Below config.settings.s3Bucket config.settings.s3Prefix settings.s3Bucket
      (objectKey settings.s3Prefix relative) := by
  refine ⟨h.bucket.symm, ?_⟩
  rw [h.pre, objectKey_toList, String.toList_append, ← List.append_assoc]
  exact List.prefix_append _ _

/-! ## An initialization that meets no fault -/

/-- The run asked to save an object, and there is another one with this name. -/
def Blocked (run : InitRun) (w : S3Store × List EnclaveEvent) : Prop :=
  ∃ name body found stream, name ≠ manifestKey run.settings ∧
    (⟨.exchange run.s3Client.endpoint (frameOf (toVec
      (BrokerRequest.saveObjectIfAbsent run.settings.s3Bucket name body))), .ok stream⟩ :
        EnclaveEvent) ∈ w.2 ∧
    w.1.object (run.settings.s3Bucket, name) = some found ∧ found ≠ body

/-- There is no manifest. -/
def NoManifest (run : InitRun) (w : S3Store × List EnclaveEvent) : Prop :=
  w.1.object (run.settings.s3Bucket, manifestKey run.settings) = none

section Initialize

variable (hlaw : crates.Lawful) (hencrypts : crates.Encrypts)
  (h : Faultless world crates config peerCid run) {key : KmsKeySettings}
  {privateKey : Vector UInt8 32}

include hlaw hencrypts h

/-- A deposit is made. -/
theorem ensures_makeDeposit (hkey : key ∈ run.settings.kmsKeys)
    {fault : AppError → S3Store × List EnclaveEvent → Prop} :
    (makeDeposit crates run.kmsClient run.settings privateKey key).Ensures
      (aloneSpec world crates config peerCid) fault (fun d w' => world.generates
        d.generated.plaintextDataKey d.generated.encryptedDataKey ∧ w'.1 = w.1) w := by
  obtain ⟨storageId, hstorage⟩ := h.storageId key hkey
  obtain ⟨displayId, hdisplay, _⟩ := except_bind_eq_ok.mp hstorage
  refine Ensures.bind ((ensures_generateDataKey hlaw h.supports hkey).imp
    fun generated w₁ hdata => ?_)
  obtain ⟨hkeyId, hgenerates, hstore⟩ := hdata
  have hlength := h.dataKeyLength hgenerates
  refine ensures_ofExcept_bind (failIf_of_not _ (not_not.mpr hkeyId)) ?_
  refine ensures_ofExcept_bind (a := ())
    (ofText_eq_ok.mpr (validateDataKeyLen_eq_ok.mpr hlength)) ?_
  refine ⟨world.exists_draws _, fun nonce _ => ?_⟩
  obtain ⟨encrypted, hencrypted⟩ := hencrypts.encryptPrivateKey hlength nonce privateKey
  refine ensures_ofExcept_bind hencrypted ?_
  refine ensures_ofExcept_bind (ofText_eq_ok.mpr hstorage) ?_
  refine ensures_ofExcept_bind (ofText_eq_ok.mpr hdisplay) ?_
  exact ⟨hgenerates, hstore⟩

omit hencrypts in
/-- An object of the run other than the manifest is saved and found as saved, unless there is
another one with its name. -/
theorem ensures_save_verify {relative : String} {body : Bytes} (hkept : NoManifest run w)
    (hne : objectKey run.settings.s3Prefix relative ≠ manifestKey run.settings)
    (hfits : Fits (BrokerRequest.saveObjectIfAbsent run.settings.s3Bucket
      (objectKey run.settings.s3Prefix relative) body)) :
    ((run.s3Client.saveObjectIfAbsent crates run.settings.s3Bucket
      (objectKey run.settings.s3Prefix relative) body).bind fun _ =>
        verifyUploadedObject crates run.s3Client run.settings.s3Bucket
          (objectKey run.settings.s3Prefix relative) (sha256Hex crates body)).Ensures
      (aloneSpec world crates config peerCid) (fun _ w' => Blocked run w')
      (fun _ w' => NoManifest run w') w := by
  have hbelow := h.supports.below relative
  refine Ensures.bind ((ensures_saveObjectIfAbsent hlaw h.supports.admits h.mode
    hbelow hfits ?_).imp fun _ w₁ hsaved => ?_)
  · -- Another object has this name: that is what blocks a run.
    intro found e w' stream _ hother hfound hmem
    exact ⟨_, body, found, stream, hne, hmem, hfound, hother⟩
  · obtain ⟨hstore, hobject⟩ := hsaved
    refine Ensures.bind ((ensures_loadObject hlaw h.supports.admits hbelow
      (fits_load_of_fits_save hfits) (fits_object_of_fits_save hfits) hobject).imp
        fun loaded w₂ hloaded => ?_)
    obtain ⟨rfl, hstore'⟩ := hloaded
    refine ensures_ofExcept_bind (okOr_eq_ok.mpr rfl) ?_
    rw [verifySha256_eq_ok (u := ()).mpr rfl]
    -- The object that was saved is not the manifest.
    show w₂.1.object _ = none
    rw [hstore', hstore, Store.object_putIfAbsent_of_ne _ _ fun heq => hne (Prod.mk.inj heq).2.symm]
    exact hkept

/-- The body of the loop fills the slot of a key. -/
theorem ensures_createRecoveryObject (hkept : NoManifest run w)
    (hkey : key ∈ run.settings.kmsKeys) :
    (createRecoveryObject crates run.s3Client run.kmsClient run.settings privateKey
      (crates.ed25519PublicKey privateKey) key).Ensures (aloneSpec world crates config peerCid)
      (fun _ w' => Blocked run w') (fun _ w' => NoManifest run w') w := by
  rw [createRecoveryObject_eq]
  refine Ensures.bind ((ensures_traced (ensures_makeDeposit hlaw hencrypts h hkey)).imp
    fun d w₁ hmade => ?_)
  obtain ⟨⟨hgenerates, hstore⟩, tr, _, hyields, hanswered⟩ := hmade
  have hdeposited := deposited_of_yields hyields
  have hkept₁ : NoManifest run w₁ := by
    unfold NoManifest
    rw [hstore]
    exact hkept
  have hfits := h.frames.savePackage key hkey privateKey tr d hanswered hdeposited
  have hsave := ensures_save_verify hlaw h hkept₁ Deposit.objectKey_ne_manifestKey hfits
  have hopens := hdeposited.opens hlaw
  rw [← world.unwrap_of_generates hgenerates] at hopens
  have hassoc : storeDeposit crates run.s3Client run.kmsClient run.settings
      (crates.ed25519PublicKey privateKey) key d =
        ((run.s3Client.saveObjectIfAbsent crates run.settings.s3Bucket
          (d.objectKey crates run.settings) (d.body crates)).bind fun _ =>
            verifyUploadedObject crates run.s3Client run.settings.s3Bucket
              (d.objectKey crates run.settings) (d.hash crates)).bind fun _ =>
          (restoreFromPackage crates run.kmsClient run.settings key (d.package crates)
            (crates.ed25519PublicKey privateKey)).bind fun _ =>
              .ret (d.reference crates run.settings key) :=
    (Program.bind_assoc _ _ _).symm
  rw [hassoc]
  refine Ensures.bind (hsave.imp fun _ w₂ hkept₂ => Ensures.bind ?_)
  refine (ensures_restoreFromPackage hlaw h.supports hkey hopens).imp fun _ w₃ hstore₃ => ?_
  show w₃.1.object _ = none
  rw [hstore₃]
  exact hkept₂

/-- The loop fills the slots of all keys. -/
theorem ensures_createRecoveryObjects {keys : List KmsKeySettings}
    (hkeys : ∀ key ∈ keys, key ∈ run.settings.kmsKeys)
    {recoveryObjects : List RecoveryObjectReference} (hkept : NoManifest run w) :
    (createRecoveryObjects crates run.s3Client run.kmsClient run.settings privateKey
      (crates.ed25519PublicKey privateKey) recoveryObjects keys).Ensures
      (aloneSpec world crates config peerCid) (fun _ w' => Blocked run w')
      (fun _ w' => NoManifest run w') w := by
  induction keys generalizing recoveryObjects w with
  | nil => exact hkept
  | cons key keys ih =>
    refine Ensures.bind ((ensures_createRecoveryObject hlaw hencrypts h hkept
      (hkeys key List.mem_cons_self)).imp fun reference w₁ hkept₁ => ?_)
    exact ih (fun key' hkey' => hkeys key' (List.mem_cons_of_mem _ hkey')) hkept₁

/-- A draft is made of a private key that was drawn. -/
theorem ensures_draftKeyMaterial (hkept : NoManifest run w) :
    (draftKeyMaterial crates run.s3Client run.kmsClient run.settings).Ensures
      (aloneSpec world crates config peerCid) (fun _ w' => Blocked run w')
      (fun draft w' => world.draws 32 draft.privateKey ∧ NoManifest run w') w := by
  refine Ensures.bind ((ensures_loadObject hlaw h.supports.admits (h.supports.below _)
    h.frames.loadManifest fits_object_none hkept).imp fun existing w₁ hloaded => ?_)
  obtain ⟨rfl, hstore⟩ := hloaded
  refine ensures_ofExcept_bind (failIf_of_not _ (by simp)) ⟨world.exists_draws _, ?_⟩
  intro privateKey hdrawn
  have hkept₁ : NoManifest run (w₁.1, w₁.2 ++ [⟨.random 32, privateKey⟩]) := by
    show w₁.1.object _ = none
    rw [hstore]
    exact hkept
  dsimp only [ret_bind]
  refine Ensures.bind ((ensures_createRecoveryObjects hlaw hencrypts h (fun _ => id) hkept₁).imp ?_)
  exact fun _ w' hkept' => ⟨hdrawn, hkept'⟩

/-- A run that is alone and meets no fault returns, unless it is blocked. -/
theorem ensures_program (hkept : NoManifest run w) :
    (run.program crates).Ensures (aloneSpec world crates config peerCid)
      (fun _ w' => Blocked run w') (fun _ _ => True) w := by
  unfold InitRun.program
  rw [initializeKeyMaterial_eq]
  refine Ensures.bind ((ensures_traced (ensures_draftKeyMaterial hlaw hencrypts h hkept)).imp
    fun draft w₁ hmade => ?_)
  obtain ⟨⟨hdrawn, hkept₁⟩, tr, _, hyields, hanswered⟩ := hmade
  have hpublish := ensures_save_verify hlaw h hkept₁ Draft.publicObjectKey_ne_manifestKey
    (h.frames.savePublic draft hdrawn)
  refine Ensures.bind (hpublish.imp fun _ w₂ hkept₂ => Ensures.bind ?_)
  -- There is no manifest, so that nothing can be in its way.
  refine (ensures_saveObjectIfAbsent hlaw h.supports.admits h.mode (h.supports.below _)
    (h.frames.saveManifest tr draft hanswered (drafted_of_yields hyields)) ?_).imp
      fun _ _ _ => trivial
  intro found e w' stream hfound
  have hnone : w₂.1.object _ = none := hkept₂
  cases hnone.symm.trans hfound

end Initialize

/-! ## Names and contents -/

/-- The values that the names of a run's objects contain a hash of: the public keys of the private
keys that it drew, and its packages. -/
inductive Hashed (crates : Crates) (run : InitRun) (tr : List EnclaveEvent) : Bytes → Prop where
  | publicKey (draft : Draft) (hprivate : (⟨.random 32, draft.privateKey⟩ : EnclaveEvent) ∈ tr) :
      Hashed crates run tr (draft.publicKey crates).toList
  | package (privateKey : Vector UInt8 32) (key : KmsKeySettings) (d : Deposit)
      (tr' : List EnclaveEvent) (hprivate : (⟨.random 32, privateKey⟩ : EnclaveEvent) ∈ tr)
      (htr : tr' <:+: tr) (hd : Deposited crates run.kmsClient run.settings privateKey key tr' d) :
      Hashed crates run tr (d.body crates)

/-- The values in use by any of the runs. -/
def Used (crates : Crates) (inits : ℕ → InitRun) (s : SystemState) (v : Bytes) : Prop :=
  ∃ n, Hashed crates (inits n) (s.runs n).trace v

/-- SHA-256 does not collide on these values. -/
def CollisionFree (crates : Crates) (used : Bytes → Prop) : Prop :=
  ∀ v v', used v → used v' → crates.sha256 v = crates.sha256 v' → v = v'

/-- The objects other than the manifest: their keys contain the hash of one of the values. -/
inductive Leaf (crates : Crates) (pre : String) (used : Bytes → Prop) : String → Bytes → Prop where
  | package (d : Deposit) (hused : used (d.body crates)) :
      Leaf crates pre used (objectKey pre (d.relativeKey crates)) (d.body crates)
  | document (draft : Draft) (hused : used (draft.publicKey crates).toList) :
      Leaf crates pre used (objectKey pre (draft.publicKeyName crates)) (draft.publicBody crates)

/-- Without collisions, the key of a leaf determines its content. -/
theorem Leaf.body_eq {pre name : String} {used : Bytes → Prop} {body body' : Bytes}
    (hfree : CollisionFree crates used) (h : Leaf crates pre used name body)
    (h' : Leaf crates pre used name body') : body = body' := by
  generalize hname : name = name' at h'
  cases h with
  | package d hused =>
    cases h' with
    | package d' hused' =>
      -- The name of a package ends with the hash of its text, and texts in use do not collide.
      have hhash := Deposit.hash_eq_of_relativeKey_eq (objectKey_injective hname)
      exact hfree _ _ hused hused' (sha256_eq_of_sha256Hex_eq hhash)
    | document draft' hused' => exact absurd hname objectKey_relativeKey_ne_publicKeyName
  | document draft hused =>
    cases h' with
    | package d' hused' => exact absurd hname.symm objectKey_relativeKey_ne_publicKeyName
    | document draft' hused' =>
      -- The name of the document contains the hash of the public key, which is all that it is made
      -- of.
      have hfingerprint := Draft.fingerprint_eq_of_publicKeyName_eq (objectKey_injective hname)
      have hkey : draft.publicKey crates = draft'.publicKey crates :=
        Vector.toList_inj.mp (hfree _ _ hused hused' (sha256_eq_of_sha256Hex_eq hfingerprint))
      unfold Draft.publicBody Draft.document Draft.fingerprint
      rw [hkey]

variable {configs : ConnectionId → BrokerConfig} {inits : ℕ → InitRun} {store₀ : S3Store}
  {s t : SystemState} {bucket pre : String}

/-- The text of a request to save. -/
def saveFrame (bucket name : String) (body : Bytes) : Bytes :=
  frameOf (toVec (BrokerRequest.saveObjectIfAbsent bucket name body))

/-- Whatever a run asks to save, other than a manifest, is a leaf. -/
theorem AsksToSave.leaf (hlaw : crates.Lawful) {n : ℕ} {tr : List EnclaveEvent}
    {endpoint : Endpoint} {name : String} {body : Bytes} (htr : tr <+: (s.runs n).trace)
    (h : AsksToSave crates (inits n).s3Client (inits n).kmsClient (inits n).settings tr
      (.exchange endpoint (saveFrame bucket name body)))
    (hne : name ≠ manifestKey (inits n).settings) :
    Leaf crates (inits n).settings.s3Prefix (Used crates inits s) name body := by
  cases h with
  | package privateKey key d tr' hkey hprivate htr' hd ho =>
    obtain ⟨_, rfl, rfl⟩ := BrokerRequest.saveObjectIfAbsent.inj (eq_of_asks_exchange hlaw ho)
    refine .package d ⟨n, .package privateKey key d tr' ?_ (htr'.trans htr.isInfix) hd⟩
    exact htr.subset hprivate
  | document draft hprivate ho =>
    obtain ⟨_, rfl, rfl⟩ := BrokerRequest.saveObjectIfAbsent.inj (eq_of_asks_exchange hlaw ho)
    exact .document draft ⟨n, .publicKey draft (htr.subset hprivate)⟩
  | manifest draft tr₁ tr₂ tr₃ htr' hdraft hpublish ho =>
    obtain ⟨_, rfl, rfl⟩ := BrokerRequest.saveObjectIfAbsent.inj (eq_of_asks_exchange hlaw ho)
    exact absurd rfl hne

/-- Every object below the prefix other than the manifest is a leaf. -/
theorem SystemInvariant.leaf (hlaw : crates.Lawful)
    (hinv : SystemInvariant crates configs inits store₀ s) (hsame : SameTarget inits bucket pre)
    {name : String} {body : Bytes} (hempty : store₀.object (bucket, name) = none)
    (hne : name ≠ objectKey pre manifestFileName)
    (hobject : s.broker.store.object (bucket, name) = some body) :
    Leaf crates pre (Used crates inits s) name body := by
  rcases hinv.asksToSave hlaw hobject with hold | ⟨n, endpoint, tr, htr, hasks⟩
  · rw [hempty] at hold
    cases hold
  · obtain ⟨_, rfl⟩ := hsame n
    exact hasks.leaf hlaw htr hne

/-- The package that a reference names is in the store, and opens under the data key that KMS
returns for it. -/
structure Restorable (world : Surroundings) (crates : Crates) (store : S3Store)
    (bucket pre : String)
    (publicKey : Vector UInt8 32) (reference : RecoveryObjectReference) (body : Bytes)
    (package : RecoveryPackage) : Prop where
  name : ∃ relative, reference.objectKey = objectKey pre relative
  object : store.object (bucket, reference.objectKey) = some body
  fits : Fits (BrokerRequest.saveObjectIfAbsent bucket reference.objectKey body)
  hash : sha256Hex crates body = reference.sha256
  slice : crates.recoveryPackageFromSlice body = .ok package
  opens : ∃ encryptedDataKey seed,
    Opens crates package publicKey encryptedDataKey (world.unwrap encryptedDataKey) seed

/-- Everything that the manifest of a draft refers to is in the store. -/
structure Complete (world : Surroundings) (crates : Crates) (store : S3Store) (bucket pre : String)
    (settings : ParentSettings) (draft : Draft) : Prop where
  manifest : store.object (bucket, objectKey pre manifestFileName) =
    some (draft.manifestBody crates settings)
  manifestFits : Fits (BrokerRequest.saveObjectIfAbsent bucket (objectKey pre manifestFileName)
    (draft.manifestBody crates settings))
  publicObject : store.object (bucket, objectKey pre (draft.publicKeyName crates)) =
    some (draft.publicBody crates)
  publicFits : Fits (BrokerRequest.saveObjectIfAbsent bucket
    (objectKey pre (draft.publicKeyName crates)) (draft.publicBody crates))
  settingsPre : settings.s3Prefix = pre
  two : draft.recoveryObjects.length = 2
  recoveryObjects : ∀ reference ∈ draft.recoveryObjects, ∃ body package,
    Restorable world crates store bucket pre (draft.publicKey crates) reference body package

section Restore

variable {s3Client : BrokerS3Client} {kmsClient : KmsDataKeyClient} {settings : ParentSettings}
  {key : KmsKeySettings}

/-- An attempt with a package that is there returns. -/
theorem ensures_attemptRestore (hlaw : crates.Lawful)
    (h : Supports world config peerCid kmsClient settings) (hkey : key ∈ settings.kmsKeys)
    {publicKey : Vector UInt8 32} {reference : RecoveryObjectReference} {body : Bytes}
    {package : RecoveryPackage} (hpackage : Restorable world crates w.1 settings.s3Bucket
      settings.s3Prefix publicKey reference body package) :
    (attemptRestore crates s3Client kmsClient settings publicKey key reference).Ensures
      (aloneSpec world crates config peerCid) (fun _ _ => False) (fun _ _ => True) w := by
  obtain ⟨relative, hname⟩ := hpackage.name
  obtain ⟨_, seed, hopens⟩ := hpackage.opens
  have hbelow := h.below relative
  rw [← hname] at hbelow
  refine Ensures.bind ((ensures_loadObject hlaw h.admits hbelow
    (fits_load_of_fits_save hpackage.fits) (fits_object_of_fits_save hpackage.fits)
      hpackage.object).imp fun loaded w₁ hloaded => ?_)
  obtain ⟨rfl, _⟩ := hloaded
  refine ensures_ofExcept_bind (okOr_eq_ok.mpr rfl) ?_
  refine ensures_ofExcept_bind (a := ()) (verifySha256_eq_ok.mpr hpackage.hash) ?_
  refine ensures_ofExcept_bind (ofText_eq_ok.mpr hpackage.slice) ?_
  exact (ensures_restoreFromPackage hlaw h hkey hopens).imp fun _ _ _ => trivial

/-- The search for a key ends with one of those that have a reference. -/
theorem ensures_restoreWith (hlaw : crates.Lawful)
    (h : Supports world config peerCid kmsClient settings) {publicKey : Vector UInt8 32}
    {manifest : KeyManifest} (hall : ∀ reference ∈ manifest.recoveryObjects, ∃ body package,
      Restorable world crates w.1 settings.s3Bucket settings.s3Prefix publicKey
        reference body package)
    {keys : List KmsKeySettings} (hkeys : ∀ key ∈ keys, key ∈ settings.kmsKeys) (hkey : key ∈ keys)
    {reference : RecoveryObjectReference} (hreference : reference ∈ manifest.recoveryObjects)
    (harn : reference.kmsKeyArn = key.keyArn) {failures : List String} :
    (restoreWith crates s3Client kmsClient settings manifest publicKey failures keys).Ensures
      (aloneSpec world crates config peerCid) (fun _ _ => False) (fun restored _ =>
        restored.publicKey = publicKey ∧ restored.fingerprint = manifest.keyFingerprint) w := by
  induction keys generalizing failures with
  | nil => cases hkey
  | cons key' keys ih =>
    unfold restoreWith
    cases hfind : manifest.recoveryObjects.find? fun reference =>
      reference.kmsKeyArn = key'.keyArn with
    | none =>
      -- This is not the key that has a reference, so that one is still to come.
      have hne : key ≠ key' := by
        rintro rfl
        simpa [harn] using List.find?_eq_none.mp hfind reference hreference
      exact ih (fun key'' hkey'' => hkeys key'' (List.mem_cons_of_mem _ hkey''))
        ((List.mem_cons.mp hkey).resolve_left hne)
    | some reference' =>
      obtain ⟨body, package, hpackage⟩ := hall reference' (List.mem_of_find?_eq_some hfind)
      refine Ensures.bind (Ensures.tryCatch (Ensures.bind ?_))
      refine (ensures_attemptRestore hlaw h (hkeys key' List.mem_cons_self) hpackage).mono
        (fun _ _ hfalse => hfalse.elim) fun _ _ _ => ?_
      exact ⟨rfl, rfl⟩

/-- Where everything that a manifest refers to is there, restoring without faults returns its key
pair. -/
theorem ensures_restoreKeyMaterial (hlaw : crates.Lawful)
    (h : Supports world config peerCid kmsClient settings)
    {settings₀ : ParentSettings} {draft : Draft}
    (hcomplete : Complete world crates w.1 settings.s3Bucket settings.s3Prefix settings₀ draft)
    (hkey : key ∈ settings.kmsKeys) {reference : RecoveryObjectReference}
    (hreference : reference ∈ draft.recoveryObjects) (harn : reference.kmsKeyArn = key.keyArn) :
    (restoreKeyMaterial crates s3Client kmsClient settings).Ensures
      (aloneSpec world crates config peerCid) (fun _ _ => False) (fun restored _ =>
        restored.publicKey = draft.publicKey crates ∧
          restored.fingerprint = draft.fingerprint crates)
      w := by
  refine Ensures.bind ((ensures_loadObject hlaw h.admits (h.below _)
    (fits_load_of_fits_save hcomplete.manifestFits)
      (fits_object_of_fits_save hcomplete.manifestFits)
    hcomplete.manifest).imp fun loaded w₁ hloaded => ?_)
  obtain ⟨rfl, hstore₁⟩ := hloaded
  refine ensures_ofExcept_bind (okOr_eq_ok.mpr rfl) ?_
  refine ensures_ofExcept_bind (ofText_eq_ok.mpr (hlaw.manifestFromSlice _)) ?_
  refine ensures_ofExcept_bind (a := ()) (Draft.validateManifest hcomplete.two) ?_
  -- The manifest names the document under the prefix of the run that wrote it, which is this one's.
  have hname : (draft.manifest crates settings₀).publicKey.objectKey =
      objectKey settings.s3Prefix (draft.publicKeyName crates) := by
    rw [← hcomplete.settingsPre]
    rfl
  rw [hname]
  refine Ensures.bind ((ensures_loadObject hlaw h.admits (h.below _)
    (fits_load_of_fits_save hcomplete.publicFits) (fits_object_of_fits_save hcomplete.publicFits)
    (by rw [hstore₁]; exact hcomplete.publicObject)).imp fun loaded w₂ hloaded => ?_)
  obtain ⟨rfl, hstore₂⟩ := hloaded
  refine ensures_ofExcept_bind (okOr_eq_ok.mpr rfl) ?_
  refine ensures_ofExcept_bind (a := ()) (verifySha256_eq_ok.mpr rfl) ?_
  refine ensures_ofExcept_bind (ofText_eq_ok.mpr (hlaw.publicKeyDocumentFromSlice _)) ?_
  refine ensures_ofExcept_bind (Draft.validatePublicDocument hlaw draft) ?_
  -- Loading has not changed the store, so the packages are still there for the loop.
  have hall : ∀ reference ∈ (draft.manifest crates settings₀).recoveryObjects, ∃ body package,
      Restorable world crates w₂.1 settings.s3Bucket settings.s3Prefix (draft.publicKey crates)
        reference body package := by
    rw [hstore₂, hstore₁]
    exact hcomplete.recoveryObjects
  exact ensures_restoreWith hlaw h hall (fun _ => id) hkey hreference harn

end Restore

/-! ## A later initialization -/

/-- The data keys that a run got were generated by KMS. -/
theorem generates_of_yields {kmsClient : KmsDataKeyClient} {settings : ParentSettings}
    {key : KmsKeySettings} {tr : List EnclaveEvent} {generated : GeneratedDataKey}
    (h : (kmsClient.generateDataKey crates settings key).Yields tr (.ok generated))
    (htr : ∀ e ∈ tr, world.Answered e) :
    world.generates generated.plaintextDataKey generated.encryptedDataKey := by
  obtain ⟨tr₁, tr₂, c, rfl, _, h₁⟩ := yields_bind_ok.mp h
  have htr₂ : ∀ e ∈ tr₂, world.Answered e := fun e he => htr e (List.mem_append_right _ he)
  cases kmsClient with
  | «local» endpoint =>
    obtain ⟨request, _, h₂⟩ := yields_ofExcept_bind_ok.mp h₁
    obtain ⟨answer, tr₃, rfl, h₃⟩ := yields_op.mp h₂
    obtain ⟨plaintext, ciphertext, keyId, rfl, _, hgenerates⟩ :=
      (htr₂ _ List.mem_cons_self).resolve_left id
    obtain ⟨rfl, rfl⟩ := yields_ret_ok.mp h₃
    exact hgenerates
  | nitro client endpoint =>
    obtain ⟨_, _, h₂⟩ := yields_ofExcept_bind_ok.mp h₁
    obtain ⟨_, _, h₃⟩ := yields_ofExcept_bind_ok.mp h₂
    obtain ⟨keyBits, _, h₄⟩ := yields_ofExcept_bind_ok.mp h₃
    obtain ⟨native, _, h₅⟩ := yields_ofExcept_bind_ok.mp h₄
    obtain ⟨keyId, _, h₆⟩ := yields_ofExcept_bind_ok.mp h₅
    obtain ⟨answer, tr₃, rfl, h₇⟩ := yields_op.mp h₆
    obtain ⟨plaintext, ciphertext, rfl, hgenerates⟩ :=
      (htr₂ _ List.mem_cons_self).resolve_left id
    obtain ⟨rfl, rfl⟩ := yields_ret_ok.mp h₇
    exact hgenerates

/-- What a save that returned has left in the store. -/
theorem saved_in_store {store : S3Store} {s3Client : BrokerS3Client} {name : String} {body : Bytes}
    {tr : List EnclaveEvent}
    (h : (s3Client.saveObjectIfAbsent crates bucket name body).Yields tr (.ok ()))
    (htr : ∀ e ∈ tr, Truthful crates store e) :
    store.object (bucket, name) = some body ∧
      Fits (BrokerRequest.saveObjectIfAbsent bucket name body) :=
  ⟨object_of_yields_save h htr, (yields_saveObjectIfAbsent_ok.mp h).1⟩

/-- A slot that was filled can be restored from. -/
theorem SlotFilled.restorable (hlaw : crates.Lawful) {store : S3Store} {tr : List EnclaveEvent}
    {privateKey publicKey : Vector UInt8 32} {key : KmsKeySettings} {d : Deposit}
    (hfilled : SlotFilled crates run.s3Client run.kmsClient run.settings privateKey
      publicKey key tr d)
    (hpublic : publicKey = crates.ed25519PublicKey privateKey)
    (htruth : ∀ e ∈ tr, Truthful crates store e) (hanswered : ∀ e ∈ tr, world.Answered e) :
    Restorable world crates store run.settings.s3Bucket run.settings.s3Prefix publicKey
      (d.reference crates run.settings key) (d.body crates) (d.package crates) := by
  obtain ⟨tr₁, tr₂, tr₃, tr₄, rfl, hdeposited, hsave, _, _⟩ := hfilled.parts
  obtain ⟨tr₅, rfl, hgenerate⟩ := hdeposited.trace
  have hgenerates := generates_of_yields hgenerate fun e he => hanswered e (by simp [he])
  obtain ⟨hobject, hfits⟩ := saved_in_store hsave fun e he => htruth e (by simp [he])
  have hopens := hdeposited.opens hlaw
  rw [← world.unwrap_of_generates hgenerates, ← hpublic] at hopens
  exact ⟨⟨d.relativeKey crates, rfl⟩, hobject, hfits, rfl, hlaw.recoveryPackageFromSlice _, _, _,
    hopens⟩

/-- A run that returned has left everything behind that its manifest refers to, and that is enough
for each of its keys. -/
theorem SystemInvariant.complete (hlaw : crates.Lawful)
    (hinv : SystemInvariant crates configs inits store₀ s) (hsame : SameTarget inits bucket pre)
    {m : ℕ} (hvalid : validateKmsConfiguration (inits m).settings = .ok ()) {pair : RestoredKeyPair}
    (hreturned : (s.runs m).program = .ret pair)
    (hanswered : ∀ e ∈ (s.runs m).trace, world.Answered e) :
    ∃ draft : Draft, pair = draft.pair crates ∧
      Complete world crates s.broker.store bucket pre (inits m).settings draft ∧
      ∀ key ∈ (inits m).settings.kmsKeys, ∃ reference ∈ draft.recoveryObjects,
        reference.kmsKeyArn = key.keyArn := by
  have htruth := (hinv.runs m).truthful
  have hsteps := (hinv.runs m).steps
  rw [hreturned] at hsteps
  obtain ⟨draft, tr₁, tr₂, tr₃, htr, rfl, hdraft, hpublish, hcommit⟩ :=
    yields_initializeKeyMaterial_ok hsteps
  obtain ⟨tr₄, tr₅, _, rfl, hsavePublic, _⟩ := yields_bind_ok.mp hpublish
  obtain ⟨hbucket, hpre⟩ := hsame m
  -- What the run was told is true of the store: the objects whose saves were confirmed are there.
  obtain ⟨hmanifest, hmanifestFits⟩ :=
    saved_in_store hcommit fun e he => htruth e (by rw [htr]; simp [he])
  obtain ⟨hpublic, hpublicFits⟩ :=
    saved_in_store hsavePublic fun e he => htruth e (by rw [htr]; simp [he])
  unfold manifestKey at hmanifest hmanifestFits
  unfold Draft.publicObjectKey at hpublic hpublicFits
  rw [hbucket, hpre] at hmanifest hmanifestFits hpublic hpublicFits
  have hslots := (drafted_of_yields hdraft).slots
  obtain ⟨primary, backup, hkeys, hne⟩ := kmsKeys_of_validateKmsConfiguration hvalid
  have hdistinct : ((inits m).settings.kmsKeys.map KmsKeySettings.keyArn).Nodup := by
    rw [hkeys]
    simpa using hne
  -- One slot was filled for each of the two configured keys.
  have htwo : draft.recoveryObjects.length = 2 := by
    rw [← List.Forall₂.length_eq hslots, hkeys]
    rfl
  refine ⟨draft, rfl, ⟨hmanifest, hmanifestFits, hpublic, hpublicFits, hpre, htwo, ?_⟩, ?_⟩
  · intro reference hreference
    obtain ⟨key, _, tr₆, d, htr₆, rfl, hfilled⟩ := hslots.exists_of_mem hreference
    have hsub : ∀ e ∈ tr₆, e ∈ (s.runs m).trace := fun e he => by
      rw [htr]
      exact List.mem_append_left _ (htr₆.subset he)
    have hrestorable := hfilled.restorable hlaw rfl (fun e he => htruth e (hsub e he))
      fun e he => hanswered e (hsub e he)
    rw [hbucket, hpre] at hrestorable
    exact ⟨_, _, hrestorable⟩
  · intro key hkey
    obtain ⟨_, d, _, hfind, _⟩ := hslots.find? hdistinct hkey
    exact ⟨_, List.mem_of_find?_eq_some hfind, rfl⟩

/-- There always are connections that nobody has used yet. -/
theorem hasFree_of_reachable (h : Reachable crates configs inits store₀ s) : HasFree s := by
  induction h with
  | refl => exact ⟨0, fun _ _ => rfl⟩
  | tail _ hstep ih => exact ih.step hstep

/-- The run `m` has returned and has left a manifest behind, and a restore that is alone and meets
no fault returns the same key pair, if it still has one of the keys. -/
def Initialized (world : Surroundings) (crates : Crates) (inits : ℕ → InitRun) (bucket pre : String)
    (m : ℕ) (t : SystemState) : Prop :=
  ∃ pair, (t.runs m).program = .ret pair ∧
    (t.broker.store.object (bucket, objectKey pre manifestFileName)).isSome ∧
    ∀ (config : BrokerConfig) (peerCid : Option UInt32) (s3Client : BrokerS3Client)
      (kmsClient : KmsDataKeyClient) (settings : ParentSettings) (tr : List EnclaveEvent),
      settings.s3Bucket = bucket → settings.s3Prefix = pre →
      (∃ key ∈ settings.kmsKeys, ∃ key' ∈ (inits m).settings.kmsKeys, key'.keyArn = key.keyArn) →
      Supports world config peerCid kmsClient settings →
      (restoreKeyMaterial crates s3Client kmsClient settings).Ensures
        (aloneSpec world crates config peerCid) (fun _ _ => False) (fun restored _ =>
          restored.publicKey = pair.publicKey ∧ restored.fingerprint = pair.fingerprint)
        (t.broker.store, tr)

/-- A run that returned, and was answered by these surroundings, has initialized the prefix. -/
theorem SystemInvariant.initialized (hlaw : crates.Lawful)
    (hinv : SystemInvariant crates configs inits store₀ s) (hsame : SameTarget inits bucket pre)
    {m : ℕ} (hvalid : validateKmsConfiguration (inits m).settings = .ok ()) {pair : RestoredKeyPair}
    (hreturned : (s.runs m).program = .ret pair)
    (hanswered : ∀ e ∈ (s.runs m).trace, world.Answered e) :
    Initialized world crates inits bucket pre m s := by
  obtain ⟨draft, rfl, hcomplete, hreferences⟩ :=
    hinv.complete hlaw hsame hvalid hreturned hanswered
  refine ⟨draft.pair crates, hreturned, by rw [hcomplete.manifest]; rfl, ?_⟩
  rintro config peerCid s3Client kmsClient settings tr
    rfl rfl ⟨key, hkey, key', hkey', harn⟩ hsupports
  obtain ⟨reference, hreference, hreferenceArn⟩ := hreferences key' hkey'
  exact ensures_restoreKeyMaterial hlaw hsupports hcomplete hkey hreference
    (hreferenceArn.trans harn)

/-- A run that starts afresh where there is no manifest, is alone and meets no fault comes to its
end: it has returned, or it is blocked. -/
theorem eventually_ended (hlaw : crates.Lawful) (hencrypts : crates.Encrypts)
    (hsame : SameTarget inits bucket pre) (hreach : Reachable crates configs inits store₀ s)
    (hmanifest : s.broker.store.object (bucket, objectKey pre manifestFileName) = none) {m : ℕ}
    (hfresh : s.runs m = ⟨[], (inits m).program crates, none⟩)
    (hconfig : ∀ bound, ∃ number, bound ≤ number ∧ configs ⟨peerCid, number⟩ = config)
    (h : Faultless world crates config peerCid (inits m)) :
    Eventually (AloneStep world crates config peerCid configs m) (fun t =>
      ((∃ pair, (t.runs m).program = .ret pair ∧ ∀ e ∈ (t.runs m).trace, world.Answered e) ∨
        Blocked (inits m) (t.broker.store, (t.runs m).trace)) ∧
      Reachable crates configs inits store₀ t) s := by
  obtain ⟨hbucket, hpre⟩ := hsame m
  have hkept : NoManifest (inits m) (s.broker.store, []) := by
    unfold NoManifest manifestKey
    rw [hbucket, hpre]
    exact hmanifest
  have hprogram := ensures_traced (ensures_program hlaw hencrypts h hkept)
  -- What the program ensures by itself comes to pass in the system when its run is alone.
  have hended := eventually_of_ensures hconfig hfresh (hasFree_of_reachable hreach) hprogram
  have hinvariant := hended.and_invariant (fun _ _ hs hstep => hs.tail hstep.systemStep) hreach
  refine hinvariant.mono fun t ht => ?_
  obtain ⟨⟨tr, hend⟩, htreach⟩ := ht
  refine ⟨?_, htreach⟩
  rcases hend with ⟨pair, hrun, _, tr', rfl, _, hanswered⟩ | ⟨e, hrun, hblocked⟩
  · rw [hrun]
    exact .inl ⟨pair, rfl, hanswered⟩
  · rw [hrun]
    exact .inr hblocked

end AwsKmsDemo
