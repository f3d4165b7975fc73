import AwsKmsDemo.Restore
import AwsKmsDemo.Stored

/-!
# What initialization does

The executions of `initialize_key_material`. Whatever a run asks the broker to save is one of three
things: the package of a slot, the public document, or, once everything else is saved and verified,
the manifest.
-/

namespace AwsKmsDemo

open Interaction Interaction.Program Stream

variable {crates : Crates} {kmsClient : KmsDataKeyClient} {s3Client : BrokerS3Client}
  {settings : ParentSettings} {key : KmsKeySettings} {tr : List EnclaveEvent}

/-! ## Operations -/

/-- The operations of an initialization. -/
def Initializes : EnclaveOp → Prop
  | .exchange _ frame => ∃ request : BrokerRequest, Fits request ∧ frame = frameOf (toVec request)
  | .loadEnvironment => False
  | .serveEnclaveRpc _ => False
  | _ => True

/-- A request to the broker belongs to an initialization. -/
theorem initializes_of_asks {endpoint : Endpoint} {request : BrokerRequest} {o : EnclaveOp}
    (ho : Asks endpoint request o) : Initializes o := by
  rcases ho with rfl | ⟨hfits, rfl⟩
  · trivial
  · exact ⟨request, hfits, rfl⟩

/-- Loading an object belongs to an initialization. -/
theorem initializes_of_reads {o : EnclaveOp} (ho : Reads o) : Initializes o := by
  cases o with
  | exchange endpoint frame =>
    obtain ⟨request, hfits, hframe, _⟩ := ho
    exact ⟨request, hfits, hframe⟩
  | loadEnvironment => exact ho
  | serveEnclaveRpc endpoint => exact ho
  | _ => trivial

/-- A `GenerateDataKey` call, and the request for credentials before it. -/
def Generates (endpoint : Endpoint) (slot : KmsSlot) (o : EnclaveOp) : Prop :=
  Asks endpoint (.getAwsCredentials slot) o ∨
    (∃ client request, o = .generateDataKey client request) ∨
    ∃ client keyId keyBits, o = .nkmsGenerateDataKey client keyId keyBits

/-- Generating a data key belongs to an initialization. -/
theorem initializes_of_generates {endpoint : Endpoint} {slot : KmsSlot} {o : EnclaveOp}
    (ho : Generates endpoint slot o) : Initializes o := by
  rcases ho with ho | ⟨client, request, rfl⟩ | ⟨client, keyId, keyBits, rfl⟩
  · exact initializes_of_asks ho
  · trivial
  · trivial

/-- Generating a data key asks for the credentials of its slot, and calls KMS. -/
theorem uses_generateDataKey : (kmsClient.generateDataKey crates settings key).Uses
    (Generates kmsClient.brokerEndpoint key.slot) := by
  refine Uses.bind (uses_requestBrokerCredentials.mono fun _ => .inl) fun credentials => ?_
  cases kmsClient with
  | «local» endpoint =>
    refine uses_ofExcept_bind fun requestSettings _ =>
      ⟨.inr (.inl ⟨_, _, rfl⟩), fun answer => ?_⟩
    refine uses_ofExcept_bind fun _ _ => uses_ofExcept_bind fun _ _ => uses_ofExcept_bind ?_
    exact fun _ _ => trivial
  | nitro client endpoint =>
    refine uses_ofExcept_bind fun _ _ => uses_ofExcept_bind fun _ _ => uses_ofExcept_bind fun _ _ =>
      uses_ofExcept_bind fun native _ => uses_ofExcept_bind fun keyIdC _ =>
        ⟨.inr (.inr ⟨_, _, _, rfl⟩), fun answer => ?_⟩
    cases answer <;> trivial

/-- Verifying an upload loads the object. -/
theorem uses_verifyUploadedObject {bucket objectName expectedHash : String} :
    (verifyUploadedObject crates s3Client bucket objectName expectedHash).Uses Reads := by
  refine uses_reads_loadObject.bind fun _ => uses_ofExcept_bind fun _ _ => ?_
  exact uses_ofExcept

/-- Creating a package performs operations of an initialization. -/
theorem uses_createRecoveryObject {privateKey publicKey : Vector UInt8 32} :
    (createRecoveryObject crates s3Client kmsClient settings privateKey publicKey key).Uses
      Initializes := by
  refine Uses.bind (uses_generateDataKey.mono fun _ => initializes_of_generates) fun generated => ?_
  refine uses_ofExcept_bind fun _ _ => uses_ofExcept_bind fun _ _ => ⟨trivial, fun nonce => ?_⟩
  refine uses_ofExcept_bind fun _ _ => uses_ofExcept_bind fun _ _ =>
    uses_ofExcept_bind fun _ _ => ?_
  refine Uses.bind (uses_saveObjectIfAbsent.mono fun _ => initializes_of_asks) fun _ => ?_
  refine Uses.bind (uses_verifyUploadedObject.mono fun _ => initializes_of_reads) fun _ => ?_
  exact Uses.bind (uses_reads_restoreFromPackage.mono fun _ => initializes_of_reads) fun _ =>
    trivial

/-- So does creating the packages of all keys. -/
theorem uses_createRecoveryObjects {privateKey publicKey : Vector UInt8 32}
    (keys : List KmsKeySettings) (recoveryObjects : List RecoveryObjectReference) :
    (createRecoveryObjects crates s3Client kmsClient settings privateKey publicKey recoveryObjects
      keys).Uses Initializes := by
  induction keys generalizing recoveryObjects with
  | nil => trivial
  | cons key keys ih => exact uses_createRecoveryObject.bind fun _ => ih _

/-- Initialization performs only operations of an initialization. -/
theorem uses_initializeKeyMaterial :
    (initializeKeyMaterial crates s3Client kmsClient settings).Uses Initializes := by
  refine Uses.bind (uses_reads_loadObject.mono fun _ => initializes_of_reads) fun existing => ?_
  refine uses_ofExcept_bind fun _ _ => ⟨trivial, fun privateKey => ?_⟩
  refine (uses_createRecoveryObjects _ _).bind fun recoveryObjects => ?_
  refine Uses.bind (uses_saveObjectIfAbsent.mono fun _ => initializes_of_asks) fun _ => ?_
  refine Uses.bind (uses_verifyUploadedObject.mono fun _ => initializes_of_reads) fun _ => ?_
  exact Uses.bind (uses_saveObjectIfAbsent.mono fun _ => initializes_of_asks) fun _ => trivial

/-! ## Deposits -/

/-- The first half of the loop body, up to the names. -/
def makeDeposit (crates : Crates) (kmsClient : KmsDataKeyClient) (settings : ParentSettings)
    (privateKey : Vector UInt8 32) (key : KmsKeySettings) : EnclaveProgram Deposit := do
  let generated ← kmsClient.generateDataKey crates settings key
  failIf (generated.kmsKeyId ≠ key.keyArn)
    (.err s!"KMS GenerateDataKey returned unexpected key ID {generated.kmsKeyId}; expected {key.keyArn}")
  ofText (validateDataKeyLen generated.plaintextDataKey)
  let nonce ← random aesGcmNonceLength
  let encryptedPrivateKey ←
    encryptPrivateKey crates generated.plaintextDataKey nonce privateKey.toList
  let storageId ← ofText (kmsKeyStorageId crates key.keyArn)
  let displayId ← ofText (kmsKeyDisplayId key.keyArn)
  return ⟨generated, nonce, encryptedPrivateKey, storageId, displayId⟩

/-- The second half of the loop body: save the package, find it saved, and restore from it. -/
def storeDeposit (crates : Crates) (s3Client : BrokerS3Client) (kmsClient : KmsDataKeyClient)
    (settings : ParentSettings) (publicKey : Vector UInt8 32) (key : KmsKeySettings) (d : Deposit) :
    EnclaveProgram RecoveryObjectReference := do
  s3Client.saveObjectIfAbsent crates settings.s3Bucket (d.objectKey crates settings) (d.body crates)
  verifyUploadedObject crates s3Client settings.s3Bucket (d.objectKey crates settings)
    (d.hash crates)
  restoreFromPackage crates kmsClient settings key (d.package crates) publicKey
  return d.reference crates settings key

/-- The loop body is its two halves. -/
theorem createRecoveryObject_eq (privateKey publicKey : Vector UInt8 32) :
    createRecoveryObject crates s3Client kmsClient settings privateKey publicKey key =
      (makeDeposit crates kmsClient settings privateKey key).bind
        (storeDeposit crates s3Client kmsClient settings publicKey key) := by
  unfold createRecoveryObject makeDeposit
  simp only [bind_eq, Program.bind_assoc, pure_eq, ret_bind]
  rfl

/-- A deposit is made of a data key that KMS generated for the key, a nonce that was drawn, and the
private key encrypted under both. -/
structure Deposited (crates : Crates) (kmsClient : KmsDataKeyClient) (settings : ParentSettings)
    (privateKey : Vector UInt8 32) (key : KmsKeySettings) (tr : List EnclaveEvent) (d : Deposit) :
    Prop where
  trace : ∃ tr₁, tr = tr₁ ++ [⟨.random 12, d.nonce⟩] ∧
    (kmsClient.generateDataKey crates settings key).Yields tr₁ (.ok d.generated)
  keyId : d.generated.kmsKeyId = key.keyArn
  dataKeyLength : d.generated.plaintextDataKey.length = 16 ∨
    d.generated.plaintextDataKey.length = 32
  encrypted : encryptPrivateKey crates d.generated.plaintextDataKey d.nonce privateKey.toList =
    .ok d.encryptedPrivateKey
  storageId : kmsKeyStorageId crates key.keyArn = .ok d.storageId
  displayId : kmsKeyDisplayId key.keyArn = .ok d.displayId

/-- A package that was made is a deposit. -/
theorem deposited_of_yields {privateKey : Vector UInt8 32} {d : Deposit}
    (h : (makeDeposit crates kmsClient settings privateKey key).Yields tr (.ok d)) :
    Deposited crates kmsClient settings privateKey key tr d := by
  obtain ⟨tr₁, tr₂, generated, rfl, hgenerate, h₁⟩ := yields_bind_ok.mp h
  obtain ⟨_, hkeyId, h₂⟩ := yields_ofExcept_bind_ok.mp h₁
  obtain ⟨_, hlength, h₃⟩ := yields_ofExcept_bind_ok.mp h₂
  obtain ⟨nonce, tr₃, rfl, h₄⟩ := yields_op.mp h₃
  obtain ⟨encrypted, hencrypted, h₅⟩ := yields_ofExcept_bind_ok.mp h₄
  obtain ⟨storageId, hstorage, h₆⟩ := yields_ofExcept_bind_ok.mp h₅
  obtain ⟨displayId, hdisplay, h₇⟩ := yields_ofExcept_bind_ok.mp h₆
  obtain ⟨rfl, rfl⟩ := yields_ret_ok.mp h₇
  exact {
    trace := ⟨tr₁, rfl, hgenerate⟩
    keyId := not_not.mp (failIf_eq_ok.mp hkeyId)
    dataKeyLength := validateDataKeyLen_eq_ok.mp (ofText_eq_ok.mp hlength)
    encrypted := hencrypted
    storageId := ofText_eq_ok.mp hstorage
    displayId := ofText_eq_ok.mp hdisplay }

/-- A slot has been filled: deposited, saved, found as saved, and restored. -/
structure SlotFilled (crates : Crates) (s3Client : BrokerS3Client) (kmsClient : KmsDataKeyClient)
    (settings : ParentSettings) (privateKey publicKey : Vector UInt8 32) (key : KmsKeySettings)
    (tr : List EnclaveEvent) (d : Deposit) : Prop where
  parts : ∃ tr₁ tr₂ tr₃ tr₄, tr = tr₁ ++ (tr₂ ++ (tr₃ ++ tr₄)) ∧
    Deposited crates kmsClient settings privateKey key tr₁ d ∧
    (s3Client.saveObjectIfAbsent crates settings.s3Bucket (d.objectKey crates settings)
      (d.body crates)).Yields tr₂ (.ok ()) ∧
    (verifyUploadedObject crates s3Client settings.s3Bucket (d.objectKey crates settings)
      (d.hash crates)).Yields tr₃ (.ok ()) ∧
    (restoreFromPackage crates kmsClient settings key (d.package crates) publicKey).Yields tr₄
      (.ok ())

variable {privateKey publicKey : Vector UInt8 32}

/-- A package that was created fills its slot. -/
theorem slotFilled_of_yields {reference : RecoveryObjectReference}
    (h : (createRecoveryObject crates s3Client kmsClient settings privateKey
      publicKey key).Yields tr (.ok reference)) :
    ∃ d, reference = d.reference crates settings key ∧
      SlotFilled crates s3Client kmsClient settings privateKey publicKey key tr d := by
  rw [createRecoveryObject_eq] at h
  obtain ⟨tr₁, tr₂, d, rfl, hmake, h₁⟩ := yields_bind_ok.mp h
  obtain ⟨tr₃, tr₄, _, rfl, hsave, h₂⟩ := yields_bind_ok.mp h₁
  obtain ⟨tr₅, tr₆, _, rfl, hverify, h₃⟩ := yields_bind_ok.mp h₂
  obtain ⟨tr₇, tr₈, _, rfl, hrestore, h₄⟩ := yields_bind_ok.mp h₃
  obtain ⟨rfl, rfl⟩ := yields_ret_ok.mp h₄
  exact ⟨d, rfl, ⟨tr₁, tr₃, tr₅, tr₇, by simp, deposited_of_yields hmake, hsave, hverify, hrestore⟩⟩

/-- For each key of a list, a slot has been filled in the course of `tr`, with these references. -/
def SlotsFilled (crates : Crates) (s3Client : BrokerS3Client) (kmsClient : KmsDataKeyClient)
    (settings : ParentSettings) (privateKey publicKey : Vector UInt8 32) (tr : List EnclaveEvent) :
    List KmsKeySettings → List RecoveryObjectReference → Prop :=
  List.Forall₂ fun key reference => ∃ tr' d, tr' <:+: tr ∧
    reference = d.reference crates settings key ∧
    SlotFilled crates s3Client kmsClient settings privateKey publicKey key tr' d

/-- Filled slots stay filled in a longer execution. -/
theorem SlotsFilled.mono {tr' : List EnclaveEvent} {keys : List KmsKeySettings}
    {references : List RecoveryObjectReference}
    (h : SlotsFilled crates s3Client kmsClient settings privateKey publicKey tr keys references)
    (hsub : tr <:+: tr') :
    SlotsFilled crates s3Client kmsClient settings privateKey publicKey tr' keys references :=
  h.imp fun _ _ ⟨tr₁, d, htr₁, hd⟩ => ⟨tr₁, d, htr₁.trans hsub, hd⟩

/-- Every reference is to a slot that was filled. -/
theorem SlotsFilled.exists_of_mem {keys : List KmsKeySettings}
    {references : List RecoveryObjectReference} {reference : RecoveryObjectReference}
    (h : SlotsFilled crates s3Client kmsClient settings privateKey publicKey tr keys references)
    (hmem : reference ∈ references) :
    ∃ key ∈ keys, ∃ tr' d, tr' <:+: tr ∧ reference = d.reference crates settings key ∧
      SlotFilled crates s3Client kmsClient settings privateKey publicKey key tr' d := by
  induction h with
  | nil => cases hmem
  | cons hmade _ ih =>
    rcases List.mem_cons.mp hmem with rfl | htail
    · exact ⟨_, List.mem_cons_self, hmade⟩
    · obtain ⟨key, hkey, hrest⟩ := ih htail
      exact ⟨key, List.mem_cons_of_mem _ hkey, hrest⟩

/-- The loop fills the slots of its keys, in order. -/
theorem slotsFilled_of_yields {keys : List KmsKeySettings}
    {recoveryObjects references : List RecoveryObjectReference}
    (h : (createRecoveryObjects crates s3Client kmsClient settings privateKey publicKey
      recoveryObjects keys).Yields tr (.ok references)) :
    ∃ made, references = recoveryObjects ++ made ∧
      SlotsFilled crates s3Client kmsClient settings privateKey publicKey tr keys made := by
  induction keys generalizing recoveryObjects tr with
  | nil =>
    obtain ⟨rfl, rfl⟩ := yields_ret_ok.mp h
    exact ⟨[], by simp, .nil⟩
  | cons key keys ih =>
    obtain ⟨tr₁, tr₂, reference, rfl, hcreate, hrest⟩ := yields_bind_ok.mp h
    obtain ⟨made, rfl, hmade⟩ := ih hrest
    obtain ⟨d, rfl, hfilled⟩ := slotFilled_of_yields hcreate
    refine ⟨d.reference crates settings key :: made, by simp, .cons ?_ ?_⟩
    · exact ⟨tr₁, d, ⟨[], tr₂, by simp⟩, rfl, hfilled⟩
    · exact hmade.mono ⟨tr₁, [], by simp⟩

/-! ## Drafts -/

/-- The first part of an initialization: check for a manifest, draw a private key, and fill the
slots. -/
def draftKeyMaterial (crates : Crates) (s3Client : BrokerS3Client) (kmsClient : KmsDataKeyClient)
    (settings : ParentSettings) : EnclaveProgram Draft := do
  let existing ← s3Client.loadObject crates settings.s3Bucket (manifestKey settings)
  failIf existing.isSome
    (.err s!"key manifest already exists at s3://{settings.s3Bucket}/{manifestKey settings}; refusing to generate or overwrite key material")
  let privateKey ← random ed25519PrivateKeyLength
  let recoveryObjects ← createRecoveryObjects crates s3Client kmsClient settings privateKey
    (crates.ed25519PublicKey privateKey) [] settings.kmsKeys
  return ⟨privateKey, recoveryObjects⟩

/-- The second part: save the public document, and find it saved. -/
def publish (crates : Crates) (s3Client : BrokerS3Client) (settings : ParentSettings)
    (draft : Draft) : EnclaveProgram Unit := do
  s3Client.saveObjectIfAbsent crates settings.s3Bucket (draft.publicObjectKey crates settings)
    (draft.publicBody crates)
  verifyUploadedObject crates s3Client settings.s3Bucket (draft.publicObjectKey crates settings)
    (sha256Hex crates (draft.publicBody crates))

/-- The last part: save the manifest. -/
def commit (crates : Crates) (s3Client : BrokerS3Client) (settings : ParentSettings)
    (draft : Draft) : EnclaveProgram RestoredKeyPair := do
  s3Client.saveObjectIfAbsent crates settings.s3Bucket (manifestKey settings)
    (draft.manifestBody crates settings)
  return draft.pair crates

/-- An initialization is its three parts. -/
theorem initializeKeyMaterial_eq :
    initializeKeyMaterial crates s3Client kmsClient settings =
      (draftKeyMaterial crates s3Client kmsClient settings).bind fun draft =>
        (publish crates s3Client settings draft).bind fun _ =>
          commit crates s3Client settings draft := by
  unfold initializeKeyMaterial draftKeyMaterial publish commit
  simp only [bind_eq, Program.bind_assoc, pure_eq, ret_bind]
  rfl

/-- A draft was made: there was no manifest, the private key was drawn, and the slots were
filled. -/
structure Drafted (crates : Crates) (s3Client : BrokerS3Client) (kmsClient : KmsDataKeyClient)
    (settings : ParentSettings) (tr : List EnclaveEvent) (draft : Draft) : Prop where
  parts : ∃ tr₁ tr₂, tr = tr₁ ++ ⟨.random 32, draft.privateKey⟩ :: tr₂ ∧
    (s3Client.loadObject crates settings.s3Bucket (manifestKey settings)).Yields tr₁ (.ok none)
  slots : SlotsFilled crates s3Client kmsClient settings draft.privateKey
    (draft.publicKey crates) tr settings.kmsKeys draft.recoveryObjects

/-- Key material that was drafted has its slots filled. -/
theorem drafted_of_yields {draft : Draft}
    (h : (draftKeyMaterial crates s3Client kmsClient settings).Yields tr (.ok draft)) :
    Drafted crates s3Client kmsClient settings tr draft := by
  obtain ⟨tr₁, tr₂, existing, rfl, hload, h₁⟩ := yields_bind_ok.mp h
  obtain ⟨_, hexisting, h₂⟩ := yields_ofExcept_bind_ok.mp h₁
  obtain ⟨privateKey, tr₃, rfl, h₃⟩ := yields_op.mp h₂
  rw [ret_bind] at h₃
  obtain ⟨tr₄, tr₅, recoveryObjects, rfl, hcreate, h₄⟩ := yields_bind_ok.mp h₃
  obtain ⟨rfl, rfl⟩ := yields_ret_ok.mp h₄
  have hnone : existing = none := by
    have := failIf_eq_ok.mp hexisting
    simpa using this
  subst hnone
  obtain ⟨made, hmade, hslots⟩ := slotsFilled_of_yields hcreate
  rw [List.nil_append] at hmade
  subst hmade
  exact ⟨⟨tr₁, tr₄, by simp, hload⟩, hslots.mono ⟨tr₁ ++ [⟨.random 32, privateKey⟩], [], by simp⟩⟩

/-- A run that returned has made a draft, published it, and committed it. -/
theorem yields_initializeKeyMaterial_ok {pair : RestoredKeyPair}
    (h : (initializeKeyMaterial crates s3Client kmsClient settings).Yields tr (.ok pair)) :
    ∃ draft tr₁ tr₂ tr₃, tr = tr₁ ++ (tr₂ ++ tr₃) ∧ pair = draft.pair crates ∧
      (draftKeyMaterial crates s3Client kmsClient settings).Yields tr₁ (.ok draft) ∧
      (publish crates s3Client settings draft).Yields tr₂ (.ok ()) ∧
      (s3Client.saveObjectIfAbsent crates settings.s3Bucket (manifestKey settings)
        (draft.manifestBody crates settings)).Yields tr₃ (.ok ()) := by
  rw [initializeKeyMaterial_eq] at h
  obtain ⟨tr₁, tr₂, draft, rfl, hdraft, h₁⟩ := yields_bind_ok.mp h
  obtain ⟨tr₃, tr₄, _, rfl, hpublish, h₂⟩ := yields_bind_ok.mp h₁
  obtain ⟨tr₅, tr₆, _, rfl, hcommit, h₃⟩ := yields_bind_ok.mp h₂
  obtain ⟨rfl, rfl⟩ := yields_ret_ok.mp h₃
  exact ⟨draft, tr₁, tr₃, tr₅, by simp, rfl, hdraft, hpublish, hcommit⟩

/-! ## Saves -/

/-- What a run that has gone through the events `tr` asks the broker to save: the package of a slot,
the public document, or the manifest, once there is a draft that was published. -/
inductive AsksToSave (crates : Crates) (s3Client : BrokerS3Client) (kmsClient : KmsDataKeyClient)
    (settings : ParentSettings) (tr : List EnclaveEvent) (o : EnclaveOp) : Prop where
  | package (privateKey : Vector UInt8 32) (key : KmsKeySettings) (d : Deposit)
      (tr' : List EnclaveEvent) (hkey : key ∈ settings.kmsKeys)
      (hprivate : (⟨.random 32, privateKey⟩ : EnclaveEvent) ∈ tr) (htr : tr' <:+: tr)
      (hd : Deposited crates kmsClient settings privateKey key tr' d)
      (ho : Asks s3Client.endpoint (.saveObjectIfAbsent settings.s3Bucket
        (d.objectKey crates settings) (d.body crates)) o)
  | document (draft : Draft)
      (hprivate : (⟨.random 32, draft.privateKey⟩ : EnclaveEvent) ∈ tr)
      (ho : Asks s3Client.endpoint (.saveObjectIfAbsent settings.s3Bucket
        (draft.publicObjectKey crates settings) (draft.publicBody crates)) o)
  | manifest (draft : Draft) (tr₁ tr₂ tr₃ : List EnclaveEvent) (htr : tr = tr₁ ++ (tr₂ ++ tr₃))
      (hdraft : (draftKeyMaterial crates s3Client kmsClient settings).Yields tr₁ (.ok draft))
      (hpublish : (publish crates s3Client settings draft).Yields tr₂ (.ok ()))
      (ho : Asks s3Client.endpoint (.saveObjectIfAbsent settings.s3Bucket (manifestKey settings)
        (draft.manifestBody crates settings)) o)

/-- Generating a data key saves nothing. -/
theorem not_saves_of_generates {endpoint : Endpoint} {slot : KmsSlot} {o : EnclaveOp}
    (ho : Generates endpoint slot o) : ¬ o.Saves := by
  rcases ho with ho | ⟨client, request, rfl⟩ | ⟨client, keyId, keyBits, rfl⟩
  · exact not_saves_of_reads (reads_of_asks id ho)
  · exact id
  · exact id

/-- Making a deposit saves nothing. -/
theorem uses_makeDeposit : (makeDeposit crates kmsClient settings privateKey key).Uses
    fun o => ¬ o.Saves := by
  refine Uses.bind (uses_generateDataKey.mono fun _ => not_saves_of_generates) fun generated => ?_
  refine uses_ofExcept_bind fun _ _ => uses_ofExcept_bind fun _ _ => ⟨id, fun nonce => ?_⟩
  refine uses_ofExcept_bind fun _ _ => uses_ofExcept_bind fun _ _ =>
    uses_ofExcept_bind fun _ _ => ?_
  trivial

/-- A deposit is the only thing that is saved while it is stored. -/
theorem uses_storeDeposit {d : Deposit} :
    (storeDeposit crates s3Client kmsClient settings publicKey key d).Uses fun o =>
      o.Saves → Asks s3Client.endpoint (.saveObjectIfAbsent settings.s3Bucket
        (d.objectKey crates settings) (d.body crates)) o := by
  have hreads : ∀ o, Reads o → o.Saves → Asks s3Client.endpoint (.saveObjectIfAbsent
      settings.s3Bucket (d.objectKey crates settings) (d.body crates)) o :=
    fun o ho hsaves => absurd hsaves (not_saves_of_reads ho)
  refine Uses.bind (uses_saveObjectIfAbsent.mono fun _ ho _ => ho) fun _ => ?_
  refine Uses.bind (uses_verifyUploadedObject.mono hreads) fun _ => ?_
  exact Uses.bind (uses_reads_restoreFromPackage.mono hreads) fun _ => trivial

/-- What is saved while a package is created is the package. -/
theorem issues_createRecoveryObject {o : EnclaveOp} (hsaves : o.Saves)
    (h : (createRecoveryObject crates s3Client kmsClient settings privateKey
      publicKey key).Issues tr o) :
    ∃ d tr', tr' <:+: tr ∧ Deposited crates kmsClient settings privateKey key tr' d ∧
      Asks s3Client.endpoint (.saveObjectIfAbsent settings.s3Bucket
        (d.objectKey crates settings) (d.body crates)) o := by
  rw [createRecoveryObject_eq] at h
  rcases issues_bind.mp h with hmake | ⟨tr₁, tr₂, d, rfl, hmake, hstore⟩
  · exact absurd hsaves (uses_makeDeposit.of_issues hmake)
  · exact ⟨d, tr₁, ⟨[], tr₂, by simp⟩, deposited_of_yields hmake,
      uses_storeDeposit.of_issues hstore hsaves⟩

/-- What is saved while packages are created is one of them. -/
theorem issues_createRecoveryObjects {o : EnclaveOp} (hsaves : o.Saves)
    {keys : List KmsKeySettings} {recoveryObjects : List RecoveryObjectReference}
    (h : (createRecoveryObjects crates s3Client kmsClient settings privateKey publicKey
      recoveryObjects keys).Issues tr o) :
    ∃ key ∈ keys, ∃ d tr', tr' <:+: tr ∧ Deposited crates kmsClient settings privateKey key tr' d ∧
      Asks s3Client.endpoint (.saveObjectIfAbsent settings.s3Bucket
        (d.objectKey crates settings) (d.body crates)) o := by
  induction keys generalizing recoveryObjects tr with
  | nil => exact absurd h issues_ret
  | cons key keys ih =>
    rcases issues_bind.mp h with hcreate | ⟨tr₁, tr₂, reference, rfl, _, hrest⟩
    · exact ⟨key, List.mem_cons_self, issues_createRecoveryObject hsaves hcreate⟩
    · obtain ⟨key', hkey', d, tr', htr', hd⟩ := ih hrest
      exact ⟨key', List.mem_cons_of_mem _ hkey', d, tr', htr'.trans ⟨tr₁, [], by simp⟩, hd⟩

/-- The public document is the only thing that is saved while it is published. -/
theorem uses_publish {draft : Draft} : (publish crates s3Client settings draft).Uses fun o =>
    o.Saves → Asks s3Client.endpoint (.saveObjectIfAbsent settings.s3Bucket
      (draft.publicObjectKey crates settings) (draft.publicBody crates)) o := by
  refine Uses.bind (uses_saveObjectIfAbsent.mono fun _ ho _ => ho) fun _ => ?_
  exact uses_verifyUploadedObject.mono fun o ho hsaves => absurd hsaves (not_saves_of_reads ho)

/-- Committing is one request, to save the manifest. -/
theorem uses_commit {draft : Draft} : (commit crates s3Client settings draft).Uses
    (Asks s3Client.endpoint (.saveObjectIfAbsent settings.s3Bucket (manifestKey settings)
      (draft.manifestBody crates settings))) :=
  Uses.bind uses_saveObjectIfAbsent fun _ => trivial

/-- Whatever a run asks to save is one of the three things. -/
theorem asksToSave_of_issues {o : EnclaveOp} (hsaves : o.Saves)
    (h : (initializeKeyMaterial crates s3Client kmsClient settings).Issues tr o) :
    AsksToSave crates s3Client kmsClient settings tr o := by
  rw [initializeKeyMaterial_eq] at h
  rcases issues_bind.mp h with hdraft | ⟨tr₁, tr₂, draft, rfl, hdraft, h₁⟩
  · rcases issues_bind.mp hdraft with hload | ⟨tr₁, tr₂, existing, rfl, hload, h₁⟩
    · exact absurd hsaves (not_saves_of_reads (uses_reads_loadObject.of_issues hload))
    · obtain ⟨_, _, h₂⟩ := issues_ofExcept_bind.mp h₁
      rcases issues_op.mp h₂ with ⟨_, rfl⟩ | ⟨privateKey, tr₃, rfl, h₃⟩
      · exact absurd hsaves id
      · rw [ret_bind] at h₃
        rcases issues_bind.mp h₃ with hcreate | ⟨_, _, _, _, _, hret⟩
        · obtain ⟨key, hkey, d, tr', htr', hd, ho⟩ := issues_createRecoveryObjects hsaves hcreate
          exact .package privateKey key d tr' hkey (by simp)
            (htr'.trans ⟨tr₁ ++ [⟨.random 32, privateKey⟩], [], by simp⟩) hd ho
        · exact absurd hret issues_ret
  · rcases issues_bind.mp h₁ with hpublish | ⟨tr₃, tr₄, _, rfl, hpublish, hcommit⟩
    · obtain ⟨tr₃, tr₄, rfl, _⟩ := (drafted_of_yields hdraft).parts
      exact .document draft (by simp) (uses_publish.of_issues hpublish hsaves)
    · exact .manifest draft tr₁ tr₃ tr₄ rfl hdraft hpublish (uses_commit.of_issues hcommit)

end AwsKmsDemo
