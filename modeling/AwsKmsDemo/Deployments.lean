import AwsKmsDemo.Binding
import AwsKmsDemo.Recovery

/-!
# Deployments without faults

What it takes for an initialization that is alone to meet no fault: settings and encrypted data keys
of moderate size stay within the limits of the protocol. In surroundings that always answer the
same, nothing can be in its way either, so it returns.
-/

namespace AwsKmsDemo

open Interaction Interaction.Program Stream Storage

variable {world : Surroundings} {crates : Crates} {run : InitRun} {kmsClient : KmsDataKeyClient}
  {s3Client : BrokerS3Client} {settings : ParentSettings} {key : KmsKeySettings}
  {tr : List EnclaveEvent}

/-! ## Moderate sizes -/

/-- The texts of the settings are of moderate size. -/
structure ParentSettings.Moderate (settings : ParentSettings) : Prop where
  s3Bucket : settings.s3Bucket.toList.length ≤ 1000
  s3Prefix : settings.s3Prefix.toList.length ≤ 1000
  keyArn : ∀ key ∈ settings.kmsKeys, key.keyArn.toList.length ≤ 1000

/-- KMS encrypts data keys to blobs of moderate size. -/
def Surroundings.Moderate (world : Surroundings) : Prop :=
  ∀ plaintext ciphertext, world.generates plaintext ciphertext → ciphertext.length ≤ 4096

/-- An encrypted private key is 48 bytes long. -/
theorem length_of_encryptPrivateKey {dataKey ciphertext : Bytes} {nonce : Vector UInt8 12}
    {privateKey : Vector UInt8 32}
    (h : encryptPrivateKey reference dataKey nonce privateKey.toList = .ok ciphertext) :
    ciphertext.length = 48 := by
  obtain ⟨cipher, _, hencrypt⟩ := except_bind_eq_ok.mp h
  have hreference : referenceEncrypt cipher dataKey nonce privateKey.toList = .ok ciphertext :=
    ofText_eq_ok.mp hencrypt
  unfold referenceEncrypt at hreference
  split_ifs at hreference with hlength
  calc ciphertext.length = (Crypto.gcmEncrypt dataKey nonce.toList privateKey.toList).length := by
        rw [← Except.ok.inj hreference]
    _ = privateKey.toList.length + Crypto.tagLength := Crypto.length_gcmEncrypt _
    _ = 48 := by rw [Vector.length_toList]; rfl

section Moderate

variable (hworld : world.Moderate) {privateKey : Vector UInt8 32} {d : Deposit}
  (hanswered : ∀ e ∈ tr, world.Answered e)
  (h : Deposited reference kmsClient settings privateKey key tr d)

include hworld hanswered h in
/-- The package of a slot is of moderate size. -/
theorem Deposited.length_body : (d.body reference).length ≤ 200000 := by
  obtain ⟨tr₁, rfl, hgenerate⟩ := h.trace
  have hgenerates := generates_of_yields hgenerate fun e he => hanswered e (by simp [he])
  have hprivate := length_of_encryptPrivateKey h.encrypted
  exact length_body_le (hworld _ _ hgenerates) (by omega)

include h in
/-- Its name is short. -/
theorem Deposited.length_relativeKey : (d.relativeKey reference).toList.length ≤ 150 :=
  length_relativeKey_le (length_of_kmsKeyStorageId h.storageId)
    (length_of_kmsKeyDisplayId h.displayId)

end Moderate

/-- The key of the manifest is of moderate length. -/
theorem length_manifestKey_le (h : settings.Moderate) :
    (manifestKey settings).toList.length ≤ 2000 := by
  have hname : manifestFileName.toList.length ≤ 100 := by decide
  have hpre := h.s3Prefix
  unfold manifestKey
  rw [length_objectKey]
  omega

/-- The frames of a run with moderate settings fit. -/
theorem framesFit_of_moderate (hworld : world.Moderate) (hsettings : run.settings.Moderate)
    (htwo : run.settings.kmsKeys.length = 2) : FramesFit world reference run where
  loadManifest := by
    -- A request to load is smaller than one that saves an empty body under the same name.
    have hsave : Fits (BrokerRequest.saveObjectIfAbsent run.settings.s3Bucket
        (manifestKey run.settings) []) :=
      fits_save_of_le hsettings.s3Bucket (length_manifestKey_le hsettings) (Nat.zero_le _)
    exact fits_load_of_fits_save hsave
  savePackage key _ privateKey tr d hanswered h := by
    refine fits_save_of_le hsettings.s3Bucket ?_ (h.length_body hworld hanswered)
    have hname := h.length_relativeKey
    have hpre := hsettings.s3Prefix
    unfold Deposit.objectKey
    rw [length_objectKey]
    omega
  savePublic draft _ := by
    refine fits_save_of_le hsettings.s3Bucket ?_ (length_publicBody_le draft)
    have hpre := hsettings.s3Prefix
    unfold Draft.publicObjectKey
    rw [length_objectKey, length_publicKeyName]
    omega
  saveManifest tr draft _ h := by
    have hpre := hsettings.s3Prefix
    have hreferences : draft.recoveryObjects.length = 2 := by
      rw [← List.Forall₂.length_eq h.slots, htwo]
    have hmoderate : ∀ reference ∈ draft.recoveryObjects, reference.Moderate := by
      intro reference hreference
      obtain ⟨key, hkey, tr', d, _, rfl, hfilled⟩ := h.slots.exists_of_mem hreference
      obtain ⟨tr₁, _, _, _, _, hdeposited, _⟩ := hfilled.parts
      have hname := hdeposited.length_relativeKey
      refine ⟨hsettings.keyArn key hkey, ?_, Nat.le_of_eq (length_sha256Hex _)⟩
      show (objectKey _ _).toList.length ≤ 2000
      rw [length_objectKey]
      omega
    exact fits_save_of_le hsettings.s3Bucket (length_manifestKey_le hsettings)
      (length_manifestBody_le hreferences hmoderate hsettings.s3Prefix)

/-! ## Uniform surroundings -/

/-- The surroundings always draw the same values, and always generate the same data key. -/
structure Surroundings.Uniform (world : Surroundings) : Prop where
  draws : ∀ {n : ℕ} {v v' : Vector UInt8 n}, world.draws n v → world.draws n v' → v = v'
  generates : ∀ {plaintext ciphertext plaintext' ciphertext' : Bytes},
    world.generates plaintext ciphertext → world.generates plaintext' ciphertext' →
      plaintext = plaintext' ∧ ciphertext = ciphertext'

/-- What was drawn was drawn from the surroundings. -/
theorem draws_of_mem {n : ℕ} {v : Vector UInt8 n} (hanswered : ∀ e ∈ tr, world.Answered e)
    (hmem : (⟨.random n, v⟩ : EnclaveEvent) ∈ tr) : world.draws n v :=
  (hanswered _ hmem).resolve_left id

section Uniform

variable (huniform : world.Uniform) {tr' : List EnclaveEvent}
  (hanswered : ∀ e ∈ tr, world.Answered e) (hanswered' : ∀ e ∈ tr', world.Answered e)

include huniform hanswered hanswered'

/-- All deposits of one private key are the same package. -/
theorem Deposited.body_eq {settings' : ParentSettings} {key' : KmsKeySettings}
    {privateKey : Vector UInt8 32} {d d' : Deposit}
    (h : Deposited crates kmsClient settings privateKey key tr d)
    (h' : Deposited crates kmsClient settings' privateKey key' tr' d') :
    d.body crates = d'.body crates := by
  obtain ⟨tr₁, rfl, hgenerate⟩ := h.trace
  obtain ⟨tr₁', rfl, hgenerate'⟩ := h'.trace
  -- Uniform surroundings have drawn the same nonce and generated the same data key for both.
  have hnonce : d.nonce = d'.nonce :=
    huniform.draws (draws_of_mem hanswered (by simp)) (draws_of_mem hanswered' (by simp))
  have hgenerated := generates_of_yields hgenerate fun e he => hanswered e (by simp [he])
  have hgenerated' := generates_of_yields hgenerate' fun e he => hanswered' e (by simp [he])
  obtain ⟨hplaintext, hciphertext⟩ := huniform.generates hgenerated hgenerated'
  have hencrypted : d.encryptedPrivateKey = d'.encryptedPrivateKey := by
    have hsame := h.encrypted
    rw [hplaintext, hnonce, h'.encrypted] at hsame
    exact (Except.ok.inj hsame).symm
  unfold Deposit.body Deposit.package
  rw [hciphertext, hnonce, hencrypted]

/-- Two requests of a run to save an object other than the manifest bring the same content. -/
theorem AsksToSave.body_eq {endpoint endpoint' : Endpoint} {bucket bucket' name : String}
    {body body' : Bytes} (hlaw : crates.Lawful) (hne : name ≠ manifestKey settings)
    (h : AsksToSave crates s3Client kmsClient settings tr
      (.exchange endpoint (saveFrame bucket name body)))
    (h' : AsksToSave crates s3Client kmsClient settings tr'
      (.exchange endpoint' (saveFrame bucket' name body'))) : body = body' := by
  -- The two saves are of the same kind, since names of different kinds differ, and then they were
  -- made from the same drawn values.
  cases h with
  | package privateKey key d tr₁ hkey hprivate htr₁ hd ho =>
    obtain ⟨_, rfl, rfl⟩ := BrokerRequest.saveObjectIfAbsent.inj (eq_of_asks_exchange hlaw ho)
    cases h' with
    | package privateKey' key' d' tr₁' hkey' hprivate' htr₁' hd' ho' =>
      obtain ⟨_, _, rfl⟩ := BrokerRequest.saveObjectIfAbsent.inj (eq_of_asks_exchange hlaw ho')
      obtain rfl : privateKey = privateKey' :=
        huniform.draws (draws_of_mem hanswered hprivate) (draws_of_mem hanswered' hprivate')
      exact hd.body_eq huniform (fun e he => hanswered e (htr₁.subset he))
        (fun e he => hanswered' e (htr₁'.subset he)) hd'
    | document draft' hprivate' ho' =>
      obtain ⟨_, hname, _⟩ := BrokerRequest.saveObjectIfAbsent.inj (eq_of_asks_exchange hlaw ho')
      exact absurd hname objectKey_relativeKey_ne_publicKeyName
    | manifest draft' _ _ _ _ _ _ ho' =>
      obtain ⟨_, hname, _⟩ := BrokerRequest.saveObjectIfAbsent.inj (eq_of_asks_exchange hlaw ho')
      exact absurd hname hne
  | document draft hprivate ho =>
    obtain ⟨_, rfl, rfl⟩ := BrokerRequest.saveObjectIfAbsent.inj (eq_of_asks_exchange hlaw ho)
    cases h' with
    | package privateKey' key' d' tr₁' hkey' hprivate' htr₁' hd' ho' =>
      obtain ⟨_, hname, _⟩ := BrokerRequest.saveObjectIfAbsent.inj (eq_of_asks_exchange hlaw ho')
      exact absurd hname.symm objectKey_relativeKey_ne_publicKeyName
    | document draft' hprivate' ho' =>
      obtain ⟨_, _, rfl⟩ := BrokerRequest.saveObjectIfAbsent.inj (eq_of_asks_exchange hlaw ho')
      have hsame : draft.privateKey = draft'.privateKey :=
        huniform.draws (draws_of_mem hanswered hprivate) (draws_of_mem hanswered' hprivate')
      have hpublic : draft.publicKey crates = draft'.publicKey crates := by
        unfold Draft.publicKey
        rw [hsame]
      unfold Draft.publicBody Draft.document Draft.fingerprint
      rw [hpublic]
    | manifest draft' _ _ _ _ _ _ ho' =>
      obtain ⟨_, hname, _⟩ := BrokerRequest.saveObjectIfAbsent.inj (eq_of_asks_exchange hlaw ho')
      exact absurd hname hne
  | manifest draft _ _ _ _ _ _ ho =>
    obtain ⟨_, hname, _⟩ := BrokerRequest.saveObjectIfAbsent.inj (eq_of_asks_exchange hlaw ho)
    exact absurd hname hne

end Uniform

/-! ## A run that is the only one -/

section OnlyRun

variable {config : BrokerConfig} {peerCid : Option UInt32} {configs : ConnectionId → BrokerConfig}
  {inits : ℕ → InitRun} {store₀ : S3Store} {bucket pre : String} {m : ℕ} {s t : SystemState}

/-- Only the run `m` has done anything so far, and the surroundings have answered it. -/
structure OnlyRun (world : Surroundings) (m : ℕ) (s : SystemState) : Prop where
  answered : ∀ e ∈ (s.runs m).trace, world.Answered e
  others : ∀ n, n ≠ m → (s.runs n).trace = []

/-- At first no run has done anything. -/
theorem onlyRun_start : OnlyRun world m (.start crates inits store₀) where
  answered _ he := absurd he List.not_mem_nil
  others _ _ := rfl

/-- The run `m` has come to another state, and what is new about its trace was answered. -/
theorem OnlyRun.of_setRun (h : OnlyRun world m s) {run : RunState} {broker : BrokerState}
    (hrun : ∀ e ∈ run.trace, e ∈ (s.runs m).trace ∨ world.Answered e) :
    OnlyRun world m { broker := broker, runs := setRun s.runs m run } where
  answered e he := by
    change e ∈ (setRun s.runs m run m).trace at he
    rw [setRun_self] at he
    exact (hrun e he).elim (h.answered e) id
  others n hn := by
    show (setRun s.runs m run n).trace = []
    rw [setRun_of_ne _ _ hn]
    exact h.others n hn

/-- A run that is alone remains the only one. -/
theorem OnlyRun.step (h : OnlyRun world m s)
    (hstep : AloneStep world crates config peerCid configs m s t) : OnlyRun world m t := by
  cases hstep with
  | act a ha hrun =>
    refine h.of_setRun fun e he => ?_
    rw [hrun]
    rcases List.mem_append.mp he with he | he
    · exact .inl he
    · rw [List.mem_singleton.mp he]
      exact .inr (.inr ha)
  | send id ending hpeer hconfig hrun haccept =>
    refine h.of_setRun fun e he => ?_
    rw [hrun]
    exact .inl he
  | perform choice hpending hchoice hperform => exact ⟨h.answered, h.others⟩
  | reply stream hrun hwritten =>
    refine h.of_setRun fun e he => ?_
    rw [hrun]
    rcases List.mem_append.mp he with he | he
    · exact .inl he
    · rw [List.mem_singleton.mp he]
      exact .inr (.inl trivial)

/-- Where the surroundings are uniform, nothing that a run leaves behind is in its own way. -/
theorem OnlyRun.not_blocked (hlaw : crates.Lawful) (huniform : world.Uniform)
    (honly : OnlyRun world m s) (hinv : SystemInvariant crates configs inits store₀ s)
    (hsame : SameTarget inits bucket pre)
    (hempty : ∀ name, store₀.object (bucket, objectKey pre name) = none) :
    ¬ Blocked (inits m) (s.broker.store, (s.runs m).trace) := by
  rintro ⟨name, body, found, stream, hne, hmem, hfound, hother⟩
  obtain ⟨hbucket, hpre⟩ := hsame m
  have hanswered : ∀ tr, tr <+: (s.runs m).trace → ∀ e ∈ tr, world.Answered e :=
    fun tr htr e he => honly.answered e (htr.subset he)
  -- What the run has asked to save under this name.
  obtain ⟨tr, htr, hissues⟩ := (hinv.runs m).steps.issues_of_mem hmem
  have hsaves : (EnclaveOp.exchange (inits m).s3Client.endpoint
      (saveFrame (inits m).settings.s3Bucket name body)).Saves :=
      ⟨.saveObjectIfAbsent _ name body, trivial, rfl⟩
  have hasks := asksToSave_of_issues hsaves hissues
  have hold : store₀.object ((inits m).settings.s3Bucket, name) = none := by
    have hname : ∃ relative, name = objectKey pre relative := by
      rw [← hpre]
      cases hasks with
      | package privateKey key d tr₁ hkey hprivate htr₁ hd ho =>
        exact ⟨_, (BrokerRequest.saveObjectIfAbsent.inj (eq_of_asks_exchange hlaw ho)).2.1⟩
      | document draft hprivate ho =>
        exact ⟨_, (BrokerRequest.saveObjectIfAbsent.inj (eq_of_asks_exchange hlaw ho)).2.1⟩
      | manifest draft _ _ _ _ _ _ ho =>
        exact ⟨_, (BrokerRequest.saveObjectIfAbsent.inj (eq_of_asks_exchange hlaw ho)).2.1⟩
    obtain ⟨relative, rfl⟩ := hname
    rw [hbucket]
    exact hempty relative
  -- What is there was saved by a run as well, and there is only one.
  rcases hinv.asksToSave hlaw hfound with hfirst | ⟨n, endpoint, tr', htr', hasks'⟩
  · rw [hold] at hfirst
    cases hfirst
  · have hn : n = m := by
      by_contra hn
      rw [honly.others n hn, List.prefix_nil] at htr'
      subst htr'
      cases hasks' with
      | package privateKey key d tr₁ hkey hprivate htr₁ hd ho => cases hprivate
      | document draft hprivate ho => cases hprivate
      | manifest draft tr₁ tr₂ tr₃ htr₁ hdraft hpublish ho =>
        obtain ⟨tr₄, tr₅, hsplit, _⟩ := (drafted_of_yields hdraft).parts
        rw [hsplit] at htr₁
        simp at htr₁
    subst hn
    exact hother (hasks'.body_eq huniform (hanswered tr' htr') (hanswered tr htr) hlaw hne hasks)

/-- In uniform surroundings a run that is the only one, and meets no fault, returns. -/
theorem eventually_initialized_of_uniform (hlaw : crates.Lawful) (hencrypts : crates.Encrypts)
    (huniform : world.Uniform) (hsame : SameTarget inits bucket pre)
    (hempty : ∀ name, store₀.object (bucket, objectKey pre name) = none)
    (hconfig : ∀ bound, ∃ number, bound ≤ number ∧ configs ⟨peerCid, number⟩ = config)
    (h : Faultless world crates config peerCid (inits m)) :
    Eventually (AloneStep world crates config peerCid configs m) (fun t =>
      Reachable crates configs inits store₀ t ∧ OnlyRun world m t ∧
        Initialized world crates inits bucket pre m t) (.start crates inits store₀) := by
  have hended := eventually_ended (m := m) hlaw hencrypts hsame .refl (hempty _) rfl hconfig h
  have honly := hended.and_invariant (fun _ _ hs hstep => OnlyRun.step hs hstep)
    (onlyRun_start : OnlyRun world m _)
  refine honly.mono fun t ht => ?_
  obtain ⟨⟨hend, htreach⟩, honlyT⟩ := ht
  have hinv := systemInvariant_of_reachable hlaw htreach
  refine ⟨htreach, honlyT, ?_⟩
  rcases hend with ⟨pair, hreturned, hanswered⟩ | hblocked
  · exact hinv.initialized hlaw hsame h.valid hreturned hanswered
  · -- Whatever is there under a name in use has the content that this run has for it.
    exact absurd hblocked (honlyT.not_blocked hlaw huniform hinv hsame hempty)

/-- A run that is the only one returns only if KMS has generated a data key of 16 or 32 bytes. -/
theorem OnlyRun.exists_generates (honly : OnlyRun world m s)
    (hinv : SystemInvariant crates configs inits store₀ s) {keys : List KmsKeySettings}
    (hkeys : (inits m).settings.kmsKeys = key :: keys) {pair : RestoredKeyPair}
    (hreturned : (s.runs m).program = .ret pair) :
    ∃ plaintext ciphertext, world.generates plaintext ciphertext ∧
      (plaintext.length = 16 ∨ plaintext.length = 32) := by
  have hsteps := (hinv.runs m).steps
  rw [hreturned] at hsteps
  obtain ⟨draft, tr₁, tr₂, tr₃, htr, _, hdraft, _, _⟩ := yields_initializeKeyMaterial_ok hsteps
  have hslots := (drafted_of_yields hdraft).slots
  rw [hkeys] at hslots
  obtain ⟨reference, _, ⟨tr₄, d, htr₄, _, hfilled⟩, _⟩ := List.forall₂_cons_left_iff.mp hslots
  obtain ⟨tr₅, _, _, _, rfl, hdeposited, _⟩ := hfilled.parts
  obtain ⟨tr₆, rfl, hgenerate⟩ := hdeposited.trace
  refine ⟨_, _, generates_of_yields hgenerate fun e he => ?_, hdeposited.dataKeyLength⟩
  have hmem : e ∈ tr₁ := htr₄.subset (by simp [he])
  exact honly.answered e (by rw [htr]; simp [hmem])

end OnlyRun

/-! ## A deployment -/

/-- Surroundings in which all that is drawn is zero, and KMS always generates this data key. -/
def fixedSurroundings (dataKey : Bytes) : Surroundings where
  provides credentials := credentials = ⟨"id", "secret", none, none⟩
  draws n v := v = .replicate n 0
  generates plaintext ciphertext := plaintext = dataKey ∧ ciphertext = [1]
  unwrap _ := dataKey
  exists_provides := ⟨_, rfl⟩
  exists_draws _ := ⟨_, rfl⟩
  exists_generates := ⟨_, _, rfl, rfl⟩
  unwrap_of_generates h := h.1.symm

/-- These surroundings always answer the same. -/
theorem fixedSurroundings_uniform (dataKey : Bytes) : (fixedSurroundings dataKey).Uniform where
  draws h h' := h.trans h'.symm
  generates h h' := ⟨h.1.trans h'.1.symm, h.2.trans h'.2.symm⟩

/-- A broker with credentials for both slots. -/
def deployedBroker (settings : ParentSettings) : BrokerConfig where
  settings := settings
  credentialsProviders := [(.primary, some (.explicit ⟨"id", "secret", none, none⟩)),
    (.backup, some (.explicit ⟨"id", "secret", none, none⟩))]
  allowedEnclaveCid := none

/-- An initialization with these settings. -/
def deployedRun (settings : ParentSettings) : InitRun where
  s3Client := ⟨localEndpoint⟩
  kmsClient := .local localEndpoint
  settings := settings

/-- The credentials that the broker hands out are the same for both slots. -/
theorem handsOut_deployed {dataKey : Bytes} {slot : KmsSlot} {c : AwsCredentials}
    (hkeys : settings.kmsKeys = [primaryKey, backupKey])
    (h : HandsOut (fixedSurroundings dataKey) (deployedBroker settings) slot c) :
    c = storedCredentials := by
  obtain ⟨provider, credentials, key, hprovider, hprovides, hkey, rfl⟩ := h
  have hregion : key.region = storedCredentials.region := by
    have hmem : key ∈ settings.kmsKeys := List.mem_of_find?_eq_some hkey
    rw [hkeys] at hmem
    rcases List.mem_pair.mp hmem with rfl | rfl <;> rfl
  have hcredentials : credentials = ⟨"id", "secret", none, none⟩ := by
    cases slot <;> obtain rfl := Except.ok.inj hprovider <;> exact hprovides
  rw [hregion, hcredentials]
  rfl

/-- The surroundings support a run with the two keys. -/
theorem supports_deployed {dataKey : Bytes} (hkeys : settings.kmsKeys = [primaryKey, backupKey])
    (hspec : ∃ keySpec, settings.keySpec.mapM parseKeySpec = .ok keySpec) :
    Supports (fixedSurroundings dataKey) (deployedBroker settings) none
      (deployedRun settings).kmsClient settings where
  admits := .inl rfl
  bucket := rfl
  pre := rfl
  provider key _ := by
    cases key.slot
    · exact ⟨_, rfl⟩
    · exact ⟨_, rfl⟩
  slot key _ := by
    show (settings.kmsKeys.find? _).isSome
    rw [hkeys]
    cases key.slot <;> rfl
  credentialsFit slot c hc := by
    rw [handsOut_deployed hkeys hc]
    unfold Fits
    decide +kernel
  accepts key _ c _ := by
    obtain ⟨keySpec, hspec⟩ := hspec
    refine ⟨⟨key.keyArn, keySpec, settings.numberOfBytes, settings.encryptionContext,
      settings.grantTokens, settings.dryRun⟩, ?_⟩
    unfold ParentSettings.kmsRequestSettings
    rw [hspec]
    rfl

/-- The settings of the deployment are of moderate size. -/
theorem moderate_deployed (hkeys : settings.kmsKeys = [primaryKey, backupKey])
    (hbucket : settings.s3Bucket = deployment.s3Bucket)
    (hpre : settings.s3Prefix = deployment.s3Prefix) : settings.Moderate where
  s3Bucket := by
    rw [hbucket]
    decide
  s3Prefix := by
    rw [hpre]
    decide
  keyArn key hkey := by
    rw [hkeys] at hkey
    rcases List.mem_pair.mp hkey with rfl | rfl <;> decide

/-- Both keys have a storage id. -/
theorem storageId_deployed {keyArn : String} (h : keyArn ∈ [primaryKey.keyArn, backupKey.keyArn]) :
    ∃ storageId, kmsKeyStorageId reference keyArn = .ok storageId := by
  rw [exists_kmsKeyStorageId_iff]
  rcases List.mem_pair.mp h with rfl | rfl
  · exact ⟨"primary", by decide⟩
  · exact ⟨"backup", by decide⟩

/-- The deployment meets no fault where KMS generates data keys of 32 bytes. -/
theorem faultless_deployment : Faultless (fixedSurroundings (.replicate 32 0)) reference
    (deployedBroker deployment) none (deployedRun deployment) where
  supports := supports_deployed rfl ⟨_, rfl⟩
  mode := rfl
  valid := by decide
  storageId key hkey := by
    refine storageId_deployed ?_
    rcases List.mem_pair.mp hkey with rfl | rfl <;> simp
  dataKeyLength h := by
    rw [h.1]
    exact .inr rfl
  frames := by
    refine framesFit_of_moderate (fun plaintext ciphertext h => ?_)
      (moderate_deployed rfl rfl rfl) rfl
    rw [h.2]
    decide

/-- All brokers of the deployment are alike. -/
def deployedConfigs (settings : ParentSettings) : ConnectionId → BrokerConfig :=
  fun _ => deployedBroker settings

/-- Any number of runs may initialize the deployment. -/
def deployedRuns (settings : ParentSettings) : ℕ → InitRun := fun _ => deployedRun settings

/-- A store without objects. -/
def emptyStore : S3Store := ⟨fun _ => none⟩

/-- In the deployment, an initialization comes to its end, and leaves a manifest behind. -/
theorem exists_initialized_deployment : ∃ t,
    Reachable reference (deployedConfigs deployment) (deployedRuns deployment) emptyStore t ∧
      OnlyRun (fixedSurroundings (.replicate 32 0)) 0 t ∧
      Initialized (fixedSurroundings (.replicate 32 0)) reference (deployedRuns deployment)
        deployment.s3Bucket deployment.s3Prefix 0 t := by
  have hconfig : ∀ bound, ∃ number, bound ≤ number ∧
      deployedConfigs deployment ⟨none, number⟩ = deployedBroker deployment :=
    fun bound => ⟨bound, le_rfl, rfl⟩
  have hsame : SameTarget (deployedRuns deployment) deployment.s3Bucket deployment.s3Prefix :=
    fun _ => ⟨rfl, rfl⟩
  have heventually := eventually_initialized_of_uniform (m := 0) reference_lawful reference_encrypts
    (fixedSurroundings_uniform (.replicate 32 0)) hsame
    (fun name => show emptyStore.object _ = none from rfl) hconfig faultless_deployment
  obtain ⟨t, _, h⟩ := heventually.exists_reached
  exact ⟨t, h⟩

end AwsKmsDemo
