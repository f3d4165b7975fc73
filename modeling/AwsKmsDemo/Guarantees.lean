import AwsKmsDemo.Deployments

/-!
# What the key material can be relied on for

The guarantees about initializing and restoring key material, over all runs of the system and all
executions of the procedures. Each of them is then seen at work in the deployment of
`AwsKmsDemo.Deployments`.
-/

namespace AwsKmsDemo

open Interaction Interaction.Program Stream Storage

variable {crates : Crates} {kmsClient : KmsDataKeyClient} {s3Client : BrokerS3Client}
  {settings : ParentSettings} {tr : List EnclaveEvent}

/-! ## Restoring -/

/-- Restoring undoes initializing. After a run of `initialize_key_material` that returned, with any
valid settings, let one slot survive: a key of the settings is still configured, KMS still decrypts
its data key, and its package, the public document and the manifest are delivered as they were
saved. Then `restore_key_material` returns the same public key, whatever else it meets. -/
theorem restore_undoes_initialize (hlaw : crates.Lawful)
    (hvalid : validateKmsConfiguration settings = .ok ()) {pair : RestoredKeyPair}
    (hinit : (initializeKeyMaterial crates s3Client kmsClient settings).Yields tr (.ok pair)) :
    ∃ draft : Draft, pair = draft.pair crates ∧
      Saved crates tr settings.s3Bucket (manifestKey settings)
        (draft.manifestBody crates settings) ∧
      Saved crates tr settings.s3Bucket (draft.publicObjectKey crates settings)
        (draft.publicBody crates) ∧
      ∀ key ∈ settings.kmsKeys, ∃ d : Deposit,
        Saved crates tr settings.s3Bucket (d.objectKey crates settings) (d.body crates) ∧
        (∃ tr', tr' <:+: tr ∧
          (kmsClient.generateDataKey crates settings key).Yields tr' (.ok d.generated)) ∧
        ∀ (s3Client' : BrokerS3Client) (kmsClient' : KmsDataKeyClient) (settings' : ParentSettings)
          (key' : KmsKeySettings) (tr' : List EnclaveEvent) (r : AppResult RestoredKeyPair),
          settings'.s3Bucket = settings.s3Bucket → settings'.s3Prefix = settings.s3Prefix →
          key' ∈ settings'.kmsKeys → key'.keyArn = key.keyArn →
          Reaches crates s3Client' kmsClient' settings' key'
            [(manifestKey settings, draft.manifestBody crates settings),
              (draft.publicObjectKey crates settings, draft.publicBody crates),
              (d.objectKey crates settings, d.body crates)]
            d.generated (restoreKeyMaterial crates s3Client' kmsClient' settings') tr' r →
          ∃ keyArn, r = .ok ⟨pair.publicKey, pair.fingerprint, keyArn⟩ := by
  -- The run drafted a package for every key, published the public document and committed the
  -- manifest.
  obtain ⟨draft, tr₁, tr₂, tr₃, rfl, rfl, hdraft, hpublish, hcommit⟩ :=
    yields_initializeKeyMaterial_ok hinit
  obtain ⟨tr₄, tr₅, _, rfl, hsavePublic, _⟩ := yields_bind_ok.mp hpublish
  obtain ⟨hmanifest, hmanifestFits⟩ := saved_of_yields hcommit
  obtain ⟨hpublic, hpublicFits⟩ := saved_of_yields hsavePublic
  obtain ⟨primary, backup, hkeys, hne⟩ := kmsKeys_of_validateKmsConfiguration hvalid
  have hslots := (drafted_of_yields hdraft).slots
  have htwo : draft.recoveryObjects.length = 2 := by
    rw [← List.Forall₂.length_eq hslots, hkeys]
    rfl
  have hdistinct : (settings.kmsKeys.map KmsKeySettings.keyArn).Nodup := by
    rw [hkeys]
    simpa using hne
  refine ⟨draft, rfl, hmanifest.mono fun e he => by simp [he],
    hpublic.mono fun e he => by simp [he], fun key hkey => ?_⟩
  -- The entry that is found for a key is its own, as the two ARNs differ.
  obtain ⟨tr₆, d, htr₆, hfind, hfilled⟩ := hslots.find? hdistinct hkey
  obtain ⟨tr₇, tr₈, tr₉, tr₁₀, rfl, hdeposited, hsave, _, _⟩ := hfilled.parts
  obtain ⟨hsaved, hfits⟩ := saved_of_yields hsave
  obtain ⟨tr₁₁, rfl, hgenerate⟩ := hdeposited.trace
  have hsub : ∀ e ∈ tr₈, e ∈ tr₁ := fun e he => htr₆.subset (by simp [he])
  refine ⟨d, hsaved.mono fun e he => by simp [hsub e he], ⟨tr₁₁, ?_, hgenerate⟩, ?_⟩
  · have hinner : tr₁₁ <:+: tr₁ :=
      ((List.prefix_append tr₁₁ _).trans (List.prefix_append _ _)).isInfix.trans htr₆
    exact hinner.trans (List.prefix_append tr₁ _).isInfix
  · intro s3Client' kmsClient' settings' key' tr' r hbucket hpre hkey' harn h
    have hname : objectKey settings'.s3Prefix manifestFileName = manifestKey settings := by
      rw [hpre, manifestKey]
    unfold restoreKeyMaterial at h
    dsimp only at h
    rw [hname] at h
    -- Each step of the restore gets what was saved, and each check accepts it.
    obtain ⟨tr₁₂, h₁⟩ := h.bind fun _ _ => Reaches.loadObject hlaw (by simp) hmanifestFits
    have h₂ := h₁.ofExcept_bind (okOr_eq_ok.mpr rfl)
    have h₃ := h₂.ofExcept_bind (ofText_eq_ok.mpr (hlaw.manifestFromSlice _))
    have h₄ := h₃.ofExcept_bind (a := ()) (Draft.validateManifest htwo)
    obtain ⟨tr₁₃, h₅⟩ := h₄.bind fun _ _ =>
      Reaches.loadObject hlaw (by simp [Draft.manifest]) hpublicFits
    have h₆ := h₅.ofExcept_bind (okOr_eq_ok.mpr rfl)
    have h₇ := h₆.ofExcept_bind (a := ()) (verifySha256_eq_ok.mpr rfl)
    have h₈ := h₇.ofExcept_bind (ofText_eq_ok.mpr (hlaw.publicKeyDocumentFromSlice _))
    have h₉ := h₈.ofExcept_bind (Draft.validatePublicDocument hlaw draft)
    have hfind' : (draft.manifest crates settings).recoveryObjects.find?
        (fun reference => reference.kmsKeyArn = key'.keyArn) =
          some (d.reference crates settings key) := by
      rw [harn]
      exact hfind
    refine h₉.restoreWith hlaw ⟨?_, hfits, rfl, hlaw.recoveryPackageFromSlice _, _,
      hdeposited.opens hlaw⟩ hfind' hkey'
    simp [Deposit.reference]

/-- Where only the manifest, the public document and one package are left, all three are delivered,
and KMS decrypts the data key of the package. -/
theorem exists_reaches_survivors {draft : Draft} {d : Deposit} {key : KmsKeySettings}
    (hmanifest : Fits (BrokerRequest.saveObjectIfAbsent deployment.s3Bucket (manifestKey deployment)
      (draft.manifestBody reference deployment)))
    (hpublic : Fits (BrokerRequest.saveObjectIfAbsent deployment.s3Bucket
      (draft.publicObjectKey reference deployment) (draft.publicBody reference)))
    (hpackage : Fits (BrokerRequest.saveObjectIfAbsent deployment.s3Bucket
      (d.objectKey reference deployment) (d.body reference))) {α : Type} (main : EnclaveProgram α) :
    ∃ tr, Reaches reference s3Client (.local localEndpoint) deployment key
      [(manifestKey deployment, draft.manifestBody reference deployment),
        (draft.publicObjectKey reference deployment, draft.publicBody reference),
        (d.objectKey reference deployment, d.body reference)]
      d.generated main tr (main.eval
        (storedAnswers (survivors draft d) d.generated.plaintextDataKey)) := by
  obtain ⟨tr, hyields, hanswered⟩ :=
    exists_yields_eval main (storedAnswers (survivors draft d) d.generated.plaintextDataKey)
  have hdelivers : ∀ {name : String} {body : Bytes},
      Fits (BrokerRequest.saveObjectIfAbsent deployment.s3Bucket name body) →
      survivors draft d name = some body →
      main.Returns tr (sendRequest s3Client.endpoint (.loadObject deployment.s3Bucket name))
        (Delivers body) := by
    intro name body hfits hleft
    -- The request for the object is evaluated wherever it is made, and to the same stream.
    refine (returns_of_answered hanswered _).mono ?_
    intro r hr
    have hresponse : storedResponse (survivors draft d)
        (frameOf (toVec (BrokerRequest.loadObject deployment.s3Bucket name))) =
        .object (some body) :=
      (storedResponse_frameOf _).trans (congrArg BrokerResponse.object hleft)
    rw [hr, eval_sendRequest (fits_load_of_fits_save hfits), hresponse]
    exact ⟨_, rfl, rfl⟩
  refine ⟨tr, hyields, fun name body hmem => ?_, ?_⟩
  · simp only [List.mem_cons, Prod.mk.injEq, List.not_mem_nil, or_false] at hmem
    rcases hmem with ⟨rfl, rfl⟩ | ⟨rfl, rfl⟩ | ⟨rfl, rfl⟩
    · exact hdelivers hmanifest survivors_manifest
    · exact hdelivers hpublic survivors_publicKey
    · exact hdelivers hpackage survivors_package
  · refine (returns_of_answered hanswered _).mono ?_
    intro r hr
    rw [hr]
    exact eval_decryptDataKey

/-- The deployment has lost everything but the manifest, the public document and the package of the
second key. It still restores its key pair. -/
theorem restore_undoes_initialize_deployment : ∃ tr pair,
    (initializeKeyMaterial reference ⟨localEndpoint⟩ (.local localEndpoint) deployment).Yields tr
      (.ok pair) ∧
    ∃ (draft : Draft) (d : Deposit), pair = draft.pair reference ∧
      Saved reference tr deployment.s3Bucket (manifestKey deployment)
        (draft.manifestBody reference deployment) ∧
      ∃ keyArn, (restoreKeyMaterial reference ⟨localEndpoint⟩
        (.local localEndpoint) deployment).eval
          (storedAnswers (survivors draft d) d.generated.plaintextDataKey) =
            .ok ⟨pair.publicKey, pair.fingerprint, keyArn⟩ := by
  obtain ⟨t, hreach, _, pair, hreturned, _, _⟩ := exists_initialized_deployment
  have hsteps := ((systemInvariant_of_reachable reference_lawful hreach).runs 0).steps
  rw [hreturned] at hsteps
  change (initializeKeyMaterial reference ⟨localEndpoint⟩ (.local localEndpoint)
    deployment).Yields _ (.ok pair) at hsteps
  obtain ⟨draft, hpair, hmanifest, hpublic, hkeys⟩ :=
    restore_undoes_initialize reference_lawful faultless_deployment.valid hsteps
  have hbackup : backupKey ∈ deployment.kmsKeys := List.mem_cons_of_mem _ List.mem_cons_self
  obtain ⟨d, hpackage, _, hrestores⟩ := hkeys backupKey hbackup
  -- What was saved is small enough to be delivered.
  have hfits : ∀ {name : String} {body : Bytes},
      Saved reference (t.runs 0).trace deployment.s3Bucket name body →
      Fits (BrokerRequest.saveObjectIfAbsent deployment.s3Bucket name body) :=
    fun ⟨_, _, hmem, _⟩ => fits_of_exchange_mem reference_lawful hsteps hmem
  obtain ⟨tr', hreaches⟩ := exists_reaches_survivors (hfits hmanifest) (hfits hpublic)
    (hfits hpackage) (restoreKeyMaterial reference ⟨localEndpoint⟩
      (.local localEndpoint) deployment)
  exact ⟨_, pair, hsteps, draft, d, hpair, hmanifest,
    hrestores ⟨localEndpoint⟩ (.local localEndpoint) deployment backupKey _ _ rfl rfl hbackup rfl
      hreaches⟩

/-- Restoring never accepts a wrong private key. Whatever the objects in S3 and the answers of the
broker and of KMS were, two restores that return have each decrypted a private key of the public key
that they return, with a data key that KMS returned and from objects that match the hashes recorded
for them, and they return the same public key if they have loaded the same manifest and the same
public document. -/
theorem restore_accepts_only_matching {s3Client' : BrokerS3Client} {kmsClient' : KmsDataKeyClient}
    {settings' : ParentSettings} {tr' : List EnclaveEvent} {pair pair' : RestoredKeyPair}
    (h : (restoreKeyMaterial crates s3Client kmsClient settings).Yields tr (.ok pair))
    (h' : (restoreKeyMaterial crates s3Client' kmsClient' settings').Yields tr' (.ok pair')) :
    (∃ e, Accepted crates kmsClient settings tr pair e) ∧
    (∃ e, Accepted crates kmsClient' settings' tr' pair' e) ∧
    ((loadedObjects crates tr).take 2 = (loadedObjects crates tr').take 2 →
      pair.publicKey = pair'.publicKey) := by
  obtain ⟨e, he⟩ := exists_accepted h
  obtain ⟨e', he'⟩ := exists_accepted h'
  exact ⟨⟨e, he⟩, ⟨e', he'⟩, he.publicKey_eq he'⟩

/-- A restore of the deployment returns, and accepts what it returns. -/
theorem restore_accepts_only_matching_deployment : ∃ tr pair,
    (restoreKeyMaterial reference ⟨localEndpoint⟩ (.local localEndpoint) deployment).Yields tr
      (.ok pair) ∧ ∃ e, Accepted reference (.local localEndpoint) deployment tr pair e := by
  obtain ⟨t, _, _, pair, _, _, hrestores⟩ := exists_initialized_deployment
  have hrestore := hrestores (deployedBroker deployment) none ⟨localEndpoint⟩ (.local localEndpoint)
    deployment [] rfl rfl ⟨primaryKey, List.mem_cons_self, primaryKey, List.mem_cons_self, rfl⟩
    faultless_deployment.supports
  obtain ⟨tr, _, ⟨pair', hyields, _⟩ | ⟨_, _, hfalse⟩⟩ := hrestore.exists_yields
  · exact ⟨tr, pair', hyields, (restore_accepts_only_matching hyields hyields).1⟩
  · exact hfalse.elim

/-- The fallback is ordered. Once the manifest and the public key were loaded, by the events `tr₀`,
the executions of `restore_key_material` are those in which the configured keys are tried in their
order, each with the first reference to it in the manifest, until one succeeds or all have
failed. -/
theorem restore_falls_back_in_order {manifest : KeyManifest} {publicKey : Vector UInt8 32}
    {tr₀ : List EnclaveEvent}
    (hloaded : (loadPublicKey crates s3Client settings).Yields tr₀ (.ok (manifest, publicKey)))
    (tr : List EnclaveEvent) (r : AppResult RestoredKeyPair) :
    (restoreKeyMaterial crates s3Client kmsClient settings).Yields (tr₀ ++ tr) r ↔
      FallsBack crates s3Client kmsClient settings manifest publicKey settings.kmsKeys [] tr r := by
  rw [restoreKeyMaterial_eq, (Steps.bind hloaded _).yields_append_iff]
  exact yields_restoreWith_iff

/-- The fallback from a manifest with two entries for one key. -/
theorem restore_falls_back_in_order_shadowed : ∃ tr₀, ∀ tr r,
    (restoreKeyMaterial reference ⟨localEndpoint⟩ (.local localEndpoint)
        deployment).Yields (tr₀ ++ tr) r ↔
      FallsBack reference ⟨localEndpoint⟩ (.local localEndpoint) deployment
        (shadowedDraft.manifest reference deployment) (shadowedDraft.publicKey reference)
        deployment.kmsKeys [] tr r := by
  obtain ⟨tr₀, hyields, _⟩ :=
    exists_yields_eval (loadPublicKey reference ⟨localEndpoint⟩ deployment)
      (storedAnswers shadowedObjects [])
  rw [eval_loadPublicKey_shadowed] at hyields
  exact ⟨tr₀, restore_falls_back_in_order hyields⟩

/-! ## Initializing -/

variable {configs : ConnectionId → BrokerConfig} {inits : ℕ → InitRun} {store₀ : S3Store}
  {s t : SystemState} {bucket pre : String}

/-- The manifest is a commit mark. However runs of `initialize_key_material` interleave, fail and
stop, and whichever answers are lost: if there is a manifest, everything that it refers to is
there. -/
theorem manifest_is_commit_mark (hlaw : crates.Lawful) (hsame : SameTarget inits bucket pre)
    (hvalid : ∀ n, validateKmsConfiguration (inits n).settings = .ok ())
    (hempty : store₀.object (bucket, objectKey pre manifestFileName) = none)
    (hreach : Reachable crates configs inits store₀ s) {body : Bytes}
    (hmanifest : s.broker.store.object (bucket, objectKey pre manifestFileName) = some body) :
    ∃ n manifest publicKey, Committed crates s.broker.store bucket body (inits n)
      (s.runs n).trace manifest publicKey := by
  have hinv := systemInvariant_of_reachable hlaw hreach
  obtain ⟨n, draft, tr₁, tr₂, htr, hdraft, hpublish, rfl⟩ :=
    hinv.exists_draft hlaw hsame hempty hmanifest
  have htruth := (hinv.runs n).truthful
  obtain ⟨tr₃, tr₄, _, rfl, hsave, _⟩ := yields_bind_ok.mp hpublish
  have hobject := object_of_yields_save hsave fun e he => htruth e (htr.subset (by simp [he]))
  have hslots := (drafted_of_yields hdraft).slots
  obtain ⟨primary, backup, hkeys, _⟩ := kmsKeys_of_validateKmsConfiguration (hvalid n)
  have htwo : draft.recoveryObjects.length = 2 := by
    rw [← List.Forall₂.length_eq hslots, hkeys]
    rfl
  rw [(hsame n).1] at hobject
  refine ⟨n, draft.manifest crates (inits n).settings, draft.publicKey crates,
    hlaw.manifestFromSlice _, Draft.validateManifest htwo, ⟨_, draft.document crates, hobject, rfl,
      hlaw.publicKeyDocumentFromSlice _, Draft.validatePublicDocument hlaw draft⟩, htwo, ?_⟩
  intro reference hreference
  obtain ⟨key, _, tr₅, d, htr₅, rfl, hfilled⟩ := hslots.exists_of_mem hreference
  have hinfix : tr₅ <:+: (s.runs n).trace :=
    htr₅.trans ((List.prefix_append tr₁ _).trans htr).isInfix
  have hrecoverable := hfilled.recoverable hlaw hinfix htruth
  rw [(hsame n).1] at hrecoverable
  exact hrecoverable

/-- The deployment leaves a manifest behind, and everything that it refers to. -/
theorem manifest_is_commit_mark_deployment : ∃ t body manifest publicKey, ∃ n,
    Reachable reference (deployedConfigs deployment) (deployedRuns deployment) emptyStore t ∧
    Committed reference t.broker.store deployment.s3Bucket body (deployedRun deployment)
      (t.runs n).trace manifest publicKey := by
  obtain ⟨t, hreach, _, pair, _, hmanifest, _⟩ := exists_initialized_deployment
  obtain ⟨body, hbody⟩ := Option.isSome_iff_exists.mp hmanifest
  have hsame : SameTarget (deployedRuns deployment) deployment.s3Bucket deployment.s3Prefix :=
    fun _ => ⟨rfl, rfl⟩
  have hvalid : ∀ n, validateKmsConfiguration (deployedRuns deployment n).settings = .ok () :=
    fun _ => faultless_deployment.valid
  obtain ⟨n, manifest, publicKey, hcommitted⟩ :=
    manifest_is_commit_mark reference_lawful hsame hvalid rfl hreach hbody
  exact ⟨t, body, manifest, publicKey, n, hreach, hcommitted⟩

/-- Initialization has one winner. However runs of `initialize_key_material` interleave, a manifest
that is there never changes, a run that returns has left its own manifest, with the fingerprint of
the public key that it returns, and no other run returns, if different runs draw keys whose
manifests differ. -/
theorem initialization_has_one_winner (hlaw : crates.Lawful) (hsame : SameTarget inits bucket pre)
    (hreach : Reachable crates configs inits store₀ s)
    (hlater : Relation.ReflTransGen (SystemStep crates configs) s t)
    (hdiffer : ∀ n n' draft draft', n ≠ n' → HasDrafted crates inits t n draft →
      HasDrafted crates inits t n' draft' →
        draft.manifestBody crates (inits n).settings ≠
          draft'.manifestBody crates (inits n').settings) :
    (∀ body, s.broker.store.object (bucket, objectKey pre manifestFileName) = some body →
      t.broker.store.object (bucket, objectKey pre manifestFileName) = some body) ∧
    (∀ n pair, (t.runs n).program = .ret pair →
      ∃ draft, HasDrafted crates inits t n draft ∧ pair = draft.pair crates ∧
        t.broker.store.object (bucket, objectKey pre manifestFileName) =
          some (draft.manifestBody crates (inits n).settings) ∧
        (draft.manifest crates (inits n).settings).keyFingerprint =
          sha256Hex crates pair.publicKey.toList) ∧
    (∀ n n' pair pair', (t.runs n).program = .ret pair → (t.runs n').program = .ret pair' →
      n = n') := by
  have hinv := systemInvariant_of_reachable hlaw (hreach.trans hlater)
  refine ⟨fun body h => Store.object_of_le (store_le_of_steps hlater) h, fun n pair h => ?_,
    fun n n' pair pair' h h' => ?_⟩
  · obtain ⟨draft, hdrafted, rfl, hobject⟩ := hinv.manifest_of_returned hsame h
    exact ⟨draft, hdrafted, rfl, hobject, rfl⟩
  · obtain ⟨draft, hdrafted, _, hobject⟩ := hinv.manifest_of_returned hsame h
    obtain ⟨draft', hdrafted', _, hobject'⟩ := hinv.manifest_of_returned hsame h'
    by_contra hne
    rw [hobject] at hobject'
    exact hdiffer n n' draft draft' hne hdrafted hdrafted' (Option.some.inj hobject')

/-- In the deployment the run that returned is the only one that has. -/
theorem initialization_has_one_winner_deployment : ∃ t pair,
    Reachable reference (deployedConfigs deployment) (deployedRuns deployment) emptyStore t ∧
    (t.runs 0).program = .ret pair ∧
    ∀ n pair', (t.runs n).program = .ret pair' → 0 = n := by
  obtain ⟨t, hreach, honly, pair, hreturned, _, _⟩ := exists_initialized_deployment
  have hsame : SameTarget (deployedRuns deployment) deployment.s3Bucket deployment.s3Prefix :=
    fun _ => ⟨rfl, rfl⟩
  -- Only the first run has drawn a private key.
  have hfirst : ∀ n draft, HasDrafted reference (deployedRuns deployment) t n draft → n = 0 := by
    rintro n draft ⟨tr, htr, hdraft⟩
    by_contra hn
    rw [honly.others n hn, List.prefix_nil] at htr
    subst htr
    obtain ⟨tr₁, tr₂, hsplit, _⟩ := (drafted_of_yields hdraft).parts
    simp at hsplit
  have hwinner := initialization_has_one_winner reference_lawful hsame hreach .refl
    fun n n' draft draft' hne hn hn' =>
      absurd ((hfirst n draft hn).trans (hfirst n' draft' hn').symm) hne
  exact ⟨t, pair, hreach, hreturned, fun n pair' h => hwinner.2.2 0 n pair pair' hreturned h⟩

end AwsKmsDemo
