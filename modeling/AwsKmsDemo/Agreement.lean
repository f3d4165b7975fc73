import AwsKmsDemo.Commit
import AwsKmsDemo.Processes

/-!
# Agreement on the key

All enclave processes of one bucket and prefix come to use the same public key, whether they drew it
in init-key mode or restored it in serve mode, however they interleave and whoever else talks to the
brokers. It is the key that the objects in S3 determine, and these only come to determine one key.
-/

namespace AwsKmsDemo

open Interaction Interaction.Program Stream Storage

variable {crates : Crates} {brokers : Brokers} {store store' store₀ : S3Store} {s t : Processes}
  {tr tr' : List EnclaveEvent} {bucket pre : String} {publicKey publicKey' : Vector UInt8 32}

/-! ## The key in S3 -/

/-- By the objects in S3, this is the public key of a bucket and prefix: the manifest refers to a
document with this key, and names its fingerprint. -/
structure Published (crates : Crates) (store : S3Store) (bucket pre : String)
    (manifest : KeyManifest)
    (document : PublicKeyDocument) (publicKey : Vector UInt8 32) : Prop where
  manifestObject : ∃ body, store.object (bucket, objectKey pre manifestFileName) = some body ∧
    crates.manifestFromSlice body = .ok manifest
  documentObject : ∃ body, store.object (bucket, manifest.publicKey.objectKey) = some body ∧
    sha256Hex crates body = manifest.publicKey.sha256 ∧
    crates.publicKeyDocumentFromSlice body = .ok document
  decoded : crates.base64Decode document.publicKeyBase64 = .ok publicKey.toList
  fingerprint : manifest.keyFingerprint = sha256Hex crates publicKey.toList

variable {manifest manifest' : KeyManifest} {document document' : PublicKeyDocument}

/-- What is published stays so. -/
theorem Published.mono (h : Published crates store bucket pre manifest document publicKey)
    (hle : store ≤ store') : Published crates store' bucket pre manifest document publicKey where
  manifestObject := by
    obtain ⟨body, hobject, hslice⟩ := h.manifestObject
    exact ⟨body, Store.object_of_le hle hobject, hslice⟩
  documentObject := by
    obtain ⟨body, hobject, hrest⟩ := h.documentObject
    exact ⟨body, Store.object_of_le hle hobject, hrest⟩
  decoded := h.decoded
  fingerprint := h.fingerprint

/-- There is one public key at most. -/
theorem Published.unique (h : Published crates store bucket pre manifest document publicKey)
    (h' : Published crates store bucket pre manifest' document' publicKey') :
    publicKey = publicKey' := by
  obtain ⟨body, hobject, hslice⟩ := h.manifestObject
  obtain ⟨body', hobject', hslice'⟩ := h'.manifestObject
  rw [hobject] at hobject'
  obtain rfl := Option.some.inj hobject'
  rw [hslice] at hslice'
  obtain rfl := Except.ok.inj hslice'
  -- The manifest is the same, and so is the document that it refers to.
  obtain ⟨text, htext, _, hparse⟩ := h.documentObject
  obtain ⟨text', htext', _, hparse'⟩ := h'.documentObject
  rw [htext] at htext'
  obtain rfl := Option.some.inj htext'
  rw [hparse] at hparse'
  obtain rfl := Except.ok.inj hparse'
  have hkey := h.decoded
  rw [h'.decoded] at hkey
  exact Vector.toList_inj.mp (Except.ok.inj hkey).symm

/-- An object that a run has loaded is in the store. -/
theorem Loads.object {name : String} {body : Bytes} (h : Loads crates tr bucket name body)
    (htr : ∀ e ∈ tr, Truthful crates store e) : store.object (bucket, name) = some body := by
  obtain ⟨endpoint, stream, hmem, hreceive⟩ := h
  obtain ⟨_, _, hrequest, hobject⟩ := htr _ hmem _ _ rfl hreceive
  injection hrequest with hbucket hname
  rw [hbucket, hname]
  exact hobject

variable {s3Client : BrokerS3Client} {kmsClient : KmsDataKeyClient} {settings : ParentSettings}
  {pair : RestoredKeyPair}

/-- A restore returns the published key. -/
theorem published_of_restored
    (h : (restoreKeyMaterial crates s3Client kmsClient settings).Yields tr (.ok pair))
    (htr : ∀ e ∈ tr, Truthful crates store e) : ∃ manifest document,
      Published crates store settings.s3Bucket settings.s3Prefix manifest document
        pair.publicKey := by
  obtain ⟨e, he⟩ := exists_accepted h
  exact ⟨e.manifest, e.document, ⟨_, he.manifestLoaded.object htr, he.manifest⟩,
    ⟨_, he.publicLoaded.object htr, he.publicHash, he.document⟩, he.documentKey,
    he.manifestFingerprint.symm.trans he.fingerprint⟩

/-- An initialization that returned has published its key. -/
theorem published_of_initialized (hlaw : crates.Lawful)
    (h : (initializeKeyMaterial crates s3Client kmsClient settings).Yields tr (.ok pair))
    (htr : ∀ e ∈ tr, Truthful crates store e) : ∃ manifest document,
      Published crates store settings.s3Bucket settings.s3Prefix manifest document
        pair.publicKey := by
  obtain ⟨draft, tr₁, tr₂, tr₃, rfl, rfl, hdraft, hpublish, hcommit⟩ :=
    yields_initializeKeyMaterial_ok h
  obtain ⟨tr₄, tr₅, _, rfl, hsave, _⟩ := yields_bind_ok.mp hpublish
  have hmanifest := object_of_yields_save hcommit fun e he => htr e (by simp [he])
  have hpublic := object_of_yields_save hsave fun e he => htr e (by simp [he])
  exact ⟨draft.manifest crates settings, draft.document crates,
    ⟨_, hmanifest, hlaw.manifestFromSlice _⟩,
    ⟨_, hpublic, rfl, hlaw.publicKeyDocumentFromSlice _⟩, hlaw.base64Decode _, rfl⟩

/-! ## The key in use -/

/-- The settings that a process acts by: those that it was told, in its own mode. -/
def ActsBy (crates : Crates) (tr : List EnclaveEvent) (settings : ParentSettings) : Prop :=
  ∃ command brokerSettings, told crates tr = some (command, brokerSettings) ∧
    overrideMode command brokerSettings = .ok settings

/-- A process that has gone through the events `tr` uses a public key: it has drawn the private key
and initialized with it, or it has restored it. -/
inductive InUse (crates : Crates) (tr : List EnclaveEvent) : Vector UInt8 32 → Prop where
  | initialized {settings : ParentSettings} {s3Client : BrokerS3Client}
      {kmsClient : KmsDataKeyClient} {tr' : List EnclaveEvent} {pair : RestoredKeyPair}
      (hsettings : ActsBy crates tr settings) (htr' : tr' <:+: tr)
      (h : (initializeKeyMaterial crates s3Client kmsClient settings).Yields tr' (.ok pair)) :
      InUse crates tr pair.publicKey
  | restored {settings : ParentSettings} {s3Client : BrokerS3Client} {kmsClient : KmsDataKeyClient}
      {tr' : List EnclaveEvent} {pair : RestoredKeyPair} (hsettings : ActsBy crates tr settings)
      (htr' : tr' <:+: tr)
      (h : (restoreKeyMaterial crates s3Client kmsClient settings).Yields tr' (.ok pair)) :
      InUse crates tr pair.publicKey

/-- A process has done what it is there for: it is about to start the gRPC server, has started it,
or has returned. -/
def Launched (tr : List EnclaveEvent) (q : EnclaveProgram Unit) : Prop :=
  (∃ endpoint k, q = .op (.serveEnclaveRpc endpoint) k) ∨
    (∃ e ∈ tr, e.op.StartsServer) ∨ q = .ret ()

/-- The settings that a process was told are those of a broker. -/
theorem exists_settings_of_told {command : Option String} {brokerSettings : ParentSettings}
    (htold : told crates tr = some (command, brokerSettings))
    (htruth : ∀ e ∈ tr, brokers.Truthful crates store e) (hsends : ∀ e ∈ tr, SendsRequests e.op) :
    ∃ id, brokerSettings = (brokers.config id).settings := by
  unfold told at htold
  split at htold
  · rename_i env e endpoint frame stream rest
    have hmem : (⟨.exchange endpoint frame, .ok stream⟩ : EnclaveEvent) ∈
        ⟨.loadEnvironment, .ok env⟩ :: e ::
        ⟨.exchange endpoint frame, .ok stream⟩ :: rest := by simp
    obtain ⟨request, _, hframe⟩ := hsends _ hmem
    split at htold
    · rename_i command' settings _ hreceive
      obtain ⟨_, rfl⟩ := Prod.mk.inj (Option.some.inj htold)
      exact (htruth _ hmem request _ hframe hreceive).2 _ rfl
    · cases htold
  · cases htold

/-! ## In a mode -/

variable {env : Environment} {brokerEndpoint : Endpoint} {q : EnclaveProgram Unit}

/-- A process in init-key mode that has returned has initialized. -/
theorem initialized_of_yields (hmode : settings.startupMode = .initKey)
    (h : (actInMode crates env brokerEndpoint settings).Yields tr (.ok ())) :
    ∃ kmsClient pair,
      (initializeKeyMaterial crates ⟨brokerEndpoint⟩ kmsClient settings).Yields tr (.ok pair) := by
  obtain ⟨tr₁, tr₂, _, rfl, hrun, hrest⟩ := yields_bind_ok.mp h
  rw [if_pos hmode] at hrest
  obtain ⟨rfl, _⟩ := yields_ret_ok.mp hrest
  obtain ⟨_, _, h₁⟩ := yields_ofExcept_bind_ok.mp hrun
  obtain ⟨kmsClient, _, h₂⟩ := yields_ofExcept_bind_ok.mp h₁
  rw [hmode] at h₂
  obtain ⟨tr₃, tr₄, pair, rfl, hinitialize, hret⟩ := yields_bind_ok.mp h₂
  obtain ⟨rfl, _⟩ := yields_ret_ok.mp hret
  refine ⟨kmsClient, pair, ?_⟩
  rw [List.append_nil, List.append_nil]
  exact hinitialize

/-- A process in serve mode that has returned has had the server started. -/
theorem exists_startsServer_of_yields (hmode : settings.startupMode = .serve)
    (h : (actInMode crates env brokerEndpoint settings).Yields tr (.ok ())) :
    ∃ e ∈ tr, e.op.StartsServer := by
  obtain ⟨tr₁, tr₂, _, rfl, _, hrest⟩ := yields_bind_ok.mp h
  rw [if_neg (by rw [hmode]; decide)] at hrest
  obtain ⟨rpcEndpoint, _, hserve⟩ := yields_ofExcept_bind_ok.mp hrest
  obtain ⟨a, tr₃, rfl, _⟩ := yields_op.mp hserve
  exact ⟨_, List.mem_append_right _ List.mem_cons_self, trivial⟩

/-- A process that has been told its mode and has done what it is there for uses a key. -/
theorem exists_inUse_of_started {tr₀ : List EnclaveEvent}
    (hstart : (startUp crates).Yields tr₀ (.ok (env, brokerEndpoint, settings)))
    (hact : (actInMode crates env brokerEndpoint settings).Steps tr q)
    (h : Launched (tr₀ ++ tr) q) : ∃ publicKey, InUse crates (tr₀ ++ tr) publicKey := by
  have hacts : ActsBy crates (tr₀ ++ tr) settings := told_of_yields hstart tr
  have hinside : ∀ {tr'}, tr' <+: tr → tr' <:+: tr₀ ++ tr :=
    fun htr' => htr'.isInfix.trans (List.suffix_append _ _).isInfix
  cases hmode : settings.startupMode with
  | initKey =>
    -- Nothing that an initialization does starts the server, so the process has returned.
    have huses := (uses_actInMode_initKey hmode).of_steps hact
    have hret : q = .ret () := by
      rcases h with ⟨endpoint, k, rfl⟩ | ⟨e, he, hstarts⟩ | hret
      · exact absurd huses.2.1 id
      · rcases List.mem_append.mp he with he | he
        · exact absurd hstarts ((uses_startUp.of_steps hstart).1 e he).2.2.1
        · exact absurd hstarts (not_startsServer_of_initializes (huses.1 e he))
      · exact hret
    subst hret
    obtain ⟨kmsClient, pair, hinitialize⟩ := initialized_of_yields hmode hact
    exact ⟨_, .initialized hacts (hinside List.prefix_rfl) hinitialize⟩
  | serve =>
    -- The server is started at some point, and the key was restored by then.
    have hissues : ∃ tr' endpoint, tr' <+: tr ∧
        (actInMode crates env brokerEndpoint settings).Issues tr' (.serveEnclaveRpc endpoint) := by
      have hmem : ∀ e ∈ tr, e.op.StartsServer → ∃ tr' endpoint, tr' <+: tr ∧
          (actInMode crates env brokerEndpoint settings).Issues tr'
            (.serveEnclaveRpc endpoint) := by
        rintro ⟨o, a⟩ he hstarts
        cases o with
        | serveEnclaveRpc endpoint =>
          obtain ⟨tr', htr', hissues⟩ := hact.issues_of_mem he
          exact ⟨tr', endpoint, htr', hissues⟩
        | _ => exact hstarts.elim
      rcases h with ⟨endpoint, k, rfl⟩ | ⟨e, he, hstarts⟩ | rfl
      · exact ⟨tr, endpoint, List.prefix_rfl, k, hact⟩
      · rcases List.mem_append.mp he with he | he
        · exact absurd hstarts ((uses_startUp.of_steps hstart).1 e he).2.2.1
        · exact hmem e he hstarts
      · obtain ⟨e, he, hstarts⟩ := exists_startsServer_of_yields hmode hact
        exact hmem e he hstarts
    obtain ⟨tr', endpoint, htr', hissues⟩ := hissues
    obtain ⟨_, kmsClient, pair, hrestore⟩ := restored_of_issues hissues
    exact ⟨_, .restored hacts (hinside htr') hrestore⟩

/-- A process that has done what it is there for uses a key. -/
theorem exists_inUse (hsteps : (decryptServerTeeMain crates).Steps tr q) (h : Launched tr q) :
    ∃ publicKey, InUse crates tr publicKey := by
  rw [decryptServerTeeMain_eq] at hsteps
  rcases steps_bind hsteps with ⟨x, hx, rfl⟩ |
    ⟨tr₁, tr₂, ⟨env, brokerEndpoint, settings⟩, rfl, hstart, hact⟩
  · -- A process that has not been told its mode has not done anything of this, unless it is just
    -- now that it was told.
    have hprepares := uses_startUp.of_steps hx
    cases x with
    | ret started =>
      obtain ⟨env, brokerEndpoint, settings⟩ := started
      rw [← List.append_nil tr] at h ⊢
      exact exists_inUse_of_started hx (.refl _) h
    | fail e =>
      rcases h with ⟨_, _, heq⟩ | ⟨e', he', hstarts⟩ | heq
      · cases heq
      · exact absurd hstarts (hprepares.1 e' he').2.2.1
      · cases heq
    | op o k =>
      rcases h with ⟨endpoint, k', heq⟩ | ⟨e', he', hstarts⟩ | heq
      · rw [op_bind] at heq
        injection heq with heq
        subst heq
        exact absurd trivial hprepares.2.1.2.2.1
      · exact absurd hstarts (hprepares.1 e' he').2.2.1
      · cases heq
  · exact exists_inUse_of_started hstart hact h

/-! ## Agreement -/

/-- All brokers are configured for the same bucket and prefix. -/
def Brokers.SameTarget (brokers : Brokers) (bucket pre : String) : Prop :=
  ∀ id, (brokers.config id).settings.s3Bucket = bucket ∧ (brokers.config id).settings.s3Prefix = pre

/-- A process acts on the bucket and prefix of the brokers. -/
theorem ActsBy.target (h : ActsBy crates tr settings) (hsame : brokers.SameTarget bucket pre)
    (htruth : ∀ e ∈ tr, brokers.Truthful crates store e) (hsends : ∀ e ∈ tr, SendsRequests e.op) :
    settings.s3Bucket = bucket ∧ settings.s3Prefix = pre := by
  obtain ⟨command, brokerSettings, htold, hoverride⟩ := h
  obtain ⟨id, rfl⟩ := exists_settings_of_told htold htruth hsends
  obtain ⟨_, hbucket, hpre⟩ := overrideMode_eq_ok hoverride
  exact ⟨hbucket.trans (hsame id).1, hpre.trans (hsame id).2⟩

/-- A key in use is published. -/
theorem InUse.published (hlaw : crates.Lawful) (h : InUse crates tr publicKey)
    (hsame : brokers.SameTarget bucket pre)
    (htruth : ∀ e ∈ tr, brokers.Truthful crates store e) (hsends : ∀ e ∈ tr, SendsRequests e.op) :
    ∃ manifest document, Published crates store bucket pre manifest document publicKey := by
  have htruthful : ∀ {tr'}, tr' <:+: tr → ∀ e ∈ tr', Truthful crates store e :=
    fun htr' e he => (htruth e (htr'.subset he)).truthful
  cases h with
  | initialized hsettings htr' h =>
    obtain ⟨rfl, rfl⟩ := hsettings.target hsame htruth hsends
    exact published_of_initialized hlaw h (htruthful htr')
  | restored hsettings htr' h =>
    obtain ⟨rfl, rfl⟩ := hsettings.target hsame htruth hsends
    exact published_of_restored h (htruthful htr')

end AwsKmsDemo
