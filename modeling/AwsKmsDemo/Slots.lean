import AwsKmsDemo.BrokerStart
import AwsKmsDemo.DataKeys

/-!
# The credentials of the two slots

What the broker answers to a request for the credentials of a slot depends on the variables of this
slot. Only the primary slot falls back to the default credential chain, and the region is that of
the slot's own key.
-/

namespace AwsKmsDemo

open Interaction Interaction.Program Stream

/-! ## Variables -/

/-- The variables with the explicit credentials of a slot. -/
def credentialVariables (pre : String) : List String :=
  [s!"{pre}_ACCESS_KEY_ID", s!"{pre}_SECRET_ACCESS_KEY", s!"{pre}_SESSION_TOKEN"]

/-- The variables that make up the settings. -/
def settingsVariables : List String :=
  ["KMS_KEY_SPEC", "KEY_SPEC", "KMS_NUMBER_OF_BYTES", "KMS_PRIMARY_KEY_ARN", "KMS_BACKUP_KEY_ARN",
    "S3_BUCKET", "S3_PREFIX", "DECRYPT_SERVER_TEE_MODE", "KMS_ENCRYPTION_CONTEXT",
    "KMS_GRANT_TOKENS", "KMS_DRY_RUN"]

/-- The variables that the broker reads itself when it serves connections. What the default
credential chain reads is not among them. -/
def brokerVariables : List String :=
  settingsVariables ++ ["ENCLAVE_BROKER_LISTEN_ENDPOINT", "ENCLAVE_BROKER_ALLOWED_CID"] ++
    credentialVariables "KMS_PRIMARY" ++ credentialVariables "KMS_BACKUP"

/-- Environments that differ, for the broker, in these variables only. -/
def DifferOnlyIn (names : List String) (env env' : Environment) : Prop :=
  ∀ name ∈ brokerVariables, name ∉ names → env.var name = env'.var name

/-- The variable with the key ARN of a slot. -/
def KmsSlot.arnVariable : KmsSlot → String
  | .primary => "KMS_PRIMARY_KEY_ARN"
  | .backup => "KMS_BACKUP_KEY_ARN"

variable {env env' : Environment} {names : List String} {pre : String}

/-- The environments agree on the other variables that the broker reads. -/
theorem DifferOnlyIn.optionalEnv (h : DifferOnlyIn names env env') {name : String}
    (hread : name ∈ brokerVariables) (hname : name ∉ names) :
    optionalEnv env name = optionalEnv env' name := by
  unfold AwsKmsDemo.optionalEnv
  rw [h name hread hname]

/-- The settings depend on their variables. -/
theorem fromEnv_congr
    (h : ∀ name ∈ settingsVariables, optionalEnv env name = optionalEnv env' name) :
    ParentSettings.fromEnv env = ParentSettings.fromEnv env' := by
  unfold ParentSettings.fromEnv requiredEnv
  rw [h "KMS_KEY_SPEC" (by decide), h "KEY_SPEC" (by decide), h "KMS_NUMBER_OF_BYTES" (by decide),
    h "KMS_PRIMARY_KEY_ARN" (by decide), h "KMS_BACKUP_KEY_ARN" (by decide),
    h "S3_BUCKET" (by decide), h "S3_PREFIX" (by decide), h "DECRYPT_SERVER_TEE_MODE" (by decide),
    h "KMS_ENCRYPTION_CONTEXT" (by decide), h "KMS_GRANT_TOKENS" (by decide),
    h "KMS_DRY_RUN" (by decide)]

/-- The explicit credentials of a slot depend on its variables. -/
theorem DifferOnlyIn.explicitKmsCredentialsProvider (h : DifferOnlyIn names env env')
    (hnames : ∀ name ∈ credentialVariables pre, name ∈ brokerVariables ∧ name ∉ names) :
    explicitKmsCredentialsProvider env pre = explicitKmsCredentialsProvider env' pre := by
  have hread : ∀ name ∈ credentialVariables pre,
      AwsKmsDemo.optionalEnv env name = AwsKmsDemo.optionalEnv env' name :=
    fun name hname => h.optionalEnv (hnames name hname).1 (hnames name hname).2
  unfold AwsKmsDemo.explicitKmsCredentialsProvider
  dsimp only
  rw [hread _ List.mem_cons_self, hread _ (List.mem_cons_of_mem _ List.mem_cons_self),
    hread _ (List.mem_cons_of_mem _ (List.mem_cons_of_mem _ List.mem_cons_self))]

/-! ## Answers -/

variable {config config' : BrokerConfig} {peerCid : Option UInt32} {slot : KmsSlot}
  {tr : List BrokerEvent}

/-- The answer to a request for credentials depends on the peers that are admitted, on the provider
of the slot and on the settings. -/
theorem respond_congr (hallowed : config.allowedEnclaveCid = config'.allowedEnclaveCid)
    (hprovider : findCredentialsProvider config.credentialsProviders slot =
      findCredentialsProvider config'.credentialsProviders slot)
    (hsettings : config.settings = config'.settings) :
    respond config peerCid (.ok (.getAwsCredentials slot)) =
      respond config' peerCid (.ok (.getAwsCredentials slot)) := by
  have hanswer : answerRequest config (.getAwsCredentials slot) =
      answerRequest config' (.getAwsCredentials slot) := by
    unfold answerRequest
    dsimp only
    rw [hprovider, hsettings]
  unfold respond handleRequest
  dsimp only
  rw [hallowed, hanswer]

/-- An answer with credentials has the region of the key of the slot that was asked for. -/
theorem region_of_yields_answerRequest {request : BrokerRequest} {c : AwsCredentials}
    (h : (answerRequest config request).Yields tr (.ok (.awsCredentials c))) :
    ∃ slot key, request = .getAwsCredentials slot ∧
      config.settings.kmsKeys.find? (fun key => key.slot = slot) = some key ∧
      c.region = key.region := by
  cases request with
  | getSettings => cases (yields_ret_ok.mp h).2
  | getAwsCredentials slot =>
    obtain ⟨_, _, h₁⟩ := yields_ofExcept_bind_ok.mp h
    obtain ⟨_, _, _, _, _, h₂⟩ := yields_bind_ok.mp h₁
    obtain ⟨_, _, h₃⟩ := yields_ofExcept_bind_ok.mp h₂
    cases hfind : config.settings.kmsKeys.find? fun key => key.slot = slot with
    | none =>
      rw [hfind] at h₃
      cases (yields_fail.mp h₃).2
    | some key =>
      rw [hfind] at h₃
      obtain ⟨_, heq⟩ := yields_ret_ok.mp h₃
      have hregion := congrArg AwsCredentials.region (BrokerResponse.awsCredentials.inj heq)
      exact ⟨slot, key, rfl, hfind, hregion⟩
  | loadObject bucket key =>
    obtain ⟨_, _, h₁⟩ := yields_ofExcept_bind_ok.mp h
    obtain ⟨_, _, _, _, _, h₂⟩ := yields_bind_ok.mp h₁
    cases (yields_ret_ok.mp h₂).2
  | saveObjectIfAbsent bucket key body =>
    obtain ⟨_, _, h₁⟩ := yields_ofExcept_bind_ok.mp h
    obtain ⟨_, _, h₂⟩ := yields_ofExcept_bind_ok.mp h₁
    obtain ⟨_, _, _, _, _, h₃⟩ := yields_bind_ok.mp h₂
    cases (yields_ret_ok.mp h₃).2

/-- Credentials are sent only to a peer that asked for those of a slot. -/
theorem region_of_yields_respond {request : BrokerRequest} {c : AwsCredentials}
    (h : (respond config peerCid (.ok request)).Yields tr (.ok (.awsCredentials c))) :
    ∃ slot key, request = .getAwsCredentials slot ∧
      config.settings.kmsKeys.find? (fun key => key.slot = slot) = some key ∧
      c.region = key.region := by
  by_cases hadmits : config.Admits peerCid
  · rw [respond_of_admits hadmits] at h
    by_cases hne : request = .getSettings
    · subst hne
      cases (yields_ret_ok.mp h).2
    · rcases cases_of_yields_handleRequest hne h with
        ⟨_, hcontra, _⟩ | ⟨tr', rfl, hanswer | ⟨_, hcontra, _⟩⟩
      · cases hcontra
      · exact region_of_yields_answerRequest hanswer
      · cases hcontra
  · obtain ⟨message, hrespond⟩ := respond_of_not_admits hadmits (.ok request)
    rw [hrespond] at h
    cases (yields_ret_ok.mp h).2

/-- Without a provider for a slot the answer is an error. -/
theorem error_of_yields_respond {e : AppError}
    (hprovider : findCredentialsProvider config.credentialsProviders slot = .error e)
    (he : e.IsErr) {r : AppResult BrokerResponse}
    (h : (respond config peerCid (.ok (.getAwsCredentials slot))).Yields tr r) :
    ∃ message, r = .ok (.error message) := by
  by_cases hadmits : config.Admits peerCid
  · rw [respond_of_admits hadmits, handleRequest_of_ne (by simp)] at h
    obtain ⟨built, tr', rfl, hrest⟩ := yields_op.mp h
    cases built with
    | error message => exact ⟨message, (yields_ret.mp hrest).2⟩
    | ok _ =>
      have hanswer : answerRequest config (.getAwsCredentials slot) = .fail e := by
        unfold answerRequest
        dsimp only
        rw [hprovider]
        rfl
      dsimp only at hrest
      rw [hanswer] at hrest
      cases e with
      | panic message => exact he.elim
      | err message => exact ⟨message, (yields_ret.mp hrest).2⟩
  · obtain ⟨message, hrespond⟩ := respond_of_not_admits hadmits (.ok (.getAwsCredentials slot))
    rw [hrespond] at h
    exact ⟨message, (yields_ret.mp h).2⟩

/-- Unless the provider of a slot is the default chain, the chain is not asked. -/
theorem uses_respond_of_ne
    (hprovider : findCredentialsProvider config.credentialsProviders slot ≠ .ok .defaultChain) :
    (respond config peerCid (.ok (.getAwsCredentials slot))).Uses (· = .buildRuntime) := by
  by_cases hadmits : config.Admits peerCid
  · rw [respond_of_admits hadmits, handleRequest_of_ne (by simp)]
    refine ⟨rfl, fun built => ?_⟩
    cases built with
    | error message => trivial
    | ok _ =>
      refine Uses.tryCatch ?_ fun e => by cases e <;> trivial
      refine uses_ofExcept_bind fun provider hfind => ?_
      cases provider with
      | defaultChain => exact absurd hfind hprovider
      | explicit credentials =>
        refine uses_ofExcept_bind fun _ _ => ?_
        split <;> trivial
  · obtain ⟨message, hrespond⟩ := respond_of_not_admits hadmits (.ok (.getAwsCredentials slot))
    rw [hrespond]
    trivial

/-! ## The start of the broker -/

/-- The key of a slot has the region that is parsed from the ARN of the slot. -/
theorem region_of_find?_kmsKeys {settings : ParentSettings} {key : KmsKeySettings}
    (h : ParentSettings.fromEnv env = .ok settings)
    (hfind : settings.kmsKeys.find? (fun key => key.slot = slot) = some key) :
    ∃ keyArn, optionalEnv env slot.arnVariable = some keyArn ∧
      kmsRegionFromArn keyArn = .ok key.region := by
  obtain ⟨primaryArn, backupArn, primary, backup, hprimaryArn, hbackupArn, hprimary,
      hbackup, hkeys⟩ :=
    (readFrom_of_fromEnv h).kmsKeys
  obtain ⟨primaryRegion, hprimaryRegion, hprimary⟩ := except_bind_eq_ok.mp hprimary
  obtain ⟨backupRegion, hbackupRegion, hbackup⟩ := except_bind_eq_ok.mp hbackup
  rw [hkeys, ← Except.ok.inj hprimary, ← Except.ok.inj hbackup] at hfind
  cases slot with
  | primary =>
    obtain rfl := Option.some.inj hfind
    exact ⟨primaryArn, hprimaryArn, hprimaryRegion⟩
  | backup =>
    obtain rfl := Option.some.inj hfind
    exact ⟨backupArn, hbackupArn, hbackupRegion⟩

/-- A started broker has a provider for the primary slot, and one for the backup slot if explicit
credentials are given for it. -/
theorem findCredentialsProvider_of_start {surroundings : BrokerSurroundings}
    (hstart : enclaveBrokerMain env surroundings = .ok (.serve config)) :
    (∃ primary, explicitKmsCredentialsProvider env "KMS_PRIMARY" = .ok primary ∧
      findCredentialsProvider config.credentialsProviders .primary =
        .ok (primary.getD .defaultChain)) ∧
    ∃ backup, explicitKmsCredentialsProvider env "KMS_BACKUP" = .ok backup ∧
      findCredentialsProvider config.credentialsProviders .backup =
        findCredentialsProvider [(.backup, backup)] .backup := by
  obtain ⟨primary, backup, _, hprimary, hbackup, _, hproviders⟩ :=
    config_of_enclaveBrokerMain hstart
  rw [hproviders]
  exact ⟨⟨primary, hprimary, rfl⟩, ⟨backup, hbackup, rfl⟩⟩

/-- Without both variables nothing is configured explicitly. -/
theorem explicitKmsCredentialsProvider_of_none
    (haccess : optionalEnv env s!"{pre}_ACCESS_KEY_ID" = none)
    (hsecret : optionalEnv env s!"{pre}_SECRET_ACCESS_KEY" = none) :
    explicitKmsCredentialsProvider env pre = .ok none := by
  unfold explicitKmsCredentialsProvider
  dsimp only
  rw [haccess, hsecret]

/-- What is configured explicitly is never the default chain. -/
theorem ne_defaultChain_of_explicit {provider : Option CredentialsProvider}
    (h : explicitKmsCredentialsProvider env pre = .ok provider) :
    provider ≠ some .defaultChain := by
  unfold explicitKmsCredentialsProvider at h
  dsimp only at h
  split at h
  · rw [← Except.ok.inj h]
    simp
  · rw [← Except.ok.inj h]
    simp
  · cases h

/-- Two brokers have the same settings, and admit the same peers, if their environments differ in
credentials only. -/
theorem settings_eq_of_start {surroundings surroundings' : BrokerSurroundings}
    (hstart : enclaveBrokerMain env surroundings = .ok (.serve config))
    (hstart' : enclaveBrokerMain env' surroundings' = .ok (.serve config'))
    (hnames : ∀ name ∈ settingsVariables ++ ["ENCLAVE_BROKER_ALLOWED_CID"], name ∉ names)
    (h : DifferOnlyIn names env env') :
    config.settings = config'.settings ∧ config.allowedEnclaveCid = config'.allowedEnclaveCid := by
  obtain ⟨_, _, hsettings, _, _, hallowed, _⟩ := config_of_enclaveBrokerMain hstart
  obtain ⟨_, _, hsettings', _, _, hallowed', _⟩ := config_of_enclaveBrokerMain hstart'
  have hknown : ∀ name ∈ settingsVariables ++ ["ENCLAVE_BROKER_ALLOWED_CID"],
      name ∈ brokerVariables := by decide
  have hread : ∀ name ∈ settingsVariables ++ ["ENCLAVE_BROKER_ALLOWED_CID"],
      optionalEnv env name = optionalEnv env' name :=
    fun name hname => h.optionalEnv (hknown name hname) (hnames name hname)
  rw [fromEnv_congr fun name hname => hread name (List.mem_append_left _ hname), hsettings']
    at hsettings
  rw [hread _ (List.mem_append_right _ List.mem_cons_self), hallowed'] at hallowed
  exact ⟨(Except.ok.inj hsettings).symm, (Except.ok.inj hallowed).symm⟩

section Started

variable {surroundings surroundings' : BrokerSurroundings} {crates : Crates} {received : Reader}

/-- The explicit credentials of the backup slot make no difference to the primary slot. -/
theorem serveConnection_primary_congr
    (hstart : enclaveBrokerMain env surroundings = .ok (.serve config))
    (hstart' : enclaveBrokerMain env' surroundings' = .ok (.serve config'))
    (hdiffer : DifferOnlyIn (credentialVariables "KMS_BACKUP") env env')
    (hreceived : receivedRequest crates received = .ok (.getAwsCredentials .primary)) :
    serveConnection crates config peerCid received =
      serveConnection crates config' peerCid received := by
  obtain ⟨hsettings, hallowed⟩ := settings_eq_of_start hstart hstart' (by decide) hdiffer
  obtain ⟨⟨primary, hprimary, hfind⟩, _⟩ := findCredentialsProvider_of_start hstart
  obtain ⟨⟨primary', hprimary', hfind'⟩, _⟩ := findCredentialsProvider_of_start hstart'
  -- The variables of the primary slot are none of those that differ.
  rw [hdiffer.explicitKmsCredentialsProvider (by decide), hprimary'] at hprimary
  have hsame : primary' = primary := Except.ok.inj hprimary
  have hprovider : findCredentialsProvider config.credentialsProviders .primary =
      findCredentialsProvider config'.credentialsProviders .primary := by
    rw [hfind, hfind', hsame]
  unfold serveConnection
  rw [hreceived, respond_congr hallowed hprovider hsettings]

/-- The explicit credentials of the primary slot make no difference to the backup slot. -/
theorem serveConnection_backup_congr
    (hstart : enclaveBrokerMain env surroundings = .ok (.serve config))
    (hstart' : enclaveBrokerMain env' surroundings' = .ok (.serve config'))
    (hdiffer : DifferOnlyIn (credentialVariables "KMS_PRIMARY") env env')
    (hreceived : receivedRequest crates received = .ok (.getAwsCredentials .backup)) :
    serveConnection crates config peerCid received =
      serveConnection crates config' peerCid received := by
  obtain ⟨hsettings, hallowed⟩ := settings_eq_of_start hstart hstart' (by decide) hdiffer
  obtain ⟨_, backup, hbackup, hfind⟩ := findCredentialsProvider_of_start hstart
  obtain ⟨_, backup', hbackup', hfind'⟩ := findCredentialsProvider_of_start hstart'
  -- The variables of the backup slot are none of those that differ, and it has no other provider.
  rw [hdiffer.explicitKmsCredentialsProvider (by decide), hbackup'] at hbackup
  have hsame : backup' = backup := Except.ok.inj hbackup
  have hprovider : findCredentialsProvider config.credentialsProviders .backup =
      findCredentialsProvider config'.credentialsProviders .backup := by
    rw [hfind, hfind', hsame]
  unfold serveConnection
  rw [hreceived, respond_congr hallowed hprovider hsettings]

/-- A request for the backup slot does not ask the default chain. -/
theorem uses_serveConnection_backup
    (hstart : enclaveBrokerMain env surroundings = .ok (.serve config))
    (hreceived : receivedRequest crates received = .ok (.getAwsCredentials .backup)) :
    (serveConnection crates config peerCid received).Uses (· = .buildRuntime) := by
  obtain ⟨_, backup, hbackup, hfind⟩ := findCredentialsProvider_of_start hstart
  have hnever := ne_defaultChain_of_explicit hbackup
  have hprovider : findCredentialsProvider config.credentialsProviders .backup ≠
      .ok .defaultChain := by
    rw [hfind]
    cases backup with
    | none => simp [findCredentialsProvider]
    | some provider =>
      intro hcontra
      exact hnever (congrArg some (Except.ok.inj hcontra))
  unfold serveConnection
  rw [hreceived]
  exact Uses.bind (uses_respond_of_ne hprovider) fun _ => trivial

/-- Without explicit credentials, a request for the backup slot is answered with an error. -/
theorem error_of_yields_respond_backup {r : AppResult BrokerResponse}
    (hstart : enclaveBrokerMain env surroundings = .ok (.serve config))
    (haccess : optionalEnv env "KMS_BACKUP_ACCESS_KEY_ID" = none)
    (hsecret : optionalEnv env "KMS_BACKUP_SECRET_ACCESS_KEY" = none)
    (h : (respond config peerCid (.ok (.getAwsCredentials .backup))).Yields tr r) :
    ∃ message, r = .ok (.error message) := by
  obtain ⟨_, backup, hbackup, hfind⟩ := findCredentialsProvider_of_start hstart
  have hnone : explicitKmsCredentialsProvider env "KMS_BACKUP" = .ok none :=
    explicitKmsCredentialsProvider_of_none haccess hsecret
  rw [hnone] at hbackup
  -- The list of providers has an entry for the slot, but nothing in it.
  obtain rfl := Except.ok.inj hbackup
  exact error_of_yields_respond hfind trivial h

/-- Credentials are sent with the region that is parsed from the key ARN of their slot. -/
theorem arn_of_yields_respond {decoded : AppResult BrokerRequest} {c : AwsCredentials}
    (hstart : enclaveBrokerMain env surroundings = .ok (.serve config))
    (h : (respond config peerCid decoded).Yields tr (.ok (.awsCredentials c))) :
    ∃ slot keyArn, decoded = .ok (.getAwsCredentials slot) ∧
      optionalEnv env slot.arnVariable = some keyArn ∧ kmsRegionFromArn keyArn = .ok c.region := by
  obtain ⟨_, _, hsettings, _⟩ := config_of_enclaveBrokerMain hstart
  cases decoded with
  | error e => cases (yields_ret_ok.mp h).2
  | ok request =>
    obtain ⟨slot, key, rfl, hfind, hregion⟩ := region_of_yields_respond h
    obtain ⟨keyArn, harn, hparse⟩ := region_of_find?_kmsKeys hsettings hfind
    exact ⟨slot, keyArn, rfl, harn, by rw [hregion, hparse]⟩

end Started

/-- Credentials do not cross slots. Two brokers whose environments differ in the credentials of one
slot only answer every request for the credentials of the other slot in the same way. A request for
the backup slot never asks the default chain, whatever the chain is, and without explicit
credentials it is answered with an error. Credentials that are sent have the region of the key ARN
of their slot. -/
theorem credentials_never_cross_slots {surroundings surroundings' : BrokerSurroundings}
    (hstart : enclaveBrokerMain env surroundings = .ok (.serve config))
    (hstart' : enclaveBrokerMain env' surroundings' = .ok (.serve config')) :
    (DifferOnlyIn (credentialVariables "KMS_BACKUP") env env' → ∀ crates peerCid received,
      receivedRequest crates received = .ok (.getAwsCredentials .primary) →
      serveConnection crates config peerCid received =
        serveConnection crates config' peerCid received) ∧
    (DifferOnlyIn (credentialVariables "KMS_PRIMARY") env env' → ∀ crates peerCid received,
      receivedRequest crates received = .ok (.getAwsCredentials .backup) →
      serveConnection crates config peerCid received =
        serveConnection crates config' peerCid received) ∧
    (∀ crates peerCid received,
      receivedRequest crates received = .ok (.getAwsCredentials .backup) →
      (serveConnection crates config peerCid received).Uses (· = .buildRuntime)) ∧
    (optionalEnv env "KMS_BACKUP_ACCESS_KEY_ID" = none →
      optionalEnv env "KMS_BACKUP_SECRET_ACCESS_KEY" = none → ∀ peerCid tr r,
      (respond config peerCid (.ok (.getAwsCredentials .backup))).Yields tr r →
      ∃ message, r = .ok (.error message)) ∧
    ∀ peerCid decoded tr c,
      (respond config peerCid decoded).Yields tr (.ok (.awsCredentials c)) →
      ∃ slot keyArn, decoded = .ok (.getAwsCredentials slot) ∧
        optionalEnv env slot.arnVariable = some keyArn ∧
        kmsRegionFromArn keyArn = .ok c.region := by
  refine ⟨?_, ?_, ?_, ?_, ?_⟩
  · exact fun hdiffer _ _ _ => serveConnection_primary_congr hstart hstart' hdiffer
  · exact fun hdiffer _ _ _ => serveConnection_backup_congr hstart hstart' hdiffer
  · exact fun _ _ _ => uses_serveConnection_backup hstart
  · exact fun haccess hsecret _ _ _ => error_of_yields_respond_backup hstart haccess hsecret
  · exact fun _ _ _ _ => arn_of_yields_respond hstart

/-- A broker that was started with the required variables and the credentials of these providers. -/
def slotBroker (primary : CredentialsProvider) (backup : Option CredentialsProvider) :
    BrokerConfig where
  settings := { deployment with startupMode := .serve }
  credentialsProviders := [(.primary, some primary), (.backup, backup)]
  allowedEnclaveCid := none

/-- The credentials of the backup slot make no difference to a request for the primary slot. -/
theorem credentials_never_cross_slots_backup :
    serveConnection reference (slotBroker .defaultChain none) none
        ⟨frameOf (toVec (BrokerRequest.getAwsCredentials .primary)), ""⟩ =
      serveConnection reference
        (slotBroker .defaultChain (some (.explicit ⟨"AKIA", "secret", none, none⟩))) none
        ⟨frameOf (toVec (BrokerRequest.getAwsCredentials .primary)), ""⟩ := by
  have hstart : enclaveBrokerMain (environmentOf requiredVariables) ⟨true, fun _ => .ok ()⟩ =
      .ok (.serve (slotBroker .defaultChain none)) := by decide +kernel
  have hstart' : enclaveBrokerMain
      (environmentOf ([("KMS_BACKUP_ACCESS_KEY_ID", "AKIA"),
        ("KMS_BACKUP_SECRET_ACCESS_KEY", "secret")] ++ requiredVariables))
      ⟨true, fun _ => .ok ()⟩ =
      .ok (.serve (slotBroker .defaultChain
        (some (.explicit ⟨"AKIA", "secret", none, none⟩)))) := by
    decide +kernel
  have hdiffer : DifferOnlyIn (credentialVariables "KMS_BACKUP") (environmentOf requiredVariables)
      (environmentOf ([("KMS_BACKUP_ACCESS_KEY_ID", "AKIA"),
        ("KMS_BACKUP_SECRET_ACCESS_KEY", "secret")] ++ requiredVariables)) := by
    unfold DifferOnlyIn
    decide +kernel
  have hprimary : receivedRequest reference
      ⟨frameOf (toVec (BrokerRequest.getAwsCredentials .primary)), ""⟩ =
        .ok (.getAwsCredentials .primary) :=
    receivedRequest_frameOf reference_lawful (by decide +kernel) ""
  exact (credentials_never_cross_slots hstart hstart').1 hdiffer reference none _ hprimary

end AwsKmsDemo
