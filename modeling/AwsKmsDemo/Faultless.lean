import AwsKmsDemo.Alone
import AwsKmsDemo.RoundTrip

/-!
# What calls return without faults

The calls that an initialization makes, when its run is alone and meets no fault: requests to the
broker are answered from the store, and KMS generates and decrypts data keys.
-/

namespace AwsKmsDemo

open Interaction Interaction.Program Stream Storage

variable {world : Surroundings} {crates : Crates} {config : BrokerConfig}
  {peerCid : Option UInt32}

/-! ## The broker's operations -/

section Served

variable {store : S3Store} {bucket key : String} {body : Bytes}

/-- The runtime is built. -/
theorem served_buildRuntime {post : Except String Unit → S3Store → Prop} (h : post (.ok ()) store) :
    (servedSpec world).ensures .buildRuntime store post := by
  refine ⟨⟨.runtime (.ok ()), .ok (), rfl, rfl⟩, fun choice a hchoice ha => ?_⟩
  cases choice with
  | runtime result =>
    obtain rfl := Option.some.inj ha
    rw [show result = .ok () from hchoice]
    exact h
  | _ => cases ha

/-- The default chain provides credentials. -/
theorem served_defaultCredentials {post : Except String Credentials → S3Store → Prop}
    (h : ∀ credentials, world.provides credentials → post (.ok credentials) store) :
    (servedSpec world).ensures .defaultCredentials store post := by
  obtain ⟨credentials, hprovides⟩ := world.exists_provides
  refine ⟨⟨.credentials (.ok credentials), .ok credentials, ⟨_, rfl, hprovides⟩, rfl⟩,
    fun choice a hchoice ha => ?_⟩
  cases choice with
  | credentials result =>
    obtain rfl := Option.some.inj ha
    obtain ⟨credentials', rfl, hprovides'⟩ := hchoice
    exact h credentials' hprovides'
  | _ => cases ha

/-- An object that is there is found. -/
theorem served_getObject_some {post : Except SdkError (Except String Bytes) → S3Store → Prop}
    (hobject : store.object (bucket, key) = some body) (h : post (.ok (.ok body)) store) :
    (servedSpec world).ensures (.getObject bucket key) store post := by
  have hanswer : ∀ choice, answer store (.getObject bucket key) choice =
      getAnswer (some body) choice := fun choice => by rw [← hobject]; rfl
  refine ⟨⟨.served, .ok (.ok body), trivial, hanswer _⟩, fun choice a hchoice ha => ?_⟩
  rw [hanswer] at ha
  cases choice with
  | served =>
    obtain rfl := Option.some.inj ha
    exact h
  | unreadable message => exact hchoice.elim
  | failed error => exact hchoice.elim
  | _ => cases ha

/-- An object that is not there is not found. -/
theorem served_getObject_none {post : Except SdkError (Except String Bytes) → S3Store → Prop}
    (hobject : store.object (bucket, key) = none) (h : post (.error noSuchKey) store) :
    (servedSpec world).ensures (.getObject bucket key) store post := by
  have hanswer : ∀ choice, answer store (.getObject bucket key) choice =
      getAnswer none choice := fun choice => by rw [← hobject]; rfl
  refine ⟨⟨.served, .error noSuchKey, trivial, hanswer _⟩, fun choice a hchoice ha => ?_⟩
  rw [hanswer] at ha
  cases choice with
  | served =>
    obtain rfl := Option.some.inj ha
    exact h
  | unreadable message => exact hchoice.elim
  | failed error => exact hchoice.elim
  | _ => cases ha

/-- An object that is there is not written. -/
theorem served_putObject_some {post : Except SdkError Unit → S3Store → Prop} {found : Bytes}
    (hobject : store.object (bucket, key) = some found)
    (h : post (.error preconditionFailed) (store.putIfAbsent (bucket, key) body)) :
    (servedSpec world).ensures (.putObject bucket key body) store post := by
  have hanswer : ∀ choice, answer store (.putObject bucket key body) choice =
      putAnswer (some found) choice := fun choice => by rw [← hobject]; rfl
  refine ⟨⟨.served, .error preconditionFailed, trivial, hanswer _⟩, fun choice a hchoice ha => ?_⟩
  rw [hanswer] at ha
  cases choice with
  | served =>
    obtain rfl := Option.some.inj ha
    exact h
  | unreadable message => exact hchoice.elim
  | failed error => exact hchoice.elim
  | _ => cases ha

/-- An object that is not there is written. -/
theorem served_putObject_none {post : Except SdkError Unit → S3Store → Prop}
    (hobject : store.object (bucket, key) = none)
    (h : post (.ok ()) (store.putIfAbsent (bucket, key) body)) :
    (servedSpec world).ensures (.putObject bucket key body) store post := by
  have hanswer : ∀ choice, answer store (.putObject bucket key body) choice =
      putAnswer none choice := fun choice => by rw [← hobject]; rfl
  refine ⟨⟨.served, .ok (), trivial, hanswer _⟩, fun choice a hchoice ha => ?_⟩
  rw [hanswer] at ha
  cases choice with
  | served =>
    obtain rfl := Option.some.inj ha
    exact h
  | unreadable message => exact hchoice.elim
  | failed error => exact hchoice.elim
  | _ => cases ha

/-! ## The broker's functions -/

/-- Loading returns what is in the store. -/
theorem ensures_loadS3Object {found : Option Bytes} (hobject : store.object (bucket, key) = found) :
    (loadS3Object bucket key).Ensures (servedSpec world) (fun _ _ => False)
      (fun loaded store' => loaded = found ∧ store' = store) store := by
  cases found with
  | none => exact served_getObject_none hobject ⟨rfl, rfl⟩
  | some body => exact served_getObject_some hobject ⟨rfl, rfl⟩

/-- Saving succeeds unless there is another object with that name. -/
theorem ensures_saveS3ObjectIfAbsent
    (hobject : store.object (bucket, key) = none ∨ store.object (bucket, key) = some body) :
    (saveS3ObjectIfAbsent bucket key body).Ensures (servedSpec world) (fun _ _ => False)
      (fun _ store' => store' = store.putIfAbsent (bucket, key) body) store := by
  rcases hobject with hobject | hobject
  · exact served_putObject_none hobject rfl
  · -- The write is refused, and the object is then found with the same body.
    refine served_putObject_some hobject ?_
    show Ensures _ _ _ ((loadS3Object bucket key).bind _) _
    refine Ensures.bind ?_
    have hkept := Store.object_of_le (store.le_putIfAbsent (bucket, key) body) hobject
    refine (ensures_loadS3Object hkept).imp fun existing store' h => ?_
    obtain ⟨rfl, rfl⟩ := h
    rw [if_pos rfl]
    rfl

end Served

/-! ## Answers of the broker -/

/-- The credentials that a broker hands out for a slot. -/
def HandsOut (world : Surroundings) (config : BrokerConfig) (slot : KmsSlot) (c : AwsCredentials) :
    Prop :=
  ∃ provider credentials key,
    findCredentialsProvider config.credentialsProviders slot = .ok provider ∧
    (match provider with
      | .defaultChain => world.provides credentials
      | .explicit explicitCredentials => credentials = explicitCredentials) ∧
    config.settings.kmsKeys.find? (fun key => key.slot = slot) = some key ∧
    c = { region := key.region
          accessKeyId := credentials.accessKeyId
          secretAccessKey := credentials.secretAccessKey
          sessionToken := credentials.sessionToken
          expiresAtEpochSeconds := credentials.expiry.bind secondsSinceEpoch }

section Responses

variable {store : S3Store} {bucket key : String} {body : Bytes}

/-- A request other than `GetSettings` is answered in a runtime. -/
theorem ensures_handleRequest {request : BrokerRequest} {post : BrokerResponse → S3Store → Prop}
    (hne : request ≠ .getSettings)
    (h : (answerRequest config request).Ensures (servedSpec world) (fun _ _ => False) post store) :
    (handleRequest config request).Ensures (servedSpec world) (fun _ _ => False) post store := by
  rw [handleRequest_of_ne hne]
  exact served_buildRuntime
    (Ensures.tryCatch (h.mono (fun _ _ hfalse => hfalse.elim) fun _ _ => id))

/-- A broker without faults loads what is in the store. -/
theorem ensures_answer_loadObject
    (hbelow : Below config.settings.s3Bucket config.settings.s3Prefix bucket key)
    {found : Option Bytes} (hobject : store.object (bucket, key) = found) :
    (answerRequest config (.loadObject bucket key)).Ensures (servedSpec world) (fun _ _ => False)
      (fun response store' => response = .object found ∧ store' = store) store := by
  refine ensures_ofExcept_bind (validateS3Target_eq_ok (u := ()).mpr hbelow) (Ensures.bind ?_)
  refine (ensures_loadS3Object hobject).imp fun loaded store' h => ?_
  obtain ⟨rfl, rfl⟩ := h
  exact ⟨rfl, rfl⟩

/-- A broker without faults saves an object that is absent or the same. -/
theorem ensures_answer_saveObjectIfAbsent
    (hmode : config.settings.startupMode = .initKey)
    (hbelow : Below config.settings.s3Bucket config.settings.s3Prefix bucket key)
    (hobject : store.object (bucket, key) = none ∨ store.object (bucket, key) = some body) :
    (answerRequest config (.saveObjectIfAbsent bucket key body)).Ensures (servedSpec world)
      (fun _ _ => False) (fun response store' => response = .saved ∧
        store' = store.putIfAbsent (bucket, key) body) store := by
  refine ensures_ofExcept_bind (failIf_of_not _ (not_not.mpr hmode)) ?_
  refine ensures_ofExcept_bind (validateS3Target_eq_ok (u := ()).mpr hbelow) (Ensures.bind ?_)
  exact (ensures_saveS3ObjectIfAbsent hobject).imp fun _ store' h => ⟨rfl, h⟩

/-- A broker without faults hands out the credentials of the slot. -/
theorem ensures_answer_getAwsCredentials {slot : KmsSlot} {provider : CredentialsProvider}
    {settingsOfKey : KmsKeySettings}
    (hprovider : findCredentialsProvider config.credentialsProviders slot = .ok provider)
    (hkey : config.settings.kmsKeys.find? (fun key => key.slot = slot) = some settingsOfKey) :
    (answerRequest config (.getAwsCredentials slot)).Ensures (servedSpec world) (fun _ _ => False)
      (fun response store' => (∃ c, response = .awsCredentials c ∧ HandsOut world config slot c) ∧
        store' = store) store := by
  refine ensures_ofExcept_bind hprovider (Ensures.bind ?_)
  rw [hkey]
  cases provider with
  | defaultChain =>
    refine served_defaultCredentials fun credentials hprovides => ?_
    exact ⟨⟨_, rfl, _, credentials, settingsOfKey, hprovider, hprovides, hkey, rfl⟩, rfl⟩
  | explicit credentials =>
    exact ⟨⟨_, rfl, _, credentials, settingsOfKey, hprovider, rfl, hkey, rfl⟩, rfl⟩

/-- A request to save another body than the one that is there is answered with an error. -/
theorem ensures_handleRequest_refused {found : Bytes}
    (hmode : config.settings.startupMode = .initKey)
    (hbelow : Below config.settings.s3Bucket config.settings.s3Prefix bucket key)
    (hobject : store.object (bucket, key) = some found) (hne : found ≠ body) :
    (handleRequest config (.saveObjectIfAbsent bucket key body)).Ensures (servedSpec world)
      (fun _ _ => False) (fun response store' => (∃ message, response = .error message) ∧
        store' = store.putIfAbsent (bucket, key) body) store := by
  rw [handleRequest_of_ne (by simp)]
  refine served_buildRuntime (Ensures.tryCatch ?_)
  refine ensures_ofExcept_bind (failIf_of_not _ (not_not.mpr hmode)) ?_
  refine ensures_ofExcept_bind (validateS3Target_eq_ok (u := ()).mpr hbelow) (Ensures.bind ?_)
  refine served_putObject_some hobject ?_
  show Ensures _ _ _ ((loadS3Object bucket key).bind _) _
  refine Ensures.bind ?_
  -- The put is refused, and the object that is loaded to compare is the one that was there before.
  have hkept := Store.object_of_le (store.le_putIfAbsent (bucket, key) body) hobject
  refine ((ensures_loadS3Object hkept).mono (fun _ _ hfalse => hfalse.elim)
    fun existing store' h => ?_)
  obtain ⟨rfl, rfl⟩ := h
  rw [if_neg fun heq => hne (Option.some.inj heq)]
  exact ⟨⟨_, rfl⟩, rfl⟩

end Responses

/-! ## What a run is told -/

/-- An event of a run that is alone: an exchange, or an operation that the surroundings answered. -/
def Surroundings.Answered (world : Surroundings) (e : EnclaveEvent) : Prop :=
  e.op.IsExchange ∨ world.Answers e

section Alone

variable {α : Type} {fault : AppError → S3Store × List EnclaveEvent → Prop}
  {w : S3Store × List EnclaveEvent}

/-- The events of a run that is alone are recorded in its world. -/
theorem aloneSpec_records {o : EnclaveOp} {post : o.Ans → S3Store × List EnclaveEvent → Prop}
    (h : (aloneSpec world crates config peerCid).ensures o w post) :
    (aloneSpec world crates config peerCid).ensures o w fun a w' =>
      post a w' ∧ w'.2 = w.2 ++ [⟨o, a⟩] ∧ world.Answered ⟨o, a⟩ := by
  cases o with
  | exchange endpoint frame =>
    exact fun ending => (h ending).imp fun bytes store hbytes ending' =>
      ⟨hbytes ending', rfl, .inl trivial⟩
  | _ => exact ⟨h.1, fun a ha => ⟨h.2 a ha, rfl, .inr ha⟩⟩

/-- Whatever a program ensures when its run is alone, it ensures by an execution in which the
surroundings answer. -/
theorem ensures_traced {p : EnclaveProgram α} {post : α → S3Store × List EnclaveEvent → Prop}
    (h : p.Ensures (aloneSpec world crates config peerCid) fault post w) :
    p.Ensures (aloneSpec world crates config peerCid) fault (fun a w' => post a w' ∧
      ∃ tr, w'.2 = w.2 ++ tr ∧ p.Yields tr (.ok a) ∧ ∀ e ∈ tr, world.Answered e) w := by
  induction p generalizing w with
  | ret a => exact ⟨h, [], (List.append_nil _).symm, .refl _, fun e he =>
    absurd he List.not_mem_nil⟩
  | fail e => exact h
  -- The world records the event, and what follows is traced by the induction hypothesis.
  | op o k ih =>
    refine (aloneSpec world crates config peerCid).mono ?_ (aloneSpec_records h)
    intro a w₁ hrecorded
    obtain ⟨hrest, hevents, hanswered⟩ := hrecorded
    refine (ih a hrest).imp fun b w' hend => ?_
    obtain ⟨hpost, tr, hw', hyields, htr⟩ := hend
    refine ⟨hpost, ⟨o, a⟩ :: tr, by rw [hw', hevents]; simp, .step hyields, fun e he => ?_⟩
    rcases List.mem_cons.mp he with rfl | he
    · exact hanswered
    · exact htr e he

/-! ## Requests to the broker -/

/-- The answer to a request that fits is what the broker's handler ensures. -/
theorem ensures_sendRequest (hlaw : crates.Lawful) (hadmits : config.Admits peerCid)
    {endpoint : Endpoint} {request : BrokerRequest} (hfits : Fits request)
    {post : BrokerResponse → S3Store → Prop}
    (h : (handleRequest config request).Ensures (servedSpec world) (fun _ _ => False) post w.1) :
    (sendRequest endpoint request).Ensures (aloneSpec world crates config peerCid) fault
      (fun stream w' => ∃ response, stream.bytes = writtenResponse response ∧ post response w'.1 ∧
        w'.2 = w.2 ++ asked endpoint request stream) w := by
  refine ⟨⟨.ok (), rfl⟩, fun connected hconnected => ?_⟩
  obtain rfl : connected = .ok () := hconnected
  show Ensures _ _ _ ((Program.ofExcept (written (writeJsonFrame request))).bind _) _
  refine ensures_ofExcept_bind (written_writeJsonFrame_of_fits hfits) fun ending => ?_
  unfold serveConnection
  rw [receivedRequest_frameOf hlaw hfits, respond_of_admits hadmits]
  refine Ensures.bind (h.imp fun response store hresponse ending' => ?_)
  exact ⟨response, rfl, hresponse, by simp [asked]⟩

/-- A request is answered with the response that the broker's handler ensures, if that fits. -/
theorem ensures_requestBroker (hlaw : crates.Lawful) (hadmits : config.Admits peerCid)
    {endpoint : Endpoint} {request : BrokerRequest} (hfits : Fits request)
    {post : BrokerResponse → S3Store → Prop}
    (h : (handleRequest config request).Ensures (servedSpec world) (fun _ _ => False) post w.1)
    (hresponse : ∀ response store, post response store →
      Fits response ∧ ∀ message, response ≠ .error message) :
    (requestBroker crates endpoint request).Ensures (aloneSpec world crates config peerCid) fault
      (fun response w' => post response w'.1) w := by
  refine Ensures.bind ((ensures_sendRequest hlaw hadmits hfits h).imp fun stream w' hsent => ?_)
  obtain ⟨response, hwritten, hpost, _⟩ := hsent
  obtain ⟨hresponseFits, herror⟩ := hresponse response w'.1 hpost
  rw [receiveResponse_of_written hlaw hresponseFits hwritten herror]
  exact hpost

/-- An error is not received as a response. -/
theorem receiveResponse_of_written_error (hlaw : crates.Lawful) {stream : Reader} {message : String}
    (hwritten : stream.bytes = writtenResponse (.error message)) :
    ∃ e, receiveResponse crates stream = .error e := by
  cases hreceive : receiveResponse crates stream with
  | error e => exact ⟨e, rfl⟩
  | ok response =>
    have hread := receiveResponse_eq_ok hreceive
    have hwhole : stream.bytes <+: writtenResponse (.error message) :=
      ⟨[], by rw [List.append_nil, hwritten]⟩
    have hresponse := readJsonFrame_of_prefix_writtenResponse hlaw hwhole hread
    subst hresponse
    obtain ⟨response', hread', hmatch⟩ := except_bind_eq_ok.mp hreceive
    rw [hread] at hread'
    obtain rfl := Except.ok.inj hread'
    cases hmatch

/-- The request for credentials fits a frame. -/
theorem fits_getAwsCredentials (slot : KmsSlot) : Fits (BrokerRequest.getAwsCredentials slot) := by
  unfold Fits
  cases slot <;> decide

variable {s3Client : BrokerS3Client} {bucket name : String} {body : Bytes}

/-- Loading an object gives what is in the store. -/
theorem ensures_loadObject (hlaw : crates.Lawful) (hadmits : config.Admits peerCid)
    (hbelow : Below config.settings.s3Bucket config.settings.s3Prefix bucket name)
    (hrequest : Fits (BrokerRequest.loadObject bucket name)) {found : Option Bytes}
    (hresponse : Fits (BrokerResponse.object found)) (hobject : w.1.object (bucket, name) = found) :
    (s3Client.loadObject crates bucket name).Ensures (aloneSpec world crates config peerCid) fault
      (fun loaded w' => loaded = found ∧ w'.1 = w.1) w := by
  have hanswer : (handleRequest config (.loadObject bucket name)).Ensures (servedSpec world)
      (fun _ _ => False) (fun response store => response = .object found ∧ store = w.1) w.1 :=
    ensures_handleRequest (by simp) (ensures_answer_loadObject hbelow hobject)
  refine Ensures.bind ((ensures_requestBroker hlaw hadmits hrequest hanswer ?_).imp ?_)
  · intro response store h
    rw [h.1]
    exact ⟨hresponse, fun _ => BrokerResponse.noConfusion⟩
  · intro response w' h
    obtain ⟨rfl, hstore⟩ := h
    exact ⟨rfl, hstore⟩

/-- Saving an object puts it into the store, unless there is another one with this name. -/
theorem ensures_saveObjectIfAbsent (hlaw : crates.Lawful) (hadmits : config.Admits peerCid)
    (hmode : config.settings.startupMode = .initKey)
    (hbelow : Below config.settings.s3Bucket config.settings.s3Prefix bucket name)
    (hrequest : Fits (BrokerRequest.saveObjectIfAbsent bucket name body))
    (hfault : ∀ found e w' stream, w.1.object (bucket, name) = some found → found ≠ body →
      w'.1.object (bucket, name) = some found →
      (⟨.exchange s3Client.endpoint (frameOf (toVec
        (BrokerRequest.saveObjectIfAbsent bucket name body))), .ok stream⟩ : EnclaveEvent) ∈ w'.2 →
      fault e w') :
    (s3Client.saveObjectIfAbsent crates bucket name body).Ensures
      (aloneSpec world crates config peerCid) fault
      (fun _ w' => w'.1 = w.1.putIfAbsent (bucket, name) body ∧
        w'.1.object (bucket, name) = some body) w := by
  by_cases hobject : w.1.object (bucket, name) = none ∨ w.1.object (bucket, name) = some body
  · have hanswer : (handleRequest config (.saveObjectIfAbsent bucket name body)).Ensures
        (servedSpec world) (fun _ _ => False) (fun response store => response = .saved ∧
          store = w.1.putIfAbsent (bucket, name) body) w.1 :=
      ensures_handleRequest (by simp) (ensures_answer_saveObjectIfAbsent hmode hbelow hobject)
    refine Ensures.bind ((ensures_requestBroker hlaw hadmits hrequest hanswer ?_).imp ?_)
    · intro response store h
      rw [h.1]
      exact ⟨fits_saved, fun _ => BrokerResponse.noConfusion⟩
    · intro response w' h
      obtain ⟨rfl, hstore⟩ := h
      refine ⟨hstore, ?_⟩
      rw [hstore, Store.object_putIfAbsent_self]
      rcases hobject with hobject | hobject <;> rw [hobject] <;> rfl
  · -- There is another object with this name, and the request is refused.
    obtain ⟨hnone, hsome⟩ := not_or.mp hobject
    obtain ⟨found, hfound⟩ := Option.ne_none_iff_exists'.mp hnone
    have hne : found ≠ body := fun heq => hsome (by rw [hfound, heq])
    have hanswer : (handleRequest config (.saveObjectIfAbsent bucket name body)).Ensures
        (servedSpec world) (fun _ _ => False) (fun response store =>
          (∃ message, response = .error message) ∧
            store = w.1.putIfAbsent (bucket, name) body) w.1 :=
      ensures_handleRequest_refused hmode hbelow hfound hne
    refine Ensures.bind (Ensures.bind ?_)
    refine (ensures_sendRequest hlaw hadmits hrequest hanswer).imp fun stream w' hsent => ?_
    obtain ⟨_, hwritten, ⟨⟨message, rfl⟩, hstore⟩, hevents⟩ := hsent
    obtain ⟨e, herror⟩ := receiveResponse_of_written_error hlaw hwritten
    rw [herror]
    refine hfault found e w' stream hfound hne ?_ ?_
    · rw [hstore]
      exact Store.object_of_le (w.1.le_putIfAbsent _ body) hfound
    · rw [hevents]
      exact List.mem_append_right _ (List.mem_cons_of_mem _ List.mem_cons_self)

/-! ## KMS -/

/-- The client passes calls with the options of the settings on to KMS. -/
def KmsDataKeyClient.Accepts : KmsDataKeyClient → ParentSettings → KmsKeySettings → AwsCredentials →
    Prop
  | .local _, settings, key, _ => ∃ request, settings.kmsRequestSettings key.keyArn = .ok request
  | .nitro client _, settings, key, c =>
    validateCommonOptions settings = .ok () ∧ settings.encryptionContext = none ∧
      (∃ keyBits, dataKeyBits settings = .ok keyBits) ∧ (∃ native, client.native c = .ok native) ∧
      ∃ keyId, cString "KMS key ID" key.keyArn = .ok keyId

/-- What a run with these settings finds when it is alone and meets no fault: a broker for its
bucket and prefix that admits it and has credentials for its keys, and a KMS client that accepts its
options. -/
structure Supports (world : Surroundings) (config : BrokerConfig) (peerCid : Option UInt32)
    (kmsClient : KmsDataKeyClient) (settings : ParentSettings) : Prop where
  admits : config.Admits peerCid
  bucket : config.settings.s3Bucket = settings.s3Bucket
  pre : config.settings.s3Prefix = settings.s3Prefix
  provider : ∀ key ∈ settings.kmsKeys, ∃ provider,
    findCredentialsProvider config.credentialsProviders key.slot = .ok provider
  slot : ∀ key ∈ settings.kmsKeys,
    (config.settings.kmsKeys.find? fun key' => key'.slot = key.slot).isSome
  credentialsFit : ∀ slot c, HandsOut world config slot c → Fits (BrokerResponse.awsCredentials c)
  accepts : ∀ key ∈ settings.kmsKeys, ∀ c, HandsOut world config key.slot c →
    kmsClient.Accepts settings key c

variable {kmsClient : KmsDataKeyClient} {settings : ParentSettings} {key : KmsKeySettings}

/-- The broker hands out credentials for the slots of the keys. -/
theorem ensures_requestBrokerCredentials (hlaw : crates.Lawful)
    (h : Supports world config peerCid kmsClient settings) (hkey : key ∈ settings.kmsKeys)
    {endpoint : Endpoint} :
    (requestBrokerCredentials crates endpoint key.slot).Ensures
      (aloneSpec world crates config peerCid) fault
        (fun c w' => HandsOut world config key.slot c ∧ w'.1 = w.1) w := by
  obtain ⟨provider, hprovider⟩ := h.provider key hkey
  obtain ⟨settingsOfKey, hslot⟩ := Option.isSome_iff_exists.mp (h.slot key hkey)
  have hanswer : (handleRequest config (.getAwsCredentials key.slot)).Ensures (servedSpec world)
      (fun _ _ => False) (fun response store => (∃ c, response = .awsCredentials c ∧
        HandsOut world config key.slot c) ∧ store = w.1) w.1 :=
    ensures_handleRequest (by simp) (ensures_answer_getAwsCredentials hprovider hslot)
  refine Ensures.bind ((ensures_requestBroker hlaw h.admits
    (fits_getAwsCredentials _) hanswer ?_).imp ?_)
  · intro response store hresponse
    obtain ⟨⟨c, rfl, hc⟩, _⟩ := hresponse
    exact ⟨h.credentialsFit _ c hc, fun _ => BrokerResponse.noConfusion⟩
  · intro response w' hresponse
    obtain ⟨⟨c, rfl, hc⟩, hstore⟩ := hresponse
    exact ⟨hc, hstore⟩

/-- KMS generates data keys. -/
theorem ensures_generateDataKey (hlaw : crates.Lawful)
    (h : Supports world config peerCid kmsClient settings) (hkey : key ∈ settings.kmsKeys) :
    (kmsClient.generateDataKey crates settings key).Ensures (aloneSpec world crates config peerCid)
      fault (fun generated w' => generated.kmsKeyId = key.keyArn ∧
        world.generates generated.plaintextDataKey generated.encryptedDataKey ∧ w'.1 = w.1) w := by
  refine Ensures.bind ((ensures_requestBrokerCredentials hlaw h hkey).imp fun c w' hc => ?_)
  obtain ⟨hhands, hstore⟩ := hc
  have haccepts := h.accepts key hkey c hhands
  -- An answer must exist for the operation not to be stuck; which one it is stays open.
  obtain ⟨plaintext, ciphertext, hgenerates⟩ := world.exists_generates
  cases kmsClient with
  | «local» endpoint =>
    obtain ⟨request, hrequest⟩ := haccepts
    have hid : request.kmsKeyId = key.keyArn := by
      obtain ⟨_, _, hret⟩ := except_bind_eq_ok.mp hrequest
      injection hret with hret
      rw [← hret]
    refine ensures_ofExcept_bind (ofText_eq_ok.mpr hrequest)
      ⟨⟨.ok ⟨some plaintext, some ciphertext, none⟩, plaintext, ciphertext, none, rfl, rfl,
        hgenerates⟩, fun answer hanswer => ?_⟩
    obtain ⟨plaintext', ciphertext', keyId, rfl, hkeyId, hgenerates'⟩ := hanswer
    exact ⟨hkeyId.trans hid, hgenerates', hstore⟩
  | nitro client endpoint =>
    obtain ⟨hoptions, hcontext, ⟨keyBits, hbits⟩, ⟨native, hnative⟩, keyId, hkeyId⟩ := haccepts
    refine ensures_ofExcept_bind hoptions (ensures_ofExcept_bind
      (failIf_of_not _ (by rw [hcontext]; simp)) (ensures_ofExcept_bind hbits (ensures_ofExcept_bind
        hnative (ensures_ofExcept_bind hkeyId ?_))))
    refine ⟨⟨.ok (plaintext, ciphertext), plaintext, ciphertext, rfl, hgenerates⟩,
      fun answer hanswer => ?_⟩
    obtain ⟨plaintext', ciphertext', rfl, hgenerates'⟩ := hanswer
    exact ⟨rfl, hgenerates', hstore⟩

/-- KMS decrypts data keys. -/
theorem ensures_decryptDataKey (hlaw : crates.Lawful)
    (h : Supports world config peerCid kmsClient settings) (hkey : key ∈ settings.kmsKeys)
    {encryptedDataKey : Bytes} :
    (kmsClient.decryptDataKey crates settings key encryptedDataKey).Ensures
      (aloneSpec world crates config peerCid) fault
      (fun dataKey w' => dataKey = world.unwrap encryptedDataKey ∧ w'.1 = w.1) w := by
  refine Ensures.bind ((ensures_requestBrokerCredentials hlaw h hkey).imp fun c w' hc => ?_)
  obtain ⟨hhands, hstore⟩ := hc
  have haccepts := h.accepts key hkey c hhands
  cases kmsClient with
  | «local» endpoint =>
    obtain ⟨request, hrequest⟩ := haccepts
    refine ensures_ofExcept_bind (ofText_eq_ok.mpr hrequest) ⟨⟨_, rfl⟩, fun answer hanswer => ?_⟩
    obtain rfl : answer = .ok (some (world.unwrap encryptedDataKey)) := hanswer
    exact ⟨rfl, hstore⟩
  | nitro client endpoint =>
    obtain ⟨hoptions, hcontext, _, ⟨native, hnative⟩, _⟩ := haccepts
    refine ensures_ofExcept_bind hoptions (ensures_ofExcept_bind hnative ?_)
    rw [hcontext]
    refine ensures_ofExcept_bind (a := none) rfl ⟨⟨_, rfl⟩, fun answer hanswer => ?_⟩
    obtain rfl : answer = .ok (world.unwrap encryptedDataKey) := hanswer
    exact ⟨rfl, hstore⟩

/-- A package that a data key of KMS opens is restored. -/
theorem ensures_restoreFromPackage (hlaw : crates.Lawful)
    (h : Supports world config peerCid kmsClient settings) (hkey : key ∈ settings.kmsKeys)
    {package : RecoveryPackage} {publicKey seed : Vector UInt8 32} {encryptedDataKey : Bytes}
    (hopens : Opens crates package publicKey encryptedDataKey
      (world.unwrap encryptedDataKey) seed) :
    (restoreFromPackage crates kmsClient settings key package publicKey).Ensures
      (aloneSpec world crates config peerCid) fault (fun _ w' => w'.1 = w.1) w := by
  obtain ⟨f, hf, hrestore⟩ : ∃ f : Bytes → EnclaveProgram Unit, f _ = .ret () ∧
      restoreFromPackage crates kmsClient settings key package publicKey =
        (kmsClient.decryptDataKey crates settings key encryptedDataKey).bind f :=
    restoreFromPackage_of_opens hopens
  rw [hrestore]
  refine Ensures.bind ((ensures_decryptDataKey hlaw h hkey).imp fun dataKey w' hdata => ?_)
  obtain ⟨rfl, hstore⟩ := hdata
  rw [hf]
  exact hstore

end Alone

end AwsKmsDemo
