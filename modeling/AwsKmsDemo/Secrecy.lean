import AwsKmsDemo.Gating
import AwsKmsDemo.Interaction.Likeness

/-!
# What becomes of the credentials

An enclave process hands the credentials that it gets from its broker to KMS and to nobody else. Two
executions are compared in which the broker has sent different credentials and everything else has
been answered the same. `credentials_stay_secret`: they differ in the credentials of their calls of
KMS, and in nothing else.

What may differ is said by `AwsCredentials.Alike`. The region and the expiry are the same, either
both have a session token or neither has, and what `c_string` finds a NUL in is the same, since the
Nitro client refuses such credentials with an error of its own. Then the same is printed of them
(`debugResponse_congr`), which matters because an unexpected response is printed into an error.

The proof goes through the program function by function (`like_requestBroker` to
`like_decryptServerTeeMain`): each is like itself (`Program.Like`) where credentials are alike, and
from the first operation that does not involve them on it returns the same.
-/

namespace AwsKmsDemo

open Interaction Interaction.Program Stream

/-! ## Alike credentials -/

/-- The text has a NUL, which a C string cannot have. -/
def HasNul (text : String) : Prop := Char.ofNat 0 ∈ text.toList

/-- The credentials are alike: what is printed of them is the same, and the same of their texts have
a NUL. -/
structure AwsCredentials.Alike (credentials credentials' : AwsCredentials) : Prop where
  redacted : credentials.redacted = credentials'.redacted
  accessKeyId : HasNul credentials.accessKeyId ↔ HasNul credentials'.accessKeyId
  secretAccessKey : HasNul credentials.secretAccessKey ↔ HasNul credentials'.secretAccessKey
  sessionToken : HasNul (credentials.sessionToken.getD "") ↔
    HasNul (credentials'.sessionToken.getD "")

/-- The responses are alike: they are the same, unless they are credentials. -/
def BrokerResponse.Alike : BrokerResponse → BrokerResponse → Prop
  | .awsCredentials credentials, .awsCredentials credentials' => credentials.Alike credentials'
  | response, response' => response = response'

/-! ## Alike executions -/

/-- The clients are alike up to the credentials. -/
def KmsClient.Alike (client client' : KmsClient) : Prop :=
  client.region = client'.region ∧ client.sessionToken.isSome = client'.sessionToken.isSome

/-- The arguments of the shim are alike up to the credentials. -/
def NativeClient.Alike (native native' : NativeClient) : Prop :=
  native.region = native'.region ∧ native.parentCid = native'.parentCid ∧
    native.proxyPort = native'.proxyPort

/-- The operations are alike: they are the same, up to the credentials that KMS is given. -/
def EnclaveOp.Alike : EnclaveOp → EnclaveOp → Prop
  | .generateDataKey client request, .generateDataKey client' request' =>
    client.Alike client' ∧ request = request'
  | .decrypt client request, .decrypt client' request' => client.Alike client' ∧ request = request'
  | .nkmsGenerateDataKey native keyId keyBits, .nkmsGenerateDataKey native' keyId' keyBits' =>
    native.Alike native' ∧ keyId = keyId' ∧ keyBits = keyBits'
  | .nkmsDecryptDataKey native ciphertext context,
      .nkmsDecryptDataKey native' ciphertext' context' =>
    native.Alike native' ∧ ciphertext = ciphertext' ∧ context = context'
  | o, o' => o = o'

/-- The streams are alike: what `request_broker` makes of them is. -/
def StreamsAlike (crates : Crates) (stream stream' : Reader) : Prop :=
  ResultsLike BrokerResponse.Alike (receiveResponse crates stream) (receiveResponse crates stream')

/-- The answers are alike: they are the same, up to the credentials in the responses of a broker. -/
def AnswersAlike (crates : Crates) : (o o' : EnclaveOp) → o.Ans → o'.Ans → Prop
  | .exchange _ _, .exchange _ _, answer, answer' =>
    ResultsLike (StreamsAlike crates) answer answer'
  | .loadEnvironment, .loadEnvironment, answer, answer' => answer = answer'
  | .connect _, .connect _, answer, answer' => answer = answer'
  | .random _, .random _, bytes, bytes' => bytes.toList = bytes'.toList
  | .generateDataKey _ _, .generateDataKey _ _, answer, answer' => answer = answer'
  | .decrypt _ _, .decrypt _ _, answer, answer' => answer = answer'
  | .nkmsGenerateDataKey _ _ _, .nkmsGenerateDataKey _ _ _, answer, answer' => answer = answer'
  | .nkmsDecryptDataKey _ _ _, .nkmsDecryptDataKey _ _ _, answer, answer' => answer = answer'
  | .serveEnclaveRpc _, .serveEnclaveRpc _, answer, answer' => answer = answer'
  | _, _, _, _ => False

/-- Executions that know different credentials. -/
def credentialLikeness (crates : Crates) : Likeness EnclaveOp.Ans where
  Ops := EnclaveOp.Alike
  Answers := AnswersAlike crates

variable {crates : Crates} {endpoint : Endpoint} {settings : ParentSettings} {key : KmsKeySettings}
  {kmsClient : KmsDataKeyClient} {s3Client : BrokerS3Client}
  {credentials credentials' : AwsCredentials} {α : Type}

/-! ## Asking the broker -/

/-- A request to the broker is sent alike. -/
theorem like_sendRequest (endpoint : Endpoint) (request : BrokerRequest) :
    (sendRequest endpoint request).Like (credentialLikeness crates) (StreamsAlike crates)
      (sendRequest endpoint request) := by
  refine ⟨rfl, fun connected connected' hconnected => ?_⟩
  obtain rfl : connected = connected' := hconnected
  refine Like.ofExcept_bind fun _ => Like.ofExcept_bind fun frame => ?_
  refine ⟨rfl, fun answer answer' hanswer => Like.of_resultsLike ?_⟩
  cases answer with
  | ok stream =>
    cases answer' with
    | ok stream' => exact hanswer
    | error message' => exact hanswer
  | error message =>
    cases answer' with
    | ok stream' => exact hanswer
    | error message' => exact congrArg AppError.err hanswer

/-- A request to the broker is answered alike. -/
theorem like_requestBroker (endpoint : Endpoint) (request : BrokerRequest) :
    (requestBroker crates endpoint request).Like (credentialLikeness crates) BrokerResponse.Alike
      (requestBroker crates endpoint request) :=
  (like_sendRequest endpoint request).bind fun _ _ h => Like.of_resultsLike h

/-- A response of another kind than the one requested is printed the same. -/
theorem unexpectedResponse_congr {response response' : BrokerResponse}
    (h : response.Alike response') :
    unexpectedResponse crates response = unexpectedResponse crates response' := by
  unfold unexpectedResponse
  cases response with
  | awsCredentials credentials =>
    cases response' with
    | awsCredentials credentials' => rw [debugResponse_congr crates h.redacted]
    | _ => cases h
  | _ =>
    cases response' <;> cases h
    all_goals rfl

/-- Responses other than credentials are alike only if they are the same. -/
theorem BrokerResponse.Alike.cases {response response' : BrokerResponse}
    (h : response.Alike response') :
    response = response' ∨ ∃ credentials credentials', response = .awsCredentials credentials ∧
      response' = .awsCredentials credentials' ∧ credentials.Alike credentials' := by
  cases response with
  | awsCredentials credentials =>
    cases response' with
    | awsCredentials credentials' => exact .inr ⟨credentials, credentials', rfl, rfl, h⟩
    | _ => exact .inl h
  | _ => exact .inl h

/-- A request for something other than credentials. -/
theorem like_request {f : BrokerResponse → EnclaveProgram α}
    (request : BrokerRequest)
    (hf : ∀ response, (f response).Like (credentialLikeness crates) Eq (f response))
    (hother : ∀ credentials, f (.awsCredentials credentials) =
      .fail (unexpectedResponse crates (.awsCredentials credentials))) :
    ((requestBroker crates endpoint request).bind f).Like (credentialLikeness crates) Eq
      ((requestBroker crates endpoint request).bind f) := by
  refine (like_requestBroker endpoint request).bind fun response response' h => ?_
  rcases h.cases with rfl | ⟨credentials, credentials', rfl, rfl, -⟩
  · exact hf response
  -- The broker has sent credentials that nobody asked for. They are in the error, redacted.
  · rw [hother, hother]
    exact unexpectedResponse_congr h

/-- The settings are the same. -/
theorem like_requestBrokerSettings (endpoint : Endpoint) :
    (requestBrokerSettings crates endpoint).Like (credentialLikeness crates) Eq
      (requestBrokerSettings crates endpoint) :=
  like_request _ (fun response => by cases response <;> rfl) fun _ => rfl

/-- What is loaded is the same. -/
theorem like_loadObject (bucket objectKey : String) :
    (s3Client.loadObject crates bucket objectKey).Like (credentialLikeness crates) Eq
      (s3Client.loadObject crates bucket objectKey) :=
  like_request _ (fun response => by cases response <;> rfl) fun _ => rfl

/-- What is stored does not depend on the credentials. -/
theorem like_saveObjectIfAbsent (bucket objectKey : String) (body : Bytes) :
    (s3Client.saveObjectIfAbsent crates bucket objectKey body).Like (credentialLikeness crates) Eq
      (s3Client.saveObjectIfAbsent crates bucket objectKey body) :=
  like_request _ (fun response => by cases response <;> rfl) fun _ => rfl

/-- The credentials are alike. -/
theorem like_requestBrokerCredentials (endpoint : Endpoint) (slot : KmsSlot) :
    (requestBrokerCredentials crates endpoint slot).Like (credentialLikeness crates)
      AwsCredentials.Alike (requestBrokerCredentials crates endpoint slot) := by
  refine (like_requestBroker endpoint (.getAwsCredentials slot)).bind fun response response' h => ?_
  rcases h.cases with rfl | ⟨credentials, credentials', rfl, rfl, hcredentials⟩
  · cases response with
    | awsCredentials credentials => exact h
    | _ => rfl
  · exact hcredentials

/-! ## Calling KMS -/

/-- Credentials that are alike have the same region. -/
theorem AwsCredentials.Alike.region (h : credentials.Alike credentials') :
    credentials.region = credentials'.region := congrArg (·.region) h.redacted

/-- The clients of the SDK are alike. -/
theorem AwsCredentials.Alike.localKmsClient (h : credentials.Alike credentials') :
    (AwsKmsDemo.localKmsClient credentials).Alike (AwsKmsDemo.localKmsClient credentials') := by
  refine ⟨h.region, ?_⟩
  have htoken := congrArg (·.sessionToken.isSome) h.redacted
  simp only [AwsCredentials.redacted, Option.isSome_map] at htoken
  exact htoken

/-- Texts that have a NUL alike become C strings alike. -/
theorem resultsLike_cString {name value value' : String} (h : HasNul value ↔ HasNul value') :
    ResultsLike (fun _ _ => True) (cString name value) (cString name value') := by
  unfold cString
  by_cases hvalue : Char.ofNat 0 ∈ value.toList
  · have hvalue' : Char.ofNat 0 ∈ value'.toList := h.mp hvalue
    rw [if_pos hvalue, if_pos hvalue']
    rfl
  · have hvalue' : Char.ofNat 0 ∉ value'.toList := fun h' => hvalue (h.mpr h')
    rw [if_neg hvalue, if_neg hvalue']
    trivial

/-- The arguments of the shim are alike. -/
theorem AwsCredentials.Alike.native (h : credentials.Alike credentials') (client : NitroKmsClient) :
    ResultsLike NativeClient.Alike (client.native credentials) (client.native credentials') := by
  unfold NitroKmsClient.native
  rw [h.region]
  refine (ResultsLike.refl (cString "AWS region" credentials'.region)).bind
    fun region _ hregion => ?_
  refine (resultsLike_cString h.accessKeyId).bind fun _ _ _ => ?_
  refine (resultsLike_cString h.secretAccessKey).bind fun _ _ _ => ?_
  exact (resultsLike_cString h.sessionToken).bind fun _ _ _ => ⟨hregion, rfl, rfl⟩

/-- The data keys are the same, whichever credentials they were asked for with. -/
theorem like_generateDataKey :
    (kmsClient.generateDataKey crates settings key).Like (credentialLikeness crates) Eq
      (kmsClient.generateDataKey crates settings key) := by
  refine (like_requestBrokerCredentials _ key.slot).bind fun credentials credentials' h => ?_
  cases kmsClient with
  | «local» brokerEndpoint =>
    -- The calls differ in the client. What comes after them has no credentials any more.
    refine Like.ofExcept_bind fun request =>
      ⟨⟨h.localKmsClient, rfl⟩, fun output output' houtput => ?_⟩
    obtain rfl : output = output' := houtput
    exact Like.ofExcept_bind fun _ => Like.ofExcept_bind fun _ => Like.ofExcept_bind fun _ => rfl
  | nitro client brokerEndpoint =>
    refine Like.ofExcept_bind fun _ => Like.ofExcept_bind fun _ =>
      Like.ofExcept_bind fun keyBits => ?_
    -- Credentials with a NUL are refused before the call, and alike ones with the same error.
    refine (Like.of_resultsLike (h.native client)).bind fun native native' hnative => ?_
    refine Like.ofExcept_bind fun keyIdC => ⟨⟨hnative, rfl, rfl⟩, fun answer answer' hanswer => ?_⟩
    obtain rfl : answer = answer' := hanswer
    cases answer <;> rfl

/-- A data key is decrypted to the same, whichever credentials were used for it. -/
theorem like_decryptDataKey (encryptedDataKey : Bytes) :
    (kmsClient.decryptDataKey crates settings key encryptedDataKey).Like
      (credentialLikeness crates) Eq
        (kmsClient.decryptDataKey crates settings key encryptedDataKey) := by
  refine (like_requestBrokerCredentials _ key.slot).bind fun credentials credentials' h => ?_
  cases kmsClient with
  | «local» brokerEndpoint =>
    refine Like.ofExcept_bind fun request =>
      ⟨⟨h.localKmsClient, rfl⟩, fun answer answer' hanswer => ?_⟩
    obtain rfl : answer = answer' := hanswer
    exact Like.ofExcept_bind fun _ => Like.ofExcept _
  | nitro client brokerEndpoint =>
    refine Like.ofExcept_bind fun _ => ?_
    refine (Like.of_resultsLike (h.native client)).bind fun native native' hnative => ?_
    refine Like.ofExcept_bind fun context => ⟨⟨hnative, rfl, rfl⟩, fun answer answer' hanswer => ?_⟩
    obtain rfl : answer = answer' := hanswer
    cases answer <;> rfl

/-! ## Key material -/

/-- Verifying an uploaded object does not tell the credentials apart. -/
theorem like_verifyUploadedObject (bucket objectKey expectedHash : String) :
    (verifyUploadedObject crates s3Client bucket objectKey expectedHash).Like
      (credentialLikeness crates) Eq
        (verifyUploadedObject crates s3Client bucket objectKey expectedHash) :=
  (like_loadObject bucket objectKey).bind_eq fun _ =>
    Like.ofExcept_bind fun _ => Like.ofExcept _

/-- Restoring from a package does not tell the credentials apart. -/
theorem like_restoreFromPackage (package : RecoveryPackage) (expectedPublicKey : Vector UInt8 32) :
    (restoreFromPackage crates kmsClient settings key package expectedPublicKey).Like
      (credentialLikeness crates) Eq
      (restoreFromPackage crates kmsClient settings key package expectedPublicKey) := by
  refine Like.ofExcept_bind fun _ => Like.ofExcept_bind fun encryptedDataKey => ?_
  refine Like.ofExcept_bind fun encryptedPrivateKey => Like.ofExcept_bind fun nonce => ?_
  refine (like_decryptDataKey encryptedDataKey).bind_eq fun plaintextDataKey => ?_
  refine Like.ofExcept_bind fun _ => Like.ofExcept_bind fun decryptedPrivateKey => ?_
  exact Like.ofExcept_bind fun privateKey => Like.ofExcept _

/-- Random bytes that are alike are the same. -/
theorem like_random (n : ℕ) : (random n).Like (credentialLikeness crates) Eq (random n) :=
  ⟨rfl, fun _ _ h => Vector.toList_inj.mp h⟩

/-- Creating a recovery object does not tell the credentials apart. -/
theorem like_createRecoveryObject (privateKey publicKey : Vector UInt8 32) :
    (createRecoveryObject crates s3Client kmsClient settings privateKey publicKey key).Like
      (credentialLikeness crates) Eq
      (createRecoveryObject crates s3Client kmsClient settings privateKey publicKey key) := by
  refine like_generateDataKey.bind_eq fun generated => ?_
  refine Like.ofExcept_bind fun _ => Like.ofExcept_bind fun _ => ?_
  refine (like_random aesGcmNonceLength).bind_eq fun nonce => ?_
  refine Like.ofExcept_bind fun encryptedPrivateKey => ?_
  refine Like.ofExcept_bind fun storageId => Like.ofExcept_bind fun displayId => ?_
  refine (like_saveObjectIfAbsent _ _ _).bind_eq fun _ => ?_
  refine (like_verifyUploadedObject _ _ _).bind_eq fun _ => ?_
  exact (like_restoreFromPackage _ publicKey).bind_eq fun _ => rfl

/-- Creating the recovery objects does not tell the credentials apart. -/
theorem like_createRecoveryObjects (privateKey publicKey : Vector UInt8 32)
    (recoveryObjects : List RecoveryObjectReference) (keys : List KmsKeySettings) :
    (createRecoveryObjects crates s3Client kmsClient settings privateKey publicKey recoveryObjects
      keys).Like (credentialLikeness crates) Eq
      (createRecoveryObjects crates s3Client kmsClient settings privateKey publicKey recoveryObjects
        keys) := by
  induction keys generalizing recoveryObjects with
  | nil => rfl
  | cons key keys ih =>
    exact (like_createRecoveryObject privateKey publicKey).bind_eq fun reference => ih _

/-- Key material is generated alike. -/
theorem like_initializeKeyMaterial :
    (initializeKeyMaterial crates s3Client kmsClient settings).Like (credentialLikeness crates) Eq
      (initializeKeyMaterial crates s3Client kmsClient settings) := by
  refine (like_loadObject _ _).bind_eq fun existing => Like.ofExcept_bind fun _ => ?_
  refine (like_random ed25519PrivateKeyLength).bind_eq fun privateKey => ?_
  refine (like_createRecoveryObjects privateKey _ [] settings.kmsKeys).bind_eq
    fun recoveryObjects => ?_
  refine (like_saveObjectIfAbsent _ _ _).bind_eq fun _ => ?_
  refine (like_verifyUploadedObject _ _ _).bind_eq fun _ => ?_
  exact (like_saveObjectIfAbsent _ _ _).bind_eq fun _ => rfl

/-- An attempt to restore does not tell the credentials apart. -/
theorem like_attemptRestore (expectedPublicKey : Vector UInt8 32)
    (reference : RecoveryObjectReference) :
    (attemptRestore crates s3Client kmsClient settings expectedPublicKey key reference).Like
      (credentialLikeness crates) Eq
      (attemptRestore crates s3Client kmsClient settings expectedPublicKey key reference) := by
  refine (like_loadObject _ _).bind_eq fun loaded => Like.ofExcept_bind fun body => ?_
  refine Like.ofExcept_bind fun _ => Like.ofExcept_bind fun package => ?_
  exact like_restoreFromPackage package expectedPublicKey

/-- The failures of an attempt, which end up in the error of the whole, are the same. -/
theorem like_caught {attempt : EnclaveProgram Unit}
    (h : attempt.Like (credentialLikeness crates) Eq attempt) :
    (caught attempt).Like (credentialLikeness crates) Eq (caught attempt) := by
  have hattempt : (attempt.bind fun _ => .ret (.ok ())).Like (credentialLikeness crates) Eq
      (attempt.bind fun _ => .ret (.ok () : Except String Unit)) := h.bind_eq fun _ => rfl
  refine hattempt.tryCatch fun error => ?_
  cases error with
  | err message => rfl
  | panic message => rfl

/-- Trying the keys one after the other does not tell the credentials apart. -/
theorem like_restoreWith (manifest : KeyManifest)
    (expectedPublicKey : Vector UInt8 32) (failures : List String) (keys : List KmsKeySettings) :
    (restoreWith crates s3Client kmsClient settings manifest expectedPublicKey failures keys).Like
      (credentialLikeness crates) Eq
      (restoreWith crates s3Client kmsClient settings manifest expectedPublicKey
        failures keys) := by
  induction keys generalizing failures with
  | nil => rfl
  | cons key keys ih =>
    unfold restoreWith
    split
    · exact ih _
    · refine (like_caught (like_attemptRestore expectedPublicKey _)).bind_eq fun outcome => ?_
      cases outcome with
      | ok _ => rfl
      | error message => exact ih _

/-- Key material is restored alike. -/
theorem like_restoreKeyMaterial :
    (restoreKeyMaterial crates s3Client kmsClient settings).Like (credentialLikeness crates) Eq
      (restoreKeyMaterial crates s3Client kmsClient settings) := by
  refine (like_loadObject _ _).bind_eq fun loaded => Like.ofExcept_bind fun manifestBody => ?_
  refine Like.ofExcept_bind fun manifest => Like.ofExcept_bind fun _ => ?_
  refine (like_loadObject _ _).bind_eq fun loadedPublic => Like.ofExcept_bind fun body => ?_
  refine Like.ofExcept_bind fun _ => Like.ofExcept_bind fun document => ?_
  exact Like.ofExcept_bind fun expectedPublicKey => like_restoreWith _ _ _ _

/-! ## The process -/

/-- The whole process does not tell the credentials apart. -/
theorem like_runDecryptServerTee (env : Environment) (endpoint : Endpoint) :
    (runDecryptServerTee crates env settings endpoint).Like (credentialLikeness crates) Eq
      (runDecryptServerTee crates env settings endpoint) := by
  refine Like.ofExcept_bind fun _ => Like.ofExcept_bind fun kmsClient => ?_
  cases settings.startupMode with
  | initKey => exact (like_initializeKeyMaterial).bind_eq fun _ => rfl
  | serve => exact (like_restoreKeyMaterial).bind_eq fun _ => rfl

/-- Enclave processes that know different credentials are alike. -/
theorem like_decryptServerTeeMain :
    (decryptServerTeeMain crates).Like (credentialLikeness crates) Eq
      (decryptServerTeeMain crates) := by
  refine Like.bind_eq ⟨rfl, fun answer answer' hanswer => ?_⟩ fun env => ?_
  · obtain rfl : answer = answer' := hanswer
    exact Like.ofExcept _
  refine Like.ofExcept_bind fun endpoint => ?_
  refine (like_requestBrokerSettings endpoint).bind_eq fun brokerSettings => ?_
  refine Like.ofExcept_bind fun command => Like.ofExcept_bind fun settings => ?_
  refine (like_runDecryptServerTee env endpoint).bind_eq fun _ => ?_
  split
  · rfl
  · refine Like.ofExcept_bind fun rpcEndpoint => ⟨rfl, fun answer answer' hanswer => ?_⟩
    obtain rfl : answer = answer' := hanswer
    exact Like.ofExcept _

/-- What becomes of the credentials. Take two executions of the enclave process that have come
equally far, in which the broker may have sent different credentials, of which the same is printed
and the same texts have a NUL, and everything else has been answered the same. They differ in the
credentials of their calls of KMS and in nothing else, and if one has come to an end, so has the
other, with the same result. -/
theorem credentials_stay_secret {crates : Crates} {tr tr' : List EnclaveEvent}
    {q q' : EnclaveProgram Unit} (hsteps : (decryptServerTeeMain crates).Steps tr q)
    (hsteps' : (decryptServerTeeMain crates).Steps tr' q') (hlength : tr.length = tr'.length)
    (hrelated : (credentialLikeness crates).Related tr tr') :
    List.Forall₂ (fun e e' => e.op.Alike e'.op) tr tr' ∧
      ∀ r, q = .ofExcept r ↔ q' = .ofExcept r := by
  obtain ⟨hops, hleft⟩ := (like_decryptServerTeeMain).steps hsteps hsteps' hlength hrelated
  exact ⟨hops, hleft.eq_ofExcept_iff⟩

/-! ## Two executions -/

/-- A response is like itself. -/
theorem BrokerResponse.Alike.refl (response : BrokerResponse) : response.Alike response := by
  cases response with
  | awsCredentials credentials => exact ⟨rfl, .rfl, .rfl, .rfl⟩
  | _ => rfl

/-- An answer is like itself. -/
theorem AnswersAlike.refl (e : EnclaveEvent) : AnswersAlike crates e.op e.op e.ans e.ans := by
  obtain ⟨o, a⟩ := e
  cases o with
  | exchange endpoint frame =>
    cases a with
    | ok stream =>
      show StreamsAlike crates stream stream
      unfold StreamsAlike
      cases receiveResponse crates stream with
      | ok response => exact BrokerResponse.Alike.refl response
      | error error => rfl
    | error message => rfl
  | _ => rfl

/-- The endpoint of the broker. -/
def localBroker : Endpoint := .tcp "127.0.0.1:7000"

/-- What the broker sends with a response. -/
def responding (response : BrokerResponse) : Reader := ⟨writtenResponse response, ""⟩

/-- A run is told that it is about to initialize. -/
def toldSettings : List EnclaveEvent :=
  ⟨.loadEnvironment, .ok plainEnvironment⟩ ::
    asked localBroker .getSettings (responding (.settings deployment))

/-- The run finds nothing stored, and draws a private key. -/
def drawnKey : List EnclaveEvent :=
  asked localBroker (.loadObject deployment.s3Bucket (manifestKey deployment))
    (responding (.object none)) ++ [⟨.random ed25519PrivateKeyLength, .replicate _ 0⟩]

/-- The request for a data key under the first key. -/
def dataKeyRequest : Settings where
  kmsKeyId := primaryKey.keyArn
  keySpec := some .aes256
  numberOfBytes := none
  encryptionContext := none
  grantTokens := []
  dryRun := none

/-- The run gets these credentials, and KMS refuses them. -/
def refused (credentials : AwsCredentials) : List EnclaveEvent :=
  asked localBroker (.getAwsCredentials .primary) (responding (.awsCredentials credentials)) ++
    [⟨.generateDataKey (localKmsClient credentials) dataKeyRequest, .error "denied"⟩]

/-- The stream with a response that fits is read as this response. -/
theorem receiveResponse_responding {response : BrokerResponse} (h : Fits response)
    (herror : ∀ message, response ≠ .error message) :
    receiveResponse reference (responding response) = .ok response :=
  receiveResponse_writtenResponse h herror

/-- The start of the run. -/
theorem yields_toldSettings :
    (startUp reference).Yields toldSettings (.ok (plainEnvironment, localBroker, deployment)) := by
  have hrequest : Fits BrokerRequest.getSettings := by
    unfold Fits
    decide
  have hresponse : Fits (BrokerResponse.settings deployment) := by
    unfold Fits
    decide +kernel
  have hsettings : (requestBrokerSettings reference localBroker).Yields
      (asked localBroker .getSettings (responding (.settings deployment))) (.ok deployment) :=
    yields_requestBrokerSettings_ok.mpr
      ⟨hrequest, _, rfl, receiveResponse_responding hresponse fun _ herror => by cases herror⟩
  refine yields_bind_ok.mpr
    ⟨[⟨.loadEnvironment, .ok plainEnvironment⟩], _, _, rfl, .step (.refl _), ?_⟩
  refine yields_ofExcept_bind_ok.mpr ⟨localBroker, rfl, ?_⟩
  exact yields_bind_ok.mpr ⟨_, [], _, (List.append_nil _).symm, hsettings, .refl _⟩

/-- A data key is asked for with the credentials and refused. -/
theorem yields_refused {credentials : AwsCredentials}
    (h : Fits (BrokerResponse.awsCredentials credentials)) :
    ((KmsDataKeyClient.local localBroker).generateDataKey reference deployment primaryKey).Yields
      (refused credentials) (.error (.err "denied")) := by
  have hrequest : Fits (BrokerRequest.getAwsCredentials .primary) := by
    unfold Fits
    decide
  have hcredentials : (requestBrokerCredentials reference localBroker .primary).Yields
      (asked localBroker (.getAwsCredentials .primary) (responding (.awsCredentials credentials)))
      (.ok credentials) :=
    yields_bind_ok.mpr ⟨_, [], _, (List.append_nil _).symm, yields_requestBroker_ok.mpr
      ⟨hrequest, _, rfl, receiveResponse_responding h fun _ herror => by cases herror⟩, .refl _⟩
  refine yields_bind.mpr (.inr ⟨_, _, _, rfl, hcredentials, ?_⟩)
  exact .step (.refl _)

/-- An initialization finds nothing stored, and gets no data key. -/
theorem yields_drawnKey_refused {credentials : AwsCredentials}
    (h : Fits (BrokerResponse.awsCredentials credentials)) :
    (initializeKeyMaterial reference ⟨localBroker⟩ (.local localBroker) deployment).Yields
      (drawnKey ++ refused credentials) (.error (.err "denied")) := by
  have hrequest : Fits (BrokerRequest.loadObject deployment.s3Bucket (manifestKey deployment)) := by
    unfold Fits
    decide
  have hmanifest : ((⟨localBroker⟩ : BrokerS3Client).loadObject reference deployment.s3Bucket
      (manifestKey deployment)).Yields (asked localBroker (.loadObject deployment.s3Bucket
        (manifestKey deployment)) (responding (.object none))) (.ok none) :=
    yields_loadObject_ok.mpr ⟨hrequest, _, rfl,
      receiveResponse_responding fits_object_none fun _ herror => by cases herror⟩
  have hrefused : (createRecoveryObjects reference ⟨localBroker⟩ (.local localBroker) deployment
      (.replicate _ 0) (reference.ed25519PublicKey (.replicate _ 0)) [] deployment.kmsKeys).Yields
        (refused credentials) (.error (.err "denied")) :=
    yields_bind.mpr (.inl ⟨_, yields_bind.mpr (.inl ⟨_, yields_refused h, rfl⟩), rfl⟩)
  unfold drawnKey
  rw [List.append_assoc]
  refine yields_bind.mpr (.inr ⟨_, _, _, rfl, hmanifest, .step ?_⟩)
  change (Program.bind (createRecoveryObjects reference ⟨localBroker⟩
    (.local localBroker) deployment (.replicate _ 0) (reference.ed25519PublicKey (.replicate _ 0))
      [] deployment.kmsKeys) _).Yields _ _
  exact yields_bind.mpr (.inl ⟨_, hrefused, rfl⟩)

/-- The run up to its end. -/
theorem yields_untilRefused {credentials : AwsCredentials}
    (h : Fits (BrokerResponse.awsCredentials credentials)) :
    (decryptServerTeeMain reference).Yields (toldSettings ++ (drawnKey ++ refused credentials))
      (.error (.err "denied")) := by
  have hvalid : validateKmsConfiguration deployment = .ok () := by decide
  have hclient : KmsDataKeyClient.fromEnv plainEnvironment localBroker =
      .ok (.local localBroker) := by
    decide
  have hrun : (runDecryptServerTee reference plainEnvironment deployment localBroker).Yields
      (drawnKey ++ refused credentials) (.error (.err "denied")) := by
    unfold runDecryptServerTee
    rw [hvalid, hclient]
    change ((initializeKeyMaterial reference ⟨localBroker⟩ (.local localBroker)
      deployment).bind _).Yields _ _
    exact yields_bind.mpr (.inl ⟨_, yields_drawnKey_refused h, rfl⟩)
  rw [decryptServerTeeMain_eq]
  refine yields_bind.mpr (.inr ⟨_, _, _, rfl, yields_toldSettings, ?_⟩)
  exact yields_bind.mpr (.inl ⟨_, hrun, rfl⟩)

/-- Credentials with this secret. -/
def credentialsWith (secretAccessKey : String) : AwsCredentials where
  region := primaryKey.region
  accessKeyId := "AKIA"
  secretAccessKey := secretAccessKey
  sessionToken := none
  expiresAtEpochSeconds := none

/-- The credentials of the two runs fit a frame. -/
theorem fits_credentialsWith {secretAccessKey : String}
    (h : secretAccessKey = "first" ∨ secretAccessKey = "second") :
    Fits (BrokerResponse.awsCredentials (credentialsWith secretAccessKey)) := by
  unfold Fits
  rcases h with rfl | rfl <;> decide +kernel

/-- A refused run has three events. -/
theorem length_refused (credentials : AwsCredentials) : (refused credentials).length = 3 := rfl

/-- One more exchange with streams that are alike. -/
theorem related_exchanged {endpoint : Endpoint} {frame : Bytes} {stream stream' : Reader}
    {tr tr' : List EnclaveEvent} (h : StreamsAlike crates stream stream')
    (hrelated : (credentialLikeness crates).Related tr tr') :
    (credentialLikeness crates).Related (⟨.exchange endpoint frame, .ok stream⟩ :: tr)
      (⟨.exchange endpoint frame, .ok stream'⟩ :: tr') :=
  fun _ => ⟨h, hrelated⟩

/-- Two runs with different credentials, which KMS refuses. -/
theorem credentials_stay_secret_deployment :
    List.Forall₂ (fun e e' => e.op.Alike e'.op)
      (toldSettings ++ (drawnKey ++ refused (credentialsWith "first")))
      (toldSettings ++ (drawnKey ++ refused (credentialsWith "second"))) ∧
    ∀ r, (.ofExcept (.error (.err "denied")) : EnclaveProgram Unit) = .ofExcept r ↔
      (.ofExcept (.error (.err "denied")) : EnclaveProgram Unit) = .ofExcept r := by
  have hfirst := fits_credentialsWith (.inl rfl)
  have hsecond := fits_credentialsWith (.inr rfl)
  refine credentials_stay_secret (yields_untilRefused hfirst)
    (yields_untilRefused hsecond) (by simp only [List.length_append, length_refused]) ?_
  -- Only what the broker has sent differs, and there the secrets.
  refine Likeness.Related.append (Likeness.Related.append ?_ fun e _ => .refl e) fun e _ => .refl e
  refine fun _ => ⟨rfl, related_exchanged ?_ fun _ => ⟨rfl, trivial⟩⟩
  unfold StreamsAlike
  rw [receiveResponse_responding hfirst (fun _ herror => by cases herror),
    receiveResponse_responding hsecond (fun _ herror => by cases herror)]
  exact ⟨rfl, .rfl, by unfold HasNul; decide, .rfl⟩

end AwsKmsDemo
