import Mathlib.Data.Nat.Digits.Defs
import AwsKmsDemo.Delivery
import AwsKmsDemo.Reference
import AwsKmsDemo.Retries

/-!
# When a decoded request is answered

A connection whose bytes decode to a request is answered with a whole frame exactly when the answer
has room in one. How much room it takes depends on the settings, on the credentials, on the object
that was read, or on the error text to be reported, and these are not limited. The broker ignores
the refusal of `write_json_frame`, and nothing is written then.
-/

namespace AwsKmsDemo

open Interaction Interaction.Program Stream
open Json (textLength valueLength)

variable {config : BrokerConfig} {peerCid : Option UInt32} {request : BrokerRequest}
  {bucket key : String} {body : Bytes} {tr : List BrokerEvent}

/-! ## Room for the answer -/

/-- There is room for an error whose text takes this many bytes as a JSON string. -/
def RoomForError (n : ℕ) : Prop := n + 24 ≤ maxJsonFrameLength

/-- There is room for credentials in this region. -/
def RoomForCredentials (region : String) (credentials : Credentials) : Prop :=
  textLength region + textLength credentials.accessKeyId + textLength credentials.secretAccessKey +
    valueLength (serialize credentials.sessionToken) +
    valueLength (serialize (credentials.expiry.bind secondsSinceEpoch)) + 119 ≤ maxJsonFrameLength

/-- There is room for the credentials of a slot, or for the error that there is no such key. -/
def RoomForSlot (config : BrokerConfig) (slot : KmsSlot) (credentials : Credentials) : Prop :=
  match config.settings.kmsKeys.find? fun key => key.slot = slot with
  | some key => RoomForCredentials key.region credentials
  | none => True

/-- There is room for the error that an object is not below the prefix. -/
def RoomForTarget (config : BrokerConfig) (bucket key : String) : Prop :=
  RoomForError (textLength bucket + textLength key + textLength config.settings.s3Bucket +
    textLength config.settings.s3Prefix + 70)

/-- There is room for what a request that needs nothing from outside leads to: the rejection of its
object, or explicit credentials. -/
def RoomAtOnce (config : BrokerConfig) : BrokerRequest → Prop
  | .getSettings => True
  | .getAwsCredentials slot =>
    match findCredentialsProvider config.credentialsProviders slot with
    | .ok (.explicit credentials) => RoomForSlot config slot credentials
    | _ => True
  | .loadObject bucket key => RoomForTarget config bucket key
  | .saveObjectIfAbsent bucket key _ =>
    config.settings.startupMode = .initKey → RoomForTarget config bucket key

/-- There is room for an object that was read, or for the error about it. -/
def RoomForLoaded : Except SdkError (Except String Bytes) → Prop
  | .ok (.ok body) => valueLength (serialize body) + 11 ≤ maxJsonFrameLength
  | .ok (.error message) => RoomForError (textLength message)
  | .error ⟨.serviceError error, display, _⟩ =>
    error.noSuchKey = true ∨ RoomForError (textLength display)
  | .error ⟨.dispatchFailure, display, _⟩ => RoomForError (textLength display)
  | .error ⟨.other, display, _⟩ => RoomForError (textLength display)

/-- There is room for the error about a write that failed. -/
def RoomForWritten (bucket key : String) : Except SdkError Unit → Prop
  | .ok () => True
  | .error ⟨.serviceError error, _, _⟩ =>
    RoomForError (textLength bucket + textLength key + textLength (toString error.status) +
      textLength (error.code.getD "unknown") + textLength (error.message.getD "unknown") + 62)
  | .error ⟨.dispatchFailure, _, debug⟩ =>
    RoomForError (textLength bucket + textLength key + textLength debug + 40)
  | .error ⟨.other, _, debug⟩ =>
    RoomForError (textLength bucket + textLength key + textLength debug + 40)

/-- There is room for the error that an object exists already, with the content that was read, or
for the error about reading it. -/
def RoomForExisting (bucket key : String) (body : Bytes) :
    Except SdkError (Except String Bytes) → Prop
  | .ok (.ok existing) =>
    existing = body ∨ RoomForError (textLength bucket + textLength key + 92)
  | .ok (.error message) => RoomForError (textLength message)
  | .error ⟨.serviceError error, display, _⟩ =>
    if error.noSuchKey then RoomForError (textLength bucket + textLength key + 92)
    else RoomForError (textLength display)
  | .error ⟨.dispatchFailure, display, _⟩ => RoomForError (textLength display)
  | .error ⟨.other, display, _⟩ => RoomForError (textLength display)

/-- There is room in a frame for the answer to a request, given the last thing that the broker was
told while it handled the request. -/
def HasRoom (config : BrokerConfig) (request : BrokerRequest) : Option BrokerEvent → Prop
  | none => valueLength (serialize config.settings) + 13 ≤ maxJsonFrameLength
  | some ⟨.buildRuntime, .error message⟩ => RoomForError (textLength message)
  | some ⟨.buildRuntime, .ok ()⟩ => RoomAtOnce config request
  | some ⟨.defaultCredentials, .error message⟩ => RoomForError (textLength message)
  | some ⟨.defaultCredentials, .ok credentials⟩ =>
    match request with
    | .getAwsCredentials slot => RoomForSlot config slot credentials
    | _ => True
  | some ⟨.getObject bucket key, answer⟩ =>
    match request with
    | .saveObjectIfAbsent _ _ body => RoomForExisting bucket key body answer
    | _ => RoomForLoaded answer
  | some ⟨.putObject bucket key _, answer⟩ => RoomForWritten bucket key answer

/-! ## What fits -/

/-- When a response with an error fits a frame. -/
theorem fits_error_iff {message : String} :
    Fits (BrokerResponse.error message) ↔ RoomForError (textLength message) := by
  have houter : (toVec (BrokerResponse.error message)).length =
      textLength "Error" + valueLength (.obj [("message", serialize message)]) + 5 :=
    Json.valueLength_obj_singleton "Error" _
  have hnames : textLength "Error" = 5 ∧ textLength "message" = 7 := by decide
  rw [Json.valueLength_obj_singleton, show serialize message = .str message from rfl,
    Json.valueLength_str] at houter
  unfold Fits RoomForError
  omega

/-- An error whose text is short always fits. -/
theorem fits_error_of_le {message : String} (h : message.toList.length ≤ 1000) :
    Fits (BrokerResponse.error message) := by
  have hbound := Json.textLength_le message
  rw [fits_error_iff]
  unfold RoomForError maxJsonFrameLength
  omega

/-- When a response with settings fits a frame. -/
theorem fits_settings_iff {settings : ParentSettings} :
    Fits (BrokerResponse.settings settings) ↔
      valueLength (serialize settings) + 13 ≤ maxJsonFrameLength := by
  have houter : (toVec (BrokerResponse.settings settings)).length =
      textLength "Settings" + valueLength (serialize settings) + 5 :=
    Json.valueLength_obj_singleton "Settings" _
  have hname : textLength "Settings" = 8 := by decide
  unfold Fits
  omega

/-- When a response with an object fits a frame. -/
theorem fits_object_iff : Fits (BrokerResponse.object (some body)) ↔
    valueLength (serialize body) + 11 ≤ maxJsonFrameLength := by
  have houter : (toVec (BrokerResponse.object (some body))).length =
      textLength "Object" + valueLength (serialize body) + 5 :=
    Json.valueLength_obj_singleton "Object" _
  have hname : textLength "Object" = 6 := by decide
  unfold Fits
  omega

/-- When a response with credentials fits a frame. -/
theorem fits_awsCredentials_iff {region : String} {credentials : Credentials} :
    Fits (BrokerResponse.awsCredentials
      { region := region
        accessKeyId := credentials.accessKeyId
        secretAccessKey := credentials.secretAccessKey
        sessionToken := credentials.sessionToken
        expiresAtEpochSeconds := credentials.expiry.bind secondsSinceEpoch }) ↔
      RoomForCredentials region credentials := by
  have houter : (toVec (BrokerResponse.awsCredentials
      { region := region
        accessKeyId := credentials.accessKeyId
        secretAccessKey := credentials.secretAccessKey
        sessionToken := credentials.sessionToken
        expiresAtEpochSeconds := credentials.expiry.bind secondsSinceEpoch })).length =
      textLength "AwsCredentials" + valueLength (.obj [("region", .str region),
        ("access_key_id", .str credentials.accessKeyId),
        ("secret_access_key", .str credentials.secretAccessKey),
        ("session_token", serialize credentials.sessionToken),
        ("expires_at_epoch_seconds", serialize (credentials.expiry.bind secondsSinceEpoch))]) + 5 :=
    Json.valueLength_obj_singleton "AwsCredentials" _
  have hnames : textLength "AwsCredentials" = 14 ∧ textLength "region" = 6 ∧
      textLength "access_key_id" = 13 ∧ textLength "secret_access_key" = 17 ∧
      textLength "session_token" = 13 ∧ textLength "expires_at_epoch_seconds" = 24 := by decide
  rw [Json.valueLength_obj_cons, Json.valueLength_obj_cons, Json.valueLength_obj_cons,
    Json.valueLength_obj_cons, Json.valueLength_obj_singleton, Json.valueLength_str,
    Json.valueLength_str, Json.valueLength_str] at houter
  unfold Fits RoomForCredentials
  omega

/-! ## What each answer takes -/

/-- What the response to a result is. -/
def reported : AppResult BrokerResponse → BrokerResponse
  | .ok response => response
  | .error e => .error e.message

/-- When the response about a load fits a frame. -/
theorem fits_reported_loaded_iff {answer : Except SdkError (Except String Bytes)} :
    Fits (reported ((loadResult answer).map .object)) ↔ RoomForLoaded answer := by
  rcases answer with ⟨_ | error | _, display, debug⟩ | ⟨message | body⟩
  · exact fits_error_iff
  · unfold loadResult RoomForLoaded
    dsimp only
    split_ifs with hnoSuchKey
    · exact iff_of_true fits_object_none (.inl hnoSuchKey)
    · rw [or_iff_right hnoSuchKey]
      exact fits_error_iff
  · exact fits_error_iff
  · exact fits_error_iff
  · exact fits_object_iff

/-- When the response about a write that was not refused fits a frame. -/
theorem fits_reported_written_iff {answer : Except SdkError Unit} :
    Fits (reported ((putResult bucket key answer).map fun _ => .saved)) ↔
      RoomForWritten bucket key answer := by
  have hfailed : textLength "conditional S3 write failed for s3://" = 37 ∧ textLength "/" = 1 ∧
      textLength ": HTTP " = 7 ∧ textLength ", code=" = 7 ∧ textLength ", message=" = 10 ∧
      textLength ": " = 2 := by decide
  rcases answer with ⟨_ | error | _, display, debug⟩ | _
  · refine fits_error_iff.trans ?_
    show RoomForError (textLength
      ("conditional S3 write failed for s3://" ++ bucket ++ "/" ++ key ++ ": " ++ debug)) ↔ _
    simp only [Json.textLength_append, RoomForWritten, RoomForError]
    omega
  · refine fits_error_iff.trans ?_
    show RoomForError (textLength
      ("conditional S3 write failed for s3://" ++ bucket ++ "/" ++ key ++ ": HTTP " ++
        toString error.status ++ ", code=" ++ error.code.getD "unknown" ++ ", message=" ++
      error.message.getD "unknown")) ↔ _
    simp only [Json.textLength_append, RoomForWritten, RoomForError]
    omega
  · refine fits_error_iff.trans ?_
    show RoomForError (textLength
      ("conditional S3 write failed for s3://" ++ bucket ++ "/" ++ key ++ ": " ++ debug)) ↔ _
    simp only [Json.textLength_append, RoomForWritten, RoomForError]
    omega
  · exact iff_of_true fits_saved trivial

/-- When the response about a write that was refused fits a frame. -/
theorem fits_reported_existing_iff {answer : Except SdkError (Except String Bytes)} :
    Fits (reported ((existingResult bucket key body answer).map fun _ => .saved)) ↔
      RoomForExisting bucket key body answer := by
  have hrefused : Fits (BrokerResponse.error
    s!"conditional S3 write refused because s3://{bucket}/{key} already exists with different content (HTTP 412)") ↔
      RoomForError (textLength bucket + textLength key + 92) := by
    have hpieces : textLength "conditional S3 write refused because s3://" = 42 ∧
        textLength "/" = 1 ∧
        textLength " already exists with different content (HTTP 412)" = 49 := by decide
    refine fits_error_iff.trans ?_
    show RoomForError (textLength ("conditional S3 write refused because s3://" ++ bucket ++ "/" ++
      key ++ " already exists with different content (HTTP 412)")) ↔ _
    simp only [Json.textLength_append, RoomForError]
    omega
  rcases answer with ⟨_ | error | _, display, debug⟩ | ⟨message | existing⟩
  · exact fits_error_iff
  · unfold existingResult loadResult RoomForExisting
    dsimp only
    split_ifs with hnoSuchKey
    · exact hrefused
    · exact fits_error_iff
  · exact fits_error_iff
  · exact fits_error_iff
  · by_cases hsame : existing = body
    · subst hsame
      refine iff_of_true ?_ (.inl rfl)
      rw [show existingResult bucket key existing (.ok (.ok existing)) = .ok () from
        failIf_of_not _ (not_not.mpr rfl)]
      exact fits_saved
    · have hresult : existingResult bucket key body (.ok (.ok existing)) = .error _ :=
        failIf_of _ fun heq => hsame (Option.some.inj heq)
      rw [hresult]
      exact hrefused.trans (or_iff_right hsame).symm

/-- The error about an object that is not below the prefix. -/
theorem fits_target_iff {e : AppError}
    (h : validateS3Target bucket key config.settings.s3Bucket config.settings.s3Prefix = .error e) :
    Fits (BrokerResponse.error e.message) ↔ RoomForTarget config bucket key := by
  have hpieces : textLength "enclave-broker rejected s3://" = 29 ∧ textLength "/" = 1 ∧
      textLength "; only objects below s3://" = 26 ∧ textLength "/ are allowed" = 13 := by decide
  unfold validateS3Target failIf at h
  dsimp only at h
  split_ifs at h
  · injection h with h
    subst h
    refine fits_error_iff.trans ?_
    show RoomForError (textLength ("enclave-broker rejected s3://" ++ bucket ++ "/" ++ key ++
      "; only objects below s3://" ++ config.settings.s3Bucket ++ "/" ++ config.settings.s3Prefix ++
      "/ are allowed")) ↔ _
    simp only [Json.textLength_append, RoomForTarget, RoomForError]
    omega

/-! ## The last thing that the broker is told -/

/-- The last element after all others. -/
theorem getLast?_cons_concat {α : Type} (a b : α) (as : List α) :
    (a :: (as ++ [b])).getLast? = some b := by
  rw [← List.cons_append, List.getLast?_concat]

/-- A computed first part of a program fails, or is followed by what comes after its result. -/
theorem yields_ofExcept_bind_cases {Op : Type} {Ans : Op → Type} {ε α β : Type} {x : Except ε α}
    {f : α → Program Ans ε β} {tr : List (Event Ans)} {r : Except ε β}
    (h : ((Program.ofExcept x).bind f).Yields tr r) :
    (∃ e, x = .error e ∧ tr = [] ∧ r = .error e) ∨ ∃ a, x = .ok a ∧ (f a).Yields tr r := by
  cases x with
  | error e =>
    obtain ⟨rfl, rfl⟩ := yields_fail.mp h
    exact .inl ⟨e, rfl, rfl, rfl⟩
  | ok a => exact .inr ⟨a, rfl, h⟩

/-- The answer to a request for credentials, once the credentials are there. -/
theorem fits_credentials_iff {slot : KmsSlot} {credentials : Credentials}
    {r : AppResult BrokerResponse}
    (h : (match config.settings.kmsKeys.find? fun key => key.slot = slot with
      | none => .fail (.err "KMS credential slot has no key settings")
      | some key => .ret (.awsCredentials
          { region := key.region
            accessKeyId := credentials.accessKeyId
            secretAccessKey := credentials.secretAccessKey
            sessionToken := credentials.sessionToken
            expiresAtEpochSeconds := credentials.expiry.bind secondsSinceEpoch }) :
        BrokerProgram BrokerResponse).Yields tr r) :
    tr = [] ∧ (Fits (reported r) ↔ RoomForSlot config slot credentials) := by
  unfold RoomForSlot
  cases hfound : config.settings.kmsKeys.find? fun key => key.slot = slot with
  | none =>
    rw [hfound] at h
    obtain ⟨rfl, rfl⟩ := yields_fail.mp h
    exact ⟨rfl, iff_of_true (fits_error_of_le (by decide)) trivial⟩
  | some key =>
    rw [hfound] at h
    obtain ⟨rfl, rfl⟩ := yields_ret.mp h
    exact ⟨rfl, fits_awsCredentials_iff⟩

/-- The error about a missing credentials provider is short. -/
theorem fits_findCredentialsProvider {slot : KmsSlot} {e : AppError}
    (h : findCredentialsProvider config.credentialsProviders slot = .error e) :
    Fits (BrokerResponse.error e.message) := by
  unfold findCredentialsProvider at h
  split at h
  · cases h
  · injection h with h
    subst h
    refine fits_error_of_le ?_
    cases slot <;> decide +kernel

/-- Without a provider, there is always room for the answer. -/
theorem roomAtOnce_of_error {slot : KmsSlot} {e : AppError}
    (h : findCredentialsProvider config.credentialsProviders slot = .error e) :
    RoomAtOnce config (.getAwsCredentials slot) := by
  simp only [RoomAtOnce, h]

/-- With a provider of explicit credentials, there has to be room for the answer to the slot. -/
theorem roomAtOnce_explicit {slot : KmsSlot} {credentials : Credentials}
    (h : findCredentialsProvider config.credentialsProviders slot = .ok (.explicit credentials)) :
    RoomAtOnce config (.getAwsCredentials slot) ↔ RoomForSlot config slot credentials := by
  simp only [RoomAtOnce, h]

/-- Whether the response to a request fits is up to the last thing that the broker is told. -/
theorem fits_answerRequest_iff (hne : request ≠ .getSettings) {r : AppResult BrokerResponse}
    (h : (answerRequest config request).Yields tr r) :
    Fits (reported r) ↔
      HasRoom config request (⟨.buildRuntime, .ok ()⟩ :: tr : List BrokerEvent).getLast? := by
  cases request with
  | getSettings => exact absurd rfl hne
  | getAwsCredentials slot =>
    -- Explicit credentials are there at once, and then the runtime was the last thing that was
    -- asked for.
    rcases yields_ofExcept_bind_cases h with ⟨e, hprovider, rfl, rfl⟩ | ⟨provider, hprovider, h₁⟩
    · exact iff_of_true (fits_findCredentialsProvider hprovider) (roomAtOnce_of_error hprovider)
    · cases provider with
      | defaultChain =>
        obtain ⟨answer, tr', rfl, h₂⟩ := yields_op.mp h₁
        cases answer with
        | error message =>
          obtain ⟨rfl, rfl⟩ := yields_fail.mp h₂
          exact fits_error_iff
        | ok credentials =>
          obtain ⟨rfl, hfits⟩ := fits_credentials_iff h₂
          exact hfits
      | explicit credentials =>
        obtain ⟨rfl, hfits⟩ := fits_credentials_iff h₁
        exact hfits.trans (roomAtOnce_explicit hprovider).symm
  | loadObject bucket key =>
    rcases yields_ofExcept_bind_cases h with ⟨e, htarget, rfl, rfl⟩ | ⟨_, _, h₁⟩
    · exact fits_target_iff htarget
    · have hload : ∃ loaded, (loadS3Object bucket key).Yields tr loaded ∧
          r = loaded.map .object := by
        rcases yields_bind.mp h₁ with ⟨e, hload, rfl⟩ | ⟨tr₁, tr₂, loaded, rfl, hload, hret⟩
        · exact ⟨_, hload, rfl⟩
        · obtain ⟨rfl, rfl⟩ := yields_ret.mp hret
          rw [List.append_nil]
          exact ⟨_, hload, rfl⟩
      obtain ⟨loaded, hload, rfl⟩ := hload
      obtain ⟨failed, answer, _, rfl, rfl⟩ := yields_loadS3Object_iff.mp hload
      -- The attempt that decides is the last one, so its answer is the last thing that the broker
      -- is told.
      rw [gets_concat, getLast?_cons_concat]
      exact fits_reported_loaded_iff
  | saveObjectIfAbsent bucket key body =>
    rcases yields_ofExcept_bind_cases h with ⟨e, hmode, rfl, rfl⟩ | ⟨_, hmode, h₁⟩
    · unfold failIf at hmode
      split_ifs at hmode with hnot
      injection hmode with hmode
      subst hmode
      exact iff_of_true (fits_error_of_le (by decide)) fun hinit => absurd hinit hnot
    · have hinit : config.settings.startupMode = .initKey := not_not.mp (failIf_eq_ok.mp hmode)
      rcases yields_ofExcept_bind_cases h₁ with ⟨e, htarget, rfl, rfl⟩ | ⟨_, _, h₂⟩
      · refine (fits_target_iff htarget).trans ?_
        exact ⟨fun hroom _ => hroom, fun hroom => hroom hinit⟩
      · have hsave : ∃ saved, (saveS3ObjectIfAbsent bucket key body).Yields tr saved ∧
            r = saved.map fun _ => .saved := by
          rcases yields_bind.mp h₂ with ⟨e, hsave, rfl⟩ | ⟨tr₁, tr₂, _, rfl, hsave, hret⟩
          · exact ⟨_, hsave, rfl⟩
          · obtain ⟨rfl, rfl⟩ := yields_ret.mp hret
            rw [List.append_nil]
            exact ⟨_, hsave, rfl⟩
        obtain ⟨saved, hsave, rfl⟩ := hsave
        obtain ⟨failed, answer, tr', _, rfl, hconcludes⟩ := yields_saveS3ObjectIfAbsent_iff.mp hsave
        unfold Concludes at hconcludes
        -- After a refused write it is the last read that decides, and otherwise the write itself.
        split_ifs at hconcludes with hrefused
        · obtain ⟨failed', found, _, rfl, rfl⟩ := hconcludes
          rw [gets_concat, ← List.append_assoc, getLast?_cons_concat]
          exact fits_reported_existing_iff
        · obtain ⟨rfl, rfl⟩ := hconcludes
          rw [List.append_nil, puts_concat, getLast?_cons_concat]
          exact fits_reported_written_iff

/-! ## Every connection is handled to its end -/

/-- Answering a request fails with errors only, and does not panic. -/
theorem failsOnly_answerRequest : (answerRequest config request).FailsOnly AppError.IsErr := by
  cases request with
  | getSettings => trivial
  | getAwsCredentials slot =>
    have hprovider : NoPanic (findCredentialsProvider config.credentialsProviders slot) := by
      unfold findCredentialsProvider
      split
      · exact noPanic_ok
      · exact noPanic_err
    refine FailsOnly.bind hprovider.failsOnly fun provider => FailsOnly.bind ?_ fun answer =>
      FailsOnly.bind noPanic_ofText.failsOnly fun credentials => ?_
    · cases provider with
      | defaultChain => exact fun _ => trivial
      | explicit credentials => trivial
    · split <;> trivial
  | loadObject bucket key =>
    refine FailsOnly.bind noPanic_failIf.failsOnly fun _ => ?_
    exact FailsOnly.bind (failsOnly_loadS3Object) fun _ => trivial
  | saveObjectIfAbsent bucket key body =>
    refine FailsOnly.bind noPanic_failIf.failsOnly fun _ =>
      FailsOnly.bind noPanic_failIf.failsOnly fun _ => ?_
    exact FailsOnly.bind (failsOnly_saveS3ObjectIfAbsent) fun _ => trivial

/-- The handler of a connection does not fail. -/
theorem failsOnly_serveConnection {crates : Crates} {received : Reader} :
    (serveConnection crates config peerCid received).FailsOnly fun _ => False := by
  refine FailsOnly.bind ?_ fun _ => trivial
  by_cases hadmits : config.Admits peerCid
  · cases receivedRequest crates received with
    | error e => trivial
    | ok request =>
      rw [respond_of_admits hadmits]
      by_cases hne : request = .getSettings
      · subst hne
        trivial
      · rw [handleRequest_of_ne hne]
        intro built
        cases built with
        | error message => trivial
        | ok _ =>
          refine failsOnly_answerRequest.tryCatch fun e he => ?_
          cases e with
          | err message => trivial
          | panic message => exact he
  · obtain ⟨message, hrespond⟩ := respond_of_not_admits hadmits (receivedRequest crates received)
    rw [hrespond]
    trivial

/-! ## Answered connections -/

/-- What is written is one whole frame, which is read back as a response. -/
def IsReply (crates : Crates) (bytes : Bytes) : Prop :=
  ∃ response, ∀ ending, (readJsonFrame crates.responseFromSlice).on ⟨bytes, ending⟩ =
    (.ok response, ⟨[], ending⟩)

variable {crates : Crates}

/-- What is written of a response is a reply exactly when the response fits. -/
theorem isReply_iff (hlaw : crates.Lawful) {response : BrokerResponse} :
    IsReply crates (writtenResponse response) ↔ Fits response := by
  constructor
  · rintro ⟨response', hread⟩
    by_contra hfits
    have hon := hread ""
    rw [writtenResponse_of_not_fits hfits, readJsonFrame_of_short_header _ (by decide)] at hon
    cases hon
  · intro hfits
    refine ⟨response, fun ending => ?_⟩
    have hon := readJsonFrame_frameOf crates.responseFromSlice hfits [] ending
    rw [List.append_nil, hlaw.responseFromSlice] at hon
    rw [writtenResponse_of_fits hfits, hon]
    rfl

/-- The error about a peer that is not admitted is short. -/
theorem fits_rejected (hadmits : ¬ config.Admits peerCid) {r : AppResult BrokerResponse}
    (h : (respond config peerCid (.ok request)).Yields tr r) :
    ∃ response, r = .ok response ∧ Fits response := by
  have hrejected : respond config peerCid (.ok request) =
      .ret (.error ("request from vsock CID " ++ debugCid peerCid ++ " was rejected")) := by
    rw [BrokerConfig.Admits, not_or, ← ne_eq, ← Option.isSome_iff_ne_none] at hadmits
    exact if_pos hadmits
  rw [hrejected] at h
  obtain ⟨_, rfl⟩ := yields_ret.mp h
  refine ⟨_, rfl, fits_error_of_le ?_⟩
  have hcid : (debugCid peerCid).toList.length ≤ 16 := by
    cases peerCid with
    | none => decide
    | some cid =>
      have hdigits : cid.toNat.repr.length ≤ 10 := Nat.repr_length _ _ (by decide) (by
        have := cid.toNat_lt
        omega)
      show ("Some(" ++ cid.toNat.repr ++ ")").toList.length ≤ 16
      simp only [String.toList_append, List.length_append, String.length_toList]
      have hpieces : "Some(".length = 5 ∧ ")".length = 1 := by decide
      omega
  simp only [String.toList_append, List.length_append, String.length_toList] at hcid ⊢
  have hpieces : "request from vsock CID ".length = 23 ∧ " was rejected".length = 13 := by decide
  omega

/-- A connection whose bytes decode to a request is always handled to its end, and it is written one
whole response exactly when the peer is not admitted, or there is room for the answer. -/
theorem decoded_request_is_answered_iff (hlaw : crates.Lawful) {received : Reader}
    (hreceived : receivedRequest crates received = .ok request) :
    (∀ tr e, ¬ (serveConnection crates config peerCid received).Yields tr (.error e)) ∧
    ∀ tr bytes, (serveConnection crates config peerCid received).Yields tr (.ok bytes) →
      (IsReply crates bytes ↔ (config.Admits peerCid → HasRoom config request tr.getLast?)) := by
  refine ⟨fun tr e h => failsOnly_serveConnection.of_yields h, fun tr bytes h => ?_⟩
  unfold serveConnection at h
  rw [hreceived] at h
  obtain ⟨tr₁, tr₂, response, rfl, hrespond, hwritten⟩ := yields_bind_ok.mp h
  obtain ⟨rfl, rfl⟩ := yields_ret_ok.mp hwritten
  rw [List.append_nil, isReply_iff hlaw]
  by_cases hadmits : config.Admits peerCid
  · rw [respond_of_admits hadmits] at hrespond
    rw [forall_prop_of_true hadmits]
    by_cases hne : request = .getSettings
    · subst hne
      obtain ⟨rfl, rfl⟩ := yields_ret_ok.mp hrespond
      exact fits_settings_iff
    · rcases cases_of_yields_handleRequest hne hrespond with
        ⟨message, rfl, rfl⟩ | ⟨tr', rfl, hanswer | ⟨message, rfl, hanswer⟩⟩
      · exact fits_error_iff
      · exact fits_answerRequest_iff hne hanswer
      · exact fits_answerRequest_iff hne hanswer
  · obtain ⟨response', heq, hfits⟩ := fits_rejected hadmits hrespond
    obtain rfl := Except.ok.inj heq
    exact iff_of_true hfits fun hcontra => absurd hcontra hadmits

/-! ## An object that has no room -/

/-- A broker of the deployment that admits everyone. -/
def openBroker : BrokerConfig where
  settings := deployment
  credentialsProviders := []
  allowedEnclaveCid := none

/-- The settings of the deployment have room. -/
theorem decoded_request_is_answered_iff_getSettings :
    IsReply reference (writtenResponse (.settings deployment)) := by
  have hreceived : receivedRequest reference ⟨frameOf (toVec BrokerRequest.getSettings), ""⟩ =
      .ok .getSettings := receivedRequest_frameOf reference_lawful (by decide) ""
  have hyields : (serveConnection reference openBroker none
      ⟨frameOf (toVec BrokerRequest.getSettings), ""⟩).Yields []
        (.ok (writtenResponse (.settings deployment))) := by
    unfold serveConnection
    rw [hreceived]
    exact .refl _
  refine ((decoded_request_is_answered_iff reference_lawful hreceived).2 _ _ hyields).mpr fun _ =>
    ?_
  show valueLength (serialize deployment) + 13 ≤ maxJsonFrameLength
  decide +kernel

/-- An object of 1 MiB or more has no room: every byte takes at least one character. -/
theorem not_fits_object_of_le (h : maxJsonFrameLength ≤ body.length) :
    ¬ Fits (BrokerResponse.object (some body)) := by
  have hlength : (body.map (serialize : UInt8 → Json.Value)).length ≤ valueLength
      (serialize body) := by
    refine Json.length_le_valueLength_arr _ fun v hv => ?_
    obtain ⟨b, _, rfl⟩ := List.mem_map.mp hv
    have hall : ∀ i : Fin 256, 1 ≤ valueLength (.num i.val) := by decide +kernel
    exact hall ⟨b.toNat, b.toNat_lt⟩
  rw [List.length_map] at hlength
  rw [fits_object_iff]
  omega

/-- Nothing is written to a connection that asks for an object of 1 MiB or more. -/
theorem yields_serveConnection_of_large {received : Reader}
    (hreceived : receivedRequest crates received = .ok (.loadObject bucket key))
    (hadmits : config.Admits peerCid)
    (hbelow : Below config.settings.s3Bucket config.settings.s3Prefix bucket key)
    (hlarge : maxJsonFrameLength ≤ body.length) :
    (serveConnection crates config peerCid received).Yields
      [⟨.buildRuntime, .ok ()⟩, ⟨.getObject bucket key, .ok (.ok body)⟩] (.ok []) := by
  have hanswer : (answerRequest config (.loadObject bucket key)).Yields
      [⟨.getObject bucket key, .ok (.ok body)⟩] (.ok (.object (some body))) :=
    yields_ofExcept_bind_ok.mpr ⟨(), validateS3Target_eq_ok.mpr hbelow, .step (.refl _)⟩
  unfold serveConnection
  rw [hreceived, respond_of_admits hadmits, handleRequest_of_ne (by simp)]
  refine yields_bind_ok.mpr ⟨_, [], .object (some body), (List.append_nil _).symm, .step ?_, ?_⟩
  · exact yields_tryCatch.mpr (.inl ⟨_, hanswer, rfl⟩)
  · exact yields_ret_ok.mpr ⟨rfl, (writtenResponse_of_not_fits (not_fits_object_of_le hlarge)).symm⟩

/-- An object of 1 MiB below the prefix is not answered at all. -/
theorem large_object_is_not_answered :
    ∃ received tr, receivedRequest reference received =
      .ok (.loadObject "bucket" "kms-keypair/large") ∧ openBroker.Admits none ∧
      (serveConnection reference openBroker none received).Yields tr (.ok []) ∧
      ¬ IsReply reference [] := by
  have hfits : Fits (BrokerRequest.loadObject "bucket" "kms-keypair/large") := by
    unfold Fits
    decide
  have hreceived := receivedRequest_frameOf reference_lawful hfits ""
  have hlarge : maxJsonFrameLength ≤ (List.replicate maxJsonFrameLength (0 : UInt8)).length := by
    rw [List.length_replicate]
  refine ⟨_, _, hreceived, .inl rfl,
    yields_serveConnection_of_large hreceived (.inl rfl) (by decide) hlarge, ?_⟩
  rintro ⟨response, hread⟩
  have hon := hread ""
  rw [readJsonFrame_of_short_header _ (by decide)] at hon
  cases hon

end AwsKmsDemo
