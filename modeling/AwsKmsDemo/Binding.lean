import AwsKmsDemo.AnyOne
import AwsKmsDemo.Native

/-!
# How a recovery package is bound to its key

Both clients decrypt the data key of a package with credentials of a key's slot. The local client
names the key to KMS. The native shim passes `NULL` for it, so KMS takes the key from the ciphertext
blob. Here a KMS is given that knows the one key under which every blob was produced, and both
clients are compared.
-/

namespace AwsKmsDemo

open Interaction Interaction.Program Stream

/-! ## A KMS -/

/-- The caller that KMS sees. An empty session token is none. -/
structure KmsCaller where
  region : Bytes
  accessKeyId : Bytes
  secretAccessKey : Bytes
  sessionToken : Bytes
  deriving DecidableEq

/-- What a ciphertext blob was produced from. -/
structure Produced where
  keyArn : String
  encryptionContext : HashMap
  plaintext : Bytes

/-- A KMS: under which key every blob was produced, and which keys a caller may use. -/
structure Kms where
  produced : Bytes → Option Produced
  permits : KmsCaller → String → Bool

/-- The blob was produced under this key. -/
def Kms.ProducedUnder (kms : Kms) (blob : Bytes) (keyArn : String) : Prop :=
  ∃ produced, kms.produced blob = some produced ∧ produced.keyArn = keyArn

/-- `Decrypt`: the key is the one of the blob. It has to be the one that is named, if one is, and
the caller has to be permitted to use it. Entries of an encryption context have no order. -/
def Kms.decrypt (kms : Kms) (caller : KmsCaller) (keyId : Option String)
    (encryptionContext : Option HashMap) (blob : Bytes) : Option Bytes := do
  let produced ← kms.produced blob
  if (keyId = none ∨ keyId = some produced.keyArn) ∧ kms.permits caller produced.keyArn ∧
      (encryptionContext.getD ∅).entries.Perm produced.encryptionContext.entries then
    some produced.plaintext
  else none

/-- The caller behind a client of the AWS SDK. -/
def KmsClient.caller (client : KmsClient) : KmsCaller where
  region := textBytes client.region
  accessKeyId := textBytes client.accessKeyId
  secretAccessKey := textBytes client.secretAccessKey
  sessionToken := textBytes (client.sessionToken.getD "")

/-- The caller behind a client of the Nitro SDK. -/
def SdkClient.caller (client : SdkClient) : KmsCaller where
  region := client.region
  accessKeyId := client.credentials.accessKeyId
  secretAccessKey := client.credentials.secretAccessKey
  sessionToken := client.credentials.sessionToken

/-- What the Nitro SDK gets from KMS for a request of the shim: for symmetric ciphertexts neither a
key identifier nor an algorithm is given. The encryption context is JSON. -/
def Kms.nitroPlaintext (kms : Kms) : SdkRequest → Option Bytes
  | .decrypt client none none ciphertext none => kms.decrypt client.caller none none ciphertext
  | .decrypt client none none ciphertext (some json) => do
    let context ← (fromSlice json : Except String HashMap).toOption
    kms.decrypt client.caller none (some context) ciphertext
  | _ => none

/-- A Nitro SDK in front of a KMS. Nothing else fails. -/
def Kms.sdk (kms : Kms) : Sdk where
  Faulty := False
  Answers request response :=
    match kms.nitroPlaintext request with
    | some plaintext => response.rc = awsOpSuccess ∧ response.plaintext = plaintext
    | none => response.rc ≠ awsOpSuccess
  answered request := by
    cases kms.nitroPlaintext request with
    | some plaintext => exact ⟨⟨awsOpSuccess, plaintext, []⟩, rfl, rfl⟩
    | none => exact ⟨⟨-1, [], []⟩, by decide⟩

/-- The answers of a KMS, of a `Decrypt` without grant tokens that is no dry run. A call of the shim
is answered by a run of the shim. -/
def Kms.Answers (kms : Kms) : EnclaveEvent → Prop
  | ⟨.decrypt client request, answer⟩ =>
    request.grantTokens = [] → request.dryRun ≠ some true →
    match kms.decrypt client.caller (some request.keyId) request.encryptionContext
      request.ciphertextBlob with
    | some plaintext => answer = .ok (some plaintext)
    | none => ∃ message, answer = .error message
  | ⟨.nkmsDecryptDataKey native ciphertext context, answer⟩ => ∃ w w' result,
    RunsIn (shimWorld kms.sdk) (callNkmsDecryptDataKey native ciphertext context) w (.ok result)
        w' ∧
      match result with
      | .ok plaintext => answer = .ok plaintext
      | .error _ => ∃ message, answer = .error message
  | _ => True

/-! ## The encryption context -/

/-- The JSON text of an encryption context. -/
def contextJson (context : HashMap) : String :=
  String.ofList (Json.render none (serialize context))

/-- Escaped characters have no NUL. -/
theorem nul_not_mem_escape (cs : List Char) : Char.ofNat 0 ∉ Json.escape cs := by
  unfold Json.escape
  intro hmem
  obtain ⟨c, -, hc⟩ := List.mem_flatMap.mp hmem
  have hhex : ∀ n < 16, Json.hexDigit n ≠ Char.ofNat 0 := by decide
  unfold Json.escapeChar at hc
  split_ifs at hc with h₁ h₂ h₃ h₄ h₅ h₆ h₇ h₈
  all_goals first
    | (revert hc; decide)
    | skip
  · -- A control character is written with hexadecimal digits.
    have hlow := hhex (c.toNat / 16) (by omega)
    have hhigh := hhex (c.toNat % 16) (by omega)
    simp only [List.mem_cons, List.not_mem_nil, or_false] at hc
    rcases hc with hc | hc | hc | hc | hc | hc
    · exact absurd hc (by decide)
    · exact absurd hc (by decide)
    · exact absurd hc (by decide)
    · exact absurd hc (by decide)
    · exact hlow hc.symm
    · exact hhigh hc.symm
  · obtain rfl := List.mem_singleton.mp hc
    exact h₈ (by decide)

/-- A rendered string has no NUL. -/
theorem nul_not_mem_renderString (s : String) : Char.ofNat 0 ∉ Json.renderString s := by
  unfold Json.renderString
  intro hmem
  rcases List.mem_cons.mp hmem with h | hmem
  · exact absurd h (by decide)
  rcases List.mem_append.mp hmem with h | h
  · exact nul_not_mem_escape _ h
  · exact absurd (List.mem_singleton.mp h) (by decide)

/-- The further members of an object of strings. -/
theorem nul_not_mem_renderMembers (members : List (String × String)) :
    Char.ofNat 0 ∉ Json.renderMembers none (members.map fun e => (e.1, Json.Value.str e.2)) := by
  induction members with
  | nil => exact List.not_mem_nil
  | cons e es ih =>
    intro hmem
    simp only [List.map_cons, Json.renderMembers, Json.render, Json.lineBreak, Json.colon,
      Json.deeper, List.mem_append, List.mem_cons, List.not_mem_nil, Option.map_none,
      List.cons_append, List.nil_append] at hmem
    rcases hmem with h | ((h | h | h) | h) | h
    · exact absurd h (by decide)
    · exact nul_not_mem_renderString _ h
    · exact absurd h (by decide)
    · exact h
    · exact nul_not_mem_renderString _ h
    · exact ih h

/-- The text of an encryption context has no NUL, and is not empty. -/
theorem contextJson_isCString (context : HashMap) :
    Char.ofNat 0 ∉ (contextJson context).toList ∧
      ∃ b bytes, textBytes (contextJson context) = b :: bytes := by
  unfold contextJson textBytes
  rw [String.toList_ofList]
  show Char.ofNat 0 ∉ Json.render none (.obj (context.entries.map fun e => (e.1, .str e.2))) ∧
    ∃ b bytes, Json.utf8 (Json.render none (.obj (context.entries.map fun e => (e.1, .str e.2)))) =
      b :: bytes
  cases context.entries with
  | nil => exact ⟨by decide, _, _, rfl⟩
  | cons e es =>
    have hrest := nul_not_mem_renderMembers (es.map fun e => (e.1, e.2))
    rw [List.map_map] at hrest
    refine ⟨fun hmem => ?_, _, _, rfl⟩
    simp only [List.map_cons, Json.render, Json.lineBreak, Json.colon, Json.deeper, List.mem_append,
      List.mem_cons, List.not_mem_nil, Option.map_none, List.cons_append, List.nil_append,
      List.append_nil] at hmem
    rcases hmem with h | (((h | h | h) | h) | h) | h | h
    · exact absurd h (by decide)
    · exact nul_not_mem_renderString _ h
    · exact absurd h (by decide)
    · exact h
    · exact nul_not_mem_renderString _ h
    · exact hrest h
    · exact absurd h (by decide)
    · exact h

/-! ## The two clients -/

/-- The answers of a broker that always sends the same bytes. -/
def BrokerAnswers (stream : Reader) : EnclaveEvent → Prop
  | ⟨.connect _, answer⟩ => answer = .ok ()
  | ⟨.exchange _ _, answer⟩ => answer = .ok stream
  | _ => True

/-- A result of `KmsDataKeyClient::decrypt_data_key` with such a broker and a KMS. -/
def Decrypts (crates : Crates) (kms : Kms) (stream : Reader) (kmsClient : KmsDataKeyClient)
    (settings : ParentSettings) (key : KmsKeySettings) (blob : Bytes) (result : AppResult Bytes) :
    Prop :=
  ∃ tr, (kmsClient.decryptDataKey crates settings key blob).Yields tr result ∧
    ∀ e ∈ tr, kms.Answers e ∧ BrokerAnswers stream e

section Clients

variable {crates : Crates} {kms : Kms} {stream : Reader} {credentials : AwsCredentials}
  {settings : ParentSettings} {key : KmsKeySettings} {blob : Bytes} {endpoint : Endpoint}
  {client : NitroKmsClient}

/-- A decryption is a run in the world of a KMS and a broker. -/
theorem Decrypts.runsIn {kmsClient : KmsDataKeyClient} {result : AppResult Bytes}
    (h : Decrypts crates kms stream kmsClient settings key blob result) :
    RunsIn (eventWorld fun e => kms.Answers e ∧ BrokerAnswers stream e)
      (kmsClient.decryptDataKey crates settings key blob) () result () :=
  runsIn_eventWorld.mpr h

/-- The broker hands out the credentials. -/
theorem ensures_handedOut {α : Type} {slot : KmsSlot} {k : AwsCredentials → EnclaveProgram α}
    {fault : AppError → Unit → Prop} {post : α → Unit → Prop}
    (hstream : receiveResponse crates stream = .ok (.awsCredentials credentials))
    (hk : (k credentials).Ensures
      (eventWorld fun e => kms.Answers e ∧ BrokerAnswers stream e).spec fault post ()) :
    ((requestBrokerCredentials crates endpoint slot).bind k).Ensures
      (eventWorld fun e => kms.Answers e ∧ BrokerAnswers stream e).spec fault post () := by
  have hfits : Fits (BrokerRequest.getAwsCredentials slot) := by
    unfold Fits
    cases slot <;> decide
  unfold requestBrokerCredentials requestBroker sendRequest
  rw [written_writeJsonFrame_of_fits hfits]
  refine ⟨⟨.ok (), trivial, rfl⟩, fun connected _ hconnected => ?_⟩
  obtain rfl : connected = .ok () := hconnected.2
  refine ⟨⟨.ok stream, trivial, rfl⟩, fun received _ hreceived => ?_⟩
  obtain rfl : received = .ok stream := hreceived.2
  dsimp only [ret_bind, ofText_ok, liftM_eq, ofExcept_ok]
  rw [hstream]
  exact hk

/-- The caller that both clients are. -/
def AwsCredentials.caller (credentials : AwsCredentials) : KmsCaller :=
  (localKmsClient credentials).caller

/-- The local client decrypts under the key that it names, if its request can be made. -/
theorem ensures_local (hgrants : settings.grantTokens = []) (hdry : settings.dryRun ≠ some true)
    (hstream : receiveResponse crates stream = .ok (.awsCredentials credentials)) :
    ((KmsDataKeyClient.local endpoint).decryptDataKey crates settings key blob).Ensures
      (eventWorld fun e => kms.Answers e ∧ BrokerAnswers stream e).spec
      (fun _ _ => kms.decrypt credentials.caller (some key.keyArn) settings.encryptionContext blob =
        none ∨ ∀ request, settings.kmsRequestSettings key.keyArn ≠ .ok request)
      (fun plaintext _ => kms.decrypt credentials.caller (some key.keyArn)
        settings.encryptionContext blob = some plaintext ∧
        ∃ request, settings.kmsRequestSettings key.keyArn = .ok request) () := by
  unfold KmsDataKeyClient.decryptDataKey
  refine ensures_handedOut hstream ?_
  dsimp only [liftM_eq, bind_eq]
  cases hrequest : settings.kmsRequestSettings key.keyArn with
  | error message => exact .inr fun request h => by cases h
  | ok request =>
    obtain ⟨keySpec, -, hret⟩ := except_bind_eq_ok.mp hrequest
    obtain rfl := (Except.ok.inj hret).symm
    refine ⟨?_, fun answer _ hanswer => ?_⟩
    · -- KMS always has an answer.
      cases hdecrypt : kms.decrypt credentials.caller (some key.keyArn) settings.encryptionContext
        blob with
      | some plaintext =>
        refine ⟨.ok (some plaintext), fun _ _ => ?_, trivial⟩
        dsimp only
        rw [show kms.decrypt (localKmsClient credentials).caller _ _ _ = _ from hdecrypt]
      | none =>
        refine ⟨.error "", fun _ _ => ?_, trivial⟩
        dsimp only
        rw [show kms.decrypt (localKmsClient credentials).caller _ _ _ = _ from hdecrypt]
        exact ⟨_, rfl⟩
    · have hkms := hanswer.1 hgrants hdry
      dsimp only at hkms
      cases hdecrypt : kms.decrypt credentials.caller (some key.keyArn) settings.encryptionContext
        blob with
      | some plaintext =>
        rw [show kms.decrypt (localKmsClient credentials).caller _ _ _ = _ from hdecrypt] at hkms
        rw [show answer = .ok (some plaintext) from hkms]
        exact ⟨rfl, _, rfl⟩
      | none =>
        rw [show kms.decrypt (localKmsClient credentials).caller _ _ _ = _ from hdecrypt] at hkms
        obtain ⟨message, rfl⟩ := hkms
        exact .inl rfl

/-- The credentials are texts that C can represent. -/
def AwsCredentials.AreCStrings (credentials : AwsCredentials) : Prop :=
  ∀ text ∈ [credentials.region, credentials.accessKeyId, credentials.secretAccessKey,
    credentials.sessionToken.getD ""], Char.ofNat 0 ∉ text.toList

/-- `c_string` accepts what has no NUL, and returns it. -/
theorem cString_eq_ok {name value value' : String} :
    cString name value = .ok value' ↔ Char.ofNat 0 ∉ value.toList ∧ value = value' := by
  unfold cString
  split_ifs with h
  · simp [h]
  · simp [h]

/-- The arguments of the native functions are the credentials, if they are C strings. -/
theorem native_eq_ok {native : NativeClient} :
    client.native credentials = .ok native ↔ credentials.AreCStrings ∧
      native = ⟨credentials.region, client.parentCid, client.proxyPort, credentials.accessKeyId,
        credentials.secretAccessKey, credentials.sessionToken.getD ""⟩ := by
  unfold NitroKmsClient.native AwsCredentials.AreCStrings
  constructor
  · intro h
    obtain ⟨_, hregion, h₁⟩ := except_bind_eq_ok.mp h
    obtain ⟨_, hid, h₂⟩ := except_bind_eq_ok.mp h₁
    obtain ⟨_, hsecret, h₃⟩ := except_bind_eq_ok.mp h₂
    obtain ⟨_, htoken, h₄⟩ := except_bind_eq_ok.mp h₃
    obtain ⟨hregion', rfl⟩ := cString_eq_ok.mp hregion
    obtain ⟨hid', rfl⟩ := cString_eq_ok.mp hid
    obtain ⟨hsecret', rfl⟩ := cString_eq_ok.mp hsecret
    obtain ⟨htoken', rfl⟩ := cString_eq_ok.mp htoken
    refine ⟨?_, (Except.ok.inj h₄).symm⟩
    simpa using ⟨hregion', hid', hsecret', htoken'⟩
  · rintro ⟨hall, rfl⟩
    simp only [List.mem_cons, List.not_mem_nil, or_false, forall_eq_or_imp, forall_eq] at hall
    obtain ⟨hregion, hid, hsecret, htoken⟩ := hall
    rw [cString_eq_ok.mpr ⟨hregion, rfl⟩, cString_eq_ok.mpr ⟨hid, rfl⟩,
      cString_eq_ok.mpr ⟨hsecret, rfl⟩, cString_eq_ok.mpr ⟨htoken, rfl⟩]
    rfl

/-- What the SDK gets from KMS for a call of the shim: the blob is decrypted with no key named. -/
theorem nitroPlaintext_eq (kms : Kms) (blob : Bytes) {native : NativeClient}
    (h : client.native credentials = .ok native) (context : Option HashMap) :
    kms.nitroPlaintext (.decrypt native.arguments.sdkClient none none blob
        (contextText ((context.map contextJson).map textBytes))) =
      kms.decrypt credentials.caller none context blob := by
  obtain ⟨-, rfl⟩ := native_eq_ok.mp h
  cases context with
  | none => rfl
  | some context =>
    obtain ⟨-, b, bytes, hbytes⟩ := contextJson_isCString context
    -- The SDK reads the context back from the JSON text that the client wrote.
    have hread : (fromSlice (textBytes (contextJson context)) : Except String HashMap) =
        .ok context := by
      unfold textBytes contextJson
      rw [String.toList_ofList]
      exact fromSlice_utf8_render none context
    simp only [Option.map_some]
    rw [hbytes] at hread ⊢
    unfold contextText Kms.nitroPlaintext
    dsimp only
    rw [hread]
    rfl

/-- The world of the shim before it was ever called. -/
def ShimWorld.initial : ShimWorld where
  heap := ⟨fun _ => none, []⟩
  inits := 0
  cleanUps := 0
  calls := []
  cleanUps_le := le_rfl
  room := ⟨0, fun _ _ => rfl⟩

/-- A run of the shim comes to what KMS answers. -/
theorem result_of_runsIn {native : NativeClient} {context : Option HashMap} {w w' : ShimWorld}
    {result : Except (Option Bytes) Bytes} (h : client.native credentials = .ok native)
    (hrun : RunsIn (shimWorld kms.sdk)
      (callNkmsDecryptDataKey native blob (context.map contextJson)) w (.ok result) w') :
    result.toOption = kms.decrypt credentials.caller none context blob := by
  have hplaintext := nitroPlaintext_eq kms blob h context
  have hensures : Ensures (shimWorld kms.sdk).spec (fun _ _ => False) _ _ w :=
    ensures_callNkmsDecryptDataKey kms.sdk native blob (context.map contextJson) w
  obtain ⟨calls, outputs, htakes, -⟩ := hensures.of_runsIn hrun
  obtain ⟨-, htakes⟩ := htakes
  cases result with
  | ok plaintext =>
    obtain ⟨response, -, hrc, hanswers, rfl⟩ := htakes
    unfold Kms.sdk at hanswers
    dsimp only at hanswers
    rw [hplaintext] at hanswers
    cases hdecrypt : kms.decrypt credentials.caller none context blob with
    | some plaintext =>
      rw [hdecrypt] at hanswers
      rw [← hanswers.2]
      rfl
    | none =>
      rw [hdecrypt] at hanswers
      exact absurd hrc hanswers
  | error message =>
    rcases htakes with hfaulty | ⟨response, hrc, hanswers⟩
    · exact hfaulty.elim
    · unfold Kms.sdk at hanswers
      dsimp only at hanswers
      rw [hplaintext] at hanswers
      cases hdecrypt : kms.decrypt credentials.caller none context blob with
      | some plaintext =>
        rw [hdecrypt] at hanswers
        exact absurd hanswers.1 hrc
      | none => rfl

/-- The native client decrypts under the key of the blob, if its arguments are C strings. -/
theorem ensures_nitro (hgrants : settings.grantTokens = []) (hdry : settings.dryRun ≠ some true)
    (hstream : receiveResponse crates stream = .ok (.awsCredentials credentials)) :
    ((KmsDataKeyClient.nitro client endpoint).decryptDataKey crates settings key blob).Ensures
      (eventWorld fun e => kms.Answers e ∧ BrokerAnswers stream e).spec
      (fun _ _ => kms.decrypt credentials.caller none settings.encryptionContext blob = none ∨
        ¬ credentials.AreCStrings)
      (fun plaintext _ => kms.decrypt credentials.caller none settings.encryptionContext blob =
        some plaintext ∧ credentials.AreCStrings) () := by
  unfold KmsDataKeyClient.decryptDataKey
  refine ensures_handedOut hstream ?_
  dsimp only
  unfold NitroKmsClient.decryptDataKey
  have hoptions : validateCommonOptions settings = .ok () := by
    unfold validateCommonOptions
    rw [failIf_of_not _ (not_not.mpr hgrants), failIf_of_not _ hdry]
    rfl
  rw [hoptions]
  dsimp only [liftM_eq, bind_eq, ofExcept_ok, ret_bind]
  cases hnative : client.native credentials with
  | error e =>
    refine .inr fun hstrings => ?_
    rw [native_eq_ok.mpr ⟨hstrings, rfl⟩] at hnative
    cases hnative
  | ok native =>
    have hcontext : Option.mapM (cString "KMS encryption context")
        (settings.encryptionContext.map fun context =>
          String.ofList (Json.render none (serialize context))) =
        .ok (settings.encryptionContext.map contextJson) := by
      cases settings.encryptionContext with
      | none => rfl
      | some context =>
        rw [Option.map_some, Option.mapM_some]
        rw [show String.ofList (Json.render none (serialize context)) =
          contextJson context from rfl, cString_eq_ok.mpr ⟨(contextJson_isCString context).1, rfl⟩]
        rfl
    rw [hcontext]
    refine ⟨?_, fun answer _ hanswer => ?_⟩
    · -- A run of the shim has a result.
      have hensures : Ensures (shimWorld kms.sdk).spec (fun _ _ => False) _ _ .initial :=
        ensures_callNkmsDecryptDataKey kms.sdk native blob
          (settings.encryptionContext.map contextJson) .initial
      obtain ⟨result, w', hrun⟩ := hensures.exists_runsIn
      cases result with
      | error e => exact e.elim
      | ok result =>
        cases result with
        | ok plaintext => exact ⟨.ok plaintext, ⟨_, w', _, hrun, rfl⟩, trivial⟩
        | error message => exact ⟨.error "", ⟨_, w', _, hrun, _, rfl⟩, trivial⟩
    · obtain ⟨w, w', result, hrun, hresult⟩ := hanswer.1
      have hdecrypt := result_of_runsIn hnative hrun
      cases result with
      | ok plaintext =>
        rw [show answer = .ok plaintext from hresult]
        exact ⟨hdecrypt.symm, (native_eq_ok.mp hnative).1⟩
      | error message =>
        obtain ⟨text, rfl⟩ := hresult
        exact .inl hdecrypt.symm

/-! ## The comparison -/

/-- Both clients get the same plaintext or none, and only from a blob that was produced under the
key. -/
def BindsAlike (crates : Crates) (kms : Kms) (stream : Reader) (client : NitroKmsClient)
    (endpoint : Endpoint) (settings : ParentSettings) (key : KmsKeySettings)
    (blob : Bytes) : Prop :=
  ∀ result result', Decrypts crates kms stream (.local endpoint) settings key blob result →
    Decrypts crates kms stream (.nitro client endpoint) settings key blob result' →
    ∀ plaintext, (result = .ok plaintext ↔ result' = .ok plaintext) ∧
      (result = .ok plaintext ∨ result' = .ok plaintext → kms.ProducedUnder blob key.keyArn)

/-- `Decrypt` succeeds exactly for a permitted key, which is the one named if one is. -/
theorem decrypt_eq_some {caller : KmsCaller} {keyId : Option String} {context : Option HashMap}
    {plaintext : Bytes} :
    kms.decrypt caller keyId context blob = some plaintext ↔
      ∃ produced, kms.produced blob = some produced ∧
        (keyId = none ∨ keyId = some produced.keyArn) ∧ kms.permits caller produced.keyArn = true ∧
        (context.getD ∅).entries.Perm produced.encryptionContext.entries ∧
        produced.plaintext = plaintext := by
  unfold Kms.decrypt
  cases hproduced : kms.produced blob with
  | none => simp
  | some produced =>
    simp only [Option.bind_eq_bind, Option.bind_some, Option.some.injEq, exists_eq_left']
    split_ifs with h
    · obtain ⟨hkey, hpermits, hcontext⟩ := h
      simp [hkey, hpermits, hcontext]
    · constructor
      · intro hnone
        cases hnone
      · rintro ⟨hkey, hpermits, hcontext, -⟩
        exact absurd ⟨hkey, hpermits, hcontext⟩ h

/-- With the key named, a blob is decrypted that was produced under it. -/
theorem producedUnder_of_decrypt {caller : KmsCaller} {keyArn : String} {context : Option HashMap}
    {plaintext : Bytes} (h : kms.decrypt caller (some keyArn) context blob = some plaintext) :
    kms.ProducedUnder blob keyArn := by
  obtain ⟨produced, hproduced, hkey, -⟩ := decrypt_eq_some.mp h
  rcases hkey with hkey | hkey
  · cases hkey
  · exact ⟨produced, hproduced, (Option.some.inj hkey).symm⟩

/-- The result of the local client. -/
theorem decrypts_local (hgrants : settings.grantTokens = []) (hdry : settings.dryRun ≠ some true)
    (hstream : receiveResponse crates stream = .ok (.awsCredentials credentials))
    {request : Settings} (hrequest : settings.kmsRequestSettings key.keyArn = .ok request)
    {result : AppResult Bytes}
    (h : Decrypts crates kms stream (.local endpoint) settings key blob result)
    (plaintext : Bytes) : result = .ok plaintext ↔ kms.decrypt credentials.caller (some key.keyArn)
      settings.encryptionContext blob = some plaintext := by
  cases result with
  | ok plaintext' =>
    rw [((ensures_local hgrants hdry hstream).of_runsIn h.runsIn).1]
    simp
  | error e =>
    rcases (ensures_local hgrants hdry hstream).of_runsIn_error h.runsIn with hnone | hno
    · rw [hnone]
      simp
    · exact absurd hrequest (hno request)

/-- The result of the native client. -/
theorem decrypts_nitro (hgrants : settings.grantTokens = []) (hdry : settings.dryRun ≠ some true)
    (hstream : receiveResponse crates stream = .ok (.awsCredentials credentials))
    (hstrings : credentials.AreCStrings) {result : AppResult Bytes}
    (h : Decrypts crates kms stream (.nitro client endpoint) settings key blob result)
    (plaintext : Bytes) :
    result = .ok plaintext ↔
      kms.decrypt credentials.caller none settings.encryptionContext blob = some plaintext := by
  cases result with
  | ok plaintext' =>
    rw [((ensures_nitro hgrants hdry hstream).of_runsIn h.runsIn).1]
    simp
  | error e =>
    rcases (ensures_nitro hgrants hdry hstream).of_runsIn_error h.runsIn with hnone | hno
    · rw [hnone]
      simp
    · exact absurd hstrings hno

/-- The local client gets plaintext only from a blob that was produced under the key that it names,
whatever the broker answers. -/
theorem producedUnder_of_yields_local (hgrants : settings.grantTokens = [])
    (hdry : settings.dryRun ≠ some true) {tr : List EnclaveEvent} {plaintext : Bytes}
    (h : ((KmsDataKeyClient.local endpoint).decryptDataKey crates settings key blob).Yields tr
      (.ok plaintext)) (htr : ∀ e ∈ tr, kms.Answers e) : kms.ProducedUnder blob key.keyArn := by
  obtain ⟨tr₁, tr₂, credentials, rfl, -, h₁⟩ := yields_bind_ok.mp h
  obtain ⟨request, hrequest, h₂⟩ := yields_ofExcept_bind_ok.mp h₁
  obtain ⟨keySpec, -, hret⟩ := except_bind_eq_ok.mp (ofText_eq_ok.mp hrequest)
  obtain rfl := (Except.ok.inj hret).symm
  obtain ⟨answer, tr₃, rfl, h₃⟩ := yields_op.mp h₂
  obtain ⟨received, hanswer, h₄⟩ := yields_ofExcept_bind_ok.mp h₃
  obtain rfl := ofText_eq_ok.mp hanswer
  have hkms := htr _ (List.mem_append_right _ List.mem_cons_self) hgrants hdry
  dsimp only at hkms
  cases hdecrypt : kms.decrypt (localKmsClient credentials).caller (some key.keyArn)
    settings.encryptionContext blob with
  | some plaintext => exact producedUnder_of_decrypt hdecrypt
  | none =>
    rw [hdecrypt] at hkms
    obtain ⟨message, hmessage⟩ := hkms
    cases hmessage

/-- How the clients bind a recovery package to its key. The local client gets a plaintext only from
a blob that was produced under the key that it names, so the key that a restore reports has
decrypted the package. The native shim leaves the key to the blob, so the native client gets the
plaintext of any blob whose key its credentials permit. Both do the same when the credentials permit
no other key that the blob was produced under. -/
theorem clients_bind_packages (hgrants : settings.grantTokens = [])
    (hdry : settings.dryRun ≠ some true)
    (hstream : receiveResponse crates stream = .ok (.awsCredentials credentials)) :
    (∀ plaintext, Decrypts crates kms stream (.local endpoint) settings key blob (.ok plaintext) →
      kms.ProducedUnder blob key.keyArn) ∧
    (∀ plaintext, Decrypts crates kms stream (.nitro client endpoint) settings key blob
      (.ok plaintext) →
        ∃ keyArn, kms.ProducedUnder blob keyArn ∧ kms.permits credentials.caller keyArn = true) ∧
    (settings.keySpec ∈ [none, some "AES_128", some "AES_256"] → credentials.AreCStrings →
      (∀ keyArn, kms.ProducedUnder blob keyArn → kms.permits credentials.caller keyArn = true →
        keyArn = key.keyArn) →
      BindsAlike crates kms stream client endpoint settings key blob) ∧
    ∀ s3Client tr pair, (restoreKeyMaterial crates s3Client (.local endpoint) settings).Yields tr
      (.ok pair) → (∀ e ∈ tr, kms.Answers e) →
      ∃ evidence, Accepted crates (.local endpoint) settings tr pair evidence ∧
        kms.ProducedUnder evidence.encryptedDataKey pair.kmsKeyArn := by
  refine ⟨fun plaintext hlocal => ?_, fun plaintext hnitro => ?_, fun hspec hstrings hown => ?_,
    fun s3Client tr pair hrestore htr => ?_⟩
  · exact producedUnder_of_decrypt ((ensures_local hgrants hdry hstream).of_runsIn hlocal.runsIn).1
  · obtain ⟨produced, hproduced, -, hpermits, -⟩ :=
      decrypt_eq_some.mp ((ensures_nitro hgrants hdry hstream).of_runsIn hnitro.runsIn).1
    exact ⟨produced.keyArn, ⟨produced, hproduced, rfl⟩, hpermits⟩
  · have hrequest : ∃ request, settings.kmsRequestSettings key.keyArn = .ok request := by
      unfold ParentSettings.kmsRequestSettings
      simp only [List.mem_cons, List.not_mem_nil, or_false] at hspec
      rcases hspec with hspec | hspec | hspec
      · rw [hspec]
        exact ⟨_, rfl⟩
      · rw [hspec]
        exact ⟨_, rfl⟩
      · rw [hspec]
        exact ⟨_, rfl⟩
    obtain ⟨request, hrequest⟩ := hrequest
    intro result result' hlocal hnitro plaintext
    -- No other key that produced the package permits the caller, so naming the key makes no
    -- difference.
    have hboth : kms.decrypt credentials.caller (some key.keyArn) settings.encryptionContext blob =
        some plaintext ↔
        kms.decrypt credentials.caller none settings.encryptionContext blob = some plaintext := by
      rw [decrypt_eq_some, decrypt_eq_some]
      constructor
      · rintro ⟨produced, hproduced, -, hrest⟩
        exact ⟨produced, hproduced, .inl rfl, hrest⟩
      · rintro ⟨produced, hproduced, -, hpermits, hrest⟩
        have hkey := hown produced.keyArn ⟨produced, hproduced, rfl⟩ hpermits
        exact ⟨produced, hproduced, .inr (by rw [hkey]), hpermits, hrest⟩
    have hsame := ((decrypts_local hgrants hdry hstream hrequest hlocal
      plaintext).trans hboth).trans
        (decrypts_nitro hgrants hdry hstream hstrings hnitro plaintext).symm
    refine ⟨hsame, fun hsome => ?_⟩
    have hdecrypt := (decrypts_local hgrants hdry hstream hrequest hlocal plaintext).mp
      (hsome.elim id hsame.mpr)
    exact producedUnder_of_decrypt hdecrypt
  · obtain ⟨evidence, haccepted⟩ := exists_accepted hrestore
    obtain ⟨tr', htr', hyields⟩ := haccepted.dataKey
    refine ⟨evidence, haccepted, ?_⟩
    rw [haccepted.keyArn]
    exact producedUnder_of_yields_local hgrants hdry hyields fun e he => htr e (htr'.subset he)

end Clients

/-! ## Where the clients differ -/

/-- The bytes of a broker that hands out these credentials. -/
def credentialsStream (credentials : AwsCredentials) : Reader :=
  ⟨writtenResponse (.awsCredentials credentials), ""⟩

/-- A KMS with one blob, produced under the given key. Everyone may use every key. -/
def sharedKms (keyArn : String) : Kms where
  produced blob := if blob = [1] then some ⟨keyArn, ∅, [7]⟩ else none
  permits _ _ := true

/-- Credentials whose secret is a NUL. -/
def nulCredentials : AwsCredentials :=
  { storedCredentials with secretAccessKey := String.ofList [Char.ofNat 0] }

/-- A local broker. -/
def localEndpoint : Endpoint := .tcp "127.0.0.1:7000"

/-- The credentials are read from what the broker sends. -/
theorem receiveResponse_credentialsStream {credentials : AwsCredentials}
    (h : Fits (BrokerResponse.awsCredentials credentials)) :
    receiveResponse reference (credentialsStream credentials) = .ok (.awsCredentials credentials) :=
  receiveResponse_writtenResponse h fun _ herror => by cases herror

/-- The clients differ where only one of them gets the plaintext. -/
theorem not_bindsAlike_of_ne {kms : Kms} {credentials : AwsCredentials} {settings : ParentSettings}
    {key : KmsKeySettings} {blob : Bytes} (hgrants : settings.grantTokens = [])
    (hdry : settings.dryRun ≠ some true) (h : Fits (BrokerResponse.awsCredentials credentials))
    (hne : ∀ result result',
      Decrypts reference kms (credentialsStream credentials)
        (.local localEndpoint) settings key blob result →
      Decrypts reference kms (credentialsStream credentials)
        (.nitro ⟨3, 8000⟩ localEndpoint) settings key blob result' →
      ∃ plaintext, ¬ (result = .ok plaintext ↔ result' = .ok plaintext)) :
    ¬ BindsAlike reference kms (credentialsStream credentials) ⟨3, 8000⟩ localEndpoint settings key
      blob := by
  intro hbinds
  have hstream := receiveResponse_credentialsStream h
  obtain ⟨result, _, hlocal⟩ := (ensures_local hgrants hdry hstream).exists_runsIn
  obtain ⟨result', _, hnitro⟩ := (ensures_nitro hgrants hdry hstream).exists_runsIn
  obtain ⟨plaintext, hplaintext⟩ :=
    hne result result' (runsIn_eventWorld.mp hlocal) (runsIn_eventWorld.mp hnitro)
  exact hplaintext (hbinds result result' (runsIn_eventWorld.mp hlocal)
    (runsIn_eventWorld.mp hnitro) plaintext).1

/-- The clients differ on a blob of another key that the credentials permit, on credentials that are
no C strings, and on a key spec that only the local client reads. -/
theorem not_bindsAlike :
    ¬ BindsAlike reference (sharedKms backupKey.keyArn)
        (credentialsStream storedCredentials) ⟨3, 8000⟩ localEndpoint deployment primaryKey [1] ∧
    ¬ BindsAlike reference (sharedKms primaryKey.keyArn)
        (credentialsStream nulCredentials) ⟨3, 8000⟩ localEndpoint deployment primaryKey [1] ∧
    ¬ BindsAlike reference (sharedKms primaryKey.keyArn) (credentialsStream storedCredentials)
        ⟨3, 8000⟩ localEndpoint { deployment with keySpec := some "RSA_2048" } primaryKey [1] := by
  have hdry : deployment.dryRun ≠ some true := by decide
  have hdry' :
      ({ deployment with keySpec := some "RSA_2048" } : ParentSettings).dryRun ≠ some true := hdry
  have hstored : Fits (BrokerResponse.awsCredentials storedCredentials) := by
    unfold Fits
    decide +kernel
  have hnul : Fits (BrokerResponse.awsCredentials nulCredentials) := by
    unfold Fits
    decide +kernel
  have hstream := receiveResponse_credentialsStream hstored
  have hstreamNul := receiveResponse_credentialsStream hnul
  have hstrings : storedCredentials.AreCStrings := by
    unfold AwsCredentials.AreCStrings
    decide
  have hnot : ¬ nulCredentials.AreCStrings := by
    unfold AwsCredentials.AreCStrings
    decide
  refine ⟨not_bindsAlike_of_ne rfl hdry hstored fun result result' hlocal hnitro => ⟨[7], ?_⟩,
    not_bindsAlike_of_ne rfl hdry hnul fun result result' hlocal hnitro => ⟨[7], ?_⟩,
    not_bindsAlike_of_ne rfl hdry hstored fun result result' hlocal hnitro => ⟨[7], ?_⟩⟩
  · rw [decrypts_local rfl hdry hstream rfl hlocal, decrypts_nitro rfl hdry hstream hstrings hnitro]
    decide
  · rw [decrypts_local rfl hdry hstreamNul rfl hlocal]
    cases result' with
    | ok plaintext =>
      exact absurd ((ensures_nitro rfl hdry hstreamNul).of_runsIn hnitro.runsIn).2 hnot
    | error e =>
      intro hsame
      cases hsame.mp (by decide)
  · rw [decrypts_nitro rfl hdry' hstream hstrings hnitro]
    cases result with
    | ok plaintext =>
      obtain ⟨request, hrequest⟩ := ((ensures_local rfl hdry' hstream).of_runsIn hlocal.runsIn).2
      cases hrequest
    | error e =>
      intro hsame
      cases hsame.mpr (by decide)

/-- On a blob of the key that is named the clients do the same. -/
theorem clients_bind_packages_primaryKey :
    BindsAlike reference (sharedKms primaryKey.keyArn)
      (credentialsStream storedCredentials) ⟨3, 8000⟩ localEndpoint deployment primaryKey [1] := by
  have hdry : deployment.dryRun ≠ some true := by decide
  have hstored : Fits (BrokerResponse.awsCredentials storedCredentials) := by
    unfold Fits
    decide +kernel
  have hstrings : storedCredentials.AreCStrings := by
    unfold AwsCredentials.AreCStrings
    decide
  have hown : ∀ keyArn, (sharedKms primaryKey.keyArn).ProducedUnder [1] keyArn →
      (sharedKms primaryKey.keyArn).permits storedCredentials.caller keyArn = true →
      keyArn = primaryKey.keyArn := by
    rintro keyArn ⟨produced, hproduced, rfl⟩ -
    cases hproduced
    rfl
  refine (clients_bind_packages rfl hdry (receiveResponse_credentialsStream hstored)).2.2.1 ?_
    hstrings hown
  decide

end AwsKmsDemo
