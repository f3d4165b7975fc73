import AwsKmsDemo.Delivery
import AwsKmsDemo.Names

/-!
# What can be saved can be loaded

A body travels to S3 in one envelope and back in another, under the same limit. The envelope of the
way back is the smaller one, so an initialization cannot commit an object that a restore cannot
read.
-/

namespace AwsKmsDemo

open Interaction Interaction.Program Stream

variable {crates : Crates}

/-! ## Envelopes -/

/-- The frame of an object that was saved is read back, whatever follows it. -/
theorem reads_saved_object (hlaw : crates.Lawful) {bucket key : String} {body frame : Bytes}
    (h : written (writeJsonFrame (BrokerRequest.saveObjectIfAbsent bucket key body)) = .ok frame) :
    ∃ answer, written (writeJsonFrame (BrokerResponse.object (some body))) = .ok answer ∧
      ReadsBack (readJsonFrame crates.responseFromSlice)
        (BrokerResponse.object (some body)) answer := by
  obtain ⟨hfits, _⟩ := written_writeJsonFrame_eq_ok.mp h
  have hobject := fits_object_of_fits_save hfits
  exact ⟨_, written_writeJsonFrame_of_fits hobject,
    readsBack_frameOf (hlaw.responseFromSlice _) hobject⟩

/-- A broker that has the object answers a request to load it, and the answer arrives. -/
theorem yields_loadObject_of_fits_save (hlaw : crates.Lawful) {bucket key : String} {body : Bytes}
    (h : Fits (BrokerRequest.saveObjectIfAbsent bucket key body)) (s3Client : BrokerS3Client)
    (ending : String) :
    (s3Client.loadObject crates bucket key).Yields
      (asked s3Client.endpoint (.loadObject bucket key)
        ⟨writtenResponse (.object (some body)), ending⟩) (.ok (some body)) := by
  refine yields_loadObject_ok.mpr ⟨fits_load_of_fits_save h, _, rfl, ?_⟩
  exact receiveResponse_of_written hlaw (fits_object_of_fits_save h) rfl (by simp)

/-- Whatever an initialization has asked to save was small enough to be sent. -/
theorem fits_of_exchange_mem (hlaw : crates.Lawful) {s3Client : BrokerS3Client}
    {kmsClient : KmsDataKeyClient} {settings : ParentSettings} {tr : List EnclaveEvent}
    {q : EnclaveProgram RestoredKeyPair}
    (h : (initializeKeyMaterial crates s3Client kmsClient settings).Steps tr q)
    {endpoint : Endpoint} {request : BrokerRequest} {answer : Except String Reader}
    (hmem : (⟨.exchange endpoint (frameOf (toVec request)), answer⟩ : EnclaveEvent) ∈ tr) :
    Fits request := by
  obtain ⟨request', hfits, hframe⟩ := (uses_initializeKeyMaterial.of_steps h).1 _ hmem
  have htext := frameOf_injective hframe
  have hrequest := hlaw.requestFromSlice request
  rw [htext, hlaw.requestFromSlice] at hrequest
  obtain rfl := Except.ok.inj hrequest
  exact hfits

/-- Whatever can be saved through the broker can be loaded back through it: if the request to save a
body is accepted as a frame, so is the answer that brings it back, and the body is read from it. In
particular this holds of every object that an initialization asks to save, in any execution. -/
theorem saved_can_be_loaded (hlaw : crates.Lawful) :
    (∀ bucket key body frame,
      written (writeJsonFrame (BrokerRequest.saveObjectIfAbsent bucket key body)) = .ok frame →
      ∃ answer, written (writeJsonFrame (BrokerResponse.object (some body))) = .ok answer ∧
        ∀ trailing ending, (readJsonFrame crates.responseFromSlice).on
          ⟨answer ++ trailing, ending⟩ = (.ok (.object (some body)), ⟨trailing, ending⟩)) ∧
    ∀ (s3Client : BrokerS3Client) (kmsClient : KmsDataKeyClient) (settings : ParentSettings) tr q,
      (initializeKeyMaterial crates s3Client kmsClient settings).Steps tr q →
      ∀ endpoint bucket key body answer,
        ⟨.exchange endpoint (frameOf (toVec (BrokerRequest.saveObjectIfAbsent bucket key body))),
          answer⟩ ∈ tr →
        ∀ (s3Client' : BrokerS3Client) (ending : String),
          (s3Client'.loadObject crates bucket key).Yields
            (asked s3Client'.endpoint (.loadObject bucket key)
              ⟨writtenResponse (.object (some body)), ending⟩) (.ok (some body)) := by
  constructor
  · intro bucket key body frame h
    exact reads_saved_object hlaw h
  · intro s3Client kmsClient settings tr q h endpoint bucket key body answer hmem s3Client' ending
    exact yields_loadObject_of_fits_save hlaw (fits_of_exchange_mem hlaw h hmem) s3Client' ending

/-- A body of three bytes that was saved comes back. -/
theorem saved_can_be_loaded_three_bytes :
    ∃ answer, written (writeJsonFrame (BrokerResponse.object (some [0, 99, 255]))) = .ok answer ∧
      ∀ trailing ending, (readJsonFrame reference.responseFromSlice).on
        ⟨answer ++ trailing, ending⟩ = (.ok (.object (some [0, 99, 255])), ⟨trailing, ending⟩) := by
  have hfits : Fits (BrokerRequest.saveObjectIfAbsent "backup" "deployment/object"
      [0, 99, 255]) := by
    unfold Fits
    decide
  exact (saved_can_be_loaded reference_lawful).1 _ _ _ _ (written_writeJsonFrame_of_fits hfits)

/-! ## The sizes of what an initialization stores -/

/-- A request to save an object of moderate size fits. -/
theorem fits_save_of_le {bucket key : String} {body : Bytes} (hbucket : bucket.toList.length ≤ 1000)
    (hkey : key.toList.length ≤ 2000) (hbody : body.length ≤ 200000) :
    Fits (BrokerRequest.saveObjectIfAbsent bucket key body) := by
  have hsave : (toVec (BrokerRequest.saveObjectIfAbsent bucket key body)).length =
      Json.textLength "SaveObjectIfAbsent" + Json.valueLength (.obj [("bucket", serialize bucket),
        ("key", serialize key), ("body", serialize body)]) + 5 :=
    Json.valueLength_obj_singleton "SaveObjectIfAbsent" _
  have hnames : Json.textLength "SaveObjectIfAbsent" = 18 ∧ Json.textLength "bucket" = 6 ∧
      Json.textLength "key" = 3 ∧ Json.textLength "body" = 4 := by decide
  -- A byte is a number of at most three digits, and a comma follows it.
  have hbyte : ∀ v ∈ body.map (serialize : UInt8 → Json.Value), Json.valueLength v ≤ 3 := by
    have hall : ∀ i : Fin 256, Json.valueLength (.num i.val) ≤ 3 := by decide +kernel
    intro v hv
    obtain ⟨b, _, rfl⟩ := List.mem_map.mp hv
    exact hall ⟨b.toNat, b.toNat_lt⟩
  have hbodyLength : Json.valueLength (serialize body) ≤ 4 * body.length + 2 := by
    have harray := Json.valueLength_arr_le hbyte
    rw [List.length_map] at harray
    exact harray
  have hbucketLength := Json.textLength_le bucket
  have hkeyLength := Json.textLength_le key
  rw [Json.valueLength_obj_cons, Json.valueLength_obj_cons, Json.valueLength_obj_singleton,
    show serialize bucket = .str bucket from rfl, show serialize key = .str key from rfl,
    Json.valueLength_str, Json.valueLength_str] at hsave
  unfold Fits maxJsonFrameLength
  omega

/-- A key is as long as its prefix and its relative part, with the slash between them. -/
theorem length_objectKey (pre relative : String) :
    (objectKey pre relative).toList.length = pre.toList.length + relative.toList.length + 1 := by
  rw [objectKey_toList, List.length_append, List.length_append,
    show "/".toList.length = 1 from rfl]
  omega

/-- A display id has at most eight characters. -/
theorem length_of_kmsKeyDisplayId {keyArn displayId : String}
    (h : kmsKeyDisplayId keyArn = .ok displayId) : displayId.toList.length ≤ 8 := by
  obtain ⟨keyId, _, _, hreturn⟩ := kmsKeyDisplayId_eq_ok.mp h
  rw [hreturn, String.toList_ofList, List.length_reverse]
  exact List.length_take_le _ _

/-- A storage id has at most 21 characters. -/
theorem length_of_kmsKeyStorageId {keyArn storageId : String}
    (h : kmsKeyStorageId crates keyArn = .ok storageId) : storageId.toList.length ≤ 21 := by
  obtain ⟨displayId, hdisplay, h₁⟩ := except_bind_eq_ok.mp h
  have hlength := length_of_kmsKeyDisplayId hdisplay
  obtain rfl : displayId ++ "-" ++
      String.ofList ((sha256Hex crates (Json.utf8 keyArn.toList)).toList.take 12) =
      storageId := Except.ok.inj h₁
  have hshort := List.length_take_le 12 (sha256Hex crates (Json.utf8 keyArn.toList)).toList
  simp only [String.toList_append, List.length_append, String.toList_ofList,
    show "-".toList.length = 1 from rfl]
  omega

/-- The encoding is about twice as long at most. -/
theorem length_reference_base64Encode_le (bytes : Bytes) :
    (reference.base64Encode bytes).toList.length ≤ 2 * bytes.length + 2 := by
  show (String.ofList (Crypto.base64Encode bytes)).toList.length ≤ _
  rw [String.toList_ofList]
  exact Crypto.length_base64Encode_le bytes

/-- A package is of moderate size if what is encrypted in it is. -/
theorem length_body_le {d : Deposit} (hdata : d.generated.encryptedDataKey.length ≤ 4096)
    (hprivate : d.encryptedPrivateKey.length ≤ 4096) : (d.body reference).length ≤ 200000 := by
  have hversion : Json.indentedLength 1 (serialize keyMaterialVersion) = 1 := by decide
  have hnames : Json.textLength "version" = 7 ∧ Json.textLength "encrypted_data_key_base64" = 25 ∧
      Json.textLength "private_key_nonce_base64" = 24 ∧
      Json.textLength "encrypted_private_key_base64" = 28 := by decide
  have hlength : (d.body reference).length = Json.indentedLength 0 (.obj
      [("version", serialize keyMaterialVersion),
        ("encrypted_data_key_base64", .str (reference.base64Encode d.generated.encryptedDataKey)),
        ("private_key_nonce_base64", .str (reference.base64Encode d.nonce.toList)),
        ("encrypted_private_key_base64", .str (reference.base64Encode d.encryptedPrivateKey))]) :=
    Json.length_toVecPretty _
  have hdataText := Json.textLength_le (reference.base64Encode d.generated.encryptedDataKey)
  have hnonceText := Json.textLength_le (reference.base64Encode d.nonce.toList)
  have hprivateText := Json.textLength_le (reference.base64Encode d.encryptedPrivateKey)
  have hdataLength := length_reference_base64Encode_le d.generated.encryptedDataKey
  have hnonceLength := length_reference_base64Encode_le d.nonce.toList
  have hprivateLength := length_reference_base64Encode_le d.encryptedPrivateKey
  rw [Vector.length_toList] at hnonceLength
  rw [Json.indentedLength_obj_cons, Json.indentedLength_obj_cons, Json.indentedLength_obj_cons,
    Json.indentedLength_obj_singleton, Json.indentedLength_str, Json.indentedLength_str,
    Json.indentedLength_str] at hlength
  simp only [Nat.reduceAdd] at hlength
  omega

/-- The text of a hash. -/
theorem textLength_sha256Hex_le (bytes : Bytes) :
    Json.textLength (sha256Hex crates bytes) ≤ 384 := by
  have hbound := Json.textLength_le (sha256Hex crates bytes)
  rw [length_sha256Hex] at hbound
  exact hbound

/-- A public document is of moderate size. -/
theorem length_publicBody_le (draft : Draft) : (draft.publicBody reference).length ≤ 200000 := by
  have hversion : Json.indentedLength 1 (serialize keyMaterialVersion) = 1 := by decide
  have hnames : Json.textLength "version" = 7 ∧ Json.textLength "algorithm" = 9 ∧
      Json.textLength privateKeyAlgorithm = 7 ∧ Json.textLength "public_key_base64" = 17 ∧
      Json.textLength "fingerprint_sha256" = 18 := by decide
  have hlength : (draft.publicBody reference).length = Json.indentedLength 0 (.obj
      [("version", serialize keyMaterialVersion), ("algorithm", .str privateKeyAlgorithm),
        ("public_key_base64", .str (reference.base64Encode (draft.publicKey reference).toList)),
        ("fingerprint_sha256", .str (draft.fingerprint reference))]) :=
    Json.length_toVecPretty _
  have hkeyText := Json.textLength_le (reference.base64Encode (draft.publicKey reference).toList)
  have hkeyLength := length_reference_base64Encode_le (draft.publicKey reference).toList
  have hfingerprint : Json.textLength (draft.fingerprint reference) ≤ 384 :=
    textLength_sha256Hex_le _
  rw [Vector.length_toList] at hkeyLength
  rw [Json.indentedLength_obj_cons, Json.indentedLength_obj_cons, Json.indentedLength_obj_cons,
    Json.indentedLength_obj_singleton, Json.indentedLength_str, Json.indentedLength_str,
    Json.indentedLength_str] at hlength
  simp only [Nat.reduceAdd] at hlength
  omega

/-- The name of a public document has 87 characters. -/
theorem length_publicKeyName (draft : Draft) : (draft.publicKeyName crates).toList.length = 87 := by
  rw [Draft.publicKeyName_toList]
  simp only [List.length_append]
  rw [show (draft.fingerprint crates).toList.length = 64 from length_sha256Hex _]
  rfl

/-- The name of a package is short if the ids in it are. -/
theorem length_relativeKey_le {d : Deposit} (hstorage : d.storageId.toList.length ≤ 21)
    (hdisplay : d.displayId.toList.length ≤ 8) : (d.relativeKey crates).toList.length ≤ 150 := by
  rw [Deposit.relativeKey_toList]
  simp only [List.length_append]
  rw [show (d.hash crates).toList.length = 64 from length_sha256Hex _,
    show "kms-key-".toList.length = 8 from rfl,
    show "/encrypted_private_key_by_kms-key-".toList.length = 34 from rfl,
    show "_sha256-".toList.length = 8 from rfl, show ".json".toList.length = 5 from rfl]
  omega

/-- A reference whose texts are of moderate size. -/
structure RecoveryObjectReference.Moderate (reference : RecoveryObjectReference) : Prop where
  kmsKeyArn : reference.kmsKeyArn.toList.length ≤ 1000
  objectKey : reference.objectKey.toList.length ≤ 2000
  sha256 : reference.sha256.toList.length ≤ 64

/-- An entry of moderate size is short in the manifest. -/
theorem RecoveryObjectReference.Moderate.indentedLength_le {r : RecoveryObjectReference}
    (h : r.Moderate) : Json.indentedLength 2 (serialize r) ≤ 20000 := by
  have hnames : Json.textLength "kms_key_arn" = 11 ∧ Json.textLength "object_key" = 10 ∧
      Json.textLength "sha256" = 6 := by decide
  have hlength : Json.indentedLength 2 (serialize r) = Json.indentedLength 2 (.obj
      [("kms_key_arn", .str r.kmsKeyArn), ("object_key", .str r.objectKey),
        ("sha256", .str r.sha256)]) := rfl
  have harn := Json.textLength_le r.kmsKeyArn
  have hkey := Json.textLength_le r.objectKey
  have hhash := Json.textLength_le r.sha256
  obtain ⟨harnLength, hkeyLength, hhashLength⟩ := h
  rw [Json.indentedLength_obj_cons, Json.indentedLength_obj_cons, Json.indentedLength_obj_singleton,
    Json.indentedLength_str, Json.indentedLength_str, Json.indentedLength_str] at hlength
  omega

/-- A manifest with two references of moderate size is of moderate size. -/
theorem length_manifestBody_le {draft : Draft} {settings : ParentSettings}
    (htwo : draft.recoveryObjects.length = 2)
    (hmoderate : ∀ reference ∈ draft.recoveryObjects, reference.Moderate)
    (hpre : settings.s3Prefix.toList.length ≤ 1000) :
    (draft.manifestBody crates settings).length ≤ 200000 := by
  obtain ⟨first, second, hpair⟩ := List.length_eq_two.mp htwo
  have hfirst := (hmoderate first (by rw [hpair]; simp)).indentedLength_le
  have hsecond := (hmoderate second (by rw [hpair]; simp)).indentedLength_le
  have hversion : Json.indentedLength 1 (serialize keyMaterialVersion) = 1 := by decide
  have hnames : Json.textLength "version" = 7 ∧ Json.textLength "recovery_policy" = 15 ∧
      Json.textLength "any-one" = 7 ∧ Json.textLength "key_fingerprint" = 15 ∧
      Json.textLength "private_key_algorithm" = 21 ∧ Json.textLength privateKeyAlgorithm = 7 ∧
      Json.textLength "private_key_encryption" = 22 ∧ Json.textLength privateKeyEncryption = 7 ∧
      Json.textLength "public_key" = 10 ∧ Json.textLength "object_key" = 10 ∧
      Json.textLength "sha256" = 6 ∧ Json.textLength "recovery_objects" = 16 := by decide
  have hlength : (draft.manifestBody crates settings).length = Json.indentedLength 0 (.obj
      [("version", serialize keyMaterialVersion), ("recovery_policy", .str "any-one"),
        ("key_fingerprint", .str (draft.fingerprint crates)),
        ("private_key_algorithm", .str privateKeyAlgorithm),
        ("private_key_encryption", .str privateKeyEncryption),
        ("public_key", .obj [("object_key", .str (draft.publicObjectKey crates settings)),
          ("sha256", .str (sha256Hex crates (draft.publicBody crates)))]),
        ("recovery_objects", .arr [serialize first, serialize second])]) := by
    rw [← show draft.recoveryObjects.map serialize = [serialize first, serialize second] by
      rw [hpair]; rfl]
    exact Json.length_toVecPretty _
  have hfingerprint : Json.textLength (draft.fingerprint crates) ≤ 384 := textLength_sha256Hex_le _
  have hhash := @textLength_sha256Hex_le crates (draft.publicBody crates)
  have hkey := Json.textLength_le (draft.publicObjectKey crates settings)
  have hkeyLength : (draft.publicObjectKey crates settings).toList.length =
      settings.s3Prefix.toList.length + 87 + 1 := by
    unfold Draft.publicObjectKey
    rw [length_objectKey, length_publicKeyName]
  rw [Json.indentedLength_obj_cons, Json.indentedLength_obj_cons, Json.indentedLength_obj_cons,
    Json.indentedLength_obj_cons, Json.indentedLength_obj_cons, Json.indentedLength_obj_cons,
    Json.indentedLength_obj_singleton, Json.indentedLength_obj_cons,
    Json.indentedLength_obj_singleton, Json.indentedLength_arr_cons,
    Json.indentedLength_arr_singleton, Json.indentedLength_str, Json.indentedLength_str,
    Json.indentedLength_str, Json.indentedLength_str, Json.indentedLength_str,
    Json.indentedLength_str] at hlength
  simp only [Nat.reduceAdd] at hlength
  omega

end AwsKmsDemo
