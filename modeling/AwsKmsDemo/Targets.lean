import AwsKmsDemo.Broker
import AwsKmsDemo.Initialize
import AwsKmsDemo.Reference
import AwsKmsDemo.Text.Paths
import AwsKmsDemo.Text.Trim

/-!
# The objects below a prefix

`validate_s3_target` compares strings, and `normalize_s3_prefix` prepares one side of the
comparison. Read as paths, the accepted keys are those that begin with the components of the prefix
and go on. A store that resolves `..` in a key may still find another object: only the prefix is
screened for such components.
-/

namespace AwsKmsDemo

open Interaction Interaction.Program

/-! ## Components -/

/-- The components of a path. -/
def components (path : String) : List (List Char) := Text.split '/' path.toList

/-- The keys below a prefix have its components, and at least one more. -/
theorem below_iff_components {allowedBucket allowedPrefix bucket key : String} :
    Below allowedBucket allowedPrefix bucket key ↔ bucket = allowedBucket ∧
      ∃ component more, components key = components allowedPrefix ++ component :: more := by
  have hslash : (allowedPrefix ++ "/").toList = allowedPrefix.toList ++ ['/'] :=
    String.toList_append
  unfold Below components
  rw [hslash, Text.append_singleton_prefix_iff]

/-- The prefixes that `normalize_s3_prefix` returns. -/
theorem normalizeS3Prefix_eq_ok {value pre : String} : normalizeS3Prefix value = .ok pre ↔
    pre.toList = Text.trimMatches '/' value.toList ∧ pre.toList ≠ [] ∧
      "..".toList ∉ components pre := by
  unfold normalizeS3Prefix components
  dsimp only
  constructor
  · intro h
    split_ifs at h with hempty hparent
    have hpre := Except.ok.inj h
    rw [← hpre, String.toList_ofList]
    exact ⟨rfl, hempty, hparent⟩
  · rintro ⟨htrim, hempty, hparent⟩
    rw [← htrim, if_neg hempty, if_neg hparent, String.ofList_toList]

/-- Normalizing a prefix again changes nothing. -/
theorem normalizeS3Prefix_self {value pre : String} (h : normalizeS3Prefix value = .ok pre) :
    normalizeS3Prefix pre = .ok pre := by
  obtain ⟨htrim, hempty, hparent⟩ := normalizeS3Prefix_eq_ok.mp h
  refine normalizeS3Prefix_eq_ok.mpr ⟨?_, hempty, hparent⟩
  have hbare : Text.Bare (· = '/') pre.toList := by
    rw [htrim, Text.trimMatches_eq_strip]
    exact Text.bare_strip
  rw [Text.trimMatches_eq_strip, Text.strip_of_bare hbare]

/-- No key is below two prefixes, unless the components of one begin those of the other. -/
theorem prefix_or_prefix_of_below {bucket bucket' allowed allowed' pre pre' key : String}
    (h : Below allowed pre bucket key) (h' : Below allowed' pre' bucket' key) :
    components pre <+: components pre' ∨ components pre' <+: components pre := by
  obtain ⟨_, component, more, hkey⟩ := below_iff_components.mp h
  obtain ⟨_, component', more', hkey'⟩ := below_iff_components.mp h'
  have hpre : components pre <+: components key := ⟨_, hkey.symm⟩
  have hpre' : components pre' <+: components key := ⟨_, hkey'.symm⟩
  exact List.prefix_or_prefix_of_prefix hpre hpre'

/-! ## The keys of an initialization -/

/-- The target check accepts the object that a request names, if it names one. -/
def BrokerRequest.Accepted (allowedBucket allowedPrefix : String) : BrokerRequest → Prop
  | .loadObject bucket key => validateS3Target bucket key allowedBucket allowedPrefix = .ok ()
  | .saveObjectIfAbsent bucket key _ =>
    validateS3Target bucket key allowedBucket allowedPrefix = .ok ()
  | _ => True

/-- What is sent is an accepted request. -/
def SendsAccepted (allowedBucket allowedPrefix : String) : EnclaveOp → Prop
  | .exchange _ frame => ∃ request : BrokerRequest,
      frame = frameOf (toVec request) ∧ request.Accepted allowedBucket allowedPrefix
  | _ => True

section Keys

variable {crates : Crates} {kmsClient : KmsDataKeyClient} {s3Client : BrokerS3Client}
  {settings : ParentSettings} {key : KmsKeySettings} {allowedBucket allowedPrefix : String}

/-- The key of an object below the prefix is accepted. -/
theorem validateS3Target_objectKey (bucket pre relative : String) :
    validateS3Target bucket (objectKey pre relative) bucket pre = .ok () := by
  refine validateS3Target_eq_ok.mpr ⟨rfl, relative.toList, ?_⟩
  rw [objectKey_toList, String.toList_append, List.append_assoc]

/-- To ask for what the broker accepts is to send what it accepts. -/
theorem sendsAccepted_of_asks {endpoint : Endpoint} {request : BrokerRequest} {o : EnclaveOp}
    (hrequest : request.Accepted allowedBucket allowedPrefix) (ho : Asks endpoint request o) :
    SendsAccepted allowedBucket allowedPrefix o := by
  rcases ho with rfl | ⟨_, rfl⟩
  · trivial
  · exact ⟨request, rfl, hrequest⟩

/-- A load below the prefix of the settings is accepted. -/
theorem uses_sendsAccepted_loadObject {relative : String} :
    (s3Client.loadObject crates settings.s3Bucket (objectKey settings.s3Prefix relative)).Uses
      (SendsAccepted settings.s3Bucket settings.s3Prefix) :=
  uses_loadObject.mono fun _ => sendsAccepted_of_asks (validateS3Target_objectKey _ _ _)

/-- A save below the prefix of the settings is accepted. -/
theorem uses_sendsAccepted_saveObjectIfAbsent {relative : String} {body : Bytes} :
    (s3Client.saveObjectIfAbsent crates settings.s3Bucket (objectKey settings.s3Prefix relative)
      body).Uses (SendsAccepted settings.s3Bucket settings.s3Prefix) :=
  uses_saveObjectIfAbsent.mono fun _ => sendsAccepted_of_asks (validateS3Target_objectKey _ _ _)

/-- Verifying an object below the prefix of the settings is accepted. -/
theorem uses_sendsAccepted_verifyUploadedObject {relative expectedHash : String} :
    (verifyUploadedObject crates s3Client settings.s3Bucket (objectKey settings.s3Prefix relative)
      expectedHash).Uses (SendsAccepted settings.s3Bucket settings.s3Prefix) := by
  refine uses_sendsAccepted_loadObject.bind fun _ => uses_ofExcept_bind fun _ _ => ?_
  exact uses_ofExcept

/-- Generating a data key sends only what is accepted. -/
theorem uses_sendsAccepted_generateDataKey : (kmsClient.generateDataKey crates settings key).Uses
    (SendsAccepted allowedBucket allowedPrefix) := by
  have hcredentials : (BrokerRequest.getAwsCredentials key.slot).Accepted allowedBucket
      allowedPrefix := trivial
  refine uses_generateDataKey.mono fun o ho => ?_
  rcases ho with ho | ⟨client, request, rfl⟩ | ⟨client, keyId, keyBits, rfl⟩
  · exact sendsAccepted_of_asks hcredentials ho
  · trivial
  · trivial

/-- Restoring from a package sends only what is accepted. -/
theorem uses_sendsAccepted_restoreFromPackage {package : RecoveryPackage}
    {expectedPublicKey : Vector UInt8 32} :
    (restoreFromPackage crates kmsClient settings key package expectedPublicKey).Uses
      (SendsAccepted allowedBucket allowedPrefix) := by
  refine uses_ofExcept_bind fun _ _ => uses_ofExcept_bind fun _ _ => uses_ofExcept_bind fun _ _ =>
    uses_ofExcept_bind fun _ _ => Uses.bind ?_ fun _ => ?_
  · refine Uses.bind (uses_requestBrokerCredentials.mono fun _ => sendsAccepted_of_asks trivial) ?_
    intro credentials
    cases kmsClient with
    | «local» endpoint =>
      refine uses_ofExcept_bind fun requestSettings _ => ⟨trivial, fun answer => ?_⟩
      exact uses_ofExcept_bind fun _ _ => uses_ofExcept
    | nitro client endpoint =>
      refine uses_ofExcept_bind fun _ _ => uses_ofExcept_bind fun native _ =>
        uses_ofExcept_bind fun context _ => ⟨trivial, fun answer => ?_⟩
      cases answer <;> trivial
  · refine uses_ofExcept_bind fun _ _ => uses_ofExcept_bind fun _ _ =>
      uses_ofExcept_bind fun _ _ => ?_
    exact uses_ofExcept

/-- Creating the recovery objects sends only what is accepted. -/
theorem uses_sendsAccepted_createRecoveryObjects {privateKey publicKey : Vector UInt8 32}
    (keys : List KmsKeySettings) (recoveryObjects : List RecoveryObjectReference) :
    (createRecoveryObjects crates s3Client kmsClient settings privateKey publicKey recoveryObjects
      keys).Uses (SendsAccepted settings.s3Bucket settings.s3Prefix) := by
  induction keys generalizing recoveryObjects with
  | nil => trivial
  | cons key keys ih =>
    refine Uses.bind ?_ fun _ => ih _
    refine Uses.bind uses_sendsAccepted_generateDataKey fun generated => ?_
    -- Only saving and verifying the package name an object; everything else in the loop asks for
    -- credentials, or nothing.
    refine uses_ofExcept_bind fun _ _ => uses_ofExcept_bind fun _ _ => ⟨trivial, fun nonce => ?_⟩
    refine uses_ofExcept_bind fun _ _ => uses_ofExcept_bind fun _ _ =>
      uses_ofExcept_bind fun _ _ => ?_
    refine Uses.bind uses_sendsAccepted_saveObjectIfAbsent fun _ => ?_
    refine Uses.bind uses_sendsAccepted_verifyUploadedObject fun _ => ?_
    exact Uses.bind uses_sendsAccepted_restoreFromPackage fun _ => trivial

/-- Whatever object an initialization names to the broker is accepted. -/
theorem uses_sendsAccepted_initializeKeyMaterial :
    (initializeKeyMaterial crates s3Client kmsClient settings).Uses
      (SendsAccepted settings.s3Bucket settings.s3Prefix) := by
  refine Uses.bind uses_sendsAccepted_loadObject fun existing => ?_
  refine uses_ofExcept_bind fun _ _ => ⟨trivial, fun privateKey => ?_⟩
  refine (uses_sendsAccepted_createRecoveryObjects _ _).bind fun recoveryObjects => ?_
  refine Uses.bind uses_sendsAccepted_saveObjectIfAbsent fun _ => ?_
  refine Uses.bind uses_sendsAccepted_verifyUploadedObject fun _ => ?_
  exact Uses.bind uses_sendsAccepted_saveObjectIfAbsent fun _ => trivial

end Keys

/-! ## The test on strings and the test on paths -/

/-- The string test of the broker is a test on paths: it accepts exactly the keys in the bucket that
have the components of the prefix and at least one more. So no key is accepted under two normalized
prefixes of which neither begins the other, component by component. A normalized prefix stays as it
is when it is normalized again, and every object that an initialization names to the broker under it
is accepted. -/
theorem target_test_is_path_test :
    (∀ bucket key allowedBucket allowedPrefix,
      validateS3Target bucket key allowedBucket allowedPrefix = .ok () ↔ bucket = allowedBucket ∧
        ∃ component more, components key = components allowedPrefix ++ component :: more) ∧
    (∀ value value' pre pre', normalizeS3Prefix value = .ok pre →
      normalizeS3Prefix value' = .ok pre' →
      ¬ components pre <+: components pre' → ¬ components pre' <+: components pre →
      ∀ bucket bucket' allowed allowed' key, ¬ (validateS3Target bucket key allowed pre = .ok () ∧
        validateS3Target bucket' key allowed' pre' = .ok ())) ∧
    ∀ value pre, normalizeS3Prefix value = .ok pre → normalizeS3Prefix pre = .ok pre ∧
      ∀ crates s3Client kmsClient settings, settings.s3Prefix = pre → ∀ tr endpoint frame,
        (initializeKeyMaterial crates s3Client kmsClient settings).Issues tr
          (.exchange endpoint frame) →
        ∃ request : BrokerRequest, frame = frameOf (toVec request) ∧
          request.Accepted settings.s3Bucket pre := by
  refine ⟨fun bucket key allowedBucket allowedPrefix => ?_, ?_, fun value pre h => ⟨?_, ?_⟩⟩
  · rw [validateS3Target_eq_ok, below_iff_components]
  · rintro value value' pre pre' - - hpre hpre' bucket bucket' allowed allowed' key ⟨h, h'⟩
    rcases prefix_or_prefix_of_below (validateS3Target_eq_ok.mp h) (validateS3Target_eq_ok.mp h')
      with hle | hle
    · exact hpre hle
    · exact hpre' hle
  · exact normalizeS3Prefix_self h
  · rintro crates s3Client kmsClient settings rfl tr endpoint frame hissues
    exact uses_sendsAccepted_initializeKeyMaterial.of_issues hissues

/-- No key is accepted both under `kms` and under `kms-keypair`. -/
theorem target_test_is_path_test_siblings : ¬ ∃ key,
    validateS3Target "bucket" key "bucket" "kms" = .ok () ∧
      validateS3Target "bucket" key "bucket" "kms-keypair" = .ok () := by
  rintro ⟨key, h⟩
  exact target_test_is_path_test.2.1 "kms" "kms-keypair" "kms" "kms-keypair" (by decide) (by decide)
    (by decide) (by decide) "bucket" "bucket" "bucket" "bucket" key h

/-! ## Resolving `..` -/

/-- A component that leads up. -/
def isParent (component : List Char) : Bool := component = "..".toList

/-- A component that leads nowhere. -/
def isNeutral (component : List Char) : Bool := component = [] ∨ component = ".".toList

/-- Where a path leads from the root. -/
def resolve (path : List (List Char)) : List (List Char) := Text.walk isParent isNeutral [] path

/-- A key that resolves to an object below a prefix, and on the way never leaves the prefix. -/
structure ConfinedKey (pre key : String) : Prop where
  /-- No component of the prefix is dropped. -/
  keeps : ∀ passed, components pre <+: passed → passed <+: components key →
    resolve (components pre) <+: resolve passed
  /-- The key ends strictly below the prefix. -/
  below : resolve (components pre) <+: resolve (components key) ∧
    resolve (components pre) ≠ resolve (components key)

/-- The components of a key after those of a prefix. -/
def remainder (pre key : String) : List (List Char) := (components key).drop (components pre).length

/-- What follows the prefix in a key has a last part with fewer `..` than ordinary components. And
it has no first part with more of them, unless the prefix has no ordinary component itself. -/
def StaysBelow (pre key : String) : Prop :=
  ((∃ component ∈ components pre, ¬ isNeutral component) → ∀ first, first <+: remainder pre key →
    Text.ups isParent first ≤ Text.downs isParent isNeutral first) ∧
  ∃ last, last <:+ remainder pre key ∧ Text.ups isParent last < Text.downs isParent isNeutral last

/-- A normalized prefix resolves to a place below the root exactly when it has an ordinary
component. -/
theorem resolve_ne_nil_iff {value pre : String} (h : normalizeS3Prefix value = .ok pre) :
    resolve (components pre) ≠ [] ↔ ∃ component ∈ components pre, ¬ isNeutral component := by
  obtain ⟨_, _, hparent⟩ := normalizeS3Prefix_eq_ok.mp h
  -- A normalized prefix has no component that leads up, so it descends as often as it has ordinary
  -- ones.
  have hups : ∀ first, first <+: components pre → Text.ups isParent first = 0 := by
    intro first hfirst
    refine List.countP_eq_zero.mpr fun component hcomponent hup => hparent ?_
    rw [← of_decide_eq_true hup]
    exact hfirst.subset hcomponent
  have hbalanced : ∀ first, first <+: components pre →
      Text.ups isParent first ≤ Text.downs isParent isNeutral first := by
    intro first hfirst
    rw [hups first hfirst]
    exact Nat.zero_le _
  obtain ⟨more, hwalk, hlength⟩ := Text.walk_of_balanced [] hbalanced
  rw [hups _ List.prefix_rfl, Nat.add_zero] at hlength
  unfold resolve
  rw [hwalk, List.nil_append, ← List.length_pos_iff, hlength, Text.downs, List.countP_pos_iff]
  refine exists_congr fun component => and_congr_right fun hmem => ?_
  have hnot : isParent component = false := by
    refine decide_eq_false fun heq => hparent ?_
    rw [← heq]
    exact hmem
  simp [hnot]

/-- Under a normalized prefix, an accepted key is confined exactly when what follows the prefix
stays below it. -/
theorem accepted_key_confined_iff {value pre : String} (hpre : normalizeS3Prefix value = .ok pre)
    {bucket key allowedBucket : String}
    (hkey : validateS3Target bucket key allowedBucket pre = .ok ()) :
    ConfinedKey pre key ↔ StaysBelow pre key := by
  obtain ⟨_, component, more, hcomponents⟩ :=
    below_iff_components.mp (validateS3Target_eq_ok.mp hkey)
  have hrest : remainder pre key = component :: more := by
    rw [remainder, hcomponents]
    exact List.drop_left
  have hsplit : components key = components pre ++ remainder pre key := by rw [hrest, hcomponents]
  -- Resolving a key goes on from where its prefix leads.
  have hresolve : ∀ first, resolve (components pre ++ first) =
      Text.walk isParent isNeutral (resolve (components pre)) first := fun _ => Text.walk_append
  calc ConfinedKey pre key ↔ (∀ first, first <+: remainder pre key →
        resolve (components pre) <+: Text.walk isParent isNeutral
          (resolve (components pre)) first) ∧
        Text.walk isParent isNeutral (resolve (components pre)) (remainder pre key) ≠
          resolve (components pre) := by
        constructor
        · rintro ⟨hkeeps, _, hne⟩
          rw [hsplit] at hkeeps hne
          refine ⟨fun first hfirst => ?_, fun heq => hne ?_⟩
          · rw [← hresolve]
            exact hkeeps _ (List.prefix_append _ _) ((List.prefix_append_right_inj _).mpr hfirst)
          · rw [hresolve, heq]
        · rintro ⟨hkeeps, hne⟩
          refine ⟨?_, ?_, fun heq => hne ?_⟩
          · rintro _ ⟨first, rfl⟩ hpassed
            rw [hsplit] at hpassed
            rw [hresolve]
            exact hkeeps first ((List.prefix_append_right_inj _).mp hpassed)
          · rw [hsplit, hresolve]
            exact hkeeps _ List.prefix_rfl
          · rw [hsplit, hresolve] at heq
            exact heq.symm
    _ ↔ Text.KeepsBelow isParent isNeutral (resolve (components pre)) (remainder pre key) :=
        Text.keepsBelow_iff.symm
    _ ↔ StaysBelow pre key := by
        unfold Text.KeepsBelow StaysBelow
        rw [resolve_ne_nil_iff hpre]

/-- The manifest of the deployment is confined. -/
theorem accepted_key_confined_manifest :
    ConfinedKey "kms-keypair" "kms-keypair/key_manifest.json" := by
  have hpre : normalizeS3Prefix "kms-keypair" = .ok "kms-keypair" := by decide
  have hkey : validateS3Target "bucket" "kms-keypair/key_manifest.json" "bucket" "kms-keypair" =
      .ok () := by decide
  have hrest : remainder "kms-keypair" "kms-keypair/key_manifest.json" =
      ["key_manifest.json".toList] := by decide
  refine (accepted_key_confined_iff hpre hkey).mpr ⟨fun _ first hfirst => ?_, ?_⟩
  · rw [hrest] at hfirst
    rcases List.prefix_concat_iff.mp (show first <+: [] ++ ["key_manifest.json".toList] from hfirst)
      with rfl | hfirst
    · decide
    · rw [List.prefix_nil.mp hfirst]
      decide
  · rw [hrest]
    exact ⟨_, List.suffix_rfl, by decide⟩

/-- A key with `..` is accepted, and resolves to an object that is not below the prefix. -/
theorem accepted_key_climbs :
    normalizeS3Prefix "kms-keypair" = .ok "kms-keypair" ∧
    validateS3Target "bucket" "kms-keypair/../other" "bucket" "kms-keypair" = .ok () ∧
    resolve (components "kms-keypair/../other") = ["other".toList] ∧
    ¬ ConfinedKey "kms-keypair" "kms-keypair/../other" := by
  refine ⟨by decide, by decide, by decide, fun h => ?_⟩
  have hbelow : ["kms-keypair".toList] <+: ["other".toList] := h.below.1
  exact absurd hbelow (by decide)

end AwsKmsDemo
