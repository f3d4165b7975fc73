import AwsKmsDemo.Text.Pieces
import AwsKmsDemo.Types

/-!
# Environment and settings

How `src/lib.rs` reads the environment, endpoints and key ARNs, and how it derives the parameters of
a KMS request from the settings.

The definitions follow the source function by function. What the rest of the development needs to
know of `ParentSettings.fromEnv` is `ParentSettings.ReadFrom`, a field for each setting that says
which variable it comes from, and `readFrom_of_fromEnv` goes through the function once to establish
it.
-/

namespace AwsKmsDemo

open Text

/-! ## The environment -/

/-- What a process finds when it starts. -/
structure Environment where
  /-- `env::var`, without the names whose value is not Unicode. -/
  var : String → Option String
  /-- `env::args().nth(1)`, or the panic about an argument that is not Unicode. -/
  argument : Except String (Option String)
  /-- Whether the program was built with the feature `nitro-enclave`. -/
  nitroEnclave : Bool

/-- `optional_env` -/
def optionalEnv (env : Environment) (name : String) : Option String :=
  (env.var name).filter fun value => trim value.toList ≠ []

/-- `parse_bool` -/
def parseBool (name value : String) : Except String Bool :=
  if value ∈ ["true", "1", "yes", "y"] then .ok true
  else if value ∈ ["false", "0", "no", "n"] then .ok false
  else .error s!"{name} must be true or false, got '{value}'"

/-- `str::parse::<u32>`, with the given error. -/
def parseU32 (value error : String) : Except String UInt32 :=
  match parseUnsigned (2^32) value.toList with
  | some n => .ok (UInt32.ofNat n)
  | none => .error error

/-- `Endpoint::parse` -/
def Endpoint.parse (value : String) : Except String Endpoint :=
  match stripPrefix "tcp:".toList value.toList with
  | some addr =>
    if addr = [] then .error "tcp endpoint must be tcp:host:port"
    else .ok (.tcp (String.ofList addr))
  | none =>
    match stripPrefix "vsock:".toList value.toList with
    | some rest =>
      match splitOnce [':'] rest with
      | some (cid, port) => do
        let cid := String.ofList cid
        let port := String.ofList port
        return .vsock (← parseU32 cid s!"invalid vsock cid '{cid}'")
          (← parseU32 port s!"invalid vsock port '{port}'")
      | none => .error "vsock endpoint must be vsock:cid:port"
    | none => .error s!"unsupported endpoint '{value}', expected tcp:host:port or vsock:cid:port"

/-! ## Key ARNs -/

/-- `kms_region_from_arn` -/
def kmsRegionFromArn (keyArn : String) : Except String String :=
  let parts := splitn ':' 6 keyArn.toList
  let part := fun i => parts.getD i []
  if parts.length ≠ 6 ∨ part 0 ≠ "arn".toList ∨ part 2 ≠ "kms".toList ∨ part 3 = [] ∨ part 4 = [] ∨
      ¬ "key/".toList <+: part 5 then
    .error s!"KMS key must be a full key ARN (arn:...:kms:<region>:<account>:key/<id>), got '{keyArn}'"
  else .ok (String.ofList (part 3))

/-- `kms_account_from_arn` -/
def kmsAccountFromArn (keyArn : String) : AppResult String := do
  let _ ← ofText (kmsRegionFromArn keyArn)
  match (split ':' keyArn.toList)[4]? with
  | some account => return String.ofList account
  | none => throw (.panic "validated KMS ARN has an account component")

/-- `KmsKeySettings::from_arn` -/
def KmsKeySettings.fromArn (slot : KmsSlot) (keyArn : String) : Except String KmsKeySettings := do
  let region ← kmsRegionFromArn keyArn
  return {
    slot := slot
    keyArn := keyArn
    region := region }

/-! ## The settings of the broker -/

/-- `DEFAULT_S3_PREFIX` -/
def defaultS3Prefix : String := "kms-keypair"

/-- `required_env` -/
def requiredEnv (env : Environment) (name : String) : Except String String :=
  match optionalEnv env name with
  | some value => .ok value
  | none => .error s!"missing {name}"

/-- A required variable has to be set. -/
theorem requiredEnv_eq_ok {env : Environment} {name value : String} :
    requiredEnv env name = .ok value ↔ optionalEnv env name = some value := by
  unfold requiredEnv
  cases optionalEnv env name <;> simp

/-- `parse_number_of_bytes` -/
def parseNumberOfBytes (value : String) : Except String Int32 :=
  match (parseInteger value.toList).filter fun n => -2^31 ≤ n ∧ n < 2^31 with
  | some parsed =>
    if parsed ≠ 16 ∧ parsed ≠ 32 then .error "KMS_NUMBER_OF_BYTES must be 16 or 32"
    else .ok (Int32.ofInt parsed)
  | none => .error s!"KMS_NUMBER_OF_BYTES must be an integer, got '{value}'"

/-- `parse_csv` -/
def parseCsv (value : String) : List String :=
  (((split ',' value.toList).map trim).filter (· ≠ [])).map String.ofList

/-- `parse_encryption_context`. What is inserted last is listed first. -/
def parseEncryptionContext (value : String) : Except String HashMap :=
  (parseCsv value).foldlM (fun context item => do
    match splitOnce ['='] item.toList with
    | none => throw s!"invalid KMS_ENCRYPTION_CONTEXT item '{item}', expected key=value"
    | some (key, value) =>
      let key := trim key
      let value := trim value
      if key = [] ∨ value = [] then
        throw s!"invalid KMS_ENCRYPTION_CONTEXT item '{item}', key and value must be non-empty"
      return context.insert (String.ofList key) (String.ofList value)) ∅

/-- `parse_startup_mode` -/
def parseStartupMode (value : String) : Except String StartupMode :=
  match value with
  | "serve" => .ok .serve
  | "init-key" => .ok .initKey
  | other => .error s!"DECRYPT_SERVER_TEE_MODE must be serve or init-key, got '{other}'"

/-- `normalize_s3_prefix` -/
def normalizeS3Prefix (value : String) : Except String String :=
  let pre := trimMatches '/' value.toList
  if pre = [] then .error "S3_PREFIX must not be empty"
  else if "..".toList ∈ split '/' pre then
    .error "S3_PREFIX must not contain '..' path components"
  else .ok (String.ofList pre)

/-- `ParentSettings::from_env` -/
def ParentSettings.fromEnv (env : Environment) : Except String ParentSettings := do
  let keySpec := (optionalEnv env "KMS_KEY_SPEC").or (optionalEnv env "KEY_SPEC")
  let numberOfBytes ← (optionalEnv env "KMS_NUMBER_OF_BYTES").mapM parseNumberOfBytes
  if keySpec.isSome ∧ numberOfBytes.isSome then
    throw "set only one of KMS_KEY_SPEC or KMS_NUMBER_OF_BYTES"
  let primaryKeyArn ← requiredEnv env "KMS_PRIMARY_KEY_ARN"
  let backupKeyArn ← requiredEnv env "KMS_BACKUP_KEY_ARN"
  let primary ← KmsKeySettings.fromArn .primary primaryKeyArn
  let backup ← KmsKeySettings.fromArn .backup backupKeyArn
  let s3Bucket ← requiredEnv env "S3_BUCKET"
  let s3Prefix ← normalizeS3Prefix ((optionalEnv env "S3_PREFIX").getD defaultS3Prefix)
  let startupMode ← (optionalEnv env "DECRYPT_SERVER_TEE_MODE").mapM parseStartupMode
  let encryptionContext ← (optionalEnv env "KMS_ENCRYPTION_CONTEXT").mapM parseEncryptionContext
  let grantTokens := ((optionalEnv env "KMS_GRANT_TOKENS").map parseCsv).getD []
  let dryRun ← (optionalEnv env "KMS_DRY_RUN").mapM (parseBool "KMS_DRY_RUN")
  return {
    kmsKeys := [primary, backup]
    s3Bucket := s3Bucket
    s3Prefix := s3Prefix
    startupMode := startupMode.getD .serve
    keySpec := keySpec.or (some "AES_256")
    numberOfBytes := numberOfBytes
    encryptionContext := encryptionContext
    grantTokens := grantTokens
    dryRun := dryRun }

/-- What the settings of an environment are read from, variable by variable. -/
structure ParentSettings.ReadFrom (env : Environment) (settings : ParentSettings) : Prop where
  keySpec : settings.keySpec =
    ((optionalEnv env "KMS_KEY_SPEC").or (optionalEnv env "KEY_SPEC")).or (some "AES_256")
  numberOfBytes : (optionalEnv env "KMS_NUMBER_OF_BYTES").mapM parseNumberOfBytes =
    .ok settings.numberOfBytes
  /-- Not both options for the data key are given. -/
  notBoth : ¬ (((optionalEnv env "KMS_KEY_SPEC").or (optionalEnv env "KEY_SPEC")).isSome ∧
    settings.numberOfBytes.isSome)
  kmsKeys : ∃ primaryArn backupArn primary backup,
    optionalEnv env "KMS_PRIMARY_KEY_ARN" = some primaryArn ∧
    optionalEnv env "KMS_BACKUP_KEY_ARN" = some backupArn ∧
    KmsKeySettings.fromArn .primary primaryArn = .ok primary ∧
    KmsKeySettings.fromArn .backup backupArn = .ok backup ∧
    settings.kmsKeys = [primary, backup]
  s3Bucket : optionalEnv env "S3_BUCKET" = some settings.s3Bucket
  s3Prefix : normalizeS3Prefix ((optionalEnv env "S3_PREFIX").getD defaultS3Prefix) =
    .ok settings.s3Prefix
  startupMode : ∃ mode, (optionalEnv env "DECRYPT_SERVER_TEE_MODE").mapM
    parseStartupMode = .ok mode ∧ settings.startupMode = mode.getD .serve
  encryptionContext : (optionalEnv env "KMS_ENCRYPTION_CONTEXT").mapM parseEncryptionContext =
    .ok settings.encryptionContext
  grantTokens : settings.grantTokens = ((optionalEnv env "KMS_GRANT_TOKENS").map parseCsv).getD []
  dryRun : (optionalEnv env "KMS_DRY_RUN").mapM (parseBool "KMS_DRY_RUN") = .ok settings.dryRun

/-- The settings are read from the environment. -/
theorem readFrom_of_fromEnv {env : Environment} {settings : ParentSettings}
    (h : ParentSettings.fromEnv env = .ok settings) : settings.ReadFrom env := by
  unfold ParentSettings.fromEnv at h
  obtain ⟨numberOfBytes, hnumberOfBytes, h₁⟩ := except_bind_eq_ok.mp h
  dsimp only at h₁
  split_ifs at h₁ with hboth
  · cases h₁
  · obtain ⟨primaryArn, hprimaryArn, h₂⟩ := except_bind_eq_ok.mp h₁
    obtain ⟨backupArn, hbackupArn, h₃⟩ := except_bind_eq_ok.mp h₂
    obtain ⟨primary, hprimary, h₄⟩ := except_bind_eq_ok.mp h₃
    obtain ⟨backup, hbackup, h₅⟩ := except_bind_eq_ok.mp h₄
    obtain ⟨s3Bucket, hs3Bucket, h₆⟩ := except_bind_eq_ok.mp h₅
    obtain ⟨s3Prefix, hs3Prefix, h₇⟩ := except_bind_eq_ok.mp h₆
    obtain ⟨mode, hmode, h₈⟩ := except_bind_eq_ok.mp h₇
    obtain ⟨encryptionContext, hencryptionContext, h₉⟩ := except_bind_eq_ok.mp h₈
    obtain ⟨dryRun, hdryRun, h₁₀⟩ := except_bind_eq_ok.mp h₉
    rw [← Except.ok.inj h₁₀]
    exact {
      keySpec := rfl
      numberOfBytes := hnumberOfBytes
      notBoth := hboth
      kmsKeys := ⟨primaryArn, backupArn, primary, backup, requiredEnv_eq_ok.mp hprimaryArn,
        requiredEnv_eq_ok.mp hbackupArn, hprimary, hbackup, rfl⟩
      s3Bucket := requiredEnv_eq_ok.mp hs3Bucket
      s3Prefix := hs3Prefix
      startupMode := ⟨mode, hmode, rfl⟩
      encryptionContext := hencryptionContext
      grantTokens := rfl
      dryRun := hdryRun }

/-! ## The parameters of a KMS request -/

/-- `parse_key_spec` -/
def parseKeySpec (value : String) : Except String DataKeySpec :=
  match value with
  | "AES_128" => .ok .aes128
  | "AES_256" => .ok .aes256
  | other => .error s!"unsupported KMS_KEY_SPEC '{other}', expected AES_128 or AES_256"

/-- `ParentSettings::kms_request_settings` -/
def ParentSettings.kmsRequestSettings (settings : ParentSettings) (keyArn : String) :
    Except String Settings := do
  let keySpec ← settings.keySpec.mapM parseKeySpec
  return {
    kmsKeyId := keyArn
    keySpec := keySpec
    numberOfBytes := settings.numberOfBytes
    encryptionContext := settings.encryptionContext
    grantTokens := settings.grantTokens
    dryRun := settings.dryRun }

end AwsKmsDemo
