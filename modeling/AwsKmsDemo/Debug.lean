import AwsKmsDemo.Crates

/-!
# What is printed of a response

The text of a `BrokerResponse` under `{:?}`, which ends up in the error about an unexpected
response. `Debug` is derived for the types in it, apart from `impl Debug for AwsCredentials`, which
prints neither the keys nor the token. `debugResponse_congr` says so: credentials of which the rest
is the same (`AwsCredentials.redacted`) are printed the same.
-/

namespace AwsKmsDemo

/-! ## The shapes of derived texts -/

/-- A struct or a variant with fields. -/
def debugStruct (name : String) (fields : List (String × String)) : String :=
  let shown := ", ".intercalate (fields.map fun (field, value) => field ++ ": " ++ value)
  name ++ " \x7b " ++ shown ++ " \x7d"

/-- An `Option`. -/
def debugOption {α : Type} (debug : α → String) : Option α → String
  | none => "None"
  | some a => "Some(" ++ debug a ++ ")"

/-- A `Vec`. -/
def debugList {α : Type} (debug : α → String) (as : List α) : String :=
  "[" ++ ", ".intercalate (as.map debug) ++ "]"

namespace Crates

variable (crates : Crates)

/-- A character within a text: `escape_debug`, which leaves single quotes alone there. -/
def escapeDebug (c : Char) : List Char :=
  if c = Char.ofNat 0 then ['\\', '0']
  else if c = '\t' then ['\\', 't']
  else if c = '\r' then ['\\', 'r']
  else if c = '\n' then ['\\', 'n']
  else if c = '\\' then ['\\', '\\']
  else if c = '"' then ['\\', '"']
  else if crates.isPrintable c then [c]
  else ['\\', 'u', '\x7b'] ++ Nat.toDigits 16 c.toNat ++ ['\x7d']

/-- A `String`. -/
def debugString (s : String) : String :=
  String.ofList (['"'] ++ s.toList.flatMap crates.escapeDebug ++ ['"'])

/-- A `HashMap`, in the order in which it is iterated. -/
def debugMap (m : HashMap) : String :=
  let shown := m.entries.map fun e => crates.debugString e.1 ++ ": " ++ crates.debugString e.2
  "\x7b" ++ ", ".intercalate shown ++ "\x7d"

/-! ## The types of a response -/

/-- `KmsKeySettings` -/
def debugKey (key : KmsKeySettings) : String :=
  debugStruct "KmsKeySettings"
    [("slot", match key.slot with | .primary => "Primary" | .backup => "Backup"),
      ("key_arn", crates.debugString key.keyArn), ("region", crates.debugString key.region)]

/-- `ParentSettings` -/
def debugSettings (s : ParentSettings) : String :=
  debugStruct "ParentSettings"
    [("kms_keys", debugList crates.debugKey s.kmsKeys),
      ("s3_bucket", crates.debugString s.s3Bucket), ("s3_prefix", crates.debugString s.s3Prefix),
      ("startup_mode", match s.startupMode with | .serve => "Serve" | .initKey => "InitKey"),
      ("key_spec", debugOption crates.debugString s.keySpec),
      ("number_of_bytes", debugOption (fun n => toString n.toInt) s.numberOfBytes),
      ("encryption_context", debugOption crates.debugMap s.encryptionContext),
      ("grant_tokens", debugList crates.debugString s.grantTokens),
      ("dry_run", debugOption toString s.dryRun)]

/-- `impl Debug for AwsCredentials` -/
def debugCredentials (c : AwsCredentials) : String :=
  debugStruct "AwsCredentials"
    [("region", crates.debugString c.region),
      ("access_key_id", crates.debugString "[REDACTED]"),
      ("secret_access_key", crates.debugString "[REDACTED]"),
      ("session_token", debugOption crates.debugString (c.sessionToken.map fun _ => "[REDACTED]")),
      ("expires_at_epoch_seconds", debugOption toString c.expiresAtEpochSeconds)]

/-- `BrokerResponse` -/
def debugResponse : BrokerResponse → String
  | .settings settings => "Settings(" ++ crates.debugSettings settings ++ ")"
  | .awsCredentials credentials => "AwsCredentials(" ++ crates.debugCredentials credentials ++ ")"
  | .object body => "Object(" ++ debugOption (debugList toString) body ++ ")"
  | .saved => "Saved"
  | .error message => debugStruct "Error" [("message", crates.debugString message)]

end Crates

/-! ## What is not printed -/

/-- Credentials without what is secret about them. -/
def AwsCredentials.redacted (credentials : AwsCredentials) : AwsCredentials where
  region := credentials.region
  accessKeyId := "[REDACTED]"
  secretAccessKey := "[REDACTED]"
  sessionToken := credentials.sessionToken.map fun _ => "[REDACTED]"
  expiresAtEpochSeconds := credentials.expiresAtEpochSeconds

/-- What is printed of credentials does not depend on what is secret about them. -/
theorem debugResponse_congr (crates : Crates) {credentials credentials' : AwsCredentials}
    (h : credentials.redacted = credentials'.redacted) :
    crates.debugResponse (.awsCredentials credentials) =
      crates.debugResponse (.awsCredentials credentials') := by
  obtain ⟨hregion, -, -, htoken, hexpires⟩ := AwsCredentials.mk.inj h
  unfold Crates.debugResponse Crates.debugCredentials
  dsimp only
  rw [hregion, htoken, hexpires]

end AwsKmsDemo
