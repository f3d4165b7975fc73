import AwsKmsDemo.Interaction.Worlds
import AwsKmsDemo.Memory.Ledger
import AwsKmsDemo.Shim

/-!
# The world of the native shim

What the shim finds around it: the objects that are held, the library, and the calls that the Nitro
SDK has answered. An operation may be performed only on objects that are held, so a second release,
a use after a release, and an access beyond the end of a block are not legal. The SDK is arbitrary:
it says which calls can fail, and what it answers.
-/

namespace AwsKmsDemo

open Interaction Interaction.Program Memory

/-! ## The world of the shim -/

/-- What `aws_credentials_new` is given. -/
structure SdkCredentials where
  accessKeyId : Bytes
  secretAccessKey : Bytes
  sessionToken : Bytes
  expiration : UInt64
  deriving DecidableEq

/-- What a client of the SDK was made from. -/
structure SdkClient where
  region : Bytes
  endpoint : VsockEndpoint
  credentials : SdkCredentials
  deriving DecidableEq

/-- An object in the ledger. -/
inductive Object where
  | string (text : Bytes)
  | credentials (credentials : SdkCredentials)
  | client (client : SdkClient)
  /-- Memory of the SDK, which `aws_byte_buf_clean_up` releases. -/
  | buffer (bytes : Bytes)
  /-- Memory of `malloc`, which `free` releases. -/
  | block (bytes : Bytes)
  deriving DecidableEq

/-- A request that the SDK makes to KMS. -/
inductive SdkRequest where
  | generateDataKey (client : SdkClient) (keyId : Bytes) (keySpec : AwsKeySpec)
  | decrypt (client : SdkClient) (keyId encryptionAlgorithm : Option Bytes) (ciphertext : Bytes)
      (context : Option Bytes)
  deriving DecidableEq

/-- What the SDK answers: its return value, and the contents of the buffers that it fills. -/
structure SdkResponse where
  rc : Int32
  plaintext : Bytes
  /-- Of `GenerateDataKey` only. -/
  ciphertext : Bytes
  deriving DecidableEq

/-- A Nitro SDK. -/
structure Sdk where
  /-- Seeding and allocations can fail. -/
  Faulty : Prop
  Answers : SdkRequest → SdkResponse → Prop
  answered : ∀ request, ∃ response, Answers request response

/-- The state of the shim's world. -/
structure ShimWorld where
  heap : Ledger Address Object
  /-- How often the library was initialised. -/
  inits : ℕ
  /-- How often the library was cleaned up. -/
  cleanUps : ℕ
  /-- The calls that the SDK has answered. -/
  calls : List (SdkRequest × SdkResponse)
  cleanUps_le : cleanUps ≤ inits
  /-- There are addresses at which nothing is held. -/
  room : ∃ n, ∀ p, n ≤ p → heap.held p = none

namespace ShimWorld

/-- The library is initialised. -/
def Initialized (w : ShimWorld) : Prop := w.cleanUps < w.inits

/-- Initialise the library. -/
def libraryInit (w : ShimWorld) : ShimWorld :=
  { w with inits := w.inits + 1, cleanUps_le := Nat.le_succ_of_le w.cleanUps_le }

/-- Clean up the library. -/
def libraryCleanUp (w : ShimWorld) (h : w.Initialized) : ShimWorld :=
  { w with cleanUps := w.cleanUps + 1, cleanUps_le := h }

/-- Note a call of the SDK. -/
def called (w : ShimWorld) (request : SdkRequest) (response : SdkResponse) : ShimWorld :=
  { w with calls := w.calls ++ [(request, response)] }

/-- After a change at one address, there is still a bound on the addresses in use. -/
theorem room_update {held : Address → Option Object} (h : ∃ n, ∀ p, n ≤ p → held p = none)
    (p : Address) (o : Option Object) : ∃ n, ∀ q, n ≤ q → Function.update held p o q = none := by
  obtain ⟨n, hn⟩ := h
  refine ⟨max n (p + 1), fun q hq => ?_⟩
  have hp : p < q := Nat.lt_of_succ_le ((le_max_right _ _).trans hq)
  rw [Function.update_of_ne hp.ne']
  exact hn q ((le_max_left _ _).trans hq)

/-- Acquire an object. -/
def acquire (w : ShimWorld) (p : Address) (o : Object) : ShimWorld :=
  { w with heap := w.heap.acquire p o, room := room_update w.room p _ }

/-- Release an object. -/
def release (w : ShimWorld) (p : Address) (o : Object) : ShimWorld :=
  { w with heap := w.heap.release p o, room := room_update w.room p _ }

/-- Change an object. -/
def write (w : ShimWorld) (p : Address) (o : Object) : ShimWorld :=
  { w with heap := w.heap.write p o, room := room_update w.room p _ }

/-- There is an address at which nothing is held. -/
theorem exists_free (w : ShimWorld) : ∃ p, w.heap.held p = none := by
  obtain ⟨n, hn⟩ := w.room
  exact ⟨n, hn n le_rfl⟩

end ShimWorld

/-- An allocation: `NULL` if it can fail, or the address of the new object. -/
inductive Allocates (mayFail : Prop) (w : ShimWorld) (o : Object) :
    Option Address → ShimWorld → Prop
  where
  | failed (h : mayFail) : Allocates mayFail w o none w
  | allocated (p : Address) (h : w.heap.held p = none) :
      Allocates mayFail w o (some p) (w.acquire p o)

/-- The SDK fills a buffer. It leaves an empty buffer alone, or allocates memory for it, and
possibly more than it fills. -/
inductive Fills (w : ShimWorld) (bytes : Bytes) : ByteBuf → ShimWorld → Prop where
  | untouched (h : bytes = []) : Fills w bytes .zero w
  | allocated (p : Address) (spare : Bytes) (h : w.heap.held p = none) :
      Fills w bytes ⟨bytes.length, some p, (bytes ++ spare).length⟩
        (w.acquire p (.buffer (bytes ++ spare)))

/-- The text at an address, or that there is none at `NULL`. -/
def TextAt (w : ShimWorld) (string : Option Address) (text : Option Bytes) : Prop :=
  match string, text with
  | none, none => True
  | some p, some text => w.heap.held p = some (.string text)
  | _, _ => False

/-- When an operation may be performed. -/
def ShimOp.Legal : ShimOp → ShimWorld → Prop
  | .libraryInit, _ => True
  | .libraryCleanUp, w => w.Initialized
  | .seedEntropy _, w => w.Initialized
  | .getAllocator, w => w.Initialized
  | .lastError, w => w.Initialized
  | .errorDebugStr _, w => w.Initialized
  | .stringNew _ _, w => w.Initialized
  | .stringDestroy none, _ => True
  | .stringDestroy (some p), w => w.Initialized ∧ ∃ text, w.heap.held p = some (.string text)
  | .credentialsNew _ _ _ _ _, w => w.Initialized
  | .credentialsRelease p, w => w.Initialized ∧ ∃ c, w.heap.held p = some (.credentials c)
  | .clientNew configuration, w =>
    w.Initialized ∧ (∃ p text, configuration.region = some p ∧
      w.heap.held p = some (.string text)) ∧
      ∃ p c, configuration.credentials = some p ∧ w.heap.held p = some (.credentials c)
  | .clientDestroy p, w => w.Initialized ∧ ∃ c, w.heap.held p = some (.client c)
  | .generateDataKeyBlocking client keyId _, w =>
    w.Initialized ∧ (∃ p c, client = some p ∧ w.heap.held p = some (.client c)) ∧
      ∃ text, TextAt w keyId (some text)
  | .decryptBlocking client keyId encryptionAlgorithm _ context, w =>
    w.Initialized ∧ (∃ p c, client = some p ∧ w.heap.held p = some (.client c)) ∧
      (∃ text, TextAt w keyId text) ∧ (∃ text, TextAt w encryptionAlgorithm text) ∧
      ∃ text, TextAt w context text
  | .cleanUp buffer, w =>
    ∀ p, buffer.buffer = some p → w.Initialized ∧ ∃ bytes, w.heap.held p = some (.buffer bytes)
  | .cleanUpSecure buffer, w =>
    ∀ p, buffer.buffer = some p → w.Initialized ∧ ∃ bytes, w.heap.held p = some (.buffer bytes)
  | .malloc _, _ => True
  | .memcpy target source size, w =>
    (∃ p bytes, target = some p ∧ w.heap.held p = some (.block bytes) ∧ size ≤ bytes.length) ∧
      ∃ p bytes, source = some p ∧ w.heap.held p = some (.buffer bytes) ∧ size ≤ bytes.length
  | .memset p _ size, w => ∃ bytes, w.heap.held p = some (.block bytes) ∧ size ≤ bytes.length
  | .free p, w => ∃ bytes, w.heap.held p = some (.block bytes)
  | .read p size, w => ∃ bytes, w.heap.held p = some (.block bytes) ∧ size ≤ bytes.length

/-- What an operation may answer, and the state after it. -/
def ShimOp.Step (sdk : Sdk) : (o : ShimOp) → ShimWorld → o.Ans → ShimWorld → Prop
  | .libraryInit, w, _, w' => w' = w.libraryInit
  | .libraryCleanUp, w, _, w' => ∃ h, w' = w.libraryCleanUp h
  | .seedEntropy _, w, rc, w' => (rc ≠ awsOpSuccess → sdk.Faulty) ∧ w' = w
  | .getAllocator, w, _, w' => w' = w
  | .lastError, w, _, w' => w' = w
  | .errorDebugStr _, w, _, w' => w' = w
  | .stringNew _ text, w, string, w' => Allocates sdk.Faulty w (.string text) string w'
  | .stringDestroy none, w, _, w' => w' = w
  | .stringDestroy (some p), w, _, w' =>
    ∃ text, w.heap.held p = some (.string text) ∧ w' = w.release p (.string text)
  | .credentialsNew _ accessKeyId secretAccessKey sessionToken expiration, w, credentials, w' =>
    Allocates sdk.Faulty w
      (.credentials ⟨accessKeyId, secretAccessKey, sessionToken, expiration⟩) credentials w'
  | .credentialsRelease p, w, _, w' =>
    ∃ c, w.heap.held p = some (.credentials c) ∧ w' = w.release p (.credentials c)
  | .clientNew configuration, w, client, w' =>
    ∃ p text q c, configuration.region = some p ∧ w.heap.held p = some (.string text) ∧
      configuration.credentials = some q ∧ w.heap.held q = some (.credentials c) ∧
      Allocates sdk.Faulty w (.client ⟨text, configuration.endpoint, c⟩) client w'
  | .clientDestroy p, w, _, w' =>
    ∃ c, w.heap.held p = some (.client c) ∧ w' = w.release p (.client c)
  | .generateDataKeyBlocking client keyId keySpec, w, (rc, plain, encrypted), w' =>
    ∃ p c text response w₁ w₂, client = some p ∧ w.heap.held p = some (.client c) ∧
      TextAt w keyId (some text) ∧ sdk.Answers (.generateDataKey c text keySpec) response ∧
      rc = response.rc ∧ Fills w response.plaintext plain w₁ ∧
      Fills w₁ response.ciphertext encrypted w₂ ∧
      w' = w₂.called (.generateDataKey c text keySpec) response
  | .decryptBlocking client keyId encryptionAlgorithm ciphertext context, w, (rc, plain), w' =>
    ∃ p c keyIdText algorithmText contextText response w₁, client = some p ∧
      w.heap.held p = some (.client c) ∧ TextAt w keyId keyIdText ∧
      TextAt w encryptionAlgorithm algorithmText ∧ TextAt w context contextText ∧
      sdk.Answers (.decrypt c keyIdText algorithmText ciphertext contextText) response ∧
      rc = response.rc ∧ Fills w response.plaintext plain w₁ ∧
      w' = w₁.called (.decrypt c keyIdText algorithmText ciphertext contextText) response
  | .cleanUp buffer, w, _, w' =>
    match buffer.buffer with
    | none => w' = w
    | some p => ∃ bytes, w.heap.held p = some (.buffer bytes) ∧ w' = w.release p (.buffer bytes)
  | .cleanUpSecure buffer, w, _, w' =>
    match buffer.buffer with
    | none => w' = w
    | some p => ∃ bytes, w.heap.held p = some (.buffer bytes) ∧
      w' = w.release p (.buffer (List.replicate bytes.length 0))
  | .malloc size, w, block, w' =>
    ∃ bytes : Bytes, bytes.length = size ∧ Allocates sdk.Faulty w (.block bytes) block w'
  | .memcpy target source size, w, _, w' =>
    ∃ p old q bytes, target = some p ∧ w.heap.held p = some (.block old) ∧ source = some q ∧
      w.heap.held q = some (.buffer bytes) ∧
      w' = w.write p (.block (bytes.take size ++ old.drop size))
  | .memset p value size, w, _, w' =>
    ∃ old, w.heap.held p = some (.block old) ∧
      w' = w.write p (.block (List.replicate size value ++ old.drop size))
  | .free p, w, _, w' => ∃ bytes, w.heap.held p = some (.block bytes) ∧
      w' = w.release p (.block bytes)
  | .read p size, w, answer, w' =>
    ∃ bytes, w.heap.held p = some (.block bytes) ∧ answer = bytes.take size ∧ w' = w

/-- An allocation has an outcome. -/
theorem exists_allocates (mayFail : Prop) (w : ShimWorld) (o : Object) :
    ∃ p w', Allocates mayFail w o p w' := by
  obtain ⟨p, hp⟩ := w.exists_free
  exact ⟨some p, _, .allocated p hp⟩

/-- A buffer can be filled with anything. -/
theorem exists_fills (w : ShimWorld) (bytes : Bytes) : ∃ buffer w', Fills w bytes buffer w' := by
  obtain ⟨p, hp⟩ := w.exists_free
  exact ⟨_, _, .allocated p [] hp⟩

/-- What may be performed has an answer. -/
theorem exists_step (sdk : Sdk) (o : ShimOp) (w : ShimWorld) (h : o.Legal w) :
    ∃ a w', o.Step sdk w a w' := by
  cases o with
  | libraryInit => exact ⟨(), _, rfl⟩
  | libraryCleanUp => exact ⟨(), _, h, rfl⟩
  | seedEntropy n => exact ⟨awsOpSuccess, w, fun hne => absurd rfl hne, rfl⟩
  | getAllocator => exact ⟨(0 : ℕ), w, rfl⟩
  | lastError => exact ⟨(0 : Int32), w, rfl⟩
  | errorDebugStr code => exact ⟨none, w, rfl⟩
  | stringNew allocator text => exact exists_allocates _ _ _
  | stringDestroy string =>
    cases string with
    | none => exact ⟨(), w, rfl⟩
    | some p =>
      obtain ⟨-, text, ht⟩ := h
      exact ⟨(), _, text, ht, rfl⟩
  | credentialsNew allocator accessKeyId secretAccessKey sessionToken expiration =>
    exact exists_allocates _ _ _
  | credentialsRelease p =>
    obtain ⟨-, c, hc⟩ := h
    exact ⟨(), _, c, hc, rfl⟩
  | clientNew configuration =>
    obtain ⟨-, ⟨p, text, hp, ht⟩, q, c, hq, hc⟩ := h
    obtain ⟨client, w', hw'⟩ := exists_allocates sdk.Faulty w
      (.client ⟨text, configuration.endpoint, c⟩)
    exact ⟨client, w', p, text, q, c, hp, ht, hq, hc, hw'⟩
  | clientDestroy p =>
    obtain ⟨-, c, hc⟩ := h
    exact ⟨(), _, c, hc, rfl⟩
  | generateDataKeyBlocking client keyId keySpec =>
    obtain ⟨-, ⟨p, c, hp, hc⟩, text, ht⟩ := h
    obtain ⟨response, hresponse⟩ := sdk.answered (.generateDataKey c text keySpec)
    obtain ⟨plain, w₁, h₁⟩ := exists_fills w response.plaintext
    obtain ⟨encrypted, w₂, h₂⟩ := exists_fills w₁ response.ciphertext
    exact ⟨(response.rc, plain, encrypted), _, p, c, text, response, w₁, w₂, hp, hc, ht, hresponse,
      rfl, h₁, h₂, rfl⟩
  | decryptBlocking client keyId encryptionAlgorithm ciphertext context =>
    obtain ⟨-, ⟨p, c, hp, hc⟩, ⟨keyIdText, hk⟩, ⟨algorithmText, ha⟩, contextText, ht⟩ := h
    obtain ⟨response, hresponse⟩ :=
      sdk.answered (.decrypt c keyIdText algorithmText ciphertext contextText)
    obtain ⟨plain, w₁, h₁⟩ := exists_fills w response.plaintext
    exact ⟨(response.rc, plain), _, p, c, keyIdText, algorithmText, contextText,
      response, w₁, hp, hc, hk, ha, ht, hresponse, rfl, h₁, rfl⟩
  | cleanUp buffer =>
    obtain ⟨len, p, capacity⟩ := buffer
    cases p with
    | none => exact ⟨(), w, rfl⟩
    | some p =>
      obtain ⟨-, bytes, hb⟩ := h p rfl
      exact ⟨(), _, bytes, hb, rfl⟩
  | cleanUpSecure buffer =>
    obtain ⟨len, p, capacity⟩ := buffer
    cases p with
    | none => exact ⟨(), w, rfl⟩
    | some p =>
      obtain ⟨-, bytes, hb⟩ := h p rfl
      exact ⟨(), _, bytes, hb, rfl⟩
  | malloc size =>
    obtain ⟨block, w', hw'⟩ := exists_allocates sdk.Faulty w (.block (List.replicate size 0))
    exact ⟨block, w', _, List.length_replicate, hw'⟩
  | memcpy target source size =>
    obtain ⟨⟨p, old, hp, hold, -⟩, q, bytes, hq, hb, -⟩ := h
    exact ⟨(), _, p, old, q, bytes, hp, hold, hq, hb, rfl⟩
  | memset p value size =>
    obtain ⟨old, hold, -⟩ := h
    exact ⟨(), _, old, hold, rfl⟩
  | free p =>
    obtain ⟨bytes, hb⟩ := h
    exact ⟨(), _, bytes, hb, rfl⟩
  | read p size =>
    obtain ⟨bytes, hb, -⟩ := h
    exact ⟨_, w, bytes, hb, rfl, rfl⟩

/-- The world of the shim. -/
def shimWorld (sdk : Sdk) : World ShimOp.Ans ShimWorld where
  Legal := ShimOp.Legal
  Step := ShimOp.Step sdk
  answered := exists_step sdk _ _

/-! ## Every release is the only one -/

section Since

variable {sdk : Sdk} {w w' : ShimWorld}

/-- An allocation only adds to what has happened. -/
theorem Allocates.since {mayFail : Prop} {o : Object} {p : Option Address}
    (h : Allocates mayFail w o p w') : Since w.heap w'.heap := by
  cases h with
  | failed => exact .refl _
  | allocated p hp => exact since_acquire _ hp

/-- Filling a buffer only adds to what has happened. -/
theorem Fills.since {bytes : Bytes} {buffer : ByteBuf} (h : Fills w bytes buffer w') :
    Since w.heap w'.heap := by
  cases h with
  | untouched => exact .refl _
  | allocated p spare hp => exact since_acquire _ hp

/-- The ledger accounts for every operation. -/
theorem since_step (sdk : Sdk) (o : ShimOp) (w : ShimWorld) (a : o.Ans) (w' : ShimWorld)
    (h : o.Step sdk w a w') : Since w.heap w'.heap := by
  cases o with
  | libraryInit =>
    rw [show w' = w.libraryInit from h]
    exact .refl _
  | libraryCleanUp =>
    obtain ⟨_, rfl⟩ := h
    exact .refl _
  | seedEntropy n =>
    obtain ⟨-, rfl⟩ := h
    exact .refl _
  | getAllocator =>
    rw [show w' = w from h]
    exact .refl _
  | lastError =>
    rw [show w' = w from h]
    exact .refl _
  | errorDebugStr code =>
    rw [show w' = w from h]
    exact .refl _
  | stringNew allocator text => exact Allocates.since h
  | stringDestroy string =>
    cases string with
    | none =>
      rw [show w' = w from h]
      exact .refl _
    | some p =>
      obtain ⟨text, ht, rfl⟩ := h
      exact since_release ht _
  | credentialsNew allocator accessKeyId secretAccessKey sessionToken expiration =>
    exact Allocates.since h
  | credentialsRelease p =>
    obtain ⟨c, hc, rfl⟩ := h
    exact since_release hc _
  | clientNew configuration =>
    obtain ⟨_, _, _, _, _, _, _, _, hw'⟩ := h
    exact hw'.since
  | clientDestroy p =>
    obtain ⟨c, hc, rfl⟩ := h
    exact since_release hc _
  | generateDataKeyBlocking client keyId keySpec =>
    obtain ⟨rc, plain, encrypted⟩ := a
    obtain ⟨_, _, _, _, _, _, -, -, -, -, -, h₁, h₂, rfl⟩ := h
    exact h₁.since.trans h₂.since
  | decryptBlocking client keyId encryptionAlgorithm ciphertext context =>
    obtain ⟨rc, plain⟩ := a
    obtain ⟨_, _, _, _, _, _, _, -, -, -, -, -, -, -, h₁, rfl⟩ := h
    exact h₁.since
  | cleanUp buffer =>
    obtain ⟨len, p, capacity⟩ := buffer
    cases p with
    | none =>
      rw [show w' = w from h]
      exact .refl _
    | some p =>
      obtain ⟨bytes, hb, rfl⟩ := h
      exact since_release hb _
  | cleanUpSecure buffer =>
    obtain ⟨len, p, capacity⟩ := buffer
    cases p with
    | none =>
      rw [show w' = w from h]
      exact .refl _
    | some p =>
      obtain ⟨bytes, hb, rfl⟩ := h
      exact since_release hb _
  | malloc size =>
    obtain ⟨_, -, hw'⟩ := h
    exact hw'.since
  | memcpy target source size =>
    obtain ⟨_, _, _, _, -, hold, -, -, rfl⟩ := h
    exact since_write hold _
  | memset p value size =>
    obtain ⟨_, hold, rfl⟩ := h
    exact since_write hold _
  | free p =>
    obtain ⟨_, hb, rfl⟩ := h
    exact since_release hb _
  | read p size =>
    obtain ⟨_, -, -, rfl⟩ := h
    exact .refl _

end Since

end AwsKmsDemo
