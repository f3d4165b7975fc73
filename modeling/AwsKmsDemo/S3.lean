import AwsKmsDemo.Types

/-!
# Objects in S3, as the broker reads and writes them

`load_s3_object` and `save_s3_object_if_absent` of `src/key_material.rs`, as programs over the
operations of the broker process. Each retries a request that was not dispatched, up to four
attempts in all. The pauses between attempts are left out. The retry loops are recursions over the
attempts that are left, and a loop that runs out of attempts panics, as the `unreachable!` after it
does.
-/

namespace AwsKmsDemo

open Interaction Interaction.Program

/-! ## What the broker process asks of its surroundings -/

/-- What the service says when it refuses a request. -/
structure ServiceError where
  /-- The HTTP status. -/
  status : ℕ
  /-- Whether the error is `NoSuchKey`. -/
  noSuchKey : Bool
  /-- The error code, if there is one. -/
  code : Option String
  /-- The error message, if there is one. -/
  message : Option String
  deriving DecidableEq

/-- The kinds of `SdkError` that the program tells apart. -/
inductive SdkErrorKind where
  /-- `DispatchFailure`: the request may or may not have reached the service. -/
  | dispatchFailure
  /-- `ServiceError`: the service answered. -/
  | serviceError (error : ServiceError)
  /-- Every other kind. -/
  | other
  deriving DecidableEq

/-- An `SdkError`, with its texts under `{}` and under `{:?}`. -/
structure SdkError where
  kind : SdkErrorKind
  display : String
  debug : String
  deriving DecidableEq

/-- `Credentials` of the AWS SDK. The expiry is in nanoseconds since the Unix epoch. -/
structure Credentials where
  accessKeyId : String
  secretAccessKey : String
  sessionToken : Option String
  expiry : Option ℤ
  deriving DecidableEq

/-- The operations of the broker process on one connection. -/
inductive BrokerOp where
  /-- Build the runtime in which a request is handled. -/
  | buildRuntime
  /-- `provide_credentials` of the default credential chain. -/
  | defaultCredentials
  /-- `GetObject`, and collecting the body of its output. -/
  | getObject (bucket key : String)
  /-- `PutObject` with `If-None-Match: *`. -/
  | putObject (bucket key : String) (body : Bytes)
  deriving DecidableEq

/-- The answers to the broker's operations. Every call of the AWS SDK is taken to come back, with a
result or an error: that the SDK may panic instead, as on credentials that are no value of an HTTP
header, is left out. -/
abbrev BrokerOp.Ans : BrokerOp → Type
  | .buildRuntime => Except String Unit
  | .defaultCredentials => Except String Credentials
  | .getObject _ _ => Except SdkError (Except String Bytes)
  | .putObject _ _ _ => Except SdkError Unit

/-- Programs of the broker process. -/
abbrev BrokerProgram := Program BrokerOp.Ans AppError

/-- One operation of the broker process with its answer. -/
abbrev BrokerEvent := Event BrokerOp.Ans

/-- One `GetObject` request. -/
def getObject (bucket key : String) : BrokerProgram (Except SdkError (Except String Bytes)) :=
  perform (BrokerOp.getObject bucket key)

/-- One `PutObject` request with `If-None-Match: *`. -/
def putObject (bucket key : String) (body : Bytes) : BrokerProgram (Except SdkError Unit) :=
  perform (BrokerOp.putObject bucket key body)

/-- Every operation has an answer. -/
theorem BrokerOp.nonempty_ans (o : BrokerOp) : Nonempty o.Ans := by
  cases o
  · exact ⟨.error ""⟩
  · exact ⟨.error ""⟩
  · exact ⟨.error ⟨.other, "", ""⟩⟩
  · exact ⟨.error ⟨.other, "", ""⟩⟩

/-- Every execution of a broker's program can be brought to an end. -/
theorem exists_yields {α : Type} (p : BrokerProgram α) : ∃ tr r, p.Yields tr r := by
  induction p with
  | ret a => exact ⟨[], .ok a, .refl _⟩
  | fail e => exact ⟨[], .error e, .refl _⟩
  | op o k ih =>
    obtain ⟨a⟩ := o.nonempty_ans
    obtain ⟨tr, r, h⟩ := ih a
    exact ⟨⟨o, a⟩ :: tr, r, .step h⟩

/-! ## Loading and saving -/

/-- `S3_OPERATION_MAX_ATTEMPTS` -/
def s3OperationMaxAttempts : ℕ := 4

/-- `1..=S3_OPERATION_MAX_ATTEMPTS` -/
def s3Attempts : List ℕ := List.range' 1 s3OperationMaxAttempts

/-- The loop of `load_s3_object`, over the attempts that are left. -/
def loadS3ObjectFrom (bucket key : String) : List ℕ → BrokerProgram (Option Bytes)
  | [] => throw (.panic "internal error: entered unreachable code: S3 GetObject retry loop always returns")
  | attempt :: attempts => do
    match ← getObject bucket key with
    | .ok (.ok body) => return some body
    | .ok (.error message) => throw (.err message)
    | .error ⟨.serviceError error, display, _⟩ =>
      if error.noSuchKey then return none else throw (.err display)
    | .error ⟨.dispatchFailure, display, _⟩ =>
      if attempt < s3OperationMaxAttempts then loadS3ObjectFrom bucket key attempts
      else throw (.err display)
    | .error ⟨.other, display, _⟩ => throw (.err display)

/-- `load_s3_object` -/
def loadS3Object (bucket key : String) : BrokerProgram (Option Bytes) :=
  loadS3ObjectFrom bucket key s3Attempts

/-- The loop of `save_s3_object_if_absent`, over the attempts that are left. -/
def saveS3ObjectIfAbsentFrom (bucket key : String) (expectedBody : Bytes) :
    List ℕ → BrokerProgram Unit
  | [] => throw (.panic "internal error: entered unreachable code: S3 PutObject retry loop always returns")
  | attempt :: attempts => do
    match ← putObject bucket key expectedBody with
    | .ok () => return
    | .error ⟨.serviceError error, _, _⟩ =>
      if error.status = 412 then
        let existing ← loadS3Object bucket key
        if existing = some expectedBody then return
        throw (.err s!"conditional S3 write refused because s3://{bucket}/{key} already exists with different content (HTTP 412)")
      else
        let code := error.code.getD "unknown"
        let message := error.message.getD "unknown"
        throw (.err s!"conditional S3 write failed for s3://{bucket}/{key}: HTTP {error.status}, code={code}, message={message}")
    | .error ⟨.dispatchFailure, _, debug⟩ =>
      if attempt < s3OperationMaxAttempts then
        saveS3ObjectIfAbsentFrom bucket key expectedBody attempts
      else throw (.err s!"conditional S3 write failed for s3://{bucket}/{key}: {debug}")
    | .error ⟨.other, _, debug⟩ =>
      throw (.err s!"conditional S3 write failed for s3://{bucket}/{key}: {debug}")

/-- `save_s3_object_if_absent` -/
def saveS3ObjectIfAbsent (bucket key : String) (body : Bytes) : BrokerProgram Unit :=
  saveS3ObjectIfAbsentFrom bucket key body s3Attempts

/-! ## What the loops do -/

variable {bucket key : String} {body : Bytes} {tr : List BrokerEvent}

/-- A load requests its object, and does nothing else. -/
theorem uses_loadS3ObjectFrom (attempts : List ℕ) :
    (loadS3ObjectFrom bucket key attempts).Uses (· = .getObject bucket key) := by
  induction attempts with
  | nil => trivial
  | cons attempt attempts ih =>
    refine ⟨rfl, fun answer => ?_⟩
    rcases answer with ⟨_ | error | _, display, debug⟩ | ⟨message | body⟩
    · dsimp only [ret_bind]
      split_ifs
      · exact ih
      · trivial
    · dsimp only [ret_bind]
      split_ifs <;> trivial
    all_goals trivial

/-- Loading only ever requests its object. -/
theorem uses_loadS3Object : (loadS3Object bucket key).Uses (· = .getObject bucket key) :=
  uses_loadS3ObjectFrom s3Attempts

/-- A load that returns a body got it from S3. -/
theorem mem_of_yields_loadS3ObjectFrom {attempts : List ℕ}
    (h : (loadS3ObjectFrom bucket key attempts).Yields tr (.ok (some body))) :
    (⟨.getObject bucket key, .ok (.ok body)⟩ : BrokerEvent) ∈ tr := by
  induction attempts generalizing tr with
  | nil => simp [loadS3ObjectFrom] at h
  | cons attempt attempts ih =>
    obtain ⟨answer, tr', rfl, hrest⟩ := yields_op.mp h
    rcases answer with ⟨_ | error | _, display, debug⟩ | ⟨message | body'⟩
    · dsimp only [ret_bind] at hrest
      split_ifs at hrest
      · exact List.mem_cons_of_mem _ (ih hrest)
      · simp at hrest
    · dsimp only [ret_bind] at hrest
      split_ifs at hrest <;> simp at hrest
    · simp at hrest
    · simp at hrest
    · obtain ⟨rfl, hbody⟩ := yields_ret_ok.mp hrest
      injection hbody with hbody
      rw [hbody]
      exact List.mem_cons_self

/-- A body that was loaded is one that a request for the object returned. -/
theorem mem_of_yields_loadS3Object (h : (loadS3Object bucket key).Yields tr (.ok (some body))) :
    (⟨.getObject bucket key, .ok (.ok body)⟩ : BrokerEvent) ∈ tr :=
  mem_of_yields_loadS3ObjectFrom h

/-- A save writes and reads its object, and does nothing else. -/
theorem uses_saveS3ObjectIfAbsentFrom (attempts : List ℕ) :
    (saveS3ObjectIfAbsentFrom bucket key body attempts).Uses
      fun o => o = .putObject bucket key body ∨ o = .getObject bucket key := by
  induction attempts with
  | nil => trivial
  | cons attempt attempts ih =>
    refine ⟨.inl rfl, fun answer => ?_⟩
    rcases answer with ⟨_ | error | _, display, debug⟩ | done
    · dsimp only [ret_bind]
      split_ifs
      · exact ih
      · trivial
    · dsimp only [ret_bind]
      split_ifs
      · refine Uses.bind (uses_loadS3Object.mono fun o ho => .inr ho) fun existing => ?_
        split_ifs <;> trivial
      · trivial
    all_goals trivial

/-- Saving only ever requests to write the body to the object, and to read it. -/
theorem uses_saveS3ObjectIfAbsent : (saveS3ObjectIfAbsent bucket key body).Uses
    fun o => o = .putObject bucket key body ∨ o = .getObject bucket key :=
  uses_saveS3ObjectIfAbsentFrom s3Attempts

/-- After a save that succeeds, S3 has accepted the body or had it already. -/
theorem mem_of_yields_saveS3ObjectIfAbsentFrom {attempts : List ℕ}
    (h : (saveS3ObjectIfAbsentFrom bucket key body attempts).Yields tr (.ok ())) :
    (⟨.putObject bucket key body, .ok ()⟩ : BrokerEvent) ∈ tr ∨
      (⟨.getObject bucket key, .ok (.ok body)⟩ : BrokerEvent) ∈ tr := by
  induction attempts generalizing tr with
  | nil => simp [saveS3ObjectIfAbsentFrom] at h
  | cons attempt attempts ih =>
    obtain ⟨answer, tr', rfl, hrest⟩ := yields_op.mp h
    rcases answer with ⟨_ | error | _, display, debug⟩ | done
    · dsimp only [ret_bind] at hrest
      split_ifs at hrest
      · rcases ih hrest with hput | hget
        · exact .inl (List.mem_cons_of_mem _ hput)
        · exact .inr (List.mem_cons_of_mem _ hget)
      · simp at hrest
    · dsimp only [ret_bind] at hrest
      split_ifs at hrest with hstatus
      · -- A refused write counts as done only if the object was then found with the same body.
        obtain ⟨tr₁, tr₂, existing, rfl, hload, hrest⟩ := yields_bind_ok.mp hrest
        split_ifs at hrest with hsame
        · subst hsame
          have hmem := mem_of_yields_loadS3Object hload
          exact .inr (List.mem_cons_of_mem _ (List.mem_append_left _ hmem))
        · simp at hrest
      · simp at hrest
    · simp at hrest
    · exact .inl List.mem_cons_self

/-- After a save that succeeded, either a request to write the body did, or a request for the object
returned the same body. -/
theorem mem_of_yields_saveS3ObjectIfAbsent
    (h : (saveS3ObjectIfAbsent bucket key body).Yields tr (.ok ())) :
    (⟨.putObject bucket key body, .ok ()⟩ : BrokerEvent) ∈ tr ∨
      (⟨.getObject bucket key, .ok (.ok body)⟩ : BrokerEvent) ∈ tr :=
  mem_of_yields_saveS3ObjectIfAbsentFrom h

end AwsKmsDemo
