import AwsKmsDemo.S3

/-!
# How often a request is sent

The executions of `load_s3_object` and `save_s3_object_if_absent`, exactly: at most three requests
that were not dispatched, then the request that decides.

`Decided` says what a series of attempts looks like, and `decided_cons` takes off the first one.
Each loop is unrolled by one attempt (`loadS3ObjectFrom_succ`, `saveS3ObjectIfAbsentFrom_succ`), and
by induction on the number of attempts that are left its executions are those with a series that is
`Decided` (`yields_loadS3ObjectFrom_iff`, `yields_saveS3ObjectIfAbsentFrom_iff`). For a write this
includes what follows it: if it was refused, the object is loaded and compared (`Concludes`,
`yields_compareExisting_iff`). `yields_loadS3Object_iff` and `yields_saveS3ObjectIfAbsent_iff` are
the results for the functions, whose own answers are `loadResult`, `putResult` and `existingResult`.
-/

namespace AwsKmsDemo

open Interaction Interaction.Program

variable {bucket key : String} {body : Bytes} {tr : List BrokerEvent}

/-! ## Attempts -/

/-- What `load_s3_object` makes of the answer to its last request. -/
def loadResult : Except SdkError (Except String Bytes) → AppResult (Option Bytes)
  | .ok (.ok body) => .ok (some body)
  | .ok (.error message) => .error (.err message)
  | .error ⟨.serviceError error, display, _⟩ =>
    if error.noSuchKey then .ok none else .error (.err display)
  | .error ⟨.dispatchFailure, display, _⟩ => .error (.err display)
  | .error ⟨.other, display, _⟩ => .error (.err display)

/-- What a request to write that was not refused for an existing object leads to. -/
def putResult (bucket key : String) : Except SdkError Unit → AppResult Unit
  | .ok () => .ok ()
  | .error ⟨.serviceError error, _, _⟩ =>
    let code := error.code.getD "unknown"
    let message := error.message.getD "unknown"
    .error (.err s!"conditional S3 write failed for s3://{bucket}/{key}: HTTP {error.status}, code={code}, message={message}")
  | .error ⟨.dispatchFailure, _, debug⟩ =>
    .error (.err s!"conditional S3 write failed for s3://{bucket}/{key}: {debug}")
  | .error ⟨.other, _, debug⟩ =>
    .error (.err s!"conditional S3 write failed for s3://{bucket}/{key}: {debug}")

/-- What a request to write leads to that was refused for an existing object, when that was read. -/
def existingResult (bucket key : String) (body : Bytes)
    (answer : Except SdkError (Except String Bytes)) : AppResult Unit := do
  let existing ← loadResult answer
  failIf (existing ≠ some body)
    (.err s!"conditional S3 write refused because s3://{bucket}/{key} already exists with different content (HTTP 412)")

/-- The request was not dispatched, as far as is known. -/
def DispatchFailed {α : Type} : Except SdkError α → Prop
  | .error ⟨.dispatchFailure, _, _⟩ => True
  | _ => False

/-- The write was refused because the object exists. -/
def Refused : Except SdkError Unit → Prop
  | .error ⟨.serviceError error, _, _⟩ => error.status = 412
  | _ => False

instance {α : Type} (answer : Except SdkError α) : Decidable (DispatchFailed answer) := by
  unfold DispatchFailed
  split <;> infer_instance

instance (answer : Except SdkError Unit) : Decidable (Refused answer) := by
  unfold Refused
  split <;> infer_instance

/-- Attempts of which all but the last failed to be dispatched, and the last one decided, unless it
was attempt `n + 1` already. -/
structure Decided {α : Type} (n : ℕ) (failed : List (Except SdkError α))
    (answer : Except SdkError α) : Prop where
  dispatch : ∀ a ∈ failed, DispatchFailed a
  few : failed.length ≤ n
  last : DispatchFailed answer → failed.length = n

/-- The first attempt decides if it was dispatched, or if there is no other. -/
theorem decided_nil {α : Type} {n : ℕ} {answer : Except SdkError α}
    (h : ¬ DispatchFailed answer ∨ n = 0) : Decided n [] answer where
  dispatch _ ha := absurd ha List.not_mem_nil
  few := Nat.zero_le _
  last hanswer := (h.resolve_left (not_not.mpr hanswer)).symm

/-- One more attempt before. -/
theorem decided_cons {α : Type} {n : ℕ} {a answer : Except SdkError α}
    {failed : List (Except SdkError α)} :
    Decided (n + 1) (a :: failed) answer ↔ DispatchFailed a ∧ Decided n failed answer := by
  constructor
  · intro h
    refine ⟨h.dispatch a List.mem_cons_self, fun b hb => h.dispatch b (List.mem_cons_of_mem _ hb),
      Nat.le_of_succ_le_succ h.few, fun hanswer => Nat.succ.inj (h.last hanswer)⟩
  · rintro ⟨ha, h⟩
    refine ⟨fun b hb => ?_, Nat.succ_le_succ h.few, fun hanswer =>
      congrArg (· + 1) (h.last hanswer)⟩
    rcases List.mem_cons.mp hb with rfl | hb
    · exact ha
    · exact h.dispatch b hb

/-- There are at most `n + 1` attempts. -/
theorem length_le_of_decided {α : Type} {n : ℕ} {failed : List (Except SdkError α)}
    {answer : Except SdkError α} (h : Decided n failed answer) :
    (failed ++ [answer]).length ≤ n + 1 := by
  rw [List.length_append, List.length_singleton]
  exact Nat.succ_le_succ h.few

/-! ## Loading -/

/-- Requests for an object with their answers. -/
def gets (bucket key : String) (answers : List (Except SdkError (Except String Bytes))) :
    List BrokerEvent :=
  answers.map fun answer => ⟨.getObject bucket key, answer⟩

/-- The last request for an object comes after the others. -/
theorem gets_concat (answers : List (Except SdkError (Except String Bytes)))
    (answer : Except SdkError (Except String Bytes)) :
    gets bucket key (answers ++ [answer]) =
      gets bucket key answers ++ [⟨.getObject bucket key, answer⟩] :=
  List.map_append

/-- One attempt of `load_s3_object`, when `n` more may follow. -/
theorem loadS3ObjectFrom_succ (n : ℕ) :
    loadS3ObjectFrom bucket key (List.range' (4 - n) (n + 1)) =
      .op (.getObject bucket key) fun answer =>
        if DispatchFailed answer ∧ 4 - n < 4 then
          loadS3ObjectFrom bucket key (List.range' (4 - n + 1) n)
        else Program.ofExcept (loadResult answer) := by
  show Program.op _ _ = _
  congr 1
  funext answer
  rcases answer with ⟨_ | error | _, display, debug⟩ | ⟨message | loaded⟩
  · show (if 4 - n < 4 then _ else _) = _
    by_cases hn : 4 - n < 4
    · rw [if_pos hn, if_pos ⟨trivial, hn⟩]
    · rw [if_neg hn, if_neg fun h => hn h.2]
      rfl
  · rw [if_neg fun h => h.1]
    show (if error.noSuchKey = true then _ else _) = Program.ofExcept (if _ then _ else _)
    split_ifs <;> rfl
  all_goals
    rw [if_neg fun h => h.1]
    rfl

/-- The executions of `load_s3_object` from an attempt on: attempts that were not dispatched, and
the one that decides. -/
theorem yields_loadS3ObjectFrom_iff {n : ℕ} (hn : n ≤ 3) {r : AppResult (Option Bytes)} :
    (loadS3ObjectFrom bucket key (List.range' (4 - n) (n + 1))).Yields tr r ↔
      ∃ failed answer, Decided n failed answer ∧ tr = gets bucket key (failed ++ [answer]) ∧
        r = loadResult answer := by
  -- By induction on the attempts that may still follow. In the last one every answer decides.
  induction n generalizing tr with
  | zero =>
    rw [loadS3ObjectFrom_succ, yields_op]
    constructor
    · rintro ⟨answer, tr', rfl, h⟩
      rw [if_neg fun h => absurd h.2 (by decide)] at h
      obtain ⟨rfl, rfl⟩ := yields_ofExcept.mp h
      exact ⟨[], answer, decided_nil (.inr rfl), rfl, rfl⟩
    · rintro ⟨failed, answer, hdecided, rfl, rfl⟩
      obtain rfl := List.eq_nil_of_length_eq_zero (Nat.le_zero.mp hdecided.few)
      refine ⟨answer, [], rfl, ?_⟩
      rw [if_neg fun h => absurd h.2 (by decide)]
      exact yields_ofExcept.mpr ⟨rfl, rfl⟩
  | succ n ih =>
    have hlt : 4 - (n + 1) < 4 := by omega
    have hnext : 4 - (n + 1) + 1 = 4 - n := by omega
    rw [loadS3ObjectFrom_succ, yields_op]
    constructor
    · rintro ⟨answer, tr', rfl, h⟩
      -- An attempt that was not dispatched is repeated, and any other decides.
      by_cases hfailed : DispatchFailed answer
      · rw [if_pos ⟨hfailed, hlt⟩, hnext] at h
        obtain ⟨failed, last, hdecided, rfl, rfl⟩ := (ih (by omega)).mp h
        exact ⟨answer :: failed, last, decided_cons.mpr ⟨hfailed, hdecided⟩, rfl, rfl⟩
      · rw [if_neg fun h => hfailed h.1] at h
        obtain ⟨rfl, rfl⟩ := yields_ofExcept.mp h
        exact ⟨[], answer, decided_nil (.inl hfailed), rfl, rfl⟩
    · rintro ⟨failed, last, hdecided, rfl, rfl⟩
      cases failed with
      | nil =>
        have hlast : ¬ DispatchFailed last := fun h => absurd (hdecided.last h) (by simp)
        refine ⟨last, [], rfl, ?_⟩
        rw [if_neg fun h => hlast h.1]
        exact yields_ofExcept.mpr ⟨rfl, rfl⟩
      | cons answer failed =>
        obtain ⟨hfailed, hdecided⟩ := decided_cons.mp hdecided
        refine ⟨answer, gets bucket key (failed ++ [last]), rfl, ?_⟩
        rw [if_pos ⟨hfailed, hlt⟩, hnext]
        exact (ih (by omega)).mpr ⟨failed, last, hdecided, rfl, rfl⟩

/-- The executions of `load_s3_object`. -/
theorem yields_loadS3Object_iff {r : AppResult (Option Bytes)} :
    (loadS3Object bucket key).Yields tr r ↔
      ∃ failed answer, Decided 3 failed answer ∧ tr = gets bucket key (failed ++ [answer]) ∧
        r = loadResult answer :=
  yields_loadS3ObjectFrom_iff (n := 3) le_rfl

/-! ## Saving -/

/-- Requests to write an object with their answers. -/
def puts (bucket key : String) (body : Bytes) (answers : List (Except SdkError Unit)) :
    List BrokerEvent :=
  answers.map fun answer => ⟨.putObject bucket key body, answer⟩

/-- The last request to save an object comes after the others. -/
theorem puts_concat (answers : List (Except SdkError Unit)) (answer : Except SdkError Unit) :
    puts bucket key body (answers ++ [answer]) =
      puts bucket key body answers ++ [⟨.putObject bucket key body, answer⟩] :=
  List.map_append

/-- The part of `save_s3_object_if_absent` after a write was refused. -/
def compareExisting (bucket key : String) (body : Bytes) : BrokerProgram Unit :=
  (loadS3Object bucket key).bind fun existing =>
    if existing = some body then .ret ()
    else .fail (.err s!"conditional S3 write refused because s3://{bucket}/{key} already exists with different content (HTTP 412)")

/-- One attempt of `save_s3_object_if_absent`, when `n` more may follow. -/
theorem saveS3ObjectIfAbsentFrom_succ (n : ℕ) :
    saveS3ObjectIfAbsentFrom bucket key body (List.range' (4 - n) (n + 1)) =
      .op (.putObject bucket key body) fun answer =>
        if DispatchFailed answer ∧ 4 - n < 4 then
          saveS3ObjectIfAbsentFrom bucket key body (List.range' (4 - n + 1) n)
        else if Refused answer then compareExisting bucket key body
        else Program.ofExcept (putResult bucket key answer) := by
  show Program.op _ _ = _
  congr 1
  funext answer
  rcases answer with ⟨_ | error | _, display, debug⟩ | _
  · show (if 4 - n < 4 then _ else _) = _
    by_cases hn : 4 - n < 4
    · rw [if_pos hn, if_pos ⟨trivial, hn⟩]
    · have hrefused : ¬ Refused (.error ⟨.dispatchFailure, display, debug⟩) := id
      rw [if_neg hn, if_neg fun h => hn h.2, if_neg hrefused]
      rfl
  · rw [if_neg fun h => h.1]
    show (if error.status = 412 then _ else _) = if error.status = 412 then _ else _
    split_ifs <;> rfl
  · have hrefused : ¬ Refused (.error ⟨.other, display, debug⟩) := id
    rw [if_neg fun h => h.1, if_neg hrefused]
    rfl
  · have hrefused : ¬ Refused (.ok ()) := id
    rw [if_neg fun h => h.1, if_neg hrefused]
    rfl

/-- What follows a write that was refused. -/
theorem yields_compareExisting_iff {r : AppResult Unit} :
    (compareExisting bucket key body).Yields tr r ↔
      ∃ failed answer, Decided 3 failed answer ∧ tr = gets bucket key (failed ++ [answer]) ∧
        r = existingResult bucket key body answer := by
  unfold compareExisting
  rw [yields_bind]
  constructor
  · rintro (⟨e, hload, rfl⟩ | ⟨tr₁, tr₂, existing, rfl, hload, hcheck⟩)
    · obtain ⟨failed, answer, hdecided, rfl, hresult⟩ := yields_loadS3Object_iff.mp hload
      refine ⟨failed, answer, hdecided, rfl, ?_⟩
      unfold existingResult
      rw [← hresult]
      rfl
    · obtain ⟨failed, answer, hdecided, rfl, hresult⟩ := yields_loadS3Object_iff.mp hload
      refine ⟨failed, answer, hdecided, ?_⟩
      unfold existingResult
      rw [← hresult]
      split_ifs at hcheck with hsame
      · obtain ⟨rfl, rfl⟩ := yields_ret.mp hcheck
        exact ⟨List.append_nil _, (failIf_of_not _ (not_not.mpr hsame)).symm⟩
      · obtain ⟨rfl, rfl⟩ := yields_fail.mp hcheck
        exact ⟨List.append_nil _, (failIf_of _ hsame).symm⟩
  · rintro ⟨failed, answer, hdecided, rfl, rfl⟩
    have hload : (loadS3Object bucket key).Yields (gets bucket key (failed ++ [answer]))
        (loadResult answer) :=
      yields_loadS3Object_iff.mpr ⟨failed, answer, hdecided, rfl, rfl⟩
    unfold existingResult
    cases hresult : loadResult answer with
    | error e =>
      rw [hresult] at hload
      exact .inl ⟨e, hload, rfl⟩
    | ok existing =>
      rw [hresult] at hload
      refine .inr ⟨_, [], existing, (List.append_nil _).symm, hload, ?_⟩
      by_cases hsame : existing = some body
      · rw [if_pos hsame]
        exact yields_ret.mpr ⟨rfl, failIf_of_not _ (not_not.mpr hsame)⟩
      · rw [if_neg hsame]
        exact yields_fail.mpr ⟨rfl, failIf_of _ hsame⟩

/-- What follows the write that decided: the object is read if the write was refused. -/
def Concludes (bucket key : String) (body : Bytes) (answer : Except SdkError Unit)
    (tr : List BrokerEvent) (r : AppResult Unit) : Prop :=
  if Refused answer then
    ∃ failed found, Decided 3 failed found ∧ tr = gets bucket key (failed ++ [found]) ∧
      r = existingResult bucket key body found
  else tr = [] ∧ r = putResult bucket key answer

/-- The executions of `save_s3_object_if_absent` from an attempt on: attempts that were not
dispatched, the one that decides, and what follows it. -/
theorem yields_saveS3ObjectIfAbsentFrom_iff {n : ℕ} (hn : n ≤ 3) {r : AppResult Unit} :
    (saveS3ObjectIfAbsentFrom bucket key body (List.range' (4 - n) (n + 1))).Yields tr r ↔
      ∃ failed answer tr', Decided n failed answer ∧
        tr = puts bucket key body (failed ++ [answer]) ++ tr' ∧
        Concludes bucket key body answer tr' r := by
  have hconclude : ∀ {answer : Except SdkError Unit} {tr'' : List BrokerEvent},
      (if Refused answer then compareExisting bucket key body
        else Program.ofExcept (putResult bucket key answer)).Yields tr'' r ↔
      Concludes bucket key body answer tr'' r := by
    intro answer tr''
    unfold Concludes
    split_ifs
    · exact yields_compareExisting_iff
    · exact yields_ofExcept
  -- By induction on the attempts that may still follow, as for a load.
  induction n generalizing tr with
  | zero =>
    rw [saveS3ObjectIfAbsentFrom_succ, yields_op]
    constructor
    · rintro ⟨answer, tr', rfl, h⟩
      rw [if_neg fun h => absurd h.2 (by decide)] at h
      exact ⟨[], answer, tr', decided_nil (.inr rfl), rfl, hconclude.mp h⟩
    · rintro ⟨failed, answer, tr', hdecided, rfl, h⟩
      obtain rfl := List.eq_nil_of_length_eq_zero (Nat.le_zero.mp hdecided.few)
      refine ⟨answer, tr', rfl, ?_⟩
      rw [if_neg fun h => absurd h.2 (by decide)]
      exact hconclude.mpr h
  | succ n ih =>
    have hlt : 4 - (n + 1) < 4 := by omega
    have hnext : 4 - (n + 1) + 1 = 4 - n := by omega
    rw [saveS3ObjectIfAbsentFrom_succ, yields_op]
    constructor
    · rintro ⟨answer, tr', rfl, h⟩
      by_cases hfailed : DispatchFailed answer
      · rw [if_pos ⟨hfailed, hlt⟩, hnext] at h
        obtain ⟨failed, last, tr', hdecided, rfl, hconcludes⟩ := (ih (by omega)).mp h
        exact ⟨answer :: failed, last, tr', decided_cons.mpr ⟨hfailed, hdecided⟩, rfl, hconcludes⟩
      · rw [if_neg fun h => hfailed h.1] at h
        exact ⟨[], answer, tr', decided_nil (.inl hfailed), rfl, hconclude.mp h⟩
    · rintro ⟨failed, last, tr', hdecided, rfl, h⟩
      cases failed with
      | nil =>
        have hlast : ¬ DispatchFailed last := fun h => absurd (hdecided.last h) (by simp)
        refine ⟨last, tr', rfl, ?_⟩
        rw [if_neg fun h => hlast h.1]
        exact hconclude.mpr h
      | cons answer failed =>
        obtain ⟨hfailed, hdecided⟩ := decided_cons.mp hdecided
        refine ⟨answer, puts bucket key body (failed ++ [last]) ++ tr', rfl, ?_⟩
        rw [if_pos ⟨hfailed, hlt⟩, hnext]
        exact (ih (by omega)).mpr ⟨failed, last, tr', hdecided, rfl, h⟩

/-- The executions of `save_s3_object_if_absent`. -/
theorem yields_saveS3ObjectIfAbsent_iff {r : AppResult Unit} :
    (saveS3ObjectIfAbsent bucket key body).Yields tr r ↔
      ∃ failed answer tr', Decided 3 failed answer ∧
        tr = puts bucket key body (failed ++ [answer]) ++ tr' ∧
        Concludes bucket key body answer tr' r :=
  yields_saveS3ObjectIfAbsentFrom_iff (n := 3) le_rfl

/-! ## Neither loop panics -/

/-- Reading the answer to a load does not panic. -/
theorem noPanic_loadResult {answer : Except SdkError (Except String Bytes)} :
    NoPanic (loadResult answer) := by
  rcases answer with ⟨_ | error | _, display, debug⟩ | ⟨message | loaded⟩
  · exact noPanic_err
  · unfold loadResult
    dsimp only
    split_ifs
    · exact noPanic_ok
    · exact noPanic_err
  · exact noPanic_err
  · exact noPanic_err
  · exact noPanic_ok

/-- Reading the answer to a save does not panic. -/
theorem noPanic_putResult {answer : Except SdkError Unit} :
    NoPanic (putResult bucket key answer) := by
  rcases answer with ⟨_ | error | _, display, debug⟩ | _
  · exact noPanic_err
  · exact noPanic_err
  · exact noPanic_err
  · exact noPanic_ok

/-- Comparing the object that is there already does not panic. -/
theorem noPanic_existingResult {answer : Except SdkError (Except String Bytes)} :
    NoPanic (existingResult bucket key body answer) :=
  noPanic_loadResult.bind fun _ => noPanic_failIf

/-- `load_s3_object` does not reach its `unreachable!`. -/
theorem failsOnly_loadS3Object : (loadS3Object bucket key).FailsOnly AppError.IsErr := by
  refine failsOnly_of_yields fun tr e h => ?_
  obtain ⟨_, answer, _, _, hresult⟩ := yields_loadS3Object_iff.mp h
  exact noPanic_loadResult e hresult.symm

/-- `save_s3_object_if_absent` does not reach its `unreachable!`. -/
theorem failsOnly_saveS3ObjectIfAbsent :
    (saveS3ObjectIfAbsent bucket key body).FailsOnly AppError.IsErr := by
  refine failsOnly_of_yields fun tr e h => ?_
  obtain ⟨_, answer, _, _, _, hconcludes⟩ := yields_saveS3ObjectIfAbsent_iff.mp h
  unfold Concludes at hconcludes
  split_ifs at hconcludes
  · obtain ⟨_, _, _, _, hresult⟩ := hconcludes
    exact noPanic_existingResult e hresult.symm
  · exact noPanic_putResult e hconcludes.2.symm

end AwsKmsDemo
