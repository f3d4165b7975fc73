import AwsKmsDemo.BrokerRuns
import AwsKmsDemo.Retries

/-!
# Saving an object while others write

`save_s3_object_if_absent` against an S3 store that others write to between its requests, and whose
answers may be lost. What it reports is true of the store, it changes no object, and it succeeds
when nothing but lost answers gets in its way.
-/

namespace AwsKmsDemo

open Interaction Interaction.Program Storage

variable {bucket key : String} {body : Bytes} {tr : List BrokerEvent} {store store' : S3Store}

/-! ## Requests between other writes -/

/-- Requests are answered by a store, and before, between and after them objects are written to it
on condition that they are absent. `allowed` are the outcomes that requests may have, and `writes`
are the other writes that may happen. A request to write that failed takes effect as one of these,
or not at all. -/
inductive Interleaved (allowed : Choice → Prop) (writes : String × String → Bytes → Prop) :
    S3Store → List BrokerEvent → S3Store → Prop where
  | done (store : S3Store) : Interleaved allowed writes store [] store
  | write {store store' : S3Store} {tr : List BrokerEvent} (name : String × String)
      (written : Bytes) (hwrites : writes name written)
      (h : Interleaved allowed writes (store.putIfAbsent name written) tr store') :
      Interleaved allowed writes store tr store'
  | event {store store' : S3Store} {tr : List BrokerEvent} {o : BrokerOp} {a : o.Ans}
      (choice : Choice) (hchoice : allowed choice) (ha : answer store o choice = some a)
      (h : Interleaved allowed writes (effect store o choice) tr store') :
      Interleaved allowed writes store (⟨o, a⟩ :: tr) store'

namespace Interleaved

variable {allowed : Choice → Prop} {writes : String × String → Bytes → Prop}

/-- Objects are only added. -/
theorem le (h : Interleaved allowed writes store tr store') : store ≤ store' := by
  induction h with
  | done => exact le_rfl
  | write name written _ _ ih => exact le_trans (Store.le_putIfAbsent _ name written) ih
  | event choice _ _ _ ih => exact le_trans (le_effect _ _ choice) ih

/-- What the answers say is true in the end. -/
theorem holds (h : Interleaved allowed writes store tr store') : ∀ e ∈ tr, Holds store' e := by
  induction h with
  | done => exact fun e he => absurd he List.not_mem_nil
  | write _ _ _ _ ih => exact ih
  | event choice _ ha h ih =>
    intro e he
    rcases List.mem_cons.mp he with rfl | he
    · exact (holds_of_answer ha).mono h.le
    · exact ih e he

/-- The first request is served by a store of which everything holds that the other writes keep. -/
theorem cons {e : BrokerEvent} (h : Interleaved allowed writes store (e :: tr) store')
    {P : S3Store → Prop} (hP : P store)
    (hwrites : ∀ s name written, writes name written → P s → P (s.putIfAbsent name written)) :
    ∃ s choice, P s ∧ allowed choice ∧ answer s e.op choice = some e.ans ∧
      Interleaved allowed writes (effect s e.op choice) tr store' := by
  generalize hevents : e :: tr = events at h
  induction h with
  | done => cases hevents
  | write name written hwrite _ ih => exact ih (hwrites _ _ _ hwrite hP) hevents
  | @event s s' tr' o a choice hchoice ha h _ =>
    obtain ⟨rfl, rfl⟩ := List.cons.inj hevents
    exact ⟨s, choice, hP, hchoice, ha, h⟩

/-- What the other writes and the requests keep holds after any number of requests. -/
theorem append {tr₁ tr₂ : List BrokerEvent}
    (h : Interleaved allowed writes store (tr₁ ++ tr₂) store') {P : S3Store → Prop} (hP : P store)
    (hwrites : ∀ s name written, writes name written → P s → P (s.putIfAbsent name written))
    (heffect : ∀ s, ∀ e ∈ tr₁, ∀ choice, P s → P (effect s e.op choice)) :
    ∃ s, P s ∧ Interleaved allowed writes s tr₂ store' := by
  induction tr₁ generalizing store with
  | nil => exact ⟨store, hP, h⟩
  | cons e tr₁ ih =>
    obtain ⟨s, choice, hs, _, _, hrest⟩ := h.cons hP hwrites
    exact ih hrest (heffect s e List.mem_cons_self choice hs)
      fun s e' he' => heffect s e' (List.mem_cons_of_mem _ he')

end Interleaved

/-! ## Free to be saved -/

/-- There is no object with the name, or it has the body already. -/
def Free (bucket key : String) (body : Bytes) (store : S3Store) : Prop :=
  store.object (bucket, key) = none ∨ store.object (bucket, key) = some body

/-- Nobody else writes the object: a write to it is a request of the saver that comes late. -/
def OwnOnly (bucket key : String) (body : Bytes) (name : String × String)
    (written : Bytes) : Prop :=
  name = (bucket, key) → written = body

/-- A write that nobody else makes leaves the name free. -/
theorem Free.putIfAbsent {name : String × String} {written : Bytes} (h : Free bucket key body store)
    (hown : OwnOnly bucket key body name written) :
    Free bucket key body (store.putIfAbsent name written) := by
  by_cases hname : (bucket, key) = name
  · subst hname
    rcases h with h | h
    · rw [hown rfl]
      exact .inr (Store.object_putIfAbsent_of_none body h)
    · exact .inr (Store.object_of_le (store.le_putIfAbsent _ _) h)
  · unfold Free
    rwa [Store.object_putIfAbsent_of_ne store written hname]

/-- The own save leaves the name free. -/
theorem Free.effect_put (h : Free bucket key body store) (choice : Choice) :
    Free bucket key body (effect store (.putObject bucket key body) choice) := by
  cases choice with
  | served => exact h.putIfAbsent fun _ => rfl
  | _ => exact h

/-- The outcomes in which a request is served, or not dispatched. -/
def Choice.ServedOrLost : Choice → Prop
  | .served => True
  | .failed error => error.kind = .dispatchFailure
  | _ => False

/-- No answer came to a request. -/
def Lost : BrokerEvent → Prop
  | ⟨.getObject _ _, answer⟩ => DispatchFailed answer
  | ⟨.putObject _ _ _, answer⟩ => DispatchFailed answer
  | _ => False

instance (e : BrokerEvent) : Decidable (Lost e) := by
  unfold Lost
  split <;> infer_instance

/-- The number of requests `o` to which no answer came. -/
def lost (tr : List BrokerEvent) (o : BrokerOp) : ℕ :=
  tr.countP fun e => decide (e.op = o ∧ Lost e)

/-- The lost requests of two parts of a trace are counted part by part. -/
theorem lost_append (tr₁ tr₂ : List BrokerEvent) (o : BrokerOp) :
    lost (tr₁ ++ tr₂) o = lost tr₁ o + lost tr₂ o :=
  List.countP_append

/-- All of the requests that failed to be dispatched were lost. -/
theorem lost_gets {answers : List (Except SdkError (Except String Bytes))}
    (h : ∀ a ∈ answers, DispatchFailed a) :
    lost (gets bucket key answers) (.getObject bucket key) = answers.length := by
  unfold lost gets
  rw [List.countP_map, List.countP_eq_length]
  exact fun a ha => decide_eq_true ⟨rfl, h a ha⟩

/-- All of the saves that failed to be dispatched were lost. -/
theorem lost_puts {answers : List (Except SdkError Unit)} (h : ∀ a ∈ answers, DispatchFailed a) :
    lost (puts bucket key body answers) (.putObject bucket key body) = answers.length := by
  unfold lost puts
  rw [List.countP_map, List.countP_eq_length]
  exact fun a ha => decide_eq_true ⟨rfl, h a ha⟩

/-- If at most `n` answers did not come, the deciding one did. -/
theorem Decided.answered {α : Type} {n count : ℕ} {failed : List (Except SdkError α)}
    {answer : Except SdkError α} (h : Decided n failed answer) (hcount : count ≤ n)
    (hlost : DispatchFailed answer → (failed ++ [answer]).length ≤ count) :
    ¬ DispatchFailed answer := by
  intro hanswer
  have hlength := hlost hanswer
  rw [List.length_append, h.last hanswer, List.length_singleton] at hlength
  omega

/-! ## Saving in the absence of others -/

/-- Loading finds the object that is there, unless too many answers are lost. -/
theorem loadResult_of_present {failed : List (Except SdkError (Except String Bytes))}
    {answer : Except SdkError (Except String Bytes)} (hdecided : Decided 3 failed answer)
    (hobject : store.object (bucket, key) = some body)
    (h : Interleaved Choice.ServedOrLost (OwnOnly bucket key body) store
      (gets bucket key (failed ++ [answer])) store')
    (hlost : lost (gets bucket key (failed ++ [answer])) (.getObject bucket key) ≤ 3) :
    loadResult answer = .ok (some body) := by
  have hanswered : ¬ DispatchFailed answer := by
    refine hdecided.answered hlost fun hanswer => ?_
    rw [lost_gets]
    intro a ha
    rcases List.mem_append.mp ha with ha | ha
    · exact hdecided.dispatch a ha
    · rw [List.mem_singleton.mp ha]
      exact hanswer
  rw [gets_concat] at h
  have hkeep : ∀ (s : S3Store) name written, OwnOnly bucket key body name written →
      s.object (bucket, key) = some body →
      (s.putIfAbsent name written).object (bucket, key) = some body :=
    fun s name written _ hs => Store.object_of_le (s.le_putIfAbsent name written) hs
  -- The object stays until the last request, and that one was served.
  obtain ⟨s, hs, hlast⟩ := h.append hobject hkeep
    fun s e _ choice hs => Store.object_of_le (le_effect s e.op choice) hs
  obtain ⟨s', choice, hs', hchoice, hserved, _⟩ := hlast.cons hs hkeep
  change getAnswer (s'.object (bucket, key)) choice = some answer at hserved
  rw [hs'] at hserved
  cases choice with
  | served =>
    rw [← Option.some.inj hserved]
    rfl
  | failed error =>
    rw [← Option.some.inj hserved] at hanswered
    obtain ⟨kind, display, debug⟩ := error
    obtain rfl : kind = .dispatchFailure := hchoice
    exact absurd trivial hanswered
  | unreadable message => exact hchoice.elim
  | _ => cases hserved

/-- Saving succeeds if nobody else writes the object, unless too many answers are lost. -/
theorem yields_save_of_free {r : AppResult Unit} (hfree : Free bucket key body store)
    (hsave : (saveS3ObjectIfAbsent bucket key body).Yields tr r)
    (h : Interleaved Choice.ServedOrLost (OwnOnly bucket key body) store tr store')
    (hput : lost tr (.putObject bucket key body) ≤ 3) (hget : lost tr (.getObject bucket key) ≤ 3) :
    r = .ok () := by
  obtain ⟨failed, answer, tr', hdecided, rfl, hconcludes⟩ :=
    yields_saveS3ObjectIfAbsent_iff.mp hsave
  rw [lost_append] at hput hget
  have hanswered : ¬ DispatchFailed answer := by
    refine hdecided.answered (Nat.le_trans (Nat.le_add_right _ _) hput) fun hanswer => ?_
    rw [lost_puts]
    intro a ha
    rcases List.mem_append.mp ha with ha | ha
    · exact hdecided.dispatch a ha
    · rw [List.mem_singleton.mp ha]
      exact hanswer
  rw [puts_concat, List.append_assoc] at h
  have hkeep : ∀ s name written, OwnOnly bucket key body name written → Free bucket key body s →
      Free bucket key body (s.putIfAbsent name written) :=
    fun s name written hown hs => hs.putIfAbsent hown
  -- Until the last request to write, the object is absent or has the body.
  obtain ⟨s, hs, hlast⟩ := h.append hfree hkeep fun s e he choice hs => by
    obtain ⟨a, _, rfl⟩ := List.mem_map.mp he
    exact hs.effect_put choice
  obtain ⟨s', choice, hs', hchoice, hserved, hrest⟩ := hlast.cons hs hkeep
  change putAnswer (s'.object (bucket, key)) choice = some answer at hserved
  cases choice with
  | served =>
    rcases hs' with hs' | hs'
    · -- The object was absent, and was written.
      rw [hs'] at hserved
      obtain rfl := Option.some.inj hserved
      exact hconcludes.2
    · -- The object was there already, with the same body, and is read.
      rw [hs'] at hserved
      obtain rfl := Option.some.inj hserved
      obtain ⟨failed', found, hdecided', rfl, rfl⟩ := hconcludes
      have hpresent := Store.object_of_le (le_effect s' (.putObject bucket key body) .served) hs'
      have hload := loadResult_of_present hdecided' hpresent hrest
        (Nat.le_trans (Nat.le_add_left _ _) hget)
      unfold existingResult
      rw [hload]
      exact failIf_of_not _ (not_not.mpr rfl)
  | failed error =>
    rw [← Option.some.inj hserved] at hanswered
    obtain ⟨kind, display, debug⟩ := error
    obtain rfl : kind = .dispatchFailure := hchoice
    exact absurd trivial hanswered
  | _ => cases hserved

/-! ## The number of requests -/

/-- Requests for an object are no saves. -/
theorem count_put_gets (answers : List (Except SdkError (Except String Bytes))) :
    ((gets bucket key answers).map Event.op).count (.putObject bucket key body) = 0 := by
  rw [List.count_eq_zero]
  intro hmem
  obtain ⟨e, he, hop⟩ := List.mem_map.mp hmem
  obtain ⟨a, _, rfl⟩ := List.mem_map.mp he
  cases hop

/-- A save sends at most four requests to write, and at most eight requests in all. -/
theorem requests_of_yields {r : AppResult Unit}
    (h : (saveS3ObjectIfAbsent bucket key body).Yields tr r) :
    (tr.map Event.op).count (.putObject bucket key body) ≤ 4 ∧ tr.length ≤ 8 := by
  obtain ⟨failed, answer, tr', hdecided, rfl, hconcludes⟩ := yields_saveS3ObjectIfAbsent_iff.mp h
  have hputs : (puts bucket key body (failed ++ [answer])).length ≤ 4 := by
    unfold puts
    rw [List.length_map]
    exact length_le_of_decided hdecided
  have hcount := List.count_le_length
    (l := (puts bucket key body (failed ++ [answer])).map Event.op)
      (a := .putObject bucket key body)
  rw [List.length_map] at hcount
  have hrest : (tr'.map Event.op).count (.putObject bucket key body) = 0 ∧ tr'.length ≤ 4 := by
    unfold Concludes at hconcludes
    split_ifs at hconcludes
    · obtain ⟨failed', found, hdecided', rfl, _⟩ := hconcludes
      refine ⟨count_put_gets _, ?_⟩
      unfold gets
      rw [List.length_map]
      exact length_le_of_decided hdecided'
    · rw [hconcludes.1]
      exact ⟨rfl, Nat.zero_le _⟩
  rw [List.map_append, List.count_append, List.length_append]
  omega

/-- The conditional write is exact. It stops after at most four requests to write, and never panics.
Between any other writes and with any outcomes of its requests, it only adds to the store, it
returns only if the object has the body, and not if the object had another one. And it returns if
nobody else writes the object, which is absent or has the body, and neither four requests to write
nor four requests to read go without an answer. -/
theorem conditional_write_exact (bucket key : String) (body : Bytes) :
    (∀ tr q, (saveS3ObjectIfAbsent bucket key body).Steps tr q →
      (tr.map Event.op).count (.putObject bucket key body) ≤ 4 ∧ tr.length ≤ 8 ∧
        ∀ message, q ≠ .fail (.panic message)) ∧
    (∀ tr r store store', (saveS3ObjectIfAbsent bucket key body).Yields tr r →
      Interleaved (fun _ => True) (fun _ _ => True) store tr store' →
        store ≤ store' ∧ (r = .ok () → store'.object (bucket, key) = some body) ∧
        ∀ other, store.object (bucket, key) = some other → other ≠ body → r ≠ .ok ()) ∧
    (∀ tr r store store', (saveS3ObjectIfAbsent bucket key body).Yields tr r →
      Interleaved Choice.ServedOrLost (OwnOnly bucket key body) store tr store' →
        Free bucket key body store → lost tr (.putObject bucket key body) ≤ 3 →
        lost tr (.getObject bucket key) ≤ 3 → r = .ok ()) := by
  refine ⟨fun tr q h => ?_, fun tr r store store' hsave h => ?_,
    fun tr r store store' hsave h hfree hput hget => yields_save_of_free hfree hsave h hput hget⟩
  · -- A part of an execution goes on to a whole one, and the bounds for that one are enough.
    obtain ⟨tr', r, hr⟩ := exists_yields q
    obtain ⟨hcount, hlength⟩ := requests_of_yields (h.trans hr)
    rw [List.map_append, List.count_append] at hcount
    rw [List.length_append] at hlength
    refine ⟨by omega, by omega, ?_⟩
    rintro message rfl
    have hpanic : (AppError.panic message).IsErr := failsOnly_saveS3ObjectIfAbsent.of_yields h
    exact hpanic
  · have hsaved : r = .ok () → store'.object (bucket, key) = some body := by
      rintro rfl
      rcases mem_of_yields_saveS3ObjectIfAbsent hsave with hmem | hmem
      · exact h.holds _ hmem
      · exact h.holds _ hmem
    refine ⟨h.le, hsaved, fun other hother hne hr => ?_⟩
    have hkept := Store.object_of_le h.le hother
    -- If the save had returned, the object would have both bodies.
    rw [hsaved hr] at hkept
    exact hne (Option.some.inj hkept).symm

end AwsKmsDemo
