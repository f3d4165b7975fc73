import Mathlib.Init

/-!
# Programs that interact with their surroundings

A `Program` is the tree of everything a piece of code may still do: it has returned, it has failed,
or it performs an operation and goes on according to the answer. Nothing in the tree says who
answers. A single execution is a list of `Event`s (`Steps`, `Yields`), so that a statement about
every sequence of answers is a statement about every such list.
-/

namespace Interaction

/-- A program over the operations `Op`, each answered by a value of `Ans o`. It returns an `α` or
fails with an `ε`. -/
inductive Program {Op : Type} (Ans : Op → Type) (ε α : Type) where
  /-- The program has returned `a`. -/
  | ret (a : α)
  /-- The program has failed with `e`. -/
  | fail (e : ε)
  /-- The program performs `o` and continues with its answer. -/
  | op (o : Op) (k : Ans o → Program Ans ε α)

variable {Op : Type} {Ans : Op → Type} {ε α β γ : Type}

namespace Program

/-- Sequencing: a failure skips the rest. -/
def bind (p : Program Ans ε α) (f : α → Program Ans ε β) : Program Ans ε β :=
  match p with
  | .ret a => f a
  | .fail e => .fail e
  | .op o k => .op o fun a => (k a).bind f

/-- Handling of a failure of `p` by `h`. -/
def tryCatch (p : Program Ans ε α) (h : ε → Program Ans ε α) : Program Ans ε α :=
  match p with
  | .ret a => .ret a
  | .fail e => h e
  | .op o k => .op o fun a => (k a).tryCatch h

instance : Monad (Program Ans ε) where
  pure := .ret
  bind := .bind

instance : MonadExcept ε (Program Ans ε) where
  throw := .fail
  tryCatch := .tryCatch

/-- Perform one operation and return its answer. -/
def perform (o : Op) : Program Ans ε (Ans o) := .op o .ret

/-- A computed result as a program that performs nothing. -/
def ofExcept : Except ε α → Program Ans ε α
  | .ok a => .ret a
  | .error e => .fail e

instance : MonadLift (Except ε) (Program Ans ε) := ⟨ofExcept⟩

/-- `pure` returns. -/
@[simp] theorem pure_eq (a : α) : (pure a : Program Ans ε α) = .ret a := rfl

/-- `throw` fails. -/
@[simp] theorem throw_eq (e : ε) : (throw e : Program Ans ε α) = .fail e := rfl

/-- `>>=` is a sequence. -/
@[simp] theorem bind_eq (p : Program Ans ε α) (f : α → Program Ans ε β) : p >>= f = p.bind f := rfl

/-- Lifting takes a computed result for a program. -/
@[simp] theorem monadLift_eq (r : Except ε α) :
    (MonadLift.monadLift r : Program Ans ε α) = ofExcept r := rfl

/-- So does `liftM`, which `do` inserts. -/
@[simp] theorem liftM_eq (r : Except ε α) : (liftM r : Program Ans ε α) = ofExcept r := rfl

/-- A sequence whose first part has returned goes on with the second. -/
@[simp] theorem ret_bind (a : α) (f : α → Program Ans ε β) : (ret a).bind f = f a := rfl

/-- A sequence whose first part has failed has failed. -/
@[simp] theorem fail_bind (e : ε) (f : α → Program Ans ε β) : (fail e).bind f = fail e := rfl

/-- A sequence begins with the next operation of its first part. -/
@[simp] theorem op_bind (o : Op) (k : Ans o → Program Ans ε α) (f : α → Program Ans ε β) :
    (op o k).bind f = op o fun a => (k a).bind f := rfl

/-- A sequence that begins with one operation. -/
@[simp] theorem perform_bind (o : Op) (f : Ans o → Program Ans ε β) :
    (perform o).bind f = op o f := rfl

/-- A computed value is returned. -/
@[simp] theorem ofExcept_ok (a : α) : (ofExcept (.ok a) : Program Ans ε α) = .ret a := rfl

/-- A computed error is thrown. -/
@[simp] theorem ofExcept_error (e : ε) : (ofExcept (.error e) : Program Ans ε α) = .fail e := rfl

/-- `try` is a program with a handler. -/
@[simp] theorem tryCatch_eq (p : Program Ans ε α) (h : ε → Program Ans ε α) :
    MonadExcept.tryCatch p h = p.tryCatch h := rfl

/-- Sequencing is associative. -/
theorem bind_assoc (p : Program Ans ε α) (f : α → Program Ans ε β) (g : β → Program Ans ε γ) :
    (p.bind f).bind g = p.bind fun a => (f a).bind g := by
  induction p with
  | ret a => rfl
  | fail e => rfl
  | op o k ih => simp only [op_bind, ih]

/-- Returning the result unchanged does nothing. -/
theorem bind_ret (p : Program Ans ε α) : p.bind .ret = p := by
  induction p with
  | ret a => rfl
  | fail e => rfl
  | op o k ih => simp only [op_bind, ih]

instance : LawfulMonad (Program Ans ε) :=
  LawfulMonad.mk' _ (fun p => bind_ret p) (fun _ _ => rfl) (fun p f g => bind_assoc p f g)

end Program

/-! ## Executions -/

/-- One operation with the answer that it got. -/
structure Event {Op : Type} (Ans : Op → Type) where
  /-- The operation performed. -/
  op : Op
  /-- The answer that it got. -/
  ans : Ans op

namespace Program

/-- `p.Steps tr q`: after the events `tr`, what is left of `p` is `q`. -/
inductive Steps : Program Ans ε α → List (Event Ans) → Program Ans ε α → Prop where
  | refl (p : Program Ans ε α) : Steps p [] p
  | step {o : Op} {k : Ans o → Program Ans ε α} {a : Ans o} {tr : List (Event Ans)}
      {q : Program Ans ε α} (h : Steps (k a) tr q) : Steps (.op o k) (⟨o, a⟩ :: tr) q

/-- `p.Yields tr r`: the events `tr` take `p` to its end, with the result `r`. -/
def Yields (p : Program Ans ε α) (tr : List (Event Ans)) (r : Except ε α) : Prop :=
  p.Steps tr (ofExcept r)

/-- Without events a program has not come anywhere. -/
@[simp] theorem steps_nil {p q : Program Ans ε α} : p.Steps [] q ↔ p = q := by
  constructor
  · intro h; cases h; rfl
  · rintro rfl; exact .refl _

/-- A program that has returned does nothing more. -/
@[simp] theorem steps_ret {a : α} {tr : List (Event Ans)} {q : Program Ans ε α} :
    (ret a : Program Ans ε α).Steps tr q ↔ tr = [] ∧ q = ret a := by
  constructor
  · intro h; cases h; exact ⟨rfl, rfl⟩
  · rintro ⟨rfl, rfl⟩; exact .refl _

/-- Nor does one that has failed. -/
@[simp] theorem steps_fail {e : ε} {tr : List (Event Ans)} {q : Program Ans ε α} :
    (fail e : Program Ans ε α).Steps tr q ↔ tr = [] ∧ q = fail e := by
  constructor
  · intro h; cases h; exact ⟨rfl, rfl⟩
  · rintro ⟨rfl, rfl⟩; exact .refl _

/-- What an operation can do first: nothing yet, or take one of its answers. -/
theorem steps_op {o : Op} {k : Ans o → Program Ans ε α} {tr : List (Event Ans)}
    {q : Program Ans ε α} :
    (op o k).Steps tr q ↔
      (tr = [] ∧ q = op o k) ∨ ∃ a tr', tr = ⟨o, a⟩ :: tr' ∧ (k a).Steps tr' q := by
  constructor
  · intro h
    cases h with
    | refl => exact .inl ⟨rfl, rfl⟩
    | step h => exact .inr ⟨_, _, rfl, h⟩
  · rintro (⟨rfl, rfl⟩ | ⟨a, tr', rfl, h⟩)
    · exact .refl _
    · exact .step h

/-- Executions compose. -/
theorem Steps.trans {p q r : Program Ans ε α} {tr tr' : List (Event Ans)} (h : p.Steps tr q)
    (h' : q.Steps tr' r) : p.Steps (tr ++ tr') r := by
  induction h with
  | refl => exact h'
  | step _ ih => exact .step (ih h')

/-- An execution of the first part is one of the whole. -/
theorem Steps.bind {p q : Program Ans ε α} {tr : List (Event Ans)} (h : p.Steps tr q)
    (f : α → Program Ans ε β) : (p.bind f).Steps tr (q.bind f) := by
  induction h with
  | refl => exact .refl _
  | step _ ih => exact .step ih

/-- An execution of a sequence is either still in its first part or has finished it. -/
theorem steps_bind {p : Program Ans ε α} {f : α → Program Ans ε β} {tr : List (Event Ans)}
    {q : Program Ans ε β} (h : (p.bind f).Steps tr q) :
    (∃ p', p.Steps tr p' ∧ q = p'.bind f) ∨
      ∃ tr₁ tr₂ a, tr = tr₁ ++ tr₂ ∧ p.Yields tr₁ (.ok a) ∧ (f a).Steps tr₂ q := by
  induction p generalizing tr with
  | ret a => exact .inr ⟨[], tr, a, rfl, .refl _, h⟩
  | fail e =>
    obtain ⟨rfl, rfl⟩ := steps_fail.mp h
    exact .inl ⟨_, .refl _, rfl⟩
  | op o k ih =>
    rcases steps_op.mp h with ⟨rfl, rfl⟩ | ⟨a, tr', rfl, h'⟩
    · exact .inl ⟨_, .refl _, rfl⟩
    · rcases ih a h' with ⟨p', hp', rfl⟩ | ⟨tr₁, tr₂, b, rfl, hp, hf⟩
      · exact .inl ⟨p', .step hp', rfl⟩
      · exact .inr ⟨⟨o, a⟩ :: tr₁, tr₂, b, rfl, .step hp, hf⟩

/-- A program that has returned comes to its end at once. -/
@[simp] theorem yields_ret {a : α} {tr : List (Event Ans)} {r : Except ε α} :
    (ret a : Program Ans ε α).Yields tr r ↔ tr = [] ∧ r = .ok a := by
  cases r <;> simp [Yields, eq_comm]

/-- A program that has returned yields its value without an event. -/
theorem yields_ret_ok {a b : α} {tr : List (Event Ans)} :
    (ret a : Program Ans ε α).Yields tr (.ok b) ↔ tr = [] ∧ b = a := by
  simp

/-- So does one that has failed. -/
@[simp] theorem yields_fail {e : ε} {tr : List (Event Ans)} {r : Except ε α} :
    (fail e : Program Ans ε α).Yields tr r ↔ tr = [] ∧ r = .error e := by
  cases r <;> simp [Yields, eq_comm]

/-- A finished execution of an operation starts with its event. -/
theorem yields_op {o : Op} {k : Ans o → Program Ans ε α} {tr : List (Event Ans)}
    {r : Except ε α} :
    (op o k).Yields tr r ↔ ∃ a tr', tr = ⟨o, a⟩ :: tr' ∧ (k a).Yields tr' r := by
  unfold Yields
  rw [steps_op]
  constructor
  · rintro (⟨rfl, h⟩ | h)
    · cases r <;> simp at h
    · exact h
  · exact .inr

/-- So does a computed result. -/
@[simp] theorem yields_ofExcept {x : Except ε α} {tr : List (Event Ans)} {r : Except ε α} :
    (ofExcept x : Program Ans ε α).Yields tr r ↔ tr = [] ∧ r = x := by
  cases x with
  | ok a => exact yields_ret
  | error e => exact yields_fail

/-- A finished execution of a sequence finishes its first part, and either that part failed or the
rest ran to the end. -/
theorem yields_bind {p : Program Ans ε α} {f : α → Program Ans ε β} {tr : List (Event Ans)}
    {r : Except ε β} :
    (p.bind f).Yields tr r ↔
      (∃ e, p.Yields tr (.error e) ∧ r = .error e) ∨
        ∃ tr₁ tr₂ a, tr = tr₁ ++ tr₂ ∧ p.Yields tr₁ (.ok a) ∧ (f a).Yields tr₂ r := by
  constructor
  · intro h
    rcases steps_bind h with ⟨p', hp', hr⟩ | h'
    · cases p' with
      | ret a =>
        exact .inr ⟨tr, [], a, by simp, hp', by rw [Yields, hr]; exact .refl _⟩
      | fail e =>
        refine .inl ⟨e, hp', ?_⟩
        cases r <;> simp [ofExcept] at hr ⊢
        exact hr
      | op o k => cases r <;> simp [ofExcept] at hr
    · exact .inr h'
  · rintro (⟨e, hp, rfl⟩ | ⟨tr₁, tr₂, a, rfl, hp, hf⟩)
    · exact Steps.bind hp f
    · exact (Steps.bind hp f).trans hf

/-- A sequence returns exactly when its parts return one after the other. -/
theorem yields_bind_ok {p : Program Ans ε α} {f : α → Program Ans ε β} {tr : List (Event Ans)}
    {b : β} :
    (p.bind f).Yields tr (.ok b) ↔
      ∃ tr₁ tr₂ a, tr = tr₁ ++ tr₂ ∧ p.Yields tr₁ (.ok a) ∧ (f a).Yields tr₂ (.ok b) := by
  rw [yields_bind]
  simp

/-- A computed result that is a value is followed by what comes after this value. -/
theorem yields_ofExcept_bind {x : Except ε α} {f : α → Program Ans ε β} {tr : List (Event Ans)}
    {a : α} {r : Except ε β} (hx : x = .ok a) :
    ((ofExcept x).bind f).Yields tr r ↔ (f a).Yields tr r := by
  rw [hx]
  rfl

/-- What a computed result is followed by runs only if the computation succeeded. -/
theorem yields_ofExcept_bind_ok {x : Except ε α} {f : α → Program Ans ε β} {tr : List (Event Ans)}
    {b : β} :
    ((ofExcept x).bind f).Yields tr (.ok b) ↔ ∃ a, x = .ok a ∧ (f a).Yields tr (.ok b) := by
  cases x with
  | ok a => simp
  | error e => simp

/-- A finished execution with a handler: either the program returned, or it failed and the handler
ran to the end. -/
theorem yields_tryCatch {p : Program Ans ε α} {h : ε → Program Ans ε α} {tr : List (Event Ans)}
    {r : Except ε α} :
    (p.tryCatch h).Yields tr r ↔
      (∃ a, p.Yields tr (.ok a) ∧ r = .ok a) ∨
        ∃ tr₁ tr₂ e, tr = tr₁ ++ tr₂ ∧ p.Yields tr₁ (.error e) ∧ (h e).Yields tr₂ r := by
  induction p generalizing tr with
  | ret a =>
    simp only [tryCatch, yields_ret, Except.ok.injEq, reduceCtorEq, and_false,
      false_and, exists_false, or_false]
    constructor
    · rintro ⟨rfl, rfl⟩
      exact ⟨a, ⟨rfl, rfl⟩, rfl⟩
    · rintro ⟨a', ⟨rfl, rfl⟩, rfl⟩
      exact ⟨rfl, rfl⟩
  | fail e =>
    simp only [tryCatch, yields_fail, reduceCtorEq, and_false, false_and, exists_false, false_or]
    constructor
    · intro h'
      exact ⟨[], tr, e, rfl, ⟨rfl, rfl⟩, h'⟩
    · rintro ⟨tr₁, tr₂, e', rfl, ⟨rfl, he⟩, h'⟩
      cases he
      exact h'
  | op o k ih =>
    simp only [tryCatch, yields_op, ih]
    constructor
    · rintro ⟨a, tr', rfl, ⟨b, hb, rfl⟩ | ⟨tr₁, tr₂, e, rfl, he, hr⟩⟩
      · exact .inl ⟨b, ⟨a, tr', rfl, hb⟩, rfl⟩
      · exact .inr ⟨⟨o, a⟩ :: tr₁, tr₂, e, rfl, ⟨a, tr₁, rfl, he⟩, hr⟩
    · rintro (⟨b, ⟨a, tr', rfl, hb⟩, rfl⟩ | ⟨tr₁, tr₂, e, rfl, ⟨a, tr', rfl, he⟩, hr⟩)
      · exact ⟨a, tr', rfl, .inl ⟨b, hb, rfl⟩⟩
      · exact ⟨a, tr' ++ tr₂, rfl, .inr ⟨tr', tr₂, e, rfl, he, hr⟩⟩

/-- An execution that is under way can only be extended to finished ones of the whole program. -/
theorem Yields.of_steps {p q : Program Ans ε α} {tr tr' : List (Event Ans)} {r : Except ε α}
    (h : p.Steps tr q) (h' : q.Yields tr' r) : p.Yields (tr ++ tr') r :=
  h.trans h'

/-- What happens after an execution is what is left of the program. -/
theorem Steps.yields_append_iff {p q : Program Ans ε α} {tr tr' : List (Event Ans)} {r : Except ε α}
    (h : p.Steps tr q) : p.Yields (tr ++ tr') r ↔ q.Yields tr' r := by
  induction h with
  | refl => rfl
  | @step o k a tr q h ih =>
    refine Iff.trans ?_ ih
    rw [List.cons_append, yields_op]
    constructor
    · rintro ⟨_, _, hcons, hyields⟩
      cases hcons
      exact hyields
    · exact fun hyields => ⟨a, _, rfl, hyields⟩

/-- What is left of a program with a handler, after an execution of the program. -/
theorem Steps.tryCatch {p q : Program Ans ε α} {tr : List (Event Ans)} (h : p.Steps tr q)
    (handler : ε → Program Ans ε α) : (p.tryCatch handler).Steps tr (q.tryCatch handler) := by
  induction h with
  | refl => exact .refl _
  | step _ ih => exact .step ih

/-! ## Calls -/

/-- `At p q`: the next thing that `q` does is to call `p`, whatever it does with the outcome. -/
inductive At {α : Type} (p : Program Ans ε α) : {β : Type} → Program Ans ε β → Prop where
  | refl : At p p
  | bind {β γ : Type} {q : Program Ans ε β} (h : At p q) (f : β → Program Ans ε γ) : At p (q.bind f)
  | tryCatch {β : Type} {q : Program Ans ε β} (h : At p q) (handler : ε → Program Ans ε β) :
    At p (q.tryCatch handler)

/-- Whenever the execution `tr` of `main` calls `p` and the call comes to an end, its result
satisfies `Q`. -/
def Returns (main : Program Ans ε β) (tr : List (Event Ans)) (p : Program Ans ε α)
    (Q : Except ε α → Prop) : Prop :=
  ∀ tr₁ tr₂ tr₃ q r, tr = tr₁ ++ (tr₂ ++ tr₃) → main.Steps tr₁ q → At p q → p.Yields tr₂ r → Q r

namespace Returns

variable {p : Program Ans ε γ} {Q : Except ε γ → Prop} {tr tr' : List (Event Ans)}

/-- The call that is the whole program. -/
theorem self {r : Except ε γ} (h : p.Returns tr p Q) (hr : p.Yields tr r) : Q r :=
  h [] tr [] p r (by simp) (.refl _) .refl hr

/-- A weaker property of the results. -/
theorem mono {main : Program Ans ε α} {Q' : Except ε γ → Prop} (h : main.Returns tr p Q)
    (hle : ∀ r, Q r → Q' r) : main.Returns tr p Q' :=
  fun tr₁ tr₂ tr₃ q r htr hsteps hat hr => hle r (h tr₁ tr₂ tr₃ q r htr hsteps hat hr)

/-- The calls of the first part of a sequence. -/
theorem left {q : Program Ans ε α} {f : α → Program Ans ε β}
    (h : (q.bind f).Returns (tr ++ tr') p Q) : q.Returns tr p Q := by
  intro tr₁ tr₂ tr₃ q' r htr hsteps hat hr
  exact h tr₁ tr₂ (tr₃ ++ tr') (q'.bind f) r (by simp [htr]) (hsteps.bind f) (.bind hat f) hr

/-- The calls after the first part of a sequence. -/
theorem right {q : Program Ans ε α} {f : α → Program Ans ε β} {a : α}
    (h : (q.bind f).Returns (tr ++ tr') p Q) (hq : q.Yields tr (.ok a)) :
    (f a).Returns tr' p Q := by
  intro tr₁ tr₂ tr₃ q' r htr hsteps hat hr
  exact h (tr ++ tr₁) tr₂ tr₃ q' r (by simp [htr]) ((Steps.bind hq f).trans hsteps) hat hr

/-- The calls of a program with a handler. -/
theorem body {q : Program Ans ε α} {handler : ε → Program Ans ε α}
    (h : (q.tryCatch handler).Returns (tr ++ tr') p Q) : q.Returns tr p Q := by
  intro tr₁ tr₂ tr₃ q' r htr hsteps hat hr
  exact h tr₁ tr₂ (tr₃ ++ tr') (q'.tryCatch handler) r (by simp [htr]) (hsteps.tryCatch handler)
    (.tryCatch hat handler) hr

end Returns

/-! ## The next operation -/

/-- `p.Issues tr o`: after the events `tr`, the next thing that `p` does is to perform `o`. -/
def Issues (p : Program Ans ε α) (tr : List (Event Ans)) (o : Op) : Prop :=
  ∃ k, p.Steps tr (.op o k)

/-- A program that has returned issues nothing. -/
@[simp] theorem issues_ret {a : α} {tr : List (Event Ans)} {o : Op} :
    ¬ (ret a : Program Ans ε α).Issues tr o := by
  simp [Issues]

/-- One that has failed issues nothing. -/
@[simp] theorem issues_fail {e : ε} {tr : List (Event Ans)} {o : Op} :
    ¬ (fail e : Program Ans ε α).Issues tr o := by
  simp [Issues]

/-- A computed result issues nothing. -/
@[simp] theorem issues_ofExcept {x : Except ε α} {tr : List (Event Ans)} {o : Op} :
    ¬ (ofExcept x : Program Ans ε α).Issues tr o := by
  cases x with
  | ok a => exact issues_ret
  | error e => exact issues_fail

/-- An operation is issued first, and after its answer comes what the rest issues. -/
theorem issues_op {o o' : Op} {k : Ans o' → Program Ans ε α} {tr : List (Event Ans)} :
    (op o' k).Issues tr o ↔
      (tr = [] ∧ o = o') ∨ ∃ a tr', tr = ⟨o', a⟩ :: tr' ∧ (k a).Issues tr' o := by
  constructor
  · intro h
    obtain ⟨k', h⟩ := h
    rcases steps_op.mp h with ⟨rfl, heq⟩ | ⟨a, tr', rfl, h'⟩
    · injection heq with heq
      exact .inl ⟨rfl, heq⟩
    · exact .inr ⟨a, tr', rfl, k', h'⟩
  · rintro (⟨rfl, rfl⟩ | ⟨a, tr', rfl, k', h⟩)
    · exact ⟨k, .refl _⟩
    · exact ⟨k', .step h⟩

/-- What a sequence issues is issued by its first part, or by its second part once the first has
returned. -/
theorem issues_bind {p : Program Ans ε α} {f : α → Program Ans ε β} {tr : List (Event Ans)}
    {o : Op} :
    (p.bind f).Issues tr o ↔
      p.Issues tr o ∨
        ∃ tr₁ tr₂ a, tr = tr₁ ++ tr₂ ∧ p.Yields tr₁ (.ok a) ∧ (f a).Issues tr₂ o := by
  constructor
  · intro h
    obtain ⟨k, h⟩ := h
    rcases steps_bind h with ⟨p', hp', heq⟩ | ⟨tr₁, tr₂, a, rfl, hp, hf⟩
    · cases p' with
      | ret a =>
        rw [ret_bind] at heq
        exact .inr ⟨tr, [], a, by simp, hp', k, by rw [← heq]; exact .refl _⟩
      | fail e => rw [fail_bind] at heq; cases heq
      | op o' k' =>
        rw [op_bind] at heq
        injection heq with heq
        subst heq
        exact .inl ⟨k', hp'⟩
    · exact .inr ⟨tr₁, tr₂, a, rfl, hp, k, hf⟩
  · rintro (⟨k, h⟩ | ⟨tr₁, tr₂, a, rfl, hp, k, hf⟩)
    · exact ⟨_, h.bind f⟩
    · exact ⟨k, (Steps.bind hp f).trans hf⟩

/-- What a computed result is followed by is issued only if the computation succeeded. -/
theorem issues_ofExcept_bind {x : Except ε α} {f : α → Program Ans ε β} {tr : List (Event Ans)}
    {o : Op} :
    ((ofExcept x).bind f).Issues tr o ↔ ∃ a, x = .ok a ∧ (f a).Issues tr o := by
  cases x with
  | ok a => simp
  | error e => simp

/-- Every event of an execution was issued in its course. -/
theorem Steps.issues_of_mem {p q : Program Ans ε α} {tr : List (Event Ans)} (h : p.Steps tr q)
    {e : Event Ans} (he : e ∈ tr) : ∃ tr', tr' <+: tr ∧ p.Issues tr' e.op := by
  induction h with
  | refl p => cases he
  | @step o k a tr q h ih =>
    rcases List.mem_cons.mp he with rfl | he
    · exact ⟨[], List.nil_prefix, k, .refl _⟩
    · obtain ⟨tr', htr', k', hk'⟩ := ih he
      exact ⟨⟨o, a⟩ :: tr', List.cons_prefix_cons.mpr ⟨rfl, htr'⟩, k', .step hk'⟩

/-! ## The operations a program may perform -/

/-- Every operation that `p` can ever perform, whatever the answers, satisfies `allowed`. -/
def Uses (allowed : Op → Prop) : Program Ans ε α → Prop
  | .ret _ => True
  | .fail _ => True
  | .op o k => allowed o ∧ ∀ a, (k a).Uses allowed

/-- A program that has returned uses nothing. -/
@[simp] theorem uses_ret {allowed : Op → Prop} {a : α} :
    (ret a : Program Ans ε α).Uses allowed := trivial

/-- One that has failed uses nothing. -/
@[simp] theorem uses_fail {allowed : Op → Prop} {e : ε} :
    (fail e : Program Ans ε α).Uses allowed := trivial

/-- A program uses its next operation, and what it goes on with does. -/
@[simp] theorem uses_op {allowed : Op → Prop} {o : Op} {k : Ans o → Program Ans ε α} :
    (op o k).Uses allowed ↔ allowed o ∧ ∀ a, (k a).Uses allowed := Iff.rfl

/-- A computed result uses nothing. -/
@[simp] theorem uses_ofExcept {allowed : Op → Prop} {x : Except ε α} :
    (ofExcept x : Program Ans ε α).Uses allowed := by
  cases x <;> trivial

/-- A sequence uses what its parts use. -/
theorem Uses.bind {allowed : Op → Prop} {p : Program Ans ε α} {f : α → Program Ans ε β}
    (hp : p.Uses allowed) (hf : ∀ a, (f a).Uses allowed) : (p.bind f).Uses allowed := by
  induction p with
  | ret a => exact hf a
  | fail e => trivial
  | op o k ih => exact ⟨hp.1, fun a => ih a (hp.2 a)⟩

/-- A computed result, followed by what may depend on the computation having succeeded. -/
theorem uses_ofExcept_bind {allowed : Op → Prop} {x : Except ε α} {f : α → Program Ans ε β}
    (hf : ∀ a, x = .ok a → (f a).Uses allowed) : ((ofExcept x).bind f).Uses allowed := by
  cases x with
  | ok a => exact hf a rfl
  | error e => trivial

/-- A program with a handler uses what the two use. -/
theorem Uses.tryCatch {allowed : Op → Prop} {p : Program Ans ε α} {h : ε → Program Ans ε α}
    (hp : p.Uses allowed) (hh : ∀ e, (h e).Uses allowed) : (p.tryCatch h).Uses allowed := by
  induction p with
  | ret a => trivial
  | fail e => exact hh e
  | op o k ih => exact ⟨hp.1, fun a => ih a (hp.2 a)⟩

/-- More may be allowed. -/
theorem Uses.mono {allowed allowed' : Op → Prop} {p : Program Ans ε α} (hp : p.Uses allowed)
    (h : ∀ o, allowed o → allowed' o) : p.Uses allowed' := by
  induction p with
  | ret a => trivial
  | fail e => trivial
  | op o k ih => exact ⟨h o hp.1, fun a => ih a (hp.2 a)⟩

/-- An execution contains only operations that the program may perform, and leaves a program that
still performs only those. -/
theorem Uses.of_steps {allowed : Op → Prop} {p q : Program Ans ε α} {tr : List (Event Ans)}
    (hp : p.Uses allowed) (h : p.Steps tr q) : (∀ e ∈ tr, allowed e.op) ∧ q.Uses allowed := by
  induction h with
  | refl => exact ⟨by simp, hp⟩
  | step _ ih =>
    obtain ⟨htr, hq⟩ := ih (hp.2 _)
    exact ⟨by simpa using ⟨hp.1, htr⟩, hq⟩

/-- Whatever a program issues is an operation that it may perform. -/
theorem Uses.of_issues {allowed : Op → Prop} {p : Program Ans ε α} {tr : List (Event Ans)} {o : Op}
    (hp : p.Uses allowed) (h : p.Issues tr o) : allowed o := by
  obtain ⟨k, h⟩ := h
  exact (hp.of_steps h).2.1

/-! ## The failures of a program -/

/-- Every failure that `p` can ever end with, whatever the answers, satisfies `allowed`. -/
def FailsOnly (allowed : ε → Prop) : Program Ans ε α → Prop
  | .ret _ => True
  | .fail e => allowed e
  | .op _ k => ∀ a, (k a).FailsOnly allowed

/-- A computed result fails with its own error only. -/
theorem failsOnly_ofExcept {allowed : ε → Prop} {x : Except ε α}
    (h : ∀ e, x = .error e → allowed e) : (ofExcept x : Program Ans ε α).FailsOnly allowed := by
  cases x with
  | ok a => trivial
  | error e => exact h e rfl

/-- A sequence fails with the errors of its parts only. -/
theorem FailsOnly.bind {allowed : ε → Prop} {p : Program Ans ε α} {f : α → Program Ans ε β}
    (hp : p.FailsOnly allowed) (hf : ∀ a, (f a).FailsOnly allowed) :
    (p.bind f).FailsOnly allowed := by
  induction p with
  | ret a => exact hf a
  | fail e => exact hp
  | op o k ih => exact fun a => ih a (hp a)

/-- With a handler, the failures are those of the handler. -/
theorem FailsOnly.tryCatch {allowed allowed' : ε → Prop} {p : Program Ans ε α}
    {handler : ε → Program Ans ε α} (hp : p.FailsOnly allowed)
    (hhandler : ∀ e, allowed e → (handler e).FailsOnly allowed') :
    (p.tryCatch handler).FailsOnly allowed' := by
  induction p with
  | ret a => trivial
  | fail e => exact hhandler e hp
  | op o k ih => exact fun a => ih a (hp a)

/-- If every finished execution fails only with an allowed failure, so does the program. -/
theorem failsOnly_of_yields {allowed : ε → Prop} {p : Program Ans ε α}
    (h : ∀ tr e, p.Yields tr (.error e) → allowed e) : p.FailsOnly allowed := by
  induction p with
  | ret a => trivial
  | fail e => exact h [] e (.refl _)
  | op o k ih => exact fun a => ih a fun tr e he => h (⟨o, a⟩ :: tr) e (.step he)

/-- A finished execution that fails does so with an allowed failure. -/
theorem FailsOnly.of_yields {allowed : ε → Prop} {p : Program Ans ε α} {tr : List (Event Ans)}
    {e : ε} (hp : p.FailsOnly allowed) (h : p.Yields tr (.error e)) : allowed e := by
  induction p generalizing tr with
  | ret a => simp at h
  | fail e' =>
    obtain ⟨_, heq⟩ := yields_fail.mp h
    injection heq with heq
    rw [heq]
    exact hp
  | op o k ih =>
    obtain ⟨a, tr', rfl, hk⟩ := yields_op.mp h
    exact ih a (hp a) hk

end Program

end Interaction
