import AwsKmsDemo.Interaction.Program

/-!
# Surroundings with one answer to every operation

When the surroundings do not change while a program runs, every operation has one answer. The
program then has one execution, and `eval` is its result.
-/

namespace Interaction.Program

variable {Op : Type} {Ans : Op → Type} {ε α β : Type} {answers : (o : Op) → Ans o}

/-- The result of a program whose operations are answered by a function. -/
def eval (answers : (o : Op) → Ans o) : Program Ans ε α → Except ε α
  | .ret a => .ok a
  | .fail e => .error e
  | .op o k => (k (answers o)).eval answers

/-- A program that has returned evaluates to what it returned. -/
@[simp] theorem eval_ret (a : α) : (ret a : Program Ans ε α).eval answers = .ok a := rfl

/-- One that has failed evaluates to its error. -/
@[simp] theorem eval_fail (e : ε) : (fail e : Program Ans ε α).eval answers = .error e := rfl

/-- The next operation is answered by the function. -/
@[simp] theorem eval_op (o : Op) (k : Ans o → Program Ans ε α) :
    (op o k).eval answers = (k (answers o)).eval answers := rfl

/-- A computed result evaluates to itself. -/
@[simp] theorem eval_ofExcept (x : Except ε α) :
    (ofExcept x : Program Ans ε α).eval answers = x := by
  cases x <;> rfl

/-- The result of a sequence. -/
theorem eval_bind (p : Program Ans ε α) (f : α → Program Ans ε β) :
    (p.bind f).eval answers =
      match p.eval answers with
      | .ok a => (f a).eval answers
      | .error e => .error e := by
  induction p with
  | ret a => rfl
  | fail e => rfl
  | op o k ih => exact ih (answers o)

/-- The result of a sequence whose first part returns. -/
theorem eval_bind_of_ok {p : Program Ans ε α} {f : α → Program Ans ε β} {a : α}
    (h : p.eval answers = .ok a) : (p.bind f).eval answers = (f a).eval answers := by
  rw [eval_bind, h]

/-- The result of a program with a handler. -/
theorem eval_tryCatch (p : Program Ans ε α) (handler : ε → Program Ans ε α) :
    (p.tryCatch handler).eval answers =
      match p.eval answers with
      | .ok a => .ok a
      | .error e => (handler e).eval answers := by
  induction p with
  | ret a => rfl
  | fail e => rfl
  | op o k ih => exact ih (answers o)

/-- An execution in which every event is as answered comes to the result. -/
theorem Yields.eval_eq {p : Program Ans ε α} {tr : List (Event Ans)} {r : Except ε α}
    (h : p.Yields tr r) (htr : ∀ e ∈ tr, e.ans = answers e.op) : p.eval answers = r := by
  induction p generalizing tr with
  | ret a => exact (yields_ret.mp h).2.symm
  | fail e => exact (yields_fail.mp h).2.symm
  | op o k ih =>
    obtain ⟨a, tr', rfl, hk⟩ := yields_op.mp h
    obtain rfl : a = answers o := htr _ List.mem_cons_self
    exact ih _ hk fun e he => htr e (List.mem_cons_of_mem _ he)

/-- In an execution in which every event is as answered, every call comes to its result. -/
theorem returns_of_answered {main : Program Ans ε β} {tr : List (Event Ans)}
    (htr : ∀ e ∈ tr, e.ans = answers e.op) (p : Program Ans ε α) :
    main.Returns tr p fun r => r = p.eval answers := by
  rintro tr₁ tr₂ tr₃ q r rfl _ _ hr
  exact (hr.eval_eq fun e he => htr e (by simp [he])).symm

/-- There is an execution in which every event is as answered. -/
theorem exists_yields_eval (p : Program Ans ε α) (answers : (o : Op) → Ans o) :
    ∃ tr, p.Yields tr (p.eval answers) ∧ ∀ e ∈ tr, e.ans = answers e.op := by
  induction p with
  | ret a => exact ⟨[], .refl _, fun e he => absurd he List.not_mem_nil⟩
  | fail e => exact ⟨[], .refl _, fun e he => absurd he List.not_mem_nil⟩
  | op o k ih =>
    obtain ⟨tr, htr, hall⟩ := ih (answers o)
    refine ⟨⟨o, answers o⟩ :: tr, .step htr, fun e he => ?_⟩
    rcases List.mem_cons.mp he with rfl | he
    · rfl
    · exact hall e he

end Interaction.Program
