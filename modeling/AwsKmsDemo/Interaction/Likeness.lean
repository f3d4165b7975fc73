import AwsKmsDemo.Interaction.Program
import Mathlib.Data.List.Forall2

/-!
# Programs that are alike

Two programs may perform different operations and get different answers. A `Likeness` says which
operations are alike, and which answers to them are. Programs are alike (`Program.Like`) if they
perform operations that are alike as long as they get answers that are, and come to alike ends. So
do their executions then (`Like.steps`).
-/

namespace Interaction

variable {Op : Type} {Ans : Op → Type} {ε α α' β β' : Type}

/-- Which operations are alike, and which of their answers. -/
structure Likeness {Op : Type} (Ans : Op → Type) where
  Ops : Op → Op → Prop
  Answers : (o o' : Op) → Ans o → Ans o' → Prop

/-- The answers are alike as long as the operations are. -/
def Likeness.Related (l : Likeness Ans) : List (Event Ans) → List (Event Ans) → Prop
  | e :: tr, e' :: tr' => l.Ops e.op e'.op → l.Answers e.op e'.op e.ans e'.ans ∧ l.Related tr tr'
  | _, _ => True

/-- Both have failed alike, or have returned what is related. -/
def ResultsLike (post : α → α' → Prop) : Except ε α → Except ε α' → Prop
  | .ok a, .ok a' => post a a'
  | .error e, .error e' => e = e'
  | _, _ => False

/-- Events that are answered alike may come first. -/
theorem Likeness.Related.append {l : Likeness Ans} {tr tr₁ tr₂ : List (Event Ans)}
    (h : l.Related tr₁ tr₂) (hsame : ∀ e ∈ tr, l.Answers e.op e.op e.ans e.ans) :
    l.Related (tr ++ tr₁) (tr ++ tr₂) := by
  induction tr with
  | nil => exact h
  | cons e tr ih =>
    have hrest := List.forall_mem_cons.mp hsame
    exact fun _ => ⟨hrest.1, ih hrest.2⟩

namespace ResultsLike

/-- A result is like itself. -/
theorem refl (x : Except ε α) : ResultsLike Eq x x := by
  cases x <;> rfl

/-- Computations that go on alike. -/
theorem bind {post : α → α' → Prop} {post' : β → β' → Prop} {x : Except ε α} {x' : Except ε α'}
    {f : α → Except ε β} {f' : α' → Except ε β'} (h : ResultsLike post x x')
    (hf : ∀ a a', post a a' → ResultsLike post' (f a) (f' a')) :
    ResultsLike post' (x.bind f) (x'.bind f') := by
  cases x with
  | ok a =>
    cases x' with
    | ok a' => exact hf a a' h
    | error e' => exact h.elim
  | error e =>
    cases x' with
    | ok a' => exact h.elim
    | error e' => exact h

end ResultsLike

namespace Program

/-- The programs are alike. -/
def Like (l : Likeness Ans) (post : α → α' → Prop) : Program Ans ε α → Program Ans ε α' → Prop
  | .ret a, .ret a' => post a a'
  | .fail e, .fail e' => e = e'
  | .op o k, .op o' k' => l.Ops o o' ∧ ∀ a a', l.Answers o o' a a' → (k a).Like l post (k' a')
  | _, _ => False

namespace Like

variable {l : Likeness Ans} {post : α → α' → Prop} {post' : β → β' → Prop} {p : Program Ans ε α}
  {p' : Program Ans ε α'}

/-- The rule of consequence. -/
theorem imp {post₁ : α → α' → Prop} (h : p.Like l post p')
    (hpost : ∀ a a', post a a' → post₁ a a') : p.Like l post₁ p' := by
  induction p generalizing p' with
  | ret a =>
    cases p' with
    | ret a' => exact hpost a a' h
    | fail e' => exact h
    | op o' k' => exact h
  | fail e =>
    cases p' with
    | ret a' => exact h
    | fail e' => exact h
    | op o' k' => exact h
  | op o k ih =>
    cases p' with
    | ret a' => exact h
    | fail e' => exact h
    | op o' k' => exact ⟨h.1, fun a a' ha => ih a (h.2 a a' ha)⟩

/-- The rule of sequencing. -/
theorem bind {f : α → Program Ans ε β} {f' : α' → Program Ans ε β'} (h : p.Like l post p')
    (hf : ∀ a a', post a a' → (f a).Like l post' (f' a')) :
    (p.bind f).Like l post' (p'.bind f') := by
  induction p generalizing p' with
  | ret a =>
    cases p' with
    | ret a' => exact hf a a' h
    | fail e' => exact h.elim
    | op o' k' => exact h.elim
  | fail e =>
    cases p' with
    | ret a' => exact h.elim
    | fail e' => exact h
    | op o' k' => exact h.elim
  | op o k ih =>
    cases p' with
    | ret a' => exact h.elim
    | fail e' => exact h.elim
    | op o' k' => exact ⟨h.1, fun a a' ha => ih a (h.2 a a' ha)⟩

/-- The rule of handlers. -/
theorem tryCatch {q : Program Ans ε α} {handler : ε → Program Ans ε α} {post : α → α → Prop}
    (h : p.Like l post q) (hhandler : ∀ e, (handler e).Like l post (handler e)) :
    (p.tryCatch handler).Like l post (q.tryCatch handler) := by
  induction p generalizing q with
  | ret a =>
    cases q with
    | ret a' => exact h
    | fail e' => exact h.elim
    | op o' k' => exact h.elim
  | fail e =>
    cases q with
    | ret a' => exact h.elim
    | fail e' =>
      obtain rfl : e = e' := h
      exact hhandler e
    | op o' k' => exact h.elim
  | op o k ih =>
    cases q with
    | ret a' => exact h.elim
    | fail e' => exact h.elim
    | op o' k' => exact ⟨h.1, fun a a' ha => ih a (h.2 a a' ha)⟩

/-- A sequence whose first parts return the same. -/
theorem bind_eq {q : Program Ans ε α} {f : α → Program Ans ε β} {f' : α → Program Ans ε β'}
    (h : p.Like l Eq q) (hf : ∀ a, (f a).Like l post' (f' a)) :
    (p.bind f).Like l post' (q.bind f') :=
  h.bind fun a _ ha => ha ▸ hf a

/-- A computed result is like itself. -/
theorem ofExcept (x : Except ε α) : (ofExcept x : Program Ans ε α).Like l Eq (.ofExcept x) := by
  cases x <;> rfl

/-- A sequence that starts with the same computed result. -/
theorem ofExcept_bind {x : Except ε α} {f : α → Program Ans ε β} {f' : α → Program Ans ε β'}
    (hf : ∀ a, (f a).Like l post' (f' a)) :
    ((Program.ofExcept x).bind f).Like l post' ((Program.ofExcept x).bind f') :=
  (ofExcept x).bind_eq hf

/-- Computed results that are alike. -/
theorem of_resultsLike {x : Except ε α} {x' : Except ε α'} (h : ResultsLike post x x') :
    (Program.ofExcept x : Program Ans ε α).Like l post (.ofExcept x') := by
  cases x <;> cases x' <;> exact h

/-- Executions of programs that are alike perform operations that are alike, provided that their
answers are, and what is left of the programs is alike. -/
theorem steps {q : Program Ans ε α} {q' : Program Ans ε α'} {tr tr' : List (Event Ans)}
    (h : p.Like l post p') (hsteps : p.Steps tr q) (hsteps' : p'.Steps tr' q')
    (hlength : tr.length = tr'.length) (hrelated : l.Related tr tr') :
    List.Forall₂ (fun e e' => l.Ops e.op e'.op) tr tr' ∧ q.Like l post q' := by
  induction hsteps generalizing p' tr' with
  | refl =>
    obtain rfl : tr' = [] := List.eq_nil_of_length_eq_zero hlength.symm
    obtain rfl := steps_nil.mp hsteps'
    exact ⟨.nil, h⟩
  | step hk ih =>
    cases hsteps' with
    | refl => cases hlength
    | step hk' =>
      obtain ⟨hanswers, hrest⟩ := hrelated h.1
      obtain ⟨hops, hleft⟩ := ih (h.2 _ _ hanswers) hk' (Nat.succ.inj hlength) hrest
      exact ⟨.cons h.1 hops, hleft⟩

/-- Of programs that are alike one has come to an end if the other has, and to the same. -/
theorem eq_ofExcept_iff {q : Program Ans ε α} (h : p.Like l Eq q) (r : Except ε α) :
    p = .ofExcept r ↔ q = .ofExcept r := by
  cases p with
  | ret a =>
    cases q with
    | ret a' => rw [show a = a' from h]
    | fail e' => exact h.elim
    | op o' k' => exact h.elim
  | fail e =>
    cases q with
    | ret a' => exact h.elim
    | fail e' => rw [show e = e' from h]
    | op o' k' => exact h.elim
  | op o k =>
    cases q with
    | ret a' => exact h.elim
    | fail e' => exact h.elim
    | op o' k' =>
      constructor
      · intro h
        cases r <;> cases h
      · intro h
        cases r <;> cases h

end Like

end Program

end Interaction
