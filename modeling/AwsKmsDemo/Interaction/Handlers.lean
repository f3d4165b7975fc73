import AwsKmsDemo.Interaction.Ensures

/-!
# Programs carried over to other operations

A program over some operations becomes one over others: by renaming each operation (`translate`), or
by carrying each out by a program of its own (`interpret`). Both keep the structure of the program.
`attempt` makes the failures of a program a part of its result.
-/

namespace Interaction.Program

variable {Op Op' : Type} {Ans : Op → Type} {Ans' : Op' → Type} {ε ε' α β W : Type}

/-! ## Renaming -/

/-- Perform `f o` instead of each operation `o`, and read its answer as one to `o`. -/
def translate (f : Op → Op') (answer : (o : Op) → Ans' (f o) → Ans o) :
    Program Ans ε α → Program Ans' ε α
  | .ret a => .ret a
  | .fail e => .fail e
  | .op o k => .op (f o) fun a => (k (answer o a)).translate f answer

variable {f : Op → Op'} {answer : (o : Op) → Ans' (f o) → Ans o}

/-- A program that has returned is left alone. -/
@[simp] theorem translate_ret (a : α) :
    (ret a : Program Ans ε α).translate f answer = .ret a := rfl

/-- So is one that has failed. -/
@[simp] theorem translate_fail (e : ε) :
    (fail e : Program Ans ε α).translate f answer = .fail e := rfl

/-- The next operation is translated, and then the rest. -/
@[simp] theorem translate_op (o : Op) (k : Ans o → Program Ans ε α) :
    (op o k).translate f answer = .op (f o) fun a => (k (answer o a)).translate f answer := rfl

/-- A sequence is translated part by part. -/
theorem translate_bind (p : Program Ans ε α) (g : α → Program Ans ε β) :
    (p.bind g).translate f answer = (p.translate f answer).bind fun a =>
      (g a).translate f answer := by
  induction p with
  | ret a => rfl
  | fail e => rfl
  | op o k ih => simp only [op_bind, translate_op, ih]

/-- A translated program performs the translations of what the program performs. -/
theorem Uses.translate {allowed : Op → Prop} {allowed' : Op' → Prop} {p : Program Ans ε α}
    (h : p.Uses allowed) (hf : ∀ o, allowed o → allowed' (f o)) :
    (p.translate f answer).Uses allowed' := by
  induction p with
  | ret a => trivial
  | fail e => trivial
  | op o k ih => exact ⟨hf o h.1, fun a => ih _ (h.2 _)⟩

/-- A translated program performs nothing but translations. -/
theorem uses_translate {allowed' : Op' → Prop} (p : Program Ans ε α) (hf : ∀ o, allowed' (f o)) :
    (p.translate f answer).Uses allowed' := by
  induction p with
  | ret a => trivial
  | fail e => trivial
  | op o k ih => exact ⟨hf o, fun a => ih _⟩

/-! ## Handlers -/

/-- Carry out every operation by a program. -/
def interpret (handler : (o : Op) → Program Ans' ε (Ans o)) : Program Ans ε α → Program Ans' ε α
  | .ret a => .ret a
  | .fail e => .fail e
  | .op o k => (handler o).bind fun a => (k a).interpret handler

variable {handler : (o : Op) → Program Ans' ε (Ans o)}

/-- A program that has returned needs no handler. -/
@[simp] theorem interpret_ret (a : α) : (ret a : Program Ans ε α).interpret handler = .ret a := rfl

/-- Nor does one that has failed. -/
@[simp] theorem interpret_fail (e : ε) :
    (fail e : Program Ans ε α).interpret handler = .fail e := rfl

/-- The next operation is carried out, and then the rest. -/
@[simp] theorem interpret_op (o : Op) (k : Ans o → Program Ans ε α) :
    (op o k).interpret handler = (handler o).bind fun a => (k a).interpret handler := rfl

/-! ## Failures as results -/

/-- Return the result, whether it is a value or an error. -/
def attempt : Program Ans ε α → Program Ans ε' (Except ε α)
  | .ret a => .ret (.ok a)
  | .fail e => .ret (.error e)
  | .op o k => .op o fun a => (k a).attempt

/-- What is returned is a success. -/
@[simp] theorem attempt_ret (a : α) :
    (ret a : Program Ans ε α).attempt = (ret (.ok a) : Program Ans ε' _) := rfl

/-- What is thrown is returned as an error. -/
@[simp] theorem attempt_fail (e : ε) :
    (fail e : Program Ans ε α).attempt = (ret (.error e) : Program Ans ε' _) := rfl

/-- The next operation is performed as before. -/
@[simp] theorem attempt_op (o : Op) (k : Ans o → Program Ans ε α) :
    (op o k).attempt = (op o fun a => (k a).attempt : Program Ans ε' _) := rfl

/-- A computed result is returned as it is. -/
@[simp] theorem attempt_ofExcept (r : Except ε α) :
    (ofExcept r : Program Ans ε α).attempt = (ret r : Program Ans ε' _) := by
  cases r <;> rfl

/-- Attempting a program performs what the program does. -/
theorem Uses.attempt {allowed : Op → Prop} {p : Program Ans ε α} (h : p.Uses allowed) :
    (p.attempt : Program Ans ε' _).Uses allowed := by
  induction p with
  | ret a => trivial
  | fail e => trivial
  | op o k ih => exact ⟨h.1, fun a => ih a (h.2 a)⟩

/-- Report other errors. -/
def mapError (g : ε → ε') : Program Ans ε α → Program Ans ε' α
  | .ret a => .ret a
  | .fail e => .fail (g e)
  | .op o k => .op o fun a => (k a).mapError g

/-- What is returned stays. -/
@[simp] theorem mapError_ret (g : ε → ε') (a : α) :
    (ret a : Program Ans ε α).mapError g = .ret a := rfl

/-- What is thrown is mapped. -/
@[simp] theorem mapError_fail (g : ε → ε') (e : ε) :
    (fail e : Program Ans ε α).mapError g = .fail (g e) := rfl

/-- The next operation is performed as before. -/
@[simp] theorem mapError_op (g : ε → ε') (o : Op) (k : Ans o → Program Ans ε α) :
    (op o k).mapError g = .op o fun a => (k a).mapError g := rfl

/-- The errors of a sequence are those of its parts. -/
theorem mapError_bind (g : ε → ε') (p : Program Ans ε α) (f : α → Program Ans ε β) :
    (p.bind f).mapError g = (p.mapError g).bind fun a => (f a).mapError g := by
  induction p with
  | ret a => rfl
  | fail e => rfl
  | op o k ih => simp only [op_bind, mapError_op, ih]

/-- A sequence whose first part reports other errors, and whose second part is computed. -/
theorem attempt_mapError_bind {ε'' : Type} (g : ε → ε') (p : Program Ans ε α)
    (f : α → Except ε' β) :
    (((p.mapError g).bind fun a => ofExcept (f a)).attempt : Program Ans ε'' (Except ε' β)) =
      p.attempt.bind fun
        | .ok a => .ret (f a)
        | .error e => .ret (.error (g e)) := by
  induction p with
  | ret a => exact attempt_ofExcept (f a)
  | fail e => rfl
  | op o k ih => simp only [op_bind, attempt_op, mapError_op, ih]

/-- The rule of attempts. -/
theorem Ensures.attempt {spec : OpSpec Ans W} {fault : ε' → W → Prop}
    {post : Except ε α → W → Prop} {p : Program Ans ε α} {w : W}
    (h : p.Ensures spec (fun e => post (.error e)) (fun a => post (.ok a)) w) :
    (p.attempt : Program Ans ε' _).Ensures spec fault post w := by
  induction p generalizing w with
  | ret a => exact h
  | fail e => exact h
  | op o k ih => exact spec.mono (fun a w' => ih a) h

/-- The rule of other errors. -/
theorem Ensures.mapError {spec : OpSpec Ans W} {g : ε → ε'} {fault : ε' → W → Prop}
    {post : α → W → Prop} {p : Program Ans ε α} {w : W}
    (h : p.Ensures spec (fun e => fault (g e)) post w) :
    (p.mapError g).Ensures spec fault post w := by
  induction p generalizing w with
  | ret a => exact h
  | fail e => exact h
  | op o k ih => exact spec.mono (fun a w' => ih a) h

/-! ## What handlers ensure -/

section Rules

variable {spec : OpSpec Ans W} {spec' : OpSpec Ans' W} {w : W}

/-- The rule of translations. -/
theorem Ensures.translate {f : Op → Op'} {answer : (o : Op) → Ans' (f o) → Ans o}
    {fault : ε → W → Prop} {post : α → W → Prop} {p : Program Ans ε α}
    (hops : ∀ o w (post : Ans o → W → Prop), spec.ensures o w post →
      spec'.ensures (f o) w fun a => post (answer o a))
    (h : p.Ensures spec fault post w) : (p.translate f answer).Ensures spec' fault post w := by
  induction p generalizing w with
  | ret a => exact h
  | fail e => exact h
  | op o k ih => exact spec'.mono (fun a w' => ih _) (hops o w _ h)

/-- The rule of handlers. If a handler keeps an invariant of the world and of the events so far,
then a program that is carried out by it comes to the end of one of its executions, and keeps the
invariant. -/
theorem Ensures.interpret {handler : (o : Op) → Program Ans' ε (Ans o)}
    {Inv : List (Event Ans) → W → Prop}
    (hhandler : ∀ tr o w, Inv tr w →
      (handler o).Ensures spec' (fun _ _ => False) (fun a => Inv (tr ++ [⟨o, a⟩])) w)
    (p : Program Ans ε α) {tr₀ : List (Event Ans)} (hw : Inv tr₀ w) :
    (p.interpret handler).Ensures spec'
      (fun e w' => ∃ tr, p.Yields tr (.error e) ∧ Inv (tr₀ ++ tr) w')
      (fun a w' => ∃ tr, p.Yields tr (.ok a) ∧ Inv (tr₀ ++ tr) w') w := by
  induction p generalizing w tr₀ with
  | ret a => exact ⟨[], .refl _, (List.append_nil tr₀).symm ▸ hw⟩
  | fail e => exact ⟨[], .refl _, (List.append_nil tr₀).symm ▸ hw⟩
  | op o k ih =>
    refine Ensures.bind ((hhandler tr₀ o w hw).mono (fun _ _ => False.elim) fun a w' ha => ?_)
    refine (ih a ha).mono ?_ ?_
    · rintro e w'' ⟨tr, hyields, hinv⟩
      exact ⟨⟨o, a⟩ :: tr, .step hyields, by rwa [List.append_assoc] at hinv⟩
    · rintro b w'' ⟨tr, hyields, hinv⟩
      exact ⟨⟨o, a⟩ :: tr, .step hyields, by rwa [List.append_assoc] at hinv⟩

end Rules

end Interaction.Program
