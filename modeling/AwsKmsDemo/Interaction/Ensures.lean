import AwsKmsDemo.Interaction.Program

/-!
# Pre- and postconditions of programs

In surroundings whose behaviour is known, every operation has a specification: it takes a world and
the postcondition that is wanted, and says when the operation ensures it, whatever the answer is
(`OpSpec`). `Program.Ensures` extends this to programs, with a second postcondition for failures.
-/

namespace Interaction

variable {Op : Type} {Ans : Op → Type} {W : Type}

/-- A specification of the operations in a world `W`. -/
structure OpSpec {Op : Type} (Ans : Op → Type) (W : Type) where
  /-- The operation ensures the postcondition, started in the world. -/
  ensures : (o : Op) → W → (Ans o → W → Prop) → Prop
  /-- A weaker postcondition is ensured as well. -/
  mono : ∀ {o w} {post post' : Ans o → W → Prop}, (∀ a w', post a w' → post' a w') →
    ensures o w post → ensures o w post'
  /-- Every operation has an answer. -/
  answered : ∀ {o w} {post : Ans o → W → Prop}, ensures o w post → ∃ a w', post a w'

namespace Program

variable (spec : OpSpec Ans W) {ε ε' α β : Type}

/-- Started in the world `w`, the program comes to an end, whatever the answers are. If it returns,
the world satisfies `post`, and if it fails, `fault`. -/
def Ensures (fault : ε → W → Prop) (post : α → W → Prop) : Program Ans ε α → W → Prop
  | .ret a, w => post a w
  | .fail e, w => fault e w
  | .op o k, w => spec.ensures o w fun a w' => (k a).Ensures fault post w'

variable {spec} {fault fault' : ε → W → Prop} {post post' : α → W → Prop} {w : W}

/-- Weaker properties of the ends are ensured too. -/
theorem Ensures.mono {p : Program Ans ε α} (h : p.Ensures spec fault post w)
    (hfault : ∀ e w', fault e w' → fault' e w') (hpost : ∀ a w', post a w' → post' a w') :
    p.Ensures spec fault' post' w := by
  induction p generalizing w with
  | ret a => exact hpost a w h
  | fail e => exact hfault e w h
  | op o k ih => exact spec.mono (fun a w' => ih a) h

/-- A weaker postcondition is ensured as well. -/
theorem Ensures.imp {p : Program Ans ε α} (h : p.Ensures spec fault post w)
    (hpost : ∀ a w', post a w' → post' a w') : p.Ensures spec fault post' w :=
  h.mono (fun _ _ => id) hpost

/-- The rule of sequencing. -/
theorem Ensures.bind {p : Program Ans ε α} {f : α → Program Ans ε β} {post : β → W → Prop}
    (h : p.Ensures spec fault (fun a => (f a).Ensures spec fault post) w) :
    (p.bind f).Ensures spec fault post w := by
  induction p generalizing w with
  | ret a => exact h
  | fail e => exact h
  | op o k ih => exact spec.mono (fun a w' => ih a) h

/-- The rule of handlers. -/
theorem Ensures.tryCatch {p : Program Ans ε α} {handler : ε → Program Ans ε α}
    (h : p.Ensures spec (fun e => (handler e).Ensures spec fault post) post w) :
    (p.tryCatch handler).Ensures spec fault post w := by
  induction p generalizing w with
  | ret a => exact h
  | fail e => exact h
  | op o k ih => exact spec.mono (fun a w' => ih a) h

/-- A computed result that is `a` is followed by what comes after `a`. -/
theorem ensures_ofExcept_bind {x : Except ε α} {f : α → Program Ans ε β} {post : β → W → Prop}
    {a : α} (hx : x = .ok a) (h : (f a).Ensures spec fault post w) :
    ((ofExcept x).bind f).Ensures spec fault post w := by
  rw [hx]
  exact h

/-- A program that ensures something has an execution. -/
theorem Ensures.exists_yields {p : Program Ans ε α} (h : p.Ensures spec fault post w) :
    ∃ tr w', (∃ a, p.Yields tr (.ok a) ∧ post a w') ∨ ∃ e, p.Yields tr (.error e) ∧ fault e w' := by
  induction p generalizing w with
  | ret a => exact ⟨[], w, .inl ⟨a, .refl _, h⟩⟩
  | fail e => exact ⟨[], w, .inr ⟨e, .refl _, h⟩⟩
  | op o k ih =>
    obtain ⟨a, w₁, h₁⟩ := spec.answered h
    obtain ⟨tr, w', hend⟩ := ih a h₁
    refine ⟨⟨o, a⟩ :: tr, w', ?_⟩
    rcases hend with ⟨b, hb, hpost⟩ | ⟨e, he, hfault⟩
    · exact .inl ⟨b, .step hb, hpost⟩
    · exact .inr ⟨e, .step he, hfault⟩

variable {W' : Type} {spec' : OpSpec Ans W'} {view : W' → W} {Inv : W' → Prop} {v : W'}

/-- What a program ensures in a world it ensures in every world of which that one is a view, if the
operations do. An invariant may be kept in passing. -/
theorem Ensures.refine
    (hops : ∀ o v (post : Ans o → W → Prop), Inv v → spec.ensures o (view v) post →
      spec'.ensures o v fun a v' => post a (view v') ∧ Inv v')
    {p : Program Ans ε α} (h : p.Ensures spec fault post (view v)) (hinv : Inv v) :
    p.Ensures spec' (fun e v' => fault e (view v') ∧ Inv v')
      (fun a v' => post a (view v') ∧ Inv v') v := by
  induction p generalizing v with
  | ret a => exact ⟨h, hinv⟩
  | fail e => exact ⟨h, hinv⟩
  | op o k ih => exact spec'.mono (fun a v' hv' => ih a hv'.1 hv'.2) (hops o v _ hinv h)

end Program

end Interaction
