import AwsKmsDemo.Interaction.Ensures

/-!
# Worlds given by what they may answer

A `World` says of every operation whether it may be performed at all, and which answers it can get.
It gives rise to the specification that takes all of them into account, and `RunsIn` is a single
execution of a program in it.
-/

namespace Interaction

variable {Op : Type} {Ans : Op → Type} {W ε α β : Type}

/-- A world whose states are `W`. -/
structure World {Op : Type} (Ans : Op → Type) (W : Type) where
  /-- The operation may be performed. -/
  Legal : Op → W → Prop
  /-- An answer that the operation may get, and the state after it. -/
  Step : (o : Op) → W → Ans o → W → Prop
  /-- What may be performed has an answer. -/
  answered : ∀ {o w}, Legal o w → ∃ a w', Step o w a w'

/-- What an operation ensures in a world: it may be performed, and every answer is as wanted. -/
def World.spec (world : World Ans W) : OpSpec Ans W where
  ensures o w post := world.Legal o w ∧ ∀ a w', world.Step o w a w' → post a w'
  mono hpost h := ⟨h.1, fun a w' hstep => hpost a w' (h.2 a w' hstep)⟩
  answered h := by
    obtain ⟨a, w', hstep⟩ := world.answered h.1
    exact ⟨a, w', h.2 a w' hstep⟩

/-- An execution of a program in a world, with its result and the last state. -/
inductive RunsIn (world : World Ans W) : Program Ans ε α → W → Except ε α → W → Prop where
  | ret (a : α) (w : W) : RunsIn world (.ret a) w (.ok a) w
  | fail (e : ε) (w : W) : RunsIn world (.fail e) w (.error e) w
  | op {o : Op} {k : Ans o → Program Ans ε α} {a : Ans o} {w w' w'' : W} {r : Except ε α}
      (hstep : world.Step o w a w') (h : RunsIn world (k a) w' r w'') :
      RunsIn world (.op o k) w r w''

namespace Program

variable {world : World Ans W} {fault : ε → W → Prop} {post : α → W → Prop} {p : Program Ans ε α}
  {w w' : W}

/-- What a program ensures holds at the end of each execution that returns. -/
theorem Ensures.of_runsIn (h : p.Ensures world.spec fault post w) {a : α}
    (hrun : RunsIn world p w (.ok a) w') : post a w' := by
  generalize hr : (Except.ok a : Except ε α) = r at hrun
  induction hrun with
  | ret b w =>
    rw [Except.ok.inj hr]
    exact h
  | fail e w => cases hr
  | op hstep _ ih => exact ih (h.2 _ _ hstep) hr

/-- What a program ensures of failures holds at the end of each execution that fails. -/
theorem Ensures.of_runsIn_error (h : p.Ensures world.spec fault post w) {e : ε}
    (hrun : RunsIn world p w (.error e) w') : fault e w' := by
  generalize hr : (Except.error e : Except ε α) = r at hrun
  induction hrun with
  | ret b w => cases hr
  | fail e' w =>
    rw [Except.error.inj hr]
    exact h
  | op hstep _ ih => exact ih (h.2 _ _ hstep) hr

/-- A program that ensures something comes to an end. -/
theorem Ensures.exists_runsIn (h : p.Ensures world.spec fault post w) :
    ∃ r w', RunsIn world p w r w' := by
  induction p generalizing w with
  | ret a => exact ⟨.ok a, w, .ret a w⟩
  | fail e => exact ⟨.error e, w, .fail e w⟩
  | op o k ih =>
    obtain ⟨a, w₁, hstep⟩ := world.answered h.1
    obtain ⟨r, w', hrun⟩ := ih a (h.2 a w₁ hstep)
    exact ⟨r, w', .op hstep hrun⟩

/-- What every step relates to its start, reflexively and transitively, a program relates to its
start. -/
theorem Ensures.and_relates (h : p.Ensures world.spec fault post w) {R : W → W → Prop}
    (hrefl : ∀ w, R w w) (htrans : ∀ u v w, R u v → R v w → R u w)
    (hstep : ∀ o w a w', world.Legal o w → world.Step o w a w' → R w w') :
    p.Ensures world.spec (fun e w' => fault e w' ∧ R w w') (fun a w' => post a w' ∧ R w w') w := by
  induction p generalizing w with
  | ret a => exact ⟨h, hrefl w⟩
  | fail e => exact ⟨h, hrefl w⟩
  | op o k ih =>
    refine ⟨h.1, fun a w₁ ha => ?_⟩
    have hR := hstep o w a w₁ h.1 ha
    exact (ih a (h.2 a w₁ ha)).mono (fun e w' he => ⟨he.1, htrans _ _ _ hR he.2⟩)
      fun b w' hb => ⟨hb.1, htrans _ _ _ hR hb.2⟩

end Program

/-! ## Worlds without a state -/

/-- The world in which every event satisfies `P`. -/
def eventWorld (P : Event Ans → Prop) : World Ans Unit where
  Legal o _ := ∃ a, P ⟨o, a⟩
  Step o _ a _ := P ⟨o, a⟩
  answered h := by
    obtain ⟨a, ha⟩ := h
    exact ⟨a, (), ha⟩

/-- The executions in such a world are those whose events all satisfy `P`. -/
theorem runsIn_eventWorld {P : Event Ans → Prop} {p : Program Ans ε α} {r : Except ε α}
    {w w' : Unit} : RunsIn (eventWorld P) p w r w' ↔ ∃ tr, p.Yields tr r ∧ ∀ e ∈ tr, P e := by
  constructor
  · intro h
    induction h with
    | ret a w => exact ⟨[], .refl _, fun e he => absurd he List.not_mem_nil⟩
    | fail e w => exact ⟨[], .refl _, fun e he => absurd he List.not_mem_nil⟩
    | op hstep _ ih =>
      obtain ⟨tr, hyields, htr⟩ := ih
      exact ⟨_ :: tr, .step hyields, List.forall_mem_cons.mpr ⟨hstep, htr⟩⟩
  · rintro ⟨tr, hyields, htr⟩
    induction p generalizing tr with
    | ret a =>
      obtain ⟨rfl, rfl⟩ := Program.yields_ret.mp hyields
      exact .ret a w
    | fail e =>
      obtain ⟨rfl, rfl⟩ := Program.yields_fail.mp hyields
      exact .fail e w
    | op o k ih =>
      obtain ⟨a, tr', rfl, hk⟩ := Program.yields_op.mp hyields
      obtain ⟨ha, htr'⟩ := List.forall_mem_cons.mp htr
      exact .op ha (ih a tr' hk htr')

end Interaction
