import AwsKmsDemo.Interaction.Program
import Mathlib.Logic.Relation

/-!
# What a system comes to eventually

`Eventually step Q s`: wherever the steps lead from `s`, a state that satisfies `Q` is reached after
finitely many of them, and until then there always is a next step. A program comes to its end in
this sense (`Program.wellFounded_follows`).
-/

namespace Interaction

variable {S : Type} {step : S → S → Prop} {P Q Inv : S → Prop} {s : S}

/-- Every way to go on from a state leads to `Q`, and there is one unless `Q` holds already. -/
inductive Eventually (step : S → S → Prop) (Q : S → Prop) : S → Prop where
  | now {s : S} (h : Q s) : Eventually step Q s
  | later {s : S} (hnext : ∃ t, step s t) (h : ∀ t, step s t → Eventually step Q t) :
      Eventually step Q s

namespace Eventually

/-- What eventually leads to `Q` from every state of `P` does so from where `P` holds eventually. -/
theorem trans (h : Eventually step P s) (hP : ∀ s, P s → Eventually step Q s) :
    Eventually step Q s := by
  induction h with
  | now h => exact hP _ h
  | later hnext _ ih => exact .later hnext ih

/-- A weaker property is reached too. -/
theorem mono (h : Eventually step P s) (hP : ∀ s, P s → Q s) : Eventually step Q s :=
  h.trans fun s hs => .now (hP s hs)

/-- What every step preserves still holds when `Q` does. -/
theorem and_invariant (h : Eventually step Q s) (hstep : ∀ s t, Inv s → step s t → Inv t)
    (hs : Inv s) : Eventually step (fun t => Q t ∧ Inv t) s := by
  induction h with
  | now h => exact .now ⟨h, hs⟩
  | later hnext _ ih => exact .later hnext fun t ht => ih t ht (hstep _ _ hs ht)

/-- There is a way to a state that satisfies `Q`. -/
theorem exists_reached (h : Eventually step Q s) : ∃ t, Relation.ReflTransGen step s t ∧ Q t := by
  induction h with
  | now h => exact ⟨_, .refl, h⟩
  | later hnext _ ih =>
    obtain ⟨t, ht⟩ := hnext
    obtain ⟨u, hu, hQ⟩ := ih t ht
    exact ⟨u, .head ht hu, hQ⟩

/-- If the steps come to an end, and an invariant leaves a next step until `Q` holds, then `Q` holds
eventually. -/
theorem of_invariant (hwf : WellFounded (flip step)) (hstep : ∀ s t, Inv s → step s t → Inv t)
    (hnext : ∀ s, Inv s → Q s ∨ ∃ t, step s t) (hs : Inv s) : Eventually step Q s := by
  induction s using hwf.induction with
  | _ s ih =>
    rcases hnext s hs with hQ | hnext
    · exact .now hQ
    · exact .later hnext fun t ht => ih t ht (hstep s t hs ht)

end Eventually

/-! ## Programs come to an end -/

variable {Op : Type} {Ans : Op → Type} {ε α : Type}

/-- A program is what another one comes to by its first operation. -/
def Program.Follows (q p : Program Ans ε α) : Prop := ∃ o k a, p = .op o k ∧ q = k a

/-- A program performs finitely many operations, whatever the answers are. -/
theorem Program.wellFounded_follows : WellFounded fun q p : Program Ans ε α => q.Follows p := by
  refine ⟨fun p => ?_⟩
  induction p with
  | ret a => exact ⟨_, fun q ⟨_, _, _, h, _⟩ => by cases h⟩
  | fail e => exact ⟨_, fun q ⟨_, _, _, h, _⟩ => by cases h⟩
  | op o k ih =>
    refine ⟨_, fun q hq => ?_⟩
    obtain ⟨o', k', a, h, rfl⟩ := hq
    cases h
    exact ih a

end Interaction
