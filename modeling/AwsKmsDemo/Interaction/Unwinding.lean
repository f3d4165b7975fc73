import Mathlib.Order.Basic

/-!
# Runs of a labelled system

`Runs step s ls t` is a run of the system `step` along the labels `ls`. Two rules turn facts about
one step into facts about runs: `Runs.invariant`, and `Runs.unwind`, the unwinding theorem of
noninterference. The latter compares two runs of which only some labels are shared: if an unshared
step keeps the state equivalent to what it was, and a shared step takes equivalent states to
equivalent states, then runs with the same shared labels end in equivalent states.
-/

namespace Interaction

variable {S L : Type}

/-- A run along a list of labels. -/
inductive Runs (step : S → L → S → Prop) : S → List L → S → Prop where
  | nil (s : S) : Runs step s [] s
  | cons {s t u : S} {l : L} {ls : List L} (h : step s l t) (hs : Runs step t ls u) :
      Runs step s (l :: ls) u

namespace Runs

variable {step : S → L → S → Prop}

/-- What every step preserves holds at the end of every run. -/
theorem invariant {P : S → Prop} {s t : S} {ls : List L} (h : Runs step s ls t)
    (hstep : ∀ s l t, P s → step s l t → P t) (hs : P s) : P t := by
  induction h with
  | nil => exact hs
  | cons h _ ih => exact ih (hstep _ _ _ hs h)

/-- What every step relates to its start, reflexively and transitively, every run relates to its
start. -/
theorem relates {R : S → S → Prop} {s t : S} {ls : List L} (h : Runs step s ls t)
    (hrefl : ∀ s, R s s) (htrans : ∀ s t u, R s t → R t u → R s u)
    (hstep : ∀ s l t, step s l t → R s t) : R s t := by
  induction h with
  | nil => exact hrefl _
  | cons h _ ih => exact htrans _ _ _ (hstep _ _ _ h) ih

/-- Runs compose. -/
theorem append {s t u : S} {ls ms : List L} (h : Runs step s ls t) (h' : Runs step t ms u) :
    Runs step s (ls ++ ms) u := by
  induction h with
  | nil => exact h'
  | cons h _ ih => exact .cons h (ih h')

/-- A run along two lists stops in between. -/
theorem of_append {s u : S} {ls ms : List L} (h : Runs step s (ls ++ ms) u) :
    ∃ t, Runs step s ls t ∧ Runs step t ms u := by
  induction ls generalizing s with
  | nil => exact ⟨s, .nil s, h⟩
  | cons l ls ih =>
    cases h with
    | cons hl hs =>
      obtain ⟨t, h₁, h₂⟩ := ih hs
      exact ⟨t, .cons hl h₁, h₂⟩

section Unwinding

variable {E : S → S → Prop}

/-- Steps along unshared labels only stay equivalent to any state that the start is equivalent
to. -/
theorem unshared {shared : L → Bool}
    (hlocal : ∀ s l t u, shared l = false → E s u → step s l t → E t u) {s t u : S}
    {ls : List L} (h : Runs step s ls t) (hls : ls.filter shared = []) (hE : E s u) : E t u := by
  induction h with
  | nil => exact hE
  | @cons s t v l ls hl hs ih =>
    have hl' : shared l = false := by
      by_contra hne
      simp [Bool.not_eq_false] at hne
      simp [hne] at hls
    exact ih (by simpa [hl'] using hls) (hlocal _ _ _ _ hl' hE hl)

/-- The unwinding theorem: two runs with the same shared labels, from equivalent states, end in
equivalent states. -/
theorem unwind (shared : L → Bool) (hsymm : ∀ s t, E s t → E t s)
    (hlocal : ∀ s l t u, shared l = false → E s u → step s l t → E t u)
    (hshared : ∀ s l t s' t', shared l = true → E s s' → step s l t → step s' l t' → E t t')
    {s t s' t' : S} {ls ms : List L} (h : Runs step s ls t) (h' : Runs step s' ms t')
    (heq : ls.filter shared = ms.filter shared) (hE : E s s') : E t t' := by
  induction h generalizing s' ms with
  | nil => exact hsymm _ _ (h'.unshared hlocal (by simpa using heq.symm) (hsymm _ _ hE))
  | @cons s t v l ls hl hs ih =>
    by_cases hsl : shared l = true
    · -- The other run reaches the same shared label after some unshared ones.
      have hmem : ms.filter shared = l :: ls.filter shared := by rw [← heq]; simp [hsl]
      obtain ⟨pre, rest, rfl, hpre, -, hrest⟩ := List.filter_eq_cons_iff.mp hmem
      obtain ⟨m, hm₁, hm₂⟩ := of_append h'
      have hpre' : pre.filter shared = [] := by simpa using hpre
      have hEm : E s m := hsymm _ _ (hm₁.unshared hlocal hpre' (hsymm _ _ hE))
      cases hm₂ with
      | cons hl' hs' => exact ih hs' hrest.symm (hshared _ _ _ _ _ hsl hEm hl hl')
    · rw [Bool.not_eq_true] at hsl
      exact ih h' (by simpa [hsl] using heq) (hlocal _ _ _ _ hsl hE hl)

end Unwinding

end Runs

end Interaction
