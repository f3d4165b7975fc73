import Mathlib.Order.Basic

/-!
# Stores whose objects are written once

A store in which an object is written only where there is none. The order on stores is extension:
the larger store has every object of the smaller one, with the same content. Writing where there is
nothing extends a store, so whatever follows from the presence of objects stays true.
-/

namespace Storage

/-- The objects that exist, by their names. -/
structure Store (K V : Type) where
  /-- The content of the object with a name. -/
  object : K → Option V

variable {K V : Type}

namespace Store

/-- One store extends another. -/
instance : Preorder (Store K V) where
  le s t := ∀ k v, s.object k = some v → t.object k = some v
  le_refl _ _ _ h := h
  le_trans _ _ _ h h' k v hk := h' k v (h k v hk)

/-- An object of a store is in every larger store. -/
theorem object_of_le {s t : Store K V} (h : s ≤ t) {k : K} {v : V} (hk : s.object k = some v) :
    t.object k = some v :=
  h k v hk

variable [DecidableEq K]

/-- Write an object, unless there is one with that name. -/
def putIfAbsent (s : Store K V) (k : K) (v : V) : Store K V :=
  ⟨fun k' => if k' = k then some ((s.object k).getD v) else s.object k'⟩

/-- The object that was written is there, unless another one was. -/
theorem object_putIfAbsent_self (s : Store K V) (k : K) (v : V) :
    (s.putIfAbsent k v).object k = some ((s.object k).getD v) :=
  if_pos rfl

/-- Every other object is as it was. -/
theorem object_putIfAbsent_of_ne (s : Store K V) {k k' : K} (v : V) (h : k' ≠ k) :
    (s.putIfAbsent k v).object k' = s.object k' :=
  if_neg h

/-- Writing where there is nothing puts the object there. -/
theorem object_putIfAbsent_of_none {s : Store K V} {k : K} (v : V) (h : s.object k = none) :
    (s.putIfAbsent k v).object k = some v := by
  rw [object_putIfAbsent_self, h]
  rfl

/-- Writing extends the store. -/
theorem le_putIfAbsent (s : Store K V) (k : K) (v : V) : s ≤ s.putIfAbsent k v := by
  intro k' v' h
  by_cases hk : k' = k
  · subst hk
    rw [object_putIfAbsent_self, h]
    rfl
  · rw [object_putIfAbsent_of_ne s v hk, h]

/-- An object after a write was there before, or it is the one that was written. -/
theorem object_putIfAbsent_cases {s : Store K V} {k k' : K} {v v' : V}
    (h : (s.putIfAbsent k v).object k' = some v') :
    s.object k' = some v' ∨ (k' = k ∧ v' = v) := by
  by_cases hk : k' = k
  · subst hk
    rw [object_putIfAbsent_self] at h
    cases hobject : s.object k' with
    | none =>
      rw [hobject] at h
      exact .inr ⟨rfl, (Option.some.inj h).symm⟩
    | some w =>
      rw [hobject] at h
      exact .inl h
  · rw [object_putIfAbsent_of_ne s v hk] at h
    exact .inl h

/-- Stores that agree on some names still do after the same write. -/
theorem putIfAbsent_agree {s t : Store K V} (names : K → Prop)
    (h : ∀ k, names k → s.object k = t.object k) {k : K} (hk : names k) (v : V) :
    ∀ k', names k' → (s.putIfAbsent k v).object k' = (t.putIfAbsent k v).object k' := by
  intro k' hk'
  by_cases heq : k' = k
  · subst heq
    rw [object_putIfAbsent_self, object_putIfAbsent_self, h _ hk]
  · rw [object_putIfAbsent_of_ne s v heq, object_putIfAbsent_of_ne t v heq, h _ hk']

end Store

end Storage
