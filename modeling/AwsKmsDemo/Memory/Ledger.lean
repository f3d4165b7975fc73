import Mathlib.Algebra.Order.Group.Multiset
import Mathlib.Logic.Function.Basic

/-!
# A ledger of what is held

Objects that are acquired and released by their addresses. A `Ledger` knows which objects are held,
and keeps an entry for everything that was acquired and released so far. An address may be used
again once its object was released.
-/

namespace Memory

variable {P O : Type}

/-- An entry of a ledger. A release records what the object was at that time. -/
inductive Entry (P O : Type) where
  | acquired (p : P)
  | released (p : P) (o : O)

/-- The objects that are held, and the entries so far. -/
structure Ledger (P O : Type) where
  held : P → Option O
  entries : List (Entry P O)

/-- Besides what was held at first, these objects are held, at different addresses. -/
structure Holds (base : P → Option O) (objects : Multiset (P × O)) (held : P → Option O) :
    Prop where
  nodup : (objects.map Prod.fst).Nodup
  free : ∀ e ∈ objects, base e.1 = none
  object : ∀ e ∈ objects, held e.1 = some e.2
  /-- Nothing else has changed. -/
  frame : ∀ p, p ∉ objects.map Prod.fst → held p = base p

/-- The object at an address, unless there is no address. -/
def optional (p : Option P) (o : O) : Multiset (P × O) :=
  match p with
  | some p => {(p, o)}
  | none => 0

/-- Without an address there is no object. -/
@[simp] theorem optional_none (o : O) : optional (none : Option P) o = 0 := rfl

/-- With an address there is its object. -/
@[simp] theorem optional_some (p : P) (o : O) : optional (some p) o = {(p, o)} := rfl

/-- A store that has not changed holds no new objects. -/
theorem Holds.zero (held : P → Option O) : Holds held 0 held :=
  ⟨Multiset.nodup_zero, by simp, by simp, fun _ _ => rfl⟩

/-- An object that is held is at its address. -/
theorem Holds.held_eq {base held : P → Option O} {objects : Multiset (P × O)} {p : P} {o : O}
    (h : Holds base ({(p, o)} + objects) held) : held p = some o :=
  h.object (p, o) (Multiset.mem_add.mpr (.inl (Multiset.mem_singleton_self _)))

variable [DecidableEq P]

namespace Ledger

/-- Acquire an object at an address. -/
def acquire (l : Ledger P O) (p : P) (o : O) : Ledger P O where
  held := Function.update l.held p (some o)
  entries := l.entries ++ [.acquired p]

/-- Release the object at an address. -/
def release (l : Ledger P O) (p : P) (o : O) : Ledger P O where
  held := Function.update l.held p none
  entries := l.entries ++ [.released p o]

/-- Change the object at an address. -/
def write (l : Ledger P O) (p : P) (o : O) : Ledger P O where
  held := Function.update l.held p (some o)
  entries := l.entries

end Ledger

/-! ## Exactly once -/

/-- How often an address was acquired. -/
def acquisitions (p : P) (entries : List (Entry P O)) : ℕ :=
  entries.countP fun | .acquired q => q = p | .released _ _ => false

/-- How often the object at an address was released. -/
def releases (p : P) (entries : List (Entry P O)) : ℕ :=
  entries.countP fun | .acquired _ => false | .released q _ => q = p

omit [DecidableEq P] in
/-- Whether an object is held, as a number. -/
def holding (held : P → Option O) (p : P) : ℕ := if (held p).isSome then 1 else 0

/-- The entries since an earlier ledger account for what is held now. -/
def Since (l l' : Ledger P O) : Prop :=
  ∃ new, l'.entries = l.entries ++ new ∧
    ∀ p, acquisitions p new + holding l.held p = releases p new + holding l'.held p

/-- Nothing has happened. -/
theorem Since.refl (l : Ledger P O) : Since l l :=
  ⟨[], (List.append_nil _).symm, fun _ => rfl⟩

/-- The entries of two periods together account for what is held. -/
theorem Since.trans {l l' l'' : Ledger P O} (h : Since l l') (h' : Since l' l'') : Since l l'' := by
  obtain ⟨new, hentries, hcount⟩ := h
  obtain ⟨new', hentries', hcount'⟩ := h'
  refine ⟨new ++ new', by rw [hentries', hentries, List.append_assoc], fun p => ?_⟩
  have hp := hcount p
  have hp' := hcount' p
  unfold acquisitions releases at hp hp' ⊢
  rw [List.countP_append, List.countP_append]
  omega

/-- One address counts as it is set, and the others as before. -/
theorem holding_update (held : P → Option O) (p q : P) (o : Option O) :
    holding (Function.update held p o) q =
      if q = p then (if o.isSome then 1 else 0) else holding held q := by
  unfold holding
  by_cases hq : q = p
  · simp only [hq, Function.update_self, if_true]
  · simp only [hq, Function.update_of_ne hq, if_false]

variable {l : Ledger P O} {base held : P → Option O} {objects : Multiset (P × O)} {p : P} {o o' : O}

/-- Only what is not held can be acquired. -/
theorem since_acquire (o : O) (h : l.held p = none) : Since l (l.acquire p o) := by
  refine ⟨[.acquired p], rfl, fun q => ?_⟩
  unfold Ledger.acquire
  dsimp only
  rw [holding_update]
  by_cases hq : q = p
  · subst hq
    simp [acquisitions, releases, holding, h]
  · simp [acquisitions, releases, hq, Ne.symm hq]

/-- Only what is held can be released. -/
theorem since_release (h : l.held p = some o) (o' : O) : Since l (l.release p o') := by
  refine ⟨[.released p o'], rfl, fun q => ?_⟩
  unfold Ledger.release
  dsimp only
  rw [holding_update]
  by_cases hq : q = p
  · subst hq
    simp [acquisitions, releases, holding, h]
  · simp [acquisitions, releases, hq, Ne.symm hq]

/-- Only what is held can be changed. -/
theorem since_write (h : l.held p = some o) (o' : O) : Since l (l.write p o') := by
  refine ⟨[], (List.append_nil _).symm, fun q => ?_⟩
  unfold Ledger.write
  dsimp only
  rw [holding_update]
  by_cases hq : q = p
  · subst hq
    simp [acquisitions, releases, holding, h]
  · simp [acquisitions, releases, hq]

/-! ## What is held besides -/

/-- One more object is held. -/
theorem Holds.acquire (h : Holds base objects held) (o : O) (hp : held p = none) :
    Holds base ({(p, o)} + objects) (Function.update held p (some o)) := by
  have hnew : p ∉ objects.map Prod.fst := by
    intro hmem
    obtain ⟨e, he, rfl⟩ := Multiset.mem_map.mp hmem
    rw [h.object e he] at hp
    cases hp
  rw [Multiset.singleton_add]
  refine ⟨?_, fun e he => ?_, fun e he => ?_, fun q hq => ?_⟩
  · rw [Multiset.map_cons]
    exact Multiset.nodup_cons.mpr ⟨hnew, h.nodup⟩
  · rcases Multiset.mem_cons.mp he with rfl | he
    · exact (h.frame _ hnew).symm.trans hp
    · exact h.free e he
  · rcases Multiset.mem_cons.mp he with rfl | he
    · exact Function.update_self _ _ _
    · have hne : e.1 ≠ p := fun heq => hnew (Multiset.mem_map.mpr ⟨e, he, heq⟩)
      rw [Function.update_of_ne hne]
      exact h.object e he
  · rw [Multiset.map_cons] at hq
    obtain ⟨hne, hrest⟩ := not_or.mp (mt Multiset.mem_cons.mpr hq)
    rw [Function.update_of_ne hne]
    exact h.frame q hrest

/-- One object less is held. -/
theorem Holds.release (h : Holds base ({(p, o)} + objects) held) :
    Holds base objects (Function.update held p none) := by
  rw [Multiset.singleton_add] at h
  have hall := h.nodup
  rw [Multiset.map_cons] at hall
  obtain ⟨hnew, hnodup⟩ := Multiset.nodup_cons.mp hall
  refine ⟨hnodup, fun e he => h.free e (Multiset.mem_cons_of_mem he), fun e he => ?_,
    fun q hq => ?_⟩
  · have hne : e.1 ≠ p := fun heq => hnew (Multiset.mem_map.mpr ⟨e, he, heq⟩)
    rw [Function.update_of_ne hne]
    exact h.object e (Multiset.mem_cons_of_mem he)
  · by_cases hqp : q = p
    · rw [hqp, Function.update_self]
      exact (h.free (p, o) (Multiset.mem_cons_self _ _)).symm
    · rw [Function.update_of_ne hqp]
      refine h.frame q fun hmem => ?_
      rw [Multiset.map_cons] at hmem
      exact (Multiset.mem_cons.mp hmem).elim hqp hq

/-- An object is changed. -/
theorem Holds.write (h : Holds base ({(p, o)} + objects) held) (o' : O) :
    Holds base ({(p, o')} + objects) (Function.update held p (some o')) := by
  have hreleased := h.release.acquire (p := p) o' (Function.update_self _ _ _)
  rwa [Function.update_idem] at hreleased

/-- Since an earlier ledger, every object was released as often as it was acquired, except for these
objects, which are held. -/
def Accounts (l : Ledger P O) (objects : Multiset (P × O)) (l' : Ledger P O) : Prop :=
  ∃ new, l'.entries = l.entries ++ new ∧
    ∀ p, acquisitions p new = releases p new + (objects.map Prod.fst).count p

/-- The entries account for the objects that are held now. -/
theorem Since.accounts {l' : Ledger P O} (h : Since l l') (hholds : Holds l.held objects l'.held) :
    Accounts l objects l' := by
  obtain ⟨new, hentries, hcount⟩ := h
  refine ⟨new, hentries, fun p => ?_⟩
  have hp := hcount p
  by_cases hmem : p ∈ objects.map Prod.fst
  · obtain ⟨e, he, rfl⟩ := Multiset.mem_map.mp hmem
    rw [Multiset.count_eq_one_of_mem hholds.nodup hmem]
    have hbefore : holding l.held e.1 = 0 := by simp [holding, hholds.free e he]
    have hafter : holding l'.held e.1 = 1 := by simp [holding, hholds.object e he]
    omega
  · rw [Multiset.count_eq_zero_of_notMem hmem]
    have hsame : holding l'.held p = holding l.held p := by
      unfold holding
      rw [hholds.frame p hmem]
    omega

end Memory
