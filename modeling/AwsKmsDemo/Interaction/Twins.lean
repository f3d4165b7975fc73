import AwsKmsDemo.Interaction.Program

/-!
# Two executions in step

Two executions are compared that may get different answers. A `Coupling` says what their answers
have in common. It is assumed only as long as both have performed the same operations, so that it
does not itself say that they do. `Twins` is the conclusion: both perform the same operations up to
their ends.

Besides the answers, the outcomes of some calls can be assumed to agree (`Agree`).
-/

namespace Interaction

variable {Op : Type} {Ans : Op → Type} {H ε α β γ : Type}

/-- What two events of one operation have in common, given a state, and the state after them. -/
structure Coupling {Op : Type} (Ans : Op → Type) (H : Type) where
  Alike : H → Event Ans → Event Ans → Prop
  next : H → Event Ans → Event Ans → H

/-- The operations of an execution. -/
def ops (tr : List (Event Ans)) : List Op := tr.map Event.op

namespace Coupling

/-- The events are alike as long as the operations are the same. -/
def Related (c : Coupling Ans H) : H → List (Event Ans) → List (Event Ans) → Prop
  | h, e :: tr, e' :: tr' => e.op = e'.op → c.Alike h e e' ∧ c.Related (c.next h e e') tr tr'
  | _, _, _ => True

/-- The state after two executions. -/
def after (c : Coupling Ans H) : H → List (Event Ans) → List (Event Ans) → H
  | h, e :: tr, e' :: tr' => c.after (c.next h e e') tr tr'
  | h, _, _ => h

variable {c : Coupling Ans H} {h : H} {tr₁ tr₂ tr₁' tr₂' : List (Event Ans)}

/-- Executions that are related begin related. -/
theorem Related.left (hrelated : c.Related h (tr₁ ++ tr₂) (tr₁' ++ tr₂')) :
    c.Related h tr₁ tr₁' := by
  induction tr₁ generalizing h tr₁' with
  | nil => cases tr₁' <;> trivial
  | cons e tr₁ ih =>
    cases tr₁' with
    | nil => trivial
    | cons e' tr₁' =>
      intro hop
      obtain ⟨halike, hrest⟩ := hrelated hop
      exact ⟨halike, ih hrest⟩

/-- They go on related, with the state that the beginning leads to. -/
theorem Related.right (hrelated : c.Related h (tr₁ ++ tr₂) (tr₁' ++ tr₂'))
    (hops : ops tr₁ = ops tr₁') : c.Related (c.after h tr₁ tr₁') tr₂ tr₂' := by
  induction tr₁ generalizing h tr₁' with
  | nil =>
    cases tr₁' with
    | nil => exact hrelated
    | cons e' tr₁' => cases hops
  | cons e tr₁ ih =>
    cases tr₁' with
    | nil => cases hops
    | cons e' tr₁' =>
      obtain ⟨hop, hops⟩ := List.cons.inj hops
      exact ih (hrelated hop).2 hops

/-- The state after a longer execution. -/
theorem after_append (hops : ops tr₁ = ops tr₁') :
    c.after h (tr₁ ++ tr₂) (tr₁' ++ tr₂') = c.after (c.after h tr₁ tr₁') tr₂ tr₂' := by
  induction tr₁ generalizing h tr₁' with
  | nil =>
    cases tr₁' with
    | nil => rfl
    | cons e' tr₁' => cases hops
  | cons e tr₁ ih =>
    cases tr₁' with
    | nil => cases hops
    | cons e' tr₁' => exact ih (List.cons.inj hops).2

end Coupling

/-- The operations of two executions in a row. -/
theorem ops_append (tr tr' : List (Event Ans)) : ops (tr ++ tr') = ops tr ++ ops tr' :=
  List.map_append

namespace Program

/-! ## Calls -/

/-- Whenever the two executions make the same call of `C` after the same operations, the call comes
to the same verdict in both. -/
def Agree (C : Program Ans ε γ → Prop) (p : Program Ans ε α) (p' : Program Ans ε β)
    (tr tr' : List (Event Ans)) : Prop :=
  ∀ call, C call → ∀ tr₁ tr₂ tr₃ tr₁' tr₂' tr₃' q q' r r', tr = tr₁ ++ (tr₂ ++ tr₃) →
    tr' = tr₁' ++ (tr₂' ++ tr₃') → ops tr₁ = ops tr₁' → p.Steps tr₁ q → p'.Steps tr₁' q' →
    At call q → At call q' → call.Yields tr₂ r → call.Yields tr₂' r' → r.isOk = r'.isOk

variable {C : Program Ans ε γ → Prop} {tr₁ tr₂ tr₁' tr₂' : List (Event Ans)}

namespace Agree

variable {δ : Type} {p : Program Ans ε α} {p' : Program Ans ε β} {f : α → Program Ans ε δ}
  {f' : β → Program Ans ε δ}

/-- The calls of the first parts of two sequences. -/
theorem left (h : Agree C (p.bind f) (p'.bind f') (tr₁ ++ tr₂) (tr₁' ++ tr₂')) :
    Agree C p p' tr₁ tr₁' := by
  intro call hcall tr₃ tr₄ tr₅ tr₃' tr₄' tr₅' q q' r r' htr htr' hops hq hq' hat hat' hr hr'
  exact h call hcall tr₃ tr₄ (tr₅ ++ tr₂) tr₃' tr₄' (tr₅' ++ tr₂') (q.bind f) (q'.bind f') r r'
    (by simp [htr]) (by simp [htr']) hops (hq.bind f) (hq'.bind f') (.bind hat f) (.bind hat' f')
    hr hr'

/-- The calls after the first parts of two sequences. -/
theorem right {a : α} {a' : β}
    (h : Agree C (p.bind f) (p'.bind f') (tr₁ ++ tr₂) (tr₁' ++ tr₂')) (hops : ops tr₁ = ops tr₁')
    (hp : p.Yields tr₁ (.ok a)) (hp' : p'.Yields tr₁' (.ok a')) :
    Agree C (f a) (f' a') tr₂ tr₂' := by
  intro call hcall tr₃ tr₄ tr₅ tr₃' tr₄' tr₅' q q' r r' htr htr' hops' hq hq' hat hat' hr hr'
  refine h call hcall (tr₁ ++ tr₃) tr₄ tr₅ (tr₁' ++ tr₃') tr₄' tr₅' q q' r r' (by simp [htr])
    (by simp [htr']) ?_ ((Steps.bind hp f).trans hq) ((Steps.bind hp' f').trans hq') hat hat' hr hr'
  rw [ops_append, ops_append, hops, hops']

variable {handler : ε → Program Ans ε α} {handler' : ε → Program Ans ε β}

/-- The calls of two programs with handlers. -/
theorem body (h : Agree C (p.tryCatch handler) (p'.tryCatch handler') (tr₁ ++ tr₂) (tr₁' ++ tr₂')) :
    Agree C p p' tr₁ tr₁' := by
  intro call hcall tr₃ tr₄ tr₅ tr₃' tr₄' tr₅' q q' r r' htr htr' hops hq hq' hat hat' hr hr'
  exact h call hcall tr₃ tr₄ (tr₅ ++ tr₂) tr₃' tr₄' (tr₅' ++ tr₂') (q.tryCatch handler)
    (q'.tryCatch handler') r r' (by simp [htr]) (by simp [htr']) hops (hq.tryCatch handler)
    (hq'.tryCatch handler') (.tryCatch hat handler) (.tryCatch hat' handler') hr hr'

/-- The calls of two handlers. -/
theorem handled {e e' : ε}
    (h : Agree C (p.tryCatch handler) (p'.tryCatch handler') (tr₁ ++ tr₂) (tr₁' ++ tr₂'))
    (hops : ops tr₁ = ops tr₁') (hp : p.Yields tr₁ (.error e)) (hp' : p'.Yields tr₁' (.error e')) :
    Agree C (handler e) (handler' e') tr₂ tr₂' := by
  intro call hcall tr₃ tr₄ tr₅ tr₃' tr₄' tr₅' q q' r r' htr htr' hops' hq hq' hat hat' hr hr'
  refine h call hcall (tr₁ ++ tr₃) tr₄ tr₅ (tr₁' ++ tr₃') tr₄' tr₅' q q' r r' (by simp [htr])
    (by simp [htr']) ?_ ((Steps.tryCatch hp handler).trans hq)
    ((Steps.tryCatch hp' handler').trans hq') hat hat' hr hr'
  rw [ops_append, ops_append, hops, hops']

/-- The calls after an operation. -/
theorem op {o : Op} {k : Ans o → Program Ans ε α} {k' : Ans o → Program Ans ε β} {a a' : Ans o}
    (h : Agree C (.op o k) (.op o k') (⟨o, a⟩ :: tr₁) (⟨o, a'⟩ :: tr₁')) :
    Agree C (k a) (k' a') tr₁ tr₁' := by
  intro call hcall tr₃ tr₄ tr₅ tr₃' tr₄' tr₅' q q' r r' htr htr' hops' hq hq' hat hat' hr hr'
  refine h call hcall (⟨o, a⟩ :: tr₃) tr₄ tr₅ (⟨o, a'⟩ :: tr₃') tr₄' tr₅' q q' r r' (by simp [htr])
    (by simp [htr']) ?_ (.step hq) (.step hq') hat hat' hr hr'
  exact congrArg (o :: ·) hops'

end Agree

/-! ## Twins -/

/-- Whenever two finished executions of these programs are alike and their calls agree, they have
performed the same operations, and their results satisfy `post`. -/
def Twins (c : Coupling Ans H) (C : Program Ans ε γ → Prop) (p : Program Ans ε α)
    (p' : Program Ans ε β) (h : H) (post : Except ε α → Except ε β → H → Prop) : Prop :=
  ∀ tr tr' r r', p.Yields tr r → p'.Yields tr' r' → c.Related h tr tr' → Agree C p p' tr tr' →
    ops tr = ops tr' ∧ post r r' (c.after h tr tr')

variable {c : Coupling Ans H} {h : H} {p : Program Ans ε α} {p' : Program Ans ε β}
  {post : Except ε α → Except ε β → H → Prop}

namespace Twins

/-- Twins have a weaker property in common too. -/
theorem imp {post' : Except ε α → Except ε β → H → Prop} (hp : Twins c C p p' h post)
    (hpost : ∀ r r' h', post r r' h' → post' r r' h') : Twins c C p p' h post' := by
  intro tr tr' r r' hr hr' hrelated hagree
  obtain ⟨hops, hend⟩ := hp tr tr' r r' hr hr' hrelated hagree
  exact ⟨hops, hpost r r' _ hend⟩

/-- Two computed results. -/
theorem ofExcept {x : Except ε α} {x' : Except ε β} (hpost : post x x' h) :
    Twins c C (.ofExcept x) (.ofExcept x') h post := by
  intro tr tr' r r' hr hr' _ _
  obtain ⟨rfl, rfl⟩ := yields_ofExcept.mp hr
  obtain ⟨rfl, rfl⟩ := yields_ofExcept.mp hr'
  exact ⟨rfl, hpost⟩

/-- Both programs have returned. -/
theorem ret {a : α} {b : β} (hpost : post (.ok a) (.ok b) h) :
    Twins c C (.ret a) (.ret b) h post := by
  intro tr tr' r r' hr hr' _ _
  obtain ⟨rfl, rfl⟩ := yields_ret.mp hr
  obtain ⟨rfl, rfl⟩ := yields_ret.mp hr'
  exact ⟨rfl, hpost⟩

/-- Both programs have failed. -/
theorem fail {e e' : ε} (hpost : post (.error e) (.error e') h) :
    Twins c C (.fail e) (.fail e') h post := by
  intro tr tr' r r' hr hr' _ _
  obtain ⟨rfl, rfl⟩ := yields_fail.mp hr
  obtain ⟨rfl, rfl⟩ := yields_fail.mp hr'
  exact ⟨rfl, hpost⟩

/-- The same operation, whose answers are alike. -/
theorem op {o : Op} {k : Ans o → Program Ans ε α} {k' : Ans o → Program Ans ε β}
    (hk : ∀ a a', c.Alike h ⟨o, a⟩ ⟨o, a'⟩ →
      Twins c C (k a) (k' a') (c.next h ⟨o, a⟩ ⟨o, a'⟩) post) :
    Twins c C (.op o k) (.op o k') h post := by
  intro tr tr' r r' hr hr' hrelated hagree
  obtain ⟨a, tr₁, rfl, hr₁⟩ := yields_op.mp hr
  obtain ⟨a', tr₁', rfl, hr₁'⟩ := yields_op.mp hr'
  obtain ⟨halike, hrest⟩ := hrelated rfl
  obtain ⟨hops, hpost⟩ := hk a a' halike tr₁ tr₁' r r' hr₁ hr₁' hrest hagree.op
  exact ⟨congrArg (o :: ·) hops, hpost⟩

/-- The rule of sequencing: the first parts return in both programs or fail in both. -/
theorem bind {δ : Type} {f : α → Program Ans ε δ} {f' : β → Program Ans ε δ}
    {post : Except ε δ → Except ε δ → H → Prop}
    (hp : Twins c C p p' h fun r r' h' =>
      match r, r' with
      | .ok a, .ok a' => Twins c C (f a) (f' a') h' post
      | .error e, .error e' => post (.error e) (.error e') h'
      | _, _ => False) :
    Twins c C (p.bind f) (p'.bind f') h post := by
  intro tr tr' r r' hr hr' hrelated hagree
  rcases yields_bind.mp hr with ⟨e, he, rfl⟩ | ⟨tr₁, tr₂, a, rfl, ha, hrest⟩
  · rcases yields_bind.mp hr' with ⟨e', he', rfl⟩ | ⟨tr₁', tr₂', a', rfl, ha', hrest'⟩
    · rw [← List.append_nil tr, ← List.append_nil tr'] at hrelated hagree
      exact hp tr tr' _ _ he he' hrelated.left hagree.left
    · rw [← List.append_nil tr] at hrelated hagree
      exact (hp tr tr₁' _ _ he ha' hrelated.left hagree.left).2.elim
  · rcases yields_bind.mp hr' with ⟨e', he', rfl⟩ | ⟨tr₁', tr₂', a', rfl, ha', hrest'⟩
    · rw [← List.append_nil tr'] at hrelated hagree
      exact (hp tr₁ tr' _ _ ha he' hrelated.left hagree.left).2.elim
    · obtain ⟨hops, hnext⟩ := hp tr₁ tr₁' _ _ ha ha' hrelated.left hagree.left
      obtain ⟨hops', hpost⟩ := hnext tr₂ tr₂' r r' hrest hrest' (hrelated.right hops)
        (hagree.right hops ha ha')
      rw [ops_append, ops_append, hops, hops', Coupling.after_append hops]
      exact ⟨rfl, hpost⟩

/-- The rule of handlers. -/
theorem tryCatch {p' : Program Ans ε α} {handler handler' : ε → Program Ans ε α}
    {post : Except ε α → Except ε α → H → Prop}
    (hp : Twins c C p p' h fun r r' h' =>
      match r, r' with
      | .ok a, .ok a' => post (.ok a) (.ok a') h'
      | .error e, .error e' => Twins c C (handler e) (handler' e') h' post
      | _, _ => False) :
    Twins c C (p.tryCatch handler) (p'.tryCatch handler') h post := by
  intro tr tr' r r' hr hr' hrelated hagree
  rcases yields_tryCatch.mp hr with ⟨a, ha, rfl⟩ | ⟨tr₁, tr₂, e, rfl, he, hrest⟩
  · rcases yields_tryCatch.mp hr' with ⟨a', ha', rfl⟩ | ⟨tr₁', tr₂', e', rfl, he', hrest'⟩
    · rw [← List.append_nil tr, ← List.append_nil tr'] at hrelated hagree
      exact hp tr tr' _ _ ha ha' hrelated.left hagree.body
    · rw [← List.append_nil tr] at hrelated hagree
      exact (hp tr tr₁' _ _ ha he' hrelated.left hagree.body).2.elim
  · rcases yields_tryCatch.mp hr' with ⟨a', ha', rfl⟩ | ⟨tr₁', tr₂', e', rfl, he', hrest'⟩
    · rw [← List.append_nil tr'] at hrelated hagree
      exact (hp tr₁ tr' _ _ he ha' hrelated.left hagree.body).2.elim
    · obtain ⟨hops, hnext⟩ := hp tr₁ tr₁' _ _ he he' hrelated.left hagree.body
      obtain ⟨hops', hpost⟩ := hnext tr₂ tr₂' r r' hrest hrest' (hrelated.right hops)
        (hagree.handled hops he he')
      rw [ops_append, ops_append, hops, hops', Coupling.after_append hops]
      exact ⟨rfl, hpost⟩

/-- A call whose verdicts are assumed to agree. -/
theorem call {p : Program Ans ε γ} {post : Except ε γ → Except ε γ → H → Prop}
    (hp : Twins c C p p h post) (hC : C p) :
    Twins c C p p h fun r r' h' => post r r' h' ∧ r.isOk = r'.isOk := by
  intro tr tr' r r' hr hr' hrelated hagree
  obtain ⟨hops, hpost⟩ := hp tr tr' r r' hr hr' hrelated hagree
  refine ⟨hops, hpost, ?_⟩
  exact hagree p hC [] tr [] [] tr' [] p p r r' (by simp) (by simp) rfl (.refl _) (.refl _) .refl
    .refl hr hr'

/-- A program whose operations all get the same answers has the same result. -/
theorem self {allowed : Op → Prop} {p : Program Ans ε α} (hp : p.Uses allowed)
    (hallowed : ∀ o, allowed o → ∀ a a', c.Alike h ⟨o, a⟩ ⟨o, a'⟩ →
      a = a' ∧ c.next h ⟨o, a⟩ ⟨o, a'⟩ = h) :
    Twins c C p p h fun r r' h' => r = r' ∧ h' = h := by
  induction p with
  | ret a => exact Twins.ret ⟨rfl, rfl⟩
  | fail e => exact Twins.fail ⟨rfl, rfl⟩
  | op o k ih =>
    refine Twins.op fun a a' halike => ?_
    obtain ⟨rfl, hnext⟩ := hallowed o hp.1 a a' halike
    rw [hnext]
    exact ih a (hp.2 a)

/-- A first part with the same result in both programs. -/
theorem bind_self {δ : Type} {p : Program Ans ε α} {f f' : α → Program Ans ε δ}
    {post : Except ε δ → Except ε δ → H → Prop}
    (hp : Twins c C p p h fun r r' h' => r = r' ∧ h' = h)
    (hf : ∀ a, Twins c C (f a) (f' a) h post) (hfail : ∀ e, post (.error e) (.error e) h) :
    Twins c C (p.bind f) (p.bind f') h post := by
  refine Twins.bind (hp.imp fun r r' h' hsame => ?_)
  obtain ⟨rfl, rfl⟩ := hsame
  cases r with
  | ok a => exact hf a
  | error e => exact hfail e

/-- A computed result that is the same in both programs. -/
theorem ofExcept_bind {δ : Type} {x : Except ε α} {f f' : α → Program Ans ε δ}
    {post : Except ε δ → Except ε δ → H → Prop}
    (hf : ∀ a, x = .ok a → Twins c C (f a) (f' a) h post)
    (hfail : ∀ e, x = .error e → post (.error e) (.error e) h) :
    Twins c C ((Program.ofExcept x).bind f) ((Program.ofExcept x).bind f') h post := by
  refine Twins.bind (Twins.ofExcept ?_)
  cases x with
  | ok a => exact hf a rfl
  | error e => exact hfail e rfl

/-- The failures are among those that the programs can end with. -/
theorem and_failsOnly {allowed : ε → Prop} (hp : Twins c C p p' h post)
    (hfails : p.FailsOnly allowed) (hfails' : p'.FailsOnly allowed) :
    Twins c C p p' h fun r r' h' => post r r' h' ∧ (∀ e, r = .error e → allowed e) ∧
      ∀ e, r' = .error e → allowed e := by
  intro tr tr' r r' hr hr' hrelated hagree
  obtain ⟨hops, hpost⟩ := hp tr tr' r r' hr hr' hrelated hagree
  refine ⟨hops, hpost, ?_, ?_⟩
  · rintro e rfl
    exact hfails.of_yields hr
  · rintro e rfl
    exact hfails'.of_yields hr'

/-- Programs that perform nothing more. -/
theorem silent (hp : p.Uses fun _ => False) (hp' : p'.Uses fun _ => False)
    (hpost : ∀ r r', post r r' h) : Twins c C p p' h post := by
  intro tr tr' r r' hr hr' _ _
  have htr : tr = [] := List.eq_nil_iff_forall_not_mem.mpr (hp.of_steps hr).1
  have htr' : tr' = [] := List.eq_nil_iff_forall_not_mem.mpr (hp'.of_steps hr').1
  subst htr htr'
  exact ⟨rfl, hpost r r'⟩

end Twins

/-! ## Programs that end with an operation -/

/-- The program performs operations of `before`, and after one of `last` nothing more. -/
def EndsAfter (before last : Op → Prop) : Program Ans ε α → Prop
  | .ret _ => True
  | .fail _ => True
  | .op o k => (last o ∧ ∀ a, (k a).Uses fun _ => False) ∨
      (before o ∧ ∀ a, (k a).EndsAfter before last)

namespace EndsAfter

variable {before last : Op → Prop} {δ : Type} {f : α → Program Ans ε δ}

/-- What follows may compute, but performs nothing. -/
theorem bind_silent (hp : p.EndsAfter before last) (hf : ∀ a, (f a).Uses fun _ => False) :
    (p.bind f).EndsAfter before last := by
  induction p with
  | ret a =>
    have ha := hf a
    rw [ret_bind]
    cases hfa : f a with
    | ret b => trivial
    | fail e => trivial
    | op o k =>
      rw [hfa] at ha
      exact ha.1.elim
  | fail e => trivial
  | op o k ih =>
    rcases hp with ⟨ho, hk⟩ | ⟨ho, hk⟩
    · exact .inl ⟨ho, fun a => (hk a).bind hf⟩
    · exact .inr ⟨ho, fun a => ih a (hk a)⟩

/-- What comes first may perform operations of `before`. -/
theorem of_uses_bind (hp : p.Uses before) (hf : ∀ a, (f a).EndsAfter before last) :
    (p.bind f).EndsAfter before last := by
  induction p with
  | ret a => exact hf a
  | fail e => trivial
  | op o k ih => exact .inr ⟨hp.1, fun a => ih a (hp.2 a)⟩

/-- What comes first may be computed. -/
theorem ofExcept_bind {x : Except ε α} (hf : ∀ a, x = .ok a → (f a).EndsAfter before last) :
    ((Program.ofExcept x).bind f).EndsAfter before last := by
  cases x with
  | ok a => exact hf a rfl
  | error e => trivial

/-- What answers the last operation has no influence on the operations. -/
theorem twins (hp : p.EndsAfter before last)
    (hbefore : ∀ o, before o → ∀ a a', c.Alike h ⟨o, a⟩ ⟨o, a'⟩ →
      a = a' ∧ c.next h ⟨o, a⟩ ⟨o, a'⟩ = h)
    (hlast : ∀ o, last o → ∀ a a', c.next h ⟨o, a⟩ ⟨o, a'⟩ = h) :
    Twins c C p p h fun _ _ h' => h' = h := by
  induction p with
  | ret a => exact Twins.ret rfl
  | fail e => exact Twins.fail rfl
  | op o k ih =>
    rcases hp with ⟨ho, hk⟩ | ⟨ho, hk⟩
    · exact Twins.op fun a a' _ => Twins.silent (hk a) (hk a') fun _ _ => hlast o ho a a'
    · refine Twins.op fun a a' halike => ?_
      obtain ⟨rfl, hnext⟩ := hbefore o ho a a' halike
      rw [hnext]
      exact ih a (hk a)

end EndsAfter

end Program

end Interaction
