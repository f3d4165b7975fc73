import AwsKmsDemo.Interaction.Ensures
import AwsKmsDemo.Interaction.Eventually
import AwsKmsDemo.Interaction.Service

/-!
# A client that is alone

One client of a service goes on while nobody else does anything, and in circumstances that restrict
what its operations may be answered (`Solo`). What its program ensures under these circumstances
comes to pass (`eventually_of_ensures`).
-/

namespace Interaction

variable {Op : Type} {Ans : Op → Type} {σ τ ι ε α β : Type} [DecidableEq ι]

/-- The circumstances under which a client uses a service alone. -/
structure Service.Solo (S : Service Ans σ τ) where
  /-- The answers to operations of the client's own. -/
  Answers : Event Ans → Prop
  /-- How a call reaches the service. -/
  Call : σ → Op → τ → σ → Prop
  /-- A step of the service for a ticket. -/
  Serve : τ → σ → σ → Prop
  /-- How a ticket is answered. -/
  Reply : σ → τ → (o : Op) → Ans o → Prop
  call_le : ∀ {s o t s'}, Call s o t s' → S.Call s o t s'
  serve_le : ∀ {t s s'}, Serve t s s' → S.Work s s'
  reply_le : ∀ {s t o a}, Reply s t o a → S.Reply s t o a

namespace Service.Solo

variable {S : Service Ans σ τ} (U : S.Solo)

/-- The steps of a service and its clients when the client `m` is alone. -/
inductive Step (m : ι) : Clients Ans σ τ ι ε α → Clients Ans σ τ ι ε α → Prop where
  | act {s : Clients Ans σ τ ι ε α} {tr : List (Event Ans)} {o : Op} {k : Ans o → Program Ans ε α}
      (a : Ans o) (ho : ¬ S.Remote o) (ha : U.Answers ⟨o, a⟩)
      (hm : s.clients m = ⟨tr, .op o k, none⟩) :
      Step m s { s with clients := Function.update s.clients m ⟨tr ++ [⟨o, a⟩], k a, none⟩ }
  | call {s : Clients Ans σ τ ι ε α} {tr : List (Event Ans)} {o : Op} {k : Ans o → Program Ans ε α}
      {t : τ} {service : σ} (ho : S.Remote o) (hm : s.clients m = ⟨tr, .op o k, none⟩)
      (hcall : U.Call s.service o t service) :
      Step m s
        { service := service, clients := Function.update s.clients m ⟨tr, .op o k, some t⟩ }
  | serve {s : Clients Ans σ τ ι ε α} {t : τ} {service : σ} (hm : (s.clients m).pending = some t)
      (hserve : U.Serve t s.service service) : Step m s { s with service := service }
  | reply {s : Clients Ans σ τ ι ε α} {tr : List (Event Ans)} {o : Op} {k : Ans o → Program Ans ε α}
      {t : τ} (a : Ans o) (hm : s.clients m = ⟨tr, .op o k, some t⟩)
      (ha : U.Reply s.service t o a) :
      Step m s { s with clients := Function.update s.clients m ⟨tr ++ [⟨o, a⟩], k a, none⟩ }

variable {U}

/-- What a client does alone, it may do. -/
theorem Step.step {m : ι} {s t : Clients Ans σ τ ι ε α} (h : U.Step m s t) : S.Step s t := by
  cases h with
  | act a ho ha hm => exact .act m a ho hm
  | call ho hm hcall => exact .call m ho hm (U.call_le hcall)
  | serve hm hserve => exact .work (U.serve_le hserve)
  | reply a hm ha => exact .reply m a hm (U.reply_le ha)

/-- The other clients stay where they are. -/
theorem Step.clients_of_ne {m n : ι} {s t : Clients Ans σ τ ι ε α}
    (h : U.Step m s t) (hne : n ≠ m) : t.clients n = s.clients n := by
  cases h with
  | act a ho ha hm => exact Function.update_of_ne hne _ _
  | call ho hm hcall => exact Function.update_of_ne hne _ _
  | serve hm hserve => rfl
  | reply a hm ha => exact Function.update_of_ne hne _ _

/-! ## What the circumstances ensure -/

variable (U)

/-- The ticket of an operation is answered in the end, and however that is, `post` holds. -/
inductive Served (t : τ) (o : Op) (post : Ans o → σ → Prop) : σ → Prop where
  | intro {s : σ} (hnext : (∃ s', U.Serve t s s') ∨ ∃ a, U.Reply s t o a)
      (hserve : ∀ s', U.Serve t s s' → Served t o post s')
      (hreply : ∀ a, U.Reply s t o a → post a s) :
      Served t o post s

variable {U}

/-- A weaker property of the answers is served too. -/
theorem Served.mono {t : τ} {o : Op} {post post' : Ans o → σ → Prop} {s : σ}
    (h : U.Served t o post s) (hpost : ∀ a s', post a s' → post' a s') : U.Served t o post' s := by
  induction h with
  | intro hnext _ hreply ih => exact .intro hnext ih fun a ha => hpost a _ (hreply a ha)

/-- There is an answer. -/
theorem Served.exists_answer {t : τ} {o : Op} {post : Ans o → σ → Prop} {s : σ}
    (h : U.Served t o post s) : ∃ a s', post a s' := by
  induction h with
  | intro hnext _ hreply ih =>
    rcases hnext with ⟨s', hserve⟩ | ⟨a, ha⟩
    · exact ih s' hserve
    · exact ⟨a, _, hreply a ha⟩

variable (U)

/-- The operations of a client that is alone. The world is the state of the service, and what has
happened to the client. -/
def spec : OpSpec Ans (σ × List (Event Ans)) where
  ensures o w post :=
    (S.Remote o → (∃ t s, U.Call w.1 o t s) ∧ ∀ t s, U.Call w.1 o t s →
      U.Served t o (fun a s' => post a (s', w.2 ++ [⟨o, a⟩])) s) ∧
    (¬ S.Remote o → (∃ a, U.Answers ⟨o, a⟩) ∧
      ∀ a, U.Answers ⟨o, a⟩ → post a (w.1, w.2 ++ [⟨o, a⟩]))
  mono hpost h :=
    ⟨fun ho => ⟨(h.1 ho).1, fun t s hcall => ((h.1 ho).2 t s hcall).mono fun _ _ => hpost _ _⟩,
      fun ho => ⟨(h.2 ho).1, fun a ha => hpost _ _ ((h.2 ho).2 a ha)⟩⟩
  answered {o w post} h := by
    by_cases ho : S.Remote o
    · obtain ⟨⟨t, s, hcall⟩, hall⟩ := h.1 ho
      obtain ⟨a, s', ha⟩ := (hall t s hcall).exists_answer
      exact ⟨a, _, ha⟩
    · obtain ⟨⟨a, ha⟩, hall⟩ := h.2 ho
      exact ⟨a, _, hall a ha⟩

variable {U} {w : σ × List (Event Ans)}

/-- The events of a client that is alone are recorded in its world. -/
theorem spec_records {o : Op} {post : Ans o → σ × List (Event Ans) → Prop}
    (h : U.spec.ensures o w post) :
    U.spec.ensures o w fun a w' => post a w' ∧ w'.2 = w.2 ++ [⟨o, a⟩] :=
  ⟨fun ho => ⟨(h.1 ho).1, fun t s hcall =>
    ((h.1 ho).2 t s hcall).mono fun _ _ hpost => ⟨hpost, rfl⟩⟩, fun ho =>
      ⟨(h.2 ho).1, fun a ha => ⟨(h.2 ho).2 a ha, rfl⟩⟩⟩

/-- Whatever a program ensures when its client is alone, it ensures by an execution. -/
theorem ensures_traced {fault : ε → σ × List (Event Ans) → Prop}
    {post : α → σ × List (Event Ans) → Prop} {p : Program Ans ε α}
    (h : p.Ensures U.spec fault post w) :
    p.Ensures U.spec fault (fun a w' => post a w' ∧
      ∃ tr, w'.2 = w.2 ++ tr ∧ p.Yields tr (.ok a)) w := by
  induction p generalizing w with
  | ret a => exact ⟨h, [], (List.append_nil _).symm, .refl _⟩
  | fail e => exact h
  | op o k ih =>
    refine U.spec.mono ?_ (spec_records h)
    rintro a w₁ ⟨hrest, hevents⟩
    refine (ih a hrest).imp ?_
    rintro b w' ⟨hpost, tr, hw', hyields⟩
    exact ⟨hpost, ⟨o, a⟩ :: tr, by rw [hw', hevents]; simp, .step hyields⟩

/-! ## What is ensured comes to pass -/

variable {m : ι} {s t : Clients Ans σ τ ι ε β}

/-- A client that comes to an operation of its own can only perform it. -/
theorem Step.of_act {tr : List (Event Ans)} {o : Op} {k : Ans o → Program Ans ε β}
    (ho : ¬ S.Remote o) (hm : s.clients m = ⟨tr, .op o k, none⟩) (h : U.Step m s t) :
    ∃ a, U.Answers ⟨o, a⟩ ∧
      t = { s with clients := Function.update s.clients m ⟨tr ++ [⟨o, a⟩], k a, none⟩ } := by
  -- The other steps need a client that calls, or that waits.
  cases h with
  | act a ho' ha hm' =>
    rw [hm] at hm'
    cases hm'
    exact ⟨a, ha, rfl⟩
  | call ho' hm' hcall =>
    rw [hm] at hm'
    cases hm'
    exact absurd ho' ho
  | serve hm' hserve =>
    rw [hm] at hm'
    cases hm'
  | reply a hm' ha =>
    rw [hm] at hm'
    cases hm'

/-- A client that comes to a call can only make it. -/
theorem Step.of_call {tr : List (Event Ans)} {o : Op} {k : Ans o → Program Ans ε β}
    (ho : S.Remote o) (hm : s.clients m = ⟨tr, .op o k, none⟩) (h : U.Step m s t) :
    ∃ ticket service, U.Call s.service o ticket service ∧
      t = { service := service
            clients := Function.update s.clients m ⟨tr, .op o k, some ticket⟩ } := by
  cases h with
  | act a ho' ha hm' =>
    rw [hm] at hm'
    cases hm'
    exact absurd ho ho'
  | call ho' hm' hcall =>
    rw [hm] at hm'
    cases hm'
    exact ⟨_, _, hcall, rfl⟩
  | serve hm' hserve =>
    rw [hm] at hm'
    cases hm'
  | reply a hm' ha =>
    rw [hm] at hm'
    cases hm'

/-- A client that waits can only be served, or get its reply. -/
theorem Step.of_waiting {tr : List (Event Ans)} {o : Op} {k : Ans o → Program Ans ε β} {ticket : τ}
    (hm : s.clients m = ⟨tr, .op o k, some ticket⟩) (h : U.Step m s t) :
    (∃ service, U.Serve ticket s.service service ∧ t = { s with service := service }) ∨
    ∃ a, U.Reply s.service ticket o a ∧
      t = { s with clients := Function.update s.clients m ⟨tr ++ [⟨o, a⟩], k a, none⟩ } := by
  cases h with
  | act a ho' ha hm' =>
    rw [hm] at hm'
    cases hm'
  | call ho' hm' hcall =>
    rw [hm] at hm'
    cases hm'
  | serve hm' hserve =>
    rw [hm] at hm'
    cases hm'
    exact .inl ⟨_, hserve, rfl⟩
  | reply a hm' ha =>
    rw [hm] at hm'
    cases hm'
    exact .inr ⟨a, ha, rfl⟩

/-- A client that waits for a ticket that is served gets its answer. -/
theorem eventually_replied {tr : List (Event Ans)} {o : Op}
    {k : Ans o → Program Ans ε β} {ticket : τ}
    {post : Ans o → σ → Prop} {service : σ} (h : U.Served ticket o post service)
    (hservice : s.service = service) (hm : s.clients m = ⟨tr, .op o k, some ticket⟩) :
    Eventually (U.Step m) (fun t => ∃ a, t.clients m = ⟨tr ++ [⟨o, a⟩], k a, none⟩ ∧
      post a t.service) s := by
  induction h generalizing s with
  | @intro service hnext _ hreply ih =>
    subst hservice
    refine .later ?_ fun t ht => ?_
    · rcases hnext with ⟨service', hserve⟩ | ⟨a, ha⟩
      · exact ⟨_, .serve (by rw [hm]) hserve⟩
      · exact ⟨_, .reply a hm ha⟩
    · rcases ht.of_waiting hm with ⟨service', hserve, rfl⟩ | ⟨a, ha, rfl⟩
      · exact ih service' hserve rfl hm
      · exact .now ⟨a, Function.update_self _ _ _, hreply a ha⟩

/-- The first part of a client's program has come to its end. -/
def Finished (m : ι) (f : α → Program Ans ε β) (fault : ε → σ × List (Event Ans) → Prop)
    (post : α → σ × List (Event Ans) → Prop) (t : Clients Ans σ τ ι ε β) : Prop :=
  ∃ tr, (∃ a, t.clients m = ⟨tr, f a, none⟩ ∧ post a (t.service, tr)) ∨
    ∃ e, t.clients m = ⟨tr, .fail e, none⟩ ∧ fault e (t.service, tr)

/-- What the first part of a program ensures comes to pass when its client is alone. -/
theorem eventually_of_ensures {fault : ε → σ × List (Event Ans) → Prop}
    {post : α → σ × List (Event Ans) → Prop} {p : Program Ans ε α} {f : α → Program Ans ε β}
    {tr : List (Event Ans)} (hm : s.clients m = ⟨tr, p.bind f, none⟩)
    (h : p.Ensures U.spec fault post (s.service, tr)) :
    Eventually (U.Step m) (Finished m f fault post) s := by
  -- By induction on what is left of the first part.
  induction p generalizing s tr with
  | ret a => exact .now ⟨tr, .inl ⟨a, hm, h⟩⟩
  | fail e => exact .now ⟨tr, .inr ⟨e, hm, h⟩⟩
  | op o k ih =>
    by_cases ho : S.Remote o
    · obtain ⟨⟨ticket, service, hcall⟩, hall⟩ := h.1 ho
      refine .later ⟨_, .call ho hm hcall⟩ fun t ht => ?_
      obtain ⟨ticket', service', hcall', rfl⟩ := ht.of_call ho hm
      -- The ticket is served, and after its answer the rest goes on.
      refine (eventually_replied (hall ticket' service' hcall')
        rfl (Function.update_self _ _ _)).trans ?_
      rintro u ⟨a, hmU, hpost⟩
      exact ih a hmU hpost
    · obtain ⟨⟨a, ha⟩, hall⟩ := h.2 ho
      refine .later ⟨_, .act a ho ha hm⟩ fun t ht => ?_
      obtain ⟨a', ha', rfl⟩ := ht.of_act ho hm
      exact ih a' (Function.update_self _ _ _) (hall a' ha')

end Service.Solo

end Interaction
