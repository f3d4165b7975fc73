import Mathlib.Logic.Function.Basic
import Mathlib.Logic.Relation
import AwsKmsDemo.Interaction.Program

/-!
# Programs that share a service

Any number of programs, each of which performs some operations on its own and has the others done by
a service that all of them share. A call opens a ticket, on which the program then waits, and the
service replies to tickets. The steps of the programs and of the service interleave in any order,
and a program may stop anywhere. A `Contract` says what the service promises of the answers, and
`Contract.sound` is the invariant that follows for every client.
-/

namespace Interaction

variable {Op : Type} {Ans : Op → Type} {σ τ ι ε α : Type}

/-- A service with the states `σ` and the tickets `τ`. -/
structure Service {Op : Type} (Ans : Op → Type) (σ τ : Type) where
  /-- The operations that the service does. -/
  Remote : Op → Prop
  /-- A call that reaches the service, and the ticket that it opens. -/
  Call : σ → Op → τ → σ → Prop
  /-- The service does something by itself. -/
  Work : σ → σ → Prop
  /-- A ticket can be answered so. -/
  Reply : σ → τ → (o : Op) → Ans o → Prop

/-- How far a program has come. -/
structure Client {Op : Type} (Ans : Op → Type) (τ ε α : Type) where
  /-- What has happened to it. -/
  trace : List (Event Ans)
  /-- What is left of it. -/
  program : Program Ans ε α
  /-- The ticket on which it waits. -/
  pending : Option τ

/-- A service and its clients. -/
structure Clients {Op : Type} (Ans : Op → Type) (σ τ ι ε α : Type) where
  service : σ
  clients : ι → Client Ans τ ε α

/-- The clients have done nothing yet. -/
def Clients.start (service : σ) (programs : ι → Program Ans ε α) : Clients Ans σ τ ι ε α where
  service := service
  clients n := ⟨[], programs n, none⟩

namespace Service

variable [DecidableEq ι]

/-- The steps of a service and its clients. -/
inductive Step (S : Service Ans σ τ) : Clients Ans σ τ ι ε α → Clients Ans σ τ ι ε α → Prop where
  /-- A client performs an operation of its own, with any answer. -/
  | act {s : Clients Ans σ τ ι ε α} (n : ι) {tr : List (Event Ans)} {o : Op}
      {k : Ans o → Program Ans ε α} (a : Ans o) (ho : ¬ S.Remote o)
      (hn : s.clients n = ⟨tr, .op o k, none⟩) :
      Step S s { s with clients := Function.update s.clients n ⟨tr ++ [⟨o, a⟩], k a, none⟩ }
  /-- A client calls the service. -/
  | call {s : Clients Ans σ τ ι ε α} (n : ι) {tr : List (Event Ans)} {o : Op}
      {k : Ans o → Program Ans ε α} {t : τ} {service : σ} (ho : S.Remote o)
      (hn : s.clients n = ⟨tr, .op o k, none⟩) (hcall : S.Call s.service o t service) :
      Step S s
        { service := service, clients := Function.update s.clients n ⟨tr, .op o k, some t⟩ }
  /-- A client gets a reply. -/
  | reply {s : Clients Ans σ τ ι ε α} (n : ι) {tr : List (Event Ans)} {o : Op}
      {k : Ans o → Program Ans ε α} {t : τ} (a : Ans o) (hn : s.clients n = ⟨tr, .op o k, some t⟩)
      (ha : S.Reply s.service t o a) :
      Step S s { s with clients := Function.update s.clients n ⟨tr ++ [⟨o, a⟩], k a, none⟩ }
  /-- The service does something. -/
  | work {s : Clients Ans σ τ ι ε α} {service : σ} (hwork : S.Work s.service service) :
      Step S s { s with service := service }

/-- What a service promises to programs that perform only operations which satisfy `Allowed`. -/
structure Contract (S : Service Ans σ τ) (Allowed : Op → Prop) where
  /-- The service's own invariant. -/
  Inv : σ → Prop
  /-- One state of the service is later than another. -/
  Le : σ → σ → Prop
  /-- A ticket was opened by a call of this operation. -/
  Opened : σ → τ → Op → Prop
  /-- What an answer tells is true. -/
  Truth : σ → Event Ans → Prop
  call : ∀ {s o t s'}, Inv s → Allowed o → S.Remote o → S.Call s o t s' →
    Inv s' ∧ Le s s' ∧ Opened s' t o
  work : ∀ {s s'}, Inv s → S.Work s s' → Inv s' ∧ Le s s'
  opened_mono : ∀ {s s' t o}, Le s s' → Opened s t o → Opened s' t o
  truth_mono : ∀ {s s' e}, Le s s' → Truth s e → Truth s' e
  /-- Nothing is promised of the operations that the service does not do. -/
  truth_act : ∀ {s o a}, ¬ S.Remote o → Truth s ⟨o, a⟩
  /-- The service keeps to the truth. -/
  truth_reply : ∀ {s t o a}, Inv s → Allowed o → Opened s t o → S.Reply s t o a → Truth s ⟨o, a⟩

namespace Contract

variable {S : Service Ans σ τ} {Allowed : Op → Prop} (C : S.Contract Allowed)
  {programs : ι → Program Ans ε α} {service : σ} {s t : Clients Ans σ τ ι ε α}

/-- What holds of a client: it is somewhere in its program, what it was told is true, and the ticket
on which it waits is that of its next operation. -/
structure Client (program : Program Ans ε α) (service : σ) (client : Interaction.Client Ans τ ε α) :
    Prop where
  steps : program.Steps client.trace client.program
  truth : ∀ e ∈ client.trace, C.Truth service e
  opened : ∀ t, client.pending = some t → ∃ o k, client.program = .op o k ∧ C.Opened service t o

/-- What holds of a service and its clients. -/
structure Sound (programs : ι → Program Ans ε α) (s : Clients Ans σ τ ι ε α) : Prop where
  service : C.Inv s.service
  clients : ∀ n, C.Client (programs n) s.service (s.clients n)

variable {C}

omit [DecidableEq ι] in
/-- At first everything is sound. -/
theorem sound_start (h : C.Inv service) :
    C.Sound programs (.start service programs : Clients Ans σ τ ι ε α) where
  service := h
  clients n := ⟨.refl _, fun e he => absurd he List.not_mem_nil, fun t ht => by cases ht⟩

/-- What holds of a client goes on to hold of it when the service has come further. -/
theorem Client.of_le {program : Program Ans ε α} {service' : σ}
    {client : Interaction.Client Ans τ ε α} (h : C.Client program service client)
    (hle : C.Le service service') : C.Client program service' client where
  steps := h.steps
  truth e he := C.truth_mono hle (h.truth e he)
  opened t ht := by
    obtain ⟨o, k, hprogram, hopened⟩ := h.opened t ht
    exact ⟨o, k, hprogram, C.opened_mono hle hopened⟩

/-- A client that got a true answer. -/
theorem Client.answer {program : Program Ans ε α} {tr : List (Event Ans)} {o : Op}
    {k : Ans o → Program Ans ε α} {waits : Option τ}
    (h : C.Client program service ⟨tr, .op o k, waits⟩) {a : Ans o}
    (ha : C.Truth service ⟨o, a⟩) : C.Client program service ⟨tr ++ [⟨o, a⟩], k a, none⟩ where
  steps := h.steps.trans (.step (.refl _))
  truth e he := by
    rcases List.mem_append.mp he with he | he
    · exact h.truth e he
    · rw [List.mem_singleton.mp he]
      exact ha
  opened t ht := by cases ht

/-- What holds of every client still does when one of them is replaced. -/
theorem forall_update {P : ι → Interaction.Client Ans τ ε α → Prop}
    {clients : ι → Interaction.Client Ans τ ε α} (h : ∀ n, P n (clients n)) {n : ι}
    {client : Interaction.Client Ans τ ε α} (hclient : P n client) :
    ∀ n', P n' (Function.update clients n client n') := by
  intro n'
  by_cases heq : n' = n
  · subst heq
    rw [Function.update_self]
    exact hclient
  · rw [Function.update_of_ne heq]
    exact h n'

/-- Every step keeps what holds of the service and its clients. -/
theorem Sound.step (hallowed : ∀ n, (programs n).Uses Allowed) (h : C.Sound programs s)
    (hstep : S.Step s t) : C.Sound programs t := by
  cases hstep with
  | @act n tr o k a ho hn =>
    have hclient := h.clients n
    rw [hn] at hclient
    exact ⟨h.service, forall_update h.clients (hclient.answer (C.truth_act ho))⟩
  | @call n tr o k t service ho hn hcall =>
    have hclient := h.clients n
    rw [hn] at hclient
    have hop := ((hallowed n).of_steps hclient.steps).2.1
    obtain ⟨hinv, hle, hopened⟩ := C.call h.service hop ho hcall
    -- The client that called waits for the ticket that its own operation has opened.
    refine ⟨hinv, forall_update (fun n' => (h.clients n').of_le hle) ⟨hclient.steps,
      fun e he => C.truth_mono hle (hclient.truth e he), fun t' ht' => ?_⟩⟩
    obtain rfl := Option.some.inj ht'
    exact ⟨o, k, rfl, hopened⟩
  | @reply n tr o k t a hn ha =>
    have hclient := h.clients n
    rw [hn] at hclient
    have hop := ((hallowed n).of_steps hclient.steps).2.1
    obtain ⟨o', k', hprogram, hopened⟩ := hclient.opened t rfl
    injection hprogram with ho _
    subst ho
    exact ⟨h.service, forall_update h.clients
      (hclient.answer (C.truth_reply h.service hop hopened ha))⟩
  | work hwork =>
    obtain ⟨hinv, hle⟩ := C.work h.service hwork
    exact ⟨hinv, fun n => (h.clients n).of_le hle⟩

/-- However a service and its clients go on, the contract is kept. -/
theorem Sound.of_reachable (hallowed : ∀ n, (programs n).Uses Allowed) (h : C.Sound programs s)
    (hsteps : Relation.ReflTransGen S.Step s t) : C.Sound programs t := by
  induction hsteps with
  | refl => exact h
  | tail _ hstep ih => exact ih.step hallowed hstep

end Contract

variable {S : Service Ans σ τ} {s t : Clients Ans σ τ ι ε α}

/-- What has happened to a client stays. -/
theorem Step.trace (h : S.Step s t) (n : ι) : (s.clients n).trace <+: (t.clients n).trace := by
  have hupdate : ∀ {n' : ι} {client : Client Ans τ ε α}, (s.clients n').trace <+: client.trace →
      (s.clients n).trace <+: (Function.update s.clients n' client n).trace := by
    intro n' client hle
    by_cases heq : n = n'
    · subst heq
      rwa [Function.update_self]
    · simp [Function.update_of_ne heq]
  cases h with
  | act n' a ho hn => exact hupdate (by simp [hn])
  | call n' ho hn hcall => exact hupdate (by simp [hn])
  | reply n' a hn ha => exact hupdate (by simp [hn])
  | work hwork => exact List.prefix_rfl

/-! ## Who opened a ticket -/

variable {Open : σ → τ → Prop} {Strange : τ → Prop} {programs : ι → Program Ans ε α}
  {Allowed : Op → Prop} {C : S.Contract Allowed}

/-- A ticket that is open was opened by a client, in the course of its program, unless it is one of
a stranger. -/
def Traced (C : S.Contract Allowed) (Open : σ → τ → Prop) (Strange : τ → Prop)
    (programs : ι → Program Ans ε α) (s : Clients Ans σ τ ι ε α) : Prop :=
  ∀ t, Open s.service t → Strange t ∨ ∃ n tr o, tr <+: (s.clients n).trace ∧
    (programs n).Issues tr o ∧ S.Remote o ∧ C.Opened s.service t o

/-- If only calls open tickets of clients, then open tickets are traced in every state. -/
theorem traced_of_reachable
    (hcall : ∀ {s o t s' t'}, S.Call s o t s' → Open s' t' → Open s t' ∨ t' = t)
    (hwork : ∀ {s s' t}, S.Work s s' → Open s' t → Open s t ∨ Strange t)
    (hallowed : ∀ n, (programs n).Uses Allowed) {service : σ} (hinv : C.Inv service)
    (hclosed : ∀ t, ¬ Open service t)
    (hsteps : Relation.ReflTransGen S.Step (.start service programs) s) :
    Traced C Open Strange programs s := by
  induction hsteps with
  | refl => exact fun t ht => absurd ht (hclosed t)
  | @tail s s' hsteps hstep ih =>
    have hstart : C.Sound programs (.start service programs) := Contract.sound_start hinv
    have hsound := hstart.of_reachable hallowed hsteps
    have htrace := fun n => hstep.trace n
    -- A ticket that was traced before the step is traced after it.
    have hkept : ∀ t, C.Le s.service s'.service → (∃ n tr o, tr <+: (s.clients n).trace ∧
        (programs n).Issues tr o ∧ S.Remote o ∧ C.Opened s.service t o) →
        ∃ n tr o, tr <+: (s'.clients n).trace ∧ (programs n).Issues tr o ∧ S.Remote o ∧
          C.Opened s'.service t o := by
      rintro t hle ⟨n, tr, o, htr, hissues, ho, hopened⟩
      exact ⟨n, tr, o, htr.trans (htrace n), hissues, ho, C.opened_mono hle hopened⟩
    intro t ht
    cases hstep with
    | act n a ho hn =>
      exact (ih t ht).imp_right fun ⟨n', tr, o, htr, hrest⟩ =>
        ⟨n', tr, o, htr.trans (htrace n'), hrest⟩
    | reply n a hn ha =>
      exact (ih t ht).imp_right fun ⟨n', tr, o, htr, hrest⟩ =>
        ⟨n', tr, o, htr.trans (htrace n'), hrest⟩
    | @call n tr o k t' service' ho hn hcalled =>
      have hclient := hsound.clients n
      rw [hn] at hclient
      have hop := ((hallowed n).of_steps hclient.steps).2.1
      obtain ⟨_, hle, hopened⟩ := C.call hsound.service hop ho hcalled
      rcases hcall hcalled ht with hold | rfl
      · exact (ih t hold).imp_right (hkept t hle)
      · have htr := htrace n
        rw [hn] at htr
        exact .inr ⟨n, tr, o, htr, ⟨k, hclient.steps⟩, ho, hopened⟩
    | work hworked =>
      rcases hwork hworked ht with hold | hstrange
      · exact (ih t hold).imp_right (hkept t (C.work hsound.service hworked).2)
      · exact .inl hstrange

end Service

end Interaction
