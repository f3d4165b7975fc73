import AwsKmsDemo.Interaction.Ensures
import AwsKmsDemo.Interaction.Eventually
import AwsKmsDemo.System

/-!
# A run that is alone and meets no fault

From any state of the system, one run goes on alone: every frame and every answer arrives whole, S3
serves every request, KMS answers as it should, and nobody else does anything. What its program
ensures under these circumstances comes to pass in the system (`eventually_of_ensures`).
-/

namespace AwsKmsDemo

open Interaction Interaction.Program Stream Storage

/-! ## Surroundings without faults -/

/-- What the surroundings of a run without faults answer. -/
structure Surroundings where
  /-- The credentials that the default chain may provide. -/
  provides : Credentials → Prop
  /-- The values that may be drawn at random. -/
  draws : (n : ℕ) → Vector UInt8 n → Prop
  /-- The data keys that KMS may generate, in plain and encrypted. -/
  generates : Bytes → Bytes → Prop
  /-- How KMS decrypts data keys. -/
  unwrap : Bytes → Bytes
  exists_provides : ∃ credentials, provides credentials
  exists_draws : ∀ n, ∃ v, draws n v
  exists_generates : ∃ plaintext ciphertext, generates plaintext ciphertext
  /-- KMS decrypts the data keys that it generates. -/
  unwrap_of_generates : ∀ {plaintext ciphertext}, generates plaintext ciphertext →
    unwrap ciphertext = plaintext

variable (world : Surroundings)

/-- The choices about the operations of a broker. -/
def Surroundings.Chooses : Choice → Prop
  | .served => True
  | .runtime result => result = .ok ()
  | .credentials result => ∃ credentials, result = .ok credentials ∧ world.provides credentials
  | _ => False

/-- The answers to the operations of a run, other than exchanges. -/
def Surroundings.Answers : EnclaveEvent → Prop
  | ⟨.connect _, a⟩ => a = .ok ()
  | ⟨.random n, v⟩ => world.draws n v
  | ⟨.generateDataKey _ request, a⟩ => ∃ plaintext ciphertext keyId,
      a = .ok ⟨some plaintext, some ciphertext, keyId⟩ ∧
      keyId.getD request.kmsKeyId = request.kmsKeyId ∧ world.generates plaintext ciphertext
  | ⟨.decrypt _ request, a⟩ => a = .ok (some (world.unwrap request.ciphertextBlob))
  | ⟨.nkmsGenerateDataKey _ _ _, a⟩ => ∃ plaintext ciphertext, a = .ok (plaintext, ciphertext) ∧
      world.generates plaintext ciphertext
  | ⟨.nkmsDecryptDataKey _ ciphertext _, a⟩ => a = .ok (world.unwrap ciphertext)
  | _ => False

/-- The operations of a broker, when S3 serves every request. -/
def servedSpec : OpSpec BrokerOp.Ans S3Store where
  ensures o store post :=
    (∃ choice a, world.Chooses choice ∧ answer store o choice = some a) ∧
      ∀ choice a, world.Chooses choice → answer store o choice = some a →
        post a (effect store o choice)
  mono hpost h := ⟨h.1, fun choice a hchoice ha => hpost _ _ (h.2 choice a hchoice ha)⟩
  answered h := by
    obtain ⟨⟨choice, a, hchoice, ha⟩, hall⟩ := h
    exact ⟨a, _, hall choice a hchoice ha⟩

section Alone

variable (crates : Crates) (config : BrokerConfig) (peerCid : Option UInt32)

/-- The operations of a run that is alone. The world is the store, and what has happened to the
run. -/
def aloneSpec : OpSpec EnclaveOp.Ans (S3Store × List EnclaveEvent) where
  ensures o w post :=
    match o, post with
    | .exchange endpoint frame, post => ∀ ending,
        (serveConnection crates config peerCid ⟨frame, ending⟩).Ensures (servedSpec world)
          (fun _ _ => False)
          (fun bytes store => ∀ ending', post (.ok ⟨bytes, ending'⟩)
            (store, w.2 ++ [⟨.exchange endpoint frame, .ok ⟨bytes, ending'⟩⟩])) w.1
    | o, post => (∃ a, world.Answers ⟨o, a⟩) ∧
        ∀ a, world.Answers ⟨o, a⟩ → post a (w.1, w.2 ++ [⟨o, a⟩])
  mono {o w post post'} hpost h := by
    cases o with
    | exchange endpoint frame =>
      exact fun ending => (h ending).imp fun bytes store hbytes ending' =>
        hpost _ _ (hbytes ending')
    | _ => exact ⟨h.1, fun a ha => hpost _ _ (h.2 a ha)⟩
  answered {o w post} h := by
    cases o with
    | exchange endpoint frame =>
      obtain ⟨_, store, ⟨bytes, _, hbytes⟩ | ⟨_, _, hfalse⟩⟩ := (h "").exists_yields
      · exact ⟨_, _, hbytes ""⟩
      · exact hfalse.elim
    | _ =>
      obtain ⟨⟨a, ha⟩, hall⟩ := h
      exact ⟨a, _, hall a ha⟩

variable (configs : ConnectionId → BrokerConfig) (m : ℕ)

/-- The steps of the system when the run `m` is alone and meets no fault. Its connections come from
the peer `peerCid`, to a broker with the configuration `config`. -/
inductive AloneStep : SystemState → SystemState → Prop where
  /-- The run performs an operation other than an exchange. -/
  | act {s : SystemState} {tr : List EnclaveEvent} {o : EnclaveOp}
      {k : o.Ans → EnclaveProgram RestoredKeyPair} (a : o.Ans) (ha : world.Answers ⟨o, a⟩)
      (hrun : s.runs m = ⟨tr, .op o k, none⟩) :
      AloneStep s { s with runs := setRun s.runs m ⟨tr ++ [⟨o, a⟩], k a, none⟩ }
  /-- The run sends a frame, which arrives whole. -/
  | send {s : SystemState} {tr : List EnclaveEvent} {endpoint : Endpoint} {frame : Bytes}
      {k : Except String Reader → EnclaveProgram RestoredKeyPair} (id : ConnectionId)
      (ending : String) {broker : BrokerState} (hpeer : id.peerCid = peerCid)
      (hconfig : configs id = config)
      (hrun : s.runs m = ⟨tr, .op (.exchange endpoint frame) k, none⟩)
      (haccept : BrokerStep (brokersThread crates configs) s.broker (.accept id ⟨frame, ending⟩)
        broker) :
      AloneStep s
        { broker := broker
          runs := setRun s.runs m ⟨tr, .op (.exchange endpoint frame) k, some id⟩ }
  /-- The broker's thread for the run performs its next operation. -/
  | perform {s : SystemState} {id : ConnectionId} (choice : Choice) {broker : BrokerState}
      (hpending : (s.runs m).pending = some id) (hchoice : world.Chooses choice)
      (hperform : BrokerStep (brokersThread crates configs) s.broker (.perform id choice) broker) :
      AloneStep s { s with broker := broker }
  /-- The run reads the whole answer. -/
  | reply {s : SystemState} {tr : List EnclaveEvent} {endpoint : Endpoint} {frame : Bytes}
      {k : Except String Reader → EnclaveProgram RestoredKeyPair} {id : ConnectionId}
      (stream : Reader) (hrun : s.runs m = ⟨tr, .op (.exchange endpoint frame) k, some id⟩)
      (hwritten : s.broker.written id = some stream.bytes) :
      AloneStep s
        { broker := s.broker
          runs := setRun s.runs m
            ⟨tr ++ [⟨.exchange endpoint frame, .ok stream⟩], k (.ok stream), none⟩ }

end Alone

variable {world} {crates : Crates} {config : BrokerConfig} {peerCid : Option UInt32}
  {configs : ConnectionId → BrokerConfig} {m : ℕ} {s t : SystemState}

/-- The surroundings do not answer requests to the broker. -/
theorem not_isExchange_of_answers {o : EnclaveOp} {a : o.Ans} (h : world.Answers ⟨o, a⟩) :
    ¬ o.IsExchange := by
  cases o with
  | exchange endpoint frame => exact h.elim
  | _ => exact id

/-- A step of a run that is alone is a step of the system. -/
theorem AloneStep.systemStep (h : AloneStep world crates config peerCid configs m s t) :
    SystemStep crates configs s t := by
  cases h with
  | act a ha hrun => exact .act m a (not_isExchange_of_answers ha) hrun
  | send id ending hpeer hconfig hrun haccept => exact .send m id _ hrun List.prefix_rfl haccept
  | perform choice hpending hchoice hperform => exact .perform _ choice hperform
  | reply stream hrun hwritten =>
    refine .reply m _ hrun ?_
    show _ <+: (s.broker.written _).getD []
    rw [hwritten]
    exact List.prefix_rfl

/-! ## Free connections -/

/-- From some number on, there are no connections yet. -/
def HasFree (s : SystemState) : Prop :=
  ∃ bound, ∀ id : ConnectionId, bound ≤ id.number → s.broker.connections id = none

/-- A step uses up only finitely many connections. -/
theorem HasFree.step (hfree : HasFree s) (hstep : SystemStep crates configs s t) : HasFree t := by
  obtain ⟨bound, hbound⟩ := hfree
  cases hstep with
  | act => exact ⟨bound, hbound⟩
  | reply => exact ⟨bound, hbound⟩
  | send n id received hrun hcut haccept =>
    obtain ⟨_, rfl⟩ := brokerStep_accept.mp haccept
    refine ⟨max bound (id.number + 1), fun id' hid' => ?_⟩
    have hne : id' ≠ id := by
      rintro rfl
      omega
    exact (setConnection_of_ne _ _ hne).trans (hbound id' (by omega))
  | perform id choice hperform =>
    obtain ⟨_, _, _, _, hconnection, _, rfl⟩ := brokerStep_perform.mp hperform
    refine ⟨bound, fun id' hid' => ?_⟩
    have hne : id' ≠ id := by
      rintro rfl
      rw [hbound id' hid'] at hconnection
      cases hconnection
    exact (setConnection_of_ne _ _ hne).trans (hbound id' hid')
  | deliver put hdeliver =>
    obtain ⟨_, rfl⟩ := brokerStep_deliver.mp hdeliver
    exact ⟨bound, hbound⟩

/-! ## What a run can do next -/

/-- A run that waits for an answer can only have the thread go on, or read the whole answer. -/
theorem aloneStep_of_waiting {tr : List EnclaveEvent} {endpoint : Endpoint} {frame : Bytes}
    {k : Except String Reader → EnclaveProgram RestoredKeyPair} {id : ConnectionId}
    (hrun : s.runs m = ⟨tr, .op (.exchange endpoint frame) k, some id⟩)
    (h : AloneStep world crates config peerCid configs m s t) :
    (∃ choice broker, world.Chooses choice ∧
      BrokerStep (brokersThread crates configs) s.broker (.perform id choice) broker ∧
      t = { s with broker := broker }) ∨
    ∃ stream : Reader, s.broker.written id = some stream.bytes ∧
      t = { broker := s.broker
            runs := setRun s.runs m
              ⟨tr ++ [⟨.exchange endpoint frame, .ok stream⟩], k (.ok stream), none⟩ } := by
  -- The other steps need a run that does not wait.
  cases h with
  | act a ha hrun' =>
    rw [hrun] at hrun'
    injection hrun' with _ _ hpending
    cases hpending
  | send id' ending hpeer hconfig hrun' haccept =>
    rw [hrun] at hrun'
    injection hrun' with _ _ hpending
    cases hpending
  | @perform id' choice broker hpending hchoice hperform =>
    rw [hrun] at hpending
    obtain rfl := Option.some.inj hpending
    exact .inl ⟨choice, broker, hchoice, hperform, rfl⟩
  | @reply tr' endpoint' frame' k' id' stream hrun' hwritten =>
    rw [hrun] at hrun'
    injection hrun' with htr hprogram hpending
    injection hprogram with ho hk
    injection ho with hendpoint hframe
    obtain rfl := Option.some.inj hpending
    subst htr hendpoint hframe hk
    exact .inr ⟨stream, hwritten, rfl⟩

/-- A run that comes to an exchange can only send its frame. -/
theorem aloneStep_of_exchange {tr : List EnclaveEvent} {endpoint : Endpoint} {frame : Bytes}
    {k : Except String Reader → EnclaveProgram RestoredKeyPair}
    (hrun : s.runs m = ⟨tr, .op (.exchange endpoint frame) k, none⟩)
    (h : AloneStep world crates config peerCid configs m s t) :
    ∃ id ending broker, id.peerCid = peerCid ∧ configs id = config ∧
      BrokerStep (brokersThread crates configs) s.broker (.accept id ⟨frame, ending⟩) broker ∧
      t = { broker := broker
            runs := setRun s.runs m ⟨tr, .op (.exchange endpoint frame) k, some id⟩ } := by
  -- The other steps need another operation, or a run that waits.
  cases h with
  | @act tr' o k' a ha hrun' =>
    rw [hrun] at hrun'
    injection hrun' with _ hprogram _
    injection hprogram with ho _
    subst ho
    exact ha.elim
  | @send tr' endpoint' frame' k' id ending broker hpeer hconfig hrun' haccept =>
    rw [hrun] at hrun'
    injection hrun' with htr hprogram _
    injection hprogram with ho hk
    injection ho with hendpoint hframe
    subst htr hendpoint hframe hk
    exact ⟨id, ending, broker, hpeer, hconfig, haccept, rfl⟩
  | perform choice hpending hchoice hperform =>
    rw [hrun] at hpending
    cases hpending
  | reply stream hrun' hwritten =>
    rw [hrun] at hrun'
    injection hrun' with _ _ hpending
    cases hpending

/-- A run that comes to another operation can only perform it. -/
theorem aloneStep_of_act {tr : List EnclaveEvent} {o : EnclaveOp}
    {k : o.Ans → EnclaveProgram RestoredKeyPair} (ho : ¬ o.IsExchange)
    (hrun : s.runs m = ⟨tr, .op o k, none⟩)
    (h : AloneStep world crates config peerCid configs m s t) : ∃ a, world.Answers ⟨o, a⟩ ∧
      t = { s with runs := setRun s.runs m ⟨tr ++ [⟨o, a⟩], k a, none⟩ } := by
  cases h with
  | @act tr' o' k' a ha hrun' =>
    rw [hrun] at hrun'
    injection hrun' with htr hprogram _
    injection hprogram with ho hk
    subst htr ho
    obtain rfl := eq_of_heq hk
    exact ⟨a, ha, rfl⟩
  | send id ending hpeer hconfig hrun' haccept =>
    rw [hrun] at hrun'
    injection hrun' with _ hprogram _
    injection hprogram with ho' _
    subst ho'
    exact absurd trivial ho
  | perform choice hpending hchoice hperform =>
    rw [hrun] at hpending
    cases hpending
  | reply stream hrun' hwritten =>
    rw [hrun] at hrun'
    injection hrun' with _ _ hpending
    cases hpending

/-! ## What is ensured comes to pass -/

/-- The thread that serves the run writes what its program ensures. -/
theorem eventually_written {tr : List EnclaveEvent} {endpoint : Endpoint} {frame : Bytes}
    {k : Except String Reader → EnclaveProgram RestoredKeyPair} {id : ConnectionId}
    {received : Reader} {post : Bytes → S3Store → Prop} {q : BrokerProgram Bytes}
    (hrun : s.runs m = ⟨tr, .op (.exchange endpoint frame) k, some id⟩)
    (hconnection : s.broker.connections id = some ⟨received, q⟩) (hfree : HasFree s)
    (h : q.Ensures (servedSpec world) (fun _ _ => False) post s.broker.store) :
    Eventually (AloneStep world crates config peerCid configs m) (fun t =>
      t.runs m = ⟨tr, .op (.exchange endpoint frame) k, some id⟩ ∧ HasFree t ∧
        ∃ bytes, t.broker.written id = some bytes ∧
          t.broker.connections id = some ⟨received, .ret bytes⟩ ∧ post bytes t.broker.store) s := by
  -- By induction on what is left of the thread. Whichever step comes next, it is one of this
  -- thread.
  induction q generalizing s with
  | ret bytes =>
    refine .now ⟨hrun, hfree, bytes, ?_, hconnection, h⟩
    unfold BrokerState.written
    rw [hconnection]
    rfl
  | fail e => exact h.elim
  | op o kq ih =>
    obtain ⟨⟨choice, a, hchoice, ha⟩, hall⟩ := h
    refine .later ⟨_, .perform choice (by rw [hrun]) hchoice
      (brokerStep_perform.mpr ⟨_, _, _, _, hconnection, ha, rfl⟩)⟩ fun t ht => ?_
    have hfree' := hfree.step ht.systemStep
    rcases aloneStep_of_waiting hrun ht with
      ⟨choice', broker, hchoice', hperform, rfl⟩ | ⟨stream, hwritten, _⟩
    · obtain ⟨received', o', kq', a', hconnection', ha', rfl⟩ := brokerStep_perform.mp hperform
      rw [hconnection] at hconnection'
      injection hconnection' with hconnection'
      injection hconnection' with hreceived hprogram
      injection hprogram with ho hk
      subst hreceived ho
      obtain rfl := eq_of_heq hk
      have hconnection'' := setConnection_self s.broker.connections id ⟨received, kq a'⟩
      exact ih a' hrun hconnection'' hfree' (hall choice' a' hchoice' ha')
    · -- The thread has not written yet.
      unfold BrokerState.written at hwritten
      rw [hconnection] at hwritten
      cases hwritten

/-- Where a run that is alone has come to its end. -/
def Ended (m : ℕ) (fault : AppError → S3Store × List EnclaveEvent → Prop)
    (post : RestoredKeyPair → S3Store × List EnclaveEvent → Prop) (t : SystemState) : Prop :=
  ∃ tr, (∃ pair, t.runs m = ⟨tr, .ret pair, none⟩ ∧ post pair (t.broker.store, tr)) ∨
    ∃ e, t.runs m = ⟨tr, .fail e, none⟩ ∧ fault e (t.broker.store, tr)

/-- What a program ensures in surroundings without faults comes to pass when its run is alone. -/
theorem eventually_of_ensures {fault : AppError → S3Store × List EnclaveEvent → Prop}
    {post : RestoredKeyPair → S3Store × List EnclaveEvent → Prop}
    (hconfig : ∀ bound, ∃ number, bound ≤ number ∧ configs ⟨peerCid, number⟩ = config)
    {p : EnclaveProgram RestoredKeyPair} {tr : List EnclaveEvent} (hrun : s.runs m = ⟨tr, p, none⟩)
    (hfree : HasFree s)
    (h : p.Ensures (aloneSpec world crates config peerCid) fault post (s.broker.store, tr)) :
    Eventually (AloneStep world crates config peerCid configs m) (Ended m fault post) s := by
  -- By induction on what is left of the run.
  induction p generalizing s tr with
  | ret pair => exact .now ⟨tr, .inl ⟨pair, hrun, h⟩⟩
  | fail e => exact .now ⟨tr, .inr ⟨e, hrun, h⟩⟩
  | op o k ih =>
    -- An exchange takes three kinds of steps (the frame is sent, a thread answers, and the answer
    -- is read), and every other operation takes one.
    by_cases hexchange : o.IsExchange
    · cases o with
      | exchange endpoint frame =>
        obtain ⟨bound, hbound⟩ := hfree
        obtain ⟨number, hnumber, hserved⟩ := hconfig bound
        refine .later ⟨_, .send ⟨peerCid, number⟩ "" rfl hserved hrun
          (brokerStep_accept.mpr ⟨hbound _ hnumber, rfl⟩)⟩ fun t ht => ?_
        have hfree' := HasFree.step ⟨bound, hbound⟩ ht.systemStep
        obtain ⟨id, ending, broker, hpeer, hserved', haccept', rfl⟩ := aloneStep_of_exchange hrun ht
        obtain ⟨_, rfl⟩ := brokerStep_accept.mp haccept'
        have hthread : brokersThread crates configs id ⟨frame, ending⟩ =
            serveConnection crates config peerCid ⟨frame, ending⟩ := by
          unfold brokersThread
          rw [hserved', hpeer]
        -- First the thread writes the answer, and then the run reads it.
        have hconnection := setConnection_self s.broker.connections id
          ⟨⟨frame, ending⟩, brokersThread crates configs id ⟨frame, ending⟩⟩
        refine (eventually_written (setRun_self _ _ _) (hconnection.trans (by rw [hthread])) hfree'
          (h ending)).trans ?_
        rintro u ⟨hrunU, hfreeU, bytes, hwritten, hconnectionU, hpost⟩
        refine .later ⟨_, .reply ⟨bytes, ""⟩ hrunU hwritten⟩ fun v hv => ?_
        have hfreeV := hfreeU.step hv.systemStep
        rcases aloneStep_of_waiting hrunU hv with
          ⟨_, _, _, hperform, _⟩ | ⟨stream, hstream, rfl⟩
        · obtain ⟨_, _, _, _, hconnection', _, _⟩ := brokerStep_perform.mp hperform
          rw [hconnectionU] at hconnection'
          cases hconnection'
        · rw [hwritten] at hstream
          obtain rfl := Option.some.inj hstream
          exact ih _ (setRun_self _ _ _) hfreeV (hpost stream.ending)
      | _ => exact hexchange.elim
    · have hact : (∃ a, world.Answers ⟨o, a⟩) ∧ ∀ a, world.Answers ⟨o, a⟩ →
          (k a).Ensures (aloneSpec world crates config peerCid) fault post
            (s.broker.store, tr ++ [⟨o, a⟩]) := by
        cases o with
        | exchange endpoint frame => exact absurd trivial hexchange
        | _ => exact h
      obtain ⟨⟨a, ha⟩, hall⟩ := hact
      refine .later ⟨_, .act a ha hrun⟩ fun t ht => ?_
      have hfree' := hfree.step ht.systemStep
      obtain ⟨a', ha', rfl⟩ := aloneStep_of_act hexchange hrun ht
      exact ih a' (setRun_self _ _ _) hfree' (hall a' ha')

end AwsKmsDemo
