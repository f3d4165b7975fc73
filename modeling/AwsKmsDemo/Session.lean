import AwsKmsDemo.Foresight
import AwsKmsDemo.Stream.Flow
import AwsKmsDemo.Interaction.Eventually
import Mathlib.Order.GameAdd

/-!
# A request and its response on a connection without faults

An enclave process sends a request to its broker and waits for the response, and the thread of the
connection waits for the request and answers it. Nothing is lost on the connection, but a channel
holds no more than `capacity` bytes, and either end is as slow as it likes. Neither end ever waits
for the other in vain: the session ends, with the response that the thread gives when the request is
at hand as a whole (`session_ends`).
-/

namespace AwsKmsDemo

open Interaction Interaction.Program Stream

/-! ## The session -/

/-- A process that sends a request, and the thread that answers it. -/
structure Session where
  /-- What is left of the process up to the point where it drops the connection. -/
  client : SocketProgram AppError (AppResult BrokerResponse)
  thread : BrokerSocketProgram Unit
  request : Channel
  response : Channel

/-- A program is at its end. -/
def AtEnd {Op : Type} {Ans : Op → Type} {ε α : Type} : Program Ans ε α → Prop
  | .op _ _ => False
  | _ => True

/-- What may happen to an operation of one end of a connection whose other end is `closed` or not. A
write that is to take something waits for room, and a read for something to read. -/
def Flawless (capacity : ℕ) (closed : Prop) (outgoing incoming : Channel) :
    (o : SocketOp) → o.Ans → Prop
  | .write bytes, .ok n => bytes = [] ∨
      n.val ≠ 0 ∧ outgoing.sent.length + n.val ≤ outgoing.received.length + capacity
  | .write bytes, .error _ => closed ∧ bytes ≠ []
  | .flush, a => a = .ok ()
  | .read _, .ok piece => piece.val = [] → closed ∧ incoming.received = incoming.sent
  -- The other end was closed before it had read everything.
  | .read _, .error _ => closed ∧ outgoing.received ≠ outgoing.sent

/-- The steps of a session, in which only what is allowed happens on the connection. A thread may
get any answer to an operation of its own. -/
inductive Session.Step
    (allows : Prop → Channel → Channel → (o : SocketOp) → o.Ans → Prop)
    (s : Session) : Session → Prop where
  | client {o : SocketOp} {k : o.Ans → SocketProgram AppError (AppResult BrokerResponse)}
      {a : o.Ans} {request response : Channel} (hclient : s.client = .op o k)
      (hmove : Moves s.request s.response o a request response)
      (hallows : allows (AtEnd s.thread) s.request s.response o a) :
      Step allows s { s with client := k a, request := request, response := response }
  | serve {o : SocketOp} {k : o.Ans → BrokerSocketProgram Unit} {a : o.Ans}
      {request response : Channel} (hthread : s.thread = .op (.socket o) k)
      (hmove : Moves s.response s.request o a response request)
      (hallows : allows (AtEnd s.client) s.response s.request o a) :
      Step allows s { s with thread := k a, request := request, response := response }
  | perform {o : BrokerOp} {k : o.Ans → BrokerSocketProgram Unit} (a : o.Ans)
      (hthread : s.thread = .op (.own o) k) : Step allows s { s with thread := k a }
  | finish {k : Unit → BrokerSocketProgram Unit} (hthread : s.thread = .op .drop k) :
      Step allows s { s with thread := k () }

/-- A session comes to an end: each step is one of the process or one of the thread. -/
theorem Session.wellFounded_step
    (allows : Prop → Channel → Channel → (o : SocketOp) → o.Ans → Prop) :
    WellFounded (flip (Session.Step allows)) := by
  have hclient : WellFounded fun q p : SocketProgram AppError
      (AppResult BrokerResponse) => q.Follows p :=
    wellFounded_follows
  have hthread : WellFounded fun q p : BrokerSocketProgram Unit => q.Follows p :=
    wellFounded_follows
  refine Subrelation.wf ?_
    (InvImage.wf (fun s : Session => (s.client, s.thread)) (hclient.prod_gameAdd hthread))
  intro t s hstep
  cases hstep with
  | client hop hmove hflawless => exact .fst ⟨_, _, _, hop, rfl⟩
  | serve hop hmove hflawless => exact .snd ⟨_, _, _, hop, rfl⟩
  | perform a hop => exact .snd ⟨_, _, _, hop, rfl⟩
  | finish hop => exact .snd ⟨_, _, _, hop, rfl⟩

/-- A session at its beginning, when the process has connected. -/
def Session.start (crates : Crates) (config : BrokerConfig) (peerCid : Option UInt32)
    (request : BrokerRequest) : Session where
  client := attempt do
    Sockets.writeJsonFrame request
    Sockets.readJsonFrame crates.responseFromSlice
  thread := Sockets.serveConnection crates config peerCid
  request := .new
  response := .new

/-- What a process makes of what comes before the end of the stream. -/
def heardResponse (crates : Crates) (bytes : Bytes) : AppResult BrokerResponse :=
  ((readJsonFrame crates.responseFromSlice).on ⟨bytes, Socket.unexpectedEof⟩).1

/-- What a thread sends of its outcome: a thread that panics sends nothing. -/
def sentBytes : AppResult Bytes → Bytes
  | .ok bytes => bytes
  | .error _ => []

section Phases

variable (crates : Crates) (config : BrokerConfig) (peerCid : Option UInt32)
  (request : BrokerRequest)

/-- The thread that is given the request as a whole comes to an outcome. -/
def Answers (outcome : AppResult Bytes) : Prop :=
  ∃ tr, (serveConnection crates config peerCid (streamOf (frameOf (toVec request)))).Yields tr
    outcome

/-- The session is over: the process has heard what the thread says to the request. -/
def Session.Over (s : Session) : Prop :=
  AtEnd s.thread ∧ ∃ outcome, Answers crates config peerCid request outcome ∧
    s.client = .ret (heardResponse crates (sentBytes outcome))

/-- The process is still to send `unsent`, and then hears whatever comes. -/
structure Session.Waits (s : Session) (unsent : Bytes) : Prop where
  client : ∀ bytes, s.client.Ensures
    (Socket.flawless (Reader.Delivers ⟨bytes, Socket.unexpectedEof⟩)) (fun _ _ => False)
      (fun heard w => heard = heardResponse crates bytes ∧ w.unsent = []) ⟨unsent, []⟩
  request : s.request.sent ++ unsent = frameOf (toVec request)
  response : s.response = .new

/-- The thread has the request, and the process hears `bytes`. -/
structure Session.Hears (s : Session) (bytes : Bytes) : Prop where
  client : s.client.Ensures (Socket.flawless (Reader.Delivers ⟨bytes, Socket.unexpectedEof⟩))
    (fun _ _ => False) (fun heard _ => heard = heardResponse crates bytes) ⟨[], s.response.received⟩
  consistent : Consistent ⟨bytes, Socket.unexpectedEof⟩ s.response
  read : s.request.received = s.request.sent

/-- The phases of a session. -/
inductive Session.Talks (s : Session) : Prop where
  /-- The thread reads the request. -/
  | reading {o : SocketOp} {E : o.Ans → SocketProgram AppError (AppResult BrokerRequest)}
      {unsent : Bytes}
      (hthread : s.thread = .op (.socket o) fun a =>
        (onSocket (E a)).bind (answerThread config peerCid))
      (hE : (Program.op o E).Ensures (Socket.flawless (Socket.Supplies (frameOf (toVec request))))
        (fun _ _ => False) (fun decoded w =>
          decoded = receivedRequest crates (streamOf (frameOf (toVec request))) ∧
            w.got = frameOf (toVec request)) ⟨[], s.request.received⟩)
      (hend : s.request.ending = none) (hwaits : s.Waits crates request unsent)
  /-- The thread has read the request, and works on it. -/
  | working {o : BrokerOp} {k : o.Ans → BrokerProgram BrokerResponse} {tr : List BrokerEvent}
      (hthread : s.thread = .op (.own o) fun a => (own (k a)).bind writeThread)
      (hsteps : (serveConnection crates config peerCid (streamOf (frameOf (toVec request)))).Steps
        tr (.op o fun a => (k a).bind fun response => .ret (writtenResponse response)))
      (hread : s.request.received = s.request.sent) (hwaits : s.Waits crates request [])
  /-- The thread writes the response, unless the process has gone. -/
  | writing {o : SocketOp} {E : o.Ans → SocketProgram AppError (AppResult Unit)} {bytes : Bytes}
      (hthread : s.thread = .op (.socket o) fun a => (onSocket (E a)).bind fun _ => drop)
      (hsends : (Program.op o E).Uses Socket.Sends)
      (hE : AtEnd s.client ∨ ∃ unsent, s.response.sent ++ unsent = bytes ∧
        (Program.op o E).Ensures (Socket.flawless fun _ _ => False) (fun _ _ => False)
          (fun _ w => w.unsent = []) ⟨unsent, []⟩)
      (hanswers : Answers crates config peerCid request (.ok bytes)) (hhears : s.Hears crates bytes)
  /-- The thread has nothing more to say. -/
  | closing {outcome : AppResult Bytes} (hthread : s.thread = drop ∨ AtEnd s.thread)
      (hanswers : Answers crates config peerCid request outcome)
      (hsent : AtEnd s.client ∨ s.response.sent = sentBytes outcome)
      (hhears : s.Hears crates (sentBytes outcome))

end Phases

variable {crates : Crates} {config : BrokerConfig} {peerCid : Option UInt32}
  {request : BrokerRequest}
  {capacity : ℕ} {s t : Session} {bytes unsent : Bytes}

/-! ## The programs of both ends -/

/-- A frame that is supplied is read as a whole. -/
theorem ensures_readFrame {payload : Bytes} {fault : String → Socket.Progress → Prop}
    (h : payload.length ≤ maxJsonFrameLength) :
    readFrame.Ensures (Socket.flawless (Socket.Supplies (frameOf payload))) fault
      (fun bytes w => bytes = frameOf payload ∧ w.got = frameOf payload) ⟨[], []⟩ := by
  have hlen : fromBeBytes (toBeBytes payload.length) = payload.length :=
    fromBeBytes_toBeBytes (lt_of_le_of_lt h maxJsonFrameLength_lt)
  refine Ensures.bind (Socket.flawless_readExact (length_toBeBytes _) rfl ?_)
  rw [hlen, if_neg (Nat.not_lt.mpr h)]
  have hwhole : [] ++ toBeBytes payload.length ++ (payload ++ []) = frameOf payload := by
    rw [List.nil_append, List.append_nil]
    rfl
  exact Ensures.bind (Socket.flawless_readExact rfl hwhole ⟨rfl, rfl⟩)

/-- A thread that is supplied a request as a whole reads it, and does not wait for more. -/
theorem ensures_readRequest (hfits : Fits request) :
    (attempt (Sockets.readJsonFrame crates.requestFromSlice) :
      SocketProgram AppError (AppResult BrokerRequest)).Ensures
        (Socket.flawless (Socket.Supplies (frameOf (toVec request)))) (fun _ _ => False)
        (fun decoded w => decoded = receivedRequest crates (streamOf (frameOf (toVec request))) ∧
          w.got = frameOf (toVec request)) ⟨[], []⟩ := by
  rw [readJsonFrame_eq_readFrame, attempt_mapError_bind]
  refine Ensures.bind (Ensures.attempt ((ensures_readFrame hfits).imp ?_))
  rintro bytes w ⟨rfl, hgot⟩
  exact ⟨rfl, hgot⟩

/-- A process sends its request, and then hears whatever comes. -/
theorem ensures_start (hfits : Fits request) (bytes : Bytes) :
    (Session.start crates config peerCid request).client.Ensures
      (Socket.flawless (Reader.Delivers ⟨bytes, Socket.unexpectedEof⟩)) (fun _ _ => False)
      (fun heard w => heard = heardResponse crates bytes ∧ w.unsent = [])
      ⟨frameOf (toVec request), []⟩ := by
  refine Ensures.attempt ?_
  rw [bind_eq, writeJsonFrame_of_fits hfits, bind_assoc]
  simp only [bind_assoc]
  refine Socket.flawless_writeAll_bind 4 (Ensures.bind (Socket.flawless_flush ?_))
  have hread := reads_readJsonFrame crates.responseFromSlice
    ⟨bytes, Socket.unexpectedEof⟩ [] bytes [] rfl
  refine (Socket.Ensures.flawless hread).mono ?_ ?_
  · rintro e w ⟨he, hunsent⟩
    exact ⟨he.symm, hunsent⟩
  · rintro response w ⟨⟨_, _, hr⟩, hunsent⟩
    exact ⟨(congrArg Prod.fst hr).symm, hunsent⟩

/-- A thread writes its response as a whole. -/
theorem ensures_writeResponse (response : BrokerResponse) :
    (attempt (Sockets.writeJsonFrame response) : SocketProgram AppError (AppResult Unit)).Ensures
      (Socket.flawless fun _ _ => False) (fun _ _ => False) (fun _ w => w.unsent = [])
      ⟨writtenResponse response, []⟩ := by
  refine Ensures.attempt ?_
  unfold writtenResponse
  by_cases hfits : (toVec response).length ≤ maxJsonFrameLength
  · rw [writeJsonFrame_of_fits hfits, writeJsonFrame_of_le [] hfits, List.nil_append]
    exact Socket.flawless_writeAll_bind 4 (Socket.flawless_flush rfl)
  · obtain ⟨message, hwrite⟩ := writeJsonFrame_of_lt response [] (Nat.not_le.mp hfits)
    rw [writeJsonFrame_of_not_fits (Nat.not_le.mp hfits), hwrite]
    rfl

/-! ## The phases follow each other -/

/-- A process that has sent its request hears what comes. -/
theorem Session.Waits.hears (h : s.Waits crates request [])
    (hread : s.request.received = s.request.sent) (bytes : Bytes) : s.Hears crates bytes where
  client := by
    rw [h.response]
    exact (h.client bytes).imp fun _ _ => And.left
  consistent := by
    rw [h.response]
    exact ⟨List.nil_prefix, fun _ hending => by cases hending⟩
  read := hread

/-- A thread that goes on to write. -/
theorem talks_of_writes {E : SocketProgram AppError (AppResult Unit)}
    (hthread : s.thread = (onSocket E).bind fun _ => drop) (hsends : E.Uses Socket.Sends)
    (hE : AtEnd s.client ∨ ∃ unsent, s.response.sent ++ unsent = bytes ∧
      E.Ensures (Socket.flawless fun _ _ => False) (fun _ _ => False)
        (fun _ w => w.unsent = []) ⟨unsent, []⟩)
    (hanswers : Answers crates config peerCid request (.ok bytes)) (hhears : s.Hears crates bytes) :
    s.Talks crates config peerCid request := by
  cases E with
  | ret r =>
    refine .closing (.inl hthread) hanswers (hE.imp_right fun ⟨unsent, hsent, hunsent⟩ => ?_) hhears
    obtain rfl : unsent = [] := hunsent
    rwa [List.append_nil] at hsent
  | fail e =>
    refine .closing (.inr (hthread ▸ trivial)) hanswers
      (hE.imp_right fun ⟨_, _, hfalse⟩ => ?_) hhears
    exact hfalse.elim
  | op o k => exact .writing hthread hsends hE hanswers hhears

/-- A thread that goes on to work. -/
theorem talks_of_works {q : BrokerProgram BrokerResponse} {tr : List BrokerEvent}
    (hthread : s.thread = (own q).bind writeThread)
    (hsteps : (serveConnection crates config peerCid (streamOf (frameOf (toVec request)))).Steps tr
      (q.bind fun response => .ret (writtenResponse response)))
    (hread : s.request.received = s.request.sent) (hwaits : s.Waits crates request []) :
    s.Talks crates config peerCid request := by
  cases q with
  | ret response =>
    refine talks_of_writes hthread (uses_writeJsonFrame response).attempt
      (.inr ⟨writtenResponse response, ?_, ?_⟩) ⟨tr, hsteps⟩ (hwaits.hears hread _)
    · rw [hwaits.response]
      rfl
    · exact ensures_writeResponse response
  | fail e =>
    have hanswers : Answers crates config peerCid request (.error e) := ⟨tr, hsteps⟩
    refine .closing (.inr (hthread ▸ trivial)) hanswers (.inr ?_) (hwaits.hears hread _)
    rw [hwaits.response]
    rfl
  | op o k => exact .working hthread hsteps hread hwaits

/-- A thread that goes on to read. -/
theorem talks_of_reads {E : SocketProgram AppError (AppResult BrokerRequest)}
    (hthread : s.thread = (onSocket E).bind (answerThread config peerCid))
    (hE : E.Ensures (Socket.flawless (Socket.Supplies (frameOf (toVec request))))
      (fun _ _ => False) (fun decoded w =>
        decoded = receivedRequest crates (streamOf (frameOf (toVec request))) ∧
          w.got = frameOf (toVec request)) ⟨[], s.request.received⟩)
    (hend : s.request.ending = none) (hwaits : s.Waits crates request unsent) :
    s.Talks crates config peerCid request := by
  cases E with
  | ret decoded =>
    obtain ⟨rfl, hgot⟩ := hE
    have hgot : s.request.received = frameOf (toVec request) := hgot
    -- What was read as a whole was sent as a whole.
    have hsent : s.request.received = s.request.sent := by
      refine s.request.received_le.eq_of_length_le ?_
      rw [hgot, ← hwaits.request, List.length_append]
      omega
    obtain rfl : unsent = [] := by
      have h := hwaits.request
      rwa [← hsent, hgot, List.append_right_eq_self] at h
    exact talks_of_works hthread (steps_nil.mpr rfl) hsent hwaits
  | fail e => exact hE.elim
  | op o k => exact .reading hthread hE hend hwaits

/-- A session at its beginning. -/
theorem talks_start (hfits : Fits request) :
    (Session.start crates config peerCid request).Talks crates config peerCid request :=
  talks_of_reads rfl (ensures_readRequest hfits) rfl ⟨ensures_start hfits, rfl, rfl⟩

/-! ## What a step preserves -/

section Steps

variable {o : SocketOp} {a : o.Ans} {outgoing incoming : Channel}

/-- A process that waits takes a step: it cannot have received anything. -/
theorem Session.Waits.step {k : o.Ans → SocketProgram AppError (AppResult BrokerResponse)}
    (h : s.Waits crates request unsent) (hclient : s.client = .op o k) (hopen : ¬ AtEnd s.thread)
    (hmove : Moves s.request s.response o a outgoing incoming)
    (hflawless : Flawless capacity (AtEnd s.thread) s.request s.response o a) :
    ∃ unsent', Session.Waits crates request
        { s with client := k a, request := outgoing, response := incoming } unsent' ∧
      outgoing.received = s.request.received ∧ outgoing.ending = s.request.ending ∧
      (unsent = [] → unsent' = [] ∧ outgoing.sent = s.request.sent) := by
  have hensures := h.client
  rw [hclient] at hensures
  cases hmove with
  | @write piece n =>
    obtain ⟨hle, -⟩ := hensures []
    have hn : n.val = 0 → piece = [] := fun hzero => by
      rcases hflawless with hnil | ⟨hne, -⟩
      · exact hnil
      · exact absurd hzero hne
    refine ⟨unsent.drop n, ⟨fun bytes => (hensures bytes).2 n hn, ?_, h.response⟩, rfl, rfl, ?_⟩
    · show s.request.sent ++ piece.take n ++ unsent.drop n = _
      rw [List.append_assoc, take_append_drop_of_prefix hle n.property, h.request]
    · rintro rfl
      obtain rfl : piece = [] := List.prefix_nil.mp hle
      refine ⟨List.drop_nil, ?_⟩
      show s.request.sent ++ List.take n [] = _
      rw [List.take_nil, List.append_nil]
  | writeFails message => exact absurd hflawless.1 hopen
  | flush a =>
    obtain rfl : a = .ok () := hflawless
    exact ⟨unsent, ⟨hensures, h.request, h.response⟩, rfl, rfl, fun hunsent => ⟨hunsent, rfl⟩⟩
  | read piece hne hle hend =>
    rw [h.response] at hle
    obtain ⟨-, hnil⟩ := List.append_eq_nil_iff.mp (List.prefix_nil.mp hle)
    exact absurd hnil hne
  | ends hend => exact absurd (hflawless rfl).1 hopen
  | readFails message hend => exact absurd hflawless.1 hopen

/-- A process that hears takes a step: it hears the end only when the thread has said everything. -/
theorem Session.Hears.step {k : o.Ans → SocketProgram AppError (AppResult BrokerResponse)}
    (h : s.Hears crates bytes) (hclient : s.client = .op o k) (hle : s.response.sent <+: bytes)
    (hall : AtEnd s.thread → s.response.sent = bytes)
    (hmove : Moves s.request s.response o a outgoing incoming)
    (hflawless : Flawless capacity (AtEnd s.thread) s.request s.response o a) :
    Session.Hears crates { s with client := k a, request := outgoing, response := incoming } bytes ∧
      incoming.sent = s.response.sent := by
  have hensures := h.client
  rw [hclient] at hensures
  cases hmove with
  | @write piece n =>
    obtain ⟨hpiece, hnext⟩ := hensures
    obtain rfl : piece = [] := List.prefix_nil.mp hpiece
    refine ⟨⟨?_, h.consistent, ?_⟩, rfl⟩
    · have hnext := hnext n fun _ => rfl
      rwa [List.drop_nil] at hnext
    · show s.request.received = s.request.sent ++ List.take n []
      rw [List.take_nil, List.append_nil, h.read]
  | @writeFails piece message =>
    obtain ⟨hpiece, hnext⟩ := hensures
    exact absurd (List.prefix_nil.mp hpiece) hflawless.2
  | flush a =>
    obtain rfl : a = .ok () := hflawless
    exact ⟨⟨hensures, h.consistent, h.read⟩, rfl⟩
  | @read len piece hne hread hend =>
    have hconsistent : Consistent ⟨bytes, Socket.unexpectedEof⟩ (s.response.receive piece hread) :=
      ⟨hread.trans hle, fun message hmessage => by
        have hmessage : s.response.ending = some message := hmessage
        rw [hend] at hmessage
        cases hmessage⟩
    have hmove : Moves s.request s.response (.read len) (.ok piece) s.request _ :=
      .read piece hne hread hend
    exact ⟨⟨hensures.2.2 (.ok piece) (hmove.delivers hconsistent), hconsistent, h.read⟩, rfl⟩
  | @ends len hend =>
    obtain ⟨hclosed, hreceived⟩ := hflawless rfl
    have hconsistent : Consistent ⟨bytes, Socket.unexpectedEof⟩
        (s.response.finish Socket.unexpectedEof) := by
      refine ⟨h.consistent.1, fun message hmessage => ?_⟩
      obtain rfl : Socket.unexpectedEof = message := Option.some.inj hmessage
      rw [← hall hclosed, ← hreceived]
      rfl
    have hmove : Moves s.request s.response (.read len) (.ok ⟨[], Nat.zero_le _⟩) s.request _ :=
      .ends hend
    refine ⟨⟨?_, hconsistent, h.read⟩, rfl⟩
    have hnext := hensures.2.2 _ (hmove.delivers hconsistent)
    rwa [(hmove.after []).1] at hnext
  | readFails message hend => exact absurd h.read hflawless.2

end Steps

/-- The process takes a step. -/
theorem Session.Talks.client {o : SocketOp}
    {k : o.Ans → SocketProgram AppError (AppResult BrokerResponse)} {a : o.Ans}
    {outgoing incoming : Channel} (h : s.Talks crates config peerCid request)
    (hclient : s.client = .op o k) (hmove : Moves s.request s.response o a outgoing incoming)
    (hflawless : Flawless capacity (AtEnd s.thread) s.request s.response o a) :
    Session.Talks crates config peerCid request
      { s with client := k a, request := outgoing, response := incoming } := by
  have hclientOpen : ¬ AtEnd s.client := hclient ▸ id
  cases h with
  | reading hthread hE hend hwaits =>
    have hopen : ¬ AtEnd s.thread := hthread ▸ id
    obtain ⟨unsent', hwaits', hreceived, hending, _⟩ := hwaits.step hclient hopen hmove hflawless
    exact .reading hthread (hreceived ▸ hE) (hending.trans hend) hwaits'
  | working hthread hsteps hread hwaits =>
    have hopen : ¬ AtEnd s.thread := hthread ▸ id
    obtain ⟨unsent', hwaits', hreceived, _, hnil⟩ := hwaits.step hclient hopen hmove hflawless
    obtain ⟨rfl, hsent⟩ := hnil rfl
    exact .working hthread hsteps (hreceived.trans (hread.trans hsent.symm)) hwaits'
  | writing hthread hsends hE hanswers hhears =>
    obtain ⟨unsent, hsent, hE⟩ := hE.resolve_left hclientOpen
    have hopen : ¬ AtEnd s.thread := hthread ▸ id
    obtain ⟨hhears', hsame⟩ :=
      hhears.step hclient ⟨unsent, hsent⟩ (fun hend => absurd hend hopen) hmove hflawless
    exact .writing hthread hsends (.inr ⟨unsent, hsame ▸ hsent, hE⟩) hanswers hhears'
  | closing hthread hanswers hsent hhears =>
    have hsent := hsent.resolve_left hclientOpen
    obtain ⟨hhears', hsame⟩ := hhears.step hclient (hsent ▸ List.prefix_rfl) (fun _ => hsent) hmove
      hflawless
    exact .closing hthread hanswers (.inr (hsame.trans hsent)) hhears'

/-- A process at its end has sent its request. -/
theorem Session.Waits.unsent_of_atEnd (h : s.Waits crates request unsent) (hend : AtEnd s.client) :
    unsent = [] := by
  have hensures := h.client []
  cases hclient : s.client with
  | ret r =>
    rw [hclient] at hensures
    exact hensures.2
  | fail e =>
    rw [hclient] at hensures
    exact hensures.elim
  | op o k =>
    rw [hclient] at hend
    exact hend.elim

/-- A thread that still reads has not read the whole request. -/
theorem received_ne_of_supplies {received whole : Bytes} {len : ℕ}
    (h : ∃ a : SocketOp.Ans (.read len), Socket.Supplies whole received (a.map (·.val))) :
    0 < len ∧ received ≠ whole := by
  obtain ⟨a, ha⟩ := h
  match a, ha with
  | .ok ⟨piece, hlen⟩, ⟨hne, hle⟩ =>
    have hpos : 0 < piece.length := List.length_pos_iff.mpr hne
    refine ⟨Nat.lt_of_lt_of_le hpos hlen, ?_⟩
    rintro rfl
    have hlength := hle.length_le
    rw [List.length_append] at hlength
    dsimp only at hlength
    omega

/-- The thread uses its connection. -/
theorem Session.Talks.serve {o : SocketOp} {k : o.Ans → BrokerSocketProgram Unit} {a : o.Ans}
    {outgoing incoming : Channel} (h : s.Talks crates config peerCid request)
    (hop : s.thread = .op (.socket o) k) (hmove : Moves s.response s.request o a outgoing incoming)
    (hflawless : Flawless capacity (AtEnd s.client) s.response s.request o a) :
    Session.Talks crates config peerCid request
      { s with thread := k a, request := incoming, response := outgoing } := by
  cases h with
  | @reading _ E unsent hthread hE hend hwaits =>
    rw [hop] at hthread
    cases hthread
    cases hmove with
    | @write piece n =>
      obtain ⟨hle, hnext⟩ := hE
      obtain rfl : piece = [] := List.prefix_nil.mp hle
      refine talks_of_reads rfl ?_ hend ⟨hwaits.client, hwaits.request, ?_⟩
      · have hnext := hnext n fun _ => rfl
        rwa [List.drop_nil] at hnext
      · show s.response.send (List.take n []) = _
        rw [hwaits.response, List.take_nil]
        rfl
    | writeFails message => exact absurd (List.prefix_nil.mp hE.1) hflawless.2
    | flush a =>
      obtain rfl : a = .ok () := hflawless
      exact talks_of_reads rfl hE hend ⟨hwaits.client, hwaits.request, hwaits.response⟩
    | @read len piece hne hread hnone =>
      have hsupplies : Socket.Supplies (frameOf (toVec request)) s.request.received
          (Except.map (·.val) (.ok piece : SocketOp.Ans (.read len))) :=
        ⟨hne, hread.trans ⟨unsent, hwaits.request⟩⟩
      exact talks_of_reads rfl (hE.2.2 (.ok piece) hsupplies) hend
        ⟨hwaits.client, hwaits.request, hwaits.response⟩
    | ends hnone =>
      -- The process goes only once the thread has the whole request.
      obtain ⟨hclosed, hreceived⟩ := hflawless rfl
      obtain rfl := hwaits.unsent_of_atEnd hclosed
      have hall := hwaits.request
      rw [List.append_nil, ← hreceived] at hall
      exact absurd hall (received_ne_of_supplies hE.2.1).2
    | readFails message hnone =>
      rw [hwaits.response] at hflawless
      exact absurd rfl hflawless.2
  | working hthread hsteps hread hwaits =>
    rw [hop] at hthread
    cases hthread
  | @writing _ E bytes hthread hsends hE hanswers hhears =>
    rw [hop] at hthread
    cases hthread
    cases hmove with
    | @write piece n =>
      refine talks_of_writes rfl (hsends.2 _) ?_ hanswers
        ⟨hhears.client, hhears.consistent, hhears.read⟩
      refine hE.imp_right fun ⟨unsent, hsent, hle, hnext⟩ => ⟨unsent.drop n, ?_, hnext n ?_⟩
      · show s.response.sent ++ piece.take n ++ unsent.drop n = _
        rw [List.append_assoc, take_append_drop_of_prefix hle n.property, hsent]
      · intro hzero
        rcases hflawless with hnil | ⟨hne, -⟩
        · exact hnil
        · exact absurd hzero hne
    | writeFails message =>
      exact talks_of_writes rfl (hsends.2 _) (.inl hflawless.1) hanswers
        ⟨hhears.client, hhears.consistent, hhears.read⟩
    | flush a =>
      obtain rfl : a = .ok () := hflawless
      exact talks_of_writes rfl (hsends.2 _) hE hanswers
        ⟨hhears.client, hhears.consistent, hhears.read⟩
    | read piece hne hread hnone => exact hsends.1.elim
    | ends hnone => exact hsends.1.elim
    | readFails message hnone => exact hsends.1.elim
  | closing hthread hanswers hsent hhears =>
    rw [hop] at hthread
    rcases hthread with hthread | hthread
    · cases hthread
    · exact hthread.elim

/-- A step leads to the same phase or to a later one. -/
theorem Session.Talks.step (h : s.Talks crates config peerCid request)
    (hstep : s.Step (Flawless capacity) t) : t.Talks crates config peerCid request := by
  cases hstep with
  | client hclient hmove hflawless => exact h.client hclient hmove hflawless
  | serve hthread hmove hflawless => exact h.serve hthread hmove hflawless
  | perform a hop =>
    cases h with
    | reading hthread hE hend hwaits =>
      rw [hop] at hthread
      cases hthread
    | working hthread hsteps hread hwaits =>
      rw [hop] at hthread
      cases hthread
      exact talks_of_works rfl (hsteps.trans (.step (.refl _))) hread
        ⟨hwaits.client, hwaits.request, hwaits.response⟩
    | writing hthread hsends hE hanswers hhears =>
      rw [hop] at hthread
      cases hthread
    | closing hthread hanswers hsent hhears =>
      rw [hop] at hthread
      rcases hthread with hthread | hthread
      · cases hthread
      · exact hthread.elim
  | finish hop =>
    cases h with
    | reading hthread hE hend hwaits =>
      rw [hop] at hthread
      cases hthread
    | working hthread hsteps hread hwaits =>
      rw [hop] at hthread
      cases hthread
    | writing hthread hsends hE hanswers hhears =>
      rw [hop] at hthread
      cases hthread
    | closing hthread hanswers hsent hhears =>
      rw [hop] at hthread
      rcases hthread with hthread | hthread
      · cases hthread
        exact .closing (.inr trivial) hanswers hsent ⟨hhears.client, hhears.consistent, hhears.read⟩
      · exact hthread.elim

/-! ## There is always a next step -/

section Moves

variable {outgoing incoming : Channel} {closed : Prop}

/-- An end can write if there is room, or nothing to write. -/
theorem exists_write {piece : Bytes} (h : piece = [] ∨ outgoing.received = outgoing.sent)
    (hcap : 0 < capacity) : ∃ (a : SocketOp.Ans (.write piece)) (outgoing' incoming' : Channel),
      Moves outgoing incoming (.write piece) a outgoing' incoming' ∧
        Flawless capacity closed outgoing incoming (.write piece) a := by
  cases piece with
  | nil => exact ⟨_, _, _, .write ⟨0, Nat.le_refl _⟩, .inl rfl⟩
  | cons b bs =>
    have hfull : outgoing.received = outgoing.sent := h.resolve_left (List.cons_ne_nil b bs)
    refine ⟨_, _, _, .write ⟨1, Nat.le_add_left 1 _⟩, .inr ⟨Nat.one_ne_zero, ?_⟩⟩
    rw [hfull]
    exact Nat.add_le_add_left hcap _

/-- An end can read what is in flight. -/
theorem exists_read {len : ℕ} (hlen : 0 < len) (hne : incoming.received ≠ incoming.sent)
    (hend : incoming.ending = none) :
    ∃ (a : SocketOp.Ans (.read len)) (outgoing' incoming' : Channel),
      Moves outgoing incoming (.read len) a outgoing' incoming' ∧
        Flawless capacity closed outgoing incoming (.read len) a := by
  obtain ⟨rest, hrest⟩ := incoming.received_le
  cases rest with
  | nil => exact absurd (by rwa [List.append_nil] at hrest) hne
  | cons b bs =>
    have hread : incoming.received ++ [b] <+: incoming.sent := ⟨bs, by simp [← hrest]⟩
    exact ⟨_, _, _, .read ⟨[b], hlen⟩ (List.cons_ne_nil b []) hread hend,
      fun hnil => absurd hnil (List.cons_ne_nil b [])⟩

end Moves

/-- A stream that has more to deliver than its end has something to deliver into a buffer. -/
theorem pos_of_delivers {received : Bytes} {len : ℕ}
    (h : ∃ a : SocketOp.Ans (.read len),
      Reader.Delivers ⟨bytes, Socket.unexpectedEof⟩ received (a.map (·.val)))
    (hne : received ≠ bytes) : 0 < len := by
  obtain ⟨a, ha⟩ := h
  match a, ha with
  | .error message, ha => exact absurd (congrArg Reader.bytes ha).symm hne
  | .ok ⟨[], _⟩, ha => exact absurd (congrArg Reader.bytes ha).symm hne
  | .ok ⟨b :: bs, hlen⟩, _ => exact Nat.lt_of_lt_of_le (Nat.succ_pos _) hlen

/-- A process that still has something to hear can go on, if there is something in flight or the
thread is at its end. -/
theorem Session.Hears.next (h : s.Hears crates bytes) (hcap : 0 < capacity)
    (hle : s.response.sent <+: bytes)
    (hcomes : s.response.received ≠ s.response.sent ∨ AtEnd s.thread ∧ s.response.sent = bytes) :
    AtEnd s.client ∨ ∃ t, s.Step (Flawless capacity) t := by
  have hensures := h.client
  cases hclient : s.client with
  | ret r => exact .inl trivial
  | fail e => exact .inl trivial
  | op o k =>
    rw [hclient] at hensures
    refine .inr ?_
    cases o with
    | write piece =>
      have hnil : piece = [] := List.prefix_nil.mp hensures.1
      obtain ⟨a, outgoing, incoming, hmove, hflawless⟩ := exists_write (.inl hnil) hcap
      exact ⟨_, .client hclient hmove hflawless⟩
    | flush => exact ⟨_, .client hclient (.flush (.ok ())) rfl⟩
    | read len =>
      by_cases hreceived : s.response.received = s.response.sent
      · -- Everything was heard, and the end of the stream follows.
        obtain ⟨hend, hall⟩ := hcomes.resolve_left (absurd hreceived)
        refine ⟨_, .client hclient (.ends fun message hmessage => ?_) fun _ => ⟨hend, hreceived⟩⟩
        exact (congrArg Reader.ending (h.consistent.2 message hmessage)).symm
      · have hne : s.response.received ≠ bytes := by
          rintro hall
          refine hreceived (s.response.received_le.eq_of_length_le ?_)
          rw [hall]
          exact hle.length_le
        have hend : s.response.ending = none := by
          cases hending : s.response.ending with
          | none => rfl
          | some message =>
            exact absurd (congrArg Reader.bytes (h.consistent.2 message hending)).symm hne
        obtain ⟨a, outgoing, incoming, hmove, hflawless⟩ :=
          exists_read (pos_of_delivers hensures.2.1 hne) hreceived hend
        exact ⟨_, .client hclient hmove hflawless⟩

/-- A process that has not sent everything can go on, if nothing is in flight. -/
theorem Session.Waits.next (h : s.Waits crates request unsent) (hcap : 0 < capacity)
    (hunsent : unsent ≠ []) (hread : s.request.received = s.request.sent) :
    ∃ t, s.Step (Flawless capacity) t := by
  have hensures := h.client []
  cases hclient : s.client with
  | ret r => exact absurd (h.unsent_of_atEnd (hclient ▸ trivial)) hunsent
  | fail e => exact absurd (h.unsent_of_atEnd (hclient ▸ trivial)) hunsent
  | op o k =>
    rw [hclient] at hensures
    cases o with
    | write piece =>
      obtain ⟨a, outgoing, incoming, hmove, hflawless⟩ := exists_write (.inr hread) hcap
      exact ⟨_, .client hclient hmove hflawless⟩
    | flush => exact ⟨_, .client hclient (.flush (.ok ())) rfl⟩
    | read len => exact absurd hensures.1 hunsent

/-- A process at its end has heard its response. -/
theorem Session.Hears.eq_ret (h : s.Hears crates bytes) (hend : AtEnd s.client) :
    s.client = .ret (heardResponse crates bytes) := by
  have hensures := h.client
  cases hclient : s.client with
  | ret r =>
    rw [hclient] at hensures
    exact congrArg Program.ret hensures
  | fail e =>
    rw [hclient] at hensures
    exact hensures.elim
  | op o k =>
    rw [hclient] at hend
    exact hend.elim

/-- Every operation of a broker may get an answer. -/
theorem BrokerOp.exists_answer (o : BrokerOp) : Nonempty o.Ans := by
  cases o with
  | buildRuntime => exact ⟨.ok ()⟩
  | defaultCredentials => exact ⟨.error ""⟩
  | getObject bucket key => exact ⟨.ok (.error "")⟩
  | putObject bucket key body => exact ⟨.ok ()⟩

/-- A session that is not over goes on. -/
theorem Session.Talks.next (h : s.Talks crates config peerCid request) (hcap : 0 < capacity) :
    s.Over crates config peerCid request ∨ ∃ t, s.Step (Flawless capacity) t := by
  cases h with
  | @reading o E unsent hthread hE hend hwaits =>
    refine .inr ?_
    cases o with
    | write piece =>
      have hnil : piece = [] := List.prefix_nil.mp hE.1
      obtain ⟨a, outgoing, incoming, hmove, hflawless⟩ := exists_write (.inl hnil) hcap
      exact ⟨_, .serve hthread hmove hflawless⟩
    | flush => exact ⟨_, .serve hthread (.flush (.ok ())) rfl⟩
    | read len =>
      obtain ⟨hlen, hne⟩ := received_ne_of_supplies hE.2.1
      by_cases hread : s.request.received = s.request.sent
      · -- The thread waits for what the process is still to send.
        refine hwaits.next hcap ?_ hread
        rintro rfl
        have hall := hwaits.request
        rw [List.append_nil, ← hread] at hall
        exact hne hall
      · obtain ⟨a, outgoing, incoming, hmove, hflawless⟩ := exists_read hlen hread hend
        exact ⟨_, .serve hthread hmove hflawless⟩
  | @working o k tr hthread hsteps hread hwaits =>
    obtain ⟨a⟩ := o.exists_answer
    exact .inr ⟨_, .perform a hthread⟩
  | @writing o E bytes hthread hsends hE hanswers hhears =>
    refine .inr ?_
    cases o with
    | read len => exact hsends.1.elim
    | flush => exact ⟨_, .serve hthread (.flush (.ok ())) rfl⟩
    | write piece =>
      by_cases hroom : piece = [] ∨ s.response.received = s.response.sent
      · obtain ⟨a, outgoing, incoming, hmove, hflawless⟩ := exists_write hroom hcap
        exact ⟨_, .serve hthread hmove hflawless⟩
      · obtain ⟨hpiece, hflight⟩ := not_or.mp hroom
        have hgone (hgone : AtEnd s.client) : ∃ t, s.Step (Flawless capacity) t :=
          ⟨_, .serve hthread (.writeFails "") ⟨hgone, hpiece⟩⟩
        rcases hE with hend | ⟨unsent, hsent, -⟩
        · exact hgone hend
        · -- The thread waits for the process to take what is in flight.
          rcases hhears.next hcap ⟨unsent, hsent⟩ (.inl hflight) with hend | hnext
          · exact hgone hend
          · exact hnext
  | @closing outcome hthread hanswers hsent hhears =>
    rcases hthread with hthread | hthread
    · exact .inr ⟨_, .finish hthread⟩
    · have hover (hend : AtEnd s.client) : s.Over crates config peerCid request :=
        ⟨hthread, outcome, hanswers, hhears.eq_ret hend⟩
      rcases hsent with hend | hsent
      · exact .inl (hover hend)
      · exact (hhears.next hcap (hsent ▸ List.prefix_rfl) (.inr ⟨hthread, hsent⟩)).imp_left hover

/-- A process and its broker never wait for each other in vain. On a connection without faults,
however few bytes its channels hold, however frames are cut into pieces and in whatever order the
two ends take their turns: a request that fits is sent and read, the thread does what it does when
it is given the request as a whole, whatever S3 and the credential chain answer, and the process
hears just the response of the thread, or the end of the stream if the thread sends none. -/
theorem session_ends (hfits : Fits request) (hcap : 0 < capacity) :
    Eventually (Session.Step (Flawless capacity)) (Session.Over crates config peerCid request)
      (Session.start crates config peerCid request) :=
  .of_invariant (Session.wellFounded_step _) (fun _ _ h hstep => h.step hstep)
    (fun _ h => h.next hcap) (talks_start hfits)

end AwsKmsDemo
