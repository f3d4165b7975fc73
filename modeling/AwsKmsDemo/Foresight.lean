import AwsKmsDemo.Transport

/-!
# What a connection comes to send

Elsewhere a thread is given all that its connection sends at once; on a socket it reads as it goes.
Which stream a connection will have sent is not known when it is made, but it is at the end of a
run: a function `streams` foresees a state if it agrees with what was received so far (`Foresees`),
and what is foreseen at the end was foreseen all along. `Serves` compares a thread on its socket
with the thread that was given the whole stream.
-/

namespace AwsKmsDemo

open Interaction Interaction.Program Stream Storage

variable {crates : Crates} {brokers : Brokers} {config : BrokerConfig} {peerCid : Option UInt32}
  {stream : Reader} {received sent : Bytes} {thread : BrokerSocketProgram Unit}
  {p : BrokerProgram Bytes}

/-! ## A thread and its connection -/

/-- The thread of a connection once it has its response. -/
def writeThread (response : BrokerResponse) : BrokerSocketProgram Unit :=
  (onSocket (attempt (Sockets.writeJsonFrame response))).bind fun _ => drop

/-- The thread of a connection once it has read a request. -/
def answerThread (config : BrokerConfig) (peerCid : Option UInt32)
    (decoded : AppResult BrokerRequest) : BrokerSocketProgram Unit :=
  (own (respond config peerCid decoded)).bind writeThread

/-- A program that is still reading comes to read the request of the stream. -/
def ReadsRequest (crates : Crates) (stream : Reader) (received : Bytes)
    (E : SocketProgram AppError (AppResult BrokerRequest)) : Prop :=
  E.Ensures (Socket.spec stream.Delivers) (fun _ _ => False)
    (fun decoded _ => decoded = receivedRequest crates stream) ⟨[], received⟩

/-- A program writes nothing but the beginning of `unsent`, and does not read. -/
def WritesOnly (unsent : Bytes) (E : SocketProgram AppError (AppResult Unit)) : Prop :=
  E.Ensures (Socket.spec fun _ _ => False) (fun _ _ => False) (fun _ _ => True) ⟨unsent, []⟩

/-- The thread of a connection on its socket, after it has received and sent something, and what is
left of the thread that was given the whole stream. -/
inductive Serves (crates : Crates) (config : BrokerConfig) (peerCid : Option UInt32)
    (stream : Reader)
    (thread : BrokerSocketProgram Unit) (received sent : Bytes) : BrokerProgram Bytes → Prop where
  /-- It is reading, and the other has not done anything yet. -/
  | reading {o : SocketOp} {E : o.Ans → SocketProgram AppError (AppResult BrokerRequest)}
      (hthread : thread = .op (.socket o) fun a =>
        (onSocket (E a)).bind (answerThread config peerCid))
      (hsent : sent = []) (hE : ReadsRequest crates stream received (.op o E)) :
      Serves crates config peerCid stream thread received sent
        (serveConnection crates config peerCid stream)
  /-- Both are working. -/
  | working {o : BrokerOp} {k : o.Ans → BrokerProgram BrokerResponse}
      (hthread : thread = .op (.own o) fun a => (own (k a)).bind writeThread) (hsent : sent = []) :
      Serves crates config peerCid stream thread received sent
        (.op o fun a => (k a).bind fun response => .ret (writtenResponse response))
  /-- Both have panicked. -/
  | panicked {e : AppError} (hthread : thread = .fail e) (hsent : sent = []) :
      Serves crates config peerCid stream thread received sent (.fail e)
  /-- It is writing, and the other is done. -/
  | writing {o : SocketOp} {E : o.Ans → SocketProgram AppError (AppResult Unit)} {unsent : Bytes}
      (hthread : thread = .op (.socket o) fun a => (onSocket (E a)).bind fun _ => drop)
      (hE : WritesOnly unsent (.op o E)) :
      Serves crates config peerCid stream thread received sent (.ret (sent ++ unsent))
  /-- Both are done. -/
  | done {bytes : Bytes} (hthread : thread = drop ∨ thread = .ret ()) (hsent : sent <+: bytes) :
      Serves crates config peerCid stream thread received sent (.ret bytes)

/-- A thread that goes on to write. -/
theorem serves_of_writes {unsent : Bytes} {E : SocketProgram AppError (AppResult Unit)}
    (hE : WritesOnly unsent E) : Serves crates config peerCid stream
      ((onSocket E).bind fun _ => drop) received sent (.ret (sent ++ unsent)) := by
  cases E with
  | ret r => exact .done (.inl rfl) (List.prefix_append _ _)
  | fail e => exact hE.elim
  | op o k => exact .writing rfl hE

/-- A thread that has its response. -/
theorem serves_writeThread (response : BrokerResponse) : Serves crates config peerCid stream
    (writeThread response) received [] (.ret (writtenResponse response)) := by
  refine serves_of_writes (E := attempt (Sockets.writeJsonFrame response)) (Ensures.attempt ?_)
  by_cases hfits : (toVec response).length ≤ maxJsonFrameLength
  · rw [writeJsonFrame_of_fits hfits, writeJsonFrame_of_le [] hfits, List.nil_append]
    exact Socket.ensures_writeAll_bind 4 (Socket.ensures_flush trivial fun _ _ => trivial)
      fun _ _ => trivial
  · rw [writeJsonFrame_of_not_fits (Nat.not_le.mp hfits)]
    trivial

/-- A thread that goes on to work. -/
theorem serves_of_works (q : BrokerProgram BrokerResponse) : Serves crates config peerCid stream
    ((own q).bind writeThread) received []
      (q.bind fun response => .ret (writtenResponse response)) := by
  cases q with
  | ret response => exact serves_writeThread response
  | fail e => exact .panicked rfl rfl
  | op o k => exact .working rfl rfl

/-- A thread that goes on to read. -/
theorem serves_of_reads {E : SocketProgram AppError (AppResult BrokerRequest)}
    (hE : ReadsRequest crates stream received E) : Serves crates config peerCid stream
      ((onSocket E).bind (answerThread config peerCid)) received []
      (serveConnection crates config peerCid stream) := by
  cases E with
  | ret decoded =>
    obtain rfl : decoded = receivedRequest crates stream := hE
    exact serves_of_works _
  | fail e => exact hE.elim
  | op o k => exact .reading rfl rfl hE

/-- A thread that was just started. -/
theorem serves_start : Serves crates config peerCid stream
    (Sockets.serveConnection crates config peerCid) [] []
    (serveConnection crates config peerCid stream) := by
  refine serves_of_reads (E := attempt (Sockets.readJsonFrame crates.requestFromSlice))
    (Ensures.attempt ?_)
  refine (reads_readJsonFrame crates.requestFromSlice stream [] stream.bytes [] rfl).mono ?_ ?_
  · intro e w he
    exact he.symm
  · rintro request w ⟨rest, _, hr⟩
    exact (congrArg Prod.fst hr).symm

/-- What was written to the connection is the beginning of the response. -/
theorem Serves.sent_le (h : Serves crates config peerCid stream thread received sent p)
    (connection : Reader) :
    sent <+: (Connection.written ⟨connection, p⟩).getD [] := by
  cases h with
  | reading hthread hsent hE => exact hsent ▸ List.nil_prefix
  | working hthread hsent => exact hsent ▸ List.nil_prefix
  | panicked hthread hsent => exact hsent ▸ List.nil_prefix
  | writing hthread hE => exact List.prefix_append _ _
  | done hthread hsent => exact hsent

/-! ## What a connection comes to receive -/

/-- A channel may come to deliver a stream. -/
def Consistent (stream : Reader) (c : Channel) : Prop :=
  c.received <+: stream.bytes ∧ ∀ message, c.ending = some message → stream = ⟨c.received, message⟩

/-- What a channel may deliver after a move, it could deliver before. -/
theorem Moves.consistent {outgoing incoming outgoing' incoming' : Channel}
    {o : SocketOp} {a : o.Ans}
    (h : Moves outgoing incoming o a outgoing' incoming') (hstream : Consistent stream incoming') :
    Consistent stream incoming := by
  cases h with
  | write n => exact hstream
  | writeFails message => exact hstream
  | flush a => exact hstream
  | read piece hne hle hend =>
    refine ⟨(List.prefix_append _ _).trans hstream.1, fun message hmessage => ?_⟩
    rw [hend] at hmessage
    cases hmessage
  | ends hend =>
    refine ⟨hstream.1, fun message hmessage => ?_⟩
    rw [hend message hmessage]
    exact hstream.2 _ rfl
  | readFails message' hend =>
    refine ⟨hstream.1, fun message hmessage => ?_⟩
    rw [hend message hmessage]
    exact hstream.2 _ rfl

/-- A read delivers what the stream may deliver. -/
theorem Moves.delivers {outgoing incoming outgoing' incoming' : Channel} {len : ℕ}
    {a : SocketOp.Ans (.read len)} (h : Moves outgoing incoming (.read len) a outgoing' incoming')
    (hstream : Consistent stream incoming') :
    stream.Delivers incoming.received (a.map (·.val)) := by
  cases h with
  | read piece hne hle hend =>
    rw [Reader.Delivers.eq_def]
    obtain ⟨piece, hlen⟩ := piece
    cases piece with
    | nil => exact absurd rfl hne
    | cons b bs => exact hstream.1
  | ends hend => exact hstream.2 _ rfl
  | readFails message hend => exact hstream.2 _ rfl

/-- What an end has read after a move. -/
theorem Moves.after {outgoing incoming outgoing' incoming' : Channel} {len : ℕ}
    {a : SocketOp.Ans (.read len)} (h : Moves outgoing incoming (.read len) a outgoing' incoming')
    (unsent : Bytes) : Socket.Progress.after ⟨unsent, incoming.received⟩ a =
      ⟨unsent, incoming'.received⟩ ∧ outgoing' = outgoing := by
  cases h <;> simp [Socket.Progress.after, Channel.receive, Channel.finish]

/-! ## A thread takes a step -/

/-- An operation that is not a read. -/
def NotRead {Op : Type} : WithSocket Op → Prop
  | .socket (.read _) => False
  | _ => True

/-- Writing a frame only sends. -/
theorem uses_writeJsonFrame (response : BrokerResponse) :
    (Sockets.writeJsonFrame response).Uses Socket.Sends :=
  uses_ofExcept_bind fun _ _ => uses_ofExcept_bind fun _ _ =>
    (Socket.uses_writeAll _ _).bind fun _ => (Socket.uses_writeAll _ _).bind fun _ =>
      Socket.uses_flush _

/-- A thread that writes its response reads nothing more. -/
theorem uses_writeThread (response : BrokerResponse) : (writeThread response).Uses NotRead := by
  have hwrite := uses_writeJsonFrame response
  refine Uses.bind (hwrite.attempt.translate fun o ho => ?_) fun _ => ⟨trivial, fun _ => trivial⟩
  cases o <;> exact ho

/-- Of what is to be written, an end has taken a piece. -/
theorem take_append_drop_of_prefix {bytes unsent : Bytes} (h : bytes <+: unsent) {n : ℕ}
    (hn : n ≤ bytes.length) : bytes.take n ++ unsent.drop n = unsent := by
  obtain ⟨rest, rfl⟩ := h
  rw [List.drop_append_of_le_length hn, ← List.append_assoc, List.take_append_drop]

variable {request response request' response' : Channel}

/-- A thread uses its connection. -/
theorem Serves.move {o : SocketOp} {k : o.Ans → BrokerSocketProgram Unit} {a : o.Ans}
    (h : Serves crates config peerCid stream (.op (.socket o) k) request.received response.sent p)
    (hmove : Moves response request o a response' request') (hstream : Consistent stream request') :
    Serves crates config peerCid stream (k a) request'.received response'.sent p := by
  cases h with
  | @reading _ E hthread hsent hE =>
    cases hthread
    cases o with
    | write bytes =>
      -- There is nothing to write yet.
      obtain ⟨hle, hnext, hfails⟩ := hE
      obtain rfl : bytes = [] := List.prefix_nil.mp hle
      cases hmove with
      | write n =>
        have hE' : ReadsRequest crates stream request.received (E (.ok n)) := by
          have h := hnext n
          rwa [List.drop_nil] at h
        have hsent' : (response.send (([] : Bytes).take n)).sent = [] := by
          simp [Channel.send, hsent]
        rw [hsent']
        exact serves_of_reads hE'
      | writeFails message => rw [hsent]; exact serves_of_reads (hfails message)
    | flush =>
      cases hmove
      rw [hsent]
      exact serves_of_reads (hE a)
    | read len =>
      have hE' := hE.2 a (hmove.delivers hstream)
      rw [(hmove.after []).1] at hE'
      rw [(hmove.after []).2, hsent]
      exact serves_of_reads hE'
  | working hthread hsent => cases hthread
  | panicked hthread hsent => cases hthread
  | @writing _ E unsent hthread hE =>
    cases hthread
    cases hmove with
    | @write bytes n =>
      obtain ⟨hle, hnext, _⟩ := hE
      have hunsent : response.sent ++ unsent =
          (response.send (bytes.take n)).sent ++ unsent.drop n := by
        show _ = response.sent ++ _ ++ _
        rw [List.append_assoc, take_append_drop_of_prefix hle n.property]
      rw [hunsent]
      exact serves_of_writes (hnext n)
    | writeFails message => exact serves_of_writes (hE.2.2 message)
    | flush a => exact serves_of_writes (hE a)
    | read piece hne hle hend =>
      obtain ⟨_, hfalse⟩ := hE.1
      exact hfalse.elim
    | ends hend =>
      obtain ⟨_, hfalse⟩ := hE.1
      exact hfalse.elim
    | readFails message hend =>
      obtain ⟨_, hfalse⟩ := hE.1
      exact hfalse.elim
  | done hthread hsent => rcases hthread with hthread | hthread <;> cases hthread

/-- A thread performs an operation of its own: so does the other one, and neither reads from then
on. -/
theorem Serves.perform {o : BrokerOp} {k : o.Ans → BrokerSocketProgram Unit}
    (h : Serves crates config peerCid stream (.op (.own o) k) received sent p) :
    ∃ k', p = .op o k' ∧ (Program.op (.own o) k : BrokerSocketProgram Unit).Uses NotRead ∧
      ∀ a, Serves crates config peerCid stream (k a) received sent (k' a) := by
  cases h with
  | reading hthread hsent hE => cases hthread
  | working hthread hsent =>
    cases hthread
    subst hsent
    refine ⟨_, rfl, ⟨trivial, fun a => Uses.bind ?_ uses_writeThread⟩, fun a => serves_of_works _⟩
    exact uses_translate _ fun _ => trivial
  | panicked hthread hsent => cases hthread
  | writing hthread hE => cases hthread
  | done hthread hsent => rcases hthread with hthread | hthread <;> cases hthread

/-- A thread drops its connection. -/
theorem Serves.finish {k : Unit → BrokerSocketProgram Unit}
    (h : Serves crates config peerCid stream (.op .drop k) received sent p) :
    Serves crates config peerCid stream (k ()) received sent p := by
  cases h with
  | reading hthread hsent hE => cases hthread
  | working hthread hsent => cases hthread
  | panicked hthread hsent => cases hthread
  | writing hthread hE => cases hthread
  | done hthread hsent =>
    rcases hthread with hthread | hthread
    · cases hthread
      exact .done (.inr rfl) hsent
    · cases hthread

/-! ## Foresight -/

/-- The streams are what the connections have come to send, as far as that is settled. -/
structure Foresees (streams : ConnectionId → Reader) (s : SocketState) : Prop where
  consistent : ∀ id line, s.lines id = some line → Consistent (streams id) line.request
  /-- A dropped connection brings nothing more. -/
  dropped : ∀ id line, s.lines id = some line → line.dropped = true →
    (streams id).bytes <+: line.request.sent
  /-- A thread that reads no more has all that there is. -/
  read : ∀ id line, s.lines id = some line → line.thread.Uses NotRead →
    (streams id).bytes = line.request.received

/-- What a step may do to a connection. -/
structure Line.Before (line line' : Line) : Prop where
  consistent : ∀ stream, Consistent stream line'.request → Consistent stream line.request
  dropped : line.dropped = true → line'.dropped = true ∧ line'.request.sent = line.request.sent
  read : line.thread.Uses NotRead →
    line'.thread.Uses NotRead ∧ line'.request.received = line.request.received

/-- A connection that has not changed. -/
theorem Line.Before.refl (line : Line) : line.Before line :=
  ⟨fun _ => id, fun h => ⟨h, rfl⟩, fun h => ⟨h, rfl⟩⟩

/-- Where one connection is replaced, each connection comes before what it has become. -/
theorem exists_before_setLine {s : SocketState} {id : ConnectionId} {line line' : Line}
    (hid : s.lines id = some line) (h : line.Before line') (id' : ConnectionId) (line₁ : Line)
    (hid' : s.lines id' = some line₁) :
    ∃ line₂, (s.setLine id line').lines id' = some line₂ ∧ line₁.Before line₂ := by
  by_cases heq : id' = id
  · subst heq
    obtain rfl : line = line₁ := Option.some.inj (hid.symm.trans hid')
    exact ⟨line', s.setLine_self _ _, h⟩
  · exact ⟨line₁, (s.setLine_of_ne _ heq).trans hid', .refl _⟩

/-- A new connection leaves the others as they are. -/
theorem exists_before_newLine {s : SocketState} {id : ConnectionId} {line' : Line}
    (hid : s.lines id = none) (id' : ConnectionId) (line₁ : Line)
    (hid' : s.lines id' = some line₁) :
    ∃ line₂, (s.setLine id line').lines id' = some line₂ ∧ line₁.Before line₂ := by
  have hne : id' ≠ id := by
    rintro rfl
    rw [hid] at hid'
    cases hid'
  exact ⟨line₁, (s.setLine_of_ne _ hne).trans hid', .refl _⟩

/-- What an end sends changes nothing about what it receives, and the other way round. -/
theorem Moves.frame {outgoing incoming outgoing' incoming' : Channel} {o : SocketOp} {a : o.Ans}
    (h : Moves outgoing incoming o a outgoing' incoming') :
    outgoing'.received = outgoing.received ∧ outgoing'.ending = outgoing.ending ∧
      incoming'.sent = incoming.sent := by
  cases h <;> exact ⟨rfl, rfl, rfl⟩

/-- An end that does not read receives nothing. -/
theorem Moves.eq_of_notRead {outgoing incoming outgoing' incoming' : Channel} {o : SocketOp}
    {a : o.Ans} (h : Moves outgoing incoming o a outgoing' incoming') (ho : Socket.Sends o) :
    incoming' = incoming := by
  cases h with
  | write n => rfl
  | writeFails message => rfl
  | flush a => rfl
  | read piece hne hle hend => exact ho.elim
  | ends hend => exact ho.elim
  | readFails message hend => exact ho.elim

variable {s s' : SocketState}

/-- Every connection comes before what it becomes. -/
theorem Brokers.SocketStep.before (h : brokers.SocketStep crates s s')
    (id : ConnectionId) (line : Line)
    (hid : s.lines id = some line) : ∃ line', s'.lines id = some line' ∧ line.Before line' := by
  cases h with
  | act a ho hn => exact ⟨line, hid, .refl _⟩
  | connect id' hid' hn => exact exists_before_newLine hid' id line hid
  | connectFails message hn => exact ⟨line, hid, .refl _⟩
  | @move n id' line' o k a request response hn hid' hopen hmove =>
    obtain ⟨hreceived, hending, _⟩ := hmove.frame
    refine exists_before_setLine hid' ⟨?_, ?_, ?_⟩ id line hid
    · intro stream hstream
      unfold Consistent at hstream ⊢
      rwa [hreceived, hending] at hstream
    · intro hdropped
      rw [hopen] at hdropped
      cases hdropped
    · exact fun hread => ⟨hread, hreceived⟩
  | drop hn hid' =>
    refine exists_before_setLine hid' ⟨?_, ?_, ?_⟩ id line hid
    · exact fun _ h => h
    · exact fun _ => ⟨rfl, rfl⟩
    · exact fun h => ⟨h, rfl⟩
  | arrive id' hforeign hid' => exact exists_before_newLine hid' id line hid
  | bring bytes hforeign hid' hprocess hopen =>
    refine exists_before_setLine hid' ⟨?_, ?_, ?_⟩ id line hid
    · exact fun _ h => h
    · intro hdropped
      rw [hopen] at hdropped
      cases hdropped
    · exact fun h => ⟨h, rfl⟩
  | @serve id' line' o k a request response hid' hthread hmove =>
    refine exists_before_setLine hid' ⟨?_, ?_, ?_⟩ id line hid
    · exact fun _ => hmove.consistent
    · exact fun hdropped => ⟨hdropped, hmove.frame.2.2⟩
    · intro hread
      rw [hthread] at hread
      refine ⟨hread.2 a, ?_⟩
      rw [hmove.eq_of_notRead]
      cases o <;> exact hread.1
  | @perform id' line' o k a choice hid' hthread ha =>
    refine exists_before_setLine hid' ⟨?_, ?_, ?_⟩ id line hid
    · exact fun _ h => h
    · exact fun h => ⟨h, rfl⟩
    · intro hread
      rw [hthread] at hread
      exact ⟨hread.2 a, rfl⟩
  | finish hid' hthread =>
    refine exists_before_setLine hid' ⟨?_, ?_, ?_⟩ id line hid
    · exact fun _ h => h
    · exact fun h => ⟨h, rfl⟩
    · intro hread
      rw [hthread] at hread
      exact ⟨hread.2 (), rfl⟩
  | deliver hput => exact ⟨line, hid, .refl _⟩

/-- What is foreseen after a step was foreseen before it. -/
theorem Foresees.of_step {streams : ConnectionId → Reader} (h : Foresees streams s')
    (hstep : brokers.SocketStep crates s s') : Foresees streams s where
  consistent id line hid := by
    obtain ⟨line', hid', hbefore⟩ := hstep.before id line hid
    exact hbefore.consistent _ (h.consistent id line' hid')
  dropped id line hid hdropped := by
    obtain ⟨line', hid', hbefore⟩ := hstep.before id line hid
    obtain ⟨hdropped', hsent⟩ := hbefore.dropped hdropped
    rw [← hsent]
    exact h.dropped id line' hid' hdropped'
  read id line hid hread := by
    obtain ⟨line', hid', hbefore⟩ := hstep.before id line hid
    obtain ⟨hread', hreceived⟩ := hbefore.read hread
    rw [← hreceived]
    exact h.read id line' hid' hread'

end AwsKmsDemo
