import AwsKmsDemo.Sockets

/-!
# Enclave processes and brokers on sockets

The enclave processes, the brokers and S3 once more, with connections that carry bytes. A connection
has a channel in each direction, from which its two ends take pieces of any size at any time. Either
end may meet the end of the stream or an error at any time, and either program may stop anywhere.
-/

namespace AwsKmsDemo

open Interaction Interaction.Program Stream Storage

/-! ## Connections -/

/-- One direction of a connection. -/
structure Channel where
  /-- What was written to it. -/
  sent : Bytes
  /-- What was read from it. -/
  received : Bytes
  /-- The end of the stream or the error that its reader has met. -/
  ending : Option String
  /-- Nothing is read that was not written. -/
  received_le : received <+: sent

/-- A channel to which nothing was written yet. -/
def Channel.new : Channel := ⟨[], [], none, List.prefix_rfl⟩

/-- Some more bytes are written. -/
def Channel.send (c : Channel) (bytes : Bytes) : Channel :=
  ⟨c.sent ++ bytes, c.received, c.ending, c.received_le.trans (List.prefix_append _ _)⟩

/-- Some more bytes are read. -/
def Channel.receive (c : Channel) (piece : Bytes) (h : c.received ++ piece <+: c.sent) : Channel :=
  ⟨c.sent, c.received ++ piece, c.ending, h⟩

/-- The reader meets the end of the stream, or an error. -/
def Channel.finish (c : Channel) (message : String) : Channel := { c with ending := some message }

/-- What an operation of one end of a connection does with the channels from and to this end. An end
once met stays. -/
inductive Moves (outgoing incoming : Channel) :
    (o : SocketOp) → o.Ans → Channel → Channel → Prop where
  | write {bytes : Bytes} (n : {n : ℕ // n ≤ bytes.length}) :
    Moves outgoing incoming (.write bytes) (.ok n) (outgoing.send (bytes.take n)) incoming
  | writeFails {bytes : Bytes} (message : String) :
    Moves outgoing incoming (.write bytes) (.error message) outgoing incoming
  | flush (a : SocketOp.Ans .flush) : Moves outgoing incoming .flush a outgoing incoming
  | read {len : ℕ} (piece : {piece : Bytes // piece.length ≤ len}) (hne : piece.val ≠ [])
      (h : incoming.received ++ piece.val <+: incoming.sent) (hend : incoming.ending = none) :
    Moves outgoing incoming (.read len) (.ok piece) outgoing (incoming.receive piece h)
  | ends {len : ℕ} (hend : ∀ m, incoming.ending = some m → m = Socket.unexpectedEof) :
    Moves outgoing incoming (.read len) (.ok ⟨[], Nat.zero_le _⟩) outgoing
      (incoming.finish Socket.unexpectedEof)
  | readFails {len : ℕ} (message : String) (hend : ∀ m, incoming.ending = some m → m = message) :
    Moves outgoing incoming (.read len) (.error message) outgoing (incoming.finish message)

/-- A connection, with the thread that serves it. -/
structure Line where
  /-- The process that has made the connection, unless it comes from elsewhere. -/
  process : Option ℕ
  /-- The process has dropped it. -/
  dropped : Bool
  /-- What goes to the broker. -/
  request : Channel
  /-- What comes from the broker. -/
  response : Channel
  /-- What is left of the thread. -/
  thread : BrokerSocketProgram Unit

/-! ## The system -/

/-- An enclave process, and the connection that it has. -/
structure SocketProcess where
  program : EnclaveSocketProgram Unit
  connection : Option ConnectionId

/-- The state of the processes, the connections and S3. -/
structure SocketState where
  store : S3Store
  inflight : List PutRequest
  lines : ConnectionId → Option Line
  processes : ℕ → SocketProcess

/-- The operations of a process that have to do with connections. -/
def EnclaveOp.Connects : EnclaveOp → Prop
  | .connect _ => True
  | .exchange _ _ => True
  | _ => False

section System

variable (crates : Crates) (brokers : Brokers)

/-- A connection that was just made. -/
def Brokers.newLine (process : Option ℕ) (id : ConnectionId) : Line where
  process := process
  dropped := false
  request := .new
  response := .new
  thread := Sockets.serveConnection crates (brokers.config id) id.peerCid

/-- No process has done anything yet. -/
def SocketState.start (store₀ : S3Store) : SocketState where
  store := store₀
  inflight := []
  lines _ := none
  processes _ := ⟨onSockets (decryptServerTeeMain crates), none⟩

/-- Replace a connection. -/
def SocketState.setLine (s : SocketState) (id : ConnectionId) (line : Line) : SocketState :=
  { s with lines := Function.update s.lines id (some line) }

/-- Replace a process. -/
def SocketState.setProcess (s : SocketState) (n : ℕ) (process : SocketProcess) : SocketState :=
  { s with processes := Function.update s.processes n process }

/-- The line that was set. -/
@[simp] theorem SocketState.setLine_self (s : SocketState) (id : ConnectionId) (line : Line) :
    (s.setLine id line).lines id = some line :=
  Function.update_self ..

/-- The other lines stay as they are. -/
theorem SocketState.setLine_of_ne (s : SocketState) {id id' : ConnectionId} (line : Line)
    (h : id' ≠ id) : (s.setLine id line).lines id' = s.lines id' :=
  Function.update_of_ne h ..

/-- The process that was set. -/
@[simp] theorem SocketState.setProcess_self (s : SocketState) (n : ℕ) (process : SocketProcess) :
    (s.setProcess n process).processes n = process :=
  Function.update_self ..

/-- The other processes stay as they are. -/
theorem SocketState.setProcess_of_ne (s : SocketState) {n n' : ℕ} (process : SocketProcess)
    (h : n' ≠ n) : (s.setProcess n process).processes n' = s.processes n' :=
  Function.update_of_ne h ..

/-- To set a line leaves the processes as they are. -/
@[simp] theorem SocketState.setLine_processes (s : SocketState) (id : ConnectionId) (line : Line) :
    (s.setLine id line).processes = s.processes := rfl

/-- To set a process leaves the lines as they are. -/
@[simp] theorem SocketState.setProcess_lines (s : SocketState) (n : ℕ) (process : SocketProcess) :
    (s.setProcess n process).lines = s.lines := rfl

/-- The steps of the processes, the threads, the network and S3. -/
inductive Brokers.SocketStep (s : SocketState) : SocketState → Prop where
  /-- A process performs an operation that has nothing to do with connections. -/
  | act {n : ℕ} {o : EnclaveOp} {k : o.Ans → EnclaveSocketProgram Unit}
      {connection : Option ConnectionId} (a : o.Ans) (ho : ¬ o.Connects)
      (hn : s.processes n = ⟨.op (.own o) k, connection⟩) :
      SocketStep s (s.setProcess n ⟨k a, connection⟩)
  /-- A process connects. -/
  | connect {n : ℕ} {endpoint : Endpoint} {k : Except String Unit → EnclaveSocketProgram Unit}
      {connection : Option ConnectionId} (id : ConnectionId) (hid : s.lines id = none)
      (hn : s.processes n = ⟨.op (.own (.connect endpoint)) k, connection⟩) :
      SocketStep s ((s.setLine id (brokers.newLine crates (some n) id)).setProcess n
        ⟨k (.ok ()), some id⟩)
  /-- A process cannot connect. -/
  | connectFails {n : ℕ} {endpoint : Endpoint} {k : Except String Unit → EnclaveSocketProgram Unit}
      {connection : Option ConnectionId} (message : String)
      (hn : s.processes n = ⟨.op (.own (.connect endpoint)) k, connection⟩) :
      SocketStep s (s.setProcess n ⟨k (.error message), connection⟩)
  /-- A process uses its connection. -/
  | move {n : ℕ} {id : ConnectionId} {line : Line} {o : SocketOp}
      {k : o.Ans → EnclaveSocketProgram Unit} {a : o.Ans} {request response : Channel}
      (hn : s.processes n = ⟨.op (.socket o) k, some id⟩)
      (hid : s.lines id = some line) (hopen : line.dropped = false)
      (hmove : Moves line.request line.response o a request response) :
      SocketStep s ((s.setLine id { line with request := request, response := response }).setProcess
        n ⟨k a, some id⟩)
  /-- A process drops its connection. -/
  | drop {n : ℕ} {id : ConnectionId} {line : Line} {k : Unit → EnclaveSocketProgram Unit}
      (hn : s.processes n = ⟨.op .drop k, some id⟩) (hid : s.lines id = some line) :
      SocketStep s ((s.setLine id { line with dropped := true }).setProcess n ⟨k (), none⟩)
  /-- A connection comes from elsewhere. -/
  | arrive (id : ConnectionId) (hforeign : brokers.foreign id) (hid : s.lines id = none) :
      SocketStep s (s.setLine id (brokers.newLine crates none id))
  /-- A connection from elsewhere brings something. -/
  | bring {id : ConnectionId} {line : Line} (bytes : Bytes) (hforeign : brokers.foreign id)
      (hid : s.lines id = some line) (hprocess : line.process = none)
      (hopen : line.dropped = false) :
      SocketStep s (s.setLine id { line with request := line.request.send bytes })
  /-- A thread uses its connection. -/
  | serve {id : ConnectionId} {line : Line} {o : SocketOp} {k : o.Ans → BrokerSocketProgram Unit}
      {a : o.Ans} {request response : Channel} (hid : s.lines id = some line)
      (hthread : line.thread = .op (.socket o) k)
      (hmove : Moves line.response line.request o a response request) :
      SocketStep s (s.setLine id
        { line with request := request, response := response, thread := k a })
  /-- A thread performs an operation of its own. -/
  | perform {id : ConnectionId} {line : Line} {o : BrokerOp} {k : o.Ans → BrokerSocketProgram Unit}
      {a : o.Ans} (choice : Choice) (hid : s.lines id = some line)
      (hthread : line.thread = .op (.own o) k)
      (ha : answer s.store o choice = some a) :
      SocketStep s ({ s with
        store := effect s.store o choice
        inflight := s.inflight ++ delayed id o choice }.setLine id { line with thread := k a })
  /-- A thread drops its connection. -/
  | finish {id : ConnectionId} {line : Line} {k : Unit → BrokerSocketProgram Unit}
      (hid : s.lines id = some line) (hthread : line.thread = .op .drop k) :
      SocketStep s (s.setLine id { line with thread := k () })
  /-- A request to write that had failed takes effect. -/
  | deliver {put : PutRequest} (hput : put ∈ s.inflight) :
      SocketStep s { s with store := s.store.putIfAbsent (put.bucket, put.key) put.body }

/-- The states that the processes and brokers can reach on sockets from a store. -/
def Brokers.SocketReaches (store₀ : S3Store) (s : SocketState) : Prop :=
  Relation.ReflTransGen (brokers.SocketStep crates) (SocketState.start crates store₀) s

/-- However the processes and brokers go on from a state on sockets. -/
abbrev Brokers.SocketLater (s t : SocketState) : Prop :=
  Relation.ReflTransGen (brokers.SocketStep crates) s t

end System

end AwsKmsDemo
