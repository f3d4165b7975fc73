import AwsKmsDemo.Processes
import AwsKmsDemo.Stream.Socket

/-!
# The enclave and the broker on sockets

`request_broker` and the thread of a broker's connection in `src/lib.rs`, as they use their sockets:
frames are written and read in pieces, any of which may fail. Elsewhere an exchange is one operation
of an enclave program; `onSockets` puts its pieces in place of it, and the requests of
`onSockets` programs are those of the source (`onSockets_requestBroker`).
-/

namespace AwsKmsDemo

open Interaction Interaction.Program Stream

/-! ## Frames -/

variable {α : Type}

/-- `write_json_frame` to a socket -/
def Sockets.writeJsonFrame [Serialize α] (value : α) : SocketProgram AppError Unit := do
  let payload := toVec value
  failIf (payload.length > maxJsonFrameLength)
    (.err s!"JSON frame is {payload.length} bytes; maximum is {maxJsonFrameLength}")
  let len ← u32TryFrom payload.length
  Socket.writeAll .err (toBeBytes len.toNat)
  Socket.writeAll .err payload
  Socket.flush .err

/-- `read_json_frame` from a socket -/
def Sockets.readJsonFrame (fromSlice : Bytes → Except String α) : SocketProgram AppError α := do
  let header ← Socket.readExact .err 4
  let len := fromBeBytes header
  failIf (len > maxJsonFrameLength)
    (.err s!"JSON frame is {len} bytes; maximum is {maxJsonFrameLength}")
  let payload ← Socket.readExact .err len
  ofText (fromSlice payload)

/-- Reading a frame piece by piece is reading it from the whole stream. -/
theorem reads_readJsonFrame (fromSlice : Bytes → Except String α) :
    Socket.Reads (Sockets.readJsonFrame fromSlice) (readJsonFrame fromSlice) := by
  refine (Socket.reads_readExact _ 4).bind fun header => ?_
  refine (Socket.reads_ofResult _).bind fun _ => ?_
  exact (Socket.reads_readExact _ _).bind fun payload => Socket.reads_ofResult _

/-! ## The enclave -/

/-- Programs of the enclave process on sockets. A program has one connection at a time, which it
makes by `connect`. -/
abbrev EnclaveSocketProgram := Program (WithSocket.Ans EnclaveOp.Ans) AppError

/-- `request_broker` on a socket. The stream is dropped at the end, whatever that is. -/
def Sockets.requestBroker (crates : Crates) (endpoint : Endpoint) (request : BrokerRequest) :
    EnclaveSocketProgram BrokerResponse := do
  ofText (← own (connectEndpoint endpoint))
  let response ← onSocket (attempt do
    Sockets.writeJsonFrame request
    Sockets.readJsonFrame crates.responseFromSlice)
  drop
  match ← (response : AppResult BrokerResponse) with
  | .error message => throw (.err message)
  | response => return response

/-- Read the bytes of a frame, as far as `read_json_frame` does. -/
def readFrame : SocketProgram String Bytes := do
  let header ← Socket.readExact id 4
  if fromBeBytes header > maxJsonFrameLength then return header
  let payload ← Socket.readExact id (fromBeBytes header)
  return header ++ payload

/-- Write a frame and read one. -/
def exchangeFrames (frame : Bytes) : SocketProgram String Bytes := do
  Socket.writeAll id (frame.take 4)
  Socket.writeAll id (frame.drop 4)
  Socket.flush id
  readFrame

/-- What `read_json_frame` is given by the bytes of a frame. -/
def streamOf (bytes : Bytes) : Reader := ⟨bytes, ""⟩

/-- The next operation of a program is an exchange. -/
def StartsExchange : EnclaveProgram α → Bool
  | .op (.exchange _ _) _ => true
  | _ => false

/-- A connection is dropped at once if there is no exchange on it. -/
def dropUnused (connected : Except String Unit) (p : EnclaveProgram α) :
    EnclaveSocketProgram Unit :=
  match connected with
  | .ok () => if StartsExchange p then return else drop
  | .error _ => return

/-- An enclave program on sockets: an exchange is carried out piece by piece, and then the
connection is dropped. -/
def onSockets : EnclaveProgram α → EnclaveSocketProgram α
  | .ret a => .ret a
  | .fail e => .fail e
  | .op (.exchange _ frame) k =>
    (onSocket (attempt (exchangeFrames frame))).bind fun bytes =>
      drop.bind fun _ => onSockets (k (bytes.map streamOf))
  | .op (.connect endpoint) k => .op (.own (.connect endpoint)) fun connected =>
    (dropUnused connected (k connected)).bind fun _ => onSockets (k connected)
  | .op o k => .op (.own o) fun a => onSockets (k a)

variable {crates : Crates}

/-- What `read_json_frame` makes of the bytes of a frame. -/
def decode (fromSlice : Bytes → Except String α) (bytes : Bytes) : AppResult α :=
  ((readJsonFrame fromSlice).on (streamOf bytes)).1

/-- The error about a frame of the given length. -/
def tooLong (len : ℕ) : AppError :=
  .err s!"JSON frame is {len} bytes; maximum is {maxJsonFrameLength}"

/-- A frame whose header announces too many bytes is not read. -/
theorem decode_of_lt (fromSlice : Bytes → Except String α) {header : Bytes}
    (hheader : header.length = 4) (hlen : fromBeBytes header > maxJsonFrameLength) :
    decode fromSlice header = .error (tooLong (fromBeBytes header)) := by
  have hread : (readExact AppError.err 4).on (streamOf header) = (.ok header, ⟨[], ""⟩) := by
    have h : (readExact AppError.err _).on _ = _ := on_readExact_append header [] ""
    rwa [hheader, List.append_nil] at h
  unfold decode readJsonFrame
  rw [on_bind_ok hread]
  dsimp only
  rw [failIf_of _ hlen]
  rfl

/-- A frame with the payload that its header announces is read as this payload. -/
theorem decode_append (fromSlice : Bytes → Except String α) {header payload : Bytes}
    (hheader : header.length = 4) (hlen : ¬ fromBeBytes header > maxJsonFrameLength)
    (hpayload : payload.length = fromBeBytes header) :
    decode fromSlice (header ++ payload) = ofText (fromSlice payload) := by
  have hread : (readExact AppError.err 4).on (streamOf (header ++ payload)) =
      (.ok header, ⟨payload, ""⟩) := by
    have h : (readExact AppError.err _).on _ = _ := on_readExact_append header payload ""
    rwa [hheader] at h
  have hrest : (readExact AppError.err (fromBeBytes header)).on ⟨payload, ""⟩ =
      (.ok payload, ⟨[], ""⟩) := by
    have h : (readExact AppError.err _).on _ = _ := on_readExact_append payload [] ""
    rwa [hpayload, List.append_nil] at h
  unfold decode readJsonFrame
  rw [on_bind_ok hread]
  dsimp only
  rw [failIf_of_not _ hlen, on_bind_ok (on_ofResult _ _), on_bind_ok hrest]
  rfl

/-- A frame that was read is decoded. -/
theorem readJsonFrame_eq_readFrame (fromSlice : Bytes → Except String α) :
    Sockets.readJsonFrame fromSlice =
      (readFrame.mapError .err).bind fun bytes => Program.ofExcept (decode fromSlice bytes) := by
  have h : Sockets.readJsonFrame fromSlice = (Socket.readExact AppError.err 4).bind fun header =>
      Program.bind (Program.ofExcept (failIf (fromBeBytes header > maxJsonFrameLength)
        (tooLong (fromBeBytes header)))) fun _ =>
      (Socket.readExact AppError.err (fromBeBytes header)).bind fun payload =>
        Program.ofExcept (ofText (fromSlice payload)) := rfl
  unfold readFrame
  rw [h, bind_eq, mapError_bind, Socket.mapError_readExact, bind_assoc]
  refine Socket.readExact_bind_congr fun header hheader => ?_
  by_cases hlen : fromBeBytes header > maxJsonFrameLength
  · rw [failIf_of _ hlen, if_pos hlen]
    exact congrArg Program.ofExcept (decode_of_lt fromSlice hheader hlen).symm
  · rw [failIf_of_not _ hlen, if_neg hlen, bind_eq, mapError_bind, Socket.mapError_readExact,
      bind_assoc]
    exact Socket.readExact_bind_congr fun payload hpayload =>
      congrArg Program.ofExcept (decode_append fromSlice hheader hlen hpayload).symm

/-- A value that fits is written as its frame. -/
theorem writeJsonFrame_of_fits [Serialize α] {value : α}
    (h : (toVec value).length ≤ maxJsonFrameLength) :
    Sockets.writeJsonFrame value =
      ((Socket.writeAll .err ((frameOf (toVec value)).take 4)).bind fun _ =>
      (Socket.writeAll .err ((frameOf (toVec value)).drop 4)).bind fun _ => Socket.flush .err) := by
  have hlt : (toVec value).length < 2^32 := lt_of_le_of_lt h maxJsonFrameLength_lt
  have htry : u32TryFrom (toVec value).length =
    .ok (UInt32.ofNat (toVec value).length) := if_pos hlt
  have hlen : (UInt32.ofNat (toVec value).length).toNat = (toVec value).length := by
    rw [UInt32.toNat_ofNat']
    exact Nat.mod_eq_of_lt hlt
  unfold Sockets.writeJsonFrame
  dsimp only
  rw [failIf_of_not _ (Nat.not_lt.mpr h), htry]
  simp only [liftM_eq, ofExcept_ok, bind_eq, ret_bind, hlen]
  rfl

/-- A value that does not fit is refused. -/
theorem writeJsonFrame_of_not_fits [Serialize α] {value : α}
    (h : maxJsonFrameLength < (toVec value).length) :
    Sockets.writeJsonFrame value = .fail (tooLong (toVec value).length) := by
  unfold Sockets.writeJsonFrame
  dsimp only
  rw [failIf_of _ h]
  rfl

/-- Sending a request that fits and reading the response is an exchange of frames, whose outcome is
decoded. -/
theorem attempt_exchange {request : BrokerRequest} (hfits : Fits request) :
    (attempt (do
      Sockets.writeJsonFrame request
      Sockets.readJsonFrame crates.responseFromSlice) : SocketProgram AppError _) =
      (attempt (exchangeFrames (frameOf (toVec request)))).bind fun
        | .ok bytes => .ret (decode crates.responseFromSlice bytes)
        | .error message => .ret (.error (.err message)) := by
  have h : (Sockets.writeJsonFrame request >>= fun _ =>
      Sockets.readJsonFrame crates.responseFromSlice) =
      ((exchangeFrames (frameOf (toVec request))).mapError AppError.err).bind fun bytes =>
        Program.ofExcept (decode crates.responseFromSlice bytes) := by
    rw [writeJsonFrame_of_fits hfits, readJsonFrame_eq_readFrame]
    unfold exchangeFrames
    simp only [bind_eq, bind_assoc, mapError_bind, Socket.mapError_writeAll, Socket.mapError_flush]
  rw [h]
  refine (attempt_mapError_bind _ _ _).trans (congrArg _ (funext fun outcome => ?_))
  cases outcome <;> rfl

/-- A sequence of programs on the socket is run part by part. -/
theorem onSocket_bind {Op : Type} {Ans : Op → Type} {ε β : Type} (p : SocketProgram ε α)
    (g : α → SocketProgram ε β) : (onSocket (p.bind g) : Program (WithSocket.Ans Ans) ε β) =
      (onSocket p).bind fun a => onSocket (g a) :=
  translate_bind p g

/-- What follows the connection in a request that fits. -/
theorem requestBroker_of_fits {endpoint : Endpoint} {request : BrokerRequest} (hfits : Fits request)
    (f : BrokerResponse → EnclaveProgram α) :
    (requestBroker crates endpoint request).bind f = .op (.connect endpoint) fun connected =>
      (Program.ofExcept (ofText connected)).bind fun _ =>
        .op (.exchange endpoint (frameOf (toVec request))) fun answer =>
          (Program.ofExcept (ofText answer)).bind fun stream =>
            (Program.ofExcept (receiveResponse crates stream)).bind f := by
  unfold requestBroker sendRequest
  rw [written_writeJsonFrame_of_fits hfits]
  simp only [bind_eq, bind_assoc, liftM_eq, ofExcept_ok, ret_bind]
  rfl

/-- What follows the connection in a request that does not fit. -/
theorem requestBroker_of_not_fits {endpoint : Endpoint} {request : BrokerRequest}
    (hfits : ¬ Fits request) (f : BrokerResponse → EnclaveProgram α) :
    (requestBroker crates endpoint request).bind f = .op (.connect endpoint) fun connected =>
      (Program.ofExcept (ofText connected)).bind fun _ =>
        .fail (tooLong (toVec request).length) := by
  have hlt : maxJsonFrameLength < (toVec request).length := Nat.not_le.mp hfits
  have hwritten : written (writeJsonFrame request) = .error (tooLong (toVec request).length) := by
    unfold written writeJsonFrame
    dsimp only
    rw [failIf_of _ hlt]
    rfl
  unfold requestBroker sendRequest
  rw [hwritten]
  simp only [bind_eq, bind_assoc, liftM_eq, ofExcept_error, fail_bind]
  rfl

/-- The requests of a program on sockets are those of the source. -/
theorem onSockets_requestBroker (endpoint : Endpoint) (request : BrokerRequest)
    (f : BrokerResponse → EnclaveProgram α) :
    onSockets ((requestBroker crates endpoint request).bind f) =
      (Sockets.requestBroker crates endpoint request).bind fun response =>
        onSockets (f response) := by
  by_cases hfits : Fits request
  · rw [requestBroker_of_fits hfits]
    unfold Sockets.requestBroker
    rw [attempt_exchange hfits]
    show Program.op _ _ = Program.op _ _
    congr 1
    funext connected
    cases connected with
    | error message => rfl
    | ok _ =>
      show (onSocket (attempt (exchangeFrames (frameOf (toVec request))))).bind _ =
        Program.bind (Program.bind (onSocket (Program.bind _ _)) _) _
      rw [onSocket_bind, bind_assoc, bind_assoc]
      congr 1
      funext outcome
      cases outcome with
      | error message => rfl
      | ok bytes =>
        show Program.op _ _ = Program.op _ _
        congr 1
        funext _
        unfold receiveResponse decode
        show onSockets ((Program.ofExcept (_ >>= _)).bind f) =
          Program.bind (Program.bind (Program.ofExcept _) _) _
        cases ((readJsonFrame crates.responseFromSlice).on (streamOf bytes)).1 with
        | error e => rfl
        | ok response => cases response <;> rfl
  · rw [requestBroker_of_not_fits hfits]
    unfold Sockets.requestBroker
    rw [writeJsonFrame_of_not_fits (Nat.not_le.mp hfits)]
    show Program.op _ _ = Program.op _ _
    congr 1
    funext connected
    cases connected <;> rfl

/-! ## The broker -/

/-- Programs of the threads of a broker on sockets. -/
abbrev BrokerSocketProgram := Program (WithSocket.Ans BrokerOp.Ans) AppError

/-- The thread of one connection on its socket, which is dropped at the end. -/
def Sockets.serveConnection (crates : Crates) (config : BrokerConfig) (peerCid : Option UInt32) :
    BrokerSocketProgram Unit := do
  let received ← onSocket (attempt (Sockets.readJsonFrame crates.requestFromSlice))
  let response ← own (respond config peerCid received)
  let _ ← onSocket (attempt (Sockets.writeJsonFrame response))
  drop

end AwsKmsDemo
