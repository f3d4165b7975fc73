import AwsKmsDemo.Reference
import AwsKmsDemo.Serde
import AwsKmsDemo.Stream.Reader

/-!
# Frames between the enclave and the broker

`write_json_frame` and `read_json_frame` of `src/lib.rs`: a frame is the length of a JSON text, in
four bytes, followed by the text, and neither side accepts a text of more than 1 MiB. The reading
side takes the deserializer of the type that it reads.
-/

namespace AwsKmsDemo

open Stream

variable {α : Type}

/-- `u32::try_from` -/
def u32TryFrom (n : ℕ) : AppResult UInt32 :=
  if n < 2^32 then .ok (UInt32.ofNat n)
  else .error (.err "out of range integral type conversion attempted")

/-- `write_json_frame` -/
def writeJsonFrame [Serialize α] (value : α) : Write AppError Unit := do
  let payload := toVec value
  ofResult (failIf (payload.length > maxJsonFrameLength)
    (.err s!"JSON frame is {payload.length} bytes; maximum is {maxJsonFrameLength}"))
  let len ← ofResult (u32TryFrom payload.length)
  writeAll (toBeBytes len.toNat)
  writeAll payload

/-- `read_json_frame` -/
def readJsonFrame (fromSlice : Bytes → Except String α) : Read AppError α := do
  let header ← readExact .err 4
  let len := fromBeBytes header
  ofResult (failIf (len > maxJsonFrameLength)
    (.err s!"JSON frame is {len} bytes; maximum is {maxJsonFrameLength}"))
  let payload ← readExact .err len
  ofResult (ofText (fromSlice payload))

/-- The frame of a payload. -/
def frameOf (payload : Bytes) : Bytes := toBeBytes payload.length ++ payload

/-- A frame is longer than its payload by the four bytes of the length. -/
@[simp] theorem length_frameOf (payload : Bytes) :
    (frameOf payload).length = 4 + payload.length := by
  simp [frameOf]

/-! ## Writing -/

/-- A permitted length fits into four bytes. -/
theorem maxJsonFrameLength_lt : maxJsonFrameLength < 2^32 := by decide

/-- A value that fits is written as its frame, after what was written before. -/
theorem writeJsonFrame_of_le [Serialize α] {value : α} (written : Bytes)
    (h : (toVec value).length ≤ maxJsonFrameLength) :
    (writeJsonFrame value).on written = (.ok (), written ++ frameOf (toVec value)) := by
  have hlt : (toVec value).length < 2^32 := lt_of_le_of_lt h maxJsonFrameLength_lt
  have hlen : (UInt32.ofNat (toVec value).length).toNat = (toVec value).length := by
    rw [UInt32.toNat_ofNat']
    exact Nat.mod_eq_of_lt hlt
  have htry : u32TryFrom (toVec value).length =
    .ok (UInt32.ofNat (toVec value).length) := if_pos hlt
  unfold writeJsonFrame
  dsimp only
  rw [failIf_of_not _ (Nat.not_lt.mpr h), htry]
  rw [on_bind_ok (on_ofResult _ _), on_bind_ok (on_ofResult _ _), hlen,
    on_bind_ok (on_writeAll _ _), on_writeAll, frameOf, List.append_assoc]

/-- A value that does not fit is refused, and nothing is written. -/
theorem writeJsonFrame_of_lt [Serialize α] (value : α) (written : Bytes)
    (h : maxJsonFrameLength < (toVec value).length) :
    ∃ message, (writeJsonFrame value).on written = (.error (.err message), written) := by
  unfold writeJsonFrame
  dsimp only
  rw [failIf_of _ h]
  exact ⟨_, rfl⟩

/-! ## Reading -/

/-- What `read_json_frame` does with a stream whose header announces `payload.length` bytes and
goes on with `payload`. -/
theorem readJsonFrame_frameOf (fromSlice : Bytes → Except String α) {payload : Bytes}
    (h : payload.length ≤ maxJsonFrameLength) (rest : Bytes) (ending : String) :
    (readJsonFrame fromSlice).on ⟨frameOf payload ++ rest, ending⟩ =
      (ofText (fromSlice payload), ⟨rest, ending⟩) := by
  have hlt : payload.length < 2^32 := lt_of_le_of_lt h maxJsonFrameLength_lt
  have hheader : (readExact AppError.err 4).on
      ⟨toBeBytes payload.length ++ (payload ++ rest), ending⟩ =
      (.ok (toBeBytes payload.length), ⟨payload ++ rest, ending⟩) :=
    on_readExact_append (toBeBytes payload.length) (payload ++ rest) ending
  have hpayload : (readExact AppError.err payload.length).on ⟨payload ++ rest, ending⟩
      = (.ok payload, ⟨rest, ending⟩) := on_readExact_append payload rest ending
  unfold readJsonFrame
  rw [frameOf, List.append_assoc, on_bind_ok hheader]
  dsimp only
  rw [fromBeBytes_toBeBytes hlt, failIf_of_not _ (Nat.not_lt.mpr h), on_bind_ok (on_ofResult _ _),
    on_bind_ok hpayload, on_ofResult]

/-- A stream that ends inside its header is an error. -/
theorem readJsonFrame_of_short_header (fromSlice : Bytes → Except String α) {reader : Reader}
    (h : reader.bytes.length < 4) :
    (readJsonFrame fromSlice).on reader = (.error (.err reader.ending), { reader with bytes := [] })
    := by
  unfold readJsonFrame
  exact on_bind_error (on_readExact_of_lt h)

/-- A header that announces too much is an error, and nothing after it is read. -/
theorem readJsonFrame_of_long_header (fromSlice : Bytes → Except String α) {reader : Reader}
    (h : 4 ≤ reader.bytes.length) (hlen : maxJsonFrameLength < fromBeBytes (reader.bytes.take 4)) :
    ∃ message, (readJsonFrame fromSlice).on reader =
      (.error (.err message), { reader with bytes := reader.bytes.drop 4 }) := by
  unfold readJsonFrame
  rw [on_bind_ok (on_readExact h)]
  dsimp only
  rw [failIf_of _ hlen]
  exact ⟨_, rfl⟩

/-- A stream that ends inside its payload is an error. -/
theorem readJsonFrame_of_short_payload (fromSlice : Bytes → Except String α) {reader : Reader}
    (h : 4 ≤ reader.bytes.length) (hlen : fromBeBytes (reader.bytes.take 4) ≤ maxJsonFrameLength)
    (hshort : reader.bytes.length < 4 + fromBeBytes (reader.bytes.take 4)) :
    (readJsonFrame fromSlice).on reader = (.error (.err reader.ending), { reader with bytes := [] })
    := by
  unfold readJsonFrame
  rw [on_bind_ok (on_readExact h)]
  dsimp only
  rw [failIf_of_not _ (Nat.not_lt.mpr hlen),
    on_bind_ok (on_ofResult _ _)]
  refine on_bind_error (on_readExact_of_lt ?_)
  simp only [List.length_drop]
  omega

/-- A stream that holds what its header announces gives the payload to the deserializer. -/
theorem readJsonFrame_of_payload (fromSlice : Bytes → Except String α) {reader : Reader}
    (h : 4 ≤ reader.bytes.length) (hlen : fromBeBytes (reader.bytes.take 4) ≤ maxJsonFrameLength)
    (hfull : 4 + fromBeBytes (reader.bytes.take 4) ≤ reader.bytes.length) :
    (readJsonFrame fromSlice).on reader =
      (ofText (fromSlice ((reader.bytes.drop 4).take (fromBeBytes (reader.bytes.take 4)))),
        { reader with bytes := reader.bytes.drop (4 + fromBeBytes (reader.bytes.take 4)) }) := by
  unfold readJsonFrame
  rw [on_bind_ok (on_readExact h)]
  dsimp only
  rw [failIf_of_not _ (Nat.not_lt.mpr hlen),
    on_bind_ok (on_ofResult _ _),
    on_bind_ok (on_readExact (by simp only [List.length_drop]; omega)), on_ofResult, List.drop_drop]

/-- A cut frame is an error, wherever the cut is. -/
theorem readJsonFrame_of_cut (fromSlice : Bytes → Except String α) {payload cut : Bytes}
    (h : payload.length ≤ maxJsonFrameLength) (hcut : cut <+: frameOf payload)
    (hne : cut ≠ frameOf payload) (ending : String) :
    (readJsonFrame fromSlice).on ⟨cut, ending⟩ = (.error (.err ending), ⟨[], ending⟩) := by
  have hlt : cut.length < 4 + payload.length := by
    have hle := hcut.length_le
    rw [length_frameOf] at hle
    refine lt_of_le_of_ne hle fun heq => hne (hcut.eq_of_length ?_)
    rw [length_frameOf, heq]
  by_cases hshort : cut.length < 4
  · exact readJsonFrame_of_short_header fromSlice hshort
  · rw [Nat.not_lt] at hshort
    have hheader : fromBeBytes (cut.take 4) = payload.length := by
      obtain ⟨rest, hrest⟩ := hcut
      have htake : (cut ++ rest).take 4 = toBeBytes payload.length := by
        rw [hrest, frameOf, List.take_left' (length_toBeBytes _)]
      rw [List.take_append_of_le_length hshort] at htake
      rw [htake, fromBeBytes_toBeBytes (lt_of_le_of_lt h maxJsonFrameLength_lt)]
    exact readJsonFrame_of_short_payload fromSlice hshort (by rw [hheader]; exact h)
      (by rw [hheader]; exact hlt)

/-- However the stream goes on, a read takes its header and at most 1 MiB from it. -/
theorem readJsonFrame_bounded (fromSlice : Bytes → Except String α) (reader : Reader) :
    ∃ result consumed rest, (readJsonFrame fromSlice).on reader = (result, ⟨rest, reader.ending⟩) ∧
      reader.bytes = consumed ++ rest ∧ consumed.length ≤ 4 + maxJsonFrameLength := by
  by_cases h : reader.bytes.length < 4
  · refine ⟨_, reader.bytes, [], readJsonFrame_of_short_header fromSlice h, by simp, ?_⟩
    omega
  · rw [Nat.not_lt] at h
    by_cases hlen : maxJsonFrameLength < fromBeBytes (reader.bytes.take 4)
    · obtain ⟨message, hread⟩ := readJsonFrame_of_long_header fromSlice h hlen
      refine ⟨_, _, _, hread, (List.take_append_drop 4 _).symm, ?_⟩
      rw [List.length_take]
      omega
    · rw [Nat.not_lt] at hlen
      by_cases hfull : 4 + fromBeBytes (reader.bytes.take 4) ≤ reader.bytes.length
      · refine ⟨_, _, _, readJsonFrame_of_payload fromSlice h hlen hfull,
          (List.take_append_drop _ _).symm, ?_⟩
        rw [List.length_take]
        omega
      · rw [Nat.not_le] at hfull
        refine ⟨_, reader.bytes, [], readJsonFrame_of_short_payload fromSlice h hlen hfull,
          by simp, ?_⟩
        omega

/-- Reading a frame fails with an error, and never with a panic. -/
theorem readJsonFrame_error (fromSlice : Bytes → Except String α) {reader : Reader} {e : AppError}
    (h : ((readJsonFrame fromSlice).on reader).1 = .error e) : ∃ message, e = .err message := by
  by_cases h4 : reader.bytes.length < 4
  · rw [readJsonFrame_of_short_header fromSlice h4] at h
    exact ⟨_, (Except.error.inj h).symm⟩
  · rw [Nat.not_lt] at h4
    by_cases hlen : maxJsonFrameLength < fromBeBytes (reader.bytes.take 4)
    · obtain ⟨message, hread⟩ := readJsonFrame_of_long_header fromSlice h4 hlen
      rw [hread] at h
      exact ⟨_, (Except.error.inj h).symm⟩
    · rw [Nat.not_lt] at hlen
      by_cases hfull : 4 + fromBeBytes (reader.bytes.take 4) ≤ reader.bytes.length
      · rw [readJsonFrame_of_payload fromSlice h4 hlen hfull] at h
        dsimp only at h
        cases hslice : fromSlice ((reader.bytes.drop 4).take
          (fromBeBytes (reader.bytes.take 4))) with
        | ok a =>
          rw [hslice] at h
          cases h
        | error message =>
          rw [hslice] at h
          exact ⟨_, (Except.error.inj h).symm⟩
      · rw [Nat.not_le] at hfull
        rw [readJsonFrame_of_short_payload fromSlice h4 hlen hfull] at h
        exact ⟨_, (Except.error.inj h).symm⟩

/-- A value that fits is read back from its frame, whatever follows. -/
theorem readsBack_frameOf [Serialize α] {fromSlice : Bytes → Except String α} {value : α}
    (hslice : fromSlice (toVec value) = .ok value)
    (h : (toVec value).length ≤ maxJsonFrameLength) :
    ReadsBack (readJsonFrame fromSlice) value (frameOf (toVec value)) := by
  intro rest ending
  rw [readJsonFrame_frameOf fromSlice h rest ending, hslice]
  rfl

/-! ## Streams of requests and responses -/

/-- A value of the broker protocol, in either direction. -/
abbrev Message := BrokerRequest ⊕ BrokerResponse

/-- The JSON text of a value of the protocol. -/
def Message.payload : Message → Bytes
  | .inl request => toVec request
  | .inr response => toVec response

/-- `write_json_frame` at the type of the value. -/
def Message.write : Message → Write AppError Unit
  | .inl request => writeJsonFrame request
  | .inr response => writeJsonFrame response

/-- `read_json_frame` at the type of the value. -/
def Message.read (requestFromSlice : Bytes → Except String BrokerRequest)
    (responseFromSlice : Bytes → Except String BrokerResponse) : Message → Read AppError Message
  | .inl _ => (readJsonFrame requestFromSlice).mapResult .inl
  | .inr _ => (readJsonFrame responseFromSlice).mapResult .inr

/-- A value that fits is written as its frame. -/
theorem Message.write_of_le {message : Message} (written : Bytes)
    (h : message.payload.length ≤ maxJsonFrameLength) :
    message.write.on written = (.ok (), written ++ frameOf message.payload) := by
  cases message with
  | inl request => exact writeJsonFrame_of_le written h
  | inr response => exact writeJsonFrame_of_le written h

/-- A value that does not fit is refused. -/
theorem Message.write_of_lt {message : Message} (written : Bytes)
    (h : maxJsonFrameLength < message.payload.length) :
    ∃ e, message.write.on written = (.error e, written) := by
  cases message with
  | inl request =>
    obtain ⟨text, hwrite⟩ := writeJsonFrame_of_lt request written h
    exact ⟨.err text, hwrite⟩
  | inr response =>
    obtain ⟨text, hwrite⟩ := writeJsonFrame_of_lt response written h
    exact ⟨.err text, hwrite⟩

/-- A value that was written fits, and what was written is its frame. -/
theorem Message.eq_frameOf_of_write {message : Message} {frame : Bytes}
    (h : message.write.on [] = (.ok (), frame)) :
    message.payload.length ≤ maxJsonFrameLength ∧ frame = frameOf message.payload := by
  by_cases hle : message.payload.length ≤ maxJsonFrameLength
  · rw [Message.write_of_le [] hle, Prod.mk.injEq] at h
    exact ⟨hle, h.2.symm⟩
  · obtain ⟨e, he⟩ := Message.write_of_lt [] (Nat.not_le.mp hle)
    rw [he] at h
    cases h

section Messages

variable (requestFromSlice : Bytes → Except String BrokerRequest)
  (responseFromSlice : Bytes → Except String BrokerResponse)

/-- Reading fails at every type on a stream on which `read_json_frame` fails at every type. -/
theorem Message.read_error (kind : Message) {reader rest : Reader}
    (h : ∀ (α : Type) (fromSlice : Bytes → Except String α),
      ∃ e, (readJsonFrame fromSlice).on reader = (.error e, rest)) :
    ∃ e, (kind.read requestFromSlice responseFromSlice).on reader = (.error e, rest) := by
  cases kind with
  | inl _ =>
    obtain ⟨e, he⟩ := h _ requestFromSlice
    exact ⟨e, by rw [Message.read, on_mapResult, he]; rfl⟩
  | inr _ =>
    obtain ⟨e, he⟩ := h _ responseFromSlice
    exact ⟨e, by rw [Message.read, on_mapResult, he]; rfl⟩

/-- Reading at any type consumes what `read_json_frame` consumes. -/
theorem Message.read_bounded (kind : Message) (reader : Reader) :
    ∃ result consumed rest,
      (kind.read requestFromSlice responseFromSlice).on reader = (result, ⟨rest, reader.ending⟩) ∧
      reader.bytes = consumed ++ rest ∧ consumed.length ≤ 4 + maxJsonFrameLength := by
  cases kind with
  | inl _ =>
    obtain ⟨result, consumed, rest, hread, hsplit⟩ :=
      readJsonFrame_bounded requestFromSlice reader
    exact ⟨_, consumed, rest, by rw [Message.read, on_mapResult, hread], hsplit⟩
  | inr _ =>
    obtain ⟨result, consumed, rest, hread, hsplit⟩ :=
      readJsonFrame_bounded responseFromSlice reader
    exact ⟨_, consumed, rest, by rw [Message.read, on_mapResult, hread], hsplit⟩

/-- What framing promises about streams of values of the protocol. -/
structure PrefixCode : Prop where
  /-- Values that fit, written one after the other, are read back in order, and what follows them
  is left unread. -/
  sequence : ∀ (messages : List Message) (trailing : Bytes) (ending : String),
    (∀ m ∈ messages, m.payload.length ≤ maxJsonFrameLength) →
      ∃ units stream, (inSequence (messages.map Message.write)).on [] = (.ok units, stream) ∧
        (inSequence (messages.map (Message.read requestFromSlice responseFromSlice))).on
          ⟨stream ++ trailing, ending⟩ = (.ok messages, ⟨trailing, ending⟩)
  /-- A proper prefix of a frame is an error, whichever type is read. -/
  proper_prefix : ∀ (message kind : Message) (frame cut : Bytes) (ending : String),
    message.write.on [] = (.ok (), frame) → cut <+: frame → cut ≠ frame →
      ∃ e rest, (kind.read requestFromSlice responseFromSlice).on ⟨cut, ending⟩ = (.error e, rest)
  /-- A read consumes at most a header and 1 MiB of any stream. -/
  bounded : ∀ (kind : Message) (reader : Reader), ∃ result consumed rest,
    (kind.read requestFromSlice responseFromSlice).on reader = (result, ⟨rest, reader.ending⟩) ∧
      reader.bytes = consumed ++ rest ∧ consumed.length ≤ 4 + maxJsonFrameLength
  /-- A header that announces more than 1 MiB is an error after the header. -/
  long_header : ∀ (kind : Message) (header rest : Bytes) (ending : String), header.length = 4 →
    maxJsonFrameLength < fromBeBytes header →
      ∃ e, (kind.read requestFromSlice responseFromSlice).on ⟨header ++ rest, ending⟩ =
        (.error e, ⟨rest, ending⟩)
  /-- A value that does not fit is refused, and nothing is written. -/
  too_long : ∀ (message : Message) (written : Bytes),
    maxJsonFrameLength < message.payload.length →
      ∃ e, message.write.on written = (.error e, written)

variable {requestFromSlice responseFromSlice}

/-- Framing is a prefix code over streams of requests and responses. -/
theorem framing_prefixCode
    (hrequest : ∀ request, requestFromSlice (toVec request) = .ok request)
    (hresponse : ∀ response, responseFromSlice (toVec response) = .ok response) :
    PrefixCode requestFromSlice responseFromSlice where
  sequence messages trailing ending hfit := by
    have hwrites := inSequence_writes Message.write (fun m => frameOf m.payload) messages
      (fun m hm written => ⟨(), Message.write_of_le written (hfit m hm)⟩) []
    obtain ⟨units, hunits⟩ := hwrites
    have hread : ∀ m ∈ messages, ReadsBack (m.read requestFromSlice responseFromSlice) m
        (frameOf m.payload) := by
      intro m hm
      cases m with
      | inl request => exact (readsBack_frameOf (hrequest request) (hfit _ hm)).mapResult _
      | inr response => exact (readsBack_frameOf (hresponse response) (hfit _ hm)).mapResult _
    exact ⟨units, _, hunits, inSequence_readsBack hread trailing ending⟩
  proper_prefix message kind frame cut ending hwrite hcut hne := by
    obtain ⟨hle, rfl⟩ := Message.eq_frameOf_of_write hwrite
    obtain ⟨e, he⟩ := kind.read_error requestFromSlice responseFromSlice
      fun _ fromSlice => ⟨_, readJsonFrame_of_cut fromSlice hle hcut hne ending⟩
    exact ⟨e, _, he⟩
  bounded kind reader := kind.read_bounded requestFromSlice responseFromSlice reader
  long_header kind header rest ending hlength hlong := by
    have htake : (header ++ rest).take 4 = header := List.take_left' hlength
    have hdrop : (header ++ rest).drop 4 = rest := List.drop_left' hlength
    refine kind.read_error requestFromSlice responseFromSlice fun _ fromSlice => ?_
    have h4 : 4 ≤ (⟨header ++ rest, ending⟩ : Reader).bytes.length := by simp [hlength]
    obtain ⟨message, hread⟩ :=
      readJsonFrame_of_long_header fromSlice h4 (by rw [htake]; exact hlong)
    exact ⟨_, by rw [hread, hdrop]⟩
  too_long message written h := Message.write_of_lt written h

end Messages

/-- The parsers of the implementation read back what is rendered. -/
theorem framing_prefixCode_reference :
    PrefixCode reference.requestFromSlice reference.responseFromSlice :=
  framing_prefixCode reference_lawful.requestFromSlice reference_lawful.responseFromSlice

end AwsKmsDemo
