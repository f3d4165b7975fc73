import AwsKmsDemo.Enclave

/-!
# What an exchange with the broker does

The executions of `request_broker` and of the clients above it: the request of each is one
connection and one frame, and what is returned was read from the answer.
-/

namespace AwsKmsDemo

open Interaction Interaction.Program Stream

variable {crates : Crates} {endpoint : Endpoint} {request : BrokerRequest}
  {tr : List EnclaveEvent}

/-! ## Frames -/

/-- Whether a value fits in a frame. -/
def Fits {α : Type} [Serialize α] (value : α) : Prop := (toVec value).length ≤ maxJsonFrameLength

/-- What is written of a value is its frame, if it fits. -/
theorem written_writeJsonFrame_eq_ok {α : Type} [Serialize α] {value : α} {frame : Bytes} :
    written (writeJsonFrame value) = .ok frame ↔ Fits value ∧ frame = frameOf (toVec value) := by
  unfold written
  by_cases hfits : (toVec value).length ≤ maxJsonFrameLength
  · rw [writeJsonFrame_of_le [] hfits]
    simp [Fits, hfits, eq_comm]
  · obtain ⟨message, hwrite⟩ := writeJsonFrame_of_lt value [] (Nat.not_le.mp hfits)
    rw [hwrite]
    simp [Fits, hfits]

/-- A value that fits is written as a frame. -/
theorem written_writeJsonFrame_of_fits {α : Type} [Serialize α] {value : α} (h : Fits value) :
    written (writeJsonFrame value) = .ok (frameOf (toVec value)) :=
  written_writeJsonFrame_eq_ok.mpr ⟨h, rfl⟩

/-- Different payloads have different frames. -/
theorem frameOf_injective {payload payload' : Bytes} (h : frameOf payload = frameOf payload') :
    payload = payload' := by
  have hdrop := congrArg (List.drop 4) h
  unfold frameOf at hdrop
  rwa [List.drop_left' (length_toBeBytes _), List.drop_left' (length_toBeBytes _)] at hdrop

/-! ## `request_broker` -/

/-- The operations of a request to the broker. -/
def Asks (endpoint : Endpoint) (request : BrokerRequest) (o : EnclaveOp) : Prop :=
  o = .connect endpoint ∨ (Fits request ∧ o = .exchange endpoint (frameOf (toVec request)))

/-- The events of a request that was answered by `stream`. -/
def asked (endpoint : Endpoint) (request : BrokerRequest) (stream : Reader) : List EnclaveEvent :=
  [⟨.connect endpoint, .ok ()⟩, ⟨.exchange endpoint (frameOf (toVec request)), .ok stream⟩]

/-- A request connects, and sends its frame if it fits. -/
theorem uses_sendRequest : (sendRequest endpoint request).Uses (Asks endpoint request) := by
  refine ⟨.inl rfl, fun connected => uses_ofExcept_bind fun _ _ => uses_ofExcept_bind ?_⟩
  intro frame hframe
  obtain ⟨hfits, rfl⟩ := written_writeJsonFrame_eq_ok.mp hframe
  exact ⟨.inr ⟨hfits, rfl⟩, fun _ => uses_ofExcept⟩

/-- A request is sent and answered in two events. -/
theorem yields_sendRequest_ok {stream : Reader} :
    (sendRequest endpoint request).Yields tr (.ok stream) ↔
      Fits request ∧ tr = asked endpoint request stream := by
  constructor
  · intro h
    obtain ⟨connected, tr₁, rfl, h₁⟩ := yields_op.mp h
    obtain ⟨_, hconnected, h₂⟩ := yields_ofExcept_bind_ok.mp h₁
    obtain ⟨frame, hframe, h₃⟩ := yields_ofExcept_bind_ok.mp h₂
    obtain ⟨answer, tr₂, rfl, h₄⟩ := yields_op.mp h₃
    obtain ⟨rfl, hanswer⟩ := yields_ofExcept.mp h₄
    obtain ⟨hfits, rfl⟩ := written_writeJsonFrame_eq_ok.mp hframe
    rw [ofText_eq_ok.mp hconnected, ofText_eq_ok.mp hanswer.symm]
    exact ⟨hfits, rfl⟩
  · rintro ⟨hfits, rfl⟩
    unfold sendRequest asked
    rw [written_writeJsonFrame_of_fits hfits]
    exact .step (.step (.refl _))

/-- How far sending a request can have come: it may still be connecting, or it has its answer. -/
theorem steps_sendRequest {q : EnclaveProgram Reader}
    (h : (sendRequest endpoint request).Steps tr q) : (∀ e ∈ tr, e.op = .connect endpoint) ∨
      ∃ answer, tr = [⟨.connect endpoint, .ok ()⟩,
          ⟨.exchange endpoint (frameOf (toVec request)), answer⟩] ∧
        q = Program.ofExcept (ofText answer) := by
  rcases steps_op.mp h with ⟨rfl, _⟩ | ⟨connected, tr₁, rfl, h₁⟩
  · exact .inl fun e he => absurd he List.not_mem_nil
  · cases connected with
    | error message =>
      obtain ⟨rfl, _⟩ := steps_fail.mp h₁
      exact .inl fun e he => by rw [List.mem_singleton.mp he]
    | ok _ =>
      cases hframe : written (writeJsonFrame request) with
      | error e =>
        rw [ret_bind, hframe] at h₁
        obtain ⟨rfl, _⟩ := steps_fail.mp h₁
        exact .inl fun e he => by rw [List.mem_singleton.mp he]
      | ok frame =>
        rw [ret_bind, hframe] at h₁
        obtain ⟨_, rfl⟩ := written_writeJsonFrame_eq_ok.mp hframe
        rcases steps_op.mp h₁ with ⟨rfl, _⟩ | ⟨answer, tr₂, rfl, h₂⟩
        · exact .inl fun e he => by rw [List.mem_singleton.mp he]
        · cases answer with
          | error message =>
            obtain ⟨rfl, rfl⟩ := steps_fail.mp h₂
            exact .inr ⟨_, rfl, rfl⟩
          | ok stream =>
            obtain ⟨rfl, rfl⟩ := steps_ret.mp h₂
            exact .inr ⟨_, rfl, rfl⟩

/-- A request to the broker connects and sends its frame, and nothing else. -/
theorem uses_requestBroker : (requestBroker crates endpoint request).Uses (Asks endpoint request) :=
  uses_sendRequest.bind fun _ => uses_ofExcept

/-- A request to the broker returns what is read from the answer. -/
theorem yields_requestBroker_ok {response : BrokerResponse} :
    (requestBroker crates endpoint request).Yields tr (.ok response) ↔
      Fits request ∧ ∃ stream, tr = asked endpoint request stream ∧
        receiveResponse crates stream = .ok response := by
  constructor
  · intro h
    obtain ⟨tr₁, tr₂, stream, rfl, hsend, hrest⟩ := yields_bind_ok.mp h
    obtain ⟨hfits, rfl⟩ := yields_sendRequest_ok.mp hsend
    obtain ⟨rfl, hreceive⟩ := yields_ofExcept.mp hrest
    exact ⟨hfits, stream, List.append_nil _, hreceive.symm⟩
  · rintro ⟨hfits, stream, rfl, h⟩
    refine yields_bind_ok.mpr ⟨_, [], stream, (List.append_nil _).symm,
      yields_sendRequest_ok.mpr ⟨hfits, rfl⟩, ?_⟩
    exact yields_ofExcept.mpr ⟨rfl, h.symm⟩

/-! ## The clients -/

/-- The part of `BrokerS3Client::load_object` after its request was sent. -/
def receiveObject (crates : Crates) (stream : Reader) : EnclaveProgram (Option Bytes) :=
  (Program.ofExcept (receiveResponse crates stream)).bind fun response =>
    match response with
    | .object body => .ret body
    | response => .fail (unexpectedResponse crates response)

/-- Loading an object is sending a request for it, and reading the answer. -/
theorem loadObject_eq {s3Client : BrokerS3Client} {bucket key : String} :
    s3Client.loadObject crates bucket key =
      (sendRequest s3Client.endpoint (.loadObject bucket key)).bind (receiveObject crates) :=
  Program.bind_assoc _ _ _

/-- Reading the answer performs nothing. -/
theorem uses_receiveObject {allowed : EnclaveOp → Prop} {stream : Reader} :
    (receiveObject crates stream).Uses allowed := by
  refine uses_ofExcept_bind fun response _ => ?_
  cases response <;> trivial

/-- An object that was received is returned. -/
theorem receiveObject_of {stream : Reader} {loaded : Option Bytes}
    (h : receiveResponse crates stream = .ok (.object loaded)) :
    receiveObject crates stream = .ret loaded := by
  unfold receiveObject
  rw [h]
  rfl

/-- Loading an object is one request. -/
theorem uses_loadObject {s3Client : BrokerS3Client} {bucket key : String} :
    (s3Client.loadObject crates bucket key).Uses
      (Asks s3Client.endpoint (.loadObject bucket key)) := by
  refine uses_requestBroker.bind fun response => ?_
  cases response <;> trivial

/-- An object that was loaded was read from the answer to the request for it. -/
theorem yields_loadObject_ok {s3Client : BrokerS3Client} {bucket key : String}
    {loaded : Option Bytes} :
    (s3Client.loadObject crates bucket key).Yields tr (.ok loaded) ↔
      Fits (BrokerRequest.loadObject bucket key) ∧
        ∃ stream, tr = asked s3Client.endpoint (.loadObject bucket key) stream ∧
          receiveResponse crates stream = .ok (.object loaded) := by
  constructor
  · intro h
    obtain ⟨tr₁, tr₂, response, rfl, hrequest, hrest⟩ := yields_bind_ok.mp h
    obtain ⟨hfits, stream, rfl, hreceive⟩ := yields_requestBroker_ok.mp hrequest
    cases response with
    | object body =>
      obtain ⟨rfl, rfl⟩ := yields_ret_ok.mp hrest
      exact ⟨hfits, stream, List.append_nil _, hreceive⟩
    | _ => simp at hrest
  · rintro ⟨hfits, stream, rfl, hreceive⟩
    refine yields_bind_ok.mpr ⟨_, [], .object loaded, (List.append_nil _).symm,
      yields_requestBroker_ok.mpr ⟨hfits, stream, rfl, hreceive⟩, ?_⟩
    exact yields_ret_ok.mpr ⟨rfl, rfl⟩

/-- Saving an object is one request. -/
theorem uses_saveObjectIfAbsent {s3Client : BrokerS3Client} {bucket key : String} {body : Bytes} :
    (s3Client.saveObjectIfAbsent crates bucket key body).Uses
      (Asks s3Client.endpoint (.saveObjectIfAbsent bucket key body)) := by
  refine uses_requestBroker.bind fun response => ?_
  cases response <;> trivial

/-- A save that returned was answered so. -/
theorem yields_saveObjectIfAbsent_ok {s3Client : BrokerS3Client} {bucket key : String}
    {body : Bytes} :
    (s3Client.saveObjectIfAbsent crates bucket key body).Yields tr (.ok ()) ↔
      Fits (BrokerRequest.saveObjectIfAbsent bucket key body) ∧
        ∃ stream, tr = asked s3Client.endpoint (.saveObjectIfAbsent bucket key body) stream ∧
          receiveResponse crates stream = .ok .saved := by
  constructor
  · intro h
    obtain ⟨tr₁, tr₂, response, rfl, hrequest, hrest⟩ := yields_bind_ok.mp h
    obtain ⟨hfits, stream, rfl, hreceive⟩ := yields_requestBroker_ok.mp hrequest
    cases response with
    | saved =>
      obtain ⟨rfl, _⟩ := yields_ret_ok.mp hrest
      exact ⟨hfits, stream, List.append_nil _, hreceive⟩
    | _ => simp at hrest
  · rintro ⟨hfits, stream, rfl, hreceive⟩
    refine yields_bind_ok.mpr ⟨_, [], .saved, (List.append_nil _).symm,
      yields_requestBroker_ok.mpr ⟨hfits, stream, rfl, hreceive⟩, ?_⟩
    exact yields_ret_ok.mpr ⟨rfl, rfl⟩

/-- Asking for credentials is one request. -/
theorem uses_requestBrokerCredentials {slot : KmsSlot} :
    (requestBrokerCredentials crates endpoint slot).Uses
      (Asks endpoint (.getAwsCredentials slot)) := by
  refine uses_requestBroker.bind fun response => ?_
  cases response <;> trivial

/-- The settings that a run gets were read from the answer to its request for them. -/
theorem yields_requestBrokerSettings_ok {settings : ParentSettings} :
    (requestBrokerSettings crates endpoint).Yields tr (.ok settings) ↔
      Fits BrokerRequest.getSettings ∧ ∃ stream, tr = asked endpoint .getSettings stream ∧
        receiveResponse crates stream = .ok (.settings settings) := by
  constructor
  · intro h
    obtain ⟨tr₁, tr₂, response, rfl, hrequest, hrest⟩ := yields_bind_ok.mp h
    obtain ⟨hfits, stream, rfl, hreceive⟩ := yields_requestBroker_ok.mp hrequest
    cases response with
    | settings brokerSettings =>
      obtain ⟨rfl, rfl⟩ := yields_ret_ok.mp hrest
      exact ⟨hfits, stream, List.append_nil _, hreceive⟩
    | _ => simp at hrest
  · rintro ⟨hfits, stream, rfl, hreceive⟩
    refine yields_bind_ok.mpr ⟨_, [], .settings settings, (List.append_nil _).symm,
      yields_requestBroker_ok.mpr ⟨hfits, stream, rfl, hreceive⟩, ?_⟩
    exact yields_ret_ok.mpr ⟨rfl, rfl⟩

/-- Asking for the settings is one request. -/
theorem uses_requestBrokerSettings :
    (requestBrokerSettings crates endpoint).Uses (Asks endpoint .getSettings) := by
  refine uses_requestBroker.bind fun response => ?_
  cases response <;> trivial

end AwsKmsDemo
