import AwsKmsDemo.Broker
import AwsKmsDemo.Exchange
import AwsKmsDemo.Json.Length

/-!
# From the broker's thread to the enclave

What the thread of a connection writes is what the enclave reads from it: a response that fits in a
frame arrives as it is, and one that was cut off does not arrive at all.
-/

namespace AwsKmsDemo

open Stream

variable {crates : Crates}

/-! ## What is written -/

/-- A response that fits is written as its frame. -/
theorem writtenResponse_of_fits {response : BrokerResponse} (h : Fits response) :
    writtenResponse response = frameOf (toVec response) := by
  unfold writtenResponse
  rw [writeJsonFrame_of_le [] h]
  rfl

/-- Of a response that does not fit, nothing is written. -/
theorem writtenResponse_of_not_fits {response : BrokerResponse} (h : ¬ Fits response) :
    writtenResponse response = [] := by
  obtain ⟨message, hwrite⟩ := writeJsonFrame_of_lt response [] (Nat.not_le.mp h)
  unfold writtenResponse
  rw [hwrite]

/-! ## What is read -/

/-- Reading a part of what was written of a response gives this response, or an error. -/
theorem readJsonFrame_of_prefix_writtenResponse (hlaw : crates.Lawful) {stream : Reader}
    {response response' : BrokerResponse} (hcut : stream.bytes <+: writtenResponse response)
    (hread : ((readJsonFrame crates.responseFromSlice).on stream).1 = .ok response') :
    response' = response := by
  by_cases hfits : Fits response
  · rw [writtenResponse_of_fits hfits] at hcut
    by_cases hall : stream.bytes = frameOf (toVec response)
    · have hon := readJsonFrame_frameOf crates.responseFromSlice hfits [] stream.ending
      rw [List.append_nil, ← hall, hlaw.responseFromSlice] at hon
      rw [hon] at hread
      exact (Except.ok.inj hread).symm
    · have hon := readJsonFrame_of_cut crates.responseFromSlice hfits hcut hall stream.ending
      rw [hon] at hread
      cases hread
  · rw [writtenResponse_of_not_fits hfits, List.prefix_nil] at hcut
    have hshort : stream.bytes.length < 4 := by rw [hcut]; decide
    rw [readJsonFrame_of_short_header _ hshort] at hread
    cases hread

/-- Reading a part of the frame of a request gives this request, or an error. -/
theorem receivedRequest_of_prefix (hlaw : crates.Lawful) {received : Reader}
    {request request' : BrokerRequest} (hfits : Fits request)
    (hcut : received.bytes <+: frameOf (toVec request))
    (hread : receivedRequest crates received = .ok request') : request' = request := by
  unfold receivedRequest at hread
  by_cases hall : received.bytes = frameOf (toVec request)
  · have hon := readJsonFrame_frameOf crates.requestFromSlice hfits [] received.ending
    rw [List.append_nil, ← hall, hlaw.requestFromSlice] at hon
    rw [hon] at hread
    exact (Except.ok.inj hread).symm
  · have hon := readJsonFrame_of_cut crates.requestFromSlice hfits hcut hall received.ending
    rw [hon] at hread
    cases hread

/-- What an enclave receives is a response that it read. -/
theorem receiveResponse_eq_ok {stream : Reader} {response : BrokerResponse}
    (h : receiveResponse crates stream = .ok response) :
    ((readJsonFrame crates.responseFromSlice).on stream).1 = .ok response := by
  obtain ⟨response', hread, hmatch⟩ := except_bind_eq_ok.mp h
  cases response' with
  | error message => cases hmatch
  | _ =>
    injection hmatch with hmatch
    rw [hread, hmatch]

/-- A response other than an error that fits is received as it is. -/
theorem receiveResponse_of_written (hlaw : crates.Lawful) {stream : Reader}
    {response : BrokerResponse} (hfits : Fits response)
    (hwritten : stream.bytes = writtenResponse response)
    (herror : ∀ message, response ≠ .error message) :
    receiveResponse crates stream = .ok response := by
  rw [writtenResponse_of_fits hfits] at hwritten
  have hon := readJsonFrame_frameOf crates.responseFromSlice hfits [] stream.ending
  rw [List.append_nil, ← hwritten, hlaw.responseFromSlice] at hon
  refine except_bind_eq_ok.mpr ⟨response, by rw [hon]; rfl, ?_⟩
  cases response with
  | error message => exact absurd rfl (herror message)
  | _ => rfl

/-- What a broker has written of a response is received. -/
theorem receiveResponse_writtenResponse {response : BrokerResponse} (h : Fits response)
    (herror : ∀ message, response ≠ .error message) :
    receiveResponse reference ⟨writtenResponse response, ""⟩ = .ok response :=
  receiveResponse_of_written reference_lawful h rfl herror

/-! ## Lengths -/

/-- The answer to a save fits a frame. -/
theorem fits_saved : Fits BrokerResponse.saved := by
  unfold Fits
  decide

/-- The answer that there is no object fits a frame. -/
theorem fits_object_none : Fits (BrokerResponse.object none) := by
  unfold Fits
  decide

/-- Whatever can be asked to be saved fits in the answer to a request to load it. -/
theorem fits_object_of_fits_save {bucket key : String} {body : Bytes}
    (h : Fits (BrokerRequest.saveObjectIfAbsent bucket key body)) :
    Fits (BrokerResponse.object (some body)) := by
  have hobject : (toVec (BrokerResponse.object (some body))).length =
      Json.textLength "Object" + Json.valueLength (serialize body) + 5 :=
    Json.valueLength_obj_singleton "Object" (serialize body)
  have hsave : (toVec (BrokerRequest.saveObjectIfAbsent bucket key body)).length =
      Json.textLength "SaveObjectIfAbsent" + Json.valueLength (.obj [("bucket", serialize bucket),
        ("key", serialize key), ("body", serialize body)]) + 5 :=
    Json.valueLength_obj_singleton "SaveObjectIfAbsent" _
  have hnames : Json.textLength "Object" = 6 ∧
    Json.textLength "SaveObjectIfAbsent" = 18 := by decide
  rw [Json.valueLength_obj_cons, Json.valueLength_obj_cons, Json.valueLength_obj_singleton] at hsave
  unfold Fits at h ⊢
  omega

/-- Whatever can be asked to be saved can be asked for. -/
theorem fits_load_of_fits_save {bucket key : String} {body : Bytes}
    (h : Fits (BrokerRequest.saveObjectIfAbsent bucket key body)) :
    Fits (BrokerRequest.loadObject bucket key) := by
  have hload : (toVec (BrokerRequest.loadObject bucket key)).length =
      Json.textLength "LoadObject" + Json.valueLength (.obj [("bucket", serialize bucket),
        ("key", serialize key)]) + 5 :=
    Json.valueLength_obj_singleton "LoadObject" _
  have hsave : (toVec (BrokerRequest.saveObjectIfAbsent bucket key body)).length =
      Json.textLength "SaveObjectIfAbsent" + Json.valueLength (.obj [("bucket", serialize bucket),
        ("key", serialize key), ("body", serialize body)]) + 5 :=
    Json.valueLength_obj_singleton "SaveObjectIfAbsent" _
  have hnames : Json.textLength "LoadObject" = 10 ∧ Json.textLength "SaveObjectIfAbsent" = 18 := by
    decide
  rw [Json.valueLength_obj_cons, Json.valueLength_obj_singleton] at hload
  rw [Json.valueLength_obj_cons, Json.valueLength_obj_cons, Json.valueLength_obj_singleton] at hsave
  unfold Fits at h ⊢
  omega

end AwsKmsDemo
