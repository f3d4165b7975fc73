import AwsKmsDemo.Native
import AwsKmsDemo.Startup
import AwsKmsDemo.Interaction.Handlers

/-!
# The enclave process on the native shim

Elsewhere a call of the native shim is one operation of the enclave process, with any answer. Here
each is carried out as `nitro_kms.rs` and the shim do it, call by call of the SDK (`carryOut`). What
the process then does is what it does elsewhere, with answers that the SDK accounts for, and
whenever it does anything else than such a call, it holds nothing of the SDK and no block of the
shim.
-/

namespace AwsKmsDemo

open Interaction Interaction.Program Memory

/-! ## The text of an error -/

/-- How many bytes an encoded character has that begins like this. -/
def utf8CharWidth (b : UInt8) : ℕ :=
  if b < 0x80 then 1
  else if 0xC2 ≤ b ∧ b ≤ 0xDF then 2
  else if 0xE0 ≤ b ∧ b ≤ 0xEF then 3
  else if 0xF0 ≤ b ∧ b ≤ 0xF4 then 4
  else 0

/-- The second byte of an encoded character of more than two bytes. -/
def isSecondByte (b c : UInt8) : Bool :=
  (if b = 0xE0 then 0xA0 else if b = 0xF0 then 0x90 else 0x80) ≤ c &&
    c ≤ (if b = 0xED then 0x9F else if b = 0xF4 then 0x8F else 0xBF)

/-- How many bytes are replaced together where no character is encoded: as many as an encoded
character could begin with. -/
def invalidLength : Bytes → ℕ
  | b :: c :: rest =>
    if 3 ≤ utf8CharWidth b ∧ isSecondByte b c then
      match rest with
      | d :: _ => if utf8CharWidth b = 4 ∧ 0x80 ≤ d ∧ d ≤ 0xBF then 3 else 2
      | [] => 2
    else 1
  | _ => 1

/-- `to_string_lossy`, with `U+FFFD` in place of what is not UTF-8 -/
def toStringLossy : Bytes → List Char
  | [] => []
  | b :: rest =>
    match (b :: rest).toByteArray.utf8DecodeChar? 0 with
    | some c => c :: toStringLossy (rest.drop (c.utf8Size - 1))
    | none => '\uFFFD' :: toStringLossy (rest.drop (invalidLength (b :: rest) - 1))
  termination_by bytes => bytes.length
  decreasing_by all_goals simp only [List.length_cons, List.length_drop]; omega

/-- The text in the buffer for errors, up to the first NUL -/
def errorText (buffer : Option Bytes) : String :=
  String.ofList (toStringLossy ((buffer.getD []).takeWhile (· ≠ 0)))

/-! ## Carrying out the native calls -/

/-- The operations of an enclave process on the shim. -/
inductive NativeOp where
  /-- An operation that is not a native call. -/
  | own (o : EnclaveOp)
  /-- What the shim does. -/
  | shim (o : ShimOp)

/-- The answers to the operations of an enclave process on the shim. -/
abbrev NativeOp.Ans : NativeOp → Type
  | .own o => o.Ans
  | .shim o => o.Ans

/-- A program of the shim within the process. -/
def onShim {α : Type} (p : ShimProgram α) : Program NativeOp.Ans AppError α :=
  (p.mapError Empty.elim).translate .shim fun _ => id

/-- Carry out an operation, the native calls by the shim. -/
def carryOut : (o : EnclaveOp) → Program NativeOp.Ans AppError o.Ans
  | .nkmsGenerateDataKey native keyId keyBits => do
    let result ← onShim (callNkmsGenerateDataKey native keyId keyBits)
    return result.mapError errorText
  | .nkmsDecryptDataKey native ciphertext encryptionContextJson => do
    let result ← onShim (callNkmsDecryptDataKey native ciphertext encryptionContextJson)
    return result.mapError errorText
  | o => perform (NativeOp.own o)

/-! ## The world of the process -/

/-- Since the world `w₀`, everything that was acquired was released, exactly once, the blocks of
`malloc` only when they were zero, and the library was cleaned up as often as it was initialised. -/
structure Released (w₀ w : ShimWorld) : Prop where
  held : w.heap.held = w₀.heap.held
  library : ∃ n, w.inits = w₀.inits + n ∧ w.cleanUps = w₀.cleanUps + n
  entries : ∃ new, w.heap.entries = w₀.heap.entries ++ new ∧ Zeroed new ∧
    ∀ p, acquisitions p new = releases p new

/-- Nothing has happened, and nothing is held. -/
theorem Released.refl (w : ShimWorld) : Released w w where
  held := rfl
  library := ⟨0, rfl, rfl⟩
  entries := ⟨[], (List.append_nil _).symm, fun _ _ h => absurd h List.not_mem_nil, fun _ => rfl⟩

/-- What was released stays released while more is acquired and released. -/
theorem Released.trans {u v w : ShimWorld} (h : Released u v) (h' : Released v w) :
    Released u w where
  held := h'.held.trans h.held
  library := by
    obtain ⟨n, hinits, hcleanUps⟩ := h.library
    obtain ⟨n', hinits', hcleanUps'⟩ := h'.library
    exact ⟨n + n', by rw [hinits', hinits, Nat.add_assoc], by
      rw [hcleanUps', hcleanUps, Nat.add_assoc]⟩
  entries := by
    obtain ⟨new, hentries, hzeroed, hcount⟩ := h.entries
    obtain ⟨new', hentries', hzeroed', hcount'⟩ := h'.entries
    refine ⟨new ++ new', by rw [hentries', hentries, List.append_assoc], ?_, fun p => ?_⟩
    · intro p bytes hmem
      rcases List.mem_append.mp hmem with hmem | hmem
      · exact hzeroed p bytes hmem
      · exact hzeroed' p bytes hmem
    · unfold acquisitions releases at hcount hcount' ⊢
      rw [List.countP_append, List.countP_append, hcount p, hcount' p]

/-- A call that leaves nothing behind has released everything. -/
theorem Settles.released {P : List (SdkRequest × SdkResponse) → Multiset (Address × Object) → Prop}
    {w₀ w : ShimWorld} (h : Settles P w₀ w) (hP : ∀ calls outputs, P calls outputs → outputs = 0) :
    Released w₀ w := by
  obtain ⟨calls, outputs, houtputs, htracked, new, hentries, hcount⟩ := h
  obtain rfl := hP _ _ houtputs
  refine ⟨?_, ⟨1, htracked.inits, htracked.cleanUps⟩, new, hentries, ?_, fun p => ?_⟩
  · funext p
    exact htracked.holds.frame p (by simp)
  · obtain ⟨new', hentries', hzeroed⟩ := htracked.zeroed
    rw [hentries, List.append_cancel_left_eq] at hentries'
    rwa [hentries']
  · have h := hcount p
    rwa [Multiset.map_zero, Multiset.count_zero, Nat.add_zero] at h

/-- Every operation of an enclave process may get an answer. -/
theorem EnclaveOp.exists_answer (o : EnclaveOp) : Nonempty o.Ans := by
  cases o with
  | random n => exact ⟨Vector.replicate n 0⟩
  | _ => exact ⟨.error ""⟩

/-- The world of a process on the shim, started in `w₀`: whatever it does besides native calls, it
does when everything that was acquired is released. -/
def nativeWorld (sdk : Sdk) (w₀ : ShimWorld) : World NativeOp.Ans ShimWorld where
  Legal
    | .own _, w => Released w₀ w
    | .shim o, w => o.Legal w
  Step
    | .own _, w, _, w' => w' = w
    | .shim o, w, a, w' => o.Step sdk w a w'
  answered := by
    intro o w h
    cases o with
    | own o =>
      obtain ⟨a⟩ := o.exists_answer
      exact ⟨a, w, rfl⟩
    | shim o => exact exists_step sdk o w h

/-- The calls of the SDK account for an event: a native call has got what the SDK has answered, or
an error that the SDK has caused. -/
def Accounted (sdk : Sdk) : EnclaveEvent → List (SdkRequest × SdkResponse) → Prop
  | ⟨.nkmsGenerateDataKey native keyId keyBits, answer⟩, calls => ∃ result,
    TakesDataKey sdk native keyId keyBits result calls 0 ∧ answer = result.mapError errorText
  | ⟨.nkmsDecryptDataKey native ciphertext encryptionContextJson, answer⟩, calls => ∃ result,
    TakesPlaintext sdk native ciphertext encryptionContextJson result calls 0 ∧
      answer = result.mapError errorText
  | _, calls => calls = []

/-- Since the world `w₀`, the process has got these answers: everything is released, and the calls
of the SDK account for the answers, one after the other. -/
def Carried (sdk : Sdk) (w₀ : ShimWorld) (tr : List EnclaveEvent) (w : ShimWorld) : Prop :=
  Released w₀ w ∧ ∃ calls, List.Forall₂ (Accounted sdk) tr calls ∧
    w.calls = w₀.calls ++ calls.flatten

/-! ## The process refines what it is elsewhere -/

variable {sdk : Sdk} {w₀ w : ShimWorld} {α : Type}

/-- What the shim ensures in its world it ensures in the world of the process. -/
theorem ensures_onShim {p : ShimProgram α} {fault : AppError → ShimWorld → Prop}
    {post : α → ShimWorld → Prop} (h : p.Ensures (shimWorld sdk).spec (fun _ _ => False) post w) :
    (onShim p).Ensures (nativeWorld sdk w₀).spec fault post w := by
  have herror : (p.mapError Empty.elim).Ensures (shimWorld sdk).spec fault post w :=
    Ensures.mapError (h.mono (fun e => e.elim) fun _ _ => id)
  exact Ensures.translate (fun o w post => id) herror

/-- A call that leaves nothing behind is the next one that was carried out. -/
theorem Carried.settles {tr : List EnclaveEvent} {o : EnclaveOp} {a : o.Ans}
    {P : List (SdkRequest × SdkResponse) → Multiset (Address × Object) → Prop} {w' : ShimWorld}
    (h : Carried sdk w₀ tr w) (hsettles : Settles P w w')
    (hP : ∀ calls outputs, P calls outputs → outputs = 0 ∧ Accounted sdk ⟨o, a⟩ calls) :
    Carried sdk w₀ (tr ++ [⟨o, a⟩]) w' := by
  obtain ⟨hreleased, calls, haccounted, hcalls⟩ := h
  refine ⟨hreleased.trans (hsettles.released fun calls outputs h => (hP calls outputs h).1), ?_⟩
  obtain ⟨new, outputs, houtputs, htracked, -⟩ := hsettles
  refine ⟨calls ++ [new], List.rel_append haccounted (.cons (hP _ _ houtputs).2 .nil), ?_⟩
  rw [htracked.calls, hcalls, List.flatten_append, List.flatten_singleton, List.append_assoc]

/-- Carrying out an operation releases everything, and its answer is accounted for. -/
theorem ensures_carryOut (tr : List EnclaveEvent) (o : EnclaveOp) (w : ShimWorld)
    (h : Carried sdk w₀ tr w) :
    (carryOut o).Ensures (nativeWorld sdk w₀).spec (fun _ _ => False)
      (fun a => Carried sdk w₀ (tr ++ [⟨o, a⟩])) w := by
  cases o with
  | nkmsGenerateDataKey native keyId keyBits =>
    have hcall := settles_of_leaves (ensures_callNkmsGenerateDataKey sdk native keyId keyBits w)
    refine Ensures.bind (ensures_onShim (hcall.imp fun result w' hsettles => ?_))
    refine h.settles hsettles fun calls outputs htakes => ⟨htakes.1, result, ?_, rfl⟩
    exact ⟨rfl, htakes.2⟩
  | nkmsDecryptDataKey native ciphertext encryptionContextJson =>
    have hcall := settles_of_leaves
      (ensures_callNkmsDecryptDataKey sdk native ciphertext encryptionContextJson w)
    refine Ensures.bind (ensures_onShim (hcall.imp fun result w' hsettles => ?_))
    refine h.settles hsettles fun calls outputs htakes => ⟨htakes.1, result, ?_, rfl⟩
    exact ⟨rfl, htakes.2⟩
  | _ =>
    obtain ⟨hreleased, calls, haccounted, hcalls⟩ := h
    refine ⟨hreleased, fun a w' hstep => ?_⟩
    obtain rfl : w' = w := hstep
    refine ⟨hreleased, calls ++ [[]], List.rel_append haccounted (.cons rfl .nil), ?_⟩
    rw [hcalls, List.flatten_append, List.flatten_singleton, List.append_nil]

/-- The enclave process on the native shim. Whatever the SDK and the allocator do, it never performs
an operation that the SDK or the allocator does not allow. Whenever it does anything but a native
call, and at its end, everything that the shim had acquired is released, exactly once, and zeroed.
And it does what the process does elsewhere, with answers to its native calls for which the calls of
the SDK account, one after the other and with no other call in between. -/
theorem native_process_refines (crates : Crates) (sdk : Sdk) (w₀ : ShimWorld) :
    ((decryptServerTeeMain crates).interpret carryOut).Ensures (nativeWorld sdk w₀).spec
      (fun e w => ∃ tr, (decryptServerTeeMain crates).Yields tr (.error e) ∧ Carried sdk w₀ tr w)
      (fun _ w => ∃ tr, (decryptServerTeeMain crates).Yields tr (.ok ()) ∧
        Carried sdk w₀ tr w) w₀ :=
  Ensures.interpret ensures_carryOut _
    ⟨.refl w₀, [], .nil, (List.append_nil w₀.calls).symm⟩

end AwsKmsDemo
