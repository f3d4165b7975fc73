import AwsKmsDemo.ShimWorld

/-!
# The native shim and what it holds

What each function of the shim has acquired when it returns, on every path, and what its callers
get. The facts about single operations are rules: from what is held before an operation they lead to
what is held after it.
-/

namespace AwsKmsDemo

open Interaction Interaction.Program Memory

/-! ## What is held on the way -/

/-- Every block of `malloc` that was released held only zeros by then. -/
def Zeroed (entries : List (Entry Address Object)) : Prop :=
  ∀ p bytes, Entry.released p (Object.block bytes) ∈ entries → ∀ b ∈ bytes, b = 0

/-- Since the world `w₀`, the library was initialised and cleaned up so often, the SDK has answered
these calls, and these objects are held besides those of `w₀`. -/
structure Tracked (w₀ : ShimWorld) (inits cleanUps : ℕ) (calls : List (SdkRequest × SdkResponse))
    (objects : Multiset (Address × Object)) (w : ShimWorld) : Prop where
  inits : w.inits = w₀.inits + inits
  cleanUps : w.cleanUps = w₀.cleanUps + cleanUps
  calls : w.calls = w₀.calls ++ calls
  holds : Memory.Holds w₀.heap.held objects w.heap.held
  zeroed : ∃ new, w.heap.entries = w₀.heap.entries ++ new ∧ Zeroed new

section Tracked

variable {w₀ w : ShimWorld} {inits cleanUps : ℕ} {calls : List (SdkRequest × SdkResponse)}
  {objects : Multiset (Address × Object)} {p : Address} {o o' : Object}

/-- After the initialisation of the library, nothing else has happened. -/
theorem Tracked.start (w₀ : ShimWorld) : Tracked w₀ 1 0 [] 0 w₀.libraryInit where
  inits := rfl
  cleanUps := rfl
  calls := (List.append_nil _).symm
  holds := .zero _
  zeroed := ⟨[], (List.append_nil _).symm, fun _ _ h => absurd h List.not_mem_nil⟩

/-- Objects that are equal are held alike. -/
theorem Tracked.of_eq {objects' : Multiset (Address × Object)}
    (h : Tracked w₀ inits cleanUps calls objects w) (heq : objects = objects') :
    Tracked w₀ inits cleanUps calls objects' w :=
  heq ▸ h

/-- The library is initialised when it has been initialised once and not cleaned up. -/
theorem Tracked.initialized (h : Tracked w₀ 1 0 calls objects w) : w.Initialized := by
  have hle := w₀.cleanUps_le
  have hinits := h.inits
  have hcleanUps := h.cleanUps
  unfold ShimWorld.Initialized
  omega

/-- Cleaning up the library leaves what is held as it is. -/
theorem Tracked.finish (h : Tracked w₀ 1 0 calls objects w) (hinit : w.Initialized) :
    Tracked w₀ 1 1 calls objects (w.libraryCleanUp hinit) where
  inits := h.inits
  cleanUps := congrArg (· + 1) h.cleanUps
  calls := h.calls
  holds := h.holds
  zeroed := h.zeroed

/-- A call of the SDK leaves what is held as it is. -/
theorem Tracked.called (h : Tracked w₀ inits cleanUps calls objects w) (request : SdkRequest)
    (response : SdkResponse) :
    Tracked w₀ inits cleanUps (calls ++ [(request, response)]) objects (w.called request response)
    where
  inits := h.inits
  cleanUps := h.cleanUps
  calls := by
    unfold ShimWorld.called
    rw [h.calls, List.append_assoc]
  holds := h.holds
  zeroed := h.zeroed

/-- An object that is acquired is held besides the others. -/
theorem Tracked.acquire (h : Tracked w₀ inits cleanUps calls objects w) (o : Object)
    (hp : w.heap.held p = none) :
    Tracked w₀ inits cleanUps calls ({(p, o)} + objects) (w.acquire p o) where
  inits := h.inits
  cleanUps := h.cleanUps
  calls := h.calls
  holds := h.holds.acquire o hp
  zeroed := by
    obtain ⟨new, hnew, hzeroed⟩ := h.zeroed
    refine ⟨new ++ [.acquired p], ?_, fun q bytes hmem => ?_⟩
    · rw [← List.append_assoc, ← hnew]
      rfl
    · rcases List.mem_append.mp hmem with hmem | hmem
      · exact hzeroed q bytes hmem
      · cases List.mem_singleton.mp hmem

/-- A release. A block has to be zero by now. -/
theorem Tracked.release (h : Tracked w₀ inits cleanUps calls ({(p, o)} + objects) w)
    (hzero : ∀ bytes, o' = .block bytes → ∀ b ∈ bytes, b = 0) :
    Tracked w₀ inits cleanUps calls objects (w.release p o') where
  inits := h.inits
  cleanUps := h.cleanUps
  calls := h.calls
  holds := h.holds.release
  zeroed := by
    obtain ⟨new, hnew, hzeroed⟩ := h.zeroed
    refine ⟨new ++ [.released p o'], ?_, fun q bytes hmem => ?_⟩
    · rw [← List.append_assoc, ← hnew]
      rfl
    · rcases List.mem_append.mp hmem with hmem | hmem
      · exact hzeroed q bytes hmem
      · obtain ⟨-, hblock⟩ := Entry.released.inj (List.mem_singleton.mp hmem)
        exact hzero bytes hblock.symm

/-- A write to an object that is held changes no other. -/
theorem Tracked.write (h : Tracked w₀ inits cleanUps calls ({(p, o)} + objects) w) (o' : Object) :
    Tracked w₀ inits cleanUps calls ({(p, o')} + objects) (w.write p o') where
  inits := h.inits
  cleanUps := h.cleanUps
  calls := h.calls
  holds := h.holds.write o'
  zeroed := h.zeroed

/-- An allocation adds an object, or fails if it can. -/
theorem Tracked.allocates {mayFail : Prop} {w' : ShimWorld} {p : Option Address}
    (h : Tracked w₀ inits cleanUps calls objects w) (hp : Allocates mayFail w o p w') :
    Tracked w₀ inits cleanUps calls (optional p o + objects) w' ∧ (p = none → mayFail) := by
  cases hp with
  | failed hfail =>
    rw [optional_none, zero_add]
    exact ⟨h, fun _ => hfail⟩
  | allocated p hp => exact ⟨h.acquire o hp, fun hnone => by cases hnone⟩

/-- A buffer holds these bytes at its start, and `contents` in all. -/
structure ByteBuf.Contains (buffer : ByteBuf) (bytes contents : Bytes) : Prop where
  len : buffer.len = bytes.length
  empty : buffer.buffer = none → bytes = []
  start : bytes <+: contents

/-- A buffer that is filled is held, and has the bytes at its start. -/
theorem Tracked.fills {bytes : Bytes} {buffer : ByteBuf} {w' : ShimWorld}
    (h : Tracked w₀ inits cleanUps calls objects w) (hfills : Fills w bytes buffer w') :
    ∃ contents, buffer.Contains bytes contents ∧
      Tracked w₀ inits cleanUps calls (optional buffer.buffer (.buffer contents) + objects) w' := by
  cases hfills with
  | untouched hempty =>
    subst hempty
    refine ⟨[], ⟨rfl, fun _ => rfl, List.prefix_rfl⟩, ?_⟩
    rw [show ByteBuf.zero.buffer = none from rfl, optional_none, zero_add]
    exact h
  | allocated p spare hp =>
    refine ⟨bytes ++ spare, ⟨rfl, fun hnone => ?_, List.prefix_append _ _⟩, h.acquire _ hp⟩
    cases hnone

end Tracked

/-! ## The objects of a client -/

/-- The credentials that the SDK is given. -/
def ClientArguments.sdkCredentials (arguments : ClientArguments) : SdkCredentials where
  accessKeyId := arguments.accessKeyId
  secretAccessKey := arguments.secretAccessKey
  sessionToken := arguments.sessionToken.getD []
  expiration := uint64Max

/-- The client that `init_client` makes. -/
def ClientArguments.sdkClient (arguments : ClientArguments) : SdkClient where
  region := arguments.region
  endpoint := arguments.endpoint
  credentials := arguments.sdkCredentials

/-- The objects that a state holds. -/
def NkmsClientState.owned (state : NkmsClientState) (arguments : ClientArguments) :
    Multiset (Address × Object) :=
  optional state.client (.client arguments.sdkClient) +
    (optional state.credentials (.credentials arguments.sdkCredentials) +
      (optional state.sessionToken (.string (arguments.sessionToken.getD [])) +
        (optional state.secretAccessKey (.string arguments.secretAccessKey) +
          (optional state.accessKeyId (.string arguments.accessKeyId) +
            optional state.region (.string arguments.region)))))

/-! ## The operations -/

/-- The client of a state is among its objects. -/
theorem client_mem_owned {state : NkmsClientState} {arguments : ClientArguments} {client : Address}
    (h : state.client = some client) :
    (client, .client arguments.sdkClient) ∈ state.owned arguments := by
  unfold NkmsClientState.owned
  rw [h]
  exact Multiset.mem_add.mpr (.inl (Multiset.mem_singleton_self _))

section Operations

variable {sdk : Sdk} {α : Type} {fault : Empty → ShimWorld → Prop} {post : α → ShimWorld → Prop}
  {w₀ w : ShimWorld} {calls : List (SdkRequest × SdkResponse)}
  {objects : Multiset (Address × Object)}

/-- A new string is held by what follows, unless the SDK is faulty. -/
theorem ensures_stringNew {allocator : Option Address} {text : Bytes}
    {k : Option Address → ShimProgram α} (h : Tracked w₀ 1 0 calls objects w)
    (hk : ∀ string w', (string = none → sdk.Faulty) →
      Tracked w₀ 1 0 calls (optional string (.string text) + objects) w' →
      (k string).Ensures (shimWorld sdk).spec fault post w') :
    (Program.op (ShimOp.stringNew allocator text) k).Ensures (shimWorld sdk).spec fault post w := by
  refine ⟨h.initialized, fun string w' hstep => ?_⟩
  obtain ⟨htracked, hnone⟩ := h.allocates hstep
  exact hk string w' hnone htracked

/-- What follows the destruction of a string does not hold it any more. -/
theorem ensures_stringDestroy {string : Option Address} {text : Bytes} {k : Unit → ShimProgram α}
    (h : Tracked w₀ 1 0 calls (optional string (.string text) + objects) w)
    (hk : ∀ w', Tracked w₀ 1 0 calls objects w' →
      (k ()).Ensures (shimWorld sdk).spec fault post w') :
    (Program.op (ShimOp.stringDestroy string) k).Ensures (shimWorld sdk).spec fault post w := by
  cases string with
  | none =>
    refine ⟨trivial, fun _ w' hstep => ?_⟩
    rw [show w' = w from hstep]
    rw [optional_none, zero_add] at h
    exact hk w h
  | some p =>
    refine ⟨⟨h.initialized, text, h.holds.held_eq⟩, fun _ w' hstep => ?_⟩
    obtain ⟨_, -, rfl⟩ := hstep
    exact hk _ (h.release fun _ hblock => by cases hblock)

/-- New credentials are held by what follows, unless the SDK is faulty. -/
theorem ensures_credentialsNew {allocator : Option Address}
    {accessKeyId secretAccessKey sessionToken : Bytes} {expiration : UInt64}
    {k : Option Address → ShimProgram α} (h : Tracked w₀ 1 0 calls objects w)
    (hk : ∀ credentials w', (credentials = none → sdk.Faulty) →
      Tracked w₀ 1 0 calls (optional credentials
        (.credentials ⟨accessKeyId, secretAccessKey, sessionToken, expiration⟩) + objects) w' →
      (k credentials).Ensures (shimWorld sdk).spec fault post w') :
    (Program.op (ShimOp.credentialsNew allocator accessKeyId secretAccessKey
      sessionToken expiration) k).Ensures (shimWorld sdk).spec fault post w := by
  refine ⟨h.initialized, fun credentials w' hstep => ?_⟩
  obtain ⟨htracked, hnone⟩ := h.allocates hstep
  exact hk credentials w' hnone htracked

/-- A new client has the region and the credentials that its configuration points to. -/
theorem ensures_clientNew {configuration : KmsClientConfiguration} {p q : Address} {region : Bytes}
    {credentials : SdkCredentials} {k : Option Address → ShimProgram α}
    (hp : configuration.region = some p) (hregion : w.heap.held p = some (.string region))
    (hq : configuration.credentials = some q)
    (hcredentials : w.heap.held q = some (.credentials credentials))
    (h : Tracked w₀ 1 0 calls objects w)
    (hk : ∀ client w', (client = none → sdk.Faulty) →
      Tracked w₀ 1 0 calls
        (optional client (.client ⟨region, configuration.endpoint, credentials⟩) + objects) w' →
      (k client).Ensures (shimWorld sdk).spec fault post w') :
    (Program.op (ShimOp.clientNew configuration) k).Ensures (shimWorld sdk).spec fault post w := by
  refine ⟨⟨h.initialized, ⟨p, region, hp, hregion⟩, q, credentials, hq, hcredentials⟩,
    fun client w' hstep => ?_⟩
  obtain ⟨p', region', q', credentials', hp', hregion', hq', hcredentials', hallocates⟩ := hstep
  obtain rfl : p = p' := Option.some.inj (hp.symm.trans hp')
  obtain rfl : q = q' := Option.some.inj (hq.symm.trans hq')
  cases hregion.symm.trans hregion'
  cases hcredentials.symm.trans hcredentials'
  obtain ⟨htracked, hnone⟩ := h.allocates hallocates
  exact hk client w' hnone htracked

/-- `set_aws_error` changes nothing but the buffer for errors. -/
theorem ensures_setAwsError {error : Option Bytes} {operation : String}
    {k : Option Bytes → ShimProgram α} (h : w.Initialized)
    (hk : ∀ error', (k error').Ensures (shimWorld sdk).spec fault post w) :
    ((setAwsError error operation).bind k).Ensures (shimWorld sdk).spec fault post w := by
  unfold setAwsError
  refine ⟨h, fun code w₁ h₁ => ?_⟩
  rw [show w₁ = w from h₁]
  refine ⟨h, fun detail w₂ h₂ => ?_⟩
  rw [show w₂ = w from h₂]
  cases error with
  | none => exact hk _
  | some buffer =>
    dsimp only
    split_ifs
    · exact hk _
    · exact hk _

/-- What follows `destroy_client` does not hold the client any more. -/
theorem ensures_destroyClient {client : Option Address} {c : SdkClient} {k : Unit → ShimProgram α}
    (h : Tracked w₀ 1 0 calls (optional client (.client c) + objects) w)
    (hk : ∀ w', Tracked w₀ 1 0 calls objects w' →
      (k ()).Ensures (shimWorld sdk).spec fault post w') :
    ((destroyClient client).bind k).Ensures (shimWorld sdk).spec fault post w := by
  cases client with
  | none =>
    rw [optional_none, zero_add] at h
    exact hk w h
  | some p =>
    refine ⟨⟨h.initialized, c, h.holds.held_eq⟩, fun _ w' hstep => ?_⟩
    obtain ⟨_, -, rfl⟩ := hstep
    exact hk _ (h.release fun _ hblock => by cases hblock)

/-- What follows the release of credentials does not hold them any more. -/
theorem ensures_releaseCredentials {credentials : Option Address} {c : SdkCredentials}
    {k : Unit → ShimProgram α}
    (h : Tracked w₀ 1 0 calls (optional credentials (.credentials c) + objects) w)
    (hk : ∀ w', Tracked w₀ 1 0 calls objects w' →
      (k ()).Ensures (shimWorld sdk).spec fault post w') :
    ((releaseCredentials credentials).bind k).Ensures (shimWorld sdk).spec fault post w := by
  cases credentials with
  | none =>
    rw [optional_none, zero_add] at h
    exact hk w h
  | some p =>
    refine ⟨⟨h.initialized, c, h.holds.held_eq⟩, fun _ w' hstep => ?_⟩
    obtain ⟨_, -, rfl⟩ := hstep
    exact hk _ (h.release fun _ hblock => by cases hblock)

/-- `clean_client` releases what the state holds, and cleans up the library. -/
theorem ensures_cleanClient {state : NkmsClientState} {arguments : ClientArguments}
    {k : NkmsClientState → ShimProgram α}
    (h : Tracked w₀ 1 0 calls (state.owned arguments + objects) w)
    (hk : ∀ state' w', Tracked w₀ 1 1 calls objects w' →
      (k state').Ensures (shimWorld sdk).spec fault post w') :
    ((cleanClient state).bind k).Ensures (shimWorld sdk).spec fault post w := by
  unfold NkmsClientState.owned at h
  rw [add_assoc, add_assoc, add_assoc, add_assoc, add_assoc] at h
  refine Ensures.bind ?_
  unfold cleanClient
  refine ensures_destroyClient h fun w₁ h₁ => ?_
  refine ensures_releaseCredentials h₁ fun w₂ h₂ => ?_
  refine ensures_stringDestroy h₂ fun w₃ h₃ => ?_
  refine ensures_stringDestroy h₃ fun w₄ h₄ => ?_
  refine ensures_stringDestroy h₄ fun w₅ h₅ => ?_
  refine ensures_stringDestroy h₅ fun w₆ h₆ => ?_
  refine ⟨h₆.initialized, fun _ w₇ hstep => ?_⟩
  obtain ⟨hinit, rfl⟩ := hstep
  exact hk _ _ (h₆.finish hinit)

/-- `init_client` makes the client, or fails and leaves nothing behind. -/
theorem ensures_initClient {arguments : ClientArguments} {error : Option Bytes}
    {k : Int32 × NkmsClientState × Option Bytes → ShimProgram α} (w₀ : ShimWorld)
    (hfail : ∀ rc state error' w', rc ≠ 0 → sdk.Faulty → Tracked w₀ 1 1 [] 0 w' →
      (k (rc, state, error')).Ensures (shimWorld sdk).spec fault post w')
    (hk : ∀ state error' p w', state.client = some p →
      Tracked w₀ 1 0 [] (state.owned arguments) w' →
      (k (0, state, error')).Ensures (shimWorld sdk).spec fault post w') :
    ((initClient arguments error).bind k).Ensures (shimWorld sdk).spec fault post w₀ := by
  -- Every failure cleans up the state as it is by then.
  have hclean : ∀ state error' w, sdk.Faulty → Tracked w₀ 1 0 [] (state.owned arguments) w →
      ((cleanClient state).bind fun state' => .ret (-1, state', error')).Ensures
        (shimWorld sdk).spec fault
        (fun r w' => (k r).Ensures (shimWorld sdk).spec fault post w') w := by
    intro state error' w hfaulty h
    rw [← add_zero (state.owned arguments)] at h
    exact ensures_cleanClient h fun state' w' h' =>
      hfail (-1) state' error' w' (by decide) hfaulty h'
  refine Ensures.bind ?_
  unfold initClient
  refine ⟨trivial, fun _ w₁ hstep => ?_⟩
  rw [show w₁ = w₀.libraryInit from hstep]
  have h₁ := Tracked.start w₀
  refine ⟨h₁.initialized, fun rc w₂ hstep => ?_⟩
  obtain ⟨hrc, rfl⟩ := hstep
  dsimp only [bind_eq, pure_eq, perform_bind, ret_bind]
  by_cases hseed : rc = awsOpSuccess
  · rw [if_neg (not_not.mpr hseed)]
    refine ⟨h₁.initialized, fun allocator w₂ hstep => ?_⟩
    rw [show w₂ = w₀.libraryInit from hstep]
    refine ensures_stringNew h₁ fun region w₃ hregion h₃ => ?_
    refine ensures_stringNew h₃ fun accessKeyId w₄ haccess h₄ => ?_
    refine ensures_stringNew h₄ fun secretAccessKey w₅ hsecret h₅ => ?_
    refine ensures_stringNew h₅ fun sessionToken w₆ hsession h₆ => ?_
    rw [add_zero] at h₆
    by_cases hstrings : region = none ∨ accessKeyId = none ∨ secretAccessKey = none ∨
        sessionToken = none
    · rw [if_pos hstrings]
      have hfaulty : sdk.Faulty := by
        rcases hstrings with h | h | h | h
        · exact hregion h
        · exact haccess h
        · exact hsecret h
        · exact hsession h
      refine hclean _ _ w₆ hfaulty ?_
      simpa [NkmsClientState.owned, NkmsClientState.zero] using h₆
    rw [if_neg hstrings]
    refine ensures_credentialsNew h₆ fun credentials w₇ hcredentials h₇ => ?_
    by_cases hnone : credentials = none
    · rw [if_pos hnone]
      refine ensures_setAwsError h₇.initialized fun error' => hclean _ _ w₇ (hcredentials hnone) ?_
      simpa [NkmsClientState.owned, NkmsClientState.zero, ClientArguments.sdkCredentials] using h₇
    rw [if_neg hnone]
    -- The client is made from the region and the credentials that are held.
    obtain ⟨q, rfl⟩ := Option.ne_none_iff_exists'.mp hnone
    obtain ⟨p, rfl⟩ := Option.ne_none_iff_exists'.mp fun h => hstrings (.inl h)
    have hq := h₇.holds.held_eq
    have hp : w₇.heap.held p = some (.string arguments.region) :=
      h₇.holds.object (p, .string arguments.region) (by simp)
    refine ensures_clientNew rfl hp rfl hq h₇ fun client w₈ hclient h₈ => ?_
    by_cases hnone' : client = none
    · rw [if_pos hnone']
      exact ensures_setAwsError h₈.initialized fun error' => hclean _ _ w₈ (hclient hnone') h₈
    rw [if_neg hnone']
    obtain ⟨r, rfl⟩ := Option.ne_none_iff_exists'.mp hnone'
    exact hk _ error r w₈ rfl h₈
  · rw [if_pos hseed]
    refine ensures_setAwsError h₁.initialized fun error' => ?_
    exact hclean .zero error' _ (hrc hseed) h₁

end Operations

/-! ## Buffers -/

section Buffers

variable {sdk : Sdk} {α : Type} {fault : Empty → ShimWorld → Prop} {post : α → ShimWorld → Prop}
  {w₀ w : ShimWorld} {inits cleanUps : ℕ} {calls : List (SdkRequest × SdkResponse)}
  {objects : Multiset (Address × Object)} {bytes : Bytes}

/-- The buffer is a copy of these bytes: `NULL` with length 0 if there are none, and a block of its
own otherwise. -/
structure NkmsBuffer.Copies (buffer : NkmsBuffer) (bytes : Bytes) : Prop where
  len : buffer.len = bytes.length
  data : buffer.data = none ↔ bytes = []

/-- A copy without data is the empty buffer. -/
theorem NkmsBuffer.Copies.eq_null {buffer : NkmsBuffer} (h : buffer.Copies bytes)
    (hdata : buffer.data = none) : buffer = .null := by
  obtain ⟨data, len⟩ := buffer
  have hlen : len = bytes.length := h.len
  rw [h.data.mp hdata] at hlen
  rw [show data = none from hdata, hlen]
  rfl

/-- The empty buffer is a copy of no bytes. -/
theorem copies_null : NkmsBuffer.null.Copies [] := ⟨rfl, by simp [NkmsBuffer.null]⟩

/-- `copy_buffer` copies what the SDK has handed over, or fails and leaves nothing behind. -/
theorem ensures_copyBuffer {source : ByteBuf} {contents : Bytes}
    {k : Int32 × NkmsBuffer → ShimProgram α} (h : Tracked w₀ inits cleanUps calls objects w)
    (hsource : source.Contains bytes contents)
    (hheld : ∀ p, source.buffer = some p → (p, .buffer contents) ∈ objects)
    (hfail : ∀ rc w', rc ≠ 0 → sdk.Faulty → Tracked w₀ inits cleanUps calls objects w' →
      (k (rc, .null)).Ensures (shimWorld sdk).spec fault post w')
    (hk : ∀ target w', target.Copies bytes →
      Tracked w₀ inits cleanUps calls (optional target.data (.block bytes) + objects) w' →
      (k (0, target)).Ensures (shimWorld sdk).spec fault post w') :
    ((copyBuffer source).bind k).Ensures (shimWorld sdk).spec fault post w := by
  obtain ⟨spare, rfl⟩ := hsource.start
  refine Ensures.bind ?_
  unfold copyBuffer
  by_cases hempty : source.len = 0
  · obtain rfl : bytes = [] := List.eq_nil_of_length_eq_zero (hsource.len.symm.trans hempty)
    rw [if_pos hempty]
    refine hk .null w copies_null ?_
    rw [show NkmsBuffer.null.data = none from rfl, optional_none, zero_add]
    exact h
  rw [if_neg hempty]
  dsimp only [bind_eq, pure_eq, perform_bind]
  refine ⟨trivial, fun block w₁ hstep => ?_⟩
  obtain ⟨old, hold, hallocates⟩ := hstep
  obtain ⟨h₁, hnone⟩ := h.allocates hallocates
  cases block with
  | none =>
    rw [optional_none, zero_add] at h₁
    exact hfail (-1) w₁ (by decide) (hnone rfl) h₁
  | some p =>
    -- The SDK's bytes are there, as the buffer is not empty.
    obtain ⟨q, hq⟩ : ∃ q, source.buffer = some q := by
      refine Option.ne_none_iff_exists'.mp fun hsource' => hempty ?_
      rw [hsource.len, hsource.empty hsource']
      rfl
    have hqheld : w₁.heap.held q = some (.buffer (bytes ++ spare)) :=
      h₁.holds.object _ (Multiset.mem_add.mpr (.inr (hheld q hq)))
    have hlen : source.len ≤ (bytes ++ spare).length := by
      rw [hsource.len, List.length_append]
      exact Nat.le_add_right _ _
    refine ⟨⟨⟨p, old, rfl, h₁.holds.held_eq, hold.ge⟩, q, _, hq, hqheld, hlen⟩,
      fun _ w₂ hstep => ?_⟩
    obtain ⟨p', old', q', bytes', hp', hold', hq', hbytes', rfl⟩ := hstep
    obtain rfl := Option.some.inj hp'
    obtain rfl : q = q' := Option.some.inj (hq.symm.trans hq')
    cases h₁.holds.held_eq.symm.trans hold'
    cases hqheld.symm.trans hbytes'
    have hcopied : (bytes ++ spare).take source.len ++ old.drop source.len = bytes := by
      rw [hsource.len, List.take_left, ← hsource.len, ← hold, List.drop_length, List.append_nil]
    rw [hcopied]
    refine hk ⟨some p, source.len⟩ _ ⟨hsource.len, ?_⟩ (h₁.write _)
    constructor
    · intro hnull
      cases hnull
    · intro hbytes
      rw [hsource.len, hbytes] at hempty
      exact absurd rfl hempty

/-- `nkms_buffer_free` releases a copy once it is zero. -/
theorem ensures_nkmsBufferFree {buffer : NkmsBuffer} {k : NkmsBuffer → ShimProgram α}
    (hbuffer : buffer.Copies bytes)
    (h : Tracked w₀ inits cleanUps calls (optional buffer.data (.block bytes) + objects) w)
    (hk : ∀ w', Tracked w₀ inits cleanUps calls objects w' →
      (k .null).Ensures (shimWorld sdk).spec fault post w') :
    ((nkmsBufferFree buffer).bind k).Ensures (shimWorld sdk).spec fault post w := by
  refine Ensures.bind ?_
  unfold nkmsBufferFree
  cases hdata : buffer.data with
  | none =>
    rw [hdata, optional_none, zero_add] at h
    rw [hbuffer.eq_null hdata]
    exact hk w h
  | some p =>
    rw [hdata, optional_some] at h
    refine ⟨⟨bytes, h.holds.held_eq, hbuffer.len.le⟩, fun _ w₁ hstep => ?_⟩
    obtain ⟨old, hold, rfl⟩ := hstep
    cases h.holds.held_eq.symm.trans hold
    have h₁ := h.write (.block (List.replicate buffer.len 0 ++ bytes.drop buffer.len))
    refine ⟨⟨_, h₁.holds.held_eq⟩, fun _ w₂ hstep => ?_⟩
    obtain ⟨zeros, hzeros, rfl⟩ := hstep
    cases h₁.holds.held_eq.symm.trans hzeros
    refine hk _ (h₁.release fun released hreleased b hb => ?_)
    rw [← Object.block.inj hreleased, hbuffer.len, List.drop_length, List.append_nil] at hb
    exact List.eq_of_mem_replicate hb

/-- `take_native_buffer` takes the bytes out of a copy, and releases it once it is zero. -/
theorem ensures_takeNativeBuffer {buffer : NkmsBuffer} {k : Bytes → ShimProgram α}
    (hbuffer : buffer.Copies bytes)
    (h : Tracked w₀ inits cleanUps calls (optional buffer.data (.block bytes) + objects) w)
    (hk : ∀ w', Tracked w₀ inits cleanUps calls objects w' →
      (k bytes).Ensures (shimWorld sdk).spec fault post w') :
    ((takeNativeBuffer buffer).bind k).Ensures (shimWorld sdk).spec fault post w := by
  refine Ensures.bind ?_
  unfold takeNativeBuffer
  cases hdata : buffer.data with
  | none =>
    obtain rfl := hbuffer.data.mp hdata
    exact ensures_nkmsBufferFree hbuffer h hk
  | some p =>
    have hlen : buffer.len ≠ 0 := by
      intro hzero
      have hbytes := List.eq_nil_of_length_eq_zero (hbuffer.len.symm.trans hzero)
      rw [hbuffer.data.mpr hbytes] at hdata
      cases hdata
    have h' := h
    rw [hdata, optional_some] at h'
    dsimp only [bind_eq]
    rw [if_neg hlen, perform_bind]
    refine ⟨⟨bytes, h'.holds.held_eq, hbuffer.len.le⟩, fun read w₁ hstep => ?_⟩
    obtain ⟨bytes', hbytes', rfl, rfl⟩ := hstep
    cases h'.holds.held_eq.symm.trans hbytes'
    rw [hbuffer.len, List.take_length]
    exact ensures_nkmsBufferFree hbuffer h hk

end Buffers

/-! ## GenerateDataKey -/

section Generate

variable {sdk : Sdk} {α : Type} {fault : Empty → ShimWorld → Prop} {post : α → ShimWorld → Prop}
  {w₀ w : ShimWorld} {calls : List (SdkRequest × SdkResponse)}
  {objects : Multiset (Address × Object)}

/-- What follows the cleaning of a buffer does not hold it any more. -/
theorem ensures_cleanUp {buffer : ByteBuf} {contents : Bytes} {k : Unit → ShimProgram α}
    (h : Tracked w₀ 1 0 calls (optional buffer.buffer (.buffer contents) + objects) w)
    (hk : ∀ w', Tracked w₀ 1 0 calls objects w' →
      (k ()).Ensures (shimWorld sdk).spec fault post w') :
    (Program.op (ShimOp.cleanUp buffer) k).Ensures (shimWorld sdk).spec fault post w := by
  obtain ⟨len, p, capacity⟩ := buffer
  cases p with
  | none =>
    rw [optional_none, zero_add] at h
    refine ⟨fun p hp => (nomatch hp), fun _ w' hstep => ?_⟩
    rw [show w' = w from hstep]
    exact hk w h
  | some p =>
    rw [optional_some] at h
    refine ⟨fun p' hp => ?_, fun _ w' hstep => ?_⟩
    · obtain rfl := Option.some.inj hp
      exact ⟨h.initialized, contents, h.holds.held_eq⟩
    · obtain ⟨_, -, rfl⟩ := hstep
      exact hk _ (h.release fun _ hblock => by cases hblock)

/-- What follows the secure cleaning of a buffer does not hold it any more. -/
theorem ensures_cleanUpSecure {buffer : ByteBuf} {contents : Bytes} {k : Unit → ShimProgram α}
    (h : Tracked w₀ 1 0 calls (optional buffer.buffer (.buffer contents) + objects) w)
    (hk : ∀ w', Tracked w₀ 1 0 calls objects w' →
      (k ()).Ensures (shimWorld sdk).spec fault post w') :
    (Program.op (ShimOp.cleanUpSecure buffer) k).Ensures (shimWorld sdk).spec fault post w := by
  obtain ⟨len, p, capacity⟩ := buffer
  cases p with
  | none =>
    rw [optional_none, zero_add] at h
    refine ⟨fun p hp => (nomatch hp), fun _ w' hstep => ?_⟩
    rw [show w' = w from hstep]
    exact hk w h
  | some p =>
    rw [optional_some] at h
    refine ⟨fun p' hp => ?_, fun _ w' hstep => ?_⟩
    · obtain rfl := Option.some.inj hp
      exact ⟨h.initialized, contents, h.holds.held_eq⟩
    · obtain ⟨_, -, rfl⟩ := hstep
      exact hk _ (h.release fun _ hblock => by cases hblock)

/-- The SDK generates a data key, or fails, and may fill its buffers either way. -/
theorem ensures_generateDataKeyBlocking {client keyId : Option Address}
    {c : SdkClient} {text : Bytes}
    {keySpec : AwsKeySpec} {k : Int32 × ByteBuf × ByteBuf → ShimProgram α} {p q : Address}
    (hp : client = some p) (hc : w.heap.held p = some (.client c))
    (hq : keyId = some q) (htext : w.heap.held q = some (.string text))
    (h : Tracked w₀ 1 0 calls objects w)
    (hk : ∀ response plain encrypted contents contents' w',
      sdk.Answers (.generateDataKey c text keySpec) response →
      plain.Contains response.plaintext contents →
        encrypted.Contains response.ciphertext contents' →
      Tracked w₀ 1 0 (calls ++ [(.generateDataKey c text keySpec, response)])
        (optional plain.buffer (.buffer contents) +
          (optional encrypted.buffer (.buffer contents') + objects)) w' →
      (k (response.rc, plain, encrypted)).Ensures (shimWorld sdk).spec fault post w') :
    (Program.op (ShimOp.generateDataKeyBlocking client keyId keySpec) k).Ensures
      (shimWorld sdk).spec fault post w := by
  subst hp hq
  refine ⟨⟨h.initialized, ⟨p, c, rfl, hc⟩, text, htext⟩, fun answer w' hstep => ?_⟩
  obtain ⟨rc, plain, encrypted⟩ := answer
  obtain ⟨p', c', text', response, w₁, w₂, hp', hc', htext', hanswer, rfl, hplain, hencrypted,
    rfl⟩ := hstep
  obtain rfl := Option.some.inj hp'
  cases hc.symm.trans hc'
  cases htext.symm.trans htext'
  obtain ⟨contents, hcontains, h₁⟩ := h.fills hplain
  obtain ⟨contents', hcontains', h₂⟩ := h₁.fills hencrypted
  rw [add_left_comm] at h₂
  exact hk response plain encrypted contents contents' _ hanswer hcontains hcontains'
    (h₂.called _ _)

/-- The key spec for a number of bits. -/
def keySpecOf (keyBits : UInt32) : AwsKeySpec := if keyBits = 128 then .aes128 else .aes256

/-- A call of the SDK has failed. -/
def Sdk.Fails (sdk : Sdk) (request : SdkRequest) : Prop :=
  ∃ response, response.rc ≠ awsOpSuccess ∧ sdk.Answers request response

/-- `nkms_generate_data_key` returns 0 with copies of what the SDK has answered, or it returns an
error because something has failed, with both outputs empty. -/
def GenerateOutcome.AllOrNothing (outcome : GenerateOutcome) (sdk : Sdk)
    (arguments : ClientArguments)
    (keyId : Bytes) (keyBits : UInt32) (calls : List (SdkRequest × SdkResponse))
    (outputs : Multiset (Address × Object)) : Prop :=
  let request := SdkRequest.generateDataKey arguments.sdkClient keyId (keySpecOf keyBits)
  (outcome.result = 0 ∧ ∃ response, calls = [(request, response)] ∧ response.rc = awsOpSuccess ∧
    sdk.Answers request response ∧
    outcome.plaintext.Copies response.plaintext ∧ outcome.ciphertext.Copies response.ciphertext ∧
    outputs = optional outcome.plaintext.data (.block response.plaintext) +
      optional outcome.ciphertext.data (.block response.ciphertext)) ∨
  (outcome.result ≠ 0 ∧ outcome.plaintext = .null ∧ outcome.ciphertext = .null ∧ outputs = 0 ∧
    (sdk.Faulty ∨ (keyBits ≠ 128 ∧ keyBits ≠ 256) ∨ sdk.Fails request))

/-- When a function of the shim returns, the library was initialised and cleaned up once, and only
the outputs are still held. -/
def Leaves (P : List (SdkRequest × SdkResponse) → Multiset (Address × Object) → Prop)
    (w₀ w : ShimWorld) : Prop :=
  ∃ calls outputs, P calls outputs ∧ Tracked w₀ 1 1 calls outputs w

/-- The part of `nkms_generate_data_key` after the label `cleanup`. -/
def cleanupGenerate (state : NkmsClientState) (plain encrypted : ByteBuf)
    (kmsKeyId : Option Address) (outcome : GenerateOutcome) : ShimProgram GenerateOutcome :=
  .op (.cleanUpSecure plain) fun _ => .op (.cleanUp encrypted) fun _ =>
    .op (.stringDestroy kmsKeyId) fun _ => (cleanClient state).bind fun _ => .ret outcome

section

variable {arguments : ClientArguments} {state : NkmsClientState} {keyId : Bytes} {keyBits : UInt32}
  {plain encrypted : ByteBuf} {contents contents' : Bytes} {kmsKeyId : Option Address}

/-- What is left after the cleanup are the outputs. -/
theorem ensures_cleanupGenerate {outcome : GenerateOutcome} {outputs : Multiset (Address × Object)}
    (h : Tracked w₀ 1 0 calls (optional plain.buffer (.buffer contents) +
      (optional encrypted.buffer (.buffer contents') +
        (optional kmsKeyId (.string keyId) + (state.owned arguments + outputs)))) w)
    (houtcome : outcome.AllOrNothing sdk arguments keyId keyBits calls outputs) :
    (cleanupGenerate state plain encrypted kmsKeyId outcome).Ensures (shimWorld sdk).spec fault
      (fun outcome => Leaves (outcome.AllOrNothing sdk arguments keyId keyBits) w₀) w := by
  refine ensures_cleanUpSecure h fun w₁ h₁ => ?_
  refine ensures_cleanUp h₁ fun w₂ h₂ => ?_
  refine ensures_stringDestroy h₂ fun w₃ h₃ => ?_
  exact ensures_cleanClient h₃ fun _ w₄ h₄ => ⟨calls, outputs, houtcome, h₄⟩

/-- After a failure there are no outputs. -/
theorem ensures_cleanupGenerate_failed {error : Option Bytes}
    (h : Tracked w₀ 1 0 calls (optional plain.buffer (.buffer contents) +
      (optional encrypted.buffer (.buffer contents') +
        (optional kmsKeyId (.string keyId) + state.owned arguments))) w)
    (hreason : sdk.Faulty ∨ (keyBits ≠ 128 ∧ keyBits ≠ 256) ∨
      sdk.Fails (.generateDataKey arguments.sdkClient keyId (keySpecOf keyBits))) :
    (cleanupGenerate state plain encrypted kmsKeyId ⟨-1, .null, .null, error⟩).Ensures
      (shimWorld sdk).spec fault
      (fun outcome => Leaves (outcome.AllOrNothing sdk arguments keyId keyBits) w₀) w := by
  have hresult : (-1 : Int32) ≠ 0 := by decide
  rw [← add_zero (state.owned arguments)] at h
  exact ensures_cleanupGenerate h (.inr ⟨hresult, rfl, rfl, rfl, hreason⟩)

/-- What lies between `init_client` and the label `cleanup`: whatever it comes to, the cleanup
leaves only the outputs. -/
theorem ensures_generateWithClient {error : Option Bytes} {client : Address}
    (hclient : state.client = some client) (hkey : kmsKeyId = none → sdk.Faulty)
    (h : Tracked w₀ 1 0 [] (optional kmsKeyId (.string keyId) + state.owned arguments) w) :
    (generateWithClient state kmsKeyId keyBits error).Ensures (shimWorld sdk).spec fault
      (fun (plain, encrypted, outcome) =>
        (cleanupGenerate state plain encrypted kmsKeyId outcome).Ensures (shimWorld sdk).spec fault
          (fun outcome => Leaves (outcome.AllOrNothing sdk arguments keyId keyBits) w₀)) w := by
  unfold generateWithClient
  dsimp only [bind_eq, pure_eq, perform_bind]
  by_cases hinvalid : kmsKeyId = none ∨ (keyBits ≠ 128 ∧ keyBits ≠ 256)
  · rw [if_pos hinvalid]
    have hzero : Tracked w₀ 1 0 [] (optional ByteBuf.zero.buffer (.buffer []) +
        (optional ByteBuf.zero.buffer (.buffer []) +
          (optional kmsKeyId (.string keyId) + state.owned arguments))) w := by
      simpa [ByteBuf.zero] using h
    exact ensures_cleanupGenerate_failed hzero (hinvalid.imp hkey .inl)
  rw [if_neg hinvalid]
  -- Both the client and the key id are held when the SDK is called.
  obtain ⟨q, rfl⟩ := Option.ne_none_iff_exists'.mp fun h => hinvalid (.inl h)
  have hq := h.holds.held_eq
  have hp : w.heap.held client = some (.client arguments.sdkClient) :=
    h.holds.object _ (Multiset.mem_add.mpr (.inr (client_mem_owned hclient)))
  refine ensures_generateDataKeyBlocking hclient hp rfl hq h
    fun response plain encrypted contents contents' w₁ hanswer hplain hencrypted h₁ => ?_
  dsimp only
  by_cases hrc : response.rc = awsOpSuccess
  · rw [if_neg (not_not.mpr hrc)]
    refine ensures_copyBuffer h₁ hplain (fun p hp => by simp [hp])
      (fun rc w₂ hcopied hfaulty h₂ => ?_)
      fun plaintext w₂ hplaintext h₂ => ?_
    · dsimp only
      rw [if_pos hcopied, ret_bind, if_pos hcopied]
      exact ensures_cleanupGenerate_failed h₂ (.inl hfaulty)
    · dsimp only
      rw [if_neg (not_not.mpr rfl)]
      refine ensures_copyBuffer h₂ hencrypted (fun p hp => by simp [hp])
        (fun rc w₃ hcopied hfaulty h₃ => ?_) fun ciphertext w₃ hciphertext h₃ => ?_
      · dsimp only
        rw [if_pos hcopied]
        -- The first copy is already made, and is released again.
        refine ensures_nkmsBufferFree hplaintext h₃ fun w₄ h₄ => ?_
        exact ensures_cleanupGenerate_failed h₄ (.inl hfaulty)
      · dsimp only
        rw [if_neg (not_not.mpr rfl)]
        -- Both copies are outputs now, and stay when everything else is released.
        have houtputs := h₃.of_eq (show _ = optional plain.buffer (.buffer contents) +
          (optional encrypted.buffer (.buffer contents') + (optional (some q) (.string keyId) +
            (state.owned arguments + (optional plaintext.data (.block response.plaintext) +
              optional ciphertext.data (.block response.ciphertext))))) by ac_rfl)
        exact ensures_cleanupGenerate houtputs
          (.inl ⟨rfl, response, rfl, hrc, hanswer, hplaintext, hciphertext, rfl⟩)
  · rw [if_pos hrc]
    refine ensures_setAwsError h₁.initialized fun error' => ?_
    exact ensures_cleanupGenerate_failed h₁ (.inr (.inr ⟨response, hrc, hanswer⟩))

end

/-- What `nkms_generate_data_key` ensures. -/
theorem ensures_nkmsGenerateDataKey (sdk : Sdk) (arguments : ClientArguments) (keyId : Bytes)
    (keyBits : UInt32) (error : Option Bytes) (w₀ : ShimWorld) :
    (nkmsGenerateDataKey arguments keyId keyBits error).Ensures (shimWorld sdk).spec fault
      (fun outcome => Leaves (outcome.AllOrNothing sdk arguments keyId keyBits) w₀) w₀ := by
  have hresult : (-1 : Int32) ≠ 0 := by decide
  unfold nkmsGenerateDataKey
  refine ensures_initClient w₀ (fun rc state error' w₁ hrc hfaulty h₁ => ?_)
    fun state error' client w₁ hclient h₁ => ?_
  · dsimp only
    rw [if_pos hrc]
    exact ⟨[], 0, .inr ⟨hresult, rfl, rfl, rfl, .inl hfaulty⟩, h₁⟩
  · dsimp only
    rw [if_neg (not_not.mpr rfl)]
    refine ensures_stringNew h₁ fun kmsKeyId w₂ hkey h₂ => ?_
    rw [ret_bind]
    exact Ensures.bind (ensures_generateWithClient hclient hkey h₂)

/-! ## Decrypt -/

/-- At `NULL` there is no text. -/
theorem textAt_none {text : Option Bytes} (h : TextAt w none text) : text = none := by
  cases text with
  | none => rfl
  | some text => exact h.elim

/-- At the address of a string there is its text. -/
theorem textAt_some {p : Address} {text : Bytes} {text' : Option Bytes}
    (h : w.heap.held p = some (.string text)) : TextAt w (some p) text' ↔ text' = some text := by
  cases text' with
  | none => simp [TextAt]
  | some text' =>
    change w.heap.held p = some (.string text') ↔ _
    rw [h]
    simp [eq_comm]

/-- The SDK decrypts a data key, or fails, and may fill its buffer either way. -/
theorem ensures_decryptBlocking {client context : Option Address} {c : SdkClient}
    {ciphertext : Bytes} {text : Option Bytes} {k : Int32 × ByteBuf → ShimProgram α} {p : Address}
    (hp : client = some p) (hc : w.heap.held p = some (.client c))
    (htext : ∀ text', TextAt w context text' ↔ text' = text) (h : Tracked w₀ 1 0 calls objects w)
    (hk : ∀ response plain contents w',
      sdk.Answers (.decrypt c none none ciphertext text) response →
      plain.Contains response.plaintext contents →
      Tracked w₀ 1 0 (calls ++ [(.decrypt c none none ciphertext text, response)])
        (optional plain.buffer (.buffer contents) + objects) w' →
      (k (response.rc, plain)).Ensures (shimWorld sdk).spec fault post w') :
    (Program.op (ShimOp.decryptBlocking client none none ciphertext context) k).Ensures
      (shimWorld sdk).spec fault post w := by
  subst hp
  refine ⟨⟨h.initialized, ⟨p, c, rfl, hc⟩, ⟨none, trivial⟩, ⟨none, trivial⟩, text,
    (htext text).mpr rfl⟩, fun answer w' hstep => ?_⟩
  obtain ⟨rc, plain⟩ := answer
  obtain ⟨p', c', keyIdText, algorithmText, text', response, w₁, hp', hc', hkeyId, halgorithm,
    htext', hanswer, rfl, hplain, rfl⟩ := hstep
  obtain rfl := Option.some.inj hp'
  obtain rfl := textAt_none hkeyId
  obtain rfl := textAt_none halgorithm
  obtain rfl := (htext text').mp htext'
  cases hc.symm.trans hc'
  obtain ⟨contents, hcontains, h₁⟩ := h.fills hplain
  exact hk response plain contents _ hanswer hcontains (h₁.called _ _)

/-- The encryption context that `nkms_decrypt_data_key` passes on. -/
def contextText : Option Bytes → Option Bytes
  | some (c :: json) => some (c :: json)
  | _ => none

/-- `nkms_decrypt_data_key` returns 0 with a copy of what the SDK has answered, or it returns an
error because something has failed, with an empty output. -/
def DecryptOutcome.AllOrNothing (outcome : DecryptOutcome) (sdk : Sdk) (arguments : ClientArguments)
    (ciphertext : Bytes) (encryptionContextJson : Option Bytes)
    (calls : List (SdkRequest × SdkResponse)) (outputs : Multiset (Address × Object)) : Prop :=
  let request := SdkRequest.decrypt arguments.sdkClient none none ciphertext
    (contextText encryptionContextJson)
  (outcome.result = 0 ∧ ∃ response, calls = [(request, response)] ∧ response.rc = awsOpSuccess ∧
    sdk.Answers request response ∧ outcome.plaintext.Copies response.plaintext ∧
    outputs = optional outcome.plaintext.data (.block response.plaintext)) ∨
  (outcome.result ≠ 0 ∧ outcome.plaintext = .null ∧ outputs = 0 ∧ (sdk.Faulty ∨ sdk.Fails request))

/-- The part of `nkms_decrypt_data_key` after the label `cleanup`. -/
def cleanupDecrypt (state : NkmsClientState) (plain : ByteBuf) (context : Option Address)
    (outcome : DecryptOutcome) : ShimProgram DecryptOutcome :=
  .op (.cleanUpSecure plain) fun _ => .op (.stringDestroy context) fun _ =>
    (cleanClient state).bind fun _ => .ret outcome

section

variable {arguments : ClientArguments} {state : NkmsClientState} {ciphertext : Bytes}
  {encryptionContextJson error : Option Bytes} {plain : ByteBuf} {contents text : Bytes}
  {context : Option Address}

/-- What is left after the cleanup are the outputs. -/
theorem ensures_cleanupDecrypt {outcome : DecryptOutcome} {outputs : Multiset (Address × Object)}
    (h : Tracked w₀ 1 0 calls (optional plain.buffer (.buffer contents) +
      (optional context (.string text) + (state.owned arguments + outputs))) w)
    (houtcome : outcome.AllOrNothing sdk arguments ciphertext encryptionContextJson calls outputs) :
    (cleanupDecrypt state plain context outcome).Ensures (shimWorld sdk).spec fault
      (fun outcome => Leaves (outcome.AllOrNothing sdk arguments ciphertext
        encryptionContextJson) w₀)
      w := by
  refine ensures_cleanUpSecure h fun w₁ h₁ => ?_
  refine ensures_stringDestroy h₁ fun w₂ h₂ => ?_
  exact ensures_cleanClient h₂ fun _ w₃ h₃ => ⟨calls, outputs, houtcome, h₃⟩

/-- After a failure there are no outputs. -/
theorem ensures_cleanupDecrypt_failed
    (h : Tracked w₀ 1 0 calls (optional plain.buffer (.buffer contents) +
      (optional context (.string text) + state.owned arguments)) w)
    (hreason : sdk.Faulty ∨ sdk.Fails (.decrypt arguments.sdkClient none none ciphertext
      (contextText encryptionContextJson))) :
    (cleanupDecrypt state plain context ⟨-1, .null, error⟩).Ensures (shimWorld sdk).spec fault
      (fun outcome => Leaves (outcome.AllOrNothing sdk arguments ciphertext
        encryptionContextJson) w₀)
      w := by
  have hresult : (-1 : Int32) ≠ 0 := by decide
  rw [← add_zero (state.owned arguments)] at h
  exact ensures_cleanupDecrypt h (.inr ⟨hresult, rfl, rfl, hreason⟩)

/-- What follows the answer of the SDK: whatever it is, the cleanup leaves only the outputs. -/
theorem ensures_finishDecrypt {response : SdkResponse}
    (hanswer : sdk.Answers (.decrypt arguments.sdkClient none none ciphertext
      (contextText encryptionContextJson)) response)
    (hplain : plain.Contains response.plaintext contents)
    (h : Tracked w₀ 1 0 [(.decrypt arguments.sdkClient none none ciphertext
      (contextText encryptionContextJson), response)] (optional plain.buffer (.buffer contents) +
        (optional context (.string text) + state.owned arguments)) w) :
    (finishDecrypt response.rc plain error).Ensures (shimWorld sdk).spec fault
      (fun outcome => (cleanupDecrypt state plain context outcome).Ensures
        (shimWorld sdk).spec fault (fun outcome =>
          Leaves (outcome.AllOrNothing sdk arguments ciphertext encryptionContextJson) w₀)) w := by
  unfold finishDecrypt
  dsimp only [bind_eq, pure_eq]
  by_cases hrc : response.rc = awsOpSuccess
  · rw [if_neg (not_not.mpr hrc)]
    refine ensures_copyBuffer h hplain (fun p hp => by simp [hp])
      (fun rc w₁ hcopied hfaulty h₁ => ?_) fun plaintext w₁ hplaintext h₁ => ?_
    · dsimp only
      rw [if_pos hcopied]
      exact ensures_cleanupDecrypt_failed h₁ (.inl hfaulty)
    · dsimp only
      rw [if_neg (not_not.mpr rfl)]
      -- The copy is an output now, and stays when everything else is released.
      have houtputs := h₁.of_eq (show _ = optional plain.buffer (.buffer contents) +
        (optional context (.string text) + (state.owned arguments +
          optional plaintext.data (.block response.plaintext))) by ac_rfl)
      exact ensures_cleanupDecrypt houtputs
        (.inl ⟨rfl, response, rfl, hrc, hanswer, hplaintext, rfl⟩)
  · rw [if_pos hrc]
    refine ensures_setAwsError h.initialized fun error' => ?_
    exact ensures_cleanupDecrypt_failed h (.inr ⟨response, hrc, hanswer⟩)

/-- A call without an encryption context. -/
theorem ensures_decryptBlocking_none {client : Address} (hclient : state.client = some client)
    (hcontext : contextText encryptionContextJson = none)
    (h : Tracked w₀ 1 0 [] (state.owned arguments) w) :
    (Program.op (ShimOp.decryptBlocking state.client none none ciphertext none) fun answer =>
      (finishDecrypt answer.1 answer.2 error).bind fun outcome =>
        .ret (answer.2, (none : Option Address), outcome)).Ensures (shimWorld sdk).spec fault
      (fun (plain, context, outcome) =>
        (cleanupDecrypt state plain context outcome).Ensures (shimWorld sdk).spec fault
          (fun outcome => Leaves (outcome.AllOrNothing sdk arguments ciphertext
            encryptionContextJson) w₀)) w := by
  have hp : w.heap.held client = some (.client arguments.sdkClient) :=
    h.holds.object _ (client_mem_owned hclient)
  have htext : ∀ text', TextAt w none text' ↔ text' = contextText encryptionContextJson := by
    rw [hcontext]
    refine fun text' => ⟨textAt_none, ?_⟩
    rintro rfl
    trivial
  have hnothing : Tracked w₀ 1 0 [] (optional none (.string []) + state.owned arguments) w := by
    rwa [optional_none, zero_add]
  refine ensures_decryptBlocking hclient hp htext hnothing
    fun response plain contents w₁ hanswer hplain h₁ => ?_
  exact Ensures.bind (ensures_finishDecrypt hanswer hplain h₁)

/-- What lies between `init_client` and the label `cleanup`. -/
theorem ensures_decryptWithClient {client : Address} (hclient : state.client = some client)
    (h : Tracked w₀ 1 0 [] (state.owned arguments) w) :
    (decryptWithClient state ciphertext encryptionContextJson error).Ensures
      (shimWorld sdk).spec fault (fun (plain, context, outcome) =>
        (cleanupDecrypt state plain context outcome).Ensures (shimWorld sdk).spec fault
          (fun outcome => Leaves (outcome.AllOrNothing sdk arguments ciphertext
            encryptionContextJson) w₀)) w := by
  unfold decryptWithClient
  -- A context that is missing and one that is empty are both passed on as `NULL`.
  cases encryptionContextJson with
  | none => exact ensures_decryptBlocking_none hclient rfl h
  | some json =>
    cases json with
    | nil => exact ensures_decryptBlocking_none hclient rfl h
    | cons c json =>
      refine ensures_stringNew h fun context w₁ hcontext h₁ => ?_
      dsimp only [bind_eq, pure_eq, perform_bind, ret_bind]
      by_cases hnone : context = none
      · rw [if_pos hnone]
        subst hnone
        have hzero : Tracked w₀ 1 0 [] (optional ByteBuf.zero.buffer (.buffer []) +
            (optional none (.string []) + state.owned arguments)) w₁ := by
          simpa [ByteBuf.zero] using h₁
        exact ensures_cleanupDecrypt_failed hzero (.inl (hcontext rfl))
      rw [if_neg hnone]
      obtain ⟨q, rfl⟩ := Option.ne_none_iff_exists'.mp hnone
      have hq := h₁.holds.held_eq
      have hp : w₁.heap.held client = some (.client arguments.sdkClient) :=
        h₁.holds.object _ (Multiset.mem_add.mpr (.inr (client_mem_owned hclient)))
      refine ensures_decryptBlocking hclient hp (fun _ => textAt_some hq) h₁
        fun response plain contents w₂ hanswer hplain h₂ => ?_
      exact Ensures.bind (ensures_finishDecrypt hanswer hplain h₂)

end

/-- What `nkms_decrypt_data_key` ensures. -/
theorem ensures_nkmsDecryptDataKey (sdk : Sdk) (arguments : ClientArguments) (ciphertext : Bytes)
    (encryptionContextJson : Option Bytes) (error : Option Bytes) (w₀ : ShimWorld) :
    (nkmsDecryptDataKey arguments ciphertext encryptionContextJson error).Ensures
      (shimWorld sdk).spec fault
      (fun outcome => Leaves (outcome.AllOrNothing sdk arguments ciphertext
        encryptionContextJson) w₀)
      w₀ := by
  have hresult : (-1 : Int32) ≠ 0 := by decide
  unfold nkmsDecryptDataKey
  refine ensures_initClient w₀ (fun rc state error' w₁ hrc hfaulty h₁ => ?_)
    fun state error' client w₁ hclient h₁ => ?_
  · dsimp only
    rw [if_pos hrc]
    exact ⟨[], 0, .inr ⟨hresult, rfl, rfl, .inl hfaulty⟩, h₁⟩
  · dsimp only
    rw [if_neg (not_not.mpr rfl)]
    exact Ensures.bind (ensures_decryptWithClient hclient h₁)

/-! ## The calls in `nitro_kms.rs` -/

/-- The caller of `nkms_generate_data_key` gets exactly what the SDK has answered, or an error.
Nothing is held any more. -/
def TakesDataKey (sdk : Sdk) (native : NativeClient) (keyId : String) (keyBits : UInt32)
    (result : Except (Option Bytes) (Bytes × Bytes)) (calls : List (SdkRequest × SdkResponse))
    (outputs : Multiset (Address × Object)) : Prop :=
  let request := SdkRequest.generateDataKey native.arguments.sdkClient (textBytes keyId)
    (keySpecOf keyBits)
  outputs = 0 ∧
    match result with
    | .ok (plaintext, ciphertext) => ∃ response, calls = [(request, response)] ∧
      response.rc = awsOpSuccess ∧ sdk.Answers request response ∧
      plaintext = response.plaintext ∧ ciphertext = response.ciphertext
    | .error _ => sdk.Faulty ∨ (keyBits ≠ 128 ∧ keyBits ≠ 256) ∨ sdk.Fails request

/-- The caller of `nkms_decrypt_data_key` gets exactly what the SDK has answered, or an error.
Nothing is held any more. -/
def TakesPlaintext (sdk : Sdk) (native : NativeClient) (ciphertext : Bytes)
    (encryptionContextJson : Option String) (result : Except (Option Bytes) Bytes)
    (calls : List (SdkRequest × SdkResponse)) (outputs : Multiset (Address × Object)) : Prop :=
  let request := SdkRequest.decrypt native.arguments.sdkClient none none ciphertext
    (contextText (encryptionContextJson.map textBytes))
  outputs = 0 ∧
    match result with
    | .ok plaintext => ∃ response, calls = [(request, response)] ∧ response.rc = awsOpSuccess ∧
      sdk.Answers request response ∧ plaintext = response.plaintext
    | .error _ => sdk.Faulty ∨ sdk.Fails request

/-- The caller of `nkms_generate_data_key` gets what the SDK has answered, or an error, and holds
nothing afterwards. -/
theorem ensures_callNkmsGenerateDataKey (sdk : Sdk) (native : NativeClient) (keyId : String)
    (keyBits : UInt32) (w₀ : ShimWorld) :
    (callNkmsGenerateDataKey native keyId keyBits).Ensures (shimWorld sdk).spec fault
      (fun result => Leaves (TakesDataKey sdk native keyId keyBits result) w₀) w₀ := by
  unfold callNkmsGenerateDataKey
  refine Ensures.bind ((ensures_nkmsGenerateDataKey sdk native.arguments (textBytes keyId) keyBits _
    w₀).imp fun outcome w₁ h₁ => ?_)
  obtain ⟨calls, outputs, houtcome, h₁⟩ := h₁
  rcases houtcome with ⟨hzero, response, hcalls, hrc, hanswer, hplaintext, hciphertext, rfl⟩ |
    ⟨hresult, -, -, rfl, hreason⟩
  · rw [if_neg (not_not.mpr hzero)]
    refine ensures_takeNativeBuffer hplaintext h₁ fun w₂ h₂ => ?_
    rw [← add_zero (optional _ _)] at h₂
    refine ensures_takeNativeBuffer hciphertext h₂ fun w₃ h₃ => ?_
    exact ⟨calls, 0, ⟨rfl, response, hcalls, hrc, hanswer, rfl, rfl⟩, h₃⟩
  · rw [if_pos hresult]
    exact ⟨calls, 0, ⟨rfl, hreason⟩, h₁⟩

/-- The caller of `nkms_decrypt_data_key` gets what the SDK has answered, or an error, and holds
nothing afterwards. -/
theorem ensures_callNkmsDecryptDataKey (sdk : Sdk) (native : NativeClient) (ciphertext : Bytes)
    (encryptionContextJson : Option String) (w₀ : ShimWorld) :
    (callNkmsDecryptDataKey native ciphertext encryptionContextJson).Ensures
      (shimWorld sdk).spec fault
        (fun result => Leaves (TakesPlaintext sdk native ciphertext encryptionContextJson result)
          w₀)
      w₀ := by
  unfold callNkmsDecryptDataKey
  refine Ensures.bind ((ensures_nkmsDecryptDataKey sdk native.arguments ciphertext _ _
    w₀).imp fun outcome w₁ h₁ => ?_)
  obtain ⟨calls, outputs, houtcome, h₁⟩ := h₁
  rcases houtcome with ⟨hzero, response, hcalls, hrc, hanswer, hplaintext, rfl⟩ |
    ⟨hresult, -, rfl, hreason⟩
  · rw [if_neg (not_not.mpr hzero)]
    rw [← add_zero (optional _ _)] at h₁
    refine ensures_takeNativeBuffer hplaintext h₁ fun w₂ h₂ => ?_
    exact ⟨calls, 0, ⟨rfl, response, hcalls, hrc, hanswer, rfl⟩, h₂⟩
  · rw [if_pos hresult]
    exact ⟨calls, 0, ⟨rfl, hreason⟩, h₁⟩

end Generate

/-! ## All or nothing -/

/-- A call has come to an end: its outcome fits the calls of the SDK and what is still held, the
library was initialised and cleaned up once, every other object was released exactly once, and every
block of `malloc` only when it was zero. -/
def Settles (P : List (SdkRequest × SdkResponse) → Multiset (Address × Object) → Prop)
    (w₀ w : ShimWorld) : Prop :=
  ∃ calls outputs, P calls outputs ∧ Tracked w₀ 1 1 calls outputs w ∧
    Accounts w₀.heap outputs w.heap

/-- A program that leaves its outputs only has released every other object exactly once. -/
theorem settles_of_leaves {sdk : Sdk} {α : Type} {p : ShimProgram α} {w₀ : ShimWorld}
    {P : α → List (SdkRequest × SdkResponse) → Multiset (Address × Object) → Prop}
    (h : p.Ensures (shimWorld sdk).spec (fun _ _ => False) (fun a => Leaves (P a) w₀) w₀) :
    p.Ensures (shimWorld sdk).spec (fun _ _ => False) (fun a => Settles (P a) w₀) w₀ := by
  have hsince := h.and_relates (R := fun w w' => Since w.heap w'.heap) (fun w => .refl _)
    (fun _ _ _ huv hvw => huv.trans hvw) fun o w a w' _ hstep => since_step sdk o w a w' hstep
  refine hsince.mono (fun _ _ he => he.1) fun a w ha => ?_
  obtain ⟨⟨calls, outputs, hP, htracked⟩, hsince⟩ := ha
  exact ⟨calls, outputs, hP, htracked, hsince.accounts htracked.holds⟩

/-- The native shim hands over data keys all-or-nothing, whatever the SDK does, and releases
everything that it has acquired. Its callers get exactly what the SDK has answered. -/
theorem data_keys_all_or_nothing (sdk : Sdk) (w₀ : ShimWorld) :
    (∀ arguments keyId keyBits error,
      (nkmsGenerateDataKey arguments keyId keyBits error).Ensures (shimWorld sdk).spec
        (fun _ _ => False)
        (fun outcome => Settles (outcome.AllOrNothing sdk arguments keyId keyBits) w₀) w₀) ∧
    (∀ arguments ciphertext encryptionContextJson error,
      (nkmsDecryptDataKey arguments ciphertext encryptionContextJson error).Ensures
        (shimWorld sdk).spec (fun _ _ => False)
        (fun outcome =>
          Settles (outcome.AllOrNothing sdk arguments ciphertext encryptionContextJson) w₀) w₀) ∧
    (∀ native keyId keyBits,
      (callNkmsGenerateDataKey native keyId keyBits).Ensures (shimWorld sdk).spec (fun _ _ => False)
        (fun result => Settles (TakesDataKey sdk native keyId keyBits result) w₀) w₀) ∧
    ∀ native ciphertext encryptionContextJson,
      (callNkmsDecryptDataKey native ciphertext encryptionContextJson).Ensures (shimWorld sdk).spec
        (fun _ _ => False)
        (fun result =>
          Settles (TakesPlaintext sdk native ciphertext encryptionContextJson result) w₀) w₀ := by
  refine ⟨fun arguments keyId keyBits error => ?_,
    fun arguments ciphertext encryptionContextJson error => ?_, fun native keyId keyBits => ?_,
    fun native ciphertext encryptionContextJson => ?_⟩
  · exact settles_of_leaves (ensures_nkmsGenerateDataKey sdk arguments keyId keyBits error w₀)
  · exact settles_of_leaves
      (ensures_nkmsDecryptDataKey sdk arguments ciphertext encryptionContextJson error w₀)
  · exact settles_of_leaves (ensures_callNkmsGenerateDataKey sdk native keyId keyBits w₀)
  · exact settles_of_leaves (ensures_callNkmsDecryptDataKey sdk native ciphertext
      encryptionContextJson w₀)

end AwsKmsDemo
