import AwsKmsDemo.Interaction.Handlers
import AwsKmsDemo.Stream.Reader
import Mathlib.Data.Nat.Init

/-!
# Streams in pieces

A socket takes and delivers bytes in pieces, whose sizes nobody knows beforehand. `Socket.writeAll`
and `Socket.readExact` are loops over pieces, and `Socket.Reads` says that such a program does what
a computation on the whole stream does, however the stream is cut.
-/

namespace Stream

open Interaction Interaction.Program

/-- The operations on a socket. An attempt that is interrupted is made again, so that an operation
stands for the attempts up to the first one that is not. -/
inductive SocketOp where
  /-- One `write`, which takes the beginning of the bytes. -/
  | write (bytes : List UInt8)
  /-- `flush` -/
  | flush
  /-- One `read` into a buffer of this length. No bytes are the end of the stream. -/
  | read (len : ℕ)
  deriving DecidableEq

/-- The answers to the operations on a socket. -/
abbrev SocketOp.Ans : SocketOp → Type
  | .write bytes => Except String {n : ℕ // n ≤ bytes.length}
  | .flush => Except String Unit
  | .read len => Except String {piece : List UInt8 // piece.length ≤ len}

/-- Programs that use a socket. -/
abbrev SocketProgram := Program SocketOp.Ans

variable {ε α β : Type}

namespace Socket

/-- The error of a `write` that takes nothing. -/
def writeZero : String := "failed to write whole buffer"

/-- The error of a `read` at the end of the stream. -/
def unexpectedEof : String := "failed to fill whole buffer"

/-- Write all the bytes. -/
def writeAll (failure : String → ε) : List UInt8 → SocketProgram ε Unit
  | [] => .ret ()
  | b :: bs => .op (.write (b :: bs)) fun
    | .error message => .fail (failure message)
    | .ok ⟨0, _⟩ => .fail (failure writeZero)
    | .ok ⟨n + 1, _⟩ => writeAll failure (bs.drop n)
  termination_by bytes => bytes.length

/-- Flush what was written. -/
def flush (failure : String → ε) : SocketProgram ε Unit :=
  .op .flush fun
    | .error message => .fail (failure message)
    | .ok () => .ret ()

/-- Read exactly `n` bytes. -/
def readExact (failure : String → ε) : ℕ → SocketProgram ε (List UInt8)
  | 0 => .ret []
  | n + 1 => .op (.read (n + 1)) fun
    | .error message => .fail (failure message)
    | .ok ⟨[], _⟩ => .fail (failure unexpectedEof)
    | .ok ⟨b :: bs, _⟩ => (readExact failure (n - bs.length)).bind fun rest =>
      .ret (b :: bs ++ rest)
  termination_by n => n
  decreasing_by exact Nat.lt_succ_of_le (Nat.sub_le _ _)

/-! ## Equations -/

/-- Only the failures depend on how a failure is reported. -/
theorem mapError_writeAll (failure : String → ε) (bytes : List UInt8) :
    (writeAll id bytes).mapError failure = writeAll failure bytes := by
  induction bytes using writeAll.induct with
  | case1 => rw [writeAll, writeAll]; rfl
  | case2 b bs ih =>
    rw [writeAll, writeAll, mapError_op]
    congr 1
    funext a
    match a with
    | .error message => rfl
    | .ok ⟨0, _⟩ => rfl
    | .ok ⟨n + 1, _⟩ => exact ih n

/-- Only the failures of a flush depend on how a failure is reported. -/
theorem mapError_flush (failure : String → ε) : (flush id).mapError failure = flush failure := by
  unfold flush
  rw [mapError_op]
  congr 1
  funext a
  cases a <;> rfl

/-- Only the failures of a read depend on how a failure is reported. -/
theorem mapError_readExact (failure : String → ε) (n : ℕ) :
    (readExact id n).mapError failure = readExact failure n := by
  induction n using Nat.case_strong_induction_on with
  | hz => rw [readExact, readExact]; rfl
  | hi n ih =>
    rw [readExact, readExact, mapError_op]
    congr 1
    funext a
    match a with
    | .error message => rfl
    | .ok ⟨[], _⟩ => rfl
    | .ok ⟨b :: bs, _⟩ =>
      dsimp only
      rw [mapError_bind, ih _ (Nat.sub_le n bs.length)]
      rfl

/-- What comes after reading `n` bytes has to be known for `n` bytes only. -/
theorem readExact_bind_congr {failure : String → ε} {n : ℕ}
    {f g : List UInt8 → SocketProgram ε β} (h : ∀ bytes, bytes.length = n → f bytes = g bytes) :
    (readExact failure n).bind f = (readExact failure n).bind g := by
  induction n using Nat.case_strong_induction_on generalizing f g with
  | hz =>
    rw [readExact]
    exact h [] rfl
  | hi n ih =>
    rw [readExact, op_bind, op_bind]
    congr 1
    funext a
    match a with
    | .error message => rfl
    | .ok ⟨[], _⟩ => rfl
    | .ok ⟨b :: bs, hlen⟩ =>
      dsimp only
      rw [bind_assoc, bind_assoc]
      refine ih _ (Nat.sub_le n bs.length) fun bytes hbytes => h _ ?_
      simp only [List.length_cons] at hlen
      simp only [List.length_append, List.length_cons, hbytes]
      omega

/-- An operation that sends. -/
def Sends : SocketOp → Prop
  | .read _ => False
  | _ => True

/-- Writing only sends. -/
theorem uses_writeAll (failure : String → ε) (bytes : List UInt8) :
    (writeAll failure bytes).Uses Sends := by
  induction bytes using writeAll.induct with
  | case1 =>
    rw [writeAll]
    trivial
  | case2 b bs ih =>
    rw [writeAll]
    refine ⟨trivial, fun a => ?_⟩
    match a with
    | .error message => trivial
    | .ok ⟨0, _⟩ => trivial
    | .ok ⟨n + 1, _⟩ => exact ih n

/-- A flush belongs to sending. -/
theorem uses_flush (failure : String → ε) : (flush failure).Uses Sends :=
  ⟨trivial, fun a => by cases a <;> trivial⟩

/-! ## Specifications -/

/-- How far the two directions of a stream have come. -/
structure Progress where
  /-- What is still to be written. -/
  unsent : List UInt8
  /-- What was read. -/
  got : List UInt8

/-- What was read after another piece, or after an error. -/
def Progress.after (w : Progress) {len : ℕ} :
    Except String {piece : List UInt8 // piece.length ≤ len} → Progress
  | .ok piece => { w with got := w.got ++ piece }
  | .error _ => w

/-- The specification of a socket on which only what is to be written may be written. What a `read`
delivers is up to `delivers`, by what was read before. -/
def spec (delivers : List UInt8 → Except String (List UInt8) → Prop) :
    OpSpec SocketOp.Ans Progress where
  ensures
    | .write bytes, w, post => bytes <+: w.unsent ∧
        (∀ n, post (.ok n) { w with unsent := w.unsent.drop n }) ∧
        ∀ message, post (.error message) w
    | .flush, w, post => ∀ a, post a w
    | .read len, w, post => (∃ a : SocketOp.Ans (.read len), delivers w.got (a.map (·.val))) ∧
        ∀ a : SocketOp.Ans (.read len), delivers w.got (a.map (·.val)) → post a (w.after a)
  mono := by
    intro o w post post' himp h
    cases o with
    | write bytes => exact ⟨h.1, fun n => himp _ _ (h.2.1 n), fun message =>
      himp _ _ (h.2.2 message)⟩
    | flush => exact fun a => himp _ _ (h a)
    | read len => exact ⟨h.1, fun a ha => himp _ _ (h.2 a ha)⟩
  answered := by
    intro o w post h
    cases o with
    | write bytes => exact ⟨_, _, h.2.2 ""⟩
    | flush => exact ⟨_, _, h (.ok ())⟩
    | read len =>
      obtain ⟨a, ha⟩ := h.1
      exact ⟨_, _, h.2 a ha⟩

/-- Nothing is known of what a socket delivers. -/
def anything : List UInt8 → Except String (List UInt8) → Prop := fun _ _ => True

section Rules

variable {delivers : List UInt8 → Except String (List UInt8) → Prop} {failure : String → ε}
  {fault : ε → Progress → Prop} {rest got : List UInt8}

/-- Writing takes the bytes off what is to be written, or fails. -/
theorem ensures_writeAll {post : Unit → Progress → Prop} (bytes : List UInt8)
    (hpost : post () ⟨rest, got⟩) (hfault : ∀ message w, fault (failure message) w) :
    (writeAll failure bytes).Ensures (spec delivers) fault post ⟨bytes ++ rest, got⟩ := by
  induction bytes using writeAll.induct with
  | case1 =>
    rw [writeAll]
    exact hpost
  | case2 b bs ih =>
    rw [writeAll]
    refine ⟨List.prefix_append _ _, ?_, fun message => hfault _ _⟩
    rintro ⟨n, hn⟩
    cases n with
    | zero => exact hfault _ _
    | succ n =>
      have hdrop : (b :: bs ++ rest).drop (n + 1) = bs.drop n ++ rest := by
        rw [List.cons_append, List.drop_succ_cons, List.drop_append_of_le_length]
        simpa using hn
      dsimp only
      rw [hdrop]
      exact ih n

/-- Two writes one after the other take all that is to be written. -/
theorem ensures_writeAll_bind {bytes : List UInt8} {p : SocketProgram ε α}
    {post : α → Progress → Prop} (n : ℕ) (h : p.Ensures (spec delivers) fault post ⟨[], got⟩)
    (hfault : ∀ message w, fault (failure message) w) :
    ((writeAll failure (bytes.take n)).bind fun _ =>
      (writeAll failure (bytes.drop n)).bind fun _ => p).Ensures (spec delivers) fault post
        ⟨bytes, got⟩ := by
  have hsecond : (writeAll failure (bytes.drop n)).Ensures (spec delivers) fault
      (fun _ => p.Ensures (spec delivers) fault post) ⟨bytes.drop n ++ [], got⟩ :=
    ensures_writeAll _ h hfault
  rw [List.append_nil] at hsecond
  have hfirst : (writeAll failure (bytes.take n)).Ensures (spec delivers) fault
      (fun _ => ((writeAll failure (bytes.drop n)).bind fun _ => p).Ensures
        (spec delivers) fault post)
      ⟨bytes.take n ++ bytes.drop n, got⟩ :=
    ensures_writeAll _ (Ensures.bind hsecond) hfault
  rw [List.take_append_drop] at hfirst
  exact Ensures.bind hfirst

/-- Flushing changes nothing, or fails. -/
theorem ensures_flush {post : Unit → Progress → Prop} {w : Progress} (hpost : post () w)
    (hfault : ∀ message w, fault (failure message) w) :
    (flush failure).Ensures (spec delivers) fault post w := by
  intro a
  cases a with
  | error message => exact hfault _ _
  | ok _ => exact hpost

/-- Reading from a socket about which nothing is known gives bytes of the right number, or fails. -/
theorem ensures_readExact {post : List UInt8 → Progress → Prop} (n : ℕ)
    (hpost : ∀ bytes, bytes.length = n → post bytes ⟨rest, got ++ bytes⟩)
    (hfault : ∀ message w, fault (failure message) w) :
    (readExact failure n).Ensures (spec anything) fault post ⟨rest, got⟩ := by
  induction n using Nat.case_strong_induction_on generalizing got post with
  | hz =>
    rw [readExact]
    have h := hpost [] rfl
    rwa [List.append_nil] at h
  | hi n ih =>
    rw [readExact]
    refine ⟨⟨.error "", trivial⟩, fun a _ => ?_⟩
    match a with
    | .error message => exact hfault _ _
    | .ok ⟨[], _⟩ => exact hfault _ _
    | .ok ⟨b :: bs, hlen⟩ =>
      refine Ensures.bind (ih _ (Nat.sub_le n bs.length) fun bytes hbytes => ?_)
      have hpiece := hpost (b :: bs ++ bytes) (by
        simp only [List.length_cons] at hlen
        simp only [List.length_append, List.length_cons, hbytes]
        omega)
      rwa [← List.append_assoc] at hpiece

end Rules

end Socket

/-! ## Pieces of a stream -/

/-- What a `read` may deliver of a stream, by what was read before: the next bytes, or what ends
it. -/
def Reader.Delivers (stream : Reader) (got : List UInt8) : Except String (List UInt8) → Prop
  | .ok [] => stream = ⟨got, Socket.unexpectedEof⟩
  | .ok piece => got ++ piece <+: stream.bytes
  | .error message => stream = ⟨got, message⟩

/-- A stream always has something to deliver, if only its end. -/
theorem Reader.exists_delivers {stream : Reader} {got rest : List UInt8} (n : ℕ)
    (h : stream.bytes = got ++ rest) :
    ∃ a : SocketOp.Ans (.read (n + 1)), stream.Delivers got (a.map (·.val)) := by
  cases rest with
  | nil =>
    refine ⟨.error stream.ending, ?_⟩
    rw [List.append_nil] at h
    rw [← h]
    rfl
  | cons b bs =>
    refine ⟨.ok ⟨[b], by simp⟩, ?_⟩
    rw [Reader.Delivers.eq_def]
    exact ⟨bs, by simp [h]⟩

namespace Socket

/-- A program that reads a socket does what a computation on the whole stream does, however the
stream is cut into pieces. -/
def Reads (p : SocketProgram ε α) (r : Read ε α) : Prop :=
  ∀ (stream : Reader) (got rest unsent : List UInt8), stream.bytes = got ++ rest →
    p.Ensures (spec stream.Delivers) (fun e _ => (r.on ⟨rest, stream.ending⟩).1 = .error e)
      (fun a w => ∃ rest', stream.bytes = w.got ++ rest' ∧
        r.on ⟨rest, stream.ending⟩ = (.ok a, ⟨rest', stream.ending⟩)) ⟨unsent, got⟩

/-- A computed result. -/
theorem reads_ofResult (x : Except ε α) : Reads (Program.ofExcept x) (ofResult x) := by
  intro stream got rest unsent h
  cases x with
  | ok a => exact ⟨rest, h, rfl⟩
  | error e => rfl

/-- One after the other. -/
theorem Reads.bind {p : SocketProgram ε α} {r : Read ε α} {q : α → SocketProgram ε β}
    {r' : α → Read ε β} (hp : Reads p r) (hq : ∀ a, Reads (q a) (r' a)) :
    Reads (p.bind q) (r >>= r') := by
  intro stream got rest unsent h
  refine Ensures.bind ((hp stream got rest unsent h).mono ?_ ?_)
  · intro e w he
    rw [on_bind]
    rcases hr : r.on ⟨rest, stream.ending⟩ with ⟨x, rest'⟩
    rw [hr] at he
    obtain rfl : x = .error e := he
    rfl
  · rintro a ⟨unsent', got'⟩ ⟨rest', hbytes, hr⟩
    rw [on_bind_ok hr]
    exact hq a stream got' rest' unsent' hbytes

/-- A read whose first bytes are at hand reads the others from what follows. -/
theorem on_readExact_of_le {failure : String → ε} {n : ℕ} {piece : List UInt8}
    (h : piece.length ≤ n) (rest : List UInt8) (ending : String) :
    (Stream.readExact failure n).on ⟨piece ++ rest, ending⟩ =
      ((Stream.readExact failure (n - piece.length)).mapResult (piece ++ ·)).on ⟨rest, ending⟩ := by
  rw [on_mapResult]
  by_cases hn : n ≤ (piece ++ rest).length
  · have hrest : n - piece.length ≤ rest.length := by
      rw [List.length_append] at hn
      omega
    rw [on_readExact hn, on_readExact hrest, List.take_append, List.drop_append,
      List.take_of_length_le h, List.drop_eq_nil_of_le h]
    rfl
  · have hrest : rest.length < n - piece.length := by
      rw [List.length_append] at hn
      omega
    rw [on_readExact_of_lt (Nat.not_le.mp hn), on_readExact_of_lt hrest]
    rfl

/-- Reading exactly `n` bytes. -/
theorem reads_readExact (failure : String → ε) (n : ℕ) :
    Reads (readExact failure n) (Stream.readExact failure n) := by
  induction n using Nat.case_strong_induction_on with
  | hz =>
    intro stream got rest unsent h
    rw [readExact]
    exact ⟨rest, h, on_readExact (Nat.zero_le _)⟩
  | hi n ih =>
    intro stream got rest unsent h
    rw [readExact]
    refine ⟨stream.exists_delivers n h, fun a ha => ?_⟩
    match a, ha with
    | .error message, hend =>
      obtain rfl : stream = ⟨got, message⟩ := hend
      obtain rfl : rest = [] := by simpa using h
      exact congrArg Prod.fst (on_readExact_of_lt (Nat.succ_pos n))
    | .ok ⟨[], _⟩, hend =>
      obtain rfl : stream = ⟨got, unexpectedEof⟩ := hend
      obtain rfl : rest = [] := by simpa using h
      exact congrArg Prod.fst (on_readExact_of_lt (Nat.succ_pos n))
    | .ok ⟨b :: bs, hlen⟩, hpiece =>
      -- The rest of the stream starts with the piece.
      obtain ⟨rest', hrest⟩ : got ++ b :: bs <+: stream.bytes := hpiece
      obtain rfl : rest = b :: bs ++ rest' := by
        rw [h, List.append_assoc] at hrest
        exact (List.append_cancel_left hrest).symm
      have hcount : n + 1 - (b :: bs).length = n - bs.length := by simp
      rw [on_readExact_of_le hlen, hcount, on_mapResult]
      refine Ensures.bind ((ih _ (Nat.sub_le n bs.length) stream (got ++ b :: bs) rest' unsent
        hrest.symm).mono ?_ ?_)
      · intro e w he
        rw [he]
        rfl
      · rintro bytes w ⟨rest'', hbytes, hr⟩
        rw [hr]
        exact ⟨rest'', hbytes, rfl⟩

end Socket

/-! ## Programs with a socket at hand -/

/-- The operations of a program that also has a socket. -/
inductive WithSocket (Op : Type) where
  /-- An operation that has nothing to do with the socket. -/
  | own (o : Op)
  /-- An operation on the socket. -/
  | socket (o : SocketOp)
  /-- The socket is closed. -/
  | drop

/-- The answers to the operations of a program that also has a socket. -/
abbrev WithSocket.Ans {Op : Type} (OwnAns : Op → Type) : WithSocket Op → Type
  | .own o => OwnAns o
  | .socket o => o.Ans
  | .drop => Unit

variable {Op : Type} {Ans : Op → Type}

/-- A program that leaves the socket alone. -/
def own (p : Program Ans ε α) : Program (WithSocket.Ans Ans) ε α :=
  p.translate .own fun _ => id

/-- A program that does nothing but use the socket. -/
def onSocket (p : SocketProgram ε α) : Program (WithSocket.Ans Ans) ε α :=
  p.translate .socket fun _ => id

/-- Close the socket. -/
def drop : Program (WithSocket.Ans Ans) ε Unit := perform WithSocket.drop

/-- A result leaves the socket alone. -/
@[simp] theorem own_ret (a : α) :
    own (.ret a : Program Ans ε α) = .ret a := rfl

/-- A failure leaves the socket alone. -/
@[simp] theorem own_fail (e : ε) : own (.fail e : Program Ans ε α) = .fail e := rfl

/-- An operation that leaves the socket alone. -/
@[simp] theorem own_op (o : Op) (k : Ans o → Program Ans ε α) :
    own (.op o k) = .op (.own o) fun a => own (k a) := rfl

/-- A result on the socket. -/
@[simp] theorem onSocket_ret (a : α) :
    (onSocket (.ret a) : Program (WithSocket.Ans Ans) ε α) = .ret a := rfl

/-- A failure on the socket. -/
@[simp] theorem onSocket_fail (e : ε) :
    (onSocket (.fail e) : Program (WithSocket.Ans Ans) ε α) = .fail e := rfl

/-- An operation on the socket. -/
@[simp] theorem onSocket_op (o : SocketOp) (k : o.Ans → SocketProgram ε α) :
    (onSocket (.op o k) : Program (WithSocket.Ans Ans) ε α) =
      .op (.socket o) fun a => onSocket (k a) := rfl

end Stream
