import Mathlib.Algebra.Group.Nat.Defs
import Mathlib.Order.Basic

/-!
# Reading a byte stream

A `Reader` is what a stream still has to deliver. It is read by `readExact`, which either returns
as many bytes as it is asked for or fails, having consumed whatever there was. Computations on a
stream are of type `Over`: a state monad with failures, in which what was consumed before a failure
stays consumed. The other direction is `writeAll`, whose state is what was written so far.
-/

namespace Stream

/-- What a stream delivers from here on: some bytes, and then the error that a read past them
reports. -/
structure Reader where
  /-- The bytes still to come. -/
  bytes : List UInt8
  /-- The error of a read past the last byte. -/
  ending : String

variable {σ ε α β : Type}

/-- Computations on the state `σ` of a stream, which fail with an `ε`. -/
abbrev Over (σ ε α : Type) := ExceptT ε (StateM σ) α

/-- Run a computation on a state: its result, and the state that it leaves. -/
def Over.on (r : Over σ ε α) (s : σ) : Except ε α × σ := r.run s

/-- A computed result, which leaves the state alone. -/
def ofResult (r : Except ε α) : Over σ ε α := fun s => (r, s)

/-- A computation with its result mapped. -/
def Over.mapResult (f : α → β) (r : Over σ ε α) : Over σ ε β :=
  fun s => ((r.on s).1.map f, (r.on s).2)

/-- Computations that read a stream. -/
abbrev Read (ε α : Type) := Over Reader ε α

/-- Computations that write to a stream. Their state is the bytes written so far. -/
abbrev Write (ε α : Type) := Over (List UInt8) ε α

/-- Read exactly `n` bytes. -/
def readExact (failure : String → ε) (n : ℕ) : Read ε (List UInt8) :=
  fun reader =>
    if n ≤ reader.bytes.length then
      (.ok (reader.bytes.take n), { reader with bytes := reader.bytes.drop n })
    else (.error (failure reader.ending), { reader with bytes := [] })

/-- Write all the bytes. -/
def writeAll (bytes : List UInt8) : Write ε Unit := fun written => (.ok (), written ++ bytes)

/-- A result leaves the stream where it is. -/
@[simp] theorem on_pure (a : α) (s : σ) : (pure a : Over σ ε α).on s = (.ok a, s) := rfl

/-- A failure leaves the stream where it is. -/
@[simp] theorem on_throw (e : ε) (s : σ) : (throw e : Over σ ε α).on s = (.error e, s) := rfl

/-- A computed result leaves the stream where it is. -/
@[simp] theorem on_ofResult (r : Except ε α) (s : σ) : (ofResult r).on s = (r, s) := rfl

/-- A change of the result leaves the stream where it is. -/
theorem on_mapResult (f : α → β) (r : Over σ ε α) (s : σ) :
    (r.mapResult f).on s = ((r.on s).1.map f, (r.on s).2) := rfl

/-- `write_all` writes all bytes after those that are written. -/
@[simp] theorem on_writeAll (bytes written : List UInt8) :
    (writeAll bytes : Write ε Unit).on written = (.ok (), written ++ bytes) := rfl

/-- Sequencing, by the result of the first part. -/
theorem on_bind (r : Over σ ε α) (f : α → Over σ ε β) (s : σ) :
    (r >>= f).on s =
      match r.on s with
      | (.ok a, rest) => (f a).on rest
      | (.error e, rest) => (.error e, rest) := by
  show (ExceptT.run (r >>= f)) s = _
  rw [ExceptT.run_bind]
  rcases h : r.on s with ⟨e | a, rest⟩
  · simp only [Over.on] at h
    simp [bind, StateT.bind, h]
    rfl
  · simp only [Over.on] at h
    simp [bind, StateT.bind, h, Over.on]

/-- Sequencing after a part that succeeds. -/
theorem on_bind_ok {r : Over σ ε α} {f : α → Over σ ε β} {s rest : σ} {a : α}
    (h : r.on s = (.ok a, rest)) : (r >>= f).on s = (f a).on rest := by
  rw [on_bind, h]

/-- Sequencing after a part that fails. -/
theorem on_bind_error {r : Over σ ε α} {f : α → Over σ ε β} {s rest : σ} {e : ε}
    (h : r.on s = (.error e, rest)) : (r >>= f).on s = (.error e, rest) := by
  rw [on_bind, h]

/-- A read of no more bytes than there are returns them. -/
theorem on_readExact {failure : String → ε} {n : ℕ} {reader : Reader}
    (h : n ≤ reader.bytes.length) :
    (readExact failure n).on reader =
      (.ok (reader.bytes.take n), { reader with bytes := reader.bytes.drop n }) := by
  simp [Over.on, ExceptT.run, readExact, h]

/-- A read of more bytes than there are fails. -/
theorem on_readExact_of_lt {failure : String → ε} {n : ℕ} {reader : Reader}
    (h : reader.bytes.length < n) :
    (readExact failure n).on reader =
      (.error (failure reader.ending), { reader with bytes := [] }) := by
  simp [Over.on, ExceptT.run, readExact, Nat.not_le.mpr h]

/-- A read of the bytes that stand first returns them and leaves the rest. -/
theorem on_readExact_append {failure : String → ε} (bytes rest : List UInt8) (ending : String) :
    (readExact failure bytes.length).on ⟨bytes ++ rest, ending⟩ = (.ok bytes, ⟨rest, ending⟩) := by
  rw [on_readExact (by simp)]
  simp

/-! ## Values that follow each other in a stream -/

/-- Run several computations one after the other and collect their results. -/
def inSequence : List (Over σ ε α) → Over σ ε (List α)
  | [] => pure []
  | r :: rs => do
    let a ← r
    let as ← inSequence rs
    pure (a :: as)

/-- `r` reads the value `a` back from the bytes `bytes`, whatever follows them. -/
def ReadsBack (r : Read ε α) (a : α) (bytes : List UInt8) : Prop :=
  ∀ rest ending, r.on ⟨bytes ++ rest, ending⟩ = (.ok a, ⟨rest, ending⟩)

/-- A value that is read back is read back as a value of another type. -/
theorem ReadsBack.mapResult {r : Read ε α} {a : α} {bytes : List UInt8} (h : ReadsBack r a bytes)
    (f : α → β) : ReadsBack (r.mapResult f) (f a) bytes := by
  intro rest ending
  rw [on_mapResult, h rest ending]
  rfl

/-- Values that are each read back are read back in sequence, and what follows the last is left. -/
theorem inSequence_readsBack {read : α → Read ε α} {encode : α → List UInt8} {as : List α}
    (h : ∀ a ∈ as, ReadsBack (read a) a (encode a)) :
    ReadsBack (inSequence (as.map read)) as (as.flatMap encode) := by
  induction as with
  | nil => intro rest ending; rfl
  | cons a as ih =>
    intro rest ending
    have ha := h a (by simp) (as.flatMap encode ++ rest) ending
    have has := ih (fun b hb => h b (by simp [hb])) rest ending
    simp only [List.flatMap_cons, List.append_assoc, List.map_cons, inSequence]
    rw [on_bind_ok ha, on_bind_ok has]
    rfl

/-- Values that are each written as their bytes are written in sequence as these bytes. -/
theorem inSequence_writes (write : α → Write ε β) (encode : α → List UInt8) (as : List α)
    (h : ∀ a ∈ as, ∀ written, ∃ b, (write a).on written = (.ok b, written ++ encode a))
    (written : List UInt8) :
    ∃ bs, (inSequence (as.map write)).on written = (.ok bs, written ++ as.flatMap encode) := by
  induction as generalizing written with
  | nil => exact ⟨[], by simp [inSequence]⟩
  | cons a as ih =>
    obtain ⟨b, hb⟩ := h a (by simp) written
    obtain ⟨bs, hbs⟩ := ih (fun a' ha' => h a' (by simp [ha'])) (written ++ encode a)
    refine ⟨b :: bs, ?_⟩
    simp only [List.flatMap_cons, List.map_cons, inSequence]
    rw [on_bind_ok hb, on_bind_ok hbs, on_pure, List.append_assoc]

/-! ## Lengths in four bytes -/

/-- The four bytes of a number, most significant first. -/
def toBeBytes (n : ℕ) : List UInt8 :=
  [UInt8.ofNat (n / 2^24), UInt8.ofNat (n / 2^16), UInt8.ofNat (n / 2^8), UInt8.ofNat n]

/-- The number with the given bytes, most significant first. -/
def fromBeBytes (bytes : List UInt8) : ℕ := bytes.foldl (fun n b => 256 * n + b.toNat) 0

/-- A header has four bytes. -/
@[simp] theorem length_toBeBytes (n : ℕ) : (toBeBytes n).length = 4 := rfl

/-- Four bytes give back every 32-bit number. -/
theorem fromBeBytes_toBeBytes {n : ℕ} (h : n < 2^32) : fromBeBytes (toBeBytes n) = n := by
  simp only [fromBeBytes, toBeBytes, List.foldl_cons, List.foldl_nil, UInt8.toNat_ofNat']
  omega

end Stream
