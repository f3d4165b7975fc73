import AwsKmsDemo.Stream.Socket

/-!
# Sockets without faults

On a socket without faults a write takes something, and a read delivers something as long as
something comes. `Socket.flawless` specifies its operations. Moreover it lets a program read only
once all is written, and only if it is to be delivered something: a program that keeps to this never
waits for what does not come.
-/

namespace Stream.Socket

open Interaction Interaction.Program

variable {ε α β : Type}

/-- The specification of a socket on which nothing fails. -/
def flawless (delivers : List UInt8 → Except String (List UInt8) → Prop) :
    OpSpec SocketOp.Ans Progress where
  ensures
    | .write bytes, w, post => bytes <+: w.unsent ∧ ∀ n : {n : ℕ // n ≤ bytes.length},
        (n.val = 0 → bytes = []) → post (.ok n) { w with unsent := w.unsent.drop n }
    | .flush, w, post => post (.ok ()) w
    | .read len, w, post => w.unsent = [] ∧
        (∃ a : SocketOp.Ans (.read len), delivers w.got (a.map (·.val))) ∧
        ∀ a : SocketOp.Ans (.read len), delivers w.got (a.map (·.val)) → post a (w.after a)
  mono := by
    intro o w post post' himp h
    cases o with
    | write bytes => exact ⟨h.1, fun n hn => himp _ _ (h.2 n hn)⟩
    | flush => exact himp _ _ h
    | read len => exact ⟨h.1, h.2.1, fun a ha => himp _ _ (h.2.2 a ha)⟩
  answered := by
    intro o w post h
    cases o with
    | write bytes =>
      refine ⟨_, _, h.2 ⟨bytes.length, Nat.le_refl _⟩ fun hn => ?_⟩
      exact List.length_eq_zero_iff.mp hn
    | flush => exact ⟨_, _, h⟩
    | read len =>
      obtain ⟨a, ha⟩ := h.2.1
      exact ⟨_, _, h.2.2 a ha⟩

/-- What a `read` may deliver while more of the bytes is to come: some, but not their end. -/
def Supplies (whole got : List UInt8) : Except String (List UInt8) → Prop
  | .ok piece => piece ≠ [] ∧ got ++ piece <+: whole
  | .error _ => False

section Rules

variable {delivers : List UInt8 → Except String (List UInt8) → Prop} {failure : String → ε}
  {fault : ε → Progress → Prop} {rest got whole : List UInt8}

/-- A program that only reads does the same without faults. -/
theorem Ensures.flawless {post : α → Progress → Prop} {p : SocketProgram ε α}
    (h : p.Ensures (spec delivers) fault post ⟨[], got⟩) :
    p.Ensures (Socket.flawless delivers) (fun e w => fault e w ∧ w.unsent = [])
      (fun a w => post a w ∧ w.unsent = []) ⟨[], got⟩ := by
  refine Ensures.refine ?_ h rfl
  intro o w post hw hensures
  cases o with
  | write bytes =>
    refine ⟨hensures.1, fun n _ => ⟨hensures.2.1 n, ?_⟩⟩
    show w.unsent.drop n = []
    rw [hw, List.drop_nil]
  | flush => exact ⟨hensures _, hw⟩
  | read len =>
    refine ⟨hw, hensures.1, fun a ha => ⟨hensures.2 a ha, ?_⟩⟩
    cases a <;> exact hw

/-- Writing takes the bytes off what is to be written. -/
theorem flawless_writeAll {post : Unit → Progress → Prop} (bytes : List UInt8)
    (hpost : post () ⟨rest, got⟩) :
    (writeAll failure bytes).Ensures (flawless delivers) fault post ⟨bytes ++ rest, got⟩ := by
  induction bytes using writeAll.induct with
  | case1 =>
    rw [writeAll]
    exact hpost
  | case2 b bs ih =>
    rw [writeAll]
    refine ⟨List.prefix_append _ _, ?_⟩
    rintro ⟨n, hn⟩ hzero
    cases n with
    | zero => cases hzero rfl
    | succ n =>
      have hdrop : (b :: bs ++ rest).drop (n + 1) = bs.drop n ++ rest := by
        rw [List.cons_append, List.drop_succ_cons, List.drop_append_of_le_length]
        simpa using hn
      dsimp only
      rw [hdrop]
      exact ih n

/-- Two writes one after the other take all that is to be written. -/
theorem flawless_writeAll_bind {bytes : List UInt8} {p : SocketProgram ε α}
    {post : α → Progress → Prop} (n : ℕ) (h : p.Ensures (flawless delivers) fault post ⟨[], got⟩) :
    ((writeAll failure (bytes.take n)).bind fun _ =>
      (writeAll failure (bytes.drop n)).bind fun _ => p).Ensures (flawless delivers) fault post
        ⟨bytes, got⟩ := by
  have hsecond : (writeAll failure (bytes.drop n)).Ensures (flawless delivers) fault
      (fun _ => p.Ensures (flawless delivers) fault post) ⟨bytes.drop n ++ [], got⟩ :=
    flawless_writeAll _ h
  rw [List.append_nil] at hsecond
  have hfirst : (writeAll failure (bytes.take n)).Ensures (flawless delivers) fault
      (fun _ => ((writeAll failure (bytes.drop n)).bind fun _ => p).Ensures
        (flawless delivers) fault post)
      ⟨bytes.take n ++ bytes.drop n, got⟩ :=
    flawless_writeAll _ (Ensures.bind hsecond)
  rw [List.take_append_drop] at hfirst
  exact Ensures.bind hfirst

/-- Flushing changes nothing. -/
theorem flawless_flush {post : Unit → Progress → Prop} {w : Progress} (hpost : post () w) :
    (flush failure).Ensures (flawless delivers) fault post w :=
  hpost

/-- Reading as many bytes as are to come waits for nothing else, and gives just these. -/
theorem flawless_readExact {post : List UInt8 → Progress → Prop} {n : ℕ} {bytes : List UInt8}
    (hlen : bytes.length = n) (hwhole : got ++ (bytes ++ rest) = whole)
    (hpost : post bytes ⟨[], got ++ bytes⟩) :
    (readExact failure n).Ensures (flawless (Supplies whole)) fault post ⟨[], got⟩ := by
  induction n using Nat.case_strong_induction_on generalizing got bytes post with
  | hz =>
    obtain rfl : bytes = [] := List.length_eq_zero_iff.mp hlen
    rw [readExact]
    rwa [List.append_nil] at hpost
  | hi n ih =>
    rw [readExact]
    refine ⟨rfl, ?_, ?_⟩
    · cases bytes with
      | nil => cases hlen
      | cons b bs =>
        refine ⟨.ok ⟨[b], by simp⟩, List.cons_ne_nil _ _, ?_⟩
        rw [← hwhole]
        exact ⟨bs ++ rest, by simp⟩
    · intro a ha
      cases a with
      | error message => exact ha.elim
      | ok piece =>
        obtain ⟨piece, hpiece⟩ := piece
        cases piece with
        | nil => exact absurd rfl ha.1
        | cons b bs =>
          -- The piece is the beginning of what is still to be read.
          obtain ⟨more, hmore⟩ : b :: bs <+: bytes := by
            have hle : b :: bs <+: bytes ++ rest := by
              have h : got ++ b :: bs <+: whole := ha.2
              rwa [← hwhole, List.prefix_append_right_inj] at h
            exact List.prefix_of_prefix_length_le hle (List.prefix_append _ _) (hlen ▸ hpiece)
          subst hmore
          have hcount : more.length = n - bs.length := by
            simp only [List.length_append, List.length_cons] at hlen
            omega
          refine Ensures.bind (ih _ (Nat.sub_le n bs.length) hcount ?_ ?_)
          · rw [← hwhole]
            simp
          · rwa [List.append_assoc]

end Rules

end Stream.Socket
