import Mathlib.Algebra.Group.Nat.Defs
import Mathlib.Data.Nat.Sqrt

/-!
# SHA-256 and SHA-512

The two hash functions, over words of 32 and of 64 bits. They differ in the width of their words, in
the number of their rounds and in how far they rotate, so both are one function of a `Variant`. The
constants are not tabulated: they are the fractional parts of roots of the first primes.
-/

namespace Crypto

/-- What sets the variants of SHA-2 apart. -/
structure Variant where
  /-- The bits of a word. -/
  width : ℕ
  rounds : ℕ
  /-- Two rotations and a shift, for the message schedule. -/
  small₀ : ℕ × ℕ × ℕ
  small₁ : ℕ × ℕ × ℕ
  /-- Three rotations, for the rounds. -/
  big₀ : ℕ × ℕ × ℕ
  big₁ : ℕ × ℕ × ℕ

/-- SHA-256. -/
def sha256Variant : Variant where
  width := 32
  rounds := 64
  small₀ := (7, 18, 3)
  small₁ := (17, 19, 10)
  big₀ := (2, 13, 22)
  big₁ := (6, 11, 25)

/-- SHA-512. -/
def sha512Variant : Variant where
  width := 64
  rounds := 80
  small₀ := (1, 8, 7)
  small₁ := (19, 61, 6)
  big₀ := (28, 34, 39)
  big₁ := (14, 18, 41)

/-- The first 80 primes. -/
def primes : List ℕ :=
  ((List.range 410).filter fun n => 2 ≤ n ∧ (List.range n).all fun d => d < 2 ∨ n % d ≠ 0).take 80

/-- The largest number below `2^bits` whose cube is at most `n`, bit by bit. -/
def cubeRoot (n : ℕ) : ℕ → ℕ → ℕ
  | 0, root => root
  | bits + 1, root =>
    let next := root + 2^bits
    if next^3 ≤ n then cubeRoot n bits next else cubeRoot n bits root

/-- The first 64 bits of the fractional parts of the cube roots of the primes. -/
def roundConstants : List ℕ := primes.map fun p => cubeRoot (p * 2^192) 67 0 % 2^64

/-- The first 64 bits of the fractional parts of the square roots of the first primes. -/
def initialHash : List ℕ := (primes.take 8).map fun p => (p * 2^128).sqrt % 2^64

namespace Variant

variable (v : Variant)

/-- The first bits of a constant. -/
def word (constant : ℕ) : BitVec v.width := .ofNat v.width (constant / 2^(64 - v.width))

/-- Two rotations and a shift. -/
def small (amounts : ℕ × ℕ × ℕ) (x : BitVec v.width) : BitVec v.width :=
  x.rotateRight amounts.1 ^^^ x.rotateRight amounts.2.1 ^^^ x >>> amounts.2.2

/-- Three rotations. -/
def big (amounts : ℕ × ℕ × ℕ) (x : BitVec v.width) : BitVec v.width :=
  x.rotateRight amounts.1 ^^^ x.rotateRight amounts.2.1 ^^^ x.rotateRight amounts.2.2

/-- One more word of the message schedule, which is kept with its latest word first. -/
def extend (schedule : List (BitVec v.width)) : List (BitVec v.width) :=
  (v.small v.small₁ (schedule.getD 1 0) + schedule.getD 6 0 +
    v.small v.small₀ (schedule.getD 14 0) + schedule.getD 15 0) :: schedule

/-- The message schedule of a block. -/
def schedule (block : List (BitVec v.width)) : List (BitVec v.width) :=
  (Nat.repeat v.extend (v.rounds - 16) block.reverse).reverse

/-- One round, on the eight working variables. -/
def round (h : List (BitVec v.width)) (input : ℕ × BitVec v.width) : List (BitVec v.width) :=
  match h with
  | [a, b, c, d, e, f, g, h] =>
    let choice := (e &&& f) ^^^ (~~~e &&& g)
    let majority := (a &&& b) ^^^ (a &&& c) ^^^ (b &&& c)
    let t₁ := h + v.big v.big₁ e + choice + v.word input.1 + input.2
    let t₂ := v.big v.big₀ a + majority
    [t₁ + t₂, a, b, c, d + t₁, e, f, g]
  | _ => h

/-- The hash after one more block. -/
def compress (h : List (BitVec v.width)) (block : List (BitVec v.width)) :
    List (BitVec v.width) :=
  List.zipWith (· + ·) h ((roundConstants.zip (v.schedule block)).foldl v.round h)

/-- A number in big-endian bytes. -/
def bytes (n : ℕ) : ℕ → List UInt8
  | 0 => []
  | count + 1 => UInt8.ofNat (n / 2^(8 * count)) :: bytes n count

/-- A number is cut into as many bytes as are asked for. -/
theorem length_bytes (n count : ℕ) : (bytes n count).length = count := by
  induction count with
  | zero => rfl
  | succ count ih => rw [bytes, List.length_cons, ih]

/-- The number that big-endian bytes write. -/
def number (bytes : List UInt8) : ℕ := bytes.foldl (fun n b => 256 * n + b.toNat) 0

/-- The message with its padding: a one, zeros, and the length in bits. -/
def pad (message : List UInt8) : List UInt8 :=
  let block := 2 * v.width
  let lengthBytes := v.width / 4
  let zeros := (block - (message.length + 1 + lengthBytes) % block) % block
  message ++ [0x80] ++ List.replicate zeros 0 ++ bytes (8 * message.length) lengthBytes

/-- A list cut into pieces of `n` elements. -/
def chunks {α : Type} (n : ℕ) (as : List α) : List (List α) :=
  (List.range (as.length / n)).map fun i => (as.drop (n * i)).take n

/-- The words of a block. -/
def words (block : List UInt8) : List (BitVec v.width) :=
  (chunks (v.width / 8) block).map fun word => .ofNat v.width (number word)

/-- The hash of a message, as one number. -/
def hash (message : List UInt8) : ℕ :=
  let start := initialHash.map v.word
  let h := ((chunks (2 * v.width) (v.pad message)).map v.words).foldl v.compress start
  h.foldl (fun n word => 2^v.width * n + word.toNat) 0

/-- The digest of a message. -/
def digest (message : List UInt8) : Vector UInt8 v.width :=
  ⟨(bytes (v.hash message) v.width).toArray, length_bytes _ _⟩

end Variant

/-- SHA-256. -/
def sha256 (message : List UInt8) : Vector UInt8 32 := sha256Variant.digest message

/-- SHA-512. -/
def sha512 (message : List UInt8) : Vector UInt8 64 := sha512Variant.digest message

end Crypto
