import AwsKmsDemo.Crypto.Sha2

/-!
# AES-GCM

Authenticated encryption with AES-128 or AES-256 in Galois/counter mode, with a nonce of twelve
bytes and no associated data. Encryption adds a key stream to the plaintext and appends a tag of
sixteen bytes, which is a function of the ciphertext: so decryption, which checks the tag and adds
the same key stream, undoes it.
-/

namespace Crypto

/-! ## The block cipher -/

/-- Double an element of the field with 256 elements. -/
def double (b : UInt8) : UInt8 := if b < 128 then b <<< 1 else b <<< 1 ^^^ 0x1b

/-- Multiply in the field with 256 elements, by the bits of the first factor. -/
def fieldMul (a b : UInt8) : UInt8 :=
  (List.range 8).foldl
    (fun (sum, power) i => (if a.toNat.testBit i then sum ^^^ power else sum, double power))
    ((0, b) : UInt8 × UInt8) |>.1

/-- The inverse in the field with 256 elements, and zero for zero. -/
def fieldInv (b : UInt8) : UInt8 := Nat.repeat (fun power => fieldMul power b) 253 b

/-- `b` rotated to the left. -/
def rotateLeft (b : UInt8) (n : ℕ) : UInt8 := UInt8.ofNat (b.toNat * 2^n ||| b.toNat / 2^(8 - n))

/-- The substitution of a byte. -/
def subByte (b : UInt8) : UInt8 :=
  let c := fieldInv b
  c ^^^ rotateLeft c 1 ^^^ rotateLeft c 2 ^^^ rotateLeft c 3 ^^^ rotateLeft c 4 ^^^ 0x63

/-- Two byte sequences added bit by bit. -/
def xor (as bs : List UInt8) : List UInt8 := List.zipWith (· ^^^ ·) as bs

/-- One more word of the key schedule, which is kept with its latest word first. The key has `n`
words. -/
def extendKey (n : ℕ) (schedule : List (List UInt8)) : List (List UInt8) :=
  let i := schedule.length
  let last := schedule.headD []
  let mixed :=
    if i % n = 0 then
      xor ((last.drop 1 ++ last.take 1).map subByte) [Nat.repeat double (i / n - 1) 1, 0, 0, 0]
    else if n > 6 ∧ i % n = 4 then last.map subByte
    else last
  xor (schedule.getD (n - 1) []) mixed :: schedule

/-- The round keys of a key. -/
def roundKeys (key : List UInt8) : List (List UInt8) :=
  let n := key.length / 4
  let schedule := (Nat.repeat (extendKey n) (3 * n + 28) (Variant.chunks 4 key).reverse).reverse
  Variant.chunks 16 schedule.flatten

/-- Rotate the rows of a block, of which the columns come one after the other. -/
def shiftRows (block : List UInt8) : List UInt8 :=
  (List.range 16).map fun i => block.getD ((5 * i) % 16) 0

/-- Mix a column. -/
def mixColumn (column : List UInt8) : List UInt8 :=
  (List.range 4).map fun i =>
    let c := fun j => column.getD ((i + j) % 4) 0
    double (c 0) ^^^ double (c 1) ^^^ c 1 ^^^ c 2 ^^^ c 3

/-- One round but the last. -/
def aesRound (block roundKey : List UInt8) : List UInt8 :=
  xor ((Variant.chunks 4 (shiftRows (block.map subByte))).flatMap mixColumn) roundKey

/-- The cipher, on one block. -/
def aes (key block : List UInt8) : List UInt8 :=
  match roundKeys key with
  | [] => block
  | first :: rest =>
    let middle := rest.dropLast.foldl aesRound (xor block first)
    xor (shiftRows (middle.map subByte)) (rest.getLastD [])

/-! ## Galois/counter mode -/

/-- The counter block of a nonce. -/
def counterBlock (nonce : List UInt8) (counter : ℕ) : List UInt8 :=
  nonce ++ Variant.bytes counter 4

/-- As many bytes of the key stream as are needed. The stream starts with the counter 2. -/
def keyStream (key nonce : List UInt8) (length : ℕ) : List UInt8 :=
  (List.range length).map fun i => (aes key (counterBlock nonce (i / 16 + 2))).getD (i % 16) 0

/-- Multiply in the field with `2^128` elements, whose elements are written with the least power
first. -/
def ghashMul (a b : ℕ) : ℕ :=
  (List.range 128).foldl
    (fun (sum, power) i => (if a.testBit (127 - i) then sum ^^^ power else sum,
      if power % 2 = 0 then power / 2 else power / 2 ^^^ 0xe1 * 2^120))
    ((0, b) : ℕ × ℕ) |>.1

/-- The hash of a ciphertext, with its padding and its length. -/
def ghash (h : ℕ) (ciphertext : List UInt8) : ℕ :=
  let padded := ciphertext ++ List.replicate ((16 - ciphertext.length % 16) % 16) 0 ++
    Variant.bytes (8 * ciphertext.length) 16
  (Variant.chunks 16 padded).foldl (fun sum block => ghashMul (sum ^^^ Variant.number block) h) 0

/-- The tag of a ciphertext. -/
def gcmTag (key nonce ciphertext : List UInt8) : List UInt8 :=
  let h := Variant.number (aes key (List.replicate 16 0))
  let mask := Variant.number (aes key (counterBlock nonce 1))
  Variant.bytes (ghash h ciphertext ^^^ mask) 16

/-- The length of a tag. -/
abbrev tagLength : ℕ := 16

/-- Encrypt, and append the tag. -/
def gcmEncrypt (key nonce plaintext : List UInt8) : List UInt8 :=
  let ciphertext := xor plaintext (keyStream key nonce plaintext.length)
  ciphertext ++ gcmTag key nonce ciphertext

/-- Decrypt, if the tag is right. -/
def gcmDecrypt (key nonce sealed : List UInt8) : Option (List UInt8) :=
  let ciphertext := sealed.take (sealed.length - tagLength)
  let tag := sealed.drop (sealed.length - tagLength)
  if tagLength ≤ sealed.length ∧ tag = gcmTag key nonce ciphertext then
    some (xor ciphertext (keyStream key nonce ciphertext.length))
  else none

/-! ## Decryption undoes encryption -/

variable {key nonce : List UInt8}

/-- The key stream has the length that is asked for. -/
theorem length_keyStream (length : ℕ) : (keyStream key nonce length).length = length := by
  unfold keyStream
  rw [List.length_map, List.length_range]

/-- A tag is 16 bytes long. -/
theorem length_gcmTag (ciphertext : List UInt8) :
    (gcmTag key nonce ciphertext).length = tagLength :=
  Variant.length_bytes _ _

/-- Adding the same bytes twice changes nothing. -/
theorem xor_xor {as bs : List UInt8} (h : as.length = bs.length) : xor (xor as bs) bs = as := by
  induction as generalizing bs with
  | nil => rfl
  | cons a as ih =>
    cases bs with
    | nil => cases h
    | cons b bs =>
      have htail : xor (xor as bs) bs = as := ih (Nat.succ.inj h)
      show (a ^^^ b ^^^ b) :: xor (xor as bs) bs = a :: as
      rw [htail, UInt8.xor_assoc, UInt8.xor_self, UInt8.xor_zero]

/-- A ciphertext is longer than its plaintext by the tag. -/
theorem length_gcmEncrypt (plaintext : List UInt8) :
    (gcmEncrypt key nonce plaintext).length = plaintext.length + tagLength := by
  unfold gcmEncrypt xor
  rw [List.length_append, length_gcmTag, List.length_zipWith, length_keyStream, Nat.min_self]

/-- Decryption undoes encryption. -/
theorem gcmDecrypt_gcmEncrypt (plaintext : List UInt8) :
    gcmDecrypt key nonce (gcmEncrypt key nonce plaintext) = some plaintext := by
  have hstream : plaintext.length = (keyStream key nonce plaintext.length).length :=
    (length_keyStream _).symm
  have hlength : (xor plaintext (keyStream key nonce plaintext.length)).length =
      plaintext.length := by
    unfold xor
    rw [List.length_zipWith, ← hstream, Nat.min_self]
  have hsealed : (gcmEncrypt key nonce plaintext).length =
      (xor plaintext (keyStream key nonce plaintext.length)).length + tagLength := by
    unfold gcmEncrypt
    rw [List.length_append, length_gcmTag]
  unfold gcmDecrypt
  dsimp only
  rw [hsealed, Nat.add_sub_cancel]
  unfold gcmEncrypt
  dsimp only
  rw [List.take_left' rfl, List.drop_left' rfl, if_pos ⟨Nat.le_add_left _ _, rfl⟩, hlength,
    xor_xor hstream]

end Crypto
