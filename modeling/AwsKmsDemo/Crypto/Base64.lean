import Mathlib.Data.Nat.Notation

/-!
# Base64

The standard alphabet, with padding. Three bytes are four digits of six bits each, and a last group
of one or two bytes is filled up with `=`. Decoding accepts only what encoding writes.
-/

namespace Crypto

/-- The digit with a value below 64. -/
def base64Digit (n : ℕ) : Char :=
  if n < 26 then Char.ofNat ('A'.toNat + n)
  else if n < 52 then Char.ofNat ('a'.toNat + (n - 26))
  else if n < 62 then Char.ofNat ('0'.toNat + (n - 52))
  else if n = 62 then '+' else '/'

/-- The value of a digit. -/
def base64Value (c : Char) : Option ℕ :=
  if 'A' ≤ c ∧ c ≤ 'Z' then some (c.toNat - 'A'.toNat)
  else if 'a' ≤ c ∧ c ≤ 'z' then some (c.toNat - 'a'.toNat + 26)
  else if '0' ≤ c ∧ c ≤ '9' then some (c.toNat - '0'.toNat + 52)
  else if c = '+' then some 62
  else if c = '/' then some 63 else none

/-- The value of a digit is what it was made from. -/
theorem base64Value_digit {n : ℕ} (h : n < 64) : base64Value (base64Digit n) = some n := by
  have hall : ∀ i : Fin 64, base64Value (base64Digit i) = some i.val := by decide +kernel
  exact hall ⟨n, h⟩

/-- No digit is the padding. -/
theorem base64Digit_ne {n : ℕ} (h : n < 64) : base64Digit n ≠ '=' := by
  have hall : ∀ i : Fin 64, base64Digit i ≠ '=' := by decide +kernel
  exact hall ⟨n, h⟩

/-- The digits of bytes. -/
def base64Encode : List UInt8 → List Char
  | [] => []
  | [a] => [base64Digit (a.toNat / 4), base64Digit (a.toNat % 4 * 16), '=', '=']
  | [a, b] => [base64Digit (a.toNat / 4), base64Digit (a.toNat % 4 * 16 + b.toNat / 16),
      base64Digit (b.toNat % 16 * 4), '=']
  | a :: b :: c :: rest => base64Digit (a.toNat / 4) ::
      base64Digit (a.toNat % 4 * 16 + b.toNat / 16) ::
      base64Digit (b.toNat % 16 * 4 + c.toNat / 64) :: base64Digit (c.toNat % 64) ::
      base64Encode rest

/-- The digits are at most about twice as many as the bytes. -/
theorem length_base64Encode_le (bytes : List UInt8) :
    (base64Encode bytes).length ≤ 2 * bytes.length + 2 := by
  fun_induction base64Encode bytes with
  | case1 => exact Nat.zero_le _
  | case2 a => exact Nat.le_refl _
  | case3 a b =>
    simp only [List.length_cons, List.length_nil]
    omega
  | case4 a b c rest ih =>
    simp only [List.length_cons]
    omega

/-- The bytes of four digits, of which the last two may be missing. -/
def base64Group (d e f g : Char) : Option (List UInt8) := do
  let x ← base64Value d
  let y ← base64Value e
  let a := UInt8.ofNat (x * 4 + y / 16)
  if f = '=' then
    if g = '=' ∧ y % 16 = 0 then return [a] else none
  else
    let z ← base64Value f
    let b := UInt8.ofNat (y % 16 * 16 + z / 4)
    if g = '=' then
      if z % 4 = 0 then return [a, b] else none
    else
      let w ← base64Value g
      return [a, b, UInt8.ofNat (z % 4 * 64 + w)]

/-- The bytes of digits. -/
def base64Decode : List Char → Option (List UInt8)
  | [] => some []
  | d :: e :: f :: g :: rest => do
    let bytes ← base64Group d e f g
    -- Only the last group is filled up.
    if bytes.length < 3 ∧ rest ≠ [] then none
    else return bytes ++ (← base64Decode rest)
  | _ => none

/-- A byte is made from its number. -/
theorem ofNat_toNat_of_eq {a : UInt8} {n : ℕ} (h : n = a.toNat) : UInt8.ofNat n = a := by
  rw [h, UInt8.ofNat_toNat]

/-- Four digits decode to the three bytes that they encode. -/
theorem base64Group_full (a b c : UInt8) :
    base64Group (base64Digit (a.toNat / 4)) (base64Digit (a.toNat % 4 * 16 + b.toNat / 16))
      (base64Digit (b.toNat % 16 * 4 + c.toNat / 64)) (base64Digit (c.toNat % 64)) =
        some [a, b, c] := by
  have ha := a.toNat_lt
  have hb := b.toNat_lt
  have hc := c.toNat_lt
  have hz : b.toNat % 16 * 4 + c.toNat / 64 < 64 := by omega
  have hw : c.toNat % 64 < 64 := by omega
  unfold base64Group
  rw [base64Value_digit (by omega), base64Value_digit (by omega), base64Value_digit hz,
    base64Value_digit hw]
  simp only [Option.bind_eq_bind, Option.bind_some, if_neg (base64Digit_ne hz),
    if_neg (base64Digit_ne hw)]
  rw [ofNat_toNat_of_eq (a := a) (by omega), ofNat_toNat_of_eq (a := b) (by omega),
    ofNat_toNat_of_eq (a := c) (by omega)]
  rfl

/-- A group that encodes two bytes decodes to them. -/
theorem base64Group_two (a b : UInt8) :
    base64Group (base64Digit (a.toNat / 4)) (base64Digit (a.toNat % 4 * 16 + b.toNat / 16))
      (base64Digit (b.toNat % 16 * 4)) '=' = some [a, b] := by
  have ha := a.toNat_lt
  have hb := b.toNat_lt
  have hz : b.toNat % 16 * 4 < 64 := by omega
  unfold base64Group
  rw [base64Value_digit (by omega), base64Value_digit (by omega), base64Value_digit hz]
  simp only [Option.bind_eq_bind, Option.bind_some, if_neg (base64Digit_ne hz), if_true]
  rw [ofNat_toNat_of_eq (a := a) (by omega), ofNat_toNat_of_eq (a := b) (by omega),
    if_pos (by omega)]
  rfl

/-- A group that encodes one byte decodes to it. -/
theorem base64Group_one (a : UInt8) :
    base64Group (base64Digit (a.toNat / 4)) (base64Digit (a.toNat % 4 * 16)) '=' '=' =
      some [a] := by
  have ha := a.toNat_lt
  unfold base64Group
  rw [base64Value_digit (by omega), base64Value_digit (by omega)]
  simp only [Option.bind_eq_bind, Option.bind_some, if_true]
  rw [ofNat_toNat_of_eq (a := a) (by omega), if_pos ⟨trivial, by omega⟩]
  rfl

/-- Decoding undoes encoding. -/
theorem base64Decode_base64Encode (bytes : List UInt8) :
    base64Decode (base64Encode bytes) = some bytes := by
  induction bytes using base64Encode.induct with
  | case1 => rfl
  | case2 a =>
    rw [base64Encode, base64Decode, base64Group_one]
    rfl
  | case3 a b =>
    rw [base64Encode, base64Decode, base64Group_two]
    rfl
  | case4 a b c rest ih =>
    rw [base64Encode, base64Decode, base64Group_full, ih]
    rfl

end Crypto
