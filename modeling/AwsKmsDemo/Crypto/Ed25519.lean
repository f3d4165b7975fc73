import AwsKmsDemo.Crypto.Sha2

/-!
# Ed25519 public keys

The public key of a seed: the seed is hashed, a scalar is taken from the hash, and the base point of
the twisted Edwards curve is multiplied by it.
-/

namespace Crypto

/-- The order of the field. -/
def fieldOrder : ℕ := 2^255 - 19

/-- `b^e` in the field, by the bits of the exponent. -/
def fieldPow (b e : ℕ) : ℕ :=
  (List.range 256).foldr
    (fun i r => if e.testBit i then r * r % fieldOrder * b % fieldOrder else r * r % fieldOrder) 1

/-- The inverse in the field. -/
def fieldInverse (b : ℕ) : ℕ := fieldPow b (fieldOrder - 2)

/-- The constant `d` of the curve. -/
def curveConstant : ℕ := (fieldOrder - 121665) * fieldInverse 121666 % fieldOrder

/-- A point as `x/z`, `y/z`, with `x * y = z * t`. -/
structure Point where
  x : ℕ
  y : ℕ
  z : ℕ
  t : ℕ

/-- The neutral point. -/
def Point.zero : Point := ⟨0, 1, 1, 0⟩

/-- The sum of two points. -/
def Point.add (p q : Point) : Point :=
  let a := (p.y + fieldOrder - p.x) * (q.y + fieldOrder - q.x) % fieldOrder
  let b := (p.y + p.x) * (q.y + q.x) % fieldOrder
  let c := 2 * p.t * q.t % fieldOrder * curveConstant % fieldOrder
  let d := 2 * p.z * q.z % fieldOrder
  let e := b + fieldOrder - a
  let f := d + fieldOrder - c
  let g := d + c
  let h := b + a
  ⟨e * f % fieldOrder, g * h % fieldOrder, f * g % fieldOrder, e * h % fieldOrder⟩

/-- A multiple of a point, by the bits of the factor. -/
def Point.mul (n : ℕ) (p : Point) : Point :=
  (List.range 256).foldr
    (fun i r => if n.testBit i then (r.add r).add p else r.add r) .zero

/-- The base point. -/
def basePoint : Point :=
  let x := 15112221349535400772501151409588531511454012693041857206046113283949847762202
  let y := 4 * fieldInverse 5 % fieldOrder
  ⟨x, y, 1, x * y % fieldOrder⟩

/-- A number in 32 little-endian bytes. -/
def littleEndian (n : ℕ) : Vector UInt8 32 := Vector.ofFn fun i => UInt8.ofNat (n / 256^i.val)

/-- The encoding of a point: its `y`, and the parity of its `x`. -/
def Point.encode (p : Point) : Vector UInt8 32 :=
  let inverse := fieldInverse p.z
  let x := p.x * inverse % fieldOrder
  let y := p.y * inverse % fieldOrder
  littleEndian (y + x % 2 * 2^255)

/-- The scalar of a seed. -/
def secretScalar (seed : Vector UInt8 32) : ℕ :=
  let n := Variant.number ((sha512 seed.toList).toList.take 32).reverse
  n % 2^254 / 8 * 8 + 2^254

/-- The public key of a seed. -/
def ed25519PublicKey (seed : Vector UInt8 32) : Vector UInt8 32 :=
  (basePoint.mul (secretScalar seed)).encode

end Crypto
