/-
# Elliptic curves

Two curves are known.  Each is the set of the points `(x, y)` over a prime field
with `y² = x³ - 3x + b`.  Both primes leave 3 modulo 4, so the square root of
`a`, if it has one, is a power of `a`.

A point is written in one of these forms, in which coordinates have the width of
the field:

| first byte | further bytes | the point |
| --- | --- | --- |
| `02`, `03` | x | the one whose y is even, or odd |
| `04` | x and y | the one with both, which has to lie on the curve |
| `05` | x | the one whose y is the lesser |
-/

import SecurityTokens.Bytes

namespace SecurityTokens

/-- A curve. -/
inductive Curve where
  | p256
  | p384
deriving DecidableEq, Repr

namespace Curve

/-- The name of the curve. -/
def name : Curve → String
  | p256 => "P-256"
  | p384 => "P-384"

/-- The prime of the field. -/
def prime : Curve → Nat
  | p256 => 0xffffffff00000001000000000000000000000000ffffffffffffffffffffffff
  | p384 =>
    0xfffffffffffffffffffffffffffffffffffffffffffffffffffffffffffffffeffffffff0000000000000000ffffffff

/-- The constant term of the equation. -/
def constant : Curve → Nat
  | p256 => 0x5ac635d8aa3a93e7b3ebbd55769886bc651d06b0cc53b0f63bce3c3e27d2604b
  | p384 =>
    0xb3312fa7e23ee7e4988e056be3f82d19181d9c6efe8141120314088f5013875ac656398d8a2ed19d2a85c8edd3ec2aef

/-- The number of bytes of a coordinate. -/
def width : Curve → Nat
  | p256 => 32
  | p384 => 48

/-- The content of the object identifier. -/
def objectId : Curve → Bytes
  | p256 => [0x2A, 0x86, 0x48, 0xCE, 0x3D, 0x03, 0x01, 0x07]
  | p384 => [0x2B, 0x81, 0x04, 0x00, 0x22]

/-- The object identifier as a URI. -/
def uri : Curve → String
  | p256 => "urn:oid:1.2.840.10045.3.1.7"
  | p384 => "urn:oid:1.3.132.0.34"

/-- The curve a URI names. -/
def ofUri? (uri : String) : Option Curve := [p256, p384].find? (·.uri == uri)

/-- The right side of the curve's equation. -/
def rightSide (c : Curve) (x : Nat) : Nat :=
  (x * x * x + 3 * (c.prime - x % c.prime) + c.constant) % c.prime

/-- Whether two numbers are the coordinates of a point of the curve. -/
def contains (c : Curve) (x y : Nat) : Bool :=
  x < c.prime && y < c.prime && y * y % c.prime == c.rightSide x

end Curve

/-- A power modulo a number, by repeated squaring. -/
def powMod (base exponent modulus : Nat) : Nat :=
  if exponent = 0 then 1 % modulus
  else
    let root := powMod (base * base % modulus) (exponent / 2) modulus
    if exponent % 2 = 0 then root else base * root % modulus
termination_by exponent
decreasing_by omega

/-- Repeated squaring gives the power. -/
theorem powMod_eq (base exponent modulus : Nat) :
    powMod base exponent modulus = Nat.pow base exponent % modulus := by
  show _ = base ^ exponent % modulus
  induction exponent using Nat.strongRecOn generalizing base with
  | ind exponent ih =>
    unfold powMod
    split
    · simp_all
    · rename_i h
      simp only
      rw [ih (exponent / 2) (by omega), ← Nat.pow_mod, ← Nat.pow_two, ← Nat.pow_mul]
      split
      · congr 2; omega
      · rw [Nat.mul_mod, Nat.mod_mod, ← Nat.mul_mod, Nat.mul_comm, ← Nat.pow_succ]
        congr 2; omega

/-- A point of a curve. -/
structure CurvePoint where
  curve : Curve
  x : Nat
  y : Nat
  mem : curve.contains x y = true
deriving DecidableEq

namespace CurvePoint

/-- The point with two coordinates, if it lies on the curve. -/
def ofCoordinates? (c : Curve) (x y : Nat) : Option CurvePoint :=
  if h : c.contains x y = true then some ⟨c, x, y, h⟩ else none

/-- One of the two points with the coordinate `x`, if there are any. -/
def withX? (c : Curve) (x : Nat) : Option CurvePoint :=
  ofCoordinates? c x (powMod (c.rightSide x) ((c.prime + 1) / 4) c.prime)

/-- The y of the other point with the same x. -/
def oppositeY (p : CurvePoint) : Nat := p.curve.prime - p.y

/-- The point with the coordinate `x` whose y is odd, or even. -/
def withParity? (c : Curve) (x : Nat) (odd : Bool) : Option CurvePoint :=
  (withX? c x).bind fun p =>
    if (p.y % 2 == 1) == odd then some p else ofCoordinates? c x p.oppositeY

/-- The point with the coordinate `x` whose y is the lesser. -/
def withLesserY? (c : Curve) (x : Nat) : Option CurvePoint :=
  (withX? c x).bind fun p => if p.y ≤ p.oppositeY then some p else ofCoordinates? c x p.oppositeY

/-- The point that bytes stand for. -/
def ofBytes? (c : Curve) : Bytes → Option CurvePoint
  | [] => none
  | form :: rest =>
    if form = 0x04 then
      if rest.length = 2 * c.width then
        ofCoordinates? c (Bytes.toNat (rest.take c.width)) (Bytes.toNat (rest.drop c.width))
      else none
    else if rest.length ≠ c.width then none
    else if form = 0x02 then withParity? c (Bytes.toNat rest) false
    else if form = 0x03 then withParity? c (Bytes.toNat rest) true
    else if form = 0x05 then withLesserY? c (Bytes.toNat rest)
    else none

/-- The form of a point that has both coordinates. -/
def toBytes (p : CurvePoint) : Bytes :=
  0x04 :: Bytes.ofNatWidth p.curve.width p.x ++ Bytes.ofNatWidth p.curve.width p.y

/-- A point lies on the curve it is asked for. -/
theorem curve_of_ofCoordinates? {c : Curve} {x y : Nat} {p : CurvePoint}
    (h : ofCoordinates? c x y = some p) : p.curve = c ∧ p.x = x ∧ p.y = y := by
  unfold ofCoordinates? at h
  split at h
  · simp at h; subst h; simp
  · simp at h

end CurvePoint
end SecurityTokens
