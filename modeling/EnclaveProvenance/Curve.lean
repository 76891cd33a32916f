import EnclaveProvenance.Bytes

/-!
Short Weierstrass curves y² = x³ + ax + b over prime fields, with the group operations in Jacobian
coordinates and the octet forms of points.
-/

namespace EnclaveProvenance

/-- A curve over the integers modulo `prime` with a base point of prime `order`. The prime leaves
remainder three when divided by four, so square roots are powers. -/
structure Curve where
  width : Nat
  prime : Nat
  a : Nat
  b : Nat
  order : Nat
  baseX : Nat
  baseY : Nat
deriving DecidableEq, Repr

structure AffinePoint where
  x : Nat
  y : Nat
deriving DecidableEq, Repr

/-- Stands for the point (x / z², y / z³), or for the point at infinity where `z` is zero. -/
structure JacobianPoint where
  x : Nat
  y : Nat
  z : Nat
deriving DecidableEq, Repr

def powMod (modulus base exponent : Nat) : Nat → Nat
  | 0 => 1 % modulus
  | bits + 1 =>
    let half := powMod modulus base (exponent / 2) bits
    let square := half * half % modulus
    if exponent % 2 = 1 then square * base % modulus else square

def inverseMod (prime value : Nat) : Nat := powMod prime value (prime - 2) (prime.log2 + 1)

namespace Curve

def sub (curve : Curve) (left right : Nat) : Nat := (left + (curve.prime - right)) % curve.prime

def infinity : JacobianPoint := ⟨1, 1, 0⟩

def toJacobian (point : AffinePoint) : JacobianPoint := ⟨point.x, point.y, 1⟩

def base (curve : Curve) : AffinePoint := ⟨curve.baseX, curve.baseY⟩

def double (curve : Curve) (point : JacobianPoint) : JacobianPoint :=
  if point.z = 0 ∨ point.y = 0 then infinity
  else
    let p := curve.prime
    let ySquared := point.y * point.y % p
    let s := 4 * point.x * ySquared % p
    let zSquared := point.z * point.z % p
    let m := (3 * point.x * point.x + curve.a * (zSquared * zSquared % p)) % p
    let x := curve.sub (m * m % p) (2 * s % p)
    let y := curve.sub (m * curve.sub s x % p) (8 * ySquared * ySquared % p)
    ⟨x, y, 2 * point.y * point.z % p⟩

def add (curve : Curve) (left right : JacobianPoint) : JacobianPoint :=
  if left.z = 0 then right
  else if right.z = 0 then left
  else
    let p := curve.prime
    let leftZ := left.z * left.z % p
    let rightZ := right.z * right.z % p
    let u1 := left.x * rightZ % p
    let u2 := right.x * leftZ % p
    let s1 := left.y * (rightZ * right.z % p) % p
    let s2 := right.y * (leftZ * left.z % p) % p
    if u1 = u2 then if s1 = s2 then curve.double left else infinity
    else
      let h := curve.sub u2 u1
      let r := curve.sub s2 s1
      let hSquared := h * h % p
      let hCubed := hSquared * h % p
      let v := u1 * hSquared % p
      let x := curve.sub (curve.sub (r * r % p) hCubed) (2 * v % p)
      let y := curve.sub (r * curve.sub v x % p) (s1 * hCubed % p)
      ⟨x, y, left.z * right.z % p * h % p⟩

/-- The sum of `first` times one point and `second` times another, over the binary digits below
`bits`; `both` is the sum of the two points. -/
def combine (curve : Curve) (first second : Nat) (one other both : JacobianPoint) :
    Nat → JacobianPoint → JacobianPoint
  | 0, sum => sum
  | bits + 1, sum =>
    let doubled := curve.double sum
    let next := match first.testBit bits, second.testBit bits with
      | true, true => curve.add doubled both
      | true, false => curve.add doubled one
      | false, true => curve.add doubled other
      | false, false => doubled
    combine curve first second one other both bits next

def combineBase (curve : Curve) (first second : Nat) (point : AffinePoint) : JacobianPoint :=
  let one := toJacobian curve.base
  let other := toJacobian point
  curve.combine first second one other (curve.add one other) (8 * curve.width) infinity

def xCoordinate? (curve : Curve) (point : JacobianPoint) : Option Nat :=
  if point.z = 0 then none
  else
    let inverse := inverseMod curve.prime point.z
    some (point.x * (inverse * inverse % curve.prime) % curve.prime)

def rightSide (curve : Curve) (x : Nat) : Nat :=
  (x * x % curve.prime * x + curve.a * x + curve.b) % curve.prime

def contains (curve : Curve) (point : AffinePoint) : Bool :=
  point.x < curve.prime && point.y < curve.prime &&
    point.y * point.y % curve.prime == curve.rightSide point.x

def root? (curve : Curve) (x : Nat) : Option Nat :=
  if x < curve.prime then
    let square := curve.rightSide x
    let root := powMod curve.prime square ((curve.prime + 1) / 4) (curve.prime.log2 + 1)
    if root * root % curve.prime = square then some root else none
  else none

def negative (curve : Curve) (value : Nat) : Nat := (curve.prime - value) % curve.prime

def decompress? (curve : Curve) (x : Nat) (odd : Bool) : Option AffinePoint :=
  (curve.root? x).map fun root =>
    ⟨x, if (root % 2 == 1) == odd then root else curve.negative root⟩

def decompact? (curve : Curve) (x : Nat) : Option AffinePoint :=
  (curve.root? x).map fun root => ⟨x, min root (curve.negative root)⟩

/-- Reads a point from octets: both coordinates after 4; the first alone after 2 or 3, which give
the parity of the second; the first alone after 5, where the second is the lesser one. -/
def point? (curve : Curve) (octets : Bytes) : Option AffinePoint :=
  match octets with
  | [] => none
  | form :: coordinates =>
    if form = 4 then
      if coordinates.length = 2 * curve.width then
        let point : AffinePoint :=
          ⟨Bytes.toNat (coordinates.take curve.width), Bytes.toNat (coordinates.drop curve.width)⟩
        if curve.contains point then some point else none
      else none
    else if coordinates.length = curve.width then
      if form = 2 ∨ form = 3 then curve.decompress? (Bytes.toNat coordinates) (form == 3)
      else if form = 5 then curve.decompact? (Bytes.toNat coordinates)
      else none
    else none

end Curve

def p256 : Curve where
  width := 32
  prime := 0xffffffff00000001000000000000000000000000ffffffffffffffffffffffff
  a := 0xffffffff00000001000000000000000000000000fffffffffffffffffffffffc
  b := 0x5ac635d8aa3a93e7b3ebbd55769886bc651d06b0cc53b0f63bce3c3e27d2604b
  order := 0xffffffff00000000ffffffffffffffffbce6faada7179e84f3b9cac2fc632551
  baseX := 0x6b17d1f2e12c4247f8bce6e563a440f277037d812deb33a0f4a13945d898c296
  baseY := 0x4fe342e2fe1a7f9b8ee7eb4a7c0f9e162bce33576b315ececbb6406837bf51f5

def p384 : Curve where
  width := 48
  prime := 0xfffffffffffffffffffffffffffffffffffffffffffffffffffffffffffffffeffffffff0000000000000000ffffffff
  a := 0xfffffffffffffffffffffffffffffffffffffffffffffffffffffffffffffffeffffffff0000000000000000fffffffc
  b := 0xb3312fa7e23ee7e4988e056be3f82d19181d9c6efe8141120314088f5013875ac656398d8a2ed19d2a85c8edd3ec2aef
  order := 0xffffffffffffffffffffffffffffffffffffffffffffffffc7634d81f4372ddf581a0db248b0a77aecec196accc52973
  baseX := 0xaa87ca22be8b05378eb1c71ef320ad746e1d3b628ba79b9859f741e082542a385502f25dbf55296c3a545e3872760ab7
  baseY := 0x3617de4a96262c6f5d9e98bf9292dc29f8f41dbd289a147ce9da3113b5f0b8c00a60b1ce1d7e819d7a431d7c90ea0e5f

end EnclaveProvenance
