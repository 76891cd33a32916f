import EnclaveProvenance.Curve
import EnclaveProvenance.Sha2
import EnclaveProvenance.Der.Primitive

/-!
The Elliptic Curve Digital Signature Algorithm over P-256 and P-384, with signatures in DER or in
two fixed-width halves.
-/

namespace EnclaveProvenance

inductive HashAlgorithm
  | sha256
  | sha384
deriving DecidableEq, Repr

def HashAlgorithm.digest : HashAlgorithm → Bytes → Bytes
  | .sha256 => EnclaveProvenance.sha256
  | .sha384 => EnclaveProvenance.sha384

inductive SignatureEncoding
  | der
  | fixed
deriving DecidableEq, Repr

structure Signature where
  r : Nat
  s : Nat
deriving DecidableEq, Repr

namespace Signature

def ofDer? (width : Nat) (bytes : Bytes) : Option Signature := do
  let inner ← (← Der.onlyElement? bytes).inside? Der.sequenceTag
  match inner with
  | [first, second] => do
    let r ← first.natural?
    let s ← second.natural?
    if r < Nat.pow 256 width ∧ s < Nat.pow 256 width then some ⟨r, s⟩ else none
  | _ => none

def ofFixed? (width : Nat) (bytes : Bytes) : Option Signature :=
  if bytes.length = 2 * width then
    some ⟨Bytes.toNat (bytes.take width), Bytes.toNat (bytes.drop width)⟩
  else none

def inRange (signature : Signature) (order : Nat) : Bool :=
  0 < signature.r && signature.r < order && 0 < signature.s && signature.s < order

def read? (curve : Curve) (encoding : SignatureEncoding) (bytes : Bytes) : Option Signature :=
  (match encoding with
    | .der => ofDer? curve.width bytes
    | .fixed => ofFixed? curve.width bytes).filter (·.inRange curve.order)

end Signature

inductive CurveName
  | p256
  | p384
deriving DecidableEq, Repr

def CurveName.curve : CurveName → Curve
  | .p256 => EnclaveProvenance.p256
  | .p384 => EnclaveProvenance.p384

def CurveName.text : CurveName → String
  | .p256 => "P-256"
  | .p384 => "P-384"

structure PublicKey where
  curveName : CurveName
  point : AffinePoint
deriving DecidableEq, Repr

namespace PublicKey

def defaultHash (key : PublicKey) : HashAlgorithm :=
  match key.curveName with
  | .p256 => .sha256
  | .p384 => .sha384

/-- A digest as a number, cut to the leading octets that the curve's width holds. -/
def digestNumber (curve : Curve) (digest : Bytes) : Nat := Bytes.toNat (digest.take curve.width)

def verifyDigest (key : PublicKey) (digest : Bytes) (signature : Signature) : Bool :=
  let curve := key.curveName.curve
  let inverse := inverseMod curve.order signature.s
  let first := digestNumber curve digest * inverse % curve.order
  let second := signature.r * inverse % curve.order
  match curve.xCoordinate? (curve.combineBase first second key.point) with
  | some x => x % curve.order == signature.r
  | none => false

def verify (key : PublicKey) (hash : HashAlgorithm) (message signature : Bytes)
    (encoding : SignatureEncoding) : Bool :=
  match Signature.read? key.curveName.curve encoding signature with
  | some numbers => key.verifyDigest (hash.digest message) numbers
  | none => false

end PublicKey

end EnclaveProvenance
