import EnclaveProvenance.Certificate.Error

/-!
Public keys as certificates carry them: an algorithm with its parameters, and a bit string.
-/

namespace EnclaveProvenance

structure AlgorithmIdentifier where
  oid : Der.ObjectIdentifier
  parameters : Option Der.Element
deriving DecidableEq, Repr

namespace AlgorithmIdentifier

def ofElement? (element : Der.Element) : Option AlgorithmIdentifier := do
  match ← element.inside? Der.sequenceTag with
  | [oid] => return ⟨← Der.ObjectIdentifier.ofElement? oid, none⟩
  | [oid, parameters] => return ⟨← Der.ObjectIdentifier.ofElement? oid, some parameters⟩
  | _ => none

def element (algorithm : AlgorithmIdentifier) : Der.Element :=
  ⟨Der.sequenceTag, Der.encodeAll (algorithm.oid.element :: algorithm.parameters.toList)⟩

end AlgorithmIdentifier

structure KeyInfo where
  algorithm : AlgorithmIdentifier
  key : Der.BitString
deriving DecidableEq, Repr

namespace KeyInfo

def ofElement? (element : Der.Element) : Option KeyInfo := do
  match ← element.inside? Der.sequenceTag with
  | [algorithm, key] =>
    return ⟨← AlgorithmIdentifier.ofElement? algorithm, ← Der.BitString.ofElement? key⟩
  | _ => none

def ofDer? (bytes : Bytes) : Option KeyInfo := (Der.onlyElement? bytes).bind ofElement?

def element (info : KeyInfo) : Der.Element :=
  ⟨Der.sequenceTag, Der.encodeAll [info.algorithm.element, info.key.element]⟩

def encode (info : KeyInfo) : Bytes := info.element.encode

def ellipticKey : Der.ObjectIdentifier := .ofArcs [1, 2, 840, 10045, 2, 1]

def curves : List (Der.ObjectIdentifier × CurveName) := [
  (.ofArcs [1, 2, 840, 10045, 3, 1, 7], .p256),
  (.ofArcs [1, 3, 132, 0, 34], .p384)]

/-- The verifying key: a valid point of one of the two curves. -/
def publicKey (info : KeyInfo) : Except KeyDefect PublicKey := do
  if info.algorithm.oid ≠ ellipticKey then throw (.notElliptic info.algorithm.oid)
  let some parameters := info.algorithm.parameters | throw .missingCurve
  let some curve := Der.ObjectIdentifier.ofElement? parameters | throw .invalidCurve
  let some octets := info.key.octets? | throw .unaligned
  let some name := curves.lookup curve | throw (.unknownCurve curve)
  let some point := name.curve.point? octets | throw (.invalidPoint name)
  return ⟨name, point⟩

end KeyInfo

end EnclaveProvenance
