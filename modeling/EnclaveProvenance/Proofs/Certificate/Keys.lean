import EnclaveProvenance.Proofs.Certificate.Parts
import EnclaveProvenance.Proofs.Checks
import Mathlib.Tactic.Ring

/-!
The keys that can verify signatures: points of one of the two curves, in the one DER form that a key
with its algorithm has.
-/

namespace EnclaveProvenance

namespace Curve

theorem powMod_lt {modulus : Nat} (large : 1 < modulus) (base exponent bits : Nat) :
    powMod modulus base exponent bits < modulus := by
  cases bits with
  | zero =>
    rw [powMod, Nat.mod_eq_of_lt large]
    exact large
  | succ bits =>
    simp only [powMod]
    split
    · exact Nat.mod_lt _ (by omega)
    · exact Nat.mod_lt _ (by omega)

theorem contains_iff {curve : Curve} {point : AffinePoint} : curve.contains point = true ↔
    point.x < curve.prime ∧ point.y < curve.prime ∧
      point.y * point.y % curve.prime = curve.rightSide point.x := by
  simp [contains, and_assoc]

theorem contains_root {curve : Curve} (large : 1 < curve.prime) {x root : Nat}
    (found : curve.root? x = some root) : curve.contains ⟨x, root⟩ = true := by
  unfold root? at found
  split at found
  · next inField =>
    simp only [Option.ite_none_right_eq_some, Option.some.injEq] at found
    obtain ⟨square, rfl⟩ := found
    exact contains_iff.2 ⟨inField, powMod_lt large _ _ _, square⟩
  · cases found

theorem contains_negative {curve : Curve} {point : AffinePoint}
    (onCurve : curve.contains point = true) :
    curve.contains ⟨point.x, curve.negative point.y⟩ = true := by
  obtain ⟨xLt, yLt, square⟩ := contains_iff.1 onCurve
  refine contains_iff.2 ⟨xLt, Nat.mod_lt _ (by omega), ?_⟩
  obtain ⟨rest, whole⟩ := Nat.exists_eq_add_of_le (Nat.le_of_lt yLt)
  have moved : rest * rest + point.y * curve.prime = point.y * point.y + rest * curve.prime := by
    rw [whole]
    ring
  calc curve.negative point.y * curve.negative point.y % curve.prime
      = rest * rest % curve.prime := by
        rw [negative, ← Nat.mul_mod, whole, Nat.add_sub_cancel_left]
    _ = (rest * rest + point.y * curve.prime) % curve.prime := by rw [Nat.add_mul_mod_self_right]
    _ = point.y * point.y % curve.prime := by rw [moved, Nat.add_mul_mod_self_right]
    _ = curve.rightSide point.x := square

theorem contains_decompress {curve : Curve} (large : 1 < curve.prime) {x : Nat} {odd : Bool}
    {point : AffinePoint} (found : curve.decompress? x odd = some point) :
    curve.contains point = true := by
  obtain ⟨root, rooted, rfl⟩ := Option.map_eq_some_iff.1 found
  have onCurve := contains_root large rooted
  split
  · exact onCurve
  · exact contains_negative onCurve

theorem contains_decompact {curve : Curve} (large : 1 < curve.prime) {x : Nat}
    {point : AffinePoint} (found : curve.decompact? x = some point) :
    curve.contains point = true := by
  obtain ⟨root, rooted, rfl⟩ := Option.map_eq_some_iff.1 found
  have onCurve := contains_root large rooted
  rcases Nat.le_total root (curve.negative root) with less | greater
  · rw [Nat.min_eq_left less]
    exact onCurve
  · rw [Nat.min_eq_right greater]
    exact contains_negative onCurve

theorem contains_point {curve : Curve} (large : 1 < curve.prime) {octets : Bytes}
    {point : AffinePoint} (found : curve.point? octets = some point) :
    curve.contains point = true ∧ octets.length ≤ 2 * curve.width + 1 := by
  unfold point? at found
  split at found
  · cases found
  · split at found
    · split at found
      · next length =>
        simp only [Option.ite_none_right_eq_some, Option.some.injEq] at found
        obtain ⟨onCurve, rfl⟩ := found
        exact ⟨onCurve, by simp [length]⟩
      · cases found
    · split at found
      · next length =>
        refine ⟨?_, by simp only [List.length_cons, length]; omega⟩
        split at found
        · exact contains_decompress large found
        · split at found
          · exact contains_decompact large found
          · cases found
      · cases found

end Curve

namespace KeyInfo

open Checks

def curveOid : CurveName → Der.ObjectIdentifier
  | .p256 => .ofArcs [1, 2, 840, 10045, 3, 1, 7]
  | .p384 => .ofArcs [1, 3, 132, 0, 34]

def curveAlgorithm (curve : CurveName) : AlgorithmIdentifier :=
  ⟨ellipticKey, some (curveOid curve).element⟩

def onCurve (curve : CurveName) (octets : Bytes) : KeyInfo := ⟨curveAlgorithm curve, ⟨0, octets⟩⟩

/-- Bytes are the DER form of a key with a point of its curve. -/
def Carries (bytes : Bytes) (key : PublicKey) : Prop :=
  ∃ octets, bytes = (onCurve key.curveName octets).encode ∧
    key.curveName.curve.point? octets = some key.point

theorem lookup_curves_eq_some_iff {oid : Der.ObjectIdentifier} {curve : CurveName} :
    curves.lookup oid = some curve ↔ oid = curveOid curve := by
  have differ : curveOid .p256 ≠ curveOid .p384 := by decide
  have listed : curves = [(curveOid .p256, .p256), (curveOid .p384, .p384)] := rfl
  rw [listed, List.lookup_cons, List.lookup_cons, List.lookup_nil]
  by_cases first : oid = curveOid .p256
  · subst first
    cases curve <;> simp [differ]
  · rw [beq_eq_false_iff_ne.2 first]
    by_cases second : oid = curveOid .p384
    · subst second
      cases curve <;> simp [first]
    · rw [beq_eq_false_iff_ne.2 second]
      cases curve <;> simp [first, second]

theorem ofElement?_curveOid (curve : CurveName) :
    Der.ObjectIdentifier.ofElement? (curveOid curve).element = some (curveOid curve) := by
  cases curve <;> decide

theorem publicKey_eq_ok_iff {info : KeyInfo} {key : PublicKey} :
    info.publicKey = .ok key ↔ ∃ octets, info = onCurve key.curveName octets ∧
      key.curveName.curve.point? octets = some key.point := by
  unfold publicKey
  constructor
  · intro found
    rw [refuse_eq_ok_iff, not_not] at found
    obtain ⟨elliptic, found⟩ := found
    split at found
    · next parameters given =>
      split at found
      · next oid named =>
        split at found
        · next octets aligned =>
          split at found
          · next curve known =>
            split at found
            · next point read =>
              cases found
              obtain ⟨⟨algorithm, _⟩, ⟨unused, bytes⟩⟩ := info
              simp only at elliptic given
              simp only [Der.BitString.octets?, Option.ite_none_right_eq_some,
                Option.some.injEq] at aligned
              obtain ⟨rfl, rfl⟩ := aligned
              obtain rfl := Der.ObjectIdentifier.restores named
              obtain rfl := lookup_curves_eq_some_iff.1 known
              exact ⟨bytes, by rw [elliptic, given, onCurve, curveAlgorithm], read⟩
            · cases found
          · cases found
        · cases found
      · cases found
    · cases found
  · rintro ⟨octets, rfl, read⟩
    have aligned : (onCurve key.curveName octets).key.octets? = some octets := rfl
    have known := lookup_curves_eq_some_iff.2 (rfl : curveOid key.curveName = _)
    rw [refuse_eq_ok_iff, not_not]
    refine ⟨rfl, ?_⟩
    rw [aligned]
    simp only [onCurve, curveAlgorithm, ofElement?_curveOid, known, read]
    rfl

theorem length_curveAlgorithm (curve : CurveName) :
    (curveAlgorithm curve).element.encode.length ≤ 30 := by
  cases curve <;> decide

theorem ofElement?_curveAlgorithm (curve : CurveName) :
    AlgorithmIdentifier.ofElement? (curveAlgorithm curve).element = some (curveAlgorithm curve) := by
  cases curve <;> decide

theorem ofElement?_bitString (octets : Bytes) :
    Der.BitString.ofElement? (Der.BitString.element ⟨0, octets⟩) = some ⟨0, octets⟩ := by
  simp [Der.BitString.ofElement?, Der.BitString.element, Der.BitString.content,
    Der.Element.contentOf?, Der.BitString.ofContent?]

theorem ofDer?_onCurve {curve : CurveName} {octets : Bytes} (short : octets.length ≤ 97) :
    ofDer? (onCurve curve octets).encode = some (onCurve curve octets) := by
  have content : (Der.encodeAll [(curveAlgorithm curve).element,
      Der.BitString.element ⟨0, octets⟩]).length ≤ Der.maxLength := by
    have algorithm := length_curveAlgorithm curve
    have key := Der.Element.encode_le (Der.BitString.element ⟨0, octets⟩)
    have own : (Der.BitString.element ⟨0, octets⟩).content.length = octets.length + 1 := rfl
    rw [Der.encodeAll_cons, List.length_append, Der.encodeAll_cons, Der.encodeAll, List.flatMap_nil,
      List.append_nil, Der.maxLength]
    omega
  have tagged : ∀ part ∈ [(curveAlgorithm curve).element, Der.BitString.element ⟨0, octets⟩],
      Der.isTag part.tag = true := by
    intro part member
    rw [List.mem_pair] at member
    rcases member with rfl | rfl
    · exact Der.sequence_isTag
    · exact show Der.isTag Der.bitStringTag = true by decide
  have inside : (onCurve curve octets).element.inside? Der.sequenceTag =
      some [(curveAlgorithm curve).element, Der.BitString.element ⟨0, octets⟩] :=
    Der.Element.inside?_eq_some_iff.2 ⟨rfl, Der.readable_of_encodeAll tagged content⟩
  have alone : Der.onlyElement? (onCurve curve octets).encode = some (onCurve curve octets).element :=
    Der.onlyElement?_eq_some_iff.2 ⟨⟨Der.sequence_isTag, content⟩, rfl⟩
  rw [ofDer?, alone, Option.bind_some, ofElement?, inside]
  simp only [Option.bind_eq_bind, Option.bind_some, ofElement?_curveAlgorithm,
    ofElement?_bitString]
  rfl

theorem Carries.contains_point {bytes : Bytes} {key : PublicKey} (carries : Carries bytes key) :
    key.curveName.curve.contains key.point = true := by
  obtain ⟨octets, _, read⟩ := carries
  exact (Curve.contains_point (by cases key.curveName <;> decide) read).1

theorem carries_iff {bytes : Bytes} {key : PublicKey} :
    Carries bytes key ↔ ∃ info, ofDer? bytes = some info ∧ info.publicKey = .ok key := by
  constructor
  · rintro ⟨octets, rfl, read⟩
    have short := (Curve.contains_point (by cases key.curveName <;> decide) read).2
    have width : key.curveName.curve.width ≤ 48 := by cases key.curveName <;> decide
    exact ⟨_, ofDer?_onCurve (by omega), publicKey_eq_ok_iff.2 ⟨octets, rfl, read⟩⟩
  · rintro ⟨info, found, valid⟩
    obtain ⟨element, alone, read⟩ := Option.bind_eq_some_iff.1 found
    obtain ⟨_, rfl⟩ := Der.onlyElement?_eq_some_iff.1 alone
    obtain ⟨octets, rfl, point⟩ := publicKey_eq_ok_iff.1 valid
    obtain rfl := restores read
    exact ⟨octets, rfl, point⟩

end KeyInfo

end EnclaveProvenance
