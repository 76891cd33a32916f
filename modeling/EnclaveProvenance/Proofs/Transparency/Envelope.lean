import EnclaveProvenance.Proofs.Decimal
import EnclaveProvenance.Proofs.Encodings
import EnclaveProvenance.Proofs.Der.Sequences
import EnclaveProvenance.Proofs.Transparency.LoggedSignature

/-!
Signatures of envelopes: the octets that they cover belong to one type and one payload, and which
layouts of a signature are read.
-/

namespace EnclaveProvenance

open Checks

/-! What a signature covers. -/

theorem Bytes.ofText_decimal_inj {one other : Nat} :
    ofText (toString one) = ofText (toString other) ↔ one = other := by
  rw [ofText_inj]
  constructor
  · intro same
    have signed : toString (Int.ofNat one) = toString (Int.ofNat other) := same
    exact Int.ofNat.inj (Text.toString_inj.1 signed)
  · rintro rfl
    rfl

theorem Bytes.space_not_mem_decimal (number : Nat) : 0x20 ∉ ofText (toString number) := by
  have digits : ∀ value ∈ List.range 10, 0x20 ∉ String.utf8EncodeChar (Nat.digitChar value) := by
    decide
  intro member
  rw [Nat.toString_eq_ofList_toDigits, ofText_ofList, List.mem_flatMap] at member
  obtain ⟨character, written, inside⟩ := member
  have digit := Nat.isDigit_of_mem_toDigits (by decide) (by decide) written
  have bounds := Text.isDigit_iff.1 digit
  have other := digits (character.toNat - 48) (List.mem_range.2 (by omega))
  rw [Text.digitChar_of_isDigit digit] at other
  exact other inside

def sized (content : Bytes) : Bytes := Bytes.ofText (toString content.length) ++ 0x20 :: content

/-- The number says where the bytes end, whatever they are and whatever follows them. -/
theorem sized_append_inj {first second firstRest secondRest : Bytes}
    (same : sized first ++ firstRest = sized second ++ secondRest) :
    first = second ∧ firstRest = secondRest := by
  rw [sized, sized, List.append_assoc, List.append_assoc, List.cons_append, List.cons_append] at same
  -- The first space ends the number, whatever spaces the bytes have.
  obtain ⟨numbers, contents⟩ := Text.append_cons_inj (Bytes.space_not_mem_decimal _)
    (Bytes.space_not_mem_decimal _) same
  have lengths := Bytes.ofText_decimal_inj.1 numbers
  exact List.append_inj contents lengths

theorem preAuthenticationEncoding_eq (payloadType : String) (payload : Bytes) :
    preAuthenticationEncoding payloadType payload =
      Bytes.ofText "DSSEv1 " ++ (sized (Bytes.ofText payloadType) ++ 0x20 :: sized payload) := by
  simp [preAuthenticationEncoding, sized]

theorem preAuthenticationEncoding_append_inj {payloadType otherType : String}
    {payload other rest otherRest : Bytes}
    (same : preAuthenticationEncoding payloadType payload ++ rest =
      preAuthenticationEncoding otherType other ++ otherRest) :
    payloadType = otherType ∧ payload = other ∧ rest = otherRest := by
  rw [preAuthenticationEncoding_eq, preAuthenticationEncoding_eq, List.append_assoc,
    List.append_assoc, List.append_assoc, List.append_assoc] at same
  obtain ⟨types, same⟩ := sized_append_inj (List.append_cancel_left same)
  obtain ⟨payloads, rests⟩ := sized_append_inj (List.cons.inj same).2
  exact ⟨Bytes.ofText_inj.1 types, payloads, rests⟩

/-- What a signature covers is the same only for the same type and payload, and does not begin what
it covers for others. -/
theorem preAuthenticationEncoding_isPrefix_iff (payloadType otherType : String)
    (payload other : Bytes) :
    (preAuthenticationEncoding payloadType payload = preAuthenticationEncoding otherType other ↔
      payloadType = otherType ∧ payload = other) ∧
    (preAuthenticationEncoding payloadType payload <+: preAuthenticationEncoding otherType other ↔
      payloadType = otherType ∧ payload = other) := by
  constructor
  · constructor
    · intro same
      have extended := congrArg (· ++ ([] : Bytes)) same
      obtain ⟨types, payloads, _⟩ := preAuthenticationEncoding_append_inj extended
      exact ⟨types, payloads⟩
    · rintro ⟨rfl, rfl⟩
      rfl
  · constructor
    · rintro ⟨rest, same⟩
      rw [← List.append_nil (preAuthenticationEncoding otherType other)] at same
      obtain ⟨types, payloads, _⟩ := preAuthenticationEncoding_append_inj same
      exact ⟨types, payloads⟩
    · rintro ⟨rfl, rfl⟩
      exact List.prefix_refl _

/-! In which layouts a signature is read. -/

theorem Signature.head?_of_ofDer? {width : Nat} {bytes : Bytes} {signature : Signature}
    (read : ofDer? width bytes = some signature) : bytes.head? = some Der.sequenceTag := by
  simp only [ofDer?, Option.bind_eq_bind, Option.bind_eq_some_iff,
    Der.onlyElement?_eq_some_iff, Der.Element.inside?_eq_some_iff] at read
  obtain ⟨element, ⟨_, rfl⟩, parts, ⟨rfl, _⟩, _⟩ := read
  rfl

theorem PublicKey.head?_of_verify_der {key : PublicKey} {hash : HashAlgorithm}
    {message signature : Bytes} (accepted : key.verify hash message signature .der = true) :
    signature.head? = some Der.sequenceTag := by
  unfold verify at accepted
  split at accepted
  · next numbers read =>
    exact Signature.head?_of_ofDer? (Option.filter_eq_some_iff.1 read).1
  · contradiction

namespace TransparencyVerifier

def SignedAs (encoding : SignatureEncoding) (key : PublicKey) (payloadType : String)
    (payload signature : Bytes) : Prop :=
  key.verify key.defaultHash (preAuthenticationEncoding payloadType payload) signature encoding = true

variable {key : PublicKey} {leaf : Certificate} {payloadType : String} {payload signature : Bytes}
  {signatures : List Bytes}

/-- Nothing that verifies as DER is taken for two halves, but two halves may be taken for DER. -/
theorem signed_iff : Signed key payloadType payload signature ↔
    SignedAs .der key payloadType payload signature ∨
      signature.head? ≠ some Der.sequenceTag ∧ SignedAs .fixed key payloadType payload signature := by
  unfold Signed envelopeEncoding
  by_cases sequence : signature.head? = some Der.sequenceTag
  · rw [if_pos sequence]
    constructor
    · exact Or.inl
    · rintro (der | ⟨other, _⟩)
      · exact der
      · contradiction
  · rw [if_neg sequence]
    constructor
    · intro fixed
      exact .inr ⟨sequence, fixed⟩
    · rintro (der | ⟨_, fixed⟩)
      · exact absurd (PublicKey.head?_of_verify_der der) sequence
      · exact fixed

structure Mistaken (key : PublicKey) (payloadType : String) (payload signature : Bytes) : Prop where
  begins : signature.head? = some Der.sequenceTag
  fixed : SignedAs .fixed key payloadType payload signature
  not_der : ¬SignedAs .der key payloadType payload signature

theorem signed_or_mistaken {encoding : SignatureEncoding}
    (accepted : SignedAs encoding key payloadType payload signature) :
    Signed key payloadType payload signature ∨ Mistaken key payloadType payload signature := by
  cases encoding with
  | der => exact .inl (signed_iff.2 (.inl accepted))
  | fixed =>
    by_cases sequence : signature.head? = some Der.sequenceTag
    · by_cases der : SignedAs .der key payloadType payload signature
      · exact .inl (signed_iff.2 (.inl der))
      · exact .inr ⟨sequence, accepted, der⟩
    · exact .inl (signed_iff.2 (.inr ⟨sequence, accepted⟩))

theorem checkEnvelope_perm {order : List Bytes} (permuted : order.Perm signatures) :
    checkEnvelope leaf payloadType payload order =
      checkEnvelope leaf payloadType payload signatures := by
  unfold checkEnvelope
  simp only [permuted.any_eq]

theorem checkEnvelope_eq_error (leafKey : leaf.publicKey = .ok key)
    (unsigned : ∀ signature ∈ signatures, ¬Signed key payloadType payload signature) :
    checkEnvelope leaf payloadType payload signatures = .error (.signatureInvalid .envelope) := by
  have refused : (signatures.any fun signature => key.verify key.defaultHash
      (preAuthenticationEncoding payloadType payload) signature (envelopeEncoding signature)) =
        false := by
    rw [List.any_eq_false]
    exact unsigned
  unfold checkEnvelope
  simp only [leafKey, Except.mapError, bind, Except.bind, refused, if_true]
  rfl

/-- An envelope passes when a signature verifies as DER, or as two halves that do not begin like a
sequence; the order does not count. It passes for every signature in either layout just if what
is taken for DER by mistake is never the only one. -/
theorem checkEnvelope_layouts (leaf : Certificate) (payloadType : String) (payload : Bytes)
    (signatures : List Bytes) :
    (checkEnvelope leaf payloadType payload signatures = .ok () ↔
      ∃ key, leaf.publicKey = .ok key ∧ ∃ signature ∈ signatures,
        SignedAs .der key payloadType payload signature ∨
          signature.head? ≠ some Der.sequenceTag ∧
            SignedAs .fixed key payloadType payload signature) ∧
    (∀ order : List Bytes, order.Perm signatures →
      checkEnvelope leaf payloadType payload order =
        checkEnvelope leaf payloadType payload signatures) ∧
    ((checkEnvelope leaf payloadType payload signatures = .ok () ↔
      ∃ key, leaf.publicKey = .ok key ∧ ∃ signature ∈ signatures, ∃ encoding,
        SignedAs encoding key payloadType payload signature) ↔
      ∀ key, leaf.publicKey = .ok key → ∀ signature ∈ signatures,
        Mistaken key payloadType payload signature →
          ∃ other ∈ signatures, Signed key payloadType payload other) := by
  refine ⟨?_, fun order permuted => checkEnvelope_perm permuted, ?_⟩
  · simp only [checkEnvelope_eq_ok_iff, signed_iff]
  · rw [checkEnvelope_eq_ok_iff]
    constructor
    · -- An envelope with a mistaken signature has one that verifies, so it must pass by another.
      intro either key leafKey signature given mistaken
      obtain ⟨own, ownKey, found⟩ :=
        either.2 ⟨key, leafKey, signature, given, .fixed, mistaken.fixed⟩
      rw [leafKey, Except.ok.injEq] at ownKey
      rwa [← ownKey] at found
    · intro never
      constructor
      · rintro ⟨key, leafKey, signature, given, signed⟩
        exact ⟨key, leafKey, signature, given, envelopeEncoding signature, signed⟩
      · rintro ⟨key, leafKey, signature, given, encoding, accepted⟩
        refine ⟨key, leafKey, ?_⟩
        rcases signed_or_mistaken accepted with signed | mistaken
        · exact ⟨signature, given, signed⟩
        · exact never key leafKey signature given mistaken

def halves : Bytes :=
  Bytes.ofNat 32 0x3042c9b050fcd9c2a110e738b78fe3f44be86d46f0936db00dd986f05c4b28fd ++
    Bytes.ofNat 32 0xae31fbafaa46e8948648283b227f3c5e09a4e5d80090b6f2ade6b450478fa355

set_option maxRecDepth 100000 in
theorem signedAs_fixed_halves :
    SignedAs .fixed Split.leafKey inTotoPayloadType Split.payload halves := by
  unfold SignedAs
  decide +kernel

set_option maxRecDepth 100000 in
theorem not_signed_halves : ¬Signed Split.leafKey inTotoPayloadType Split.payload halves := by
  unfold Signed
  decide +kernel

theorem checkEnvelope_halves : Split.leaf.publicKey = .ok Split.leafKey ∧
    SignedAs .fixed Split.leafKey inTotoPayloadType Split.payload halves ∧
    checkEnvelope Split.leaf inTotoPayloadType Split.payload [halves] =
      .error (.signatureInvalid .envelope) := by
  refine ⟨Split.publicKey_leaf, signedAs_fixed_halves, ?_⟩
  apply checkEnvelope_eq_error Split.publicKey_leaf
  intro signature given
  rw [List.mem_singleton.1 given]
  exact not_signed_halves

end TransparencyVerifier

end EnclaveProvenance
