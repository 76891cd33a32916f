import EnclaveProvenance.Certificate.Chain
import EnclaveProvenance.Proofs.Checks
import EnclaveProvenance.Proofs.Der.Elements

/-!
What the issuer of a certificate signs: the octets that lie first inside the outer sequence of the
received text, which are the very octets that the fields of the certificate are read from.
-/

namespace EnclaveProvenance

open Checks

def Der.Element.head (element : Element) : Bytes :=
  element.tag :: lengthOctets element.content.length

theorem Der.Element.encode_eq_head_append (element : Element) :
    element.encode = element.head ++ element.content := rfl

inductive Certificate.SignedWith : Der.ObjectIdentifier → HashAlgorithm → Prop
  | sha256 : SignedWith (.ofArcs [1, 2, 840, 10045, 4, 3, 2]) .sha256
  | sha384 : SignedWith (.ofArcs [1, 2, 840, 10045, 4, 3, 3]) .sha384

namespace Certificate

theorem lookup_signatureHashes_iff {algorithm : Der.ObjectIdentifier} {hash : HashAlgorithm} :
    signatureHashes.lookup algorithm = some hash ↔ SignedWith algorithm hash := by
  constructor
  · intro found
    obtain ⟨before, after, split, _⟩ := List.lookup_eq_some_iff.1 found
    have member : (algorithm, hash) ∈ signatureHashes := by simp [split]
    rcases List.mem_cons.1 member with first | others
    · cases first
      exact .sha256
    · cases List.mem_singleton.1 others
      exact .sha384
  · rintro (_ | _)
    · decide
    · decide

structure IssuedBy (certificate issuer : Certificate) : Prop where
  named : certificate.tbs.issuer = issuer.tbs.subject
  signed : ∃ hash signature key received, SignedWith certificate.algorithm.oid hash ∧
    certificate.signature.octets? = some signature ∧ issuer.publicKey = .ok key ∧
    certificate.signedBytes = .ok received ∧ key.verify hash received signature .der = true

theorem checkIssuedBy_eq_ok_iff {certificate issuer : Certificate} {done : Unit} :
    certificate.checkIssuedBy issuer = .ok done ↔ certificate.IssuedBy issuer := by
  rw [checkIssuedBy, refuse_eq_ok_iff, ne_eq, Decidable.not_not]
  constructor
  · rintro ⟨named, checked⟩
    split at checked
    · next hash known =>
      split at checked
      · next signature aligned =>
        simp only [bind_eq_ok_iff] at checked
        obtain ⟨key, keyRead, received, part, verified⟩ := checked
        split at verified
        · next accepted =>
          exact ⟨named, hash, signature, key, received, lookup_signatureHashes_iff.1 known, aligned,
            keyRead, part, accepted⟩
        · cases verified
      · cases checked
    · cases checked
  · rintro ⟨named, hash, signature, key, received, known, aligned, keyRead, part, accepted⟩
    refine ⟨named, ?_⟩
    simp only [lookup_signatureHashes_iff.2 known, aligned, bind_eq_ok_iff]
    exact ⟨key, keyRead, received, part, by rw [if_pos accepted]; rfl⟩

theorem elements_of_ofDer {der : Bytes} {certificate : Certificate}
    (parsed : ofDer der = .ok certificate) :
    certificate.der = der ∧ ∃ outer tbs algorithm signature, Der.onlyElement? der = some outer ∧
      outer.tag = Der.sequenceTag ∧ Der.elements? outer.content = some [tbs, algorithm, signature] ∧
      TbsCertificate.ofElement? tbs = some certificate.tbs := by
  unfold ofDer at parsed
  split at parsed
  · next found read =>
    cases parsed
    unfold ofDer? at read
    simp only [Option.bind_eq_bind, Option.bind_eq_some_iff] at read
    obtain ⟨outer, whole, elements, inside, read⟩ := read
    simp only [Der.Element.inside?, Der.Element.contentOf?, Option.bind_eq_some_iff,
      Option.ite_none_right_eq_some, Option.some.injEq] at inside
    obtain ⟨content, ⟨isSequence, rfl⟩, split⟩ := inside
    split at read
    · next tbs algorithm signature =>
      simp only [Option.bind_eq_some_iff, Option.pure_def, Option.some.injEq] at read
      obtain ⟨fields, fieldsRead, _, _, _, _, rfl⟩ := read
      exact ⟨rfl, outer, tbs, algorithm, signature, whole, isSequence, split, fieldsRead⟩
    · cases read
  · cases parsed

/-- A part of a text that begins right after the head of the outer sequence, and that is read by
itself as the given fields. -/
structure SignedPart (der : Bytes) (fields : TbsCertificate) (signed : Bytes) : Prop where
  placed : ∃ outer rest, Der.onlyElement? der = some outer ∧ outer.tag = Der.sequenceTag ∧
    der = outer.head ++ signed ++ rest
  read : (Der.onlyElement? signed).bind TbsCertificate.ofElement? = some fields

theorem signedPart_of_ofDer {der : Bytes} {certificate : Certificate}
    (parsed : ofDer der = .ok certificate) :
    ∃ signed, certificate.signedBytes = .ok signed ∧ SignedPart der certificate.tbs signed := by
  obtain ⟨own, outer, tbs, algorithm, signature, whole, isSequence, split, fieldsRead⟩ :=
    elements_of_ofDer parsed
  obtain ⟨readable, content⟩ := Der.elements?_eq_some_iff.1 split
  have tbsReadable : tbs.Readable := readable tbs List.mem_cons_self
  rw [Der.encodeAll_cons] at content
  refine ⟨tbs.encode, ?_, ?_, ?_⟩
  · have first : Der.readElement outer.content =
        some (tbs, Der.encodeAll [algorithm, signature]) := by
      rw [content]
      exact Der.readElement_encode tbsReadable _
    rw [signedBytes, own, whole]
    simp only [first]
    rw [content, Bytes.before_append]
  · refine ⟨outer, Der.encodeAll [algorithm, signature], whole, isSequence, ?_⟩
    rw [(Der.onlyElement?_eq_some_iff.1 whole).2, Der.Element.encode_eq_head_append, content,
      List.append_assoc]
  · rw [Der.onlyElement?_eq_some_iff.2 ⟨tbsReadable, rfl⟩]
    exact fieldsRead

/-- Every certificate that can be read has a signed part. It is a slice of the received text, right
after the head of the outer sequence, the fields of the certificate are the ones that this slice is
read as, and the signature is checked over this slice. -/
theorem signed_part_of_parsed {der : Bytes} {certificate : Certificate}
    (parsed : ofDer der = .ok certificate) :
    ∃ signed, certificate.signedBytes = .ok signed ∧ SignedPart der certificate.tbs signed ∧
      ∀ issuer : Certificate, certificate.checkIssuedBy issuer = .ok () ↔
        certificate.tbs.issuer = issuer.tbs.subject ∧ ∃ hash signature key,
          SignedWith certificate.algorithm.oid hash ∧
          certificate.signature.octets? = some signature ∧ issuer.publicKey = .ok key ∧
          key.verify hash signed signature .der = true := by
  obtain ⟨signed, part, placed⟩ := signedPart_of_ofDer parsed
  refine ⟨signed, part, placed, fun issuer => ?_⟩
  rw [checkIssuedBy_eq_ok_iff]
  constructor
  · rintro ⟨named, hash, signature, key, received, known, aligned, keyRead, own, accepted⟩
    rw [part] at own
    cases own
    exact ⟨named, hash, signature, key, known, aligned, keyRead, accepted⟩
  · rintro ⟨named, hash, signature, key, known, aligned, keyRead, accepted⟩
    exact ⟨named, hash, signature, key, signed, known, aligned, keyRead, part, accepted⟩

def unnamedText : Bytes :=
  [0x30, 0x81, 0x96,
    0x30, 0x3A, 0x02, 0x01, 0x01, 0x30, 0x05, 0x06, 0x03, 0x2A, 0x03, 0x04, 0x30, 0x00] ++
    [0x30, 0x1E] ++ ([0x17, 0x0D] ++ Bytes.ofText "200101000000Z") ++
    ([0x17, 0x0D] ++ Bytes.ofText "400101000000Z") ++
    [0x30, 0x00, 0x30, 0x0A, 0x30, 0x05, 0x06, 0x03, 0x2A, 0x03, 0x04, 0x03, 0x01, 0x00,
      0x30, 0x05, 0x06, 0x03, 0x2A, 0x03, 0x04, 0x03, 0x51, 0x00] ++ List.replicate 80 0x00

set_option maxRecDepth 100000 in
theorem unnamedText_parses : (ofDer? unnamedText).isSome = true := by decide +kernel

def unnamed : Certificate := (ofDer? unnamedText).get unnamedText_parses

theorem unnamed_signed_part : ofDer unnamedText = .ok unnamed ∧
    ∃ signed, unnamed.signedBytes = .ok signed ∧ SignedPart unnamedText unnamed.tbs signed ∧
      ∀ issuer : Certificate, unnamed.checkIssuedBy issuer = .ok () ↔
        unnamed.tbs.issuer = issuer.tbs.subject ∧ ∃ hash signature key,
          SignedWith unnamed.algorithm.oid hash ∧
          unnamed.signature.octets? = some signature ∧ issuer.publicKey = .ok key ∧
          key.verify hash signed signature .der = true := by
  have parsed : ofDer unnamedText = .ok unnamed := by
    rw [ofDer, ← Option.some_get unnamedText_parses]
    rfl
  exact ⟨parsed, signed_part_of_parsed parsed⟩

end Certificate

end EnclaveProvenance
