import EnclaveProvenance.Certificate.KeyInfo
import EnclaveProvenance.Certificate.Name
import EnclaveProvenance.Pem

/-!
X.509 certificates, kept together with the bytes they were read from.
-/

namespace EnclaveProvenance

structure Extension where
  oid : Der.ObjectIdentifier
  critical : Bool
  value : Bytes
deriving DecidableEq, Repr

namespace Extension

def ofElement? (element : Der.Element) : Option Extension := do
  match ← element.inside? Der.sequenceTag with
  | [oid, value] =>
    return ⟨← Der.ObjectIdentifier.ofElement? oid, false, ← value.contentOf? Der.octetStringTag⟩
  | [oid, critical, value] =>
    return ⟨← Der.ObjectIdentifier.ofElement? oid, ← critical.boolean?,
      ← value.contentOf? Der.octetStringTag⟩
  | _ => none

def element (extension : Extension) : Der.Element :=
  ⟨Der.sequenceTag, Der.encodeAll (extension.oid.element ::
    (if extension.critical then [⟨Der.booleanTag, [0xFF]⟩] else []) ++
    [⟨Der.octetStringTag, extension.value⟩])⟩

end Extension

structure TbsCertificate where
  version : UInt8
  serial : Bytes
  algorithm : AlgorithmIdentifier
  issuer : Name
  notBefore : Der.Time
  notAfter : Der.Time
  subject : Name
  keyInfo : KeyInfo
  issuerId : Option Der.BitString
  subjectId : Option Der.BitString
  extensions : Option (List Extension)
deriving DecidableEq, Repr

namespace TbsCertificate

def maxSerial : Nat := 21

def version? (element : Der.Element) : Option UInt8 := do
  match ← element.inside? 0xA0 with
  | [number] =>
    match ← number.integerContent? with
    | [octet] => if octet ≤ 2 then some octet else none
    | _ => none
  | _ => none

def uniqueId? (tag : UInt8) : Option Der.Element → Option (Option Der.BitString)
  | none => some none
  | some element => do return some (← Der.BitString.ofContent? (← element.contentOf? tag))

def extensions? : Option Der.Element → Option (Option (List Extension))
  | none => some none
  | some element => do
    match ← element.inside? 0xA3 with
    | [list] => return some (← (← list.inside? Der.sequenceTag).mapM Extension.ofElement?)
    | _ => none

def validity? (element : Der.Element) : Option (Der.Time × Der.Time) := do
  match ← element.inside? Der.sequenceTag with
  | [notBefore, notAfter] => return (← Der.Time.ofElement? notBefore, ← Der.Time.ofElement? notAfter)
  | _ => none

def ofElements? (elements : List Der.Element) : Option TbsCertificate := do
  let (versionElement, elements) := Der.takeOptional 0 elements
  let version ← match versionElement with
    | none => some 0
    | some element => version? element
  match elements with
  | serial :: algorithm :: issuer :: validity :: subject :: keyInfo :: optional =>
    let serial ← serial.integerContent?
    let (notBefore, notAfter) ← validity? validity
    let (issuerId, optional) := Der.takeOptional 1 optional
    let (subjectId, optional) := Der.takeOptional 2 optional
    let (extensions, optional) := Der.takeOptional 3 optional
    if maxSerial < serial.length ∨ optional ≠ [] then none
    else
      return {
        version := version
        serial := serial
        algorithm := ← AlgorithmIdentifier.ofElement? algorithm
        issuer := ← Name.ofElement? issuer
        notBefore := notBefore
        notAfter := notAfter
        subject := ← Name.ofElement? subject
        keyInfo := ← KeyInfo.ofElement? keyInfo
        issuerId := ← uniqueId? 0x81 issuerId
        subjectId := ← uniqueId? 0x82 subjectId
        extensions := ← extensions? extensions }
  | _ => none

def ofElement? (element : Der.Element) : Option TbsCertificate :=
  (element.inside? Der.sequenceTag).bind ofElements?

def versionElements (tbs : TbsCertificate) : List Der.Element :=
  if tbs.version = 0 then []
  else [⟨0xA0, Der.Element.encode ⟨Der.integerTag, [tbs.version]⟩⟩]

def uniqueIdElements (tag : UInt8) (bits : Option Der.BitString) : List Der.Element :=
  bits.toList.map fun bits => ⟨tag, bits.content⟩

def extensionElements (tbs : TbsCertificate) : List Der.Element :=
  tbs.extensions.toList.map fun extensions =>
    ⟨0xA3, Der.Element.encode ⟨Der.sequenceTag, Der.encodeAll (extensions.map Extension.element)⟩⟩

def element (tbs : TbsCertificate) : Der.Element :=
  ⟨Der.sequenceTag, Der.encodeAll (tbs.versionElements ++
    [⟨Der.integerTag, tbs.serial⟩, tbs.algorithm.element, tbs.issuer.element,
      ⟨Der.sequenceTag, Der.encodeAll [tbs.notBefore.element, tbs.notAfter.element]⟩,
      tbs.subject.element, tbs.keyInfo.element] ++
    uniqueIdElements 0x81 tbs.issuerId ++ uniqueIdElements 0x82 tbs.subjectId ++
    tbs.extensionElements)⟩

def encode (tbs : TbsCertificate) : Bytes := tbs.element.encode

end TbsCertificate

structure Certificate where
  der : Bytes
  tbs : TbsCertificate
  algorithm : AlgorithmIdentifier
  signature : Der.BitString
deriving DecidableEq, Repr

namespace Certificate

def ofDer? (der : Bytes) : Option Certificate := do
  match ← (← Der.onlyElement? der).inside? Der.sequenceTag with
  | [tbs, algorithm, signature] =>
    return ⟨der, ← TbsCertificate.ofElement? tbs, ← AlgorithmIdentifier.ofElement? algorithm,
      ← Der.BitString.ofElement? signature⟩
  | _ => none

def ofDer (der : Bytes) : Except CertificateError Certificate :=
  match ofDer? der with
  | some certificate => .ok certificate
  | none => .error .malformed

def ofPem (text : Bytes) : Except CertificateError Certificate :=
  match Pem.read? text with
  | none => .error .invalidPem
  | some block => if block.tag = "CERTIFICATE" then ofDer block.contents
    else .error (.unexpectedPemTag block.tag)

def subject (certificate : Certificate) : String := certificate.tbs.subject.text

def publicKey (certificate : Certificate) : Except CertificateError PublicKey :=
  certificate.tbs.keyInfo.publicKey.mapError .unsupportedKey

/-- The part that the issuer signed, as it stands in the bytes the certificate was read from. -/
def signedBytes (certificate : Certificate) : Except CertificateError Bytes :=
  match Der.onlyElement? certificate.der with
  | none => .error .malformed
  | some outer =>
    match Der.readElement outer.content with
    | none => .error .malformed
    | some (_, rest) => .ok (Bytes.before outer.content rest)

def extension? (certificate : Certificate) (oid : Der.ObjectIdentifier) : Option Bytes :=
  ((certificate.tbs.extensions.getD []).find? fun extension => extension.oid == oid).map Extension.value

end Certificate

end EnclaveProvenance
