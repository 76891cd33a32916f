import EnclaveProvenance.Certificate.Basic

/-!
The standard extensions that matter to a chain: basic constraints and alternative names.
-/

namespace EnclaveProvenance

structure BasicConstraints where
  authority : Bool
  pathLength : Option Nat
deriving DecidableEq, Repr

namespace BasicConstraints

def oid : Der.ObjectIdentifier := .ofArcs [2, 5, 29, 19]

def pathLength? (element : Der.Element) : Option Nat :=
  element.natural?.filter (· < 256)

def ofElements? : List Der.Element → Option BasicConstraints
  | [] => some ⟨false, none⟩
  | [single] =>
    if single.tag = Der.booleanTag then single.boolean?.map fun authority => ⟨authority, none⟩
    else (pathLength? single).map fun length => ⟨false, some length⟩
  | [authority, length] => do return ⟨← authority.boolean?, some (← pathLength? length)⟩
  | _ => none

def ofDer? (bytes : Bytes) : Option BasicConstraints := do
  ofElements? (← (← Der.onlyElement? bytes).inside? Der.sequenceTag)

end BasicConstraints

namespace AlternativeName

def oid : Der.ObjectIdentifier := .ofArcs [2, 5, 29, 17]

def isAscii (content : Bytes) : Bool := content.all (· < 0x80)

def wrapped? (tag : UInt8) (element : Der.Element) : Option Der.Element := do
  match ← element.inside? tag with
  | [inner] => some inner
  | _ => none

def isOtherName (elements : List Der.Element) : Bool :=
  match elements with
  | [oid, value] => (Der.ObjectIdentifier.ofElement? oid).isSome && (wrapped? 0xA0 value).isSome
  | _ => false

def isDirectoryString (element : Der.Element) : Bool :=
  [Der.printableStringTag, Der.teletexStringTag, Der.utf8StringTag].contains element.tag &&
    element.text?.isSome

def isWrappedDirectoryString (tag : UInt8) (element : Der.Element) : Bool :=
  (wrapped? tag element).any isDirectoryString

def isPartyName (elements : List Der.Element) : Bool :=
  let (assigner, elements) := Der.takeOptional 0 elements
  let (party, elements) := Der.takeOptional 1 elements
  assigner.all (isWrappedDirectoryString 0xA0) && party.any (isWrappedDirectoryString 0xA1) &&
    elements.isEmpty

def uri? (element : Der.Element) : Option (Option String) :=
  let content := element.content
  let wellFormed :=
    if element.tag = 0x81 ∨ element.tag = 0x82 ∨ element.tag = 0x86 then isAscii content
    else if element.tag = 0x87 then true
    else if element.tag = 0x88 then (Der.ObjectIdentifier.ofContent? content).isSome
    else if element.tag = 0xA0 then (Der.elements? content).any isOtherName
    else if element.tag = 0xA4 then ((wrapped? 0xA4 element).bind Name.ofElement?).isSome
    else if element.tag = 0xA5 then (Der.elements? content).any isPartyName
    else false
  if wellFormed then some (if element.tag = 0x86 then Bytes.text? content else none) else none

def uris? (bytes : Bytes) : Option (List String) := do
  let names ← (← (← Der.onlyElement? bytes).inside? Der.sequenceTag).mapM uri?
  return names.filterMap id

end AlternativeName

namespace Certificate

def basicConstraints? (certificate : Certificate) : Option BasicConstraints :=
  (certificate.extension? BasicConstraints.oid).bind BasicConstraints.ofDer?

def isAuthority (certificate : Certificate) : Bool :=
  certificate.basicConstraints?.any BasicConstraints.authority

def alternativeUris (certificate : Certificate) : List String :=
  ((certificate.extension? AlternativeName.oid).bind AlternativeName.uris?).getD []

end Certificate

end EnclaveProvenance
