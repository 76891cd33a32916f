import EnclaveProvenance.Der.Element
import EnclaveProvenance.Text

/-!
Object identifiers as their content octets, with the arcs these stand for.
-/

namespace EnclaveProvenance.Der

structure ObjectIdentifier where
  content : Bytes
deriving DecidableEq, Repr

namespace ObjectIdentifier

/-- Reads one arc in base 128. At most five octets are read and the value is kept in 32 bits. -/
def readArc : Nat → Nat → Bytes → Option (Nat × Bytes)
  | _, _, [] => none
  | octets, value, byte :: rest =>
    if 4 ≤ octets ∧ 16 ≤ byte.toNat then none
    else
      let value := (value * 128 + byte.toNat % 128) % 4294967296
      if byte < 0x80 then some (value, rest) else readArc (octets + 1) value rest

def readArcs : Nat → Bytes → Option (List Nat)
  | _, [] => some []
  | 0, _ => none
  | fuel + 1, bytes =>
    match readArc 0 0 bytes with
    | none => none
    | some (arc, rest) => (readArcs fuel rest).map (arc :: ·)

def arcs? (content : Bytes) : Option (List Nat) :=
  match content with
  | [] => none
  | first :: rest =>
    if first ≤ 119 then
      (readArcs rest.length rest).map fun later => first.toNat / 40 :: first.toNat % 40 :: later
    else none

/-- Three to thirty-nine octets with all arcs complete. -/
def ofContent? (content : Bytes) : Option ObjectIdentifier :=
  if 3 ≤ content.length ∧ content.length ≤ 39 ∧ (arcs? content).isSome then some ⟨content⟩ else none

def ofElement? (element : Element) : Option ObjectIdentifier :=
  if element.tag = 0x06 then ofContent? element.content else none

def element (oid : ObjectIdentifier) : Element := ⟨0x06, oid.content⟩

def text (oid : ObjectIdentifier) : String :=
  String.intercalate "." (((arcs? oid.content).getD []).map fun arc => toString arc)

def arcOctets (arc : Nat) : Bytes :=
  let digit (place : Nat) : Nat := arc / Nat.pow 128 place % 128
  let places := if arc < 128 then 1 else if arc < 16384 then 2 else if arc < 2097152 then 3
    else if arc < 268435456 then 4 else 5
  ((List.range places).reverse.map fun place =>
    UInt8.ofNat (digit place + if place = 0 then 0 else 128))

def ofArcs : List Nat → ObjectIdentifier
  | first :: second :: later => ⟨UInt8.ofNat (first * 40 + second) :: later.flatMap arcOctets⟩
  | _ => ⟨[]⟩

def ofText? (text : String) : Option ObjectIdentifier := do
  let arcs ← (Text.parts '.' text.toList).mapM Text.digits?
  ofContent? (ofArcs arcs).content

end ObjectIdentifier

end EnclaveProvenance.Der
