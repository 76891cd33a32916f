import EnclaveProvenance.Cose.Header

/-!
Messages with one signature: a protected header kept as the bytes that were received, an
unprotected header, a payload and the signature.
-/

namespace EnclaveProvenance.Cose

open Cbor (Item)

structure Sign1 where
  protectedBytes : Bytes
  protectedHeader : Header
  payload : Option Bytes
  signature : Bytes

namespace Sign1

def payload? : Item → Option (Option Bytes)
  | .bytes _ content => some (some content)
  | .null => some none
  | .undefined => some none
  | _ => none

def readProtected (levels : Nat) (octets : Bytes) : Option Header :=
  if octets.isEmpty then some .empty else (Cbor.wholeItem? octets).bind (Header.ofItem? levels)

def ofItem? (levels : Nat) : Item → Option Sign1
  | .array [.bytes _ protectedBytes, header, payload, .bytes _ signature] => do
    let _ ← Header.ofItem? levels header
    return ⟨protectedBytes, ← readProtected levels protectedBytes, ← payload? payload, signature⟩
  | _ => none

def messageTag : Nat := 18

/-- The message of a text, which may carry the tag once. No header in it can hold more headers than
the text has octets. -/
def read? (text : Bytes) : Option Sign1 :=
  match Cbor.wholeItem? text with
  | some (.tag number content) =>
    if number = messageTag then ofItem? (text.length + 1) content else none
  | some item => ofItem? (text.length + 1) item
  | none => none

def signedBytes (message : Sign1) (payload : Bytes) : Bytes :=
  (Item.array [.text true "Signature1", .bytes true message.protectedBytes, .bytes true [],
    .bytes true payload]).encode

end Sign1

end EnclaveProvenance.Cose
