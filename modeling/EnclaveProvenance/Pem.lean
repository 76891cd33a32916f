import EnclaveProvenance.Base64
import EnclaveProvenance.Text

/-!
Privacy-Enhanced Mail framing: base64 between a line that begins a block and one that ends it. The
first block of a text counts, and what stands around it is ignored.
-/

namespace EnclaveProvenance.Pem

structure Block where
  tag : String
  contents : Bytes
deriving DecidableEq, Repr

/-- What stands after a mark of which only `awaited` is still to come. A byte that breaks off a mark
does not begin another one, so that a mark may be overlooked behind a part of itself. -/
def after? (mark : Bytes) : Bytes → Bytes → Option Bytes
  | [], text => some text
  | _ :: _, [] => none
  | next :: awaited, byte :: text =>
    if byte = next then after? mark awaited text else after? mark mark text

def splitAt? (mark text : Bytes) : Option (Bytes × Bytes) :=
  (after? mark mark text).map fun after => (Bytes.before text (mark ++ after), after)

def skipSpace (text : Bytes) : Bytes :=
  text.dropWhile fun byte => byte == 0x20 || byte == 0x09 || byte == 0x0A || byte == 0x0D

def splitHeaders (body : Bytes) : Bytes × Bytes :=
  match splitAt? [0x0A, 0x0A] body with
  | some parts => parts
  | none => (splitAt? [0x0D, 0x0A, 0x0D, 0x0A] body).getD ([], body)

def areHeaders (text : String) : Bool :=
  ((Text.parts '\n' text.toList).reverse.dropWhile List.isEmpty).all (·.contains ':')

def read? (text : Bytes) : Option Block := do
  let (_, text) ← splitAt? (Bytes.ofText "-----BEGIN ") text
  let (begins, text) ← splitAt? (Bytes.ofText "-----") text
  let (body, text) ← splitAt? (Bytes.ofText "-----END ") (skipSpace text)
  let (ends, _) ← splitAt? (Bytes.ofText "-----") text
  let (headers, data) := splitHeaders body
  let tag ← Bytes.text? begins
  let data ← Bytes.text? data
  let contents ← Base64.decode (String.ofList (data.toList.filter fun letter => !Text.isBlank letter))
  let headers ← Bytes.text? headers
  if tag ≠ "" ∧ begins = ends ∧ areHeaders headers then some ⟨tag, contents⟩ else none

end EnclaveProvenance.Pem
