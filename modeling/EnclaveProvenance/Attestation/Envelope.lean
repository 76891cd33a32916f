import EnclaveProvenance.Base64
import EnclaveProvenance.Fault.Evidence
import EnclaveProvenance.Json.Record
import EnclaveProvenance.Text

/-!
The envelope that an enclave serves its attestation document in. A document may also come as a JSON
string or without any envelope.
-/

namespace EnclaveProvenance.Attestation

open Json (record? string?)

def legacyFormat : String := "awsnitro"

def isNitroFormat (format : String) : Bool :=
  format = legacyFormat || Predicate.ofUri? format = some .awsNitroEnclaveV1

structure Envelope where
  format : String
  body : String
deriving DecidableEq, Repr

namespace Envelope

def ofJson? : Bytes → Option Envelope :=
  record? ["format", "body"] fun fields => do
    return ⟨← fields.required "format" string?, ← fields.required "body" string?⟩

def document (envelope : Envelope) : Except DocumentDefect Bytes :=
  if isNitroFormat envelope.format then
    match Base64.decode (Text.trim envelope.body) with
    | some octets => .ok octets
    | none => .error .bodyNotBase64
  else .error (.format envelope.format)

end Envelope

def isAsciiBlank (byte : UInt8) : Bool :=
  byte == 0x20 || byte == 0x09 || byte == 0x0A || byte == 0x0C || byte == 0x0D

/-- Takes a document out of its envelope. What looks like neither a JSON object nor a JSON string is
the document itself. -/
def unwrap (text : Bytes) : Except DocumentDefect Bytes :=
  match (text.dropWhile isAsciiBlank).head? with
  | none => .ok text
  | some first =>
    if first = Json.openBrace then
      match (Json.document? text).bind Envelope.ofJson? with
      | some envelope => envelope.document
      | none => .error .envelope
    else if first = Json.quote then
      match (Json.document? text).bind string? with
      | some body => Envelope.document ⟨legacyFormat, body⟩
      | none => .error .envelope
    else .ok text

end EnclaveProvenance.Attestation
