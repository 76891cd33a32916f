import EnclaveProvenance.Json.Record
import EnclaveProvenance.Json.Writer
import EnclaveProvenance.Measurement
import EnclaveProvenance.Sha2

/-!
Measurement formats and sets in writing. A format is written as its name, and every name but that of
a known format stands for an unknown one; a set is told by its fingerprint and by its registers.
-/

namespace EnclaveProvenance

namespace Predicate

def name : Predicate → String
  | .awsNitroEnclaveV1 => Predicate.awsNitroEnclaveV1.text
  | .unknown => "Unknown"

def write (predicate : Predicate) : String := Json.quoteText predicate.name

/-- A name may also be written as the only key of an object, with null as its value. -/
def ofJson? (value : Bytes) : Option Predicate :=
  match Json.choice? value with
  | some (written, data) =>
    if data.all Json.isNull then some ((ofUri? written).getD .unknown) else none
  | none => none

def read? (text : Bytes) : Option Predicate := (Json.document? text).bind ofJson?

end Predicate

namespace MeasurementSet

/-- The bytes that identify a set: its predicate and the hexadecimal values in index order. -/
def fingerprinted (set : MeasurementSet) : Bytes :=
  Bytes.ofText set.predicate.text ++
    set.registers.flatMap fun register => Bytes.ofText (Hex.encode register.value)

def fingerprint (set : MeasurementSet) : String := Hex.encode (sha256 set.fingerprinted)

def render (set : MeasurementSet) : String :=
  String.intercalate ", " (set.registers.map fun register =>
    s!"PCR{register.index}=" ++ Hex.encode register.value)

end MeasurementSet

end EnclaveProvenance
