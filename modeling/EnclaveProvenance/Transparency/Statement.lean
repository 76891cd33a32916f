import EnclaveProvenance.Fault
import EnclaveProvenance.Json.Record
import EnclaveProvenance.Json.Value

/-!
Statements about a build: the digests of what was built, and a predicate that lists the register
values expected of it.
-/

namespace EnclaveProvenance

structure Statement where
  subjects : List (List (String × String))
  predicateType : String
  predicate : List (String × Json.Value)

namespace Statement

open Json (record? string? list?)

def subject? : Bytes → Option (List (String × String)) :=
  record? ["name", "digest"] fun fields => do
    let _ ← fields.required "name" string?
    fields.required "digest" Json.textMap?

/-- The statement and its predicate are two of the levels that a value may be nested in. -/
def valueDepth : Nat := Json.Value.depthLimit - 2

def predicate? (value : Bytes) : Option (List (String × Json.Value)) := do
  let members ← (← Json.members? value).mapM (Json.Value.keyed? (Json.Value.read valueDepth))
  if (members.map Prod.fst).Nodup then some members else none

def ofJson? : Bytes → Option Statement :=
  record? ["_type", "subject", "predicateType", "predicate"] fun fields => do
    let _ ← fields.required "_type" string?
    return ⟨← fields.required "subject" (list? subject?),
      ← fields.required "predicateType" string?,
      ← fields.required "predicate" predicate?⟩

def read? (text : Bytes) : Option Statement := (Json.document? text).bind ofJson?

/-- The digits of a key that names a register; other keys make no claim about one. -/
def registerDigits? (key : String) : Option (List Char) :=
  match "PCR".toList.isPrefixOf? key.toList with
  | some digits => if digits ≠ [] ∧ digits.all (·.isDigit) then some digits else none
  | none => none

def registerIndex? (digits : List Char) : Option RegisterIndex :=
  if 1 < digits.length ∧ digits.head? = some '0' then none
  else
    match Text.digits? digits with
    | some value => if value < UInt32.size then some (UInt32.ofNat value) else none
    | none => none

def addClaim (set : MeasurementSet) (member : String × Json.Value) : Except Fault MeasurementSet :=
  match registerDigits? member.1 with
  | none => .ok set
  | some digits => do
    let some index := registerIndex? digits | throw (.malformedBundle (.registerKey member.1))
    if set.contains index then throw (.malformedBundle (.repeatedRegister index))
    let some text := member.2.text? | throw (.malformedBundle (.registerNotText member.1))
    (set.insertHex index text).mapError fun error => .malformedBundle (.registerNotHex member.1 error)

def addClaims (set : MeasurementSet) : List (String × Json.Value) → Except Fault MeasurementSet
  | [] => .ok set
  | member :: rest => do addClaims (← addClaim set member) rest

/-- The registers that a predicate of the known type claims, at least one. -/
def measurements (statement : Statement) : Except Fault MeasurementSet := do
  let some predicate := Predicate.ofUri? statement.predicateType
    | throw (.missingClaim (.predicateType statement.predicateType))
  let set ← addClaims (.empty predicate) statement.predicate
  if set.isEmpty then throw (.missingClaim .noRegisters)
  return set

def subjectDigest? (digests : List (String × String)) : Option String :=
  (digests.reverse.find? fun entry => entry.1 == "sha256").map Prod.snd

def attests (statement : Statement) (digest : String) : Bool :=
  (statement.subjects.filterMap subjectDigest?).any fun found => Text.lowercase found == digest

end Statement

end EnclaveProvenance
