import EnclaveProvenance.Cbor.Content
import EnclaveProvenance.Fault.Evidence

/-!
What an attestation document claims: the signed payload, its fields, and the limits on them.
-/

namespace EnclaveProvenance.Attestation

open Cbor (Item)

structure Payload where
  moduleId : String
  digest : String
  timestamp : Nat
  measurements : MeasurementSet
  certificate : Bytes
  /-- The certificates of the authorities, the root first. -/
  authorities : List Bytes
  publicKey : Option Bytes
  userData : Option Bytes
  nonce : Option Bytes
deriving DecidableEq

namespace Payload

def fieldNames : List String :=
  ["module_id", "digest", "timestamp", "pcrs", "certificate", "cabundle", "public_key",
    "user_data", "nonce"]

def unknownLevels : Nat := Item.nestingLimit - 1

/-- The entry of a declared field by its name; `some none` for an entry that is skipped. -/
def entry? (entry : Item × Item) : Option (Option (String × Item)) :=
  match entry.1.name? with
  | none => none
  | some octets =>
    match fieldNames.find? fun name => Bytes.ofText name == octets with
    | some name => some (some (name, entry.2))
    | none => if entry.2.fits unknownLevels then some none else none

def fields? (entries : List (Item × Item)) : Option (List (String × Item)) := do
  let found ← entries.mapM entry?
  let fields := found.filterMap id
  if (fields.map Prod.fst).Nodup then some fields else none

def addRegister (set : MeasurementSet) (entry : Item × Item) : Option MeasurementSet := do
  let index ← entry.1.natural? (UInt32.size - 1)
  let value ← entry.2.octets?
  return set.insert (UInt32.ofNat index) value

/-- Of several values for a register, the last one counts. -/
def measurements? (item : Item) : Option MeasurementSet :=
  item.entries?.bind fun entries => entries.foldlM addRegister (.empty .awsNitroEnclaveV1)

def required {α : Type} (fields : List (String × Item)) (name : String)
    (decode : Item → Option α) : Option α :=
  (fields.lookup name).bind decode

def optional {α : Type} (fields : List (String × Item)) (name : String)
    (decode : Item → Option α) : Option (Option α) :=
  match fields.lookup name with
  | some item => item.optional? decode
  | none => some none

def ofFields? (fields : List (String × Item)) : Option Payload := do
  return {
    moduleId := ← required fields "module_id" Item.text?
    digest := ← required fields "digest" Item.text?
    timestamp := ← required fields "timestamp" (Item.natural? (UInt64.size - 1))
    measurements := ← required fields "pcrs" measurements?
    certificate := ← required fields "certificate" Item.octets?
    authorities := ← required fields "cabundle" (Item.list? Item.octets?)
    publicKey := ← optional fields "public_key" Item.octets?
    userData := ← optional fields "user_data" Item.octets?
    nonce := ← optional fields "nonce" Item.octets? }

/-- Reads the map that a text starts with; what follows it does not count. -/
def read? (text : Bytes) : Option Payload := do
  let (item, _) ← Cbor.firstItem? text
  ofFields? (← fields? (← item.entries?))

def maxRegisters : Nat := 32

def registerLengths : List Nat := [32, 48, 64]

def maxCertificate : Nat := 1024

def maxPublicKey : Nat := 1024

def maxUserData : Nat := 512

def maxNonce : Nat := 512

def checkRegister (register : Register) : Except DocumentDefect Unit :=
  if maxRegisters ≤ register.index.toNat then .error (.registerIndex register.index)
  else if registerLengths.contains register.value.length then .ok ()
  else .error (.registerLength register.index register.value.length)

def checkRegisters : List Register → Except DocumentDefect Unit
  | [] => .ok ()
  | register :: rest => do
    checkRegister register
    checkRegisters rest

def checkCertificates : List Bytes → Except DocumentDefect Unit
  | [] => .ok ()
  | certificate :: rest =>
    if certificate.length = 0 ∨ maxCertificate < certificate.length then
      .error (.certificateLength certificate.length)
    else checkCertificates rest

def checkLength (field : String) (limit : Nat) (value : Option Bytes) :
    Except DocumentDefect Unit :=
  if limit < (value.getD []).length then .error (.tooLong field limit) else .ok ()

def check (payload : Payload) : Except DocumentDefect Unit := do
  if payload.moduleId = "" then throw .emptyModuleId
  if payload.digest ≠ "SHA384" then throw (.digest payload.digest)
  if payload.timestamp = 0 then throw .zeroTimestamp
  let count := payload.measurements.size
  if count = 0 ∨ maxRegisters < count then throw (.registerCount count)
  checkRegisters payload.measurements.registers
  if payload.authorities = [] then throw .emptyAuthorities
  checkCertificates (payload.authorities ++ [payload.certificate])
  checkLength "public_key" maxPublicKey payload.publicKey
  checkLength "user_data" maxUserData payload.userData
  checkLength "nonce" maxNonce payload.nonce

def ofBytes (text : Bytes) : Except DocumentDefect Payload := do
  let some payload := read? text | throw .payload
  payload.check
  return payload

end Payload

end EnclaveProvenance.Attestation
