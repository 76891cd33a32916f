import EnclaveProvenance.Hex

/-!
Platform configuration registers measured by one attestation: a map from register index to bytes
whose last written value wins.
-/

namespace EnclaveProvenance

abbrev RegisterIndex := UInt32

inductive Predicate
  | awsNitroEnclaveV1
  | unknown
deriving DecidableEq, Repr

def Predicate.text : Predicate → String
  | .awsNitroEnclaveV1 => "https://tinfoil.sh/predicate/aws-nitro-enclave/v1"
  | .unknown => "unknown"

def Predicate.ofUri? (uri : String) : Option Predicate :=
  if uri = Predicate.awsNitroEnclaveV1.text then some .awsNitroEnclaveV1 else none

structure Register where
  index : RegisterIndex
  value : Bytes
deriving DecidableEq, Repr

namespace Register

def Ascending (registers : List Register) : Prop :=
  registers.Pairwise fun earlier later => earlier.index < later.index

def place (register : Register) : List Register → List Register
  | [] => [register]
  | head :: rest =>
    if register.index < head.index then register :: head :: rest
    else if register.index = head.index then register :: rest
    else head :: place register rest

theorem mem_place {register other : Register} {registers : List Register}
    (member : other ∈ place register registers) : other = register ∨ other ∈ registers := by
  induction registers with
  | nil => simpa [place] using member
  | cons head rest ih =>
    unfold place at member
    split at member
    · simpa using member
    · split at member
      · rcases List.mem_cons.1 member with same | inRest
        · exact .inl same
        · exact .inr (List.mem_cons_of_mem _ inRest)
      · rcases List.mem_cons.1 member with same | inRest
        · exact .inr (same ▸ List.mem_cons_self)
        · exact (ih inRest).imp_right (List.mem_cons_of_mem _)

theorem ascending_place {register : Register} {registers : List Register}
    (ascending : Ascending registers) : Ascending (place register registers) := by
  induction registers with
  | nil => simp [place, Ascending]
  | cons head rest ih =>
    have ⟨below, restAscending⟩ := List.pairwise_cons.1 ascending
    unfold place
    split
    · next first =>
      refine List.pairwise_cons.2 ⟨fun other member => ?_, ascending⟩
      rcases List.mem_cons.1 member with same | inRest
      · exact same ▸ first
      · exact UInt32.lt_trans first (below other inRest)
    · next notFirst =>
      split
      · next same =>
        exact List.pairwise_cons.2
          ⟨fun other member => same ▸ below other member, restAscending⟩
      · next differs =>
        refine List.pairwise_cons.2 ⟨fun other member => ?_, ih restAscending⟩
        rcases mem_place member with same | inRest
        · subst same
          exact UInt32.lt_of_le_of_ne (UInt32.not_lt.1 notFirst) (Ne.symm differs)
        · exact below other inRest

end Register

/-- Values are kept as bytes, so the case of the hexadecimal text they came from does not count. -/
structure MeasurementSet where
  predicate : Predicate
  registers : List Register
  ascending : Register.Ascending registers
deriving DecidableEq

namespace MeasurementSet

def empty (predicate : Predicate) : MeasurementSet := ⟨predicate, [], .nil⟩

def insert (set : MeasurementSet) (index : RegisterIndex) (value : Bytes) : MeasurementSet :=
  { set with
    registers := Register.place ⟨index, value⟩ set.registers
    ascending := Register.ascending_place set.ascending }

def insertHex (set : MeasurementSet) (index : RegisterIndex) (text : String) :
    Except Hex.Error MeasurementSet :=
  (Hex.decode text).map (set.insert index)

def get? (set : MeasurementSet) (index : RegisterIndex) : Option Bytes :=
  (set.registers.find? fun register => register.index == index).map Register.value

def hex? (set : MeasurementSet) (index : RegisterIndex) : Option String :=
  (set.get? index).map Hex.encode

def contains (set : MeasurementSet) (index : RegisterIndex) : Bool := (set.get? index).isSome

def size (set : MeasurementSet) : Nat := set.registers.length

def isEmpty (set : MeasurementSet) : Bool := set.registers.isEmpty

end MeasurementSet

end EnclaveProvenance
