import EnclaveProvenance.Bytes
import EnclaveProvenance.Text

/-!
Hexadecimal text of byte strings. Writing uses lowercase digits; reading accepts both cases and
says which octet of the text is wrong.
-/

namespace EnclaveProvenance.Hex

def digit (value : Nat) : Char :=
  if value < 10 then Char.ofNat (48 + value) else Char.ofNat (87 + value)

def octet (byte : UInt8) : List Char := [digit (byte.toNat / 16), digit (byte.toNat % 16)]

def encode (bytes : Bytes) : String := String.ofList (bytes.flatMap octet)

def digitValue? (byte : UInt8) : Option UInt8 :=
  if 48 ≤ byte ∧ byte ≤ 57 then some (byte - 48)
  else if 97 ≤ byte ∧ byte ≤ 102 then some (byte - 87)
  else if 65 ≤ byte ∧ byte ≤ 70 then some (byte - 55)
  else none

def isDigit (byte : UInt8) : Bool := (digitValue? byte).isSome

inductive Error
  | oddLength
  | invalidOctet (byte : UInt8) (position : Nat)
deriving DecidableEq, Repr

def decodePairs (position : Nat) : Bytes → Except Error Bytes
  | high :: low :: rest =>
    match digitValue? high, digitValue? low with
    | none, _ => .error (.invalidOctet high position)
    | some _, none => .error (.invalidOctet low (position + 1))
    | some upper, some lower => do
      let tail ← decodePairs (position + 2) rest
      return (upper * 16 + lower) :: tail
  | _ => .ok []

/-- An odd length is reported before any wrong digit. -/
def decode (text : String) : Except Error Bytes :=
  let octets := Bytes.ofText text
  if octets.length % 2 = 1 then .error .oddLength else decodePairs 0 octets

def quoted (byte : UInt8) : String := Text.quoted '\'' [Char.ofNat byte.toNat]

def Error.message : Error → String
  | .oddLength => "Odd number of digits"
  | .invalidOctet byte position => s!"Invalid character {quoted byte} at position {position}"

end EnclaveProvenance.Hex
