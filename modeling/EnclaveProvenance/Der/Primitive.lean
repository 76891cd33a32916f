import EnclaveProvenance.Der.ObjectIdentifier
import EnclaveProvenance.Calendar

/-!
The primitive types that certificates are made of.
-/

namespace EnclaveProvenance.Der

def booleanTag : UInt8 := 0x01

def integerTag : UInt8 := 0x02

def bitStringTag : UInt8 := 0x03

def octetStringTag : UInt8 := 0x04

def utf8StringTag : UInt8 := 0x0C

def printableStringTag : UInt8 := 0x13

def teletexStringTag : UInt8 := 0x14

def ia5StringTag : UInt8 := 0x16

def utcTimeTag : UInt8 := 0x17

def generalizedTimeTag : UInt8 := 0x18

def sequenceTag : UInt8 := 0x30

def setTag : UInt8 := 0x31

namespace Element

def contentOf? (element : Element) (tag : UInt8) : Option Bytes :=
  if element.tag = tag then some element.content else none

def inside? (element : Element) (tag : UInt8) : Option (List Element) :=
  (element.contentOf? tag).bind elements?

def boolean? (element : Element) : Option Bool :=
  match element.contentOf? booleanTag with
  | some [0x00] => some false
  | some [0xFF] => some true
  | _ => none

def isMinimalInteger (content : Bytes) : Bool :=
  match content with
  | [] => false
  | [_] => true
  | first :: second :: _ => !(first == 0x00 && second < 0x80) && !(first == 0xFF && 0x80 ≤ second)

def integerContent? (element : Element) : Option Bytes :=
  (element.contentOf? integerTag).filter isMinimalInteger

def natural? (element : Element) : Option Nat :=
  match element.integerContent? with
  | some (first :: rest) => if first < 0x80 then some (Bytes.toNat (first :: rest)) else none
  | _ => none

end Element

structure BitString where
  unused : UInt8
  bytes : Bytes
deriving DecidableEq, Repr

namespace BitString

def ofContent? (content : Bytes) : Option BitString :=
  match content with
  | [] => none
  | unused :: bytes =>
    if 7 < unused ∨ unused ≠ 0 ∧ bytes.isEmpty then none else some ⟨unused, bytes⟩

def ofElement? (element : Element) : Option BitString :=
  (element.contentOf? bitStringTag).bind ofContent?

def content (bits : BitString) : Bytes := bits.unused :: bits.bytes

def element (bits : BitString) : Element := ⟨bitStringTag, bits.content⟩

def octets? (bits : BitString) : Option Bytes := if bits.unused = 0 then some bits.bytes else none

end BitString

structure Time where
  element : Element
  seconds : Nat
deriving DecidableEq, Repr

namespace Time

open Calendar in
def inYear? (year : Nat) (text : List Char) : Option Nat := do
  let (month, text) ← readDigits? 2 text
  let (day, text) ← readDigits? 2 text
  let (hour, text) ← readDigits? 2 text
  let (minute, text) ← readDigits? 2 text
  let (second, text) ← readDigits? 2 text
  let date : Date := ⟨year, month, day⟩
  if text = ['Z'] ∧ 1970 ≤ year ∧ date.isValid ∧ hour ≤ 23 ∧ minute ≤ 59 ∧ second ≤ 59 then
    some (Calendar.seconds date hour minute second).toNat
  else none

/-- Years of two digits lie between 1950 and 2049. -/
def utc? (text : List Char) : Option Nat := do
  let (year, rest) ← Calendar.readDigits? 2 text
  inYear? (if 50 ≤ year then 1900 + year else 2000 + year) rest

def generalized? (text : List Char) : Option Nat := do
  let (year, rest) ← Calendar.readDigits? 4 text
  inYear? year rest

def ofElement? (element : Element) : Option Time :=
  let text := element.content.map fun byte => Char.ofNat byte.toNat
  if element.tag = utcTimeTag then (utc? text).map fun seconds => ⟨element, seconds⟩
  else if element.tag = generalizedTimeTag then (generalized? text).map fun seconds => ⟨element, seconds⟩
  else none

end Time

def isPrintable (byte : UInt8) : Bool :=
  65 ≤ byte && byte ≤ 90 || 97 ≤ byte && byte ≤ 122 || 48 ≤ byte && byte ≤ 57 ||
    (Bytes.ofText " '()+,-./:=?").contains byte

def Element.text? (element : Element) : Option String :=
  if element.tag = utf8StringTag then Bytes.text? element.content
  else if element.tag = printableStringTag then
    if element.content.all isPrintable then Bytes.text? element.content else none
  else if element.tag = ia5StringTag ∨ element.tag = teletexStringTag then
    if element.content.all (· < 0x80) then Bytes.text? element.content else none
  else none

end EnclaveProvenance.Der
