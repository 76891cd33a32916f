import EnclaveProvenance.Hex
import EnclaveProvenance.Text
import EnclaveProvenance.Url.Punycode

/-!
Hosts of URLs: domain names, addresses of four octets and addresses of eight groups, each in its
normal form.
-/

namespace EnclaveProvenance.Url

def unescape : Bytes → Bytes
  | 0x25 :: high :: low :: rest =>
    match Hex.digitValue? high, Hex.digitValue? low with
    | some upper, some lower => (upper * 16 + lower) :: unescape rest
    | _, _ => 0x25 :: unescape (high :: low :: rest)
  | octet :: rest => octet :: unescape rest
  | [] => []

def isForbidden (character : Char) : Bool :=
  character.toNat ≤ 32 || character.toNat == 127 || "#%/:<>?@[\\]^|".toList.contains character

/-- The small letter of a letter of the alphabets of Latin-1, Greek and Cyrillic. -/
def small (character : Char) : Char :=
  let code := character.toNat
  if 0x41 ≤ code ∧ code ≤ 0x5A ∨ 0xC0 ≤ code ∧ code ≤ 0xDE ∧ code ≠ 0xD7 ∨
      0x391 ≤ code ∧ code ≤ 0x3AB ∧ code ≠ 0x3A2 ∨ 0x410 ≤ code ∧ code ≤ 0x42F then
    Char.ofNat (code + 32)
  else if 0x400 ≤ code ∧ code ≤ 0x40F then Char.ofNat (code + 80)
  else character

/-- What a character of a name is taken for: letters are small, wide forms are narrow, every full
stop separates labels, and what is not seen does not count. -/
def normalized (character : Char) : List Char :=
  let code := character.toNat
  if code = 0xAD ∨ code = 0x200B ∨ code = 0x2060 ∨ code = 0xFEFF then []
  else if code = 0x3002 ∨ code = 0xFF61 then ['.']
  else if 0xFF01 ≤ code ∧ code ≤ 0xFF5E then [small (Char.ofNat (code - 0xFEE0))]
  else [small character]

def asciiLabel (label : List Char) : List Char :=
  if label.all Punycode.isAscii then label else "xn--".toList ++ Punycode.encode label

def asciiDomain (name : List Char) : List Char :=
  ['.'].intercalate ((Text.parts '.' (name.flatMap normalized)).map asciiLabel)

def hexDigit? (character : Char) : Option Nat :=
  if Punycode.isAscii character then
    (Hex.digitValue? (UInt8.ofNat character.toNat)).map UInt8.toNat
  else none

def digitsIn? (base : Nat) (text : List Char) : Option Nat :=
  text.foldl (fun value character => do
    let digit ← hexDigit? character
    if digit < base then some ((← value) * base + digit) else none) (some 0)

/-- A part of an address: decimal, octal after `0`, or hexadecimal after `0x`. -/
def addressPart? : List Char → Option Nat
  | [] => none
  | '0' :: 'x' :: digits => digitsIn? 16 digits
  | '0' :: 'X' :: digits => digitsIn? 16 digits
  | ['0'] => some 0
  | '0' :: digits => digitsIn? 8 digits
  | digits => digitsIn? 10 digits

def dropLastEmpty (parts : List (List Char)) : List (List Char) :=
  if parts.getLast? = some [] then parts.dropLast else parts

def endsInNumber (name : List Char) : Bool :=
  match (dropLastEmpty (Text.parts '.' name)).getLast? with
  | some last =>
    !last.isEmpty && (last.all fun character => (Text.decimalDigit? character).isSome) ||
      (addressPart? last).isSome
  | none => false

/-- Of at most four numbers, the last one fills the octets that the others leave. -/
def addressValue? (numbers : List Nat) : Option Nat :=
  match numbers.reverse with
  | [] => none
  | last :: others =>
    if 3 < others.length ∨ others.any (255 < ·) ∨ Nat.pow 256 (4 - others.length) ≤ last then none
    else some (others.reverse.foldl (fun value octet => value * 256 + octet) 0 *
      Nat.pow 256 (4 - others.length) + last)

def readAddress? (name : List Char) : Option Nat :=
  ((dropLastEmpty (Text.parts '.' name)).mapM addressPart?).bind addressValue?

def addressText (value : Nat) : String :=
  String.intercalate "." ((Bytes.ofNat 4 value).map fun octet => toString octet.toNat)

def group? (text : List Char) : Option Nat :=
  if text.isEmpty ∨ 4 < text.length then none else digitsIn? 16 text

def octet? (text : List Char) : Option Nat :=
  match text with
  | '0' :: _ :: _ => none
  | _ => (Text.digits? text).bind fun value => if value ≤ 255 then some value else none

def lastGroups? (text : List Char) : Option (List Nat) :=
  match Text.parts '.' text with
  | [_] => (group? text).map fun value => [value]
  | parts => do
    match ← parts.mapM octet? with
    | [first, second, third, fourth] => some [first * 256 + second, third * 256 + fourth]
    | _ => none

def groups? (text : List Char) : Option (List Nat) :=
  if text.isEmpty then some [] else (Text.parts ':' text).mapM group?

def closingGroups? (text : List Char) : Option (List Nat) :=
  if text.isEmpty then some []
  else
    let parts := Text.parts ':' text
    do return (← parts.dropLast.mapM group?) ++ (← lastGroups? (parts.getLastD []))

def readGroups? (text : List Char) : Option (List Nat) :=
  match Text.afterFirst? "::".toList text with
  | none => (closingGroups? text).bind fun groups => if groups.length = 8 then some groups else none
  | some after => do
    let before ← groups? (text.take (text.length - after.length - 2))
    let later ← closingGroups? after
    if before.length + later.length < 8 then
      some (before ++ List.replicate (8 - before.length - later.length) 0 ++ later)
    else none

def zeroRun (groups : List Nat) : Nat := (groups.takeWhile (· = 0)).length

def longestZeroRun (place : Nat) : List Nat → Nat × Nat
  | [] => (place, 0)
  | group :: rest =>
    let later := longestZeroRun (place + 1) rest
    if later.2 ≤ zeroRun (group :: rest) then (place, zeroRun (group :: rest)) else later

def groupsText (groups : List Nat) : String :=
  let written (part : List Nat) : String :=
    String.intercalate ":" (part.map fun group => String.ofList (Nat.toDigits 16 group))
  let (place, length) := longestZeroRun 0 groups
  if length < 2 then written groups
  else written (groups.take place) ++ "::" ++ written (groups.drop (place + length))

def host? (text : List Char) : Option String :=
  match text with
  | '[' :: rest =>
    if rest.getLast? = some ']' then
      (readGroups? rest.dropLast).map fun groups => "[" ++ groupsText groups ++ "]"
    else none
  | _ => do
    let name ← Bytes.text? (unescape (Bytes.ofText (String.ofList text)))
    let domain := asciiDomain name.toList
    if domain.isEmpty ∨ domain.any isForbidden then none
    else if endsInNumber domain then (readAddress? domain).map addressText
    else some (String.ofList domain)

end EnclaveProvenance.Url
