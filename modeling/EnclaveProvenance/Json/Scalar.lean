import EnclaveProvenance.Json.Scan

/-!
The strings and numbers that slices of a JSON text denote.
-/

namespace EnclaveProvenance.Json

def unicodeUnit (a b c d : UInt8) : Option Nat := do
  let a ← Hex.digitValue? a
  let b ← Hex.digitValue? b
  let c ← Hex.digitValue? c
  let d ← Hex.digitValue? d
  return a.toNat * 4096 + b.toNat * 256 + c.toNat * 16 + d.toNat

def isHighSurrogate (unit : Nat) : Bool := 0xD800 ≤ unit && unit ≤ 0xDBFF

def isLowSurrogate (unit : Nat) : Bool := 0xDC00 ≤ unit && unit ≤ 0xDFFF

def encodePoint (point : Nat) : Bytes := String.utf8EncodeChar (Char.ofNat point)

/-- The octets of a string after its opening quote. Surrogate escapes have to come in pairs. -/
def stringContent : Bytes → Option Bytes
  | [] => none
  | byte :: rest =>
    if byte = quote then if rest.isEmpty then some [] else none
    else if byte = backslash then
      match rest with
      | [] => none
      | letter :: following =>
        if letter = unicodeLetter then
          match following with
          | a :: b :: c :: d :: tail =>
            match unicodeUnit a b c d with
            | none => none
            | some high =>
              if isLowSurrogate high then none
              else if isHighSurrogate high then
                match tail with
                | slash :: mark :: e :: f :: g :: h :: later =>
                  if slash = backslash ∧ mark = unicodeLetter then
                    match unicodeUnit e f g h with
                    | none => none
                    | some low =>
                      if isLowSurrogate low then
                        (stringContent later).map
                          (encodePoint (0x10000 + (high - 0xD800) * 0x400 + (low - 0xDC00)) ++ ·)
                      else none
                  else none
                | _ => none
              else (stringContent tail).map (encodePoint high ++ ·)
          | _ => none
        else match escaped? letter with
          | some octet => (stringContent following).map (octet :: ·)
          | none => none
    else if byte < 0x20 then none
    else (stringContent rest).map (byte :: ·)

def string? (value : Bytes) : Option String :=
  match value with
  | byte :: rest => if byte = quote then (stringContent rest).bind Bytes.text? else none
  | [] => none

def digitsValue (digits : Bytes) : Nat :=
  digits.foldl (fun value byte => value * 10 + (byte.toNat - 48)) 0

def natural? (limit : Nat) (value : Bytes) : Option Nat :=
  if value.all isDigit ∧ (skipWhole value).isSome ∧ digitsValue value ≤ limit then
    some (digitsValue value)
  else none

def bool? (value : Bytes) : Option Bool :=
  if value = Bytes.ofText "true" then some true
  else if value = Bytes.ofText "false" then some false
  else none

def isNull (value : Bytes) : Bool := value == Bytes.ofText "null"

def list? {α : Type} (element : Bytes → Option α) (value : Bytes) : Option (List α) :=
  (elements? value).bind fun slices => slices.mapM element

def textMap? (value : Bytes) : Option (List (String × String)) :=
  (members? value).bind fun members => members.mapM fun member =>
    match string? member.key, string? member.value with
    | some key, some text => some (key, text)
    | _, _ => none

end EnclaveProvenance.Json
