import EnclaveProvenance.Bytes

/-!
Base64 with the standard alphabet. Reading accepts exactly the canonical form: padding is
required, the bits that padding leaves over are zero, and nothing stands between the symbols.
-/

namespace EnclaveProvenance.Base64

def symbol (value : Nat) : Char :=
  if value < 26 then Char.ofNat (65 + value)
  else if value < 52 then Char.ofNat (71 + value)
  else if value < 62 then Char.ofNat (value - 4)
  else if value = 62 then '+'
  else '/'

def value? (symbol : Char) : Option Nat :=
  let code := symbol.toNat
  if 65 ≤ code ∧ code ≤ 90 then some (code - 65)
  else if 97 ≤ code ∧ code ≤ 122 then some (code - 71)
  else if 48 ≤ code ∧ code ≤ 57 then some (code + 4)
  else if symbol = '+' then some 62
  else if symbol = '/' then some 63
  else none

def encodeSymbols : Bytes → List Char
  | [] => []
  | [first] => [symbol (first.toNat / 4), symbol (first.toNat % 4 * 16), '=', '=']
  | [first, second] =>
    [symbol (first.toNat / 4), symbol (first.toNat % 4 * 16 + second.toNat / 16),
      symbol (second.toNat % 16 * 4), '=']
  | first :: second :: third :: rest =>
    symbol (first.toNat / 4) :: symbol (first.toNat % 4 * 16 + second.toNat / 16) ::
      symbol (second.toNat % 16 * 4 + third.toNat / 64) :: symbol (third.toNat % 64) ::
      encodeSymbols rest

def encode (bytes : Bytes) : String := String.ofList (encodeSymbols bytes)

def decodeSymbols : List Char → Option Bytes
  | [] => some []
  | [first, second, '=', '='] => do
    let first ← value? first
    let second ← value? second
    if second % 16 = 0 then some [UInt8.ofNat (first * 4 + second / 16)] else none
  | [first, second, third, '='] => do
    let first ← value? first
    let second ← value? second
    let third ← value? third
    if third % 4 = 0 then
      some [UInt8.ofNat (first * 4 + second / 16), UInt8.ofNat (second % 16 * 16 + third / 4)]
    else none
  | first :: second :: third :: fourth :: rest => do
    let first ← value? first
    let second ← value? second
    let third ← value? third
    let fourth ← value? fourth
    let tail ← decodeSymbols rest
    some (UInt8.ofNat (first * 4 + second / 16) :: UInt8.ofNat (second % 16 * 16 + third / 4) ::
      UInt8.ofNat (third % 4 * 64 + fourth) :: tail)
  | _ => none

def decode (text : String) : Option Bytes := decodeSymbols text.toList

end EnclaveProvenance.Base64
