import EnclaveProvenance.Json.Scalar

/-!
JSON values of any shape, built with a limit on their nesting and on the size of their numbers.
-/

namespace EnclaveProvenance.Json

inductive Value
  | null
  | bool (value : Bool)
  | number (text : Bytes)
  | string (text : String)
  | list (elements : List Value)
  | object (members : List (String × Value))

/-- The nearest number with 53 significant bits, a tie going to the even one. -/
def round53 (value : Nat) : Nat :=
  let drop := value.log2 - 52
  let unit := Nat.pow 2 drop
  let floor := value / unit
  let rest := value % unit
  if 2 * rest > unit ∨ 2 * rest = unit ∧ floor % 2 = 1 then (floor + 1) * unit else floor * unit

/-- The leading digits of a number as far as they fit 64 bits, and the power of ten they are
multiplied by. -/
structure Significand where
  value : Nat
  exponent : Int
  full : Bool

namespace Significand

/-- Once one digit of the whole part does not fit, all later digits count as places only. -/
def addWhole (number : Significand) (digit : Nat) : Significand :=
  if number.full then { number with exponent := number.exponent + 1 }
  else if number.value * 10 + digit < UInt64.size then
    { number with value := number.value * 10 + digit }
  else { number with exponent := number.exponent + 1, full := true }

def addFraction (number : Significand) (digit : Nat) : Significand :=
  if number.full then number
  else if number.value * 10 + digit < UInt64.size then
    { number with value := number.value * 10 + digit, exponent := number.exponent - 1 }
  else { number with full := true }

def tooLarge (number : Significand) : Bool :=
  number.value ≠ 0 && 0 ≤ number.exponent &&
    (308 < number.exponent ||
      Nat.pow 2 1024 - Nat.pow 2 970 ≤
        round53 number.value * round53 (Nat.pow 10 number.exponent.toNat))

end Significand

def exponentOf (text : Bytes) : Int :=
  match text.dropWhile (fun byte => byte ≠ 0x65 && byte ≠ 0x45) with
  | _ :: sign :: digits =>
    if sign = 0x2D then -(digitsValue digits : Int)
    else if sign = 0x2B then digitsValue digits
    else digitsValue (sign :: digits)
  | _ => 0

def significandOf (text : Bytes) : Significand :=
  let unsigned := skipMinus text
  let whole := unsigned.takeWhile isDigit
  let fraction := ((unsigned.dropWhile isDigit).drop 1).takeWhile isDigit
  let hasFraction := ((unsigned.dropWhile isDigit).head?) == some 0x2E
  let start := whole.foldl
    (fun (number : Significand) byte => number.addWhole (byte.toNat - 48)) ⟨0, 0, false⟩
  let number :=
    if hasFraction then fraction.foldl
      (fun (number : Significand) byte => number.addFraction (byte.toNat - 48)) start
    else start
  { number with exponent := number.exponent + exponentOf text }

namespace Value

/-- The key of an object that stands for the JSON text in its only member. -/
def embeddingKey : String := "$serde_json::private::RawValue"

def embeds (members : List Member) : Bool :=
  (members.head?.bind fun member => string? member.key) == some embeddingKey

def onlyText? : List Member → Option String
  | [member] => string? member.value
  | _ => none

def keyed? (inner : Bytes → Option Value) (member : Member) : Option (String × Value) :=
  match string? member.key, inner member.value with
  | some key, some content => some (key, content)
  | _, _ => none

/-- The value of an object, by readers of the texts embedded in it and of the values of its members. -/
def ofMembers? (embedded inner : Bytes → Option Value) (members : List Member) : Option Value :=
  if embeds members then (onlyText? members).bind fun text => embedded (Bytes.ofText text)
  else (members.mapM (keyed? inner)).map .object

def readWith (embedded : Bytes → Option Value) (depth : Nat) (value : Bytes) : Option Value :=
  if isNull value then some .null
  else match bool? value with
  | some truth => some (.bool truth)
  | none =>
    match value.head? with
    | none => none
    | some first =>
      if first = quote then (string? value).map .string
      else if first = openBracket then
        match depth with
        | 0 => none
        | depth + 1 => (list? (readWith embedded depth) value).map .list
      else if first = openBrace then
        match depth with
        | 0 => none
        | depth + 1 => (members? value).bind (ofMembers? embedded (readWith embedded depth))
      else if (significandOf value).tooLarge then none
      else some (.number value)

def depthLimit : Nat := 127

/-- Reads a text with fewer than so many texts embedded in one another. Each of them has the whole
depth to itself. -/
def ofTextWithin : Nat → Bytes → Option Value
  | 0, _ => none
  | count + 1, text => (document? text).bind (readWith (ofTextWithin count) depthLimit)

/-- An embedded text is shorter than the text around it, so that the count does not run out. -/
def ofText? (text : Bytes) : Option Value := ofTextWithin (text.length + 1) text

def read (depth : Nat) (value : Bytes) : Option Value := readWith ofText? depth value

/-- The member of a key; of several, the last. -/
def member? (value : Value) (key : String) : Option Value :=
  match value with
  | .object members => (members.reverse.find? fun entry => entry.1 == key).map Prod.snd
  | _ => none

def follow? (value : Value) (path : List String) : Option Value :=
  path.foldl (fun found key => found.bind fun inner => inner.member? key) (some value)

def text? : Value → Option String
  | .string text => some text
  | _ => none

def elements? : Value → Option (List Value)
  | .list elements => some elements
  | _ => none

end Value

end EnclaveProvenance.Json
