import EnclaveProvenance.Hex

/-!
Where the values of a JSON text end (RFC 8259). A value is handled as the slice of the text that
it occupies; nothing is built here, so nesting is limited by the text alone.
-/

namespace EnclaveProvenance.Json

def isSpace (byte : UInt8) : Bool := byte == 0x20 || byte == 0x09 || byte == 0x0A || byte == 0x0D

def isDigit (byte : UInt8) : Bool := 0x30 ≤ byte && byte ≤ 0x39

def quote : UInt8 := 0x22

def backslash : UInt8 := 0x5C

def comma : UInt8 := 0x2C

def colon : UInt8 := 0x3A

def openBracket : UInt8 := 0x5B

def closeBracket : UInt8 := 0x5D

def openBrace : UInt8 := 0x7B

def closeBrace : UInt8 := 0x7D

def skipSpace (text : Bytes) : Bytes := text.dropWhile isSpace

def escaped? (letter : UInt8) : Option UInt8 :=
  if letter = 0x22 ∨ letter = 0x5C ∨ letter = 0x2F then some letter
  else if letter = 0x62 then some 0x08
  else if letter = 0x66 then some 0x0C
  else if letter = 0x6E then some 0x0A
  else if letter = 0x72 then some 0x0D
  else if letter = 0x74 then some 0x09
  else none

def unicodeLetter : UInt8 := 0x75

/-- What follows a string whose opening quote has been read. Neither the encoding of its
characters nor the pairing of surrogates is looked at. -/
def skipString : Bytes → Option Bytes
  | [] => none
  | byte :: rest =>
    if byte = quote then some rest
    else if byte = backslash then
      match rest with
      | [] => none
      | letter :: following =>
        if letter = unicodeLetter then
          match following with
          | a :: b :: c :: d :: tail => if [a, b, c, d].all Hex.isDigit then skipString tail else none
          | _ => none
        else if (escaped? letter).isSome then skipString following
        else none
    else if byte < 0x20 then none
    else skipString rest

def skipDigits (text : Bytes) : Option Bytes :=
  match text with
  | byte :: rest => if isDigit byte then some (rest.dropWhile isDigit) else none
  | [] => none

def skipFraction (text : Bytes) : Option Bytes :=
  match text with
  | byte :: rest => if byte = 0x2E then skipDigits rest else some text
  | [] => some text

def skipSign (text : Bytes) : Bytes :=
  match text with
  | byte :: rest => if byte = 0x2B ∨ byte = 0x2D then rest else text
  | [] => text

def skipExponent (text : Bytes) : Option Bytes :=
  match text with
  | byte :: rest => if byte = 0x65 ∨ byte = 0x45 then skipDigits (skipSign rest) else some text
  | [] => some text

def skipWhole (text : Bytes) : Option Bytes :=
  match text with
  | byte :: rest => if byte = 0x30 then some rest else skipDigits text
  | [] => none

def skipMinus (text : Bytes) : Bytes :=
  match text with
  | byte :: rest => if byte = 0x2D then rest else text
  | [] => text

def skipNumber (text : Bytes) : Option Bytes := do
  skipExponent (← skipFraction (← skipWhole (skipMinus text)))

def skipScalar (text : Bytes) : Option Bytes :=
  match (Bytes.ofText "null").isPrefixOf? text with
  | some rest => some rest
  | none =>
    match (Bytes.ofText "true").isPrefixOf? text with
    | some rest => some rest
    | none =>
      match (Bytes.ofText "false").isPrefixOf? text with
      | some rest => some rest
      | none => skipNumber text

def skipKey (text : Bytes) : Option Bytes :=
  match text with
  | byte :: rest =>
    if byte = quote then
      match skipString rest with
      | none => none
      | some after =>
        match skipSpace after with
        | mark :: following => if mark = colon then some (skipSpace following) else none
        | [] => none
    else none
  | [] => none

mutual

def skipValue : Nat → Bytes → Option Bytes
  | 0, _ => none
  | fuel + 1, text =>
    match text with
    | [] => none
    | byte :: rest =>
      if byte = quote then skipString rest
      else if byte = openBracket then
        match skipSpace rest with
        | [] => none
        | first :: following =>
          if first = closeBracket then some following else skipElements fuel (first :: following)
      else if byte = openBrace then
        match skipSpace rest with
        | [] => none
        | first :: following =>
          if first = closeBrace then some following else skipMembers fuel (first :: following)
      else skipScalar text

def skipElements : Nat → Bytes → Option Bytes
  | 0, _ => none
  | fuel + 1, text =>
    match skipValue fuel text with
    | none => none
    | some after =>
      match skipSpace after with
      | [] => none
      | mark :: following =>
        if mark = closeBracket then some following
        else if mark = comma then skipElements fuel (skipSpace following)
        else none

def skipMembers : Nat → Bytes → Option Bytes
  | 0, _ => none
  | fuel + 1, text =>
    match skipKey text with
    | none => none
    | some start =>
      match skipValue fuel start with
      | none => none
      | some after =>
        match skipSpace after with
        | [] => none
        | mark :: following =>
          if mark = closeBrace then some following
          else if mark = comma then skipMembers fuel (skipSpace following)
          else none

end

/-- The slice of the one value in a text, without the space around it. -/
def document? (text : Bytes) : Option Bytes :=
  let start := skipSpace text
  match skipValue start.length start with
  | none => none
  | some rest => if (skipSpace rest).isEmpty then some (start.before rest) else none

def elementSlices : Nat → Bytes → Option (List Bytes)
  | 0, _ => none
  | fuel + 1, text =>
    match skipValue fuel text with
    | none => none
    | some after =>
      match skipSpace after with
      | [] => none
      | mark :: following =>
        if mark = closeBracket then some [text.before after]
        else if mark = comma then
          (elementSlices fuel (skipSpace following)).map (text.before after :: ·)
        else none

def elements? (value : Bytes) : Option (List Bytes) :=
  match value with
  | [] => none
  | byte :: rest =>
    if byte = openBracket then
      match skipSpace rest with
      | [] => none
      | first :: following =>
        if first = closeBracket then some [] else elementSlices value.length (first :: following)
    else none

structure Member where
  key : Bytes
  value : Bytes
deriving DecidableEq, Repr

def keySlice (text : Bytes) : Bytes :=
  match skipString text.tail with
  | some after => text.before after
  | none => []

def memberSlices : Nat → Bytes → Option (List Member)
  | 0, _ => none
  | fuel + 1, text =>
    match skipKey text with
    | none => none
    | some start =>
      match skipValue fuel start with
      | none => none
      | some after =>
        let member := ⟨keySlice text, start.before after⟩
        match skipSpace after with
        | [] => none
        | mark :: following =>
          if mark = closeBrace then some [member]
          else if mark = comma then (memberSlices fuel (skipSpace following)).map (member :: ·)
          else none

def members? (value : Bytes) : Option (List Member) :=
  match value with
  | [] => none
  | byte :: rest =>
    if byte = openBrace then
      match skipSpace rest with
      | [] => none
      | first :: following =>
        if first = closeBrace then some [] else memberSlices value.length (first :: following)
    else none

end EnclaveProvenance.Json
