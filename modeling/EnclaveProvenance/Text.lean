import EnclaveProvenance.Text.Shapeless

/-!
Questions about texts, asked of their characters; texts in quotes; and parts of a text by offsets into
the octets of its encoding, which can be cut at its end and where a character starts, and nowhere
else.
-/

namespace EnclaveProvenance.Text

def after? (lead text : String) : Option String :=
  (lead.toList.isPrefixOf? text.toList).map String.ofList

def startsWith (text lead : String) : Bool := lead.toList.isPrefixOf text.toList

def afterFirst? (part : List Char) : List Char → Option (List Char)
  | [] => part.isPrefixOf? []
  | character :: rest =>
    match part.isPrefixOf? (character :: rest) with
    | some following => some following
    | none => afterFirst? part rest

def contains (text part : String) : Bool := (afterFirst? part.toList text.toList).isSome

def lowercase (text : String) : String := String.ofList (text.toList.map Char.toLower)

def dropTrailing (mark : Char) (text : String) : String :=
  String.ofList (text.toList.reverse.dropWhile (· == mark)).reverse

def parts (mark : Char) : List Char → List (List Char)
  | [] => [[]]
  | character :: rest =>
    if character = mark then [] :: parts mark rest
    else match parts mark rest with
      | [] => [[character]]
      | part :: later => (character :: part) :: later

def decimalDigit? (character : Char) : Option Nat :=
  if '0' ≤ character ∧ character ≤ '9' then some (character.toNat - 48) else none

def digits? (text : List Char) : Option Nat :=
  if text.isEmpty then none
  else text.foldl (fun value character => do
    return (← value) * 10 + (← decimalDigit? character)) (some 0)

def integer? (text : String) : Option Int :=
  match text.toList with
  | '-' :: digits => (digits? digits).map fun value => -(value : Int)
  | '+' :: digits => (digits? digits).map Int.ofNat
  | digits => (digits? digits).map Int.ofNat

/-- The characters with the Unicode property White_Space. -/
def isBlank (character : Char) : Bool :=
  let code := character.toNat
  9 ≤ code && code ≤ 13 || code == 0x20 || code == 0x85 || code == 0xA0 || code == 0x1680 ||
    0x2000 ≤ code && code ≤ 0x200A || code == 0x2028 || code == 0x2029 || code == 0x202F ||
    code == 0x205F || code == 0x3000

def trimBlanks (text : List Char) : List Char :=
  ((text.dropWhile isBlank).reverse.dropWhile isBlank).reverse

def trim (text : String) : String := String.ofList (trimBlanks text.toList)

/-- A character between two quotation marks of a kind; the other kind needs no backslash. -/
def quotedCharacter (mark character : Char) : List Char :=
  if character = mark ∨ character = '\\' then ['\\', character]
  else if character = '\n' then ['\\', 'n']
  else if character = '\r' then ['\\', 'r']
  else if character = '\t' then ['\\', 't']
  else if character.toNat = 0 then ['\\', '0']
  else if isShapeless character then
    ['\\', 'u', '\x7b'] ++ Nat.toDigits 16 character.toNat ++ ['\x7d']
  else [character]

def quoted (mark : Char) (text : List Char) : String :=
  String.ofList (mark :: text.flatMap (quotedCharacter mark) ++ [mark])

abbrev CanCut (text : String) (offset : Nat) : Prop := String.Pos.Raw.IsValid text ⟨offset⟩

def slice? (text : String) (start stop : Nat) : Option String :=
  if cuts : start ≤ stop ∧ CanCut text start ∧ CanCut text stop then
    some (text.extract ⟨⟨start⟩, cuts.2.1⟩ ⟨⟨stop⟩, cuts.2.2⟩)
  else none

structure CutFault where
  offset : Nat
deriving DecidableEq, Repr

/-- The part from an offset on. The offset has to be one at which the text can be cut. -/
def sliceFrom (text : String) (offset : Nat) : Except CutFault String :=
  match slice? text offset text.utf8ByteSize with
  | some rest => .ok rest
  | none => .error ⟨offset⟩

/-- The offsets at which a part occurs in characters whose first one is at `offset`. Each occurrence
starts behind the one before: `passed` characters are still to be passed over. -/
def occurrences (part : List Char) (offset passed : Nat) : List Char → List Nat
  | [] => []
  | character :: rest =>
    let next := offset + character.utf8Size
    match passed with
    | passed + 1 => occurrences part next passed rest
    | 0 =>
      if part.isPrefixOf (character :: rest) then
        offset :: occurrences part next (part.length - 1) rest
      else occurrences part next 0 rest

/-- Stands in a message for a decoder's own account of what is wrong, which is not kept. -/
def unstatedDetail : String := "<detail>"

end EnclaveProvenance.Text
