import EnclaveProvenance.Bytes

/-!
CBOR data items. Reading accepts heads of any width and strings, arrays and maps of indefinite
length; writing uses the shortest heads and definite lengths.
-/

namespace EnclaveProvenance.Cbor

/-- The pieces of a string of indefinite length are joined; `definite` tells it from a string whose
length stands in its head. -/
inductive Item
  | natural (value : Nat)
  /-- The number `-1 - value`. -/
  | negative (value : Nat)
  | bytes (definite : Bool) (content : Bytes)
  | text (definite : Bool) (content : String)
  | array (items : List Item)
  | map (entries : List (Item × Item))
  | tag (number : Nat) (content : Item)
  | boolean (value : Bool)
  | null
  | undefined
  | simple (value : Nat)
  | float (width bits : Nat)

def bytesMajor : Nat := 2
def textMajor : Nat := 3
def arrayMajor : Nat := 4
def mapMajor : Nat := 5
def tagMajor : Nat := 6
def simpleMajor : Nat := 7

def stopCode : UInt8 := 0xFF

/-- The first octet of an item in its two parts, and the number they stand for or announce; an
indefinite length is no number. -/
structure Head where
  major : Nat
  info : Nat
  argument : Option Nat
deriving DecidableEq, Repr

def readArgument (major info width : Nat) (rest : Bytes) : Option (Head × Bytes) :=
  let octets := rest.take width
  if octets.length = width then some (⟨major, info, some (Bytes.toNat octets)⟩, rest.drop width) else none

def readHead : Bytes → Option (Head × Bytes)
  | [] => none
  | first :: rest =>
    let major := first.toNat / 32
    let info := first.toNat % 32
    if info < 24 then some (⟨major, info, some info⟩, rest)
    else if info = 24 then readArgument major info 1 rest
    else if info = 25 then readArgument major info 2 rest
    else if info = 26 then readArgument major info 4 rest
    else if info = 27 then readArgument major info 8 rest
    else if info = 31 then some (⟨major, info, none⟩, rest)
    else none

def readContent (length : Nat) (rest : Bytes) : Option (Bytes × Bytes) :=
  let content := rest.take length
  if content.length = length then some (content, rest.drop length) else none

/-- The pieces of a string of indefinite length, up to the stop code that ends it. Such strings may
stand in each other; `nested` more of them are open. -/
def readPieces (major : Nat) : Nat → Nat → Bytes → Option (List Bytes × Bytes)
  | 0, _, _ => none
  | fuel + 1, nested, text =>
    if text.head? = some stopCode then
      match nested with
      | 0 => some ([], text.drop 1)
      | nested + 1 => readPieces major fuel nested (text.drop 1)
    else match readHead text with
      | none => none
      | some (head, rest) =>
        if head.major = major then
          match head.argument with
          | none => readPieces major fuel (nested + 1) rest
          | some length =>
            match readContent length rest with
            | none => none
            | some (piece, rest) =>
              (readPieces major fuel nested rest).map fun (pieces, rest) => (piece :: pieces, rest)
        else none

def simpleItem (info argument : Nat) : Item :=
  if info = 25 then .float 2 argument
  else if info = 26 then .float 4 argument
  else if info = 27 then .float 8 argument
  else if argument = 20 then .boolean false
  else if argument = 21 then .boolean true
  else if argument = 22 then .null
  else if argument = 23 then .undefined
  else .simple argument

def pairUp : List Item → Option (List (Item × Item))
  | [] => some []
  | [_] => none
  | key :: value :: rest => (pairUp rest).map ((key, value) :: ·)

mutual

def readItem : Nat → Bytes → Option (Item × Bytes)
  | 0, _ => none
  | fuel + 1, text =>
    match readHead text with
    | none => none
    | some (head, rest) =>
      match head.major, head.argument with
      | 0, some value => some (.natural value, rest)
      | 1, some value => some (.negative value, rest)
      | 2, some length => (readContent length rest).map fun (content, rest) =>
        (.bytes true content, rest)
      | 2, none => (readPieces bytesMajor fuel 0 rest).map fun (pieces, rest) =>
        (.bytes false pieces.flatten, rest)
      | 3, some length => (readContent length rest).bind fun (content, rest) =>
        (Bytes.text? content).map fun content => (.text true content, rest)
      | 3, none => (readPieces textMajor fuel 0 rest).bind fun (pieces, rest) =>
        (pieces.mapM Bytes.text?).map fun pieces => (.text false (String.join pieces), rest)
      | 4, count => (readItems fuel count rest).map fun (items, rest) => (.array items, rest)
      | 5, count => (readItems fuel (count.map (2 * ·)) rest).bind fun (items, rest) =>
        (pairUp items).map fun entries => (.map entries, rest)
      | 6, some number => (readItem fuel rest).map fun (content, rest) =>
        (.tag number content, rest)
      | 7, some argument => some (simpleItem head.info argument, rest)
      | _, _ => none

def readItems : Nat → Option Nat → Bytes → Option (List Item × Bytes)
  | 0, _, _ => none
  | _ + 1, some 0, text => some ([], text)
  | fuel + 1, some (count + 1), text =>
    match readItem fuel text with
    | none => none
    | some (item, rest) =>
      (readItems fuel (some count) rest).map fun (items, rest) => (item :: items, rest)
  | fuel + 1, none, text =>
    if text.head? = some stopCode then some ([], text.drop 1)
    else match readItem fuel text with
      | none => none
      | some (item, rest) =>
        (readItems fuel none rest).map fun (items, rest) => (item :: items, rest)

end

/-- Reads the item a text starts with; every other call of the readers takes an octet. -/
def firstItem? (text : Bytes) : Option (Item × Bytes) := readItem (2 * text.length + 2) text

def onlyItem? (text : Bytes) : Option Item :=
  match firstItem? text with
  | some (item, []) => some item
  | _ => none

def encodeHead (major argument : Nat) : Bytes :=
  if argument < 24 then [UInt8.ofNat (32 * major + argument)]
  else if argument < UInt8.size then UInt8.ofNat (32 * major + 24) :: Bytes.ofNat 1 argument
  else if argument < UInt16.size then UInt8.ofNat (32 * major + 25) :: Bytes.ofNat 2 argument
  else if argument < UInt32.size then UInt8.ofNat (32 * major + 26) :: Bytes.ofNat 4 argument
  else UInt8.ofNat (32 * major + 27) :: Bytes.ofNat 8 argument

namespace Item

def floatHead (width : Nat) : UInt8 :=
  if width = 2 then 0xF9 else if width = 4 then 0xFA else 0xFB

mutual

def encode : Item → Bytes
  | .natural value => encodeHead 0 value
  | .negative value => encodeHead 1 value
  | .bytes _ content => encodeHead bytesMajor content.length ++ content
  | .text _ content =>
    encodeHead textMajor (Bytes.ofText content).length ++ Bytes.ofText content
  | .array items => encodeHead arrayMajor items.length ++ encodeItems items
  | .map entries => encodeHead mapMajor entries.length ++ encodeEntries entries
  | .tag number content => encodeHead tagMajor number ++ encode content
  | .boolean value => [if value then 0xF5 else 0xF4]
  | .null => [0xF6]
  | .undefined => [0xF7]
  | .simple value => encodeHead simpleMajor value
  | .float width bits => floatHead width :: Bytes.ofNat width bits

def encodeItems : List Item → Bytes
  | [] => []
  | item :: rest => encode item ++ encodeItems rest

def encodeEntries : List (Item × Item) → Bytes
  | [] => []
  | (key, value) :: rest => encode key ++ encode value ++ encodeEntries rest

end

end Item

end EnclaveProvenance.Cbor
