import EnclaveProvenance.Cbor.Item

/-!
What items stand for where a certain kind of content is expected, and the limits on items whose
content is not expected to be of any kind.
-/

namespace EnclaveProvenance.Cbor

namespace Item

def positiveBignum : Nat := 2

def negativeBignum : Nat := 3

def untagged : Item → Item
  | .tag _ content => untagged content
  | item => item

def natural? (limit : Nat) : Item → Option Nat
  | .natural value => if value ≤ limit then some value else none
  | .tag number content =>
    if number = positiveBignum then
      match content with
      | .bytes _ digits =>
        if Bytes.toNat digits ≤ limit then some (Bytes.toNat digits) else none
      | _ => none
    else if number = negativeBignum then none
    else natural? limit content
  | _ => none

def text? (item : Item) : Option String :=
  match item.untagged with
  | .text _ content => some content
  | _ => none

/-- A byte string, also as an array of its octets. -/
def octets? (item : Item) : Option Bytes :=
  match item.untagged with
  | .bytes _ content => some content
  | .array items => items.mapM fun item => (item.natural? 255).map UInt8.ofNat
  | _ => none

/-- Content that may be missing. A tag is content. -/
def optional? {α : Type} (decode : Item → Option α) : Item → Option (Option α)
  | .null => some none
  | .undefined => some none
  | item => (decode item).map some

/-- An array whose elements are all read; an empty byte string is an empty array. -/
def list? {α : Type} (decode : Item → Option α) (item : Item) : Option (List α) :=
  match item.untagged with
  | .array items => items.mapM decode
  | .bytes _ [] => some []
  | _ => none

def entries? (item : Item) : Option (List (Item × Item)) :=
  match item.untagged with
  | .map entries => some entries
  | _ => none

def nameLimit : Nat := 4096

/-- The name of a field, as text or as its octets, in one piece. -/
def name? (item : Item) : Option Bytes :=
  match item.untagged with
  | .text true content =>
    if (Bytes.ofText content).length ≤ nameLimit then some (Bytes.ofText content) else none
  | .bytes true content => if content.length ≤ nameLimit then some content else none
  | _ => none

def bignum? (number : Nat) : Item → Option Int
  | .bytes true digits =>
    if 16 < digits.length then none
    else if number = positiveBignum then some (Bytes.toNat digits)
    else if number = negativeBignum then some (-1 - (Bytes.toNat digits : Int))
    else none
  | _ => none

def integer? : Item → Option Int
  | .natural value => some value
  | .negative value => some (-1 - (value : Int))
  | .tag number content => bignum? number content
  | _ => none

mutual

/-- How deep arrays, maps and tags stand in each other. A bignum is a number and not a tag. -/
def nesting : Item → Nat
  | .array items => nestingOfItems items + 1
  | .map entries => nestingOfEntries entries + 1
  | .tag number content => if (bignum? number content).isSome then 0 else nesting content + 1
  | _ => 0

def nestingOfItems : List Item → Nat
  | [] => 0
  | item :: rest => max (nesting item) (nestingOfItems rest)

def nestingOfEntries : List (Item × Item) → Nat
  | [] => 0
  | (key, value) :: rest => max (max (nesting key) (nesting value)) (nestingOfEntries rest)

end

mutual

/-- Whether no bignum in an item is below `-2 ^ 127`, and every simple value has a meaning. -/
def supported : Item → Bool
  | .array items => itemsSupported items
  | .map entries => entriesSupported entries
  | .tag number content =>
    match bignum? number content with
    | some value => -Int.ofNat (Nat.pow 2 127) ≤ value
    | none => supported content
  | .simple _ => false
  | _ => true

def itemsSupported : List Item → Bool
  | [] => true
  | item :: rest => supported item && itemsSupported rest

def entriesSupported : List (Item × Item) → Bool
  | [] => true
  | (key, value) :: rest => supported key && supported value && entriesSupported rest

end

def nestingLimit : Nat := 256

def fits (levels : Nat) (item : Item) : Bool := item.nesting ≤ levels && item.supported

end Item

def wholeItem? (text : Bytes) : Option Item :=
  match onlyItem? text with
  | some item => if item.fits Item.nestingLimit then some item else none
  | none => none

end EnclaveProvenance.Cbor
