import EnclaveProvenance.Certificate.SecurityNames
import EnclaveProvenance.Der.Primitive
import EnclaveProvenance.Hex

/-!
Distinguished names: sequences of sets of attributes, kept with each set in ascending order of its
encodings, and their one-line text (RFC 4514).
-/

namespace EnclaveProvenance

structure Attribute where
  oid : Der.ObjectIdentifier
  value : Der.Element
deriving DecidableEq, Repr

abbrev RelativeName := List Attribute

structure Name where
  steps : List RelativeName
deriving DecidableEq, Repr

namespace Attribute

def ofElement? (element : Der.Element) : Option Attribute := do
  match ← element.inside? Der.sequenceTag with
  | [oid, value] => return ⟨← Der.ObjectIdentifier.ofElement? oid, value⟩
  | _ => none

def element (entry : Attribute) : Der.Element :=
  ⟨Der.sequenceTag, Der.encodeAll [entry.oid.element, entry.value]⟩

def encode (entry : Attribute) : Bytes := entry.element.encode

def shortName? (oid : Der.ObjectIdentifier) : Option String :=
  (NameFamily.directory ++ NameFamily.security).findSome? fun family => family.name? oid

def escapeChar (first last : Bool) (character : Char) : List Char :=
  if first && character == '#' then ['\\', '#']
  else if (first || last) && character == ' ' then ['\\', ' ']
  else if "\"+,;<>\\".toList.contains character then ['\\', character]
  else if character.toNat < 32 || character.toNat == 127 then
    '\\' :: Hex.octet (UInt8.ofNat character.toNat)
  else [character]

def escapeRest : List Char → List Char
  | [] => []
  | [character] => escapeChar false true character
  | character :: rest => escapeChar false false character ++ escapeRest rest

def escape : List Char → List Char
  | [] => []
  | [character] => escapeChar true true character
  | character :: rest => escapeChar true false character ++ escapeRest rest

/-- An attribute of unknown type or without text is printed by number and in hexadecimal. -/
def text (entry : Attribute) : String :=
  match shortName? entry.oid, entry.value.text? with
  | some name, some value => name ++ "=" ++ String.ofList (escape value.toList)
  | _, _ => entry.oid.text ++ "=#" ++ Hex.encode entry.value.encode

end Attribute

namespace Name

def precedes : Bytes → Bytes → Bool
  | [], [] => false
  | [], _ :: _ => true
  | _ :: _, [] => false
  | left :: lefts, right :: rights => left < right || left == right && precedes lefts rights

/-- Puts an attribute into its place among ascending ones; no attribute occurs twice. -/
def place (entry : Attribute) : List Attribute → Option (List Attribute)
  | [] => some [entry]
  | head :: rest =>
    if precedes entry.encode head.encode then some (entry :: head :: rest)
    else if entry.encode = head.encode then none
    else (place entry rest).map (head :: ·)

def sortStep : List Attribute → Option RelativeName
  | [] => some []
  | entry :: rest => (sortStep rest).bind (place entry)

def step? (element : Der.Element) : Option RelativeName := do
  let attributes ← (← element.inside? Der.setTag).mapM Attribute.ofElement?
  sortStep attributes

def ofElement? (element : Der.Element) : Option Name := do
  return ⟨← (← element.inside? Der.sequenceTag).mapM step?⟩

def stepElement (step : RelativeName) : Der.Element :=
  ⟨Der.setTag, Der.encodeAll (step.map Attribute.element)⟩

def element (name : Name) : Der.Element :=
  ⟨Der.sequenceTag, Der.encodeAll (name.steps.map stepElement)⟩

def stepText (step : RelativeName) : String := String.intercalate "+" (step.map Attribute.text)

def text (name : Name) : String := String.intercalate "," (name.steps.reverse.map stepText)

end Name

end EnclaveProvenance
