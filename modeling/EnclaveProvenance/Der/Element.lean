import EnclaveProvenance.Bytes

/-!
The framing of the Distinguished Encoding Rules: an element is a tag octet, a length in its
shortest form and that many bytes of content.
-/

namespace EnclaveProvenance.Der

structure Element where
  tag : UInt8
  content : Bytes
deriving DecidableEq, Repr

/-- Tag numbers of the universal class that an element may have; sequences and sets are
constructed, all others primitive. -/
def universalTags : List UInt8 :=
  [0x01, 0x02, 0x03, 0x04, 0x05, 0x06, 0x09, 0x0A, 0x0C, 0x12, 0x13, 0x14, 0x15, 0x16, 0x17, 0x18,
    0x1A, 0x1E, 0x30, 0x31]

def isTag (tag : UInt8) : Bool :=
  if tag < 0x40 then universalTags.contains tag else tag.toNat % 32 != 31

def minimalBytes (value : Nat) : Bytes :=
  Bytes.ofNat (if value < 256 then 1 else if value < 65536 then 2 else if value < 16777216 then 3 else 4)
    value

def lengthOctets (length : Nat) : Bytes :=
  if length < 128 then [UInt8.ofNat length]
  else
    let bytes := minimalBytes length
    UInt8.ofNat (128 + bytes.length) :: bytes

def Element.encode (element : Element) : Bytes :=
  element.tag :: lengthOctets element.content.length ++ element.content

def maxLength : Nat := 0xFFFFFFF

/-- Reads a length of one octet, or of one to four octets after a count, in its shortest form. -/
def readLength (bytes : Bytes) : Option (Nat × Bytes) :=
  match bytes with
  | [] => none
  | first :: rest =>
    if first < 0x80 then some (first.toNat, rest)
    else if 0x81 ≤ first ∧ first ≤ 0x84 then
      let count := first.toNat - 128
      let octets := rest.take count
      let length := Bytes.toNat octets
      if octets.length = count ∧ lengthOctets length = first :: octets ∧ length ≤ maxLength then
        some (length, rest.drop count)
      else none
    else none

def readElement (bytes : Bytes) : Option (Element × Bytes) :=
  match bytes with
  | [] => none
  | tag :: rest =>
    if isTag tag then
      match readLength rest with
      | none => none
      | some (length, body) =>
        if length ≤ body.length then some (⟨tag, body.take length⟩, body.drop length) else none
    else none

def onlyElement? (bytes : Bytes) : Option Element :=
  match readElement bytes with
  | some (element, []) => some element
  | _ => none

def splitElements : Nat → Bytes → Option (List Element)
  | _, [] => some []
  | 0, _ => none
  | fuel + 1, bytes =>
    match readElement bytes with
    | none => none
    | some (element, rest) => (splitElements fuel rest).map (element :: ·)

def elements? (bytes : Bytes) : Option (List Element) := splitElements bytes.length bytes

def Element.isContextSpecific (element : Element) : Bool := 0x80 ≤ element.tag && element.tag < 0xC0

/-- Looks for the optional element of a context-specific number. Elements of lower numbers are
passed over, and the search ends before a higher one. -/
def takeOptional (number : Nat) : List Element → Option Element × List Element
  | [] => (none, [])
  | element :: rest =>
    if element.isContextSpecific = false ∨ number < element.tag.toNat % 32 then
      (none, element :: rest)
    else if element.tag.toNat % 32 = number then (some element, rest)
    else takeOptional number rest

def encodeAll (elements : List Element) : Bytes := elements.flatMap Element.encode

theorem encode_of_readLength {bytes rest : Bytes} {length : Nat}
    (read : readLength bytes = some (length, rest)) : bytes = lengthOctets length ++ rest := by
  unfold readLength at read
  split at read
  · contradiction
  · next first tail =>
    split at read
    · next small =>
      injection read with read
      injection read with lengthEq restEq
      subst lengthEq restEq
      have bound : first.toNat < 128 := by simpa using UInt8.lt_iff_toNat_lt.1 small
      simp [lengthOctets, bound]
    · simp only [Option.ite_none_right_eq_some, Option.some.injEq, Prod.mk.injEq] at read
      obtain ⟨_, ⟨_, shortest, _⟩, rfl, rfl⟩ := read
      rw [shortest]
      simp

theorem encode_of_readElement {bytes rest : Bytes} {element : Element}
    (read : readElement bytes = some (element, rest)) : bytes = element.encode ++ rest := by
  unfold readElement at read
  split at read
  · contradiction
  · next tag tail =>
    split at read
    · split at read
      · contradiction
      · next length body lengthRead =>
        split at read
        · next fits =>
          injection read with read
          injection read with elementEq restEq
          subst elementEq restEq
          have taken : (body.take length).length = length := by simp [fits]
          rw [encode_of_readLength lengthRead]
          simp [Element.encode, Nat.min_eq_left fits]
        · contradiction
    · contradiction

theorem encode_of_splitElements {fuel : Nat} {bytes : Bytes} {elements : List Element}
    (split : splitElements fuel bytes = some elements) : encodeAll elements = bytes := by
  induction fuel generalizing bytes elements with
  | zero =>
    cases bytes with
    | nil => simp [splitElements] at split; simp [split, encodeAll]
    | cons head tail => simp [splitElements] at split
  | succ fuel ih =>
    cases bytes with
    | nil => simp [splitElements] at split; simp [split, encodeAll]
    | cons head tail =>
      simp only [splitElements] at split
      split at split
      · contradiction
      · next element rest read =>
        obtain ⟨later, laterSplit, rfl⟩ := Option.map_eq_some_iff.1 split
        rw [encode_of_readElement read]
        simp [encodeAll, ← ih laterSplit]

end EnclaveProvenance.Der
