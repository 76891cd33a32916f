/-!
Byte strings as lists of octets, their big-endian integers and their UTF-8 text.
-/

namespace EnclaveProvenance

abbrev Bytes := List UInt8

namespace Bytes

def ofText (text : String) : Bytes := text.toByteArray.data.toList

def text? (bytes : Bytes) : Option String := String.fromUTF8? ⟨bytes.toArray⟩

/-- The number whose base-256 digits are the bytes, most significant first. -/
def toNat (bytes : Bytes) : Nat := bytes.foldl (fun value byte => value * 256 + byte.toNat) 0

def ofNat : Nat → Nat → Bytes
  | 0, _ => []
  | width + 1, value => UInt8.ofNat (value / Nat.pow 256 width) :: ofNat width value

def before (text rest : Bytes) : Bytes := text.take (text.length - rest.length)

theorem before_append (text rest : Bytes) : before (text ++ rest) rest = text := by
  simp [before]

@[simp] theorem length_ofNat (width value : Nat) : (ofNat width value).length = width := by
  induction width with
  | zero => rfl
  | succ width ih => simp [ofNat, ih]

theorem text?_eq_some_iff {bytes : Bytes} {text : String} :
    text? bytes = some text ↔ ofText text = bytes := by
  constructor
  · intro decoded
    unfold text? String.fromUTF8? at decoded
    split at decoded
    · injection decoded with decoded
      simp [ofText, ← decoded, String.fromUTF8]
    · contradiction
  · intro encoded
    have same : (⟨bytes.toArray⟩ : ByteArray) = text.toByteArray := by
      simp [← encoded, ofText]
    unfold text? String.fromUTF8?
    rw [same, dif_pos text.isValidUTF8]
    rfl

@[simp] theorem text?_ofText (text : String) : text? (ofText text) = some text :=
  text?_eq_some_iff.2 rfl

end Bytes

end EnclaveProvenance
