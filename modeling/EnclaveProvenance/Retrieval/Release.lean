import EnclaveProvenance.Bytes
import EnclaveProvenance.Hex
import EnclaveProvenance.Text

/-!
The digest of an image that the notes of a release announce, read off the characters of the text and
searched for by offsets into its octets.
-/

namespace EnclaveProvenance.Retrieval

open Text (CutFault)

def digestMark : List Char := "EIF hash: ".toList

def digestLength : Nat := 64

def isHexDigit (character : Char) : Bool :=
  '0' ≤ character && character ≤ '9' || 'a' ≤ character && character ≤ 'f' ||
    'A' ≤ character && character ≤ 'F'

def leadingDigest? (text : List Char) : Option String :=
  let candidate := text.take digestLength
  if candidate.length = digestLength ∧ candidate.all isHexDigit ∧
      ((text.drop digestLength).head?.all fun next => !isHexDigit next) then
    some (String.ofList (candidate.map Char.toLower))
  else none

/-- The digest after the first mark that a digest follows. -/
def announcedDigest? : List Char → Option String
  | [] => none
  | character :: rest =>
    match (digestMark.isPrefixOf? (character :: rest)).bind leadingDigest? with
    | some digest => some digest
    | none => announcedDigest? rest

def digestAt (text : String) (start : Nat) : Except CutFault (Option String) :=
  match Text.slice? text start (start + digestLength) with
  | none => .ok none
  | some candidate => do
    let rest ← Text.sliceFrom text (start + digestLength)
    if (rest.toList.head?.all fun next => !isHexDigit next) ∧
        (Bytes.ofText candidate).all Hex.isDigit then
      return some (Text.lowercase candidate)
    else return none

def searchDigest (text : String) : Except CutFault (Option String) :=
  (Text.occurrences digestMark 0 0 text.toList).findSomeM? fun offset =>
    digestAt text (offset + (String.ofList digestMark).utf8ByteSize)

end EnclaveProvenance.Retrieval
