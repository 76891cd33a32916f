import EnclaveProvenance.Bytes

/-!
The Secure Hash Algorithm of FIPS 180-4 over words of any width, with the variants SHA-256 and
SHA-384.
-/

namespace EnclaveProvenance.Sha2

structure State (width : Nat) where
  a : BitVec width
  b : BitVec width
  c : BitVec width
  d : BitVec width
  e : BitVec width
  f : BitVec width
  g : BitVec width
  h : BitVec width
deriving DecidableEq

/-- What one member of the family chooses. A small sigma rotates twice and shifts once, a big
sigma rotates three times. -/
structure Variant where
  wordBytes : Nat
  smallSigma0 : Nat × Nat × Nat
  smallSigma1 : Nat × Nat × Nat
  bigSigma0 : Nat × Nat × Nat
  bigSigma1 : Nat × Nat × Nat
  constants : List Nat
  initial : List Nat
  digestBytes : Nat

namespace Variant

abbrev width (variant : Variant) : Nat := variant.wordBytes * 8

abbrev Word (variant : Variant) : Type := BitVec variant.width

def blockBytes (variant : Variant) : Nat := variant.wordBytes * 16

def rotateShift (variant : Variant) (amounts : Nat × Nat × Nat) (x : variant.Word) : variant.Word :=
  x.rotateRight amounts.1 ^^^ x.rotateRight amounts.2.1 ^^^ x >>> amounts.2.2

def rotate (variant : Variant) (amounts : Nat × Nat × Nat) (x : variant.Word) : variant.Word :=
  x.rotateRight amounts.1 ^^^ x.rotateRight amounts.2.1 ^^^ x.rotateRight amounts.2.2

def pad (variant : Variant) (message : Bytes) : Bytes :=
  let used := message.length + 1 + 2 * variant.wordBytes
  let zeros := (variant.blockBytes - used % variant.blockBytes) % variant.blockBytes
  message ++ 0x80 :: (List.replicate zeros 0 ++
    Bytes.ofNat (2 * variant.wordBytes) (message.length * 8))

def pieces (size : Nat) : Nat → Bytes → List Bytes
  | 0, _ => []
  | count + 1, bytes => bytes.take size :: pieces size count (bytes.drop size)

def wordsOf (variant : Variant) (block : Bytes) : List variant.Word :=
  (pieces variant.wordBytes 16 block).map fun piece => BitVec.ofNat variant.width piece.toNat

/-- Adds `count` words to a schedule that is kept latest word first. -/
def extend (variant : Variant) : Nat → List variant.Word → List variant.Word
  | 0, schedule => schedule
  | count + 1, schedule =>
    let word := variant.rotateShift variant.smallSigma1 (schedule.getD 1 0) + schedule.getD 6 0 +
      variant.rotateShift variant.smallSigma0 (schedule.getD 14 0) + schedule.getD 15 0
    extend variant count (word :: schedule)

def schedule (variant : Variant) (block : Bytes) : List variant.Word :=
  (variant.extend (variant.constants.length - 16) (variant.wordsOf block).reverse).reverse

def round (variant : Variant) (state : State variant.width) (input : variant.Word × Nat) :
    State variant.width :=
  let choice := (state.e &&& state.f) ^^^ (~~~state.e &&& state.g)
  let majority := (state.a &&& state.b) ^^^ (state.a &&& state.c) ^^^ (state.b &&& state.c)
  let first := state.h + variant.rotate variant.bigSigma1 state.e + choice +
    BitVec.ofNat variant.width input.2 + input.1
  let second := variant.rotate variant.bigSigma0 state.a + majority
  { a := first + second, b := state.a, c := state.b, d := state.c
    e := state.d + first, f := state.e, g := state.f, h := state.g }

def compress (variant : Variant) (state : State variant.width) (block : Bytes) :
    State variant.width :=
  let mixed := ((variant.schedule block).zip variant.constants).foldl variant.round state
  { a := state.a + mixed.a, b := state.b + mixed.b, c := state.c + mixed.c, d := state.d + mixed.d
    e := state.e + mixed.e, f := state.f + mixed.f, g := state.g + mixed.g, h := state.h + mixed.h }

def initialState (variant : Variant) : State variant.width :=
  let word (index : Nat) : variant.Word := BitVec.ofNat variant.width (variant.initial.getD index 0)
  { a := word 0, b := word 1, c := word 2, d := word 3
    e := word 4, f := word 5, g := word 6, h := word 7 }

def output (variant : Variant) (state : State variant.width) : Bytes :=
  [state.a, state.b, state.c, state.d, state.e, state.f, state.g, state.h].flatMap
    fun word => Bytes.ofNat variant.wordBytes word.toNat

def digest (variant : Variant) (message : Bytes) : Bytes :=
  let padded := variant.pad message
  let blocks := pieces variant.blockBytes (padded.length / variant.blockBytes) padded
  (variant.output (blocks.foldl variant.compress variant.initialState)).take variant.digestBytes

end Variant

def variant256 : Variant where
  wordBytes := 4
  smallSigma0 := (7, 18, 3)
  smallSigma1 := (17, 19, 10)
  bigSigma0 := (2, 13, 22)
  bigSigma1 := (6, 11, 25)
  constants := [
    0x428a2f98, 0x71374491, 0xb5c0fbcf, 0xe9b5dba5, 0x3956c25b, 0x59f111f1, 0x923f82a4, 0xab1c5ed5,
    0xd807aa98, 0x12835b01, 0x243185be, 0x550c7dc3, 0x72be5d74, 0x80deb1fe, 0x9bdc06a7, 0xc19bf174,
    0xe49b69c1, 0xefbe4786, 0x0fc19dc6, 0x240ca1cc, 0x2de92c6f, 0x4a7484aa, 0x5cb0a9dc, 0x76f988da,
    0x983e5152, 0xa831c66d, 0xb00327c8, 0xbf597fc7, 0xc6e00bf3, 0xd5a79147, 0x06ca6351, 0x14292967,
    0x27b70a85, 0x2e1b2138, 0x4d2c6dfc, 0x53380d13, 0x650a7354, 0x766a0abb, 0x81c2c92e, 0x92722c85,
    0xa2bfe8a1, 0xa81a664b, 0xc24b8b70, 0xc76c51a3, 0xd192e819, 0xd6990624, 0xf40e3585, 0x106aa070,
    0x19a4c116, 0x1e376c08, 0x2748774c, 0x34b0bcb5, 0x391c0cb3, 0x4ed8aa4a, 0x5b9cca4f, 0x682e6ff3,
    0x748f82ee, 0x78a5636f, 0x84c87814, 0x8cc70208, 0x90befffa, 0xa4506ceb, 0xbef9a3f7, 0xc67178f2]
  initial := [
    0x6a09e667, 0xbb67ae85, 0x3c6ef372, 0xa54ff53a, 0x510e527f, 0x9b05688c, 0x1f83d9ab, 0x5be0cd19]
  digestBytes := 32

def variant384 : Variant where
  wordBytes := 8
  smallSigma0 := (1, 8, 7)
  smallSigma1 := (19, 61, 6)
  bigSigma0 := (28, 34, 39)
  bigSigma1 := (14, 18, 41)
  constants := [
    0x428a2f98d728ae22, 0x7137449123ef65cd, 0xb5c0fbcfec4d3b2f, 0xe9b5dba58189dbbc,
    0x3956c25bf348b538, 0x59f111f1b605d019, 0x923f82a4af194f9b, 0xab1c5ed5da6d8118,
    0xd807aa98a3030242, 0x12835b0145706fbe, 0x243185be4ee4b28c, 0x550c7dc3d5ffb4e2,
    0x72be5d74f27b896f, 0x80deb1fe3b1696b1, 0x9bdc06a725c71235, 0xc19bf174cf692694,
    0xe49b69c19ef14ad2, 0xefbe4786384f25e3, 0x0fc19dc68b8cd5b5, 0x240ca1cc77ac9c65,
    0x2de92c6f592b0275, 0x4a7484aa6ea6e483, 0x5cb0a9dcbd41fbd4, 0x76f988da831153b5,
    0x983e5152ee66dfab, 0xa831c66d2db43210, 0xb00327c898fb213f, 0xbf597fc7beef0ee4,
    0xc6e00bf33da88fc2, 0xd5a79147930aa725, 0x06ca6351e003826f, 0x142929670a0e6e70,
    0x27b70a8546d22ffc, 0x2e1b21385c26c926, 0x4d2c6dfc5ac42aed, 0x53380d139d95b3df,
    0x650a73548baf63de, 0x766a0abb3c77b2a8, 0x81c2c92e47edaee6, 0x92722c851482353b,
    0xa2bfe8a14cf10364, 0xa81a664bbc423001, 0xc24b8b70d0f89791, 0xc76c51a30654be30,
    0xd192e819d6ef5218, 0xd69906245565a910, 0xf40e35855771202a, 0x106aa07032bbd1b8,
    0x19a4c116b8d2d0c8, 0x1e376c085141ab53, 0x2748774cdf8eeb99, 0x34b0bcb5e19b48a8,
    0x391c0cb3c5c95a63, 0x4ed8aa4ae3418acb, 0x5b9cca4f7763e373, 0x682e6ff3d6b2b8a3,
    0x748f82ee5defb2fc, 0x78a5636f43172f60, 0x84c87814a1f0ab72, 0x8cc702081a6439ec,
    0x90befffa23631e28, 0xa4506cebde82bde9, 0xbef9a3f7b2c67915, 0xc67178f2e372532b,
    0xca273eceea26619c, 0xd186b8c721c0c207, 0xeada7dd6cde0eb1e, 0xf57d4f7fee6ed178,
    0x06f067aa72176fba, 0x0a637dc5a2c898a6, 0x113f9804bef90dae, 0x1b710b35131c471b,
    0x28db77f523047d84, 0x32caab7b40c72493, 0x3c9ebe0a15c9bebc, 0x431d67c49c100d4c,
    0x4cc5d4becb3e42b6, 0x597f299cfc657e2a, 0x5fcb6fab3ad6faec, 0x6c44198c4a475817]
  initial := [
    0xcbbb9d5dc1059ed8, 0x629a292a367cd507, 0x9159015a3070dd17, 0x152fecd8f70e5939,
    0x67332667ffc00b31, 0x8eb44a8768581511, 0xdb0c2e0d64f98fa7, 0x47b5481dbefa4fa4]
  digestBytes := 48

end EnclaveProvenance.Sha2

namespace EnclaveProvenance

def sha256 (message : Bytes) : Bytes := Sha2.variant256.digest message

def sha384 (message : Bytes) : Bytes := Sha2.variant384.digest message

end EnclaveProvenance
