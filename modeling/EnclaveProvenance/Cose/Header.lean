import EnclaveProvenance.Cbor.Content
import EnclaveProvenance.Text

/-!
Headers of signed messages: maps from labels to parameters, each of which has the form that is
registered for its label.
-/

namespace EnclaveProvenance.Cose

open Cbor (Item)

inductive Label
  | number (value : Int)
  | text (value : String)
deriving DecidableEq, Repr

def minWord : Int := Int64.minValue.toInt

def maxWord : Int := Int64.maxValue.toInt

def Label.ofItem? : Item → Option Label
  | .text _ value => some (.text value)
  | item =>
    match item.integer? with
    | some value => if minWord ≤ value ∧ value ≤ maxWord then some (.number value) else none
    | none => none

inductive Algorithm
  | assigned (name : String)
  | privateUse (value : Int)
  | text (value : String)
deriving DecidableEq, Repr

def registeredAlgorithms : List (Int × String) := [
  (-65535, "RS1"),
  (-260, "WalnutDSA"),
  (-259, "RS512"),
  (-258, "RS384"),
  (-257, "RS256"),
  (-47, "ES256K"),
  (-46, "HSS_LMS"),
  (-45, "SHAKE256"),
  (-44, "SHA_512"),
  (-43, "SHA_384"),
  (-42, "RSAES_OAEP_SHA_512"),
  (-41, "RSAES_OAEP_SHA_256"),
  (-40, "RSAES_OAEP_RFC_8017_default"),
  (-39, "PS512"),
  (-38, "PS384"),
  (-37, "PS256"),
  (-36, "ES512"),
  (-35, "ES384"),
  (-34, "ECDH_SS_A256KW"),
  (-33, "ECDH_SS_A192KW"),
  (-32, "ECDH_SS_A128KW"),
  (-31, "ECDH_ES_A256KW"),
  (-30, "ECDH_ES_A192KW"),
  (-29, "ECDH_ES_A128KW"),
  (-28, "ECDH_SS_HKDF_512"),
  (-27, "ECDH_SS_HKDF_256"),
  (-26, "ECDH_ES_HKDF_512"),
  (-25, "ECDH_ES_HKDF_256"),
  (-18, "SHAKE128"),
  (-17, "SHA_512_256"),
  (-16, "SHA_256"),
  (-15, "SHA_256_64"),
  (-14, "SHA_1"),
  (-13, "Direct_HKDF_AES_256"),
  (-12, "Direct_HKDF_AES_128"),
  (-11, "Direct_HKDF_SHA_512"),
  (-10, "Direct_HKDF_SHA_256"),
  (-8, "EdDSA"),
  (-7, "ES256"),
  (-6, "Direct"),
  (-5, "A256KW"),
  (-4, "A192KW"),
  (-3, "A128KW"),
  (0, "Reserved"),
  (1, "A128GCM"),
  (2, "A192GCM"),
  (3, "A256GCM"),
  (4, "HMAC_256_64"),
  (5, "HMAC_256_256"),
  (6, "HMAC_384_384"),
  (7, "HMAC_512_512"),
  (10, "AES_CCM_16_64_128"),
  (11, "AES_CCM_16_64_256"),
  (12, "AES_CCM_64_64_128"),
  (13, "AES_CCM_64_64_256"),
  (14, "AES_MAC_128_64"),
  (15, "AES_MAC_256_64"),
  (24, "ChaCha20Poly1305"),
  (25, "AES_MAC_128_128"),
  (26, "AES_MAC_256_128"),
  (30, "AES_CCM_16_128_128"),
  (31, "AES_CCM_16_128_256"),
  (32, "AES_CCM_64_128_128"),
  (33, "AES_CCM_64_128_256"),
  (34, "IV_GENERATION")]

def privateUseBound : Int := -65536

def Algorithm.ofItem? (item : Item) : Option Algorithm :=
  match Label.ofItem? item with
  | none => none
  | some (.text value) => some (.text value)
  | some (.number value) =>
    match registeredAlgorithms.lookup value with
    | some name => some (.assigned name)
    | none => if value < privateUseBound then some (.privateUse value) else none

def Algorithm.es384 : Algorithm := .assigned "ES384"

def Algorithm.render : Algorithm → String
  | .assigned name => s!"Assigned({name})"
  | .privateUse value => s!"PrivateUse({value})"
  | .text value => "Text(" ++ Text.quoted '"' value.toList ++ ")"

def registeredParameters : List Int :=
  [0, 1, 2, 3, 4, 5, 6, 7, 9, 10, 11, 12, 32, 33, 34, 35, 256, 257]

def registeredContentTypes : List Int := [
  0, 16, 17, 18, 19, 21, 22, 23, 40, 41, 42, 47, 50, 51, 52, 60, 61, 62, 63, 96, 97, 98, 101, 102,
  110, 111, 112, 113, 114, 115, 140, 256, 271, 272, 280, 281, 284, 285, 286, 287, 290, 291, 310,
  311, 320, 322, 340, 341, 432, 836, 10000, 10001, 10002, 11050, 11060, 11542, 11543, 11544, 20000,
  30000]

def isCriticalLabel (item : Item) : Bool :=
  match Label.ofItem? item with
  | some (.number value) => registeredParameters.contains value
  | some (.text _) => true
  | none => false

def isCriticalList : Item → Bool
  | .array (first :: rest) => (first :: rest).all isCriticalLabel
  | _ => false

def isContentType (item : Item) : Bool :=
  match Label.ofItem? item with
  | some (.number value) => registeredContentTypes.contains value
  | some (.text value) => value ≠ "" && Text.trim value == value && value.toList.count '/' == 1
  | none => false

def isNonemptyBytes : Item → Bool
  | .bytes _ content => !content.isEmpty
  | _ => false

def initialVectorLabel : Label := .number 5

def partialVectorLabel : Label := .number 6

/-- A header as it stands in a byte string, the empty string being the empty header. -/
def isProtected (isHeader : Item → Bool) (octets : Bytes) : Bool :=
  octets.isEmpty ||
    match Cbor.wholeItem? octets with
    | some item => isHeader item
    | none => false

def isSignature (isHeader : Item → Bool) : Item → Bool
  | .array [.bytes _ octets, header, .bytes _ _] => isProtected isHeader octets && isHeader header
  | _ => false

def isCounterSignature (isHeader : Item → Bool) : Item → Bool
  | .array (.bytes definite octets :: rest) =>
    isSignature isHeader (.array (.bytes definite octets :: rest))
  | .array (first :: rest) => (first :: rest).all (isSignature isHeader)
  | _ => false

def isParameter (isHeader : Item → Bool) (parameter : Label × Item) : Bool :=
  match parameter.1 with
  | .number 1 => (Algorithm.ofItem? parameter.2).isSome
  | .number 2 => isCriticalList parameter.2
  | .number 3 => isContentType parameter.2
  | .number 4 => isNonemptyBytes parameter.2
  | .number 5 => isNonemptyBytes parameter.2
  | .number 6 => isNonemptyBytes parameter.2
  | .number 7 => isCounterSignature isHeader parameter.2
  | _ => true

structure Header where
  parameters : List (Label × Item)

namespace Header

def empty : Header := ⟨[]⟩

def algorithm? (header : Header) : Option Algorithm :=
  (header.parameters.lookup (.number 1)).bind Algorithm.ofItem?

def parameters? : Item → Option (List (Label × Item))
  | .map entries => entries.mapM fun entry => (Label.ofItem? entry.1).map (·, entry.2)
  | _ => none

/-- Whether no label occurs twice, and not both an initialization vector and a part of one. -/
def consistent (labels : List Label) : Bool :=
  decide labels.Nodup && !(labels.contains initialVectorLabel && labels.contains partialVectorLabel)

def ofItem? : Nat → Item → Option Header
  | 0, _ => none
  | levels + 1, item =>
    match parameters? item with
    | none => none
    | some parameters =>
      if consistent (parameters.map Prod.fst) ∧
          parameters.all (isParameter fun nested => (ofItem? levels nested).isSome) then
        some ⟨parameters⟩
      else none

end Header

end EnclaveProvenance.Cose
