import EnclaveProvenance.Transparency.TrustedRoot

/-!
Signed certificate timestamps embedded in certificates (RFC 6962). A log signs the certificate
without the list of timestamps, together with the hash of the issuer's key.
-/

namespace EnclaveProvenance

structure Sct where
  logId : Bytes
  timestamp : UInt64
  extensions : Bytes
  hashAlgorithm : UInt8
  signatureAlgorithm : UInt8
  signature : Bytes
deriving DecidableEq, Repr

namespace Sct

def listOid : Der.ObjectIdentifier := .ofArcs [1, 3, 6, 1, 4, 1, 11129, 2, 4, 2]

def take (count : Nat) (bytes : Bytes) : Except BundleDefect (Bytes × Bytes) :=
  if bytes.length < count then .error .truncatedScts else .ok (bytes.take count, bytes.drop count)

def takeOctet (bytes : Bytes) : Except BundleDefect (UInt8 × Bytes) :=
  match bytes with
  | [] => .error .truncatedScts
  | octet :: rest => .ok (octet, rest)

def takeVector (bytes : Bytes) : Except BundleDefect (Bytes × Bytes) := do
  let (length, rest) ← take 2 bytes
  take (Bytes.toNat length) rest

def ofBytes (bytes : Bytes) : Except BundleDefect Sct := do
  let (version, rest) ← takeOctet bytes
  if version ≠ 0 then throw (.sctVersion version)
  let (logId, rest) ← take 32 rest
  let (timestamp, rest) ← take 8 rest
  let (extensions, rest) ← takeVector rest
  let (hashAlgorithm, rest) ← takeOctet rest
  let (signatureAlgorithm, rest) ← takeOctet rest
  let (signature, rest) ← takeVector rest
  if rest ≠ [] then throw .trailingSctBytes
  return ⟨logId, UInt64.ofNat (Bytes.toNat timestamp), extensions, hashAlgorithm,
    signatureAlgorithm, signature⟩

def readAll : Nat → Bytes → Except BundleDefect (List Sct)
  | _, [] => .ok []
  | 0, _ => .error .truncatedScts
  | fuel + 1, bytes => do
    let (vector, rest) ← takeVector bytes
    let sct ← ofBytes vector
    return sct :: (← readAll fuel rest)

def ofList (content : Bytes) : Except BundleDefect (List Sct) := do
  let (list, rest) ← takeVector content
  if rest ≠ [] then throw .trailingListBytes
  readAll list.length list

def embedded (leaf : Certificate) : Except BundleDefect (List Sct) :=
  match leaf.extension? listOid with
  | none => .ok []
  | some value =>
    match (Der.onlyElement? value).bind (·.contentOf? Der.octetStringTag) with
    | none => .error .sctListNotOctets
    | some content => ofList content

/-- A certificate's signed part as it was before timestamps were embedded. -/
def precertificate (tbs : TbsCertificate) : TbsCertificate :=
  { tbs with
    extensions := tbs.extensions.map fun extensions =>
      extensions.filter fun extension => extension.oid ≠ listOid }

def issuerKeyHash (issuer : Certificate) : Bytes := sha256 issuer.tbs.keyInfo.encode

/-- The bytes that a log signs: two octets for the version and the kind of signature, the time, two
octets for a precertificate, the hash of the issuer's key, and the precertificate and the
extensions after their lengths in three and in two octets. -/
def signedBytes (sct : Sct) (keyHash tbs : Bytes) : Bytes :=
  [0, 0] ++ Bytes.ofNat 8 sct.timestamp.toNat ++ [0, 1] ++ keyHash ++
    Bytes.ofNat 3 tbs.length ++ tbs ++ Bytes.ofNat 2 sct.extensions.length ++ sct.extensions

def seconds (sct : Sct) : Int := (sct.timestamp.toNat / 1000 : Nat)

def hash? (sct : Sct) : Option HashAlgorithm :=
  if sct.signatureAlgorithm = 3 then
    if sct.hashAlgorithm = 4 then some .sha256
    else if sct.hashAlgorithm = 5 then some .sha384
    else none
  else none

def verify (sct : Sct) (keyHash tbs : Bytes) (root : TrustedRoot) : Except SctDefect Unit := do
  let some log := root.certificateLog? sct.logId | throw (.unknownLog sct.logId)
  if log.validity.contains sct.seconds = false then throw (.outsideValidity sct.seconds)
  let some hash := sct.hash? | throw (.scheme sct.hashAlgorithm sct.signatureAlgorithm)
  if log.key.verify hash (sct.signedBytes keyHash tbs) sct.signature .der = false then
    throw (.rejected log.baseUrl)

/-- The logs whose timestamps verified, each once, and the last defect met. -/
structure Tally where
  logs : List Bytes
  last : Option SctDefect
deriving DecidableEq, Repr

def Tally.add (tally : Tally) (logId : Bytes) : Except SctDefect Unit → Tally
  | .ok () => if tally.logs.contains logId then tally else { tally with logs := logId :: tally.logs }
  | .error defect => { tally with last := some defect }

def tally (scts : List Sct) (keyHash tbs : Bytes) (root : TrustedRoot) : Tally :=
  scts.foldl (fun counted sct => counted.add sct.logId (sct.verify keyHash tbs root)) ⟨[], none⟩

def verifyAll (leaf issuer : Certificate) (root : TrustedRoot) (required : Nat) :
    Except Fault Unit := do
  if required = 0 then return ()
  let scts ← (embedded leaf).mapError .malformedBundle
  let counted := tally scts (issuerKeyHash issuer) (precertificate leaf.tbs).encode root
  if counted.logs.length < required then
    throw (.untrustedSigner (.fewScts counted.logs.length required counted.last))

end Sct

end EnclaveProvenance
