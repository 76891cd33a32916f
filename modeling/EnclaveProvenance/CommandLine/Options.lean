import EnclaveProvenance.Measurement
import EnclaveProvenance.Text

/-!
The options of the command line. Words are taken from left to right, and the first one that cannot be
taken, or that asks for help, decides.
-/

namespace EnclaveProvenance.CommandLine

inductive DocumentSource
  | domain (name : String)
  | file (path : String)
deriving DecidableEq, Repr

structure Options where
  repository : String
  digest : Option String
  document : DocumentSource
  bundleFile : Option String
  configFile : Option String
  trustedRoot : Option String
  registers : Option (List RegisterIndex)
  json : Bool
deriving DecidableEq, Repr

inductive Request
  | help
  | verify (options : Options)
deriving DecidableEq, Repr

structure Given where
  repository : Option String
  digest : Option String
  domain : Option String
  attestationFile : Option String
  bundleFile : Option String
  configFile : Option String
  trustedRoot : Option String
  registers : Option (List RegisterIndex)
  json : Bool
deriving DecidableEq, Repr

namespace Given

def empty : Given := ⟨none, none, none, none, none, none, none, none, false⟩

def once (before : Option String) (value : String) : Option (Option String) :=
  if before.isSome then none else some (some value)

def oncePath (before : Option String) (path : String) : Option (Option String) :=
  if path = "" then none else once before path

def registerIndex? (text : List Char) : Option RegisterIndex :=
  match Text.integer? (String.ofList text) with
  | some value =>
    if 0 ≤ value ∧ value < UInt32.size then some (UInt32.ofNat value.toNat) else none
  | none => none

def registers? (text : String) : Option (List RegisterIndex) :=
  (Text.parts ',' text.toList).mapM registerIndex?

def valued : List String :=
  ["repo", "digest", "domain", "attestation-file", "bundle-file", "config", "trusted-root",
    "registers"]

def set? (given : Given) (name value : String) : Option Given := do
  match name with
  | "repo" => return { given with repository := ← once given.repository value }
  | "digest" => return { given with digest := ← once given.digest value }
  | "domain" => return { given with domain := ← once given.domain value }
  | "attestation-file" =>
    return { given with attestationFile := ← oncePath given.attestationFile value }
  | "bundle-file" => return { given with bundleFile := ← oncePath given.bundleFile value }
  | "config" => return { given with configFile := ← oncePath given.configFile value }
  | "trusted-root" => return { given with trustedRoot := ← oncePath given.trustedRoot value }
  | "registers" =>
    return { given with registers := some (given.registers.getD [] ++ (← registers? value)) }
  | _ => none

def setJson? (given : Given) : Option Given :=
  if given.json then none else some { given with json := true }

/-- The repository and exactly one source of the document have to be given. -/
def finish? (given : Given) : Option Options := do
  let repository ← given.repository
  let document ← match given.domain, given.attestationFile with
    | some name, none => some (DocumentSource.domain name)
    | none, some path => some (DocumentSource.file path)
    | _, _ => none
  return ⟨repository, given.digest, document, given.bundleFile, given.configFile,
    given.trustedRoot, given.registers, given.json⟩

end Given

inductive Word
  | help
  | json
  | closing
  | option (name : String) (value : Option String)
  | other
deriving DecidableEq, Repr

def Word.ofText (text : String) : Word :=
  match text.toList with
  | ['-', '-'] => .closing
  | '-' :: '-' :: rest =>
    let name := String.ofList (rest.takeWhile (· ≠ '='))
    match rest.dropWhile (· ≠ '=') with
    | _ :: value => if Given.valued.contains name then .option name (some (String.ofList value)) else .other
    | [] =>
      if name = "help" then .help
      else if name = "json" then .json
      else if Given.valued.contains name then .option name none
      else .other
  | '-' :: 'h' :: _ => .help
  | _ => .other

def isValue (text : String) : Bool := text = "-" || !Text.startsWith text "-"

def parseFrom (given : Given) : List String → Option Request
  | [] => given.finish?.map .verify
  | word :: rest =>
    match Word.ofText word with
    | .help => some .help
    | .json => given.setJson?.bind fun next => parseFrom next rest
    | .closing => if rest.isEmpty then given.finish?.map .verify else none
    | .option name (some value) => (given.set? name value).bind fun next => parseFrom next rest
    | .option name none =>
      match rest with
      | [] => none
      | value :: following =>
        if isValue value then (given.set? name value).bind fun next => parseFrom next following
        else none
    | .other => none

def parse (words : List String) : Option Request := parseFrom .empty words

end EnclaveProvenance.CommandLine
