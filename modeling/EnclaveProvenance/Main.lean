import EnclaveProvenance.Calendar.InternetTime
import EnclaveProvenance.CommandLine.Run
import EnclaveProvenance.Report.Written
import Std.Time.DateTime.Timestamp

/-!
The program. It opens no connection, so that inputs which are not in files count as failed requests.
-/

namespace EnclaveProvenance.CommandLine

def usageText : String :=
  "Verify that an AWS Nitro enclave runs the code a GitHub release attests to

Usage: enclave-provenance [OPTIONS] --repo <REPO>

Options:
      --repo <REPO>                          GitHub repository (owner/name) of the enclave image
      --digest <DIGEST>                      SHA-256 digest of the enclave image
      --domain <DOMAIN>                      Domain of the enclave
      --attestation-file <ATTESTATION_FILE>  File with the attestation document
      --bundle-file <BUNDLE_FILE>            File with the Sigstore bundle
      --config <CONFIG>                      JSON configuration file
      --trusted-root <TRUSTED_ROOT>          Sigstore trusted_root.json
      --registers <REGISTERS>                Registers to compare, as in 0,1,2
      --json                                 Print the result as JSON
  -h, --help                                 Print help"

def readFiles (paths : List String) : IO (List (String × Except FileDefect Bytes)) :=
  paths.mapM fun (path : String) => do
    try
      let content ← IO.FS.readBinFile path
      return (path, .ok content.data.toList)
    catch problem =>
      match problem with
      | .noFileOrDirectory _ _ _ => return (path, .error .notFound)
      | other => return (path, .error (.stated (toString other)))

def lookUp (read : List (String × Except FileDefect Bytes)) : Files := fun path =>
  (read.lookup path).getD (.error .notFound)

def gatherFiles (options : Options) : IO Files := do
  let document := match options.document with
    | .file path => [path]
    | .domain _ => []
  let named ← readFiles (options.configFile.toList ++ options.bundleFile.toList ++
    options.trustedRoot.toList ++ document)
  match options.config (lookUp named) with
  | .error _ => return lookUp named
  | .ok config =>
    let further ← readFiles (config.trustedRootPath.toList ++ config.nitroRootPath.toList)
    return lookUp (named ++ further)

def present : IO Nat := do return (← Std.Time.Timestamp.now).toSecondsSinceUnixEpoch.val.toNat

def printReport (json : Bool) (time : String) (report : Report) : IO Unit := do
  if json then
    IO.println (report.json.pretty 0)
  else
    for line in report.eventLines do
      IO.println s!"{time} {line}"
    for line in report.errorLines do
      IO.eprintln line

end EnclaveProvenance.CommandLine

open EnclaveProvenance EnclaveProvenance.CommandLine

def main (words : List String) : IO UInt32 := do
  let clock ← present
  let (files, json) ← match parse words with
    | some (.verify options) => do pure (← gatherFiles options, options.json)
    | _ => pure (lookUp [], false)
  let outcome := run words ⟨files, Retrieval.disconnected, clock⟩
  match outcome with
  | .usageError => IO.eprintln usageText
  | .help => IO.println usageText
  | .failed fault => IO.eprintln s!"Error: {fault.message}"
  | .finished report => printReport json (Calendar.writeInstant clock) report
  return UInt32.ofNat outcome.exitCode
