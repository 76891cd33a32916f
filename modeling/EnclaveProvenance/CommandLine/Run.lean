import EnclaveProvenance.CommandLine.Options
import EnclaveProvenance.Retrieval.Source

/-!
A run from the command line: its inputs come from files where files are named and are retrieved
otherwise, and its exit status is the verdict.
-/

namespace EnclaveProvenance.CommandLine

open Retrieval (Source Network)

/-- What a run finds around it: files, a network, and a clock that shows seconds since the start of
1970. -/
structure Surroundings where
  files : Files
  network : Network
  clock : Nat

inductive Outcome
  | usageError
  | help
  | failed (fault : Fault)
  | finished (report : Report)
deriving DecidableEq

def Outcome.exitCode : Outcome → Nat
  | .usageError => 2
  | .help => 0
  | .failed _ => 1
  | .finished report => if report.success then 0 else 1

namespace Options

def config (options : Options) (files : Files) : Except Fault Config := do
  let base ← match options.configFile with
    | some path => Config.load files path
    | none => pure .standard
  return { base with
    trustedRootPath := options.trustedRoot.or base.trustedRootPath
    registers := options.registers.getD base.registers }

/-- The digest that was given, or the one that the latest release announces. -/
def expectedDigest (options : Options) (source : Source) : Except Fault String :=
  match options.digest with
  | some digest => .ok digest
  | none => (source.latestRelease options.repository).map Retrieval.Release.digest

def bundle (options : Options) (files : Files) (source : Source) (digest : String) :
    Except Fault Bytes :=
  match options.bundleFile with
  | some path => Config.file files path
  | none => source.bundle options.repository digest

def documentBytes (options : Options) (files : Files) (source : Source) : Except Fault Bytes :=
  match options.document with
  | .file path => Config.file files path
  | .domain name => source.document name

def verify (options : Options) (surroundings : Surroundings) : Except Fault Report := do
  let files := surroundings.files
  let config ← options.config files
  let source := Source.ofConfig surroundings.network config
  let orchestrator ← config.orchestrator files
  let digest ← options.expectedDigest source
  return orchestrator.run surroundings.clock digest options.repository
    (options.bundle files source digest) (options.documentBytes files source)

end Options

def run (words : List String) (surroundings : Surroundings) : Outcome :=
  match parse words with
  | none => .usageError
  | some .help => .help
  | some (.verify options) =>
    match options.verify surroundings with
    | .ok report => .finished report
    | .error fault => .failed fault

end EnclaveProvenance.CommandLine
