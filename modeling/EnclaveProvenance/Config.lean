import EnclaveProvenance.Json.Record
import EnclaveProvenance.Report

/-!
The configuration of a run. Every field has a default, but the trusted root of the transparency side
has to be given before its verifier can be built.
-/

namespace EnclaveProvenance

structure Config where
  trustedRootPath : Option String
  nitroRootPath : Option String
  issuer : String
  requireReleaseTag : Bool
  sctThreshold : Nat
  registers : List RegisterIndex
  validationTime : ValidationTime
  apiUrl : String
  attestationPath : String
deriving DecidableEq, Repr

abbrev Files := String → Except FileDefect Bytes

namespace Config

def standard : Config where
  trustedRootPath := none
  nitroRootPath := none
  issuer := IdentityPolicy.githubActionsIssuer
  requireReleaseTag := true
  sctThreshold := 1
  registers := defaultRegisters
  validationTime := .now
  apiUrl := "https://api.github.com"
  attestationPath := "/.well-known/tinfoil-attestation"

open Json (string? natural? bool? list? isNull strictRecord? choice?)

def maxWord : Nat := UInt64.size - 1

def registerIndex? (value : Bytes) : Option RegisterIndex :=
  (natural? (UInt32.size - 1) value).map UInt32.ofNat

def validationTime? (value : Bytes) : Option ValidationTime :=
  match choice? value with
  | some ("now", data) => if data.all isNull then some .now else none
  | some ("document_timestamp", data) => if data.all isNull then some .documentTimestamp else none
  | some ("at", some data) => (natural? maxWord data).map .fixed
  | _ => none

def ofJson? : Bytes → Option Config :=
  strictRecord? ["sigstore_trusted_root", "nitro_root_cert", "oidc_issuer", "require_release_tag",
      "sct_threshold", "registers", "hardware_validation_time", "github_api_url",
      "attestation_path"] fun fields => do
    return {
      trustedRootPath := ← fields.optional "sigstore_trusted_root" string?
      nitroRootPath := ← fields.optional "nitro_root_cert" string?
      issuer := ← fields.defaulted "oidc_issuer" standard.issuer string?
      requireReleaseTag :=
        ← fields.defaulted "require_release_tag" standard.requireReleaseTag bool?
      sctThreshold := ← fields.defaulted "sct_threshold" standard.sctThreshold (natural? maxWord)
      registers := ← fields.defaulted "registers" standard.registers (list? registerIndex?)
      validationTime :=
        ← fields.defaulted "hardware_validation_time" standard.validationTime validationTime?
      apiUrl := ← fields.defaulted "github_api_url" standard.apiUrl string?
      attestationPath :=
        ← fields.defaulted "attestation_path" standard.attestationPath string? }

def check (config : Config) : Except ConfigDefect Unit := do
  if config.registers.isEmpty then throw .noRegisters
  if Text.startsWith config.attestationPath "/" = false then
    throw (.attestationPath config.attestationPath)
  if config.issuer = "" then throw .emptyIssuer

def read (text : Bytes) : Except Fault Config :=
  match (Json.document? text).bind ofJson? with
  | none => .error (.config .undecodable)
  | some config => do
    config.check.mapError Fault.config
    return config

def file (files : Files) (path : String) : Except Fault Bytes := (files path).mapError .file

def load (files : Files) (path : String) : Except Fault Config := do read (← file files path)

def policy (config : Config) : IdentityPolicy := ⟨config.issuer, config.requireReleaseTag⟩

def transparencyVerifier (config : Config) (files : Files) : Except Fault TransparencyVerifier :=
  match config.trustedRootPath with
  | none => .error (.config .noTrustedRoot)
  | some path => do
    let root ← TrustedRoot.read (← file files path)
    return ⟨root, config.policy, config.sctThreshold⟩

def hardwareVerifier (config : Config) (files : Files) : Except Fault HardwareVerifier :=
  match config.nitroRootPath with
  | none => HardwareVerifier.ofPem (Bytes.ofText awsNitroRootPem) config.validationTime
  | some path => do HardwareVerifier.ofPem (← file files path) config.validationTime

def orchestrator (config : Config) (files : Files) : Except Fault Orchestrator := do
  let transparency ← config.transparencyVerifier files
  let hardware ← config.hardwareVerifier files
  return ⟨transparency, hardware, config.registers⟩

end Config

end EnclaveProvenance
