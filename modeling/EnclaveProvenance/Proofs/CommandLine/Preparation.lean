import EnclaveProvenance.CommandLine.Run
import EnclaveProvenance.Proofs.Configuration
import EnclaveProvenance.Proofs.Retrieval

/-!
What a run from the command line starts its verifiers with: anchors from the files that the options
and the configuration name, the settings of the configuration, and a digest that is given or
announced; and what it takes to have the two inputs.
-/

namespace EnclaveProvenance

open Checks

namespace CommandLine

open Retrieval (Source)

namespace Options

def ReadsConfig (options : Options) (files : Files) (base : Config) : Prop :=
  match options.configFile with
  | some path => ∃ text, files path = .ok text ∧ Config.read text = .ok base
  | none => base = .standard

theorem ReadsConfig.valid {options : Options} {files : Files} {base : Config}
    (reads : options.ReadsConfig files base) : base.Valid := by
  unfold ReadsConfig at reads
  split at reads
  · obtain ⟨text, _, read⟩ := reads
    exact (Config.read_eq_ok_iff.1 read).2
  · rw [reads]
    exact Config.valid_standard

def override (options : Options) (base : Config) : Config :=
  { base with
    trustedRootPath := options.trustedRoot.or base.trustedRootPath
    registers := options.registers.getD base.registers }

theorem config_eq_ok_iff {options : Options} {files : Files} {config : Config} :
    options.config files = .ok config ↔
      ∃ base, options.ReadsConfig files base ∧ config = options.override base := by
  unfold Options.config ReadsConfig
  cases named : options.configFile with
  | some path =>
    simp only [Config.load, Config.file, bind_eq_ok_iff, mapError_eq_ok_iff, pure_eq_ok_iff]
    constructor
    · rintro ⟨base, ⟨text, had, read⟩, rfl⟩
      exact ⟨base, ⟨text, had, read⟩, rfl⟩
    · rintro ⟨base, ⟨text, had, read⟩, rfl⟩
      exact ⟨base, ⟨text, had, read⟩, rfl⟩
  | none =>
    simp only [bind_eq_ok_iff, pure_eq_ok_iff]
    constructor
    · rintro ⟨_, rfl, rfl⟩
      exact ⟨.standard, rfl, rfl⟩
    · rintro ⟨_, rfl, rfl⟩
      exact ⟨.standard, rfl, rfl⟩

def ChoosesDigest (options : Options) (source : Source) (digest : String) : Prop :=
  match options.digest with
  | some given => digest = given
  | none => source.Announces options.repository digest

theorem expectedDigest_eq_ok_iff {options : Options} {source : Source} {digest : String} :
    options.expectedDigest source = .ok digest ↔ options.ChoosesDigest source digest := by
  unfold expectedDigest ChoosesDigest
  cases options.digest with
  | some given => rw [Except.ok.injEq, eq_comm]
  | none => exact Source.latestRelease_digest_iff

end Options

/-- What is ready when the verifiers of a run start. -/
structure Preparation (options : Options) (surroundings : Surroundings) where
  base : Config
  base_read : options.ReadsConfig surroundings.files base
  trustedRoot : TrustedRoot
  trustedRoot_read : ∃ path text, options.trustedRoot.or base.trustedRootPath = some path ∧
    surroundings.files path = .ok text ∧ TrustedRoot.read text = .ok trustedRoot
  nitroRoot : Certificate
  nitroRoot_read : ∃ text, base.NitroRootText surroundings.files text ∧
    Certificate.ofPem text = .ok nitroRoot
  digest : String
  digest_chosen : options.ChoosesDigest (.ofConfig surroundings.network base) digest

namespace Preparation

variable {options : Options} {surroundings : Surroundings}

def transparency (ready : Preparation options surroundings) : TransparencyVerifier :=
  ⟨ready.trustedRoot, ⟨ready.base.issuer, ready.base.requireReleaseTag⟩, ready.base.sctThreshold⟩

def hardware (ready : Preparation options surroundings) : HardwareVerifier :=
  ⟨ready.nitroRoot, ready.base.validationTime⟩

def registers (ready : Preparation options surroundings) : List RegisterIndex :=
  options.registers.getD ready.base.registers

def source (ready : Preparation options surroundings) : Source :=
  .ofConfig surroundings.network ready.base

def report (ready : Preparation options surroundings) : Report :=
  Orchestrator.run ⟨ready.transparency, ready.hardware, ready.registers⟩ surroundings.clock
    ready.digest options.repository (options.bundle surroundings.files ready.source ready.digest)
    (options.documentBytes surroundings.files ready.source)

end Preparation

theorem orchestrator_override_iff {options : Options} {files : Files} {base : Config}
    {orchestrator : Orchestrator} :
    (options.override base).orchestrator files = .ok orchestrator ↔ ∃ trustedRoot nitroRoot,
      (∃ path text, options.trustedRoot.or base.trustedRootPath = some path ∧
        files path = .ok text ∧ TrustedRoot.read text = .ok trustedRoot) ∧
      (∃ text, base.NitroRootText files text ∧ Certificate.ofPem text = .ok nitroRoot) ∧
      orchestrator = ⟨⟨trustedRoot, ⟨base.issuer, base.requireReleaseTag⟩, base.sctThreshold⟩,
        ⟨nitroRoot, base.validationTime⟩, options.registers.getD base.registers⟩ := by
  simp only [Config.orchestrator, bind_eq_ok_iff, pure_eq_ok_iff,
    Config.transparencyVerifier_eq_ok_iff, Config.hardwareVerifier_eq_ok_iff]
  constructor
  · rintro ⟨_, ⟨path, text, trustedRoot, named, had, read, rfl⟩,
      _, ⟨nitroText, nitroRoot, nitroHad, nitroRead, rfl⟩, rfl⟩
    exact ⟨trustedRoot, nitroRoot, ⟨path, text, named, had, read⟩,
      ⟨nitroText, nitroHad, nitroRead⟩, rfl⟩
  · rintro ⟨trustedRoot, nitroRoot, ⟨path, text, named, had, read⟩,
      ⟨nitroText, nitroHad, nitroRead⟩, rfl⟩
    exact ⟨_, ⟨path, text, trustedRoot, named, had, read, rfl⟩,
      _, ⟨nitroText, nitroRoot, nitroHad, nitroRead, rfl⟩, rfl⟩

theorem Options.verify_eq_ok_iff {options : Options} {surroundings : Surroundings}
    {report : Report} : options.verify surroundings = .ok report ↔
      ∃ ready : Preparation options surroundings, report = ready.report := by
  simp only [Options.verify, bind_eq_ok_iff, pure_eq_ok_iff, config_eq_ok_iff,
    expectedDigest_eq_ok_iff]
  constructor
  · rintro ⟨_, ⟨base, reads, rfl⟩, orchestrator, built, digest, chosen, rfl⟩
    obtain ⟨trustedRoot, nitroRoot, rootRead, nitroRead, rfl⟩ := orchestrator_override_iff.1 built
    exact ⟨⟨base, reads, trustedRoot, rootRead, nitroRoot, nitroRead, digest, chosen⟩, rfl⟩
  · rintro ⟨ready, rfl⟩
    exact ⟨_, ⟨ready.base, ready.base_read, rfl⟩, _,
      orchestrator_override_iff.2 ⟨ready.trustedRoot, ready.nitroRoot, ready.trustedRoot_read,
        ready.nitroRoot_read, rfl⟩, ready.digest, ready.digest_chosen, rfl⟩

end CommandLine

end EnclaveProvenance
