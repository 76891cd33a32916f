import EnclaveProvenance.Config
import EnclaveProvenance.Proofs.Checks
import EnclaveProvenance.Proofs.Texts

/-!
What a configuration that can be read contains, and which verifiers it gives: their anchors come
from its files, and all else that they check with comes from its fields.
-/

namespace EnclaveProvenance.Config

open Checks

/-- A configuration compares some registers, names an issuer, and has a path from the root of a
host. -/
structure Valid (config : Config) : Prop where
  registers : config.registers ≠ []
  issuer : config.issuer ≠ ""
  attestationPath : ∃ rest, config.attestationPath.toList = '/' :: rest

theorem check_eq_ok_iff {config : Config} {done : Unit} :
    config.check = .ok done ↔ config.Valid := by
  have slash : Text.startsWith config.attestationPath "/" = true ↔
      ∃ rest, config.attestationPath.toList = '/' :: rest :=
    Text.startsWith_mark_iff rfl
  simp only [check, refuse_eq_ok_iff, refuseLast_eq_ok_iff, pure_eq_ok_iff, List.isEmpty_iff,
    Bool.not_eq_false, slash, and_true]
  constructor
  · rintro ⟨registers, path, issuer⟩
    exact ⟨registers, issuer, path⟩
  · rintro ⟨registers, issuer, path⟩
    exact ⟨registers, path, issuer⟩

theorem read_eq_ok_iff {text : Bytes} {config : Config} :
    read text = .ok config ↔ (Json.document? text).bind ofJson? = some config ∧ config.Valid := by
  unfold read
  split
  · next unread => simp [unread]
  · next found readable =>
    simp only [readable, bind_eq_ok_iff, mapError_eq_ok_iff, check_eq_ok_iff, pure_eq_ok_iff,
      Option.some.injEq]
    constructor
    · rintro ⟨_, valid, rfl⟩
      exact ⟨rfl, valid⟩
    · rintro ⟨rfl, valid⟩
      exact ⟨(), valid, rfl⟩

theorem valid_standard : standard.Valid := ⟨by decide, by decide, ⟨_, rfl⟩⟩

theorem transparencyVerifier_eq_ok_iff {config : Config} {files : Files}
    {verifier : TransparencyVerifier} :
    config.transparencyVerifier files = .ok verifier ↔ ∃ path text root,
      config.trustedRootPath = some path ∧ files path = .ok text ∧
      TrustedRoot.read text = .ok root ∧
      verifier = ⟨root, ⟨config.issuer, config.requireReleaseTag⟩, config.sctThreshold⟩ := by
  unfold transparencyVerifier
  split
  · next unset => simp [unset]
  · next path set =>
    simp only [set, file, bind_eq_ok_iff, mapError_eq_ok_iff, pure_eq_ok_iff, policy]
    constructor
    · rintro ⟨text, had, root, read, rfl⟩
      exact ⟨path, text, root, rfl, had, read, rfl⟩
    · rintro ⟨_, text, root, ⟨⟩, had, read, rfl⟩
      exact ⟨text, had, root, read, rfl⟩

def NitroRootText (config : Config) (files : Files) (text : Bytes) : Prop :=
  match config.nitroRootPath with
  | some path => files path = .ok text
  | none => text = Bytes.ofText awsNitroRootPem

theorem ofPem_eq_ok_iff {text : Bytes}
    {validationTime : ValidationTime} {verifier : HardwareVerifier} :
    HardwareVerifier.ofPem text validationTime = .ok verifier ↔
      ∃ root, Certificate.ofPem text = .ok root ∧ verifier = ⟨root, validationTime⟩ := by
  unfold HardwareVerifier.ofPem
  split
  · next root read => simp [read, eq_comm]
  · next error unread => simp [unread]

theorem hardwareVerifier_eq_ok_iff {config : Config} {files : Files} {verifier : HardwareVerifier} :
    config.hardwareVerifier files = .ok verifier ↔ ∃ text root, config.NitroRootText files text ∧
      Certificate.ofPem text = .ok root ∧ verifier = ⟨root, config.validationTime⟩ := by
  unfold hardwareVerifier NitroRootText
  split
  · next unset => simp [unset, ofPem_eq_ok_iff]
  · next path set =>
    simp only [set, file, bind_eq_ok_iff, mapError_eq_ok_iff, ofPem_eq_ok_iff]
    constructor
    · rintro ⟨text, had, root, read, rfl⟩
      exact ⟨text, root, had, read, rfl⟩
    · rintro ⟨text, root, had, read, rfl⟩
      exact ⟨text, had, root, read, rfl⟩

end EnclaveProvenance.Config
