import EnclaveProvenance.Proofs.Der.Sequences
import EnclaveProvenance.Proofs.Texts
import EnclaveProvenance.Proofs.Transparency.Failures

/-!
Whom the identity policy accepts: what a certificate has to name for one repository to be the only one
that it passes for, and which of its two claims about the repository counts.
-/

namespace EnclaveProvenance

open Checks

namespace IdentityPolicy

def IsRepositoryName (text : String) : Prop :=
  ∃ owner name : String, text = owner ++ "/" ++ name ∧ owner ≠ "" ∧ name ≠ "" ∧
    text.toList.count '/' = 1

theorem isRepositoryName_iff_toList {text : String} :
    IsRepositoryName text ↔ ∃ owner name, text.toList = owner ++ '/' :: name ∧ owner ≠ [] ∧
      name ≠ [] ∧ '/' ∉ owner ∧ '/' ∉ name := by
  have slash : "/".toList = ['/'] := rfl
  constructor
  · rintro ⟨owner, name, rfl, ownerNonempty, nameNonempty, once⟩
    have split : (owner ++ "/" ++ name).toList = owner.toList ++ '/' :: name.toList := by
      simp [String.toList_append, slash]
    rw [split, List.count_append, List.count_cons_self] at once
    refine ⟨owner.toList, name.toList, split, ?_, ?_, ?_, ?_⟩
    · simpa using ownerNonempty
    · simpa using nameNonempty
    · exact List.count_eq_zero.1 (by omega)
    · exact List.count_eq_zero.1 (by omega)
  · rintro ⟨owner, name, split, ownerNonempty, nameNonempty, ownerFree, nameFree⟩
    refine ⟨String.ofList owner, String.ofList name, ?_, ?_, ?_, ?_⟩
    · rw [← String.toList_inj, split]
      simp [String.toList_append, slash]
    · simpa [← String.toList_inj] using ownerNonempty
    · simpa [← String.toList_inj] using nameNonempty
    · rw [split, List.count_append, List.count_cons_self, List.count_eq_zero.2 ownerFree,
        List.count_eq_zero.2 nameFree]

theorem isRepositoryName_eq_true_iff {text : String} :
    isRepositoryName text = true ↔ IsRepositoryName text := by
  rw [isRepositoryName_iff_toList, isRepositoryName]
  constructor
  · intro accepted
    split at accepted
    · next owner name pair =>
      obtain ⟨split, ownerFree, nameFree⟩ := Text.parts_eq_pair_iff.1 pair
      simp only [Bool.and_eq_true, Bool.not_eq_true', List.isEmpty_eq_false_iff] at accepted
      exact ⟨owner, name, split, accepted.1, accepted.2, ownerFree, nameFree⟩
    · cases accepted
  · rintro ⟨owner, name, split, ownerNonempty, nameNonempty, ownerFree, nameFree⟩
    rw [Text.parts_eq_pair_iff.2 ⟨split, ownerFree, nameFree⟩]
    simp [ownerNonempty, nameNonempty]

def IsWorkflowOf (repository uri : String) : Prop := ∃ path, uri = workflowLead repository ++ path

def Marked (text : String) : Prop := ∃ before after, text = before ++ releaseMark ++ after

theorem contains_releaseMark_iff {text : String} :
    Text.contains text releaseMark = true ↔ Marked text := by
  rw [Text.contains_iff]
  constructor
  · rintro ⟨before, after, split⟩
    refine ⟨String.ofList before, String.ofList after, ?_⟩
    rw [← String.toList_inj, ← split]
    simp [String.toList_append]
  · rintro ⟨before, after, rfl⟩
    exact ⟨before.toList, after.toList, by simp [String.toList_append]⟩

def workflowUris (identity : CertificateIdentity) : List String :=
  identity.alternativeUris ++ identity.buildSignerUri.toList

theorem workflow?_eq_some_iff {identity : CertificateIdentity} {repository uri : String} :
    workflow? identity repository = some uri ↔
      FirstOf (IsWorkflowOf repository) (workflowUris identity) uri := by
  rw [workflow?, find?_eq_some_iff_firstOf]
  simp only [Text.startsWith_iff]
  exact Iff.rfl

structure Accepts (policy : IdentityPolicy) (identity : CertificateIdentity) (expected : String) :
    Prop where
  issuer : identity.issuer = some policy.issuer
  named : IsRepositoryName expected
  repository : identity.repository? = some expected
  workflow : ∃ uri, FirstOf (IsWorkflowOf expected) (workflowUris identity) uri ∧
    (policy.requireReleaseTag = true → Marked uri)

variable {policy : IdentityPolicy} {identity : CertificateIdentity} {expected : String}

theorem accepts_of_check (accepted : policy.check identity expected = .ok ()) :
    Accepts policy identity expected := by
  unfold check at accepted
  split at accepted
  · next issuer issued =>
    simp only [refuse_eq_ok_iff, ne_eq, Decidable.not_not, Bool.not_eq_false,
      isRepositoryName_eq_true_iff] at accepted
    obtain ⟨trusted, named, accepted⟩ := accepted
    split at accepted
    · next repository own =>
      rw [refuse_eq_ok_iff, Decidable.not_not] at accepted
      obtain ⟨same, accepted⟩ := accepted
      split at accepted
      · next uri found =>
        rw [refuseLast_eq_ok_iff, not_and, Bool.not_eq_false, contains_releaseMark_iff] at accepted
        exact {
          issuer := by rw [issued, trusted]
          named := named
          repository := by rw [own, same]
          workflow := ⟨uri, workflow?_eq_some_iff.1 found, accepted.1⟩ }
      · cases accepted
    · cases accepted
  · cases accepted

theorem Accepts.check_eq_ok (accepts : Accepts policy identity expected) :
    policy.check identity expected = .ok () := by
  obtain ⟨uri, first, marked⟩ := accepts.workflow
  have released : ¬(policy.requireReleaseTag = true ∧ Text.contains uri releaseMark = false) := by
    rw [not_and, Bool.not_eq_false, contains_releaseMark_iff]
    exact marked
  unfold check
  simp only [accepts.issuer, accepts.repository, isRepositoryName_eq_true_iff.2 accepts.named,
    workflow?_eq_some_iff.2 first, refuse_eq_ok_iff, refuseLast_eq_ok_iff, ne_eq, not_true_eq_false,
    not_false_eq_true, Bool.true_eq_false, true_and]
  exact ⟨released, rfl⟩

theorem check_eq_ok_iff : policy.check identity expected = .ok () ↔
    Accepts policy identity expected :=
  ⟨accepts_of_check, Accepts.check_eq_ok⟩

theorem workflowLead_toList (repository : String) : (workflowLead repository).toList =
    CertificateIdentity.githubUrl.toList ++
      (repository.toList ++ '/' :: ".github/workflows/".toList) := by
  have folder : "/.github/workflows/".toList = '/' :: ".github/workflows/".toList := rfl
  rw [workflowLead, String.toList_append, String.toList_append, folder, List.append_assoc]

/-- A workflow belongs to one repository: what stands before the second slash after the host is its
name, so that no longer or shorter name and no other split leads to the same workflow. -/
theorem repository_unique {uri one other : String} (named : IsRepositoryName one)
    (otherNamed : IsRepositoryName other) (own : IsWorkflowOf one uri)
    (theirs : IsWorkflowOf other uri) : one = other := by
  obtain ⟨owner, name, split, _, _, ownerFree, nameFree⟩ := isRepositoryName_iff_toList.1 named
  obtain ⟨otherOwner, otherName, otherSplit, _, _, otherOwnerFree, otherNameFree⟩ :=
    isRepositoryName_iff_toList.1 otherNamed
  obtain ⟨path, rfl⟩ := own
  obtain ⟨otherPath, same⟩ := theirs
  rw [← String.toList_inj, String.toList_append, String.toList_append, workflowLead_toList,
    workflowLead_toList, split, otherSplit] at same
  simp only [List.append_assoc, List.cons_append, List.append_cancel_left_eq] at same
  obtain ⟨owners, rest⟩ := Text.append_cons_inj ownerFree otherOwnerFree same
  obtain ⟨names, _⟩ := Text.append_cons_inj nameFree otherNameFree rest
  rw [← String.toList_inj, split, otherSplit, owners, names]

end IdentityPolicy

namespace TransparencyVerifier

theorem Acceptance.leaf_unique {one other : TransparencyVerifier} {digest otherDigest : String}
    {repository otherRepository : String} {bundleBytes : Bytes} {set otherSet : MeasurementSet}
    (acceptance : Acceptance one digest bundleBytes repository set)
    (their : Acceptance other otherDigest bundleBytes otherRepository otherSet) :
    acceptance.leaf = their.leaf := by
  have bundles : acceptance.bundle = their.bundle :=
    Except.ok.inj (acceptance.bundle_read.symm.trans their.bundle_read)
  have texts : acceptance.leafText = their.leafText :=
    Option.some.inj (acceptance.leaf_given.symm.trans (bundles ▸ their.leaf_given))
  have octets : acceptance.leafBytes = their.leafBytes :=
    Option.some.inj (acceptance.leaf_decoded.symm.trans (texts ▸ their.leaf_decoded))
  exact Except.ok.inj (acceptance.leaf_parsed.symm.trans (octets ▸ their.leaf_parsed))

theorem repository_of_verify_unique {one other : TransparencyVerifier}
    {digest otherDigest : String} {repository otherRepository : String} {bundleBytes : Bytes}
    {set otherSet : MeasurementSet}
    (accepted : one.verify digest bundleBytes repository = .ok set)
    (otherAccepted : other.verify otherDigest bundleBytes otherRepository = .ok otherSet) :
    repository = otherRepository := by
  obtain ⟨acceptance⟩ := acceptance_of_verify accepted
  obtain ⟨their⟩ := acceptance_of_verify otherAccepted
  have own := (IdentityPolicy.check_eq_ok_iff.1 acceptance.identified).repository
  have theirs := (IdentityPolicy.check_eq_ok_iff.1 their.identified).repository
  rw [acceptance.leaf_unique their] at own
  exact Option.some.inj (own.symm.trans theirs)

end TransparencyVerifier

namespace IdentityPolicy

/-- The policy accepts an identity for exactly the repository that it names, whose workflow it also
names; a refusal tells a wrong issuer from a wrong identity. No workflow is one of two repositories,
and no bundle is accepted for two. -/
theorem check_singles_out_repository :
    (∀ (policy : IdentityPolicy) (identity : CertificateIdentity) (expected : String),
      (policy.check identity expected = .ok () ↔ Accepts policy identity expected) ∧
      (identity.issuer ≠ some policy.issuer → ∃ fault,
        policy.check identity expected = .error fault ∧ fault.kind = .untrustedSigner) ∧
      (identity.issuer = some policy.issuer → ¬Accepts policy identity expected → ∃ fault,
        policy.check identity expected = .error fault ∧ fault.kind = .identityMismatch)) ∧
    (∀ uri one other : String, IsRepositoryName one → IsRepositoryName other →
      IsWorkflowOf one uri → IsWorkflowOf other uri → one = other) ∧
    ∀ (verifier otherVerifier : TransparencyVerifier) (digest otherDigest : String)
      (bundleBytes : Bytes) (repository otherRepository : String) (set otherSet : MeasurementSet),
      verifier.verify digest bundleBytes repository = .ok set →
        otherVerifier.verify otherDigest bundleBytes otherRepository = .ok otherSet →
          repository = otherRepository := by
  refine ⟨fun policy identity expected => ⟨check_eq_ok_iff, ?_, ?_⟩, ?_, ?_⟩
  · intro untrusted
    obtain ⟨defect, failed⟩ := check_eq_error_of_issuer expected untrusted
    exact ⟨_, failed, rfl⟩
  · intro trusted refused
    rw [← check_eq_ok_iff] at refused
    cases judged : policy.check identity expected with
    | error fault =>
      have kinds := check_fails_of_issuer trusted fault judged
      exact ⟨fault, rfl, List.mem_singleton.1 kinds⟩
    | ok done => exact absurd judged refused
  · intro uri one other named otherNamed own theirs
    exact repository_unique named otherNamed own theirs
  · intro verifier otherVerifier digest otherDigest bundleBytes repository otherRepository set
      otherSet accepted otherAccepted
    exact TransparencyVerifier.repository_of_verify_unique accepted otherAccepted

end IdentityPolicy

/-! Two claims about the repository. -/

namespace CertificateIdentity

def OnHost (uri : String) : Prop := ∃ name, uri = githubUrl ++ name

/-- No source repository on the known host is named, be it that none is named or one elsewhere. -/
def Hostless (identity : CertificateIdentity) : Prop :=
  ∀ uri, identity.sourceRepositoryUri = some uri → ¬OnHost uri

theorem repository?_eq_some_iff {identity : CertificateIdentity} {repository : String} :
    identity.repository? = some repository ↔
      identity.sourceRepositoryUri = some (githubUrl ++ repository) ∨
        identity.Hostless ∧ identity.workflowRepository = some repository := by
  have onHost : identity.sourceRepositoryUri.bind (Text.after? githubUrl) = some repository ↔
      identity.sourceRepositoryUri = some (githubUrl ++ repository) := by
    simp only [Option.bind_eq_some_iff, Text.after?_eq_some_iff]
    constructor
    · rintro ⟨uri, given, rfl⟩
      exact given
    · intro given
      exact ⟨_, given, rfl⟩
  have hostless : identity.sourceRepositoryUri.bind (Text.after? githubUrl) = none ↔
      identity.Hostless := by
    rw [Option.bind_eq_none_iff]
    simp only [Option.eq_none_iff_forall_ne_some, ne_eq, Text.after?_eq_some_iff, Hostless, OnHost,
      not_exists]
  rw [repository?, Option.or_eq_some_iff, onHost, hostless]

theorem Hostless.repository?_eq {identity : CertificateIdentity} (hostless : identity.Hostless) :
    identity.repository? = { identity with sourceRepositoryUri := none }.repository? := by
  apply Option.ext
  intro repository
  rw [repository?_eq_some_iff, repository?_eq_some_iff]
  constructor
  · rintro (own | ⟨_, older⟩)
    · exact absurd ⟨repository, rfl⟩ (hostless _ own)
    · exact .inr ⟨nofun, older⟩
  · rintro (impossible | ⟨_, older⟩)
    · cases impossible
    · exact .inr ⟨hostless, older⟩

theorem derText?_eq_some_iff {certificate : Certificate} {number : Nat} {text : String} :
    derText? certificate number = some text ↔
      certificate.extension? (extensionOid number) =
          some (Der.Element.encode ⟨Der.utf8StringTag, Bytes.ofText text⟩) ∧
        Der.Element.Readable ⟨Der.utf8StringTag, Bytes.ofText text⟩ := by
  simp only [derText?, Option.bind_eq_some_iff, Der.onlyElement?_eq_some_iff,
    Der.Element.contentOf?_eq_some_iff, Bytes.text?_eq_some_iff]
  constructor
  · rintro ⟨_, found, _, ⟨readable, rfl⟩, _, rfl, rfl⟩
    exact ⟨found, readable⟩
  · rintro ⟨found, readable⟩
    exact ⟨_, found, _, ⟨readable, rfl⟩, _, rfl, rfl⟩

end CertificateIdentity

namespace IdentityPolicy

open CertificateIdentity

variable {policy : IdentityPolicy} {identity : CertificateIdentity} {expected : String}

theorem Accepts.sourceRepository (accepts : Accepts policy identity expected) {uri : String}
    (given : identity.sourceRepositoryUri = some uri) :
    uri = githubUrl ++ expected ↔ OnHost uri := by
  constructor
  · rintro rfl
    exact ⟨expected, rfl⟩
  · intro onHost
    rcases repository?_eq_some_iff.1 accepts.repository with own | ⟨hostless, _⟩
    · exact Option.some.inj (given.symm.trans own)
    · exact absurd onHost (hostless uri given)

/-- Of a source repository on the known host an accepted identity names the expected one. A source
repository elsewhere is passed over: the identity is judged as if it named none, and the older claim
stands in. The claims of a certificate are those of its extensions. -/
theorem check_sourceRepository (policy : IdentityPolicy) (identity : CertificateIdentity)
    (expected : String) :
    (policy.check identity expected = .ok () → ∀ uri, identity.sourceRepositoryUri = some uri →
      (uri = githubUrl ++ expected ↔ OnHost uri)) ∧
    (identity.Hostless →
      policy.check identity expected =
          policy.check { identity with sourceRepositoryUri := none } expected ∧
        (policy.check identity expected = .ok () →
          identity.workflowRepository = some expected)) ∧
    ∀ (certificate : Certificate) (uri : String),
      certificate.extension? (extensionOid 12) =
          some (Der.Element.encode ⟨Der.utf8StringTag, Bytes.ofText uri⟩) →
        Der.Element.Readable ⟨Der.utf8StringTag, Bytes.ofText uri⟩ →
          policy.check (.ofCertificate certificate) expected = .ok () →
            (uri = githubUrl ++ expected ↔ OnHost uri) := by
  refine ⟨?_, ?_, ?_⟩
  · intro accepted uri given
    exact (check_eq_ok_iff.1 accepted).sourceRepository given
  · intro hostless
    constructor
    · unfold check
      rw [hostless.repository?_eq]
      rfl
    · intro accepted
      rcases repository?_eq_some_iff.1 (check_eq_ok_iff.1 accepted).repository with own | ⟨_, older⟩
      · exact absurd ⟨expected, rfl⟩ (hostless _ own)
      · exact older
  · intro certificate uri given readable accepted
    have named : (ofCertificate certificate).sourceRepositoryUri = some uri :=
      derText?_eq_some_iff.2 ⟨given, readable⟩
    exact (check_eq_ok_iff.1 accepted).sourceRepository named

def elsewhere : CertificateIdentity where
  issuer := some githubActionsIssuer
  sourceRepositoryUri := some "https://gitlab.com/o/r"
  workflowRepository := some "o/r"
  buildSignerUri := none
  alternativeUris := [workflowLead "o/r" ++ "build.yml@refs/tags/v1"]

/-- A certificate whose source repository is on another host passes by its older claim. -/
theorem check_elsewhere : standard.check elsewhere "o/r" = .ok () ∧
    elsewhere.sourceRepositoryUri = some "https://gitlab.com/o/r" ∧
    "https://gitlab.com/o/r" ≠ githubUrl ++ "o/r" := by
  have passed : (standard.check elsewhere "o/r").toBool = true := by decide +kernel
  exact ⟨eq_ok_of_toBool passed, rfl, by decide⟩

end IdentityPolicy

end EnclaveProvenance
