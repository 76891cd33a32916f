import EnclaveProvenance.Proofs.Transparency.Identities

/-!
What a policy that asks for release tags makes of a workflow's URI. The ref that a workflow ran for
stands behind the first `@` of its path; the policy looks for the mark of a tag anywhere in the URI, so
it also accepts a ref that is no tag but has the mark in its name.
-/

namespace EnclaveProvenance.IdentityPolicy

open Checks

def HasRef (path ref : String) : Prop := ∃ file : String, path = file ++ "@" ++ ref ∧ '@' ∉ file.toList

def IsTag (ref : String) : Prop := ∃ name, ref = "refs/tags/" ++ name

def RunsForTag (path : String) : Prop := ∃ ref, HasRef path ref ∧ IsTag ref

/-- The path of a workflow whose ref is no tag, though the mark of one occurs in it. -/
def Disguised (path : String) : Prop := ∃ ref, HasRef path ref ∧ ¬IsTag ref ∧ Marked ref

/-- A repository's name that the slash behind it turns into one with the mark. -/
def EndsInMark (repository : String) : Prop := ∃ owner, repository = owner ++ "@refs/tags"

theorem releaseMark_toList : releaseMark.toList = '@' :: "refs/tags/".toList := rfl

theorem marked_iff_toList {text : String} : Marked text ↔ releaseMark.toList <:+: text.toList := by
  rw [← contains_releaseMark_iff, Text.contains_iff]

theorem isTag_iff_toList {ref : String} : IsTag ref ↔ "refs/tags/".toList <+: ref.toList := by
  rw [IsTag, ← Text.startsWith_iff, Text.startsWith_iff_toList]

theorem hasRef_toList {path ref : String} (own : HasRef path ref) :
    ∃ file, path.toList = file ++ '@' :: ref.toList ∧ '@' ∉ file := by
  obtain ⟨file, rfl, free⟩ := own
  have mark : "@".toList = ['@'] := rfl
  exact ⟨file.toList, by simp [String.toList_append, mark], free⟩

theorem exists_hasRef {path : String} (given : '@' ∈ path.toList) : ∃ ref, HasRef path ref := by
  obtain ⟨file, ref, split, free⟩ := List.eq_append_cons_of_mem given
  have mark : "@".toList = ['@'] := rfl
  refine ⟨String.ofList ref, String.ofList file, ?_, ?_⟩
  · rw [← String.toList_inj, split]
    simp [String.toList_append, mark]
  · rwa [String.toList_ofList]

theorem HasRef.unique {path ref other : String} (own : HasRef path ref) (their : HasRef path other) :
    ref = other := by
  obtain ⟨file, split, free⟩ := hasRef_toList own
  obtain ⟨otherFile, otherSplit, otherFree⟩ := hasRef_toList their
  exact String.toList_inj.1 (Text.append_cons_inj free otherFree (split.symm.trans otherSplit)).2

theorem HasRef.marked_iff {path ref : String} (own : HasRef path ref) :
    Marked path ↔ IsTag ref ∨ Marked ref := by
  obtain ⟨file, split, free⟩ := hasRef_toList own
  rw [marked_iff_toList, marked_iff_toList, isTag_iff_toList, split, releaseMark_toList,
    Text.infix_append_of_not_mem free, List.infix_cons_iff, List.cons_prefix_cons]
  simp

theorem mem_of_marked {text : String} (marked : Marked text) : '@' ∈ text.toList := by
  rw [marked_iff_toList, releaseMark_toList] at marked
  exact marked.subset List.mem_cons_self

theorem marked_path_iff {path : String} : Marked path ↔ RunsForTag path ∨ Disguised path := by
  constructor
  · intro marked
    obtain ⟨ref, own⟩ := exists_hasRef (mem_of_marked marked)
    by_cases tag : IsTag ref
    · exact .inl ⟨ref, own, tag⟩
    · exact .inr ⟨ref, own, tag, (own.marked_iff.1 marked).resolve_left tag⟩
  · rintro (⟨ref, own, tag⟩ | ⟨ref, own, _, marked⟩)
    · exact own.marked_iff.2 (.inl tag)
    · exact own.marked_iff.2 (.inr marked)

theorem Disguised.not_runsForTag {path : String} (disguised : Disguised path) :
    ¬RunsForTag path := by
  rintro ⟨ref, own, tag⟩
  obtain ⟨other, theirs, noTag, _⟩ := disguised
  exact noTag (own.unique theirs ▸ tag)

theorem endsInMark_iff_toList {repository : String} {owner name : List Char}
    (split : repository.toList = owner ++ '/' :: name) (ownerFree : '/' ∉ owner)
    (nameFree : '/' ∉ name) : EndsInMark repository ↔
      (∃ start, owner = start ++ '@' :: "refs".toList) ∧ name = "tags".toList := by
  have ending : "@refs/tags".toList = '@' :: ("refs".toList ++ '/' :: "tags".toList) := rfl
  constructor
  · rintro ⟨start, rfl⟩
    rw [String.toList_append, ending] at split
    have same : (start.toList ++ '@' :: "refs".toList) ++ '/' :: "tags".toList =
        owner ++ '/' :: name := by
      rw [← split, List.append_assoc, List.cons_append]
    have once := congrArg (List.count '/') same
    simp only [List.count_append, List.count_cons_self, List.count_eq_zero.2 ownerFree,
      List.count_eq_zero.2 nameFree] at once
    have startFree : '/' ∉ start.toList ++ '@' :: "refs".toList := by
      rw [← List.count_eq_zero, List.count_append]
      omega
    obtain ⟨owners, names⟩ := Text.append_cons_inj startFree ownerFree same
    exact ⟨⟨start.toList, owners.symm⟩, names.symm⟩
  · rintro ⟨⟨start, rfl⟩, rfl⟩
    refine ⟨String.ofList start, ?_⟩
    rw [← String.toList_inj, split, String.toList_append, @String.toList_ofList start, ending,
      List.append_assoc, List.cons_append]

theorem marked_workflow_iff {repository path : String} (named : IsRepositoryName repository) :
    Marked (workflowLead repository ++ path) ↔
      RunsForTag path ∨ Disguised path ∨ EndsInMark repository := by
  obtain ⟨owner, name, split, _, _, ownerFree, nameFree⟩ := isRepositoryName_iff_toList.1 named
  have lead : '@' ∉ CertificateIdentity.githubUrl.toList := by decide
  have folder : '@' ∉ ".github/workflows/".toList := by decide
  have refs : "refs/tags/".toList = "refs".toList ++ '/' :: "tags/".toList := rfl
  have refsFree : '/' ∉ "refs".toList := by decide
  have tags : "tags/".toList = "tags".toList ++ ['/'] := rfl
  have tagsFree : '/' ∉ "tags".toList := by decide
  have other : ¬"tags/".toList <+: ".github/workflows/".toList ++ path.toList := by
    rintro ⟨later, same⟩
    exact absurd (List.cons.inj same).1 (by decide)
  have atSlash : "tags/".toList <+: name ++ '/' :: (".github/workflows/".toList ++ path.toList) ↔
      name = "tags".toList := by
    rw [tags, Text.prefix_piece_iff tagsFree nameFree]
    simp
  rw [marked_iff_toList, String.toList_append, workflowLead_toList, split, releaseMark_toList, refs]
  simp only [List.append_assoc, List.cons_append]
  rw [Text.infix_append_of_not_mem lead, Text.infix_piece_iff (by decide) refsFree ownerFree,
    Text.infix_piece_iff (by decide) refsFree nameFree, Text.infix_append_of_not_mem folder, ← refs,
    ← releaseMark_toList, ← marked_iff_toList, marked_path_iff, atSlash,
    ← endsInMark_iff_toList split ownerFree nameFree]
  simp only [other, and_false, false_or]
  rw [or_comm, or_assoc]

theorem Disguised.two_marks {path : String} (disguised : Disguised path) :
    2 ≤ path.toList.count '@' := by
  obtain ⟨ref, own, _, marked⟩ := disguised
  obtain ⟨file, split, _⟩ := hasRef_toList own
  have within : 0 < ref.toList.count '@' := List.count_pos_iff.2 (mem_of_marked marked)
  rw [split, List.count_append, List.count_cons_self]
  omega

theorem mem_of_endsInMark {repository : String} (ends : EndsInMark repository) :
    '@' ∈ repository.toList := by
  obtain ⟨owner, rfl⟩ := ends
  have ending : '@' ∈ "@refs/tags".toList := by decide
  rw [String.toList_append]
  exact List.mem_append_right _ ending

/-- A policy that asks for release tags accepts a workflow that ran for a tag, and besides it one whose
ref has the mark of a tag in its name, and any of a repository whose own name ends in that mark. With
one `@` in the path of the workflow and none in the name of the repository the ref is a tag. -/
theorem check_pinned_iff (issuer : String) (identity : CertificateIdentity) (expected : String) :
    (check ⟨issuer, true⟩ identity expected = .ok () ↔
      identity.issuer = some issuer ∧ IsRepositoryName expected ∧
        identity.repository? = some expected ∧ ∃ path,
          FirstOf (IsWorkflowOf expected) (workflowUris identity) (workflowLead expected ++ path) ∧
            (RunsForTag path ∨ Disguised path ∨ EndsInMark expected)) ∧
    ∀ path, check ⟨issuer, true⟩ identity expected = .ok () →
      FirstOf (IsWorkflowOf expected) (workflowUris identity) (workflowLead expected ++ path) →
        path.toList.count '@' ≤ 1 → '@' ∉ expected.toList → RunsForTag path := by
  rw [check_eq_ok_iff]
  constructor
  · constructor
    · intro accepts
      obtain ⟨uri, first, marked⟩ := accepts.workflow
      obtain ⟨path, rfl⟩ := first.found_holds
      exact ⟨accepts.issuer, accepts.named, accepts.repository, path, first,
        (marked_workflow_iff accepts.named).1 (marked rfl)⟩
    · rintro ⟨issued, named, repository, path, first, runs⟩
      exact {
        issuer := issued
        named := named
        repository := repository
        workflow := ⟨_, first, fun _ => (marked_workflow_iff named).2 runs⟩ }
  · intro path accepts own single free
    obtain ⟨uri, first, marked⟩ := accepts.workflow
    have same := (workflow?_eq_some_iff.2 first).symm.trans (workflow?_eq_some_iff.2 own)
    obtain rfl := Option.some.inj same
    rcases (marked_workflow_iff accepts.named).1 (marked rfl) with tag | disguised | ends
    · exact tag
    · have two := disguised.two_marks
      omega
    · exact absurd (mem_of_endsInMark ends) free

def branchPath : String := "build.yml@refs/heads/next@refs/tags/v1"

def branchRun : CertificateIdentity where
  issuer := some githubActionsIssuer
  sourceRepositoryUri := some "https://github.com/o/r"
  workflowRepository := none
  buildSignerUri := none
  alternativeUris := [workflowLead "o/r" ++ branchPath]

/-- A branch passes for a tag when its name contains the mark of one. -/
theorem check_branch_run : standard.check branchRun "o/r" = .ok () ∧
    standard.requireReleaseTag = true ∧
    workflow? branchRun "o/r" = some (workflowLead "o/r" ++ branchPath) ∧
    HasRef branchPath "refs/heads/next@refs/tags/v1" ∧ ¬RunsForTag branchPath := by
  have own : HasRef branchPath "refs/heads/next@refs/tags/v1" := ⟨"build.yml", rfl, by decide⟩
  have noTag : ¬IsTag "refs/heads/next@refs/tags/v1" := by
    rw [isTag_iff_toList]
    decide
  have disguised : Disguised branchPath := ⟨_, own, noTag, "refs/heads/next", "v1", by decide⟩
  have passed : (standard.check branchRun "o/r").toBool = true := by decide +kernel
  exact ⟨eq_ok_of_toBool passed, rfl, by decide +kernel, own, disguised.not_runsForTag⟩

end EnclaveProvenance.IdentityPolicy
