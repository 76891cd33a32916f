import EnclaveProvenance.Proofs.Checks
import EnclaveProvenance.Retrieval.Source

/-!
What it takes to retrieve an input: a URL that can be asked, a successful answer, and in the answer
the thing that is looked for. Without one of them the failure is one of retrieval.
-/

namespace EnclaveProvenance

open Checks

namespace Retrieval

def Answers (network : Network) (text : String) (body : Bytes) : Prop :=
  ∃ url response, requestUrl text = .ok url ∧ network url = some response ∧
    200 ≤ response.status ∧ response.status < 300 ∧ body = response.body

theorem get_eq_ok_iff {network : Network} {text : String} {body : Bytes} :
    get network text = .ok body ↔ Answers network text body := by
  simp only [get, Answers, bind_eq_ok_iff, mapError_eq_ok_iff]
  constructor
  · rintro ⟨url, asked, answered⟩
    split at answered
    · next response found =>
      split at answered
      · next success =>
        cases answered
        rw [isSuccess, Bool.and_eq_true, decide_eq_true_eq, decide_eq_true_eq] at success
        exact ⟨url, response, asked, found, success.1, success.2, rfl⟩
      · cases answered
    · cases answered
  · rintro ⟨url, response, asked, found, low, high, rfl⟩
    have success : isSuccess response.status = true := by
      rw [isSuccess, Bool.and_eq_true, decide_eq_true_eq, decide_eq_true_eq]
      exact ⟨low, high⟩
    exact ⟨url, asked, by simp [found, success, pure, Except.pure]⟩

theorem firstBundle_eq_ok_iff {body bundle : Bytes} :
    firstBundle body = .ok bundle ↔
      ∃ others, (Json.document? body).bind attestations? = some (bundle :: others) := by
  unfold firstBundle
  split
  · next unread => simp [unread]
  · next readable => simp [readable]
  · next first others readable => simp [readable]

theorem releaseOf_eq_ok_iff {body : Bytes} {release : Release} :
    releaseOf body = .ok release ↔ ∃ text,
      (Json.document? body).bind notes? = some (release.tag, some text) ∧
      announcedDigest? text.toList = some release.digest := by
  unfold releaseOf
  split
  · next unread => simp [unread]
  · next tag notes readable =>
    rw [readable]
    split
    · next digest announced =>
      obtain ⟨text, rfl, found⟩ := Option.bind_eq_some_iff.1 announced
      constructor
      · rintro ⟨⟩
        exact ⟨text, rfl, found⟩
      · rintro ⟨_, ⟨⟩, same⟩
        rw [found] at same
        cases same
        rfl
    · next silent =>
      constructor
      · intro impossible
        cases impossible
      · rintro ⟨text, ⟨⟩, found⟩
        exact absurd (silent.symm.trans found) (by simp)

namespace Source

def Announces (source : Source) (repository digest : String) : Prop :=
  ∃ body tag text, Answers source.network (source.releaseUrl repository) body ∧
    (Json.document? body).bind notes? = some (tag, some text) ∧
    announcedDigest? text.toList = some digest

theorem latestRelease_digest_iff {source : Source} {repository digest : String} :
    (source.latestRelease repository).map Release.digest = .ok digest ↔
      source.Announces repository digest := by
  simp only [latestRelease, Announces, map_eq_ok_iff, bind_eq_ok_iff, mapError_eq_ok_iff,
    get_eq_ok_iff, releaseOf_eq_ok_iff]
  constructor
  · rintro ⟨release, ⟨body, answered, text, readable, announced⟩, rfl⟩
    exact ⟨body, release.tag, text, answered, readable, announced⟩
  · rintro ⟨body, tag, text, answered, readable, announced⟩
    exact ⟨⟨tag, digest⟩, ⟨body, answered, text, readable, announced⟩, rfl⟩

end Source

end Retrieval

end EnclaveProvenance
