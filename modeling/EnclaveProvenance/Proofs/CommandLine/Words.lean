import EnclaveProvenance.CommandLine.Options
import EnclaveProvenance.Proofs.Texts

/-!
What the words of a command line say: which settings they spell, one after the other.
-/

namespace EnclaveProvenance.CommandLine

inductive Setting
  | json
  | option (name value : String)
deriving DecidableEq

/-- The words that spell settings: an option has its value in its own word or in the next one, which
then does not look like an option. -/
inductive Spells : List String → List Setting → Prop
  | done : Spells [] []
  | closing : Spells ["--"] []
  | json {words : List String} {settings : List Setting} :
      Spells words settings → Spells ("--json" :: words) (.json :: settings)
  | joined {name value : String} {words : List String} {settings : List Setting} :
      name ∈ Given.valued → Spells words settings →
      Spells (("--" ++ name ++ "=" ++ value) :: words) (.option name value :: settings)
  | apart {name value : String} {words : List String} {settings : List Setting} :
      name ∈ Given.valued → (value = "-" ∨ value.toList.head? ≠ some '-') → Spells words settings →
      Spells (("--" ++ name) :: value :: words) (.option name value :: settings)

theorem Spells.known {words : List String} {settings : List Setting}
    (spelled : Spells words settings) {name value : String}
    (member : Setting.option name value ∈ settings) : name ∈ Given.valued := by
  induction spelled with
  | done => cases member
  | closing => cases member
  | json later ih => exact ih (by simpa using member)
  | joined known later ih =>
    rcases List.mem_cons.1 member with same | inLater
    · cases same
      exact known
    · exact ih inLater
  | apart known plain later ih =>
    rcases List.mem_cons.1 member with same | inLater
    · cases same
      exact known
    · exact ih inLater

namespace Given

def take? (given : Given) : Setting → Option Given
  | .json => given.setJson?
  | .option name value => given.set? name value

def takeAll? (given : Given) : List Setting → Option Given
  | [] => some given
  | setting :: later => (given.take? setting).bind fun next => next.takeAll? later

/-- Words spell settings which, taken one after the other, leave given what the options are. -/
def Leads (given : Given) (words : List String) (options : Options) : Prop :=
  ∃ settings final, Spells words settings ∧ given.takeAll? settings = some final ∧
    final.finish? = some options

theorem Leads.take {given next : Given} {words following : List String} {options : Options}
    {setting : Setting} (later : next.Leads following options)
    (spells : ∀ settings, Spells following settings → Spells words (setting :: settings))
    (taken : given.take? setting = some next) : given.Leads words options := by
  obtain ⟨settings, final, spelled, all, finished⟩ := later
  refine ⟨setting :: settings, final, spells settings spelled, ?_, finished⟩
  rw [takeAll?, taken]
  exact all

end Given

end EnclaveProvenance.CommandLine
