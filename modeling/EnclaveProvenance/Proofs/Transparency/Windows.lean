import EnclaveProvenance.Proofs.Calendar.Instants
import EnclaveProvenance.Proofs.Transparency.Written
import EnclaveProvenance.Transparency.TrustedRoot

/-!
The windows of time that trust anchors declare, between exact instants, and the periods of whole
seconds that are taken for them. Both ends are moved back to a second, so that a window that does not
start with a second is kept for a part of a second too early, and one that does not stop with a second
ends too early.
-/

namespace EnclaveProvenance

open Calendar (Moment Writes readInstant? readInstant?_of_writes exists_writes)
open Json

structure Window where
  start : Moment
  stop : Option Moment

def GivesMoment (value : Bytes) (moment : Moment) : Prop :=
  ∃ text, string? value = some text ∧ Writes text.toList moment

theorem instant?_of_gives {value : Bytes} {moment : Moment} (gives : GivesMoment value moment)
    {instant : Int} : instant? value = some instant ↔ moment.Occurs ∧ instant = moment.taken := by
  obtain ⟨text, read, writes⟩ := gives
  rw [instant?, read, Option.bind_some]
  exact readInstant?_of_writes writes

theorem exists_gives {value : Bytes} {instant : Int} (found : instant? value = some instant) :
    ∃ moment, GivesMoment value moment := by
  obtain ⟨text, read, taken⟩ := Option.bind_eq_some_iff.1 found
  obtain ⟨moment, writes⟩ := exists_writes taken
  exact ⟨moment, text, read, writes⟩

namespace Window

def Contains (window : Window) (second : Int) : Prop :=
  window.start.instant ≤ second ∧ ∀ stop, window.stop = some stop → (second : ℚ) < stop.instant

structure Occurs (window : Window) : Prop where
  start : window.start.Occurs
  stop : ∀ stop, window.stop = some stop → stop.Occurs

structure Whole (window : Window) : Prop where
  start : window.start.Whole
  stop : ∀ stop, window.stop = some stop → stop.Whole

def taken (window : Window) : ValidityPeriod :=
  ⟨window.start.taken, window.stop.map Moment.taken⟩

def GivesStop (given : Option Bytes) : Option Moment → Prop
  | none => ∀ value, given = some value → isNull value = true
  | some stop => ∃ value, given = some value ∧ isNull value = false ∧ GivesMoment value stop

/-- An object has the two ends of a window as its members `start` and `end`. -/
inductive Declares (window : Window) (value : Bytes) : Prop
  | fields {fields : Fields} {start : Bytes} : Fields.read ["start", "end"] false value = some fields →
      fields.find? "start" = some start → GivesMoment start window.start →
      GivesStop (fields.find? "end") window.stop → Declares window value

theorem optional_of_givesStop {fields : Fields} {stop : Option Moment}
    (gives : GivesStop (fields.find? "end") stop) {taken : Option Int} :
    fields.optional "end" instant? = some taken ↔
      (∀ moment, stop = some moment → moment.Occurs) ∧ taken = stop.map Moment.taken := by
  unfold Fields.optional
  cases stop with
  | none =>
    split
    · next value given => simp [gives value given, eq_comm]
    · simp [eq_comm]
  | some moment =>
    obtain ⟨value, given, notNull, gives⟩ := gives
    simp only [given, notNull, Bool.false_eq_true, if_false, Option.map_eq_some_iff,
      instant?_of_gives gives, Option.map_some, Option.some.injEq, forall_eq']
    constructor
    · rintro ⟨instant, ⟨occurs, rfl⟩, rfl⟩
      exact ⟨occurs, rfl⟩
    · rintro ⟨occurs, rfl⟩
      exact ⟨_, ⟨occurs, rfl⟩, rfl⟩

theorem ofJson?_of_declares {value : Bytes} {window : Window} (declares : Declares window value)
    {period : ValidityPeriod} :
    ValidityPeriod.ofJson? value = some period ↔ window.Occurs ∧ period = window.taken := by
  obtain ⟨read, started, gives, givesStop⟩ := declares
  simp only [ValidityPeriod.ofJson?, record?, read, Fields.required, started, Option.bind_some,
    Option.bind_eq_bind, Option.bind_eq_some_iff, instant?_of_gives gives,
    optional_of_givesStop givesStop, Option.pure_def, Option.some.injEq]
  constructor
  · rintro ⟨_, ⟨start, rfl⟩, _, ⟨stop, rfl⟩, rfl⟩
    exact ⟨⟨start, stop⟩, rfl⟩
  · rintro ⟨⟨start, stop⟩, rfl⟩
    exact ⟨_, ⟨start, rfl⟩, _, ⟨stop, rfl⟩, rfl⟩

theorem exists_givesStop {fields : Fields} {taken : Option Int}
    (found : fields.optional "end" instant? = some taken) :
    ∃ stop, GivesStop (fields.find? "end") stop := by
  unfold Fields.optional at found
  split at found
  · next value given =>
    split at found
    · next null =>
      refine ⟨none, fun other same => ?_⟩
      rw [given, Option.some.injEq] at same
      exact same ▸ null
    · next notNull =>
      obtain ⟨instant, read, _⟩ := Option.map_eq_some_iff.1 found
      obtain ⟨moment, gives⟩ := exists_gives read
      exact ⟨some moment, value, given, by simpa using notNull, gives⟩
  · next absent => exact ⟨none, fun other same => by simp [absent] at same⟩

theorem exists_declares {value : Bytes} {period : ValidityPeriod}
    (found : ValidityPeriod.ofJson? value = some period) : ∃ window, Declares window value := by
  simp only [ValidityPeriod.ofJson?, record?, Fields.required, Option.bind_eq_bind,
    Option.bind_eq_some_iff] at found
  obtain ⟨fields, read, _, ⟨start, started, taken⟩, _, stopped, _⟩ := found
  obtain ⟨moment, gives⟩ := exists_gives taken
  obtain ⟨stop, givesStop⟩ := exists_givesStop stopped
  exact ⟨⟨moment, stop⟩, .fields read started gives givesStop⟩

variable {window : Window} {second : Int}

theorem contains_taken_iff : window.taken.contains second = true ↔
    window.start.taken ≤ second ∧ ∀ stop, window.stop = some stop → second < stop.taken := by
  rw [ValidityPeriod.contains, Bool.and_eq_true, decide_eq_true_eq]
  simp [Option.all_eq_true, taken]

structure Written (window : Window) : Prop where
  start : ∃ text, Writes text window.start
  stop : ∀ stop, window.stop = some stop → ∃ text, Writes text stop

theorem Declares.written {value : Bytes} (declares : window.Declares value) : window.Written := by
  obtain ⟨_, _, ⟨text, _, writes⟩, givesStop⟩ := declares
  refine ⟨⟨text.toList, writes⟩, fun stop given => ?_⟩
  rw [given] at givesStop
  obtain ⟨_, _, _, other, _, writes⟩ := givesStop
  exact ⟨other.toList, writes⟩

theorem Written.early_iff (written : window.Written) :
    window.taken.contains second = true ∧ ¬window.Contains second ↔
      window.taken.contains second = true ∧ (second : ℚ) < window.start.instant := by
  constructor
  · rintro ⟨kept, outside⟩
    refine ⟨kept, ?_⟩
    by_contra late
    rw [not_lt] at late
    refine outside ⟨late, fun stop given => ?_⟩
    obtain ⟨text, writes⟩ := written.stop stop given
    have before : (second : ℚ) < stop.taken := by
      exact_mod_cast (contains_taken_iff.1 kept).2 stop given
    exact before.trans_le writes.taken_le
  · rintro ⟨kept, early⟩
    exact ⟨kept, fun inside => absurd inside.1 (not_le.2 early)⟩

theorem Written.late_iff (written : window.Written) :
    window.Contains second ∧ window.taken.contains second = false ↔
      window.Contains second ∧ ∃ stop, window.stop = some stop ∧ stop.taken ≤ second := by
  obtain ⟨text, writes⟩ := written.start
  constructor
  · rintro ⟨inside, refused⟩
    refine ⟨inside, ?_⟩
    by_contra none
    have started : window.start.taken ≤ second := by
      exact_mod_cast writes.taken_le.trans inside.1
    rw [← Bool.not_eq_true, contains_taken_iff] at refused
    refine refused ⟨started, fun stop given => ?_⟩
    rw [← not_le]
    exact fun stopped => none ⟨stop, given, stopped⟩
  · rintro ⟨inside, stop, given, stopped⟩
    refine ⟨inside, ?_⟩
    rw [← Bool.not_eq_true, contains_taken_iff]
    exact fun kept => absurd (kept.2 stop given) (not_lt.2 stopped)

theorem Written.contains_of_whole (written : window.Written) (whole : window.Whole) :
    window.taken.contains second = true ↔ window.Contains second := by
  obtain ⟨text, writes⟩ := written.start
  have start := writes.taken_eq_iff.2 whole.start
  have stops (stop : Moment) (given : window.stop = some stop) :
      (stop.taken : ℚ) = stop.instant := by
    obtain ⟨text, writes⟩ := written.stop stop given
    exact writes.taken_eq_iff.2 (whole.stop stop given)
  rw [contains_taken_iff, Contains, ← start, Int.cast_le]
  refine and_congr_right fun _ => forall_congr' fun stop => forall_congr' fun given => ?_
  rw [← stops stop given, Int.cast_lt]

/-- With a second in both, a window and what is taken for it agree everywhere only if the ends of the
window are whole seconds. -/
theorem Written.whole_of_contains (written : window.Written)
    (same : ∀ other, window.taken.contains other = true ↔ window.Contains other)
    (kept : window.taken.contains second = true) : window.Whole := by
  have inside := (same second).1 kept
  rw [contains_taken_iff] at kept
  refine ⟨?_, fun stop given => ?_⟩
  · obtain ⟨text, writes⟩ := written.start
    have first : window.taken.contains window.start.taken = true :=
      contains_taken_iff.2 ⟨le_rfl, fun stop given => kept.1.trans_lt (kept.2 stop given)⟩
    exact writes.taken_eq_iff.1 (le_antisymm writes.taken_le ((same _).1 first).1)
  · obtain ⟨text, writes⟩ := written.stop stop given
    refine writes.taken_eq_iff.1 (le_antisymm writes.taken_le ?_)
    by_contra early
    rw [not_le] at early
    have started : window.start.instant ≤ stop.taken :=
      inside.1.trans (by exact_mod_cast (kept.2 stop given).le)
    have last : window.Contains stop.taken := by
      refine ⟨started, fun other givenOther => ?_⟩
      rw [given, Option.some.injEq] at givenOther
      exact givenOther ▸ early
    exact absurd ((contains_taken_iff.1 ((same _).2 last)).2 stop given) (lt_irrefl _)

end Window

end EnclaveProvenance
