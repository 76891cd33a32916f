import EnclaveProvenance.Calendar.InternetTime
import EnclaveProvenance.Proofs.Decimal
import Mathlib.Data.Rat.Floor
import Mathlib.Tactic.Linarith
import Mathlib.Tactic.Positivity

/-!
Instants in the form of RFC 3339: which instant a text of that form denotes exactly, which such texts
are read, and the whole second that is taken for the instant.
-/

namespace EnclaveProvenance.Calendar

namespace Date

def next (date : Date) : Date :=
  if date.day < date.monthLength then { date with day := date.day + 1 }
  else if date.month < 12 then ⟨date.year, date.month + 1, 1⟩
  else ⟨date.year + 1, 1, 1⟩

structure Valid (date : Date) : Prop where
  month_pos : 1 ≤ date.month
  month_le : date.month ≤ 12
  day_pos : 1 ≤ date.day
  day_le : date.day ≤ date.monthLength

theorem isValid_iff {date : Date} : date.isValid = true ↔ date.Valid := by
  simp only [isValid, Bool.and_eq_true, decide_eq_true_eq]
  constructor
  · rintro ⟨⟨⟨monthPos, monthLe⟩, dayPos⟩, dayLe⟩
    exact ⟨monthPos, monthLe, dayPos, dayLe⟩
  · rintro ⟨monthPos, monthLe, dayPos, dayLe⟩
    exact ⟨⟨⟨monthPos, monthLe⟩, dayPos⟩, dayLe⟩

theorem total_take_succ {lengths : List Nat} {index : Nat} (inside : index < lengths.length) :
    total (lengths.take (index + 1)) = total (lengths.take index) + lengths.getD index 0 := by
  rw [total, total, List.take_add_one, List.foldl_append, List.getD_eq_getElem?_getD,
    List.getElem?_eq_getElem inside]
  rfl

theorem dayNumber_next {date : Date} (valid : date.Valid) :
    date.next.dayNumber = date.dayNumber + 1 := by
  obtain ⟨year, month, day⟩ := date
  obtain ⟨monthPos, monthLe, dayPos, dayLe⟩ := valid
  simp only at monthPos monthLe dayPos dayLe
  obtain ⟨index, rfl⟩ : ∃ index, month = index + 1 := ⟨month - 1, by omega⟩
  simp only [monthLength, Nat.add_sub_cancel] at dayLe
  have whole : (monthLengths year).length = 12 := rfl
  have inside : index < (monthLengths year).length := by omega
  have later := total_take_succ inside
  simp only [next, monthLength, Nat.add_sub_cancel]
  split
  · simp only [dayNumber, Nat.add_sub_cancel]
    omega
  · next last =>
    split
    · simp only [dayNumber, Nat.add_sub_cancel]
      omega
    · next december =>
      obtain rfl : index = 11 := by omega
      have year_succ := daysBeforeYear_succ year
      rw [List.take_of_length_le (by omega)] at later
      simp only [dayNumber, Nat.add_sub_cancel, Nat.sub_self, List.take_zero]
      have none : total [] = 0 := rfl
      omega

structure Counts (number : Date → Int) : Prop where
  epoch : number ⟨1970, 1, 1⟩ = 0
  next : ∀ date : Date, date.Valid → number date.next = number date + 1

theorem counts_dayNumber : Counts dayNumber := ⟨by decide, fun _ => dayNumber_next⟩

end Date

structure Numeral (count : Nat) (digits : List Char) (value : Nat) : Prop where
  length : digits.length = count
  all_digits : ∀ character ∈ digits, character.isDigit = true
  value_eq : value = Nat.ofDigitChars 10 digits 0

theorem readDigits?_eq_some_iff {count value : Nat} {text rest : List Char} (positive : 0 < count) :
    readDigits? count text = some (value, rest) ↔
      ∃ digits, text = digits ++ rest ∧ Numeral count digits value := by
  unfold readDigits?
  constructor
  · intro found
    split at found
    · next enough =>
      obtain ⟨_, read, same⟩ := Option.map_eq_some_iff.1 found
      obtain ⟨rfl, rfl⟩ := Prod.mk.inj same
      obtain ⟨_, all, value⟩ := Text.digits?_eq_some_iff.1 read
      exact ⟨text.take count, (List.take_append_drop count text).symm, enough, all, value⟩
    · cases found
  · rintro ⟨digits, rfl, length, all, value⟩
    have nonempty : digits ≠ [] := List.ne_nil_of_length_pos (by omega)
    rw [List.take_left' length, List.drop_left' length, if_pos length,
      Text.digits?_eq_some_iff.2 ⟨nonempty, all, value⟩]
    rfl

theorem Numeral.readDigits? {count value : Nat} {digits : List Char}
    (numeral : Numeral count digits value) (positive : 0 < count) (rest : List Char) :
    readDigits? count (digits ++ rest) = some (value, rest) :=
  (readDigits?_eq_some_iff positive).2 ⟨digits, rfl, numeral⟩

theorem readMark?_eq_some_iff {marks text rest : List Char} :
    readMark? marks text = some rest ↔ ∃ mark ∈ marks, text = mark :: rest := by
  cases text with
  | nil => simp [readMark?]
  | cons character later =>
    simp only [readMark?, List.contains_iff_mem]
    constructor
    · intro found
      split at found
      · next member => exact ⟨character, member, by rw [Option.some.inj found]⟩
      · cases found
    · rintro ⟨_, member, ⟨⟩⟩
      rw [if_pos member]

section Steps

variable {α : Type} {text : List Char} {value : α}

theorem exists_numeral_of_bind {count : Nat} (positive : 0 < count)
    {next : Nat × List Char → Option α} (found : (readDigits? count text >>= next) = some value) :
    ∃ number digits rest, text = digits ++ rest ∧ Numeral count digits number ∧
      next (number, rest) = some value := by
  obtain ⟨⟨number, rest⟩, read, later⟩ := Option.bind_eq_some_iff.1 found
  obtain ⟨digits, split, numeral⟩ := (readDigits?_eq_some_iff positive).1 read
  exact ⟨number, digits, rest, split, numeral, later⟩

theorem Numeral.readDigits?_bind {count number : Nat} {digits rest : List Char}
    (numeral : Numeral count digits number) (positive : 0 < count)
    {next : Nat × List Char → Option α} :
    (Calendar.readDigits? count (digits ++ rest) >>= next) = next (number, rest) := by
  rw [numeral.readDigits? positive]
  rfl

theorem readMark?_bind {marks rest : List Char} {mark : Char} (member : mark ∈ marks)
    {next : List Char → Option α} : (readMark? marks (mark :: rest) >>= next) = next rest := by
  rw [readMark?_eq_some_iff.2 ⟨mark, member, rfl⟩]
  rfl

theorem exists_mark_of_bind {marks : List Char} {next : List Char → Option α}
    (found : (readMark? marks text >>= next) = some value) :
    ∃ mark rest, text = mark :: rest ∧ mark ∈ marks ∧ next rest = some value := by
  obtain ⟨rest, read, later⟩ := Option.bind_eq_some_iff.1 found
  obtain ⟨mark, member, split⟩ := readMark?_eq_some_iff.1 read
  exact ⟨mark, rest, split, member, later⟩

end Steps

inductive WritesFraction : List Char → ℚ → Prop
  | absent : WritesFraction [] 0
  | given {digits : List Char} : digits ≠ [] → (∀ character ∈ digits, character.isDigit = true) →
      WritesFraction ('.' :: digits) (Nat.ofDigitChars 10 digits 0 / 10 ^ digits.length)

theorem WritesFraction.nonneg {text : List Char} {fraction : ℚ}
    (writes : WritesFraction text fraction) : 0 ≤ fraction := by
  cases writes with
  | absent => rfl
  | given nonempty all => positivity

theorem WritesFraction.lt_one {text : List Char} {fraction : ℚ}
    (writes : WritesFraction text fraction) : fraction < 1 := by
  cases writes with
  | absent => exact zero_lt_one
  | given nonempty all =>
    rw [div_lt_one (by positivity)]
    have small := Text.ofDigitChars_lt all
    rw [Nat.pow_eq] at small
    exact_mod_cast small

inductive WritesOffset : List Char → Int → Prop
  | universal {mark : Char} : mark ∈ ['Z', 'z'] → WritesOffset [mark] 0
  | ahead {hours minutes : List Char} {hour minute : Nat} :
      Numeral 2 hours hour → Numeral 2 minutes minute → hour ≤ 23 → minute ≤ 59 →
      WritesOffset ('+' :: (hours ++ ':' :: minutes)) (hour * 3600 + minute * 60)
  | behind {hours minutes : List Char} {hour minute : Nat} :
      Numeral 2 hours hour → Numeral 2 minutes minute → hour ≤ 23 → minute ≤ 59 →
      WritesOffset ('-' :: (hours ++ ':' :: minutes)) (-(hour * 3600 + minute * 60))

theorem WritesOffset.starts {text : List Char} {offset : Int} (writes : WritesOffset text offset) :
    ∃ mark rest, text = mark :: rest ∧ mark ∈ ['Z', 'z', '+', '-'] := by
  cases writes with
  | universal member =>
    rw [List.mem_pair] at member
    rcases member with rfl | rfl
    · exact ⟨_, _, rfl, by simp⟩
    · exact ⟨_, _, rfl, by simp⟩
  | ahead => exact ⟨_, _, rfl, by simp⟩
  | behind => exact ⟨_, _, rfl, by simp⟩

theorem readOffset?_signed {hours minutes : List Char} {hour minute : Nat} {sign : Char}
    (hourRead : Numeral 2 hours hour) (minuteRead : Numeral 2 minutes minute) (hourLe : hour ≤ 23)
    (minuteLe : minute ≤ 59) : readOffset? (sign :: (hours ++ ':' :: minutes)) =
      if sign = '+' then some (hour * 3600 + minute * 60 : Int)
      else if sign = '-' then some (-(hour * 3600 + minute * 60) : Int)
      else none := by
  have hourDigits := hourRead.readDigits? (by decide) (':' :: minutes)
  have minuteDigits := minuteRead.readDigits? (by decide) []
  rw [List.append_nil] at minuteDigits
  have marked : readMark? [':'] (':' :: minutes) = some minutes := rfl
  rw [readOffset?]
  · simp only [hourDigits, marked, minuteDigits, Option.bind_eq_bind, Option.bind_some, hourLe,
      minuteLe, and_self, if_true]
    push_cast
    rfl
  · simp
  · simp

theorem readOffset?_eq_some_iff {text : List Char} {offset : Int} :
    readOffset? text = some offset ↔ WritesOffset text offset := by
  constructor
  · intro found
    unfold readOffset? at found
    split at found
    · cases found
      exact .universal (by simp)
    · cases found
      exact .universal (by simp)
    · next sign rest _ _ =>
      simp only [Option.bind_eq_bind, Option.bind_eq_some_iff, Prod.exists,
        readDigits?_eq_some_iff (show 0 < 2 by decide), readMark?_eq_some_iff,
        List.mem_singleton] at found
      obtain ⟨hour, _, ⟨hours, rfl, hourRead⟩, _, ⟨_, rfl, rfl⟩, minute, _,
        ⟨minutes, rfl, minuteRead⟩, found⟩ := found
      split at found
      · next bounds =>
        obtain ⟨hourLe, minuteLe, rfl⟩ := bounds
        rw [List.append_nil]
        split at found
        · next plus =>
          cases found
          subst plus
          exact_mod_cast WritesOffset.ahead hourRead minuteRead hourLe minuteLe
        · split at found
          · next minus =>
            cases found
            subst minus
            exact_mod_cast WritesOffset.behind hourRead minuteRead hourLe minuteLe
          · cases found
      · cases found
    · cases found
  · intro writes
    cases writes with
    | universal member =>
      rw [List.mem_pair] at member
      rcases member with rfl | rfl
      · rfl
      · rfl
    | ahead hourRead minuteRead hourLe minuteLe =>
      rw [readOffset?_signed hourRead minuteRead hourLe minuteLe, if_pos rfl]
    | behind hourRead minuteRead hourLe minuteLe =>
      rw [readOffset?_signed hourRead minuteRead hourLe minuteLe, if_neg (by decide), if_pos rfl]

theorem skipFraction?_append {part rest : List Char} {fraction : ℚ} {offset : Int}
    (writes : WritesFraction part fraction) (ends : WritesOffset rest offset) :
    skipFraction? (part ++ rest) = some rest := by
  obtain ⟨mark, later, rfl, member⟩ := ends.starts
  have stops : mark.isDigit = false ∧ mark ≠ '.' := by
    simp only [List.mem_cons, List.not_mem_nil, or_false] at member
    rcases member with rfl | rfl | rfl | rfl <;> decide
  cases writes with
  | absent =>
    rw [List.nil_append, skipFraction?]
    rintro _ ⟨⟩
    exact stops.2 rfl
  | @given digits nonempty all =>
    have taken : (digits ++ mark :: later).takeWhile (·.isDigit) = digits := by
      rw [List.takeWhile_append_of_pos all, List.takeWhile_cons_of_neg (by simp [stops.1]),
        List.append_nil]
    rw [List.cons_append, skipFraction?, taken, if_neg (by simpa using nonempty),
      List.drop_left]

theorem exists_writesFraction {text rest : List Char} (found : skipFraction? text = some rest) :
    ∃ part fraction, text = part ++ rest ∧ WritesFraction part fraction := by
  unfold skipFraction? at found
  split at found
  · next following =>
    simp only at found
    split at found
    · cases found
    · next nonempty =>
      cases found
      refine ⟨'.' :: following.takeWhile (·.isDigit), _, ?_, .given (by simpa using nonempty) ?_⟩
      · have split := List.prefix_iff_eq_append.1 (List.takeWhile_prefix (·.isDigit) (l := following))
        rw [List.cons_append, split]
      · exact fun character member => List.all_eq_true.1 List.all_takeWhile character member
  · cases found
    exact ⟨[], 0, rfl, .absent⟩

structure Moment where
  date : Date
  hour : Nat
  minute : Nat
  second : Nat
  fraction : ℚ
  ahead : Int

namespace Moment

def instant (moment : Moment) : ℚ :=
  seconds moment.date moment.hour moment.minute moment.second + moment.fraction - moment.ahead

def taken (moment : Moment) : Int :=
  seconds moment.date moment.hour moment.minute (min moment.second 59) - moment.ahead

/-- The calendar has the date, and a day has the time; a sixtieth second ends a month. -/
structure Occurs (moment : Moment) : Prop where
  date : moment.date.Valid
  hour : moment.hour ≤ 23
  minute : moment.minute ≤ 59
  second : moment.second ≤ 60
  leap : moment.second = 60 → endsMonth moment.date moment.taken = true

end Moment

/-- A text gives a moment in the form of RFC 3339: the date and the time of day in fixed numbers of
digits, then the fraction of a second, then the offset. -/
inductive Writes : List Char → Moment → Prop
  | form {moment : Moment} {year month day hour minute second fraction offset : List Char}
      {separator : Char} : Numeral 4 year moment.date.year → Numeral 2 month moment.date.month →
      Numeral 2 day moment.date.day → separator ∈ ['T', 't', ' '] →
      Numeral 2 hour moment.hour → Numeral 2 minute moment.minute →
      Numeral 2 second moment.second → WritesFraction fraction moment.fraction →
      WritesOffset offset moment.ahead →
      Writes (year ++ '-' :: (month ++ '-' :: (day ++ separator :: (hour ++ ':' :: (minute ++
        ':' :: (second ++ (fraction ++ offset))))))) moment

theorem readInstant?_eq {text : List Char} {moment : Moment} (writes : Writes text moment) :
    readInstant? text =
      if moment.date.isValid ∧ moment.hour ≤ 23 ∧ moment.minute ≤ 59 ∧ moment.second ≤ 60 then
        if moment.second = 60 ∧ endsMonth moment.date moment.taken = false then none
        else some moment.taken
      else none := by
  cases writes with
  | form year month day mark hour minute second part ends =>
    have skipped := skipFraction?_append part ends
    have shifted := readOffset?_eq_some_iff.2 ends
    refine (year.readDigits?_bind (by decide)).trans ?_
    refine (readMark?_bind (by decide)).trans ?_
    refine (month.readDigits?_bind (by decide)).trans ?_
    refine (readMark?_bind (by decide)).trans ?_
    refine (day.readDigits?_bind (by decide)).trans ?_
    refine (readMark?_bind mark).trans ?_
    refine (hour.readDigits?_bind (by decide)).trans ?_
    refine (readMark?_bind (by decide)).trans ?_
    refine (minute.readDigits?_bind (by decide)).trans ?_
    refine (readMark?_bind (by decide)).trans ?_
    refine (second.readDigits?_bind (by decide)).trans ?_
    simp only [skipped, shifted, Option.bind_eq_bind, Option.bind_some]
    rfl

/-- A text of the form is read if the moment occurs, and what is read is the second taken for it. -/
theorem readInstant?_of_writes {text : List Char} {moment : Moment} (writes : Writes text moment)
    {instant : Int} :
    readInstant? text = some instant ↔ moment.Occurs ∧ instant = moment.taken := by
  rw [readInstant?_eq writes]
  constructor
  · intro found
    split at found
    · next inRange =>
      split at found
      · cases found
      · next leap =>
        obtain ⟨date, hourLe, minuteLe, secondLe⟩ := inRange
        cases found
        refine ⟨⟨Date.isValid_iff.1 date, hourLe, minuteLe, secondLe, fun sixtieth => ?_⟩, rfl⟩
        rw [not_and, Bool.not_eq_false] at leap
        exact leap sixtieth
    · cases found
  · rintro ⟨⟨date, hourLe, minuteLe, secondLe, leap⟩, rfl⟩
    rw [if_pos ⟨Date.isValid_iff.2 date, hourLe, minuteLe, secondLe⟩, if_neg]
    rintro ⟨sixtieth, refused⟩
    rw [leap sixtieth] at refused
    cases refused

theorem exists_writes {text : List Char} {instant : Int}
    (found : readInstant? text = some instant) : ∃ moment, Writes text moment := by
  obtain ⟨year, _, _, rfl, yearRead, found⟩ := exists_numeral_of_bind (by decide) found
  obtain ⟨_, _, rfl, dash, found⟩ := exists_mark_of_bind found
  obtain ⟨month, _, _, rfl, monthRead, found⟩ := exists_numeral_of_bind (by decide) found
  obtain ⟨_, _, rfl, secondDash, found⟩ := exists_mark_of_bind found
  obtain ⟨day, _, _, rfl, dayRead, found⟩ := exists_numeral_of_bind (by decide) found
  obtain ⟨separator, _, rfl, mark, found⟩ := exists_mark_of_bind found
  obtain ⟨hour, _, _, rfl, hourRead, found⟩ := exists_numeral_of_bind (by decide) found
  obtain ⟨_, _, rfl, colon, found⟩ := exists_mark_of_bind found
  obtain ⟨minute, _, _, rfl, minuteRead, found⟩ := exists_numeral_of_bind (by decide) found
  obtain ⟨_, _, rfl, secondColon, found⟩ := exists_mark_of_bind found
  obtain ⟨second, _, _, rfl, secondRead, found⟩ := exists_numeral_of_bind (by decide) found
  obtain ⟨rest, skipped, found⟩ := Option.bind_eq_some_iff.1 found
  obtain ⟨ahead, ends, _⟩ := Option.bind_eq_some_iff.1 found
  obtain ⟨part, fraction, rfl, partRead⟩ := exists_writesFraction skipped
  rw [List.mem_singleton] at dash secondDash colon secondColon
  subst dash secondDash colon secondColon
  exact ⟨⟨⟨year, month, day⟩, hour, minute, second, fraction, ahead⟩,
    .form yearRead monthRead dayRead mark hourRead minuteRead secondRead partRead
      (readOffset?_eq_some_iff.1 ends)⟩

namespace Moment

structure Whole (moment : Moment) : Prop where
  fraction : moment.fraction = 0
  second : moment.second ≤ 59

theorem instant_eq (moment : Moment) :
    moment.instant = moment.taken + (moment.second - 59 : Nat) + moment.fraction := by
  have sixtieth : seconds moment.date moment.hour moment.minute moment.second =
      seconds moment.date moment.hour moment.minute (min moment.second 59) +
        (moment.second - 59 : Nat) := by
    unfold seconds
    omega
  rw [instant, taken, sixtieth]
  push_cast
  ring

end Moment

namespace Writes

variable {text : List Char} {moment : Moment}

theorem fraction_nonneg (writes : Writes text moment) : 0 ≤ moment.fraction := by
  cases writes with
  | form _ _ _ _ _ _ _ part _ => exact part.nonneg

theorem fraction_lt_one (writes : Writes text moment) : moment.fraction < 1 := by
  cases writes with
  | form _ _ _ _ _ _ _ part _ => exact part.lt_one

theorem floor_instant (writes : Writes text moment) :
    ⌊moment.instant⌋ = moment.taken + (moment.second - 59 : Nat) := by
  rw [Int.floor_eq_iff, moment.instant_eq]
  have nonneg := writes.fraction_nonneg
  have ltOne := writes.fraction_lt_one
  push_cast
  constructor
  · linarith
  · linarith

theorem taken_le (writes : Writes text moment) : (moment.taken : ℚ) ≤ moment.instant := by
  have nonneg := writes.fraction_nonneg
  have late : (0 : ℚ) ≤ (moment.second - 59 : Nat) := Nat.cast_nonneg _
  rw [moment.instant_eq]
  linarith

theorem taken_eq_iff (writes : Writes text moment) :
    (moment.taken : ℚ) = moment.instant ↔ moment.Whole := by
  have nonneg := writes.fraction_nonneg
  have late : (0 : ℚ) ≤ (moment.second - 59 : Nat) := Nat.cast_nonneg _
  rw [moment.instant_eq]
  constructor
  · intro same
    have none : ((moment.second - 59 : Nat) : ℚ) = 0 := by linarith
    rw [Nat.cast_eq_zero] at none
    exact ⟨by linarith, by omega⟩
  · rintro ⟨fraction, second⟩
    rw [fraction, Nat.sub_eq_zero_of_le second]
    simp

end Writes

end EnclaveProvenance.Calendar
