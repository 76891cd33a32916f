import EnclaveProvenance.Calendar

/-!
Instants written in the form of RFC 3339, in whole seconds. A fraction of a second is dropped,
which goes toward the past.
-/

namespace EnclaveProvenance.Calendar

def readMark? (marks : List Char) : List Char → Option (List Char)
  | character :: rest => if marks.contains character then some rest else none
  | [] => none

def skipFraction? : List Char → Option (List Char)
  | '.' :: rest =>
    let digits := rest.takeWhile (·.isDigit)
    if digits.isEmpty then none else some (rest.drop digits.length)
  | text => some text

def readOffset? (text : List Char) : Option Int :=
  match text with
  | ['Z'] => some 0
  | ['z'] => some 0
  | sign :: rest => do
    let (hours, rest) ← readDigits? 2 rest
    let rest ← readMark? [':'] rest
    let (minutes, rest) ← readDigits? 2 rest
    if hours ≤ 23 ∧ minutes ≤ 59 ∧ rest = [] then
      if sign = '+' then some (hours * 3600 + minutes * 60 : Nat)
      else if sign = '-' then some (-(hours * 3600 + minutes * 60 : Nat))
      else none
    else none
  | [] => none

def dateNear (date : Date) (day : Int) : Date :=
  if day = date.dayNumber then date
  else if date.dayNumber < day then
    if date.day < date.monthLength then { date with day := date.day + 1 }
    else if date.month < 12 then ⟨date.year, date.month + 1, 1⟩
    else ⟨date.year + 1, 1, 1⟩
  else if 1 < date.day then { date with day := date.day - 1 }
  else if 1 < date.month then
    ⟨date.year, date.month - 1, (monthLengths date.year).getD (date.month - 2) 0⟩
  else ⟨date.year - 1, 12, 31⟩

def endsMonth (date : Date) (instant : Int) : Bool :=
  let utc := dateNear date (instant.fdiv secondsPerDay)
  instant.fmod secondsPerDay == 86399 && utc.day == utc.monthLength

/-- A sixtieth second is taken for the one before it, and only where a leap second may be. -/
def readInstant? (text : List Char) : Option Int := do
  let (year, rest) ← readDigits? 4 text
  let rest ← readMark? ['-'] rest
  let (month, rest) ← readDigits? 2 rest
  let rest ← readMark? ['-'] rest
  let (day, rest) ← readDigits? 2 rest
  let rest ← readMark? ['T', 't', ' '] rest
  let (hour, rest) ← readDigits? 2 rest
  let rest ← readMark? [':'] rest
  let (minute, rest) ← readDigits? 2 rest
  let rest ← readMark? [':'] rest
  let (second, rest) ← readDigits? 2 rest
  let rest ← skipFraction? rest
  let offset ← readOffset? rest
  let date : Date := ⟨year, month, day⟩
  if date.isValid ∧ hour ≤ 23 ∧ minute ≤ 59 ∧ second ≤ 60 then
    let instant := seconds date hour minute (min second 59) - offset
    if second = 60 ∧ endsMonth date instant = false then none else some instant
  else none

def dateInYear (year month : Nat) : List Nat → Nat → Date
  | [], days => ⟨year, month, days + 1⟩
  | length :: later, days =>
    if days < length then ⟨year, month, days + 1⟩
    else dateInYear year (month + 1) later (days - length)

def dateAfter : Nat → Nat → Nat → Date
  | 0, year, days => dateInYear year 1 (monthLengths year) days
  | years + 1, year, days =>
    if days < total (monthLengths year) then dateInYear year 1 (monthLengths year) days
    else dateAfter years (year + 1) (days - total (monthLengths year))

def padded (width value : Nat) : String :=
  let digits := Nat.toDigits 10 value
  String.ofList (List.replicate (width - digits.length) '0' ++ digits)

def writeInstant (instant : Nat) : String :=
  let days := instant / secondsPerDay
  let second := instant % secondsPerDay
  let date := dateAfter (days / 365) 1970 days
  padded 4 date.year ++ "-" ++ padded 2 date.month ++ "-" ++ padded 2 date.day ++ "T" ++
    padded 2 (second / 3600) ++ ":" ++ padded 2 (second / 60 % 60) ++ ":" ++
    padded 2 (second % 60) ++ "Z"

end EnclaveProvenance.Calendar
