import EnclaveProvenance.Text

/-!
Days of the Gregorian calendar, extended back to year zero, and seconds since the start of 1970.
-/

namespace EnclaveProvenance.Calendar

def isLeap (year : Nat) : Bool := year % 4 == 0 && (year % 100 != 0 || year % 400 == 0)

def daysBeforeYear (year : Nat) : Nat :=
  365 * year + (year + 3) / 4 - (year + 99) / 100 + (year + 399) / 400

def monthLengths (year : Nat) : List Nat :=
  [31, if isLeap year then 29 else 28, 31, 30, 31, 30, 31, 31, 30, 31, 30, 31]

def total (lengths : List Nat) : Nat := lengths.foldl (· + ·) 0

theorem daysBeforeYear_succ (year : Nat) :
    daysBeforeYear (year + 1) = daysBeforeYear year + total (monthLengths year) := by
  have fourth : (year + 1 + 3) / 4 = (year + 3) / 4 + if year % 4 = 0 then 1 else 0 := by
    split <;> omega
  have century : (year + 1 + 99) / 100 = (year + 99) / 100 + if year % 100 = 0 then 1 else 0 := by
    split <;> omega
  have fourCenturies : (year + 1 + 399) / 400 = (year + 399) / 400 + if year % 400 = 0 then 1 else 0 := by
    split <;> omega
  have enough : (year + 99) / 100 ≤ 365 * year + (year + 3) / 4 := by omega
  simp only [daysBeforeYear, total, List.foldl_cons, List.foldl_nil, monthLengths, isLeap, fourth,
    century, fourCenturies]
  by_cases four : year % 4 = 0 <;> by_cases hundred : year % 100 = 0 <;>
    by_cases fourHundred : year % 400 = 0 <;>
    simp [four, hundred, fourHundred] <;> omega

structure Date where
  year : Nat
  month : Nat
  day : Nat
deriving DecidableEq, Repr

namespace Date

def monthLength (date : Date) : Nat := (monthLengths date.year).getD (date.month - 1) 0

def isValid (date : Date) : Bool :=
  1 ≤ date.month && date.month ≤ 12 && 1 ≤ date.day && date.day ≤ date.monthLength

/-- Days since the first of January 1970. -/
def dayNumber (date : Date) : Int :=
  (daysBeforeYear date.year + total ((monthLengths date.year).take (date.month - 1)) + date.day - 1 : Nat) -
    (daysBeforeYear 1970 : Nat)

end Date

def secondsPerDay : Nat := 86400

def seconds (date : Date) (hour minute second : Nat) : Int :=
  date.dayNumber * secondsPerDay + (hour * 3600 + minute * 60 + second : Nat)

def readDigits? (count : Nat) (text : List Char) : Option (Nat × List Char) :=
  if (text.take count).length = count then
    (Text.digits? (text.take count)).map (·, text.drop count)
  else none

end EnclaveProvenance.Calendar
