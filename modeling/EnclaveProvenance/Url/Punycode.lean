/-!
Punycode (RFC 3492): the characters of a label that are not ASCII, written after the others as the
differences between them.
-/

namespace EnclaveProvenance.Url.Punycode

def digit (value : Nat) : Char :=
  if value < 26 then Char.ofNat (97 + value) else Char.ofNat (22 + value)

def threshold (place bias : Nat) : Nat := max 1 (min 26 (place - bias))

theorem threshold_bounds (place bias : Nat) :
    1 ≤ threshold place bias ∧ threshold place bias ≤ 26 := by
  unfold threshold
  omega

/-- The digits of a number, least significant first; the bases of the places depend on the bias. -/
def digits (bias place value : Nat) : List Char :=
  let least := threshold place bias
  if value < least then [digit value]
  else digit (least + (value - least) % (36 - least)) ::
    digits bias (place + 36) ((value - least) / (36 - least))
termination_by value
decreasing_by
  have bounds := threshold_bounds place bias
  calc (value - threshold place bias) / (36 - threshold place bias)
      ≤ value - threshold place bias := Nat.div_le_self _ _
    _ < value := by omega

def settle (value bias : Nat) : Nat :=
  if 455 < value then settle (value / 35) (bias + 36) else bias + 36 * value / (value + 38)
termination_by value
decreasing_by exact Nat.div_lt_self (by omega) (by omega)

/-- The bias after a difference, when `count` characters are written. -/
def adapt (difference count : Nat) (first : Bool) : Nat :=
  let damped := if first then difference / 700 else difference / 2
  settle (damped + damped / count) 0

structure Progress where
  written : List Char
  difference : Nat
  bias : Nat
  count : Nat

def advance (basic code : Nat) (progress : Progress) (character : Char) : Progress :=
  if character.toNat < code then { progress with difference := progress.difference + 1 }
  else if character.toNat = code then {
    written := progress.written ++ digits progress.bias 36 progress.difference
    difference := 0
    bias := adapt progress.difference (progress.count + 1) (progress.count == basic)
    count := progress.count + 1 }
  else progress

def writeAll (label : List Char) (basic : Nat) : List Nat → Nat → Progress → Progress
  | [], _, progress => progress
  | code :: rest, next, progress =>
    let reached :=
      { progress with
        difference := progress.difference + (code - next) * (progress.count + 1) }
    let passed := label.foldl (advance basic code) reached
    writeAll label basic rest (code + 1) { passed with difference := passed.difference + 1 }

def isAscii (character : Char) : Bool := character.toNat < 128

def encode (label : List Char) : List Char :=
  let plain := label.filter isAscii
  let codes := ((label.filter fun character => !isAscii character).map Char.toNat).mergeSort.eraseDups
  plain ++ (if plain.isEmpty then [] else ['-']) ++
    (writeAll label plain.length codes 128 ⟨[], 0, 72, plain.length⟩).written

end EnclaveProvenance.Url.Punycode
