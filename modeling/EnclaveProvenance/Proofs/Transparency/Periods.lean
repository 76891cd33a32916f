import EnclaveProvenance.Proofs.Transparency.Anchors

/-!
The periods in which the anchors of a trusted root are in force, beside the windows that the file
declares. The two are the same for windows between whole seconds and differ for all others.
-/

namespace EnclaveProvenance

open Calendar (Date Moment Numeral Writes WritesFraction WritesOffset)

/-- A period of whole seconds is what is taken for a window: its ends are those of the window, each
moved back to a whole second. It may contain seconds before the start of the window, and it may miss
seconds that the window contains once its own stop has come; only between whole seconds it does
neither. -/
structure TakenFor (window : Window) (period : ValidityPeriod) : Prop where
  start_floor : ⌊window.start.instant⌋ = period.start + (window.start.second - 59 : Nat)
  stop_none : window.stop = none → period.stop = none
  stop_floor : ∀ stop, window.stop = some stop →
    ∃ second, period.stop = some second ∧ ⌊stop.instant⌋ = second + (stop.second - 59 : Nat)
  early_iff : ∀ second, period.contains second = true ∧ ¬window.Contains second ↔
    period.contains second = true ∧ (second : ℚ) < window.start.instant
  late_iff : ∀ second, window.Contains second ∧ period.contains second = false ↔
    window.Contains second ∧ ∃ stop, period.stop = some stop ∧ stop ≤ second
  same_of_whole : window.Whole →
    ∀ second, period.contains second = true ↔ window.Contains second
  whole_of_same : (∀ second, period.contains second = true ↔ window.Contains second) →
    (∃ second, period.contains second = true) → window.Whole

theorem Window.Written.takenFor {window : Window} (written : window.Written) :
    TakenFor window window.taken where
  start_floor := by
    obtain ⟨text, writes⟩ := written.start
    exact writes.floor_instant
  stop_none := by
    intro none
    rw [taken, none, Option.map_none]
  stop_floor := by
    intro stop given
    obtain ⟨text, writes⟩ := written.stop stop given
    exact ⟨stop.taken, by rw [taken, given, Option.map_some], writes.floor_instant⟩
  early_iff := fun second => written.early_iff
  late_iff := by
    intro second
    rw [written.late_iff, taken]
    simp
  same_of_whole := fun whole second => written.contains_of_whole whole
  whole_of_same := fun same ⟨_, kept⟩ => written.whole_of_contains same kept

theorem takenFor_of_declares {window : Window} {value : Bytes} {period : ValidityPeriod}
    (declares : window.Declares value) (read : ValidityPeriod.ofJson? value = some period) :
    TakenFor window period := by
  obtain ⟨_, rfl⟩ := (Window.ofJson?_of_declares declares).1 read
  exact declares.written.takenFor

namespace TrustedRoot

theorem takenFor_of_kept {listings : List LogListing} {logs : List TransparencyLog}
    (kept : Kept (listings.map LogListing.record) logs) {log : TransparencyLog}
    (member : log ∈ logs) : ∃ listing ∈ listings, listing.logId = Base64.encode log.logId ∧
      TakenFor listing.window.window log.validity := by
  obtain ⟨_, inside, own⟩ := kept.exists_logOf member
  obtain ⟨listing, listed, rfl⟩ := List.mem_map.1 inside
  refine ⟨listing, listed, own.logId, ?_⟩
  rw [own.validity]
  exact listing.window.declares.written.takenFor

/-- The anchors of a trusted root are in force for the periods that are taken for their windows. -/
theorem periods_of_windows (value : Bytes) (file : RootFile) :
    Date.Counts Date.dayNumber ∧
    (∀ period, ValidityPeriod.ofJson? value = some period →
      ∃ window : Window, window.Declares value) ∧
    (∀ window : Window, window.Declares value →
      ((∃ period, ValidityPeriod.ofJson? value = some period) ↔ window.Occurs) ∧
      ∀ period, ValidityPeriod.ofJson? value = some period → TakenFor window period) ∧
    ∀ root, file.Plain → read file.written = .ok root →
      List.Forall₂ (fun listing anchor => TakenFor listing.window.window anchor.validity)
        file.authorities root.authorities ∧
      (∀ log ∈ root.entryLogs, ∃ listing ∈ file.entryLogs,
        listing.logId = Base64.encode log.logId ∧ TakenFor listing.window.window log.validity) ∧
      ∀ log ∈ root.certificateLogs, ∃ listing ∈ file.certificateLogs,
        listing.logId = Base64.encode log.logId ∧ TakenFor listing.window.window log.validity := by
  refine ⟨Date.counts_dayNumber, fun period => Window.exists_declares, ?_, ?_⟩
  · intro window declares
    refine ⟨?_, fun period => takenFor_of_declares declares⟩
    simp only [Window.ofJson?_of_declares declares, exists_and_left, exists_eq, and_true]
  · intro root plain found
    rw [read_of_holds (RootFile.document_written plain), Checks.mapError_eq_ok_iff,
      ofRecord_eq_ok_iff] at found
    refine ⟨?_, fun log => takenFor_of_kept found.entryLogs,
      fun log => takenFor_of_kept found.certificateLogs⟩
    have each := List.forall₂_map_left_iff.1 found.authorities
    refine each.imp fun listing anchor own => ?_
    rw [own.validity]
    exact listing.window.declares.written.takenFor

def halfPast (year : Nat) : Moment :=
  ⟨⟨year, 1, 1⟩, 0, 0, 0, Nat.ofDigitChars 10 ['5'] 0 / 10 ^ ['5'].length, 0⟩

theorem writes_halfPast {year : Nat} {digits : List Char} (numeral : Numeral 4 digits year) :
    Writes (digits ++ "-01-01T00:00:00.5Z".toList) (halfPast year) := by
  have one : Numeral 2 ['0', '1'] 1 := ⟨rfl, List.all_eq_true.1 rfl, rfl⟩
  have zero : Numeral 2 ['0', '0'] 0 := ⟨rfl, List.all_eq_true.1 rfl, rfl⟩
  have mark : 'T' ∈ ['T', 't', ' '] := by decide
  have half : WritesFraction ['.', '5'] (halfPast year).fraction :=
    .given (by decide) (List.all_eq_true.1 rfl)
  have universal : WritesOffset ['Z'] 0 := .universal (by decide)
  exact .form numeral one one mark zero zero zero half universal

theorem instant_halfPast (year : Nat) :
    (halfPast year).instant = (halfPast year).taken + 1 / 2 := by
  have five : Nat.ofDigitChars 10 ['5'] 0 = 5 := by decide
  have half : (halfPast year).fraction = 1 / 2 := by
    rw [halfPast, five]
    norm_num
  have whole : (halfPast year).second = 0 := rfl
  rw [Moment.instant_eq, half, whole]
  norm_num

theorem numeral_2020 : Numeral 4 ['2', '0', '2', '0'] 2020 := ⟨rfl, List.all_eq_true.1 rfl, rfl⟩

theorem numeral_2021 : Numeral 4 ['2', '0', '2', '1'] 2021 := ⟨rfl, List.all_eq_true.1 rfl, rfl⟩

def halfPastWindow : WrittenWindow where
  start := {
    text := "2020-01-01T00:00:00.5Z"
    moment := halfPast 2020
    plain := by decide
    writes := writes_halfPast numeral_2020
    occurs := ⟨Date.isValid_iff.1 (by decide), by decide, by decide, by decide, nofun⟩ }
  stop := some {
    text := "2021-01-01T00:00:00.5Z"
    moment := halfPast 2021
    plain := by decide
    writes := writes_halfPast numeral_2021
    occurs := ⟨Date.isValid_iff.1 (by decide), by decide, by decide, by decide, nofun⟩ }

/-- An anchor that is declared from half a second past a new year on, and until half a second past the
next one, is in force for half a second too early, and no more at the last second of its window. -/
theorem anchor_before_its_start :
    halfPastWindow.window.Declares halfPastWindow.text ∧
    ValidityPeriod.ofJson? halfPastWindow.text = some ⟨1577836800, some 1609459200⟩ ∧
    ValidityPeriod.contains ⟨1577836800, some 1609459200⟩ 1577836800 = true ∧
    ¬halfPastWindow.window.Contains 1577836800 ∧
    ValidityPeriod.contains ⟨1577836800, some 1609459200⟩ 1609459200 = false ∧
    halfPastWindow.window.Contains 1609459200 := by
  have start : (halfPast 2020).taken = 1577836800 := by decide
  have stop : (halfPast 2021).taken = 1609459200 := by decide
  have taken : halfPastWindow.window.taken = ⟨1577836800, some 1609459200⟩ := by
    rw [Window.taken, ← start, ← stop]
    rfl
  have declared : halfPastWindow.window.start.instant = 1577836800 + 1 / 2 := by
    rw [show halfPastWindow.window.start = halfPast 2020 from rfl, instant_halfPast, start]
    norm_num
  refine ⟨halfPastWindow.declares, taken ▸ halfPastWindow.reads_text.read, by decide, ?_, by decide,
    ?_, ?_⟩
  · intro inside
    have late := inside.1
    rw [declared] at late
    norm_num at late
  · rw [declared]
    norm_num
  · intro last given
    obtain rfl : halfPast 2021 = last := Option.some.inj given
    rw [instant_halfPast, stop]
    norm_num

end TrustedRoot

end EnclaveProvenance
