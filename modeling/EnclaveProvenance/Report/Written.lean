import EnclaveProvenance.Json.Writer
import EnclaveProvenance.Report

/-!
Reports as they are printed: the result as JSON, the events and the failures as lines.
-/

namespace EnclaveProvenance

open Json (Value)

def RegisterComparison.json (register : RegisterComparison) : Value :=
  .object [("index", .natural register.index.toNat),
    ("sigstoreValue", .ofText register.sigstoreValue),
    ("hardwareValue", .ofText register.hardwareValue),
    ("outcome", .string register.outcome.text)]

def StageError.json (error : StageError) : Value :=
  .object [("stage", .string error.stage.text), ("kind", .string error.kind.text),
    ("message", .string error.message)]

def StageError.line (error : StageError) : String :=
  s!"error: {error.stage.text} ({error.kind.text}): {error.message}"

def Event.line (event : Event) : String := s!"[{event.stage.text}] {event.message}"

namespace Report

def json (report : Report) : Value :=
  .object [("success", .bool report.success),
    ("registers", .list (report.registers.map RegisterComparison.json)),
    ("errors", .list (report.errors.map StageError.json))]

def eventLines (report : Report) : List String := report.log.events.map Event.line

def errorLines (report : Report) : List String := report.errors.map StageError.line

end Report

end EnclaveProvenance
