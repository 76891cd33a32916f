/-!
The ordered record of what a verification run did.
-/

namespace EnclaveProvenance

inductive Stage
  | transparency
  | hardware
  | comparison
  | orchestrator
deriving DecidableEq, Repr

def Stage.text : Stage → String
  | .transparency => "transparency"
  | .hardware => "hardware"
  | .comparison => "comparison"
  | .orchestrator => "orchestrator"

inductive Level
  | debug
  | info
  | warn
  | error
deriving DecidableEq, Repr

def Level.text : Level → String
  | .debug => "debug"
  | .info => "info"
  | .warn => "warn"
  | .error => "error"

structure Event where
  stage : Stage
  level : Level
  message : String
deriving DecidableEq, Repr

/-- Events are only ever added at the end. -/
structure EventLog where
  events : List Event
deriving DecidableEq, Repr

namespace EventLog

def empty : EventLog := ⟨[]⟩

def record (log : EventLog) (stage : Stage) (level : Level) (message : String) : EventLog :=
  ⟨log.events ++ [⟨stage, level, message⟩]⟩

def info (log : EventLog) (stage : Stage) (message : String) : EventLog :=
  log.record stage .info message

def error (log : EventLog) (stage : Stage) (message : String) : EventLog :=
  log.record stage .error message

end EventLog

end EnclaveProvenance
