import RuntimeMonitor.Identity.Attributes
import RuntimeMonitor.Text.Blank

/-!
# The local runtime

The attributes of the running program itself. Its start time is taken from the clock when it is
first asked for, and stays as it is from then on.
-/

namespace RuntimeMonitor.Identity

structure LocalRuntime where
  executable : String
  pid : Nat
  arguments : List String
  environment : String → Option String
  started : Option Int64 := none

namespace LocalRuntime

/-- The name of the machine: the first of two variables that is set, unless it is blank. -/
def host (r : LocalRuntime) : String :=
  let name := (r.environment "HOSTNAME").or (r.environment "COMPUTERNAME")
  (name.filter (fun name => Text.trim name ≠ "")).getD "localhost"

/-- Fixes the start time at the present, unless it has been fixed before. -/
def pin (r : LocalRuntime) (now : Int64) : LocalRuntime :=
  { r with started := some (r.started.getD now) }

def attributes (r : LocalRuntime) (now : Int64) : Attributes where
  classPath := r.executable
  name := s!"{r.pid}@{r.host}"
  inputArguments := .strings r.arguments
  libraryPath := (r.environment "LD_LIBRARY_PATH").getD ""
  vmVendor := "vmprobe-core"
  vmVersion := "0.1.0"
  startTime := r.started.getD now

end LocalRuntime
end RuntimeMonitor.Identity
