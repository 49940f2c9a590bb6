import RuntimeMonitor.Json.Form

/-!
# Service handles

Where a resolved service listens. Caches hold such handles for the time of a connection.
-/

namespace RuntimeMonitor.Cache

structure Handle where
  host : String
  port : UInt16
  deriving DecidableEq, Repr

instance : JsonForm Handle where
  toJson h := .object [("host", JsonForm.toJson h.host), ("port", JsonForm.toJson h.port)]
  ofJson? j := do
    match ← j.fields? ["host", "port"] with
    | [host, port] => return ⟨← JsonForm.ofJson? host, ← JsonForm.ofJson? port⟩
    | _ => none

end RuntimeMonitor.Cache
