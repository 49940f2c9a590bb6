import RuntimeMonitor.Digest.Base64Url
import RuntimeMonitor.Digest.Sha256
import RuntimeMonitor.Identity.Attributes
import RuntimeMonitor.Text.Blank

/-!
# Connection identities

The identity of a connection is the digest of the attributes of the runtime at its other end, as
text. It stays the same when the connection is made anew.
-/

namespace RuntimeMonitor

open Identity Digest

structure Identity where
  text : String
  deriving DecidableEq, Repr

namespace Identity

def ofAttributes (a : Attributes) : Except Error Identity :=
  a.canonicalBytes.map (fun bytes => ⟨Text.trim (Base64Url.encode (Sha256.digest bytes))⟩)

/-- A source of attributes, which may fail to give them. -/
abbrev Source := Except Error Attributes

def ofSource (s : Source) : Except Error Identity := s.bind ofAttributes

/-- The identity is written as a plain string. -/
instance : JsonForm Identity := ⟨fun i => .string i.text, fun j => j.string?.map .mk⟩

/-- Identities in the order of their texts, each once. -/
def sorted (identities : List Identity) : List Identity :=
  (identities.mergeSort (fun a b => a.text ≤ b.text)).eraseReps

end Identity
end RuntimeMonitor
