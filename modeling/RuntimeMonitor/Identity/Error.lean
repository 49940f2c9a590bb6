import RuntimeMonitor.Json.Writer

/-!
# Why an identity cannot be derived

Either the start time of the runtime is not known, or an attribute has a value that cannot be
used.
-/

namespace RuntimeMonitor.Identity

inductive Error where
  | missing (name : String)
  | notInteger (name : String) (value : Json)
  | notText (name : String) (value : Json)
  | notArray (value : Json)
  | nested (value : Json)
  | tooLong (name : String) (size : Nat)

/-- The longest encoded text whose length fits in two bytes. -/
def greatestLength : Nat := 65535

namespace Error

/-- Whether the attributes could not be had at all. -/
def isUnavailable : Error → Bool
  | missing _ => true
  | _ => false

def message : Error → String
  | missing name => s!"runtime metrics unavailable: {name} missing from attribute map"
  | notInteger name value => unsupported s!"{name} must be an integer, got {value.text}"
  | notText name value => unsupported s!"{name} must be a string, got {value.text}"
  | notArray value => unsupported s!"InputArguments must be an array, got {value.text}"
  | nested value => unsupported s!"nested value in InputArguments: {value.text}"
  | tooLong name size =>
    unsupported s!"{name} encodes to {size} bytes, limit is {greatestLength}"
where
  unsupported (reason : String) : String := s!"unsupported identity attribute: {reason}"

end Error
end RuntimeMonitor.Identity
