import RuntimeMonitor.Identity.Arguments
import RuntimeMonitor.Text.ModifiedUtf8

/-!
# Runtime attributes

The attributes that tell runtimes apart, and their canonical encoding: six texts, each behind its
length in two bytes, then the start time in eight bytes, highest byte first.
-/

namespace RuntimeMonitor.Identity

open Text

structure Attributes where
  classPath : String := ""
  name : String := ""
  inputArguments : Arguments := .strings []
  libraryPath : String := ""
  vmVendor : String := ""
  vmVersion : String := ""
  /-- Milliseconds since 1970. -/
  startTime : Int64 := 0
  deriving DecidableEq, Repr

/-- Appends a text behind its length, if the length fits in two bytes. -/
def appendText (out : List UInt8) (name text : String) : Except Error (List UInt8) :=
  let bytes := ModifiedUtf8.encode text
  if bytes.length ≤ greatestLength then
    .ok (out ++ .ofNat (bytes.length / 256) :: .ofNat bytes.length :: bytes)
  else .error (.tooLong name bytes.length)

/-- Writes a text to a buffer like `appendText`. A buffer that it fails to write to is left as it
was. -/
def writeText (name text : String) : ExceptT Error (StateM (List UInt8)) Unit := do
  let bytes := ModifiedUtf8.encode text
  if greatestLength < bytes.length then throw (.tooLong name bytes.length)
  modify (· ++ [.ofNat (bytes.length / 256), .ofNat bytes.length])
  modify (· ++ bytes)

/-- The eight bytes of an integer in two's complement, the highest first. -/
def timeBytes (t : Int64) : List UInt8 :=
  ([56, 48, 40, 32, 24, 16, 8, 0] : List UInt64).map (fun shift => (t.toUInt64 >>> shift).toUInt8)

namespace Attributes

/-- The texts in the order of their encoding, with the names of the attributes. -/
def texts (a : Attributes) : List (String × String) :=
  [("ClassPath", a.classPath), ("Name", a.name), ("InputArguments", a.inputArguments.render),
   ("LibraryPath", a.libraryPath), ("VmVendor", a.vmVendor), ("VmVersion", a.vmVersion)]

def canonicalBytes (a : Attributes) : Except Error (List UInt8) := do
  let out ← a.texts.foldlM (fun out t => appendText out t.1 t.2) []
  return out ++ timeBytes a.startTime

end Attributes

/-- Raw attributes by name, as discovery reports them. -/
abbrev AttributeMap := String → Option Json

namespace AttributeMap

def ofMembers (members : List (String × Json)) : AttributeMap := fun name => members.lookup name

/-- A text that may be absent. -/
def text (m : AttributeMap) (name : String) : Except Error String :=
  match m name with
  | none | some .null => .ok ""
  | some (.string s) => .ok s
  | some other => .error (.notText name other)

def startTime (m : AttributeMap) : Except Error Int64 :=
  match m "StartTime" with
  | none => .error (.missing "StartTime")
  | some value =>
    match JsonForm.ofJson? value with
    | some t => .ok t
    | none => .error (.notInteger "StartTime" value)

/-- Reads the attributes. Their faults are looked for in the order of the encoding, the start
time first. -/
def toAttributes (m : AttributeMap) : Except Error Attributes := do
  let startTime ← m.startTime
  let classPath ← m.text "ClassPath"
  let name ← m.text "Name"
  let inputArguments ← Arguments.ofJson ((m "InputArguments").getD .null)
  let libraryPath ← m.text "LibraryPath"
  let vmVendor ← m.text "VmVendor"
  let vmVersion ← m.text "VmVersion"
  return { classPath, name, inputArguments, libraryPath, vmVendor, vmVersion, startTime }

end AttributeMap
end RuntimeMonitor.Identity
