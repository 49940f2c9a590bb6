import RuntimeMonitor.Settings.Basic

/-!
# The settings file

Where the settings are kept, and what is read when the file is missing or bad.
-/

namespace RuntimeMonitor.Settings

def fileName : String := "config.toml"

def join (dir name : String) : String :=
  if dir = "" ∨ dir.toList.getLast? = some '/' then dir ++ name else dir ++ "/" ++ name

/-- The program's directory in the home directory, or in the present one when there is no home. -/
def dataDir (home : Option String) : String :=
  match home with
  | some home => join home ".vmprobe"
  | none => ".vmprobe"

def pathIn (dir : String) : String := join dir fileName

def path (home : Option String) : String := pathIn (dataDir home)

inductive Found where
  | nothing
  | directory
  | file (bytes : ByteArray)

abbrev Files := String → Found

inductive LoadError where
  | unreadable
  | malformed
  deriving DecidableEq, Repr

def loadFrom (files : Files) (path : String) : Except LoadError Settings :=
  match files path with
  | .nothing | .directory => .error .unreadable
  | .file bytes =>
    match String.fromUTF8? bytes with
    | none => .error .unreadable
    | some text =>
      match ofToml? text with
      | none => .error .malformed
      | some s => .ok s

/-- Loads the file at a path; a missing or a bad one gives the default settings. -/
def loadOrDefault (files : Files) (path : String) : Settings :=
  match loadFrom files path with
  | .ok s => s
  | .error _ => default

def loadIn (files : Files) (dir : String) : Settings := loadOrDefault files (pathIn dir)

def load (files : Files) (home : Option String) : Settings := loadOrDefault files (path home)

end RuntimeMonitor.Settings
