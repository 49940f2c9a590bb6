import RuntimeMonitor.Toml.Value

/-!
# Building tables

A document names its tables piece by piece. The tree keeps, for every table, how it came to be,
since that decides what may still be added: a dotted key extends only tables that no header has
opened, and a header opens only tables that other headers implied.
-/

namespace RuntimeMonitor.Toml

/-- How a table came to be. -/
inductive Origin where
  /-- Opened by a header of its own, or written inline. -/
  | opened
  /-- Implied by the header of a table inside it. -/
  | implied
  /-- Implied by a dotted key. -/
  | dotted
  deriving DecidableEq, Repr

inductive Node where
  | value (value : Value)
  | table (origin : Origin) (members : List (String × Node))
  /-- An array of tables: those before, and the latest, which is still open. -/
  | series (earlier : List (List (String × Node))) (latest : List (String × Node))

abbrev Members := List (String × Node)

/-- Replaces the member of that name, or appends it. -/
def Members.put (name : String) (node : Node) : Members → Members
  | [] => [(name, node)]
  | (n, old) :: rest =>
    if n = name then (name, node) :: rest else (n, old) :: Members.put name node rest

/-- Changes the table at the end of a path, whose missing tables are made on the way. A series
is entered at its latest table. Along a dotted key no table may be entered that was opened. -/
def within (dotted : Bool) (change : Origin → Members → Option Members) :
    List String → Origin → Members → Option Members
  | [], origin, members => change origin members
  | name :: path, _, members =>
    match members.lookup name with
    | none =>
      let origin := if dotted then .dotted else .implied
      (within dotted change path origin []).map
        (fun inner => members.put name (.table origin inner))
    | some (.value _) => none
    | some (.table origin inner) =>
      if dotted ∧ origin = .opened then none
      else (within dotted change path origin inner).map
        (fun inner => members.put name (.table origin inner))
    | some (.series earlier latest) =>
      (within dotted change path .opened latest).map
        (fun latest => members.put name (.series earlier latest))

/-- Adds a value under a dotted key. The table that receives it was made by dotted keys if the
key has a path, and not otherwise. -/
def addValue (path : List String) (name : String) (value : Value) :
    Origin → Members → Option Members :=
  within true (fun origin members =>
    if origin = .dotted ↔ path = [] then none
    else if (members.lookup name).isSome then none
    else some (members.put name (.value value))) path

/-- Opens the table of a header. -/
def openTable (path : List String) (name : String) (root : Members) : Option Members :=
  within false (fun _ members =>
    match members.lookup name with
    | none => some (members.put name (.table .opened []))
    | some (.table .implied inner) => some (members.put name (.table .opened inner))
    | some _ => none) path .opened root

def openElement (path : List String) (name : String) (root : Members) : Option Members :=
  within false (fun _ members =>
    match members.lookup name with
    | none => some (members.put name (.series [] []))
    | some (.series earlier latest) =>
      some (members.put name (.series (earlier ++ [latest]) []))
    | some _ => none) path .opened root

mutual

/-- The value that a finished node denotes. -/
def Node.toValue : Node → Value
  | .value v => v
  | .table _ members => .table (membersToValues members)
  | .series earlier latest => .array (seriesToValues earlier ++ [.table (membersToValues latest)])

def membersToValues : List (String × Node) → List (String × Value)
  | [] => []
  | (name, node) :: rest => (name, node.toValue) :: membersToValues rest

def seriesToValues : List (List (String × Node)) → List Value
  | [] => []
  | members :: rest => .table (membersToValues members) :: seriesToValues rest

end

end RuntimeMonitor.Toml
