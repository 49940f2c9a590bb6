import RuntimeMonitor.Toml.Scalar
import RuntimeMonitor.Toml.Tree

/-!
# Reading TOML documents

A document is a sequence of headers, pairs, comments and blank lines, possibly after a byte order
mark. A pair belongs to the table of the last header before it.
-/

namespace RuntimeMonitor.Toml

open Text Text.Reader

/-- Splits a key into the path to its table and its last segment. -/
def splitKey : List String → Option (List String × String)
  | [] => none
  | [name] => some ([], name)
  | segment :: rest => (splitKey rest).map (fun key => (segment :: key.1, key.2))

/-- Reads the items of an array after its opening bracket; lines may end anywhere between them,
and a comma may follow the last. -/
def readItems (item : Reader Value) : Reader (List Value) :=
  iterate (fun done : List Value => do
    skipLines
    if (← peek) = some ']' then
      let _ ← next
      return .inr done.reverse
    let value ← item
    skipLines
    match ← next with
    | ',' => return .inl (value :: done)
    | ']' => return .inr (value :: done).reverse
    | _ => failure) []

/-- Reads the pairs of an inline table after its opening brace, on one line and without a comma
behind the last. -/
def readPairs (item : Reader Value) : Reader Members := do
  skipSpace
  if (← peek) = some '}' then
    let _ ← next
    return []
  iterate (fun members : Members => do
    let (path, name) ← ofOption (splitKey (← readKey))
    char '='
    skipSpace
    let value ← item
    skipSpace
    let members ← ofOption (addValue path name value .opened members)
    match ← next with
    | ',' => return .inl members
    | '}' => return .inr members
    | _ => failure) []

/-- Reads a value with at most `depth` containers inside each other. -/
def readValue : (depth : Nat) → Reader Value
  | 0 => readScalar
  | depth + 1 => do
    match ← peek with
    | some '[' =>
      char '['
      return .array (← readItems (readValue depth))
    | some '{' =>
      char '{'
      return .table (membersToValues (← readPairs (readValue depth)))
    | _ => readScalar

/-- The document so far, and the key of the table that pairs are added to. -/
structure Draft where
  root : Members
  current : List String

def Draft.addPair (d : Draft) (path : List String) (name : String) (value : Value) :
    Option Draft :=
  (within false (addValue path name value) d.current .opened d.root).map ({ d with root := · })

def readPair (d : Draft) : Reader Draft := do
  let (path, name) ← ofOption (splitKey (← readKey))
  char '='
  skipSpace
  let value ← readValue (nestingLimit - 1)
  lineEnd
  ofOption (d.addPair path name value)

def readHeader (d : Draft) : Reader Draft := do
  char '['
  let series := (← peek) = some '['
  if series then char '['
  let key ← readKey
  let (path, name) ← ofOption (splitKey key)
  char ']'
  if series then char ']'
  lineEnd
  let root ← ofOption
    (if series then openElement path name d.root else openTable path name d.root)
  return ⟨root, key⟩

def readLines : Reader Members :=
  iterate (fun d : Draft => do
    skipSpace
    match ← peek with
    | none => return .inr d.root
    | some '#' => lineEnd; return .inl d
    | some '\n' | some '\r' => newline; return .inl d
    | some '[' => return .inl (← readHeader d)
    | some _ => return .inl (← readPair d)) ⟨[], []⟩

/-- The members of the top-level table of a document. -/
def read? (text : String) : Option (List (String × Value)) :=
  let s := text.toList
  let body := if s.head? = some '\ufeff' then s.drop 1 else s
  (readLines.readAll body).map membersToValues

end RuntimeMonitor.Toml
