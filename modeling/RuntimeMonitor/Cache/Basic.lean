import RuntimeMonitor.Cache.Key
import RuntimeMonitor.Cache.Value

/-!
# The cache

Values are kept under keys that the caller gives or that are generated from the number of
entries. Keys that were generated for a family can be evicted together. Since sequence numbers
come from the size, a key generated after a removal may take the place of a live entry.
-/

namespace RuntimeMonitor

open Cache in
/-- Entries with distinct keys. -/
structure Cache where
  entries : List (Key × Value)
  distinct : (entries.map Prod.fst).Nodup

namespace Cache

def empty : Cache := ⟨[], .nil⟩

def size (c : Cache) : Nat := c.entries.length

def filter (p : Key → Bool) (c : Cache) : Cache :=
  ⟨c.entries.filter (fun e => p e.1), c.distinct.sublist (List.filter_sublist.map Prod.fst)⟩

/-- Stores a value, in the stead of an earlier one under the same key. -/
def put (c : Cache) (k : Key) (v : Value) : Cache where
  entries := (k, v) :: (c.filter (· ≠ k)).entries
  distinct := List.nodup_cons.mpr ⟨by simp [filter], (c.filter (· ≠ k)).distinct⟩

def find? (c : Cache) (k : Key) : Option Value := c.entries.lookup k

theorem find?_filter (p : Key → Bool) (c : Cache) (k : Key) :
    (c.filter p).find? k = if p k then c.find? k else none := by
  simp only [find?, filter]
  induction c.entries with
  | nil => simp
  | cons e rest ih => grind

@[simp] theorem find?_put (c : Cache) (k j : Key) (v : Value) :
    (c.put k v).find? j = if j = k then some v else c.find? j := by
  have h := find?_filter (· ≠ k) c j
  simp only [find?, put] at *
  grind

/-- The key that an insertion uses: the given one, or the next of a family if a key is asked for
or none is given. -/
def keyFor (c : Cache) (key : Option String) (family : Bool) : Key :=
  match key.filter (· ≠ "") with
  | some raw => if family then .generate (.ofNat (c.size + 1)) (some raw) else .parse raw
  | none => .generate (.ofNat (c.size + 1)) none

/-- Stores a value and returns the text of its key. -/
def insert (c : Cache) (key : Option String) (family : Bool) (v : Value) : String × Cache :=
  let k := c.keyFor key family
  (k.text, c.put k v)

def insertForm {α : Type} [JsonForm α] (c : Cache) (key : Option String) (family : Bool) (x : α) :
    String × Cache :=
  c.insert key family (.json (JsonForm.toJson x))

def get? (c : Cache) (key : String) : Option Value := c.find? (.parse key)

/-- A value that has not the form of the type asked for. -/
structure Mismatch where
  value : Json

/-- Reads the plain view of a value at another type. -/
def getForm (α : Type) [JsonForm α] (c : Cache) (key : String) : Except Mismatch (Option α) :=
  match c.get? key with
  | none => .ok none
  | some v =>
    match JsonForm.ofJson? v.toJson with
    | some x => .ok (some x)
    | none => .error ⟨v.toJson⟩

def contains (c : Cache) (key : String) : Bool := (c.get? key).isSome

def remove (c : Cache) (key : String) : Option Value × Cache :=
  (c.get? key, c.filter (· ≠ .parse key))

/-- Deletes the entries generated for a family, save those to be kept, and counts them. -/
def clearFamily (c : Cache) (family : String) (keep : List String) : Nat × Cache :=
  let kept := c.filter (fun k => ¬ k.Belongs family ∨ k ∈ keep.map Key.parse)
  (c.size - kept.size, kept)

def isEmpty (c : Cache) : Bool := c.entries.isEmpty

/-- The texts of all keys, in the order of their code points. -/
def keys (c : Cache) : List String := (c.entries.map (·.1.text)).mergeSort (fun a b => a ≤ b)

end Cache
end RuntimeMonitor
