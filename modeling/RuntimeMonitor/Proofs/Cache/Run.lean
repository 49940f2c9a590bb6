import Mathlib.Algebra.Group.Nat.Defs
import RuntimeMonitor.Cache.Basic

/-!
# Runs of a cache

Operations on a cache as data, so that a run is a list of them. A run gives the list of all
answers and the state at its end. Since an operation adds one entry at most, the size at the end
is bounded by the length of the run.
-/

namespace RuntimeMonitor.Cache

inductive Operation : Type 1 where
  | insert (key : Option String) (family : Bool) (v : Value)
  | insertForm {α : Type} [JsonForm α] (key : Option String) (family : Bool) (x : α)
  | get (text : String)
  | contains (text : String)
  | remove (text : String)
  | clearFamily (family : String) (keep : List String)
  | clear
  | keys
  | size
  | isEmpty

inductive Answer where
  | done
  | text (text : String)
  | texts (texts : List String)
  | value (v : Option Value)
  | truth (b : Bool)
  | number (n : Nat)

def perform (c : Cache) : Operation → Answer × Cache
  | .insert key family v => (c.insert key family v).map .text id
  | @Operation.insertForm _ _ key family x => (c.insertForm key family x).map .text id
  | .get text => (.value (c.get? text), c)
  | .contains text => (.truth (c.contains text), c)
  | .remove text => (c.remove text).map .value id
  | .clearFamily family keep => (c.clearFamily family keep).map .number id
  | .clear => (.done, empty)
  | .keys => (.texts c.keys, c)
  | .size => (.number c.size, c)
  | .isEmpty => (.truth c.isEmpty, c)

def run {σ : Type} (perform : σ → Operation → Answer × σ) : List Operation → σ → List Answer × σ
  | [], s => ([], s)
  | op :: rest, s =>
    let (answer, s) := perform s op
    let (answers, s) := run perform rest s
    (answer :: answers, s)

theorem size_filter_le (p : Key → Bool) (c : Cache) : (c.filter p).size ≤ c.size :=
  List.length_filter_le _ _

theorem size_put_le (c : Cache) (k : Key) (v : Value) : (c.put k v).size ≤ c.size + 1 :=
  Nat.succ_le_succ (size_filter_le _ c)

theorem size_perform_le (c : Cache) (op : Operation) : (c.perform op).2.size ≤ c.size + 1 := by
  cases op with
  | insert | insertForm => exact size_put_le c _ _
  | remove text => exact Nat.le_succ_of_le (size_filter_le (fun k => k ≠ .parse text) c)
  | clearFamily family keep =>
    exact Nat.le_succ_of_le
      (size_filter_le (fun k => ¬ k.Belongs family ∨ k ∈ keep.map Key.parse) c)
  | clear => exact Nat.zero_le _
  | get | contains | keys | size | isEmpty => exact Nat.le_succ _

theorem size_run_le (ops : List Operation) (c : Cache) :
    (run perform ops c).2.size ≤ c.size + ops.length := by
  induction ops generalizing c with
  | nil => exact Nat.le_refl _
  | cons op rest ih =>
    calc (run perform rest (c.perform op).2).2.size
      _ ≤ (c.perform op).2.size + rest.length := ih _
      _ ≤ c.size + 1 + rest.length := Nat.add_le_add_right (size_perform_le c op) _
      _ = c.size + (rest.length + 1) := by omega

theorem run_append {σ : Type} (perform : σ → Operation → Answer × σ) (ops more : List Operation)
    (s : σ) : (run perform (ops ++ more) s).2 = (run perform more (run perform ops s).2).2 := by
  induction ops generalizing s with
  | nil => rfl
  | cons op rest ih => exact ih _

/-- The cache after a run from the empty one. -/
def reached (ops : List Operation) : Cache := (run perform ops empty).2

theorem reached_append (ops more : List Operation) :
    reached (ops ++ more) = (run perform more (reached ops)).2 := run_append perform ops more empty

/-- A run of fewer than `2 ^ 64 - 1` operations never holds as many entries. -/
theorem room_of_short {ops : List Operation} (short : ops.length < 2 ^ 64 - 1) :
    ∀ before, before <+: ops → (reached before).size < 2 ^ 64 - 1 := by
  intro before start
  calc (reached before).size
    _ ≤ 0 + before.length := size_run_le before empty
    _ ≤ ops.length := by simpa using start.length_le
    _ < 2 ^ 64 - 1 := short

end RuntimeMonitor.Cache
