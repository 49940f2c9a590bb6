import Mathlib.Data.Finset.Sort
import Mathlib.Logic.Function.Basic
import RuntimeMonitor.Proofs.Cache.Key
import RuntimeMonitor.Proofs.Cache.Run
import RuntimeMonitor.Proofs.Text.ByteOrder

/-!
# Maps from texts to values

What a cache is to its callers, who know keys as texts only: a map that is set at finitely many
texts. The operations are stated on such maps without any key being read.
-/

namespace RuntimeMonitor.Cache

open Text

/-- A map that is set at finitely many texts. -/
@[ext] structure TextMap where
  get? : String → Option Value
  support : Finset String
  mem_support : ∀ text, text ∈ support ↔ (get? text).isSome

namespace TextMap

def empty : TextMap := ⟨fun _ => none, ∅, by simp⟩

def set (m : TextMap) (text : String) (v : Value) : TextMap where
  get? := Function.update m.get? text (some v)
  support := Insert.insert text m.support
  mem_support other := by
    by_cases h : other = text
    · simp [h]
    · simp [h, m.mem_support]

theorem get?_set (m : TextMap) (text other : String) (v : Value) :
    (m.set text v).get? other = if other = text then some v else m.get? other :=
  Function.update_apply _ _ _ _

def restrict (m : TextMap) (p : String → Prop) [DecidablePred p] : TextMap where
  get? text := if p text then m.get? text else none
  support := m.support.filter p
  mem_support text := by
    by_cases h : p text <;> simp [h, m.mem_support]

theorem get?_restrict (m : TextMap) (p : String → Prop) [DecidablePred p] (text : String) :
    (m.restrict p).get? text = if p text then m.get? text else none := rfl

/-- The text under which an insertion stores its value: the given one if it is not empty and no
key is asked for, else one made of the number of texts and the given one. -/
def textFor (m : TextMap) (key : Option String) (family : Bool) : String :=
  let name := key.getD ""
  if name = "" then toString (m.support.card + 1) ++ "_store"
  else if family then toString (m.support.card + 1) ++ "_store_" ++ name
  else name

def insert (m : TextMap) (key : Option String) (family : Bool) (v : Value) : Answer × TextMap :=
  let text := m.textFor key family
  (.text text, m.set text v)

def perform (m : TextMap) : Operation → Answer × TextMap
  | .insert key family v => m.insert key family v
  | @Operation.insertForm _ _ key family x => m.insert key family (.json (JsonForm.toJson x))
  | .get text => (.value (m.get? text), m)
  | .contains text => (.truth (text ∈ m.support), m)
  | .remove text => (.value (m.get? text), m.restrict (· ≠ text))
  | .clearFamily family keep =>
    let evicted := fun text => Key.GeneratedFor family text ∧ text ∉ keep
    (.number (m.support.filter evicted).card, m.restrict (fun text => ¬ evicted text))
  | .clear => (.done, empty)
  | .keys => (.texts (m.support.sort ByteLE), m)
  | .size => (.number m.support.card, m)
  | .isEmpty => (.truth (m.support = ∅), m)

end TextMap
end RuntimeMonitor.Cache
