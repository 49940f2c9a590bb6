/-!
# Sets of code points

A property of characters is listed as the spans of code points that have it.
-/

namespace RuntimeMonitor.Text

/-- The code points from `first` to `last`, both included. -/
structure Span where
  first : Nat
  last : Nat
  deriving DecidableEq, Repr

def Span.Contains (s : Span) (n : Nat) : Prop := s.first ≤ n ∧ n ≤ s.last

instance (s : Span) (n : Nat) : Decidable (s.Contains n) :=
  inferInstanceAs (Decidable (_ ∧ _))

/-- Whether `c` lies in one of the spans. -/
def Span.covers (spans : List Span) (c : Char) : Bool :=
  spans.any (fun s => s.Contains c.toNat)

theorem Span.covers_iff {spans : List Span} {c : Char} :
    Span.covers spans c = true ↔ ∃ s ∈ spans, s.Contains c.toNat := by
  simp [Span.covers]

end RuntimeMonitor.Text
