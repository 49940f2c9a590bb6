import Mathlib.Data.Option.Basic
import RuntimeMonitor.Text.Reader

/-!
# What readers yield

A reader yields a property when all values that it takes off texts have it, wherever it stands and
however far its loops may go. The rules follow the ways in which readers are put together; a loop
yields what its last round yields, by an invariant of its states.
-/

namespace RuntimeMonitor.Text.Reader

variable {α β σ : Type}

/-- Every value that the reader takes off a text has the property. -/
def Yields (r : Reader α) (P : α → Prop) : Prop :=
  ∀ bound s a rest, r bound s = some (a, rest) → P a

variable {P : α → Prop} {Q : β → Prop}

theorem yields_true (r : Reader α) : r.Yields (fun _ => True) := fun _ _ _ _ _ => trivial

theorem yields_pure {a : α} (h : P a) : (pure a : Reader α).Yields P := by
  intro bound s b rest taken
  cases taken
  exact h

theorem yields_failure : (failure : Reader α).Yields P := by
  intro bound s a rest taken
  cases taken

theorem yields_ofOption {o : Option α} (h : ∀ a, o = some a → P a) : (ofOption o).Yields P := by
  intro bound s a rest taken
  obtain ⟨b, found, same⟩ := Option.map_eq_some_iff.mp taken
  cases same
  exact h a found

theorem Yields.bind {r : Reader α} {f : α → Reader β} (h : r.Yields P)
    (next : ∀ a, P a → (f a).Yields Q) : (r >>= f).Yields Q := by
  intro bound s b rest taken
  obtain ⟨⟨a, middle⟩, first, second⟩ := Option.bind_eq_some_iff.mp taken
  exact next a (h bound s a middle first) bound middle b rest second

/-- What comes first does not matter if all that comes after yields the property. -/
theorem yields_bind {r : Reader α} {f : α → Reader β} (next : ∀ a, (f a).Yields Q) :
    (r >>= f).Yields Q :=
  (yields_true r).bind fun a _ => next a

theorem Yields.orElse {r s : Reader α} (first : r.Yields P) (second : s.Yields P) :
    (r <|> s).Yields P := by
  intro bound text a rest taken
  rcases (Option.orElse_eq_some _ _ _).mp taken with here | ⟨-, there⟩
  · exact first bound text a rest here
  · exact second bound text a rest there

/-- What a round of a loop may end in: a state that keeps the invariant, or a result. -/
def Round (I : σ → Prop) (P : α → Prop) : σ ⊕ α → Prop
  | .inl s => I s
  | .inr a => P a

theorem yields_rounds {step : σ → Reader (σ ⊕ α)} {I : σ → Prop}
    (round : ∀ s, I s → (step s).Yields (Round I P)) (bound : Nat) {s : σ} (h : I s) :
    (rounds step bound s).Yields P := by
  induction bound generalizing s with
  | zero => exact yields_failure
  | succ bound ih =>
    refine (round s h).bind ?_
    intro next kept
    cases next with
    | inl s => exact ih kept
    | inr a => exact yields_pure kept

theorem yields_iterate {step : σ → Reader (σ ⊕ α)} {I : σ → Prop}
    (round : ∀ s, I s → (step s).Yields (Round I P)) {s : σ} (h : I s) :
    (iterate step s).Yields P :=
  yields_bind fun bound => yields_rounds round bound h

theorem of_readAll {r : Reader α} (h : r.Yields P) {text : List Char} {a : α}
    (taken : r.readAll text = some a) : P a := by
  unfold readAll at taken
  split at taken
  · next result =>
    cases taken
    exact h _ _ _ _ result
  · cases taken

end RuntimeMonitor.Text.Reader
