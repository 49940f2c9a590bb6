import Mathlib.Data.List.Forall2

/-!
# Traversals of lists

Reading a list takes all of its elements or none. It fails with the element that cannot be read,
and what it gives otherwise corresponds to the list element by element.
-/

namespace RuntimeMonitor

variable {α β ε : Type}

theorem mapM_eq_some_iff {f : α → Option β} {xs : List α} {ys : List β} :
    xs.mapM f = some ys ↔ List.Forall₂ (fun x y => f x = some y) xs ys := by
  induction xs generalizing ys with
  | nil => simp [eq_comm]
  | cons x xs ih =>
    rw [List.mapM_cons, List.forall₂_cons_left_iff]
    simp only [Option.bind_eq_bind, Option.bind_eq_some_iff, Option.pure_def, Option.some_inj, ih]
    constructor
    · rintro ⟨y, read, rest, each, rfl⟩
      exact ⟨y, rest, read, each, rfl⟩
    · rintro ⟨y, rest, read, each, rfl⟩
      exact ⟨y, read, rest, each, rfl⟩

theorem mapM_eq_none_iff {f : α → Option β} {xs : List α} :
    xs.mapM f = none ↔ ∃ x ∈ xs, f x = none := by
  induction xs with
  | nil => simp
  | cons x xs ih =>
    rw [List.mapM_cons]
    cases read : f x with
    | none => simp [read]
    | some y =>
      have rest : (∃ z ∈ x :: xs, f z = none) ↔ ∃ z ∈ xs, f z = none := by simp [read]
      rw [rest, ← ih]
      cases xs.mapM f <;> simp

theorem toOption_mapM (f : α → Except ε β) (xs : List α) :
    (xs.mapM f).toOption = xs.mapM (fun x => (f x).toOption) := by
  induction xs with
  | nil => rfl
  | cons x xs ih =>
    rw [List.mapM_cons, List.mapM_cons, ← ih]
    cases f x with
    | error e => rfl
    | ok y => cases xs.mapM f <;> rfl

theorem exists_of_mapM_eq_error {f : α → Except ε β} {xs : List α} {e : ε}
    (failed : xs.mapM f = .error e) : ∃ x ∈ xs, f x = .error e := by
  induction xs with
  | nil => cases failed
  | cons x xs ih =>
    rw [List.mapM_cons] at failed
    cases outcome : f x with
    | error e' =>
      rw [outcome] at failed
      cases failed
      exact ⟨x, List.mem_cons_self, outcome⟩
    | ok y =>
      rw [outcome] at failed
      cases rest : xs.mapM f with
      | error e' =>
        rw [rest] at failed
        cases failed
        obtain ⟨x', mem, refused⟩ := ih rest
        exact ⟨x', List.mem_cons_of_mem x mem, refused⟩
      | ok ys =>
        rw [rest] at failed
        cases failed

/-- Elements that are written one by one are read one by one. -/
theorem mapM_map_eq_pure {m : Type → Type} [Monad m] [LawfulMonad m] {γ : Type} (f : α → β)
    (g : β → m γ) (h : α → γ) (back : ∀ x, g (f x) = pure (h x)) (xs : List α) :
    (xs.map f).mapM g = pure (xs.map h) := by
  have same : g ∘ f = fun x => pure (h x) := funext back
  rw [List.mapM_map, same, List.mapM_pure]

end RuntimeMonitor
