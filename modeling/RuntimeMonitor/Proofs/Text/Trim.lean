import Mathlib.Data.List.TakeWhile
import RuntimeMonitor.Text.Blank

/-!
# Trimming

Trimming takes the blanks from both ends of a text and nothing else: what is left stands between
two runs of blanks and has no blank at its edges. Only one text is left of each in this sense.
-/

namespace RuntimeMonitor.Text

/-- Whether `t` stands between two runs of blanks in `s` and has no blank at its edges. -/
structure Trims (s t : List Char) : Prop where
  between : ∃ l r, s = l ++ t ++ r ∧ (∀ c ∈ l, isBlank c) ∧ ∀ c ∈ r, isBlank c
  head : ∀ c ∈ t.head?, ¬ isBlank c
  last : ∀ c ∈ t.getLast?, ¬ isBlank c

/-- What follows a run of blanks is left if it does not go on with a blank. -/
theorem trimStart_append {l t : List Char} (blank : ∀ c ∈ l, isBlank c)
    (edge : ∀ c ∈ t.head?, ¬ isBlank c) : trimStart (l ++ t) = t := by
  rw [trimStart, List.dropWhile_append_of_pos blank]
  cases t with
  | nil => rfl
  | cons c t => exact List.dropWhile_cons_of_neg (edge c rfl)

theorem trimEnd_append {t r : List Char} (blank : ∀ c ∈ r, isBlank c)
    (edge : ∀ c ∈ t.getLast?, ¬ isBlank c) : trimEnd (t ++ r) = t := by
  have reversed : trimStart (r.reverse ++ t.reverse) = t.reverse :=
    trimStart_append (by simpa using blank) (by simpa using edge)
  rw [trimEnd, List.reverse_append]
  exact List.reverse_eq_iff.mpr reversed

theorem exists_trimStart (s : List Char) :
    ∃ l, s = l ++ trimStart s ∧ (∀ c ∈ l, isBlank c) ∧ ∀ c ∈ (trimStart s).head?, ¬ isBlank c := by
  refine ⟨s.takeWhile isBlank, List.takeWhile_append_dropWhile.symm, ?_, ?_⟩
  · exact fun c => List.mem_takeWhile_imp
  · intro c hc
    have found : (s.dropWhile isBlank).head? = some c := hc
    have stopped := List.head?_dropWhile_not isBlank s
    rw [found] at stopped
    simpa using stopped

theorem exists_trimEnd (s : List Char) :
    ∃ r, s = trimEnd s ++ r ∧ (∀ c ∈ r, isBlank c) ∧ ∀ c ∈ (trimEnd s).getLast?, ¬ isBlank c := by
  obtain ⟨l, split, blank, edge⟩ := exists_trimStart s.reverse
  refine ⟨l.reverse, ?_, by simpa using blank, ?_⟩
  · rw [trimEnd, ← List.reverse_append]
    exact List.reverse_eq_iff.mp split
  · rw [trimEnd, List.getLast?_reverse]
    exact edge

theorem trims_trimChars (s : List Char) : Trims s (trimChars s) := by
  obtain ⟨l, start, left, head⟩ := exists_trimStart s
  obtain ⟨r, stop, right, last⟩ := exists_trimEnd (trimStart s)
  refine ⟨⟨l, r, ?_, left, right⟩, ?_, last⟩
  · rw [List.append_assoc, trimChars, ← stop, ← start]
  · intro c hc
    have found : (trimEnd (trimStart s)).head? = some c := hc
    refine head c ?_
    rw [stop, List.head?_append, found]
    rfl

theorem trimChars_eq_nil_iff {s : List Char} : trimChars s = [] ↔ ∀ c ∈ s, isBlank c := by
  constructor
  · intro h
    obtain ⟨⟨l, r, split, left, right⟩, -, -⟩ := trims_trimChars s
    rw [h, List.append_nil] at split
    rw [split]
    exact List.forall_mem_append.mpr ⟨left, right⟩
  · intro blank
    have start : trimStart s = [] := List.dropWhile_eq_nil_iff.mpr blank
    rw [trimChars, start]
    rfl

theorem trims_iff {s t : List Char} : Trims s t ↔ trimChars s = t := by
  constructor
  · rintro ⟨⟨l, r, rfl, left, right⟩, head, last⟩
    cases t with
    | nil =>
      -- With nothing between them, the two runs are one.
      rw [trimChars_eq_nil_iff, List.append_nil]
      exact List.forall_mem_append.mpr ⟨left, right⟩
    | cons c t =>
      have start : trimStart (l ++ ((c :: t) ++ r)) = (c :: t) ++ r := trimStart_append left head
      rw [trimChars, List.append_assoc, start]
      exact trimEnd_append right last
  · rintro rfl
    exact trims_trimChars s

/-- Blanks around a text change nothing in what is left of it. -/
theorem trimChars_append_append {l r : List Char} (s : List Char) (left : ∀ c ∈ l, isBlank c)
    (right : ∀ c ∈ r, isBlank c) : trimChars (l ++ s ++ r) = trimChars s := by
  obtain ⟨⟨u, v, split, left', right'⟩, head, last⟩ := trims_trimChars s
  generalize trimChars s = t at split head last
  subst split
  refine trims_iff.mp ⟨⟨l ++ u, v ++ r, ?_, ?_, ?_⟩, head, last⟩
  · simp only [List.append_assoc]
  · exact List.forall_mem_append.mpr ⟨left, left'⟩
  · exact List.forall_mem_append.mpr ⟨right', right⟩

/-- Without blanks inside there is nothing but the blanks around a text to take. -/
theorem trimChars_of_solid {l t r : List Char} (left : ∀ c ∈ l, isBlank c)
    (right : ∀ c ∈ r, isBlank c) (solid : ∀ c ∈ t, ¬ isBlank c) : trimChars (l ++ t ++ r) = t :=
  trims_iff.mp ⟨⟨l, r, rfl, left, right⟩, fun c h => solid c (List.mem_of_mem_head? h),
    fun c h => solid c (List.mem_of_mem_getLast? h)⟩

/-- A character that is not blank keeps trimming to its two sides. -/
theorem trimChars_append_cons {c : Char} (solid : ¬ isBlank c) (a b : List Char) :
    trimChars (a ++ c :: b) = trimStart a ++ c :: trimEnd b := by
  obtain ⟨l, start, left, head⟩ := exists_trimStart a
  obtain ⟨r, stop, right, last⟩ := exists_trimEnd b
  refine trims_iff.mp ⟨⟨l, r, ?_, left, right⟩, ?_, ?_⟩
  · simp only [List.append_assoc, List.cons_append, ← stop]
    rw [← List.append_assoc, ← start]
  · intro d hd
    rw [List.head?_append, List.head?_cons] at hd
    cases found : (trimStart a).head? with
    | none =>
      rw [found] at hd
      cases hd
      exact solid
    | some x =>
      rw [found] at hd
      cases hd
      exact head d found
  · intro d hd
    rw [List.getLast?_append, List.getLast?_cons, Option.some_or] at hd
    cases found : (trimEnd b).getLast? with
    | none =>
      rw [found] at hd
      cases hd
      exact solid
    | some x =>
      rw [found] at hd
      cases hd
      exact last x found

/-- Mapping characters does not move the edges if it keeps blanks and makes no new ones. -/
theorem trimChars_map {f : Char → Char} (same : ∀ c, isBlank (f c) = isBlank c) (s : List Char) :
    trimChars (s.map f) = (trimChars s).map f := by
  have blank : isBlank ∘ f = isBlank := funext same
  have start (t : List Char) : trimStart (t.map f) = (trimStart t).map f := by
    rw [trimStart, List.dropWhile_map, blank]
    rfl
  have stop (t : List Char) : trimEnd (t.map f) = (trimEnd t).map f := by
    have reversed : trimStart (t.reverse.map f) = (trimStart t.reverse).map f := start t.reverse
    rw [List.map_reverse] at reversed
    change (trimStart (t.map f).reverse).reverse = (trimStart t.reverse).reverse.map f
    rw [reversed, List.map_reverse]
  rw [trimChars, trimChars, start, stop]

/-- Whether a text has nothing but blanks. -/
def Blank (s : String) : Prop := ∀ c ∈ s.toList, isBlank c

instance (s : String) : Decidable (Blank s) := List.decidableBAll (fun c => isBlank c = true) s.toList

theorem trim_eq_empty_iff {s : String} : trim s = "" ↔ Blank s := by
  rw [← String.toList_inj, toList_trim, Blank, ← trimChars_eq_nil_iff]
  rfl

theorem trim_append_append {l r : String} (s : String) (left : Blank l) (right : Blank r) :
    trim (l ++ s ++ r) = trim s := by
  rw [← String.toList_inj, toList_trim, toList_trim, String.toList_append, String.toList_append]
  exact trimChars_append_append s.toList left right

end RuntimeMonitor.Text
