import Mathlib
import RuntimeMonitor.Proofs.Cache.Entries
import RuntimeMonitor.Proofs.Cache.Numbering

/-!
# Repeated insertions under generated keys

The next number of a family comes from the size. As long as its key is new the size grows, and the
number with it. The first key that is live already freezes the size, so that this key takes all
later values of the family. How far the numbers run is told by the gap between the size and that
key when the insertions begin.
-/

namespace RuntimeMonitor.Cache

variable {c d : Cache} {family : Option String} {v : Value} {values : List Value}
  {answers : List Answer}

/-- Whether an operation inserts the value under a key generated for the family, or for none. -/
def Operation.GeneratesFor (op : Operation) (family : Option String) (v : Value) : Prop :=
  ∃ key asked, op.insertion? = some (key, asked, v) ∧ key.filter (· ≠ "") = family ∧
    (asked = true ∨ family = none)

/-- Whether the generated key with that number and family is live. There is none whose number does
not fit in 64 bits. -/
def Live (c : Cache) (number : Nat) (family : Option String) : Prop :=
  ∃ n : UInt64, n.toNat = number ∧ (c.find? (.generated n family)).isSome

theorem live_iff {number : Nat} :
    c.Live number family ↔
      number < 2 ^ 64 ∧ (c.find? (.generated (.ofNat number) family)).isSome := by
  constructor
  · rintro ⟨n, rfl, live⟩
    exact ⟨n.toNat_lt, by rwa [UInt64.ofNat_toNat]⟩
  · rintro ⟨small, live⟩
    exact ⟨_, UInt64.toNat_ofNat_of_lt' small, live⟩

instance (c : Cache) (number : Nat) (family : Option String) : Decidable (c.Live number family) :=
  decidable_of_iff _ live_iff.symm

/-- How many keys of a family can be generated before one that is live: infinitely many if no key of
the family is live beyond the size. -/
noncomputable def gap (c : Cache) (family : Option String) : ℕ∞ :=
  ⨅ (i : ℕ) (_ : c.Live (c.size + 1 + i) family), (i : ℕ∞)

/-- The cache after a value was inserted under the next key of a family. -/
def putNext (c : Cache) (family : Option String) (v : Value) : Cache :=
  c.put (.generated (.ofNat (c.size + 1)) family) v

theorem keyFor_eq_generated {key : Option String} {asked : Bool} (c : Cache)
    (generated : asked = true ∨ key.filter (· ≠ "") = none) :
    c.keyFor key asked = .generated (.ofNat (c.size + 1)) (key.filter (· ≠ "")) := by
  unfold keyFor
  cases given : key.filter (· ≠ "") with
  | none => rfl
  | some raw =>
    obtain ⟨-, named⟩ := Option.filter_eq_some_iff.mp given
    obtain rfl : asked = true := generated.resolve_right (by rw [given]; exact nofun)
    simp only [if_true, Key.generate, Option.filter_some, named]

theorem Operation.GeneratesFor.perform {op : Operation} (h : op.GeneratesFor family v) (c : Cache) :
    c.perform op = (.text (Key.generated (.ofNat (c.size + 1)) family).text, c.putNext family v) := by
  obtain ⟨key, asked, inserted, rfl, generated⟩ := h
  rw [perform_of_insertion inserted, Cache.insert, keyFor_eq_generated c generated]
  rfl

section Step

variable (room : c.size < 2 ^ 64 - 1)

include room

theorem live_next_iff :
    c.Live (c.size + 1) family ↔
      .generated (.ofNat (c.size + 1)) family ∈ c.entries.map Prod.fst := by
  rw [mem_keys_iff, live_iff, and_iff_right (Nat.add_lt_of_lt_sub room)]

theorem live_putNext_iff {number : Nat} :
    (c.putNext family v).Live number family ↔ number = c.size + 1 ∨ c.Live number family := by
  have same (n : UInt64) : n = .ofNat (c.size + 1) ↔ n.toNat = c.size + 1 := by
    rw [← UInt64.toNat_inj, toNat_next room]
  simp only [Live, putNext, find?_put, Key.generated.injEq, and_true, same]
  constructor
  · rintro ⟨n, rfl, live⟩
    split at live
    · next new => exact .inl new
    · exact .inr ⟨n, rfl, live⟩
  · rintro (rfl | ⟨n, rfl, live⟩)
    · exact ⟨_, toNat_next room, by rw [if_pos (toNat_next room)]; rfl⟩
    · exact ⟨n, rfl, by split <;> simp [live]⟩

theorem size_putNext_of_live (live : c.Live (c.size + 1) family) :
    (c.putNext family v).size = c.size := by
  rw [live_next_iff room] at live
  rw [putNext, size_put, if_pos live]

theorem size_putNext_of_not_live (new : ¬ c.Live (c.size + 1) family) :
    (c.putNext family v).size = c.size + 1 := by
  rw [live_next_iff room] at new
  rw [putNext, size_put, if_neg new]

omit room in
theorem gap_of_live (live : c.Live (c.size + 1) family) : c.gap family = 0 :=
  nonpos_iff_eq_zero.mp (iInf₂_le 0 live)

/-- A key that is new takes one from the gap: the keys beyond it are live as they were before. -/
theorem gap_of_not_live (new : ¬ c.Live (c.size + 1) family) (v : Value) :
    c.gap family = (c.putNext family v).gap family + 1 := by
  have beyond (i : ℕ) : (c.putNext family v).Live ((c.putNext family v).size + 1 + i) family ↔
      c.Live (c.size + 1 + (i + 1)) family := by
    rw [size_putNext_of_not_live room new, live_putNext_iff room, or_iff_right (by omega)]
    rw [show c.size + 1 + 1 + i = c.size + 1 + (i + 1) by omega]
  refine eq_of_forall_le_iff fun bound => ?_
  rw [← tsub_le_iff_right]
  simp only [gap, le_iInf₂_iff, beyond, tsub_le_iff_right]
  constructor
  · intro below i live
    exact_mod_cast below (i + 1) live
  · intro below i live
    cases i with
    | zero => exact absurd live new
    | succ i => exact_mod_cast below i live

end Step

/-- What comes of inserting values one after the other under generated keys of a family. The numbers
run up to the first key that was live at the start and stay there. Up to it every value is held
under its own key, and the last value of all under that key if it is reached. -/
structure Fills (c : Cache) (family : Option String) (values : List Value) (answers : List Answer)
    (d : Cache) : Prop where
  length : answers.length = values.length
  answer : ∀ j < values.length, ∃ n : UInt64,
    (n.toNat : ℕ∞) = c.size + min (j + 1 : ℕ∞) (c.gap family + 1) ∧
      answers[j]? = some (.text (Key.generated n family).text)
  size : (d.size : ℕ∞) = c.size + min (values.length : ℕ∞) (c.gap family)
  held : ∀ j < values.length, (j : ℕ∞) < c.gap family → ∃ n : UInt64,
    n.toNat = c.size + (j + 1) ∧ d.find? (.generated n family) = values[j]?
  last : c.gap family < values.length → ∃ n : UInt64,
    (n.toNat : ℕ∞) = c.size + c.gap family + 1 ∧
      d.find? (.generated n family) = values.getLast?
  others : ∀ k, (∀ n, k = .generated n family → n.toNat ≤ c.size ∨
      c.size + min (values.length : ℕ∞) (c.gap family + 1) < n.toNat) →
    d.find? k = c.find? k

namespace Fills

theorem nil (c : Cache) (family : Option String) : c.Fills family [] [] c where
  length := rfl
  answer _ short := absurd short (Nat.not_lt_zero _)
  size := by simp
  held _ short := absurd short (Nat.not_lt_zero _)
  last passed := absurd passed not_lt_zero
  others _ _ := rfl

section Cons

variable (h : (c.putNext family v).Fills family values answers d) (room : c.size < 2 ^ 64 - 1)

include h room

/-- The first key holds its value unless another value comes there. -/
theorem find?_first (left : values = [] ∨ c.size < (c.putNext family v).size) :
    d.find? (.generated (.ofNat (c.size + 1)) family) = some v := by
  rw [h.others, putNext, find?_put, if_pos rfl]
  intro n same
  obtain ⟨rfl, -⟩ := Key.generated.inj same
  rw [toNat_next room]
  rcases left with rfl | grown
  · rw [List.length_nil, Nat.cast_zero, zero_min, add_zero, Nat.cast_lt]
    exact le_or_gt _ _
  · exact .inl grown

omit room in
/-- Nothing but the first key and those after it is touched. -/
theorem find?_other {k : Key} (other : k ≠ .generated (.ofNat (c.size + 1)) family)
    (apart : ∀ n, k = .generated n family → n.toNat ≤ (c.putNext family v).size ∨
      (c.putNext family v).size + min (values.length : ℕ∞) ((c.putNext family v).gap family + 1) <
        n.toNat) :
    d.find? k = c.find? k := by
  rw [h.others k apart, putNext, find?_put, if_neg other]

theorem cons_of_live (live : c.Live (c.size + 1) family) :
    c.Fills family (v :: values)
      (.text (Key.generated (.ofNat (c.size + 1)) family).text :: answers) d := by
  have size : (c.putNext family v).size = c.size := size_putNext_of_live room live
  have gap : c.gap family = 0 := gap_of_live live
  have gap' : (c.putNext family v).gap family = 0 := by
    apply gap_of_live
    rw [size, live_putNext_iff room]
    exact .inl rfl
  have one (j : ℕ) : min (j + 1 : ℕ∞) (0 + 1) = 1 := by simp
  refine ⟨congrArg (· + 1) h.length, ?_, ?_, ?_, ?_, ?_⟩
  · intro j short
    rw [gap, one]
    cases j with
    | zero => exact ⟨_, by rw [toNat_next room]; push_cast; rfl, rfl⟩
    | succ j =>
      obtain ⟨n, number, found⟩ := h.answer j (Nat.lt_of_succ_lt_succ short)
      rw [size, gap', one] at number
      exact ⟨n, number, found⟩
  · rw [h.size, size, gap, gap', min_zero, min_zero]
  · intro j _ below
    rw [gap] at below
    exact absurd below not_lt_zero
  · intro _
    cases values with
    | nil =>
      refine ⟨_, ?_, h.find?_first room (.inl rfl)⟩
      rw [toNat_next room, gap, add_zero, Nat.cast_succ]
    | cons w rest =>
      obtain ⟨n, number, found⟩ := h.last (by rw [gap']; simp)
      rw [size, gap', ← gap] at number
      exact ⟨n, number, found⟩
  · intro k apart
    rw [gap, List.length_cons, Nat.cast_succ, one] at apart
    refine h.find?_other ?_ ?_
    · rintro rfl
      rcases apart _ rfl with below | above
      · rw [toNat_next room] at below
        exact Nat.not_succ_le_self _ below
      · rw [toNat_next room, Nat.cast_succ] at above
        exact lt_irrefl _ above
    · intro n same
      rw [size, gap', zero_add]
      exact (apart n same).imp_right fun above =>
        lt_of_le_of_lt (add_le_add_right (min_le_right _ _) _) above

theorem cons_of_not_live (new : ¬ c.Live (c.size + 1) family) :
    c.Fills family (v :: values)
      (.text (Key.generated (.ofNat (c.size + 1)) family).text :: answers) d := by
  have size : (c.putNext family v).size = c.size + 1 := size_putNext_of_not_live room new
  have gap : c.gap family = (c.putNext family v).gap family + 1 := gap_of_not_live room new v
  have shift (a b : ℕ∞) : ((c.size + 1 : ℕ) : ℕ∞) + min a b = c.size + min (a + 1) (b + 1) := by
    rw [min_add_add_right, Nat.cast_succ, add_assoc, add_comm 1]
  refine ⟨congrArg (· + 1) h.length, ?_, ?_, ?_, ?_, ?_⟩
  · intro j short
    cases j with
    | zero => exact ⟨_, by rw [toNat_next room]; simp, rfl⟩
    | succ j =>
      obtain ⟨n, number, found⟩ := h.answer j (Nat.lt_of_succ_lt_succ short)
      refine ⟨n, ?_, found⟩
      rw [number, size, gap, shift, Nat.cast_succ]
  · rw [h.size, size, gap, shift, List.length_cons, Nat.cast_succ]
  · intro j short below
    cases j with
    | zero => exact ⟨_, toNat_next room, h.find?_first room (.inr (by omega))⟩
    | succ j =>
      rw [gap, Nat.cast_succ, ENat.add_lt_add_iff_right ENat.one_ne_top] at below
      obtain ⟨n, number, found⟩ := h.held j (Nat.lt_of_succ_lt_succ short) below
      exact ⟨n, by omega, found⟩
  · intro passed
    rw [gap, List.length_cons, Nat.cast_succ, ENat.add_lt_add_iff_right ENat.one_ne_top] at passed
    obtain ⟨n, number, found⟩ := h.last passed
    refine ⟨n, ?_, ?_⟩
    · rw [number, size, gap, Nat.cast_succ, add_assoc (c.size : ℕ∞) 1, add_comm 1]
    · cases values with
      | nil => exact absurd passed not_lt_zero
      | cons w rest => rw [found, List.getLast?_cons_cons]
  · intro k apart
    rw [gap, List.length_cons, Nat.cast_succ, ← shift] at apart
    refine h.find?_other ?_ ?_
    · rintro rfl
      rcases apart _ rfl with below | above
      · rw [toNat_next room] at below
        exact Nat.not_succ_le_self _ below
      · rw [toNat_next room] at above
        exact absurd above (not_lt.mpr le_self_add)
    · intro n same
      rw [size]
      exact (apart n same).imp_left Nat.le_succ_of_le

end Cons

end Fills

/-- Values that are inserted one after the other under generated keys of a family, with nothing in
between, are numbered from the size on up to the first key of the family that was live, which then
takes all the others. -/
theorem inserts_fill {ops : List Operation} {values : List Value} (c : Cache)
    (inserted : List.Forall₂ (fun op v => op.GeneratesFor family v) ops values)
    (room : ∀ before, before <+: ops → (run perform before c).2.size < 2 ^ 64 - 1) :
    c.Fills family values (run perform ops c).1 (run perform ops c).2 := by
  induction inserted generalizing c with
  | nil => exact .nil c family
  | @cons op v ops values first _ ih =>
    have here : c.size < 2 ^ 64 - 1 := room [] List.nil_prefix
    have performed := first.perform c
    have later := ih (c.perform op).2 fun before hb =>
      room (op :: before) (List.cons_prefix_cons.mpr ⟨rfl, hb⟩)
    show c.Fills family (v :: values) ((c.perform op).1 :: (run perform ops (c.perform op).2).1)
      (run perform ops (c.perform op).2).2
    rw [performed] at later ⊢
    by_cases live : c.Live (c.size + 1) family
    · exact later.cons_of_live here live
    · exact later.cons_of_not_live here live

/-- A caller's key stops the numbers of its family at five, where two values are lost. -/
theorem inserts_fill_lookalike :
    let c := reached [.insert (some "5_store_fam") false (.text "a"), .insert none false (.text "b")]
    let ops : List Operation :=
      [.insert (some "fam") true (.text "c"), .insertForm (some "fam") true true,
       .insert (some "fam") true (.text "d"), .insert (some "fam") true (.text "e")]
    let values : List Value := [.text "c", .json (.boolean true), .text "d", .text "e"]
    List.Forall₂ (fun op v => op.GeneratesFor (some "fam") v) ops values ∧
      (∀ before, before <+: ops → (run perform before c).2.size < 2 ^ 64 - 1) ∧
      c.gap (some "fam") = 2 ∧ (run perform ops c).2.size = 4 ∧
      ∃ n : UInt64, n.toNat = 5 ∧
        (run perform ops c).1[3]? = some (.text (Key.generated n (some "fam")).text) ∧
        (run perform ops c).2.find? (.generated n (some "fam")) = some (.text "e") := by
  intro c ops values
  have inserted : List.Forall₂ (fun op v => op.GeneratesFor (some "fam") v) ops values := by
    have asked {op : Operation} {v : Value} (h : op.insertion? = some (some "fam", true, v)) :
        op.GeneratesFor (some "fam") v := ⟨_, _, h, rfl, .inl rfl⟩
    exact .cons (asked rfl) (.cons (asked rfl) (.cons (asked rfl) (.cons (asked rfl) .nil)))
  have room : ∀ before, before <+: ops → (run perform before c).2.size < 2 ^ 64 - 1 := by
    intro before short
    have entries : (run perform before c).2.size ≤ 2 + before.length := size_run_le before c
    have length : before.length ≤ 4 := short.length_le
    omega
  have gap : c.gap (some "fam") = 2 := by
    refine le_antisymm (iInf₂_le 2 (by decide)) (le_iInf₂ fun i live => ?_)
    match i with
    | 0 => exact absurd live (by decide)
    | 1 => exact absurd live (by decide)
    | i + 2 => exact_mod_cast Nat.le_add_left 2 i
  have fills := inserts_fill c inserted room
  have start : (c.size : ℕ∞) = 2 := rfl
  have size : ((run perform ops c).2.size : ℕ∞) = 4 := by
    rw [fills.size, gap, start]
    rfl
  obtain ⟨n, number, answered⟩ := fills.answer 3 (by decide)
  obtain ⟨last, number', found⟩ := fills.last (by rw [gap]; decide)
  have five : n.toNat = 5 := by
    rw [gap, start] at number
    exact Nat.cast_inj.mp (number.trans (rfl : _ = ((5 : ℕ) : ℕ∞)))
  obtain rfl : last = n := by
    rw [gap, start] at number'
    rw [← UInt64.toNat_inj, five]
    exact_mod_cast number'
  exact ⟨inserted, room, gap, by exact_mod_cast size, last, five, answered, found⟩

end RuntimeMonitor.Cache
