import Mathlib
import RuntimeMonitor.Proofs.Identity.ArgumentText
import RuntimeMonitor.Proofs.Number.Numeral

/-!
# Arguments told by their text

A text is cut in one way only into pieces without separators, so that arguments without separators
are read off their text, unless there are none. The texts of truth values, whole numbers and
characters have no separators and are never empty, and each is the text of one value. So a list of
them is told by its text, even where the characters are those of the separator.
-/

namespace RuntimeMonitor.Identity.Arguments

open Number

/-- Whether the pieces are what is left of a text when it is cut at each separator. -/
structure Cuts (s : List Char) (ps : List (List Char)) : Prop where
  nonempty : ps ≠ []
  whole : ∀ p ∈ ps, ¬ separator <:+: p
  joined : separator.intercalate ps = s

theorem exists_pieces_eq_cons (s : List Char) : ∃ p ps, pieces s = p :: ps ∧ p <+: s := by
  obtain ⟨p, ps, split⟩ := List.exists_cons_of_ne_nil (pieces_ne_nil s)
  refine ⟨p, ps, split, ?_⟩
  have joined := intercalate_pieces s
  rw [split] at joined
  cases ps with
  | nil => exact ⟨[], by simpa using joined⟩
  | cons q ps =>
    rw [List.intercalate_cons_cons, List.append_assoc] at joined
    exact ⟨_, joined⟩

theorem not_infix_of_mem_pieces {s p : List Char} (mem : p ∈ pieces s) : ¬ separator <:+: p := by
  have none : ¬ separator <:+: [] := by decide
  fun_induction pieces s generalizing p with
  | case1 =>
    rw [List.mem_singleton.mp mem]
    exact none
  | case2 rest ih =>
    rcases List.mem_cons.mp mem with rfl | later
    · exact none
    · exact ih later
  | case3 c rest other ih =>
    obtain ⟨q, qs, split, start⟩ := exists_pieces_eq_cons rest
    rw [split] at ih
    rw [split, List.modifyHead_cons] at mem
    rcases List.mem_cons.mp mem with rfl | later
    · -- A separator at the front of the first piece is one at the front of the text.
      intro inside
      rcases List.infix_cons_iff.mp inside with front | behind
      · obtain ⟨rfl, space⟩ := List.cons_prefix_cons.mp front
        obtain ⟨more, rfl⟩ := space.trans start
        exact other more rfl rfl
      · exact ih List.mem_cons_self behind
    · exact ih (List.mem_cons_of_mem q later)

theorem pieces_of_whole {s : List Char} (whole : ¬ separator <:+: s) : pieces s = [s] := by
  fun_induction pieces s with
  | case1 => rfl
  | case2 rest => exact absurd ⟨[], rest, rfl⟩ whole
  | case3 c rest other ih =>
    rw [ih fun inside => whole (List.infix_cons inside)]
    rfl

/-- Whether there are items, and none of them has a separator inside. -/
structure Separate (xs : List String) : Prop where
  nonempty : xs ≠ []
  whole : ∀ x ∈ xs, ¬ separator <:+: x.toList

theorem flat_of_separate {xs : List String} (separate : Separate xs) :
    flat xs = xs.map String.toList := by
  rw [flat, if_neg separate.nonempty, List.map_eq_flatMap]
  exact List.flatMap_congr fun x mem => pieces_of_whole (separate.whole x mem)

theorem bracketed_inj_of_separate {xs ys : List String} (hx : Separate xs) (hy : Separate ys) :
    bracketed xs = bracketed ys ↔ xs = ys := by
  rw [bracketed_eq_iff, flat_of_separate hx, flat_of_separate hy]
  exact (List.map_injective_iff.mpr fun s t => String.toList_inj.mp).eq_iff

theorem cuts_iff {s : List Char} {ps : List (List Char)} : Cuts s ps ↔ ps = pieces s := by
  constructor
  · rintro ⟨nonempty, whole, rfl⟩
    have texts : (ps.map String.ofList).map String.toList = ps := by simp [Function.comp_def]
    have separate : Separate (ps.map String.ofList) := ⟨by simpa using nonempty, by simpa using whole⟩
    have flats := pieces_intercalate (ps.map String.ofList)
    rw [flat_of_separate separate, texts] at flats
    exact flats.symm
  · rintro rfl
    exact ⟨pieces_ne_nil s, fun p => not_infix_of_mem_pieces, intercalate_pieces s⟩

/-- Whether an item shows as one piece among the others. -/
structure Plain (item : String) : Prop where
  ne_empty : item ≠ ""
  whole : ¬ separator <:+: item.toList

theorem separate_of_plain {x : String} {xs : List String} (plain : ∀ y ∈ x :: xs, Plain y) :
    Separate (x :: xs) :=
  ⟨List.cons_ne_nil x xs, fun y mem => (plain y mem).whole⟩

/-- Some items are told from none, as the first one is not empty. -/
theorem bracketed_cons_ne_bracketed_nil {x : String} {xs : List String}
    (plain : ∀ y ∈ x :: xs, Plain y) : bracketed (x :: xs) ≠ bracketed [] := by
  rw [Ne, bracketed_eq_iff, flat_of_separate (separate_of_plain plain)]
  intro same
  obtain ⟨empty, -⟩ := List.cons.inj same
  exact (plain x List.mem_cons_self).ne_empty (String.toList_inj.mp empty)

theorem bracketed_inj_of_plain {xs ys : List String} (hx : ∀ x ∈ xs, Plain x)
    (hy : ∀ y ∈ ys, Plain y) (same : bracketed xs = bracketed ys) : xs = ys := by
  cases xs with
  | nil =>
    cases ys with
    | nil => rfl
    | cons y ys => exact absurd same.symm (bracketed_cons_ne_bracketed_nil hy)
  | cons x xs =>
    cases ys with
    | nil => exact absurd same (bracketed_cons_ne_bracketed_nil hx)
    | cons y ys =>
      exact (bracketed_inj_of_separate (separate_of_plain hx) (separate_of_plain hy)).mp same

/-- Values of a type are told by the text of a list of them if each has a text of its own that is
one piece. -/
theorem bracketed_map_injective {α : Type} {text : α → String} (injective : Function.Injective text)
    (plain : ∀ a, Plain (text a)) :
    Function.Injective (fun items : List α => bracketed (items.map text)) := by
  intro xs ys same
  have texts (items : List α) : ∀ t ∈ items.map text, Plain t :=
    List.forall_mem_map.mpr fun a _ => plain a
  exact List.map_injective_iff.mpr injective (bracketed_inj_of_plain (texts xs) (texts ys) same)

theorem plain_of_space_not_mem {item : String} (ne : item ≠ "") (space : ' ' ∉ item.toList) :
    Plain item :=
  ⟨ne, fun inside => space (inside.subset (by decide))⟩

theorem plain_integerText (n : Int) : Plain (integerText n) := by
  refine plain_of_space_not_mem ?_ (space_not_mem_integerText n)
  rw [Ne, ← String.toList_inj, toList_integerText]
  exact List.append_ne_nil_of_right_ne_nil _ (digits_ne_nil _)

/-- A lone character is shorter than a separator, whichever it is. -/
theorem plain_singleton (c : Char) : Plain (String.ofList [c]) := by
  refine ⟨?_, ?_⟩
  · rw [Ne, ← String.toList_inj, String.toList_ofList]
    exact List.cons_ne_nil c []
  · rw [String.toList_ofList]
    exact fun inside => absurd inside.length_le (Nat.not_succ_le_self 1)

theorem integers_injective {α : Type} {value : α → Int} (injective : Function.Injective value) :
    Function.Injective (fun items : List α => bracketed (items.map fun n => integerText (value n))) :=
  bracketed_map_injective (integerText_injective.comp injective) fun _ => plain_integerText _

theorem booleans_injective : Function.Injective (fun items => (booleans items).render) := by
  refine bracketed_map_injective (by decide) fun b => ?_
  cases b with
  | false => exact plain_of_space_not_mem (by decide) (by decide)
  | true => exact plain_of_space_not_mem (by decide) (by decide)

theorem chars_injective : Function.Injective (fun items => (chars items).render) := by
  refine bracketed_map_injective ?_ plain_singleton
  intro c d same
  exact (List.cons.inj (String.ofList_inj.mp same)).1

/-- The text of an object. An absent one reads `null`. -/
def orNull (o : Option String) : String := o.getD "null"

/-- Strings are written alike exactly if they are cut into the same pieces, so if there are some
and none has a separator inside, exactly if they are the same. So are the texts of objects.
Truth values, whole numbers and characters are told by their text. -/
theorem render_eq_iff_flat_eq :
    (∀ s ps, Cuts s ps ↔ ps = pieces s) ∧
    ((∀ xs ys, (strings xs).render = (strings ys).render ↔ flat xs = flat ys) ∧
      ∀ xs ys, Separate xs → Separate ys →
        ((strings xs).render = (strings ys).render ↔ xs = ys)) ∧
    ((∀ xs ys, (objects xs).render = (objects ys).render ↔
        flat (xs.map orNull) = flat (ys.map orNull)) ∧
      ∀ xs ys, Separate (xs.map orNull) → Separate (ys.map orNull) →
        ((objects xs).render = (objects ys).render ↔ xs.map orNull = ys.map orNull)) ∧
    Function.Injective (fun xs => (booleans xs).render) ∧
    Function.Injective (fun xs => (bytes xs).render) ∧
    Function.Injective (fun xs => (shorts xs).render) ∧
    Function.Injective (fun xs => (ints xs).render) ∧
    Function.Injective (fun xs => (longs xs).render) ∧
    Function.Injective (fun xs => (chars xs).render) := by
  refine ⟨fun s ps => cuts_iff, ⟨?_, ?_⟩, ⟨?_, ?_⟩, booleans_injective, ?_, ?_, ?_, ?_,
    chars_injective⟩
  · exact fun xs ys => bracketed_eq_iff
  · exact fun xs ys => bracketed_inj_of_separate
  · exact fun xs ys => bracketed_eq_iff
  · exact fun xs ys => bracketed_inj_of_separate
  · exact integers_injective fun m n => Int8.toInt_inj.mp
  · exact integers_injective fun m n => Int16.toInt_inj.mp
  · exact integers_injective fun m n => Int32.toInt_inj.mp
  · exact integers_injective fun m n => Int64.toInt_inj.mp

/-- Commas and spaces at the edges of items do not mix with the separators, and an absent object is
written like the text `null`. -/
theorem render_eq_iff_flat_eq_edges :
    let xs := ["a,", " b"]
    let ys := ["a", ",", "b"]
    let os : List (Option String) := [none, some ","]
    let ps := [some "null", some ","]
    (Separate xs ∧ Separate ys ∧ (strings xs).render ≠ (strings ys).render) ∧
      Separate (os.map orNull) ∧ Separate (ps.map orNull) ∧ os ≠ ps ∧
      (objects os).render = (objects ps).render := by
  intro xs ys os ps
  have hx : Separate xs := ⟨by decide, by decide⟩
  have hy : Separate ys := ⟨by decide, by decide⟩
  have ho : Separate (os.map orNull) := ⟨by decide, by decide⟩
  have hp : Separate (ps.map orNull) := ⟨by decide, by decide⟩
  obtain ⟨-, ⟨-, ofStrings⟩, ⟨-, ofObjects⟩, -⟩ := render_eq_iff_flat_eq
  have differ : (strings xs).render ≠ (strings ys).render :=
    fun same => absurd ((ofStrings xs ys hx hy).mp same) (by decide)
  exact ⟨⟨hx, hy, differ⟩, ho, hp, by decide, (ofObjects os ps ho hp).mpr (by decide)⟩

end RuntimeMonitor.Identity.Arguments
