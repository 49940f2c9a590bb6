import Mathlib.Data.List.Forall2
import RuntimeMonitor.Filter.Compiler
import RuntimeMonitor.Proofs.Text.Trim

/-!
# The tokens of a raw filter

A raw filter is its pieces with commas between them, and no piece has a comma. The pieces are
determined by this, and so are the tokens: the trimmed pieces in order, without the empty ones.
-/

namespace RuntimeMonitor.Filter

open Text

theorem pieces_eq_splitOn (s : List Char) : pieces s = s.splitOn ',' := by
  induction s with
  | nil => rfl
  | cons c s ih =>
    simp only [pieces, List.splitOn_cons_eq_if_modifyHead, ih, beq_iff_eq]
    cases split : s.splitOn ',' with
    | nil => exact absurd split (List.splitOn_ne_nil ',' s)
    | cons piece more => rfl

theorem comma_not_mem_of_mem_pieces {s p : List Char} (h : p ∈ pieces s) : ',' ∉ p := by
  fun_induction pieces s generalizing p with
  | case1 =>
    rw [List.mem_singleton.mp h]
    exact List.not_mem_nil
  | case2 s ih =>
    rcases List.mem_cons.mp h with rfl | later
    · exact List.not_mem_nil
    · exact ih later
  | case3 c s other empty ih => exact absurd empty (pieces_ne_nil s)
  | case4 c s other piece more found ih =>
    rw [found] at ih
    rcases List.mem_cons.mp h with rfl | later
    · exact List.not_mem_cons_of_ne_of_not_mem (Ne.symm other) (ih List.mem_cons_self)
    · exact ih (List.mem_cons_of_mem _ later)

/-- Texts without commas are the pieces of what they make with commas between them. -/
theorem eq_pieces_iff {ps : List (List Char)} {s : List Char} :
    ps = pieces s ↔ ps ≠ [] ∧ (∀ p ∈ ps, ',' ∉ p) ∧ [','].intercalate ps = s := by
  constructor
  · rintro rfl
    refine ⟨pieces_ne_nil s, fun p => comma_not_mem_of_mem_pieces, ?_⟩
    rw [pieces_eq_splitOn, List.intercalate_splitOn]
  · rintro ⟨nonempty, free, rfl⟩
    rw [pieces_eq_splitOn, List.splitOn_intercalate ',' free nonempty]

/-- Whether the texts are the tokens of a raw filter: it is `ps` with commas between them, the
texts `qs` are left of these, and the tokens are the ones among them that are not empty. -/
def Tokenizes (raw : String) (ts : List String) : Prop :=
  ∃ ps qs : List (List Char), ps ≠ [] ∧ (∀ p ∈ ps, ',' ∉ p) ∧ [','].intercalate ps = raw.toList ∧
    List.Forall₂ Trims ps qs ∧ ts = (qs.filter (· ≠ [])).map String.ofList

theorem forall₂_trims_iff {ps qs : List (List Char)} :
    List.Forall₂ Trims ps qs ↔ ps.map trimChars = qs := by
  have same : Trims = fun p q => trimChars p = q := funext₂ (fun _ _ => propext trims_iff)
  rw [same, ← List.forall₂_map_left_iff, List.forall₂_eq_eq_eq]

theorem tokenizes_iff {raw : String} {ts : List String} : Tokenizes raw ts ↔ ts = tokens raw := by
  constructor
  · rintro ⟨ps, qs, nonempty, free, joined, trimmed, rfl⟩
    rw [tokens, ← eq_pieces_iff.mpr ⟨nonempty, free, joined⟩, forall₂_trims_iff.mp trimmed]
  · rintro rfl
    obtain ⟨nonempty, free, joined⟩ := eq_pieces_iff.mp (Eq.refl (pieces raw.toList))
    exact ⟨_, _, nonempty, free, joined, forall₂_trims_iff.mpr rfl, rfl⟩

theorem pieces_of_free {s : List Char} (free : ',' ∉ s) : pieces s = [s] := by
  rw [pieces_eq_splitOn]
  exact List.splitOn_eq_singleton free

theorem comma_not_mem_of_blank {text : String} (blank : Blank text) : ',' ∉ text.toList :=
  fun comma => absurd (blank ',' comma) (by decide)

theorem comma_not_mem_pad {l r text : String} (left : Blank l) (right : Blank r)
    (free : ',' ∉ text.toList) : ',' ∉ (l ++ text ++ r).toList := by
  simp only [String.toList_append, List.mem_append, not_or]
  exact ⟨⟨comma_not_mem_of_blank left, free⟩, comma_not_mem_of_blank right⟩

theorem tokens_of_blank {raw : String} (blank : ∀ c ∈ raw.toList, isBlank c) :
    tokens raw = [] := by
  rw [tokens, pieces_of_free (comma_not_mem_of_blank blank), List.map_singleton,
    trimChars_eq_nil_iff.mpr blank]
  rfl

/-- A text without commas is a token by itself, less the blanks around it. -/
theorem tokens_of_free {text : String} (free : ',' ∉ text.toList) (visible : ¬ Blank text) :
    tokens text = [trim text] := by
  have kept : trimChars text.toList ≠ [] := mt trimChars_eq_nil_iff.mp visible
  rw [tokens, pieces_of_free free, List.map_singleton, List.filter_singleton]
  simp [kept, trim]

/-- Blanks around a token do not matter. -/
theorem tokens_pad {l r text : String} (left : Blank l) (right : Blank r)
    (free : ',' ∉ text.toList) : tokens (l ++ text ++ r) = tokens text := by
  have same := trim_append_append text left right
  by_cases blank : Blank text
  · have padded : Blank (l ++ text ++ r) := by
      rw [← trim_eq_empty_iff, same]
      exact trim_eq_empty_iff.mpr blank
    rw [tokens_of_blank blank, tokens_of_blank padded]
  · have padded : ¬ Blank (l ++ text ++ r) := by
      rw [← trim_eq_empty_iff, same]
      exact mt trim_eq_empty_iff.mp blank
    rw [tokens_of_free free blank, tokens_of_free (comma_not_mem_pad left right free) padded, same]

theorem pieces_append (s t : List Char) : pieces (s ++ ',' :: t) = pieces s ++ pieces t := by
  simp only [pieces_eq_splitOn, List.splitOn_append_cons_self]

theorem tokens_append (a b : String) : tokens (a ++ "," ++ b) = tokens a ++ tokens b := by
  have split : (a ++ "," ++ b).toList = a.toList ++ ',' :: b.toList := by simp
  rw [tokens, split, pieces_append, List.map_append, List.filter_append, List.map_append]
  rfl

end RuntimeMonitor.Filter
