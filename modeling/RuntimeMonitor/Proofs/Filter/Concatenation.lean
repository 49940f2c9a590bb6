import Mathlib.Data.List.Basic
import Mathlib.Logic.Relation
import RuntimeMonitor.Proofs.Filter.Compile

/-!
# Commas between raw filters

A comma between two raw filters puts the names that they accept together, and the tokens that they
ignore one after the other. A blank filter adds nothing, though it accepts everything by itself.
So what a list of tokens accepts is what its members accept, and no edit matters that leaves the
same tokens up to blanks and case.
-/

namespace RuntimeMonitor.Filter

open Text

/-- Texts that are tokens once commas stand between them. There are two of them at least, so that
there is a comma. -/
structure IsTokenList (ts : List String) : Prop where
  two_le : 2 ≤ ts.length
  free : ∀ t ∈ ts, ',' ∉ t.toList

/-- Edits that a filter does not notice. They are made at the front of a list, to which reordering
brings every token. -/
inductive Edit : List String → List String → Prop
  | reorder {ts us : List String} (perm : ts.Perm us) : Edit ts us
  | duplicate {ts : List String} {t : String} (mem : t ∈ ts) : Edit ts (t :: ts)
  | pad {ts : List String} {l r : String} (t : String) (left : Blank l) (right : Blank r) :
      Edit (t :: ts) ((l ++ t ++ r) :: ts)
  | addBlank {ts : List String} {t : String} (blank : Blank t) : Edit ts (t :: ts)
  | replace {ts : List String} {t u : String} (visible : ¬ Blank t) (visible' : ¬ Blank u)
      (free : ',' ∉ u.toList) (same : lowercase (trim t) = lowercase (trim u)) :
      Edit (t :: ts) (u :: ts)

theorem Edit.isTokenList {ts us : List String} (edit : Edit ts us) (list : IsTokenList ts) :
    IsTokenList us := by
  obtain ⟨two_le, free⟩ := list
  cases edit with
  | reorder perm => exact ⟨perm.length_eq ▸ two_le, fun u mem => free u (perm.mem_iff.mpr mem)⟩
  | duplicate mem => exact ⟨Nat.le_succ_of_le two_le, List.forall_mem_cons.mpr ⟨free _ mem, free⟩⟩
  | pad t left right =>
    rw [List.forall_mem_cons] at free
    exact ⟨two_le, List.forall_mem_cons.mpr ⟨comma_not_mem_pad left right free.1, free.2⟩⟩
  | addBlank blank =>
    exact ⟨Nat.le_succ_of_le two_le,
      List.forall_mem_cons.mpr ⟨comma_not_mem_of_blank blank, free⟩⟩
  | replace visible visible' single same =>
    exact ⟨two_le, List.forall_mem_cons.mpr ⟨single, (List.forall_mem_cons.mp free).2⟩⟩

namespace Compiler

variable {c : Compiler} {x : Field × String}

theorem acceptsAll_comma {a b : String} : (c.compile (a ++ "," ++ b)).acceptsAll = false := by
  rw [← Bool.not_eq_true, acceptsAll_compile_iff]
  exact fun blank => comma_not_mem_of_blank blank (by simp)

theorem mem_accepted_comma_iff {a b : String} :
    x ∈ (c.compile (a ++ "," ++ b)).accepted ↔
      x ∈ (c.compile a).accepted ∨ x ∈ (c.compile b).accepted := by
  simp only [mem_accepted_compile_iff, tokens_append, List.mem_append, or_and_right, exists_or]

theorem ignored_comma {a b : String} :
    (c.compile (a ++ "," ++ b)).ignored = (c.compile a).ignored ++ (c.compile b).ignored := by
  rw [ignored_compile, ignored_compile, ignored_compile, tokens_append, List.filter_append]

theorem acceptsAll_intercalate {ts : List String} (two_le : 2 ≤ ts.length) :
    (c.compile (",".intercalate ts)).acceptsAll = false := by
  match ts, two_le with
  | t :: u :: ts, _ =>
    rw [String.intercalate_cons_cons]
    exact acceptsAll_comma

/-- What a list of tokens accepts is what its members accept. -/
theorem mem_accepted_intercalate_iff {ts : List String} :
    x ∈ (c.compile (",".intercalate ts)).accepted ↔ ∃ t ∈ ts, x ∈ (c.compile t).accepted := by
  induction ts with
  | nil =>
    have blank : Blank "" := by decide
    rw [String.intercalate_nil, compile_of_blank blank]
    simp [acceptAll]
  | cons t ts ih =>
    by_cases last : ts = []
    · simp [last]
    · rw [String.intercalate_cons_of_ne_nil last, mem_accepted_comma_iff, ih,
        List.exists_mem_cons_iff]

theorem accepted_congr {t u : String} (same : tokens t = tokens u) :
    x ∈ (c.compile t).accepted ↔ x ∈ (c.compile u).accepted := by
  rw [mem_accepted_compile_iff, mem_accepted_compile_iff, same]

/-- Only the lower case of a token counts. -/
theorem field?_congr {t u : String} (same : lowercase t = lowercase u) :
    c.field? t = c.field? u := by
  have id : c.KnowsId t ↔ c.KnowsId u := by rw [KnowsId, KnowsId, same]
  have topic : c.KnowsTopic t ↔ c.KnowsTopic u := by rw [KnowsTopic, KnowsTopic, same]
  simp only [field?, id, topic]

theorem mem_accepted_iff_of_edit {ts us : List String} (edit : Edit ts us)
    (list : IsTokenList ts) :
    (∃ u ∈ us, x ∈ (c.compile u).accepted) ↔ ∃ t ∈ ts, x ∈ (c.compile t).accepted := by
  cases edit with
  | reorder perm => simp only [perm.mem_iff]
  | duplicate mem =>
    rw [List.exists_mem_cons_iff]
    exact or_iff_right_of_imp fun accepted => ⟨_, mem, accepted⟩
  | pad t left right =>
    have free := list.free t List.mem_cons_self
    rw [List.exists_mem_cons_iff, List.exists_mem_cons_iff,
      accepted_congr (tokens_pad left right free)]
  | addBlank blank =>
    rw [List.exists_mem_cons_iff, compile_of_blank blank]
    exact or_iff_right List.not_mem_nil
  | @replace ts t u visible visible' free same =>
    -- Without commas inside, each of the two is one token, and these have one lower case.
    have free' := list.free t List.mem_cons_self
    have accepted : x ∈ (c.compile u).accepted ↔ x ∈ (c.compile t).accepted := by
      rw [mem_accepted_compile_iff, mem_accepted_compile_iff, tokens_of_free free visible',
        tokens_of_free free' visible]
      simp only [List.mem_singleton, exists_eq_left, field?_congr same, same]
    rw [List.exists_mem_cons_iff, List.exists_mem_cons_iff, accepted]

/-- However often a list is edited, it stays a list of tokens and accepts the same names. -/
theorem mem_accepted_iff_of_edits {ts us : List String} (edits : Relation.ReflTransGen Edit ts us)
    (list : IsTokenList ts) :
    IsTokenList us ∧ ∀ x, (∃ u ∈ us, x ∈ (c.compile u).accepted) ↔
      ∃ t ∈ ts, x ∈ (c.compile t).accepted := by
  induction edits with
  | refl => exact ⟨list, fun x => Iff.rfl⟩
  | tail _ edit ih =>
    obtain ⟨list', same⟩ := ih
    exact ⟨edit.isTokenList list',
      fun x => (mem_accepted_iff_of_edit edit list').trans (same x)⟩

/-- With a comma between them, raw filters make one that does not accept everything, accepts the
names of both and has ignored the tokens of both in order. So edits of a list of tokens do not
change the rules that it accepts. -/
theorem compile_comma_eq_union (c : Compiler) :
    (∀ a b : String, let p := c.compile (a ++ "," ++ b)
      p.acceptsAll = false ∧
      (∀ x, x ∈ p.accepted ↔ x ∈ (c.compile a).accepted ∨ x ∈ (c.compile b).accepted) ∧
      p.ignored = (c.compile a).ignored ++ (c.compile b).ignored) ∧
    ∀ ts us, IsTokenList ts → Relation.ReflTransGen Edit ts us → ∀ r,
      (c.compile (",".intercalate us)).Accepts r ↔ (c.compile (",".intercalate ts)).Accepts r := by
  constructor
  · intro a b p
    exact ⟨acceptsAll_comma, fun x => mem_accepted_comma_iff, ignored_comma⟩
  · intro ts us list edits r
    obtain ⟨list', same⟩ := mem_accepted_iff_of_edits (c := c) edits list
    rw [accepts_iff_of_not_all (acceptsAll_intercalate list.two_le),
      accepts_iff_of_not_all (acceptsAll_intercalate list'.two_le)]
    simp only [mem_accepted_intercalate_iff, same]

/-- One edit of each kind. The final sigma of the capital word is that of the small one. -/
theorem compile_comma_eq_union_edited :
    let c := ofNames ["gc"] ["Ὀδυσσεύς"]
    let ts := ["gc", "ὀδυσσεύς"]
    let us := [" \t", "GC", " ὈΔΥΣΣΕΎΣ ", "GC"]
    (IsTokenList ts ∧ Relation.ReflTransGen Edit ts us) ∧
      (c.compile (",".intercalate ts)).Accepts ⟨"HotMethods", "ὀδυσσεύς"⟩ ∧
      (c.compile (",".intercalate us)).Accepts ⟨"HotMethods", "ὀδυσσεύς"⟩ := by
  intro c ts us
  have list : IsTokenList ts := ⟨by decide, by decide⟩
  have edits : Relation.ReflTransGen Edit ts us := by
    have capital : Edit ts ["GC", "ὀδυσσεύς"] :=
      .replace (by decide) (by decide) (by decide) (by decide +kernel)
    have turned : Edit ["GC", "ὀδυσσεύς"] ["ὀδυσσεύς", "GC"] := .reorder (.swap _ _ _)
    have capitals : Edit ["ὀδυσσεύς", "GC"] ["ὈΔΥΣΣΕΎΣ", "GC"] :=
      .replace (by decide) (by decide) (by decide) (by decide +kernel)
    have padded : Edit ["ὈΔΥΣΣΕΎΣ", "GC"] [" ὈΔΥΣΣΕΎΣ ", "GC"] :=
      .pad (l := " ") (r := " ") "ὈΔΥΣΣΕΎΣ" (by decide) (by decide)
    have twice : Edit [" ὈΔΥΣΣΕΎΣ ", "GC"] ["GC", " ὈΔΥΣΣΕΎΣ ", "GC"] := .duplicate (by decide)
    have blank : Edit ["GC", " ὈΔΥΣΣΕΎΣ ", "GC"] us := .addBlank (by decide)
    exact .tail (.tail (.tail (.tail (.tail (.single capital) turned) capitals) padded) twice) blank
  have accepts : (c.compile (",".intercalate ts)).Accepts ⟨"HotMethods", "ὀδυσσεύς"⟩ := by
    decide +kernel
  exact ⟨⟨list, edits⟩, accepts,
    ((compile_comma_eq_union c).2 ts us list edits ⟨"HotMethods", "ὀδυσσεύς"⟩).mpr accepts⟩

end Compiler
end RuntimeMonitor.Filter
