import Mathlib
import RuntimeMonitor.Proofs.Identity.Canonical

/-!
# Which arguments share a text

Arguments are written with a comma and a space between them, and nothing in them is escaped. So
the text does not show where an argument ends that has such a separator inside, nor whether there
is no argument or a single empty one. Nothing else is lost: the pieces of the text are those of
the arguments, and a text is put together again from its pieces.
-/

namespace RuntimeMonitor.Identity

namespace Arguments

def separator : List Char := [',', ' ']

/-- The pieces of a text between its separators, which are found from the left. -/
def pieces : List Char → List (List Char)
  | [] => [[]]
  | ',' :: ' ' :: rest => [] :: pieces rest
  | c :: rest => (pieces rest).modifyHead (c :: ·)

theorem pieces_ne_nil (s : List Char) : pieces s ≠ [] := by
  fun_induction pieces s with
  | case1 => exact List.cons_ne_nil _ _
  | case2 rest ih => exact List.cons_ne_nil _ _
  | case3 c rest other ih => simpa using ih

theorem intercalate_modifyHead_cons {ps : List (List Char)} (nonempty : ps ≠ []) (c : Char) :
    separator.intercalate (ps.modifyHead (c :: ·)) = c :: separator.intercalate ps := by
  obtain ⟨p, ps, rfl⟩ := List.exists_cons_of_ne_nil nonempty
  cases ps with
  | nil => simp
  | cons q ps => simp [List.intercalate_cons_cons]

theorem intercalate_pieces (s : List Char) : separator.intercalate (pieces s) = s := by
  fun_induction pieces s with
  | case1 => exact List.intercalate_singleton
  | case2 rest ih =>
    obtain ⟨p, ps, split⟩ := List.exists_cons_of_ne_nil (pieces_ne_nil rest)
    rw [split] at ih ⊢
    rw [List.intercalate_cons_cons, ih]
    rfl
  | case3 c rest other ih =>
    rw [intercalate_modifyHead_cons (pieces_ne_nil rest), ih]

/-- No separator begins inside another one, so one that is put between two texts is found. -/
theorem pieces_append (s t : List Char) : pieces (s ++ separator ++ t) = pieces s ++ pieces t := by
  fun_induction pieces s with
  | case1 => rfl
  | case2 rest ih =>
    change [] :: pieces (rest ++ separator ++ t) = [] :: (pieces rest ++ pieces t)
    rw [ih]
  | case3 c rest other ih =>
    have kept : pieces (c :: (rest ++ separator ++ t)) =
        (pieces (rest ++ separator ++ t)).modifyHead (c :: ·) := by
      apply pieces.eq_3
      intro more comma space
      cases rest with
      | nil => exact absurd space (by simp [separator])
      | cons d rest =>
        obtain ⟨rfl, -⟩ := List.cons.inj space
        exact other rest comma rfl
    obtain ⟨p, ps, split⟩ := List.exists_cons_of_ne_nil (pieces_ne_nil rest)
    change pieces (c :: (rest ++ separator ++ t)) = _
    rw [kept, ih, split]
    rfl

/-- The pieces of all arguments in order. No argument counts as one that is empty. -/
def flat (items : List String) : List (List Char) :=
  if items = [] then [[]] else items.flatMap (fun item => pieces item.toList)

theorem pieces_intercalate (items : List String) :
    pieces (separator.intercalate (items.map String.toList)) = flat items := by
  induction items with
  | nil => rfl
  | cons item rest ih =>
    cases rest with
    | nil => simp [flat]
    | cons next rest =>
      rw [List.map_cons, List.map_cons, List.intercalate_cons_cons, pieces_append, ← List.map_cons,
        ih]
      simp [flat]

/-- Two lists of arguments are written alike exactly if they have the same pieces. -/
theorem bracketed_eq_iff {xs ys : List String} : bracketed xs = bracketed ys ↔ flat xs = flat ys := by
  have body (items : List String) :
      (bracketed items).toList = '[' :: separator.intercalate (items.map String.toList) ++ [']'] := by
    simp [bracketed, separator]
  rw [← pieces_intercalate, ← pieces_intercalate, ← String.toList_inj, body, body]
  constructor
  · intro same
    rw [List.append_cancel_right_eq, List.cons.injEq] at same
    rw [same.2]
  · intro same
    rw [← intercalate_pieces (separator.intercalate (xs.map _)), same, intercalate_pieces]

end Arguments

open Arguments

/-- Two attributes that differ in their arguments only have different encodings exactly if the
pieces of the arguments differ. -/
theorem canonicalBytes_ne_iff_flat_ne {a : Attributes} {xs ys : List String} {x y : List UInt8}
    (hx : { a with inputArguments := .strings xs }.canonicalBytes = .ok x)
    (hy : { a with inputArguments := .strings ys }.canonicalBytes = .ok y) :
    x ≠ y ↔ flat xs ≠ flat ys := by
  rw [not_iff_not, ← bracketed_eq_iff]
  constructor
  · rintro rfl
    exact (agree_of_append hx hy (List.append_nil x)).1.inputArguments
  · intro same
    have agree : Agree { a with inputArguments := .strings xs }
        { a with inputArguments := .strings ys } := ⟨rfl, rfl, same, rfl, rfl, rfl, rfl⟩
    rw [canonicalBytes_eq_of_agree agree, hy] at hx
    exact (Except.ok.inj hx).symm

/-- A comma before a separator and one behind it are told apart. -/
theorem canonicalBytes_ne_iff_flat_ne_comma :
    let a : Attributes := { name := "é", startTime := -1 }
    let x : List UInt8 := [0, 0, 0, 2, 0xc3, 0xa9, 0, 7, 0x5b, 0x61, 0x2c, 0x2c, 0x20, 0x62, 0x5d, 0, 0,
      0, 0, 0, 0, 0xff, 0xff, 0xff, 0xff, 0xff, 0xff, 0xff, 0xff]
    let y : List UInt8 := [0, 0, 0, 2, 0xc3, 0xa9, 0, 7, 0x5b, 0x61, 0x2c, 0x20, 0x2c, 0x62, 0x5d, 0, 0,
      0, 0, 0, 0, 0xff, 0xff, 0xff, 0xff, 0xff, 0xff, 0xff, 0xff]
    ({ a with inputArguments := .strings ["a,", "b"] }.canonicalBytes = .ok x ∧
      { a with inputArguments := .strings ["a", ",b"] }.canonicalBytes = .ok y) ∧
      flat ["a,", "b"] ≠ flat ["a", ",b"] ∧ x ≠ y := by
  intro a x y
  have hx : { a with inputArguments := .strings ["a,", "b"] }.canonicalBytes = .ok x := by cbv
  have hy : { a with inputArguments := .strings ["a", ",b"] }.canonicalBytes = .ok y := by cbv
  have differ : flat ["a,", "b"] ≠ flat ["a", ",b"] := by decide
  exact ⟨⟨hx, hy⟩, differ, (canonicalBytes_ne_iff_flat_ne hx hy).mpr differ⟩

/-- A separator inside an argument is encoded like one between two arguments, and no argument like
one that is empty. -/
theorem canonicalBytes_separator_inside :
    let a (items : List String) : Attributes := { inputArguments := .strings items }
    let two : List UInt8 := [0, 0, 0, 0, 0, 6, 0x5b, 0x61, 0x2c, 0x20, 0x62, 0x5d, 0, 0, 0, 0, 0, 0,
      0, 0, 0, 0, 0, 0, 0, 0]
    let none : List UInt8 := [0, 0, 0, 0, 0, 2, 0x5b, 0x5d, 0, 0, 0, 0, 0, 0, 0, 0, 0, 0, 0, 0, 0, 0]
    (["a, b"] ≠ ["a", "b"] ∧ (a ["a, b"]).canonicalBytes = .ok two ∧
        (a ["a", "b"]).canonicalBytes = .ok two) ∧
      ([] ≠ [""] ∧ (a []).canonicalBytes = .ok none ∧ (a [""]).canonicalBytes = .ok none) := by
  intro a two none
  have inside : (a ["a, b"]).canonicalBytes = .ok two := by cbv
  have between : (a ["a", "b"]).canonicalBytes = .ok two := by cbv
  have absent : (a []).canonicalBytes = .ok none := by cbv
  have blank : (a [""]).canonicalBytes = .ok none := by cbv
  exact ⟨⟨by decide, inside, between⟩, by decide, absent, blank⟩

end RuntimeMonitor.Identity
