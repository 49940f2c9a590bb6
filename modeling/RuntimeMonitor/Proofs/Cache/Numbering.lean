import Mathlib
import RuntimeMonitor.Proofs.Cache.Entries
import RuntimeMonitor.Proofs.Cache.Key
import RuntimeMonitor.Proofs.Cache.Run

/-!
# Numbering without deletions

The number of a generated key is one more than the size of the cache. Where no entry is deleted on
its own or with its family, and no caller gives a key of generated form, the size does not fall
until the cache is cleared, and no live key has a number beyond it. So every generated key is new,
and the numbers grow from one key to the next.

The next number has to fit in 64 bits, as it does in every cache that fits in memory.
-/

namespace RuntimeMonitor.Cache

variable {c : Cache} {op : Operation}

/-- The key that is generated next for a family. -/
def next (c : Cache) (family : Option String) : Key := .generate (.ofNat (c.size + 1)) family

theorem toNat_next (room : c.size < 2 ^ 64 - 1) : (UInt64.ofNat (c.size + 1)).toNat = c.size + 1 :=
  UInt64.toNat_ofNat_of_lt' (Nat.add_lt_of_lt_sub room)

/-- No live generated key has a number beyond the size. -/
def Numbered (c : Cache) : Prop :=
  ∀ n family, .generated n family ∈ c.entries.map Prod.fst → n.toNat ≤ c.size

theorem numbered_empty : empty.Numbered := by
  intro n family live
  cases live

namespace Numbered

theorem next_not_mem (h : c.Numbered) (room : c.size < 2 ^ 64 - 1) (family : Option String) :
    c.next family ∉ c.entries.map Prod.fst := by
  intro live
  have bound := h _ _ live
  rw [toNat_next room] at bound
  exact Nat.not_succ_le_self _ bound

theorem size_put_next (h : c.Numbered) (room : c.size < 2 ^ 64 - 1) (family : Option String)
    (v : Value) : (c.put (c.next family) v).size = c.size + 1 := by
  rw [size_put, if_neg (h.next_not_mem room family)]

theorem put_next (h : c.Numbered) (room : c.size < 2 ^ 64 - 1) (family : Option String)
    (v : Value) : (c.put (c.next family) v).Numbered := by
  intro n other live
  rw [h.size_put_next room]
  rcases mem_keys_put.mp live with new | old
  · obtain ⟨rfl, -⟩ := Key.generated.inj new
    exact Nat.le_of_eq (toNat_next room)
  · exact Nat.le_succ_of_le (h n other old)

theorem put_custom (h : c.Numbered) (raw : String) (v : Value) :
    (c.put (.custom raw) v).Numbered := by
  intro n family live
  rcases mem_keys_put.mp live with new | old
  · cases new
  · exact Nat.le_trans (h n family old) (size_le_size_put c _ v)

end Numbered

namespace Operation

/-- What an insertion is given: a key, whether to generate one, and the value. -/
def insertion? : Operation → Option (Option String × Bool × Value)
  | .insert key family v => some (key, family, v)
  | @Operation.insertForm _ _ key family x => some (key, family, .json (JsonForm.toJson x))
  | _ => none

/-- Whether an operation inserts under a generated key: it asks for one or gives none. -/
def Generates (op : Operation) : Prop :=
  ∃ key family v, op.insertion? = some (key, family, v) ∧ (family = true ∨ key.getD "" = "")

/-- Operations that delete no single entries or families and give no keys of generated form.
Reading at another type is no operation of its own here, since it cannot change a cache. -/
inductive Keeps : Operation → Prop
  | generates {op : Operation} : op.Generates → Keeps op
  | custom {op : Operation} {raw v text} : op.insertion? = some (some raw, false, v) →
      Key.parse raw = .custom text → Keeps op
  | clear : Keeps .clear
  | get {text} : Keeps (.get text)
  | contains {text} : Keeps (.contains text)
  | keys : Keeps .keys
  | size : Keeps .size
  | isEmpty : Keeps .isEmpty

end Operation

theorem perform_of_insertion {key : Option String} {family : Bool} {v : Value}
    (h : op.insertion? = some (key, family, v)) (c : Cache) :
    c.perform op = (c.insert key family v).map .text id := by
  cases op <;> cases h <;> rfl

theorem keyFor_eq_next {key : Option String} {family : Bool}
    (h : family = true ∨ key.getD "" = "") (c : Cache) :
    ∃ name, c.keyFor key family = c.next name := by
  unfold keyFor
  cases given : key.filter (· ≠ "") with
  | none => exact ⟨none, rfl⟩
  | some raw =>
    obtain ⟨rfl, named⟩ := Option.filter_eq_some_iff.mp given
    cases h with
    | inl asked => exact ⟨some raw, if_pos asked⟩
    | inr blank => exact absurd blank (of_decide_eq_true named)

theorem keyFor_eq_parse {raw : String} (named : raw ≠ "") (c : Cache) :
    c.keyFor (some raw) false = .parse raw := by
  have given : (some raw).filter (· ≠ "") = some raw := by simp [Option.filter, named]
  rw [keyFor, given]
  rfl

theorem perform_of_generates (h : op.Generates) (c : Cache) :
    ∃ family v, (∃ key asked, op.insertion? = some (key, asked, v)) ∧
      c.perform op = (.text (c.next family).text, c.put (c.next family) v) := by
  obtain ⟨key, asked, v, inserted, generated⟩ := h
  obtain ⟨family, chosen⟩ := keyFor_eq_next generated c
  refine ⟨family, v, ⟨key, asked, inserted⟩, ?_⟩
  rw [perform_of_insertion inserted, insert, chosen]
  rfl

/-- What an operation that keeps entries can do to a cache. -/
theorem perform_cases (h : op.Keeps) (c : Cache) :
    (∃ family v, (c.perform op).2 = c.put (c.next family) v) ∨
      (∃ raw v, (c.perform op).2 = c.put (.custom raw) v) ∨ op = .clear ∨ (c.perform op).2 = c := by
  have generated (g : op.Generates) : ∃ family v, (c.perform op).2 = c.put (c.next family) v := by
    obtain ⟨family, v, -, performed⟩ := perform_of_generates g c
    exact ⟨family, v, by rw [performed]⟩
  cases h with
  | generates g => exact .inl (generated g)
  | @custom _ raw v text inserted read =>
    by_cases blank : raw = ""
    · exact .inl (generated ⟨_, _, _, inserted, .inr blank⟩)
    · refine .inr (.inl ⟨text, v, ?_⟩)
      rw [perform_of_insertion inserted, insert, keyFor_eq_parse blank, read]
      rfl
  | clear => exact .inr (.inr (.inl rfl))
  | get | contains | keys | size | isEmpty => exact .inr (.inr (.inr rfl))

theorem Numbered.perform (h : c.Numbered) (room : c.size < 2 ^ 64 - 1) (keeps : op.Keeps) :
    (c.perform op).2.Numbered := by
  rcases perform_cases keeps c with ⟨family, v, stored⟩ | ⟨raw, v, stored⟩ | rfl | same
  · rw [stored]
    exact h.put_next room family v
  · rw [stored]
    exact h.put_custom raw v
  · exact numbered_empty
  · rw [same]
    exact h

theorem size_le_size_perform (keeps : op.Keeps) (other : op ≠ .clear) (c : Cache) :
    c.size ≤ (c.perform op).2.size := by
  rcases perform_cases keeps c with ⟨family, v, stored⟩ | ⟨raw, v, stored⟩ | clear | same
  · rw [stored]
    exact size_le_size_put c _ v
  · rw [stored]
    exact size_le_size_put c _ v
  · exact absurd clear other
  · rw [same]

theorem size_le_size_run {ops : List Operation} (keeps : ∀ op ∈ ops, op.Keeps)
    (others : .clear ∉ ops) (c : Cache) : c.size ≤ (run perform ops c).2.size := by
  induction ops generalizing c with
  | nil => exact Nat.le_refl _
  | cons op rest ih =>
    have first := size_le_size_perform (keeps op List.mem_cons_self)
      (fun clear => others (clear ▸ List.mem_cons_self)) c
    have later := ih (fun op h => keeps op (List.mem_cons_of_mem _ h))
      (fun clear => others (List.mem_cons_of_mem _ clear)) (c.perform op).2
    exact Nat.le_trans first later

theorem numbered_reached {ops : List Operation} (keeps : ∀ op ∈ ops, op.Keeps)
    (room : ∀ before, before <+: ops → (reached before).size < 2 ^ 64 - 1) :
    (reached ops).Numbered := by
  induction ops using List.reverseRecOn with
  | nil => exact numbered_empty
  | append_singleton ops op ih =>
    have shorter : ops <+: ops ++ [op] := List.prefix_append ops [op]
    have before := ih (fun op h => keeps op (List.mem_append_left _ h))
      (fun before h => room before (h.trans shorter))
    rw [reached_append]
    exact before.perform (room ops shorter) (keeps op (by simp))

/-- An insertion is answered by a generated key of that number, which is new. The value is read
back under it, and every entry that the cache had stays as it was. -/
structure Issues (c : Cache) (op : Operation) (text : String) (n : UInt64) : Prop where
  answer : (c.perform op).1 = .text text
  parse : ∃ family, Key.parse text = .generated n family
  number : n.toNat = c.size + 1
  fresh : c.contains text = false
  size : (c.perform op).2.size = c.size + 1
  stored : ∀ key family v, op.insertion? = some (key, family, v) →
    (c.perform op).2.get? text = some v
  kept : ∀ k, (c.find? k).isSome → (c.perform op).2.find? k = c.find? k

theorem Numbered.issues (h : c.Numbered) (room : c.size < 2 ^ 64 - 1) (generates : op.Generates) :
    ∃ text n, c.Issues op text n := by
  obtain ⟨family, v, ⟨key, asked, inserted⟩, performed⟩ := perform_of_generates generates c
  have canonical : Key.parse (c.next family).text = c.next family := Key.isCanonical_generate _ _
  have absent : c.find? (c.next family) = none := by
    have notLive := h.next_not_mem room family
    rwa [mem_keys_iff, Option.not_isSome_iff_eq_none] at notLive
  refine ⟨(c.next family).text, .ofNat (c.size + 1), ?_, ⟨_, canonical⟩, toNat_next room, ?_, ?_,
    ?_, ?_⟩
  · rw [performed]
  · rw [contains, get?, canonical, absent]
    rfl
  · rw [performed]
    exact h.size_put_next room family v
  · intro _ _ w given
    obtain ⟨-, -, rfl⟩ : _ ∧ _ ∧ v = w := by simpa using inserted.symm.trans given
    rw [performed, get?, canonical, find?_put, if_pos rfl]
  · intro k live
    rw [performed, find?_put, if_neg]
    intro same
    rw [same, absent] at live
    cases live

/-- In a run that keeps entries and has room for them, every insertion under a generated key is
answered by a new one, and of two between which nothing is cleared the later one has the greater
number. The operations of several clients are one run, in the order in which they are admitted. -/
theorem generated_keys_new_and_increasing (ops : List Operation) (keeps : ∀ op ∈ ops, op.Keeps)
    (room : ∀ before, before <+: ops → (reached before).size < 2 ^ 64 - 1) :
    (∀ before op later, ops = before ++ op :: later → op.Generates →
      ∃ text n, (reached before).Issues op text n) ∧
    ∀ before op between op' later, ops = before ++ op :: (between ++ op' :: later) →
      op.Generates → op'.Generates → .clear ∉ between →
      ∀ text n text' n', (reached before).Issues op text n →
        (reached (before ++ op :: between)).Issues op' text' n' → n < n' ∧ text ≠ text' := by
  constructor
  · intro before op later split generates
    subst split
    have shorter : before <+: before ++ op :: later := List.prefix_append _ _
    have numbered := numbered_reached (fun op h => keeps op (List.mem_append_left _ h))
      (fun start h => room start (h.trans shorter))
    exact numbered.issues (room before shorter) generates
  · intro before op between op' later split _ _ others text n text' n' first second
    subst split
    have grown : (reached before).size + 1 ≤ (reached (before ++ op :: between)).size := by
      rw [← first.size, reached_append]
      apply size_le_size_run _ others
      intro op h
      exact keeps op (by simp [h])
    have less : n < n' := by
      rw [UInt64.lt_iff_toNat_lt, first.number, second.number]
      exact Nat.lt_succ_of_le grown
    refine ⟨less, ?_⟩
    intro same
    obtain ⟨family, read⟩ := first.parse
    obtain ⟨family', read'⟩ := second.parse
    rw [same, read'] at read
    obtain ⟨rfl, -⟩ := Key.generated.inj read
    exact UInt64.lt_irrefl n' less

/-- Between two keys of different families a caller's entry is written twice. -/
theorem generated_keys_new_and_increasing_overwrite :
    let start : List Operation := [.insert none false (.text "a"), .clear]
    let first : Operation := .insert (some "fam") true (.text "b")
    let between : List Operation :=
      [.insert (some "01_store") false (.text "c"), .insert (some "01_store") false (.text "d"), .size]
    let second : Operation := .insertForm (some "") false (7 : UInt64)
    let ops := start ++ first :: (between ++ [second])
    (∀ op ∈ ops, op.Keeps) ∧
      (∀ before, before <+: ops → (reached before).size < 2 ^ 64 - 1) ∧
      ∃ text n text' n', (reached start).Issues first text n ∧
        (reached (start ++ first :: between)).Issues second text' n' ∧ n < n' ∧ text ≠ text' := by
  intro start first between second ops
  have asked : first.Generates := ⟨_, _, _, rfl, .inl rfl⟩
  have absent : (Operation.insert none false (.text "a")).Generates := ⟨_, _, _, rfl, .inr rfl⟩
  have blank : second.Generates := ⟨_, _, _, rfl, .inr rfl⟩
  have zero : Key.parse "01_store" = .custom "01_store" := by decide
  have keeps : ∀ op ∈ ops, op.Keeps := by
    simp only [ops, start, between, List.cons_append, List.nil_append, List.forall_mem_cons]
    exact ⟨.generates absent, .clear, .generates asked, .custom rfl zero, .custom rfl zero, .size,
      .generates blank, nofun⟩
  have room := @room_of_short ops (by decide)
  have uncleared : .clear ∉ between := by simp [between]
  obtain ⟨new, increasing⟩ := generated_keys_new_and_increasing ops keeps room
  obtain ⟨text, n, issued⟩ := new start first _ rfl asked
  obtain ⟨text', n', later⟩ := new (start ++ first :: between) second [] rfl blank
  exact ⟨keeps, room, text, n, text', n', issued, later,
    increasing start first between second [] rfl asked blank uncleared text n text' n' issued later⟩

end RuntimeMonitor.Cache
