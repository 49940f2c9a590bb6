import Mathlib.Data.List.Basic
import RuntimeMonitor.Digest.Base64Url

/-!
# Base64 loses nothing

Symbols and values of six bits tell each other. A group of three bytes is one number, and its four
symbols are the digits of that number; so a whole group reads back. One or two bytes at the end
leave spare bits in their last symbol. They are zero, and the reader drops them.
-/

namespace RuntimeMonitor.Digest.Base64Url

theorem value?_symbol {n : Nat} (small : n < 64) : value? (symbol n) = some n := by
  have all : ∀ i : Fin 64, value? (symbol i) = some i.val := by decide +kernel
  exact all ⟨n, small⟩

theorem symbol_mem (n : Nat) : symbol n ∈ alphabet := by
  rw [symbol, List.getD_eq_getElem?_getD]
  cases found : alphabet[n]? with
  | none => decide
  | some c => exact List.mem_of_getElem? found

/-- The bytes of a number of 24 bits, the highest first. -/
def groupBytes (n : Nat) : List UInt8 := [.ofNat (n / 0x10000), .ofNat (n / 0x100), .ofNat n]

theorem groupBytes_of_bytes (a b c : UInt8) :
    groupBytes (a.toNat * 0x10000 + b.toNat * 0x100 + c.toNat) = [a, b, c] := by
  have ha := a.toNat_lt
  have hb := b.toNat_lt
  have hc := c.toNat_lt
  simp only [groupBytes, List.cons.injEq, ← UInt8.toNat_inj, UInt8.toNat_ofNat', and_true]
  omega

theorem decodeSymbols_symbols_append {n : Nat} (small : n < 0x1000000) (rest : List Char) :
    decodeSymbols (symbols n ++ rest) = (decodeSymbols rest).map (groupBytes n ++ ·) := by
  have whole : n / 0x40000 * 0x40000 + n / 0x1000 % 0x40 * 0x1000 + n / 0x40 % 0x40 * 0x40 +
      n % 0x40 = n := by
    omega
  simp only [symbols, List.cons_append, List.nil_append]
  rw [decodeSymbols, value?_symbol (by omega), value?_symbol (by omega), value?_symbol (by omega),
    value?_symbol (by omega)]
  simp only [Option.bind_eq_bind, Option.bind_some, whole]
  cases decodeSymbols rest <;> rfl

/-- The reader takes bytes back from their symbols, also where the last group is a partial one. -/
theorem decodeSymbols_encodeBytes (bytes : List UInt8) :
    decodeSymbols (encodeBytes bytes) = some bytes := by
  fun_induction encodeBytes bytes with
  | case1 a b c rest ih =>
    have ha := a.toNat_lt
    have hb := b.toNat_lt
    have hc := c.toNat_lt
    rw [decodeSymbols_symbols_append (by omega), ih, groupBytes_of_bytes]
    rfl
  | case2 a b =>
    have ha := a.toNat_lt
    have hb := b.toNat_lt
    simp only [symbols, List.take_succ_cons, List.take_zero]
    rw [decodeSymbols, value?_symbol (by omega), value?_symbol (by omega), value?_symbol (by omega)]
    simp only [Option.bind_eq_bind, Option.bind_some, Option.pure_def, Option.some.injEq,
      List.cons.injEq, ← UInt8.toNat_inj, UInt8.toNat_ofNat', and_true]
    omega
  | case3 a =>
    have ha := a.toNat_lt
    simp only [symbols, List.take_succ_cons, List.take_zero]
    rw [decodeSymbols, value?_symbol (by omega), value?_symbol (by omega)]
    simp only [Option.bind_eq_bind, Option.bind_some, Option.pure_def, Option.some.injEq,
      List.cons.injEq, ← UInt8.toNat_inj, UInt8.toNat_ofNat', and_true]
    omega
  | case4 => rfl

theorem decode?_encode (bytes : List UInt8) : decode? (encode bytes) = some bytes := by
  rw [decode?, encode, String.toList_ofList, decodeSymbols_encodeBytes]

theorem encode_injective : Function.Injective encode := by
  intro x y same
  apply Option.some.inj
  rw [← decode?_encode x, same, decode?_encode]

theorem length_encodeBytes (bytes : List UInt8) :
    (encodeBytes bytes).length = (4 * bytes.length + 2) / 3 := by
  fun_induction encodeBytes bytes with
  | case1 a b c rest ih =>
    simp only [List.length_append, ih, symbols, List.length_cons, List.length_nil]
    omega
  | case2 a b => simp [symbols]
  | case3 a => simp [symbols]
  | case4 => rfl

theorem mem_alphabet_of_mem_encodeBytes {bytes : List UInt8} {c : Char}
    (mem : c ∈ encodeBytes bytes) : c ∈ alphabet := by
  have group {n : Nat} (mem : c ∈ symbols n) : c ∈ alphabet := by
    simp only [symbols, List.mem_cons, List.not_mem_nil, or_false] at mem
    rcases mem with rfl | rfl | rfl | rfl <;> exact symbol_mem _
  fun_induction encodeBytes bytes with
  | case1 a b c' rest ih =>
    rcases List.mem_append.mp mem with first | later
    · exact group first
    · exact ih later
  | case2 a b => exact group (List.mem_of_mem_take mem)
  | case3 a => exact group (List.mem_of_mem_take mem)
  | case4 => exact absurd mem List.not_mem_nil

end RuntimeMonitor.Digest.Base64Url
