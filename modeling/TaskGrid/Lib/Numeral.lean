/-
  TaskGrid.Lib.Numeral — positional numerals as a grammar, with their values.

  `Numeral base digit sep cs n` says that the symbols `cs` are a numeral of
  value `n`: digits, with single separators allowed between them.  What the
  digits are is a parameter, as is the base.  The file names no program.

  Main results: the symbols a numeral starts and ends with are digits
  (`exists_first`, `exists_last`), and its value is bounded by its length
  (`lt_pow`).
-/
import Mathlib.Algebra.Ring.Nat
import Mathlib.Tactic.TypeStar

namespace TaskGrid.Lib

variable {α : Type*}

/-- `digit ([sep] digit)*`, read from the left. -/
inductive Numeral (base : Nat) (digit : α → Option Nat) (sep : α) : List α → Nat → Prop where
  | single {c : α} {d : Nat} (h : digit c = some d) : Numeral base digit sep [c] d
  | next {cs : List α} {n : Nat} {c : α} {d : Nat} (hs : Numeral base digit sep cs n)
      (h : digit c = some d) : Numeral base digit sep (cs ++ [c]) (base * n + d)
  | group {cs : List α} {n : Nat} {c : α} {d : Nat} (hs : Numeral base digit sep cs n)
      (h : digit c = some d) : Numeral base digit sep (cs ++ [sep, c]) (base * n + d)

namespace Numeral

variable {base n : Nat} {digit : α → Option Nat} {sep : α} {cs : List α}

/-- A numeral starts with a digit. -/
theorem exists_first (h : Numeral base digit sep cs n) :
    ∃ c d rest, cs = c :: rest ∧ digit c = some d := by
  induction h with
  | single h => exact ⟨_, _, [], rfl, h⟩
  | next _ _ ih =>
      obtain ⟨c, d, rest, rfl, hd⟩ := ih
      exact ⟨c, d, _, rfl, hd⟩
  | group _ _ ih =>
      obtain ⟨c, d, rest, rfl, hd⟩ := ih
      exact ⟨c, d, _, rfl, hd⟩

/-- A numeral ends with a digit. -/
theorem exists_last (h : Numeral base digit sep cs n) :
    ∃ front c d, cs = front ++ [c] ∧ digit c = some d := by
  cases h with
  | single h => exact ⟨[], _, _, rfl, h⟩
  | next _ h => exact ⟨_, _, _, rfl, h⟩
  | @group cs _ c _ _ h => exact ⟨cs ++ [sep], c, _, by rw [List.append_assoc]; rfl, h⟩

/-- A numeral is made of digits and separators. -/
theorem mem_cases (h : Numeral base digit sep cs n) {c : α} (hc : c ∈ cs) :
    c = sep ∨ ∃ d, digit c = some d := by
  induction h with
  | single h =>
      rw [List.mem_singleton] at hc
      exact .inr ⟨_, hc ▸ h⟩
  | next _ h ih =>
      rcases List.mem_append.mp hc with hc | hc
      · exact ih hc
      · rw [List.mem_singleton] at hc
        exact .inr ⟨_, hc ▸ h⟩
  | group _ h ih =>
      rcases List.mem_append.mp hc with hc | hc
      · exact ih hc
      · rcases List.mem_cons.mp hc with hc | hc
        · exact .inl hc
        · rw [List.mem_singleton] at hc
          exact .inr ⟨_, hc ▸ h⟩

/-- **The value of a numeral of `k` symbols is below `base ^ k`.** -/
theorem lt_pow (hdigit : ∀ c d, digit c = some d → d < base) (h : Numeral base digit sep cs n) :
    n < base ^ cs.length := by
  -- one more digit multiplies the bound by the base
  have hshift : ∀ {n d k : Nat}, d < base → n < base ^ k → base * n + d < base ^ (k + 1) := by
    intro n d k hd hn
    have hmul : base * (n + 1) ≤ base * base ^ k := Nat.mul_le_mul_left base hn
    rw [Nat.mul_succ] at hmul
    rw [Nat.pow_succ, Nat.mul_comm (base ^ k)]
    omega
  induction h with
  | single h =>
      rw [List.length_singleton, Nat.pow_one]
      exact hdigit _ _ h
  | next _ h ih =>
      rw [List.length_append, List.length_singleton]
      exact hshift (hdigit _ _ h) ih
  | @group cs _ _ _ _ h ih =>
      have hbase : 0 < base := Nat.zero_lt_of_lt (hdigit _ _ h)
      have hlt := hshift (hdigit _ _ h) ih
      have hle : base ^ (cs.length + 1) ≤ base ^ (cs.length + 2) :=
        Nat.pow_le_pow_right hbase (Nat.le_succ _)
      rw [List.length_append]
      exact Nat.lt_of_lt_of_le hlt hle

end Numeral

end TaskGrid.Lib
