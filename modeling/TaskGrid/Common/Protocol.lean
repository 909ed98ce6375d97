/-
  TaskGrid.Common.Protocol — src/common/protocol.py.

  The task states and the task-id counter.  A task id is an int on the wire
  and a string inside the dispatcher: `str` and `int?` are Python's `str(n)`
  and `int(s)` on the numerals `str` prints, and `int?_str` is the round trip
  every conversion between the two relies on.
-/
import Mathlib.Data.Int.Notation
import Mathlib.Data.String.Basic

namespace TaskGrid

/-! ## §1. Task states. -/

/-- The eight states of a task. -/
inductive TaskState where
  | created
  | queued
  | dispatched
  | processing
  | completed
  | failed
  | timeout
  | retrying
  deriving DecidableEq, Repr

/-- The value of the enum member. -/
def TaskState.value : TaskState → String
  | .created    => "CREATED"
  | .queued     => "QUEUED"
  | .dispatched => "DISPATCHED"
  | .processing => "PROCESSING"
  | .completed  => "COMPLETED"
  | .failed     => "FAILED"
  | .timeout    => "TIMEOUT"
  | .retrying   => "RETRYING"

/-! ## §2. Task ids: int on the wire, string inside. -/

/-- Python's `str(n)` of an int. -/
def str (n : Int) : String := n.repr

/-- The value of a non-empty string of decimal digits. -/
def digits? (ds : List Char) : Option Nat :=
  if ds ≠ [] ∧ ds.all Char.isDigit then some (Nat.ofDigitChars 10 ds 0) else none

/-- Python's `int(s)` on a decimal numeral with an optional minus sign. -/
def int? (s : String) : Option Int :=
  match s.toList with
  | '-' :: ds => (digits? ds).map fun n => -(n : Int)
  | ds => (digits? ds).map fun n => (n : Int)

theorem digits?_toDigits (n : Nat) : digits? (Nat.toDigits 10 n) = some n := by
  unfold digits?
  rw [if_pos, Nat.ofDigitChars_ten_toDigits]
  refine ⟨Nat.toDigits_ne_nil, List.all_eq_true.mpr ?_⟩
  intro c hc
  exact Nat.isDigit_of_mem_toDigits (by decide) (by decide) hc

/-- A number that is not negative is printed as its digits. -/
theorem toList_str_ofNat (m : Nat) : (str (Int.ofNat m)).toList = Nat.toDigits 10 m :=
  Nat.toList_repr

/-- A negative number is printed with a minus sign. -/
theorem toList_str_negSucc (m : Nat) :
    (str (Int.negSucc m)).toList = '-' :: Nat.toDigits 10 (m + 1) := by
  show ("-" ++ (m + 1).repr).toList = _
  rw [String.toList_append, Nat.toList_repr]
  rfl

/-- **Round trip.**  `int(str(n)) == n`. -/
theorem int?_str (n : Int) : int? (str n) = some n := by
  cases n with
  | ofNat m =>
      unfold int?
      rw [toList_str_ofNat]
      split
      · -- no decimal numeral starts with a minus sign
        rename_i ds hds
        have hdash := Nat.isDigit_of_mem_toDigits (b := 10) (n := m) (c := '-')
          (by decide) (by decide) (by rw [hds]; exact List.mem_cons_self)
        exact absurd hdash (by decide)
      · rw [digits?_toDigits]
        rfl
  | negSucc m =>
      unfold int?
      rw [toList_str_negSucc]
      simp only [digits?_toDigits]
      rfl

theorem str_injective {m n : Int} (h : str m = str n) : m = n := by
  rw [← Option.some.injEq, ← int?_str m, h, int?_str]

/-- `new_task_id`: count up and print the new value. -/
def newTaskId (counter : Nat) : Nat × String := (counter + 1, str ((counter + 1 : Nat) : Int))

end TaskGrid
