/-
  TaskGrid.Lib.RoundRobin — going round a circle of places.

  A pointer that is read modulo the number of places and raised by one at
  each turn.  The file names no program.

  Main results: `count_turns_round` (a full round visits every place exactly
  once, wherever it starts), `count_turns` (after any number of turns the
  visits of two places differ by one at most: the floor or the ceiling of the
  mean) and `count_goRound` (the same for the entries of a list, which may stand
  at several places).
-/
import Mathlib.Algebra.Order.Floor.Div
import Mathlib.Data.List.Count
import Mathlib.Data.List.Range

namespace TaskGrid.Lib

/-! ## §1. Turns. -/

/-- The places visited in `m` turns when the pointer stands at `c` and there are `n` places. -/
def turns (n c m : Nat) : List Nat := (List.range m).map fun j => (c + j) % n

@[simp] theorem length_turns (n c m : Nat) : (turns n c m).length = m := by
  unfold turns
  rw [List.length_map, List.length_range]

/-- Turns one after the other. -/
theorem turns_add (n c a b : Nat) : turns n c (a + b) = turns n c a ++ turns n (c + a) b := by
  unfold turns
  rw [List.range_add, List.map_append, List.map_map]
  congr 1
  apply List.map_congr_left
  intro j _
  show (c + (a + j)) % n = (c + a + j) % n
  rw [Nat.add_assoc]

/-- The first turn. -/
theorem turns_succ (n c m : Nat) : turns n c (m + 1) = c % n :: turns n (c + 1) m := by
  rw [Nat.add_comm m 1, turns_add]
  show [(c + 0) % n] ++ _ = _
  rw [Nat.add_zero, List.singleton_append]

/-- The last turn. -/
theorem turns_succ' (n c m : Nat) : turns n c (m + 1) = turns n c m ++ [(c + m) % n] := by
  rw [turns_add]
  rfl

theorem take_turns {m k : Nat} (n c : Nat) (h : m ≤ k) : (turns n c k).take m = turns n c m := by
  obtain ⟨b, rfl⟩ := Nat.exists_eq_add_of_le h
  rw [turns_add]
  exact List.take_left' (length_turns n c m)

theorem drop_turns {a k : Nat} (n c : Nat) (h : a ≤ k) :
    (turns n c k).drop a = turns n (c + a) (k - a) := by
  obtain ⟨b, rfl⟩ := Nat.exists_eq_add_of_le h
  rw [turns_add, Nat.add_sub_cancel_left]
  exact List.drop_left' (length_turns n c a)

/-! ## §2. Counting the visits. -/

/-- **A full round visits every place exactly once**, wherever the pointer stands. -/
theorem count_turns_round {n i : Nat} (hi : i < n) : ∀ c, (turns n c n).count i = 1 := by
  intro c
  induction c with
  | zero =>
      have hrange : turns n 0 n = List.range n := by
        unfold turns
        rw [← List.map_id (List.range n), List.map_map]
        apply List.map_congr_left
        intro j hj
        show (0 + j) % n = j
        rw [Nat.zero_add, Nat.mod_eq_of_lt (List.mem_range.mp hj)]
      rw [hrange]
      exact List.count_eq_one_of_mem List.nodup_range (List.mem_range.mpr hi)
  | succ c ih =>
      -- the round from `c + 1` drops the place `c % n` in front and reaches it again at the end
      have hfront : (turns n c (n + 1)).count i
          = (turns n (c + 1) n).count i + if c % n = i then 1 else 0 := by
        rw [turns_succ, List.count_cons]
        simp only [beq_iff_eq]
      have hback : (turns n c (n + 1)).count i
          = (turns n c n).count i + if c % n = i then 1 else 0 := by
        rw [turns_succ', List.count_append, Nat.add_mod_right, List.count_singleton]
        simp only [beq_iff_eq]
      omega

/-- Less than a round visits no place twice. -/
theorem count_turns_le_one {n i m : Nat} (hi : i < n) (hm : m ≤ n) (c : Nat) :
    (turns n c m).count i ≤ 1 := by
  have hsub : (turns n c m).Sublist (turns n c n) := by
    rw [← take_turns n c hm]
    exact List.take_sublist m _
  have hle := hsub.count_le i
  rw [count_turns_round hi c] at hle
  exact hle

/-- Full rounds count one visit each. -/
theorem count_turns_rounds {n i : Nat} (hi : i < n) (q r : Nat) :
    ∀ c, (turns n c (n * q + r)).count i = q + (turns n (c + n * q) r).count i := by
  induction q with
  | zero =>
      intro c
      rw [Nat.mul_zero, Nat.zero_add, Nat.zero_add, Nat.add_zero]
  | succ q ih =>
      intro c
      have hsplit : n * (q + 1) + r = n + (n * q + r) := by
        rw [Nat.mul_succ]
        omega
      have hstart : c + n + n * q = c + n * (q + 1) := by
        rw [Nat.mul_succ]
        omega
      rw [hsplit, turns_add, List.count_append, count_turns_round hi c, ih, hstart]
      omega

/-- A begun round makes the ceiling one more than the floor. -/
theorem ceilDiv_of_rest {n m : Nat} (hn : 0 < n) (hrest : m % n ≠ 0) : m ⌈/⌉ n = m / n + 1 := by
  have hdiv : n * (m / n) + m % n = m := Nat.div_add_mod m n
  have hsplit : m + n - 1 = (m % n - 1) + n * (m / n + 1) := by
    rw [Nat.mul_succ]
    omega
  have hlt : m % n - 1 < n := by
    have := Nat.mod_lt m hn
    omega
  rw [Nat.ceilDiv_eq_add_pred_div, hsplit, Nat.add_mul_div_left _ _ hn, Nat.div_eq_of_lt hlt,
    Nat.zero_add]

/-- **After `m` turns every place has been visited the floor or the ceiling of `m / n` times.** -/
theorem count_turns {n i : Nat} (hi : i < n) (c m : Nat) :
    (turns n c m).count i = m / n ∨ (turns n c m).count i = m ⌈/⌉ n := by
  have hn : 0 < n := Nat.zero_lt_of_lt hi
  have hdiv : n * (m / n) + m % n = m := Nat.div_add_mod m n
  have hcount := count_turns_rounds hi (m / n) (m % n) c
  rw [hdiv] at hcount
  rw [hcount]
  -- the begun round adds one visit or none
  have hle := count_turns_le_one hi (Nat.le_of_lt (Nat.mod_lt m hn)) (c + n * (m / n))
  by_cases hrest : m % n = 0
  · left
    rw [hrest]
    rfl
  · rw [ceilDiv_of_rest hn hrest]
    omega

/-! ## §3. Going round a list. -/

/-- The entries visited in `m` turns round a list when the pointer stands at `c`. -/
def goRound {α : Type*} (l : List α) (c m : Nat) : List α :=
  (turns l.length c m).filterMap (l[·]?)

section

variable {α : Type*} {l : List α}

theorem goRound_add (l : List α) (c a b : Nat) :
    goRound l c (a + b) = goRound l c a ++ goRound l (c + a) b := by
  unfold goRound
  rw [turns_add, List.filterMap_append]

/-- The places of a full round are those of the list. -/
theorem turns_perm (n c : Nat) : (turns n c n).Perm (List.range n) := by
  rw [List.perm_iff_count]
  intro i
  by_cases hi : i < n
  · rw [count_turns_round hi, List.count_eq_one_of_mem List.nodup_range (List.mem_range.mpr hi)]
  · have hout : i ∉ turns n c n := by
      intro hmem
      obtain ⟨j, hj, rfl⟩ := List.mem_map.mp hmem
      exact hi (Nat.mod_lt _ (Nat.zero_lt_of_lt (List.mem_range.mp hj)))
    rw [List.count_eq_zero_of_not_mem hout,
      List.count_eq_zero_of_not_mem (fun hmem => hi (List.mem_range.mp hmem))]

/-- Reading a list place by place. -/
theorem filterMap_getElem?_range (l : List α) : (List.range l.length).filterMap (l[·]?) = l := by
  induction l using List.reverseRecOn with
  | nil => rfl
  | append_singleton l a ih =>
      have hfront : (List.range l.length).filterMap ((l ++ [a])[·]?) = l := by
        refine (List.filterMap_congr ?_).trans ih
        intro i hi
        exact List.getElem?_append_left (List.mem_range.mp hi)
      rw [List.length_append, List.length_singleton, List.range_succ, List.filterMap_append, hfront]
      simp

/-- **A full round visits every entry as often as it stands in the list.** -/
theorem goRound_perm (l : List α) (c : Nat) : (goRound l c l.length).Perm l := by
  have hperm := (turns_perm l.length c).filterMap (l[·]?)
  rw [filterMap_getElem?_range] at hperm
  exact hperm

variable [DecidableEq α]

/-- Less than a round visits no entry more often than it stands in the list. -/
theorem count_goRound_le {m : Nat} (hm : m ≤ l.length) (c : Nat) (a : α) :
    (goRound l c m).count a ≤ l.count a := by
  obtain ⟨k, hk⟩ := Nat.exists_eq_add_of_le hm
  have hsub : (goRound l c m).Sublist (goRound l c l.length) := by
    rw [hk, goRound_add]
    exact List.sublist_append_left _ _
  rw [← (goRound_perm l c).count_eq a]
  exact hsub.count_le a

theorem count_goRounds (a : α) (q r : Nat) :
    ∀ c, (goRound l c (l.length * q + r)).count a
      = l.count a * q + (goRound l (c + l.length * q) r).count a := by
  induction q with
  | zero =>
      intro c
      rw [Nat.mul_zero, Nat.mul_zero, Nat.zero_add, Nat.zero_add, Nat.add_zero]
  | succ q ih =>
      intro c
      have hsplit : l.length * (q + 1) + r = l.length + (l.length * q + r) := by
        rw [Nat.mul_succ]
        omega
      have hstart : c + l.length + l.length * q = c + l.length * (q + 1) := by
        rw [Nat.mul_succ]
        omega
      rw [hsplit, goRound_add, List.count_append, (goRound_perm l c).count_eq a, ih, hstart,
        Nat.mul_succ (l.count a)]
      omega

/-- **After `m` turns an entry has been visited between the floor and the ceiling of `m / n`
times for each of its places.** -/
theorem count_goRound (l : List α) (c m : Nat) (a : α) :
    l.count a * (m / l.length) ≤ (goRound l c m).count a ∧
      (goRound l c m).count a ≤ l.count a * (m ⌈/⌉ l.length) := by
  rcases Nat.eq_zero_or_pos l.length with hzero | hpos
  · rw [List.length_eq_zero_iff] at hzero
    subst hzero
    simp [goRound]
  have hcount := count_goRounds (l := l) a (m / l.length) (m % l.length) c
  rw [Nat.div_add_mod] at hcount
  rw [hcount]
  refine ⟨Nat.le_add_right _ _, ?_⟩
  by_cases hrest : m % l.length = 0
  · have hnil : goRound l (c + l.length * (m / l.length)) (m % l.length) = [] := by
      rw [hrest]
      rfl
    have hle : m / l.length ≤ m ⌈/⌉ l.length := by
      rw [← Nat.floorDiv_eq_div]
      exact floorDiv_le_ceilDiv
    rw [hnil, List.count_nil, Nat.add_zero]
    exact Nat.mul_le_mul_left _ hle
  · -- the begun round visits no entry more often than a full one
    have hle :=
      count_goRound_le (Nat.le_of_lt (Nat.mod_lt m hpos)) (c + l.length * (m / l.length)) a
    rw [ceilDiv_of_rest hpos hrest, Nat.mul_succ]
    omega

end

end TaskGrid.Lib
