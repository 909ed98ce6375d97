/-
  TaskGrid.Lib.Counting — counting the elements of a list by a key.

  A histogram is a dictionary from keys to numbers that is built by going
  through a list and raising the number under the key of each element, as
  with `d[k] = d.get(k, 0) + 1`.  The file names no program.

  Main results: `read_histogram` (the number under a key counts the elements
  with that key), `total_histogram` (the numbers add up to the length) and
  `sum_length_fibers` (a list cut up by its keys).
-/
import TaskGrid.Lib.Keyed
import Mathlib.Algebra.BigOperators.Group.List.Basic
import Mathlib.Data.List.Count
import Mathlib.Algebra.Ring.Nat

namespace TaskGrid.Lib

variable {κ α : Type*} [DecidableEq κ]

/-! ## §1. Sums. -/

/-- An assignment takes the old value out of a sum and puts the new one in. -/
theorem sum_upsert (key : α → κ) (f : α → Nat) (a : α) (l : List α) :
    ((upsert key a l).map f).sum + (l.find? (fun b => key b = key a)).elim 0 f
      = (l.map f).sum + f a := by
  induction l with
  | nil => simp [upsert]
  | cons b l ih =>
      unfold upsert
      by_cases hb : key b = key a
      · rw [if_pos hb, List.find?_cons_of_pos (by simpa using hb)]
        simp only [List.map_cons, List.sum_cons, Option.elim_some]
        omega
      · rw [if_neg hb, List.find?_cons_of_neg (by simpa using hb)]
        simp only [List.map_cons, List.sum_cons]
        omega

/-- Exactly one of distinct keys is the key of a given element. -/
theorem sum_map_eq_one {keys : List κ} (hnd : keys.Nodup) {k : κ} (hk : k ∈ keys) :
    (keys.map fun j => if k = j then 1 else 0).sum = 1 := by
  induction keys with
  | nil => cases hk
  | cons j keys ih =>
      obtain ⟨hj, hnd⟩ := List.nodup_cons.mp hnd
      rw [List.map_cons, List.sum_cons]
      by_cases hkj : k = j
      · -- found: the keys are distinct, so no later one is `k` again
        subst hkj
        have hzero : (keys.map fun j => if k = j then 1 else 0).sum = 0 := by
          apply List.sum_eq_zero
          intro n hn
          obtain ⟨i, hi, rfl⟩ := List.mem_map.mp hn
          have hki : k ≠ i := fun h => hj (by rw [h]; exact hi)
          exact if_neg hki
        rw [hzero, if_pos rfl]
      · have hk' : k ∈ keys := by simpa [hkj] using hk
        rw [ih hnd hk', if_neg hkj]

/-- A list cut up by its keys. -/
theorem sum_length_fibers {keys : List κ} (hnd : keys.Nodup) (f : α → κ) (l : List α)
    (hl : ∀ a ∈ l, f a ∈ keys) :
    (keys.map fun k => (l.filter (f · = k)).length).sum = l.length := by
  induction l with
  | nil => simp
  | cons a l ih =>
      -- the head adds one to the piece of its own key
      have hsplit : ∀ k, ((a :: l).filter (f · = k)).length
          = (if f a = k then 1 else 0) + (l.filter (f · = k)).length := by
        intro k
        by_cases hk : f a = k
        · rw [List.filter_cons_of_pos (by simpa using hk), if_pos hk, List.length_cons]
          omega
        · rw [List.filter_cons_of_neg (by simpa using hk), if_neg hk]
          omega
      simp only [hsplit]
      rw [List.sum_map_add, sum_map_eq_one hnd (hl a List.mem_cons_self),
        ih fun b hb => hl b (List.mem_cons_of_mem a hb), List.length_cons]
      omega

/-! ## §2. Histograms. -/

/-- A dictionary from keys to numbers. -/
abbrev Histogram (κ : Type*) := Keyed (Prod.fst : κ × Nat → κ)

namespace Histogram

/-- `d.get(k, 0)` -/
def read (h : Histogram κ) (k : κ) : Nat := (h.get k).elim 0 Prod.snd

/-- `d[k] = d.get(k, 0) + 1` -/
def tick (h : Histogram κ) (k : κ) : Histogram κ := h.put (k, h.read k + 1)

/-- The sum of the numbers. -/
def total (h : Histogram κ) : Nat := (h.entries.map Prod.snd).sum

theorem read_tick (h : Histogram κ) (j k : κ) :
    (h.tick j).read k = h.read k + if j = k then 1 else 0 := by
  unfold tick
  show ((h.put (j, h.read j + 1)).get k).elim 0 Prod.snd = _
  rw [Keyed.get_put]
  by_cases hjk : j = k
  · subst hjk
    simp
  · simp [hjk, read]

/-- A tick is one more. -/
theorem total_tick (h : Histogram κ) (k : κ) : (h.tick k).total = h.total + 1 := by
  have hsum := sum_upsert Prod.fst Prod.snd (k, h.read k + 1) h.entries
  have hread : (h.entries.find? (fun b => b.1 = k)).elim 0 Prod.snd = h.read k := rfl
  unfold total tick
  show ((upsert Prod.fst (k, h.read k + 1) h.entries).map Prod.snd).sum = _
  rw [hread] at hsum
  omega

end Histogram

/-- The number of elements of the list under each key. -/
def histogram (f : α → κ) (l : List α) : Histogram κ :=
  l.foldl (fun h a => h.tick (f a)) .empty

/-- Going through the rest of the list. -/
theorem foldl_tick (f : α → κ) (l : List α) :
    ∀ h : Histogram κ,
      (∀ k, (l.foldl (fun h a => h.tick (f a)) h).read k = h.read k + l.countP (f · = k)) ∧
        (l.foldl (fun h a => h.tick (f a)) h).total = h.total + l.length := by
  -- by induction on the list, for every dictionary the pass may have reached
  induction l with
  | nil => intro h; exact ⟨fun _ => rfl, rfl⟩
  | cons a l ih =>
      intro h
      obtain ⟨hread, htotal⟩ := ih (h.tick (f a))
      rw [List.foldl_cons]
      constructor
      · intro k
        rw [hread, Histogram.read_tick, List.countP_cons]
        simp only [decide_eq_true_eq]
        omega
      · rw [htotal, Histogram.total_tick, List.length_cons]
        omega

/-- **The number under a key counts the elements with that key.** -/
theorem read_histogram (f : α → κ) (l : List α) (k : κ) :
    (histogram f l).read k = l.countP (f · = k) := by
  have hzero : Histogram.read (.empty : Histogram κ) k = 0 := rfl
  have hread := (foldl_tick f l .empty).1 k
  rw [hzero, Nat.zero_add] at hread
  exact hread

/-- **The numbers add up to the length of the list.** -/
theorem total_histogram (f : α → κ) (l : List α) : (histogram f l).total = l.length := by
  have hzero : Histogram.total (.empty : Histogram κ) = 0 := rfl
  have htotal := (foldl_tick f l .empty).2
  rw [hzero, Nat.zero_add] at htotal
  exact htotal

end TaskGrid.Lib
