/-
  TaskGrid.Lib.Fibers — lists cut up by a key, and operations that act under one key.

  `fiber key k l` are the elements of `l` under the key `k`, in order.  An
  operation acts on one fiber (`OnFiber`) when it leaves the elements under
  every other key alone and when what it does under its own key depends on
  nothing else.  The file names no program.

  Main results:
    * `perm_of_fibers` — lists with the same fibers are permutations of each
      other.
    * `OnFiber.comm` — operations on different fibers commute, fiber by fiber.
    * `fiber_foldl` — after a sequence of operations a fiber is what the
      operations on it alone would have made of it.
-/
import Mathlib.Data.List.Count
import Mathlib.Data.List.Perm.Basic

namespace TaskGrid.Lib

variable {κ α : Type*} [DecidableEq κ] {key : α → κ}

/-! ## §1. Fibers. -/

/-- The elements under a key, in order. -/
def fiber (key : α → κ) (k : κ) (l : List α) : List α := l.filter (key · = k)

theorem fiber_append (k : κ) (l m : List α) :
    fiber key k (l ++ m) = fiber key k l ++ fiber key k m :=
  List.filter_append l m

theorem fiber_eq_nil {k : κ} {l : List α} (h : ∀ a ∈ l, key a ≠ k) : fiber key k l = [] := by
  unfold fiber
  rw [List.filter_eq_nil_iff]
  intro a ha
  simpa using h a ha

/-- A filter and a fiber can be taken in either order. -/
theorem fiber_filter (p : α → Bool) (k : κ) (l : List α) :
    fiber key k (l.filter p) = (fiber key k l).filter p := by
  unfold fiber
  rw [List.filter_filter, List.filter_filter]
  congr 1
  funext a
  exact Bool.and_comm _ _

/-- **Lists with the same fibers are permutations of each other.** -/
theorem perm_of_fibers {l m : List α} (h : ∀ k, fiber key k l = fiber key k m) : l.Perm m := by
  classical
  rw [List.perm_iff_count]
  intro a
  -- an element occurs as often as in the fiber of its own key
  have hcount : ∀ l : List α, (fiber key (key a) l).count a = l.count a := by
    intro l
    unfold fiber
    exact List.count_filter (by simp)
  rw [← hcount l, h (key a), hcount m]

/-! ## §2. Operations on one fiber. -/

/-- The operation acts under the key `k` and nowhere else. -/
structure OnFiber (key : α → κ) (k : κ) (f : List α → List α) : Prop where
  own : ∀ l m, fiber key k l = fiber key k m → fiber key k (f l) = fiber key k (f m)
  other : ∀ j, j ≠ k → ∀ l, fiber key j (f l) = fiber key j l

theorem onFiber_id (k : κ) : OnFiber key k id where
  own _ _ h := h
  other _ _ _ := rfl

/-- Dropping elements under the key. -/
theorem onFiber_filter {k : κ} {p : α → Bool} (h : ∀ a, key a ≠ k → p a = true) :
    OnFiber key k (List.filter p) where
  own l m hlm := by rw [fiber_filter, fiber_filter, hlm]
  other j hj l := by
    rw [fiber_filter, List.filter_eq_self]
    intro a ha
    unfold fiber at ha
    have hkey : key a = j := by simpa using (List.mem_filter.mp ha).2
    exact h a (hkey ▸ hj)

/-- Appending elements under the key. -/
theorem onFiber_append {k : κ} {new : List α} (h : ∀ a ∈ new, key a = k) :
    OnFiber key k (· ++ new) where
  own l m hlm := by rw [fiber_append, fiber_append, hlm]
  other j hj l := by
    have hnil : fiber key j new = [] := fiber_eq_nil fun a ha => h a ha ▸ hj.symm
    rw [fiber_append, hnil, List.append_nil]

/-- One operation after another. -/
theorem OnFiber.comp {k : κ} {f g : List α → List α} (hf : OnFiber key k f)
    (hg : OnFiber key k g) : OnFiber key k (f ∘ g) where
  own l m hlm := hf.own _ _ (hg.own l m hlm)
  other j hj l := (hf.other j hj (g l)).trans (hg.other j hj l)

/-- **Operations on different fibers commute**, fiber by fiber. -/
theorem OnFiber.comm {j k : κ} {f g : List α → List α} (hf : OnFiber key j f)
    (hg : OnFiber key k g) (hjk : j ≠ k) (i : κ) (l : List α) :
    fiber key i (f (g l)) = fiber key i (g (f l)) := by
  by_cases hj : i = j
  · -- only `f` acts here, and `g` has left what it reads alone
    subst hj
    rw [hg.other i hjk]
    exact hf.own _ _ (hg.other i hjk l)
  · rw [hf.other i hj]
    by_cases hk : i = k
    · subst hk
      exact (hg.own _ _ (hf.other i hj l)).symm
    · rw [hg.other i hk, hg.other i hk, hf.other i hj]

/-! ## §3. Sequences of operations. -/

/-- **A fiber is the work of the operations on it.**  After a sequence of operations, each on the
fiber of its own key, the elements under `k` are what the operations under `k` alone make of
them. -/
theorem fiber_foldl {ο : Type*} {act : ο → List α → List α} {keyOf : ο → κ}
    (hact : ∀ o, OnFiber key (keyOf o) (act o)) (k : κ) (ops : List ο) :
    ∀ l m, fiber key k l = fiber key k m →
      fiber key k (ops.foldl (fun l o => act o l) l)
        = fiber key k ((ops.filter (keyOf · = k)).foldl (fun l o => act o l) m) := by
  -- by induction on the sequence, for any two lists that agree under `k`
  induction ops with
  | nil => intro l m h; exact h
  | cons o ops ih =>
      intro l m h
      rw [List.foldl_cons]
      by_cases ho : keyOf o = k
      · rw [List.filter_cons_of_pos (by simpa using ho), List.foldl_cons]
        apply ih
        subst ho
        exact (hact o).own l m h
      · rw [List.filter_cons_of_neg (by simpa using ho)]
        apply ih
        rw [(hact o).other k (Ne.symm ho)]
        exact h

end TaskGrid.Lib
