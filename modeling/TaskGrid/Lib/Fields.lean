/-
  TaskGrid.Lib.Fields — records of fields: joined by a separator, read one by one.

  A reader that fails on the first bad field (`mapM` into Option) succeeds
  exactly when the fields and the values are related pointwise.  The file
  names no program.
-/
import Mathlib.Data.List.Forall2

namespace TaskGrid.Lib

variable {α β : Type*}

/-- `mapM` succeeds where every element does, with the values of the elements. -/
theorem mapM_eq_some_iff {f : α → Option β} {xs : List α} :
    ∀ {ys : List β}, xs.mapM f = some ys ↔ List.Forall₂ (fun x y => f x = some y) xs ys := by
  induction xs with
  | nil =>
      intro ys
      rw [List.mapM_nil, List.forall₂_nil_left_iff]
      show some [] = some ys ↔ _
      rw [Option.some.injEq]
      exact eq_comm
  | cons x xs ih =>
      intro ys
      rw [List.mapM_cons, List.forall₂_cons_left_iff]
      constructor
      · intro h
        obtain ⟨y, hy, h⟩ := Option.bind_eq_some_iff.mp h
        obtain ⟨zs, hzs, h⟩ := Option.bind_eq_some_iff.mp h
        rw [← Option.some.inj h]
        exact ⟨y, zs, hy, ih.mp hzs, rfl⟩
      · rintro ⟨y, zs, hy, hzs, rfl⟩
        rw [hy, ih.mpr hzs]
        rfl

/-- Two readers that agree on the elements of the list read the same list. -/
theorem mapM_congr {f g : α → Option β} {xs : List α} (h : ∀ x ∈ xs, f x = g x) :
    xs.mapM f = xs.mapM g := by
  induction xs with
  | nil => rfl
  | cons x xs ih =>
      rw [List.mapM_cons, List.mapM_cons, h x List.mem_cons_self,
        ih fun y hy => h y (List.mem_cons_of_mem x hy)]

/-- A list has related values exactly when each of its elements has one. -/
theorem exists_forall₂_iff {R : α → β → Prop} {xs : List α} :
    (∃ ys, List.Forall₂ R xs ys) ↔ ∀ x ∈ xs, ∃ y, R x y := by
  induction xs with
  | nil =>
      constructor
      · intro _ x hx
        cases hx
      · intro _
        exact ⟨[], .nil⟩
  | cons x xs ih =>
      rw [List.forall_mem_cons, ← ih]
      constructor
      · rintro ⟨ys, hys⟩
        obtain ⟨y, zs, hy, hzs, _⟩ := List.forall₂_cons_left_iff.mp hys
        exact ⟨⟨y, hy⟩, zs, hzs⟩
      · rintro ⟨⟨y, hy⟩, zs, hzs⟩
        exact ⟨y :: zs, .cons hy hzs⟩

/-- A field is no longer than the record. -/
theorem length_le_intercalate (sep : List α) {field : List α} {fields : List (List α)}
    (h : field ∈ fields) : field.length ≤ (sep.intercalate fields).length := by
  induction fields with
  | nil => cases h
  | cons first rest ih =>
      cases rest with
      | nil =>
          refine Nat.le_of_eq ?_
          rw [List.mem_singleton.mp h, List.intercalate_singleton]
      | cons second rest =>
          rw [List.intercalate_cons_cons, List.length_append, List.length_append]
          rcases List.mem_cons.mp h with rfl | h
          · rw [Nat.add_assoc]
            exact Nat.le_add_right _ _
          · have hle := ih h
            omega

end TaskGrid.Lib
