/-
  TaskGrid.Lib.Keyed — insertion-ordered dictionaries whose values carry their key.

  `Keyed key` is a list of values without two of the same `key`, in insertion
  order, as a Python `dict` whose keys are a field of the values.  Uniqueness
  of the keys is a field, so no lemma about a dictionary has to assume it.
  The file names no program.

  Main results: what `get` reads after each operation
  (`get_put`, `get_update`, `get_erase`).
-/
import Mathlib.Data.List.Nodup
import Mathlib.Data.Option.Basic

namespace TaskGrid.Lib

variable {κ α : Type*} {key : α → κ}

/-! ## §1. Assignment on the underlying list. -/

/-- Replace the entry with the key of `a`, or append `a`. -/
def upsert [DecidableEq κ] (key : α → κ) (a : α) : List α → List α
  | [] => [a]
  | b :: l => if key b = key a then a :: l else b :: upsert key a l

theorem map_key_upsert [DecidableEq κ] (a : α) (l : List α) :
    (upsert key a l).map key = if key a ∈ l.map key then l.map key else l.map key ++ [key a] := by
  induction l with
  | nil => simp [upsert]
  | cons b l ih =>
      unfold upsert
      by_cases hb : key b = key a
      · simp [hb]
      · have hb' : key a ≠ key b := fun h => hb h.symm
        simp only [hb, if_false, List.map_cons, ih, List.mem_cons, hb', false_or]
        split <;> simp

theorem find?_upsert [DecidableEq κ] (a : α) (k : κ) (l : List α) :
    (upsert key a l).find? (fun b => key b = k)
      = if key a = k then some a else l.find? (fun b => key b = k) := by
  induction l with
  | nil => by_cases h : key a = k <;> simp [upsert, h]
  | cons b l ih =>
      unfold upsert
      by_cases hb : key b = key a
      · by_cases hk : key a = k <;> simp [hb, hk]
      · rw [if_neg hb, List.find?_cons, List.find?_cons, ih]
        by_cases hbk : key b = k
        · have hk : key a ≠ k := fun h => hb (hbk.trans h.symm)
          simp [hbk, hk]
        · simp [hbk]

theorem upsert_of_not_mem [DecidableEq κ] {a : α} {l : List α} (h : key a ∉ l.map key) :
    upsert key a l = l ++ [a] := by
  induction l with
  | nil => rfl
  | cons b l ih =>
      rw [List.map_cons, List.mem_cons, not_or] at h
      unfold upsert
      rw [if_neg fun hb => h.1 hb.symm, ih h.2]
      rfl

/-- Replacing an entry by itself changes nothing. -/
theorem upsert_self [DecidableEq κ] (a : α) :
    ∀ l : List α, l.find? (fun b => key b = key a) = some a → upsert key a l = l := by
  intro l
  induction l with
  | nil => intro h; cases h
  | cons b l ih =>
      intro h
      unfold upsert
      by_cases hb : key b = key a
      · rw [List.find?_cons_of_pos (by simpa using hb), Option.some.injEq] at h
        rw [if_pos hb, h]
      · rw [List.find?_cons_of_neg (by simpa using hb)] at h
        rw [if_neg hb, ih h]

/-! ## §2. Dictionaries. -/

/-- A dictionary: its values in insertion order, no two with the same key. -/
@[ext] structure Keyed (key : α → κ) where
  entries : List α
  nodup : (entries.map key).Nodup

namespace Keyed

/-- The empty dictionary. -/
def empty : Keyed key := ⟨[], List.nodup_nil⟩

/-- The keys in insertion order. -/
def keys (d : Keyed key) : List κ := d.entries.map key

variable [DecidableEq κ]

/-- `d.get(k)`. -/
def get (d : Keyed key) (k : κ) : Option α := d.entries.find? (fun a => key a = k)

/-- `d[key(a)] = a`. -/
def put (d : Keyed key) (a : α) : Keyed key :=
  ⟨upsert key a d.entries, by
    rw [map_key_upsert]
    split
    · exact d.nodup
    · rename_i h
      exact List.nodup_append.mpr ⟨d.nodup, List.nodup_singleton _, by
        intro x hx y hy
        rw [List.mem_singleton.mp hy]
        exact fun hxy => h (hxy ▸ hx)⟩⟩

/-- Replace the value stored under the key of `a`; nothing when there is none. -/
def update (d : Keyed key) (a : α) : Keyed key :=
  if (d.get (key a)).isSome then d.put a else d

/-- `d.pop(k, None)`. -/
def erase (d : Keyed key) (k : κ) : Keyed key :=
  ⟨d.entries.filter (fun a => key a ≠ k), by
    have h : (d.entries.filter (fun a => key a ≠ k)).map key
        = (d.entries.map key).filter (· ≠ k) := by
      rw [List.filter_map]
      rfl
    rw [h]
    exact d.nodup.filter _⟩

/-- A value is stored under its own key. -/
theorem key_of_get {d : Keyed key} {k : κ} {a : α} (h : d.get k = some a) : key a = k := by
  simpa using List.find?_some h

theorem get_put (d : Keyed key) (a : α) (k : κ) :
    (d.put a).get k = if key a = k then some a else d.get k :=
  find?_upsert a k d.entries

theorem get_update (d : Keyed key) (a : α) (k : κ) :
    (d.update a).get k = if key a = k then (d.get k).map (fun _ => a) else d.get k := by
  unfold update
  by_cases hk : key a = k
  · subst hk
    cases hg : d.get (key a) with
    | none => simp [hg]
    | some b => simp [get_put]
  · rw [if_neg hk]
    split
    · rw [get_put, if_neg hk]
    · rfl

/-- An entry is what its key reads. -/
theorem get_of_mem {d : Keyed key} {a : α} (h : a ∈ d.entries) : d.get (key a) = some a := by
  obtain ⟨l, m, hl⟩ := List.append_of_mem h
  have hnd := d.nodup
  rw [hl, List.map_append, List.map_cons] at hnd
  unfold get
  rw [hl, List.find?_append]
  -- no entry before `a` has its key
  have hnone : l.find? (fun b => key b = key a) = none := by
    rw [List.find?_eq_none]
    intro b hb hkey
    have hmem : key b ∈ l.map key := List.mem_map_of_mem hb
    exact (List.nodup_append.mp hnd).2.2 _ hmem _ List.mem_cons_self (by simpa using hkey)
  rw [hnone, Option.none_or, List.find?_cons_of_pos (by simp)]

/-- The keys are the places where something is stored. -/
theorem mem_keys_iff {d : Keyed key} {k : κ} : k ∈ d.keys ↔ ∃ a, d.get k = some a := by
  unfold keys
  rw [List.mem_map]
  constructor
  · rintro ⟨a, ha, rfl⟩
    exact ⟨a, get_of_mem ha⟩
  · rintro ⟨a, ha⟩
    exact ⟨a, List.mem_of_find?_eq_some ha, key_of_get ha⟩

/-- A value with a new key goes to the end. -/
theorem entries_put_of_none {d : Keyed key} {a : α} (h : d.get (key a) = none) :
    (d.put a).entries = d.entries ++ [a] := by
  refine upsert_of_not_mem ?_
  intro hmem
  obtain ⟨b, hb⟩ := mem_keys_iff.mp hmem
  rw [h] at hb
  cases hb

/-- Assignment keeps the keys and appends a new one. -/
theorem keys_put (d : Keyed key) (a : α) :
    (d.put a).keys = if key a ∈ d.keys then d.keys else d.keys ++ [key a] :=
  map_key_upsert a d.entries

@[simp] theorem keys_update (d : Keyed key) (a : α) : (d.update a).keys = d.keys := by
  unfold update
  split
  · rename_i h
    rw [keys_put, if_pos (mem_keys_iff.mpr (Option.isSome_iff_exists.mp h))]
  · rfl

/-- Writing back what is stored changes nothing. -/
theorem update_self {d : Keyed key} {a : α} (h : d.get (key a) = some a) : d.update a = d := by
  unfold update
  rw [h, if_pos (by rfl)]
  exact Keyed.ext (upsert_self a d.entries h)

theorem get_erase (d : Keyed key) (j k : κ) :
    (d.erase j).get k = if j = k then none else d.get k := by
  unfold get erase
  rw [List.find?_filter]
  by_cases h : j = k
  · subst h
    simp
  · rw [if_neg h]
    congr 1
    funext a
    by_cases ha : key a = k
    · simp [ha, Ne.symm h]
    · simp [ha]

end Keyed

end TaskGrid.Lib
