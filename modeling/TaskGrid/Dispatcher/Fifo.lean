/-
  TaskGrid.Dispatcher.Fifo — the order in which tasks come to their turn.

  TaskQueue is first in, first out, but tasks come back into it: when no
  worker was found, and when a retry is due.  What stays in order is each
  task's first turn.

  Main result: `first_come_first_served`.
-/
import TaskGrid.Lib.Refinement
import TaskGrid.Dispatcher.Progress

namespace TaskGrid

open TaskGrid.Lib

namespace Dispatcher

variable {cfg : Config} {d d' : Dispatcher}

/-! ## §1. What the main loop takes. -/

/-- The id an iteration of the main loop takes from the queue. -/
def taken (d : Dispatcher) : Event → Option String
  | .dequeue => d.queue.head?
  | _ => none

/-- The ids a run has taken from the queue, in this order. -/
def takenIds (cfg : Config) (es : List Event) : List String := trace (step cfg) taken init es

theorem taken_append_keepQueue (d : Dispatcher) (e : Event) :
    (d.taken e).toList ++ e.keepQueue d.queue = d.queue := by
  unfold taken Event.keepQueue
  cases e with
  | dequeue => cases d.queue <;> rfl
  | _ => rfl

/-- Every queued id is one of the store. -/
theorem mem_keys_of_queue (h : Reachable (step cfg) init d) {t : String} (hq : t ∈ d.queue) :
    t ∈ d.store.keys := by
  rw [Keyed.mem_keys_iff]
  cases hg : d.store.get t with
  | some task => exact ⟨task, rfl⟩
  | none =>
      have hzero : (d.slot t).tokens = 0 := by rw [slot_eq_empty_of_none h hg]; rfl
      have hcount : 0 < d.queue.count t := List.count_pos_iff.mpr hq
      simp only [slot] at hzero
      omega

/-! ## §2. The order of the first turns. -/

/-- Ids that have occurred before do not count. -/
theorem eraseDups_append_old {l new : List String} (h : ∀ t ∈ new, t ∈ l) :
    (l ++ new).eraseDups = l.eraseDups := by
  have hnil : new.removeAll l = [] := by
    rw [List.removeAll, List.filter_eq_nil_iff]
    intro t ht
    simp [h t ht]
  rw [List.eraseDups_append, hnil, List.eraseDups_nil, List.append_nil]

theorem eraseDups_append_new {l : List String} {t : String} (h : t ∉ l) :
    (l ++ [t]).eraseDups = l.eraseDups ++ [t] := by
  have hself : [t].removeAll l = [t] := by
    rw [List.removeAll, List.filter_cons_of_pos (by simpa using h), List.filter_nil]
  rw [List.eraseDups_append, hself]
  rfl

/-- **What has been taken and what is queued, each id once: the ids in the order of posting.** -/
theorem eraseDups_taken_queue {es : List Event} (hr : run (step cfg) init es = some d) :
    (takenIds cfg es ++ d.queue).eraseDups = d.store.keys := by
  refine trace_invariant (P := fun os d => (os ++ d.queue).eraseDups = d.store.keys) rfl ?_ hr
  intro os a e b ha hP hs
  have hmem : ∀ t, t ∈ os ++ a.queue ↔ t ∈ a.store.keys := by
    intro t
    rw [← hP, List.mem_eraseDups]
  rcases post_or_not e with ⟨request, now, rfl⟩ | hp
  · cases hs
    have hnothing : a.taken (.postTask request now) = none := rfl
    rw [hnothing, Option.toList_none, List.append_nil]
    by_cases hv : Valid request.payload
    · -- the new id goes to the end of both lists
      have hnone : a.store.get (str ((a.taskIdCounter + 1 : Nat) : Int)) = none :=
        congrArg Slot.task (numbered_of_reachable ha).next_empty
      have hnew : str ((a.taskIdCounter + 1 : Nat) : Int) ∉ a.store.keys := by
        rw [Keyed.mem_keys_iff, hnone]
        rintro ⟨_, h⟩
        cases h
      have hkeys : (a.store.put (Task.posted (str ((a.taskIdCounter + 1 : Nat) : Int))
          request.payload now)).keys = a.store.keys ++ [str ((a.taskIdCounter + 1 : Nat) : Int)] :=
        (Keyed.keys_put _ _).trans (if_neg hnew)
      rw [postTask_of_valid hv]
      show (os ++ (a.queue ++ [str ((a.taskIdCounter + 1 : Nat) : Int)])).eraseDups = _
      rw [← List.append_assoc, eraseDups_append_new (fun h => hnew ((hmem _).mp h)), hP]
      exact hkeys.symm
    · obtain ⟨details, hd⟩ := postTask_of_not_valid hv a now
      rw [hd]
      exact hP
  · -- what comes back into the queue has been there before
    have hkeys : b.store.keys = a.store.keys := congrArg (·.2.1) (step_ledger hs hp)
    obtain ⟨new, hnew⟩ := (step_appends hs).queue
    have hold : ∀ t ∈ new, t ∈ os ++ a.queue := by
      intro t ht
      rw [hmem, ← hkeys]
      refine mem_keys_of_queue (ha.tail hs) ?_
      rw [hnew]
      exact List.mem_append_right _ ht
    rw [hnew, List.append_assoc, ← List.append_assoc (a.taken e).toList, taken_append_keepQueue,
      ← List.append_assoc, eraseDups_append_old hold, hP, hkeys]

/-- **First come, first served.**  The first turns go in the order of posting: those who have had
a turn are the first `k` tasks, in this order, and everybody else is still in the queue. -/
theorem first_come_first_served {es : List Event} (hr : run (step cfg) init es = some d) :
    ∃ k, k ≤ d.taskIdCounter ∧
      (takenIds cfg es).eraseDups = (List.range k).map (fun n => str ((n + 1 : Nat) : Int)) ∧
      ∀ n, k ≤ n → n < d.taskIdCounter → str ((n + 1 : Nat) : Int) ∈ d.queue := by
  have hall := eraseDups_taken_queue hr
  rw [keys_of_reachable ⟨es, hr⟩, List.eraseDups_append] at hall
  have hlen := congrArg List.length hall
  rw [List.length_append, List.length_map, List.length_range] at hlen
  refine ⟨(takenIds cfg es).eraseDups.length, by omega, ?_, ?_⟩
  · have htake := congrArg (List.take (takenIds cfg es).eraseDups.length) hall
    rw [List.take_left, ← List.map_take, List.take_range, Nat.min_eq_left (by omega)] at htake
    exact htake
  · intro n hk hn
    -- the rest of the store comes from the queue
    have hget := congrArg (·[n]?) hall
    rw [List.getElem?_append_right hk, List.getElem?_map,
      List.getElem?_range hn] at hget
    have hmem := List.mem_of_getElem? hget
    rw [List.mem_eraseDups] at hmem
    exact List.mem_of_mem_filter hmem

/-- Two tasks are posted and the first one comes back from a lookup without a worker. -/
def comingBack : List Event :=
  [.postTask sampleRequest 0, .postTask sampleRequest 0, .dequeue, .lookupReturns "1" [] 1,
    .sleepEnds "1", .dequeue, .dequeue]

/-- Taken in the order 1, 2, 1. -/
theorem first_come_first_served_comingBack :
    ∃ d, run (step ⟨3⟩) init comingBack = some d ∧ takenIds ⟨3⟩ comingBack = ["1", "2", "1"] ∧
      ∃ k, k ≤ d.taskIdCounter ∧ (takenIds ⟨3⟩ comingBack).eraseDups
          = (List.range k).map (fun n => str ((n + 1 : Nat) : Int)) ∧
        ∀ n, k ≤ n → n < d.taskIdCounter → str ((n + 1 : Nat) : Int) ∈ d.queue := by
  refine ⟨_, rfl, rfl, ?_⟩
  exact @first_come_first_served ⟨3⟩ _ comingBack rfl

end Dispatcher

end TaskGrid
