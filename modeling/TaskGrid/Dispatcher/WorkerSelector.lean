/-
  TaskGrid.Dispatcher.WorkerSelector — worker_selector.py over whole sequences of calls.

  `RoundRobinSelector.select` is in `TaskGrid.Dispatcher.State`; here are the
  positions it chooses in a sequence of calls that mixes task types, lists
  and empty lists.  The `j`-th successful call for a type reads the counter
  of that type `j` after the start (`positionsFor_eq`), so with one and the
  same list the pointer goes round it.

  Main results: `roundRobin_fair`, and `selector_run`, which ties the
  selector of a dispatcher to the sequence of calls its run has made.
-/
import TaskGrid.Dispatcher.Inversion
import TaskGrid.Lib.RoundRobin

namespace TaskGrid

open TaskGrid.Lib

/-! ## §1. Sequences of calls. -/

/-- A call of `select`. -/
structure SelectCall where
  taskType : String
  workers : List WorkerInfo
  deriving DecidableEq

/-- A successful call: the list position it has chosen and the worker it has returned. -/
structure Selection where
  call : SelectCall
  position : Nat
  worker : WorkerInfo
  deriving DecidableEq

/-- The calls for a type that have a worker to choose from. -/
def ownCalls (ty : String) (calls : List SelectCall) : List SelectCall :=
  calls.filter fun c => c.taskType = ty && c.workers ≠ []

namespace RoundRobinSelector

/-- `idx = self._counters[task_type] % len(workers)` -/
def idx (s : RoundRobinSelector) (c : SelectCall) : Nat :=
  s.counters c.taskType % c.workers.length

/-- The selector after a sequence of calls. -/
def after (s : RoundRobinSelector) (calls : List SelectCall) : RoundRobinSelector :=
  calls.foldl (fun s c => (s.select c.taskType c.workers).2) s

/-- The successful calls of a sequence, in order. -/
def selections : RoundRobinSelector → List SelectCall → List Selection
  | _, [] => []
  | s, c :: calls =>
      match s.select c.taskType c.workers with
      | (none, s') => s'.selections calls
      | (some worker, s') => ⟨c, s.idx c, worker⟩ :: s'.selections calls

/-- The successful calls for a type. -/
def selectionsFor (s : RoundRobinSelector) (ty : String) (calls : List SelectCall) :
    List Selection :=
  (s.selections calls).filter (·.call.taskType = ty)

/-- The list positions the successful calls for a type choose, in order. -/
def positionsFor (s : RoundRobinSelector) (ty : String) (calls : List SelectCall) : List Nat :=
  (s.selectionsFor ty calls).map Selection.position

/-! ## §2. One call. -/

variable {s : RoundRobinSelector} {c : SelectCall} {ty : String}

/-- A call with an empty list finds no worker and leaves the counters alone. -/
theorem select_of_nil (h : c.workers = []) : s.select c.taskType c.workers = (none, s) := by
  rw [h]
  rfl

/-- Any other call returns the worker at `idx`, which is within the list, and raises the counter
of its type. -/
theorem select_of_ne_nil (h : c.workers ≠ []) :
    ∃ worker, s.select c.taskType c.workers
        = (some worker, ⟨fun t => if t = c.taskType then s.counters t + 1 else s.counters t⟩) ∧
      s.idx c < c.workers.length ∧ c.workers[s.idx c]? = some worker := by
  obtain ⟨taskType, workers⟩ := c
  cases workers with
  | nil => exact absurd rfl h
  | cons w ws =>
      have hlt : s.counters taskType % (ws.length + 1) < (w :: ws).length :=
        Nat.mod_lt _ (Nat.succ_pos _)
      exact ⟨_, rfl, hlt, List.getElem?_eq_getElem hlt⟩

/-- **A successful call raises the counter of its type by one; no other call and no other counter
moves.** -/
theorem counters_select (s : RoundRobinSelector) (c : SelectCall) (ty : String) :
    (s.select c.taskType c.workers).2.counters ty
      = s.counters ty + (ownCalls ty [c]).length := by
  unfold ownCalls
  by_cases hne : c.workers = []
  · rw [select_of_nil hne]
    simp [hne]
  · obtain ⟨worker, hsel, _⟩ := select_of_ne_nil (s := s) hne
    rw [hsel]
    by_cases ht : c.taskType = ty
    · simp [ht, hne]
    · simp [ht, Ne.symm ht]

/-! ## §3. A sequence of calls. -/

theorem ownCalls_cons (ty : String) (c : SelectCall) (calls : List SelectCall) :
    ownCalls ty (c :: calls) = ownCalls ty [c] ++ ownCalls ty calls :=
  List.filter_append [c] calls

theorem mem_ownCalls {calls : List SelectCall} :
    c ∈ ownCalls ty calls ↔ c ∈ calls ∧ c.taskType = ty ∧ c.workers ≠ [] := by
  unfold ownCalls
  rw [List.mem_filter, Bool.and_eq_true, decide_eq_true_eq, decide_eq_true_eq]

theorem ownCalls_of_own (ht : c.taskType = ty) (hne : c.workers ≠ []) : ownCalls ty [c] = [c] := by
  simp [ownCalls, ht, hne]

theorem ownCalls_of_other (ht : c.taskType ≠ ty) : ownCalls ty [c] = [] := by
  simp [ownCalls, ht]

theorem ownCalls_of_nil (hnil : c.workers = []) : ownCalls ty [c] = [] := by
  simp [ownCalls, hnil]

theorem ownCalls_cases (ty : String) (c : SelectCall) :
    ownCalls ty [c] = [c] ∧ c.taskType = ty ∨ ownCalls ty [c] = [] := by
  by_cases hne : c.workers = []
  · exact .inr (ownCalls_of_nil hne)
  · by_cases ht : c.taskType = ty
    · exact .inl ⟨ownCalls_of_own ht hne, ht⟩
    · exact .inr (ownCalls_of_other ht)

/-- Every choice is a position of the list it was made from, and the worker there is returned. -/
theorem position_lt {sel : Selection} :
    ∀ {calls : List SelectCall} {s : RoundRobinSelector}, sel ∈ s.selections calls →
      sel.position < sel.call.workers.length ∧
        sel.call.workers[sel.position]? = some sel.worker := by
  intro calls
  induction calls with
  | nil => intro s h; cases h
  | cons c calls ih =>
      intro s h
      unfold selections at h
      by_cases hne : c.workers = []
      · rw [select_of_nil hne] at h
        exact ih h
      · obtain ⟨worker, hsel, hlt, hget⟩ := select_of_ne_nil (s := s) hne
        rw [hsel] at h
        rcases List.mem_cons.mp h with rfl | h
        · exact ⟨hlt, hget⟩
        · exact ih h

/-- The first call of a sequence makes its own choice; the rest goes on with the selector it
leaves. -/
theorem positionsFor_cons (s : RoundRobinSelector) (ty : String) (c : SelectCall)
    (calls : List SelectCall) :
    s.positionsFor ty (c :: calls)
      = (ownCalls ty [c]).map s.idx ++ (s.select c.taskType c.workers).2.positionsFor ty calls := by
  show ((s.selections (c :: calls)).filter _).map _ = _
  unfold selections
  by_cases hne : c.workers = []
  · rw [ownCalls_of_nil hne, select_of_nil hne]
    rfl
  · obtain ⟨worker, hsel, _⟩ := select_of_ne_nil (s := s) hne
    rw [hsel]
    by_cases ht : c.taskType = ty
    · rw [ownCalls_of_own ht hne]
      simp only []
      rw [List.filter_cons_of_pos (by simpa using ht)]
      rfl
    · rw [ownCalls_of_other ht]
      simp only []
      rw [List.filter_cons_of_neg (by simpa using ht)]
      rfl

/-- **The `j`-th successful call for a type reads the counter `j` after the start.**  Nothing
else of the sequence has a say in it. -/
theorem positionsFor_eq (ty : String) (calls : List SelectCall) :
    ∀ s : RoundRobinSelector, s.positionsFor ty calls
      = (ownCalls ty calls).mapIdx fun j c => (s.counters ty + j) % c.workers.length := by
  induction calls with
  | nil => intro s; rfl
  | cons c calls ih =>
      intro s
      rw [positionsFor_cons, ih, counters_select, ownCalls_cons ty c calls, List.mapIdx_append]
      -- the head is one choice at the present counter, or none
      have hhead : (ownCalls ty [c]).map s.idx
          = (ownCalls ty [c]).mapIdx fun j c => (s.counters ty + j) % c.workers.length := by
        rcases ownCalls_cases ty c with ⟨hown, ht⟩ | hnone
        · rw [hown]
          show [s.counters c.taskType % c.workers.length] = _
          rw [ht]
          rfl
        · rw [hnone]
          rfl
      rw [hhead]
      congr 2
      funext j d
      show (s.counters ty + (ownCalls ty [c]).length + j) % _ = _
      rw [Nat.add_assoc, Nat.add_comm j]

theorem length_positionsFor (s : RoundRobinSelector) (ty : String) (calls : List SelectCall) :
    (s.positionsFor ty calls).length = (ownCalls ty calls).length := by
  rw [positionsFor_eq, List.length_mapIdx]

/-- The counter of a type counts the successful calls for it. -/
theorem counters_after (ty : String) (calls : List SelectCall) :
    ∀ s : RoundRobinSelector,
      (s.after calls).counters ty = s.counters ty + (ownCalls ty calls).length := by
  induction calls with
  | nil => intro s; rfl
  | cons c calls ih =>
      intro s
      show ((s.select c.taskType c.workers).2.after calls).counters ty = _
      rw [ih, counters_select, ownCalls_cons ty c calls, List.length_append]
      omega

/-- With lists of one and the same length the pointer of a type goes round their places. -/
theorem positionsFor_eq_turns_of_length {n : Nat} {calls : List SelectCall}
    (s : RoundRobinSelector)
    (hlength : ∀ c ∈ calls, c.taskType = ty → c.workers ≠ [] → c.workers.length = n) :
    s.positionsFor ty calls = turns n (s.counters ty) (ownCalls ty calls).length := by
  rw [positionsFor_eq]
  unfold turns
  apply List.ext_getElem
  · rw [List.length_mapIdx, List.length_map, List.length_range]
  · intro j h1 h2
    rw [List.getElem_mapIdx, List.getElem_map, List.getElem_range]
    rw [List.length_mapIdx] at h1
    obtain ⟨hmem, ht, hne⟩ := mem_ownCalls.mp (List.getElem_mem h1)
    rw [hlength _ hmem ht hne]

/-- With one and the same list the pointer of a type goes round it. -/
theorem positionsFor_eq_turns {workers : List WorkerInfo} {calls : List SelectCall}
    (s : RoundRobinSelector)
    (hsame : ∀ c ∈ calls, c.taskType = ty → c.workers ≠ [] → c.workers = workers) :
    s.positionsFor ty calls
      = turns workers.length (s.counters ty) (ownCalls ty calls).length :=
  positionsFor_eq_turns_of_length s fun c hc ht hne => congrArg List.length (hsame c hc ht hne)

/-! ## §4. Fairness. -/

/-- **Round-robin is fair for each task type.**  In every sequence of calls: every choice is a
position of its list, every call with a worker to choose from makes one, the counter of a type
grows by one with each of its successful calls, and the positions chosen for a type depend on its
own calls with a worker to choose from only.  When these all pass the same list of `n` workers,
any `n` successive choices hit every position exactly once, and after `m` choices every position
has been hit `⌊m/n⌋` or `⌈m/n⌉` times. -/
theorem roundRobin_fair (s : RoundRobinSelector) (calls : List SelectCall) (ty : String) :
    (∀ sel ∈ s.selections calls, sel.position < sel.call.workers.length ∧
      sel.call.workers[sel.position]? = some sel.worker) ∧
    (s.positionsFor ty calls).length = (ownCalls ty calls).length ∧
    (s.after calls).counters ty = s.counters ty + (s.positionsFor ty calls).length ∧
    (∀ calls', ownCalls ty calls' = ownCalls ty calls →
      s.positionsFor ty calls' = s.positionsFor ty calls) ∧
    ∀ workers : List WorkerInfo,
      (∀ c ∈ calls, c.taskType = ty → c.workers ≠ [] → c.workers = workers) →
      ∀ i < workers.length,
        (∀ a, a + workers.length ≤ (s.positionsFor ty calls).length →
          (((s.positionsFor ty calls).drop a).take workers.length).count i = 1) ∧
        ∀ m ≤ (s.positionsFor ty calls).length,
          ((s.positionsFor ty calls).take m).count i = m / workers.length ∨
            ((s.positionsFor ty calls).take m).count i = m ⌈/⌉ workers.length := by
  refine ⟨fun sel h => position_lt h, length_positionsFor s ty calls, ?_, ?_, ?_⟩
  · rw [counters_after, length_positionsFor]
  · intro calls' hown
    rw [positionsFor_eq, positionsFor_eq, hown]
  · intro workers hsame i hi
    rw [positionsFor_eq_turns s hsame, length_turns]
    constructor
    · intro a ha
      rw [drop_turns _ _ (by omega), take_turns _ _ (by omega)]
      exact count_turns_round hi _
    · intro m hm
      rw [take_turns _ _ hm]
      exact count_turns hi _ m

/-- Two workers for both types, and one lookup that finds nobody. -/
def mixedCalls : List SelectCall :=
  let workers : List WorkerInfo := [⟨"w1", "h1", 1, 0⟩, ⟨"w2", "h2", 2, 0⟩]
  [⟨"sum", workers⟩, ⟨"hash", workers⟩, ⟨"sum", []⟩, ⟨"sum", workers⟩, ⟨"sum", workers⟩]

/-- Three of the five calls choose for `sum`; the second and third hit the first place once. -/
theorem roundRobin_fair_mixedCalls :
    init.positionsFor "sum" mixedCalls = [0, 1, 0] ∧
      (init.positionsFor "sum" mixedCalls).length = (ownCalls "sum" mixedCalls).length ∧
      (((init.positionsFor "sum" mixedCalls).drop 1).take 2).count 0 = 1 := by
  obtain ⟨_, hlength, _, _, hfair⟩ := roundRobin_fair init mixedCalls "sum"
  have hsame : ∀ c ∈ mixedCalls, c.taskType = "sum" → c.workers ≠ [] →
      c.workers = [⟨"w1", "h1", 1, 0⟩, ⟨"w2", "h2", 2, 0⟩] := by decide
  refine ⟨by decide, hlength, ?_⟩
  exact (hfair _ hsame 0 (by decide)).1 1 (by decide)

end RoundRobinSelector

/-! ## §5. The selector of the dispatcher. -/

namespace Dispatcher

variable {cfg : Config} {d d' : Dispatcher}

/-- The call of `select` a step makes: one for every answer of `lookup_worker`. -/
def selectCalls (d : Dispatcher) : Event → List SelectCall
  | .lookupReturns taskId workers _ =>
      ((d.store.get taskId).map fun task => SelectCall.mk task.taskType workers).toList
  | _ => []

/-- The calls of `select` in a run, in order. -/
def selectCallsOf (cfg : Config) : Dispatcher → List Event → List SelectCall
  | _, [] => []
  | d, e :: es =>
      match step cfg d e with
      | none => []
      | some d' => d.selectCalls e ++ selectCallsOf cfg d' es

/-- `_dispatch` calls `select` once, whatever comes of the choice. -/
theorem selector_lookupReturns {i : String} {workers : List WorkerInfo} {now : Int}
    (hs : d.lookupReturns i workers now = some d') :
    d'.selector = d.selector.after (d.selectCalls (.lookupReturns i workers now)) := by
  unfold lookupReturns at hs
  split at hs
  case isFalse => cases hs
  cases hg : d.store.get i with
  | none => rw [hg] at hs; cases hs
  | some task =>
      have hcalls : d.selectCalls (.lookupReturns i workers now) = [⟨task.taskType, workers⟩] := by
        show ((d.store.get i).map _).toList = _
        rw [hg]
        rfl
      rw [hcalls]
      show _ = (d.selector.select task.taskType workers).2
      rw [hg] at hs
      simp only [] at hs
      split at hs
      · rw [← Option.some.inj hs]
        rfl
      · split at hs
        · rw [← Option.some.inj hs]
        · rw [← Option.some.inj hs]
          exact congrArg Prod.snd (frame_dispatchTask _ _ _ _ now)

/-- **Step lemma.**  A step moves the selector by its calls of `select` and in no other way. -/
theorem selector_step {e : Event} (hs : step cfg d e = some d') :
    d'.selector = d.selector.after (d.selectCalls e) := by
  cases e with
  | postTask request now =>
      cases hs
      rcases postTask_cases d request now with ⟨_, h⟩ | h <;> rw [h]
      · rfl
      · rfl
  | returnResult request now =>
      cases hs
      exact congrArg Prod.snd (frame_returnResult d request now)
  | dequeue =>
      cases hs
      exact congrArg Prod.snd (frame_dequeue d)
  | lookupReturns i workers now => exact selector_lookupReturns hs
  | sleepEnds i =>
      simp only [step, sleepEnds] at hs
      split at hs <;> cases hs
      rfl
  | reply i worker timer success now =>
      simp only [step, reply] at hs
      split at hs
      case isFalse => cases hs
      split at hs <;> cases hs
      exact congrArg Prod.snd (frame_handleReply _ _ success now)
  | timerFires timer now =>
      simp only [step, timerFires] at hs
      split at hs <;> cases hs
      exact congrArg Prod.snd (frame_onTimeout _ cfg timer.taskId now)
  | reenqueueAfterDelay i =>
      simp only [step, reenqueueAfterDelay] at hs
      split at hs <;> cases hs
      rfl

/-- **Run lemma.**  In every run of the dispatcher the selector is the one its calls of `select`
lead to, so all that is said above of a sequence of calls is said of the run. -/
theorem selector_run (es : List Event) :
    ∀ {d d' : Dispatcher}, run (step cfg) d es = some d' →
      d'.selector = d.selector.after (selectCallsOf cfg d es) := by
  induction es with
  | nil =>
      intro d d' hr
      rw [run_nil, Option.some.injEq] at hr
      rw [hr]
      rfl
  | cons e es ih =>
      intro d d' hr
      obtain ⟨m, hm, hr⟩ := run_cons_eq_some.mp hr
      have hcalls : selectCallsOf cfg d (e :: es) = d.selectCalls e ++ selectCallsOf cfg m es := by
        simp only [selectCallsOf, hm]
      rw [ih hr, selector_step hm, hcalls]
      exact (List.foldl_append ..).symm

/-- The counter of a task type counts the answers of `lookup_worker` for tasks of the type that
list a worker. -/
theorem counters_run {es : List Event} (hr : run (step cfg) init es = some d) (ty : String) :
    d.selector.counters ty = (ownCalls ty (selectCallsOf cfg init es)).length := by
  rw [selector_run es hr, RoundRobinSelector.counters_after]
  exact Nat.zero_add _

end Dispatcher

end TaskGrid
