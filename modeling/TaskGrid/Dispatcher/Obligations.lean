/-
  TaskGrid.Dispatcher.Obligations — no task is lost and none is scheduled twice.

  The obligations of a task are everything the dispatcher still has to do
  for it: a queue entry, a `_dispatch` run before its transition, a live
  timeout timer, a pending delayed re-enqueue.

  Main result: `obligations_of_reachable`.  In every reachable state a task
  that waits has one obligation, which is no timer, and a task in flight has
  one, the registered live timer of its latest dispatch.
-/
import TaskGrid.Dispatcher.Invariant

namespace TaskGrid

open TaskGrid.Lib

/-! ## §1. Obligations. -/

/-- What can move a task on. -/
inductive Obligation where
  | queueEntry
  | dispatchRun (run : DispatchRun)
  | delayedReenqueue
  | timeoutTimer (timer : Timer)
  deriving DecidableEq, Repr

/-- The obligation is a live timeout timer. -/
def Obligation.isTimer : Obligation → Bool
  | .timeoutTimer _ => true
  | _ => false

namespace Dispatcher

variable {cfg : Config} {d : Dispatcher} {t : String}

/-- The obligations of a task other than its live timers. -/
def schedulings (d : Dispatcher) (t : String) : List Obligation :=
  (d.queue.filter (· = t)).map (fun _ => .queueEntry)
    ++ (d.runs.filter (DispatchRun.pendingFor t)).map .dispatchRun
    ++ (d.delayed.filter (· = t)).map (fun _ => .delayedReenqueue)

/-- The obligations of a task. -/
def obligations (d : Dispatcher) (t : String) : List Obligation :=
  d.schedulings t ++ (d.live.filter (·.taskId = t)).map .timeoutTimer

/-- `tokens` counts the obligations that are no timers. -/
theorem length_schedulings (d : Dispatcher) (t : String) :
    (d.schedulings t).length = (d.slot t).tokens := by
  have hcount : ∀ l : List String, (l.filter (· = t)).length = l.count t := by
    intro l
    rw [List.count, List.countP_eq_length_filter]
    congr 1
  unfold schedulings slot
  rw [List.length_append, List.length_append, List.length_map, List.length_map, List.length_map,
    hcount, hcount, ← List.countP_eq_length_filter]

theorem isTimer_of_mem_schedulings {o : Obligation} (h : o ∈ d.schedulings t) :
    o.isTimer = false := by
  unfold schedulings at h
  rw [List.mem_append, List.mem_append, List.mem_map, List.mem_map, List.mem_map] at h
  rcases h with (⟨_, _, rfl⟩ | ⟨_, _, rfl⟩) | ⟨_, _, rfl⟩ <;> rfl

/-- The single obligation of a waiting task. -/
theorem obligations_of_waiting {task : Task} (h : TaskInv t (d.slot t) task)
    (hw : task.status.isWaiting = true) : ∃ o, d.obligations t = [o] ∧ o.isTimer = false := by
  obtain ⟨htok, hlive⟩ := h.waiting hw
  have hlen : (d.schedulings t).length = 1 := by rw [length_schedulings, htok]
  obtain ⟨o, ho⟩ := List.length_eq_one_iff.mp hlen
  refine ⟨o, ?_, isTimer_of_mem_schedulings (d := d) (t := t) ?_⟩
  · have hnil : d.live.filter (·.taskId = t) = [] := hlive
    unfold obligations
    rw [ho, hnil]
    rfl
  · rw [ho]
    exact List.mem_singleton_self o

/-- The single obligation of a task in flight. -/
theorem obligations_of_inFlight {task : Task} (h : TaskInv t (d.slot t) task)
    (hf : task.status.isInFlight = true) :
    ∃ timer, d.obligations t = [.timeoutTimer timer] ∧ d.timers.get t = some timer ∧
      (d.started.filter (·.taskId = t)).getLast? = some timer := by
  obtain ⟨htok, timer, htimed⟩ := h.inFlight hf
  have hnil : d.schedulings t = [] := by
    rw [← List.length_eq_zero_iff, length_schedulings, htok]
  refine ⟨timer, ?_, htimed.registered, htimed.latest⟩
  have hlive : d.live.filter (·.taskId = t) = [timer] := htimed.live
  unfold obligations
  rw [hnil, hlive]
  rfl

/-! ## §2. The main result. -/

/-- **No task is lost and no task is scheduled twice.**  In every reachable state and for
every stored task: the status is neither CREATED nor TIMEOUT; a QUEUED or RETRYING task has
exactly one obligation, and it is no timer; a DISPATCHED or PROCESSING task has exactly one
obligation, the live timer of its latest dispatch, and `_timers` holds it. -/
theorem obligations_of_reachable (h : Reachable (step cfg) init d) {task : Task}
    (hg : d.store.get t = some task) :
    task.status ≠ .created ∧ task.status ≠ .timeout ∧
      (task.status = .queued ∨ task.status = .retrying →
        ∃ o, d.obligations t = [o] ∧ o.isTimer = false) ∧
      (task.status = .dispatched ∨ task.status = .processing →
        ∃ timer, d.obligations t = [.timeoutTimer timer] ∧ d.timers.get t = some timer ∧
          (d.started.filter (·.taskId = t)).getLast? = some timer) := by
  have hinv := taskInv_of_reachable h hg
  refine ⟨?_, ?_, ?_, ?_⟩
  · intro hs
    have := hinv.status
    rw [hs] at this
    exact absurd this (by decide)
  · intro hs
    have := hinv.status
    rw [hs] at this
    exact absurd this (by decide)
  · intro hs
    refine obligations_of_waiting hinv ?_
    rcases hs with hs | hs <;> rw [hs] <;> rfl
  · intro hs
    refine obligations_of_inFlight hinv ?_
    rcases hs with hs | hs <;> rw [hs] <;> rfl

/-! ## §3. Runs. -/

/-- Posting into an empty queue and dequeuing starts a run for the new task. -/
theorem run_post_dequeue (cfg : Config) {request : Envelope PostTaskPayload}
    (hv : Valid request.payload) (hq : d.queue = []) :
    ∃ b, run (step cfg) d [.postTask request 0, .dequeue] = some b ∧
      b.taskIdCounter = d.taskIdCounter + 1 ∧ b.queue = [] ∧
      b.store.get (str ((d.taskIdCounter + 1 : Nat) : Int))
        = some (Task.posted (str ((d.taskIdCounter + 1 : Nat) : Int)) request.payload 0) ∧
      DispatchRun.mk (str ((d.taskIdCounter + 1 : Nat) : Int)) .lookupWorker ∈ b.runs := by
  refine ⟨(d.postTask request 0).1.dequeue, rfl, ?_⟩
  rw [postTask_of_valid hv]
  generalize str ((d.taskIdCounter + 1 : Nat) : Int) = t
  have hget : (d.store.put (Task.posted t request.payload 0)).get t
      = some (Task.posted t request.payload 0) := by
    rw [Keyed.get_put]
    exact if_pos rfl
  have hw : (Task.posted t request.payload 0).status.isWaiting = true := rfl
  unfold dequeue enqueue
  simp only [hq, List.nil_append, hget, hw, if_true]
  exact ⟨rfl, rfl, hget, List.mem_append_right _ (List.mem_singleton_self _)⟩

/-- A PostTask request. -/
def sampleRequest : Envelope PostTaskPayload := { payload := ⟨"reverse", "abc"⟩ }

theorem valid_sampleRequest : Valid sampleRequest.payload := by decide

/-- A worker the naming service knows. -/
def sampleWorker : WorkerInfo := ⟨"w1", "localhost", 50061, 0⟩

/-- Post a task and dispatch it. -/
def sampleDispatch : List Event :=
  [.postTask sampleRequest 0, .dequeue, .lookupReturns "1" [sampleWorker] 1]

/-- The id of the task of `sampleDispatch`, on the wire. -/
def sampleTaskId : Int32Field := ⟨1, by decide, by decide⟩

/-- A result for the task of `sampleDispatch`. -/
def sampleResult : Envelope ResultPayload :=
  { payload := ⟨sampleTaskId, "w1", "COMPLETED", "cba", ""⟩ }

/-- The dispatched task has its timer and nothing else. -/
theorem obligations_sampleDispatch :
    ∃ d task, run (step ⟨3⟩) init sampleDispatch = some d ∧ d.store.get "1" = some task ∧
      (task.status ≠ .created ∧ task.status ≠ .timeout ∧
        (task.status = .queued ∨ task.status = .retrying →
          ∃ o, d.obligations "1" = [o] ∧ o.isTimer = false) ∧
        (task.status = .dispatched ∨ task.status = .processing →
          ∃ timer, d.obligations "1" = [.timeoutTimer timer] ∧ d.timers.get "1" = some timer ∧
            (d.started.filter (·.taskId = "1")).getLast? = some timer)) := by
  refine ⟨_, _, rfl, rfl, ?_⟩
  exact @obligations_of_reachable ⟨3⟩ _ "1" ⟨sampleDispatch, rfl⟩ _ rfl

end Dispatcher

end TaskGrid
