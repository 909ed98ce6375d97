/-
  TaskGrid.Dispatcher.State — the dispatcher process between two atomic steps.

  The fields are those of `DispatcherServicer` and `DispatchLoop`: the task-id
  counter, the store, the queue, the round-robin selector and the `_timers`
  dict.  The threads become data: a `_dispatch` run is a task with the place
  it is blocked at, a started `threading.Timer` that has neither fired nor
  been cancelled is a member of `live`, and a pending delayed re-enqueue is a
  member of `delayed`.

  `PostTask` creates one `Task` object for each id and every later reference
  to it comes from the store, so a reference to a task is its id, and a
  handler that mutates the object it holds changes the stored record.

  `started`, `fired` and `sent` are history: no handler reads them (the
  length of `started` names the next timer).
-/
import TaskGrid.Dispatcher.StateMachine
import TaskGrid.Proto.Messages

namespace TaskGrid

open TaskGrid.Lib

/-! ## §1. Worker selection. -/

/-- `WorkerInfo`: what the naming service says about a worker. -/
structure WorkerInfo where
  workerId : String
  address : String
  port : Int
  currentLoad : Int
  deriving DecidableEq, Repr

/-- `RoundRobinSelector`: one counter for each task type. -/
structure RoundRobinSelector where
  counters : String → Nat

/-- `RoundRobinSelector()` -/
def RoundRobinSelector.init : RoundRobinSelector := ⟨fun _ => 0⟩

/-- `RoundRobinSelector.select` -/
def RoundRobinSelector.select (s : RoundRobinSelector) (taskType : String)
    (workers : List WorkerInfo) : Option WorkerInfo × RoundRobinSelector :=
  match workers with
  | [] => (none, s)
  | w :: ws =>
      let idx : Fin (ws.length + 1) := Fin.ofNat (ws.length + 1) (s.counters taskType)
      (some ((w :: ws).get idx),
        ⟨fun t => if t = taskType then s.counters t + 1 else s.counters t⟩)

/-- The selected worker is one of the candidates. -/
theorem RoundRobinSelector.mem_of_select {s : RoundRobinSelector} {taskType : String}
    {workers : List WorkerInfo} {w : WorkerInfo} (h : (s.select taskType workers).1 = some w) :
    w ∈ workers := by
  cases workers with
  | nil => cases h
  | cons v vs =>
      have hw := Option.some.inj h
      rw [← hw]
      exact List.get_mem _ _

/-- There is a selected worker unless there is no candidate. -/
theorem RoundRobinSelector.select_eq_none {s : RoundRobinSelector} {taskType : String}
    {workers : List WorkerInfo} (h : (s.select taskType workers).1 = none) : workers = [] := by
  cases workers with
  | nil => rfl
  | cons v vs => cases h

/-! ## §2. Timers and runs. -/

/-- A `threading.Timer` started by `_start_timeout_timer`.  `tid` is the identity
of the object; each dispatch starts one, so it also names the attempt. -/
structure Timer where
  tid : Nat
  taskId : String
  deriving DecidableEq, Repr

/-- Where a `_dispatch` run is blocked. -/
inductive DispatchPoint where
  /-- Submitted to the executor, or waiting for `lookup_worker`. -/
  | lookupWorker
  /-- In `time.sleep(_NO_WORKER_RETRY_SECS)`. -/
  | noWorkerSleep
  /-- Waiting for `dispatch_task`.  The code keeps no record of the attempt the
  call belongs to; the timer started before the call stands here for it. -/
  | dispatchTask (worker : WorkerInfo) (timer : Timer)
  deriving DecidableEq, Repr

/-- A run of `_dispatch`. -/
structure DispatchRun where
  taskId : String
  point : DispatchPoint
  deriving DecidableEq, Repr

/-- The run has not reached its transition to DISPATCHED. -/
def DispatchRun.isPending (r : DispatchRun) : Bool :=
  match r.point with
  | .lookupWorker | .noWorkerSleep => true
  | .dispatchTask _ _ => false

/-- An ExecuteTask request and the worker it went to. -/
structure ExecuteCall where
  worker : WorkerInfo
  request : Envelope TaskPayload
  deriving DecidableEq

/-- The task an ExecuteTask request is for. -/
def ExecuteCall.taskId (c : ExecuteCall) : String := str c.request.payload.taskId.val

/-! ## §3. The dispatcher. -/

/-- The parameter of `DispatchLoop` the steps depend on.  The timeout and the two
delays only decide when a timer fires, which the labels of the steps decide. -/
structure Config where
  maxRetries : Int

/-- The state of the dispatcher. -/
structure Dispatcher where
  taskIdCounter : Nat
  store : TaskStore
  queue : List String
  selector : RoundRobinSelector
  runs : List DispatchRun
  timers : Keyed Timer.taskId
  live : List Timer
  delayed : List String
  started : List Timer
  fired : List Timer
  sent : List ExecuteCall

namespace Dispatcher

/-- The dispatcher after `serve()` has built it. -/
def init : Dispatcher where
  taskIdCounter := 0
  store := .empty
  queue := []
  selector := .init
  runs := []
  timers := .empty
  live := []
  delayed := []
  started := []
  fired := []
  sent := []

/-- `self._store.update(task)`, or the effect on the store of mutating the object it
holds.  A missing key is a KeyError in the code, so nothing is written. -/
def update (d : Dispatcher) (task : Task) : Dispatcher :=
  { d with store := d.store.update task }

/-- `TaskQueue.enqueue` -/
def enqueue (d : Dispatcher) (taskId : String) : Dispatcher :=
  { d with queue := d.queue ++ [taskId] }

/-- A `_dispatch` run blocks at a point. -/
def block (d : Dispatcher) (run : DispatchRun) : Dispatcher :=
  { d with runs := d.runs ++ [run] }

/-- A blocked `_dispatch` run resumes. -/
def resume (d : Dispatcher) (run : DispatchRun) : Dispatcher :=
  { d with runs := d.runs.erase run }

/-- `_start_timeout_timer`: register a new timer under the task id and start it. -/
def startTimeoutTimer (d : Dispatcher) (taskId : String) : Dispatcher × Timer :=
  let timer : Timer := ⟨d.started.length, taskId⟩
  ({ d with
      timers := d.timers.put timer
      live := d.live ++ [timer]
      started := d.started ++ [timer] }, timer)

/-- Start the `delay_timer` of a retry. -/
def startDelayTimer (d : Dispatcher) (taskId : String) : Dispatcher :=
  { d with delayed := d.delayed ++ [taskId] }

/-- `_cancel_timeout`: pop the timer registered under the task id and cancel it.
Cancelling a timer that has fired has no effect. -/
def cancelTimeout (d : Dispatcher) (taskId : String) : Dispatcher :=
  match d.timers.get taskId with
  | none => d
  | some timer =>
      { d with timers := d.timers.erase taskId, live := d.live.erase timer }

end Dispatcher

end TaskGrid
