/-
  TaskGrid.Dispatcher.DispatchLoop — dispatch_loop.py and worker_client.py.

  One definition for each atomic step of the loop: an iteration of `run`, the
  three segments of `_dispatch` between its blocking calls, the firing of a
  timeout timer and the firing of a delayed re-enqueue.  A segment of
  `_dispatch` needs a run that is blocked at the call it returns from;
  without one the step is not enabled.
-/
import TaskGrid.Dispatcher.State

namespace TaskGrid

open TaskGrid.Lib

namespace Dispatcher

/-! ## §1. The main loop. -/

/-- One iteration of `run`: dequeue, read the fresh record, and hand it to the
executor when it still waits to be dispatched. -/
def dequeue (d : Dispatcher) : Dispatcher :=
  match d.queue with
  | [] => d
  | taskId :: rest =>
      let d : Dispatcher := { d with queue := rest }
      match d.store.get taskId with
      | none => d
      | some fresh =>
          -- a stale entry of a task that has moved on is skipped
          if fresh.status.isWaiting then d.block ⟨taskId, .lookupWorker⟩ else d

/-! ## §2. `_dispatch`. -/

/-- The ExecuteTask request `dispatch_task` builds.  `int(task_id)` goes into an
int32 field. -/
def executeRequest (task : Task) (now : Int) : Except PyError (Envelope TaskPayload) :=
  match int? task.taskId with
  | none => .error (.valueError ("invalid literal for int() with base 10: " ++ task.taskId))
  | some n =>
      match encodeInt32 n with
      | .error e => .error e
      | .ok taskId => .ok {
          messageType := "EXECUTE_TASK"
          requestId := task.taskId
          timestamp := now
          sender := "dispatcher"
          payload := {
            taskId := taskId
            taskType := task.taskType
            taskPayload := task.payload
            taskStatus := "DISPATCHED" } }

/-- `dispatch_task` up to the blocking call.  A ValueError from building the request
ends the executor thread before anything is sent. -/
def dispatchTask (d : Dispatcher) (task : Task) (worker : WorkerInfo) (timer : Timer)
    (now : Int) : Dispatcher :=
  match executeRequest task now with
  | .error _ => d
  | .ok request =>
      let d : Dispatcher := { d with sent := d.sent ++ [⟨worker, request⟩] }
      d.block ⟨task.taskId, .dispatchTask worker timer⟩

/-- `_dispatch` from the return of `lookup_worker` to its next blocking call. -/
def lookupReturns (d : Dispatcher) (taskId : String) (workers : List WorkerInfo)
    (now : Int) : Option Dispatcher :=
  if DispatchRun.mk taskId .lookupWorker ∈ d.runs then
    match d.store.get taskId with
    | none => none
    | some task =>
        let (worker, selector) := d.selector.select task.taskType workers
        let d : Dispatcher := { d.resume ⟨taskId, .lookupWorker⟩ with selector := selector }
        match worker with
        | none => some (d.block ⟨taskId, .noWorkerSleep⟩)
        | some worker =>
            match transition task .dispatched now with
            -- the error is logged and the run ends
            | .error _ => some d
            | .ok task =>
                -- the timer starts before the request is built and sent
                let task := { task with assignedWorker := worker.workerId }
                let (d, timer) := (d.update task).startTimeoutTimer taskId
                some (d.dispatchTask task worker timer now)
  else none

/-- `_dispatch` after the sleep of the no-worker branch: the task goes back into
the queue. -/
def sleepEnds (d : Dispatcher) (taskId : String) : Option Dispatcher :=
  if DispatchRun.mk taskId .noWorkerSleep ∈ d.runs then
    some ((d.resume ⟨taskId, .noWorkerSleep⟩).enqueue taskId)
  else none

/-- What `_dispatch` does with the value `dispatch_task` returns. -/
def handleReply (d : Dispatcher) (task : Task) (success : Option Bool) (now : Int) :
    Dispatcher :=
  match success with
  | some true =>
      match transition task .processing now with
      | .ok task => d.update task
      | .error _ => d
  | some false =>
      -- the timer is cancelled before the transition is known to be allowed
      let d := d.cancelTimeout task.taskId
      match transition task .failed now with
      | .ok task => d.update task
      | .error _ => d
  -- a gRPC error: the timer goes on and decides
  | none => d

/-- `_dispatch` after `dispatch_task` has returned. -/
def reply (d : Dispatcher) (taskId : String) (worker : WorkerInfo) (timer : Timer)
    (success : Option Bool) (now : Int) : Option Dispatcher :=
  if DispatchRun.mk taskId (.dispatchTask worker timer) ∈ d.runs then
    match d.store.get taskId with
    | none => none
    | some task =>
        some ((d.resume ⟨taskId, .dispatchTask worker timer⟩).handleReply task success now)
  else none

/-! ## §3. Timers. -/

/-- `_on_timeout` of a timer of the task. -/
def onTimeout (d : Dispatcher) (cfg : Config) (taskId : String) (now : Int) : Dispatcher :=
  match d.store.get taskId with
  | none => d
  | some fresh =>
      if isTerminal fresh then d
      else
        match transition fresh .timeout now with
        | .error _ => d
        | .ok fresh =>
            match transition fresh .retrying now with
            -- the first transition has already changed the stored object
            | .error _ => d.update fresh
            | .ok fresh =>
                let fresh := { fresh with retryCount := fresh.retryCount + 1 }
                let d := d.update fresh
                if fresh.retryCount ≥ cfg.maxRetries then
                  match transition fresh .failed now with
                  | .ok fresh => d.update fresh
                  | .error _ => d
                else d.startDelayTimer taskId

/-- A live timeout timer fires. -/
def timerFires (d : Dispatcher) (cfg : Config) (timer : Timer) (now : Int) :
    Option Dispatcher :=
  if timer ∈ d.live then
    -- the entry in `_timers` stays: only `_cancel_timeout` and a new timer touch it
    let d : Dispatcher := { d with live := d.live.erase timer, fired := d.fired ++ [timer] }
    some (d.onTimeout cfg timer.taskId now)
  else none

/-- `_reenqueue_after_delay`: a pending delayed re-enqueue fires. -/
def reenqueueAfterDelay (d : Dispatcher) (taskId : String) : Option Dispatcher :=
  if taskId ∈ d.delayed then
    let d : Dispatcher := { d with delayed := d.delayed.erase taskId }
    some (d.enqueue taskId)
  else none

end Dispatcher

end TaskGrid
