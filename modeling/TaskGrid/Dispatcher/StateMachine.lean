/-
  TaskGrid.Dispatcher.StateMachine — task.py, task_store.py, state_machine.py.

  The task record, the store, and the transition table that guards every
  status change.  `transition` reads the clock, so it takes the reading as
  its argument `now`.

  Main results: `transition_eq_ok_iff` (which transitions succeed and with
  what record), the `enter_*` lemmas (a transition touches the status and the
  time stamps and nothing else), and the `*_mem_validTransitions` lemmas (which
  transitions the table allows, by three groups of states: waiting, in flight,
  terminal).
-/
import TaskGrid.Lib.Keyed
import TaskGrid.Common.Protocol

namespace TaskGrid

open TaskGrid.Lib

/-! ## §1. The task record. -/

/-- `MAX_TYPE_LEN` -/
def maxTypeLen : Nat := 32

/-- `MAX_PAYLOAD_LEN` -/
def maxPayloadLen : Nat := 1024

/-- `MAX_RESULT_LEN`.  No code reads it. -/
def maxResultLen : Nat := 1024

/-- `MAX_WORKER_LEN`.  No code reads it. -/
def maxWorkerLen : Nat := 64

/-- The dataclass `Task` with its defaults. -/
structure Task where
  taskId : String
  taskType : String
  payload : String
  result : String := ""
  status : TaskState := .created
  timestampCreated : Int
  timestampDispatched : Int := 0
  timestampCompleted : Int := 0
  retryCount : Int := 0
  assignedWorker : String := ""
  deriving DecidableEq, Repr

/-- `TaskStore`: the dict from task id to task. -/
abbrev TaskStore := Keyed Task.taskId

/-! ## §2. The transition table. -/

/-- `VALID_TRANSITIONS` -/
def validTransitions : TaskState → List TaskState
  | .created    => [.queued]
  | .queued     => [.dispatched, .failed]
  | .dispatched => [.processing, .timeout, .failed]
  | .processing => [.completed, .failed, .timeout]
  | .timeout    => [.retrying]
  | .retrying   => [.dispatched, .failed]
  | .completed  => []
  | .failed     => []

/-- `InvalidTransitionError`, raised for the task by a transition out of `status`. -/
structure InvalidTransitionError where
  taskId : String
  status : TaskState
  newState : TaskState
  deriving DecidableEq, Repr

/-- How Python 3.11 prints a member of the enum in an f-string. -/
def TaskState.format (s : TaskState) : String := "TaskState." ++ s.value

/-- `[s.value for s in allowed] or 'keine (terminal)'`, printed.  Python fixes no
order for the set; here it is the order of the table. -/
def formatAllowed : List TaskState → String
  | [] => "keine (terminal)"
  | s => "[" ++ ", ".intercalate (s.map fun t => "'" ++ t.value ++ "'") ++ "]"

/-- `str(e)` of the exception. -/
def InvalidTransitionError.message (e : InvalidTransitionError) : String :=
  "Task " ++ e.taskId ++ ": Übergang " ++ e.status.format ++ " → " ++ e.newState.format
    ++ " nicht erlaubt. Erlaubt: " ++ formatAllowed (validTransitions e.status)

/-- The record after an allowed transition: the status, and the time stamp that
belongs to the new status. -/
def Task.enter (task : Task) (newState : TaskState) (now : Int) : Task :=
  match newState with
  | .dispatched => { task with status := newState, timestampDispatched := now }
  | .completed | .failed => { task with status := newState, timestampCompleted := now }
  | _ => { task with status := newState }

/-- `transition`: apply a transition or raise, leaving the record as it was. -/
def transition (task : Task) (newState : TaskState) (now : Int) :
    Except InvalidTransitionError Task :=
  if newState ∈ validTransitions task.status then .ok (task.enter newState now)
  else .error ⟨task.taskId, task.status, newState⟩

/-- `is_terminal` -/
def isTerminal (task : Task) : Bool :=
  task.status = .completed || task.status = .failed

/-- **A transition succeeds exactly when the table allows it.** -/
theorem transition_eq_ok_iff {task task' : Task} {newState : TaskState} {now : Int} :
    transition task newState now = .ok task'
      ↔ newState ∈ validTransitions task.status ∧ task' = task.enter newState now := by
  unfold transition
  split
  · rename_i h
    simp [h, eq_comm]
  · rename_i h
    simp [h]

theorem transition_of_mem {task : Task} {newState : TaskState} {now : Int}
    (h : newState ∈ validTransitions task.status) :
    transition task newState now = .ok (task.enter newState now) :=
  transition_eq_ok_iff.mpr ⟨h, rfl⟩

theorem transition_of_not_mem {task : Task} {newState : TaskState} {now : Int}
    (h : newState ∉ validTransitions task.status) :
    transition task newState now = .error ⟨task.taskId, task.status, newState⟩ := by
  unfold transition
  rw [if_neg h]

/-! ## §3. What a transition leaves alone. -/

@[simp] theorem enter_status (task : Task) (s : TaskState) (now : Int) :
    (task.enter s now).status = s := by
  cases s <;> rfl

@[simp] theorem enter_taskId (task : Task) (s : TaskState) (now : Int) :
    (task.enter s now).taskId = task.taskId := by
  cases s <;> rfl

@[simp] theorem enter_taskType (task : Task) (s : TaskState) (now : Int) :
    (task.enter s now).taskType = task.taskType := by
  cases s <;> rfl

@[simp] theorem enter_payload (task : Task) (s : TaskState) (now : Int) :
    (task.enter s now).payload = task.payload := by
  cases s <;> rfl

@[simp] theorem enter_result (task : Task) (s : TaskState) (now : Int) :
    (task.enter s now).result = task.result := by
  cases s <;> rfl

@[simp] theorem enter_assignedWorker (task : Task) (s : TaskState) (now : Int) :
    (task.enter s now).assignedWorker = task.assignedWorker := by
  cases s <;> rfl

@[simp] theorem enter_retryCount (task : Task) (s : TaskState) (now : Int) :
    (task.enter s now).retryCount = task.retryCount := by
  cases s <;> rfl

/-! ## §4. The three groups of states. -/

/-- The states a task waits to be dispatched in: the ones `run` lets through. -/
def TaskState.isWaiting (s : TaskState) : Bool := s = .queued || s = .retrying

/-- The states between a dispatch and its outcome. -/
def TaskState.isInFlight (s : TaskState) : Bool := s = .dispatched || s = .processing

/-- The states without a way out. -/
def TaskState.isTerminal (s : TaskState) : Bool := s = .completed || s = .failed

theorem isTerminal_eq (task : Task) : isTerminal task = task.status.isTerminal := rfl

/-- Only a waiting task can be dispatched. -/
theorem dispatched_mem_validTransitions {s : TaskState} :
    .dispatched ∈ validTransitions s ↔ s.isWaiting = true := by
  cases s <;> decide

/-- Only a task in flight can time out. -/
theorem timeout_mem_validTransitions {s : TaskState} :
    .timeout ∈ validTransitions s ↔ s.isInFlight = true := by
  cases s <;> decide

/-- A waiting task or one in flight can fail, and no other. -/
theorem failed_mem_validTransitions {s : TaskState} :
    .failed ∈ validTransitions s ↔ s.isWaiting = true ∨ s.isInFlight = true := by
  cases s <;> decide

/-- Only a dispatched task can start processing. -/
theorem processing_mem_validTransitions {s : TaskState} :
    .processing ∈ validTransitions s ↔ s = .dispatched := by
  cases s <;> decide

/-- Only a processing task can complete. -/
theorem completed_mem_validTransitions {s : TaskState} :
    .completed ∈ validTransitions s ↔ s = .processing := by
  cases s <;> decide

/-- A terminal status has no way out. -/
theorem validTransitions_terminal {s : TaskState} :
    validTransitions s = [] ↔ s.isTerminal = true := by
  cases s <;> decide

theorem not_inFlight_of_waiting {s : TaskState} (h : s.isWaiting = true) :
    s.isInFlight = false ∧ s.isTerminal = false := by
  cases s <;> simp_all [TaskState.isWaiting, TaskState.isInFlight, TaskState.isTerminal]

theorem not_waiting_of_inFlight {s : TaskState} (h : s.isInFlight = true) :
    s.isWaiting = false ∧ s.isTerminal = false := by
  cases s <;> simp_all [TaskState.isWaiting, TaskState.isInFlight, TaskState.isTerminal]

theorem not_active_of_terminal {s : TaskState} (h : s.isTerminal = true) :
    s.isWaiting = false ∧ s.isInFlight = false := by
  cases s <;> simp_all [TaskState.isWaiting, TaskState.isInFlight, TaskState.isTerminal]

end TaskGrid
