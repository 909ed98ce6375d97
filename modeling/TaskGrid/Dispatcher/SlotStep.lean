/-
  TaskGrid.Dispatcher.SlotStep — what one step of the dispatcher can do to one task.

  `SlotStep cfg t e s s'` lists the ways a step labelled `e` can change the
  slot of the task `t`.  `TaskGrid.Dispatcher.Inversion` proves that every step
  of the dispatcher does one of them to every slot; all invariants about
  single tasks are proved from this relation, by one case for each
  constructor.
-/
import TaskGrid.Dispatcher.Slot

namespace TaskGrid

open TaskGrid.Lib

/-! ## §1. The records the handlers write. -/

namespace Task

/-- The record PostTask stores. -/
def posted (t : String) (payload : PostTaskPayload) (now : Int) : Task where
  taskId := t
  taskType := payload.taskType
  payload := payload.taskPayload
  status := .queued
  timestampCreated := now

/-- The record after `_dispatch` has chosen a worker. -/
def dispatchedTo (task : Task) (worker : WorkerInfo) (now : Int) : Task :=
  { task.enter .dispatched now with assignedWorker := worker.workerId }

/-- The record after a timeout: through TIMEOUT to RETRYING, one more retry. -/
def timedOut (task : Task) (now : Int) : Task :=
  { (task.enter .timeout now).enter .retrying now with
    retryCount := ((task.enter .timeout now).enter .retrying now).retryCount + 1 }

/-- The record between the two transitions of ReturnResult. -/
def processed (task : Task) (now : Int) : Task :=
  if task.status = .dispatched then task.enter .processing now else task

/-- The record after an accepted ReturnResult. -/
def reported (task : Task) (report : ResultPayload) (now : Int) : Task :=
  { (task.processed now).enter (Dispatcher.reportedState report.status) now with
    result := Dispatcher.reportedText report }

@[simp] theorem processed_taskId (task : Task) (now : Int) :
    (task.processed now).taskId = task.taskId := by
  unfold processed; split <;> rfl

@[simp] theorem processed_taskType (task : Task) (now : Int) :
    (task.processed now).taskType = task.taskType := by
  unfold processed; split <;> rfl

@[simp] theorem processed_payload (task : Task) (now : Int) :
    (task.processed now).payload = task.payload := by
  unfold processed; split <;> rfl

@[simp] theorem processed_assignedWorker (task : Task) (now : Int) :
    (task.processed now).assignedWorker = task.assignedWorker := by
  unfold processed; split <;> rfl

@[simp] theorem processed_retryCount (task : Task) (now : Int) :
    (task.processed now).retryCount = task.retryCount := by
  unfold processed; split <;> rfl

theorem processed_status_of_inFlight {task : Task} (now : Int)
    (h : task.status.isInFlight = true) : (task.processed now).status = .processing := by
  unfold processed
  split
  · rfl
  · rename_i hd
    simpa [TaskState.isInFlight, hd] using h

/-- Outside the two states in flight ReturnResult skips its intermediate transition. -/
theorem processed_of_not_inFlight {task : Task} (now : Int)
    (h : ¬ task.status.isInFlight = true) : task.processed now = task := by
  unfold processed
  rw [if_neg]
  intro hd
  exact h (by rw [hd]; rfl)

theorem reported_taskId (task : Task) (report : ResultPayload) (now : Int) :
    (task.reported report now).taskId = task.taskId := by
  show ((task.processed now).enter _ now).taskId = task.taskId
  rw [enter_taskId, processed_taskId]

theorem reported_assignedWorker (task : Task) (report : ResultPayload) (now : Int) :
    (task.reported report now).assignedWorker = task.assignedWorker := by
  show ((task.processed now).enter _ now).assignedWorker = task.assignedWorker
  rw [enter_assignedWorker, processed_assignedWorker]

theorem reported_retryCount (task : Task) (report : ResultPayload) (now : Int) :
    (task.reported report now).retryCount = task.retryCount := by
  show ((task.processed now).enter _ now).retryCount = task.retryCount
  rw [enter_retryCount, processed_retryCount]

theorem reported_result (task : Task) (report : ResultPayload) (now : Int) :
    (task.reported report now).result = Dispatcher.reportedText report := rfl

theorem reported_status (task : Task) (report : ResultPayload) (now : Int) :
    (task.reported report now).status = Dispatcher.reportedState report.status := by
  show ((task.processed now).enter _ now).status = _
  rw [enter_status]

/-- Both reports end the task. -/
theorem isTerminal_reported (task : Task) (report : ResultPayload) (now : Int) :
    (task.reported report now).status.isTerminal = true := by
  rw [reported_status]
  unfold Dispatcher.reportedState
  split <;> rfl

end Task

/-- A report the record accepts: any report in flight, and in a waiting state a failure. -/
def Accepts (task : Task) (report : ResultPayload) : Prop :=
  task.status.isInFlight = true ∨ task.status.isWaiting = true ∧ report.status ≠ "COMPLETED"

/-- The calls `dispatch_task` makes: one, or none when the id is no int32. -/
def executeCalls (task : Task) (worker : WorkerInfo) (now : Int) : List ExecuteCall :=
  match Dispatcher.executeRequest task now with
  | .ok request => [⟨worker, request⟩]
  | .error _ => []

/-- The request carries the id of the task. -/
theorem taskId_executeRequest {task : Task} {n now : Int} {request : Envelope TaskPayload}
    (hn : task.taskId = str n) (h : Dispatcher.executeRequest task now = .ok request) :
    request.payload.taskId.val = n := by
  unfold Dispatcher.executeRequest at h
  rw [hn, int?_str] at h
  cases he : encodeInt32 n with
  | error e => simp [he] at h
  | ok m =>
      simp only [he, Except.ok.injEq] at h
      rw [← h]
      exact val_of_encodeInt32 he

/-! ## §2. The relation. -/

/-- The ways a step can change the slot of the task `t`. -/
inductive SlotStep (cfg : Config) (t : String) : Event → Slot → Slot → Prop where
  /-- Nothing changes (steps about other tasks, obligations that change their kind). -/
  | idle (e : Event) (s : Slot) : SlotStep cfg t e s s
  /-- PostTask stores a new record and enqueues it. -/
  | post (request : Envelope PostTaskPayload) (now : Int) :
      SlotStep cfg t (.postTask request now) .empty
        { Slot.empty with task := some (Task.posted t request.payload now), tokens := 1 }
  /-- An obligation of a task that no longer waits is given up. -/
  | drop {e : Event} {s : Slot} (htok : 0 < s.tokens)
      (hw : ∀ task, s.task = some task → task.status.isWaiting = false) :
      SlotStep cfg t e s { s with tokens := s.tokens - 1 }
  /-- `_dispatch` reaches its transition, starts a timer and sends the request. -/
  | dispatch {workers : List WorkerInfo} {now : Int} {s : Slot} {task : Task}
      {worker : WorkerInfo} {timer : Timer} (htask : s.task = some task)
      (hmem : worker ∈ workers) (htok : 0 < s.tokens) (hw : task.status.isWaiting = true)
      (ht : timer.taskId = t) :
      SlotStep cfg t (.lookupReturns t workers now) s
        { s with
          task := some (task.dispatchedTo worker now)
          tokens := s.tokens - 1
          live := s.live ++ [timer]
          registered := some timer
          started := s.started ++ [timer]
          sent := s.sent ++ executeCalls (task.dispatchedTo worker now) worker now }
  /-- An acceptance finds the task DISPATCHED. -/
  | accept {worker : WorkerInfo} {timer : Timer} {now : Int} {s : Slot} {task : Task}
      (htask : s.task = some task) (hd : task.status = .dispatched) :
      SlotStep cfg t (.reply t worker timer (some true) now) s
        { s with task := some (task.enter .processing now) }
  /-- A rejection finds the task waiting or in flight. -/
  | reject {worker : WorkerInfo} {timer : Timer} {now : Int} {s : Slot} {task : Task}
      (htask : s.task = some task)
      (hs : task.status.isWaiting = true ∨ task.status.isInFlight = true) :
      SlotStep cfg t (.reply t worker timer (some false) now) s
        { s.cancel with task := some (task.enter .failed now) }
  /-- The timeout is cancelled although the transition is refused afterwards. -/
  | cancel {e : Event} {s : Slot} {task : Task} (htask : s.task = some task)
      (hf : task.status.isInFlight = false) : SlotStep cfg t e s s.cancel
  /-- ReturnResult makes the task terminal. -/
  | report {request : Envelope ResultPayload} {now : Int} {s : Slot} {task : Task}
      (hid : str request.payload.taskId.val = t) (htask : s.task = some task)
      (ha : Accepts task request.payload) :
      SlotStep cfg t (.returnResult request now) s
        { s.cancel with task := some (task.reported request.payload now) }
  /-- A timeout fires with retries left. -/
  | retry {timer : Timer} {now : Int} {s : Slot} {task : Task} (ht : timer.taskId = t)
      (hlive : timer ∈ s.live) (htask : s.task = some task)
      (hf : task.status.isInFlight = true) (hr : ¬ task.retryCount + 1 ≥ cfg.maxRetries) :
      SlotStep cfg t (.timerFires timer now) s
        { s with
          task := some (task.timedOut now)
          tokens := s.tokens + 1
          live := s.live.erase timer
          fired := s.fired ++ [timer] }
  /-- A timeout fires with the retries used up. -/
  | exhaust {timer : Timer} {now : Int} {s : Slot} {task : Task} (ht : timer.taskId = t)
      (hlive : timer ∈ s.live) (htask : s.task = some task)
      (hf : task.status.isInFlight = true) (hr : task.retryCount + 1 ≥ cfg.maxRetries) :
      SlotStep cfg t (.timerFires timer now) s
        { s with
          task := some ((task.timedOut now).enter .failed now)
          live := s.live.erase timer
          fired := s.fired ++ [timer] }
  /-- A timeout fires and finds the task not in flight. -/
  | lateTimeout {timer : Timer} {now : Int} {s : Slot} (ht : timer.taskId = t)
      (hlive : timer ∈ s.live)
      (hf : ∀ task, s.task = some task → task.status.isInFlight = false) :
      SlotStep cfg t (.timerFires timer now) s
        { s with live := s.live.erase timer, fired := s.fired ++ [timer] }

/-- Either a step is a dispatch, or it starts no timer and sends nothing. -/
theorem slotStep_sent {cfg : Config} {t : String} {e : Event} {s s' : Slot}
    (h : SlotStep cfg t e s s') :
    (s'.sent = s.sent ∧ s'.started = s.started) ∨
      ∃ workers now task worker timer, e = .lookupReturns t workers now ∧ worker ∈ workers ∧
        s.task = some task ∧ task.status.isWaiting = true ∧
        s'.started = s.started ++ [timer] ∧
        s'.sent = s.sent ++ executeCalls (task.dispatchedTo worker now) worker now := by
  cases h with
  | idle => exact .inl ⟨rfl, rfl⟩
  | post => exact .inl ⟨rfl, rfl⟩
  | drop => exact .inl ⟨rfl, rfl⟩
  | dispatch htask hmem htok hw ht =>
      exact .inr ⟨_, _, _, _, _, rfl, hmem, htask, hw, rfl, rfl⟩
  | accept => exact .inl ⟨rfl, rfl⟩
  | reject => exact .inl ⟨Slot.cancel_sent s, Slot.cancel_started s⟩
  | cancel => exact .inl ⟨Slot.cancel_sent s, Slot.cancel_started s⟩
  | report => exact .inl ⟨Slot.cancel_sent s, Slot.cancel_started s⟩
  | retry => exact .inl ⟨rfl, rfl⟩
  | exhaust => exact .inl ⟨rfl, rfl⟩
  | lateTimeout => exact .inl ⟨rfl, rfl⟩

/-- Only PostTask uses an empty slot. -/
theorem SlotStep.of_empty {cfg : Config} {t : String} {e : Event} {s' : Slot}
    (h : SlotStep cfg t e .empty s') (hp : ∀ request now, e ≠ .postTask request now) :
    s' = .empty := by
  cases h with
  | idle => rfl
  | post request now => exact absurd rfl (hp request now)
  | drop htok => exact absurd htok (Nat.not_lt_zero _)
  | dispatch htask => cases htask
  | accept htask => cases htask
  | reject htask => cases htask
  | cancel htask => cases htask
  | report _ htask => cases htask
  | retry _ _ htask => cases htask
  | exhaust _ _ htask => cases htask
  | lateTimeout _ hlive => cases hlive

end TaskGrid
