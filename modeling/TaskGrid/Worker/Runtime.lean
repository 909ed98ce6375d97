/-
  TaskGrid.Worker.Runtime — a worker process between two atomic steps.

  Calls of ExecuteTask run side by side on the threads of the gRPC server, and
  the main thread shuts the process down when a signal arrives.  What they
  share is `is_draining` and `current_load`.  A call reads the flag first and
  counts itself second, so between the two it is admitted and not counted.

  `clock` is a lower bound of what `time.time()` reads next: the clock does
  not run back, and `time.sleep(1)` takes a second or more.

  Main results: `calls_step` (what a step does to the calls) and
  `currentLoad_counts` (the load is the number of calls being worked on).
-/
import TaskGrid.Lib.Transition
import TaskGrid.Worker.TaskHandlers
import Mathlib.Algebra.Order.Ring.Rat

namespace TaskGrid

open TaskGrid.Lib

/-! ## §1. The state. -/

/-- Where a call of ExecuteTask stands. -/
inductive CallPoint where
  /-- It has not read `is_draining`. -/
  | entered
  /-- It has read False and not increased the load. -/
  | admitted
  /-- It has increased the load. -/
  | processing
  /-- It has sent its reports and not decreased the load. -/
  | leaving (response : Option (Envelope TaskResponsePayload))
  deriving DecidableEq

/-- A call of ExecuteTask. -/
structure Call where
  request : Envelope TaskPayload
  point : CallPoint
  deriving DecidableEq

/-- Where the main thread stands. -/
inductive MainPoint where
  /-- In `serve`. -/
  | serving
  /-- In `update_worker_status("DRAINING")`. -/
  | announcing
  /-- Before the condition of the loop in `wait_for_running_tasks`. -/
  | readingLoad (startTime : ℚ)
  /-- Before the comparison with SHUTDOWN_TIMEOUT. -/
  | readingClock (startTime : ℚ)
  /-- In `time.sleep(1)`. -/
  | sleeping (startTime : ℚ)
  /-- `sys.exit(0)` has been called. -/
  | exited
  deriving DecidableEq

/-- `max_workers` of the gRPC server. -/
def serverThreads : Nat := 10

/-- A worker process.  The last two fields are history: what it has sent. -/
structure Runtime where
  isDraining : Bool
  currentLoad : Int
  calls : List Call
  main : MainPoint
  clock : ℚ
  reports : List (Envelope ResultPayload)
  responses : List (Envelope TaskResponsePayload)

/-! ## §2. The steps. -/

/-- The labels of the steps of a worker process. -/
inductive RuntimeEvent where
  /-- A thread of the server takes up a request. -/
  | enter (request : Envelope TaskPayload)
  /-- `if is_draining` -/
  | check (request : Envelope TaskPayload) (now : Int)
  | increaseLoad (request : Envelope TaskPayload)
  /-- The try block, with the outcomes of its ReturnResult calls. -/
  | process (request : Envelope TaskPayload) (first second : CallOutcome) (now : Int)
  /-- The finally block. -/
  | decreaseLoad (request : Envelope TaskPayload)
      (response : Option (Envelope TaskResponsePayload))
  /-- SIGTERM or SIGINT. -/
  | signal
  /-- `update_worker_status` has returned, and `start_time` is read. -/
  | statusUpdated (now : ℚ)
  | readLoad
  | readClock (now : ℚ)
  /-- `time.sleep(1)` has returned. -/
  | wake
  deriving DecidableEq

namespace Runtime

/-- A process that has just started its server. -/
def init : Runtime := ⟨false, 0, [], .serving, 0, [], []⟩

/-- A call goes on from one point to another, or ends. -/
def move (s : Runtime) (c : Call) (next : List Call) : Runtime :=
  { s with calls := s.calls.erase c ++ next }

/-- One atomic step.  The handler of a signal runs in the main thread and never returns, so a
second signal starts the shutdown anew. -/
def step (handlers : Handlers) (w : WorkerConfig) (shutdownTimeout : Int) (s : Runtime) :
    RuntimeEvent → Option Runtime
  | .enter request =>
      if s.calls.length < serverThreads then
        some { s with calls := s.calls ++ [⟨request, .entered⟩] }
      else none
  | .check request now =>
      if Call.mk request .entered ∈ s.calls then
        if s.isDraining then
          let response := (executeTask handlers w true request .returned .returned now).2
          some { s.move ⟨request, .entered⟩ [] with
            responses := s.responses ++ response.toList }
        else some (s.move ⟨request, .entered⟩ [⟨request, .admitted⟩])
      else none
  | .increaseLoad request =>
      if Call.mk request .admitted ∈ s.calls then
        some { s.move ⟨request, .admitted⟩ [⟨request, .processing⟩] with
          currentLoad := s.currentLoad + 1 }
      else none
  | .process request first second now =>
      if Call.mk request .processing ∈ s.calls then
        let (reports, response) := executeTask handlers w false request first second now
        some { s.move ⟨request, .processing⟩ [⟨request, .leaving response⟩] with
          reports := s.reports ++ reports }
      else none
  | .decreaseLoad request response =>
      if Call.mk request (.leaving response) ∈ s.calls then
        some { s.move ⟨request, .leaving response⟩ [] with
          currentLoad := s.currentLoad - 1
          responses := s.responses ++ response.toList }
      else none
  | .signal =>
      if s.main = .exited then none
      else some { s with isDraining := true, main := .announcing }
  | .statusUpdated now =>
      if s.main = .announcing ∧ s.clock ≤ now then
        some { s with main := .readingLoad now, clock := now }
      else none
  | .readLoad =>
      match s.main with
      | .readingLoad startTime =>
          some { s with main := if s.currentLoad > 0 then .readingClock startTime else .exited }
      | _ => none
  | .readClock now =>
      match s.main with
      | .readingClock startTime =>
          if s.clock ≤ now then
            some { s with
              main := if now - startTime > shutdownTimeout then .exited else .sleeping startTime
              clock := now }
          else none
      | _ => none
  | .wake =>
      match s.main with
      | .sleeping startTime => some { s with main := .readingLoad startTime, clock := s.clock + 1 }
      | _ => none

end Runtime

/-! ## §3. What a step does to the calls. -/

/-- The call a step takes on from where it stands. -/
def RuntimeEvent.takes : RuntimeEvent → List Call
  | .check request _ => [⟨request, .entered⟩]
  | .increaseLoad request => [⟨request, .admitted⟩]
  | .process request _ _ _ => [⟨request, .processing⟩]
  | .decreaseLoad request response => [⟨request, .leaving response⟩]
  | _ => []

/-- The call as the step leaves it. -/
def RuntimeEvent.leaves (handlers : Handlers) (w : WorkerConfig) (isDraining : Bool) :
    RuntimeEvent → List Call
  | .enter request => [⟨request, .entered⟩]
  | .check request _ => if isDraining then [] else [⟨request, .admitted⟩]
  | .increaseLoad request => [⟨request, .processing⟩]
  | .process request first second now =>
      [⟨request, .leaving (executeTask handlers w false request first second now).2⟩]
  | _ => []

/-- The call is counted in `current_load`. -/
def CallPoint.isCounted : CallPoint → Bool
  | .entered | .admitted => false
  | .processing | .leaving _ => true

namespace Runtime

variable {handlers : Handlers} {w : WorkerConfig} {shutdownTimeout : Int} {s s' : Runtime}

theorem move_perm {c : Call} (h : c ∈ s.calls) (next : List Call) :
    ((s.move c next).calls ++ [c]).Perm (s.calls ++ next) := by
  calc (s.calls.erase c ++ next) ++ [c]
      = s.calls.erase c ++ (next ++ [c]) := List.append_assoc ..
    _ |>.Perm (s.calls.erase c ++ ([c] ++ next)) := List.perm_append_comm.append_left _
    _ = (s.calls.erase c ++ [c]) ++ next := (List.append_assoc ..).symm
    _ |>.Perm (s.calls ++ next) :=
        (List.perm_append_comm.trans (List.perm_cons_erase h).symm).append_right _

/-- **What a step does to the calls.**  It takes at most one on and leaves at most one behind,
and the load follows the counted ones. -/
theorem calls_step {e : RuntimeEvent} (hs : s.step handlers w shutdownTimeout e = some s') :
    (s'.calls ++ e.takes).Perm (s.calls ++ e.leaves handlers w s.isDraining) ∧
      s'.currentLoad + e.takes.countP (·.point.isCounted)
        = s.currentLoad + (e.leaves handlers w s.isDraining).countP (·.point.isCounted) := by
  cases e with
  | enter request =>
      simp only [step] at hs
      split at hs <;> cases hs
      exact ⟨List.Perm.of_eq (List.append_nil _), rfl⟩
  | check request now =>
      simp only [step] at hs
      split at hs
      case isFalse => cases hs
      rename_i hmem
      split at hs <;> cases hs <;> rename_i hd
      · refine ⟨?_, by rw [RuntimeEvent.leaves, if_pos hd]; rfl⟩
        rw [RuntimeEvent.leaves, if_pos hd]
        exact move_perm hmem []
      · refine ⟨?_, by rw [RuntimeEvent.leaves, if_neg hd]; rfl⟩
        rw [RuntimeEvent.leaves, if_neg hd]
        exact move_perm hmem _
  | increaseLoad request =>
      simp only [step] at hs
      split at hs <;> cases hs
      rename_i hmem
      refine ⟨move_perm hmem _, ?_⟩
      simp [RuntimeEvent.takes, RuntimeEvent.leaves, CallPoint.isCounted]
  | process request first second now =>
      simp only [step] at hs
      split at hs <;> cases hs
      rename_i hmem
      exact ⟨move_perm hmem _, rfl⟩
  | decreaseLoad request response =>
      simp only [step] at hs
      split at hs <;> cases hs
      rename_i hmem
      refine ⟨move_perm hmem [], ?_⟩
      simp [RuntimeEvent.takes, RuntimeEvent.leaves, CallPoint.isCounted]
  | signal =>
      simp only [step] at hs
      split at hs <;> cases hs
      exact ⟨List.Perm.refl _, rfl⟩
  | statusUpdated now =>
      simp only [step] at hs
      split at hs <;> cases hs
      exact ⟨List.Perm.refl _, rfl⟩
  | readLoad =>
      simp only [step] at hs
      split at hs <;> cases hs
      exact ⟨List.Perm.refl _, rfl⟩
  | readClock now =>
      simp only [step] at hs
      split at hs
      · split at hs <;> cases hs
        exact ⟨List.Perm.refl _, rfl⟩
      · cases hs
  | wake =>
      simp only [step] at hs
      split at hs <;> cases hs
      exact ⟨List.Perm.refl _, rfl⟩

/-! ## §4. The load. -/

/-- Only a request that is taken up adds a call, and that needs a free thread. -/
theorem length_calls_step {e : RuntimeEvent} (hs : s.step handlers w shutdownTimeout e = some s')
    (h : s.calls.length ≤ serverThreads) : s'.calls.length ≤ serverThreads := by
  have hlen := (calls_step hs).1.length_eq
  rw [List.length_append, List.length_append] at hlen
  cases e with
  | enter request =>
      simp only [step] at hs
      split at hs <;> cases hs
      rename_i hlt
      rw [List.length_append]
      exact hlt
  | check request now =>
      have hle : (RuntimeEvent.leaves handlers w s.isDraining (.check request now)).length ≤ 1 := by
        simp only [RuntimeEvent.leaves]
        split <;> simp
      simp only [RuntimeEvent.takes, List.length_singleton] at hlen
      omega
  | _ =>
      simp only [RuntimeEvent.takes, RuntimeEvent.leaves, List.length_singleton,
        List.length_nil] at hlen
      omega

/-- The load follows the counted calls, and there are no more calls than threads. -/
theorem load_of_reachable (h : Reachable (step handlers w shutdownTimeout) init s) :
    s.currentLoad = s.calls.countP (·.point.isCounted) ∧ s.calls.length ≤ serverThreads := by
  refine h.invariant (I := fun s => s.currentLoad = s.calls.countP (·.point.isCounted) ∧
    s.calls.length ≤ serverThreads) ⟨rfl, Nat.zero_le _⟩ ?_
  rintro a e b _ ⟨hload, hlen⟩ hs
  refine ⟨?_, length_calls_step hs hlen⟩
  obtain ⟨hperm, hstep⟩ := calls_step hs
  have hcount := hperm.countP_eq (fun c : Call => c.point.isCounted)
  rw [List.countP_append, List.countP_append] at hcount
  omega

/-- **`current_load` counts.**  Whatever calls overlap in whatever order, the load is the number
of calls between `increase_load` and `decrease_load`; it is never negative and fits the field of
a heartbeat. -/
theorem currentLoad_counts (h : Reachable (step handlers w shutdownTimeout) init s) :
    s.currentLoad = s.calls.countP (·.point.isCounted) ∧ 0 ≤ s.currentLoad ∧
      s.currentLoad ≤ serverThreads ∧ ∃ field, encodeInt32 s.currentLoad = .ok field := by
  obtain ⟨hload, hlen⟩ := load_of_reachable h
  have hle : s.calls.countP (·.point.isCounted) ≤ s.calls.length := List.countP_le_length
  have hbound : s.currentLoad ≤ serverThreads := by omega
  refine ⟨hload, by omega, hbound, (encodeInt32_isOk_iff _).mpr ⟨by omega, ?_⟩⟩
  have : (serverThreads : Int) = 10 := rfl
  omega

/-- A request for a worker of the type reverse. -/
def runtimeRequest : Envelope TaskPayload := { payload := ⟨.default, "reverse", "abc", "DISPATCHED"⟩ }

/-- A worker with that type. -/
def runtimeWorker : WorkerConfig := ⟨"w1", ["reverse"]⟩

/-- A call is being worked on when the signal comes. -/
def beforeSignal : List RuntimeEvent :=
  [.enter runtimeRequest, .check runtimeRequest 0, .increaseLoad runtimeRequest]

/-- The load is 1 there. -/
theorem currentLoad_counts_beforeSignal :
    ∃ s, run (step (taskHandlers id id) runtimeWorker 10) init beforeSignal = some s ∧
      s.currentLoad = 1 ∧ s.currentLoad = s.calls.countP (·.point.isCounted) ∧
      0 ≤ s.currentLoad ∧ s.currentLoad ≤ serverThreads ∧
      ∃ field, encodeInt32 s.currentLoad = .ok field := by
  refine ⟨_, rfl, rfl, ?_⟩
  exact @currentLoad_counts (taskHandlers id id) runtimeWorker 10 _ ⟨beforeSignal, rfl⟩

end Runtime

end TaskGrid
