/-
  TaskGrid.Worker.Worker — worker.py: process_task and ExecuteTask.

  The handlers are a parameter: the dict `HANDLERS` is a function from the
  task type to an optional handler, and a handler is a function of the
  payload that returns the result or the text of the exception it raises.

  `executeTask` lists every ReturnResult message one execution puts on the
  wire.  A call that raises may or may not have reached the dispatcher;
  the message is listed either way, and whoever uses the list decides what
  arrives.
-/
import TaskGrid.Proto.Messages
import TaskGrid.Common.Protocol

namespace TaskGrid

/-! ## §1. process_task. -/

/-- `HANDLERS` -/
abbrev Handlers := String → Option (String → Except String String)

/-- WORKER_ID and TASK_TYPES of a worker process. -/
structure WorkerConfig where
  workerId : String
  taskTypes : List String
  deriving DecidableEq, Repr

/-- `process_task`: the result, or the text of the TaskProcessingError. -/
def processTask (handlers : Handlers) (w : WorkerConfig) (task : TaskPayload) :
    Except String String :=
  if task.taskType ∉ w.taskTypes then
    .error ("Tasktyp '" ++ task.taskType ++ "' wird von Worker " ++ w.workerId
      ++ " nicht unterstützt")
  else
    match handlers task.taskType with
    | none => .error ("Kein Handler für Tasktyp '" ++ task.taskType ++ "' implementiert")
    | some handle =>
        match handle task.taskPayload with
        | .ok result => .ok result
        | .error error =>
            .error ("Interner Fehler bei task_id=" ++ str task.taskId.val ++ ": " ++ error)

/-! ## §2. ExecuteTask. -/

/-- How a ReturnResult call ends for the worker: with an Ack it does not look at, or with
an exception. -/
inductive CallOutcome where
  | returned
  | raised (error : String)
  deriving DecidableEq, Repr

/-- The ReturnResult request `send_result_to_dispatcher` builds. -/
def resultRequest (w : WorkerConfig) (task : Envelope TaskPayload)
    (result status error : String) (now : Int) : Envelope ResultPayload where
  messageType := "RESULT_RETURN"
  requestId := task.requestId
  timestamp := now
  sender := w.workerId
  payload := {
    taskId := task.payload.taskId
    workerId := w.workerId
    status := status
    result := result
    error := error }

/-- A TaskResponse of the worker. -/
def taskResponse (w : WorkerConfig) (request : Envelope TaskPayload) (accepted : Bool)
    (status error : String) (now : Int) : Envelope TaskResponsePayload where
  messageType := "TASK_RESPONSE"
  requestId := request.requestId
  timestamp := now
  sender := w.workerId
  payload := {
    accepted := accepted
    taskId := request.payload.taskId
    workerId := w.workerId
    status := status
    error := error }

/-- The except branch of `ExecuteTask`: report FAILED.  When this call raises as well, the
exception ends the RPC without a response. -/
def reportFailure (w : WorkerConfig) (request : Envelope TaskPayload) (error : String)
    (call : CallOutcome) (now : Int) :
    Envelope ResultPayload × Option (Envelope TaskResponsePayload) :=
  let errorText := "task_id=" ++ str request.payload.taskId.val ++ " worker_id=" ++ w.workerId
    ++ " error='" ++ error ++ "'"
  (resultRequest w request "" "FAILED" errorText now,
    match call with
    | .returned => some (taskResponse w request false "failed" errorText now)
    | .raised _ => none)

/-- `WorkerService.ExecuteTask`: the ReturnResult requests it sends, in order, and the
response.  The two outcomes are those of its first and its second ReturnResult call. -/
def executeTask (handlers : Handlers) (w : WorkerConfig) (isDraining : Bool)
    (request : Envelope TaskPayload) (first second : CallOutcome) (now : Int) :
    List (Envelope ResultPayload) × Option (Envelope TaskResponsePayload) :=
  if isDraining then
    ([], some (taskResponse w request false "rejected" "Worker is shutting down" now))
  else
    match processTask handlers w request.payload with
    | .error error =>
        let (report, response) := reportFailure w request error first now
        ([report], response)
    | .ok result =>
        let completed := resultRequest w request result "COMPLETED" "" now
        match first with
        | .returned => ([completed], some (taskResponse w request true "accepted" "" now))
        | .raised error =>
            -- the exception of the call itself lands in the except branch
            let (report, response) := reportFailure w request error second now
            ([completed, report], response)

/-! ## §3. What an execution reports. -/

/-- The handler of the type computes the result from the payload. -/
def Computes (handlers : Handlers) (taskType payload result : String) : Prop :=
  ∃ handle, handlers taskType = some handle ∧ handle payload = .ok result

theorem computes_of_processTask {handlers : Handlers} {w : WorkerConfig} {task : TaskPayload}
    {result : String} (h : processTask handlers w task = .ok result) :
    Computes handlers task.taskType task.taskPayload result := by
  unfold processTask at h
  split at h
  · cases h
  · split at h
    · cases h
    · rename_i handle hh
      split at h
      · rename_i result' hr
        rw [Except.ok.injEq] at h
        exact ⟨handle, hh, h ▸ hr⟩
      · cases h

/-- A failure report is not COMPLETED. -/
theorem reportFailure_status (w : WorkerConfig) (request : Envelope TaskPayload)
    (error : String) (call : CallOutcome) (now : Int) :
    (reportFailure w request error call now).1.payload.status = "FAILED" := rfl

/-- **Every report of an execution is about the requested task, and one that says COMPLETED
carries what the handler computes from the requested payload.** -/
theorem report_of_executeTask {handlers : Handlers} {w : WorkerConfig} {isDraining : Bool}
    {request : Envelope TaskPayload} {first second : CallOutcome} {now : Int}
    {report : Envelope ResultPayload}
    (h : report ∈ (executeTask handlers w isDraining request first second now).1) :
    report.payload.taskId = request.payload.taskId ∧
      (report.payload.status = "COMPLETED" →
        Computes handlers request.payload.taskType request.payload.taskPayload
          report.payload.result) := by
  -- a failure report says nothing about COMPLETED
  have hfailed : ∀ error call, report = (reportFailure w request error call now).1 →
      report.payload.taskId = request.payload.taskId ∧
        (report.payload.status = "COMPLETED" →
          Computes handlers request.payload.taskType request.payload.taskPayload
            report.payload.result) := by
    intro error call heq
    rw [heq]
    refine ⟨rfl, ?_⟩
    intro hc
    rw [reportFailure_status] at hc
    exact absurd hc (by decide)
  unfold executeTask at h
  split at h
  · cases h
  · split at h
    · exact hfailed _ first (List.mem_singleton.mp h)
    · rename_i result hp
      have hdone : report = resultRequest w request result "COMPLETED" "" now →
          report.payload.taskId = request.payload.taskId ∧
            (report.payload.status = "COMPLETED" →
              Computes handlers request.payload.taskType request.payload.taskPayload
                report.payload.result) := by
        intro heq
        rw [heq]
        exact ⟨rfl, fun _ => computes_of_processTask hp⟩
      split at h
      · exact hdone (List.mem_singleton.mp h)
      · -- the COMPLETED call raised: both reports may be on the wire
        rename_i error
        have hmem : report = resultRequest w request result "COMPLETED" "" now
            ∨ report = (reportFailure w request error second now).1 := by
          simpa using h
        rcases hmem with heq | heq
        · exact hdone heq
        · exact hfailed error second heq

end TaskGrid
