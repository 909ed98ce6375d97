/-
  TaskGrid.Dispatcher.Servicer — servicer.py: PostTask, GetResult, ReturnResult.

  A handler returns the dispatcher it leaves behind and what gRPC sends back.
  `postTask` can raise after the store and the queue have changed: the id goes
  into an int32 field only when the response is built.
-/
import TaskGrid.Dispatcher.DispatchLoop

namespace TaskGrid

open TaskGrid.Lib

namespace Dispatcher

/-! ## §1. PostTask. -/

/-- A PostTask request that is turned down: INVALID_ARGUMENT and an empty response. -/
def rejectPostTask (details : String) : Reply PostTaskResponsePayload where
  code := .invalidArgument
  details := details
  message := { payload := {} }

/-- The response to an accepted task. -/
def postTaskResponse (request : Envelope PostTaskPayload) (taskId : String) (now : Int) :
    Except PyError (Reply PostTaskResponsePayload) :=
  match int? taskId with
  | none => .error (.valueError ("invalid literal for int() with base 10: " ++ taskId))
  | some n =>
      match encodeInt32 n with
      | .error e => .error e
      | .ok taskId => .ok { message := {
          messageType := "POST_TASK_RESPONSE"
          requestId := request.requestId
          timestamp := now
          sender := "dispatcher"
          payload := {
            success := true
            taskId := taskId
            status := TaskState.queued.value } } }

/-- `DispatcherServicer.PostTask` -/
def postTask (d : Dispatcher) (request : Envelope PostTaskPayload) (now : Int) :
    Dispatcher × Except PyError (Reply PostTaskResponsePayload) :=
  let taskType := request.payload.taskType
  let payload := request.payload.taskPayload
  if taskType = "" then
    (d, .ok (rejectPostTask "task_type darf nicht leer sein"))
  else if taskType.length > maxTypeLen then
    (d, .ok (rejectPostTask
      ("task_type zu lang (max " ++ toString maxTypeLen ++ " Zeichen)")))
  else if payload.length > maxPayloadLen then
    (d, .ok (rejectPostTask
      ("payload zu groß (max " ++ toString maxPayloadLen ++ " Zeichen)")))
  else
    -- stored and queued before the response can raise
    let (counter, taskId) := newTaskId d.taskIdCounter
    let task : Task := {
      taskId := taskId
      taskType := taskType
      payload := payload
      status := .queued
      timestampCreated := now }
    let d : Dispatcher := { d with taskIdCounter := counter, store := d.store.put task }
    (d.enqueue taskId, postTaskResponse request taskId now)

/-! ## §2. GetResult. -/

/-- `DispatcherServicer.GetResult` -/
def getResult (d : Dispatcher) (request : Envelope GetResultPayload) (now : Int) :
    Reply ResultResponsePayload :=
  let taskId := str request.payload.taskId.val
  match d.store.get taskId with
  | none => {
      code := .notFound
      details := "Task " ++ taskId ++ " nicht gefunden"
      message := {
        messageType := "RESULT_RESPONSE"
        requestId := request.requestId
        timestamp := now
        sender := "dispatcher"
        payload := {
          found := false
          taskId := request.payload.taskId
          status := "NOT_FOUND" } } }
  | some task => { message := {
      messageType := "RESULT_RESPONSE"
      requestId := request.requestId
      timestamp := now
      sender := "dispatcher"
      payload := {
        found := true
        -- `int(task_id)` of the `str` of an int32 is that int32 again (`int?_str`)
        taskId := request.payload.taskId
        status := task.status.value
        result := task.result } } }

/-! ## §3. ReturnResult. -/

/-- An Ack that carries a payload only. -/
def bareAck (success : Bool) (message : String) : Reply AckPayload where
  message := { payload := { success := success, message := message } }

/-- The intermediate transition of ReturnResult: a DISPATCHED task first becomes
PROCESSING. -/
def startProcessing (task : Task) (now : Int) : Except InvalidTransitionError Task :=
  if task.status = .dispatched then transition task .processing now else .ok task

/-- The state a ReturnResult with this status string leads to. -/
def reportedState (status : String) : TaskState :=
  if status = "COMPLETED" then .completed else .failed

/-- The text a ReturnResult stores: the result or the error. -/
def reportedText (report : ResultPayload) : String :=
  if report.status = "COMPLETED" then report.result else report.error

/-- `DispatcherServicer.ReturnResult` -/
def returnResult (d : Dispatcher) (request : Envelope ResultPayload) (now : Int) :
    Dispatcher × Reply AckPayload :=
  let taskId := str request.payload.taskId.val
  match d.store.get taskId with
  | none => (d, bareAck false "unknown task_id")
  | some task =>
      if isTerminal task then (d, bareAck true "already terminal")
      else
        -- cancelled before the transitions are known to be allowed
        let d := d.cancelTimeout taskId
        match startProcessing task now with
        | .error e => (d, bareAck false e.message)
        | .ok task =>
            let d := d.update task
            match transition task (reportedState request.payload.status) now with
            | .error e => (d, bareAck false e.message)
            | .ok task =>
                let task := { task with result := reportedText request.payload }
                (d.update task, { message := {
                  messageType := "ACK"
                  requestId := request.requestId
                  timestamp := now
                  sender := "dispatcher"
                  payload := { success := true } } })

end Dispatcher

/-! ## §4. The step function. -/

/-- The labels of the dispatcher's atomic steps, with everything the environment
chooses: the requests, the lists `lookup_worker` returns, the values `dispatch_task`
returns, which timer fires, and the readings of the clock. -/
inductive Event where
  | postTask (request : Envelope PostTaskPayload) (now : Int)
  | returnResult (request : Envelope ResultPayload) (now : Int)
  | dequeue
  | lookupReturns (taskId : String) (workers : List WorkerInfo) (now : Int)
  | sleepEnds (taskId : String)
  | reply (taskId : String) (worker : WorkerInfo) (timer : Timer) (success : Option Bool)
      (now : Int)
  | timerFires (timer : Timer) (now : Int)
  | reenqueueAfterDelay (taskId : String)
  deriving DecidableEq

/-- One atomic step of the dispatcher.  GetResult reads the state and changes nothing,
so it is no step. -/
def Dispatcher.step (cfg : Config) (d : Dispatcher) : Event → Option Dispatcher
  | .postTask request now => some (d.postTask request now).1
  | .returnResult request now => some (d.returnResult request now).1
  | .dequeue => some d.dequeue
  | .lookupReturns taskId workers now => d.lookupReturns taskId workers now
  | .sleepEnds taskId => d.sleepEnds taskId
  | .reply taskId worker timer success now => d.reply taskId worker timer success now
  | .timerFires timer now => d.timerFires cfg timer now
  | .reenqueueAfterDelay taskId => d.reenqueueAfterDelay taskId

end TaskGrid
