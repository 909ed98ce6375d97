/-
  TaskGrid.Client.Client — client.py: request_result against GetResult.

  gRPC raises RpcError at the caller when the handler has set a status code
  other than OK, and drops the response message (`Reply.toCaller`).  What
  `request_result` prints is a list with one entry for each call of `print`.

  Main result: `agrees_iff`.  The not-found branch is never taken, since the
  server says not found by status code; a stored result is always printed; an
  error text is printed when it is empty, since the server puts it into the
  field `result` and the client reads the field `error`.
-/
import TaskGrid.Dispatcher.Terminal

namespace TaskGrid

open TaskGrid.Lib

/-! ## §1. A call as its caller sees it. -/

/-- `grpc.RpcError` -/
structure RpcError where
  code : StatusCode
  details : String
  deriving DecidableEq, Repr

/-- How Python prints a member of `grpc.StatusCode` in an f-string. -/
def StatusCode.format : StatusCode → String
  | .ok              => "StatusCode.OK"
  | .invalidArgument => "StatusCode.INVALID_ARGUMENT"
  | .notFound        => "StatusCode.NOT_FOUND"

/-- `error.details() or error.code()`, printed. -/
def RpcError.describe (error : RpcError) : String :=
  if error.details = "" then error.code.format else error.details

/-- What the caller gets from a reply. -/
def Reply.toCaller {π : Type} (reply : Reply π) : Except RpcError (Envelope π) :=
  if reply.code = .ok then .ok reply.message else .error ⟨reply.code, reply.details⟩

/-! ## §2. request_result. -/

/-- The branch `request_result` ends in. -/
inductive ResultBranch where
  | notFound
  | completed
  | failed
  | pending
  | timeout
  | unknown
  | rpcError
  | unexpectedError
  deriving DecidableEq, Repr

/-- What `request_result` prints and returns, and the branch it takes. -/
structure ResultOutput where
  branch : ResultBranch
  printed : List String
  response : Option (Envelope ResultResponsePayload)
  deriving DecidableEq

/-- The part of `request_result` after the call. -/
def showResult (taskId : Int) (response : Envelope ResultResponsePayload) : ResultOutput :=
  let payload := response.payload
  let head := ["Task-ID: " ++ str taskId, "Status: " ++ payload.status]
  if payload.found = false then
    ⟨.notFound, head ++ ["Task-ID nicht gefunden"], some response⟩
  else if payload.status = "COMPLETED" then
    ⟨.completed, head ++ ["Ergebnis: " ++ payload.result], some response⟩
  else if payload.status = "FAILED" then
    ⟨.failed, head ++ ["Fehler: " ++ payload.error], some response⟩
  else if payload.status ∈ ["CREATED", "QUEUED", "DISPATCHED", "PROCESSING", "RETRYING"] then
    ⟨.pending, head ++ ["Task wird noch verarbeitet (Status: " ++ payload.status ++ ")"],
      some response⟩
  else if payload.status = "TIMEOUT" then
    ⟨.timeout, head ++ ["Task ist in einen Timeout gelaufen: " ++ payload.error], some response⟩
  else
    ⟨.unknown, head ++ ["Unbekannter Status: " ++ payload.status], some response⟩

/-- `request_result` of a client, with the GetResult call as its argument. -/
def requestResult (call : Envelope GetResultPayload → Except RpcError (Envelope ResultResponsePayload))
    (clientId requestId : String) (timestamp : Int) (taskId : Int) : ResultOutput :=
  match encodeInt32 taskId with
  | .error (.valueError message) =>
      ⟨.unexpectedError, ["Unerwarteter Client-Fehler: " ++ message], none⟩
  | .ok field =>
      match call {
          messageType := "GET_RESULT"
          requestId := requestId
          timestamp := timestamp
          sender := clientId
          payload := { taskId := field } } with
      | .error error =>
          ⟨.rpcError, ["Verbindungsfehler zum Dispatcher: " ++ error.describe], none⟩
      | .ok response => showResult taskId response

/-- `request_result` with a dispatcher that reads its clock at `now`. -/
def requestResultFrom (d : Dispatcher) (now : Int) (clientId requestId : String)
    (timestamp : Int) (taskId : Int) : ResultOutput :=
  requestResult (fun request => (d.getResult request now).toCaller) clientId requestId timestamp
    taskId

/-! ## §3. What the client shows. -/

section shown

variable {d : Dispatcher} {now timestamp : Int} {clientId requestId : String}

/-- The line `request_result` ends with for a stored task. -/
def resultLine (task : Task) : String :=
  match task.status with
  | .completed => "Ergebnis: " ++ task.result
  | .failed => "Fehler: "
  | .timeout => "Task ist in einen Timeout gelaufen: "
  | status => "Task wird noch verarbeitet (Status: " ++ status.value ++ ")"

/-- The status of a found task decides the line. -/
theorem showResult_of_task (taskId : Int) {response : Envelope ResultResponsePayload} {task : Task}
    (hf : response.payload.found = true) (hs : response.payload.status = task.status.value)
    (hr : response.payload.result = task.result) (he : response.payload.error = "") :
    (showResult taskId response).branch ≠ .notFound ∧
      (showResult taskId response).printed
        = ["Task-ID: " ++ str taskId, "Status: " ++ task.status.value, resultLine task] := by
  unfold showResult resultLine
  simp only [hf, hs, hr, he]
  cases task.status <;> simp [TaskState.value]

/-- A stored task whose id fits is shown with its line. -/
theorem requestResult_of_get {field : Int32Field} {task : Task}
    (hg : d.store.get (str field.val) = some task) :
    (requestResultFrom d now clientId requestId timestamp field.val).branch ≠ .notFound ∧
      (requestResultFrom d now clientId requestId timestamp field.val).printed
        = ["Task-ID: " ++ str field.val, "Status: " ++ task.status.value, resultLine task] := by
  unfold requestResultFrom requestResult
  rw [encodeInt32_val]
  simp only [Dispatcher.getResult, hg, Reply.toCaller, if_true]
  exact showResult_of_task field.val rfl rfl rfl rfl

/-- **The not-found branch is dead.**  An id that is not in the store comes back as an RpcError,
and every answer that does come back says found. -/
theorem branch_ne_notFound (d : Dispatcher) (now : Int) (clientId requestId : String)
    (timestamp taskId : Int) :
    (requestResultFrom d now clientId requestId timestamp taskId).branch ≠ .notFound := by
  cases he : encodeInt32 taskId with
  | error error =>
      cases error
      simp [requestResultFrom, requestResult, he]
  | ok field =>
      have hval := val_of_encodeInt32 he
      cases hg : d.store.get (str taskId) with
      | none =>
          -- the server has set NOT_FOUND, so its message never arrives
          simp [requestResultFrom, requestResult, he, Dispatcher.getResult, hval, hg,
            Reply.toCaller]
      | some task =>
          rw [← hval] at hg ⊢
          exact (requestResult_of_get hg).1

/-- The last line for a stored task whose id fits. -/
theorem getLast?_requestResult {field : Int32Field} {task : Task}
    (hg : d.store.get (str field.val) = some task) :
    (requestResultFrom d now clientId requestId timestamp field.val).printed.getLast?
      = some (resultLine task) := by
  rw [(requestResult_of_get hg).2]
  rfl

theorem resultLine_of_completed {task : Task} (h : task.status = .completed) :
    resultLine task = "Ergebnis: " ++ task.result := by
  unfold resultLine
  rw [h]

/-- A FAILED task is shown without its text, whatever the text. -/
theorem resultLine_of_failed {task : Task} (h : task.status = .failed) :
    resultLine task = "Fehler: " := by
  unfold resultLine
  rw [h]

end shown

/-! ## §4. The main result. -/

namespace Dispatcher

variable {cfg : Config} {d : Dispatcher} {es : List Event} {n : Int}

/-- In the run, a ReturnResult with the error text made the task FAILED. -/
def FailedByReport (cfg : Config) (es : List Event) (t error : String) : Prop :=
  ∃ pre request now post a b task, es = pre ++ .returnResult request now :: post ∧
    run (step cfg) init pre = some a ∧ a.step cfg (.returnResult request now) = some b ∧
    str request.payload.taskId.val = t ∧ request.payload.error = error ∧
    (∀ old, a.store.get t = some old → isTerminal old = false) ∧
    b.store.get t = some task ∧ task.status = .failed

/-- Client and dispatcher agree on the answer for the id: every call takes the not-found branch
exactly when the id is not in the store, ends with the stored result of a COMPLETED task, and
ends with the error text of a report that made the task FAILED. -/
structure Agrees (cfg : Config) (es : List Event) (d : Dispatcher) (n : Int) : Prop where
  notFound : ∀ now clientId requestId timestamp,
    (requestResultFrom d now clientId requestId timestamp n).branch = .notFound
      ↔ d.store.get (str n) = none
  completed : ∀ now clientId requestId timestamp task, d.store.get (str n) = some task →
    task.status = .completed →
      (requestResultFrom d now clientId requestId timestamp n).printed.getLast?
        = some ("Ergebnis: " ++ task.result)
  failed : ∀ now clientId requestId timestamp error, FailedByReport cfg es (str n) error →
    (requestResultFrom d now clientId requestId timestamp n).printed.getLast?
      = some ("Fehler: " ++ error)

/-- A report can only name an id that fits. -/
theorem exists_field_of_report {request : Envelope ResultPayload}
    (hid : str request.payload.taskId.val = str n) : ∃ field : Int32Field, field.val = n :=
  ⟨request.payload.taskId, str_injective hid⟩

/-- Only a report makes a task COMPLETED, so its id fits. -/
theorem exists_field_of_completed (hrun : run (step cfg) init es = some d) {task : Task}
    (hg : d.store.get (str n) = some task) (hc : task.status = .completed) :
    ∃ field : Int32Field, field.val = n := by
  have ht : isTerminal task = true := by rw [isTerminal_eq, hc]; rfl
  obtain ⟨_, _, _, _, _, _, _, _, _, _, hby, _⟩ := exists_madeTerminalBy hrun hg ht
  cases hby with
  | completed hid _ _ _ => exact exists_field_of_report hid
  | failed _ _ hs _ => rw [hc] at hs; cases hs
  | rejected hs _ => rw [hc] at hs; cases hs
  | exhausted _ _ hs _ => rw [hc] at hs; cases hs

/-- A task a report made FAILED is FAILED at the end of the run. -/
theorem FailedByReport.get (hrun : run (step cfg) init es = some d) {error : String}
    (h : FailedByReport cfg es (str n) error) :
    ∃ task, d.store.get (str n) = some task ∧ task.status = .failed := by
  obtain ⟨pre, request, now, post, a, b, task, hes, hpre, hs, _, _, _, hb, hf⟩ := h
  rw [hes] at hrun
  obtain ⟨a', ha', hrest⟩ := run_append_eq_some.mp hrun
  rw [hpre, Option.some.injEq] at ha'
  subst ha'
  obtain ⟨b', hb', hpost⟩ := run_cons_eq_some.mp hrest
  rw [hs, Option.some.injEq] at hb'
  subst hb'
  have hreach : Reachable (step cfg) init b := Reachable.tail ⟨pre, hpre⟩ hs
  have ht : isTerminal task = true := by rw [isTerminal_eq, hf]; rfl
  exact ⟨task, (terminal_run hreach hb ht hpost).1, hf⟩

theorem FailedByReport.exists_field {error : String}
    (h : FailedByReport cfg es (str n) error) : ∃ field : Int32Field, field.val = n := by
  obtain ⟨_, request, _, _, _, _, _, _, _, _, hid, _⟩ := h
  exact exists_field_of_report hid

/-- **When client and dispatcher agree.**  In every state a run reaches and for every id: they
agree if and only if the id is in the store and no ReturnResult with a non-empty error text has
made its task FAILED. -/
theorem agrees_iff (hrun : run (step cfg) init es = some d) (n : Int) :
    Agrees cfg es d n ↔ d.store.get (str n) ≠ none ∧
      ∀ error, FailedByReport cfg es (str n) error → error = "" := by
  constructor
  · intro h
    refine ⟨?_, ?_⟩
    · intro hnone
      exact branch_ne_notFound d 0 "" "" 0 n ((h.notFound 0 "" "" 0).mpr hnone)
    · intro error herror
      obtain ⟨task, hg, hf⟩ := herror.get hrun
      obtain ⟨field, rfl⟩ := herror.exists_field
      have hline := h.failed 0 "" "" 0 error herror
      rw [getLast?_requestResult hg, resultLine_of_failed hf, Option.some.injEq] at hline
      -- "Fehler: " is the whole line
      have happend : "Fehler: " ++ error = "Fehler: " ++ "" := hline.symm
      exact (String.append_right_inj "Fehler: ").mp happend
  · rintro ⟨hstored, hempty⟩
    refine ⟨?_, ?_, ?_⟩
    · intro now clientId requestId timestamp
      exact ⟨fun hb => absurd hb (branch_ne_notFound d now clientId requestId timestamp n),
        fun hnone => absurd hnone hstored⟩
    · intro now clientId requestId timestamp task hg hc
      obtain ⟨field, rfl⟩ := exists_field_of_completed hrun hg hc
      rw [getLast?_requestResult hg, resultLine_of_completed hc]
    · intro now clientId requestId timestamp error herror
      obtain ⟨task, hg, hf⟩ := herror.get hrun
      obtain ⟨field, rfl⟩ := herror.exists_field
      rw [getLast?_requestResult hg, resultLine_of_failed hf, hempty error herror]
      rfl

/-- After a COMPLETED report the two agree on the task. -/
theorem agrees_iff_sample :
    ∃ d, run (step ⟨3⟩) init (sampleDispatch ++ [.returnResult sampleResult 2]) = some d ∧
      (Agrees ⟨3⟩ (sampleDispatch ++ [.returnResult sampleResult 2]) d 1 ↔
        d.store.get (str 1) ≠ none ∧
          ∀ error, FailedByReport ⟨3⟩ (sampleDispatch ++ [.returnResult sampleResult 2])
            (str 1) error → error = "") :=
  ⟨_, rfl, agrees_iff rfl 1⟩

/-- A worker reports that the handler of the task has failed. -/
def sampleFailure : Envelope ResultPayload :=
  { payload := ⟨sampleTaskId, "w1", "FAILED", "", "kaputt"⟩ }

/-- The client ends with an empty error text for task 1 and does not take the not-found branch
for task 2, which does not exist. -/
theorem not_agrees_sampleFailure :
    ∃ d, run (step ⟨3⟩) init (sampleDispatch ++ [.returnResult sampleFailure 2]) = some d ∧
      ¬ Agrees ⟨3⟩ (sampleDispatch ++ [.returnResult sampleFailure 2]) d 1 ∧
      ¬ Agrees ⟨3⟩ (sampleDispatch ++ [.returnResult sampleFailure 2]) d 2 := by
  refine ⟨_, rfl, ?_, ?_⟩
  · intro h
    have hline := h.failed 0 "c" "r" 0 "kaputt" ⟨sampleDispatch, sampleFailure, 2, [], _, _, _,
      rfl, rfl, rfl, rfl, rfl, by decide, rfl, rfl⟩
    exact absurd hline (by decide)
  · intro h
    exact absurd ((h.notFound 0 "c" "r" 0).mpr rfl) (by decide)

end Dispatcher

end TaskGrid
