/-
  TaskGrid.System.HandOver — a worker hands its result to the dispatcher.

  `ExecuteTask` computes the result and calls ReturnResult in one try block,
  so an exception of the call enters the branch for failed work and a second
  report, FAILED, follows the first one.  `earnedFailures_iff` says when that
  does not happen; `status_receive` says what becomes of the record, call by
  call.
-/
import TaskGrid.Worker.TaskHandlers
import TaskGrid.Dispatcher.Obligations

namespace TaskGrid

open TaskGrid.Lib

/-! ## §1. The two calls. -/

/-- How the call ends for the worker; `error` is the text of the exception. -/
def Delivery.outcome (error : String) : Delivery → CallOutcome
  | .answered => .returned
  | .answerLost | .notDelivered => .raised error

/-- What becomes of the first and of the second ReturnResult call of an execution. -/
structure HandOver where
  first : Delivery
  firstError : String
  second : Delivery
  secondError : String

namespace HandOver

variable (handlers : Handlers) (w : WorkerConfig) (isDraining : Bool)
  (request : Envelope TaskPayload) (h : HandOver) (now : Int)

/-- The ReturnResult requests the execution sends, in order. -/
def reports : List (Envelope ResultPayload) :=
  (executeTask handlers w isDraining request (h.first.outcome h.firstError)
    (h.second.outcome h.secondError) now).1

/-- The requests among them that reach the dispatcher. -/
def arriving : List (Envelope ResultPayload) :=
  (((h.reports handlers w isDraining request now).zip [h.first, h.second]).filter
    (·.2.reaches)).map Prod.fst

end HandOver

/-- The dispatcher after it has handled the reports in order. -/
def Dispatcher.receive (d : Dispatcher) (reports : List (Envelope ResultPayload)) (now : Int) :
    Dispatcher :=
  reports.foldl (fun d report => (d.returnResult report now).1) d

/-- When `process_task` returns a value for the request, the execution sends no FAILED report,
and in no state of the dispatcher does its hand-over turn the task in flight FAILED. -/
def EarnedFailures (handlers : Handlers) (w : WorkerConfig) (isDraining : Bool)
    (request : Envelope TaskPayload) (h : HandOver) (now : Int) : Prop :=
  ∀ result, processTask handlers w request.payload = .ok result →
    (∀ report ∈ h.reports handlers w isDraining request now, report.payload.status ≠ "FAILED") ∧
    ∀ (d : Dispatcher) (task : Task), d.store.get (str request.payload.taskId.val) = some task →
      task.status.isInFlight = true →
      ∃ task', (d.receive (h.arriving handlers w isDraining request now) now).store.get
          (str request.payload.taskId.val) = some task' ∧ task'.status ≠ .failed

/-! ## §2. One execution. -/

namespace Dispatcher

/-- A second report meets a terminal record and changes nothing. -/
theorem receive_pair {d : Dispatcher} {task : Task} (first second : Envelope ResultPayload)
    (hid : second.payload.taskId = first.payload.taskId)
    (hg : d.store.get (str first.payload.taskId.val) = some task)
    (ha : Accepts task first.payload) (now : Int) :
    d.receive [first, second] now = (d.returnResult first now).1 := by
  have hdone := get_returnResult_of_accepts hg ha now
  rw [← hid] at hdone
  show ((d.returnResult first now).1.returnResult second now).1 = _
  rw [returnResult_of_terminal hdone (task.isTerminal_reported first.payload now)]

end Dispatcher

namespace HandOver

variable {handlers : Handlers} {w : WorkerConfig} {request : Envelope TaskPayload} {h : HandOver}
  {result : String} {now : Int}

/-- The COMPLETED report of an execution. -/
def completed (w : WorkerConfig) (request : Envelope TaskPayload) (result : String) (now : Int) :
    Envelope ResultPayload :=
  resultRequest w request result "COMPLETED" "" now

/-- The FAILED report that follows when the first call has raised. -/
def failed (w : WorkerConfig) (request : Envelope TaskPayload) (h : HandOver) (now : Int) :
    Envelope ResultPayload :=
  (reportFailure w request h.firstError (h.second.outcome h.secondError) now).1

theorem reports_of_draining : h.reports handlers w true request now = [] := rfl

/-- A value of `process_task` is reported, and once more as FAILED unless the first call has
been answered. -/
theorem reports_of_ok (hp : processTask handlers w request.payload = .ok result) :
    h.reports handlers w false request now
      = completed w request result now
          :: if h.first = .answered then [] else [failed w request h now] := by
  unfold reports executeTask
  rw [if_neg Bool.false_ne_true, hp]
  cases hf : h.first with
  | answered => rfl
  | answerLost => rfl
  | notDelivered => rfl

/-- What arrives: the first report if it was delivered, then the second one if there was one
and it was delivered. -/
theorem arriving_of_ok (hp : processTask handlers w request.payload = .ok result) :
    h.arriving handlers w false request now
      = (if h.first.reaches then [completed w request result now] else [])
        ++ (if h.first ≠ .answered ∧ h.second.reaches then [failed w request h now] else []) := by
  unfold arriving
  rw [reports_of_ok hp]
  cases hf : h.first <;> cases hs : h.second <;> rfl

/-- **What becomes of the record.**  The value reaches a task in flight when the first report
arrives; when only the second one arrives the task is FAILED; otherwise nothing happens. -/
theorem get_receive_arriving (hp : processTask handlers w request.payload = .ok result)
    {d : Dispatcher} {task : Task} (hg : d.store.get (str request.payload.taskId.val) = some task)
    (hf : task.status.isInFlight = true) :
    (d.receive (h.arriving handlers w false request now) now).store.get
        (str request.payload.taskId.val)
      = some (if h.first.reaches then task.reported (completed w request result now).payload now
          else if h.second.reaches then task.reported (failed w request h now).payload now
          else task) := by
  have hfirst : (d.returnResult (completed w request result now) now).1.store.get
      (str request.payload.taskId.val)
        = some (task.reported (completed w request result now).payload now) :=
    Dispatcher.get_returnResult_of_accepts hg (.inl hf) now
  have hsecond : (d.returnResult (failed w request h now) now).1.store.get
      (str request.payload.taskId.val)
        = some (task.reported (failed w request h now).payload now) :=
    Dispatcher.get_returnResult_of_accepts hg (.inl hf) now
  rw [arriving_of_ok hp]
  cases h1 : h.first with
  | answered => exact hfirst
  | answerLost =>
      cases h2 : h.second.reaches with
      | true =>
          have hpair : d.receive [completed w request result now, failed w request h now] now
              = (d.returnResult (completed w request result now) now).1 :=
            Dispatcher.receive_pair (completed w request result now) (failed w request h now) rfl
              hg (.inl hf) now
          rw [← hpair] at hfirst
          exact hfirst
      | false => exact hfirst
  | notDelivered =>
      cases h2 : h.second.reaches with
      | true => exact hsecond
      | false => exact hg

end HandOver

/-! ## §3. When FAILED means failed. -/

/-- **When a worker reports FAILED only for work that failed.**  For every request and every
outcome of the two calls: if and only if the worker is draining, `process_task` raises, or the
first call is delivered and its Ack comes back. -/
theorem earnedFailures_iff (handlers : Handlers) (w : WorkerConfig) (isDraining : Bool)
    (request : Envelope TaskPayload) (h : HandOver) (now : Int) :
    EarnedFailures handlers w isDraining request h now
      ↔ isDraining = true ∨ (∃ error, processTask handlers w request.payload = .error error)
        ∨ h.first = .answered := by
  constructor
  · intro hearned
    cases hdr : isDraining with
    | true => exact .inl rfl
    | false =>
        refine .inr ?_
        cases hp : processTask handlers w request.payload with
        | error error => exact .inl ⟨error, rfl⟩
        | ok result =>
            -- a first call that raises is followed by the FAILED report
            refine .inr ?_
            by_contra hne
            subst hdr
            have hmem : HandOver.failed w request h now
                ∈ h.reports handlers w false request now := by
              rw [HandOver.reports_of_ok hp, if_neg hne]
              simp
            exact (hearned result hp).1 _ hmem rfl
  · intro hcond result hp
    cases hdr : isDraining with
    | true =>
        refine ⟨fun report hmem => ?_, fun d task hg hf => ⟨task, hg, ?_⟩⟩
        · rw [HandOver.reports_of_draining] at hmem
          cases hmem
        · intro hs
          rw [hs] at hf
          cases hf
    | false =>
        have hfirst : h.first = .answered := by
          rcases hcond with hd | ⟨error, he⟩ | hfirst
          · rw [hdr] at hd
            cases hd
          · rw [hp] at he
            cases he
          · exact hfirst
        refine ⟨fun report hmem => ?_,
          fun d task hg hf => ⟨_, HandOver.get_receive_arriving hp hg hf, ?_⟩⟩
        · rw [HandOver.reports_of_ok hp, if_pos hfirst, List.mem_singleton] at hmem
          rw [hmem]
          show "COMPLETED" ≠ "FAILED"
          decide
        · rw [hfirst]
          show (task.reported (HandOver.completed w request result now).payload now).status ≠ .failed
          rw [Task.reported_status]
          show TaskState.completed ≠ .failed
          decide

/-- The ExecuteTask request for the task of `sampleDispatch`. -/
def sampleCall : Envelope TaskPayload :=
  { payload := ⟨Dispatcher.sampleTaskId, "reverse", "abc", "DISPATCHED"⟩ }

/-- A transport error keeps the first report from the dispatcher; the second one arrives. -/
def lostFirst : HandOver := ⟨.notDelivered, "unavailable", .answered, ""⟩

/-- The text has been reversed, and the dispatched task becomes FAILED all the same. -/
theorem not_earnedFailures_lostFirst :
    ¬ EarnedFailures (taskHandlers id id) ⟨"w1", ["reverse"]⟩ false sampleCall lostFirst 2 ∧
      ∃ d, run (Dispatcher.step ⟨3⟩) .init Dispatcher.sampleDispatch = some d ∧
        ((d.receive (lostFirst.arriving (taskHandlers id id) ⟨"w1", ["reverse"]⟩ false sampleCall 2)
          2).store.get "1").map Task.status = some .failed := by
  refine ⟨?_, _, rfl, by decide⟩
  intro hearned
  have hreports := (hearned "cba" (by decide)).1
  exact hreports (HandOver.failed ⟨"w1", ["reverse"]⟩ sampleCall lostFirst 2) (by decide) rfl

end TaskGrid
