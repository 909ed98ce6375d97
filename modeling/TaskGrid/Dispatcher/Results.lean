/-
  TaskGrid.Dispatcher.Results — which results the dispatcher keeps.

  A COMPLETED result for a task with a request under way is stored when it
  meets DISPATCHED or PROCESSING.  Between the firing of a timeout and the
  next dispatch the task is RETRYING; the table has no way from there to
  COMPLETED, so the result is dropped and the Ack says so, after the timer has
  already been cancelled.  `resultKept_iff` says of every run that the
  RETRYING state is the only one in which results are lost.
-/
import TaskGrid.Dispatcher.Accounting
import TaskGrid.Dispatcher.Terminal

namespace TaskGrid

open TaskGrid.Lib

namespace Dispatcher

variable {cfg : Config} {a b : Dispatcher} {t : String}

/-! ## §1. The property and its condition. -/

/-- If the step delivers a COMPLETED result for a task that is not terminal and for which a
request has been sent, the task is COMPLETED with that result afterwards and the Ack has
success. -/
def KeepsResult (a : Dispatcher) (e : Event) (b : Dispatcher) : Prop :=
  ∀ request now task, e = .returnResult request now → request.payload.status = "COMPLETED" →
    a.store.get (str request.payload.taskId.val) = some task → isTerminal task = false →
    a.sentFor (str request.payload.taskId.val) ≠ [] →
    (∃ task', b.store.get (str request.payload.taskId.val) = some task' ∧
      task'.status = .completed ∧ task'.result = request.payload.result) ∧
    (a.returnResult request now).2.message.payload.success = true

/-- If the step delivers a COMPLETED result for a task for which a request has been sent, the
task does not wait for a retry. -/
def AvoidsRetrying (a : Dispatcher) (e : Event) : Prop :=
  ∀ request now task, e = .returnResult request now → request.payload.status = "COMPLETED" →
    a.store.get (str request.payload.taskId.val) = some task →
    a.sentFor (str request.payload.taskId.val) ≠ [] → task.status ≠ .retrying

/-! ## §2. One delivery. -/

/-- A task for which a request has been sent is not QUEUED. -/
theorem not_queued_of_sent (h : Reachable (step cfg) init a) {task : Task}
    (hg : a.store.get t = some task) (hsent : a.sentFor t ≠ []) : task.status ≠ .queued := by
  intro hq
  have hstarted := (taskInv_of_reachable h hg).queued hq
  obtain ⟨hfit, hno⟩ := sentInv_of_reachable h t
  apply hsent
  show (a.slot t).sent = []
  -- a QUEUED task has not been dispatched yet, so nothing has been sent for it
  by_cases hid : Int32Id t
  · have hlen := hfit hid
    rw [hstarted] at hlen
    exact List.length_eq_zero_iff.mp hlen
  · exact hno hid

/-- Such a task is in flight, RETRYING or terminal. -/
theorem inFlight_of_sent (h : Reachable (step cfg) init a) {task : Task}
    (hg : a.store.get t = some task) (hsent : a.sentFor t ≠ [])
    (hnt : isTerminal task = false) (hr : task.status ≠ .retrying) :
    task.status.isInFlight = true := by
  have hq := not_queued_of_sent h hg hsent
  rcases (taskInv_of_reachable h hg).status with hw | hf | ht
  · have hcases : task.status = .queued ∨ task.status = .retrying := by
      simpa [TaskState.isWaiting] using hw
    rcases hcases with hs | hs
    · exact absurd hs hq
    · exact absurd hs hr
  · exact hf
  · rw [isTerminal_eq, ht] at hnt
    cases hnt

/-- An accepted COMPLETED report is stored. -/
theorem get_returnResult_of_inFlight {request : Envelope ResultPayload} {task : Task}
    (hc : request.payload.status = "COMPLETED")
    (hg : a.store.get (str request.payload.taskId.val) = some task)
    (hf : task.status.isInFlight = true) (now : Int) :
    (∃ task', (a.returnResult request now).1.store.get (str request.payload.taskId.val)
        = some task' ∧ task'.status = .completed ∧ task'.result = request.payload.result) ∧
      (a.returnResult request now).2.message.payload.success = true := by
  have ha : Accepts task request.payload := .inl hf
  refine ⟨⟨task.reported request.payload now, get_returnResult_of_accepts hg ha now, ?_, ?_⟩, ?_⟩
  · rw [Task.reported_status, reportedState, if_pos hc]
  · rw [Task.reported_result, reportedText, if_pos hc]
  · rw [returnResult_of_accepts hg ha]

/-- A COMPLETED report for a RETRYING task is refused. -/
theorem success_returnResult_of_retrying {request : Envelope ResultPayload} {task : Task}
    (hc : request.payload.status = "COMPLETED")
    (hg : a.store.get (str request.payload.taskId.val) = some task)
    (hs : task.status = .retrying) (now : Int) :
    (a.returnResult request now).2.message.payload.success = false := by
  have hnt : isTerminal task = false := by
    rw [isTerminal_eq, hs]
    rfl
  have hrefused : ¬ Accepts task request.payload := by
    intro ha
    rcases ha with hf | hw
    · rw [hs] at hf
      cases hf
    · exact hw.2 hc
  rw [returnResult_of_not_accepts hg hnt hrefused]
  rfl

/-! ## §3. Runs. -/

/-- **No computed result is thrown away, outside RETRYING.**  Along every run: every COMPLETED
result delivered for a task under way is kept and acknowledged if and only if none is
delivered while its task is RETRYING. -/
theorem resultKept_iff (cfg : Config) (es : List Event) :
    Along (step cfg) KeepsResult init es
      ↔ Along (step cfg) (fun a e _ => AvoidsRetrying a e) init es := by
  refine along_iff_along ?_ es
  intro a e b ha hs
  constructor
  · -- a report that meets RETRYING is answered with success=False
    intro hkeeps request now task he hc hg hsent hr
    have hnt : isTerminal task = false := by
      rw [isTerminal_eq, hr]
      rfl
    have hsuccess := (hkeeps request now task he hc hg hnt hsent).2
    rw [success_returnResult_of_retrying hc hg hr] at hsuccess
    cases hsuccess
  · -- every other state of a task under way leads to COMPLETED
    intro havoids request now task he hc hg hnt hsent
    have hf := inFlight_of_sent ha hg hsent hnt (havoids request now task he hc hg hsent)
    subst he
    cases hs
    exact get_returnResult_of_inFlight hc hg hf now

/-- The timeout of the attempt fires, then its result arrives. -/
def lateResultRun : List Event :=
  sampleDispatch ++ [.timerFires ⟨0, "1"⟩ 31] ++ [.returnResult sampleResult 32]

/-- The late result is dropped. -/
theorem not_keepsResult_lateResultRun : ¬ Along (step ⟨3⟩) KeepsResult init lateResultRun := by
  intro hall
  have hlast := along_iff_forall_split.mp hall (sampleDispatch ++ [.timerFires ⟨0, "1"⟩ 31])
    (.returnResult sampleResult 32) [] _ _ rfl rfl rfl
  have hsuccess := (hlast sampleResult 32 _ rfl rfl rfl rfl (by decide)).2
  exact absurd hsuccess (by decide)

end Dispatcher

end TaskGrid
