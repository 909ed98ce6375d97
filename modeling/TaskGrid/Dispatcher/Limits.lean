/-
  TaskGrid.Dispatcher.Limits — the declared lengths of the fields of a task.

  task.py declares four limits.  PostTask checks two of them; the result is
  written by ReturnResult and the worker id by `_dispatch`, and neither looks
  at its limit.  `limits_iff` says of every run that all stored tasks keep the
  four limits exactly when every accepted report and every selected worker
  keeps them.
-/
import TaskGrid.Dispatcher.Work
import TaskGrid.Worker.TaskHandlers

namespace TaskGrid

open TaskGrid.Lib

/-! ## §1. The property and its condition. -/

/-- A record keeps the four limits of task.py. -/
structure Task.WithinLimits (task : Task) : Prop where
  taskType : task.taskType.length ≤ maxTypeLen
  payload : task.payload.length ≤ maxPayloadLen
  result : task.result.length ≤ maxResultLen
  assignedWorker : task.assignedWorker.length ≤ maxWorkerLen

/-- Two records with the same limited fields. -/
structure Task.SameFields (task task' : Task) : Prop where
  work : task.SameWork task'
  result : task'.result = task.result
  assignedWorker : task'.assignedWorker = task.assignedWorker

theorem Task.WithinLimits.congr {task task' : Task} (h : task.WithinLimits)
    (hs : task.SameFields task') : task'.WithinLimits := by
  obtain ⟨⟨h1, h2⟩, h3, h4⟩ := hs
  refine ⟨?_, ?_, ?_, ?_⟩
  · rw [h1]; exact h.taskType
  · rw [h2]; exact h.payload
  · rw [h3]; exact h.result
  · rw [h4]; exact h.assignedWorker

namespace Dispatcher

/-- Every stored task keeps the limits. -/
def RespectsLimits (d : Dispatcher) : Prop :=
  ∀ t task, d.store.get t = some task → task.WithinLimits

/-- What the step writes keeps the limits: when it is a ReturnResult its task accepts, the text
it stores; when it is the return of a lookup for a waiting task, the id of the selected worker. -/
def WritesWithinLimits (a : Dispatcher) (e : Event) : Prop :=
  (∀ request now task, e = .returnResult request now →
    a.store.get (str request.payload.taskId.val) = some task → Accepts task request.payload →
      (reportedText request.payload).length ≤ maxResultLen) ∧
  ∀ i workers now task worker, e = .lookupReturns i workers now → a.store.get i = some task →
    task.status.isWaiting = true →
      (a.selector.select task.taskType workers).1 = some worker →
        worker.workerId.length ≤ maxWorkerLen

end Dispatcher

/-! ## §2. The steps that write a limited field. -/

theorem Task.sameFields_enter (task : Task) (s : TaskState) (now : Int) :
    task.SameFields (task.enter s now) :=
  ⟨task.sameWork_enter s now, enter_result task s now, enter_assignedWorker task s now⟩

/-- A step writes a limited field of a record by posting, dispatching or reporting it, and in no
other way. -/
theorem slotStep_fields {cfg : Config} {t : String} {e : Event} {s s' : Slot} {task' : Task}
    (h : SlotStep cfg t e s s') (htask' : s'.task = some task') :
    (∃ task, s.task = some task ∧ task.SameFields task') ∨
      (∃ request now, e = .postTask request now ∧ s = .empty ∧
        task' = Task.posted t request.payload now) ∨
      (∃ workers now task worker, e = .lookupReturns t workers now ∧ worker ∈ workers ∧
        s.task = some task ∧ task.status.isWaiting = true ∧
        task' = task.dispatchedTo worker now) ∨
      ∃ request now task, e = .returnResult request now ∧
        str request.payload.taskId.val = t ∧ s.task = some task ∧
        Accepts task request.payload ∧ task' = task.reported request.payload now := by
  have hnew : ∀ {new}, some new = some task' → task' = new := by
    intro new h'
    rw [Option.some.injEq] at h'
    exact h'.symm
  have hkeep : s.task = some task' → ∃ task, s.task = some task ∧ task.SameFields task' :=
    fun h' => ⟨task', h', .refl task', rfl, rfl⟩
  cases h with
  | idle => exact .inl (hkeep htask')
  | post request now => exact .inr (.inl ⟨request, now, rfl, rfl, hnew htask'⟩)
  | drop => exact .inl (hkeep htask')
  | dispatch htask hmem _ hw _ =>
      exact .inr (.inr (.inl ⟨_, _, _, _, rfl, hmem, htask, hw, hnew htask'⟩))
  | accept htask =>
      rw [hnew htask']
      exact .inl ⟨_, htask, Task.sameFields_enter _ _ _⟩
  | reject htask =>
      rw [hnew htask']
      exact .inl ⟨_, htask, Task.sameFields_enter _ _ _⟩
  | cancel =>
      rw [Slot.cancel_task] at htask'
      exact .inl (hkeep htask')
  | report hid htask ha =>
      exact .inr (.inr (.inr ⟨_, _, _, rfl, hid, htask, ha, hnew htask'⟩))
  | retry _ _ htask =>
      rw [hnew htask']
      exact .inl ⟨_, htask, ⟨rfl, rfl⟩, rfl, rfl⟩
  | exhaust _ _ htask =>
      rw [hnew htask']
      exact .inl ⟨_, htask, ⟨rfl, rfl⟩, rfl, rfl⟩
  | lateTimeout => exact .inl (hkeep htask')

/-- A dispatch writes the worker id and no other limited field. -/
theorem Task.WithinLimits.dispatchedTo {task : Task} (h : task.WithinLimits) {worker : WorkerInfo}
    (hw : worker.workerId.length ≤ maxWorkerLen) (now : Int) :
    (task.dispatchedTo worker now).WithinLimits :=
  ⟨h.taskType, h.payload, h.result, hw⟩

/-- A report writes the result and no other limited field. -/
theorem Task.WithinLimits.reported {task : Task} (h : task.WithinLimits) {report : ResultPayload}
    (hr : (Dispatcher.reportedText report).length ≤ maxResultLen) (now : Int) :
    (task.reported report now).WithinLimits := by
  obtain ⟨h1, h2⟩ := task.sameWork_reported report now
  refine ⟨?_, ?_, hr, ?_⟩
  · rw [h1]; exact h.taskType
  · rw [h2]; exact h.payload
  · rw [Task.reported_assignedWorker]; exact h.assignedWorker

/-- PostTask checks the other two. -/
theorem Task.withinLimits_posted {payload : PostTaskPayload} (h : Dispatcher.Valid payload)
    (t : String) (now : Int) : (Task.posted t payload now).WithinLimits :=
  ⟨h.2.1, h.2.2, Nat.zero_le _, Nat.zero_le _⟩

namespace Dispatcher

variable {cfg : Config} {a b : Dispatcher}

/-- **Step lemma.**  A step that writes within the limits keeps every record within them. -/
theorem respectsLimits_step (ha : Reachable (step cfg) init a) {e : Event}
    (hs : a.step cfg e = some b) (hI : RespectsLimits a) (hw : WritesWithinLimits a e) :
    RespectsLimits b := by
  intro t task' hg'
  have hslot := slotStep_of_reachable ha hs t
  rcases slotStep_fields hslot hg' with ⟨task, hg, hsame⟩ | ⟨request, now, he, hempty, htask'⟩ |
    ⟨workers, now, task, worker, he, hmem, hg, hwait, _⟩ |
    ⟨request, now, task, he, hid, hg, hacc, htask'⟩
  · exact (hI t task hg).congr hsame
  · -- an invalid request would have stored nothing
    subst he
    cases hs
    by_cases hv : Valid request.payload
    · rw [htask']
      exact Task.withinLimits_posted hv t now
    · obtain ⟨details, hd⟩ := postTask_of_not_valid hv a now
      have hg : a.store.get t = some task' := by
        rw [hd] at hg'
        exact hg'
      exact hI t task' hg
  · subst he
    obtain ⟨selected, hsel, hsg⟩ := get_lookupReturns hs (List.ne_nil_of_mem hmem) hg hwait
    rw [hg', Option.some.injEq] at hsg
    rw [hsg]
    exact (hI t task hg).dispatchedTo (hw.2 t workers now task selected rfl hg hwait hsel) now
  · subst hid
    rw [htask']
    exact (hI _ task hg).reported (hw.1 request now task he hg hacc) now

/-- A step after which every record is within the limits has written within them. -/
theorem writesWithinLimits_of_respects {e : Event} (hs : a.step cfg e = some b)
    (hb : RespectsLimits b) : WritesWithinLimits a e := by
  refine ⟨?_, ?_⟩
  · intro request now task he hg hacc
    subst he
    cases hs
    exact (hb _ _ (get_returnResult_of_accepts hg hacc now)).result
  · intro i workers now task worker he hg hwait hsel
    subst he
    have hne : workers ≠ [] := List.ne_nil_of_mem (RoundRobinSelector.mem_of_select hsel)
    obtain ⟨selected, hsel', hg'⟩ := get_lookupReturns hs hne hg hwait
    rw [hsel, Option.some.injEq] at hsel'
    rw [hsel']
    exact (hb _ _ hg').assignedWorker

/-- **When stored tasks keep their limits.**  Along every run: all stored tasks keep the four
limits after every step if and only if every step writes within them. -/
theorem limits_iff (cfg : Config) (es : List Event) :
    Along (step cfg) (fun _ _ b => RespectsLimits b) init es
      ↔ Along (step cfg) (fun a e _ => WritesWithinLimits a e) init es := by
  constructor
  · refine along_mono ?_ es (Reachable.init init)
    intro a e b _ hs hb
    exact writesWithinLimits_of_respects hs hb
  · refine along_of_invariant (I := RespectsLimits) ?_ es (Reachable.init init)
      (fun _ _ h => nomatch h)
    intro a e b ha hI hs hw
    have hb := respectsLimits_step ha hs hI hw
    exact ⟨hb, hb⟩

/-! ## §3. A payload the sum handler quotes. -/

/-- A payload of the greatest length PostTask accepts. -/
def longPayload : String := String.ofList (List.replicate 1024 'x')

/-- The PostTask request with it. -/
def longRequest : Envelope PostTaskPayload := { payload := ⟨"sum", longPayload⟩ }

/-- The ExecuteTask request `_dispatch` sends for it. -/
def longCall : Envelope TaskPayload where
  messageType := "EXECUTE_TASK"
  requestId := "1"
  timestamp := 1
  sender := "dispatcher"
  payload := ⟨sampleTaskId, "sum", longPayload, "DISPATCHED"⟩

/-- The worker of the run. -/
def sumWorker : WorkerConfig := ⟨"w1", ["sum"]⟩

/-- The text of the TaskProcessingError. -/
def longError : String :=
  "Interner Fehler bei task_id=" ++ str sampleTaskId.val ++ ": "
    ++ ("Ungültige Zahlenliste: '" ++ longPayload ++ "'")

/-- The report of the worker. -/
def longReport : Envelope ResultPayload :=
  (reportFailure sumWorker longCall longError .returned 2).1

theorem length_longPayload : longPayload.length = 1024 := by
  unfold longPayload
  rw [String.length_ofList, List.length_replicate]

theorem valid_longRequest : Valid longRequest.payload := by
  refine ⟨by decide, by decide, ?_⟩
  show longPayload.length ≤ maxPayloadLen
  rw [length_longPayload]
  decide

/-- Nothing is stripped from a string of one letter. -/
theorem stripWhile_replicate {p : Char → Bool} {c : Char} (h : p c = false) (n : Nat) :
    stripWhile p (List.replicate n c) = List.replicate n c := by
  have hdrop : (List.replicate n c).dropWhile p = List.replicate n c := by
    cases n with
    | zero => rfl
    | succ n => rw [List.replicate_succ, List.dropWhile_cons_of_neg (by rw [h]; decide)]
  unfold stripWhile
  rw [hdrop, List.reverse_replicate, hdrop, List.reverse_replicate]

/-- The sum handler refuses a string of letters. -/
theorem sumHandle_replicate (n : Nat) :
    sumHandle (String.ofList (List.replicate (n + 1) 'x'))
      = .error ("Ungültige Zahlenliste: '" ++ String.ofList (List.replicate (n + 1) 'x')
          ++ "'") := by
  have hsplit : (List.replicate (n + 1) 'x').splitOn ',' = [List.replicate (n + 1) 'x'] := by
    apply List.splitOn_eq_singleton
    intro hmem
    exact absurd (List.eq_of_mem_replicate hmem) (by decide)
  have hparse : parseInt (strip (List.replicate (n + 1) 'x')) = none := by
    unfold strip parseInt
    rw [stripWhile_replicate (by decide), stripWhile_replicate (by decide), List.replicate_succ]
    rfl
  unfold sumHandle
  rw [String.toList_ofList, hsplit, List.mapM_cons, hparse]
  rfl

theorem sumHandle_longPayload :
    sumHandle longPayload = .error ("Ungültige Zahlenliste: '" ++ longPayload ++ "'") :=
  sumHandle_replicate 1023

/-- The report about a payload the sum handler refuses. -/
theorem executeTask_of_sumHandle (upper sha256 : String → String) {w : WorkerConfig}
    {request : Envelope TaskPayload} {error : String} (hw : "sum" ∈ w.taskTypes)
    (ht : request.payload.taskType = "sum")
    (he : sumHandle request.payload.taskPayload = .error error) (first second : CallOutcome)
    (now : Int) :
    (executeTask (taskHandlers upper sha256) w false request first second now).1
      = [(reportFailure w request
          ("Interner Fehler bei task_id=" ++ str request.payload.taskId.val ++ ": " ++ error)
          first now).1] := by
  have hh : taskHandlers upper sha256 "sum" = some sumHandle := rfl
  have hproc : processTask (taskHandlers upper sha256) w request.payload
      = .error ("Interner Fehler bei task_id=" ++ str request.payload.taskId.val ++ ": "
          ++ error) := by
    unfold processTask
    rw [ht, if_neg (by simpa using hw), hh]
    simp only [he]
  unfold executeTask
  rw [hproc]
  rfl

/-- What a worker sends for the task, whatever its other handlers compute. -/
theorem executeTask_longCall (upper sha256 : String → String) :
    (executeTask (taskHandlers upper sha256) sumWorker false longCall .returned .returned 2).1
      = [longReport] := by
  have hcall : sumHandle longCall.payload.taskPayload
      = .error ("Ungültige Zahlenliste: '" ++ longPayload ++ "'") := sumHandle_longPayload
  rw [executeTask_of_sumHandle upper sha256 (List.mem_singleton_self _) rfl hcall]
  rfl

/-- ReturnResult stores the error text of a failure report. -/
theorem reportedText_reportFailure (w : WorkerConfig) (request : Envelope TaskPayload)
    (error : String) (call : CallOutcome) (now : Int) :
    reportedText (reportFailure w request error call now).1.payload
      = "task_id=" ++ str request.payload.taskId.val ++ " worker_id=" ++ w.workerId ++ " error='"
        ++ error ++ "'" := rfl

/-- The report is longer than the limit. -/
theorem length_longReport : maxResultLen < (reportedText longReport.payload).length := by
  have hpos : 0 < "task_id=".length := by decide
  unfold longReport
  rw [reportedText_reportFailure]
  unfold longError maxResultLen
  simp only [String.length_append, length_longPayload]
  omega

/-- Post a task and dispatch it. -/
def dispatchOf (request : Envelope PostTaskPayload) : List Event :=
  [.postTask request 0, .dequeue, .lookupReturns "1" [sampleWorker] 1]

/-- A valid task is in flight afterwards. -/
theorem run_dispatchOf (cfg : Config) {request : Envelope PostTaskPayload}
    (hv : Valid request.payload) :
    ∃ d, run (step cfg) init (dispatchOf request) = some d ∧
      d.store.get "1" = some ((Task.posted "1" request.payload 0).dispatchedTo sampleWorker 1) := by
  obtain ⟨a, ha, _, _, hg, hmem⟩ := run_post_dequeue (d := init) cfg hv rfl
  have hid : str ((init.taskIdCounter + 1 : Nat) : Int) = "1" := rfl
  rw [hid] at hg hmem
  obtain ⟨b, hb⟩ := lookupReturns_enabled hmem hg [sampleWorker] 1
  obtain ⟨worker, hsel, hg'⟩ := get_lookupReturns hb (by decide) hg rfl
  have hw : worker = sampleWorker :=
    List.mem_singleton.mp (RoundRobinSelector.mem_of_select hsel)
  rw [hw] at hg'
  have hs : a.step cfg (.lookupReturns "1" [sampleWorker] 1) = some b := hb
  exact ⟨b, run_append_eq_some.mpr ⟨a, ha, run_singleton_eq_some.mpr hs⟩, hg'⟩

/-- The request `_dispatch` sends for it is the one the worker answers. -/
theorem executeCalls_longRequest :
    executeCalls ((Task.posted "1" longRequest.payload 0).dispatchedTo sampleWorker 1)
      sampleWorker 1 = [⟨sampleWorker, longCall⟩] := by
  have hint : int? ((Task.posted "1" longRequest.payload 0).dispatchedTo sampleWorker 1).taskId
      = some sampleTaskId.val := by decide
  unfold executeCalls executeRequest
  rw [hint]
  simp only [encodeInt32_val]
  rfl

/-- The report of the repository's own handler breaks the limit of the result.  The worker of the
task gets `longCall`, and whatever its other handlers compute, it answers with `longReport`. -/
theorem not_respectsLimits_longReport :
    ¬ Along (step ⟨3⟩) (fun _ _ b => RespectsLimits b) init
        (dispatchOf longRequest ++ [.returnResult longReport 2]) ∧
      executeCalls ((Task.posted "1" longRequest.payload 0).dispatchedTo sampleWorker 1)
        sampleWorker 1 = [⟨sampleWorker, longCall⟩] ∧
      ∀ upper sha256,
        (executeTask (taskHandlers upper sha256) sumWorker false longCall .returned .returned 2).1
          = [longReport] := by
  refine ⟨?_, executeCalls_longRequest, executeTask_longCall⟩
  intro hall
  obtain ⟨d, hrun, hg⟩ := run_dispatchOf ⟨3⟩ valid_longRequest
  have hlast := along_iff_forall_split.mp hall (dispatchOf longRequest) (.returnResult longReport 2) []
    d (d.returnResult longReport 2).1 rfl hrun rfl
  have hacc : Accepts ((Task.posted "1" longRequest.payload 0).dispatchedTo sampleWorker 1)
      longReport.payload := .inl rfl
  have hle := (hlast _ _ (get_returnResult_of_accepts hg hacc 2)).result
  rw [Task.reported_result] at hle
  exact absurd length_longReport (Nat.not_lt.mpr hle)

end Dispatcher

end TaskGrid
