/-
  TaskGrid.Dispatcher.StatusCollector — status_collector.py and worker_load_map.

  The figures are computed from the records alone.  What they mean is a
  statement about the run that led there: `tally` counts what has happened in
  its steps, and `figures_add_up` and `anzahlRetries_eq` set the figures
  against these counts.

  The records of a reachable state are those of the numbers given out
  (`keys_of_reachable`), each with the counters of its own slot, so a sum over
  the records is a count over the history of the dispatcher.
-/
import TaskGrid.Dispatcher.Atomicity
import TaskGrid.Lib.Counting
import Mathlib.Algebra.BigOperators.Ring.Finset
import Mathlib.Algebra.Order.Ring.Rat

namespace TaskGrid

open TaskGrid.Lib

/-! ## §1. The figures. -/

/-- What `get_status` returns.  The average is the exact one, before `round(…, 1)`. -/
structure Status where
  aktiveWorker : Nat
  unterstuetzteTasktypen : List String
  offeneTasks : Nat
  laufendeTasks : Nat
  abgeschlosseneTasks : Nat
  fehlgeschlageneTasks : Nat
  durchschnittlicheBearbeitungszeitMs : ℚ
  anzahlTimeouts : Int
  anzahlRetries : Int

/-- `StatusCollector.get_status`.  `lookupWorker` stands for the answers of the naming
service. -/
def getStatus (store : TaskStore) (lookupWorker : String → List WorkerInfo) : Status :=
  let tasks := store.entries
  let queued := tasks.countP fun t => t.status = .queued
  let running := tasks.countP fun t =>
    t.status = .dispatched || t.status = .processing || t.status = .retrying
  let completed := tasks.countP fun t => t.status = .completed
  let failed := tasks.countP fun t => t.status = .failed || t.status = .timeout
  let timeouts := (tasks.map Task.retryCount).sum
  let doneWithTime := tasks.filter fun t =>
    t.status = .completed && t.timestampDispatched > 0 && t.timestampCompleted > 0
  let avgMs : ℚ :=
    if doneWithTime = [] then 0
    else
      (((doneWithTime.map fun t => (t.timestampCompleted - t.timestampDispatched) * 1000).sum
        : Int) : ℚ) / doneWithTime.length
  let knownTypes := (tasks.map Task.taskType).dedup
  let activeWorkerIds := ((knownTypes.flatMap lookupWorker).map WorkerInfo.workerId).dedup
  { aktiveWorker := activeWorkerIds.length
    unterstuetzteTasktypen := knownTypes
    offeneTasks := queued
    laufendeTasks := running
    abgeschlosseneTasks := completed
    fehlgeschlageneTasks := failed
    durchschnittlicheBearbeitungszeitMs := avgMs
    anzahlTimeouts := timeouts
    anzahlRetries := timeouts }

/-- `TaskStore.worker_load_map` -/
def workerLoadMap (store : TaskStore) : Histogram String :=
  store.entries.foldl
    (fun load t =>
      if t.status.isInFlight && t.assignedWorker ≠ "" then load.tick t.assignedWorker else load)
    .empty

/-- The load map counts the tasks in flight that have a worker, by worker. -/
theorem workerLoadMap_eq (store : TaskStore) :
    workerLoadMap store = histogram Task.assignedWorker
      (store.entries.filter fun t => t.status.isInFlight && t.assignedWorker ≠ "") := by
  unfold workerLoadMap histogram
  rw [List.foldl_filter]

/-- The four counters leave out the tasks that are CREATED. -/
theorem counters_add (store : TaskStore) (lookupWorker : String → List WorkerInfo)
    (h : ∀ t ∈ store.entries, t.status ≠ .created) :
    (getStatus store lookupWorker).offeneTasks + (getStatus store lookupWorker).laufendeTasks
      + (getStatus store lookupWorker).abgeschlosseneTasks
      + (getStatus store lookupWorker).fehlgeschlageneTasks = store.entries.length := by
  show store.entries.countP _ + store.entries.countP _ + store.entries.countP _
    + store.entries.countP _ = _
  revert h
  induction store.entries with
  | nil => intro _; rfl
  | cons t l ih =>
      intro h
      have ih := ih fun u hu => h u (List.mem_cons_of_mem t hu)
      have ht := h t List.mem_cons_self
      simp only [List.countP_cons, List.length_cons]
      -- every other state is in exactly one of the four counters
      cases hs : t.status <;> simp_all <;> omega

/-! ## §2. What the figures count. -/

namespace Dispatcher

variable {cfg : Config} {d : Dispatcher}

/-- A PostTask call is accepted. -/
def acceptedPost (a : Dispatcher) (e : Event) (_ : Dispatcher) : Nat :=
  match e with
  | .postTask request now =>
      match (a.postTask request now).2 with
      | .ok reply => if reply.message.payload.success then 1 else 0
      | .error _ => 0
  | _ => 0

/-- A timer fires and finds its task DISPATCHED or PROCESSING. -/
def timeoutInFlight (a : Dispatcher) (e : Event) (_ : Dispatcher) : Nat :=
  match e with
  | .timerFires timer _ =>
      if (a.store.get timer.taskId).any fun t => t.status.isInFlight then 1 else 0
  | _ => 0

/-- The delayed re-enqueues a timeout callback creates. -/
def rescheduled (a : Dispatcher) (e : Event) (b : Dispatcher) : Nat :=
  match e with
  | .timerFires _ _ => b.delayed.length - a.delayed.length
  | _ => 0

/-- A timeout callback gives its task up. -/
def gaveUp (_ : Dispatcher) (e : Event) (b : Dispatcher) : Nat :=
  match e with
  | .timerFires timer _ =>
      if (b.store.get timer.taskId).any fun t => t.status = .failed then 1 else 0
  | _ => 0

/-- The worker the latest ExecuteTask of a task went to. -/
def latestWorker (d : Dispatcher) (t : String) : Option String :=
  (d.sentFor t).getLast?.map fun call => call.worker.workerId

/-- The number of tasks in flight whose latest ExecuteTask went to the worker. -/
def tasksAt (d : Dispatcher) (w : String) : Nat :=
  d.store.entries.countP fun t => t.status.isInFlight && d.latestWorker t.taskId = some w

/-- The naming service gives out no empty worker id in the step. -/
def NamesWorkers (e : Event) : Prop :=
  ∀ i workers now, e = .lookupReturns i workers now → ∀ w ∈ workers, w.workerId ≠ ""

/-! ## §3. Posts and timeouts. -/

/-- A call that answers success has moved the counter, and below 2^31 every call that moves the
counter answers success. -/
theorem acceptedPost_step {a b : Dispatcher} {e : Event} (hs : a.step cfg e = some b) :
    min b.taskIdCounter (2 ^ 31 - 1) = min a.taskIdCounter (2 ^ 31 - 1) + acceptedPost a e b := by
  rcases post_or_not e with ⟨request, now, rfl⟩ | hp
  case inr =>
    have hzero : acceptedPost a e b = 0 := by
      cases e with
      | postTask request now => exact absurd rfl (hp request now)
      | _ => rfl
    rw [hzero, step_counter hs hp, Nat.add_zero]
  cases hs
  by_cases hv : Valid request.payload
  case neg =>
    obtain ⟨details, hd⟩ := postTask_of_not_valid hv a now
    have hzero : acceptedPost a (.postTask request now) a = 0 := by
      simp only [acceptedPost, hd]
      rfl
    rw [hd, hzero, Nat.add_zero]
  have hpost := postTask_of_valid hv a now
  have hcounter : (a.postTask request now).1.taskIdCounter = a.taskIdCounter + 1 := by
    rw [hpost]
    rfl
  rw [hcounter]
  rcases postTaskResponse_str request ((a.taskIdCounter + 1 : Nat) : Int) now with
    ⟨_, hle, reply, hok, hsucc, _⟩ | ⟨hbig, e, herr⟩
  · -- the number fits: the counter and the count go up together
    have hone : acceptedPost a (.postTask request now) (a.postTask request now).1 = 1 := by
      simp only [acceptedPost, hpost, hok, hsucc, if_true]
    rw [hone]
    omega
  · -- the call raises, and the counter has passed the bound
    have hzero : acceptedPost a (.postTask request now) (a.postTask request now).1 = 0 := by
      simp only [acceptedPost, hpost, herr]
    rw [hzero]
    omega

/-- Below 2^31 the counter is the number of accepted calls. -/
theorem tally_acceptedPost {es : List Event} (hr : run (step cfg) init es = some d)
    (hposts : d.taskIdCounter < 2 ^ 31) :
    tally (step cfg) acceptedPost init es = d.taskIdCounter := by
  have htally : min d.taskIdCounter (2 ^ 31 - 1)
      = min init.taskIdCounter (2 ^ 31 - 1) + tally (step cfg) acceptedPost init es :=
    run_tally (f := fun d => min d.taskIdCounter (2 ^ 31 - 1)) (fun _ _ _ _ => acceptedPost_step)
      es (Reachable.init init) hr
  have hzero : init.taskIdCounter = 0 := rfl
  omega

/-- Every timer that fires finds its task in flight. -/
theorem timeoutInFlight_step {a b : Dispatcher} {e : Event} (ha : Reachable (step cfg) init a)
    (hs : a.step cfg e = some b) :
    b.fired.length = a.fired.length + timeoutInFlight a e b := by
  have hfirings : timeoutInFlight a e b = (firings e).length := by
    cases e with
    | timerFires timer now =>
        obtain ⟨hlive, _⟩ := fired_timerFires hs
        obtain ⟨task, hg, hf, _⟩ := inFlight_of_mem_live ha hlive
        simp only [timeoutInFlight, hg, Option.any_some, hf, if_true]
        rfl
    | _ => rfl
  rw [hfirings, step_fired hs, List.length_append]

/-- The sum of `retry_count` over the records is the number of timeouts that have fired. -/
theorem sum_retryCount (h : Reachable (step cfg) init d) :
    (d.store.entries.map Task.retryCount).sum = d.fired.length := by
  -- each record counts the timeouts of its own id
  have hown : d.store.entries.map Task.retryCount
      = (d.store.keys.map fun k => (d.fired.filter (·.taskId = k)).length).map Nat.cast := by
    unfold Keyed.keys
    rw [List.map_map, List.map_map]
    apply List.map_congr_left
    intro task htask
    exact (taskInv_of_reachable h (Keyed.get_of_mem htask)).retries
  -- and every timeout is one of a stored task
  have hmem : ∀ timer ∈ d.fired, timer.taskId ∈ d.store.keys := by
    intro timer htimer
    rw [Keyed.mem_keys_iff, ← Option.isSome_iff_exists]
    by_contra hnone
    have hslot := slot_eq_empty_of_none h (Option.not_isSome_iff_eq_none.mp hnone)
    have hin : timer ∈ (d.slot timer.taskId).fired := by simp [slot, htimer]
    rw [hslot] at hin
    cases hin
  have hsum := sum_length_fibers d.store.nodup Timer.taskId d.fired hmem
  rw [hown, ← Nat.cast_list_sum]
  exact congrArg Nat.cast hsum

end Dispatcher

/-! ## §4. The worker of a task in flight. -/

/-- The record of a task in flight names the worker its latest ExecuteTask went to. -/
def CallInv (t : String) (s : Slot) : Prop :=
  Int32Id t → ∀ task, s.task = some task → task.status.isInFlight = true →
    task.assignedWorker ≠ "" ∧
      ∃ call, s.sent.getLast? = some call ∧ call.worker.workerId = task.assignedWorker

/-- A record that is not in flight promises nothing. -/
theorem CallInv.of_not_inFlight {t : String} {s : Slot} {task : Task} (htask : s.task = some task)
    (hf : task.status.isInFlight = false) : CallInv t s := by
  intro _ task' htask' hf'
  rw [htask, Option.some.injEq] at htask'
  rw [← htask', hf] at hf'
  cases hf'

/-- **Step lemma.**  A step keeps the worker of a task in flight. -/
theorem callInv_step {cfg : Config} {t : String} {e : Event} {s s' : Slot}
    (h : SlotStep cfg t e s s') (hi : SlotInv t s) (hnames : Dispatcher.NamesWorkers e)
    (hc : CallInv t s) : CallInv t s' := by
  cases h with
  | idle => exact hc
  | post => exact .of_not_inFlight rfl rfl
  | drop => exact hc
  | @dispatch workers now _ task worker timer htask hmem htok hw ht =>
      intro hid task' htask' _
      rw [Option.some.injEq] at htask'
      subst htask'
      have hkey : (task.dispatchedTo worker now).taskId = t := (hi.taskInv htask).id
      refine ⟨hnames t workers now rfl worker hmem, ?_⟩
      -- the id fits, so the request has been sent
      obtain ⟨request, hr⟩ := (executeRequest_isOk_iff (task.dispatchedTo worker now) now).mpr
        (hkey.symm ▸ hid)
      refine ⟨⟨worker, request⟩, ?_, rfl⟩
      unfold executeCalls
      rw [hr]
      exact List.getLast?_concat
  | @accept worker timer now _ task htask hd =>
      -- the status changes, the worker and the requests do not
      intro hid task' htask' _
      rw [Option.some.injEq] at htask'
      subst htask'
      exact hc hid task htask (by rw [hd]; rfl)
  | reject => exact .of_not_inFlight rfl rfl
  | @cancel _ _ task htask hf => exact .of_not_inFlight (by rw [Slot.cancel_task, htask]) hf
  | @report request now _ task hid htask ha =>
      refine .of_not_inFlight rfl ?_
      exact (not_active_of_terminal (task.isTerminal_reported request.payload now)).2
  | retry => exact .of_not_inFlight rfl rfl
  | exhaust => exact .of_not_inFlight rfl rfl
  | lateTimeout => exact hc

namespace Dispatcher

variable {cfg : Config} {d : Dispatcher}

theorem callInv_of_run {es : List Event} (hr : run (step cfg) init es = some d)
    (hnames : ∀ e ∈ es, NamesWorkers e) (t : String) : CallInv t (d.slot t) := by
  refine run_preserves_of_labels (I := fun d => CallInv t (d.slot t)) ?_ es (Reachable.init init)
    hnames ?_ hr
  · intro a e b ha hn hc hs
    exact callInv_step (slotStep_of_reachable ha hs t) (slotInv_of_reachable ha t) hn hc
  · intro _ task htask
    cases htask

/-- Below 2^31 every id in the store is an int32. -/
theorem int32Id_of_get (h : Reachable (step cfg) init d) (hposts : d.taskIdCounter < 2 ^ 31)
    {t : String} {task : Task} (hg : d.store.get t = some task) : Int32Id t := by
  obtain ⟨n, _, hle, rfl⟩ := numbered_of_reachable h t (slot_ne_empty_of_task hg)
  rw [int32Id_str]
  omega

/-- What the load map asks of a record: in flight, with this worker. -/
theorem counted_iff {es : List Event} (hr : run (step cfg) init es = some d)
    (hposts : d.taskIdCounter < 2 ^ 31) (hnames : ∀ e ∈ es, NamesWorkers e) {task : Task}
    (htask : task ∈ d.store.entries) :
    (task.status.isInFlight = true → task.assignedWorker ≠ "") ∧
      ∀ w, task.status.isInFlight = true →
        (task.assignedWorker = w ↔ d.latestWorker task.taskId = some w) := by
  have hg := Keyed.get_of_mem htask
  have hid := int32Id_of_get ⟨es, hr⟩ hposts hg
  have hinv := callInv_of_run hr hnames task.taskId hid task hg
  refine ⟨fun hf => (hinv hf).1, fun w hf => ?_⟩
  obtain ⟨_, call, hlast, hworker⟩ := hinv hf
  have hlatest : d.latestWorker task.taskId = some task.assignedWorker := by
    show ((d.slot task.taskId).sent.getLast?.map fun call => call.worker.workerId) = _
    rw [hlast, Option.map_some, hworker]
  rw [hlatest, Option.some.injEq]

/-- The load of a worker is the number of tasks in flight that were sent to it last. -/
theorem read_workerLoadMap {es : List Event} (hr : run (step cfg) init es = some d)
    (hposts : d.taskIdCounter < 2 ^ 31) (hnames : ∀ e ∈ es, NamesWorkers e) (w : String) :
    (workerLoadMap d.store).read w = d.tasksAt w := by
  rw [workerLoadMap_eq, read_histogram, List.countP_filter]
  unfold tasksAt
  apply List.countP_congr
  intro task htask
  obtain ⟨hne, hw⟩ := counted_iff hr hposts hnames htask
  have hw := hw w
  simp only [Bool.and_eq_true, decide_eq_true_eq]
  constructor
  · rintro ⟨ha, hf, _⟩
    exact ⟨hf, (hw hf).mp ha⟩
  · rintro ⟨hf, hl⟩
    exact ⟨(hw hf).mpr hl, hf, hne hf⟩

/-- The loads add up to the number of tasks in flight. -/
theorem total_workerLoadMap {es : List Event} (hr : run (step cfg) init es = some d)
    (hposts : d.taskIdCounter < 2 ^ 31) (hnames : ∀ e ∈ es, NamesWorkers e) :
    (workerLoadMap d.store).total = d.store.entries.countP fun t => t.status.isInFlight := by
  rw [workerLoadMap_eq, total_histogram, ← List.countP_eq_length_filter]
  apply List.countP_congr
  intro task htask
  obtain ⟨hne, _⟩ := counted_iff hr hposts hnames htask
  simp only [Bool.and_eq_true, decide_eq_true_eq]
  exact ⟨fun h => h.1, fun hf => ⟨hf, hne hf⟩⟩

/-! ## §5. The figures add up. -/

/-- **The monitoring figures add up.**  After every run in which fewer than 2^31 tasks have been
posted and the naming service has given out no empty worker id: the four counters sum up to the
accepted PostTask calls, `anzahl_timeouts` is the number of timers that found their task in
flight, the load of a worker is the number of tasks in flight whose latest ExecuteTask went to
it, and the loads sum up to the number of tasks in flight. -/
theorem figures_add_up (cfg : Config) {es : List Event} {d : Dispatcher}
    (hr : run (step cfg) init es = some d) (hposts : d.taskIdCounter < 2 ^ 31)
    (hnames : ∀ e ∈ es, NamesWorkers e) (lookupWorker : String → List WorkerInfo) :
    (getStatus d.store lookupWorker).offeneTasks + (getStatus d.store lookupWorker).laufendeTasks
        + (getStatus d.store lookupWorker).abgeschlosseneTasks
        + (getStatus d.store lookupWorker).fehlgeschlageneTasks
      = tally (step cfg) acceptedPost init es ∧
    (getStatus d.store lookupWorker).anzahlTimeouts = tally (step cfg) timeoutInFlight init es ∧
    (∀ w, (workerLoadMap d.store).read w = d.tasksAt w) ∧
    (workerLoadMap d.store).total = d.store.entries.countP fun t => t.status.isInFlight := by
  have hd : Reachable (step cfg) init d := ⟨es, hr⟩
  refine ⟨?_, ?_, read_workerLoadMap hr hposts hnames, total_workerLoadMap hr hposts hnames⟩
  · have hproper : ∀ t ∈ d.store.entries, t.status ≠ .created := by
      intro task htask hs
      have hstatus := (taskInv_of_reachable hd (Keyed.get_of_mem htask)).status
      rw [hs] at hstatus
      exact absurd hstatus (by decide)
    have hlength : d.store.entries.length = d.taskIdCounter := by
      have hkeys := congrArg List.length (keys_of_reachable hd)
      simpa [Keyed.keys] using hkeys
    rw [counters_add d.store lookupWorker hproper, hlength, tally_acceptedPost hr hposts]
  · have htally : d.fired.length = init.fired.length + tally (step cfg) timeoutInFlight init es :=
      run_tally (f := fun d => d.fired.length) (fun _ _ _ => timeoutInFlight_step) es
        (Reachable.init init) hr
    show (d.store.entries.map Task.retryCount).sum = _
    rw [sum_retryCount hd, htally]
    simp [init]

theorem namesWorkers_sampleDispatch : ∀ e ∈ sampleDispatch, NamesWorkers e := by
  intro e he i workers now h w hw
  subst h
  have heq : workers = [sampleWorker] := by
    simp [sampleDispatch] at he
    exact he.2.1
  rw [heq, List.mem_singleton] at hw
  rw [hw]
  decide

/-- One task in flight at the sample worker. -/
theorem figures_add_up_sampleDispatch :
    ∃ d, run (step ⟨3⟩) init sampleDispatch = some d ∧
      (getStatus d.store fun _ => [sampleWorker]).laufendeTasks
        = tally (step ⟨3⟩) acceptedPost init sampleDispatch ∧
      (workerLoadMap d.store).read "w1" = d.tasksAt "w1" ∧ d.tasksAt "w1" = 1 := by
  refine ⟨_, rfl, ?_, ?_, by decide⟩
  · obtain ⟨hsum, _⟩ := @figures_add_up ⟨3⟩ sampleDispatch _ rfl (by decide)
      namesWorkers_sampleDispatch fun _ => [sampleWorker]
    exact hsum
  · obtain ⟨_, _, hload, _⟩ := @figures_add_up ⟨3⟩ sampleDispatch _ rfl (by decide)
      namesWorkers_sampleDispatch fun _ => [sampleWorker]
    exact hload "w1"

/-! ## §6. Retries. -/

/-- A timeout either schedules its task for another attempt or gives it up. -/
theorem rescheduled_add_gaveUp {a b : Dispatcher} {timer : Timer} {now : Int}
    (ha : Reachable (step cfg) init a) (hs : a.step cfg (.timerFires timer now) = some b) :
    rescheduled a (.timerFires timer now) b + gaveUp a (.timerFires timer now) b = 1 := by
  obtain ⟨hlive, _⟩ := fired_timerFires hs
  obtain ⟨task, hg, hf, _⟩ := inFlight_of_mem_live ha hlive
  have hkey : task.taskId = timer.taskId := Keyed.key_of_get hg
  have hid : (task.timedOut now).taskId = timer.taskId := hkey
  have hid' : ((task.timedOut now).enter .failed now).taskId = timer.taskId := by
    rw [enter_taskId, hid]
  obtain ⟨d, hd⟩ : ∃ d : Dispatcher, d =
      { a with live := a.live.erase timer, fired := a.fired ++ [timer] } := ⟨_, rfl⟩
  have hgd : d.store.get timer.taskId = some task := by
    rw [hd]
    exact hg
  have hdelayed : d.delayed = a.delayed := by rw [hd]
  simp only [step, timerFires, if_pos hlive, Option.some.injEq] at hs
  rw [← hd, onTimeout_of_inFlight hgd hf] at hs
  split at hs
  · -- the retries are used up: FAILED, and nothing is scheduled
    have hdelayed' : b.delayed = a.delayed := by
      rw [← hs]
      exact hdelayed
    have hget : b.store.get timer.taskId = some ((task.timedOut now).enter .failed now) := by
      rw [← hs]
      show ((d.store.update (task.timedOut now)).update _).get timer.taskId = _
      rw [Keyed.get_update, if_pos hid', Keyed.get_update, if_pos hid, hgd]
      rfl
    simp [rescheduled, gaveUp, hdelayed', hget]
  · -- another attempt is scheduled: RETRYING
    have hdelayed' : b.delayed = a.delayed ++ [timer.taskId] := by
      rw [← hs, ← hdelayed]
      rfl
    have hget : b.store.get timer.taskId = some (task.timedOut now) := by
      rw [← hs]
      show (d.store.update (task.timedOut now)).get timer.taskId = _
      rw [Keyed.get_update, if_pos hid, hgd]
      rfl
    have hstatus : (task.timedOut now).status = .retrying := rfl
    simp [rescheduled, gaveUp, hdelayed', hget, hstatus]

/-- **What `anzahl_retries` counts.**  After every run it is the number of delayed re-enqueues
the timeout callbacks have created, plus the number of timeout callbacks that have given their
task up. -/
theorem anzahlRetries_eq (cfg : Config) {es : List Event} {d : Dispatcher}
    (hr : run (step cfg) init es = some d) (lookupWorker : String → List WorkerInfo) :
    (getStatus d.store lookupWorker).anzahlRetries
      = tally (step cfg) rescheduled init es + tally (step cfg) gaveUp init es := by
  have hstep : ∀ a e b, Reachable (step cfg) init a → a.step cfg e = some b →
      b.fired.length = a.fired.length + (rescheduled a e b + gaveUp a e b) := by
    intro a e b ha hs
    have hfirings : rescheduled a e b + gaveUp a e b = (firings e).length := by
      cases e with
      | timerFires timer now => exact rescheduled_add_gaveUp ha hs
      | _ => rfl
    rw [hfirings, step_fired hs, List.length_append]
  have htally : d.fired.length = init.fired.length
      + tally (step cfg) (fun a e b => rescheduled a e b + gaveUp a e b) init es :=
    run_tally (f := fun d => d.fired.length) hstep es (Reachable.init init) hr
  rw [tally_add] at htally
  show (d.store.entries.map Task.retryCount).sum = _
  rw [sum_retryCount ⟨es, hr⟩, htally]
  simp [init]

/-- The only attempt allowed times out. -/
def onlyAttemptRun : List Event := sampleDispatch ++ [.timerFires ⟨0, "1"⟩ 3]

theorem anzahlRetries_eq_onlyAttemptRun :
    ∃ d, run (step ⟨1⟩) init onlyAttemptRun = some d ∧
      (getStatus d.store fun _ => []).anzahlRetries
        = tally (step ⟨1⟩) rescheduled init onlyAttemptRun
          + tally (step ⟨1⟩) gaveUp init onlyAttemptRun :=
  ⟨_, rfl, anzahlRetries_eq ⟨1⟩ rfl fun _ => []⟩

/-- One retry is reported, and no task has been scheduled for another attempt. -/
theorem anzahlRetries_ne_rescheduled :
    ¬ ∀ (cfg : Config) (es : List Event) (d : Dispatcher), run (step cfg) init es = some d →
      (getStatus d.store fun _ => []).anzahlRetries = tally (step cfg) rescheduled init es := by
  intro hall
  exact absurd (hall ⟨1⟩ onlyAttemptRun _ rfl) (by decide)

end Dispatcher

end TaskGrid
