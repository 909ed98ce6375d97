/-
  TaskGrid.Dispatcher.Inversion — every step does one `SlotStep` to every slot.

  One lemma for each handler (`slotStep_*`), then the inversion of
  `Dispatcher.step`: `step_slot`.  The handlers are unfolded here and in no
  later proof about single tasks.  `step_ledger` is the inversion for what the
  dispatcher holds for no single task.  `Numbered` says that ids in use are
  numbers the counter has given out, so a new id is always fresh.
-/
import TaskGrid.Dispatcher.SlotStep
import TaskGrid.Lib.Transition

namespace TaskGrid

open TaskGrid.Lib

/-! ## §1. Ids in use. -/

namespace Dispatcher

variable {cfg : Config} {d d' : Dispatcher} {t : String}

/-- Every slot in use belongs to a number the counter has given out. -/
def Numbered (d : Dispatcher) : Prop :=
  ∀ t, d.slot t ≠ Slot.empty → ∃ n : Nat, 0 < n ∧ n ≤ d.taskIdCounter ∧ t = str n

theorem Numbered.next_empty (h : Numbered d) :
    d.slot (str ((d.taskIdCounter + 1 : Nat) : Int)) = Slot.empty := by
  by_contra hne
  obtain ⟨n, _, hle, hn⟩ := h _ hne
  have : n = d.taskIdCounter + 1 := by
    have := str_injective hn
    omega
  omega

theorem slot_ne_empty_of_task {task : Task} (h : d.store.get t = some task) :
    d.slot t ≠ Slot.empty := by
  intro he
  have ht : (d.slot t).task = none := by rw [he]; rfl
  rw [slot_task, h] at ht
  exact absurd ht (by simp)

/-- What only PostTask and a firing timeout write: the counter, the ids in the store, and the
timeouts that have fired. -/
def ledger (d : Dispatcher) : Nat × List String × List Timer :=
  (d.taskIdCounter, d.store.keys, d.fired)

/-! ## §2. One lemma for each handler. -/

/-- The request passes the three checks of PostTask. -/
def Valid (payload : PostTaskPayload) : Prop :=
  payload.taskType ≠ "" ∧ payload.taskType.length ≤ maxTypeLen ∧
    payload.taskPayload.length ≤ maxPayloadLen

instance (payload : PostTaskPayload) : Decidable (Valid payload) :=
  inferInstanceAs (Decidable (_ ∧ _))

/-- PostTask of an invalid request changes nothing. -/
theorem postTask_of_not_valid {request : Envelope PostTaskPayload}
    (h : ¬ Valid request.payload) (d : Dispatcher) (now : Int) :
    ∃ details, d.postTask request now = (d, .ok (rejectPostTask details)) := by
  unfold postTask
  -- the three checks in the order of the source
  by_cases h1 : request.payload.taskType = ""
  · simp only [if_pos h1]
    exact ⟨_, rfl⟩
  by_cases h2 : request.payload.taskType.length > maxTypeLen
  · simp only [if_neg h1, if_pos h2]
    exact ⟨_, rfl⟩
  by_cases h3 : request.payload.taskPayload.length > maxPayloadLen
  · simp only [if_neg h1, if_neg h2, if_pos h3]
    exact ⟨_, rfl⟩
  · exact absurd ⟨h1, Nat.le_of_not_lt h2, Nat.le_of_not_lt h3⟩ h

/-- PostTask of a valid request adds a record under the next number and answers with it. -/
theorem postTask_of_valid {request : Envelope PostTaskPayload} (h : Valid request.payload)
    (d : Dispatcher) (now : Int) :
    d.postTask request now
      = (({ d with
            taskIdCounter := d.taskIdCounter + 1
            store := d.store.put (Task.posted (str ((d.taskIdCounter + 1 : Nat) : Int))
              request.payload now) } : Dispatcher).enqueue
          (str ((d.taskIdCounter + 1 : Nat) : Int)),
        postTaskResponse request (str ((d.taskIdCounter + 1 : Nat) : Int)) now) := by
  obtain ⟨h1, h2, h3⟩ := h
  unfold postTask
  simp only [if_neg h1, if_neg (Nat.not_lt.mpr h2), if_neg (Nat.not_lt.mpr h3)]
  rfl

/-- PostTask either turns the request down and changes nothing, or adds a record under the
next number and answers with it. -/
theorem postTask_cases (d : Dispatcher) (request : Envelope PostTaskPayload) (now : Int) :
    (∃ details, d.postTask request now = (d, .ok (rejectPostTask details)))
      ∨ d.postTask request now
          = (({ d with
                taskIdCounter := d.taskIdCounter + 1
                store := d.store.put (Task.posted (str ((d.taskIdCounter + 1 : Nat) : Int))
                  request.payload now) } : Dispatcher).enqueue
              (str ((d.taskIdCounter + 1 : Nat) : Int)),
            postTaskResponse request (str ((d.taskIdCounter + 1 : Nat) : Int)) now) := by
  by_cases h : Valid request.payload
  · exact .inr (postTask_of_valid h d now)
  · exact .inl (postTask_of_not_valid h d now)

/-- Storing a new record fills the slot of its id. -/
theorem slot_addTask_self (d : Dispatcher) (counter : Nat) {task : Task}
    (h : task.taskId = t) :
    ({ d with taskIdCounter := counter, store := d.store.put task } : Dispatcher).slot t
      = { d.slot t with task := some task } := by
  ext1 <;> simp [slot, Keyed.get_put, h]

/-- Storing a new record leaves the other slots alone. -/
theorem slot_addTask_ne (d : Dispatcher) (counter : Nat) {task : Task}
    (h : task.taskId ≠ t) :
    ({ d with taskIdCounter := counter, store := d.store.put task } : Dispatcher).slot t
      = d.slot t := by
  ext1 <;> simp [slot, Keyed.get_put, h]

/-- PostTask leaves every slot but the next one alone. -/
theorem slot_postTask_ne (d : Dispatcher) (request : Envelope PostTaskPayload) (now : Int)
    (h : str ((d.taskIdCounter + 1 : Nat) : Int) ≠ t) :
    (d.postTask request now).1.slot t = d.slot t := by
  rcases postTask_cases d request now with ⟨_, hd⟩ | hd <;> rw [hd]
  rw [slot_enqueue_ne _ h, slot_addTask_ne d _ h]

theorem slotStep_postTask (hn : Numbered d) (request : Envelope PostTaskPayload) (now : Int)
    (t : String) :
    SlotStep cfg t (.postTask request now) (d.slot t) ((d.postTask request now).1.slot t) := by
  by_cases h : str ((d.taskIdCounter + 1 : Nat) : Int) = t
  · subst h
    rcases postTask_cases d request now with ⟨_, hd⟩ | hd <;> rw [hd]
    · exact .idle _ _
    · -- the id is new, so its slot was empty
      have hid : (Task.posted (str ((d.taskIdCounter + 1 : Nat) : Int)) request.payload
          now).taskId = str ((d.taskIdCounter + 1 : Nat) : Int) := rfl
      rw [slot_enqueue_self, slot_addTask_self d (d.taskIdCounter + 1) hid, hn.next_empty]
      exact .post request now
  · rw [slot_postTask_ne d request now h]
    exact .idle _ _

/-! ## §3. The main loop. -/

/-- Taking an id from the queue consumes one obligation of that id. -/
theorem slot_pop_self {rest : List String} (hq : d.queue = t :: rest) :
    0 < (d.slot t).tokens ∧ ({ d with queue := rest } : Dispatcher).slot t
      = { d.slot t with tokens := (d.slot t).tokens - 1 } := by
  refine ⟨by simp [slot, hq], ?_⟩
  ext1 <;> simp [slot, hq]
  omega

theorem slot_pop_ne {rest : List String} {i : String} (hq : d.queue = i :: rest) (h : i ≠ t) :
    ({ d with queue := rest } : Dispatcher).slot t = d.slot t := by
  ext1 <;> simp [slot, hq, h]

theorem slotStep_dequeue (d : Dispatcher) (t : String) :
    SlotStep cfg t .dequeue (d.slot t) (d.dequeue.slot t) := by
  unfold dequeue
  cases hq : d.queue with
  | nil => exact .idle _ _
  | cons i rest =>
      by_cases h : i = t
      · subst h
        obtain ⟨htok, hpop⟩ := slot_pop_self hq
        simp only []
        cases hg : d.store.get i with
        | none =>
            -- an unknown id: its entry is dropped
            rw [hpop]
            exact .drop htok (by simp [hg])
        | some fresh =>
            simp only []
            by_cases hw : fresh.status.isWaiting = true
            · -- the queue entry becomes a run: one obligation in place of another
              rw [if_pos hw, slot_block_self _ (DispatchRun.pendingFor_self rfl), hpop]
              have hsame : ({ d.slot i with tokens := (d.slot i).tokens - 1 + 1 } : Slot)
                  = d.slot i := by
                rw [Nat.sub_add_cancel htok]
              rw [hsame]
              exact .idle _ _
            · -- the task has moved on: its entry is dropped
              rw [if_neg hw, hpop]
              refine .drop htok ?_
              intro task htask
              rw [slot_task, hg, Option.some.injEq] at htask
              rw [← htask]
              simpa using hw
      · have hpop := slot_pop_ne hq h
        simp only []
        cases hg : d.store.get i with
        | none => rw [hpop]; exact .idle _ _
        | some fresh =>
            simp only []
            split
            · rw [slot_block_of_not _ (DispatchRun.pendingFor_ne h _), hpop]
              exact .idle _ _
            · rw [hpop]; exact .idle _ _

/-! ## §4. `_dispatch`. -/

/-- The call, when the request could be built, is the only thing `dispatch_task` adds. -/
theorem slot_dispatchTask_self (d : Dispatcher) {task : Task} {n : Int}
    (ht : task.taskId = t) (hn : t = str n) (worker : WorkerInfo) (timer : Timer) (now : Int) :
    (d.dispatchTask task worker timer now).slot t
      = { d.slot t with sent := (d.slot t).sent ++ executeCalls task worker now } := by
  unfold dispatchTask executeCalls
  cases he : executeRequest task now with
  | error e => ext1 <;> simp
  | ok request =>
      have hid := taskId_executeRequest (ht.trans hn) he
      simp only []
      rw [slot_block_of_not _ (DispatchRun.pendingFor_dispatchTask _ _ _ _)]
      ext1 <;> simp [slot, ExecuteCall.taskId, hid, hn]

theorem slot_dispatchTask_ne (d : Dispatcher) {task : Task} {n : Int} (hn : task.taskId = str n)
    (h : task.taskId ≠ t) (worker : WorkerInfo) (timer : Timer) (now : Int) :
    (d.dispatchTask task worker timer now).slot t = d.slot t := by
  unfold dispatchTask
  cases he : executeRequest task now with
  | error e => rfl
  | ok request =>
      have hid := taskId_executeRequest hn he
      simp only []
      rw [slot_block_of_not _ (DispatchRun.pendingFor_dispatchTask _ _ _ _)]
      ext1 <;> simp [slot, ExecuteCall.taskId, hid, ← hn, h]

/-- What `_dispatch` can do when `lookup_worker` returns: sleep because there is no worker,
give up because the task no longer waits, or dispatch. -/
theorem lookupReturns_cases {i : String} {workers : List WorkerInfo} {now : Int}
    (hs : d.lookupReturns i workers now = some d') :
    DispatchRun.mk i .lookupWorker ∈ d.runs ∧ ∃ task, d.store.get i = some task ∧
      ∃ d1 : Dispatcher, (∀ t, d1.slot t = (d.resume ⟨i, .lookupWorker⟩).slot t) ∧
        d1.ledger = d.ledger ∧
        (workers = [] ∧ d' = d1.block ⟨i, .noWorkerSleep⟩
          ∨ (task.status.isWaiting = false ∧ d' = d1)
          ∨ ∃ worker, (d.selector.select task.taskType workers).1 = some worker ∧
              task.status.isWaiting = true ∧
              d' = ((d1.update (task.dispatchedTo worker now)).startTimeoutTimer i).1.dispatchTask
                (task.dispatchedTo worker now) worker
                ((d1.update (task.dispatchedTo worker now)).startTimeoutTimer i).2 now) := by
  unfold lookupReturns at hs
  split at hs
  case isFalse => cases hs
  rename_i hr
  refine ⟨hr, ?_⟩
  cases hg : d.store.get i with
  | none => rw [hg] at hs; cases hs
  | some task =>
      rw [hg] at hs
      refine ⟨task, rfl, { d.resume ⟨i, .lookupWorker⟩ with
        selector := (d.selector.select task.taskType workers).2 }, fun _ => rfl, rfl, ?_⟩
      simp only [] at hs
      cases hw : (d.selector.select task.taskType workers).1 with
      | none =>
          rw [hw] at hs
          exact .inl ⟨RoundRobinSelector.select_eq_none hw, (Option.some.inj hs).symm⟩
      | some worker =>
          rw [hw] at hs
          simp only [] at hs
          by_cases hwait : task.status.isWaiting = true
          · rw [transition_of_mem (dispatched_mem_validTransitions.mpr hwait)] at hs
            exact .inr (.inr ⟨worker, rfl, hwait, (Option.some.inj hs).symm⟩)
          · have hno := fun hm => hwait (dispatched_mem_validTransitions.mp hm)
            rw [transition_of_not_mem hno] at hs
            exact .inr (.inl ⟨by simpa using hwait, (Option.some.inj hs).symm⟩)

theorem slotStep_lookupReturns (hn : Numbered d) {i : String} {workers : List WorkerInfo}
    {now : Int} (hs : d.lookupReturns i workers now = some d') (t : String) :
    SlotStep cfg t (.lookupReturns i workers now) (d.slot t) (d'.slot t) := by
  obtain ⟨hr, task, hg, d1, hd1, _, hcases⟩ := lookupReturns_cases hs
  have hkey : task.taskId = i := Keyed.key_of_get hg
  obtain ⟨n, _, _, hnum⟩ := hn i (slot_ne_empty_of_task hg)
  by_cases h : i = t
  · subst h
    obtain ⟨htok, hres⟩ := slot_resume_self d hr (DispatchRun.pendingFor_self rfl)
    rcases hcases with ⟨_, hd'⟩ | ⟨hw, hd'⟩ | ⟨worker, hsel, hw, hd'⟩ <;> rw [hd']
    · -- the run blocks again, in the sleep: it stays the same obligation
      rw [slot_block_self _ (DispatchRun.pendingFor_self rfl), hd1, hres]
      simp only [Nat.sub_add_cancel htok]
      exact .idle _ _
    · -- the transition is refused: the run ends with nothing done
      rw [hd1, hres]
      refine .drop htok ?_
      intro task' htask
      rw [slot_task, hg, Option.some.injEq] at htask
      rw [← htask]
      exact hw
    · -- dispatched: the run turns into the live timer
      have hid : (task.dispatchedTo worker now).taskId = i := hkey
      rw [slot_dispatchTask_self _ hid hnum, slot_startTimeoutTimer_self,
        slot_update_self _ hid, hd1, hres]
      have htask : (d.slot i).task = some task := hg
      simp only [htask, Option.map_some]
      exact .dispatch htask (RoundRobinSelector.mem_of_select hsel) htok hw rfl
  · -- nothing of another task changes in any of the three cases
    have hpr := DispatchRun.pendingFor_ne h
    rcases hcases with ⟨_, hd'⟩ | ⟨hw, hd'⟩ | ⟨worker, hsel, hw, hd'⟩ <;> rw [hd']
    · rw [slot_block_of_not _ (hpr _), hd1, slot_resume_of_not _ (hpr _)]
      exact .idle _ _
    · rw [hd1, slot_resume_of_not _ (hpr _)]
      exact .idle _ _
    · have hid : (task.dispatchedTo worker now).taskId ≠ t := fun he => h (hkey.symm.trans he)
      have hnid : (task.dispatchedTo worker now).taskId = str n := hkey.trans hnum
      rw [slot_dispatchTask_ne _ hnid hid, slot_startTimeoutTimer_ne _ h,
        slot_update_ne _ hid, hd1, slot_resume_of_not _ (hpr _)]
      exact .idle _ _

/-- The return of `lookup_worker` is enabled for every run that waits for it. -/
theorem lookupReturns_enabled {i : String} {task : Task}
    (hr : DispatchRun.mk i .lookupWorker ∈ d.runs) (hg : d.store.get i = some task)
    (workers : List WorkerInfo) (now : Int) : ∃ d', d.lookupReturns i workers now = some d' := by
  unfold lookupReturns
  rw [if_pos hr, hg]
  simp only []
  split
  · exact ⟨_, rfl⟩
  · split <;> exact ⟨_, rfl⟩

/-- With a worker at hand, a waiting task goes to the selected one. -/
theorem get_lookupReturns {i : String} {workers : List WorkerInfo} {now : Int} {task : Task}
    (hs : d.lookupReturns i workers now = some d') (hne : workers ≠ [])
    (hg : d.store.get i = some task) (hw : task.status.isWaiting = true) :
    ∃ worker, (d.selector.select task.taskType workers).1 = some worker ∧
      d'.store.get i = some (task.dispatchedTo worker now) := by
  obtain ⟨_, task', hg', d1, hd1, _, hcases⟩ := lookupReturns_cases hs
  have htask : task' = task := by
    rw [hg, Option.some.injEq] at hg'
    exact hg'.symm
  subst htask
  rcases hcases with ⟨hnil, _⟩ | ⟨hnw, _⟩ | ⟨worker, hsel, _, hd'⟩
  · exact absurd hnil hne
  · rw [hnw] at hw
    cases hw
  · refine ⟨worker, hsel, ?_⟩
    have hkey : task'.taskId = i := Keyed.key_of_get hg
    have hid : (task'.dispatchedTo worker now).taskId = i := hkey
    have h1 : d1.store.get i = some task' := by
      have := congrArg Slot.task (hd1 i)
      rw [slot_task, slot_task] at this
      exact this.trans hg
    have hstore : d'.store = d1.store.update (task'.dispatchedTo worker now) := by
      rw [hd']
      unfold dispatchTask
      split <;> rfl
    rw [hstore, Keyed.get_update, if_pos hid, h1]
    rfl

theorem slotStep_sleepEnds {i : String} (hs : d.sleepEnds i = some d') (t : String) :
    SlotStep cfg t (.sleepEnds i) (d.slot t) (d'.slot t) := by
  unfold sleepEnds at hs
  split at hs
  case isFalse => cases hs
  rename_i hr
  rw [Option.some.injEq] at hs
  subst hs
  by_cases h : i = t
  · subst h
    -- the sleeping run becomes a queue entry
    obtain ⟨htok, hres⟩ := slot_resume_self d hr (DispatchRun.pendingFor_self rfl)
    rw [slot_enqueue_self, hres]
    simp only [Nat.sub_add_cancel htok]
    exact .idle _ _
  · rw [slot_enqueue_ne _ h, slot_resume_of_not _ (DispatchRun.pendingFor_ne h _)]
    exact .idle _ _

/-- Writing the stored record of a task changes only the `task` of its slot. -/
theorem slot_update_of_get {i : String} {task task' : Task} (d : Dispatcher)
    (hg : (d.slot i).task = some task) (hid : task'.taskId = i) :
    (d.update task').slot i = { d.slot i with task := some task' } := by
  rw [slot_update_self _ hid, hg]
  rfl

/-- `_dispatch` after `dispatch_task`, on the slot of its own task. -/
theorem slotStep_handleReply_self (cfg : Config) (d : Dispatcher) {i : String} {task : Task}
    (hg : d.store.get i = some task)
    (worker : WorkerInfo) (timer : Timer) (success : Option Bool) (now : Int) :
    SlotStep cfg i (.reply i worker timer success now) (d.slot i)
      ((d.handleReply task success now).slot i) := by
  have hkey : task.taskId = i := Keyed.key_of_get hg
  have htask : (d.slot i).task = some task := hg
  have hid : ∀ s, (task.enter s now).taskId = i := by
    intro s
    rw [enter_taskId, hkey]
  cases success with
  | none => exact .idle _ _
  | some b =>
      cases b with
      | true =>
          -- an acceptance has an effect on a DISPATCHED task only
          unfold handleReply
          by_cases hd : task.status = .dispatched
          · simp only [transition_of_mem (processing_mem_validTransitions.mpr hd)]
            rw [slot_update_of_get _ htask (hid _)]
            exact .accept htask hd
          · have hno := fun hm => hd (processing_mem_validTransitions.mp hm)
            simp only [transition_of_not_mem hno]
            exact .idle _ _
      | false =>
          -- a rejection cancels the timer even when the transition is refused
          unfold handleReply
          rw [hkey]
          by_cases hs : task.status.isWaiting = true ∨ task.status.isInFlight = true
          · simp only [transition_of_mem (failed_mem_validTransitions.mpr hs)]
            have hc : ((d.cancelTimeout i).slot i).task = some task := by
              rw [slot_cancelTimeout_self, Slot.cancel_task, htask]
            rw [slot_update_of_get _ hc (hid _), slot_cancelTimeout_self]
            exact .reject htask hs
          · have hno := fun hm => hs (failed_mem_validTransitions.mp hm)
            simp only [transition_of_not_mem hno]
            rw [slot_cancelTimeout_self]
            refine .cancel htask ?_
            have hf := (not_or.mp hs).2
            simpa using hf

theorem slot_handleReply_ne {i : String} {task : Task} (hkey : task.taskId = i) (h : i ≠ t)
    (success : Option Bool) (now : Int) :
    (d.handleReply task success now).slot t = d.slot t := by
  have hid : ∀ s, (task.enter s now).taskId ≠ t := by
    intro s
    rw [enter_taskId, hkey]
    exact h
  unfold handleReply
  split
  · split
    · rename_i task' htr
      rw [(transition_eq_ok_iff.mp htr).2, slot_update_ne _ (hid _)]
    · rfl
  · rw [hkey]
    simp only []
    split
    · rename_i task' htr
      rw [(transition_eq_ok_iff.mp htr).2, slot_update_ne _ (hid _), slot_cancelTimeout_ne _ h]
    · rw [slot_cancelTimeout_ne _ h]
  · rfl

theorem slotStep_reply {i : String} {worker : WorkerInfo} {timer : Timer}
    {success : Option Bool} {now : Int}
    (hs : d.reply i worker timer success now = some d') (t : String) :
    SlotStep cfg t (.reply i worker timer success now) (d.slot t) (d'.slot t) := by
  unfold reply at hs
  split at hs
  case isFalse => cases hs
  cases hg : d.store.get i with
  | none => rw [hg] at hs; cases hs
  | some task =>
      rw [hg] at hs
      simp only [Option.some.injEq] at hs
      subst hs
      have hres := slot_resume_of_not d (DispatchRun.pendingFor_dispatchTask i t worker timer)
      by_cases h : i = t
      · subst h
        have hg' : (d.resume ⟨i, .dispatchTask worker timer⟩).store.get i = some task := hg
        rw [← hres]
        exact slotStep_handleReply_self cfg _ hg' worker timer success now
      · rw [slot_handleReply_ne (Keyed.key_of_get hg) h, hres]
        exact .idle _ _

/-! ## §5. Timers. -/

/-- `_on_timeout` of a task in flight: through TIMEOUT and RETRYING to FAILED when the
retries are used up, else to a delayed re-enqueue. -/
theorem onTimeout_of_inFlight {i : String} {task : Task} (hg : d.store.get i = some task)
    (hf : task.status.isInFlight = true) (now : Int) :
    d.onTimeout cfg i now
      = if task.retryCount + 1 ≥ cfg.maxRetries then
          (d.update (task.timedOut now)).update ((task.timedOut now).enter .failed now)
        else
          (d.update (task.timedOut now)).startDelayTimer i := by
  have hnt : isTerminal task = false := (not_waiting_of_inFlight hf).2
  have hr1 : TaskState.retrying ∈ validTransitions (task.enter .timeout now).status := by
    rw [enter_status]; decide
  have hr2 : TaskState.failed ∈ validTransitions (task.timedOut now).status := by
    show TaskState.failed ∈ validTransitions .retrying
    decide
  -- the record after the two transitions and the increment is `timedOut`
  have hfail : transition (task.timedOut now) .failed now
      = .ok ((task.timedOut now).enter .failed now) := transition_of_mem hr2
  unfold Task.timedOut at hfail
  unfold onTimeout
  rw [hg]
  simp only [hnt, transition_of_mem (timeout_mem_validTransitions.mpr hf),
    transition_of_mem hr1, hfail]
  simp only [enter_retryCount]
  rfl

/-- `_on_timeout` of a task that is not in flight does nothing. -/
theorem onTimeout_of_not_inFlight {i : String}
    (hf : ∀ task, d.store.get i = some task → task.status.isInFlight = false) (now : Int) :
    d.onTimeout cfg i now = d := by
  unfold onTimeout
  cases hg : d.store.get i with
  | none => rfl
  | some task =>
      have hno : TaskState.timeout ∉ validTransitions task.status := by
        intro hm
        have := timeout_mem_validTransitions.mp hm
        rw [hf task hg] at this
        cases this
      simp only [transition_of_not_mem hno]
      split <;> rfl

/-- The two cases of `_on_timeout`: there is a record in flight, or there is none. -/
theorem inFlight_cases (d : Dispatcher) (i : String) :
    (∃ task, d.store.get i = some task ∧ task.status.isInFlight = true)
      ∨ ∀ task, d.store.get i = some task → task.status.isInFlight = false := by
  cases hg : d.store.get i with
  | none => exact .inr (fun _ h => nomatch h)
  | some task =>
      cases hf : task.status.isInFlight with
      | true => exact .inl ⟨task, rfl, hf⟩
      | false =>
          right
          intro task' h
          rw [← Option.some.inj h]
          exact hf

theorem slot_onTimeout_ne {i : String} (h : i ≠ t) (now : Int) :
    (d.onTimeout cfg i now).slot t = d.slot t := by
  rcases inFlight_cases d i with ⟨task, hg, hf⟩ | hnf
  · have hid : (task.timedOut now).taskId ≠ t := fun he => h ((Keyed.key_of_get hg).symm.trans he)
    have hid' : ((task.timedOut now).enter .failed now).taskId ≠ t := by
      rw [enter_taskId]
      exact hid
    rw [onTimeout_of_inFlight hg hf]
    split
    · rw [slot_update_ne _ hid', slot_update_ne _ hid]
    · rw [slot_startDelayTimer_ne _ h, slot_update_ne _ hid]
  · rw [onTimeout_of_not_inFlight hnf]

theorem slotStep_timerFires {timer : Timer} {now : Int}
    (hs : d.timerFires cfg timer now = some d') (t : String) :
    SlotStep cfg t (.timerFires timer now) (d.slot t) (d'.slot t) := by
  unfold timerFires at hs
  split at hs
  case isFalse => cases hs
  rename_i hl
  rw [Option.some.injEq] at hs
  subst hs
  by_cases h : timer.taskId = t
  · -- first the timer moves to the fired ones, then `_on_timeout` reads the record
    obtain ⟨hlive, hfired⟩ := slot_fired_self d h hl
    obtain ⟨d1, hd1⟩ : ∃ d1 : Dispatcher, d1 =
        { d with live := d.live.erase timer, fired := d.fired ++ [timer] } := ⟨_, rfl⟩
    have hstore : d1.store = d.store := by rw [hd1]
    rw [← hd1] at hfired ⊢
    rcases inFlight_cases d1 timer.taskId with ⟨task, hg, hf⟩ | hnf
    · have hkey := Keyed.key_of_get hg
      have htask : (d.slot t).task = some task := by rw [slot_task, ← hstore, ← h, hg]
      have htask1 : (d1.slot t).task = some task := by rw [hfired]; exact htask
      have hid : (task.timedOut now).taskId = t := hkey.trans h
      rw [onTimeout_of_inFlight hg hf]
      by_cases hr : task.retryCount + 1 ≥ cfg.maxRetries
      · have hid' : ((task.timedOut now).enter .failed now).taskId = t := by
          rw [enter_taskId, hid]
        have hup := slot_update_of_get d1 htask1 hid
        rw [if_pos hr, slot_update_of_get _ (by rw [hup]) hid', hup, hfired]
        exact .exhaust h hlive htask hf hr
      · rw [if_neg hr, h, slot_startDelayTimer_self, slot_update_of_get d1 htask1 hid, hfired]
        exact .retry h hlive htask hf hr
    · rw [onTimeout_of_not_inFlight hnf, hfired]
      refine .lateTimeout h hlive ?_
      intro task htask
      apply hnf
      rw [hstore, h]
      exact htask
  · rw [slot_onTimeout_ne h, slot_fired_ne _ h]
    exact .idle _ _

theorem slotStep_reenqueueAfterDelay {i : String} (hs : d.reenqueueAfterDelay i = some d')
    (t : String) :
    SlotStep cfg t (.reenqueueAfterDelay i) (d.slot t) (d'.slot t) := by
  unfold reenqueueAfterDelay at hs
  split at hs
  case isFalse => cases hs
  rename_i hmem
  rw [Option.some.injEq] at hs
  have hcount : 0 < d.delayed.count i := List.count_pos_iff.mpr hmem
  -- the delay becomes a queue entry: the sum of the obligations is the same
  have hsame : d'.slot t = d.slot t := by
    rw [← hs]
    by_cases h : i = t
    · subst h
      rw [slot_enqueue_self]
      ext1 <;> simp [slot]
      omega
    · rw [slot_enqueue_ne _ h]
      ext1 <;> simp [slot, List.count_erase_of_ne (Ne.symm h)]
  rw [hsame]
  exact .idle _ _

/-! ## §6. ReturnResult. -/

/-- The intermediate transition never fails. -/
theorem startProcessing_eq (task : Task) (now : Int) :
    startProcessing task now = .ok (task.processed now) := by
  unfold startProcessing Task.processed
  split
  · rename_i hd
    exact transition_of_mem (processing_mem_validTransitions.mpr hd)
  · rfl

/-- The second transition of ReturnResult succeeds exactly for an accepted report. -/
theorem reportedState_mem_iff {task : Task} {report : ResultPayload} {now : Int} :
    reportedState report.status ∈ validTransitions (task.processed now).status
      ↔ Accepts task report := by
  unfold reportedState Accepts
  by_cases hf : task.status.isInFlight = true
  · -- in flight, both reports lead out of PROCESSING
    rw [Task.processed_status_of_inFlight now hf]
    constructor
    · exact fun _ => .inl hf
    · intro _
      split <;> decide
  · rw [Task.processed_of_not_inFlight now hf]
    by_cases hc : report.status = "COMPLETED"
    · rw [if_pos hc, completed_mem_validTransitions]
      constructor
      · intro hs
        exact absurd (by rw [hs]; rfl) hf
      · intro h
        rcases h with h | h
        · exact absurd h hf
        · exact absurd hc h.2
    · rw [if_neg hc, failed_mem_validTransitions]
      constructor
      · intro h
        rcases h with h | h
        · exact .inr ⟨h, hc⟩
        · exact absurd h hf
      · intro h
        rcases h with h | h
        · exact absurd h hf
        · exact .inl h.1

/-- **ReturnResult, the report is accepted**: the timer is cancelled, the record carries the
reported state and text, and the Ack says success. -/
theorem returnResult_of_accepts {request : Envelope ResultPayload} {task : Task}
    (hg : d.store.get (str request.payload.taskId.val) = some task)
    (ha : Accepts task request.payload) (now : Int) :
    d.returnResult request now
      = (((d.cancelTimeout (str request.payload.taskId.val)).update (task.processed now)).update
          (task.reported request.payload now),
        { message := {
            messageType := "ACK"
            requestId := request.requestId
            timestamp := now
            sender := "dispatcher"
            payload := { success := true } } }) := by
  have hnt : isTerminal task = false := by
    rcases ha with hf | hw
    · exact (not_waiting_of_inFlight hf).2
    · exact (not_inFlight_of_waiting hw.1).2
  unfold returnResult
  simp only [hg, hnt, startProcessing_eq, transition_of_mem (reportedState_mem_iff.mpr ha)]
  rfl

/-- **ReturnResult, the report is refused**: the timer is cancelled all the same, and the
record stays. -/
theorem returnResult_of_not_accepts {request : Envelope ResultPayload} {task : Task}
    (hg : d.store.get (str request.payload.taskId.val) = some task)
    (hnt : isTerminal task = false) (ha : ¬ Accepts task request.payload) (now : Int) :
    d.returnResult request now
      = ((d.cancelTimeout (str request.payload.taskId.val)).update task,
        bareAck false (InvalidTransitionError.message
          ⟨task.taskId, task.status, reportedState request.payload.status⟩)) := by
  have hp : task.processed now = task :=
    Task.processed_of_not_inFlight now fun hf => ha (.inl hf)
  have hno : reportedState request.payload.status ∉ validTransitions task.status := by
    rw [← hp, reportedState_mem_iff]
    exact ha
  unfold returnResult
  simp only [hg, hnt, startProcessing_eq, hp, transition_of_not_mem hno]
  rfl

/-- ReturnResult of a terminal task changes nothing. -/
theorem returnResult_of_terminal {request : Envelope ResultPayload} {task : Task}
    (hg : d.store.get (str request.payload.taskId.val) = some task)
    (ht : isTerminal task = true) (now : Int) :
    d.returnResult request now = (d, bareAck true "already terminal") := by
  unfold returnResult
  simp only [hg, ht, if_true]

/-- ReturnResult of an unknown task changes nothing. -/
theorem returnResult_of_none {request : Envelope ResultPayload}
    (hg : d.store.get (str request.payload.taskId.val) = none) (now : Int) :
    d.returnResult request now = (d, bareAck false "unknown task_id") := by
  unfold returnResult
  simp only [hg]

/-- The four cases of ReturnResult: an unknown task, a terminal one, a report the record accepts,
and one it refuses. -/
theorem returnResult_cases (d : Dispatcher) (report : ResultPayload) :
    d.store.get (str report.taskId.val) = none ∨
      ∃ task, d.store.get (str report.taskId.val) = some task ∧
        (isTerminal task = true ∨ Accepts task report
          ∨ isTerminal task = false ∧ ¬ Accepts task report) := by
  cases hg : d.store.get (str report.taskId.val) with
  | none => exact .inl rfl
  | some task =>
      refine .inr ⟨task, rfl, ?_⟩
      by_cases ha : Accepts task report
      · exact .inr (.inl ha)
      · cases ht : isTerminal task with
        | true => exact .inl rfl
        | false => exact .inr (.inr ⟨rfl, ha⟩)

/-- A refused report leaves the records alone. -/
theorem store_returnResult_of_not_accepts {request : Envelope ResultPayload} {task : Task}
    (hg : d.store.get (str request.payload.taskId.val) = some task)
    (hnt : isTerminal task = false) (ha : ¬ Accepts task request.payload) (now : Int) :
    (d.returnResult request now).1.store = d.store := by
  have hself : d.store.get task.taskId = some task := by
    rw [Keyed.key_of_get hg]
    exact hg
  rw [returnResult_of_not_accepts hg hnt ha]
  show (d.cancelTimeout _).store.update task = d.store
  rw [store_cancelTimeout, Keyed.update_self hself]

/-- The slot of the task after an accepted report. -/
theorem slot_returnResult_of_accepts {request : Envelope ResultPayload} {task : Task}
    (hg : d.store.get (str request.payload.taskId.val) = some task)
    (ha : Accepts task request.payload) (now : Int) :
    (d.returnResult request now).1.slot (str request.payload.taskId.val)
      = { (d.slot (str request.payload.taskId.val)).cancel with
          task := some (task.reported request.payload now) } := by
  have hkey := Keyed.key_of_get hg
  have hid : (task.processed now).taskId = str request.payload.taskId.val := by
    rw [Task.processed_taskId, hkey]
  have hid' : (task.reported request.payload now).taskId = str request.payload.taskId.val := by
    rw [Task.reported_taskId, hkey]
  have hc : ((d.cancelTimeout (str request.payload.taskId.val)).slot
      (str request.payload.taskId.val)).task = some task := by
    rw [slot_cancelTimeout_self, Slot.cancel_task]
    exact hg
  have hup := slot_update_of_get _ hc hid
  rw [returnResult_of_accepts hg ha, slot_update_of_get _ (by rw [hup]) hid', hup,
    slot_cancelTimeout_self]

/-- The record after an accepted report. -/
theorem get_returnResult_of_accepts {request : Envelope ResultPayload} {task : Task}
    (hg : d.store.get (str request.payload.taskId.val) = some task)
    (ha : Accepts task request.payload) (now : Int) :
    (d.returnResult request now).1.store.get (str request.payload.taskId.val)
      = some (task.reported request.payload now) :=
  congrArg Slot.task (slot_returnResult_of_accepts hg ha now)

/-- Accepted or refused, a report changes the slot of its own id only. -/
theorem slot_returnResult_ne {request : Envelope ResultPayload}
    (h : str request.payload.taskId.val ≠ t) (now : Int) :
    (d.returnResult request now).1.slot t = d.slot t := by
  rcases returnResult_cases d request.payload with hg | ⟨task, hg, ht | ha | ⟨hnt, ha⟩⟩
  · rw [returnResult_of_none hg]
  · rw [returnResult_of_terminal hg ht]
  · have hid : task.taskId ≠ t := fun he => h ((Keyed.key_of_get hg).symm.trans he)
    have hid1 : (task.processed now).taskId ≠ t := by
      rw [Task.processed_taskId]
      exact hid
    have hid2 : (task.reported request.payload now).taskId ≠ t := by
      rw [Task.reported_taskId]
      exact hid
    rw [returnResult_of_accepts hg ha, slot_update_ne _ hid2, slot_update_ne _ hid1,
      slot_cancelTimeout_ne _ h]
  · have hid : task.taskId ≠ t := fun he => h ((Keyed.key_of_get hg).symm.trans he)
    rw [returnResult_of_not_accepts hg hnt ha, slot_update_ne _ hid, slot_cancelTimeout_ne _ h]

theorem slotStep_returnResult (d : Dispatcher) (request : Envelope ResultPayload) (now : Int)
    (t : String) :
    SlotStep cfg t (.returnResult request now) (d.slot t)
      ((d.returnResult request now).1.slot t) := by
  by_cases h : str request.payload.taskId.val = t
  case neg =>
    rw [slot_returnResult_ne h now]
    exact .idle _ _
  subst h
  rcases returnResult_cases d request.payload with hg | ⟨task, hg, ht | ha | ⟨hnt, ha⟩⟩
  · rw [returnResult_of_none hg]
    exact .idle _ _
  · rw [returnResult_of_terminal hg ht]
    exact .idle _ _
  · rw [slot_returnResult_of_accepts hg ha]
    exact .report rfl hg ha
  · -- the refused report has cancelled the timer all the same
    have hc : ((d.cancelTimeout (str request.payload.taskId.val)).slot
        (str request.payload.taskId.val)).task = some task := by
      rw [slot_cancelTimeout_self, Slot.cancel_task]
      exact hg
    have hsame : ({ (d.slot (str request.payload.taskId.val)).cancel with
        task := some task } : Slot) = (d.slot (str request.payload.taskId.val)).cancel := by
      ext1 <;> simp [hg]
    rw [returnResult_of_not_accepts hg hnt ha, slot_update_of_get _ hc (Keyed.key_of_get hg),
      slot_cancelTimeout_self, hsame]
    refine .cancel hg ?_
    by_contra hne
    exact ha (.inl (by simpa using hne))

/-! ## §7. The inversion of the step function. -/

/-- **Inversion.**  A step does to every slot one of the things `SlotStep` lists. -/
theorem step_slot (hn : Numbered d) {e : Event} (hs : d.step cfg e = some d') (t : String) :
    SlotStep cfg t e (d.slot t) (d'.slot t) := by
  cases e with
  | postTask request now => cases hs; exact slotStep_postTask hn request now t
  | returnResult request now => cases hs; exact slotStep_returnResult d request now t
  | dequeue => cases hs; exact slotStep_dequeue d t
  | lookupReturns i workers now => exact slotStep_lookupReturns hn hs t
  | sleepEnds i => exact slotStep_sleepEnds hs t
  | reply i worker timer success now => exact slotStep_reply hs t
  | timerFires timer now => exact slotStep_timerFires hs t
  | reenqueueAfterDelay i => exact slotStep_reenqueueAfterDelay hs t

/-! ## §8. The ledger. -/

/-- The ledger and the selector: what the writes to records, queue, runs and timers leave alone. -/
def frame (d : Dispatcher) : (Nat × List String × List Timer) × RoundRobinSelector :=
  (d.ledger, d.selector)

@[simp] theorem frame_update (d : Dispatcher) (task : Task) : (d.update task).frame = d.frame := by
  simp [frame, ledger, update]

@[simp] theorem frame_cancelTimeout (d : Dispatcher) (i : String) :
    (d.cancelTimeout i).frame = d.frame := by
  unfold cancelTimeout
  split <;> rfl

@[simp] theorem frame_dispatchTask (d : Dispatcher) (task : Task) (worker : WorkerInfo)
    (timer : Timer) (now : Int) : (d.dispatchTask task worker timer now).frame = d.frame := by
  unfold dispatchTask
  split <;> rfl

theorem frame_dequeue (d : Dispatcher) : d.dequeue.frame = d.frame := by
  unfold dequeue
  split
  · rfl
  · simp only []
    split
    · rfl
    · split <;> rfl

theorem frame_handleReply (d : Dispatcher) (task : Task) (success : Option Bool) (now : Int) :
    (d.handleReply task success now).frame = d.frame := by
  unfold handleReply
  split
  · split <;> simp
  · simp only []
    split <;> simp
  · rfl

theorem frame_onTimeout (d : Dispatcher) (cfg : Config) (i : String) (now : Int) :
    (d.onTimeout cfg i now).frame = d.frame := by
  rcases inFlight_cases d i with ⟨task, hg, hf⟩ | hnf
  · rw [onTimeout_of_inFlight hg hf]
    split
    · simp
    · exact frame_update d _
  · rw [onTimeout_of_not_inFlight hnf]

theorem frame_returnResult (d : Dispatcher) (request : Envelope ResultPayload) (now : Int) :
    (d.returnResult request now).1.frame = d.frame := by
  rcases returnResult_cases d request.payload with hg | ⟨task, hg, ht | ha | ⟨hnt, ha⟩⟩
  · rw [returnResult_of_none hg]
  · rw [returnResult_of_terminal hg ht]
  · rw [returnResult_of_accepts hg ha]
    simp
  · rw [returnResult_of_not_accepts hg hnt ha]
    simp

/-- The timeouts that fire in a step. -/
def firings : Event → List Timer
  | .timerFires timer _ => [timer]
  | _ => []

/-- A step is a PostTask, or one that gives out no id. -/
theorem post_or_not (e : Event) :
    (∃ request now, e = .postTask request now) ∨ ∀ request now, e ≠ .postTask request now := by
  by_cases hp : ∃ request now, e = .postTask request now
  · exact .inl hp
  · exact .inr fun request now he => hp ⟨request, now, he⟩

/-- **Only PostTask gives out ids, and only a firing timeout is recorded as one.** -/
theorem step_ledger {e : Event} (hs : d.step cfg e = some d')
    (hp : ∀ request now, e ≠ .postTask request now) :
    d'.ledger = (d.taskIdCounter, d.store.keys, d.fired ++ firings e) := by
  have hquiet : d.ledger = (d.taskIdCounter, d.store.keys, d.fired ++ []) := by
    rw [List.append_nil]
    rfl
  cases e with
  | postTask request now => exact absurd rfl (hp request now)
  | returnResult request now =>
      cases hs
      exact (congrArg Prod.fst (frame_returnResult d request now)).trans hquiet
  | dequeue =>
      cases hs
      exact (congrArg Prod.fst (frame_dequeue d)).trans hquiet
  | lookupReturns i workers now =>
      obtain ⟨_, task, _, d1, _, hl1, hcases⟩ := lookupReturns_cases hs
      refine Eq.trans ?_ hquiet
      rcases hcases with ⟨_, hd'⟩ | ⟨_, hd'⟩ | ⟨worker, _, _, hd'⟩ <;> rw [hd']
      · exact hl1
      · exact hl1
      · refine (congrArg Prod.fst (frame_dispatchTask _ _ worker _ now)).trans ?_
        exact (congrArg Prod.fst (frame_update d1 _)).trans hl1
  | sleepEnds i =>
      simp only [step, sleepEnds] at hs
      split at hs <;> cases hs
      exact hquiet
  | reply i worker timer success now =>
      simp only [step, reply] at hs
      split at hs
      case isFalse => cases hs
      split at hs <;> cases hs
      exact (congrArg Prod.fst (frame_handleReply _ _ success now)).trans hquiet
  | timerFires timer now =>
      simp only [step, timerFires] at hs
      split at hs <;> cases hs
      exact congrArg Prod.fst (frame_onTimeout _ cfg timer.taskId now)
  | reenqueueAfterDelay i =>
      simp only [step, reenqueueAfterDelay] at hs
      split at hs <;> cases hs
      exact hquiet

/-- Only PostTask moves the counter. -/
theorem step_counter {e : Event} (hs : d.step cfg e = some d')
    (hp : ∀ request now, e ≠ .postTask request now) : d'.taskIdCounter = d.taskIdCounter :=
  congrArg Prod.fst (step_ledger hs hp)

/-- Only a firing timeout is recorded as one. -/
theorem step_fired {e : Event} (hs : d.step cfg e = some d') : d'.fired = d.fired ++ firings e := by
  rcases post_or_not e with ⟨request, now, rfl⟩ | hp
  · cases hs
    refine Eq.trans ?_ (List.append_nil d.fired).symm
    rcases postTask_cases d request now with ⟨_, h⟩ | h <;> rw [h]
    rfl
  · exact congrArg (·.2.2) (step_ledger hs hp)

/-! ## §9. New ids are fresh. -/

theorem numbered_init : Numbered init := fun _ h => absurd rfl h

/-- Ids in use stay numbers the counter has given out. -/
theorem numbered_step (hn : Numbered d) {e : Event} (hs : d.step cfg e = some d') :
    Numbered d' := by
  intro t hne
  rcases post_or_not e with ⟨request, now, rfl⟩ | hp
  · cases hs
    have hc : d.taskIdCounter ≤ (d.postTask request now).1.taskIdCounter := by
      rcases postTask_cases d request now with ⟨_, h⟩ | h <;> rw [h]
      exact Nat.le_succ _
    by_cases h : str ((d.taskIdCounter + 1 : Nat) : Int) = t
    · -- the id just given out
      rcases postTask_cases d request now with ⟨_, hd⟩ | hd
      · rw [hd] at hne
        rw [hd]
        exact hn t hne
      · rw [hd]
        exact ⟨d.taskIdCounter + 1, by omega, Nat.le_refl _, h.symm⟩
    · rw [slot_postTask_ne d request now h] at hne
      obtain ⟨n, hpos, hle, ht⟩ := hn t hne
      exact ⟨n, hpos, by omega, ht⟩
  · rw [step_counter hs hp]
    by_cases he : d.slot t = Slot.empty
    · -- an empty slot stays empty
      have := step_slot hn hs t
      rw [he] at this
      exact absurd (this.of_empty hp) hne
    · exact hn t he

/-- **Ids in use are numbers the counter has given out, in every reachable state.** -/
theorem numbered_of_reachable (h : Reachable (step cfg) init d) : Numbered d :=
  h.invariant numbered_init fun _ _ _ _ hn hs => numbered_step hn hs

/-- **The store holds the ids that have been given out, in this order.** -/
theorem keys_of_reachable (h : Reachable (step cfg) init d) :
    d.store.keys = (List.range d.taskIdCounter).map fun n => str ((n + 1 : Nat) : Int) := by
  refine h.invariant (I := fun d => d.store.keys
    = (List.range d.taskIdCounter).map fun n => str ((n + 1 : Nat) : Int)) rfl ?_
  intro a e b ha hkeys hs
  rcases post_or_not e with ⟨request, now, rfl⟩ | hp
  · cases hs
    rcases postTask_cases a request now with ⟨_, hb⟩ | hb <;> rw [hb]
    · exact hkeys
    · have hfree : a.store.get (str ((a.taskIdCounter + 1 : Nat) : Int)) = none :=
        congrArg Slot.task (numbered_of_reachable ha).next_empty
      have hnew : str ((a.taskIdCounter + 1 : Nat) : Int) ∉ a.store.keys := by
        rw [Keyed.mem_keys_iff, hfree]
        rintro ⟨_, h⟩
        cases h
      have hput : (a.store.put (Task.posted (str ((a.taskIdCounter + 1 : Nat) : Int))
          request.payload now)).keys = a.store.keys ++ [str ((a.taskIdCounter + 1 : Nat) : Int)] :=
        (Keyed.keys_put _ _).trans (if_neg hnew)
      refine hput.trans ?_
      show _ = (List.range (a.taskIdCounter + 1)).map _
      rw [hkeys, List.range_succ, List.map_append]
      rfl
  · have hledger := step_ledger hs hp
    have hc : b.taskIdCounter = a.taskIdCounter := congrArg Prod.fst hledger
    have hk : b.store.keys = a.store.keys := congrArg (·.2.1) hledger
    rw [hc, hk]
    exact hkeys

end Dispatcher

end TaskGrid
