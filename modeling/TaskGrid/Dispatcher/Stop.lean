/-
  TaskGrid.Dispatcher.Stop — DispatchLoop.stop.

  `stop` clears the flag the main loop looks at between two iterations.
  Everything else goes on: runs of `_dispatch` that have been submitted,
  timers, delayed re-enqueues, and the handlers of the servicer.

  Main results:
    * `stop_quiesces` — what is sent after `stop` is bounded by the runs that
      wait for their lookup, and one task more if the main loop is in the
      middle of an iteration.
    * `stranded_after_stop` — a task posted after the main loop has ended is
      accepted, and then never sent; it stays what PostTask has stored until
      somebody reports a failure for it.
-/
import TaskGrid.Dispatcher.Progress
import TaskGrid.Dispatcher.Atomicity
import Mathlib.Algebra.Order.BigOperators.Group.List

namespace TaskGrid

open TaskGrid.Lib

/-! ## §1. The main loop and its flag. -/

/-- Where the thread of the main loop stands. -/
inductive LoopPoint where
  /-- Before `while self._running`. -/
  | condition
  /-- In the body. -/
  | body
  | ended
  deriving DecidableEq

/-- The dispatcher with the thread of its main loop. -/
structure DispatchLoop where
  dispatcher : Dispatcher
  running : Bool
  point : LoopPoint

/-- The labels of the steps. -/
inductive LoopEvent where
  /-- The main loop evaluates its condition. -/
  | readRunning
  /-- The body of the main loop. -/
  | iterate
  | stop
  /-- Any step of the dispatcher but an iteration of the main loop. -/
  | dispatcher (e : Event)

namespace DispatchLoop

/-- After `start()`. -/
def init : DispatchLoop := ⟨.init, true, .condition⟩

/-- One atomic step. -/
def step (cfg : Config) (l : DispatchLoop) : LoopEvent → Option DispatchLoop
  | .readRunning =>
      if l.point = .condition then some { l with point := if l.running then .body else .ended }
      else none
  | .iterate =>
      if l.point = .body then
        some { l with dispatcher := l.dispatcher.dequeue, point := .condition }
      else none
  | .stop => some { l with running := false }
  | .dispatcher e =>
      if e = .dequeue then none
      else (l.dispatcher.step cfg e).map fun d => { l with dispatcher := d }

end DispatchLoop

/-! ## §2. Requests and the runs that send them. -/

/-- The run waits for `lookup_worker`. -/
def DispatchRun.awaitsLookup (run : DispatchRun) : Bool := run.point = .lookupWorker

theorem callsLeft_le {runs : List DispatchRun} {run : DispatchRun} (h : run ∈ runs) :
    run.callsLeft ≤ callsLeft runs :=
  List.single_le_sum (fun _ _ => Nat.zero_le _) _ (List.mem_map_of_mem h)

/-- A step that resumes a run leaves no new run at its lookup. -/
theorem countP_awaitsLookup_of_callsLeft {runs : List DispatchRun} {run : DispatchRun}
    (h : callsLeft runs < run.callsLeft) : runs.countP DispatchRun.awaitsLookup = 0 := by
  rw [List.countP_eq_zero]
  intro r hr hlookup
  have hpoint : r.point = .lookupWorker := by simpa [DispatchRun.awaitsLookup] using hlookup
  have htwo : r.callsLeft = 2 := by
    unfold DispatchRun.callsLeft
    rw [hpoint]
  have hle : r.callsLeft ≤ callsLeft runs := callsLeft_le hr
  have hmost : run.callsLeft ≤ 2 := by
    unfold DispatchRun.callsLeft
    split <;> decide
  omega

namespace Dispatcher

variable {cfg : Config} {d d' : Dispatcher} {t : String}

/-- The requests that have been sent and the runs that may still send one. -/
def sentOrAsking (d : Dispatcher) : Nat :=
  d.sent.length + d.runs.countP DispatchRun.awaitsLookup

theorem sent_cancelTimeout (d : Dispatcher) (i : String) : (d.cancelTimeout i).sent = d.sent := by
  unfold cancelTimeout
  split <;> rfl

theorem sent_handleReply (d : Dispatcher) (task : Task) (success : Option Bool) (now : Int) :
    (d.handleReply task success now).sent = d.sent := by
  unfold handleReply
  split
  · split <;> rfl
  · simp only []
    split
    · exact sent_cancelTimeout d task.taskId
    · exact sent_cancelTimeout d task.taskId
  · rfl

theorem sent_returnResult (d : Dispatcher) (request : Envelope ResultPayload) (now : Int) :
    (d.returnResult request now).1.sent = d.sent := by
  rcases returnResult_cases d request.payload with hg | ⟨task, hg, ht | ha | ⟨hnt, ha⟩⟩
  · rw [returnResult_of_none hg]
  · rw [returnResult_of_terminal hg ht]
  · rw [returnResult_of_accepts hg ha]
    exact sent_cancelTimeout d _
  · rw [returnResult_of_not_accepts hg hnt ha]
    exact sent_cancelTimeout d _

theorem sent_onTimeout (d : Dispatcher) (cfg : Config) (i : String) (now : Int) :
    (d.onTimeout cfg i now).sent = d.sent := by
  rcases inFlight_cases d i with ⟨task, hg, hf⟩ | hnf
  · rw [onTimeout_of_inFlight hg hf]
    split <;> rfl
  · rw [onTimeout_of_not_inFlight hnf]

/-- The return of a lookup sends at most one request. -/
theorem sent_lookupReturns {i : String} {workers : List WorkerInfo} {now : Int}
    (hs : d.lookupReturns i workers now = some d') : d'.sent.length ≤ d.sent.length + 1 := by
  unfold lookupReturns at hs
  split at hs
  case isFalse => cases hs
  cases hg : d.store.get i with
  | none => rw [hg] at hs; cases hs
  | some task =>
      rw [hg] at hs
      simp only [] at hs
      split at hs
      · cases hs
        exact Nat.le_succ _
      · split at hs <;> cases hs
        · exact Nat.le_succ _
        · unfold dispatchTask
          split
          · exact Nat.le_succ _
          · exact Nat.le_of_eq List.length_append

/-- A step that resumes no run and is no iteration of the main loop leaves the runs alone. -/
theorem runs_of_step {e : Event} (hs : d.step cfg e = some d') (hres : e.resumed = none)
    (hne : e ≠ .dequeue) : d'.runs = d.runs := by
  cases e with
  | postTask request now =>
      cases hs
      rcases postTask_cases d request now with ⟨_, h⟩ | h <;> rw [h]
      rfl
  | returnResult request now =>
      cases hs
      exact congrArg (·.2.1) (places_returnResult d request now)
  | dequeue => exact absurd rfl hne
  | lookupReturns i workers now => cases hres
  | sleepEnds i => cases hres
  | reply i worker timer success now => cases hres
  | timerFires timer now =>
      simp only [step, timerFires] at hs
      split at hs <;> cases hs
      obtain ⟨new, h⟩ := appends_onTimeout
        { d with live := d.live.erase timer, fired := d.fired ++ [timer] } cfg timer.taskId now
      exact congrArg (·.2.1) h
  | reenqueueAfterDelay i =>
      simp only [step, reenqueueAfterDelay] at hs
      split at hs <;> cases hs
      rfl

/-- Only the return of a lookup sends a request. -/
theorem sent_of_step {e : Event} (hs : d.step cfg e = some d')
    (hne : ∀ i workers now, e ≠ .lookupReturns i workers now) : d'.sent = d.sent := by
  cases e with
  | postTask request now =>
      cases hs
      rcases postTask_cases d request now with ⟨_, h⟩ | h <;> rw [h]
      rfl
  | returnResult request now => cases hs; exact sent_returnResult d request now
  | dequeue =>
      cases hs
      unfold dequeue
      split
      · rfl
      · simp only []
        split
        · rfl
        · split <;> rfl
  | lookupReturns i workers now => exact absurd rfl (hne i workers now)
  | sleepEnds i =>
      simp only [step, sleepEnds] at hs
      split at hs <;> cases hs
      rfl
  | reply i worker timer success now =>
      simp only [step, reply] at hs
      split at hs
      case isFalse => cases hs
      split at hs <;> cases hs
      exact sent_handleReply _ _ success now
  | timerFires timer now =>
      simp only [step, timerFires] at hs
      split at hs <;> cases hs
      exact sent_onTimeout _ cfg timer.taskId now
  | reenqueueAfterDelay i =>
      simp only [step, reenqueueAfterDelay] at hs
      split at hs <;> cases hs
      rfl

/-- The run a step resumes has been there. -/
theorem mem_runs_of_resumed {e : Event} {run : DispatchRun} (hs : d.step cfg e = some d')
    (hres : e.resumed = some run) : run ∈ d.runs := by
  cases e with
  | lookupReturns i workers now =>
      cases hres
      exact (lookupReturns_cases hs).1
  | sleepEnds i =>
      cases hres
      simp only [step, sleepEnds] at hs
      split at hs
      · assumption
      · cases hs
  | reply i worker timer success now =>
      cases hres
      simp only [step, reply] at hs
      split at hs
      · assumption
      · cases hs
  | _ => cases hres

/-- Resuming a run and blocking it again: no run comes to a lookup. -/
theorem countP_awaitsLookup_of_resumed {e : Event} {run : DispatchRun}
    (hs : d.step cfg e = some d') (hres : e.resumed = some run) :
    d'.runs.countP DispatchRun.awaitsLookup + (if run.awaitsLookup then 1 else 0)
      = d.runs.countP DispatchRun.awaitsLookup := by
  obtain ⟨new, hruns, hblocks⟩ := (step_appends hs).runs
  have hmem := mem_runs_of_resumed hs hres
  have hnew : new.countP DispatchRun.awaitsLookup = 0 := by
    unfold Event.Blocks at hblocks
    rw [hres] at hblocks
    exact countP_awaitsLookup_of_callsLeft hblocks
  have hkeep : e.keepRuns d.runs = d.runs.erase run := by
    unfold Event.keepRuns
    rw [hres]
  rw [hruns, hkeep, List.countP_append, hnew, List.countP_erase]
  by_cases hlookup : run.awaitsLookup = true
  · have hpos : 0 < d.runs.countP DispatchRun.awaitsLookup :=
      List.countP_pos_iff.mpr ⟨run, hmem, hlookup⟩
    rw [if_pos ⟨hmem, hlookup⟩, if_pos hlookup]
    omega
  · rw [if_neg (fun h => hlookup h.2), if_neg hlookup]
    omega

/-- **Step lemma.**  Only the main loop makes new runs that may send a request. -/
theorem sentOrAsking_step {e : Event} (hs : d.step cfg e = some d') (hne : e ≠ .dequeue) :
    d'.sentOrAsking ≤ d.sentOrAsking := by
  unfold sentOrAsking
  by_cases hl : ∃ i workers now, e = .lookupReturns i workers now
  · obtain ⟨i, workers, now, rfl⟩ := hl
    have hsent := sent_lookupReturns hs
    have hres : (Event.lookupReturns i workers now).resumed = some ⟨i, .lookupWorker⟩ := rfl
    have hcount := countP_awaitsLookup_of_resumed hs hres
    have hself : (DispatchRun.mk i .lookupWorker).awaitsLookup = true := rfl
    rw [hself, if_pos rfl] at hcount
    omega
  · have hsent := sent_of_step hs fun i workers now he => hl ⟨i, workers, now, he⟩
    rw [hsent]
    cases hres : e.resumed with
    | none => rw [runs_of_step hs hres hne]
    | some run =>
        have hcount := countP_awaitsLookup_of_resumed hs hres
        omega

/-- An iteration of the main loop makes at most one. -/
theorem sentOrAsking_dequeue (d : Dispatcher) : d.dequeue.sentOrAsking ≤ d.sentOrAsking + 1 := by
  unfold dequeue
  split
  · exact Nat.le_succ _
  · simp only []
    split
    · exact Nat.le_succ _
    · split
      · refine Nat.le_of_eq ?_
        show d.sent.length + (d.runs ++ [_]).countP _ = d.sent.length + d.runs.countP _ + 1
        rw [List.countP_append]
        rfl
      · exact Nat.le_succ _

end Dispatcher

/-! ## §3. After `stop`. -/

namespace DispatchLoop

variable {cfg : Config} {l l' : DispatchLoop}

/-- The requests that have been sent, and those that can still come without another look at the
flag. -/
def budget (l : DispatchLoop) : Nat :=
  l.dispatcher.sentOrAsking + if l.point = .body then 1 else 0

/-- **Step lemma.**  Once the flag is cleared it stays so, and the budget does not grow. -/
theorem budget_step {a : LoopEvent} (hs : l.step cfg a = some l') (hstop : l.running = false) :
    l'.running = false ∧ l'.budget ≤ l.budget := by
  cases a with
  | readRunning =>
      simp only [step] at hs
      split at hs <;> cases hs
      rename_i hp
      refine ⟨hstop, ?_⟩
      simp [budget, hstop, hp]
  | iterate =>
      simp only [step] at hs
      split at hs <;> cases hs
      rename_i hp
      refine ⟨hstop, ?_⟩
      have h := Dispatcher.sentOrAsking_dequeue l.dispatcher
      simpa [budget, hp] using h
  | stop =>
      cases hs
      exact ⟨rfl, Nat.le_refl _⟩
  | dispatcher e =>
      simp only [step] at hs
      split at hs
      · cases hs
      · rename_i hne
        obtain ⟨d, hd, rfl⟩ := Option.map_eq_some_iff.mp hs
        refine ⟨hstop, ?_⟩
        exact Nat.add_le_add_right (Dispatcher.sentOrAsking_step hd hne) _

/-- **After `stop`**, whatever goes on, no more requests are sent than there are runs waiting for
their lookup, and one more if the main loop has looked at its flag before. -/
theorem stop_quiesces (l : DispatchLoop) {es : List LoopEvent}
    (hr : run (step cfg) l (.stop :: es) = some l') :
    l'.dispatcher.sent.length ≤ l.dispatcher.sent.length
      + l.dispatcher.runs.countP DispatchRun.awaitsLookup + if l.point = .body then 1 else 0 := by
  obtain ⟨m, hm, hr⟩ := run_cons_eq_some.mp hr
  cases hm
  have hbudget : l'.running = false ∧ l'.budget ≤ l.budget := by
    refine run_preserves (i := { l with running := false })
      (I := fun m => m.running = false ∧ m.budget ≤ l.budget) ?_ es (Reachable.init _)
      ⟨rfl, Nat.le_refl _⟩ hr
    intro a e b _ hI hs
    obtain ⟨hstop, hle⟩ := budget_step hs hI.1
    exact ⟨hstop, hle.trans hI.2⟩
  refine Nat.le_trans ?_ hbudget.2
  exact (Nat.le_add_right _ _).trans (Nat.le_add_right _ _)

/-- Two tasks, the first of them at its lookup and the second about to be dequeued. -/
def beforeStop : List LoopEvent :=
  [.dispatcher (.postTask Dispatcher.sampleRequest 0),
    .dispatcher (.postTask Dispatcher.sampleRequest 0), .readRunning, .iterate, .readRunning]

/-- Both are still sent. -/
def afterStop : List LoopEvent :=
  [.iterate, .dispatcher (.lookupReturns "1" [Dispatcher.sampleWorker] 1),
    .dispatcher (.lookupReturns "2" [Dispatcher.sampleWorker] 1), .readRunning]

theorem stop_quiesces_beforeStop :
    ∃ l l', run (step ⟨3⟩) init beforeStop = some l ∧
      run (step ⟨3⟩) l (.stop :: afterStop) = some l' ∧ l'.dispatcher.sent.length = 2 ∧
      l'.dispatcher.sent.length ≤ l.dispatcher.sent.length
        + l.dispatcher.runs.countP DispatchRun.awaitsLookup
        + if l.point = .body then 1 else 0 := by
  refine ⟨_, _, rfl, rfl, rfl, ?_⟩
  exact @stop_quiesces ⟨3⟩ _ _ afterStop rfl

end DispatchLoop

/-! ## §4. Runs that wait for ExecuteTask. -/

namespace Dispatcher

variable {cfg : Config} {d d' : Dispatcher} {t : String}

/-- A run that waits for ExecuteTask has sent its request. -/
def RequestsSent (d : Dispatcher) : Prop :=
  ∀ t worker timer, DispatchRun.mk t (.dispatchTask worker timer) ∈ d.runs → d.sentFor t ≠ []

/-- `dispatch_task` sends its request before it waits. -/
theorem runs_dispatchTask {task : Task} {n now : Int} (hn : task.taskId = str n)
    {chosen worker : WorkerInfo} {started timer : Timer}
    (hr : DispatchRun.mk t (.dispatchTask worker timer)
      ∈ (d.dispatchTask task chosen started now).runs) :
    DispatchRun.mk t (.dispatchTask worker timer) ∈ d.runs ∨
      (d.dispatchTask task chosen started now).sentFor t ≠ [] := by
  unfold dispatchTask at hr ⊢
  split
  · rename_i he
    rw [he] at hr
    exact .inl hr
  · rename_i request he
    rw [he] at hr
    rcases List.mem_append.mp hr with hr | hr
    · exact .inl hr
    · have hid : t = task.taskId :=
        congrArg DispatchRun.taskId (List.mem_singleton.mp hr)
      have hcall : (ExecuteCall.mk chosen request).taskId = t := by
        rw [hid, hn]
        exact congrArg str (taskId_executeRequest hn he)
      refine .inr (List.ne_nil_of_mem (a := ⟨chosen, request⟩) ?_)
      exact List.mem_filter.mpr
        ⟨List.mem_append_right _ (List.mem_singleton_self _), decide_eq_true hcall⟩

/-- After a lookup a run that waits for ExecuteTask has done so before, or has just sent its
request. -/
theorem runs_lookupReturns (hn : Numbered d) {i : String} {workers : List WorkerInfo} {now : Int}
    (hs : d.lookupReturns i workers now = some d') {worker : WorkerInfo} {timer : Timer}
    (hr : DispatchRun.mk t (.dispatchTask worker timer) ∈ d'.runs) :
    DispatchRun.mk t (.dispatchTask worker timer) ∈ d.runs ∨ d'.sentFor t ≠ [] := by
  unfold lookupReturns at hs
  split at hs
  case isFalse => cases hs
  cases hg : d.store.get i with
  | none => rw [hg] at hs; cases hs
  | some task =>
      obtain ⟨n, _, _, hnum⟩ := hn i (slot_ne_empty_of_task hg)
      rw [hg] at hs
      simp only [] at hs
      split at hs
      · cases hs
        rcases List.mem_append.mp hr with hr | hr
        · exact .inl (List.mem_of_mem_erase hr)
        · cases List.mem_singleton.mp hr
      · split at hs <;> cases hs
        · exact .inl (List.mem_of_mem_erase hr)
        · rename_i dispatched hok
          have hkey : dispatched.taskId = str n := by
            rw [(transition_eq_ok_iff.mp hok).2, enter_taskId, ← hnum]
            exact Keyed.key_of_get hg
          exact (runs_dispatchTask hkey hr).imp List.mem_of_mem_erase id

/-- Any other step leaves no new run in front of ExecuteTask. -/
theorem mem_runs_of_not_lookup {e : Event} (hs : d.step cfg e = some d')
    (hne : ∀ i workers now, e ≠ .lookupReturns i workers now) {worker : WorkerInfo} {timer : Timer}
    (hr : DispatchRun.mk t (.dispatchTask worker timer) ∈ d'.runs) :
    DispatchRun.mk t (.dispatchTask worker timer) ∈ d.runs := by
  obtain ⟨new, hruns, hblocks⟩ := (step_appends hs).runs
  have hnew : DispatchRun.mk t (.dispatchTask worker timer) ∉ new := by
    intro hmem
    unfold Event.Blocks at hblocks
    split at hblocks
    · -- only a run that returns from its lookup has two calls left
      rename_i run hres
      have hlt : 1 < run.callsLeft := Nat.lt_of_le_of_lt (callsLeft_le hmem) hblocks
      cases e with
      | lookupReturns i workers now => exact hne i workers now rfl
      | sleepEnds | reply =>
          cases hres
          exact absurd hlt (Nat.lt_irrefl 1)
      | _ => cases hres
    · cases hblocks _ hmem
  rw [hruns] at hr
  have hold := (List.mem_append.mp hr).resolve_right hnew
  unfold Event.keepRuns at hold
  split at hold
  · exact List.mem_of_mem_erase hold
  · exact hold

/-- A task that was sent stays one that was. -/
theorem sentFor_ne_nil_of_step (h : Reachable (step cfg) init d) {e : Event}
    (hs : d.step cfg e = some d') (hne : d.sentFor t ≠ []) : d'.sentFor t ≠ [] := by
  intro hnil
  rcases slotStep_sent (slotStep_of_reachable h hs t) with
    ⟨hsent, _⟩ | ⟨_, _, _, _, _, _, _, _, _, _, hsent⟩
  · exact hne (hsent.symm.trans hnil)
  · exact hne (List.append_eq_nil_iff.mp (hsent.symm.trans hnil)).1

/-- **In every reachable state a run that waits for ExecuteTask has sent its request.** -/
theorem requestsSent_of_reachable (h : Reachable (step cfg) init d) : RequestsSent d := by
  refine h.invariant (I := RequestsSent) (fun _ _ _ hr => nomatch hr) ?_
  intro a e b ha hI hs t worker timer hr
  by_cases hl : ∃ i workers now, e = .lookupReturns i workers now
  · obtain ⟨i, workers, now, rfl⟩ := hl
    rcases runs_lookupReturns (numbered_of_reachable ha) hs hr with hold | hsent
    · exact sentFor_ne_nil_of_step ha hs (hI t worker timer hold)
    · exact hsent
  · have hold := mem_runs_of_not_lookup hs (fun i workers now he => hl ⟨i, workers, now, he⟩) hr
    exact sentFor_ne_nil_of_step ha hs (hI t worker timer hold)

end Dispatcher

/-! ## §5. A queued task without the main loop. -/

/-- A queued task that is not dispatched and has no request under way stays what it is, or a
failure that is reported for it ends it. -/
theorem slotStep_queued {cfg : Config} {t : String} {e : Event} {s s' : Slot} {task : Task}
    (h : SlotStep cfg t e s s') (htask : s.task = some task) (hq : task.status = .queued)
    (hlookup : ∀ workers now, e ≠ .lookupReturns t workers now)
    (hreply : ∀ worker timer success now, e ≠ .reply t worker timer success now) :
    s'.task = some task ∨ ∃ request now, e = .returnResult request now ∧
      str request.payload.taskId.val = t ∧ request.payload.status ≠ "COMPLETED" ∧
      s'.task = some (task.reported request.payload now) := by
  have hsame : ∀ old, s.task = some old → old = task := by
    intro old hold
    rw [htask, Option.some.injEq] at hold
    exact hold.symm
  cases h with
  | idle => exact .inl htask
  | post => cases htask
  | drop => exact .inl htask
  | dispatch => exact absurd rfl (hlookup _ _)
  | accept => exact absurd rfl (hreply _ _ _ _)
  | reject => exact absurd rfl (hreply _ _ _ _)
  | cancel => exact .inl ((Slot.cancel_task s).trans htask)
  | @report request now _ old hid hold ha =>
      rw [hsame _ hold] at ha ⊢
      refine .inr ⟨request, now, rfl, hid, ?_, rfl⟩
      -- a QUEUED record accepts failures only
      rcases ha with hf | ⟨_, hstatus⟩
      · rw [hq] at hf
        cases hf
      · exact hstatus
  | retry _ _ hold hf =>
      rw [hsame _ hold, hq] at hf
      cases hf
  | exhaust _ _ hold hf =>
      rw [hsame _ hold, hq] at hf
      cases hf
  | lateTimeout => exact .inl htask

namespace Dispatcher

variable {cfg : Config} {d d' : Dispatcher} {t : String}

/-- The task was sent to nobody, and its record waits in the queue as it was stored. -/
structure Waits (record : Task) (d : Dispatcher) : Prop where
  unsent : d.sentFor record.taskId = []
  stored : d.store.get record.taskId = some record
  queued : record.taskId ∈ d.queue

/-- A queued task is nowhere else. -/
theorem no_lookup_of_queued (h : Reachable (step cfg) init d) {task : Task}
    (hg : d.store.get t = some task) (hq : task.status = .queued) (hmem : t ∈ d.queue) :
    DispatchRun.mk t .lookupWorker ∉ d.runs := by
  intro hr
  have hw : task.status.isWaiting = true := by
    rw [hq]
    rfl
  have htok : d.queue.count t + d.runs.countP (DispatchRun.pendingFor t) + d.delayed.count t = 1 :=
    ((taskInv_of_reachable h hg).waiting hw).1
  have hqueue : 0 < d.queue.count t := List.count_pos_iff.mpr hmem
  have hruns : 0 < d.runs.countP (DispatchRun.pendingFor t) :=
    List.countP_pos_iff.mpr ⟨_, hr, DispatchRun.pendingFor_self rfl⟩
  omega

/-- **Step lemma.**  Without the main loop nobody takes the task out of the queue; only a failure
that is reported for it ends it. -/
theorem waits_step {record : Task} (h : Reachable (step cfg) init d) {e : Event}
    (hs : d.step cfg e = some d') (hne : e ≠ .dequeue) (hq : record.status = .queued)
    (hw : Waits record d) :
    Waits record d' ∨ d'.sentFor record.taskId = [] ∧ ∃ request now,
      e = .returnResult request now ∧ str request.payload.taskId.val = record.taskId ∧
        request.payload.status ≠ "COMPLETED" ∧
        d'.store.get record.taskId = some (record.reported request.payload now) := by
  have hslot := slotStep_of_reachable h hs record.taskId
  have hlookup : ∀ workers now, e ≠ .lookupReturns record.taskId workers now := by
    rintro workers now rfl
    exact no_lookup_of_queued h hw.stored hq hw.queued (lookupReturns_cases hs).1
  -- no request was sent, so there is no run an answer could resume
  have hreply : ∀ worker timer success now, e ≠ .reply record.taskId worker timer success now := by
    rintro worker timer success now rfl
    exact requestsSent_of_reachable h _ worker timer (mem_runs_of_resumed hs rfl) hw.unsent
  have hsent : d'.sentFor record.taskId = [] := by
    rcases slotStep_sent hslot with ⟨hkeep, _⟩ | ⟨workers, now, _, _, _, he, _⟩
    · exact hkeep.trans hw.unsent
    · exact absurd he (hlookup workers now)
  rcases slotStep_queued hslot hw.stored hq hlookup hreply with
    hkept | ⟨request, now, he, hid, hstatus, hended⟩
  · obtain ⟨new, hnew⟩ := queue_of_step hs hne
    refine .inl ⟨hsent, hkept, ?_⟩
    rw [hnew]
    exact List.mem_append_left new hw.queued
  · exact .inr ⟨hsent, request, now, he, hid, hstatus, hended⟩

end Dispatcher

/-! ## §6. After the end of the main loop. -/

namespace DispatchLoop

variable {cfg : Config} {l l' : DispatchLoop}

theorem dispatcher_step {a : LoopEvent} (hs : l.step cfg a = some l') :
    l'.dispatcher = l.dispatcher ∨ ∃ e, l.dispatcher.step cfg e = some l'.dispatcher := by
  cases a with
  | readRunning =>
      simp only [step] at hs
      split at hs <;> cases hs
      exact .inl rfl
  | iterate =>
      simp only [step] at hs
      split at hs <;> cases hs
      exact .inr ⟨.dequeue, rfl⟩
  | stop =>
      cases hs
      exact .inl rfl
  | dispatcher e =>
      simp only [step] at hs
      split at hs
      · cases hs
      · obtain ⟨d, hd, rfl⟩ := Option.map_eq_some_iff.mp hs
        exact .inr ⟨e, hd⟩

theorem dispatcher_reachable (h : Reachable (step cfg) init l) :
    Reachable (Dispatcher.step cfg) .init l.dispatcher := by
  refine h.invariant (I := fun l => Reachable (Dispatcher.step cfg) .init l.dispatcher)
    (Reachable.init _) ?_
  intro a e b _ hI hs
  rcases dispatcher_step hs with hb | ⟨e', hd⟩
  · rw [hb]
    exact hI
  · exact hI.tail hd

/-- Once the main loop has ended it stays so, and nothing is dequeued any more. -/
theorem ended_step {a : LoopEvent} (hs : l.step cfg a = some l') (hend : l.point = .ended) :
    l'.point = .ended ∧ (l'.dispatcher = l.dispatcher ∨
      ∃ e, a = .dispatcher e ∧ e ≠ .dequeue ∧
        l.dispatcher.step cfg e = some l'.dispatcher) := by
  cases a with
  | readRunning =>
      simp only [step, hend] at hs
      cases hs
  | iterate =>
      simp only [step, hend] at hs
      cases hs
  | stop =>
      cases hs
      exact ⟨hend, .inl rfl⟩
  | dispatcher e =>
      simp only [step] at hs
      split at hs
      · cases hs
      · rename_i hne
        obtain ⟨d, hd, rfl⟩ := Option.map_eq_some_iff.mp hs
        exact ⟨hend, .inr ⟨e, rfl, hne, hd⟩⟩

/-- What becomes of a record nobody dequeues: it is what it was, or a failure that one of the
steps has reported for it has ended it.  It was sent to nobody. -/
structure Stranded (record : Task) (es : List LoopEvent) (d : Dispatcher) : Prop where
  unsent : d.sentFor record.taskId = []
  record : ∃ task, d.store.get record.taskId = some task ∧
    (task = record ∨ task.status = .failed ∧ ∃ report later,
      .dispatcher (.returnResult report later) ∈ es ∧
        str report.payload.taskId.val = record.taskId ∧ report.payload.status ≠ "COMPLETED" ∧
        task = record.reported report.payload later)

/-- A terminal record that was sent to nobody stays so. -/
theorem unsent_terminal_run {t : String} {task : Task} {es : List LoopEvent}
    (h : Reachable (step cfg) init l) (hg : l.dispatcher.store.get t = some task)
    (ht : task.status.isTerminal = true) (hsent : l.dispatcher.sentFor t = [])
    (hr : run (step cfg) l es = some l') :
    l'.dispatcher.store.get t = some task ∧ l'.dispatcher.sentFor t = [] := by
  refine run_preserves (I := fun m => m.dispatcher.store.get t = some task ∧
    m.dispatcher.sentFor t = []) ?_ es h ⟨hg, hsent⟩ hr
  intro a e b ha hI hs
  rcases dispatcher_step hs with hsame | ⟨e', hd⟩
  · rw [hsame]
    exact hI
  · obtain ⟨htask, hunsent⟩ := slotStep_terminal
      (Dispatcher.slotStep_of_reachable (dispatcher_reachable ha) hd t) hI.1 ht
    exact ⟨htask, hunsent.trans hI.2⟩

/-- **Run lemma.** -/
theorem stranded_run {record : Task} (hq : record.status = .queued) (es : List LoopEvent) :
    ∀ {l l' : DispatchLoop}, Reachable (step cfg) init l → l.point = .ended →
      l.dispatcher.Waits record → run (step cfg) l es = some l' →
        Stranded record es l'.dispatcher := by
  induction es with
  | nil =>
      intro l l' _ _ hw hr
      rw [run_nil, Option.some.injEq] at hr
      rw [← hr]
      exact ⟨hw.unsent, record, hw.stored, .inl rfl⟩
  | cons a es ih =>
      intro l l' h hend hw hrun
      obtain ⟨m, hm, hr⟩ := run_cons_eq_some.mp hrun
      have hreach := h.tail hm
      -- the rest of the run strands a task that still waits
      have hrest : m.point = .ended → m.dispatcher.Waits record →
          Stranded record (a :: es) l'.dispatcher := by
        intro hend' hw'
        obtain ⟨hunsent, task, hg, hcases⟩ := ih hreach hend' hw' hr
        refine ⟨hunsent, task, hg, hcases.imp id ?_⟩
        rintro ⟨hf, report, later, hmem, hreport⟩
        exact ⟨hf, report, later, List.mem_cons_of_mem a hmem, hreport⟩
      obtain ⟨hend', hsame | ⟨e, rfl, hne, hd⟩⟩ := ended_step hm hend
      · exact hrest hend' (hsame ▸ hw)
      rcases Dispatcher.waits_step (dispatcher_reachable h) hd hne hq hw with
        hw' | ⟨hunsent, request, now, he, hid, hstatus, hg⟩
      · exact hrest hend' hw'
      · -- the report ends the task, and the rest of the run leaves it alone
        have hfailed : (record.reported request.payload now).status = .failed := by
          rw [Task.reported_status]
          exact if_neg hstatus
        have hterminal : (record.reported request.payload now).status.isTerminal = true :=
          record.isTerminal_reported request.payload now
        obtain ⟨hg', hunsent'⟩ := unsent_terminal_run hreach hg hterminal hunsent hr
        refine ⟨hunsent', _, hg', .inr ⟨hfailed, request, now, ?_, hid, hstatus, rfl⟩⟩
        rw [he]
        exact List.mem_cons_self

/-- **After the end of the main loop** PostTask still accepts tasks and gives out ids, as long as
these are int32, and none of the tasks is ever sent to a worker: a later GetResult finds the task
QUEUED as it was stored, or FAILED if somebody has reported a failure for it. -/
theorem stranded_after_stop (h : Reachable (step cfg) init l) (hend : l.point = .ended)
    {request : Envelope PostTaskPayload} {now : Int} (hv : Dispatcher.Valid request.payload)
    {es : List LoopEvent}
    (hr : run (step cfg) l (.dispatcher (.postTask request now) :: es) = some l') :
    (l.dispatcher.taskIdCounter + 1 < 2 ^ 31 →
      ∃ reply, (l.dispatcher.postTask request now).2 = .ok reply ∧
        reply.message.payload.success = true ∧
        reply.message.payload.taskId.val = ((l.dispatcher.taskIdCounter + 1 : Nat) : Int)) ∧
    (∀ c ∈ l'.dispatcher.sent, c.taskId ≠ str ((l.dispatcher.taskIdCounter + 1 : Nat) : Int)) ∧
    ∃ task, l'.dispatcher.store.get (str ((l.dispatcher.taskIdCounter + 1 : Nat) : Int))
        = some task ∧
      (task.status = .queued ∧ task = Task.posted
          (str ((l.dispatcher.taskIdCounter + 1 : Nat) : Int)) request.payload now ∨
        task.status = .failed ∧ ∃ report later,
          .dispatcher (.returnResult report later) ∈ es ∧
            report.payload.taskId.val = ((l.dispatcher.taskIdCounter + 1 : Nat) : Int) ∧
            report.payload.status ≠ "COMPLETED" ∧
            task = (Task.posted (str ((l.dispatcher.taskIdCounter + 1 : Nat) : Int))
              request.payload now).reported report.payload later) := by
  obtain ⟨m, hm, hr⟩ := run_cons_eq_some.mp hr
  have hd := dispatcher_reachable h
  have hpost := Dispatcher.postTask_of_valid hv l.dispatcher now
  -- the new task waits in the queue
  have hwaits : m.point = .ended ∧ m.dispatcher.Waits (Task.posted
      (str ((l.dispatcher.taskIdCounter + 1 : Nat) : Int)) request.payload now) := by
    have hempty := (Dispatcher.numbered_of_reachable hd).next_empty
    simp only [step] at hm
    split at hm
    · cases hm
    · obtain ⟨d, hstep, rfl⟩ := Option.map_eq_some_iff.mp hm
      have hd' : d = (l.dispatcher.postTask request now).1 := (Option.some.inj hstep).symm
      rw [hpost] at hd'
      refine ⟨hend, ?_, ?_, ?_⟩
      · rw [hd']
        exact congrArg Slot.sent hempty
      · rw [hd']
        exact (Keyed.get_put _ _ _).trans (if_pos rfl)
      · rw [hd']
        exact List.mem_append_right _ (List.mem_singleton_self _)
  obtain ⟨hunsent, task, hg, hcases⟩ :=
    stranded_run rfl es (h.tail hm) hwaits.1 hwaits.2 hr
  refine ⟨?_, ?_, task, hg, ?_⟩
  · intro hlt
    rcases Dispatcher.postTaskResponse_str request ((l.dispatcher.taskIdCounter + 1 : Nat) : Int)
      now with ⟨_, _, reply, hok, hsucc, hnum⟩ | ⟨hbig, _⟩
    · exact ⟨reply, by rw [hpost, ← hok], hsucc, hnum⟩
    · exact absurd ⟨by omega, by omega⟩ hbig
  · intro c hc hid
    have hmem : c ∈ l'.dispatcher.sentFor (str ((l.dispatcher.taskIdCounter + 1 : Nat) : Int)) :=
      List.mem_filter.mpr ⟨hc, decide_eq_true hid⟩
    exact absurd (hunsent ▸ hmem) List.not_mem_nil
  · rcases hcases with rfl | ⟨hf, report, later, hmem, hid, hstatus, hrecord⟩
    · exact .inl ⟨rfl, rfl⟩
    · exact .inr ⟨hf, report, later, hmem, str_injective hid, hstatus, hrecord⟩

/-- SIGTERM, one task, and a second signal. -/
theorem stranded_after_stop_quietLoop :
    ∃ l l', run (step ⟨3⟩) init [.stop, .readRunning] = some l ∧
      run (step ⟨3⟩) l [.dispatcher (.postTask Dispatcher.sampleRequest 0), .stop] = some l' ∧
      (∃ reply, (l.dispatcher.postTask Dispatcher.sampleRequest 0).2 = .ok reply ∧
        reply.message.payload.success = true ∧ reply.message.payload.taskId.val = 1) ∧
      (∀ c ∈ l'.dispatcher.sent, c.taskId ≠ "1") ∧
      ∃ task, l'.dispatcher.store.get "1" = some task ∧ task.status = .queued := by
  refine ⟨_, _, rfl, rfl, ?_⟩
  obtain ⟨hreply, hsent, task, hg, hcases⟩ := @stranded_after_stop ⟨3⟩ _ _
    ⟨[.stop, .readRunning], rfl⟩ rfl Dispatcher.sampleRequest 0 (by decide) [.stop] rfl
  refine ⟨hreply (by decide), hsent, task, hg, ?_⟩
  rcases hcases with ⟨hq, _⟩ | ⟨_, report, later, hmem, _⟩
  · exact hq
  · cases List.mem_singleton.mp hmem

end DispatchLoop

end TaskGrid
