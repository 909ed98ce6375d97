/-
  TaskGrid.Dispatcher.Progress — every stored task comes to an end.

  The runs here are infinite, and `FairFor` says what the environment owes
  one task in them: the main loop goes on dequeuing, blocking calls return,
  sleeps end and timers go off.  It does not say that a worker is ever found.

  Every step that changes the job of a task brings it closer to its end
  (`Retry.Step.rank_lt`), so what is left is that some such step comes.  A
  waiting task moves from place to place (delayed, sleeping, queued, at its
  lookup) and in the queue from position to position; a task in flight has a
  timer.

  Main result: `ends_or_starves`.  In a fair run a stored task becomes
  terminal and stays what it is, or its lookups are without a worker for good.
-/
import TaskGrid.Dispatcher.Terminal
import TaskGrid.Dispatcher.Accounting
import TaskGrid.Lib.Liveness
import Mathlib.Algebra.BigOperators.Group.List.Basic
import Mathlib.Algebra.Ring.Nat

namespace TaskGrid

open TaskGrid.Lib

/-! ## §1. Queue, runs and delays after a step. -/

/-- The blocking calls a run has still to return from, at most. -/
def DispatchRun.callsLeft (run : DispatchRun) : Nat :=
  match run.point with
  | .lookupWorker => 2
  | .noWorkerSleep | .dispatchTask _ _ => 1

/-- The blocking calls the runs have still to return from, at most. -/
def callsLeft (runs : List DispatchRun) : Nat := (runs.map DispatchRun.callsLeft).sum

namespace Event

/-- What a step takes from the queue. -/
def keepQueue : Event → List String → List String
  | .dequeue, queue => queue.tail
  | _, queue => queue

/-- The run a step resumes. -/
def resumed : Event → Option DispatchRun
  | .lookupReturns taskId _ _ => some ⟨taskId, .lookupWorker⟩
  | .sleepEnds taskId => some ⟨taskId, .noWorkerSleep⟩
  | .reply taskId worker timer _ _ => some ⟨taskId, .dispatchTask worker timer⟩
  | _ => none

/-- What a step leaves of the blocked runs. -/
def keepRuns (e : Event) (runs : List DispatchRun) : List DispatchRun :=
  match e.resumed with
  | some run => runs.erase run
  | none => runs

/-- The runs a step may leave blocked: a new one at its lookup, or the resumed one at a later
call. -/
def Blocks (e : Event) (runs : List DispatchRun) : Prop :=
  match e.resumed with
  | some run => callsLeft runs < run.callsLeft
  | none => ∀ run ∈ runs, run.point = .lookupWorker

theorem blocks_nil (e : Event) : e.Blocks [] := by
  unfold Blocks
  split
  · rename_i run _
    show 0 < run.callsLeft
    unfold DispatchRun.callsLeft
    split <;> decide
  · intro run h
    cases h

/-- What a step leaves of the delayed re-enqueues. -/
def keepDelayed : Event → List String → List String
  | .reenqueueAfterDelay taskId, delayed => delayed.erase taskId
  | _, delayed => delayed

end Event

namespace Dispatcher

variable {cfg : Config} {d d' : Dispatcher} {t : String}

/-- Where a scheduling obligation can be. -/
def places (d : Dispatcher) : List String × List DispatchRun × List String :=
  (d.queue, d.runs, d.delayed)

@[simp] theorem places_update (d : Dispatcher) (task : Task) : (d.update task).places = d.places :=
  rfl

@[simp] theorem places_cancelTimeout (d : Dispatcher) (i : String) :
    (d.cancelTimeout i).places = d.places := by
  unfold cancelTimeout
  split <;> rfl

theorem places_handleReply (d : Dispatcher) (task : Task) (success : Option Bool) (now : Int) :
    (d.handleReply task success now).places = d.places := by
  unfold handleReply
  split
  · split <;> simp
  · simp only []
    split <;> simp
  · rfl

theorem places_returnResult (d : Dispatcher) (request : Envelope ResultPayload) (now : Int) :
    (d.returnResult request now).1.places = d.places := by
  rcases returnResult_cases d request.payload with hg | ⟨task, hg, ht | ha | ⟨hnt, ha⟩⟩
  · rw [returnResult_of_none hg]
  · rw [returnResult_of_terminal hg ht]
  · rw [returnResult_of_accepts hg ha]
    simp
  · rw [returnResult_of_not_accepts hg hnt ha]
    simp

/-- What the step leaves of the places. -/
def keptPlaces (e : Event) (d : Dispatcher) : List String × List DispatchRun × List String :=
  (e.keepQueue d.queue, e.keepRuns d.runs, e.keepDelayed d.delayed)

/-- What a step adds to the places, it adds at their ends. -/
def Appends (e : Event) (d d' : Dispatcher) : Prop :=
  ∃ queue runs delayed, e.Blocks runs ∧ d'.places
    = ((d.keptPlaces e).1 ++ queue, (d.keptPlaces e).2.1 ++ runs, (d.keptPlaces e).2.2 ++ delayed)

theorem Appends.of_places {e : Event} (h : d'.places = d.keptPlaces e) : Appends e d d' := by
  refine ⟨[], [], [], e.blocks_nil, ?_⟩
  rw [List.append_nil, List.append_nil, List.append_nil]
  exact h

theorem Appends.of_runs {e : Event} (runs : List DispatchRun) (hblocks : e.Blocks runs)
    (h : d'.places = ((d.keptPlaces e).1, (d.keptPlaces e).2.1 ++ runs, (d.keptPlaces e).2.2)) :
    Appends e d d' := by
  refine ⟨[], runs, [], hblocks, ?_⟩
  rw [List.append_nil, List.append_nil]
  exact h

theorem Appends.of_queue {e : Event} (queue : List String)
    (h : d'.places = ((d.keptPlaces e).1 ++ queue, (d.keptPlaces e).2)) : Appends e d d' := by
  refine ⟨queue, [], [], e.blocks_nil, ?_⟩
  rw [List.append_nil, List.append_nil]
  exact h

theorem Appends.queue {e : Event} (h : Appends e d d') :
    ∃ new, d'.queue = e.keepQueue d.queue ++ new := by
  obtain ⟨queue, _, _, _, h⟩ := h
  exact ⟨queue, congrArg Prod.fst h⟩

theorem Appends.runs {e : Event} (h : Appends e d d') :
    ∃ new, d'.runs = e.keepRuns d.runs ++ new ∧ e.Blocks new := by
  obtain ⟨_, runs, _, hblocks, h⟩ := h
  exact ⟨runs, congrArg (·.2.1) h, hblocks⟩

theorem Appends.delayed {e : Event} (h : Appends e d d') :
    ∃ new, d'.delayed = e.keepDelayed d.delayed ++ new := by
  obtain ⟨_, _, delayed, _, h⟩ := h
  exact ⟨delayed, congrArg (·.2.2) h⟩

theorem appends_postTask (d : Dispatcher) (request : Envelope PostTaskPayload) (now : Int) :
    Appends (.postTask request now) d (d.postTask request now).1 := by
  rcases postTask_cases d request now with ⟨_, h⟩ | h <;> rw [h]
  · exact .of_places rfl
  · exact .of_queue [_] rfl

theorem appends_dequeue (d : Dispatcher) : Appends .dequeue d d.dequeue := by
  unfold dequeue
  cases hq : d.queue with
  | nil =>
      apply Appends.of_places
      simp only [places, keptPlaces, Event.keepQueue, hq, List.tail_nil]
      rfl
  | cons i rest =>
      have hkept : ({ d with queue := rest } : Dispatcher).places = d.keptPlaces .dequeue := by
        simp only [places, keptPlaces, Event.keepQueue, hq, List.tail_cons]
        rfl
      simp only []
      cases hg : d.store.get i with
      | none => exact .of_places hkept
      | some fresh =>
          simp only []
          split
          · have hblocks : Event.dequeue.Blocks [⟨i, .lookupWorker⟩] := by
              intro run hrun
              rw [List.mem_singleton.mp hrun]
            apply Appends.of_runs _ hblocks
            rw [← hkept]
            rfl
          · exact .of_places hkept

theorem appends_lookupReturns {i : String} {workers : List WorkerInfo} {now : Int}
    (hs : d.lookupReturns i workers now = some d') :
    Appends (.lookupReturns i workers now) d d' := by
  unfold lookupReturns at hs
  split at hs
  case isFalse => cases hs
  cases hg : d.store.get i with
  | none => rw [hg] at hs; cases hs
  | some task =>
      rw [hg] at hs
      simp only [] at hs
      split at hs
      · cases hs
        exact .of_runs [⟨i, .noWorkerSleep⟩] (by show 1 < 2; decide) rfl
      · split at hs <;> cases hs
        · exact .of_places rfl
        · unfold dispatchTask
          split
          · exact .of_places rfl
          · exact .of_runs [⟨_, .dispatchTask _ _⟩] (by show 1 < 2; decide) rfl

theorem appends_onTimeout (d : Dispatcher) (cfg : Config) (i : String) (now : Int) :
    ∃ new, (d.onTimeout cfg i now).places = (d.queue, d.runs, d.delayed ++ new) := by
  rcases inFlight_cases d i with ⟨task, hg, hf⟩ | hnf
  · rw [onTimeout_of_inFlight hg hf]
    split
    · exact ⟨[], by rw [List.append_nil]; rfl⟩
    · exact ⟨[i], rfl⟩
  · rw [onTimeout_of_not_inFlight hnf]
    exact ⟨[], by rw [List.append_nil]; rfl⟩

/-- **A step takes the head of the queue, the run it resumes or the delay that is over, and
appends the rest.** -/
theorem step_appends {e : Event} (hs : d.step cfg e = some d') : Appends e d d' := by
  cases e with
  | postTask request now => cases hs; exact appends_postTask d request now
  | returnResult request now => cases hs; exact .of_places (places_returnResult d request now)
  | dequeue => cases hs; exact appends_dequeue d
  | lookupReturns i workers now => exact appends_lookupReturns hs
  | sleepEnds i =>
      simp only [step, sleepEnds] at hs
      split at hs <;> cases hs
      exact .of_queue [i] rfl
  | reply i worker timer success now =>
      simp only [step, reply] at hs
      split at hs
      case isFalse => cases hs
      split at hs <;> cases hs
      exact .of_places (places_handleReply _ _ success now)
  | timerFires timer now =>
      simp only [step, timerFires] at hs
      split at hs <;> cases hs
      obtain ⟨new, h⟩ := appends_onTimeout
        { d with live := d.live.erase timer, fired := d.fired ++ [timer] } cfg timer.taskId now
      refine ⟨[], [], new, Event.blocks_nil _, ?_⟩
      rw [List.append_nil, List.append_nil]
      exact h
  | reenqueueAfterDelay i =>
      simp only [step, reenqueueAfterDelay] at hs
      split at hs <;> cases hs
      exact .of_queue [i] rfl

/-! ## §2. What stays where it is. -/

/-- A blocked run stays until it is resumed. -/
theorem mem_runs_of_step {e : Event} {run : DispatchRun} (hs : d.step cfg e = some d')
    (hr : run ∈ d.runs) (hne : e.resumed ≠ some run) : run ∈ d'.runs := by
  obtain ⟨new, h, _⟩ := (step_appends hs).runs
  rw [h]
  apply List.mem_append_left
  unfold Event.keepRuns
  split
  · rename_i r hres
    have hrun : run ≠ r := fun he => hne (he ▸ hres)
    exact (List.mem_erase_of_ne hrun).mpr hr
  · exact hr

/-- A delayed re-enqueue stays until it fires. -/
theorem mem_delayed_of_step {e : Event} (hs : d.step cfg e = some d') (hd : t ∈ d.delayed)
    (hne : e ≠ .reenqueueAfterDelay t) : t ∈ d'.delayed := by
  obtain ⟨new, h⟩ := (step_appends hs).delayed
  rw [h]
  apply List.mem_append_left
  cases e with
  | reenqueueAfterDelay i =>
      have hi : t ≠ i := fun he => hne (by rw [he])
      exact (List.mem_erase_of_ne hi).mpr hd
  | _ => exact hd

/-- Only the main loop takes from the queue. -/
theorem queue_of_step {e : Event} (hs : d.step cfg e = some d') (hne : e ≠ .dequeue) :
    ∃ new, d'.queue = d.queue ++ new := by
  obtain ⟨new, h⟩ := (step_appends hs).queue
  have hkeep : e.keepQueue d.queue = d.queue := by
    unfold Event.keepQueue
    split
    · exact absurd rfl hne
    · rfl
  exact ⟨new, hkeep ▸ h⟩

/-- A waiting task at the head of the queue comes to its lookup. -/
theorem mem_runs_dequeue {task : Task} {rest : List String} (hg : d.store.get t = some task)
    (hw : task.status.isWaiting = true) (hq : d.queue = t :: rest) :
    DispatchRun.mk t .lookupWorker ∈ d.dequeue.runs := by
  unfold dequeue
  simp only [hq, hg, hw, if_true]
  exact List.mem_append_right _ (List.mem_singleton_self _)

/-- The place a waiting task is at. -/
theorem place_of_waiting {task : Task} (h : TaskInv t (d.slot t) task)
    (hw : task.status.isWaiting = true) :
    t ∈ d.delayed ∨ DispatchRun.mk t .noWorkerSleep ∈ d.runs ∨ t ∈ d.queue ∨
      DispatchRun.mk t .lookupWorker ∈ d.runs := by
  have htok : d.queue.count t + d.runs.countP (DispatchRun.pendingFor t) + d.delayed.count t = 1 :=
    (h.waiting hw).1
  by_cases hq : 0 < d.queue.count t
  · exact .inr (.inr (.inl (List.count_pos_iff.mp hq)))
  by_cases hd : 0 < d.delayed.count t
  · exact .inl (List.count_pos_iff.mp hd)
  have hr : 0 < d.runs.countP (DispatchRun.pendingFor t) := by omega
  obtain ⟨⟨i, point⟩, hmem, hpending⟩ := List.countP_pos_iff.mp hr
  simp only [DispatchRun.pendingFor, DispatchRun.isPending, Bool.and_eq_true,
    decide_eq_true_eq] at hpending
  obtain ⟨rfl, hpoint⟩ := hpending
  cases point with
  | lookupWorker => exact .inr (.inr (.inr hmem))
  | noWorkerSleep => exact .inr (.inl hmem)
  | dispatchTask worker timer => cases hpoint

end Dispatcher

/-! ## §3. One step on a task that has not ended. -/

theorem TaskState.phase_eq_inFlight_iff {s : TaskState} :
    s.phase = .inFlight ↔ s.isInFlight = true := by
  cases s <;> decide

/-- The live timer of an attempt stays as long as the job stands still. -/
theorem slotStep_live {cfg : Config} {t : String} {e : Event} {s s' : Slot} {timer : Timer}
    (h : SlotStep cfg t e s s') (hi : SlotInv t s) (hi' : SlotInv t s') (hl : timer ∈ s.live)
    (hjob : s'.job = s.job) : timer ∈ s'.live := by
  obtain ⟨task, htask, hf, htimed⟩ := hi.inFlight_of_live hl
  have hphase : s'.job.phase = .inFlight := by
    rw [hjob, Slot.job_of_task htask]
    exact TaskState.phase_of_inFlight hf
  -- no attempt has been started, so the latest one is still the latest
  have hstarted : s'.started = s.started := by
    rcases slotStep_sent h with ⟨_, h2⟩ | ⟨_, _, _, _, _, _, _, _, _, h2, _⟩
    · exact h2
    · have hlen : s'.started.length = s.started.length := congrArg Retry.Job.starts hjob
      rw [h2, List.length_append, List.length_singleton] at hlen
      omega
  cases htask' : s'.task with
  | none =>
      unfold Slot.job at hphase
      rw [htask'] at hphase
      cases hphase
  | some task' =>
      rw [Slot.job_of_task htask'] at hphase
      have hf' := TaskState.phase_eq_inFlight_iff.mp hphase
      obtain ⟨_, timer', htimed'⟩ := (hi'.taskInv htask').inFlight hf'
      have hlatest := htimed'.latest
      rw [hstarted, htimed.latest, Option.some.injEq] at hlatest
      rw [htimed'.live, hlatest]
      exact List.mem_singleton_self _

/-- A record is there for good. -/
theorem slotStep_task {cfg : Config} {t : String} {e : Event} {s s' : Slot} {task : Task}
    (h : SlotStep cfg t e s s') (htask : s.task = some task) : ∃ task', s'.task = some task' := by
  cases h with
  | post => cases htask
  | idle => exact ⟨task, htask⟩
  | drop => exact ⟨task, htask⟩
  | lateTimeout => exact ⟨task, htask⟩
  | cancel => exact ⟨task, by rw [Slot.cancel_task, htask]⟩
  | _ => exact ⟨_, rfl⟩

/-- A record that goes on waiting stays what it is. -/
theorem slotStep_waiting {cfg : Config} {t : String} {e : Event} {s s' : Slot}
    {task task' : Task} (h : SlotStep cfg t e s s') (htask : s.task = some task)
    (hw : task.status.isWaiting = true) (htask' : s'.task = some task')
    (hw' : task'.status.isWaiting = true) : task' = task := by
  have hkept : s'.task = s.task → task' = task := by
    intro hs
    rw [hs, htask, Option.some.injEq] at htask'
    exact htask'.symm
  have hnew : ∀ {new}, some new = some task' → new.status.isWaiting = true := by
    intro new h'
    rw [Option.some.inj h']
    exact hw'
  cases h with
  | idle => exact hkept rfl
  | post => cases htask
  | drop => exact hkept rfl
  | dispatch => cases hnew htask'
  | accept => cases hnew htask'
  | reject => cases hnew htask'
  | cancel => exact hkept (Slot.cancel_task s)
  | @report request now _ old =>
      have hnw := (not_active_of_terminal (old.isTerminal_reported request.payload now)).1
      rw [hnew htask'] at hnw
      cases hnw
  | @retry timer now _ old _ _ h' hf =>
      rw [htask, Option.some.injEq] at h'
      rw [← h', (not_inFlight_of_waiting hw).1] at hf
      cases hf
  | exhaust => cases hnew htask'
  | lateTimeout => exact hkept rfl

namespace Dispatcher

variable {cfg : Config} {t : String}

/-- The record of a task has a status of this kind. -/
def Has (t : String) (kind : TaskState → Bool) (d : Dispatcher) : Prop :=
  ∃ task, d.store.get t = some task ∧ kind task.status = true

/-- The task is stored and not terminal. -/
def Open (t : String) (d : Dispatcher) : Prop :=
  ∃ task, d.store.get t = some task ∧ isTerminal task = false

/-- The number of changes the job of a task can still go through. -/
def rank (cfg : Config) (t : String) (d : Dispatcher) : Nat := (d.slot t).job.rank cfg.limit

/-- An open task waits or is in flight. -/
theorem open_cases {d : Dispatcher} (h : Reachable (step cfg) init d) (ho : Open t d) :
    Has t TaskState.isWaiting d ∧ (d.slot t).job.phase = .waiting ∨
      ∃ timer, timer ∈ d.live ∧ timer.taskId = t ∧ (d.slot t).job.phase = .inFlight := by
  obtain ⟨task, hg, hnt⟩ := ho
  have hinv := taskInv_of_reachable h hg
  have hjob := Slot.job_of_task (s := d.slot t) hg
  rcases hinv.status with hw | hf | ht
  · left
    rw [hjob]
    exact ⟨⟨task, hg, hw⟩, TaskState.phase_of_waiting hw⟩
  · right
    obtain ⟨_, timer, htimed⟩ := hinv.inFlight hf
    have hmem : timer ∈ (d.slot t).live := by
      rw [htimed.live]
      exact List.mem_singleton_self _
    obtain ⟨hlive, hid⟩ := List.mem_filter.mp hmem
    rw [hjob]
    exact ⟨timer, hlive, of_decide_eq_true hid, TaskState.phase_of_inFlight hf⟩
  · exact absurd (hnt.symm.trans ht) (by decide)

/-- **Step lemma.**  A step ends an open task, brings it closer to its end, or leaves its job
alone. -/
theorem step_open {d d' : Dispatcher} (h : Reachable (step cfg) init d) {e : Event}
    (hs : d.step cfg e = some d') (ho : Open t d) :
    Has t TaskState.isTerminal d' ∨ Open t d' ∧
      (rank cfg t d' < rank cfg t d ∨ (d'.slot t).job = (d.slot t).job) := by
  obtain ⟨task, hg, _⟩ := ho
  have hstep := slotStep_of_reachable h hs t
  obtain ⟨task', hg'⟩ := slotStep_task hstep hg
  cases ht' : isTerminal task' with
  | true => exact .inl ⟨task', hg', ht'⟩
  | false =>
      refine .inr ⟨⟨task', hg', ht'⟩, ?_⟩
      rcases slotStep_job hstep (slotInv_of_reachable h t) with hjob | hjob
      · exact .inr hjob
      · exact .inl (hjob.rank_lt (accounted_of_reachable h t))

end Dispatcher

/-! ## §4. Fair runs. -/

namespace Dispatcher

variable {cfg : Config} {t : String}

/-- What the environment owes a task in an infinite run.  Nothing is said about the workers the
lookups find. -/
structure FairFor (t : String) (r : InfiniteRun (step cfg) init) : Prop where
  /-- The main loop goes on. -/
  loop : ∀ n, ∃ m, n ≤ m ∧ r.label m = some .dequeue
  /-- `lookup_worker` returns. -/
  lookup : ∀ n, DispatchRun.mk t .lookupWorker ∈ (r.state n).runs →
    ∃ m workers now, n ≤ m ∧ r.label m = some (.lookupReturns t workers now)
  /-- `time.sleep` ends. -/
  sleep : ∀ n, DispatchRun.mk t .noWorkerSleep ∈ (r.state n).runs →
    ∃ m, n ≤ m ∧ r.label m = some (.sleepEnds t)
  /-- A `delay_timer` fires. -/
  delay : ∀ n, t ∈ (r.state n).delayed → ∃ m, n ≤ m ∧ r.label m = some (.reenqueueAfterDelay t)
  /-- A timeout timer fires or is cancelled. -/
  timer : ∀ n timer, timer ∈ (r.state n).live → timer.taskId = t →
    ∃ m, n ≤ m ∧ ((∃ now, r.label m = some (.timerFires timer now)) ∨ timer ∉ (r.state m).live)

variable {r : InfiniteRun (step cfg) init}

/-- A pending delay becomes a queue entry. -/
theorem delayed_leadsTo (fair : FairFor t r) :
    r.LeadsTo (fun d => t ∈ d.delayed) fun d => t ∈ d.queue := by
  refine InfiniteRun.leadsTo_of_label (H := fun e => e = .reenqueueAfterDelay t) ?_ ?_ ?_
  · intro n e hl hd he
    exact .inl (mem_delayed_of_step (r.step_of_label hl) hd he)
  · intro n e hl hd he
    have hs := r.step_of_label hl
    rw [he] at hs
    simp only [step, reenqueueAfterDelay, if_pos hd, Option.some.injEq] at hs
    rw [← hs]
    exact List.mem_append_right _ (List.mem_singleton_self _)
  · intro n hd
    obtain ⟨m, hm, hl⟩ := fair.delay n hd
    exact ⟨m, _, hm, hl, rfl⟩

/-- A sleeping run becomes a queue entry. -/
theorem sleep_leadsTo (fair : FairFor t r) :
    r.LeadsTo (fun d => DispatchRun.mk t .noWorkerSleep ∈ d.runs) fun d => t ∈ d.queue := by
  refine InfiniteRun.leadsTo_of_label (H := fun e => e.resumed = some ⟨t, .noWorkerSleep⟩) ?_ ?_ ?_
  · intro n e hl hr he
    exact .inl (mem_runs_of_step (r.step_of_label hl) hr he)
  · intro n e hl hr he
    have hs := r.step_of_label hl
    have hsleep : e = .sleepEnds t := by
      cases e <;> simp [Event.resumed] at he
      rw [he]
    rw [hsleep] at hs
    simp only [step, sleepEnds, if_pos hr, Option.some.injEq] at hs
    rw [← hs]
    exact List.mem_append_right _ (List.mem_singleton_self _)
  · intro n hr
    obtain ⟨m, hm, hl⟩ := fair.sleep n hr
    exact ⟨m, _, hm, hl, rfl⟩

/-- A queue entry of a task that goes on waiting comes to the head of the queue and to its
lookup. -/
theorem queue_leadsTo (fair : FairFor t r) :
    r.LeadsTo (fun d => t ∈ d.queue ∧ Has t TaskState.isWaiting d) fun d =>
      DispatchRun.mk t .lookupWorker ∈ d.runs ∨ ¬ Has t TaskState.isWaiting d := by
  have hdequeue : ∀ n e, r.label n = some e → e = .dequeue →
      r.state (n + 1) = (r.state n).dequeue := by
    intro n e hl he
    have hs := r.step_of_label hl
    rw [he] at hs
    exact (Option.some.inj hs).symm
  refine InfiniteRun.leadsTo_of_fifo (H := fun e => e = .dequeue)
    (C := Has t TaskState.isWaiting)
    (Q := fun d : Dispatcher => DispatchRun.mk t .lookupWorker ∈ d.runs) ?_ ?_ ?_ ?_
  · intro n e hl he
    exact queue_of_step (r.step_of_label hl) he
  · intro n e hl he
    rw [hdequeue n e hl he]
    exact (appends_dequeue _).queue
  · intro n e rest hl he hw hq
    obtain ⟨task, hg, hw⟩ := hw
    rw [hdequeue n e hl he]
    exact mem_runs_dequeue hg hw hq
  · intro n _
    obtain ⟨m, hm, hl⟩ := fair.loop n
    exact ⟨m, _, hm, hl, rfl⟩

/-- A task that goes on waiting comes to a lookup. -/
theorem waiting_leadsTo (fair : FairFor t r) :
    r.LeadsTo (Has t TaskState.isWaiting) fun d =>
      DispatchRun.mk t .lookupWorker ∈ d.runs ∨ ¬ Has t TaskState.isWaiting d := by
  have hqueue : r.LeadsTo (fun d => t ∈ d.queue) fun d =>
      DispatchRun.mk t .lookupWorker ∈ d.runs ∨ ¬ Has t TaskState.isWaiting d := by
    intro n hq
    by_cases hw : Has t TaskState.isWaiting (r.state n)
    · exact queue_leadsTo fair n ⟨hq, hw⟩
    · exact ⟨n, Nat.le_refl n, .inr hw⟩
  intro n hW
  obtain ⟨task, hg, hw⟩ := hW
  rcases place_of_waiting (taskInv_of_reachable (r.reachable n) hg) hw with h | h | h | h
  · exact (delayed_leadsTo fair).trans hqueue n h
  · exact (sleep_leadsTo fair).trans hqueue n h
  · exact hqueue n h
  · exact ⟨n, Nat.le_refl n, .inl h⟩

/-! ## §5. Starvation. -/

/-- From step `n` on the task waits with the record `task`, and its lookups, without end, find no
worker. -/
structure Starves (r : InfiniteRun (step cfg) init) (t : String) (n : Nat) (task : Task) :
    Prop where
  waiting : task.status.isWaiting = true
  stays : ∀ m, n ≤ m → (r.state m).store.get t = some task
  unanswered : ∀ m workers now, n ≤ m → r.label m = some (.lookupReturns t workers now) →
    workers = []
  asked : ∀ m, ∃ k now, m ≤ k ∧ r.label k = some (.lookupReturns t [] now)

/-- A task that waits for good starves. -/
theorem starves_of_waiting (fair : FairFor t r) {n : Nat}
    (h : ∀ m, n ≤ m → Has t TaskState.isWaiting (r.state m)) : ∃ task, Starves r t n task := by
  obtain ⟨task, hg, hw⟩ := h n (Nat.le_refl n)
  have hstays : ∀ m, n ≤ m → (r.state m).store.get t = some task := by
    intro m hm
    induction hm with
    | refl => exact hg
    | @step m hm ih =>
        cases hl : r.label m with
        | none =>
            rw [r.state_of_idle hl]
            exact ih
        | some e =>
            obtain ⟨task', hg', hw'⟩ := h (m + 1) (Nat.le_succ_of_le hm)
            have hstep := slotStep_of_reachable (r.reachable m) (r.step_of_label hl) t
            have htask := slotStep_waiting hstep ih hw hg' hw'
            exact htask ▸ hg'
  have hunanswered : ∀ m workers now, n ≤ m →
      r.label m = some (.lookupReturns t workers now) → workers = [] := by
    intro m workers now hm hl
    by_contra hne
    -- with a worker at hand the task would have been dispatched
    obtain ⟨worker, _, hd⟩ := get_lookupReturns (r.step_of_label hl) hne (hstays m hm) hw
    obtain ⟨task', hg', hw'⟩ := h (m + 1) (Nat.le_succ_of_le hm)
    rw [hd, Option.some.injEq] at hg'
    rw [← hg'] at hw'
    cases hw'
  refine ⟨task, hw, hstays, hunanswered, ?_⟩
  intro m
  obtain ⟨k, hk, hr | hnw⟩ := waiting_leadsTo fair (max n m) (h (max n m) (Nat.le_max_left n m))
  · obtain ⟨j, workers, now, hj, hl⟩ := fair.lookup k hr
    have hnj : n ≤ j := Nat.le_trans (Nat.le_trans (Nat.le_max_left n m) hk) hj
    have hmj : m ≤ j := Nat.le_trans (Nat.le_trans (Nat.le_max_right n m) hk) hj
    rw [hunanswered j workers now hnj hl] at hl
    exact ⟨j, now, hmj, hl⟩
  · exact absurd (h k (Nat.le_trans (Nat.le_max_left n m) hk)) hnw

/-! ## §6. The end of a task. -/

/-- A state of the job in which the task waits is left, unless the task starves. -/
theorem waiting_job_leadsTo (fair : FairFor t r) (hns : ∀ n task, ¬ Starves r t n task)
    {j : Retry.Job} (hj : j.phase = .waiting) :
    r.LeadsTo (fun d => Open t d ∧ (d.slot t).job = j) fun d =>
      Has t TaskState.isTerminal d ∨ Open t d ∧ rank cfg t d < j.rank cfg.limit := by
  refine InfiniteRun.leadsTo_of_helpful ?_ ?_
  · intro n e hl hP
    rcases step_open (r.reachable n) (r.step_of_label hl) hP.1 with ht | ⟨ho, hlt | hjob⟩
    · exact .inr (.inl ht)
    · exact .inr (.inr ⟨ho, hP.2 ▸ hlt⟩)
    · exact .inl ⟨ho, hjob.trans hP.2⟩
  · intro n _
    have hleave : ∃ m, n ≤ m ∧ ¬ Has t TaskState.isWaiting (r.state m) := by
      by_contra hno
      obtain ⟨task, hstarves⟩ := starves_of_waiting fair (n := n) (by
        intro m hm
        by_contra hw
        exact hno ⟨m, hm, hw⟩)
      exact hns n task hstarves
    obtain ⟨m, hm, hw⟩ := hleave
    refine ⟨m, hm, ?_⟩
    rintro ⟨ho, hjob⟩
    rcases open_cases (r.reachable m) ho with ⟨hw', _⟩ | ⟨_, _, _, hf⟩
    · exact absurd hw' hw
    · rw [hjob, hj] at hf
      cases hf

/-- A state of the job in which the task is in flight is left, at the latest by its timer. -/
theorem inFlight_job_leadsTo (fair : FairFor t r) {j : Retry.Job} {timer : Timer}
    (hid : timer.taskId = t) :
    r.LeadsTo (fun d => (Open t d ∧ (d.slot t).job = j) ∧ timer ∈ d.live) fun d =>
      Has t TaskState.isTerminal d ∨ Open t d ∧ rank cfg t d < j.rank cfg.limit := by
  refine InfiniteRun.leadsTo_of_helpful ?_ ?_
  · intro n e hl hP
    obtain ⟨⟨ho, hj⟩, hlive⟩ := hP
    have hs := r.step_of_label hl
    rcases step_open (r.reachable n) hs ho with ht | ⟨ho', hlt | hjob⟩
    · exact .inr (.inl ht)
    · exact .inr (.inr ⟨ho', hj ▸ hlt⟩)
    · have hmem : timer ∈ ((r.state n).slot t).live :=
        List.mem_filter.mpr ⟨hlive, decide_eq_true hid⟩
      have hmem' := slotStep_live (slotStep_of_reachable (r.reachable n) hs t)
        (slotInv_of_reachable (r.reachable n) t) (slotInv_of_reachable (r.reachable (n + 1)) t)
        hmem hjob
      exact .inl ⟨⟨ho', hjob.trans hj⟩, (List.mem_filter.mp hmem').1⟩
  · intro n hP
    obtain ⟨m, hm, hfire⟩ := fair.timer n timer hP.2 hid
    refine ⟨m, hm, ?_⟩
    rintro ⟨⟨ho, hj⟩, hlive⟩
    rcases hfire with ⟨now, hl⟩ | hgone
    · have hs := r.step_of_label hl
      rcases step_open (r.reachable m) hs ho with ht | ⟨ho', hlt | hjob⟩
      · exact .inl ht
      · exact .inr ⟨ho', hj ▸ hlt⟩
      · -- a timeout that has fired is an expiry of the job
        have hfired := step_fired hs
        have hlen : ((r.state (m + 1)).slot t).fired.length = ((r.state m).slot t).fired.length :=
          congrArg Retry.Job.expiries hjob
        simp [slot, hfired, firings, hid] at hlen
    · exact absurd hlive hgone

/-- **Progress.**  An open task that does not starve ends. -/
theorem open_leadsTo (fair : FairFor t r) (hns : ∀ n task, ¬ Starves r t n task) :
    r.LeadsTo (Open t) (Has t TaskState.isTerminal) := by
  refine InfiniteRun.leadsTo_of_rank (f := rank cfg t) ?_
  intro k n hP
  obtain ⟨ho, hk⟩ := hP
  subst hk
  rcases open_cases (r.reachable n) ho with ⟨_, hj⟩ | ⟨timer, hlive, hid, _⟩
  · exact waiting_job_leadsTo fair hns hj n ⟨ho, rfl⟩
  · exact inFlight_job_leadsTo fair hid n ⟨⟨ho, rfl⟩, hlive⟩

/-- A starving task starves from any later step on. -/
theorem Starves.from {n : Nat} {task : Task} (h : Starves r t n task) (m : Nat) :
    Starves r t (max m n) task where
  waiting := h.waiting
  stays k hk := h.stays k (Nat.le_trans (Nat.le_max_right m n) hk)
  unanswered k workers now hk := h.unanswered k workers now
    (Nat.le_trans (Nat.le_max_right m n) hk)
  asked := h.asked

/-- A stored task that does not starve becomes terminal, and its record is the same ever after. -/
theorem ends_of_not_starves (fair : FairFor t r) (hns : ∀ m task', ¬ Starves r t m task')
    {n : Nat} {task : Task} (hg : (r.state n).store.get t = some task) :
    ∃ m task', n ≤ m ∧ isTerminal task' = true ∧
      ∀ k, m ≤ k → (r.state k).store.get t = some task' := by
  have hend : ∃ m task', n ≤ m ∧ (r.state m).store.get t = some task' ∧
      isTerminal task' = true := by
    cases hnt : isTerminal task with
    | true => exact ⟨n, task, Nat.le_refl n, hg, hnt⟩
    | false =>
        obtain ⟨m, hm, task', hg', ht'⟩ := open_leadsTo fair hns n ⟨task, hg, hnt⟩
        exact ⟨m, task', hm, hg', ht'⟩
  obtain ⟨m, task', hm, hg', ht'⟩ := hend
  refine ⟨m, task', hm, ht', ?_⟩
  -- a terminal record is frozen
  refine r.always_of_step (P := fun d => d.store.get t = some task') ?_ hg'
  intro k e hl hk
  exact (slotStep_terminal (slotStep_of_reachable (r.reachable k) (r.step_of_label hl) t) hk
    ht').1

/-- **Every stored task ends, or is never offered a worker again.**  In a run that is fair to
the task, from any step on: it becomes terminal, and its record is the same ever after; or it
comes to wait for good, with one record, while its lookups return without end and find no
worker. -/
theorem ends_or_starves (fair : FairFor t r) {n : Nat} {task : Task}
    (hg : (r.state n).store.get t = some task) :
    (∃ m task', n ≤ m ∧ isTerminal task' = true ∧
        ∀ k, m ≤ k → (r.state k).store.get t = some task') ∨
      ∃ m task', n ≤ m ∧ Starves r t m task' := by
  by_cases hstarves : ∃ m task', Starves r t m task'
  · obtain ⟨m, task', hm⟩ := hstarves
    exact .inr ⟨max n m, task', Nat.le_max_left n m, hm.from n⟩
  · refine .inl (ends_of_not_starves fair ?_ hg)
    exact fun m task' h => hstarves ⟨m, task', h⟩

/-- A task that is dispatched and reported, after which the main loop finds nothing any more. -/
def quietRun : InfiniteRun (step ⟨3⟩) init :=
  .lasso (s := ((run (step ⟨3⟩) init (sampleDispatch ++ [.returnResult sampleResult 2])).getD init))
    (sampleDispatch ++ [.returnResult sampleResult 2]) .dequeue rfl rfl

theorem state_quietRun {n : Nat} (h : 4 ≤ n) : quietRun.state n = quietRun.state 4 :=
  InfiniteRun.state_lasso_of_le _ _ h

theorem fairFor_quietRun : FairFor "1" quietRun where
  loop n := ⟨max n 4, Nat.le_max_left n 4,
    InfiniteRun.label_lasso_of_le _ _ (Nat.le_max_right n 4)⟩
  lookup n h := by
    match n with
    | 0 | 1 | 2 => exact ⟨2, _, _, by decide, rfl⟩
    | 3 => exact absurd h (by decide)
    | n + 4 =>
        rw [state_quietRun (Nat.le_add_left 4 n)] at h
        exact absurd h (by decide)
  sleep n h := by
    match n with
    | 0 | 1 | 2 | 3 => exact absurd h (by decide)
    | n + 4 =>
        rw [state_quietRun (Nat.le_add_left 4 n)] at h
        exact absurd h (by decide)
  delay n h := by
    match n with
    | 0 | 1 | 2 | 3 => exact absurd h (by decide)
    | n + 4 =>
        rw [state_quietRun (Nat.le_add_left 4 n)] at h
        exact absurd h (by decide)
  timer n timer _ _ := by
    refine ⟨max n 4, Nat.le_max_left n 4, .inr ?_⟩
    rw [state_quietRun (Nat.le_max_right n 4)]
    exact List.not_mem_nil

/-- The task of `quietRun` ends or starves. -/
theorem ends_or_starves_quietRun :
    ∃ task, (quietRun.state 1).store.get "1" = some task ∧
      ((∃ m task', 1 ≤ m ∧ isTerminal task' = true ∧
          ∀ k, m ≤ k → (quietRun.state k).store.get "1" = some task') ∨
        ∃ m task', 1 ≤ m ∧ Starves quietRun "1" m task') :=
  ⟨_, rfl, ends_or_starves fairFor_quietRun rfl⟩

/-- A task for which workers are found again and again ends. -/
theorem ends_of_workers (fair : FairFor t r)
    (hworkers : (∀ m, ∃ k workers now, m ≤ k ∧ r.label k = some (.lookupReturns t workers now)) →
      ∀ m, ∃ k workers now, m ≤ k ∧ r.label k = some (.lookupReturns t workers now) ∧
        workers ≠ [])
    {n : Nat} {task : Task} (hg : (r.state n).store.get t = some task) :
    ∃ m task', n ≤ m ∧ isTerminal task' = true ∧
      ∀ k, m ≤ k → (r.state k).store.get t = some task' := by
  refine ends_of_not_starves fair ?_ hg
  intro m task' hstarves
  have hasked := hworkers fun m =>
    let ⟨k, now, hk, hl⟩ := hstarves.asked m
    ⟨k, [], now, hk, hl⟩
  obtain ⟨k, workers, now, hk, hl, hne⟩ := hasked m
  exact absurd (hstarves.unanswered k workers now hk hl) hne

end Dispatcher

end TaskGrid
