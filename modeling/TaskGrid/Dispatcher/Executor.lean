/-
  TaskGrid.Dispatcher.Executor — the threads `_dispatch` runs on.

  The main loop submits its runs to a ThreadPoolExecutor: a run waits in the
  backlog until a thread takes it, and then keeps its thread to the end, also
  while it sleeps because there is no worker.  `Dispatcher.step` does not say
  which runs have a thread; `Executor.step` does, and lets only those return
  from their blocking calls.

  Main results:
    * `dispatcher_reachable` — the dispatcher under the executor is one of the
      dispatchers all other results speak of.
    * `executorInv_of_reachable` — the blocked runs are the backlog and the
      runs on the threads, of which there are never more than ten.
    * `executor_ends_or_starves` — although a sleeping run keeps its thread,
      the backlog is served, so every stored task ends or is never offered a
      worker again.
-/
import TaskGrid.Dispatcher.Progress

namespace TaskGrid

open TaskGrid.Lib

/-! ## §1. The executor. -/

/-- `ThreadPoolExecutor(max_workers=10)` -/
def maxWorkers : Nat := 10

/-- The dispatcher with the threads of its executor. -/
structure Executor where
  dispatcher : Dispatcher
  /-- Submitted, not yet on a thread. -/
  backlog : List DispatchRun
  /-- On a thread, blocked. -/
  working : List DispatchRun

/-- A thread takes the next run from the backlog, or the dispatcher makes a step. -/
inductive ExecutorEvent where
  | pickUp
  | dispatcher (e : Event)
  deriving DecidableEq

namespace Executor

/-- The executor after `serve()` has built it. -/
def init : Executor := ⟨.init, [], []⟩

/-- The runs a step has left blocked. -/
def newRuns (e : Event) (d d' : Dispatcher) : List DispatchRun :=
  d'.runs.drop (e.keepRuns d.runs).length

/-- One atomic step.  What the main loop submits goes to the backlog; a run that blocks again
keeps its thread. -/
def step (cfg : Config) (x : Executor) : ExecutorEvent → Option Executor
  | .pickUp =>
      match x.backlog with
      | [] => none
      | run :: rest =>
          if x.working.length < maxWorkers then
            some { x with backlog := rest, working := x.working ++ [run] }
          else none
  | .dispatcher e =>
      match e.resumed with
      | none => (x.dispatcher.step cfg e).map fun d =>
          { x with dispatcher := d, backlog := x.backlog ++ newRuns e x.dispatcher d }
      | some run =>
          if run ∈ x.working then
            (x.dispatcher.step cfg e).map fun d =>
              { x with
                dispatcher := d
                working := x.working.erase run ++ newRuns e x.dispatcher d }
          else none

variable {cfg : Config} {x x' : Executor} {t : String}

/-! ## §2. Inversion. -/

/-- What a step can do to the threads. -/
inductive ThreadStep (x x' : Executor) : ExecutorEvent → Prop where
  /-- An idle thread takes the next run. -/
  | pickUp {run : DispatchRun} (hb : x.backlog = run :: x'.backlog)
      (hlt : x.working.length < maxWorkers) (hw : x'.working = x.working ++ [run])
      (hd : x'.dispatcher = x.dispatcher) : ThreadStep x x' .pickUp
  /-- A step that resumes no run. -/
  | submit {e : Event} {new : List DispatchRun} (hres : e.resumed = none)
      (hruns : x'.dispatcher.runs = x.dispatcher.runs ++ new)
      (hnew : ∀ run ∈ new, run.point = .lookupWorker) (hb : x'.backlog = x.backlog ++ new)
      (hw : x'.working = x.working) : ThreadStep x x' (.dispatcher e)
  /-- A run goes on and ends or blocks again. -/
  | resume {e : Event} {run : DispatchRun} {new : List DispatchRun} (hres : e.resumed = some run)
      (hmem : run ∈ x.working) (hruns : x'.dispatcher.runs = x.dispatcher.runs.erase run ++ new)
      (hnew : callsLeft new < run.callsLeft) (hb : x'.backlog = x.backlog)
      (hw : x'.working = x.working.erase run ++ new) : ThreadStep x x' (.dispatcher e)

theorem newRuns_eq {e : Event} {d d' : Dispatcher} {new : List DispatchRun}
    (h : d'.runs = e.keepRuns d.runs ++ new) : newRuns e d d' = new := by
  unfold newRuns
  rw [h, List.drop_left]

/-- **Inversion.**  Every step is one of the three, and a step of the dispatcher unless it is
the first. -/
theorem step_thread {a : ExecutorEvent} (hs : x.step cfg a = some x') :
    ThreadStep x x' a ∧
      ∀ e, a = .dispatcher e → x.dispatcher.step cfg e = some x'.dispatcher := by
  cases a with
  | pickUp =>
      refine ⟨?_, fun e he => by cases he⟩
      simp only [step] at hs
      split at hs
      · cases hs
      · rename_i run rest hb
        split at hs <;> cases hs
        rename_i hlt
        exact .pickUp hb hlt rfl rfl
  | dispatcher e =>
      simp only [step] at hs
      split at hs
      · rename_i hres
        rw [Option.map_eq_some_iff] at hs
        obtain ⟨d, hd, rfl⟩ := hs
        obtain ⟨new, hruns, hblocks⟩ := (Dispatcher.step_appends hd).runs
        refine ⟨?_, fun e' he => by cases he; exact hd⟩
        have hkeep : e.keepRuns x.dispatcher.runs = x.dispatcher.runs := by
          unfold Event.keepRuns
          rw [hres]
        unfold Event.Blocks at hblocks
        rw [hres] at hblocks
        refine .submit hres (hkeep ▸ hruns) hblocks ?_ rfl
        exact congrArg (x.backlog ++ ·) (newRuns_eq hruns)
      · rename_i run hres
        split at hs
        case isFalse => cases hs
        rename_i hmem
        rw [Option.map_eq_some_iff] at hs
        obtain ⟨d, hd, rfl⟩ := hs
        obtain ⟨new, hruns, hblocks⟩ := (Dispatcher.step_appends hd).runs
        refine ⟨?_, fun e' he => by cases he; exact hd⟩
        have hkeep : e.keepRuns x.dispatcher.runs = x.dispatcher.runs.erase run := by
          unfold Event.keepRuns
          rw [hres]
        unfold Event.Blocks at hblocks
        rw [hres] at hblocks
        refine .resume hres hmem (hkeep ▸ hruns) hblocks rfl ?_
        exact congrArg (x.working.erase run ++ ·) (newRuns_eq hruns)

/-- The dispatcher of a step. -/
theorem dispatcher_step {a : ExecutorEvent} (hs : x.step cfg a = some x') :
    match a with
    | .pickUp => x'.dispatcher = x.dispatcher
    | .dispatcher e => x.dispatcher.step cfg e = some x'.dispatcher := by
  obtain ⟨hthread, hdispatcher⟩ := step_thread hs
  cases hthread with
  | pickUp _ _ _ hd => exact hd
  | submit => exact hdispatcher _ rfl
  | resume => exact hdispatcher _ rfl

/-- The dispatcher under the executor is a reachable dispatcher. -/
theorem dispatcher_reachable (h : Reachable (step cfg) init x) :
    Reachable (Dispatcher.step cfg) .init x.dispatcher := by
  refine h.invariant (I := fun x => Reachable (Dispatcher.step cfg) .init x.dispatcher)
    (Reachable.init _) ?_
  intro x a x' _ hx hs
  have hd := dispatcher_step hs
  cases a with
  | pickUp =>
      rw [hd]
      exact hx
  | dispatcher e => exact hx.tail hd

/-! ## §3. The threads. -/

/-- The blocked runs are those that wait for a thread, all before their lookup, and those that
have one; there are at most ten of these. -/
structure ExecutorInv (x : Executor) : Prop where
  runs : x.dispatcher.runs.Perm (x.backlog ++ x.working)
  backlog : ∀ run ∈ x.backlog, run.point = .lookupWorker
  working : x.working.length ≤ maxWorkers

/-- A run that goes on leaves at most one run behind. -/
theorem length_le_of_callsLeft {run : DispatchRun} {new : List DispatchRun}
    (h : callsLeft new < run.callsLeft) : new.length ≤ 1 := by
  have hrun : run.callsLeft ≤ 2 := by
    unfold DispatchRun.callsLeft
    split <;> decide
  have hpos : ∀ r : DispatchRun, 1 ≤ r.callsLeft := by
    intro r
    unfold DispatchRun.callsLeft
    split <;> decide
  match new with
  | [] => exact Nat.zero_le 1
  | [r] => exact Nat.le_refl 1
  | r :: s :: rest =>
      have hsum : callsLeft (r :: s :: rest)
          = r.callsLeft + (s.callsLeft + callsLeft rest) := rfl
      have hr := hpos r
      have hs := hpos s
      omega

/-- **Step lemma.** -/
theorem executorInv_step {a : ExecutorEvent} (h : ExecutorInv x)
    (hs : x.step cfg a = some x') : ExecutorInv x' := by
  cases (step_thread hs).1 with
  | @pickUp run hb hlt hw hd =>
      refine ⟨?_, ?_, ?_⟩
      · rw [hd, hw, ← List.append_assoc]
        have hruns := h.runs
        rw [hb, List.cons_append] at hruns
        exact hruns.trans (List.perm_append_singleton run _).symm
      · intro r hr
        exact h.backlog r (hb ▸ List.mem_cons_of_mem run hr)
      · rw [hw, List.length_append, List.length_singleton]
        exact hlt
  | @submit e new hres hruns hnew hb hw =>
      refine ⟨?_, ?_, hw ▸ h.working⟩
      · rw [hruns, hb, hw, List.append_assoc]
        refine (h.runs.append_right new).trans ?_
        rw [List.append_assoc]
        exact List.perm_append_comm.append_left x.backlog
      · intro r hr
        rw [hb, List.mem_append] at hr
        exact hr.elim (h.backlog r) (hnew r)
  | @resume e run new hres hmem hruns hnew hb hw =>
      have hlen := length_le_of_callsLeft hnew
      refine ⟨?_, hb ▸ h.backlog, ?_⟩
      · -- the run that goes on is one of those on a thread
        have hsplit : x.dispatcher.runs.Perm (run :: (x.backlog ++ x.working.erase run)) :=
          (h.runs.trans ((List.perm_cons_erase hmem).append_left x.backlog)).trans
            List.perm_middle
        have herase := hsplit.erase run
        rw [List.erase_cons_head] at herase
        rw [hruns, hb, hw, ← List.append_assoc]
        exact herase.append_right new
      · rw [hw, List.length_append, List.length_erase_of_mem hmem]
        have hpos := List.length_pos_of_mem hmem
        have hle := h.working
        omega

/-- **In every reachable state the blocked runs are the backlog and at most ten runs on
threads.** -/
theorem executorInv_of_reachable (h : Reachable (step cfg) init x) : ExecutorInv x := by
  refine h.invariant ⟨List.Perm.refl _, ?_, Nat.zero_le _⟩ fun _ _ _ _ hx hs =>
    executorInv_step hx hs
  intro run hr
  cases hr

/-! ## §4. Fair runs. -/

/-- The run of the dispatcher under the executor. -/
def dispatcherRun (r : InfiniteRun (step cfg) init) :
    InfiniteRun (Dispatcher.step cfg) .init :=
  r.map Executor.dispatcher
    (fun _ a => match a with
      | .pickUp => none
      | .dispatcher e => some e)
    (by
      intro n a hl
      have hd := dispatcher_step (r.step_of_label hl)
      cases a with
      | pickUp => exact hd
      | dispatcher e => exact hd)

theorem label_dispatcherRun {r : InfiniteRun (step cfg) init} {n : Nat} {e : Event} :
    (dispatcherRun r).label n = some e ↔ r.label n = some (.dispatcher e) := by
  show (r.label n).bind _ = some e ↔ _
  cases r.label n with
  | none => simp
  | some a => cases a <;> simp

/-- What the environment owes a task in an infinite run of the executor.  A run in the backlog
is owed nothing but an idle thread when there is one. -/
structure FairFor (t : String) (r : InfiniteRun (step cfg) init) : Prop where
  /-- The main loop goes on. -/
  loop : ∀ n, ∃ m, n ≤ m ∧ r.label m = some (.dispatcher .dequeue)
  /-- Idle threads take runs from the backlog. -/
  threads : ∀ n, (r.state n).backlog ≠ [] → (r.state n).working.length < maxWorkers →
    ∃ m, n ≤ m ∧ (r.label m = some .pickUp ∨ (r.state m).working.length = maxWorkers)
  /-- The call a run on a thread is blocked in returns. -/
  calls : ∀ n run, run ∈ (r.state n).working →
    ∃ m e, n ≤ m ∧ r.label m = some (.dispatcher e) ∧ e.resumed = some run
  /-- A `delay_timer` fires. -/
  delay : ∀ n, t ∈ (r.state n).dispatcher.delayed →
    ∃ m, n ≤ m ∧ r.label m = some (.dispatcher (.reenqueueAfterDelay t))
  /-- A timeout timer fires or is cancelled. -/
  timer : ∀ n timer, timer ∈ (r.state n).dispatcher.live → timer.taskId = t →
    ∃ m, n ≤ m ∧ ((∃ now, r.label m = some (.dispatcher (.timerFires timer now))) ∨
      timer ∉ (r.state m).dispatcher.live)

/-! ## §5. The backlog is served. -/

/-- Without a pick-up the calls the threads are still to return from become no more, and fewer
with each return. -/
theorem callsLeft_step {a : ExecutorEvent} (hs : x.step cfg a = some x') (ha : a ≠ .pickUp) :
    callsLeft x'.working ≤ callsLeft x.working ∧
      ∀ e run, a = .dispatcher e → e.resumed = some run →
        callsLeft x'.working < callsLeft x.working := by
  cases (step_thread hs).1 with
  | pickUp => exact absurd rfl ha
  | submit hres _ _ _ hw =>
      refine ⟨by rw [hw], ?_⟩
      intro e run he hres'
      cases he
      rw [hres] at hres'
      cases hres'
  | @resume e run new hres hmem _ hnew _ hw =>
      have hsum : run.callsLeft + callsLeft (x.working.erase run) = callsLeft x.working :=
        List.sum_map_erase _ hmem
      have happend : callsLeft x'.working = callsLeft (x.working.erase run) + callsLeft new := by
        rw [hw]
        unfold callsLeft
        rw [List.map_append, List.sum_append]
      refine ⟨by omega, fun _ _ _ _ => by omega⟩

variable {r : InfiniteRun (step cfg) init}

/-- The same over many steps. -/
theorem callsLeft_antitone {n : Nat} (hno : ∀ m, n ≤ m → r.label m ≠ some .pickUp) {m : Nat}
    (hm : n ≤ m) {k : Nat} (hk : m ≤ k) :
    callsLeft (r.state k).working ≤ callsLeft (r.state m).working := by
  induction hk with
  | refl => exact Nat.le_refl _
  | @step k hk ih =>
      cases hl : r.label k with
      | none =>
          rw [r.state_of_idle hl]
          exact ih
      | some a =>
          have ha : a ≠ .pickUp := fun he => hno k (Nat.le_trans hm hk) (he ▸ hl)
          exact Nat.le_trans (callsLeft_step (r.step_of_label hl) ha).1 ih

theorem working_of_callsLeft {working : List DispatchRun} (h : callsLeft working = 0) :
    working = [] := by
  cases working with
  | nil => rfl
  | cons run rest =>
      have hpos : 1 ≤ run.callsLeft := by
        unfold DispatchRun.callsLeft
        split <;> decide
      have hsum : callsLeft (run :: rest) = run.callsLeft + callsLeft rest := rfl
      omega

/-- Without a pick-up all threads become idle. -/
theorem threads_empty (fair : FairFor t r) {n : Nat}
    (hno : ∀ m, n ≤ m → r.label m ≠ some .pickUp) :
    ∀ c m, n ≤ m → callsLeft (r.state m).working ≤ c →
      ∃ k, m ≤ k ∧ callsLeft (r.state k).working = 0 := by
  intro c
  induction c with
  | zero =>
      intro m _ hc
      exact ⟨m, Nat.le_refl m, Nat.le_zero.mp hc⟩
  | succ c ih =>
      intro m hm hc
      cases hw : (r.state m).working with
      | nil => exact ⟨m, Nat.le_refl m, by rw [hw]; rfl⟩
      | cons run rest =>
          -- the call of one of the runs returns, and there are fewer calls left
          obtain ⟨k, e, hk, hl, hres⟩ := fair.calls m run (hw ▸ List.mem_cons_self)
          have hless := (callsLeft_step (r.step_of_label hl) (by simp)).2 e run rfl hres
          have hmono := callsLeft_antitone hno hm hk
          obtain ⟨j, hj, hzero⟩ := ih (k + 1) (Nat.le_trans hm (Nat.le_succ_of_le hk)) (by omega)
          exact ⟨j, Nat.le_trans (Nat.le_succ_of_le hk) hj, hzero⟩

/-- As long as no thread takes a run, the backlog keeps what it has. -/
theorem mem_backlog_of_no_pickUp {n : Nat} (hno : ∀ m, n ≤ m → r.label m ≠ some .pickUp)
    {run : DispatchRun} (hr : run ∈ (r.state n).backlog) {m : Nat} (hm : n ≤ m) :
    run ∈ (r.state m).backlog := by
  induction hm with
  | refl => exact hr
  | @step m hm ih =>
      cases hl : r.label m with
      | none =>
          rw [r.state_of_idle hl]
          exact ih
      | some a =>
          cases (step_thread (r.step_of_label hl)).1 with
          | pickUp => exact absurd hl (hno m hm)
          | submit _ _ _ hb =>
              rw [hb]
              exact List.mem_append_left _ ih
          | resume _ _ _ _ hb =>
              rw [hb]
              exact ih

/-- While there is a backlog, a thread will take a run from it. -/
theorem pickUp_comes (fair : FairFor t r) {n : Nat} {run : DispatchRun}
    (hr : run ∈ (r.state n).backlog) : ∃ m, n ≤ m ∧ r.label m = some .pickUp := by
  by_contra hnone
  have hno : ∀ m, n ≤ m → r.label m ≠ some .pickUp := fun m hm hl => hnone ⟨m, hm, hl⟩
  obtain ⟨m, hm, hzero⟩ := threads_empty fair hno _ n (Nat.le_refl n) (Nat.le_refl _)
  have hidle : (r.state m).working.length < maxWorkers := by
    rw [working_of_callsLeft hzero]
    decide
  have hbacklog := List.ne_nil_of_mem (mem_backlog_of_no_pickUp hno hr hm)
  obtain ⟨k, hk, hl | hfull⟩ := fair.threads m hbacklog hidle
  · exact hno k (Nat.le_trans hm hk) hl
  · have hle := callsLeft_antitone hno hm hk
    have hstill : callsLeft (r.state k).working = 0 := by omega
    rw [working_of_callsLeft hstill] at hfull
    exact absurd hfull (by decide)

/-- **A submitted run gets a thread.** -/
theorem backlog_leadsTo (fair : FairFor t r) (run : DispatchRun) :
    r.LeadsTo (fun x => run ∈ x.backlog) fun x => run ∈ x.working := by
  have hfifo : r.LeadsTo (fun x => run ∈ x.backlog ∧ True) fun x => run ∈ x.working ∨ ¬ True := by
    refine InfiniteRun.leadsTo_of_fifo (H := fun a => a = .pickUp) (C := fun _ => True)
      (Q := fun x : Executor => run ∈ x.working) ?_ ?_ ?_ ?_
    · intro n a hl ha
      cases (step_thread (r.step_of_label hl)).1 with
      | pickUp => exact absurd rfl ha
      | submit _ _ _ hb => exact ⟨_, hb⟩
      | resume _ _ _ _ hb => exact ⟨[], by rw [hb, List.append_nil]⟩
    · intro n a hl ha
      cases (step_thread (r.step_of_label hl)).1 with
      | pickUp hb => exact ⟨[], by rw [hb, List.tail_cons, List.append_nil]⟩
      | submit => cases ha
      | resume => cases ha
    · intro n a rest hl ha _ hq
      cases (step_thread (r.step_of_label hl)).1 with
      | @pickUp run' hb _ hw _ =>
          rw [hb, List.cons.injEq] at hq
          rw [hw, hq.1]
          exact List.mem_append_right _ (List.mem_singleton_self run)
      | submit => cases ha
      | resume => cases ha
    · intro n hr
      obtain ⟨m, hm, hl⟩ := pickUp_comes fair hr
      exact ⟨m, _, hm, hl, rfl⟩
  refine hfifo.mono (fun n h => ⟨h, trivial⟩) ?_
  intro n h
  exact h.resolve_right (fun hn => hn trivial)

/-! ## §6. The dispatcher under a fair executor. -/

/-- **A fair run of the executor is a fair run of the dispatcher.** -/
theorem FairFor.dispatcherRun (fair : FairFor t r) :
    Dispatcher.FairFor t (Executor.dispatcherRun r) where
  loop n := by
    obtain ⟨m, hm, hl⟩ := fair.loop n
    exact ⟨m, hm, label_dispatcherRun.mpr hl⟩
  lookup n h := by
    -- the run is on a thread, or in the backlog and comes to a thread
    have hinv := executorInv_of_reachable (r.reachable n)
    have hthread : ∃ m, n ≤ m ∧ DispatchRun.mk t .lookupWorker ∈ (r.state m).working := by
      rcases List.mem_append.mp (hinv.runs.mem_iff.mp h) with hb | hw
      · exact backlog_leadsTo fair _ n hb
      · exact ⟨n, Nat.le_refl n, hw⟩
    obtain ⟨m, hm, hw⟩ := hthread
    obtain ⟨k, e, hk, hl, hres⟩ := fair.calls m _ hw
    have he : ∃ workers now, e = .lookupReturns t workers now := by
      cases e <;> simp [Event.resumed] at hres
      exact ⟨_, _, by rw [hres]⟩
    obtain ⟨workers, now, rfl⟩ := he
    exact ⟨k, workers, now, Nat.le_trans hm hk, label_dispatcherRun.mpr hl⟩
  sleep n h := by
    have hinv := executorInv_of_reachable (r.reachable n)
    have hw : DispatchRun.mk t .noWorkerSleep ∈ (r.state n).working := by
      rcases List.mem_append.mp (hinv.runs.mem_iff.mp h) with hb | hw
      · cases hinv.backlog _ hb
      · exact hw
    obtain ⟨k, e, hk, hl, hres⟩ := fair.calls n _ hw
    have he : e = .sleepEnds t := by
      cases e <;> simp [Event.resumed] at hres
      rw [hres]
    rw [he] at hl
    exact ⟨k, hk, label_dispatcherRun.mpr hl⟩
  delay n h := by
    obtain ⟨m, hm, hl⟩ := fair.delay n h
    exact ⟨m, hm, label_dispatcherRun.mpr hl⟩
  timer n timer h hid := by
    obtain ⟨m, hm, hfire⟩ := fair.timer n timer h hid
    refine ⟨m, hm, hfire.imp ?_ id⟩
    rintro ⟨now, hl⟩
    exact ⟨now, label_dispatcherRun.mpr hl⟩

/-- **Ten threads are enough for every task to end or to starve for want of workers.**  In a run
in which the threads take what they can and the calls of the runs on them return, every submitted
run gets a thread, and every stored task becomes terminal for good, or it waits for good while
its lookups find no worker. -/
theorem executor_ends_or_starves (fair : FairFor t r) {n : Nat} {task : Task}
    (hg : (r.state n).dispatcher.store.get t = some task) :
    (∀ run, r.LeadsTo (fun x => run ∈ x.backlog) fun x => run ∈ x.working) ∧
      ((∃ m task', n ≤ m ∧ isTerminal task' = true ∧
          ∀ k, m ≤ k → (r.state k).dispatcher.store.get t = some task') ∨
        ∃ m task', n ≤ m ∧ Dispatcher.Starves (dispatcherRun r) t m task') := by
  refine ⟨fun run => backlog_leadsTo fair run, ?_⟩
  by_cases hstarves : ∃ m task', Dispatcher.Starves (dispatcherRun r) t m task'
  · obtain ⟨m, task', hm⟩ := hstarves
    exact .inr ⟨max n m, task', Nat.le_max_left n m, hm.from n⟩
  · refine .inl (Dispatcher.ends_of_not_starves fair.dispatcherRun ?_ hg)
    exact fun m task' h => hstarves ⟨m, task', h⟩

/-- A task on one thread, from PostTask to its result. -/
def oneTaskEvents : List ExecutorEvent :=
  [.dispatcher (.postTask Dispatcher.sampleRequest 0), .dispatcher .dequeue, .pickUp,
    .dispatcher (.lookupReturns "1" [Dispatcher.sampleWorker] 1),
    .dispatcher (.reply "1" Dispatcher.sampleWorker ⟨0, "1"⟩ (some true) 2),
    .dispatcher (.returnResult Dispatcher.sampleResult 3)]

/-- `oneTaskEvents`, after which the main loop finds nothing any more. -/
def oneTaskRun : InfiniteRun (step ⟨3⟩) init :=
  .lasso (s := (run (step ⟨3⟩) init oneTaskEvents).getD init) oneTaskEvents
    (.dispatcher .dequeue) rfl rfl

theorem state_oneTaskRun {n : Nat} (h : 6 ≤ n) : oneTaskRun.state n = oneTaskRun.state 6 :=
  InfiniteRun.state_lasso_of_le _ _ h

theorem fairFor_oneTaskRun : FairFor "1" oneTaskRun where
  loop n := ⟨max n 6, Nat.le_max_left n 6,
    InfiniteRun.label_lasso_of_le _ _ (Nat.le_max_right n 6)⟩
  threads n h _ := by
    match n with
    | 0 | 1 | 2 => exact ⟨2, by decide, .inl rfl⟩
    | 3 | 4 | 5 => exact absurd rfl h
    | n + 6 =>
        rw [state_oneTaskRun (Nat.le_add_left 6 n)] at h
        exact absurd rfl h
  calls n run h := by
    match n with
    | 0 | 1 | 2 | 5 => cases h
    | 3 =>
        have hrun : run = ⟨"1", .lookupWorker⟩ := List.mem_singleton.mp h
        exact ⟨3, _, Nat.le_refl 3, rfl, by rw [hrun]; rfl⟩
    | 4 =>
        have hrun : run = ⟨"1", .dispatchTask Dispatcher.sampleWorker ⟨0, "1"⟩⟩ :=
          List.mem_singleton.mp h
        exact ⟨4, _, Nat.le_refl 4, rfl, by rw [hrun]; rfl⟩
    | n + 6 =>
        rw [state_oneTaskRun (Nat.le_add_left 6 n)] at h
        cases h
  delay n h := by
    match n with
    | 0 | 1 | 2 | 3 | 4 | 5 => cases h
    | n + 6 =>
        rw [state_oneTaskRun (Nat.le_add_left 6 n)] at h
        cases h
  timer n timer _ _ := by
    refine ⟨max n 6, Nat.le_max_left n 6, .inr ?_⟩
    rw [state_oneTaskRun (Nat.le_max_right n 6)]
    exact List.not_mem_nil

/-- The task of `oneTaskRun` ends or starves, after its run has come to a thread. -/
theorem executor_ends_or_starves_oneTaskRun :
    ∃ task, (oneTaskRun.state 1).dispatcher.store.get "1" = some task ∧
      (∃ k, 2 ≤ k ∧ DispatchRun.mk "1" .lookupWorker ∈ (oneTaskRun.state k).working) ∧
      ((∃ m task', 1 ≤ m ∧ isTerminal task' = true ∧
          ∀ k, m ≤ k → (oneTaskRun.state k).dispatcher.store.get "1" = some task') ∨
        ∃ m task', 1 ≤ m ∧ Dispatcher.Starves (dispatcherRun oneTaskRun) "1" m task') := by
  obtain ⟨hserved, hends⟩ := executor_ends_or_starves fairFor_oneTaskRun (n := 1) rfl
  exact ⟨_, rfl, hserved ⟨"1", .lookupWorker⟩ 2 List.mem_cons_self, hends⟩

end Executor

end TaskGrid
