/-
  TaskGrid.System.Completion — what becomes of every task.

  In one lifetime of the dispatcher, with an environment that lets the parties
  go on, the record of a stored task changes only for a while.  What it is in
  the end is what the program is for: the result of the handler, or a failure
  with a reason, or a task for which no worker can be found.

  `Dispatcher.Progress` says that a task ends or starves, `System.EndToEnd`
  that a result is right, `System.Failures` that a failure has a reason; here
  they are put together, about one run of the whole grid.

  Main result: `outcome_of_every_task`.
-/
import TaskGrid.System.Failures
import TaskGrid.System.EndToEnd
import TaskGrid.Dispatcher.Progress

namespace TaskGrid

open TaskGrid.Lib

namespace System

variable {cfg : Config} {handlers : Handlers} {s : System}

/-- Before the first restart everything is traced. -/
theorem traced_of_reachable (h : Reachable (step cfg handlers) init s) (h0 : s.epoch = 0) :
    Traced handlers s := by
  refine h.invariant (I := fun s => s.epoch = 0 → Traced handlers s) (fun _ => traced_init) ?_ h0
  intro s e s' hreach hI hs h0'
  have he : e ≠ .restart := by
    rintro rfl
    cases hs
    cases h0'
  exact traced_step (dispatcher_reachable hreach) hs he (hI ((epoch_of_step hs he).2 ▸ h0'))

end System

namespace Grid

variable {cfg : Config} {ns : LoopConfig} {handlers : Handlers} {fleet : List WorkerProcess}
  {t : String} {r : InfiniteRun (step cfg ns handlers fleet) init}

/-! ## §1. The dispatcher in a run of the grid. -/

/-- The dispatcher is never restarted. -/
def OneLife (r : InfiniteRun (step cfg ns handlers fleet) init) : Prop :=
  ∀ n, r.label n ≠ some (.system .restart)

theorem OneLife.epoch (hlife : OneLife r) (n : Nat) : (r.state n).system.epoch = 0 := by
  refine r.always_of_step (P := fun g => g.system.epoch = 0) ?_ (n := 0) ?_ n (Nat.zero_le n)
  · intro n a hl h0
    rw [epoch_of_step (r.step_of_label hl) (fun ha => hlife n (ha ▸ hl))]
    exact h0
  · rw [r.start]
    rfl

/-- The run of the dispatcher inside a run of the grid. -/
def dispatcherRun (r : InfiniteRun (step cfg ns handlers fleet) init) (hlife : OneLife r) :
    InfiniteRun (Dispatcher.step cfg) .init :=
  r.map (fun g => g.system.dispatcher) (dispatcherEvent handlers) (by
    intro n a hl
    have hd := dispatcher_step (r.step_of_label hl) (fun ha => hlife n (ha ▸ hl))
    cases he : (r.state n).dispatcherEvent handlers a with
    | none =>
        rw [he] at hd
        exact hd
    | some e =>
        rw [he] at hd
        exact hd)

/-- What the dispatcher does by itself is in both runs. -/
theorem label_dispatcherRun (hlife : OneLife r) {n : Nat} {e : Event}
    (hl : r.label n = some (.system (.dispatcher e))) :
    (dispatcherRun r hlife).label n = some e := by
  show (r.label n).bind _ = some e
  rw [hl]
  rfl

/-- A lookup returns in the dispatcher if it returns in the grid. -/
theorem lookupReturns_of_dispatcherEvent {g g' : Grid} {a : GridEvent}
    (hs : g.step cfg ns handlers fleet a = some g') {workers : List WorkerInfo} {now : Int}
    (he : g.dispatcherEvent handlers a = some (.lookupReturns t workers now)) :
    ∃ answer, a = .lookupReturns t answer now ∧ workersOf answer = workers := by
  cases gridStep_of_step hs with
  | @system e s hinternal _ =>
      cases e with
      | dispatcher e =>
          cases he
          cases hinternal
      | deliver => cases he
      | execute => cases he
      | restart => cases he
  | @lookupReturns taskId answer now s _ _ =>
      cases he
      exact ⟨answer, rfl, rfl⟩
  | reply hr _ =>
      simp only [dispatcherEvent, hr, Option.map_some, Option.some.injEq] at he
      cases he
  | lookup => cases he
  | execute => cases he
  | register => cases he
  | service => cases he
  | restartService => cases he

theorem label_of_lookupReturns (hlife : OneLife r) {n : Nat} {workers : List WorkerInfo}
    {now : Int} (hl : (dispatcherRun r hlife).label n = some (.lookupReturns t workers now)) :
    ∃ answer, r.label n = some (.lookupReturns t answer now) ∧ workersOf answer = workers := by
  have hbind : (r.label n).bind (dispatcherEvent handlers (r.state n))
      = some (.lookupReturns t workers now) := hl
  obtain ⟨a, ha, he⟩ := Option.bind_eq_some_iff.mp hbind
  obtain ⟨answer, rfl, hw⟩ := lookupReturns_of_dispatcherEvent (r.step_of_label ha) he
  exact ⟨answer, ha, hw⟩

/-! ## §2. Fair runs. -/

/-- What the environment owes a task in an infinite run of the grid.  Nothing is said about
workers, requests and reports: they can be lost, and the naming service may know nobody. -/
structure FairFor (t : String) (r : InfiniteRun (step cfg ns handlers fleet) init) : Prop where
  /-- The main loop goes on. -/
  loop : ∀ n, ∃ m, n ≤ m ∧ r.label m = some (.system (.dispatcher .dequeue))
  /-- `lookup_worker` returns, be it with a gRPC error. -/
  lookup : ∀ n, DispatchRun.mk t .lookupWorker ∈ (r.state n).system.dispatcher.runs →
    ∃ m answer now, n ≤ m ∧ r.label m = some (.lookupReturns t answer now)
  /-- `time.sleep` ends. -/
  sleep : ∀ n, DispatchRun.mk t .noWorkerSleep ∈ (r.state n).system.dispatcher.runs →
    ∃ m, n ≤ m ∧ r.label m = some (.system (.dispatcher (.sleepEnds t)))
  /-- A `delay_timer` fires. -/
  delay : ∀ n, t ∈ (r.state n).system.dispatcher.delayed →
    ∃ m, n ≤ m ∧ r.label m = some (.system (.dispatcher (.reenqueueAfterDelay t)))
  /-- A timeout timer fires or is cancelled. -/
  timer : ∀ n timer, timer ∈ (r.state n).system.dispatcher.live → timer.taskId = t →
    ∃ m, n ≤ m ∧ ((∃ now, r.label m = some (.system (.dispatcher (.timerFires timer now)))) ∨
      timer ∉ (r.state m).system.dispatcher.live)

/-- **A fair run of the grid is a fair run of its dispatcher.** -/
theorem FairFor.dispatcherRun (fair : FairFor t r) (hlife : OneLife r) :
    Dispatcher.FairFor t (Grid.dispatcherRun r hlife) where
  loop n := by
    obtain ⟨m, hm, hl⟩ := fair.loop n
    exact ⟨m, hm, label_dispatcherRun hlife hl⟩
  lookup n h := by
    obtain ⟨m, answer, now, hm, hl⟩ := fair.lookup n h
    refine ⟨m, workersOf answer, now, hm, ?_⟩
    show (r.label m).bind _ = _
    rw [hl]
    rfl
  sleep n h := by
    obtain ⟨m, hm, hl⟩ := fair.sleep n h
    exact ⟨m, hm, label_dispatcherRun hlife hl⟩
  delay n h := by
    obtain ⟨m, hm, hl⟩ := fair.delay n h
    exact ⟨m, hm, label_dispatcherRun hlife hl⟩
  timer n timer h hid := by
    obtain ⟨m, hm, hfire⟩ := fair.timer n timer h hid
    refine ⟨m, hm, hfire.imp ?_ id⟩
    rintro ⟨now, hl⟩
    exact ⟨now, label_dispatcherRun hlife hl⟩

/-! ## §3. Lookups and the registry. -/

/-- Who finds nobody has asked when nobody was listed. -/
theorem lookupEntries_of_workersOf {s : Namensdienst} {request : Envelope LookupPayload}
    (h : workersOf (some (s.lookupWorker request).message.payload) = []) :
    s.lookupEntries request.payload.taskType = [] := by
  by_contra hne
  have hempty : (s.lookupEntries request.payload.taskType).isEmpty = false := by
    simpa using hne
  simp only [workersOf, Namensdienst.lookupWorker, hempty, List.isEmpty_map, Bool.not_false,
    Bool.not_true, Bool.or_self, Bool.false_eq_true, if_false, List.map_eq_nil_iff] at h
  exact hne h

/-- The naming service has given this answer between the steps `m` and `k`. -/
def GivenBetween (r : InfiniteRun (step cfg ns handlers fleet) init) (t : String) (m k : Nat)
    (response : LookupResponsePayload) : Prop :=
  ∃ j now task, m ≤ j ∧ j < k ∧ r.label j = some (.lookup t now) ∧
    (r.state j).system.dispatcher.store.get t = some task ∧
    response = ((r.state j).service.lookupWorker
      (lookupRequest task.taskType t now)).message.payload

/-- An answer that is there was there before, or has been given since. -/
theorem given_since {m k : Nat} (hmk : m ≤ k) {response : LookupResponsePayload}
    (h : (t, response) ∈ (r.state k).answers) :
    (t, response) ∈ (r.state m).answers ∨ GivenBetween r t m k response := by
  induction hmk with
  | refl => exact .inl h
  | @step k hmk ih =>
      have hold : (t, response) ∈ (r.state k).answers →
          (t, response) ∈ (r.state m).answers ∨ GivenBetween r t m (k + 1) response := by
        intro hmem
        rcases ih hmem with hmem | ⟨j, now, task, hj, hlt, hrest⟩
        · exact .inl hmem
        · exact .inr ⟨j, now, task, hj, Nat.lt_succ_of_lt hlt, hrest⟩
      cases hl : r.label k with
      | none =>
          rw [r.state_of_idle hl] at h
          exact hold h
      | some a =>
          have hs := gridStep_of_step (r.step_of_label hl)
          generalize r.state (k + 1) = g' at hs h
          cases hs with
          | @system e s _ _ =>
              have hmem : (t, response) ∈ (r.state k).answersAfter e := h
              cases e with
              | restart => cases hmem
              | _ => exact hold hmem
          | @lookup taskId now task hg =>
              rcases List.mem_append.mp h with hmem | hmem
              · exact hold hmem
              · have heq := List.mem_singleton.mp hmem
                injection heq with hid hresponse
                subst hid
                exact .inr ⟨k, now, task, hmk, Nat.lt_succ_self k, hl, hg, hresponse⟩
          | lookupReturns => exact hold (List.mem_of_mem_filter h)
          | execute => exact hold h
          | reply => exact hold h
          | register => exact hold h
          | service => exact hold h
          | restartService => exact hold h

/-- A lookup that returns leaves no answer behind. -/
theorem no_answer_after {k : Nat} {answer : Option LookupResponsePayload} {now : Int}
    (hl : r.label k = some (.lookupReturns t answer now)) (response : LookupResponsePayload) :
    (t, response) ∉ (r.state (k + 1)).answers := by
  have hs := gridStep_of_step (r.step_of_label hl)
  generalize r.state (k + 1) = g' at hs ⊢
  cases hs with
  | lookupReturns =>
      intro h
      obtain ⟨_, hne⟩ := List.mem_filter.mp h
      exact absurd rfl (of_decide_eq_true hne)

/-- A lookup that returns with an answer has been answered since the last one returned. -/
theorem given_between {j k : Nat} (hjk : j < k) {answer : Option LookupResponsePayload}
    {now now' : Int} {response : LookupResponsePayload}
    (hj : r.label j = some (.lookupReturns t answer now))
    (hk : r.label k = some (.lookupReturns t (some response) now')) :
    GivenBetween r t (j + 1) k response := by
  have hmem : (t, response) ∈ (r.state k).answers := by
    have hs := gridStep_of_step (r.step_of_label hk)
    generalize r.state (k + 1) = g' at hs
    cases hs with
    | lookupReturns ha _ => exact ha response rfl
  exact (given_since (Nat.succ_le_of_lt hjk) hmem).resolve_left (no_answer_after hj response)

/-! ## §4. The last record of a task. -/

/-- From step `n` on the record of the task is `task`. -/
def Settles (r : InfiniteRun (step cfg ns handlers fleet) init) (t : String) (n : Nat)
    (task : Task) : Prop :=
  ∀ m, n ≤ m → (r.state m).system.dispatcher.store.get t = some task

/-- From step `n` on the lookups for the task find nobody; and there is no end of lookups that
fail on the way, or are asked when the naming service lists nobody for the type. -/
structure AsksInVain (r : InfiniteRun (step cfg ns handlers fleet) init) (t taskType : String)
    (n : Nat) : Prop where
  vain : ∀ m answer now, n ≤ m → r.label m = some (.lookupReturns t answer now) →
    workersOf answer = []
  unserved : ∀ m, ∃ k now, m ≤ k ∧ (r.label k = some (.lookupReturns t none now) ∨
    r.label k = some (.lookup t now) ∧ (r.state k).service.lookupEntries taskType = [])

/-- The work of a task never changes. -/
theorem sameWork_of_le (hlife : OneLife r) {n m : Nat} (hm : n ≤ m) {task task' : Task}
    (hg : (r.state n).system.dispatcher.store.get t = some task)
    (hg' : (r.state m).system.dispatcher.store.get t = some task') : task.SameWork task' := by
  have hkeep := (dispatcherRun r hlife).always_of_step
    (P := fun d => ∃ task', d.store.get t = some task' ∧ task.SameWork task')
    (by
      rintro k e hl ⟨old, hold, hw⟩
      obtain ⟨new, hnew, hw'⟩ := Dispatcher.sameWork_of_step
        ((dispatcherRun r hlife).reachable k) ((dispatcherRun r hlife).step_of_label hl) hold
      exact ⟨new, hnew, ⟨hw'.taskType.trans hw.taskType, hw'.payload.trans hw.payload⟩⟩)
    (n := n) ⟨task, hg, .refl task⟩ m hm
  obtain ⟨last, hlast, hw⟩ := hkeep
  have heq : some task' = some last := hg'.symm.trans hlast
  exact Option.some.inj heq ▸ hw

/-- A task that has settled in a terminal state has the right result, or an excuse. -/
theorem right_or_excused (hu : UniformFleet fleet) (hlife : OneLife r) {n : Nat} {task : Task}
    (hg : (r.state n).system.dispatcher.store.get t = some task) (ht : isTerminal task = true) :
    task.status = .completed ∧ Computes handlers task.taskType task.payload task.result ∨
      task.status = .failed ∧ Excuse cfg handlers (r.state n) t task := by
  have hreach := r.reachable n
  have h0 := hlife.epoch n
  cases hs : task.status with
  | completed =>
      have htraced := System.traced_of_reachable (system_reachable hreach) h0
      exact .inl ⟨rfl, htraced.records t task hg hs⟩
  | failed => exact .inr ⟨rfl, failureExcused_of_reachable hreach h0 hu task hg hs⟩
  | _ =>
      rw [isTerminal_eq, hs] at ht
      cases ht

/-- A task that starves in the run of the dispatcher asks in vain in the run of the grid. -/
theorem asksInVain_of_starves (hlife : OneLife r) {n : Nat} {task : Task}
    (h : Dispatcher.Starves (dispatcherRun r hlife) t n task) :
    AsksInVain r t task.taskType n := by
  have hvain : ∀ m answer now, n ≤ m → r.label m = some (.lookupReturns t answer now) →
      workersOf answer = [] := by
    intro m answer now hm hl
    refine h.unanswered m _ now hm ?_
    show (r.label m).bind _ = _
    rw [hl]
    rfl
  have hasks : ∀ m, ∃ k answer now, m ≤ k ∧ r.label k = some (.lookupReturns t answer now) := by
    intro m
    obtain ⟨k, now, hk, hl⟩ := h.asked m
    obtain ⟨answer, hl', _⟩ := label_of_lookupReturns hlife hl
    exact ⟨k, answer, now, hk, hl'⟩
  refine ⟨hvain, ?_⟩
  intro m
  -- two lookups that return one after the other: the second was asked in between
  obtain ⟨j, _, _, hj, hlj⟩ := hasks (max n m)
  obtain ⟨k, answer, now, hk, hlk⟩ := hasks (j + 1)
  have hnj : n ≤ j := Nat.le_trans (Nat.le_max_left n m) hj
  have hmj : m ≤ j := Nat.le_trans (Nat.le_max_right n m) hj
  have hjk : j ≤ k := Nat.le_of_succ_le hk
  cases answer with
  | none => exact ⟨k, now, Nat.le_trans hmj hjk, .inl hlk⟩
  | some response =>
      have hnone := hvain k _ now (Nat.le_trans hnj hjk) hlk
      obtain ⟨i, ts, task', hi, _, hli, hg, rfl⟩ := given_between hk hlj hlk
      have hstays := h.stays i (Nat.le_trans hnj (Nat.le_of_lt hi))
      have htask : some task' = some task := hg.symm.trans hstays
      have hentries := lookupEntries_of_workersOf hnone
      rw [Option.some.inj htask] at hentries
      exact ⟨i, ts, Nat.le_trans hmj (Nat.le_of_lt hi), .inr ⟨hli, hentries⟩⟩

/-! ## §5. The main results. -/

/-- **What becomes of every task.**  In a lifetime of the dispatcher that is fair to a stored
task, with processes behind one address that offer the same types, whatever is lost, delayed or
reordered and however often the naming service restarts, the task comes to a last record, for the
work it was posted with.  It is COMPLETED with what its handler computes, or FAILED for a reason,
or it waits while its lookups find nobody, and then they get lost or nobody is listed for its
type again and again. -/
theorem outcome_of_every_task (hu : UniformFleet fleet) (hlife : OneLife r) (fair : FairFor t r)
    {n : Nat} {task : Task} (hg : (r.state n).system.dispatcher.store.get t = some task) :
    ∃ m task', n ≤ m ∧ task.SameWork task' ∧ Settles r t m task' ∧
      (task'.status = .completed ∧ Computes handlers task.taskType task.payload task'.result ∨
        task'.status = .failed ∧ Excuse cfg handlers (r.state m) t task' ∨
        task'.status.isWaiting = true ∧ AsksInVain r t task.taskType m) := by
  by_cases hstarves : ∃ m task', Dispatcher.Starves (dispatcherRun r hlife) t m task'
  · obtain ⟨m, task', hm⟩ := hstarves
    have hvain := hm.from n
    have hsettles : Settles r t (max n m) task' := hvain.stays
    have hw := sameWork_of_le hlife (Nat.le_max_left n m) hg (hsettles _ (Nat.le_refl _))
    refine ⟨max n m, task', Nat.le_max_left n m, hw, hsettles, .inr (.inr ⟨hvain.waiting, ?_⟩)⟩
    rw [← hw.taskType]
    exact asksInVain_of_starves hlife hvain
  · obtain ⟨m, task', hm, ht, hstays⟩ := Dispatcher.ends_of_not_starves
      (fair.dispatcherRun hlife) (fun m task' h => hstarves ⟨m, task', h⟩) hg
    have hg' : (r.state m).system.dispatcher.store.get t = some task' := hstays m (Nat.le_refl m)
    have hw := sameWork_of_le hlife hm hg hg'
    refine ⟨m, task', hm, hw, hstays, ?_⟩
    rcases right_or_excused hu hlife hg' ht with ⟨hc, hcomp⟩ | hf
    · rw [hw.taskType, hw.payload] at hcomp
      exact .inl ⟨hc, hcomp⟩
    · exact .inr (.inl hf)

/-- The worker of `gridDispatch` does its work. -/
def gridExecution : Execution := { drainingExecution with isDraining := false }

/-- A task from PostTask to its result. -/
def gridLife : List GridEvent :=
  gridDispatch ++ [.execute gridExecution,
    .system (.deliver 0 (resultRequest Presence.sampleProcess.toWorkerConfig
      gridExecution.call.request "cba" "COMPLETED" "" 2) 3)]

/-- `gridLife`, after which the main loop finds nothing any more. -/
def gridRun :
    InfiniteRun (step ⟨3⟩ ⟨10, 3⟩ System.sampleHandlers [Presence.sampleProcess]) init :=
  .lasso (s := (run (step ⟨3⟩ ⟨10, 3⟩ System.sampleHandlers [Presence.sampleProcess]) init
    gridLife).getD init) gridLife (.system (.dispatcher .dequeue)) rfl rfl

theorem state_gridRun {n : Nat} (h : 7 ≤ n) : gridRun.state n = gridRun.state 7 :=
  InfiniteRun.state_lasso_of_le _ _ h

theorem label_gridRun {n : Nat} (h : 7 ≤ n) :
    gridRun.label n = some (.system (.dispatcher .dequeue)) :=
  InfiniteRun.label_lasso_of_le _ _ h

theorem oneLife_gridRun : OneLife gridRun := by
  intro n
  match n with
  | 0 | 1 | 2 | 3 | 4 | 5 | 6 => exact nofun
  | n + 7 =>
      rw [label_gridRun (Nat.le_add_left 7 n)]
      exact nofun

theorem fairFor_gridRun : FairFor "1" gridRun where
  loop n := ⟨max n 7, Nat.le_max_left n 7, label_gridRun (Nat.le_max_right n 7)⟩
  lookup n h := by
    match n with
    | 0 | 1 | 2 | 3 | 4 => exact ⟨4, _, _, by decide, rfl⟩
    | 5 | 6 => exact absurd h (by decide)
    | n + 7 =>
        rw [state_gridRun (Nat.le_add_left 7 n)] at h
        exact absurd h (by decide)
  sleep n h := by
    match n with
    | 0 | 1 | 2 | 3 | 4 | 5 | 6 => exact absurd h (by decide)
    | n + 7 =>
        rw [state_gridRun (Nat.le_add_left 7 n)] at h
        exact absurd h (by decide)
  delay n h := by
    match n with
    | 0 | 1 | 2 | 3 | 4 | 5 | 6 => exact absurd h (by decide)
    | n + 7 =>
        rw [state_gridRun (Nat.le_add_left 7 n)] at h
        exact absurd h (by decide)
  timer n timer _ _ := by
    refine ⟨max n 7, Nat.le_max_left n 7, .inr ?_⟩
    rw [state_gridRun (Nat.le_max_right n 7)]
    exact List.not_mem_nil

/-- The task of `gridRun` comes to its last record. -/
theorem outcome_of_every_task_gridRun :
    ∃ task, (gridRun.state 2).system.dispatcher.store.get "1" = some task ∧
      ∃ m task', 2 ≤ m ∧ task.SameWork task' ∧ Settles gridRun "1" m task' ∧
        (task'.status = .completed ∧
            Computes System.sampleHandlers task.taskType task.payload task'.result ∨
          task'.status = .failed ∧ Excuse ⟨3⟩ System.sampleHandlers (gridRun.state m) "1" task' ∨
          task'.status.isWaiting = true ∧ AsksInVain gridRun "1" task.taskType m) := by
  refine ⟨_, rfl, ?_⟩
  have huniform : UniformFleet [Presence.sampleProcess] := by
    intro w hw w' hw' _ _
    rw [List.mem_singleton.mp hw, List.mem_singleton.mp hw']
  exact outcome_of_every_task huniform oneLife_gridRun fairFor_gridRun rfl

end Grid

end TaskGrid
