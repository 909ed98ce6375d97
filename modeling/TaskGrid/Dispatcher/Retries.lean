/-
  TaskGrid.Dispatcher.Retries — when `retry_count` counts the requests.

  `RetriesCounted` is the relation between `retry_count`, the limit and the
  ExecuteTask requests sent.  `retriesCounted_iff` says of every run that
  the relation holds after every step exactly when every dispatch of the run
  is of a task whose id fits into an int32 field.  The limit itself
  (`fails_at_limit`, `retryCount_le_limit`) needs no such condition.
-/
import TaskGrid.Dispatcher.Accounting
import TaskGrid.Dispatcher.Terminal

namespace TaskGrid

open TaskGrid.Lib

namespace Dispatcher

variable {cfg : Config} {d a b : Dispatcher} {t : String}

/-! ## §1. The limit. -/

/-- A live timer finds its task in flight. -/
theorem inFlight_of_mem_live (h : Reachable (step cfg) init d) {timer : Timer}
    (hl : timer ∈ d.live) :
    ∃ task, d.store.get timer.taskId = some task ∧ task.status.isInFlight = true ∧
      (d.slot timer.taskId).Timed timer := by
  have hlive : timer ∈ (d.slot timer.taskId).live := by simp [slot, hl]
  exact (slotInv_of_reachable h timer.taskId).inFlight_of_live hlive

/-- A firing is recorded. -/
theorem fired_timerFires {timer : Timer} {now : Int} (hs : a.timerFires cfg timer now = some b) :
    timer ∈ a.live ∧ b.fired = a.fired ++ [timer] := by
  have hstep : a.step cfg (.timerFires timer now) = some b := hs
  refine ⟨?_, step_fired hstep⟩
  unfold timerFires at hs
  split at hs
  · assumption
  · cases hs

/-- **A firing timeout fails its task exactly when it is the last one allowed.** -/
theorem fails_at_limit (ha : Reachable (step cfg) init a) {timer : Timer} {now : Int}
    (hs : a.step cfg (.timerFires timer now) = some b) {task : Task}
    (hg : b.store.get timer.taskId = some task) :
    task.status = .failed ↔ (b.firedFor timer.taskId).length = cfg.limit := by
  have hslot := slotStep_of_reachable ha hs timer.taskId
  have hi := slotInv_of_reachable ha timer.taskId
  obtain ⟨hlive, hfired⟩ := fired_timerFires hs
  obtain ⟨old, hold, hf, _⟩ := inFlight_of_mem_live ha hlive
  -- the job of the task has seen one more expiry
  have hlen : (b.firedFor timer.taskId).length = (a.firedFor timer.taskId).length + 1 := by
    unfold firedFor
    rw [hfired, List.filter_append, List.length_append]
    simp
  have hexp : (b.slot timer.taskId).job.expiries = (a.slot timer.taskId).job.expiries + 1 := hlen
  have hphase : (b.slot timer.taskId).job.phase = task.status.phase := by
    rw [Slot.job_of_task hg]
  rcases slotStep_job hslot hi with hj | hj
  · rw [hj] at hexp
    omega
  · have hdone := hj.done_iff_of_expiry (accounted_of_reachable ha timer.taskId) hexp
    rw [hphase] at hdone
    show task.status = .failed ↔ (b.slot timer.taskId).job.expiries = cfg.limit
    rw [← hdone]
    constructor
    · intro h
      rw [h]
      rfl
    · intro h
      have hnt : ∀ old', (a.slot timer.taskId).task = some old' →
          old'.status.isTerminal = false := by
        intro old' hold'
        rw [slot_task, hold, Option.some.injEq] at hold'
        rw [← hold']
        exact (not_waiting_of_inFlight hf).2
      have ht := TaskState.phase_eq_done_iff.mp h
      -- of the steps that make a task terminal, only the last timeout is a timer
      cases slotStep_becomesTerminal hslot hi hnt hg ht with
      | exhausted _ _ hst _ => exact hst

/-- `retry_count` stays within the limit, and below it as long as the task can go on. -/
theorem retryCount_le_limit (h : Reachable (step cfg) init d) {task : Task}
    (hg : d.store.get t = some task) :
    0 ≤ task.retryCount ∧ task.retryCount ≤ cfg.limit ∧
      (task.status.isWaiting = true → task.retryCount < cfg.limit) := by
  have hcount := (taskInv_of_reachable h hg).retries
  have hacc := accounted_of_reachable h t
  have hle : (d.slot t).fired.length ≤ cfg.limit := hacc.le_limit.2
  rw [hcount]
  refine ⟨by omega, by omega, ?_⟩
  intro hw
  rw [Slot.job_of_task hg, TaskState.phase_of_waiting hw] at hacc
  have hlt : (d.slot t).fired.length < cfg.limit := hacc.2
  omega

/-! ## §2. Counting the requests. -/

/-- The bookkeeping of a task: `retry_count` within the limit, and the number of
ExecuteTask requests that goes with it. -/
structure RetriesCounted (cfg : Config) (d : Dispatcher) (t : String) (task : Task) : Prop where
  nonneg : 0 ≤ task.retryCount
  bounded : task.retryCount ≤ max 1 cfg.maxRetries
  inFlight : task.status = .dispatched ∨ task.status = .processing →
    ((d.sentFor t).length : Int) = task.retryCount + 1
  waiting : task.status = .queued ∨ task.status = .retrying →
    ((d.sentFor t).length : Int) = task.retryCount ∧ task.retryCount < max 1 cfg.maxRetries
  sent : ((d.sentFor t).length : Int) ≤ max 1 cfg.maxRetries

/-- Every record of the state is accounted for, and when the step was a timeout, its task is
FAILED exactly when this was the last timeout allowed. -/
def AllRetriesCounted (cfg : Config) (e : Event) (b : Dispatcher) : Prop :=
  (∀ t task, b.store.get t = some task → RetriesCounted cfg b t task) ∧
  ∀ timer now task, e = .timerFires timer now → b.store.get timer.taskId = some task →
    (task.status = .failed ↔
      ((b.firedFor timer.taskId).length : Int) = max 1 cfg.maxRetries)

/-- The step does not dispatch a task whose id is outside the int32 range: when it is the
return of a non-empty lookup for a task that still waits, the id fits. -/
def DispatchesInt32 (a : Dispatcher) (e : Event) : Prop :=
  ∀ i workers now task, e = .lookupReturns i workers now → workers ≠ [] →
    a.store.get i = some task → task.status.isWaiting = true → Int32Id i

/-- Where only ids in range were dispatched, every dispatch has sent its request. -/
theorem retriesCounted_of_reachable (h : Reachable (step cfg) init d) {task : Task}
    (hg : d.store.get t = some task) (hfit : ¬ Int32Id t → (d.slot t).started = []) :
    RetriesCounted cfg d t task := by
  obtain ⟨hnonneg, hle, hlt⟩ := retryCount_le_limit h hg
  have hlimit := cfg.limit_eq
  have hinv := taskInv_of_reachable h hg
  have hcount := hinv.retries
  have hacc := accounted_of_reachable h t
  -- requests and dispatches agree, for an id out of range because there is neither
  have hsent : (d.sentFor t).length = (d.slot t).started.length := by
    obtain ⟨h1, h2⟩ := sentInv_of_reachable h t
    by_cases hid : Int32Id t
    · exact h1 hid
    · show (d.slot t).sent.length = _
      rw [h2 hid, hfit hid]
      rfl
  have hstarts : (d.slot t).started.length ≤ cfg.limit := hacc.le_limit.1
  refine ⟨hnonneg, by omega, ?_, ?_, by omega⟩
  · intro hs
    have hf : task.status.isInFlight = true := by rcases hs with hs | hs <;> rw [hs] <;> rfl
    rw [Slot.job_of_task hg, TaskState.phase_of_inFlight hf] at hacc
    have : (d.slot t).started.length = (d.slot t).fired.length + 1 := hacc.1
    omega
  · intro hs
    have hw : task.status.isWaiting = true := by rcases hs with hs | hs <;> rw [hs] <;> rfl
    have hltw := hlt hw
    rw [Slot.job_of_task hg, TaskState.phase_of_waiting hw] at hacc
    have : (d.slot t).started.length = (d.slot t).fired.length := hacc.1
    omega

/-- A dispatch of an id out of range leaves a DISPATCHED task without a request. -/
theorem not_retriesCounted_of_dispatch (ha : Reachable (step cfg) init a) {i : String}
    {workers : List WorkerInfo} {now : Int}
    (hs : a.step cfg (.lookupReturns i workers now) = some b) (hne : workers ≠ []) {task : Task}
    (hg : a.store.get i = some task) (hw : task.status.isWaiting = true) (hid : ¬ Int32Id i) :
    ∃ task', b.store.get i = some task' ∧ ¬ RetriesCounted cfg b i task' := by
  obtain ⟨worker, _, hg'⟩ := get_lookupReturns hs hne hg hw
  refine ⟨_, hg', ?_⟩
  intro hc
  have hnil : (b.slot i).sent = [] := (sentInv_of_reachable (ha.tail hs) i).2 hid
  have hlen : (b.sentFor i).length = 0 := by
    show (b.slot i).sent.length = 0
    rw [hnil]
    rfl
  have hin := hc.inFlight (.inl rfl)
  have := hc.nonneg
  omega

/-- **Retries are bounded and exactly counted, as far as the ids fit.**  Along every run: the
bookkeeping of all tasks is right after every step if and only if no step dispatches a task
whose id is outside the int32 range. -/
theorem retriesCounted_iff (cfg : Config) (es : List Event) :
    Along (step cfg) (fun _ e b => AllRetriesCounted cfg e b) init es
      ↔ Along (step cfg) (fun a e _ => DispatchesInt32 a e) init es := by
  constructor
  · -- a dispatch out of range would leave a DISPATCHED task with no request
    refine along_mono ?_ es (Reachable.init init)
    intro a e b ha hs hcounted i workers now task he hne hg hw
    subst he
    by_contra hid
    obtain ⟨task', hg', hnot⟩ := not_retriesCounted_of_dispatch ha hs hne hg hw hid
    exact hnot (hcounted.1 i task' hg')
  · -- as long as the condition holds, an id out of range has never been dispatched
    refine along_of_invariant (I := fun d => ∀ t, ¬ Int32Id t → (d.slot t).started = []) ?_ es
      (Reachable.init init) (fun _ _ => rfl)
    intro a e b ha hI hs hfits
    have hI' : ∀ t, ¬ Int32Id t → (b.slot t).started = [] := by
      intro t hid
      rcases slotStep_sent (slotStep_of_reachable ha hs t) with
        ⟨_, h2⟩ | ⟨workers, now, task, worker, timer, he, hmem, hg, hw, _, _⟩
      · rw [h2]
        exact hI t hid
      · exact absurd (hfits t workers now task he (List.ne_nil_of_mem hmem) hg hw) hid
    refine ⟨⟨?_, ?_⟩, hI'⟩
    · intro t task hg
      exact retriesCounted_of_reachable (ha.tail hs) hg (hI' t)
    · intro timer now task he hg
      subst he
      rw [fails_at_limit ha hs hg, ← cfg.limit_eq]
      omega

/-! ## §3. The run that leaves the int32 range. -/

/-- Post a task and take it from the queue, `n` times over. -/
def postMany (n : Nat) : List Event :=
  (List.replicate n [Event.postTask sampleRequest 0, Event.dequeue]).flatten

theorem run_postMany (cfg : Config) (n : Nat) :
    ∃ d, run (step cfg) init (postMany n) = some d ∧ d.taskIdCounter = n ∧ d.queue = [] := by
  induction n with
  | zero => exact ⟨init, rfl, rfl, rfl⟩
  | succ n ih =>
      obtain ⟨d, hrun, hc, hq⟩ := ih
      obtain ⟨b, hb, hc', hq', _⟩ := run_post_dequeue cfg valid_sampleRequest hq
      refine ⟨b, ?_, by rw [hc', hc], hq'⟩
      unfold postMany at hrun ⊢
      rw [List.replicate_succ', List.flatten_append, List.flatten_singleton]
      exact run_append_eq_some.mpr ⟨d, hrun, hb⟩

/-- Task number 2^31 is dispatched. -/
def overflowRun : List Event :=
  postMany (2 ^ 31 - 1) ++ [.postTask sampleRequest 0, .dequeue]
    ++ [.lookupReturns (str (2 ^ 31)) [sampleWorker] 0]

/-- After 2^31 tasks the counts come apart: the last one is DISPATCHED with no request. -/
theorem not_retriesCounted_overflowRun :
    ¬ Along (step ⟨3⟩) (fun _ e b => AllRetriesCounted ⟨3⟩ e b) init overflowRun := by
  intro hall
  -- 2^31 - 1 tasks by induction, then the one whose number is 2^31
  obtain ⟨d, hrun, hc, hq⟩ := run_postMany ⟨3⟩ (2 ^ 31 - 1)
  obtain ⟨a, ha, _, _, hg, hmem⟩ := run_post_dequeue ⟨3⟩ valid_sampleRequest hq
  have hnum : ((d.taskIdCounter + 1 : Nat) : Int) = 2 ^ 31 := by
    rw [hc]
    omega
  rw [hnum] at hg hmem
  have hpre := run_append_eq_some.mpr ⟨d, hrun, ha⟩
  have hreach : Reachable (step ⟨3⟩) init a := ⟨_, hpre⟩
  obtain ⟨b, hlookup⟩ := lookupReturns_enabled hmem hg [sampleWorker] 0
  have hb : a.step ⟨3⟩ (.lookupReturns (str (2 ^ 31)) [sampleWorker] 0) = some b := hlookup
  have hid : ¬ Int32Id (str (2 ^ 31)) := by
    rw [int32Id_str]
    omega
  obtain ⟨task', hg', hnot⟩ := not_retriesCounted_of_dispatch hreach hb (by decide) hg rfl hid
  have hlast := along_iff_forall_split.mp hall _ _ [] a b rfl hpre hb
  exact hnot (hlast.1 _ _ hg')

end Dispatcher

end TaskGrid
