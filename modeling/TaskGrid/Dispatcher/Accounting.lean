/-
  TaskGrid.Dispatcher.Accounting — retries are bounded and counted.

  A slot, read as a job (`Slot.job`: phase, dispatches, fired timeouts),
  takes only the steps of `Lib.Retry` (`slotStep_job`), so the accounts of
  that library hold of every task in every reachable state.

  ExecuteTask requests are counted separately: a task id outside the int32
  range makes `dispatch_task` raise before anything is sent, although the
  task is DISPATCHED.  `SentInv` says that this is the only way the count of
  requests and the count of dispatches come apart.
-/
import TaskGrid.Lib.Retry
import TaskGrid.Dispatcher.Obligations

namespace TaskGrid

open TaskGrid.Lib

/-! ## §1. The job of a slot. -/

/-- `max(1, max_retries)` -/
def Config.limit (cfg : Config) : Nat := max 1 cfg.maxRetries.toNat

theorem Config.limit_pos (cfg : Config) : 0 < cfg.limit := by
  unfold limit
  omega

theorem Config.limit_eq (cfg : Config) : (cfg.limit : Int) = max 1 cfg.maxRetries := by
  unfold limit
  omega

/-- The check `retry_count >= max_retries` after the increment is a check against the limit. -/
theorem Config.limit_le_iff (cfg : Config) (n : Nat) :
    cfg.limit ≤ n + 1 ↔ (n : Int) + 1 ≥ cfg.maxRetries := by
  unfold limit
  omega

/-- The phase a status stands for. -/
def TaskState.phase (s : TaskState) : Retry.Phase :=
  if s.isTerminal then .done else if s.isInFlight then .inFlight else .waiting

theorem TaskState.phase_of_waiting {s : TaskState} (h : s.isWaiting = true) :
    s.phase = .waiting := by
  obtain ⟨hf, ht⟩ := not_inFlight_of_waiting h
  unfold phase
  rw [hf, ht]
  rfl

theorem TaskState.phase_of_inFlight {s : TaskState} (h : s.isInFlight = true) :
    s.phase = .inFlight := by
  obtain ⟨_, ht⟩ := not_waiting_of_inFlight h
  unfold phase
  rw [h, ht]
  rfl

/-- A job is done exactly when its task is terminal. -/
theorem TaskState.phase_eq_done_iff {s : TaskState} : s.phase = .done ↔ s.isTerminal = true := by
  cases s <;> decide

theorem TaskState.phase_ne_done {s : TaskState}
    (h : s.isWaiting = true ∨ s.isInFlight = true) : s.phase ≠ .done := by
  intro hdone
  obtain ⟨hw, hf⟩ := not_active_of_terminal (phase_eq_done_iff.mp hdone)
  rw [hw, hf] at h
  exact absurd h (by decide)

/-- The slot read as a job: each dispatch starts an attempt, each fired timeout expires one. -/
def Slot.job (s : Slot) : Retry.Job where
  phase := match s.task with
    | none => .waiting
    | some task => task.status.phase
  starts := s.started.length
  expiries := s.fired.length

theorem Slot.job_of_task {s : Slot} {task : Task} (h : s.task = some task) :
    s.job = ⟨task.status.phase, s.started.length, s.fired.length⟩ := by
  unfold job
  rw [h]

/-! ## §2. A step on a slot is a step of its job. -/

/-- **Refinement.**  What a step does to a slot is nothing, or one step of its job. -/
theorem slotStep_job {cfg : Config} {t : String} {e : Event} {s s' : Slot}
    (h : SlotStep cfg t e s s') (hi : SlotInv t s) :
    s'.job = s.job ∨ Retry.Step cfg.limit s.job s'.job := by
  cases h with
  | idle => exact .inl rfl
  | post => exact .inl rfl
  | drop => exact .inl rfl
  | dispatch htask hmem htok hw ht =>
      -- the one step that starts an attempt
      right
      rw [Slot.job_of_task htask, TaskState.phase_of_waiting hw]
      show Retry.Step cfg.limit _ ⟨.inFlight, (s.started ++ [_]).length, s.fired.length⟩
      rw [List.length_append]
      exact .start _ _
  | accept htask hd =>
      left
      rw [Slot.job_of_task htask, hd]
      rfl
  | reject htask hs =>
      right
      rw [Slot.job_of_task htask]
      show Retry.Step cfg.limit _ ⟨.done, s.cancel.started.length, s.cancel.fired.length⟩
      rw [Slot.cancel_started, Slot.cancel_fired]
      exact .finish _ _ (TaskState.phase_ne_done hs)
  | cancel htask hf =>
      left
      unfold Slot.job
      rw [Slot.cancel_task, Slot.cancel_started, Slot.cancel_fired]
  | @report request now _ task hid htask ha =>
      right
      have hne : task.status.isWaiting = true ∨ task.status.isInFlight = true := by
        rcases ha with hf | hw
        · exact .inr hf
        · exact .inl hw.1
      have hdone := TaskState.phase_eq_done_iff.mpr (task.isTerminal_reported request.payload now)
      rw [Slot.job_of_task htask]
      show Retry.Step cfg.limit _ ⟨(task.reported request.payload now).status.phase,
        s.cancel.started.length, s.cancel.fired.length⟩
      rw [hdone, Slot.cancel_started, Slot.cancel_fired]
      exact .finish _ _ (TaskState.phase_ne_done hne)
  | @retry timer now _ task htid hlive htask hf hr =>
      right
      -- `retry_count` is the number of fired timeouts, so the check is one against the limit
      have hcount := (hi.taskInv htask).retries
      have hlt : s.fired.length + 1 < cfg.limit := by
        rw [hcount, ← cfg.limit_le_iff] at hr
        omega
      rw [Slot.job_of_task htask, TaskState.phase_of_inFlight hf]
      show Retry.Step cfg.limit _ ⟨.waiting, s.started.length, (s.fired ++ [timer]).length⟩
      rw [List.length_append]
      exact .expire hlt
  | @exhaust timer now _ task htid hlive htask hf hr =>
      right
      have hcount := (hi.taskInv htask).retries
      have hle : cfg.limit ≤ s.fired.length + 1 := by
        rw [hcount, ← cfg.limit_le_iff] at hr
        exact hr
      rw [Slot.job_of_task htask, TaskState.phase_of_inFlight hf]
      show Retry.Step cfg.limit _ ⟨.done, s.started.length, (s.fired ++ [timer]).length⟩
      rw [List.length_append]
      exact .exhaust hle
  | lateTimeout htid hlive hf =>
      -- excluded: a live timer belongs to a task in flight
      obtain ⟨task, htask, hfl, _⟩ := hi.inFlight_of_live hlive
      rw [hf task htask] at hfl
      cases hfl

/-! ## §3. Requests and the int32 range. -/

/-- `int(task_id)` fits into an int32 field. -/
def Int32Id (t : String) : Prop := ∃ n, int? t = some n ∧ -2 ^ 31 ≤ n ∧ n ≤ 2 ^ 31 - 1

theorem int32Id_str (n : Int) : Int32Id (str n) ↔ -2 ^ 31 ≤ n ∧ n ≤ 2 ^ 31 - 1 := by
  unfold Int32Id
  rw [int?_str]
  constructor
  · rintro ⟨m, hm, hbounds⟩
    rw [Option.some.injEq] at hm
    rw [hm]
    exact hbounds
  · exact fun h => ⟨n, rfl, h⟩

/-- The request can be built exactly when the id fits. -/
theorem executeRequest_isOk_iff (task : Task) (now : Int) :
    (∃ request, Dispatcher.executeRequest task now = .ok request) ↔ Int32Id task.taskId := by
  unfold Dispatcher.executeRequest Int32Id
  cases hi : int? task.taskId with
  | none => simp
  | some n =>
      simp only [Option.some.injEq, exists_eq_left']
      rw [← encodeInt32_isOk_iff]
      cases he : encodeInt32 n with
      | error err => simp
      | ok m => simp

theorem length_executeCalls {task : Task} (h : Int32Id task.taskId) (worker : WorkerInfo)
    (now : Int) : (executeCalls task worker now).length = 1 := by
  obtain ⟨request, hr⟩ := (executeRequest_isOk_iff task now).mpr h
  unfold executeCalls
  rw [hr]
  rfl

theorem executeCalls_eq_nil {task : Task} (h : ¬ Int32Id task.taskId) (worker : WorkerInfo)
    (now : Int) : executeCalls task worker now = [] := by
  unfold executeCalls
  cases hr : Dispatcher.executeRequest task now with
  | error err => rfl
  | ok request => exact absurd ((executeRequest_isOk_iff task now).mp ⟨request, hr⟩) h

/-- The requests of a task: one for each dispatch when its id fits, none at all otherwise. -/
def SentInv (t : String) (s : Slot) : Prop :=
  (Int32Id t → s.sent.length = s.started.length) ∧ (¬ Int32Id t → s.sent = [])

theorem SentInv.congr {t : String} {s s' : Slot} (h : SentInv t s) (hsent : s'.sent = s.sent)
    (hstarted : s'.started = s.started) : SentInv t s' := by
  unfold SentInv
  rw [hsent, hstarted]
  exact h

theorem sentInv_step {cfg : Config} {t : String} {e : Event} {s s' : Slot}
    (h : SlotStep cfg t e s s') (hi : SlotInv t s) (hsent : SentInv t s) : SentInv t s' := by
  rcases slotStep_sent h with ⟨h1, h2⟩ | ⟨_, now, task, worker, timer, _, _, htask, _, h2, h1⟩
  · exact hsent.congr h1 h2
  · have hid : (task.dispatchedTo worker now).taskId = t := (hi.taskInv htask).id
    refine ⟨?_, ?_⟩
    · -- in range: one more dispatch and one more request
      intro hfit
      rw [h1, h2, List.length_append, List.length_append, hsent.1 hfit,
        length_executeCalls (hid.symm ▸ hfit)]
      rfl
    · -- out of range: the request cannot be built
      intro hno
      rw [h1, hsent.2 hno, executeCalls_eq_nil (hid.symm ▸ hno)]
      rfl

/-! ## §4. Reachable states. -/

namespace Dispatcher

variable {cfg : Config} {d : Dispatcher} {t : String}

/-- The life of a task so far is a run of its job. -/
theorem job_of_reachable (h : Reachable (step cfg) init d) (t : String) :
    Relation.ReflTransGen (Retry.Step cfg.limit) Retry.Job.fresh (d.slot t).job := by
  refine h.invariant (I := fun d =>
    Relation.ReflTransGen (Retry.Step cfg.limit) Retry.Job.fresh (d.slot t).job) ?_ ?_
  · exact .refl
  · intro a e b ha hI hs
    rcases slotStep_job (slotStep_of_reachable ha hs t) (slotInv_of_reachable ha t) with h | h
    · rw [h]
      exact hI
    · exact hI.tail h

/-- **The accounts of a task hold in every reachable state**, whatever its id. -/
theorem accounted_of_reachable (h : Reachable (step cfg) init d) (t : String) :
    Retry.Accounted cfg.limit (d.slot t).job :=
  Retry.Accounted.of_steps cfg.limit_pos (job_of_reachable h t)

theorem sentInv_of_reachable (h : Reachable (step cfg) init d) (t : String) :
    SentInv t (d.slot t) := by
  refine h.invariant (I := fun d => SentInv t (d.slot t)) ⟨fun _ => rfl, fun _ => rfl⟩ ?_
  intro a e b ha hI hs
  exact sentInv_step (slotStep_of_reachable ha hs t) (slotInv_of_reachable ha t) hI

end Dispatcher

end TaskGrid
