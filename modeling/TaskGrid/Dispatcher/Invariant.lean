/-
  TaskGrid.Dispatcher.Invariant — what holds of every slot in every reachable state.

  `SlotInv t s` ties the record of a task to its obligations and its history:
  a waiting task has one token and no live timer, a task in flight has no
  token and one live timer, the registered one of its latest dispatch, and a
  terminal task has no live timer.  `slotInv_of_reachable` is the only
  induction over runs in this file; the step lemma under it has one case for
  each constructor of `SlotStep`.
-/
import TaskGrid.Dispatcher.Inversion

namespace TaskGrid

open TaskGrid.Lib

/-! ## §1. The invariant. -/

/-- The one live timer of a task in flight. -/
structure Slot.Timed (s : Slot) (timer : Timer) : Prop where
  live : s.live = [timer]
  registered : s.registered = some timer
  latest : s.started.getLast? = some timer

/-- The slot of a task whose record is `task`. -/
structure TaskInv (t : String) (s : Slot) (task : Task) : Prop where
  id : task.taskId = t
  status : task.status.isWaiting = true ∨ task.status.isInFlight = true
    ∨ task.status.isTerminal = true
  waiting : task.status.isWaiting = true → s.tokens = 1 ∧ s.live = []
  inFlight : task.status.isInFlight = true → s.tokens = 0 ∧ ∃ timer, s.Timed timer
  terminal : task.status.isTerminal = true → s.live = []
  queued : task.status = .queued → s.started = []
  result : task.status.isTerminal = false → task.result = ""
  retries : task.retryCount = s.fired.length

/-- **The invariant of a slot.**  An id without a record has an empty slot. -/
def SlotInv (t : String) (s : Slot) : Prop :=
  match s.task with
  | none => s = Slot.empty
  | some task => TaskInv t s task

theorem slotInv_empty (t : String) : SlotInv t Slot.empty := by
  show Slot.empty = Slot.empty
  rfl

/-- An id without a record has nothing at all. -/
theorem SlotInv.eq_empty {t : String} {s : Slot} (h : SlotInv t s) (hnone : s.task = none) :
    s = Slot.empty := by
  unfold SlotInv at h
  rw [hnone] at h
  exact h

theorem SlotInv.taskInv {t : String} {s : Slot} {task : Task} (h : SlotInv t s)
    (htask : s.task = some task) : TaskInv t s task := by
  unfold SlotInv at h
  rw [htask] at h
  exact h

/-- A live timer is the timer of a task in flight. -/
theorem TaskInv.inFlight_of_live {t : String} {s : Slot} {task : Task} {timer : Timer}
    (h : TaskInv t s task) (hl : timer ∈ s.live) :
    task.status.isInFlight = true ∧ s.Timed timer := by
  rcases h.status with hw | hf | ht
  · rw [(h.waiting hw).2] at hl
    cases hl
  · obtain ⟨_, timer', ht'⟩ := h.inFlight hf
    have heq : timer = timer' := by
      rw [ht'.live] at hl
      exact List.mem_singleton.mp hl
    exact ⟨hf, heq ▸ ht'⟩
  · rw [h.terminal ht] at hl
    cases hl

/-- So no timeout is late. -/
theorem SlotInv.inFlight_of_live {t : String} {s : Slot} {timer : Timer} (h : SlotInv t s)
    (hl : timer ∈ s.live) :
    ∃ task, s.task = some task ∧ task.status.isInFlight = true ∧ s.Timed timer := by
  cases htask : s.task with
  | none =>
      rw [h.eq_empty htask] at hl
      cases hl
  | some task => exact ⟨task, rfl, (h.taskInv htask).inFlight_of_live hl⟩

/-- `_cancel_timeout` leaves no live timer, whatever the status. -/
theorem TaskInv.cancel_live {t : String} {s : Slot} {task : Task} (h : TaskInv t s task) :
    s.cancel.live = [] := by
  rcases h.status with hw | hf | ht
  · exact Slot.cancel_live_of_nil (h.waiting hw).2
  · obtain ⟨_, timer, ht'⟩ := h.inFlight hf
    exact Slot.cancel_live_of_registered ht'.live ht'.registered
  · exact Slot.cancel_live_of_nil (h.terminal ht)

/-- A task with an obligation to spare is terminal. -/
theorem TaskInv.terminal_of_spare {t : String} {s : Slot} {task : Task} (h : TaskInv t s task)
    (htok : 0 < s.tokens) (hw : task.status.isWaiting = false) :
    task.status.isTerminal = true := by
  rcases h.status with hw' | hf | ht
  · rw [hw] at hw'
    cases hw'
  · have hzero := (h.inFlight hf).1
    omega
  · exact ht

/-- A timer that fires was the only live one. -/
theorem TaskInv.erase_live {t : String} {s : Slot} {task : Task} {timer : Timer}
    (h : TaskInv t s task) (hl : timer ∈ s.live) : s.live.erase timer = [] := by
  rw [(h.inFlight_of_live hl).2.live]
  simp

/-- A firing and the increment of `retry_count` go together. -/
theorem TaskInv.retries_fired {t : String} {s : Slot} {task : Task} (h : TaskInv t s task)
    (timer : Timer) : task.retryCount + 1 = ((s.fired ++ [timer]).length : Int) := by
  rw [List.length_append, List.length_singleton, h.retries]
  omega

/-! ## §2. Building the invariant of the new record. -/

/-- The invariant of a record that has become terminal. -/
theorem TaskInv.of_terminal {t : String} {s : Slot} {task : Task} (hid : task.taskId = t)
    (ht : task.status.isTerminal = true) (hl : s.live = [])
    (hr : task.retryCount = s.fired.length) : TaskInv t s task where
  id := hid
  status := .inr (.inr ht)
  waiting hw := by rw [(not_active_of_terminal ht).1] at hw; cases hw
  inFlight hf := by rw [(not_active_of_terminal ht).2] at hf; cases hf
  terminal _ := hl
  queued hq := by rw [hq] at ht; cases ht
  result hn := by rw [ht] at hn; cases hn
  retries := hr

/-- The invariant of a record that has come in flight. -/
theorem TaskInv.of_inFlight {t : String} {s : Slot} {task : Task} (timer : Timer)
    (hid : task.taskId = t) (hf : task.status.isInFlight = true) (htok : s.tokens = 0)
    (htimed : s.Timed timer) (hres : task.result = "")
    (hr : task.retryCount = s.fired.length) : TaskInv t s task where
  id := hid
  status := .inr (.inl hf)
  waiting hw := by rw [(not_waiting_of_inFlight hf).1] at hw; cases hw
  inFlight _ := ⟨htok, timer, htimed⟩
  terminal ht := by rw [(not_waiting_of_inFlight hf).2] at ht; cases ht
  queued hq := by rw [hq] at hf; cases hf
  result _ := hres
  retries := hr

/-- The invariant of a record that waits for another attempt. -/
theorem TaskInv.of_retrying {t : String} {s : Slot} {task : Task} (hid : task.taskId = t)
    (hs : task.status = .retrying) (htok : s.tokens = 1) (hl : s.live = [])
    (hres : task.result = "") (hr : task.retryCount = s.fired.length) : TaskInv t s task where
  id := hid
  status := .inl (by rw [hs]; rfl)
  waiting _ := ⟨htok, hl⟩
  inFlight hf := by rw [hs] at hf; cases hf
  terminal ht := by rw [hs] at ht; cases ht
  queued hq := by rw [hs] at hq; cases hq
  result _ := hres
  retries := hr

/-! ## §3. Every step keeps the invariant. -/

/-- **Step lemma.**  A step on a slot keeps its invariant. -/
theorem slotInv_step {cfg : Config} {t : String} {e : Event} {s s' : Slot}
    (h : SlotStep cfg t e s s') (hi : SlotInv t s) : SlotInv t s' := by
  cases h with
  | idle => exact hi
  | post request now =>
      show TaskInv t _ (Task.posted t request.payload now)
      exact ⟨rfl, .inl rfl, fun _ => ⟨rfl, rfl⟩, nofun, nofun, fun _ => rfl, fun _ => rfl, rfl⟩
  | drop htok hw =>
      cases htask : s.task with
      | none =>
          rw [hi.eq_empty htask] at htok
          exact absurd htok (Nat.not_lt_zero 0)
      | some task =>
          have hinv := hi.taskInv htask
          have ht := hinv.terminal_of_spare htok (hw task htask)
          show TaskInv t _ task
          exact .of_terminal hinv.id ht (hinv.terminal ht) hinv.retries
  | @dispatch workers now _ task worker timer htask hmem htok hw ht =>
      -- the token is spent on the new timer, the only live one
      have ht := hi.taskInv htask
      have hnil := (ht.waiting hw).2
      show TaskInv t _ (task.dispatchedTo worker now)
      refine .of_inFlight timer ht.id rfl ?_ ⟨?_, rfl, ?_⟩ ?_ ht.retries
      · show s.tokens - 1 = 0
        have := (ht.waiting hw).1
        omega
      · show s.live ++ [timer] = [timer]
        rw [hnil, List.nil_append]
      · exact List.getLast?_concat
      · exact ht.result (not_inFlight_of_waiting hw).2
  | @accept worker timer now _ task htask hd =>
      have ht := hi.taskInv htask
      have hf : task.status.isInFlight = true := by rw [hd]; rfl
      obtain ⟨htok, timer', htimed⟩ := ht.inFlight hf
      show TaskInv t _ (task.enter .processing now)
      exact .of_inFlight timer' ht.id rfl htok ⟨htimed.live, htimed.registered,
        htimed.latest⟩ (ht.result (not_waiting_of_inFlight hf).2) ht.retries
  | @reject worker timer now _ task htask hs =>
      have ht := hi.taskInv htask
      show TaskInv t _ (task.enter .failed now)
      refine .of_terminal ht.id rfl ht.cancel_live ?_
      show task.retryCount = s.cancel.fired.length
      rw [Slot.cancel_fired]
      exact ht.retries
  | @cancel _ _ task htask hf =>
      -- not in flight, so there was no live timer to lose
      have ht := hi.taskInv htask
      have hnf : ¬ task.status.isInFlight = true := by
        rw [hf]
        decide
      unfold SlotInv
      rw [Slot.cancel_task, htask]
      refine ⟨ht.id, ht.status, ?_, fun h => absurd h hnf, fun _ => ht.cancel_live, ?_,
        ht.result, ?_⟩
      · intro hw
        rw [Slot.cancel_tokens]
        exact ⟨(ht.waiting hw).1, ht.cancel_live⟩
      · rw [Slot.cancel_started]
        exact ht.queued
      · rw [Slot.cancel_fired]
        exact ht.retries
  | @report request now _ task hid htask ha =>
      have ht := hi.taskInv htask
      show TaskInv t _ (task.reported request.payload now)
      refine .of_terminal ?_ (task.isTerminal_reported request.payload now) ht.cancel_live ?_
      · rw [Task.reported_taskId]
        exact ht.id
      · show _ = (s.cancel.fired.length : Int)
        rw [Task.reported_retryCount, Slot.cancel_fired]
        exact ht.retries
  | @retry timer now _ task htid hlive htask hf hr =>
      have ht := hi.taskInv htask
      show TaskInv t _ (task.timedOut now)
      -- the fired timer was the only live one, the delayed re-enqueue is the only token
      refine .of_retrying ht.id rfl ?_ (ht.erase_live hlive)
        (ht.result (not_waiting_of_inFlight hf).2) (ht.retries_fired timer)
      show s.tokens + 1 = 1
      have hzero := (ht.inFlight hf).1
      omega
  | @exhaust timer now _ task htid hlive htask hf hr =>
      have ht := hi.taskInv htask
      show TaskInv t _ ((task.timedOut now).enter .failed now)
      exact .of_terminal ht.id rfl (ht.erase_live hlive) (ht.retries_fired timer)
  | lateTimeout htid hlive hf =>
      -- excluded: a live timer belongs to a task in flight
      obtain ⟨task, htask, hfl, _⟩ := hi.inFlight_of_live hlive
      rw [hf task htask] at hfl
      cases hfl

namespace Dispatcher

variable {cfg : Config} {d : Dispatcher} {t : String}

/-- **Every slot of every reachable state meets its invariant.** -/
theorem slotInv_of_reachable (h : Reachable (step cfg) init d) (t : String) :
    SlotInv t (d.slot t) := by
  refine h.invariant (I := fun d => SlotInv t (d.slot t)) (slotInv_empty t) ?_
  intro d e d' hd hi hs
  exact slotInv_step (step_slot (numbered_of_reachable hd) hs t) hi

/-- An unknown id has an empty slot. -/
theorem slot_eq_empty_of_none (h : Reachable (step cfg) init d) (hg : d.store.get t = none) :
    d.slot t = Slot.empty :=
  (slotInv_of_reachable h t).eq_empty hg

theorem taskInv_of_reachable (h : Reachable (step cfg) init d) {task : Task}
    (hg : d.store.get t = some task) : TaskInv t (d.slot t) task :=
  (slotInv_of_reachable h t).taskInv hg

/-- A step of a reachable state is a `SlotStep` on every slot. -/
theorem slotStep_of_reachable (h : Reachable (step cfg) init d) {e : Event} {d' : Dispatcher}
    (hs : d.step cfg e = some d') (t : String) : SlotStep cfg t e (d.slot t) (d'.slot t) :=
  step_slot (numbered_of_reachable h) hs t

end Dispatcher

end TaskGrid
