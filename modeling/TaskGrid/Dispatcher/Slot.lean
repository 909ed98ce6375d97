/-
  TaskGrid.Dispatcher.Slot — the dispatcher as seen by one task.

  `d.slot t` collects what the dispatcher holds for the task id `t`: its
  record, the number of its scheduling obligations (`tokens`: queue entries,
  `_dispatch` runs before their transition, delayed re-enqueues), its live
  timers, its entry in `_timers`, and its history.  Every operation on the
  state touches the slot of one id; the lemmas here say how (`slot_*_self`)
  and that it leaves the other slots alone (`slot_*_ne`).
-/
import TaskGrid.Dispatcher.Servicer
import Mathlib.Data.List.Count

namespace TaskGrid

open TaskGrid.Lib

/-! ## §1. Slots. -/

/-- What the dispatcher holds for one task id. -/
@[ext] structure Slot where
  task : Option Task
  tokens : Nat
  live : List Timer
  registered : Option Timer
  started : List Timer
  fired : List Timer
  sent : List ExecuteCall

namespace Slot

/-- The slot of an id nobody has used. -/
def empty : Slot := ⟨none, 0, [], none, [], [], []⟩

/-- The effect of `_cancel_timeout`. -/
def cancel (s : Slot) : Slot :=
  match s.registered with
  | none => s
  | some timer => { s with registered := none, live := s.live.erase timer }

@[simp] theorem cancel_task (s : Slot) : s.cancel.task = s.task := by
  unfold cancel; split <;> rfl

@[simp] theorem cancel_tokens (s : Slot) : s.cancel.tokens = s.tokens := by
  unfold cancel; split <;> rfl

@[simp] theorem cancel_started (s : Slot) : s.cancel.started = s.started := by
  unfold cancel; split <;> rfl

@[simp] theorem cancel_fired (s : Slot) : s.cancel.fired = s.fired := by
  unfold cancel; split <;> rfl

@[simp] theorem cancel_sent (s : Slot) : s.cancel.sent = s.sent := by
  unfold cancel; split <;> rfl

theorem cancel_live_of_nil {s : Slot} (h : s.live = []) : s.cancel.live = [] := by
  unfold cancel; split <;> simp [h]

/-- Cancelling the only live timer leaves none. -/
theorem cancel_live_of_registered {s : Slot} {timer : Timer} (hl : s.live = [timer])
    (hr : s.registered = some timer) : s.cancel.live = [] := by
  unfold cancel
  rw [hr]
  simp [hl]

end Slot

/-- A `_dispatch` run of the task that has not reached its transition. -/
def DispatchRun.pendingFor (t : String) (r : DispatchRun) : Bool :=
  r.taskId = t && r.isPending

theorem DispatchRun.pendingFor_self {t : String} {p : DispatchPoint}
    (h : (DispatchRun.mk t p).isPending = true) : (DispatchRun.mk t p).pendingFor t = true := by
  simp [pendingFor, h]

theorem DispatchRun.pendingFor_ne {i t : String} (h : i ≠ t) (p : DispatchPoint) :
    (DispatchRun.mk i p).pendingFor t = false := by
  simp [pendingFor, h]

/-- A run that has sent its request is no obligation any more. -/
theorem DispatchRun.pendingFor_dispatchTask (i t : String) (worker : WorkerInfo) (timer : Timer) :
    (DispatchRun.mk i (.dispatchTask worker timer)).pendingFor t = false := by
  simp [pendingFor, isPending]

namespace Dispatcher

/-- The ExecuteTask requests sent for a task. -/
def sentFor (d : Dispatcher) (t : String) : List ExecuteCall := d.sent.filter (·.taskId = t)

/-- The timeouts of a task that have fired. -/
def firedFor (d : Dispatcher) (t : String) : List Timer := d.fired.filter (·.taskId = t)

/-- The slot of a task id. -/
def slot (d : Dispatcher) (t : String) : Slot where
  task := d.store.get t
  tokens := d.queue.count t + d.runs.countP (DispatchRun.pendingFor t) + d.delayed.count t
  live := d.live.filter (·.taskId = t)
  registered := d.timers.get t
  started := d.started.filter (·.taskId = t)
  fired := d.fired.filter (·.taskId = t)
  sent := d.sent.filter (·.taskId = t)

@[simp] theorem slot_task (d : Dispatcher) (t : String) : (d.slot t).task = d.store.get t := rfl

/-! ## §2. The slot after each operation on the state. -/

variable (d : Dispatcher) {t i : String}

theorem slot_update_self {task : Task} (h : task.taskId = t) :
    (d.update task).slot t = { d.slot t with task := (d.slot t).task.map fun _ => task } := by
  ext1 <;> simp [slot, update, Keyed.get_update, h]

theorem slot_update_ne {task : Task} (h : task.taskId ≠ t) : (d.update task).slot t = d.slot t := by
  ext1 <;> simp [slot, update, Keyed.get_update, h]

theorem slot_enqueue_self : (d.enqueue t).slot t
    = { d.slot t with tokens := (d.slot t).tokens + 1 } := by
  ext1 <;> simp [slot, enqueue]
  omega

theorem slot_enqueue_ne (h : i ≠ t) : (d.enqueue i).slot t = d.slot t := by
  ext1 <;> simp [slot, enqueue, h]

theorem slot_block_self {r : DispatchRun} (h : r.pendingFor t = true) : (d.block r).slot t
    = { d.slot t with tokens := (d.slot t).tokens + 1 } := by
  ext1 <;> simp [slot, block, h]
  omega

theorem slot_block_of_not {r : DispatchRun} (h : r.pendingFor t = false) :
    (d.block r).slot t = d.slot t := by
  ext1 <;> simp [slot, block, h]

theorem slot_resume_self {r : DispatchRun} (hr : r ∈ d.runs) (h : r.pendingFor t = true) :
    0 < (d.slot t).tokens ∧ (d.resume r).slot t
      = { d.slot t with tokens := (d.slot t).tokens - 1 } := by
  have hpos : 0 < d.runs.countP (DispatchRun.pendingFor t) :=
    List.countP_pos_iff.mpr ⟨r, hr, h⟩
  refine ⟨by simp only [slot]; omega, ?_⟩
  ext1 <;> simp [slot, resume, List.countP_erase, hr, h]
  omega

theorem slot_resume_of_not {r : DispatchRun} (h : r.pendingFor t = false) :
    (d.resume r).slot t = d.slot t := by
  ext1 <;> simp [slot, resume, List.countP_erase, h]

theorem slot_startTimeoutTimer_self : (d.startTimeoutTimer t).1.slot t
    = { d.slot t with
        live := (d.slot t).live ++ [(d.startTimeoutTimer t).2]
        registered := some (d.startTimeoutTimer t).2
        started := (d.slot t).started ++ [(d.startTimeoutTimer t).2] } := by
  ext1 <;> simp [slot, startTimeoutTimer, Keyed.get_put]

theorem slot_startTimeoutTimer_ne (h : i ≠ t) :
    (d.startTimeoutTimer i).1.slot t = d.slot t := by
  ext1 <;> simp [slot, startTimeoutTimer, Keyed.get_put, h]

theorem slot_startDelayTimer_self : (d.startDelayTimer t).slot t
    = { d.slot t with tokens := (d.slot t).tokens + 1 } := by
  ext1 <;> simp [slot, startDelayTimer]
  omega

theorem slot_startDelayTimer_ne (h : i ≠ t) : (d.startDelayTimer i).slot t = d.slot t := by
  ext1 <;> simp [slot, startDelayTimer, h]

/-- Erasing a timer of another task is invisible to the live timers of a task. -/
theorem filter_erase_of_ne {timer : Timer} (l : List Timer) (h : timer.taskId ≠ t) :
    (l.erase timer).filter (·.taskId = t) = l.filter (·.taskId = t) := by
  rw [← List.erase_filter]
  exact List.erase_of_not_mem (by simp [h])

theorem store_cancelTimeout (i : String) : (d.cancelTimeout i).store = d.store := by
  unfold cancelTimeout
  split <;> rfl

theorem queue_cancelTimeout (i : String) : (d.cancelTimeout i).queue = d.queue := by
  unfold cancelTimeout
  split <;> rfl

theorem delayed_cancelTimeout (i : String) : (d.cancelTimeout i).delayed = d.delayed := by
  unfold cancelTimeout
  split <;> rfl

/-- A task without live timers has none to cancel. -/
theorem live_cancelTimeout_of_nil (h : (d.slot t).live = []) :
    (d.cancelTimeout t).live = d.live := by
  unfold cancelTimeout
  split
  · rfl
  · rename_i timer hg
    have hid : timer.taskId = t := Keyed.key_of_get hg
    apply List.erase_of_not_mem
    intro hmem
    have : timer ∈ (d.slot t).live := by simp [slot, hid, hmem]
    rw [h] at this
    cases this

theorem slot_cancelTimeout_self : (d.cancelTimeout t).slot t = (d.slot t).cancel := by
  unfold cancelTimeout Slot.cancel
  cases hg : d.timers.get t with
  | none => simp [slot, hg]
  | some timer => ext1 <;> simp [slot, hg, Keyed.get_erase, List.erase_filter]

theorem slot_cancelTimeout_ne (h : i ≠ t) : (d.cancelTimeout i).slot t = d.slot t := by
  unfold cancelTimeout
  cases hg : d.timers.get i with
  | none => rfl
  | some timer =>
      have ht : timer.taskId ≠ t := fun e => h ((Keyed.key_of_get hg).symm.trans e)
      ext1 <;> simp [slot, Keyed.get_erase, h, filter_erase_of_ne _ ht]

/-- A fired timer moves from the live ones to the fired ones. -/
theorem slot_fired_self {timer : Timer} (h : timer.taskId = t) (hl : timer ∈ d.live) :
    timer ∈ (d.slot t).live ∧
    ({ d with live := d.live.erase timer, fired := d.fired ++ [timer] } : Dispatcher).slot t
      = { d.slot t with
          live := (d.slot t).live.erase timer, fired := (d.slot t).fired ++ [timer] } := by
  refine ⟨by simp [slot, h, hl], ?_⟩
  ext1 <;> simp [slot, h, List.erase_filter]

theorem slot_fired_ne {timer : Timer} (h : timer.taskId ≠ t) :
    ({ d with live := d.live.erase timer, fired := d.fired ++ [timer] } : Dispatcher).slot t
      = d.slot t := by
  ext1 <;> simp [slot, h, filter_erase_of_ne _ h]

end Dispatcher

end TaskGrid
