/-
  TaskGrid.Dispatcher.Times — the time stamps of a task and the average over them.

  The readings of the clock come with the labels of the steps.  `ClockRuns`
  is the assumption about them: along the run they never decrease and are at
  least 1.  `clock` is the same as an automaton over the labels, so that the
  time stamps can be set against the present reading (`Timely`) and the step
  lemma has the reading of the step in hand.

  Every dispatch overwrites `timestamp_dispatched`, so a result that comes
  late is measured against the latest dispatch before it; a task is reported
  COMPLETED only from the states in flight, which no task reaches without a
  dispatch.

  Main result: `processing_times`.
-/
import TaskGrid.Dispatcher.StatusCollector
import Mathlib.Algebra.Order.BigOperators.Group.List
import Mathlib.Data.Nat.Cast.Order.Ring

namespace TaskGrid

open TaskGrid.Lib

/-! ## §1. The clock. -/

/-- What the clock reads in a step, when the step reads it. -/
def Event.reading : Event → Option Int
  | .postTask _ now => some now
  | .returnResult _ now => some now
  | .lookupReturns _ _ now => some now
  | .reply _ _ _ _ now => some now
  | .timerFires _ now => some now
  | .dequeue | .sleepEnds _ | .reenqueueAfterDelay _ => none

/-- The readings of the clock never decrease along the run and are at least 1. -/
def ClockRuns (es : List Event) : Prop :=
  (es.filterMap Event.reading).Pairwise (· ≤ ·) ∧ ∀ now ∈ es.filterMap Event.reading, 1 ≤ now

/-- The clock as an automaton: it allows no reading below the one before. -/
def clock (present : Int) (e : Event) : Option Int :=
  match e.reading with
  | none => some present
  | some now => if present ≤ now then some now else none

/-- The clock goes forward. -/
theorem clock_le {present later : Int} {e : Event} (h : clock present e = some later) :
    present ≤ later := by
  unfold clock at h
  split at h
  · rw [Option.some.injEq] at h
    omega
  · split at h
    · rw [Option.some.injEq] at h
      omega
    · cases h

/-- A step that reads the clock leaves it at this reading. -/
theorem clock_reading {present later now : Int} {e : Event} (h : clock present e = some later)
    (he : e.reading = some now) : later = now := by
  unfold clock at h
  simp only [he] at h
  split at h
  · rw [Option.some.injEq] at h
    omega
  · cases h

/-- The automaton allows every sequence of readings that never decrease from the present one on. -/
theorem run_clock (es : List Event) :
    ∀ present : Int, (es.filterMap Event.reading).Pairwise (· ≤ ·) →
      (∀ now ∈ es.filterMap Event.reading, present ≤ now) →
        ∃ later, run clock present es = some later := by
  induction es with
  | nil => intro present _ _; exact ⟨present, rfl⟩
  | cons e es ih =>
      intro present hsorted hle
      cases he : e.reading with
      | none =>
          rw [List.filterMap_cons_none he] at hsorted hle
          have hclock : clock present e = some present := by
            unfold clock
            rw [he]
          obtain ⟨later, hlater⟩ := ih present hsorted hle
          exact ⟨later, run_cons_eq_some.mpr ⟨present, hclock, hlater⟩⟩
      | some now =>
          rw [List.filterMap_cons_some he] at hsorted hle
          have hclock : clock present e = some now := by
            unfold clock
            simp only [he]
            exact if_pos (hle now List.mem_cons_self)
          obtain ⟨hhead, htail⟩ := List.pairwise_cons.mp hsorted
          obtain ⟨later, hlater⟩ := ih now htail hhead
          exact ⟨later, run_cons_eq_some.mpr ⟨now, hclock, hlater⟩⟩

/-! ## §2. The time stamps of a record. -/

/-- The time stamps of a record fit its status. -/
structure Task.WellTimed (task : Task) : Prop where
  created : 0 < task.timestampDispatched → task.timestampCreated ≤ task.timestampDispatched
  unfinished : task.status.isTerminal = false → task.timestampCompleted = 0
  completed : task.status = .completed →
    0 < task.timestampDispatched ∧ task.timestampDispatched ≤ task.timestampCompleted

/-- The invariant of a record when the clock reads `present`: no stamp lies in the future, and a
task in flight has been dispatched. -/
structure Task.Timely (present : Int) (task : Task) : Prop where
  wellTimed : task.WellTimed
  created_le : task.timestampCreated ≤ present
  dispatched_le : task.timestampDispatched ≤ present
  inFlight : task.status.isInFlight = true → 0 < task.timestampDispatched

namespace Task

variable {present later : Int} {task : Task}

/-- Time passes. -/
theorem Timely.mono (h : task.Timely present) (hle : present ≤ later) : task.Timely later where
  wellTimed := h.wellTimed
  created_le := Int.le_trans h.created_le hle
  dispatched_le := Int.le_trans h.dispatched_le hle
  inFlight := h.inFlight

/-- PostTask stamps the creation and nothing else. -/
theorem timely_posted (t : String) (payload : PostTaskPayload) (h : 1 ≤ present) :
    (posted t payload present).Timely present where
  wellTimed := ⟨fun hd => absurd hd (Int.lt_irrefl 0), fun _ => rfl, nofun⟩
  created_le := Int.le_refl _
  dispatched_le := by
    show (0 : Int) ≤ present
    omega
  inFlight := nofun

/-- A dispatch overwrites the stamp of the one before. -/
theorem Timely.dispatchedTo (h : task.Timely present) (hw : task.status.isWaiting = true)
    (h1 : 1 ≤ present) (worker : WorkerInfo) : (task.dispatchedTo worker present).Timely present where
  wellTimed := ⟨fun _ => h.created_le, fun _ => h.wellTimed.unfinished (not_inFlight_of_waiting hw).2,
    nofun⟩
  created_le := h.created_le
  dispatched_le := Int.le_refl _
  inFlight _ := by
    show 0 < present
    omega

/-- An acceptance stamps nothing. -/
theorem Timely.accepted (h : task.Timely present) (hd : task.status = .dispatched) (now : Int) :
    (task.enter .processing now).Timely present where
  wellTimed := ⟨h.wellTimed.created, fun _ => h.wellTimed.unfinished (by rw [hd]; rfl), nofun⟩
  created_le := h.created_le
  dispatched_le := h.dispatched_le
  inFlight _ := h.inFlight (by rw [hd]; rfl)

/-- A failure stamps the completion, dispatched or not. -/
theorem Timely.failed (h : task.Timely present) (now : Int) :
    (task.enter .failed now).Timely present where
  wellTimed := ⟨h.wellTimed.created, nofun, nofun⟩
  created_le := h.created_le
  dispatched_le := h.dispatched_le
  inFlight := nofun

/-- A timeout stamps nothing; the stamp of the lost attempt stays. -/
theorem Timely.timedOut (h : task.Timely present) (hf : task.status.isInFlight = true) (now : Int) :
    (task.timedOut now).Timely present where
  wellTimed := ⟨h.wellTimed.created,
    fun _ => h.wellTimed.unfinished (not_waiting_of_inFlight hf).2, nofun⟩
  created_le := h.created_le
  dispatched_le := h.dispatched_le
  inFlight := nofun

/-- The intermediate transition of ReturnResult stamps nothing. -/
theorem Timely.processed (h : task.Timely present) (now : Int) :
    (task.processed now).Timely present := by
  unfold Task.processed
  split
  · rename_i hd
    exact h.accepted hd now
  · exact h

/-- A report stamps the completion; one that says COMPLETED finds the task in flight, with the
latest dispatch behind it. -/
theorem Timely.reported (h : task.Timely present) {report : ResultPayload}
    (ha : Accepts task report) : (task.reported report present).Timely present := by
  have hp := h.processed present
  unfold Task.reported Dispatcher.reportedState
  by_cases hc : report.status = "COMPLETED"
  · rw [if_pos hc]
    have hf : task.status.isInFlight = true := by
      rcases ha with hf | hw
      · exact hf
      · exact absurd hc hw.2
    have hpos : 0 < (task.processed present).timestampDispatched :=
      hp.inFlight (by rw [processed_status_of_inFlight present hf]; rfl)
    exact ⟨⟨hp.wellTimed.created, nofun, fun _ => ⟨hpos, hp.dispatched_le⟩⟩, hp.created_le,
      hp.dispatched_le, nofun⟩
  · rw [if_neg hc]
    have hfailed := hp.failed present
    exact ⟨⟨hfailed.wellTimed.created, nofun, nofun⟩, hfailed.created_le, hfailed.dispatched_le,
      nofun⟩

end Task

/-! ## §3. Every step keeps the time stamps in order. -/

/-- The record of a slot, if there is one, is timely. -/
def TimelySlot (present : Int) (s : Slot) : Prop :=
  ∀ task, s.task = some task → task.Timely present

/-- **Step lemma.**  A step the clock allows keeps a record timely. -/
theorem timelySlot_step {cfg : Config} {t : String} {e : Event} {s s' : Slot} {present later : Int}
    (h : SlotStep cfg t e s s') (hclock : clock present e = some later) (h1 : 1 ≤ present)
    (hi : TimelySlot present s) : TimelySlot later s' := by
  have hle := clock_le hclock
  have h1' : 1 ≤ later := Int.le_trans h1 hle
  -- what was timely still is
  have hold : ∀ task, s.task = some task → task.Timely later :=
    fun task htask => (hi task htask).mono hle
  intro task' htask'
  cases h with
  | idle => exact hold task' htask'
  | post request now =>
      rw [← Option.some.inj htask', ← clock_reading hclock rfl]
      exact Task.timely_posted t request.payload h1'
  | drop => exact hold task' htask'
  | @dispatch workers now _ task worker timer htask hmem htok hw ht =>
      rw [← Option.some.inj htask', ← clock_reading hclock rfl]
      exact (hold task htask).dispatchedTo hw h1' worker
  | @accept worker timer now _ task htask hd =>
      rw [← Option.some.inj htask']
      exact (hold task htask).accepted hd now
  | @reject worker timer now _ task htask hs =>
      rw [← Option.some.inj htask']
      exact (hold task htask).failed now
  | cancel =>
      rw [Slot.cancel_task] at htask'
      exact hold task' htask'
  | @report request now _ task hid htask ha =>
      rw [← Option.some.inj htask', ← clock_reading hclock rfl]
      exact (hold task htask).reported ha
  | @retry timer now _ task htid hlive htask hf hr =>
      rw [← Option.some.inj htask']
      exact (hold task htask).timedOut hf now
  | @exhaust timer now _ task htid hlive htask hf hr =>
      rw [← Option.some.inj htask']
      exact ((hold task htask).timedOut hf now).failed now
  | lateTimeout => exact hold task' htask'

namespace Dispatcher

variable {cfg : Config} {d : Dispatcher}

/-- **Run lemma.**  Under a clock that never decreases and reads at least 1 every record is well
timed. -/
theorem wellTimed_of_run {es : List Event} (hr : run (step cfg) init es = some d)
    (hclock : ClockRuns es) {task : Task} (htask : task ∈ d.store.entries) : task.WellTimed := by
  obtain ⟨later, hlater⟩ := run_clock es 1 hclock.1 hclock.2
  have hstep : ∀ present a e later b, Reachable (step cfg) init a →
      1 ≤ present ∧ TimelySlot present (a.slot task.taskId) → clock present e = some later →
        step cfg a e = some b → 1 ≤ later ∧ TimelySlot later (b.slot task.taskId) := by
    intro present a e later b ha hi hc hs
    exact ⟨Int.le_trans hi.1 (clock_le hc),
      timelySlot_step (slotStep_of_reachable ha hs task.taskId) hc hi.1 hi.2⟩
  have hinv : 1 ≤ later ∧ TimelySlot later (d.slot task.taskId) :=
    run_watched (I := fun present d => 1 ≤ present ∧ TimelySlot present (d.slot task.taskId))
      hstep es (Reachable.init init) ⟨Int.le_refl 1, nofun⟩ hlater hr
  exact (hinv.2 task (Keyed.get_of_mem htask)).wellTimed

end Dispatcher

/-! ## §4. The average processing time. -/

/-- The list `done_with_time` of `get_status`. -/
def doneWithTime (store : TaskStore) : List Task :=
  store.entries.filter fun t =>
    t.status = .completed && t.timestampDispatched > 0 && t.timestampCompleted > 0

/-- The COMPLETED tasks. -/
def completedTasks (store : TaskStore) : List Task :=
  store.entries.filter fun t => t.status = .completed

/-- The processing time of a task in milliseconds. -/
def Task.processingMs (task : Task) : Int :=
  (task.timestampCompleted - task.timestampDispatched) * 1000

/-- The average `get_status` computes. -/
theorem average_eq (store : TaskStore) (lookupWorker : String → List WorkerInfo) :
    (getStatus store lookupWorker).durchschnittlicheBearbeitungszeitMs
      = if doneWithTime store = [] then 0
        else ((((doneWithTime store).map Task.processingMs).sum : Int) : ℚ)
          / (doneWithTime store).length := rfl

/-- The filter drops no COMPLETED task that is well timed. -/
theorem doneWithTime_eq {store : TaskStore} (h : ∀ task ∈ store.entries, task.WellTimed) :
    doneWithTime store = completedTasks store := by
  unfold doneWithTime completedTasks
  apply List.filter_congr
  intro task htask
  by_cases hc : task.status = .completed
  · obtain ⟨hpos, hle⟩ := (h task htask).completed hc
    have hpos' : 0 < task.timestampCompleted := Int.lt_of_lt_of_le hpos hle
    simp [hc, hpos, hpos']
  · simp [hc]

/-- A COMPLETED task that is well timed has taken no negative time. -/
theorem processingMs_nonneg {store : TaskStore} (h : ∀ task ∈ store.entries, task.WellTimed) :
    0 ≤ ((completedTasks store).map Task.processingMs).sum := by
  apply List.sum_nonneg
  intro n hn
  obtain ⟨task, htask, rfl⟩ := List.mem_map.mp hn
  unfold completedTasks at htask
  rw [List.mem_filter, decide_eq_true_eq] at htask
  have hle := ((h task htask.1).completed htask.2).2
  show 0 ≤ (task.timestampCompleted - task.timestampDispatched) * 1000
  omega

namespace Dispatcher

/-- **Processing times are well formed.**  After every run under a clock that never decreases and
reads at least 1: every record is well timed, `done_with_time` is the list of all COMPLETED
tasks, the average times their number is the sum of their processing times (and 0 when there is
none), it is not negative, and what it is divided by is not zero. -/
theorem processing_times (cfg : Config) {es : List Event} {d : Dispatcher}
    (hr : run (step cfg) init es = some d) (hclock : ClockRuns es)
    (lookupWorker : String → List WorkerInfo) :
    (∀ task ∈ d.store.entries, task.WellTimed) ∧
    doneWithTime d.store = completedTasks d.store ∧
    (getStatus d.store lookupWorker).durchschnittlicheBearbeitungszeitMs
        * (completedTasks d.store).length
      = (((completedTasks d.store).map Task.processingMs).sum : Int) ∧
    (completedTasks d.store = [] →
      (getStatus d.store lookupWorker).durchschnittlicheBearbeitungszeitMs = 0) ∧
    0 ≤ (getStatus d.store lookupWorker).durchschnittlicheBearbeitungszeitMs ∧
    (doneWithTime d.store ≠ [] → ((doneWithTime d.store).length : ℚ) ≠ 0) := by
  have htimed : ∀ task ∈ d.store.entries, task.WellTimed :=
    fun task htask => wellTimed_of_run hr hclock htask
  have hdone := doneWithTime_eq htimed
  have hsum := processingMs_nonneg htimed
  have hlength : ∀ l : List Task, l ≠ [] → (l.length : ℚ) ≠ 0 := by
    intro l hl
    rw [Nat.cast_ne_zero]
    exact fun h => hl (List.length_eq_zero_iff.mp h)
  rw [average_eq, hdone]
  refine ⟨htimed, rfl, ?_, ?_, ?_, hlength _⟩
  · by_cases hnil : completedTasks d.store = []
    · rw [hnil]
      simp
    · rw [if_neg hnil]
      exact div_mul_cancel₀ _ (hlength _ hnil)
  · intro hnil
    exact if_pos hnil
  · split
    · exact le_refl 0
    · apply div_nonneg
      · exact_mod_cast hsum
      · exact Nat.cast_nonneg _

/-- A first attempt times out; its result comes after the second dispatch. -/
def lateReportRun : List Event :=
  [.postTask sampleRequest 5, .dequeue, .lookupReturns "1" [sampleWorker] 5,
    .timerFires ⟨0, "1"⟩ 7, .reenqueueAfterDelay "1", .dequeue,
    .lookupReturns "1" [sampleWorker] 8, .returnResult sampleResult 8]

/-- The late result counts from the second dispatch: no time has passed since. -/
theorem processing_times_lateReportRun :
    ∃ d, run (step ⟨3⟩) init lateReportRun = some d ∧ (completedTasks d.store).length = 1 ∧
      doneWithTime d.store = completedTasks d.store ∧
      (getStatus d.store fun _ => []).durchschnittlicheBearbeitungszeitMs
          * (completedTasks d.store).length
        = (((completedTasks d.store).map Task.processingMs).sum : Int) := by
  have hclock : ClockRuns lateReportRun := by
    constructor <;> decide
  refine ⟨_, rfl, rfl, ?_, ?_⟩
  · exact (@processing_times ⟨3⟩ lateReportRun _ rfl hclock fun _ => []).2.1
  · exact (@processing_times ⟨3⟩ lateReportRun _ rfl hclock fun _ => []).2.2.1

end Dispatcher

end TaskGrid
