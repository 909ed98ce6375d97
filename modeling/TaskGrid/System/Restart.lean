/-
  TaskGrid.System.Restart — results that cross a restart.

  A new dispatcher numbers its tasks from 1 again, and ReturnResult looks up
  the record by the number alone.  A report from an earlier epoch therefore
  meets whatever task has its number now.  `restart_iff` says of every run,
  with any number of restarts, when these reports do no harm.
-/
import TaskGrid.System.EndToEnd

namespace TaskGrid

open TaskGrid.Lib

namespace Dispatcher

variable {cfg : Config} {d : Dispatcher}

/-- A refused report leaves every record as it was. -/
theorem get_returnResult_of_refused {request : Envelope ResultPayload}
    (h : ∀ task, d.store.get (str request.payload.taskId.val) = some task →
      isTerminal task = true ∨ ¬ Accepts task request.payload) (now : Int) (t : String) :
    (d.returnResult request now).1.store.get t = d.store.get t := by
  rcases returnResult_cases d request.payload with hg | ⟨task, hg, ht | ha | ⟨hnt, ha⟩⟩
  · rw [returnResult_of_none hg]
  · rw [returnResult_of_terminal hg ht]
  · rcases h task hg with ht | hrefused
    · rw [isTerminal_eq] at ht
      exact absurd ha (not_accepts_of_terminal ht _)
    · exact absurd ha hrefused
  · rw [store_returnResult_of_not_accepts hg hnt ha]

/-- An accepted report changes the record. -/
theorem get_returnResult_of_accepted {request : Envelope ResultPayload} {task : Task}
    (hg : d.store.get (str request.payload.taskId.val) = some task)
    (ha : Accepts task request.payload) (now : Int) :
    (d.returnResult request now).1.store.get (str request.payload.taskId.val) ≠ some task := by
  rw [get_returnResult_of_accepts hg ha]
  intro heq
  -- the new record is terminal, the old one is not
  have hterm := task.isTerminal_reported request.payload now
  rw [Option.some.inj heq] at hterm
  exact not_accepts_of_terminal hterm _ ha

end Dispatcher

namespace System

variable {cfg : Config} {handlers : Handlers}

/-! ## §1. The property and its condition. -/

/-- If the step delivers a report of an earlier epoch, it changes no record. -/
def KeepsNewTasks (a : System) (e : SystemEvent) (b : System) : Prop :=
  ∀ epoch request now, e = .deliver epoch request now → epoch ≠ a.epoch →
    ∀ t, b.dispatcher.store.get t = a.dispatcher.store.get t

/-- If the step delivers a report of an earlier epoch whose number is in use again, the task
of that number is terminal, or it waits and the report says COMPLETED. -/
def MeetsStaleReports (a : System) (e : SystemEvent) : Prop :=
  ∀ epoch request now task, e = .deliver epoch request now → epoch ≠ a.epoch →
    a.dispatcher.store.get (str request.payload.taskId.val) = some task →
    isTerminal task = true ∨
      (task.status.isWaiting = true ∧ request.payload.status = "COMPLETED")

/-! ## §2. Runs. -/

/-- The records a stale report is refused by. -/
theorem not_accepts_iff {d : Dispatcher} (h : Reachable (Dispatcher.step cfg) .init d)
    {t : String} {task : Task} (hg : d.store.get t = some task) (report : ResultPayload) :
    ¬ Accepts task report ↔
      isTerminal task = true ∨ (task.status.isWaiting = true ∧ report.status = "COMPLETED") := by
  constructor
  · intro hna
    rcases (Dispatcher.taskInv_of_reachable h hg).status with hw | hf | ht
    · right
      refine ⟨hw, ?_⟩
      by_contra hc
      exact hna (.inr ⟨hw, hc⟩)
    · exact absurd (.inl hf) hna
    · exact .inl ht
  · intro hcond ha
    rcases hcond with ht | ⟨hw, hc⟩
    · exact not_accepts_of_terminal ht report ha
    · rcases ha with hf | hnc
      · rw [(not_inFlight_of_waiting hw).1] at hf
        cases hf
      · exact hnc.2 hc

/-- **When results do not cross a restart.**  Along every run with any number of restarts: no
report of an earlier epoch changes a record of the running dispatcher if and only if every
such report meets an unused number, a terminal task, or, saying COMPLETED, a task that is
QUEUED or RETRYING. -/
theorem restart_iff (cfg : Config) (handlers : Handlers) (es : List SystemEvent) :
    Along (step cfg handlers) KeepsNewTasks init es
      ↔ Along (step cfg handlers) (fun a e _ => MeetsStaleReports a e) init es := by
  refine along_iff_along ?_ es
  intro a e b ha hs
  have hd := dispatcher_reachable ha
  constructor
  · -- an accepted report changes the record of its number
    intro hkeeps epoch request now task he hepoch hg
    rw [← not_accepts_iff hd hg]
    intro hacc
    have hsame := hkeeps epoch request now he hepoch (str request.payload.taskId.val)
    subst he
    simp only [step] at hs
    split at hs
    · rw [Option.some.injEq] at hs
      subst hs
      apply Dispatcher.get_returnResult_of_accepted hg hacc now
      rw [← hg]
      exact hsame
    · cases hs
  · intro hmeets epoch request now he hepoch t
    subst he
    simp only [step] at hs
    split at hs
    · rw [Option.some.injEq] at hs
      subst hs
      apply Dispatcher.get_returnResult_of_refused
      intro task hg
      right
      rw [not_accepts_iff hd hg]
      exact hmeets epoch request now task rfl hepoch hg
    · cases hs

/-- A task is dispatched, the dispatcher restarts and dispatches a task of another client
under the same number, and the first execution reports. -/
def crossingRun : List SystemEvent :=
  Dispatcher.sampleDispatch.map .dispatcher ++ [.restart] ++
    ([.postTask { payload := ⟨"upper", "xyz"⟩ } 5, .dequeue,
      .lookupReturns "1" [⟨"w2", "localhost", 50062, 0⟩] 6] : List Event).map .dispatcher ++
    [.execute 0 sampleCall sampleProcess false .returned .returned 2]

/-- The new task is COMPLETED with the result of the old one. -/
theorem not_keepsNewTasks_crossingRun :
    ¬ Along (step ⟨3⟩ sampleHandlers) KeepsNewTasks init
      (crossingRun ++ [.deliver 0 sampleReport 7]) := by
  intro hall
  have hlast := along_iff_forall_split.mp hall crossingRun (.deliver 0 sampleReport 7) [] _ _
    rfl rfl rfl
  have hsame := hlast 0 sampleReport 7 rfl (by decide) "1"
  exact absurd hsame (by decide)

end System

end TaskGrid
