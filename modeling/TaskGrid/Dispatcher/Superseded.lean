/-
  TaskGrid.Dispatcher.Superseded — replies to dispatches that have timed out.

  After `dispatch_task` returns, `_dispatch` acts on the shared record without
  asking whether the attempt it belongs to is still the current one.  A
  reply whose timer has fired therefore acts on a later attempt.
  `superseded_iff` says exactly which of these replies do no harm.
-/
import TaskGrid.Dispatcher.Terminal

namespace TaskGrid

open TaskGrid.Lib

namespace Dispatcher

variable {cfg : Config} {a b : Dispatcher} {t : String}

/-! ## §1. The property and its condition. -/

/-- If the step is the reply to an ExecuteTask whose timeout has fired, it leaves the record
of the task, the live timers and the queue as they are. -/
def IgnoresSuperseded (a : Dispatcher) (e : Event) (b : Dispatcher) : Prop :=
  ∀ t worker timer success now, e = .reply t worker timer success now → timer ∈ a.fired →
    b.store.get t = a.store.get t ∧ b.live = a.live ∧ b.queue = a.queue

/-- A reply to a superseded dispatch is harmless by its value and the status it meets: a
gRPC error always, an acceptance unless the task is DISPATCHED, a rejection only when the
task is terminal. -/
def HarmlessReply (success : Option Bool) (status : TaskState) : Prop :=
  match success with
  | none => True
  | some true => status ≠ .dispatched
  | some false => status.isTerminal = true

/-- The step is no harmful reply to a superseded dispatch. -/
def MeetsHarmlessReplies (a : Dispatcher) (e : Event) : Prop :=
  ∀ t worker timer success now task, e = .reply t worker timer success now →
    timer ∈ a.fired → a.store.get t = some task → HarmlessReply success task.status

/-! ## §2. One reply. -/

/-- A harmless reply changes neither the store nor the timers nor the queue. -/
theorem handleReply_of_harmless {task : Task} {success : Option Bool}
    (hid : task.taskId = t) (hinv : TaskInv t (a.slot t) task)
    (hh : HarmlessReply success task.status) (now : Int) :
    (a.handleReply task success now).store = a.store ∧
      (a.handleReply task success now).live = a.live ∧
      (a.handleReply task success now).queue = a.queue := by
  unfold handleReply
  split
  · -- accepted, but the task is not DISPATCHED
    have hno : TaskState.processing ∉ validTransitions task.status := by
      rw [processing_mem_validTransitions]
      exact hh
    rw [transition_of_not_mem hno]
    exact ⟨rfl, rfl, rfl⟩
  · -- rejected, but the task is terminal: its timer is gone already
    have ht : task.status.isTerminal = true := hh
    have hno : TaskState.failed ∉ validTransitions task.status := by
      rw [validTransitions_terminal.mpr ht]
      exact List.not_mem_nil
    rw [transition_of_not_mem hno, hid]
    exact ⟨store_cancelTimeout a t, live_cancelTimeout_of_nil a (hinv.terminal ht),
      queue_cancelTimeout a t⟩
  · exact ⟨rfl, rfl, rfl⟩

/-- A harmful reply rewrites the record. -/
theorem get_handleReply_of_harmful {task : Task} {success : Option Bool}
    (hg : a.store.get t = some task) (hinv : TaskInv t (a.slot t) task)
    (hh : ¬ HarmlessReply success task.status) (now : Int) :
    (a.handleReply task success now).store.get t ≠ some task := by
  have hid : ∀ s, (task.enter s now).taskId = t := by
    intro s
    rw [enter_taskId]
    exact hinv.id
  -- a transition to another status is visible in the store
  have hwrite : ∀ (d : Dispatcher) (s : TaskState), d.store = a.store → s ≠ task.status →
      (d.update (task.enter s now)).store.get t ≠ some task := by
    intro d s hd hs
    show (d.store.update (task.enter s now)).get t ≠ some task
    rw [hd, Keyed.get_update, if_pos (hid s), hg, Option.map_some]
    intro heq
    have hst := congrArg Task.status (Option.some.inj heq)
    rw [enter_status] at hst
    exact hs hst
  cases success with
  | none => exact absurd trivial hh
  | some accepted =>
      cases accepted with
      | true =>
          have hd : task.status = .dispatched := by
            by_contra hne
            exact hh hne
          unfold handleReply
          simp only [transition_of_mem (processing_mem_validTransitions.mpr hd)]
          exact hwrite a .processing rfl (by rw [hd]; decide)
      | false =>
          have hnt : ¬ task.status.isTerminal = true := hh
          have hactive : task.status.isWaiting = true ∨ task.status.isInFlight = true := by
            rcases hinv.status with h | h | h
            · exact .inl h
            · exact .inr h
            · exact absurd h hnt
          unfold handleReply
          simp only [transition_of_mem (failed_mem_validTransitions.mpr hactive)]
          refine hwrite _ .failed (store_cancelTimeout a _) ?_
          intro hs
          exact hnt (by rw [← hs]; rfl)

/-! ## §3. Runs. -/

/-- The two halves of an enabled reply: the run resumes, then acts on the stored record. -/
theorem reply_eq_some {worker : WorkerInfo} {timer : Timer} {success : Option Bool} {now : Int}
    (hs : a.reply t worker timer success now = some b) :
    ∃ task, a.store.get t = some task ∧
      b = (a.resume ⟨t, .dispatchTask worker timer⟩).handleReply task success now := by
  unfold reply at hs
  split at hs
  case isFalse => cases hs
  split at hs
  · cases hs
  · rename_i task hg
    exact ⟨task, hg, (Option.some.inj hs).symm⟩

/-- **Which replies to a superseded dispatch have no effect.**  Along every run: every reply
processed after the timeout of its attempt leaves record, live timers and queue alone if and
only if every such reply is a gRPC error, an acceptance that meets a task that is not
DISPATCHED, or a rejection that meets a terminal task. -/
theorem superseded_iff (cfg : Config) (es : List Event) :
    Along (step cfg) IgnoresSuperseded init es
      ↔ Along (step cfg) (fun a e _ => MeetsHarmlessReplies a e) init es := by
  refine along_iff_along ?_ es
  intro a e b ha hs
  constructor
  · -- a harmful reply rewrites the record, whatever its attempt
    intro hignores t worker timer success now task he hfired hg
    have hinv := taskInv_of_reachable ha hg
    by_contra hharm
    obtain ⟨hrec, _, _⟩ := hignores t worker timer success now he hfired
    subst he
    obtain ⟨task', hg', hb⟩ := reply_eq_some hs
    rw [hg, Option.some.injEq] at hg'
    subst hg'
    have hslot : (a.resume ⟨t, .dispatchTask worker timer⟩).slot t = a.slot t :=
      slot_resume_of_not a (DispatchRun.pendingFor_dispatchTask t t worker timer)
    apply get_handleReply_of_harmful (a := a.resume ⟨t, .dispatchTask worker timer⟩) hg
      (by rw [hslot]; exact hinv) hharm now
    rw [← hb, hrec, hg]
  · intro hmeets t worker timer success now he hfired
    subst he
    obtain ⟨task, hg, hb⟩ := reply_eq_some hs
    have hinv := taskInv_of_reachable ha hg
    have hslot : (a.resume ⟨t, .dispatchTask worker timer⟩).slot t = a.slot t :=
      slot_resume_of_not a (DispatchRun.pendingFor_dispatchTask t t worker timer)
    obtain ⟨h1, h2, h3⟩ := handleReply_of_harmless
      (a := a.resume ⟨t, .dispatchTask worker timer⟩) hinv.id (by rw [hslot]; exact hinv)
      (hmeets t worker timer success now task rfl hfired hg) now
    rw [hb, h1, h2, h3]
    exact ⟨rfl, rfl, rfl⟩

/-- The first attempt times out, the second is under way, then the worker of the first
rejects. -/
def supersededRun : List Event :=
  sampleDispatch ++ [.timerFires ⟨0, "1"⟩ 3, .reenqueueAfterDelay "1", .dequeue,
    .lookupReturns "1" [sampleWorker] 4]

/-- The late rejection makes the second attempt FAILED and cancels its timer. -/
theorem not_ignoresSuperseded_supersededRun :
    ¬ Along (step ⟨3⟩) IgnoresSuperseded init
      (supersededRun ++ [.reply "1" sampleWorker ⟨0, "1"⟩ (some false) 5]) := by
  intro hall
  have hlast := along_iff_forall_split.mp hall supersededRun
    (.reply "1" sampleWorker ⟨0, "1"⟩ (some false) 5) [] _ _ rfl rfl rfl
  obtain ⟨_, hlive, _⟩ := hlast "1" sampleWorker ⟨0, "1"⟩ (some false) 5 rfl (by decide)
  exact absurd hlive (by decide)

end Dispatcher

end TaskGrid
