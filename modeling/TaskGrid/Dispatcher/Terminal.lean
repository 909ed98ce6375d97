/-
  TaskGrid.Dispatcher.Terminal — terminal tasks are immutable.

  `slotStep_terminal` is the step lemma: no step changes a terminal record
  or sends a request for it.  `slotStep_becomesTerminal` lists the steps that
  make a record terminal and the text each of them leaves in it.  The main
  result, `terminal_frozen`, puts both together over whole runs: the step that
  made the task terminal is found in the run, and everything after it reads
  the record it left.
-/
import TaskGrid.Dispatcher.Obligations

namespace TaskGrid

open TaskGrid.Lib

/-! ## §1. A terminal slot. -/

/-- A terminal record accepts no report. -/
theorem not_accepts_of_terminal {task : Task} (ht : task.status.isTerminal = true)
    (report : ResultPayload) : ¬ Accepts task report := by
  intro ha
  obtain ⟨hw, hf⟩ := not_active_of_terminal ht
  rcases ha with h | h
  · rw [hf] at h
    cases h
  · rw [hw] at h
    cases h.1

/-- **Step lemma.**  No step changes a terminal record or sends a request for it. -/
theorem slotStep_terminal {cfg : Config} {t : String} {e : Event} {s s' : Slot} {task : Task}
    (h : SlotStep cfg t e s s') (htask : s.task = some task)
    (ht : task.status.isTerminal = true) : s'.task = some task ∧ s'.sent = s.sent := by
  obtain ⟨hnw, hnf⟩ := not_active_of_terminal ht
  -- every constructor that writes needs a waiting record or one in flight
  have hsame : ∀ task', s.task = some task' → task' = task := by
    intro task' h'
    rw [htask, Option.some.injEq] at h'
    exact h'.symm
  cases h with
  | idle => exact ⟨htask, rfl⟩
  | post => cases htask
  | drop => exact ⟨htask, rfl⟩
  | dispatch h' _ _ hw =>
      rw [hsame _ h', hnw] at hw
      cases hw
  | accept h' hd =>
      rw [hsame _ h'] at hd
      rw [hd] at ht
      cases ht
  | reject h' hs =>
      rw [hsame _ h', hnw, hnf] at hs
      exact absurd hs (by decide)
  | cancel => exact ⟨by rw [Slot.cancel_task, htask], Slot.cancel_sent _⟩
  | report _ h' ha =>
      rw [hsame _ h'] at ha
      exact absurd ha (not_accepts_of_terminal ht _)
  | retry _ _ h' hf =>
      rw [hsame _ h', hnf] at hf
      cases hf
  | exhaust _ _ h' hf =>
      rw [hsame _ h', hnf] at hf
      cases hf
  | lateTimeout => exact ⟨htask, rfl⟩

/-! ## §2. The steps that make a task terminal. -/

/-- The step labelled `e` made the record of `t` the terminal record `task`: a ReturnResult
with its text, a rejected ExecuteTask, or a timeout with the retries used up. -/
inductive MadeTerminalBy (cfg : Config) (t : String) : Event → Task → Prop where
  | completed {request : Envelope ResultPayload} {now : Int} {task : Task}
      (hid : str request.payload.taskId.val = t) (hreport : request.payload.status = "COMPLETED")
      (hs : task.status = .completed) (hres : task.result = request.payload.result) :
      MadeTerminalBy cfg t (.returnResult request now) task
  | failed {request : Envelope ResultPayload} {now : Int} {task : Task}
      (hid : str request.payload.taskId.val = t) (hreport : request.payload.status ≠ "COMPLETED")
      (hs : task.status = .failed) (hres : task.result = request.payload.error) :
      MadeTerminalBy cfg t (.returnResult request now) task
  | rejected {worker : WorkerInfo} {timer : Timer} {now : Int} {task : Task}
      (hs : task.status = .failed) (hres : task.result = "") :
      MadeTerminalBy cfg t (.reply t worker timer (some false) now) task
  | exhausted {timer : Timer} {now : Int} {task : Task} (hid : timer.taskId = t)
      (hcount : task.retryCount ≥ cfg.maxRetries) (hs : task.status = .failed)
      (hres : task.result = "") : MadeTerminalBy cfg t (.timerFires timer now) task

/-- A record that an accepted report leaves behind. -/
theorem madeTerminalBy_report {cfg : Config} {t : String} {request : Envelope ResultPayload}
    (hid : str request.payload.taskId.val = t) (task : Task) (now : Int) :
    MadeTerminalBy cfg t (.returnResult request now) (task.reported request.payload now) := by
  have hs := task.reported_status request.payload now
  have hr := task.reported_result request.payload now
  unfold Dispatcher.reportedState at hs
  unfold Dispatcher.reportedText at hr
  by_cases hc : request.payload.status = "COMPLETED"
  · rw [if_pos hc] at hs hr
    exact .completed hid hc hs hr
  · rw [if_neg hc] at hs hr
    exact .failed hid hc hs hr

/-- **A step that makes a record terminal is one of the four.** -/
theorem slotStep_becomesTerminal {cfg : Config} {t : String} {e : Event} {s s' : Slot}
    {task : Task} (h : SlotStep cfg t e s s') (hi : SlotInv t s)
    (hn : ∀ old, s.task = some old → old.status.isTerminal = false)
    (htask : s'.task = some task) (ht : task.status.isTerminal = true) :
    MadeTerminalBy cfg t e task := by
  -- a step that leaves the record alone leaves it non-terminal
  have hkeep : s.task ≠ some task := by
    intro h'
    rw [hn task h'] at ht
    cases ht
  -- and the record it starts from has no result yet
  have hempty : ∀ old, s.task = some old → old.result = "" :=
    fun old h' => (hi.taskInv h').result (hn old h')
  have hnew : ∀ {new}, some new = some task → task = new := by
    intro new h'
    rw [Option.some.injEq] at h'
    exact h'.symm
  cases h with
  | idle => exact absurd htask hkeep
  | post =>
      rw [hnew htask] at ht
      cases ht
  | drop => exact absurd htask hkeep
  | dispatch =>
      rw [hnew htask] at ht
      cases ht
  | accept =>
      rw [hnew htask] at ht
      cases ht
  | @reject worker timer now _ old h' =>
      rw [hnew htask]
      exact .rejected rfl (hempty old h')
  | cancel => exact absurd (by rw [← htask, Slot.cancel_task]) hkeep
  | report hid =>
      rw [hnew htask]
      exact madeTerminalBy_report hid _ _
  | retry =>
      rw [hnew htask] at ht
      cases ht
  | @exhaust timer now _ old hid _ h' _ hr =>
      rw [hnew htask]
      exact .exhausted hid hr rfl (hempty old h')
  | lateTimeout => exact absurd htask hkeep

/-! ## §3. Runs. -/

namespace Dispatcher

variable {cfg : Config} {d d' : Dispatcher} {t : String}

/-- **Run lemma.**  No run changes a terminal record or sends a request for it. -/
theorem terminal_run (h : Reachable (step cfg) init d) {task : Task}
    (hg : d.store.get t = some task) (ht : isTerminal task = true) {es : List Event}
    (hr : run (step cfg) d es = some d') :
    d'.store.get t = some task ∧ d'.sentFor t = d.sentFor t := by
  refine run_preserves (i := init)
    (I := fun a => a.store.get t = some task ∧ a.sentFor t = d.sentFor t) ?_ es h ⟨hg, rfl⟩ hr
  intro a e b ha hI hs
  obtain ⟨h1, h2⟩ := slotStep_terminal (slotStep_of_reachable ha hs t) hI.1 ht
  exact ⟨h1, h2.trans hI.2⟩

/-- GetResult reads the record and nothing else. -/
theorem getResult_congr {request : Envelope GetResultPayload}
    (h : d'.store.get (str request.payload.taskId.val)
      = d.store.get (str request.payload.taskId.val)) (now : Int) :
    d'.getResult request now = d.getResult request now := by
  unfold getResult
  simp only [h]

theorem getResult_result {request : Envelope GetResultPayload} {task : Task}
    (hid : str request.payload.taskId.val = t) (hg : d.store.get t = some task) (now : Int) :
    (d.getResult request now).message.payload.result = task.result := by
  unfold getResult
  simp only [hid, hg]

/-- The run that reached a terminal record contains the step that made it terminal. -/
theorem exists_madeTerminalBy {es : List Event} (hrun : run (step cfg) init es = some d)
    {task : Task} (hg : d.store.get t = some task) (ht : isTerminal task = true) :
    ∃ pre e post a b, es = pre ++ e :: post ∧ run (step cfg) init pre = some a ∧
      (∀ old, a.store.get t = some old → isTerminal old = false) ∧
      a.step cfg e = some b ∧ b.store.get t = some task ∧ MadeTerminalBy cfg t e task ∧
      run (step cfg) b post = some d := by
  -- the first step of the run after which the record is terminal
  obtain ⟨pre, e, post, a, b, hes, hpre, hna, hs, ⟨task', hb, ht'⟩, hpost⟩ :=
    exists_first_step (Q := fun d : Dispatcher =>
      ∃ task, d.store.get t = some task ∧ isTerminal task = true) hrun
      (by rintro ⟨_, h, _⟩; cases h) ⟨task, hg, ht⟩
  have ha : Reachable (step cfg) init a := ⟨pre, hpre⟩
  have hn : ∀ old, a.store.get t = some old → isTerminal old = false := by
    intro old hold
    by_contra hne
    exact hna ⟨old, hold, by simpa using hne⟩
  -- the record the step left is the one the run still has at its end
  have hend := (terminal_run (ha.tail hs) hb ht' hpost).1
  have htask : task' = task := by
    rw [hg, Option.some.injEq] at hend
    exact hend.symm
  rw [htask] at hb
  exact ⟨pre, e, post, a, b, hes, hpre, hn, hs, hb,
    slotStep_becomesTerminal (slotStep_of_reachable ha hs t) (slotInv_of_reachable ha t) hn hb ht,
    hpost⟩

/-- **Terminal tasks are immutable and results appear only at the end.**  In every state a
run reaches: a task that is not terminal answers GetResult with an empty result; a terminal
task was made so by one step of the run, which left it the result text, the error text or
the empty string, and in every continuation its record, the requests sent for it and the
answers of GetResult stay what they are. -/
theorem terminal_frozen {es : List Event} (hrun : run (step cfg) init es = some d)
    {task : Task} (hg : d.store.get t = some task) :
    (isTerminal task = false →
      ∀ (request : Envelope GetResultPayload) (now : Int), str request.payload.taskId.val = t →
        (d.getResult request now).message.payload.result = "") ∧
    (isTerminal task = true →
      (∃ pre e post a b, es = pre ++ e :: post ∧ run (step cfg) init pre = some a ∧
        (∀ old, a.store.get t = some old → isTerminal old = false) ∧
        a.step cfg e = some b ∧ b.store.get t = some task ∧ MadeTerminalBy cfg t e task ∧
        run (step cfg) b post = some d) ∧
      ∀ (fs : List Event) (d' : Dispatcher), run (step cfg) d fs = some d' →
        d'.store.get t = some task ∧ d'.sentFor t = d.sentFor t ∧
        ∀ (request : Envelope GetResultPayload) (now : Int), str request.payload.taskId.val = t →
          d'.getResult request now = d.getResult request now) := by
  have hreach : Reachable (step cfg) init d := ⟨es, hrun⟩
  refine ⟨?_, ?_⟩
  · intro hn request now hid
    rw [getResult_result hid hg]
    exact (taskInv_of_reachable hreach hg).result hn
  · intro ht
    refine ⟨exists_madeTerminalBy hrun hg ht, ?_⟩
    intro fs d' hfs
    obtain ⟨hg', hsent⟩ := terminal_run hreach hg ht hfs
    refine ⟨hg', hsent, ?_⟩
    intro request now hid
    exact getResult_congr (by rw [hid, hg', hg]) now

/-- The completed task of a run, frozen with its result. -/
theorem terminal_frozen_sample :
    ∃ d task, run (step ⟨3⟩) init (sampleDispatch ++ [.returnResult sampleResult 2]) = some d ∧
      d.store.get "1" = some task ∧ isTerminal task = true ∧
      ∀ (fs : List Event) (d' : Dispatcher), run (step ⟨3⟩) d fs = some d' →
        d'.store.get "1" = some task ∧ d'.sentFor "1" = d.sentFor "1" := by
  refine ⟨_, _, rfl, rfl, rfl, ?_⟩
  intro fs d' hfs
  have hfrozen := (@terminal_frozen ⟨3⟩ _ "1"
    (sampleDispatch ++ [.returnResult sampleResult 2]) rfl _ rfl).2 rfl
  obtain ⟨hg, hsent, _⟩ := hfrozen.2 fs d' hfs
  exact ⟨hg, hsent⟩

end Dispatcher

end TaskGrid
