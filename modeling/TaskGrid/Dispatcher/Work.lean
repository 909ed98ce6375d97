/-
  TaskGrid.Dispatcher.Work — the work of a task never changes.

  The type and the payload of a record are fixed by PostTask
  (`slotStep_sameWork`), every ExecuteTask request asks for the work of its
  record (`asksFor_of_sent`), and a record becomes COMPLETED only through a
  ReturnResult (`completed_cases`).
-/
import TaskGrid.Dispatcher.Terminal

namespace TaskGrid

open TaskGrid.Lib

/-! ## §1. What a task keeps for life. -/

/-- Two records of the same work. -/
structure Task.SameWork (task task' : Task) : Prop where
  taskType : task'.taskType = task.taskType
  payload : task'.payload = task.payload

theorem Task.SameWork.refl (task : Task) : task.SameWork task := ⟨rfl, rfl⟩

theorem Task.sameWork_enter (task : Task) (s : TaskState) (now : Int) :
    task.SameWork (task.enter s now) :=
  ⟨enter_taskType task s now, enter_payload task s now⟩

theorem Task.sameWork_reported (task : Task) (report : ResultPayload) (now : Int) :
    task.SameWork (task.reported report now) := by
  refine ⟨?_, ?_⟩
  · show ((task.processed now).enter _ now).taskType = _
    rw [enter_taskType, Task.processed_taskType]
  · show ((task.processed now).enter _ now).payload = _
    rw [enter_payload, Task.processed_payload]

/-- No step removes a record or changes its type or payload. -/
theorem slotStep_sameWork {cfg : Config} {t : String} {e : Event} {s s' : Slot} {task : Task}
    (h : SlotStep cfg t e s s') (htask : s.task = some task) :
    ∃ task', s'.task = some task' ∧ task.SameWork task' := by
  have hsame : ∀ task', s.task = some task' → task = task' := by
    intro task' h'
    rw [htask, Option.some.injEq] at h'
    exact h'
  cases h with
  | idle => exact ⟨task, htask, .refl task⟩
  | post => cases htask
  | drop => exact ⟨task, htask, .refl task⟩
  | dispatch h' =>
      rw [hsame _ h']
      exact ⟨_, rfl, rfl, rfl⟩
  | accept h' =>
      rw [hsame _ h']
      exact ⟨_, rfl, Task.sameWork_enter _ _ _⟩
  | reject h' =>
      rw [hsame _ h']
      exact ⟨_, rfl, Task.sameWork_enter _ _ _⟩
  | cancel => exact ⟨task, by rw [Slot.cancel_task, htask], .refl task⟩
  | report _ h' =>
      rw [hsame _ h']
      exact ⟨_, rfl, Task.sameWork_reported _ _ _⟩
  | retry _ _ h' =>
      rw [hsame _ h']
      exact ⟨_, rfl, rfl, rfl⟩
  | exhaust _ _ h' =>
      rw [hsame _ h']
      exact ⟨_, rfl, rfl, rfl⟩
  | lateTimeout => exact ⟨task, htask, .refl task⟩

/-! ## §2. Requests carry the work of their task. -/

/-- The request asks for the work of the record. -/
def ExecuteCall.AsksFor (c : ExecuteCall) (task : Task) : Prop :=
  c.request.payload.taskType = task.taskType ∧ c.request.payload.taskPayload = task.payload

theorem ExecuteCall.AsksFor.sameWork {c : ExecuteCall} {task task' : Task} (h : c.AsksFor task)
    (hw : task.SameWork task') : c.AsksFor task' :=
  ⟨h.1.trans hw.taskType.symm, h.2.trans hw.payload.symm⟩

theorem asksFor_of_mem_executeCalls {task : Task} {worker : WorkerInfo} {now : Int}
    {c : ExecuteCall} (h : c ∈ executeCalls task worker now) : c.AsksFor task := by
  unfold executeCalls at h
  split at h
  · rename_i request hr
    have hc : c = ⟨worker, request⟩ := List.mem_singleton.mp h
    unfold Dispatcher.executeRequest at hr
    split at hr
    · cases hr
    · split at hr
      · cases hr
      · rw [Except.ok.injEq] at hr
        rw [hc, ← hr]
        exact ⟨rfl, rfl⟩
  · cases h

/-- A request goes to the worker it is made for. -/
theorem worker_of_mem_executeCalls {task : Task} {worker : WorkerInfo} {now : Int}
    {c : ExecuteCall} (h : c ∈ executeCalls task worker now) : c.worker = worker := by
  unfold executeCalls at h
  split at h
  · rw [List.mem_singleton.mp h]
  · cases h

/-- Every request of a slot asks for the work of its record. -/
def SentTraced (s : Slot) : Prop := ∀ c ∈ s.sent, ∃ task, s.task = some task ∧ c.AsksFor task

theorem sentTraced_step {cfg : Config} {t : String} {e : Event} {s s' : Slot}
    (h : SlotStep cfg t e s s') (hi : SentTraced s) : SentTraced s' := by
  intro c hc
  have hold : c ∈ s.sent → ∃ task, s'.task = some task ∧ c.AsksFor task := by
    intro hmem
    obtain ⟨task, htask, hasks⟩ := hi c hmem
    obtain ⟨task', htask', hw⟩ := slotStep_sameWork h htask
    exact ⟨task', htask', hasks.sameWork hw⟩
  rcases slotStep_sent h with ⟨hsent, _⟩ | ⟨_, now, task, worker, timer, _, _, htask, _, _, hsent⟩
  · rw [hsent] at hc
    exact hold hc
  · rw [hsent, List.mem_append] at hc
    rcases hc with hc | hc
    · exact hold hc
    · have hasks : c.AsksFor task := asksFor_of_mem_executeCalls hc
      obtain ⟨task', htask', hw⟩ := slotStep_sameWork h htask
      exact ⟨task', htask', hasks.sameWork hw⟩

namespace Dispatcher

variable {cfg : Config} {a b d : Dispatcher} {t : String}

theorem sameWork_of_step (ha : Reachable (step cfg) init a) {e : Event}
    (hs : a.step cfg e = some b) {task : Task} (hg : a.store.get t = some task) :
    ∃ task', b.store.get t = some task' ∧ task.SameWork task' :=
  slotStep_sameWork (slotStep_of_reachable ha hs t) hg

theorem asksFor_of_sent (h : Reachable (step cfg) init d) {c : ExecuteCall} (hc : c ∈ d.sent) :
    ∃ task, d.store.get c.taskId = some task ∧ c.AsksFor task := by
  have htraced : SentTraced (d.slot c.taskId) := by
    refine h.invariant (I := fun d => SentTraced (d.slot c.taskId)) (fun _ hm => nomatch hm) ?_
    intro a e b ha hI hs
    exact sentTraced_step (slotStep_of_reachable ha hs _) hI
  exact htraced c (by simp [slot, hc])

/-- A new request went to one of the workers its lookup has found, and is about the task it was
made for. -/
theorem sent_cases (h : Reachable (step cfg) init a) {e : Event} (hs : a.step cfg e = some b)
    {c : ExecuteCall} (hc : c ∈ b.sent) :
    c ∈ a.sent ∨ ∃ workers now task, e = .lookupReturns c.taskId workers now ∧
      c.worker ∈ workers ∧ a.store.get c.taskId = some task ∧ c.AsksFor task := by
  have hslot : c ∈ (b.slot c.taskId).sent := by simp [slot, hc]
  rcases slotStep_sent (slotStep_of_reachable h hs c.taskId) with
    ⟨hsent, _⟩ | ⟨workers, now, task, worker, timer, he, hmem, htask, _, _, hsent⟩
  · rw [hsent] at hslot
    exact .inl (List.mem_of_mem_filter hslot)
  · rw [hsent, List.mem_append] at hslot
    rcases hslot with hold | hnew
    · exact .inl (List.mem_of_mem_filter hold)
    · have hasks : c.AsksFor task := asksFor_of_mem_executeCalls hnew
      have hworker : c.worker = worker := worker_of_mem_executeCalls hnew
      exact .inr ⟨workers, now, task, he, hworker ▸ hmem, htask, hasks⟩

/-- A COMPLETED record is an old one, or the step delivered its result. -/
theorem completed_cases (ha : Reachable (step cfg) init a) {e : Event}
    (hs : a.step cfg e = some b) {task' : Task} (hg' : b.store.get t = some task')
    (hc : task'.status = .completed) :
    a.store.get t = some task' ∨
      ∃ request now task, e = .returnResult request now ∧
        str request.payload.taskId.val = t ∧ request.payload.status = "COMPLETED" ∧
        a.store.get t = some task ∧ task'.result = request.payload.result ∧
        task.SameWork task' := by
  have hslot := slotStep_of_reachable ha hs t
  have hi := slotInv_of_reachable ha t
  have ht' : task'.status.isTerminal = true := by
    rw [hc]
    rfl
  by_cases hterm : ∃ old, a.store.get t = some old ∧ old.status.isTerminal = true
  · -- terminal before: the step has left it alone
    obtain ⟨old, hold, ht⟩ := hterm
    have hkeep := (slotStep_terminal hslot hold ht).1
    rw [slot_task, hg', Option.some.injEq] at hkeep
    rw [hkeep]
    exact .inl hold
  · -- made terminal by the step: of the four ways only one says COMPLETED
    have hn : ∀ old, (a.slot t).task = some old → old.status.isTerminal = false := by
      intro old hold
      by_contra hne
      exact hterm ⟨old, hold, by simpa using hne⟩
    right
    cases slotStep_becomesTerminal hslot hi hn hg' ht' with
    | @completed request now _ hid hreport _ hres =>
        cases hg : a.store.get t with
        | none =>
            -- only PostTask fills an empty slot
            rw [slot_eq_empty_of_none ha hg] at hslot
            have hempty' := hslot.of_empty (by intro r n h; cases h)
            have : (b.slot t).task = none := by rw [hempty']; rfl
            rw [slot_task, hg'] at this
            cases this
        | some task =>
            obtain ⟨task'', hg'', hw⟩ := sameWork_of_step ha hs hg
            rw [hg', Option.some.injEq] at hg''
            exact ⟨request, now, task, rfl, hid, hreport, rfl, hres, hg'' ▸ hw⟩
    | failed _ _ hst _ => rw [hst] at hc; cases hc
    | rejected hst _ => rw [hst] at hc; cases hc
    | exhausted _ _ hst _ => rw [hst] at hc; cases hc

end Dispatcher

end TaskGrid
