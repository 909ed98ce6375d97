/-
  TaskGrid.System.Refinement — the system refines the job board.

  One lifetime of the dispatcher, with its workers and the messages between
  them, and with the GetResult calls of the clients.  The board of a system is
  its store with everything but the work and the outcome forgotten.  A step
  of the system submits a job, closes jobs, or does nothing to the board.

  Main results: `refines_jobBoard` (every run shows the clients what some run
  of the board shows) and `client_contract` (what follows for them).
-/
import TaskGrid.System.JobBoard
import TaskGrid.System.EndToEnd
import TaskGrid.Client.Client

namespace TaskGrid

open TaskGrid.Lib

/-! ## §1. What clients see of the system. -/

/-- The labels of the steps of one lifetime, the reading calls of the clients included. -/
inductive ClientEvent where
  | system (e : SystemEvent)
  | getResult (request : Envelope GetResultPayload) (now : Int)

/-- What the caller of PostTask learns. -/
def seenPost : Except PyError (Reply PostTaskResponsePayload) → PostAnswer
  | .error _ => .raised
  | .ok reply =>
      match reply.toCaller with
      | .error _ => .rejected
      | .ok message =>
          if message.payload.success then .accepted message.payload.taskId else .rejected

/-- What the caller of GetResult learns.  The text of a failure is in the field `result`. -/
def seenResult (reply : Reply ResultResponsePayload) : JobAnswer :=
  match reply.toCaller with
  | .error _ => .unknown
  | .ok message =>
      if message.payload.found = false then .unknown
      else if message.payload.status = "COMPLETED" then .completed message.payload.result
      else if message.payload.status = "FAILED" then .failed message.payload.result
      else .pending message.payload.result

namespace System

/-- One step of a lifetime. -/
def serve (cfg : Config) (handlers : Handlers) (s : System) : ClientEvent → Option System
  | .system e => if e = .restart then none else s.step cfg handlers e
  | .getResult _ _ => some s

/-- What a step shows to its client. -/
def shows (s : System) : ClientEvent → Option Observation
  | .system (.dispatcher (.postTask request now)) =>
      some (.posted request.payload (seenPost (s.dispatcher.postTask request now).2))
  | .system _ => none
  | .getResult request now =>
      some (.asked request.payload.taskId (seenResult (s.dispatcher.getResult request now)))

end System

/-- The job of a record. -/
def Task.job (task : Task) : Job where
  work := ⟨task.taskType, task.payload⟩
  outcome :=
    match task.status with
    | .completed => some (.completed task.result)
    | .failed => some (.failed task.result)
    | _ => none

/-- The board of a store. -/
def Dispatcher.board (d : Dispatcher) : JobBoard := d.store.entries.map Task.job

/-! ## §2. Boards that differ in closed jobs. -/

/-- The job has been left alone, or it was open and has been closed. -/
def Job.Advances (handlers : Handlers) (j j' : Job) : Prop :=
  j' = j ∨ j.outcome = none ∧ ∃ outcome, j' = { j with outcome := some outcome } ∧
    j.Admits handlers outcome

/-- The label closes a job. -/
def BoardEvent.isClose : BoardEvent → Bool
  | .close _ _ => true
  | _ => false

namespace JobBoard

variable {handlers : Handlers} {b b' : JobBoard}

/-- A board whose jobs have advanced is reached by closing them one after the other. -/
theorem run_closes (h : List.Forall₂ (Job.Advances handlers) b b') :
    ∀ pre : JobBoard, ∃ fs : List BoardEvent, (∀ e ∈ fs, e.isClose = true) ∧
      run (step handlers) (pre ++ b) fs = some (pre ++ b') := by
  induction h with
  | nil => exact fun pre => ⟨[], fun _ h => absurd h List.not_mem_nil, rfl⟩
  | @cons j j' b b' hj _ ih =>
      intro pre
      obtain ⟨fs, hfs, hrun⟩ := ih (pre ++ [j'])
      rw [List.append_assoc, List.append_assoc] at hrun
      rcases hj with rfl | ⟨hopen, outcome, rfl, hadmits⟩
      · exact ⟨fs, hfs, hrun⟩
      · refine ⟨.close pre.length outcome :: fs, ?_, run_cons_eq_some.mpr ⟨_, ?_, hrun⟩⟩
        · intro e he
          rcases List.mem_cons.mp he with rfl | he
          · rfl
          · exact hfs e he
        · have hget : (pre ++ j :: b)[pre.length]? = some j := by
            rw [List.getElem?_append_right (Nat.le_refl _), Nat.sub_self]
            rfl
          simp only [step, hget]
          rw [if_pos ⟨hopen, hadmits⟩, List.set_append_right _ _ (Nat.le_refl _), Nat.sub_self]
          rfl

/-- Closing jobs is not shown. -/
theorem trace_closes {fs : List BoardEvent} (h : ∀ e ∈ fs, e.isClose = true) (b : JobBoard) :
    trace (step handlers) shows b fs = [] := by
  refine trace_eq_nil (fun e he b => ?_) b
  cases e with
  | close => rfl
  | submit => cases h _ he
  | ask => cases h _ he

end JobBoard

/-! ## §3. The board of a dispatcher. -/

namespace Dispatcher

variable {cfg : Config} {handlers : Handlers} {d d' : Dispatcher}

theorem length_board (h : Reachable (step cfg) init d) : d.board.length = d.taskIdCounter := by
  have hkeys := congrArg List.length (keys_of_reachable h)
  rw [List.length_map, List.length_range] at hkeys
  rw [board, List.length_map, ← hkeys]
  exact (List.length_map _).symm

/-- The record at a place of the store has the number of the place. -/
theorem get_of_entry (h : Reachable (step cfg) init d) {i : Nat} {task : Task}
    (he : d.store.entries[i]? = some task) :
    d.store.get (str ((i + 1 : Nat) : Int)) = some task := by
  have hkey : d.store.keys[i]? = some task.taskId := by
    unfold Keyed.keys
    rw [List.getElem?_map, he]
    rfl
  rw [keys_of_reachable h, List.getElem?_map, Option.map_eq_some_iff] at hkey
  obtain ⟨n, hn, hid⟩ := hkey
  obtain ⟨_, hn⟩ := List.getElem?_eq_some_iff.mp hn
  rw [List.getElem_range] at hn
  rw [hn, hid]
  exact Keyed.get_of_mem (List.mem_of_getElem? he)

/-- **Looking up a number in the store is looking it up on the board.** -/
theorem job_board (h : Reachable (step cfg) init d) (n : Int) :
    d.board.job n = (d.store.get (str n)).map Task.job := by
  have hentry : ∀ task, d.store.get (str n) = some task →
      0 < n ∧ d.store.entries[(n - 1).toNat]? = some task := by
    intro task hg
    -- the number is one the counter has given out
    obtain ⟨m, hpos, hle, hm⟩ := numbered_of_reachable h _ (slot_ne_empty_of_task hg)
    have hn := str_injective hm
    have hlt : (n - 1).toNat < d.store.entries.length := by
      have hlen := length_board h
      rw [board, List.length_map] at hlen
      omega
    refine ⟨by omega, ?_⟩
    have hget := get_of_entry h (List.getElem?_eq_getElem hlt)
    rw [show (((n - 1).toNat + 1 : Nat) : Int) = n by omega, hg] at hget
    rw [List.getElem?_eq_getElem hlt, hget]
  unfold JobBoard.job board
  rw [List.getElem?_map]
  cases hg : d.store.get (str n) with
  | some task =>
      obtain ⟨hpos, he⟩ := hentry task hg
      rw [if_pos hpos, he]
  | none =>
      split
      · rename_i hpos
        cases he : d.store.entries[(n - 1).toNat]? with
        | none => rfl
        | some task =>
            have hget := get_of_entry h he
            rw [show (((n - 1).toNat + 1 : Nat) : Int) = n by omega, hg] at hget
            cases hget
      · rfl

/-- GetResult tells what the board tells. -/
theorem seenResult_getResult (h : Reachable (step cfg) init d)
    (request : Envelope GetResultPayload) (now : Int) :
    seenResult (d.getResult request now) = d.board.answer request.payload.taskId := by
  unfold JobBoard.answer
  rw [job_board h]
  cases hg : d.store.get (str request.payload.taskId.val) with
  | none => simp only [getResult, hg, seenResult, Reply.toCaller, reduceCtorEq, if_false,
      Option.map_none]
  | some task =>
      -- an open record has no result yet
      have hresult : task.status.isTerminal = false → task.result = "" :=
        (taskInv_of_reachable h hg).result
      simp only [getResult, hg, seenResult, Reply.toCaller, if_true, Option.map_some, Job.answer,
        Task.job]
      cases hs : task.status <;> rw [hs] at hresult <;>
        simp [TaskState.value, hresult, TaskState.isTerminal]

/-- An accepted request is answered with its number, if that fits. -/
theorem seenPost_postTaskResponse (request : Envelope PostTaskPayload) (k now : Int) :
    seenPost (postTaskResponse request (str k) now) = tellNumber k := by
  unfold postTaskResponse tellNumber
  simp only [int?_str]
  cases encodeInt32 k with
  | error e => rfl
  | ok m => rfl

/-- PostTask answers as the board does. -/
theorem seenPost_postTask (h : Reachable (step cfg) init d) (request : Envelope PostTaskPayload)
    (now : Int) :
    seenPost (d.postTask request now).2 = postAnswer d.board.length request.payload := by
  unfold postAnswer
  rw [length_board h]
  by_cases hv : Valid request.payload
  · rw [if_pos hv, postTask_of_valid hv]
    exact seenPost_postTaskResponse request _ now
  · obtain ⟨details, hd⟩ := postTask_of_not_valid hv d now
    rw [if_neg hv, hd]
    simp only [seenPost, Reply.toCaller, rejectPostTask, reduceCtorEq, if_false]

/-- PostTask submits its request. -/
theorem board_postTask (h : Reachable (step cfg) init d) (request : Envelope PostTaskPayload)
    (now : Int) :
    (d.postTask request now).1.board
      = if Valid request.payload then d.board ++ [⟨request.payload, none⟩] else d.board := by
  by_cases hv : Valid request.payload
  · -- the new key is at the end of the store
    have hnone : d.store.get (str ((d.taskIdCounter + 1 : Nat) : Int)) = none :=
      congrArg Slot.task (numbered_of_reachable h).next_empty
    have hnew : (d.store.put (Task.posted (str ((d.taskIdCounter + 1 : Nat) : Int))
        request.payload now)).entries
          = d.store.entries ++ [Task.posted (str ((d.taskIdCounter + 1 : Nat) : Int))
              request.payload now] := Keyed.entries_put_of_none hnone
    rw [if_pos hv, postTask_of_valid hv]
    show List.map Task.job (d.store.put _).entries = _
    rw [hnew, List.map_append]
    rfl
  · obtain ⟨details, hd⟩ := postTask_of_not_valid hv d now
    rw [if_neg hv, hd]

/-- A record that is not terminal is an open job. -/
theorem outcome_eq_none {task : Task} (h : task.status.isTerminal = false) :
    task.job.outcome = none := by
  unfold Task.job
  cases hs : task.status <;> first | rfl | (rw [hs] at h; cases h)

/-- A step that is no PostTask closes jobs, if the COMPLETED records it leaves carry what the
handlers compute. -/
theorem board_advances (h : Reachable (step cfg) init d) {e : Event}
    (hs : d.step cfg e = some d') (hp : ∀ request now, e ≠ .postTask request now)
    (hcorrect : ∀ t task, d'.store.get t = some task → task.status = .completed →
      Computes handlers task.taskType task.payload task.result) :
    List.Forall₂ (Job.Advances handlers) d.board d'.board := by
  have h' : Reachable (step cfg) init d' := h.tail hs
  rw [List.forall₂_iff_get]
  refine ⟨by rw [length_board h, length_board h', step_counter hs hp], ?_⟩
  intro i hi hi'
  rw [List.get_eq_getElem, List.get_eq_getElem]
  simp only [board, List.getElem_map]
  rw [board, List.length_map] at hi hi'
  have hg := get_of_entry h (List.getElem?_eq_getElem hi)
  have hg' := get_of_entry h' (List.getElem?_eq_getElem hi')
  generalize d.store.entries[i] = task at hg ⊢
  generalize d'.store.entries[i] = task' at hg' ⊢
  by_cases ht : task.status.isTerminal = true
  · -- a terminal record is left alone
    have hkeep := (slotStep_terminal (slotStep_of_reachable h hs _) hg ht).1
    rw [slot_task, hg', Option.some.injEq] at hkeep
    rw [hkeep]
    exact .inl rfl
  · have hopen : task.job.outcome = none := outcome_eq_none (by simpa using ht)
    obtain ⟨task'', hg'', hw⟩ := sameWork_of_step h hs hg
    rw [hg', Option.some.injEq] at hg''
    rw [← hg''] at hw
    have hwork : task'.job.work = task.job.work := by
      show PostTaskPayload.mk _ _ = PostTaskPayload.mk _ _
      rw [hw.taskType, hw.payload]
    cases ho : task'.job.outcome with
    | none =>
        left
        rw [← hopen] at ho
        cases hj : task'.job
        cases hj' : task.job
        rw [hj, hj'] at hwork ho
        simp only at hwork ho
        rw [hwork, ho]
    | some outcome =>
        refine .inr ⟨hopen, outcome, ?_, ?_⟩
        · rw [← hwork, ← ho]
        · unfold Job.Admits
          rw [← hwork]
          cases outcome with
          | failed error => trivial
          | completed result =>
              -- the record is COMPLETED
              unfold Task.job at ho
              simp only at ho
              split at ho <;> cases ho
              rename_i hst
              exact hcorrect _ _ hg' hst

end Dispatcher

/-! ## §4. The simulation. -/

namespace System

variable {cfg : Config} {handlers : Handlers} {s s' : System}

/-- Within a lifetime the dispatcher is a reachable one and everything stays traced. -/
theorem traced_of_serve (h : Reachable (serve cfg handlers) init s) :
    Reachable (Dispatcher.step cfg) .init s.dispatcher ∧ Traced handlers s := by
  refine h.invariant (I := fun s => Reachable (Dispatcher.step cfg) .init s.dispatcher ∧
    Traced handlers s) ⟨Reachable.init _, traced_init⟩ ?_
  rintro a e b _ ⟨hd, ht⟩ hs
  cases e with
  | getResult request now =>
      cases hs
      exact ⟨hd, ht⟩
  | system e =>
      simp only [serve] at hs
      split at hs
      · cases hs
      · rename_i he
        exact ⟨dispatcher_reachable_step hs he hd, traced_step hd hs he ht⟩

/-- Steps that close jobs are matched by the board. -/
theorem match_closes {b b' : JobBoard} (h : List.Forall₂ (Job.Advances handlers) b b') :
    ∃ fs t', run (JobBoard.step handlers) b fs = some t' ∧
      trace (JobBoard.step handlers) JobBoard.shows b fs = [] ∧ t' = b' := by
  obtain ⟨fs, hfs, hrun⟩ := JobBoard.run_closes h []
  exact ⟨fs, b', hrun, JobBoard.trace_closes hfs b, rfl⟩

/-- **The system simulates the board**, and its own board is the matching one. -/
theorem simulation (cfg : Config) (handlers : Handlers) :
    Simulation (serve cfg handlers) shows init (JobBoard.step handlers) JobBoard.shows []
      (fun s b => b = s.dispatcher.board) where
  init := rfl
  step := by
    intro s e s' b hreach hR hs
    subst hR
    obtain ⟨hd, ht⟩ := traced_of_serve hreach
    have ht' := (traced_of_serve (hreach.tail hs)).2
    cases e with
    | getResult request now =>
        cases hs
        refine ⟨[.ask request.payload.taskId], _, rfl, ?_, rfl⟩
        rw [trace_singleton rfl, JobBoard.shows, shows, Dispatcher.seenResult_getResult hd]
    | system e =>
        simp only [serve] at hs
        split at hs
        · cases hs
        rename_i he
        rcases step_cases hs he with ⟨e', d, rfl, hnr, hstep, hs'⟩ |
          ⟨epoch, request, now, rfl, _, hs'⟩ | ⟨_, _, _, _, _, _, _, rfl, _, hs'⟩
        · rcases Dispatcher.post_or_not e' with ⟨request, now, rfl⟩ | hp
          · -- a submission
            cases hstep
            refine ⟨[.submit request.payload], _, rfl, ?_, ?_⟩
            · rw [trace_singleton rfl, JobBoard.shows, shows, Dispatcher.seenPost_postTask hd]
            · rw [hs']
              exact (Dispatcher.board_postTask hd request now).symm
          · -- any other step of the dispatcher
            have hquiet : shows s (.system (.dispatcher e')) = none := by
              cases e' with
              | postTask request now => exact absurd rfl (hp request now)
              | _ => rfl
            rw [hquiet]
            refine match_closes ?_
            rw [hs'] at ht' ⊢
            exact Dispatcher.board_advances hd hstep hp ht'.records
        · -- the delivery of a report
          refine match_closes ?_
          rw [hs'] at ht' ⊢
          exact Dispatcher.board_advances hd (e := .returnResult request now) rfl
            (by intro r n h; cases h) ht'.records
        · -- an execution leaves the dispatcher alone
          exact ⟨[], _, rfl, rfl, by rw [hs']⟩

/-! ## §5. The main results. -/

/-- **Refinement.**  Whatever happens in a lifetime of the dispatcher, its clients see what some
run of the job board shows, and the store ends up with the jobs of that board. -/
theorem refines_jobBoard {es : List ClientEvent} (hrun : run (serve cfg handlers) init es = some s) :
    ∃ fs : List BoardEvent, run (JobBoard.step handlers) [] fs = some s.dispatcher.board ∧
      trace (JobBoard.step handlers) JobBoard.shows [] fs
        = trace (serve cfg handlers) shows init es := by
  obtain ⟨fs, b, hfs, htrace, rfl⟩ := (simulation cfg handlers).run hrun
  exact ⟨fs, hfs, htrace⟩

/-- The life of one task, asked for before it is dispatched and after its result has come. -/
def servedLife : List ClientEvent :=
  (sampleLife.take 1).map .system ++ [.getResult { payload := ⟨Dispatcher.sampleTaskId⟩ } 1]
    ++ (sampleLife.drop 1).map .system ++ [.getResult { payload := ⟨Dispatcher.sampleTaskId⟩ } 5]

/-- The board shows the same. -/
theorem refines_jobBoard_servedLife :
    ∃ s, run (serve ⟨3⟩ sampleHandlers) init servedLife = some s ∧
      ∃ fs, run (JobBoard.step sampleHandlers) [] fs = some s.dispatcher.board ∧
        trace (JobBoard.step sampleHandlers) JobBoard.shows [] fs
          = [.posted Dispatcher.sampleRequest.payload (.accepted Dispatcher.sampleTaskId),
              .asked Dispatcher.sampleTaskId (.pending ""),
              .asked Dispatcher.sampleTaskId (.completed "cba")] := by
  refine ⟨_, rfl, ?_⟩
  exact @refines_jobBoard ⟨3⟩ sampleHandlers _ servedLife rfl

/-- **The contract with the clients**, over every run of a lifetime. -/
theorem client_contract {es : List ClientEvent}
    (hrun : run (serve cfg handlers) init es = some s) :
    Causal (Contract handlers) (trace (serve cfg handlers) shows init es) :=
  (simulation cfg handlers).trace_property (fun _ _ hfs => JobBoard.contract_of_board hfs) hrun

theorem client_contract_servedLife :
    (∃ s, run (serve ⟨3⟩ sampleHandlers) init servedLife = some s) ∧
      Causal (Contract sampleHandlers) (trace (serve ⟨3⟩ sampleHandlers) shows init servedLife) :=
  ⟨⟨_, rfl⟩, @client_contract ⟨3⟩ sampleHandlers _ servedLife rfl⟩

end System

end TaskGrid
