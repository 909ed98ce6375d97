/-
  TaskGrid.Dispatcher.Balance — round-robin over the runs of the dispatcher.

  Every answer of `lookup_worker` that lists a worker takes a turn of the
  selector.  A turn becomes an ExecuteTask request unless somebody has ended
  the task while its lookup was under way; such a turn is lost for the worker
  it fell to.  So the requests are the choices of the selector with some left
  out, and these can be counted (`turns_of_run`).

  Main result: `evenly_spread`.  In any stretch of a run in which the answers
  for a task type list the same worker ids, the requests are spread evenly
  over them, up to the lost turns.
-/
import TaskGrid.Dispatcher.WorkerSelector
import TaskGrid.Dispatcher.StatusCollector
import TaskGrid.Dispatcher.Stop
import TaskGrid.Dispatcher.Work

namespace TaskGrid

open TaskGrid.Lib

/-! ## §1. The workers a sequence of calls chooses. -/

namespace RoundRobinSelector

/-- The ids of the workers the successful calls for a type choose, in order. -/
def chosenFor (s : RoundRobinSelector) (ty : String) (calls : List SelectCall) : List String :=
  (s.selectionsFor ty calls).map (·.worker.workerId)

variable {s : RoundRobinSelector} {c : SelectCall} {ty : String}

/-- The first call of a sequence, and the others. -/
theorem selections_cons (s : RoundRobinSelector) (c : SelectCall) (cs : List SelectCall) :
    s.selections (c :: cs) = s.selections [c] ++ (s.select c.taskType c.workers).2.selections cs := by
  simp only [selections]
  cases s.select c.taskType c.workers with
  | mk worker s' => cases worker <;> rfl

/-- A sequence goes on with the selector its first part leaves. -/
theorem selections_append (bs cs : List SelectCall) :
    ∀ s : RoundRobinSelector,
      s.selections (bs ++ cs) = s.selections bs ++ (s.after bs).selections cs := by
  induction bs with
  | nil => intro s; rfl
  | cons b bs ih =>
      intro s
      have hafter : s.after (b :: bs) = (s.select b.taskType b.workers).2.after bs := rfl
      rw [List.cons_append, selections_cons, ih, selections_cons s b bs, hafter, List.append_assoc]

theorem chosenFor_append (s : RoundRobinSelector) (ty : String) (bs cs : List SelectCall) :
    s.chosenFor ty (bs ++ cs) = s.chosenFor ty bs ++ (s.after bs).chosenFor ty cs := by
  unfold chosenFor selectionsFor
  rw [selections_append, List.filter_append, List.map_append]

/-- A single call that finds nobody. -/
theorem selections_of_nil (h : c.workers = []) : s.selections [c] = [] := by
  simp only [selections, select_of_nil h]

/-- A single call that finds a worker. -/
theorem selections_of_some {worker : WorkerInfo}
    (h : (s.select c.taskType c.workers).1 = some worker) :
    s.selections [c] = [⟨c, s.idx c, worker⟩] := by
  simp only [selections]
  cases hsel : s.select c.taskType c.workers with
  | mk worker' s' =>
      rw [hsel] at h
      rw [show worker' = some worker from h]

/-- A selection comes from a call with a worker to choose from. -/
theorem call_of_mem_selections {sel : Selection} (calls : List SelectCall) :
    ∀ {s : RoundRobinSelector}, sel ∈ s.selections calls →
      sel.call ∈ calls ∧ sel.call.workers ≠ [] := by
  induction calls with
  | nil => intro s h; cases h
  | cons c calls ih =>
      intro s h
      rw [selections_cons, List.mem_append] at h
      rcases h with h | h
      · by_cases hne : c.workers = []
        · rw [selections_of_nil hne] at h
          cases h
        · obtain ⟨worker, hsel, _⟩ := select_of_ne_nil (s := s) hne
          rw [selections_of_some (congrArg Prod.fst hsel), List.mem_singleton] at h
          rw [h]
          exact ⟨List.mem_cons_self, hne⟩
      · obtain ⟨hmem, hne⟩ := ih h
        exact ⟨List.mem_cons_of_mem c hmem, hne⟩

theorem length_chosenFor (s : RoundRobinSelector) (ty : String) (calls : List SelectCall) :
    (s.chosenFor ty calls).length = (ownCalls ty calls).length := by
  rw [← length_positionsFor s, chosenFor, positionsFor, List.length_map, List.length_map]

/-- **With the same ids in every list the choices go round these ids.** -/
theorem chosenFor_eq_goRound {ids : List String} {calls : List SelectCall}
    (s : RoundRobinSelector)
    (hsame : ∀ c ∈ calls, c.taskType = ty → c.workers ≠ [] →
      c.workers.map WorkerInfo.workerId = ids) :
    s.chosenFor ty calls = goRound ids (s.counters ty) (ownCalls ty calls).length := by
  have hlength : ∀ c ∈ calls, c.taskType = ty → c.workers ≠ [] → c.workers.length = ids.length := by
    intro c hc ht hne
    rw [← hsame c hc ht hne, List.length_map]
  -- each choice is the id at its position
  have hat : ∀ sel ∈ s.selectionsFor ty calls, ids[sel.position]? = some sel.worker.workerId := by
    intro sel hsel
    obtain ⟨hmem, ht⟩ := List.mem_filter.mp hsel
    obtain ⟨hcall, hne⟩ := call_of_mem_selections calls hmem
    rw [← hsame _ hcall (by simpa using ht) hne, List.getElem?_map, (position_lt hmem).2]
    rfl
  unfold goRound
  rw [← positionsFor_eq_turns_of_length s hlength]
  unfold positionsFor
  rw [List.filterMap_map]
  exact (List.filterMap_eq_map' ▸ List.filterMap_congr hat).symm

end RoundRobinSelector

/-! ## §2. The turn of a lookup. -/

namespace Dispatcher

variable {cfg : Config} {a b d : Dispatcher} {ty : String}

/-- The ids of the workers the ExecuteTask requests for tasks of a type went to, in order. -/
def receivers (d : Dispatcher) (ty : String) : List String :=
  (d.sent.filter (·.request.payload.taskType = ty)).map (·.worker.workerId)

/-- A lookup lists a worker for a task of the type that has ended meanwhile. -/
def lostTurn (ty : String) (a : Dispatcher) (e : Event) (_ : Dispatcher) : Nat :=
  match e with
  | .lookupReturns i workers _ =>
      if workers ≠ [] ∧ (a.store.get i).any (fun t => t.taskType = ty && isTerminal t) then 1 else 0
  | _ => 0

theorem sent_dispatchTask (d : Dispatcher) (task : Task) (worker : WorkerInfo) (timer : Timer)
    (now : Int) :
    (d.dispatchTask task worker timer now).sent = d.sent ++ executeCalls task worker now := by
  unfold dispatchTask executeCalls
  split
  · rename_i e he
    rw [he, List.append_nil]
  · rename_i request hr
    rw [hr]
    rfl

/-- A run at its lookup is one of a task that waits or has ended. -/
theorem waiting_or_terminal_of_lookup (ha : Reachable (step cfg) init a) {i : String} {task : Task}
    (hg : a.store.get i = some task) (hr : DispatchRun.mk i .lookupWorker ∈ a.runs) :
    task.status.isWaiting = true ∨ isTerminal task = true := by
  cases hw : task.status.isWaiting with
  | true => exact .inl rfl
  | false =>
      have htok : 0 < (a.slot i).tokens := by
        have hpos : 0 < a.runs.countP (DispatchRun.pendingFor i) :=
          List.countP_pos_iff.mpr ⟨_, hr, DispatchRun.pendingFor_self rfl⟩
        show 0 < a.queue.count i + a.runs.countP (DispatchRun.pendingFor i) + a.delayed.count i
        omega
      right
      rw [isTerminal_eq]
      exact (taskInv_of_reachable ha hg).terminal_of_spare htok hw

/-- **What becomes of the turn of a lookup.**  Without a worker there is none; the turn of a task
that has ended is lost; any other sends one request. -/
theorem turn_of_lookup (ha : Reachable (step cfg) init a) (hposts : a.taskIdCounter < 2 ^ 31)
    {i : String} {workers : List WorkerInfo} {now : Int}
    (hs : a.lookupReturns i workers now = some b) :
    ∃ task, a.store.get i = some task ∧
      (workers = [] ∧ b.sent = a.sent ∨
        workers ≠ [] ∧ isTerminal task = true ∧ b.sent = a.sent ∨
        ∃ call, (a.selector.select task.taskType workers).1 = some call.worker ∧
          isTerminal task = false ∧ call.request.payload.taskType = task.taskType ∧
          b.sent = a.sent ++ [call]) := by
  unfold lookupReturns at hs
  split at hs
  case isFalse => cases hs
  rename_i hr
  cases hg : a.store.get i with
  | none => rw [hg] at hs; cases hs
  | some task =>
      refine ⟨task, rfl, ?_⟩
      rw [hg] at hs
      simp only [] at hs
      cases hsel : (a.selector.select task.taskType workers).1 with
      | none =>
          rw [hsel] at hs
          rw [← Option.some.inj hs]
          exact .inl ⟨RoundRobinSelector.select_eq_none hsel, rfl⟩
      | some worker =>
          rw [hsel] at hs
          simp only [] at hs
          have hne : workers ≠ [] := by
            rintro rfl
            cases hsel
          right
          rcases waiting_or_terminal_of_lookup ha hg hr with hw | ht
          · -- the task is dispatched
            right
            rw [transition_of_mem (dispatched_mem_validTransitions.mpr hw)] at hs
            have hid : Int32Id (task.dispatchedTo worker now).taskId := by
              have hkey : task.taskId = i := Keyed.key_of_get hg
              show Int32Id (task.enter .dispatched now).taskId
              rw [enter_taskId, hkey]
              exact int32Id_of_get ha hposts hg
            obtain ⟨call, hcall⟩ := List.length_eq_one_iff.mp (length_executeCalls hid worker now)
            have hmem : call ∈ executeCalls (task.dispatchedTo worker now) worker now := by
              rw [hcall]
              exact List.mem_singleton_self call
            have htype : (task.dispatchedTo worker now).taskType = task.taskType :=
              enter_taskType task .dispatched now
            refine ⟨call, ?_, (not_inFlight_of_waiting hw).2,
              (asksFor_of_mem_executeCalls hmem).1.trans htype, ?_⟩
            · rw [worker_of_mem_executeCalls hmem]
            · rw [← Option.some.inj hs, ← hcall]
              exact sent_dispatchTask _ _ _ _ _
          · -- the transition is not allowed
            left
            have hno : TaskState.dispatched ∉ validTransitions task.status := by
              rw [dispatched_mem_validTransitions, (not_active_of_terminal ht).1]
              exact Bool.false_ne_true
            rw [transition_of_not_mem hno] at hs
            rw [← Option.some.inj hs]
            exact ⟨hne, ht, rfl⟩

theorem selectCalls_lookupReturns {i : String} {workers : List WorkerInfo} {now : Int} {task : Task}
    (hg : a.store.get i = some task) :
    a.selectCalls (.lookupReturns i workers now) = [⟨task.taskType, workers⟩] := by
  show ((a.store.get i).map _).toList = _
  rw [hg]
  rfl

/-! ## §3. Steps and runs. -/

/-- The step is the return of a lookup, or it makes no call of `select`. -/
theorem lookup_or_not (e : Event) :
    (∃ i workers now, e = .lookupReturns i workers now) ∨
      ∀ i workers now, e ≠ .lookupReturns i workers now := by
  cases e with
  | lookupReturns i workers now => exact .inl ⟨i, workers, now, rfl⟩
  | _ => exact .inr nofun

/-- **Step lemma.**  The new requests of a step for a task type are the choices the selector has
made in it for this type, but for the lost turn. -/
theorem turns_of_step (ha : Reachable (step cfg) init a) (hposts : a.taskIdCounter < 2 ^ 31)
    {e : Event} (hs : a.step cfg e = some b) :
    ∃ new, b.receivers ty = a.receivers ty ++ new ∧
      new.Sublist (a.selector.chosenFor ty (a.selectCalls e)) ∧
      new.length + lostTurn ty a e b = (a.selector.chosenFor ty (a.selectCalls e)).length := by
  rcases lookup_or_not e with ⟨i, workers, now, rfl⟩ | hno
  case inr =>
    have hcalls : a.selectCalls e = [] ∧ lostTurn ty a e b = 0 := by
      cases e with
      | lookupReturns i workers now => exact absurd rfl (hno i workers now)
      | _ => exact ⟨rfl, rfl⟩
    refine ⟨[], ?_, List.nil_sublist _, ?_⟩
    · rw [List.append_nil]
      unfold receivers
      rw [sent_of_step hs hno]
    · rw [hcalls.1, hcalls.2]
      rfl
  obtain ⟨task, hg, hturn⟩ := turn_of_lookup ha hposts hs
  have hlost : lostTurn ty a (.lookupReturns i workers now) b
      = if workers ≠ [] ∧ (task.taskType = ty && isTerminal task) then 1 else 0 := by
    simp only [lostTurn, hg, Option.any_some]
  rw [selectCalls_lookupReturns hg, hlost]
  unfold RoundRobinSelector.chosenFor RoundRobinSelector.selectionsFor
  rcases hturn with ⟨hnil, hsent⟩ | ⟨hne, ht, hsent⟩ | ⟨call, hsel, ht, htype, hsent⟩
  · -- nobody to choose from
    rw [RoundRobinSelector.selections_of_nil hnil]
    refine ⟨[], ?_, List.nil_sublist _, ?_⟩
    · rw [List.append_nil]
      unfold receivers
      rw [hsent]
    · simp [hnil]
  · -- the turn is lost
    obtain ⟨worker, hsel, _⟩ :=
      @RoundRobinSelector.select_of_ne_nil a.selector ⟨task.taskType, workers⟩ hne
    rw [RoundRobinSelector.selections_of_some (congrArg Prod.fst hsel)]
    refine ⟨[], ?_, List.nil_sublist _, ?_⟩
    · rw [List.append_nil]
      unfold receivers
      rw [hsent]
    · by_cases hty : task.taskType = ty <;> simp [hty, hne, ht]
  · -- a request is sent
    rw [RoundRobinSelector.selections_of_some hsel]
    refine ⟨if task.taskType = ty then [call.worker.workerId] else [], ?_, ?_, ?_⟩
    · unfold receivers
      rw [hsent, List.filter_append, List.map_append]
      by_cases hty : task.taskType = ty <;> simp [hty, htype]
    · by_cases hty : task.taskType = ty <;> simp [hty]
    · by_cases hty : task.taskType = ty <;> simp [hty, ht]

/-- The counter of ids never runs back. -/
theorem taskIdCounter_le_of_step {e : Event} (hs : a.step cfg e = some b) :
    a.taskIdCounter ≤ b.taskIdCounter := by
  rcases post_or_not e with ⟨request, now, rfl⟩ | hp
  · cases hs
    rcases postTask_cases a request now with ⟨_, h⟩ | h <;> rw [h]
    exact Nat.le_succ _
  · rw [step_counter hs hp]

theorem taskIdCounter_le_of_run {es : List Event} (hr : run (step cfg) a es = some b)
    (ha : Reachable (step cfg) init a) : a.taskIdCounter ≤ b.taskIdCounter :=
  run_preserves (I := fun d => a.taskIdCounter ≤ d.taskIdCounter)
    (fun _ _ _ _ hle hs => Nat.le_trans hle (taskIdCounter_le_of_step hs)) es ha (Nat.le_refl _) hr

/-- **Run lemma.**  The new requests of a run for a task type are the choices the selector has
made for this type, in their order, but for the lost turns. -/
theorem turns_of_run (es : List Event) :
    ∀ {a : Dispatcher}, Reachable (step cfg) init a → run (step cfg) a es = some b →
      b.taskIdCounter < 2 ^ 31 →
      ∃ new, b.receivers ty = a.receivers ty ++ new ∧
        new.Sublist (a.selector.chosenFor ty (selectCallsOf cfg a es)) ∧
        new.length + tally (step cfg) (lostTurn ty) a es
          = (a.selector.chosenFor ty (selectCallsOf cfg a es)).length := by
  induction es with
  | nil =>
      intro a _ hr _
      rw [run_nil, Option.some.injEq] at hr
      exact ⟨[], by rw [hr, List.append_nil], List.nil_sublist _, rfl⟩
  | cons e es ih =>
      intro a ha hr hposts
      obtain ⟨m, hm, hr⟩ := run_cons_eq_some.mp hr
      have hle : a.taskIdCounter ≤ b.taskIdCounter :=
        Nat.le_trans (taskIdCounter_le_of_step hm) (taskIdCounter_le_of_run hr (ha.tail hm))
      obtain ⟨first, hfirst, hsub, hlen⟩ :=
        @turns_of_step cfg a m ty ha (Nat.lt_of_le_of_lt hle hposts) e hm
      obtain ⟨rest, hrest, hsub', hlen'⟩ := ih (ha.tail hm) hr hposts
      have hcalls : selectCallsOf cfg a (e :: es) = a.selectCalls e ++ selectCallsOf cfg m es := by
        simp only [selectCallsOf, hm]
      rw [hcalls, RoundRobinSelector.chosenFor_append, ← selector_step hm, tally_cons hm]
      refine ⟨first ++ rest, ?_, hsub.append hsub', ?_⟩
      · rw [hrest, hfirst, List.append_assoc]
      · rw [List.length_append, List.length_append, ← hlen, ← hlen']
        omega

/-! ## §4. The requests are spread evenly. -/

/-- The answers in the run that list a worker for a task type list these ids, in this order. -/
def AnswersList (cfg : Config) (ty : String) (ids : List String) (a : Dispatcher)
    (es : List Event) : Prop :=
  ∀ c ∈ selectCallsOf cfg a es, c.taskType = ty → c.workers ≠ [] →
    c.workers.map WorkerInfo.workerId = ids

/-- **The requests are spread evenly.**  In any stretch of a run in which the answers for a task
type list the same `n` ids, with `m` turns for this type, lost ones included: each worker gets at
most the ceiling of `m / n` of the new requests for each of its places in the list, and at least
the floor but for the lost turns, whatever is posted, retried, rejected or reported in between. -/
theorem evenly_spread {es : List Event} (ha : Reachable (step cfg) init a)
    (hr : run (step cfg) a es = some b) (hposts : b.taskIdCounter < 2 ^ 31) {ids : List String}
    (hsame : AnswersList cfg ty ids a es) :
    ∃ new m, b.receivers ty = a.receivers ty ++ new ∧
      m = new.length + tally (step cfg) (lostTurn ty) a es ∧
      ∀ w, new.count w ≤ ids.count w * (m ⌈/⌉ ids.length) ∧
        ids.count w * (m / ids.length) ≤ new.count w + tally (step cfg) (lostTurn ty) a es := by
  obtain ⟨new, hnew, hsub, hlen⟩ := @turns_of_run cfg b ty es a ha hr hposts
  have hround := RoundRobinSelector.chosenFor_eq_goRound a.selector hsame
  rw [RoundRobinSelector.length_chosenFor] at hlen
  refine ⟨new, _, hnew, hlen.symm, fun w => ?_⟩
  obtain ⟨hfloor, hceil⟩ := count_goRound ids (a.selector.counters ty)
    (ownCalls ty (selectCallsOf cfg a es)).length w
  rw [← hround] at hfloor hceil
  -- the requests are the choices but for the lost turns
  have hmost := hsub.count_le w
  have hleast := hsub.le_count w
  rw [RoundRobinSelector.length_chosenFor] at hleast
  exact ⟨Nat.le_trans hmost hceil, by omega⟩

/-- Two tasks and two workers. -/
def twoWorkers : List Event :=
  [.postTask sampleRequest 0, .postTask sampleRequest 0, .dequeue, .dequeue,
    .lookupReturns "1" [sampleWorker, ⟨"w2", "localhost", 50062, 0⟩] 1,
    .lookupReturns "2" [⟨"w1", "localhost", 50061, 1⟩, ⟨"w2", "localhost", 50062, 0⟩] 1]

/-- Each of them gets one request. -/
theorem evenly_spread_twoWorkers :
    ∃ b, run (step ⟨3⟩) init twoWorkers = some b ∧
      (b.receivers "reverse").count "w1" = 1 ∧ (b.receivers "reverse").count "w2" = 1 := by
  have hsame : AnswersList ⟨3⟩ "reverse" ["w1", "w2"] init twoWorkers := by
    unfold AnswersList
    decide
  obtain ⟨b, hb⟩ : ∃ b, run (step ⟨3⟩) init twoWorkers = some b := ⟨_, rfl⟩
  have hposts : b.taskIdCounter < 2 ^ 31 := by
    cases hb
    decide
  have htwo : (b.receivers "reverse").length = 2 := by
    cases hb
    rfl
  have hlost : tally (step ⟨3⟩) (lostTurn "reverse") init twoWorkers = 0 := by decide
  obtain ⟨new, m, hnew, hm, hcount⟩ := evenly_spread (Reachable.init init) hb hposts hsame
  have hall : b.receivers "reverse" = new := hnew
  rw [hlost, Nat.add_zero, ← hall, htwo] at hm
  rw [hm, hlost, ← hall] at hcount
  obtain ⟨hmost, hleast⟩ := hcount "w1"
  obtain ⟨hmost', hleast'⟩ := hcount "w2"
  exact ⟨b, hb, Nat.le_antisymm hmost hleast, Nat.le_antisymm hmost' hleast'⟩

end Dispatcher

end TaskGrid
