/-
  TaskGrid.Dispatcher.Atomicity — what a failing handler leaves behind.

  ReturnResult cancels the timeout before it knows whether the record accepts
  the report.  A refused report does no harm all the same: a record that
  refuses one has no live timer (`returnResult_allOrNothing`).

  PostTask stores and enqueues the task before it builds the response, and the
  id of the response is an int32.  `postTask_iff` says for which counters and
  requests the call does all or nothing.
-/
import TaskGrid.Dispatcher.Retries

namespace TaskGrid

open TaskGrid.Lib

namespace Dispatcher

variable {cfg : Config} {d : Dispatcher}

/-! ## §1. ReturnResult. -/

/-- Records, queue, delayed re-enqueues and live timeout timers are the same. -/
def Unchanged (a b : Dispatcher) : Prop :=
  b.store = a.store ∧ b.queue = a.queue ∧ b.delayed = a.delayed ∧ b.live = a.live

/-- The report has ended its task and touched no other one. -/
structure EndedBy (report : ResultPayload) (a b : Dispatcher) : Prop where
  record : ∃ task, b.store.get (str report.taskId.val) = some task ∧
    task.status = reportedState report.status ∧ task.result = reportedText report
  timers : ∀ timer ∈ b.live, timer.taskId ≠ str report.taskId.val
  others : ∀ u, u ≠ str report.taskId.val →
    b.store.get u = a.store.get u ∧
      b.live.filter (·.taskId = u) = a.live.filter (·.taskId = u)

/-- A report the record refuses finds no timer to cancel. -/
theorem unchanged_of_not_accepts {request : Envelope ResultPayload} {task : Task}
    (hd : Reachable (step cfg) init d)
    (hg : d.store.get (str request.payload.taskId.val) = some task)
    (hnt : isTerminal task = false) (ha : ¬ Accepts task request.payload) (now : Int) :
    Unchanged d (d.returnResult request now).1 := by
  have hinv := taskInv_of_reachable hd hg
  -- in flight every report is accepted, and only a task in flight has a live timer
  have hlive : (d.slot (str request.payload.taskId.val)).live = [] := by
    rcases hinv.status with hw | hf | ht
    · exact (hinv.waiting hw).2
    · exact absurd (.inl hf) ha
    · exact hinv.terminal ht
  refine ⟨store_returnResult_of_not_accepts hg hnt ha now, ?_⟩
  rw [returnResult_of_not_accepts hg hnt ha]
  refine ⟨?_, ?_, ?_⟩
  · exact queue_cancelTimeout d _
  · exact delayed_cancelTimeout d _
  · exact live_cancelTimeout_of_nil d hlive

/-- An accepted report ends the task. -/
theorem endedBy_of_accepts {request : Envelope ResultPayload} {task : Task}
    (hd : Reachable (step cfg) init d)
    (hg : d.store.get (str request.payload.taskId.val) = some task)
    (ha : Accepts task request.payload) (now : Int) :
    EndedBy request.payload d (d.returnResult request now).1 := by
  have hinv := taskInv_of_reachable hd hg
  refine ⟨?_, ?_, ?_⟩
  · exact ⟨_, get_returnResult_of_accepts hg ha now, Task.reported_status _ _ _, rfl⟩
  · intro timer hmem hid
    have hlive : timer ∈ ((d.returnResult request now).1.slot
        (str request.payload.taskId.val)).live := by
      simp [slot, hmem, hid]
    rw [slot_returnResult_of_accepts hg ha now] at hlive
    have hnil : (d.slot (str request.payload.taskId.val)).cancel.live = [] := hinv.cancel_live
    rw [show _ = _ from hnil] at hlive
    cases hlive
  · intro u hu
    have hslot := slot_returnResult_ne (d := d) (Ne.symm hu) now
    exact ⟨congrArg Slot.task hslot, congrArg Slot.live hslot⟩

/-- **ReturnResult does all or nothing.**  In every reachable state: a report answered with
`success = false` has changed nothing; one answered with `success = true` is for a known task,
and unless that was terminal before, the report has ended it and touched no other task. -/
theorem returnResult_allOrNothing (hd : Reachable (step cfg) init d)
    (request : Envelope ResultPayload) (now : Int) :
    ((d.returnResult request now).2.message.payload.success = false →
        Unchanged d (d.returnResult request now).1) ∧
      ((d.returnResult request now).2.message.payload.success = true →
        ∃ task, d.store.get (str request.payload.taskId.val) = some task ∧
          (isTerminal task = false →
            EndedBy request.payload d (d.returnResult request now).1)) := by
  rcases returnResult_cases d request.payload with hg | ⟨task, hg, ht | ha | ⟨hnt, ha⟩⟩
  · rw [returnResult_of_none hg]
    exact ⟨fun _ => ⟨rfl, rfl, rfl, rfl⟩, nofun⟩
  · refine ⟨?_, fun _ => ⟨task, hg, fun hnt => ?_⟩⟩
    · rw [returnResult_of_terminal hg ht]
      exact nofun
    · rw [ht] at hnt
      cases hnt
  · refine ⟨?_, fun _ => ⟨task, hg, fun _ => endedBy_of_accepts hd hg ha now⟩⟩
    rw [returnResult_of_accepts hg ha]
    exact nofun
  · refine ⟨fun _ => unchanged_of_not_accepts hd hg hnt ha now, ?_⟩
    rw [returnResult_of_not_accepts hg hnt ha]
    exact nofun

/-- The dispatched task is reported. -/
theorem returnResult_allOrNothing_sampleDispatch :
    ∃ d, run (step ⟨3⟩) init sampleDispatch = some d ∧
      EndedBy sampleResult.payload d (d.returnResult sampleResult 2).1 := by
  refine ⟨_, rfl, ?_⟩
  obtain ⟨_, hdone⟩ := @returnResult_allOrNothing ⟨3⟩ _ ⟨sampleDispatch, rfl⟩ sampleResult 2
  obtain ⟨task, hg, hended⟩ := hdone (by decide)
  have hnt : some (isTerminal task) = some false :=
    (congrArg (Option.map isTerminal) hg).symm.trans rfl
  exact hended (Option.some.inj hnt)

/-! ## §2. PostTask. -/

/-- PostTask has done its work under the number `n`: the number was free, exactly one record has
been added, its task is the last in the queue, and requests for `n` are about this record. -/
structure PostedAs (request : Envelope PostTaskPayload) (now : Int) (a b : Dispatcher)
    (n : Int) : Prop where
  fresh : a.store.get (str n) = none
  record : ∀ k, b.store.get k
    = if k = str n then some (Task.posted (str n) request.payload now) else a.store.get k
  queue : b.queue = a.queue ++ [str n]
  getResult : ∀ (get : Envelope GetResultPayload) (later : Int), get.payload.taskId.val = n →
    (b.getResult get later).message.payload
      = { found := true, taskId := get.payload.taskId, status := "QUEUED" }
  returnResult : ∀ (report : Envelope ResultPayload) (later : Int),
    report.payload.taskId.val = n → ∀ k, (b.returnResult report later).1.store.get k
      = if k = str n ∧ report.payload.status ≠ "COMPLETED" then
          some ((Task.posted (str n) request.payload now).reported report.payload later)
        else b.store.get k

/-- The call returns success with a number and has done its work under it, or it is turned down
or raises and store and queue are the same. -/
def AllOrNothing (d : Dispatcher) (request : Envelope PostTaskPayload) (now : Int) : Prop :=
  let b := (d.postTask request now).1
  match (d.postTask request now).2 with
  | .ok reply =>
      if reply.message.payload.success then
        PostedAs request now d b reply.message.payload.taskId.val
      else b.store = d.store ∧ b.queue = d.queue
  | .error _ => b.store = d.store ∧ b.queue = d.queue

/-- The next number is not in use. -/
def NextFree (d : Dispatcher) : Prop :=
  d.store.get (str ((d.taskIdCounter + 1 : Nat) : Int)) = none

/-- The response to a stored task can be built exactly when its number is an int32. -/
theorem postTaskResponse_str (request : Envelope PostTaskPayload) (n now : Int) :
    (-2 ^ 31 ≤ n ∧ n ≤ 2 ^ 31 - 1 ∧ ∃ reply, postTaskResponse request (str n) now = .ok reply ∧
        reply.message.payload.success = true ∧ reply.message.payload.taskId.val = n) ∨
      (¬ (-2 ^ 31 ≤ n ∧ n ≤ 2 ^ 31 - 1) ∧
        ∃ e, postTaskResponse request (str n) now = .error e) := by
  unfold postTaskResponse
  rw [int?_str]
  cases he : encodeInt32 n with
  | ok m =>
      obtain ⟨hl, hu⟩ := (encodeInt32_isOk_iff n).mp ⟨m, he⟩
      simp only [he]
      exact .inl ⟨hl, hu, _, rfl, rfl, val_of_encodeInt32 he⟩
  | error e =>
      simp only [he]
      refine .inr ⟨fun hfits => ?_, e, rfl⟩
      obtain ⟨m, hm⟩ := (encodeInt32_isOk_iff n).mpr hfits
      rw [he] at hm
      cases hm

/-- A valid request under a free number adds one record, and requests for the number find it. -/
theorem postedAs_postTask {request : Envelope PostTaskPayload} (hv : Valid request.payload)
    (hfree : NextFree d) (now : Int) :
    PostedAs request now d (d.postTask request now).1 ((d.taskIdCounter + 1 : Nat) : Int) := by
  unfold NextFree at hfree
  have hpost := congrArg Prod.fst (postTask_of_valid hv d now)
  simp only [] at hpost
  generalize hb : (d.postTask request now).1 = b at hpost ⊢
  generalize ((d.taskIdCounter + 1 : Nat) : Int) = n at hfree hpost ⊢
  have hrecord : ∀ k, b.store.get k
      = if k = str n then some (Task.posted (str n) request.payload now) else d.store.get k := by
    intro k
    rw [hpost]
    show (d.store.put (Task.posted (str n) request.payload now)).get k = _
    rw [Keyed.get_put]
    simp only [eq_comm]
    rfl
  have hself : b.store.get (str n) = some (Task.posted (str n) request.payload now) := by
    rw [hrecord, if_pos rfl]
  refine ⟨hfree, hrecord, ?_, ?_, ?_⟩
  · rw [hpost]
    rfl
  · intro get later hget
    unfold getResult
    simp only [hget, hself]
    rfl
  · intro report later hid k
    have hg : b.store.get (str report.payload.taskId.val)
        = some (Task.posted (str n) request.payload now) := by
      rw [hid]
      exact hself
    by_cases hk : k = str n
    · subst hk
      by_cases hc : report.payload.status = "COMPLETED"
      · -- QUEUED has no transition to COMPLETED
        have ha : ¬ Accepts (Task.posted (str n) request.payload now) report.payload := by
          rintro (hf | ⟨_, hne⟩)
          · cases hf
          · exact hne hc
        rw [if_neg (fun h => h.2 hc), store_returnResult_of_not_accepts hg rfl ha later]
      · have ha : Accepts (Task.posted (str n) request.payload now) report.payload :=
          .inr ⟨rfl, hc⟩
        have hended := get_returnResult_of_accepts hg ha later
        rw [hid] at hended
        rw [if_pos ⟨rfl, hc⟩, hended]
    · rw [if_neg (fun h => hk h.1)]
      have hne : str report.payload.taskId.val ≠ k := by
        rw [hid]
        exact Ne.symm hk
      exact congrArg Slot.task (slot_returnResult_ne hne later)

/-- As long as the next number is an int32, what is left is that it is free. -/
theorem allOrNothing_iff_of_le {request : Envelope PostTaskPayload} (hv : Valid request.payload)
    (hle : d.taskIdCounter + 1 ≤ 2 ^ 31 - 1) (now : Int) :
    AllOrNothing d request now ↔ NextFree d := by
  have hpost := postTask_of_valid hv d now
  rcases postTaskResponse_str request ((d.taskIdCounter + 1 : Nat) : Int) now with
    ⟨_, _, reply, hok, hsucc, hnum⟩ | ⟨hbig, _⟩
  · have hreply : (d.postTask request now).2 = .ok reply := by rw [hpost, ← hok]
    unfold AllOrNothing
    simp only [hreply, hsucc, if_true, hnum]
    exact ⟨fun hposted => hposted.fresh, fun hfree => postedAs_postTask hv hfree now⟩
  · exact absurd ⟨by omega, by omega⟩ hbig

/-- From 2^31 on the call raises, and the task is in the queue already. -/
theorem not_allOrNothing_of_lt {request : Envelope PostTaskPayload} (hv : Valid request.payload)
    (hlt : 2 ^ 31 - 1 < d.taskIdCounter + 1) (now : Int) : ¬ AllOrNothing d request now := by
  have hpost := postTask_of_valid hv d now
  -- the task has been enqueued before the response is built
  have hqueue : (d.postTask request now).1.queue
      = d.queue ++ [str ((d.taskIdCounter + 1 : Nat) : Int)] := by
    rw [hpost]
    rfl
  rcases postTaskResponse_str request ((d.taskIdCounter + 1 : Nat) : Int) now with
    ⟨_, hle, _⟩ | ⟨_, e, herr⟩
  · omega
  · have hraise : (d.postTask request now).2 = .error e := by rw [hpost, ← herr]
    unfold AllOrNothing
    simp only [hraise, hqueue]
    rintro ⟨_, hq⟩
    exact absurd (List.append_right_eq_self.mp hq) (List.cons_ne_nil _ _)

/-- **When PostTask does all or nothing.**  In every state, for every counter and every request:
the call does all or nothing if and only if the request is turned down, or the next number is an
int32 and not in use.  In reachable states the next number is never in use. -/
theorem postTask_iff (cfg : Config) (d : Dispatcher) (request : Envelope PostTaskPayload)
    (now : Int) :
    (AllOrNothing d request now
      ↔ ¬ Valid request.payload ∨ d.taskIdCounter + 1 ≤ 2 ^ 31 - 1 ∧ NextFree d) ∧
      (Reachable (step cfg) init d → NextFree d) := by
  refine ⟨?_, fun hd => congrArg Slot.task (numbered_of_reachable hd).next_empty⟩
  by_cases hv : Valid request.payload
  case neg =>
    obtain ⟨details, hd⟩ := postTask_of_not_valid hv d now
    unfold AllOrNothing
    rw [hd]
    exact ⟨fun _ => .inl hv, fun _ => ⟨rfl, rfl⟩⟩
  by_cases hle : d.taskIdCounter + 1 ≤ 2 ^ 31 - 1
  · rw [allOrNothing_iff_of_le hv hle now]
    exact ⟨fun hfree => .inr ⟨hle, hfree⟩, fun h => (h.resolve_left (not_not_intro hv)).2⟩
  · refine ⟨fun h => absurd h (not_allOrNothing_of_lt hv (by omega) now), ?_⟩
    rintro (hnv | ⟨h, _⟩)
    · exact absurd hv hnv
    · exact absurd h hle

/-- The first task after start-up gets the number 1. -/
theorem postTask_iff_init : AllOrNothing init sampleRequest 0 := by
  obtain ⟨hiff, hfree⟩ := postTask_iff ⟨3⟩ init sampleRequest 0
  exact hiff.mpr (.inr ⟨by decide, hfree (Reachable.init init)⟩)

/-- After 2^31 - 1 tasks the next one is stored and enqueued although the call raises. -/
theorem not_allOrNothing_postMany :
    ∃ d, run (step ⟨3⟩) init (postMany (2 ^ 31 - 1)) = some d ∧
      ¬ AllOrNothing d sampleRequest 0 := by
  obtain ⟨d, hrun, hc, _⟩ := run_postMany ⟨3⟩ (2 ^ 31 - 1)
  exact ⟨d, hrun, not_allOrNothing_of_lt valid_sampleRequest (by omega) 0⟩

end Dispatcher

end TaskGrid
