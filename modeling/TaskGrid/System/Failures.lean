/-
  TaskGrid.System.Failures — which tasks fail, and which are never touched.

  Within one lifetime of the dispatcher every report and every answer it
  gets goes back to an execution of one of its own requests (`Traceable`).
  A worker that executes a request offers the type of the task, because all
  processes behind one address do.

  Main results:
    * `untouched_of_unannounced` — a task whose type no worker has announced
      is still the record its PostTask has stored, and nothing was sent for it.
    * `failed_has_excuse` — a task is FAILED only if its handler fails on its
      payload, a worker was draining or could not report, or its retries are
      used up.
-/
import TaskGrid.System.Routing
import TaskGrid.Dispatcher.Accounting

namespace TaskGrid

open TaskGrid.Lib

/-! ## §1. Executions. -/

/-- Without a result of `process_task` for a type the worker offers, the handler has none. -/
theorem not_computes_of_processTask {handlers : Handlers} {w : WorkerConfig} {task : TaskPayload}
    {error : String} (h : processTask handlers w task = .error error)
    (htype : task.taskType ∈ w.taskTypes) (result : String) :
    ¬ Computes handlers task.taskType task.taskPayload result := by
  rintro ⟨handle, hh, hr⟩
  unfold processTask at h
  rw [if_neg (not_not_intro htype), hh] at h
  simp only [hr] at h
  cases h

/-- The execution did nothing but hand in the result of `process_task`: its one report says
COMPLETED, and its response says that it has accepted. -/
structure Execution.Faultless (handlers : Handlers) (x : Execution) : Prop where
  reports : ∀ report ∈ (x.outcome handlers).1, report.payload.status = "COMPLETED"
  response : successOf (x.outcome handlers).2 = some true

/-- **The four ways an execution can go.** -/
theorem Execution.outcome_cases (handlers : Handlers) (x : Execution) :
    x.isDraining = true ∨ (∃ error, x.first = .raised error) ∨
      (∃ error, processTask handlers x.process.toWorkerConfig x.call.request.payload
        = .error error) ∨ x.Faultless handlers := by
  cases hd : x.isDraining with
  | true => exact .inl rfl
  | false =>
      cases hf : x.first with
      | raised error => exact .inr (.inl ⟨error, rfl⟩)
      | returned =>
          cases hp : processTask handlers x.process.toWorkerConfig x.call.request.payload with
          | error error => exact .inr (.inr (.inl ⟨error, rfl⟩))
          | ok result =>
              have houtcome : x.outcome handlers
                  = ([resultRequest x.process.toWorkerConfig x.call.request result "COMPLETED" ""
                      x.now],
                    some (taskResponse x.process.toWorkerConfig x.call.request true "accepted" ""
                      x.now)) := by
                unfold outcome executeTask
                rw [hd, hf, if_neg Bool.false_ne_true, hp]
              refine .inr (.inr (.inr ⟨?_, by rw [houtcome]; rfl⟩))
              intro report hr
              rw [houtcome] at hr
              rw [List.mem_singleton.mp hr]
              rfl

/-- The processes behind one address offer the same types, as the replicas of one compose
service do. -/
def UniformFleet (fleet : List WorkerProcess) : Prop :=
  ∀ w ∈ fleet, ∀ w' ∈ fleet, w.host = w'.host → w.port = w'.port → w.taskTypes = w'.taskTypes

namespace Dispatcher

variable {cfg : Config} {d d' : Dispatcher}

/-- A request stays sent. -/
theorem mem_sent_of_step (h : Reachable (step cfg) init d) {e : Event}
    (hs : d.step cfg e = some d') {c : ExecuteCall} (hc : c ∈ d.sent) : c ∈ d'.sent := by
  have hslot : c ∈ (d.slot c.taskId).sent := by simp [slot, hc]
  have hslot' : c ∈ (d'.slot c.taskId).sent := by
    rcases slotStep_sent (slotStep_of_reachable h hs c.taskId) with
      ⟨hsent, _⟩ | ⟨_, _, _, _, _, _, _, _, _, _, hsent⟩
    · rw [hsent]
      exact hslot
    · rw [hsent]
      exact List.mem_append_left _ hslot
  exact List.mem_of_mem_filter hslot'

/-- A task with a request has been dispatched. -/
theorem started_of_sent (h : Reachable (step cfg) init d) {c : ExecuteCall} (hc : c ∈ d.sent) :
    (d.slot c.taskId).started ≠ [] := by
  have hslot : c ∈ (d.slot c.taskId).sent := by simp [slot, hc]
  obtain ⟨hfit, hno⟩ := sentInv_of_reachable h c.taskId
  by_cases hid : Int32Id c.taskId
  · intro hnil
    have hlen := hfit hid
    rw [hnil, List.length_nil, List.length_eq_zero_iff] at hlen
    rw [hlen] at hslot
    cases hslot
  · rw [hno hid] at hslot
    cases hslot

/-- A record comes into the store by a PostTask of a valid request, under the next number. -/
theorem posted_of_new (h : Reachable (step cfg) init d) {e : Event} (hs : d.step cfg e = some d')
    {t : String} {task : Task} (hnone : d.store.get t = none) (hg : d'.store.get t = some task) :
    ∃ request now, e = .postTask request now ∧ Valid request.payload ∧
      t = str ((d.taskIdCounter + 1 : Nat) : Int) ∧ task = Task.posted t request.payload now := by
  by_cases hp : ∃ request now, e = .postTask request now
  · obtain ⟨request, now, rfl⟩ := hp
    have hd : d' = (d.postTask request now).1 := (Option.some.inj hs).symm
    rw [hd] at hg
    by_cases hv : Valid request.payload
    · -- the new record is under the next number, and no other one is new
      rw [postTask_of_valid hv] at hg
      have hput := (Keyed.get_put _ _ _).symm.trans hg
      split at hput
      · rename_i hid
        have hid' : t = str ((d.taskIdCounter + 1 : Nat) : Int) := hid.symm
        refine ⟨request, now, rfl, hv, hid', ?_⟩
        rw [hid']
        exact (Option.some.inj hput).symm
      · have hno := hnone.symm.trans hput
        cases hno
    · -- turned down: the store is the same
      obtain ⟨_, hd⟩ := postTask_of_not_valid hv d now
      rw [hd, hnone] at hg
      cases hg
  · -- any other step leaves an empty slot empty
    have hslot := slotStep_of_reachable h hs t
    rw [slot_eq_empty_of_none h hnone] at hslot
    have hempty := hslot.of_empty fun request now he => hp ⟨request, now, he⟩
    rw [← slot_task, hempty] at hg
    cases hg

end Dispatcher

/-! ## §2. Reports and responses go back to executions. -/

namespace System

variable {cfg : Config} {handlers : Handlers} {s s' : System}

/-- Only an execution puts reports on the wire. -/
theorem results_of_step {e : SystemEvent} (hs : s.step cfg handlers e = some s') :
    s'.results = match e with
      | .execute epoch call worker isDraining first second now =>
          s.results ++ (executeTask handlers worker isDraining call.request first second now).1.map
            fun r => (epoch, r)
      | _ => s.results := by
  by_cases he : e = .restart
  · subst he
    cases hs
    rfl
  · rcases step_cases hs he with ⟨_, _, rfl, _, _, rfl⟩ | ⟨_, _, _, rfl, _, rfl⟩
      | ⟨_, _, _, _, _, _, _, rfl, _, rfl⟩ <;> rfl

/-- A request stays on the wire. -/
theorem mem_calls_of_step (h : Reachable (step cfg handlers) init s) {e : SystemEvent}
    (hs : s.step cfg handlers e = some s') {c : Nat × ExecuteCall} (hc : c ∈ s.calls) :
    c ∈ s'.calls := by
  by_cases he : e = .restart
  · subst he
    cases hs
    exact List.mem_append_left _ hc
  have hsame := epoch_of_step hs he
  unfold calls at hc ⊢
  rw [hsame.1, hsame.2]
  rcases List.mem_append.mp hc with hc | hc
  · exact List.mem_append_left _ hc
  · obtain ⟨call, hcall, rfl⟩ := List.mem_map.mp hc
    refine List.mem_append_right _ (List.mem_map_of_mem ?_)
    rcases dispatcher_cases hs he with ⟨e', _, hd⟩ | hd
    · exact Dispatcher.mem_sent_of_step (dispatcher_reachable h) hd hcall
    · exact hd ▸ hcall

/-- Before the first restart no request is one of an earlier incarnation. -/
theorem surviving_of_reachable (h : Reachable (step cfg handlers) init s) (h0 : s.epoch = 0) :
    s.surviving = [] := by
  refine h.invariant (I := fun s => s.epoch = 0 → s.surviving = []) (fun _ => rfl) ?_ h0
  intro s e s' _ hI hs h0
  by_cases he : e = .restart
  · subst he
    cases hs
    cases h0
  · rcases step_cases hs he with ⟨_, _, _, _, _, rfl⟩ | ⟨_, _, _, _, _, rfl⟩
      | ⟨_, _, _, _, _, _, _, _, _, rfl⟩ <;> exact hI h0

end System

namespace Grid

variable {cfg : Config} {ns : LoopConfig} {handlers : Handlers} {fleet : List WorkerProcess}
  {g g' : Grid}

/-- Every execution works on a request that was sent, at its address, and every report on the
wire comes from an execution. -/
structure Traceable (handlers : Handlers) (fleet : List WorkerProcess) (g : Grid) : Prop where
  executions : ∀ x ∈ g.executions, x.process ∈ fleet ∧ x.AtAddress ∧
    (x.epoch, x.call) ∈ g.system.calls
  results : ∀ r ∈ g.system.results, ∃ x ∈ g.executions, r.2 ∈ (x.outcome handlers).1

/-- A step of the system that is no execution keeps the grid traceable. -/
theorem Traceable.of_system (h : Reachable (step cfg ns handlers fleet) init g)
    (ht : Traceable handlers fleet g) {e : SystemEvent} {s : System}
    (hs : g.system.step cfg handlers e = some s) (hr : s.results = g.system.results)
    (answers : List (String × LookupResponsePayload)) :
    Traceable handlers fleet { g with system := s, answers := answers } := by
  refine ⟨?_, ?_⟩
  · intro x hx
    obtain ⟨hfleet, haddress, hcall⟩ := ht.executions x hx
    exact ⟨hfleet, haddress, System.mem_calls_of_step (system_reachable h) hs hcall⟩
  · intro r hmem
    exact ht.results r (hr ▸ hmem)

/-- **Step lemma.** -/
theorem traceable_step (h : Reachable (step cfg ns handlers fleet) init g)
    (ht : Traceable handlers fleet g) {a : GridEvent}
    (hs : g.step cfg ns handlers fleet a = some g') : Traceable handlers fleet g' := by
  cases gridStep_of_step hs with
  | @system e s he hsys =>
      refine ht.of_system h hsys ?_ _
      rw [System.results_of_step hsys]
      cases e with
      | execute => cases he
      | _ => rfl
  | lookup => exact ⟨ht.executions, ht.results⟩
  | lookupReturns _ hsys => exact ht.of_system h hsys (System.results_of_step hsys) _
  | @execute x s hx haddress hsys =>
      have hcalls : ∀ c ∈ g.system.calls, c ∈ s.calls :=
        fun c hc => System.mem_calls_of_step (system_reachable h) hsys hc
      refine ⟨?_, ?_⟩
      · intro y hy
        rcases List.mem_append.mp hy with hy | hy
        · obtain ⟨hfleet, haddress, hcall⟩ := ht.executions y hy
          exact ⟨hfleet, haddress, hcalls _ hcall⟩
        · rw [List.mem_singleton.mp hy]
          refine ⟨hx, haddress, hcalls _ ?_⟩
          simp only [System.step] at hsys
          split at hsys
          · assumption
          · cases hsys
      · intro r hr
        have hr' : r ∈ s.results := hr
        rw [System.results_of_step hsys, List.mem_append] at hr'
        rcases hr' with hr' | hr'
        · obtain ⟨y, hy, hreport⟩ := ht.results r hr'
          exact ⟨y, List.mem_append_left _ hy, hreport⟩
        · obtain ⟨report, hreport, rfl⟩ := List.mem_map.mp hr'
          exact ⟨x, List.mem_append_right _ (List.mem_singleton_self x), hreport⟩
  | reply _ hsys => exact ht.of_system h hsys (System.results_of_step hsys) _
  | register => exact ⟨ht.executions, ht.results⟩
  | service => exact ⟨ht.executions, ht.results⟩
  | restartService => exact ⟨ht.executions, ht.results⟩

theorem traceable_of_reachable (h : Reachable (step cfg ns handlers fleet) init g) :
    Traceable handlers fleet g := by
  refine h.invariant ⟨fun _ hx => (nomatch hx), fun _ hr => nomatch hr⟩ ?_
  intro g a g' hreach ht hs
  exact traceable_step hreach ht hs

/-- Before the first restart an execution works on a request of the running dispatcher. -/
theorem sent_of_execution (h : Reachable (step cfg ns handlers fleet) init g)
    (h0 : g.system.epoch = 0) {x : Execution} (hx : x ∈ g.executions) :
    x.call ∈ g.system.dispatcher.sent := by
  obtain ⟨_, _, hcall⟩ := (traceable_of_reachable h).executions x hx
  unfold System.calls at hcall
  rw [System.surviving_of_reachable (system_reachable h) h0, List.nil_append] at hcall
  obtain ⟨c, hc, heq⟩ := List.mem_map.mp hcall
  injection heq with _ heq
  exact heq ▸ hc

/-! ## §3. What moves the dispatcher. -/

/-- The step of the dispatcher uses nothing that has not come from a worker or from the naming
service. -/
def Explained (handlers : Handlers) (g : Grid) : Event → Prop
  | .returnResult request _ => ∃ x ∈ g.executions, request ∈ (x.outcome handlers).1
  | .reply t _ _ (some success) _ =>
      ∃ x ∈ g.executions, x.call.taskId = t ∧ successOf (x.outcome handlers).2 = some success
  | .lookupReturns t workers _ => ∀ w ∈ workers, ∀ task,
      g.system.dispatcher.store.get t = some task →
        Announced g.registered w.workerId w.address w.port task.taskType
  | _ => True

/-- The response of an execution that can be the one to the call. -/
theorem mem_of_replyValue {t : String} {worker : WorkerInfo} {execution : Option Nat}
    {success : Bool} (h : g.replyValue handlers t worker execution = some (some success)) :
    ∃ x ∈ g.executions, x.call.taskId = t ∧ successOf (x.outcome handlers).2 = some success := by
  unfold replyValue at h
  split at h
  · cases h
  · split at h
    · cases h
    · rename_i x hx
      split at h
      case isFalse => cases h
      rename_i hcall
      exact ⟨x, List.mem_of_getElem? hx, hcall.2.1, Option.some.inj h⟩

/-- Every step of the dispatcher in a step of the grid is explained. -/
theorem explained_of_event (h : Reachable (step cfg ns handlers fleet) init g) {a : GridEvent}
    (hs : g.step cfg ns handlers fleet a = some g') {e : Event}
    (he : g.dispatcherEvent handlers a = some e) : Explained handlers g e := by
  cases gridStep_of_step hs with
  | @system e' s hinternal hsys =>
      rcases System.step_cases hsys (by rintro rfl; cases he) with ⟨e', d, rfl, hnr, _, _⟩
        | ⟨epoch, request, now, rfl, hmem, _⟩ | ⟨_, _, _, _, _, _, _, rfl, _, _⟩
      · -- the dispatcher on its own
        cases he
        cases e with
        | returnResult => cases hnr
        | reply => cases hinternal
        | lookupReturns => cases hinternal
        | _ => trivial
      · -- a report on the wire
        cases he
        exact (traceable_of_reachable h).results _ hmem
      · cases hinternal
  | lookup => cases he
  | @lookupReturns taskId answer now s ha _ =>
      cases he
      intro w hw task hg
      refine announced_of_workersOf ?_ hw
      intro response hresponse v hv
      obtain ⟨task', hg', hv'⟩ := (routed_of_reachable h).answers _ (ha response hresponse)
      rw [hg, Option.some.injEq] at hg'
      exact hg' ▸ hv' v hv
  | execute => cases he
  | @reply taskId worker timer execution now success s hr _ =>
      simp only [dispatcherEvent, hr, Option.map_some, Option.some.injEq] at he
      subst he
      cases success with
      | none => trivial
      | some success => exact mem_of_replyValue hr
  | register => cases he
  | service => cases he
  | restartService => cases he

/-- Only a restart of the dispatcher begins an epoch. -/
theorem epoch_of_step {a : GridEvent} (hs : g.step cfg ns handlers fleet a = some g')
    (ha : a ≠ .system .restart) : g'.system.epoch = g.system.epoch := by
  cases gridStep_of_step hs with
  | @system e s _ hsys => exact (System.epoch_of_step hsys (fun hr => ha (congrArg _ hr))).2
  | lookup => rfl
  | lookupReturns _ hsys => exact (System.epoch_of_step hsys nofun).2
  | execute _ _ hsys => exact (System.epoch_of_step hsys nofun).2
  | reply _ hsys => exact (System.epoch_of_step hsys nofun).2
  | register => rfl
  | service => rfl
  | restartService => rfl

/-- Before the first restart every step of the grid is an explained step of the dispatcher, or
none of it. -/
theorem explained_of_step (h : Reachable (step cfg ns handlers fleet) init g) {a : GridEvent}
    (hs : g.step cfg ns handlers fleet a = some g') (h0 : g'.system.epoch = 0) :
    g.system.epoch = 0 ∧ (g'.system.dispatcher = g.system.dispatcher ∨
      ∃ e, Explained handlers g e ∧
        g.system.dispatcher.step cfg e = some g'.system.dispatcher) := by
  have ha : a ≠ .system .restart := by
    rintro rfl
    cases hs
    cases h0
  refine ⟨epoch_of_step hs ha ▸ h0, ?_⟩
  have hd := dispatcher_step hs ha
  cases he : g.dispatcherEvent handlers a with
  | none =>
      rw [he] at hd
      exact .inl hd
  | some e =>
      rw [he] at hd
      exact .inr ⟨e, explained_of_event h hs he, hd⟩

/-- Nothing of the history is lost. -/
theorem history_mono {a : GridEvent} (hs : g.step cfg ns handlers fleet a = some g') :
    (∀ p ∈ g.registered, p ∈ g'.registered) ∧ ∀ x ∈ g.executions, x ∈ g'.executions := by
  cases gridStep_of_step hs with
  | execute => exact ⟨fun _ hp => hp, fun _ hx => List.mem_append_left _ hx⟩
  | register =>
      refine ⟨?_, fun _ hx => hx⟩
      intro p hp
      show p ∈ if _ then _ else _
      split
      · exact List.mem_append_left _ hp
      · exact hp
  | _ => exact ⟨fun _ hp => hp, fun _ hx => hx⟩

end Grid

/-! ## §4. Tasks nobody can do. -/

/-- As long as the task has not been dispatched, this is its record. -/
def Pristine (record : Task) (s : Slot) : Prop := s.started = [] → s.task = some record

/-- A dispatched task is of a type somebody has announced. -/
def Offered (registered : List RegisterWorkerPayload) (s : Slot) : Prop :=
  s.started ≠ [] → ∃ task, s.task = some task ∧ ∃ p ∈ registered, task.taskType ∈ p.effectiveTypes

theorem Slot.Timed.started_ne_nil {s : Slot} {timer : Timer} (h : s.Timed timer) :
    s.started ≠ [] := by
  intro hnil
  have hlatest := h.latest
  rw [hnil] at hlatest
  cases hlatest

theorem TaskInv.started_ne_nil {t : String} {s : Slot} {task : Task} (h : TaskInv t s task)
    (hf : task.status.isInFlight = true) : s.started ≠ [] := by
  obtain ⟨_, timer, htimed⟩ := h.inFlight hf
  exact htimed.started_ne_nil

/-- **Step lemma.**  A record is first written to by its dispatch, if only dispatched tasks get
reports and responses. -/
theorem pristine_step {cfg : Config} {t : String} {e : Event} {s s' : Slot} {record : Task}
    (h : SlotStep cfg t e s s') (hi : SlotInv t s) (hp : Pristine record s)
    (hreport : ∀ request now, e = .returnResult request now →
      str request.payload.taskId.val = t → s.started ≠ [])
    (hresponse : ∀ worker timer success now, e = .reply t worker timer (some success) now →
      s.started ≠ []) : Pristine record s' := by
  have hlate : ∀ timer, timer ∈ s.live → s.started ≠ [] := by
    intro timer hl
    obtain ⟨_, _, _, htimed⟩ := hi.inFlight_of_live hl
    exact htimed.started_ne_nil
  have hcancel : s.started ≠ [] → s.cancel.started ≠ [] := by
    rw [Slot.cancel_started]
    exact id
  cases h with
  | idle => exact hp
  | post => exact nomatch hp rfl
  | drop => exact hp
  | dispatch => exact fun hnil => absurd hnil (by simp)
  | accept htask hd =>
      have hne := (hi.taskInv htask).started_ne_nil (by rw [hd]; rfl)
      exact fun hnil => absurd hnil hne
  | reject => exact fun hnil => absurd hnil (hcancel (hresponse _ _ _ _ rfl))
  | cancel =>
      intro hnil
      rw [Slot.cancel_started] at hnil
      rw [Slot.cancel_task]
      exact hp hnil
  | report hid => exact fun hnil => absurd hnil (hcancel (hreport _ _ rfl hid))
  | retry _ hlive => exact fun hnil => absurd hnil (hlate _ hlive)
  | exhaust _ hlive => exact fun hnil => absurd hnil (hlate _ hlive)
  | lateTimeout _ hlive => exact fun hnil => absurd hnil (hlate _ hlive)

/-- **Step lemma.**  A task stays offered, if lookups find workers for its type only. -/
theorem offered_step {cfg : Config} {t : String} {e : Event} {s s' : Slot}
    {registered : List RegisterWorkerPayload} (h : SlotStep cfg t e s s')
    (ho : Offered registered s)
    (hlookup : ∀ workers now, e = .lookupReturns t workers now → ∀ w ∈ workers, ∀ task,
      s.task = some task → ∃ p ∈ registered, task.taskType ∈ p.effectiveTypes) :
    Offered registered s' := by
  intro hne
  rcases slotStep_sent h with ⟨_, hstarted⟩ | ⟨workers, now, task, worker, _, he, hmem, htask, _⟩
  · rw [hstarted] at hne
    obtain ⟨task, htask, hp⟩ := ho hne
    obtain ⟨task', htask', hw⟩ := slotStep_sameWork h htask
    exact ⟨task', htask', hw.taskType ▸ hp⟩
  · obtain ⟨task', htask', hw⟩ := slotStep_sameWork h htask
    exact ⟨task', htask', hw.taskType ▸ hlookup workers now he worker hmem task htask⟩

namespace Grid

variable {cfg : Config} {ns : LoopConfig} {handlers : Handlers} {fleet : List WorkerProcess}
  {g g' : Grid} {t : String} {task : Task}

/-- The reports of an execution are about its task. -/
theorem started_of_execution (h : Reachable (step cfg ns handlers fleet) init g)
    (h0 : g.system.epoch = 0) {x : Execution} (hx : x ∈ g.executions) :
    (g.system.dispatcher.slot x.call.taskId).started ≠ [] :=
  Dispatcher.started_of_sent (dispatcher_reachable h) (sent_of_execution h h0 hx)

theorem taskId_of_report {x : Execution} {report : Envelope ResultPayload}
    (h : report ∈ (x.outcome handlers).1) : str report.payload.taskId.val = x.call.taskId := by
  unfold ExecuteCall.taskId
  rw [(report_of_executeTask h).1]

/-- Before the first restart, only dispatched tasks get reports and responses. -/
theorem started_of_explained (h : Reachable (step cfg ns handlers fleet) init g)
    (h0 : g.system.epoch = 0) {e : Event} (hex : Explained handlers g e) :
    (∀ request now, e = .returnResult request now → str request.payload.taskId.val = t →
        (g.system.dispatcher.slot t).started ≠ []) ∧
      ∀ worker timer success now, e = .reply t worker timer (some success) now →
        (g.system.dispatcher.slot t).started ≠ [] := by
  constructor
  · rintro request now rfl hid
    obtain ⟨x, hx, hreport⟩ := hex
    rw [← hid, taskId_of_report hreport]
    exact started_of_execution h h0 hx
  · rintro worker timer success now rfl
    obtain ⟨x, hx, hid, _⟩ := hex
    exact hid ▸ started_of_execution h h0 hx

/-- **Run lemma.**  Before the first restart a record stays what it is until its dispatch. -/
theorem pristine_run {record : Task} {es : List GridEvent}
    (h : Reachable (step cfg ns handlers fleet) init g)
    (hp : Pristine record (g.system.dispatcher.slot t))
    (hr : run (step cfg ns handlers fleet) g es = some g') (h0 : g'.system.epoch = 0) :
    Pristine record (g'.system.dispatcher.slot t) := by
  refine run_preserves (I := fun g => g.system.epoch = 0 →
    Pristine record (g.system.dispatcher.slot t)) ?_ es h (fun _ => hp) hr h0
  intro g a g' hreach hI hs h0'
  obtain ⟨h0, hsame | ⟨e, hex, hd⟩⟩ := explained_of_step hreach hs h0'
  · rw [hsame]
    exact hI h0
  · obtain ⟨hreport, hresponse⟩ := started_of_explained hreach h0 hex
    have hdispatcher := dispatcher_reachable hreach
    exact pristine_step (Dispatcher.slotStep_of_reachable hdispatcher hd t)
      (Dispatcher.slotInv_of_reachable hdispatcher t) (hI h0) hreport hresponse

/-- Every task is offered, before the first restart. -/
theorem offered_of_reachable (h : Reachable (step cfg ns handlers fleet) init g)
    (h0 : g.system.epoch = 0) (t : String) :
    Offered g.registered (g.system.dispatcher.slot t) := by
  refine h.invariant (I := fun g => g.system.epoch = 0 →
    Offered g.registered (g.system.dispatcher.slot t)) ?_ ?_ h0
  · exact fun _ hne => absurd rfl hne
  intro g a g' hreach hI hs h0'
  obtain ⟨h0, hcases⟩ := explained_of_step hreach hs h0'
  have ho : Offered g'.registered (g.system.dispatcher.slot t) := by
    intro hne
    obtain ⟨task, htask, p, hmem, htype⟩ := hI h0 hne
    exact ⟨task, htask, p, (history_mono hs).1 p hmem, htype⟩
  rcases hcases with hsame | ⟨e, hex, hd⟩
  · rw [hsame]
    exact ho
  · refine offered_step (Dispatcher.slotStep_of_reachable (dispatcher_reachable hreach) hd t) ho ?_
    rintro workers now rfl w hw task htask
    obtain ⟨p, hmem, ha⟩ := hex w hw task htask
    exact ⟨p, (history_mono hs).1 p hmem, ha.taskType⟩

/-- A PostTask of the dispatcher is a step of the grid on its own. -/
theorem eq_of_dispatcherEvent_postTask {a : GridEvent} {request : Envelope PostTaskPayload}
    {now : Int} (he : g.dispatcherEvent handlers a = some (.postTask request now)) :
    a = .system (.dispatcher (.postTask request now)) := by
  cases a with
  | system e =>
      cases e with
      | dispatcher e => exact congrArg _ (congrArg _ (Option.some.inj he))
      | _ => cases he
  | reply =>
      obtain ⟨_, _, heq⟩ := Option.map_eq_some_iff.mp he
      cases heq
  | _ => cases he

/-- The run has a step in which PostTask stores the record. -/
theorem posted_of_stored {es : List GridEvent}
    (hr : run (step cfg ns handlers fleet) init es = some g) (h0 : g.system.epoch = 0)
    (hg : g.system.dispatcher.store.get t = some task) :
    ∃ pre request now post before after,
      es = pre ++ .system (.dispatcher (.postTask request now)) :: post ∧
      run (step cfg ns handlers fleet) init pre = some before ∧
      run (step cfg ns handlers fleet) after post = some g ∧
      Reachable (step cfg ns handlers fleet) init after ∧ Dispatcher.Valid request.payload ∧
      t = str ((before.system.dispatcher.taskIdCounter + 1 : Nat) : Int) ∧
      after.system.dispatcher.store.get t = some (Task.posted t request.payload now) := by
  obtain ⟨pre, a, post, before, after, hes, hpre, hnone, hs, hsome, hpost⟩ :=
    exists_first_step (Q := fun g => g.system.dispatcher.store.get t ≠ none) hr
      (fun hne => hne rfl) (by rw [hg]; exact nofun)
  have hbefore : Reachable (step cfg ns handlers fleet) init before := ⟨pre, hpre⟩
  -- an epoch that is over does not come back
  have h0' : after.system.epoch = 0 := by
    by_contra hne
    refine run_preserves (I := fun g => g.system.epoch ≠ 0) ?_ post (hbefore.tail hs) hne hpost h0
    exact fun m a m' hm hI hs hzero => hI (explained_of_step hm hs hzero).1
  have ha : a ≠ .system .restart := by
    rintro rfl
    cases hs
    cases h0'
  have hnone' : before.system.dispatcher.store.get t = none := not_not.mp hnone
  obtain ⟨record, hrecord⟩ := Option.ne_none_iff_exists'.mp hsome
  have hd := dispatcher_step hs ha
  cases he : before.dispatcherEvent handlers a with
  | none =>
      rw [he] at hd
      exact absurd (hd ▸ hnone') hsome
  | some e =>
      rw [he] at hd
      obtain ⟨request, now, rfl, hv, hid, rfl⟩ :=
        Dispatcher.posted_of_new (dispatcher_reachable hbefore) hd hnone' hrecord
      exact ⟨pre, request, now, post, before, after, eq_of_dispatcherEvent_postTask he ▸ hes, hpre,
        hpost, hbefore.tail hs, hv, hid, hrecord⟩

/-- **A task nobody can do is never touched.**  Before the first restart of the dispatcher, and
whatever else happens: as long as no worker has announced the type of a stored task, its record
is the one the PostTask that was given its id has stored, QUEUED with no retries and no result,
it has never been dispatched, and no request was sent for it. -/
theorem untouched_of_unannounced {es : List GridEvent}
    (hr : run (step cfg ns handlers fleet) init es = some g) (h0 : g.system.epoch = 0)
    (hg : g.system.dispatcher.store.get t = some task)
    (hno : ∀ p ∈ g.registered, task.taskType ∉ p.effectiveTypes) :
    (∃ pre request now post before,
        es = pre ++ .system (.dispatcher (.postTask request now)) :: post ∧
        run (step cfg ns handlers fleet) init pre = some before ∧
        Dispatcher.Valid request.payload ∧
        t = str ((before.system.dispatcher.taskIdCounter + 1 : Nat) : Int) ∧
        task = Task.posted t request.payload now) ∧
      (g.system.dispatcher.slot t).started = [] ∧ g.system.dispatcher.sentFor t = [] := by
  have h : Reachable (step cfg ns handlers fleet) init g := ⟨es, hr⟩
  have hnil : (g.system.dispatcher.slot t).started = [] := by
    by_contra hne
    obtain ⟨task', htask', p, hmem, htype⟩ := offered_of_reachable h h0 t hne
    rw [Dispatcher.slot_task, hg, Option.some.injEq] at htask'
    exact hno p hmem (htask' ▸ htype)
  refine ⟨?_, hnil, ?_⟩
  · obtain ⟨pre, request, now, post, before, after, hes, hpre, hpost, hafter, hv, hid, hrecord⟩ :=
      posted_of_stored hr h0 hg
    have hkept := pristine_run (t := t) hafter (fun _ => hrecord) hpost h0 hnil
    rw [Dispatcher.slot_task, hg, Option.some.injEq] at hkept
    exact ⟨pre, request, now, post, before, hes, hpre, hv, hid, hkept⟩
  · rw [List.eq_nil_iff_forall_not_mem]
    intro c hc
    obtain ⟨hsent, hid⟩ := List.mem_filter.mp hc
    have hstarted := Dispatcher.started_of_sent (dispatcher_reachable h) hsent
    rw [of_decide_eq_true hid] at hstarted
    exact hstarted hnil

/-- A task of another type than the one registered worker offers, after its first lookup. -/
def gridUnserved : List GridEvent :=
  [.register Presence.sampleProcess "ACTIVE" "r1" 0 .default 0,
    .system (.dispatcher (.postTask { payload := ⟨"sum", "1,2"⟩ } 0)),
    .system (.dispatcher .dequeue),
    .lookup "1" 1,
    .lookupReturns "1" (some ⟨false, [], "No workers found"⟩) 2]

/-- Its record is the one PostTask has stored. -/
theorem untouched_of_unannounced_gridUnserved :
    ∃ g task, run (step ⟨3⟩ ⟨10, 3⟩ System.sampleHandlers [Presence.sampleProcess]) init
        gridUnserved = some g ∧
      g.system.dispatcher.store.get "1" = some task ∧
      (∃ pre request now post before,
        gridUnserved = pre ++ .system (.dispatcher (.postTask request now)) :: post ∧
        run (step ⟨3⟩ ⟨10, 3⟩ System.sampleHandlers [Presence.sampleProcess]) init pre
          = some before ∧
        Dispatcher.Valid request.payload ∧
        "1" = str ((before.system.dispatcher.taskIdCounter + 1 : Nat) : Int) ∧
        task = Task.posted "1" request.payload now) ∧
      (g.system.dispatcher.slot "1").started = [] ∧ g.system.dispatcher.sentFor "1" = [] := by
  refine ⟨_, _, rfl, rfl, ?_⟩
  exact @untouched_of_unannounced ⟨3⟩ ⟨10, 3⟩ System.sampleHandlers [Presence.sampleProcess] _ "1"
    _ gridUnserved rfl rfl rfl (by decide)

/-! ## §5. Why a task fails. -/

/-- A reason for the task `t` with the record `task` to be FAILED. -/
inductive Excuse (cfg : Config) (handlers : Handlers) (g : Grid) (t : String) (task : Task) :
    Prop where
  /-- The handler of its type has no result for its payload. -/
  | handler (h : ∀ result, ¬ Computes handlers task.taskType task.payload result)
  /-- A worker that got a request for it was draining. -/
  | draining {x : Execution} (hx : x ∈ g.executions) (hid : x.call.taskId = t)
      (h : x.isDraining = true)
  /-- A worker that had executed it got an exception from ReturnResult. -/
  | unreported {x : Execution} {error : String} (hx : x ∈ g.executions) (hid : x.call.taskId = t)
      (h : x.first = .raised error)
  /-- Its retries are used up. -/
  | exhausted (h : task.retryCount ≥ cfg.maxRetries)

theorem Excuse.mono (h : Excuse cfg handlers g t task)
    (hsub : ∀ x ∈ g.executions, x ∈ g'.executions) : Excuse cfg handlers g' t task := by
  cases h with
  | handler h => exact .handler h
  | draining hx hid h => exact .draining (hsub _ hx) hid h
  | unreported hx hid h => exact .unreported (hsub _ hx) hid h
  | exhausted h => exact .exhausted h

/-- The process that executes a request offers the type of the task. -/
theorem offers_of_execution (h : Reachable (step cfg ns handlers fleet) init g)
    (hu : UniformFleet fleet) {x : Execution} (hx : x ∈ g.executions) :
    x.call.request.payload.taskType ∈ x.process.taskTypes := by
  obtain ⟨hfleet, haddress, hcall⟩ := (traceable_of_reachable h).executions x hx
  obtain ⟨p, hp, ha⟩ := (routed_of_reachable h).calls _ hcall
  obtain ⟨w, hw, _, htypes, hhost, hport⟩ := (routed_of_reachable h).registered p hp
  have hsame : x.process.taskTypes = w.taskTypes := by
    refine hu _ hfleet _ hw ?_ ?_
    · rw [haddress.1, ← hhost, ha.address]
    · exact Int32Field.val_injective (by rw [haddress.2, ← hport, ha.port])
  have htype := ha.taskType
  rw [effectiveTypes_of_ne_nil (by rw [htypes]; exact w.taskTypes_ne_nil), htypes] at htype
  exact hsame ▸ htype

/-- An execution with a fault is an excuse for its task. -/
theorem excuse_of_execution (h : Reachable (step cfg ns handlers fleet) init g)
    (hu : UniformFleet fleet) {x : Execution} (hx : x ∈ g.executions)
    (hfault : ¬ x.Faultless handlers) (hasks : x.call.AsksFor task) :
    Excuse cfg handlers g x.call.taskId task := by
  rcases x.outcome_cases handlers with hd | ⟨error, hf⟩ | ⟨error, hp⟩ | hfaultless
  · exact .draining hx rfl hd
  · exact .unreported hx rfl hf
  · refine .handler fun result => ?_
    rw [← hasks.1, ← hasks.2]
    exact not_computes_of_processTask hp (offers_of_execution h hu hx) result
  · exact absurd hfaultless hfault

/-- A step that makes the record FAILED has an excuse. -/
theorem excuse_of_madeTerminal (h : Reachable (step cfg ns handlers fleet) init g)
    (h0 : g.system.epoch = 0) (hu : UniformFleet fleet) {e : Event} {d : Dispatcher}
    (hex : Explained handlers g e) (hd : g.system.dispatcher.step cfg e = some d)
    (hg : d.store.get t = some task) (hf : task.status = .failed)
    (hmade : MadeTerminalBy cfg t e task) : Excuse cfg handlers g t task := by
  -- a request asks for the work of the record it was sent for, before and after the step
  have hasks : ∀ x ∈ g.executions, x.call.taskId = t → x.call.AsksFor task := by
    rintro x hx rfl
    have hdispatcher := dispatcher_reachable h
    obtain ⟨old, hold, hasks⟩ := Dispatcher.asksFor_of_sent hdispatcher
      (sent_of_execution h h0 hx)
    obtain ⟨task', hg', hw⟩ := Dispatcher.sameWork_of_step hdispatcher hd hold
    rw [hg, Option.some.injEq] at hg'
    exact hg' ▸ hasks.sameWork hw
  cases hmade with
  | completed _ _ hs => rw [hs] at hf; cases hf
  | failed hid hreport =>
      obtain ⟨x, hx, hmem⟩ := hex
      have hxt : x.call.taskId = t := by rw [← taskId_of_report hmem, hid]
      exact hxt ▸ excuse_of_execution h hu hx (fun hok => hreport (hok.reports _ hmem))
        (hasks x hx hxt)
  | rejected =>
      obtain ⟨x, hx, hxt, hsuccess⟩ := hex
      refine hxt ▸ excuse_of_execution h hu hx ?_ (hasks x hx hxt)
      intro hok
      rw [hok.response] at hsuccess
      cases hsuccess
  | exhausted _ hcount => exact .exhausted hcount

/-- The task has an excuse whenever it is FAILED. -/
def FailureExcused (cfg : Config) (handlers : Handlers) (t : String) (g : Grid) : Prop :=
  ∀ task, g.system.dispatcher.store.get t = some task → task.status = .failed →
    Excuse cfg handlers g t task

/-- **Step lemma.** -/
theorem failureExcused_step (h : Reachable (step cfg ns handlers fleet) init g)
    (hu : UniformFleet fleet) {a : GridEvent} (hs : g.step cfg ns handlers fleet a = some g')
    (h0' : g'.system.epoch = 0) (hI : FailureExcused cfg handlers t g) :
    FailureExcused cfg handlers t g' := by
  intro task hg hf
  obtain ⟨h0, hcases⟩ := explained_of_step h hs h0'
  refine Excuse.mono ?_ (history_mono hs).2
  rcases hcases with hsame | ⟨e, hex, hd⟩
  · exact hI task (hsame ▸ hg) hf
  have hstep := Dispatcher.slotStep_of_reachable (dispatcher_reachable h) hd t
  by_cases hterm : ∃ old, g.system.dispatcher.store.get t = some old ∧
      old.status.isTerminal = true
  · -- it was FAILED before
    obtain ⟨old, hold, ht⟩ := hterm
    have hkeep := (slotStep_terminal hstep hold ht).1
    rw [Dispatcher.slot_task, hg, Option.some.injEq] at hkeep
    rw [hkeep]
    exact hI old hold (hkeep ▸ hf)
  · have hn : ∀ old, (g.system.dispatcher.slot t).task = some old →
        old.status.isTerminal = false := by
      intro old hold
      by_contra hne
      exact hterm ⟨old, hold, by simpa using hne⟩
    have hmade := slotStep_becomesTerminal hstep
      (Dispatcher.slotInv_of_reachable (dispatcher_reachable h) t) hn hg (by rw [hf]; rfl)
    exact excuse_of_madeTerminal h h0 hu hex hd hg hf hmade

theorem failureExcused_of_reachable (h : Reachable (step cfg ns handlers fleet) init g)
    (h0 : g.system.epoch = 0) (hu : UniformFleet fleet) : FailureExcused cfg handlers t g := by
  refine h.invariant (I := fun g => g.system.epoch = 0 → FailureExcused cfg handlers t g)
    (fun _ _ hg => nomatch hg) ?_ h0
  intro g a g' hreach hI hs h0'
  exact failureExcused_step hreach hu hs h0' (hI (explained_of_step hreach hs h0').1)

/-- **No task fails without a reason.**  Before the first restart of the dispatcher, with
processes behind one address that offer the same types: a task is FAILED only if its handler has
no result for its payload, or a worker was draining when it got the request, or a worker could
not hand in what it had, or the timeouts have used up the retries.  No reordering, delay or loss
of messages, no restart of the naming service and no other task makes it fail. -/
theorem failed_has_excuse (h : Reachable (step cfg ns handlers fleet) init g)
    (h0 : g.system.epoch = 0) (hu : UniformFleet fleet)
    (hg : g.system.dispatcher.store.get t = some task) (hf : task.status = .failed) :
    Excuse cfg handlers g t task :=
  failureExcused_of_reachable h h0 hu task hg hf

/-- The worker is told to shut down just before it gets the request of `gridDispatch`. -/
def drainingExecution : Execution where
  epoch := 0
  call := {
    worker := Dispatcher.sampleWorker
    request := {
      messageType := "EXECUTE_TASK"
      requestId := "1"
      timestamp := 2
      sender := "dispatcher"
      payload := ⟨Dispatcher.sampleTaskId, "reverse", "abc", "DISPATCHED"⟩ } }
  process := Presence.sampleProcess
  isDraining := true
  first := .returned
  second := .returned
  now := 2

/-- It turns the request down, and its answer arrives. -/
def gridRejection : List GridEvent :=
  gridDispatch ++ [.execute drainingExecution,
    .reply "1" Dispatcher.sampleWorker ⟨0, "1"⟩ (some 0) 3]

/-- The task of this run is FAILED for a reason. -/
theorem failed_has_excuse_gridRejection :
    ∃ g task, run (step ⟨3⟩ ⟨10, 3⟩ System.sampleHandlers [Presence.sampleProcess]) init
        gridRejection = some g ∧
      g.system.dispatcher.store.get "1" = some task ∧
      Excuse ⟨3⟩ System.sampleHandlers g "1" task := by
  refine ⟨_, _, rfl, rfl, ?_⟩
  have huniform : UniformFleet [Presence.sampleProcess] := by
    intro w hw w' hw' _ _
    rw [List.mem_singleton.mp hw, List.mem_singleton.mp hw']
  exact @failed_has_excuse ⟨3⟩ ⟨10, 3⟩ System.sampleHandlers [Presence.sampleProcess] _ "1" _
    ⟨gridRejection, rfl⟩ rfl huniform rfl rfl

end Grid

end TaskGrid
