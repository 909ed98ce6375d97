/-
  TaskGrid.System.Routing — requests go to workers that offer their type.

  A request is sent to what a lookup has answered, a lookup answers what the
  registry holds, and the registry holds what workers have announced.
  `Routed` follows this chain; a lookup that is answered late keeps its place
  in it, because the type of a task never changes.

  Main result: `sent_to_registered`.  Every ExecuteTask request goes to the
  worker id, host and port of a process of the fleet that has registered and
  whose TASK_TYPES contain the type of the task.
-/
import TaskGrid.System.Grid
import TaskGrid.System.EndToEnd

namespace TaskGrid

open TaskGrid.Lib

/-! ## §1. What the registry and the answers go back to. -/

/-- The registration announces this worker at this address for this task type. -/
structure RegisterWorkerPayload.Announces (p : RegisterWorkerPayload) (workerId address : String)
    (port : Int) (taskType : String) : Prop where
  workerId : p.workerId = workerId
  address : p.address = address
  port : p.port.val = port
  taskType : taskType ∈ p.effectiveTypes

/-- Some accepted registration announces it. -/
def Announced (registered : List RegisterWorkerPayload) (workerId address : String) (port : Int)
    (taskType : String) : Prop :=
  ∃ p ∈ registered, p.Announces workerId address port taskType

theorem Announced.mono {registered registered' : List RegisterWorkerPayload}
    {workerId address taskType : String} {port : Int}
    (h : Announced registered workerId address port taskType)
    (hsub : ∀ p ∈ registered, p ∈ registered') :
    Announced registered' workerId address port taskType := by
  obtain ⟨p, hp, ha⟩ := h
  exact ⟨p, hsub p hp, ha⟩

/-- The entry goes back to an accepted registration. -/
def Worker.AnnouncedIn (registered : List RegisterWorkerPayload) (w : Worker) : Prop :=
  Announced registered w.workerId w.address w.port.val w.type

/-- A new entry goes back to its own registration. -/
theorem announcedIn_of_newEntries {p : RegisterWorkerPayload} {now : ℚ} {n : Nat} {w : Worker}
    {registered : List RegisterWorkerPayload} (hp : p ∈ registered)
    (hw : w ∈ p.newEntries now n p.effectiveTypes) : w.AnnouncedIn registered := by
  obtain ⟨t, ht, m, rfl⟩ := mem_newEntries hw
  exact ⟨p, hp, rfl, rfl, rfl, ht⟩

namespace Namensdienst

/-- A heartbeat changes no entry's worker, address or type. -/
theorem announcedIn_refreshFirst {p : HeartbeatPayload} {now : ℚ}
    {registered : List RegisterWorkerPayload} {workers : List Worker}
    (h : ∀ w ∈ workers, w.AnnouncedIn registered) :
    ∀ w ∈ refreshFirst p now workers, w.AnnouncedIn registered := by
  induction workers with
  | nil =>
      intro w hw
      cases hw
  | cons v workers ih =>
      have hv := h v List.mem_cons_self
      have hrest := fun w hw => h w (List.mem_cons_of_mem v hw)
      intro w hw
      unfold refreshFirst at hw
      split at hw
      · rcases List.mem_cons.mp hw with rfl | hw
        · exact hv
        · exact hrest w hw
      · rcases List.mem_cons.mp hw with rfl | hw
        · exact hv
        · exact ih hrest w hw

/-- No step but a registration brings an entry that goes back to no registration. -/
theorem announcedIn_step {ns : LoopConfig} {s s' : Namensdienst} {e : NsEvent}
    {registered : List RegisterWorkerPayload} (he : e.isRegistration = false)
    (hs : s.step ns e = some s') (h : ∀ w ∈ s.workers, w.AnnouncedIn registered) :
    ∀ w ∈ s'.workers, w.AnnouncedIn registered := by
  cases e with
  | registerWorker => cases he
  | deregisterWorker request =>
      cases hs
      exact fun w hw => h w (List.mem_of_mem_filter hw)
  | sendHeartbeat request now =>
      cases hs
      intro w hw
      unfold sendHeartbeat at hw
      simp only [] at hw
      split at hw
      · exact h w hw
      · split at hw
        · exact announcedIn_refreshFirst h w hw
        · exact h w hw
  | monitorPass now =>
      cases hs
      intro w hw
      obtain ⟨v, hv, hvw⟩ := List.mem_filterMap.mp hw
      rw [monitorEntry_eq_some hvw]
      exact h v hv

/-- A registration is turned down and changes nothing, or is accepted, and the new entries go
back to it. -/
theorem registerWorker_cases {registered : List RegisterWorkerPayload} (s : Namensdienst)
    (request : Envelope RegisterWorkerPayload) (now : ℚ)
    (h : ∀ w ∈ s.workers, w.AnnouncedIn registered) :
    ((s.registerWorker request now).1 = s ∧
        (s.registerWorker request now).2.message.payload.success = false) ∨
      (s.registerWorker request now).2.message.payload.success = true ∧
        ∀ w ∈ (s.registerWorker request now).1.workers,
          w.AnnouncedIn (registered ++ [request.payload]) := by
  by_cases hid : request.payload.workerId = ""
  · have hturned : s.registerWorker request now = (s, workerIdMissing) := if_pos hid
    rw [hturned]
    exact .inl ⟨rfl, rfl⟩
  · unfold registerWorker
    simp only [hid, if_false]
    refine .inr ⟨rfl, ?_⟩
    intro w hw
    rcases List.mem_append.mp hw with hw | hw
    · exact (h w (List.mem_of_mem_filter hw)).mono fun p hp => List.mem_append_left _ hp
    · exact announcedIn_of_newEntries (List.mem_append_right _ (List.mem_singleton_self _)) hw

end Namensdienst

/-! ## §2. Where the requests of the system come from. -/

namespace System

variable {cfg : Config} {handlers : Handlers} {s s' : System}

/-- What a step that is no restart does to the dispatcher. -/
theorem dispatcher_cases {e : SystemEvent} (hs : s.step cfg handlers e = some s')
    (he : e ≠ .restart) :
    (∃ e', (e = .dispatcher e' ∨ ∃ request now, e' = .returnResult request now) ∧
      s.dispatcher.step cfg e' = some s'.dispatcher) ∨ s'.dispatcher = s.dispatcher := by
  rcases step_cases hs he with ⟨e', d, he', _, hd, rfl⟩ | ⟨_, request, now, _, _, rfl⟩
    | ⟨_, _, _, _, _, _, _, _, _, rfl⟩
  · exact .inl ⟨e', .inl he', hd⟩
  · exact .inl ⟨.returnResult request now, .inr ⟨request, now, rfl⟩, rfl⟩
  · exact .inr rfl

/-- A step that is no restart keeps every record with its work. -/
theorem sameWork_of_step (h : Reachable (step cfg handlers) init s) {e : SystemEvent}
    (hs : s.step cfg handlers e = some s') (he : e ≠ .restart) {t : String} {task : Task}
    (hg : s.dispatcher.store.get t = some task) :
    ∃ task', s'.dispatcher.store.get t = some task' ∧ task.SameWork task' := by
  rcases dispatcher_cases hs he with ⟨e', _, hd⟩ | hsame
  · exact Dispatcher.sameWork_of_step (dispatcher_reachable h) hd hg
  · exact ⟨task, hsame ▸ hg, .refl task⟩

/-- Only a restart begins an epoch. -/
theorem epoch_of_step {e : SystemEvent} (hs : s.step cfg handlers e = some s')
    (he : e ≠ .restart) : s'.surviving = s.surviving ∧ s'.epoch = s.epoch := by
  rcases step_cases hs he with ⟨_, _, _, _, _, rfl⟩ | ⟨_, _, _, _, _, rfl⟩
    | ⟨_, _, _, _, _, _, _, _, _, rfl⟩ <;> exact ⟨rfl, rfl⟩

/-- Where a request comes from. -/
theorem calls_cases (h : Reachable (step cfg handlers) init s) {e : SystemEvent}
    (hs : s.step cfg handlers e = some s') {c : Nat × ExecuteCall} (hc : c ∈ s'.calls) :
    c ∈ s.calls ∨ ∃ workers now task, e = .dispatcher (.lookupReturns c.2.taskId workers now) ∧
      c.2.worker ∈ workers ∧ s.dispatcher.store.get c.2.taskId = some task ∧
      c.2.AsksFor task := by
  by_cases he : e = .restart
  · -- a restart only moves them to the surviving ones
    subst he
    cases hs
    left
    simpa [calls, Dispatcher.init] using hc
  have hsurviving := epoch_of_step hs he
  unfold calls at hc ⊢
  rw [hsurviving.1, hsurviving.2, List.mem_append] at hc
  rcases hc with hc | hc
  · exact .inl (List.mem_append_left _ hc)
  obtain ⟨call, hcall, rfl⟩ := List.mem_map.mp hc
  have hold : call ∈ s.dispatcher.sent →
      (s.epoch, call) ∈ s.surviving ++ s.dispatcher.sent.map fun c => (s.epoch, c) :=
    fun hm => List.mem_append_right _ (List.mem_map_of_mem hm)
  rcases dispatcher_cases hs he with ⟨e', he', hd⟩ | hsame
  · rcases Dispatcher.sent_cases (dispatcher_reachable h) hd hcall with
      hsent | ⟨workers, now, task, heq, hrest⟩
    · exact .inl (hold hsent)
    · rcases he' with rfl | ⟨_, _, rfl⟩
      · exact .inr ⟨workers, now, task, by rw [heq], hrest⟩
      · cases heq
  · exact .inl (hold (hsame ▸ hcall))

end System

namespace Grid

variable {cfg : Config} {ns : LoopConfig} {handlers : Handlers} {fleet : List WorkerProcess}
  {g g' : Grid}

/-! ## §3. Routing. -/

/-- The payload is one a process of the fleet announces itself with. -/
def OfFleet (fleet : List WorkerProcess) (p : RegisterWorkerPayload) : Prop :=
  ∃ w ∈ fleet, p.workerId = w.workerId ∧ p.taskTypes = w.taskTypes ∧ p.address = w.host ∧
    p.port = w.port

/-- Registry, pending answers and requests go back to accepted registrations of the fleet. -/
structure Routed (fleet : List WorkerProcess) (g : Grid) : Prop where
  registered : ∀ p ∈ g.registered, OfFleet fleet p
  service : ∀ w ∈ g.service.workers, w.AnnouncedIn g.registered
  answers : ∀ a ∈ g.answers, ∃ task, g.system.dispatcher.store.get a.1 = some task ∧
    ∀ v ∈ a.2.workers, Announced g.registered v.workerId v.address v.port.val task.taskType
  calls : ∀ c ∈ g.system.calls, Announced g.registered c.2.worker.workerId c.2.worker.address
    c.2.worker.port c.2.request.payload.taskType

theorem routed_init (fleet : List WorkerProcess) : Routed fleet init :=
  ⟨fun _ h => (nomatch h), fun _ h => (nomatch h), fun _ h => (nomatch h), fun _ h => nomatch h⟩

/-- The workers of a lookup answer go back to registrations for the type asked for. -/
theorem announced_of_lookup {s : Namensdienst} {registered : List RegisterWorkerPayload}
    (h : ∀ w ∈ s.workers, w.AnnouncedIn registered) {request : Envelope LookupPayload}
    {v : WorkerPayload} (hv : v ∈ (s.lookupWorker request).message.payload.workers) :
    Announced registered v.workerId v.address v.port.val request.payload.taskType := by
  obtain ⟨w, hw, rfl⟩ := List.mem_map.mp hv
  obtain ⟨hmem, hcond⟩ := List.mem_filter.mp hw
  have htype : w.type = request.payload.taskType := by
    rw [Bool.and_eq_true, decide_eq_true_eq] at hcond
    exact hcond.1
  rw [← htype]
  exact h w hmem

/-- The worker infos are those of the answer. -/
theorem announced_of_workersOf {registered : List RegisterWorkerPayload} {taskType : String}
    {answer : Option LookupResponsePayload}
    (h : ∀ response ∈ answer, ∀ v ∈ response.workers,
      Announced registered v.workerId v.address v.port.val taskType)
    {w : WorkerInfo} (hw : w ∈ workersOf answer) :
    Announced registered w.workerId w.address w.port taskType := by
  unfold workersOf at hw
  split at hw
  · cases hw
  · rename_i response
    split at hw
    · cases hw
    · obtain ⟨v, hv, rfl⟩ := List.mem_map.mp hw
      exact h response rfl v hv

/-- A step of the system that makes no new request keeps the calls routed. -/
theorem calls_routed (h : Reachable (step cfg ns handlers fleet) init g) (hr : Routed fleet g)
    {e : SystemEvent} {s : System} (hs : g.system.step cfg handlers e = some s)
    (hnew : ∀ t workers now, e = .dispatcher (.lookupReturns t workers now) →
      ∀ task, g.system.dispatcher.store.get t = some task → ∀ w ∈ workers,
        Announced g.registered w.workerId w.address w.port task.taskType) :
    ∀ c ∈ s.calls, Announced g.registered c.2.worker.workerId c.2.worker.address
      c.2.worker.port c.2.request.payload.taskType := by
  intro c hc
  rcases System.calls_cases (system_reachable h) hs hc with
    hold | ⟨workers, now, task, he, hmem, hg, hasks⟩
  · exact hr.calls c hold
  · rw [hasks.1]
    exact hnew _ workers now he task hg _ hmem

/-- The pending answers stay answers about stored tasks. -/
theorem answers_routed (h : Reachable (step cfg ns handlers fleet) init g) (hr : Routed fleet g)
    {e : SystemEvent} {s : System} (hs : g.system.step cfg handlers e = some s)
    (he : e ≠ .restart) :
    ∀ a ∈ g.answers, ∃ task, s.dispatcher.store.get a.1 = some task ∧
      ∀ v ∈ a.2.workers, Announced g.registered v.workerId v.address v.port.val task.taskType := by
  intro a ha
  obtain ⟨task, hg, hv⟩ := hr.answers a ha
  obtain ⟨task', hg', hw⟩ := System.sameWork_of_step (system_reachable h) hs he hg
  exact ⟨task', hg', fun v hmem => hw.taskType ▸ hv v hmem⟩

/-- **Step lemma.** -/
theorem routed_step (h : Reachable (step cfg ns handlers fleet) init g) (hr : Routed fleet g)
    {a : GridEvent} (hs : g.step cfg ns handlers fleet a = some g') : Routed fleet g' := by
  cases gridStep_of_step hs with
  | @system e s he hsys =>
      have hcalls := calls_routed h hr hsys (by
        intro t workers now heq
        rw [heq] at he
        cases he)
      refine ⟨hr.registered, hr.service, ?_, hcalls⟩
      by_cases hrestart : e = .restart
      · rw [hrestart]
        intro a ha
        cases ha
      · have hanswers : g.answersAfter e = g.answers := by
          cases e with
          | restart => exact absurd rfl hrestart
          | _ => rfl
        show ∀ a ∈ g.answersAfter e, _
        rw [hanswers]
        exact answers_routed h hr hsys hrestart
  | @lookup taskId now task hg =>
      refine ⟨hr.registered, hr.service, ?_, hr.calls⟩
      intro a ha
      rcases List.mem_append.mp ha with ha | ha
      · exact hr.answers a ha
      · rw [List.mem_singleton.mp ha]
        exact ⟨task, hg, fun v hv => announced_of_lookup hr.service hv⟩
  | @lookupReturns taskId answer now s ha hsys =>
      have hcalls := calls_routed h hr hsys (by
        intro t workers now' heq task hg w hw
        injection heq with heq
        injection heq with ht hworkers _
        subst ht hworkers
        refine announced_of_workersOf ?_ hw
        intro response hresponse v hv
        obtain ⟨task', hg', hv'⟩ := hr.answers _ (ha response hresponse)
        rw [hg, Option.some.injEq] at hg'
        rw [hg']
        exact hv' v hv)
      refine ⟨hr.registered, hr.service, ?_, hcalls⟩
      intro a hmem
      exact answers_routed h hr hsys (by simp) a (List.mem_of_mem_filter hmem)
  | execute _ _ hsys =>
      exact ⟨hr.registered, hr.service, answers_routed h hr hsys (by simp),
        calls_routed h hr hsys (by simp)⟩
  | reply _ hsys =>
      exact ⟨hr.registered, hr.service, answers_routed h hr hsys (by simp),
        calls_routed h hr hsys (by simp)⟩
  | @register w status requestId timestamp currentLoad now hw =>
      rcases Namensdienst.registerWorker_cases g.service
        (w.statusUpdate status requestId timestamp currentLoad) now hr.service with
        ⟨hsame, hno⟩ | ⟨hyes, hnew⟩
      · rw [hsame, hno]
        exact hr
      · rw [hyes, if_pos rfl]
        have hsub : ∀ p ∈ g.registered,
            p ∈ g.registered ++ [(w.statusUpdate status requestId timestamp currentLoad).payload] :=
          fun p hp => List.mem_append_left _ hp
        refine ⟨?_, hnew, ?_, fun c hc => (hr.calls c hc).mono hsub⟩
        · intro p hp
          rcases List.mem_append.mp hp with hp | hp
          · exact hr.registered p hp
          · rw [List.mem_singleton.mp hp]
            exact ⟨w, hw, rfl, rfl, rfl, rfl⟩
        · intro a ha
          obtain ⟨task, hg, hv⟩ := hr.answers a ha
          exact ⟨task, hg, fun v hmem => (hv v hmem).mono hsub⟩
  | service he hns =>
      exact ⟨hr.registered, Namensdienst.announcedIn_step he hns hr.service, hr.answers, hr.calls⟩
  | restartService =>
      exact ⟨hr.registered, fun _ hw => absurd hw List.not_mem_nil, hr.answers, hr.calls⟩

theorem routed_of_reachable (h : Reachable (step cfg ns handlers fleet) init g) :
    Routed fleet g :=
  h.invariant (routed_init fleet) fun _ _ _ hreach hr hs => routed_step hreach hr hs

/-- A process that has registered with the naming service in one of its lifetimes. -/
def HasRegistered (g : Grid) (w : WorkerProcess) : Prop :=
  ∃ p ∈ g.registered, p.workerId = w.workerId ∧ p.taskTypes = w.taskTypes ∧
    p.address = w.host ∧ p.port = w.port

/-- **Every request goes where the naming service says.**  Whatever is lost, delayed or
restarted: every ExecuteTask request ever sent was sent to the worker id, host and port of a
process of the fleet that had registered, and one of the TASK_TYPES of this process is the type
of the task. -/
theorem sent_to_registered (h : Reachable (step cfg ns handlers fleet) init g)
    {c : Nat × ExecuteCall} (hc : c ∈ g.system.calls) :
    ∃ w ∈ fleet, g.HasRegistered w ∧ c.2.worker.workerId = w.workerId ∧
      c.2.worker.address = w.host ∧ c.2.worker.port = w.port.val ∧
      c.2.request.payload.taskType ∈ w.taskTypes := by
  have hrouted := routed_of_reachable h
  obtain ⟨p, hp, ha⟩ := hrouted.calls c hc
  obtain ⟨w, hw, hid, htypes, haddress, hport⟩ := hrouted.registered p hp
  refine ⟨w, hw, ⟨p, hp, hid, htypes, haddress, hport⟩, ?_, ?_, ?_, ?_⟩
  · rw [← hid, ha.workerId]
  · rw [← haddress, ha.address]
  · rw [← hport, ha.port]
  · -- TASK_TYPES is not empty, so the registration lists no `unknown`
    have htype := ha.taskType
    rw [effectiveTypes_of_ne_nil (by rw [htypes]; exact w.taskTypes_ne_nil), htypes] at htype
    exact htype

/-! ## §4. A run. -/

/-- What a lookup of the type of `Presence.sampleProcess` answers. -/
def gridAnswer : LookupResponsePayload where
  found := true
  workers := [⟨"w1", ["reverse"], "localhost", Namensdienst.samplePort, "ACTIVE", .default⟩]
  message := "Workers found"

/-- The worker registers, a task is posted, and its lookup finds the worker. -/
def gridDispatch : List GridEvent :=
  [.register Presence.sampleProcess "ACTIVE" "r1" 0 .default 0,
    .system (.dispatcher (.postTask Dispatcher.sampleRequest 0)),
    .system (.dispatcher .dequeue),
    .lookup "1" 1,
    .lookupReturns "1" (some gridAnswer) 2]

/-- The request of this run goes to the worker. -/
theorem sent_to_registered_gridDispatch :
    ∃ g c, run (step ⟨3⟩ ⟨10, 3⟩ System.sampleHandlers [Presence.sampleProcess]) init
        gridDispatch = some g ∧
      g.system.calls = [c] ∧
      ∃ w ∈ [Presence.sampleProcess], g.HasRegistered w ∧ c.2.worker.workerId = w.workerId ∧
        c.2.worker.address = w.host ∧ c.2.worker.port = w.port.val ∧
        c.2.request.payload.taskType ∈ w.taskTypes := by
  refine ⟨_, _, rfl, rfl, ?_⟩
  exact @sent_to_registered ⟨3⟩ ⟨10, 3⟩ System.sampleHandlers [Presence.sampleProcess] _
    ⟨gridDispatch, rfl⟩ _ List.mem_cons_self

end Grid

end TaskGrid
