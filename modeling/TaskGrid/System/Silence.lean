/-
  TaskGrid.System.Silence — a worker that has gone silent is left alone.

  `graceful_shutdown` does not deregister: the worker falls silent, as one that
  has crashed does, and the monitor of the naming service takes its entries
  through UNHEALTHY to OFFLINE.  Until then lookups go on finding it, and an
  answer given before can still be used afterwards.

  Main results:
    * `left_alone_after_silence` — after the first monitor pass that comes `x`
      seconds after the last sign of life no lookup finds the worker, and only
      runs with an older answer still send it a request; after one that comes
      `x * y` seconds later its entries are gone.
    * `left_alone_after_deregistration` — the same from DeregisterWorker on, until the worker
      registers again; its heartbeats may go on.
-/
import TaskGrid.System.Routing

namespace TaskGrid

open TaskGrid.Lib

/-! ## §1. Nobody speaks for the worker. -/

/-- The step registers the worker id or sends its heartbeat. -/
def GridEvent.speaksFor (w : String) : GridEvent → Bool
  | .register process _ _ _ _ _ => process.workerId = w
  | .service e => e.speaksFor w
  | _ => false

/-- The step registers the worker id. -/
def GridEvent.registers (w : String) : GridEvent → Bool
  | .register process _ _ _ _ _ => process.workerId = w
  | .service e => e.registers w
  | _ => false

/-- What becomes of an entry nobody speaks for: it keeps its time and is not made discoverable. -/
structure Worker.Ages (e e' : Worker) : Prop where
  lastHeartbeat : e'.lastHeartbeat = e.lastHeartbeat
  hidden : e.isDiscoverable = false → e'.isDiscoverable = false

theorem Worker.Ages.refl (e : Worker) : e.Ages e := ⟨rfl, fun h => h⟩

namespace Namensdienst

variable {ns : LoopConfig}

/-- What the monitor leaves of an entry, and that it hides the stale ones. -/
theorem ages_of_monitorEntry {now : ℚ} {e e' : Worker} (h : monitorEntry ns now e = some e') :
    e.Ages e' ∧ (e.lastHeartbeat + ns.x ≤ now → e'.isDiscoverable = false) := by
  have hlast : e'.lastHeartbeat = e.lastHeartbeat := by rw [monitorEntry_eq_some h]
  unfold monitorEntry at h
  simp only [] at h
  split at h
  · cases h
  · rw [Option.some.injEq] at h
    refine ⟨⟨hlast, ?_⟩, ?_⟩
    · intro hhidden
      rw [← h]
      split
      · rfl
      · exact hhidden
    · intro hle
      rw [← h, if_pos (show now - e.lastHeartbeat ≥ _ from le_sub_iff_add_le'.mpr hle)]
      rfl

/-- The monitor leaves nothing of an overdue entry. -/
theorem monitorEntry_of_overdue {now : ℚ} {e : Worker}
    (h : e.lastHeartbeat + ((ns.x * ns.y : Int) : ℚ) ≤ now) : monitorEntry ns now e = none :=
  if_pos (le_sub_iff_add_le'.mpr h)

/-- A step in which nobody speaks for the worker only ages its entries. -/
theorem ages_of_step {a b : Namensdienst} {e : NsEvent} {w : String}
    (hs : a.step ns e = some b) (he : e.speaksFor w = false) {v : Worker}
    (hv : v ∈ b.entriesOf w) : ∃ u ∈ a.entriesOf w, u.Ages v := by
  by_cases hm : e.isMonitorPass = true
  · cases e with
    | monitorPass now =>
        cases hs
        rw [entriesOf_monitorPass, List.mem_filterMap] at hv
        obtain ⟨u, hu, huv⟩ := hv
        exact ⟨u, hu, (ages_of_monitorEntry huv).1⟩
    | registerWorker | deregisterWorker | sendHeartbeat => cases hm
  · rcases Presence.entriesOf_of_request hs he (by simpa using hm) with h | h
    · exact ⟨v, h ▸ hv, .refl v⟩
    · rw [h] at hv
      cases hv

/-- No lookup finds the worker. -/
def Unlisted (s : Namensdienst) (w : String) : Prop :=
  ∀ e ∈ s.entriesOf w, e.isDiscoverable = false

theorem Unlisted.not_mem_lookup {s : Namensdienst} {w : String} (h : s.Unlisted w)
    {request : Envelope LookupPayload} {v : WorkerPayload}
    (hv : v ∈ (s.lookupWorker request).message.payload.workers) : v.workerId ≠ w := by
  intro hid
  obtain ⟨e, he, _, hd, _⟩ := (mem_lookup (s := s) (t := request.payload.taskType)).mp ⟨hv, hid⟩
  rw [h e he] at hd
  cases hd

theorem unlisted_of_nil {s : Namensdienst} {w : String} (h : s.entriesOf w = []) :
    s.Unlisted w := by
  intro e he
  rw [h] at he
  cases he

/-- Aging entries stay unlisted. -/
theorem Unlisted.of_ages {a b : Namensdienst} {w : String} (h : a.Unlisted w)
    (hages : ∀ v ∈ b.entriesOf w, ∃ u ∈ a.entriesOf w, u.Ages v) : b.Unlisted w := by
  intro v hv
  obtain ⟨u, hu, huv⟩ := hages v hv
  exact huv.hidden (h u hu)

end Namensdienst

/-! ## §2. The requests a worker still gets. -/

namespace System

variable {cfg : Config} {handlers : Handlers} {s s' : System}

/-- A new request is one of the current epoch. -/
theorem epoch_of_new_call {e : SystemEvent} (hs : s.step cfg handlers e = some s')
    {c : Nat × ExecuteCall} (hc : c ∈ s'.calls) (hnew : c ∉ s.calls) : c.1 = s.epoch := by
  by_cases he : e = .restart
  · subst he
    cases hs
    refine absurd ?_ hnew
    simpa [calls, Dispatcher.init] using hc
  obtain ⟨hsurviving, hepoch⟩ := epoch_of_step hs he
  unfold calls at hc hnew
  rw [hsurviving, hepoch, List.mem_append] at hc
  rcases hc with hc | hc
  · exact absurd (List.mem_append_left _ hc) hnew
  · obtain ⟨call, _, rfl⟩ := List.mem_map.mp hc
    rfl

end System

namespace Grid

variable {cfg : Config} {ns : LoopConfig} {handlers : Handlers} {fleet : List WorkerProcess}
  {g g' start : Grid} {w : String}

/-- The answer lists the worker. -/
def Lists (w : String) (response : LookupResponsePayload) : Prop :=
  ∃ v ∈ response.workers, v.workerId = w

/-- What holds of a grid that has known the worker as unlisted since `start`: whatever still
names the worker is from before. -/
structure LeftAlone (w : String) (start g : Grid) : Prop where
  unlisted : g.service.Unlisted w
  answers : ∀ a ∈ g.answers, Lists w a.2 → a ∈ start.answers ∧ g.system.epoch = start.system.epoch
  calls : ∀ c ∈ g.system.calls, c.2.worker.workerId = w → c ∈ start.system.calls ∨
    c.1 = start.system.epoch ∧ ∃ response, (c.2.taskId, response) ∈ start.answers ∧ Lists w response

theorem LeftAlone.refl (h : g.service.Unlisted w) : LeftAlone w g g :=
  ⟨h, fun _ ha _ => ⟨ha, rfl⟩, fun _ hc _ => .inl hc⟩

/-- A worker of the answer is one the response lists. -/
theorem lists_of_workersOf {answer : Option LookupResponsePayload} {info : WorkerInfo}
    (h : info ∈ workersOf answer) : ∃ response ∈ answer, Lists info.workerId response := by
  unfold workersOf at h
  split at h
  · cases h
  · rename_i response
    split at h
    · cases h
    · obtain ⟨v, hv, rfl⟩ := List.mem_map.mp h
      exact ⟨response, rfl, v, hv, rfl⟩

/-- A quiet step only ages the entries of the worker. -/
theorem ages_of_step {a : GridEvent} (hs : g.step cfg ns handlers fleet a = some g')
    (hq : a.speaksFor w = false) {v : Worker} (hv : v ∈ g'.service.entriesOf w) :
    ∃ u ∈ g.service.entriesOf w, u.Ages v := by
  cases gridStep_of_step hs with
  | @register process status requestId timestamp currentLoad now hw =>
      have hne : (process.statusUpdate status requestId timestamp currentLoad).payload.workerId
          ≠ w := of_decide_eq_false hq
      rw [Namensdienst.entriesOf_registerWorker_ne now hne] at hv
      exact ⟨v, hv, .refl v⟩
  | service _ hns => exact Namensdienst.ages_of_step hns hq hv
  | restartService => exact absurd hv List.not_mem_nil
  | _ => exact ⟨v, hv, .refl v⟩

/-- A request to the worker that a step of the system makes: its lookup has named the worker. -/
theorem LeftAlone.calls_of_step (h : Reachable (step cfg ns handlers fleet) init g)
    (hl : LeftAlone w start g) {e : SystemEvent} {s : System}
    (hs : g.system.step cfg handlers e = some s)
    (hnew : ∀ t workers now, e = .dispatcher (.lookupReturns t workers now) →
      ∀ info ∈ workers, info.workerId = w → ∃ response, (t, response) ∈ g.answers ∧
        Lists w response) :
    ∀ c ∈ s.calls, c.2.worker.workerId = w → c ∈ start.system.calls ∨
      c.1 = start.system.epoch ∧
        ∃ response, (c.2.taskId, response) ∈ start.answers ∧ Lists w response := by
  intro c hc hw
  by_cases hold : c ∈ g.system.calls
  · exact hl.calls c hold hw
  · have hepoch := System.epoch_of_new_call hs hc hold
    rcases System.calls_cases (system_reachable h) hs hc with
      hmem | ⟨workers, now, task, he, hmem, _, _⟩
    · exact absurd hmem hold
    · obtain ⟨response, hresponse, hlists⟩ := hnew _ workers now he _ hmem hw
      obtain ⟨hstart, hsame⟩ := hl.answers _ hresponse hlists
      exact .inr ⟨hepoch.trans hsame, response, hstart, hlists⟩

/-- **Step lemma.**  As long as no lookup can find the worker, it stays left alone. -/
theorem leftAlone_step (h : Reachable (step cfg ns handlers fleet) init g)
    (hl : LeftAlone w start g) {a : GridEvent} (hs : g.step cfg ns handlers fleet a = some g')
    (hunlisted : g'.service.Unlisted w) : LeftAlone w start g' := by
  -- what a step other than a restart leaves of the answers, it leaves in the same epoch
  have hanswers : ∀ {e : SystemEvent} {s : System}, g.system.step cfg handlers e = some s →
      e ≠ .restart → ∀ a ∈ g.answers, Lists w a.2 →
        a ∈ start.answers ∧ s.epoch = start.system.epoch := by
    intro e s hsys he a ha hlists
    rw [(System.epoch_of_step hsys he).2]
    exact hl.answers a ha hlists
  cases gridStep_of_step hs with
  | @system e s he hsys =>
      refine ⟨hunlisted, ?_, hl.calls_of_step h hsys ?_⟩
      · intro a ha hlists
        by_cases hrestart : e = .restart
        · subst hrestart
          cases ha
        · have hkept : g.answersAfter e = g.answers := by
            cases e with
            | restart => exact absurd rfl hrestart
            | _ => rfl
          exact hanswers hsys hrestart a (hkept ▸ ha) hlists
      · intro t workers now heq
        rw [heq] at he
        cases he
  | @lookup taskId now task hg =>
      refine ⟨hunlisted, ?_, hl.calls⟩
      intro a ha hlists
      rcases List.mem_append.mp ha with ha | ha
      · exact hl.answers a ha hlists
      · -- the new answer does not name the worker
        rw [List.mem_singleton.mp ha] at hlists
        obtain ⟨v, hv, hid⟩ := hlists
        exact absurd hid (hl.unlisted.not_mem_lookup hv)
  | @lookupReturns taskId answer now s ha hsys =>
      refine ⟨hunlisted, ?_, hl.calls_of_step h hsys ?_⟩
      · intro a hmem hlists
        exact hanswers hsys (by simp) a (List.mem_of_mem_filter hmem) hlists
      · intro t workers now' heq info hinfo hid
        injection heq with heq
        injection heq with ht hworkers _
        subst ht hworkers
        obtain ⟨response, hresponse, hlists⟩ := lists_of_workersOf hinfo
        exact ⟨response, ha response hresponse, hid ▸ hlists⟩
  | execute _ _ hsys =>
      exact ⟨hunlisted, hanswers hsys (by simp), hl.calls_of_step h hsys (by simp)⟩
  | reply _ hsys =>
      exact ⟨hunlisted, hanswers hsys (by simp), hl.calls_of_step h hsys (by simp)⟩
  | register => exact ⟨hunlisted, hl.answers, hl.calls⟩
  | service => exact ⟨hunlisted, hl.answers, hl.calls⟩
  | restartService => exact ⟨hunlisted, hl.answers, hl.calls⟩

/-- The run lemma. -/
theorem leftAlone_run (h : Reachable (step cfg ns handlers fleet) init start)
    (hunlisted : start.service.Unlisted w) {es : List GridEvent}
    (hq : ∀ a ∈ es, a.speaksFor w = false)
    (hr : run (step cfg ns handlers fleet) start es = some g) : LeftAlone w start g :=
  run_preserves_of_labels (P := fun a : GridEvent => a.speaksFor w = false)
    (fun _ _ _ hreach hquiet hl hs =>
      leftAlone_step hreach hl hs (hl.unlisted.of_ages fun _ hv => ages_of_step hs hquiet hv))
    es h hq (.refl hunlisted) hr

/-! ## §3. Silence. -/

/-- Along a quiet run the entries of the worker only age. -/
theorem lastHeartbeat_run {last : ℚ} {es : List GridEvent}
    (h : Reachable (step cfg ns handlers fleet) init g)
    (hlast : ∀ e ∈ g.service.entriesOf w, e.lastHeartbeat ≤ last)
    (hq : ∀ a ∈ es, a.speaksFor w = false)
    (hr : run (step cfg ns handlers fleet) g es = some g') :
    ∀ e ∈ g'.service.entriesOf w, e.lastHeartbeat ≤ last := by
  refine run_preserves_of_labels (P := fun a : GridEvent => a.speaksFor w = false)
    (I := fun g => ∀ e ∈ g.service.entriesOf w, e.lastHeartbeat ≤ last) ?_ es h hq hlast hr
  intro a e b _ hquiet hI hs v hv
  obtain ⟨u, hu, huv⟩ := ages_of_step hs hquiet hv
  rw [huv.lastHeartbeat]
  exact hI u hu

/-- An entry that is gone comes back with a registration only. -/
theorem entriesOf_eq_nil_of_step {a : GridEvent} (hs : g.step cfg ns handlers fleet a = some g')
    (hq : a.registers w = false) (hnil : g.service.entriesOf w = []) :
    g'.service.entriesOf w = [] := by
  cases gridStep_of_step hs with
  | @register process status requestId timestamp currentLoad now hw =>
      have hne : (process.statusUpdate status requestId timestamp currentLoad).payload.workerId
          ≠ w := of_decide_eq_false hq
      exact (Namensdienst.entriesOf_registerWorker_ne now hne).trans hnil
  | service _ hns => exact Namensdienst.entriesOf_eq_nil_of_step hns hq hnil
  | restartService => rfl
  | _ => exact hnil

theorem entriesOf_eq_nil_run {es : List GridEvent}
    (h : Reachable (step cfg ns handlers fleet) init g) (hnil : g.service.entriesOf w = [])
    (hq : ∀ a ∈ es, a.registers w = false)
    (hr : run (step cfg ns handlers fleet) g es = some g') : g'.service.entriesOf w = [] :=
  run_preserves_of_labels (P := fun a : GridEvent => a.registers w = false)
    (fun _ _ _ _ hquiet hI hs => entriesOf_eq_nil_of_step hs hquiet hI) es h hq hnil hr

/-- Whoever registers the worker speaks for it. -/
theorem registers_of_not_speaksFor {a : GridEvent} (h : a.speaksFor w = false) :
    a.registers w = false := by
  cases a with
  | register => exact h
  | service e => exact e.registers_of_not_speaksFor h
  | _ => rfl

/-- **A silent worker is left alone.**  Nothing is heard of the worker after `last`.  From the
first monitor pass that comes `x` seconds later no lookup finds it, whatever the other parties do,
and a request still goes to it only for a task whose lookup had been answered before; when the
pass comes `x * y` seconds later, its entries are gone. -/
theorem left_alone_after_silence {last now : ℚ} {before : Grid} {es fs : List GridEvent}
    (h : Reachable (step cfg ns handlers fleet) init g)
    (hlast : ∀ e ∈ g.service.entriesOf w, e.lastHeartbeat ≤ last)
    (hq : ∀ a ∈ es ++ fs, a.speaksFor w = false)
    (hr : run (step cfg ns handlers fleet) g es = some before)
    (hpass : before.step cfg ns handlers fleet (.service (.monitorPass now)) = some start)
    (hx : last + ns.x ≤ now) (hr' : run (step cfg ns handlers fleet) start fs = some g') :
    (∀ request, ∀ v ∈ (g'.service.lookupWorker request).message.payload.workers,
        v.workerId ≠ w) ∧
      (∀ c ∈ g'.system.calls, c.2.worker.workerId = w → c ∈ start.system.calls ∨
        c.1 = start.system.epoch ∧
          ∃ response, (c.2.taskId, response) ∈ start.answers ∧ Lists w response) ∧
      (last + ((ns.x * ns.y : Int) : ℚ) ≤ now → g'.service.entriesOf w = []) := by
  have hbefore := h.run hr
  have hstart := hbefore.tail hpass
  have hold := lastHeartbeat_run h hlast (fun a ha => hq a (List.mem_append_left _ ha)) hr
  have hquiet : ∀ a ∈ fs, a.speaksFor w = false := fun a ha => hq a (List.mem_append_right _ ha)
  have hentries : start.service.entriesOf w
      = (before.service.entriesOf w).filterMap (Namensdienst.monitorEntry ns now) := by
    cases hpass
    exact Namensdienst.entriesOf_monitorPass now
  have hunlisted : start.service.Unlisted w := by
    intro e he
    rw [hentries, List.mem_filterMap] at he
    obtain ⟨u, hu, hue⟩ := he
    exact (Namensdienst.ages_of_monitorEntry hue).2
      (le_trans (add_le_add_left (hold u hu) _) hx)
  have halone := leftAlone_run hstart hunlisted hquiet hr'
  refine ⟨fun request v hv => halone.unlisted.not_mem_lookup hv, halone.calls, ?_⟩
  intro hxy
  refine entriesOf_eq_nil_run hstart ?_ (fun a ha => registers_of_not_speaksFor (hquiet a ha)) hr'
  rw [hentries, List.filterMap_eq_nil_iff]
  intro u hu
  exact Namensdienst.monitorEntry_of_overdue (le_trans (add_le_add_left (hold u hu) _) hxy)

/-- A task is at its lookup, which is answered while the worker still counts as alive. -/
def gridAnswered : List GridEvent :=
  [.system (.dispatcher (.postTask Dispatcher.sampleRequest 0)), .system (.dispatcher .dequeue),
    .lookup "1" 1]

/-- The worker registers at 0 and falls silent, the monitor comes at 10, and the old answer
still brings it a request. -/
theorem left_alone_after_silence_gridAnswered :
    ∃ g before start g' c,
      run (step ⟨3⟩ ⟨10, 3⟩ System.sampleHandlers [Presence.sampleProcess]) init
        [.register Presence.sampleProcess "ACTIVE" "r1" 0 .default 0] = some g ∧
      run (step ⟨3⟩ ⟨10, 3⟩ System.sampleHandlers [Presence.sampleProcess]) g gridAnswered
        = some before ∧
      before.step ⟨3⟩ ⟨10, 3⟩ System.sampleHandlers [Presence.sampleProcess]
        (.service (.monitorPass 10)) = some start ∧
      run (step ⟨3⟩ ⟨10, 3⟩ System.sampleHandlers [Presence.sampleProcess]) start
        [.lookupReturns "1" (some gridAnswer) 11] = some g' ∧
      g'.system.calls = [c] ∧ c.2.worker.workerId = "w1" ∧
      (∀ request, ∀ v ∈ (g'.service.lookupWorker request).message.payload.workers,
        v.workerId ≠ "w1") ∧
      (∀ c ∈ g'.system.calls, c.2.worker.workerId = "w1" → c ∈ start.system.calls ∨
        c.1 = start.system.epoch ∧
          ∃ response, (c.2.taskId, response) ∈ start.answers ∧ Lists "w1" response) := by
  refine ⟨_, _, _, _, _, rfl, rfl, rfl, rfl, rfl, rfl, ?_⟩
  have halone := @left_alone_after_silence ⟨3⟩ ⟨10, 3⟩ System.sampleHandlers
    [Presence.sampleProcess] _ _ _ "w1" 0 10 _ gridAnswered
    [.lookupReturns "1" (some gridAnswer) 11]
    ⟨[.register Presence.sampleProcess "ACTIVE" "r1" 0 .default 0], rfl⟩
    (by
      intro e he
      rw [List.mem_singleton.mp (show e ∈ [_] from he)]
      exact le_refl (0 : ℚ))
    (by decide) rfl rfl (by decide +kernel) rfl
  exact ⟨halone.1, halone.2.1⟩

/-- **A deregistered worker is left alone.**  From DeregisterWorker on the worker has no entry
until it registers again, whatever heartbeats it goes on sending, and a request still goes to it
only for a task whose lookup had been answered before. -/
theorem left_alone_after_deregistration {request : Envelope DeregisterWorkerPayload}
    {fs : List GridEvent} (h : Reachable (step cfg ns handlers fleet) init g)
    (hstep : g.step cfg ns handlers fleet (.service (.deregisterWorker request)) = some start)
    (hq : ∀ a ∈ fs, a.registers request.payload.workerId = false)
    (hr : run (step cfg ns handlers fleet) start fs = some g') :
    g'.service.entriesOf request.payload.workerId = [] ∧
      ∀ c ∈ g'.system.calls, c.2.worker.workerId = request.payload.workerId →
        c ∈ start.system.calls ∨ c.1 = start.system.epoch ∧
          ∃ response, (c.2.taskId, response) ∈ start.answers ∧
            Lists request.payload.workerId response := by
  have hnil : start.service.entriesOf request.payload.workerId = [] := by
    cases hstep
    exact Namensdienst.entriesOf_deregisterWorker_self request
  have hfinal : g'.service.entriesOf request.payload.workerId = [] ∧
      LeftAlone request.payload.workerId start g' := by
    refine run_preserves_of_labels
      (P := fun a : GridEvent => a.registers request.payload.workerId = false)
      (I := fun g => g.service.entriesOf request.payload.workerId = [] ∧
        LeftAlone request.payload.workerId start g) ?_ fs (h.tail hstep) hq
      ⟨hnil, .refl (Namensdienst.unlisted_of_nil hnil)⟩ hr
    intro a e b ha hquiet hI hs
    have hb := entriesOf_eq_nil_of_step hs hquiet hI.1
    exact ⟨hb, leftAlone_step ha hI.2 hs (Namensdienst.unlisted_of_nil hb)⟩
  exact ⟨hfinal.1, hfinal.2.calls⟩

/-- The worker deregisters and goes on with its heartbeats. -/
def gridBeating : List GridEvent :=
  [.service (.sendHeartbeat (Presence.sampleProcess.heartbeat "r2" 11 .default) 11),
    .lookupReturns "1" (some gridAnswer) 11]

/-- With DeregisterWorker in the place of the silence. -/
theorem left_alone_after_deregistration_gridAnswered :
    ∃ g start g' c,
      run (step ⟨3⟩ ⟨10, 3⟩ System.sampleHandlers [Presence.sampleProcess]) init
        (.register Presence.sampleProcess "ACTIVE" "r1" 0 .default 0 :: gridAnswered) = some g ∧
      g.step ⟨3⟩ ⟨10, 3⟩ System.sampleHandlers [Presence.sampleProcess]
        (.service (.deregisterWorker { payload := ⟨"w1"⟩ })) = some start ∧
      run (step ⟨3⟩ ⟨10, 3⟩ System.sampleHandlers [Presence.sampleProcess]) start gridBeating
        = some g' ∧
      g'.system.calls = [c] ∧ c.2.worker.workerId = "w1" ∧
      g'.service.entriesOf "w1" = [] ∧
      ∀ c ∈ g'.system.calls, c.2.worker.workerId = "w1" →
        c ∈ start.system.calls ∨ c.1 = start.system.epoch ∧
          ∃ response, (c.2.taskId, response) ∈ start.answers ∧ Lists "w1" response := by
  refine ⟨_, _, _, _, rfl, rfl, rfl, rfl, rfl, ?_⟩
  exact @left_alone_after_deregistration ⟨3⟩ ⟨10, 3⟩ System.sampleHandlers
    [Presence.sampleProcess] _ _ _ { payload := ⟨"w1"⟩ } gridBeating
    ⟨.register Presence.sampleProcess "ACTIVE" "r1" 0 .default 0 :: gridAnswered, rfl⟩ rfl
    (by decide) rfl

end Grid

end TaskGrid
