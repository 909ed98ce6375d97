/-
  TaskGrid.Namensdienst.Interleaving — a pass among the requests looks like one step.

  Elsewhere a monitor pass is a single step of the naming service.  In the
  program requests run between the iterations of its loop.  An iteration does
  to the list, in one step, what `monitorEntry` does to its entry
  (`visit_atomic`), so while a pass is running some entries of a worker are
  already what the pass makes of them and the others are not (`settled`).

  The exception is a request about a worker that comes while the pass has an
  overdue entry of this worker still before it (`Calm`): there the order
  decides.

  Main result: `looks_atomic`.  Without that, every worker gets the answers,
  has the entries and is listed as if each pass had been one step at its start.
-/
import TaskGrid.Namensdienst.Monitor
import TaskGrid.Namensdienst.Commutation
import TaskGrid.Lib.Refinement

namespace TaskGrid

open TaskGrid.Lib

/-! ## §1. An iteration is one step. -/

/-- What the iteration for the id makes of an entry. -/
def treatEntry (cfg : LoopConfig) (now : ℚ) (id : Nat) (e : Worker) : Option Worker :=
  if e.id = id then Namensdienst.monitorEntry cfg now e else some e

theorem filterMap_treatEntry_of_not_mem {cfg : LoopConfig} {now : ℚ} {id : Nat} {l : List Worker}
    (h : id ∉ ids l) : l.filterMap (treatEntry cfg now id) = l := by
  have hsome : ∀ e ∈ l, treatEntry cfg now id e = some e := by
    intro e he
    have hne : e.id ≠ id := fun hid => h (hid ▸ List.mem_map_of_mem he)
    exact if_neg hne
  rw [List.filterMap_congr hsome]
  exact List.filterMap_some

theorem filterMap_treatEntry_split {cfg : LoopConfig} {now : ℚ} {done tail : List Worker}
    {o : Worker} (hd : o.id ∉ ids done) (ht : o.id ∉ ids tail) :
    (done ++ o :: tail).filterMap (treatEntry cfg now o.id)
      = done ++ (Namensdienst.monitorEntry cfg now o).toList ++ tail := by
  have ho : treatEntry cfg now o.id o = Namensdienst.monitorEntry cfg now o := if_pos rfl
  rw [List.filterMap_append, List.filterMap_cons, ho, filterMap_treatEntry_of_not_mem hd,
    filterMap_treatEntry_of_not_mem ht, List.append_assoc]
  cases Namensdienst.monitorEntry cfg now o <;> rfl

namespace Monitor

variable {cfg : LoopConfig} {s s' a b : Monitor}

/-- The body of the loop for an entry of the list. -/
theorem judge_of_mem {done tail : List Worker} {o : Worker} (now : ℚ)
    (hl : s.service.workers = done ++ o :: tail) (hd : o.id ∉ ids done) (ht : o.id ∉ ids tail) :
    (s.judge cfg now o).service = { s.service with
        workers := done ++ (Namensdienst.monitorEntry cfg now o).toList ++ tail } ∧
      (s.judge cfg now o).pass = s.pass := by
  -- the first status write
  have hmark : (if cfg.isOverdue now o then s.writeStatus o.id "UNHEALTHY" else s).service
        = { s.service with workers := done ++ cfg.marked now o :: tail } ∧
      (if cfg.isOverdue now o then s.writeStatus o.id "UNHEALTHY" else s).pass = s.pass := by
    unfold LoopConfig.marked
    split
    · refine ⟨?_, rfl⟩
      unfold writeStatus
      simp only [hl, setStatus_split rfl hd ht]
    · refine ⟨?_, rfl⟩
      rw [← hl]
  unfold judge
  simp only []
  generalize (if cfg.isOverdue now o then s.writeStatus o.id "UNHEALTHY" else s) = m at hmark ⊢
  obtain ⟨hservice, hpass⟩ := hmark
  rw [monitorEntry_eq]
  split
  · -- the second one goes to an object that leaves the list at once
    have hwritten : (m.writeStatus o.id "OFFLINE").service = { s.service with
        workers := done ++ { cfg.marked now o with status := "OFFLINE" } :: tail } := by
      unfold writeStatus
      simp only [hservice, setStatus_split (marked_id cfg now o) hd ht]
    have hid : ({ cfg.marked now o with status := "OFFLINE" } : Worker).id = o.id :=
      marked_id cfg now o
    have hmem : o.id ∈ ids (m.writeStatus o.id "OFFLINE").service.workers := by
      rw [hwritten, ids_append, ids_cons, hid]
      exact List.mem_append_right _ List.mem_cons_self
    unfold remove
    rw [if_pos hmem]
    refine ⟨?_, hpass⟩
    simp only [hwritten, eraseP_split hid hd]
    simp
  · refine ⟨?_, hpass⟩
    simp [hservice]

/-- The body of the loop for an entry that has been taken out, if the thread survives it. -/
theorem judge_of_not_mem {o : Worker} {now : ℚ} (hout : o.id ∉ ids s.service.workers)
    (halive : (s.judge cfg now o).dead = false) :
    (s.judge cfg now o).service = s.service ∧ (s.judge cfg now o).pass = s.pass := by
  have hwrite : ∀ m : Monitor, m.service = s.service → ∀ status,
      (m.writeStatus o.id status).service = s.service := by
    intro m hm status
    unfold writeStatus
    simp only [hm, setStatus_of_not_mem hout]
  obtain ⟨m, hm, hjudge⟩ := judge_cases cfg s now o
  have hsame : m.service = s.service ∧ m.pass = s.pass := by
    rcases hm with rfl | rfl
    · exact ⟨rfl, rfl⟩
    · exact ⟨hwrite s rfl _, rfl⟩
  rw [hjudge] at halive ⊢
  split
  · -- `remove` would have ended the thread
    rename_i hst
    rw [if_pos hst] at halive
    unfold remove at halive
    rw [hwrite m hsame.1, if_neg hout] at halive
    cases halive
  · exact hsame

/-- **An iteration is one step.**  As long as the thread lives, an iteration does to the list
what `monitorEntry` does to the entry with its id, and leaves the other entries alone. -/
theorem visit_atomic (h : Inv a) (hs : a.visit cfg = some b) (halive : b.dead = false) :
    ∃ now id rest, a.pass = some (now, id :: rest) ∧ b.pass = some (now, rest) ∧
      b.service = { a.service with
        workers := a.service.workers.filterMap (treatEntry cfg now id) } := by
  obtain ⟨now, id, rest, o, hp, ho, rfl⟩ := visit_eq_some hs
  obtain ⟨hid, hin⟩ := object?_eq_some ho
  subst hid
  refine ⟨now, o.id, rest, hp, ?_⟩
  rcases hin with hmem | ⟨hout, _⟩
  · obtain ⟨done, tail, hl⟩ := List.append_of_mem hmem
    have hnd : (ids done ++ o.id :: ids tail).Nodup := by
      have hall := (List.nodup_append.mp h.nodup).1
      rw [hl, ids_append, ids_cons] at hall
      exact hall
    obtain ⟨_, htail, hdisj⟩ := List.nodup_append.mp hnd
    have hd : o.id ∉ ids done := fun hm => hdisj _ hm _ List.mem_cons_self rfl
    have ht : o.id ∉ ids tail := (List.nodup_cons.mp htail).1
    obtain ⟨hservice, hpass⟩ := @judge_of_mem cfg { a with pass := some (now, rest) } _ _ _ now
      hl hd ht
    refine ⟨hpass, ?_⟩
    rw [hservice, hl, filterMap_treatEntry_split hd ht]
  · obtain ⟨hservice, hpass⟩ := judge_of_not_mem (s := { a with pass := some (now, rest) }) hout
      halive
    refine ⟨hpass, ?_⟩
    rw [hservice, filterMap_treatEntry_of_not_mem hout]

/-- The thread has been alive if it is alive. -/
theorem alive_of_step {e : MonitorEvent} (hs : a.step cfg e = some b) (halive : b.dead = false) :
    a.dead = false := by
  by_cases he : e = .visit
  · subst he
    obtain ⟨now, id, rest, o, _, _, rfl⟩ := visit_eq_some hs
    obtain ⟨m, hm, hjudge⟩ := judge_cases cfg { a with pass := some (now, rest) } now o
    have hdead : m.dead = a.dead := by
      rcases hm with rfl | rfl <;> rfl
    rw [hjudge] at halive
    split at halive
    · unfold remove at halive
      split at halive
      · exact hdead ▸ halive
      · cases halive
    · exact hdead ▸ halive
  · rw [← dead_step hs he]
    exact halive

end Monitor

/-! ## §2. What a worker sees. -/

/-- The request of an event; a monitor pass has none. -/
def NsEvent.request? : NsEvent → Option RegistryRequest
  | .registerWorker request now => some (.registerWorker request now)
  | .deregisterWorker request => some (.deregisterWorker request)
  | .sendHeartbeat request now => some (.sendHeartbeat request now)
  | .monitorPass _ => none

theorem exists_request {e : NsEvent} (he : e.isRequest = true) : ∃ r, e.request? = some r := by
  cases e with
  | monitorPass now => cases he
  | _ => exact ⟨_, rfl⟩

namespace Namensdienst

variable {cfg : LoopConfig} {s : Namensdienst} {e : NsEvent} {r : RegistryRequest} {w : String}

theorem step_of_request (hr : e.request? = some r) : s.step cfg e = some (s.process r).1 := by
  cases e <;> cases hr <;> rfl

/-- The Ack, if the request is about the worker. -/
def answerTo (w : String) (s : Namensdienst) (e : NsEvent) : Option (Reply AckPayload) :=
  (e.request?.filter (·.workerId = w)).map fun r => (s.process r).2

theorem answerTo_self (hr : e.request? = some r) (hw : r.workerId = w) :
    s.answerTo w e = some (s.process r).2 := by
  unfold answerTo
  rw [hr, Option.filter_some, if_pos (decide_eq_true hw), Option.map_some]

theorem answerTo_ne (hr : e.request? = some r) (hw : r.workerId ≠ w) : s.answerTo w e = none := by
  unfold answerTo
  rw [hr, Option.filter_some, if_neg (by simpa using hw), Option.map_none]

theorem entriesOf_process_ne (hw : r.workerId ≠ w) :
    (s.process r).1.entriesOf w = s.entriesOf w := by
  cases r with
  | registerWorker request now => exact entriesOf_registerWorker_ne now hw
  | deregisterWorker request => exact entriesOf_deregisterWorker_ne hw
  | sendHeartbeat request now => exact entriesOf_sendHeartbeat_ne now hw

/-- The entries of a worker without their numeric ids. -/
theorem listingOf_eq (s : Namensdienst) (w : String) :
    s.listingOf w = (s.entriesOf w).map Worker.unnumbered := by
  unfold listingOf fiber listing entriesOf
  rw [List.filter_map]
  rfl

/-- A pass does not look at the numeric id. -/
theorem monitorEntry_unnumbered (cfg : LoopConfig) (now : ℚ) (e : Worker) :
    monitorEntry cfg now e.unnumbered = (monitorEntry cfg now e).map Worker.unnumbered := by
  unfold monitorEntry
  have hheartbeat : e.unnumbered.lastHeartbeat = e.lastHeartbeat := rfl
  simp only [hheartbeat]
  split
  · rfl
  · rw [Option.map_some]
    split <;> rfl

theorem map_filterMap_monitorEntry (cfg : LoopConfig) (now : ℚ) (l : List Worker) :
    (l.filterMap (monitorEntry cfg now)).map Worker.unnumbered
      = (l.map Worker.unnumbered).filterMap (monitorEntry cfg now) := by
  rw [List.map_filterMap, List.filterMap_map]
  congr 1
  funext e
  exact (monitorEntry_unnumbered cfg now e).symm

theorem listingOf_monitorPass (s : Namensdienst) (now : ℚ) (w : String) :
    (s.monitorPass cfg now).listingOf w
      = (s.listingOf w).filterMap (monitorEntry cfg now) := by
  rw [listingOf_eq, listingOf_eq, entriesOf_monitorPass, map_filterMap_monitorEntry]

/-- What LookupWorker lists of a worker. -/
theorem workers_lookupWorker (s : Namensdienst) (request : Envelope LookupPayload) (w : String) :
    (s.lookupWorker request).message.payload.workers.filter (·.workerId = w)
      = ((s.listingOf w).filter fun e =>
          e.type = request.payload.taskType && e.isDiscoverable).map Worker.payload := by
  show ((s.workers.filter _).map Worker.payload).filter _ = _
  rw [listingOf_eq, List.filter_map, List.filter_map, List.map_map, List.filter_filter]
  unfold entriesOf
  rw [List.filter_filter]
  show (s.workers.filter fun e => decide (e.workerId = w)
      && (decide (e.type = request.payload.taskType) && e.isDiscoverable)).map Worker.payload
    = (s.workers.filter fun e => (decide (e.type = request.payload.taskType) && e.isDiscoverable)
      && decide (e.workerId = w)).map Worker.payload
  congr 2
  funext e
  exact Bool.and_comm _ _

end Namensdienst

namespace Monitor

variable {cfg : LoopConfig} {s a b : Monitor} {w : String}

/-- What the end of the running pass will find of the entry. -/
def settledEntry (cfg : LoopConfig) (s : Monitor) (e : Worker) : Option Worker :=
  match s.pass with
  | some (now, l) => if e.id ∈ l then Namensdienst.monitorEntry cfg now e else some e
  | none => some e

/-- The entries of the worker as the end of the running pass will find them. -/
def settled (cfg : LoopConfig) (s : Monitor) (w : String) : List Worker :=
  (s.service.entriesOf w).filterMap (s.settledEntry cfg)

/-- The running pass has no overdue entry of the worker before it. -/
def NothingOverdue (cfg : LoopConfig) (w : String) (s : Monitor) : Prop :=
  ∀ p ∈ s.pass, ∀ e ∈ s.service.entriesOf w, e.id ∈ p.2 → cfg.isOverdue p.1 e = false

instance (cfg : LoopConfig) (w : String) (s : Monitor) : Decidable (NothingOverdue cfg w s) :=
  inferInstanceAs (Decidable (∀ p ∈ s.pass, _))

/-- If the step is a request about the worker, no pass has an overdue entry of it before it,
neither when the request comes nor after it. -/
def Calm (cfg : LoopConfig) (w : String) (a : Monitor) (e : MonitorEvent) (b : Monitor) : Prop :=
  match e with
  | .request request => ∀ r ∈ request.request?, r.workerId = w →
      NothingOverdue cfg w a ∧ NothingOverdue cfg w b
  | _ => True

instance (cfg : LoopConfig) (w : String) (a : Monitor) (e : MonitorEvent) (b : Monitor) :
    Decidable (Calm cfg w a e b) :=
  match e with
  | .request request => inferInstanceAs (Decidable (∀ r ∈ request.request?, _))
  | .beginPass _ => .isTrue trivial
  | .visit => .isTrue trivial
  | .endPass => .isTrue trivial

/-- The Ack, if the step is a request about the worker. -/
def answerTo (w : String) (s : Monitor) : MonitorEvent → Option (Reply AckPayload)
  | .request e => s.service.answerTo w e
  | _ => none

/-- The registry `t` has of the worker what the end of the running pass will find. -/
def LooksLike (cfg : LoopConfig) (w : String) (s : Monitor) (t : Namensdienst) : Prop :=
  t.listingOf w = (s.settled cfg w).map Worker.unnumbered

end Monitor

/-- The event with a pass as a single step at its start. -/
def MonitorEvent.atomic : MonitorEvent → List NsEvent
  | .request e => [e]
  | .beginPass now => [.monitorPass now]
  | .visit => []
  | .endPass => []

namespace Monitor

variable {cfg : LoopConfig} {s a b : Monitor} {t u : Namensdienst} {w : String}

/-! ## §3. The entries of a worker during a pass. -/

/-- With nothing overdue the pass has nothing to do. -/
theorem settled_of_nothingOverdue (hx : 0 ≤ cfg.x) (hy : 1 ≤ cfg.y)
    (h : NothingOverdue cfg w s) : s.settled cfg w = s.service.entriesOf w := by
  have hsome : ∀ e ∈ s.service.entriesOf w, s.settledEntry cfg e = some e := by
    intro e he
    unfold settledEntry
    split
    · rename_i now l hp
      split
      · rename_i hmem
        have hov := h (now, l) hp e he hmem
        have hmarked : cfg.marked now e = e := if_neg (by simp [hov])
        rw [monitorEntry_eq, if_neg (by simp [LoopConfig.isStale_of_not_isOverdue hx hy hov]),
          hmarked]
      · rfl
    · rfl
  unfold settled
  rw [List.filterMap_congr hsome]
  exact List.filterMap_some

/-- Between two passes everything is settled. -/
theorem settled_of_idle (hp : s.pass = none) : s.settled cfg w = s.service.entriesOf w := by
  have hsome : s.settledEntry cfg = some := by
    funext e
    unfold settledEntry
    rw [hp]
  unfold settled
  rw [hsome]
  exact List.filterMap_some

/-- At its start a pass has all entries before it. -/
theorem settled_beginPass {now : ℚ} (hs : a.beginPass now = some b) :
    a.pass = none ∧ b.settled cfg w
      = (a.service.entriesOf w).filterMap (Namensdienst.monitorEntry cfg now) := by
  have hp : a.pass = none := by
    unfold beginPass at hs
    split at hs
    · cases hs
    · rename_i hguard
      simp only [Bool.or_eq_true, not_or] at hguard
      simpa using hguard.2
  refine ⟨hp, ?_⟩
  rw [beginPass_eq_some hs]
  unfold settled
  apply List.filterMap_congr
  intro e he
  have hmem : e.id ∈ ids a.service.workers :=
    List.mem_map_of_mem (List.mem_filter.mp he).1
  exact if_pos hmem

/-- An iteration brings one entry to what the pass makes of it. -/
theorem settled_visit (h : Inv a) (hs : a.visit cfg = some b) (halive : b.dead = false) :
    b.settled cfg w = a.settled cfg w := by
  obtain ⟨now, id, rest, hpa, hpb, hservice⟩ := visit_atomic h hs halive
  have hid : id ∉ rest := (List.nodup_cons.mp (h.pass now _ hpa).1).1
  unfold settled Namensdienst.entriesOf
  rw [hservice]
  simp only []
  rw [List.filter_filterMap, List.filterMap_filterMap, List.filterMap_filter]
  apply List.filterMap_congr
  intro e _
  unfold settledEntry treatEntry
  rw [hpa, hpb]
  simp only [List.mem_cons]
  by_cases he : e.id = id
  · -- this is the entry: it has nothing more before it
    rw [if_pos he, if_pos (Or.inl he)]
    cases hm : Namensdienst.monitorEntry cfg now e with
    | none => simp
    | some e' =>
        have hsame := monitorEntry_eq_some hm
        have hid' : e'.id ∉ rest := by
          rw [hsame, he]
          exact hid
        have hworker : e'.workerId = e.workerId := by rw [hsame]
        by_cases hw : e.workerId = w
        · simp [Option.filter_some, hworker, hw, hid']
        · simp [Option.filter_some, hworker, hw]
  · rw [if_neg he]
    by_cases hw : e.workerId = w
    · simp [Option.filter_some, he, hw]
    · simp [Option.filter_some, hw]

/-- Without an entry before it a pass has nothing more to do. -/
theorem settled_endPass (hs : a.endPass = some b) : b.settled cfg w = a.settled cfg w := by
  have hentry : a.settledEntry cfg = some := by
    funext e
    unfold endPass at hs
    unfold settledEntry
    split at hs
    · rename_i hp
      rw [hp]
      exact if_neg List.not_mem_nil
    · cases hs
  rw [endPass_eq_some hs, settled_of_idle rfl]
  unfold settled
  rw [hentry]
  exact List.filterMap_some.symm

/-! ## §4. The simulation. -/

/-- A request keeps what the worker sees. -/
theorem looksLike_request (hx : 0 ≤ cfg.x) (hy : 1 ≤ cfg.y) {e : NsEvent}
    (hs : a.step cfg (.request e) = some b) (hcalm : Calm cfg w a (.request e) b)
    (h : LooksLike cfg w a t) (ht : t.step cfg e = some u) :
    LooksLike cfg w b u ∧ t.answerTo w e = a.service.answerTo w e := by
  obtain ⟨he, service, hservice, rfl⟩ := request_eq_some hs
  obtain ⟨r, hr⟩ := exists_request he
  rw [Namensdienst.step_of_request hr, Option.some.injEq] at hservice ht
  subst hservice ht
  by_cases hw : r.workerId = w
  · -- its own request finds the same entries
    obtain ⟨hcalm, hcalm'⟩ := hcalm r hr hw
    have hown : t.listingOf r.workerId = a.service.listingOf r.workerId := by
      rw [hw, h, settled_of_nothingOverdue hx hy hcalm, Namensdienst.listingOf_eq]
    refine ⟨?_, ?_⟩
    · unfold LooksLike
      rw [settled_of_nothingOverdue hx hy hcalm', ← Namensdienst.listingOf_eq, ← hw]
      unfold Namensdienst.listingOf at hown ⊢
      rw [Namensdienst.listing_process, Namensdienst.listing_process]
      exact (onFiber_act r).own _ _ hown
    · rw [Namensdienst.answerTo_self hr hw, Namensdienst.answerTo_self hr hw,
        Namensdienst.ack_process, Namensdienst.ack_process, hown]
  · refine ⟨?_, ?_⟩
    · unfold LooksLike settled
      rw [Namensdienst.listingOf_process_ne t (Ne.symm hw), Namensdienst.entriesOf_process_ne hw]
      exact h
    · rw [Namensdienst.answerTo_ne hr hw, Namensdienst.answerTo_ne hr hw]

/-- **Step lemma.** -/
theorem looksLike_step (hx : 0 ≤ cfg.x) (hy : 1 ≤ cfg.y) (ha : Inv a) {e : MonitorEvent}
    (hs : a.step cfg e = some b) (halive : b.dead = false) (hcalm : Calm cfg w a e b)
    (h : LooksLike cfg w a t) (ht : run (Namensdienst.step cfg) t e.atomic = some u) :
    LooksLike cfg w b u ∧
      trace (Namensdienst.step cfg) (Namensdienst.answerTo w) t e.atomic
        = (a.answerTo w e).toList := by
  cases e with
  | request e =>
      have hstep := run_singleton_eq_some.mp ht
      obtain ⟨hlooks, hanswer⟩ := looksLike_request hx hy hs hcalm h hstep
      exact ⟨hlooks, (trace_singleton hstep).trans (congrArg Option.toList hanswer)⟩
  | beginPass now =>
      have hstep := run_singleton_eq_some.mp ht
      refine ⟨?_, trace_singleton hstep⟩
      obtain ⟨hp, hsettled⟩ := @settled_beginPass cfg _ _ w _ hs
      cases hstep
      unfold LooksLike
      rw [hsettled, Namensdienst.listingOf_monitorPass, h, settled_of_idle hp,
        Namensdienst.map_filterMap_monitorEntry]
  | visit =>
      cases ht
      refine ⟨?_, rfl⟩
      unfold LooksLike
      rw [settled_visit ha hs halive]
      exact h
  | endPass =>
      cases ht
      refine ⟨?_, rfl⟩
      unfold LooksLike
      rw [settled_endPass hs]
      exact h

/-- A dead thread stays dead. -/
theorem alive_of_run {es : List MonitorEvent} (hr : run (step cfg) a es = some s)
    (halive : s.dead = false) : a.dead = false := by
  by_contra hne
  have hdead : s.dead = true := run_preserves (I := fun s => s.dead = true) (by
    intro x e y _ hx hs
    by_contra hy
    rw [alive_of_step hs (by simpa using hy)] at hx
    cases hx) es (Reachable.init a) (by simpa using hne) hr
  rw [halive] at hdead
  cases hdead

/-- **Run lemma.** -/
theorem looksLike_run (hx : 0 ≤ cfg.x) (hy : 1 ≤ cfg.y) {es : List MonitorEvent} :
    ∀ {a : Monitor} {t : Namensdienst}, Reachable (step cfg) init a → LooksLike cfg w a t →
      run (step cfg) a es = some s → s.dead = false → Along (step cfg) (Calm cfg w) a es →
      run (Namensdienst.step cfg) t (es.flatMap MonitorEvent.atomic) = some u →
      LooksLike cfg w s u ∧
        trace (Namensdienst.step cfg) (Namensdienst.answerTo w) t
          (es.flatMap MonitorEvent.atomic) = trace (step cfg) (answerTo w) a es := by
  induction es with
  | nil =>
      intro a t _ h hr _ _ ht
      cases hr
      cases ht
      exact ⟨h, rfl⟩
  | cons e es ih =>
      intro a t hreach h hr halive hcalm ht
      obtain ⟨b, hs, hr⟩ := run_cons_eq_some.mp hr
      obtain ⟨hhead, htail⟩ := hcalm b hs
      rw [List.flatMap_cons] at ht ⊢
      obtain ⟨m, hm, ht⟩ := run_append_eq_some.mp ht
      obtain ⟨hlooks, hanswer⟩ := looksLike_step hx hy (inv_of_reachable hreach) hs
        (alive_of_run hr halive) hhead h hm
      obtain ⟨hlast, htrace⟩ := ih (hreach.tail hs) hlooks hr halive htail ht
      refine ⟨hlast, ?_⟩
      rw [trace_append hm, trace_cons hs, hanswer, htrace]

/-- Every step of the naming service is enabled. -/
theorem exists_run (cfg : LoopConfig) (es : List NsEvent) :
    ∀ t : Namensdienst, ∃ u, run (Namensdienst.step cfg) t es = some u := by
  induction es with
  | nil => exact fun t => ⟨t, rfl⟩
  | cons e es ih =>
      intro t
      have hstep : ∃ m, t.step cfg e = some m := by
        cases e <;> exact ⟨_, rfl⟩
      obtain ⟨m, hm⟩ := hstep
      obtain ⟨u, hu⟩ := ih m
      exact ⟨u, run_cons_eq_some.mpr ⟨m, hm, hu⟩⟩

/-- **A pass among the requests looks like one step.**  With `0 ≤ x` and `1 ≤ y`, for every run of
requests and of the monitor thread, as long as the thread lives, there is one run with the same
requests in which each pass is a single step at its start; and each worker whose requests find and
leave no overdue entry of it before a running pass gets the same answers in both, has the entries
the end of the running pass will find, and between two passes is listed the same. -/
theorem looks_atomic (hx : 0 ≤ cfg.x) (hy : 1 ≤ cfg.y) {es : List MonitorEvent}
    (hr : run (step cfg) init es = some s) (halive : s.dead = false) :
    ∃ t, run (Namensdienst.step cfg) .init (es.flatMap MonitorEvent.atomic) = some t ∧
      ∀ w, Along (step cfg) (Calm cfg w) init es →
        trace (Namensdienst.step cfg) (Namensdienst.answerTo w) .init
            (es.flatMap MonitorEvent.atomic) = trace (step cfg) (answerTo w) init es ∧
        t.listingOf w = (s.settled cfg w).map Worker.unnumbered ∧
        (s.pass = none → ∀ request : Envelope LookupPayload,
          (t.lookupWorker request).message.payload.workers.filter (·.workerId = w)
            = (s.service.lookupWorker request).message.payload.workers.filter
                (·.workerId = w)) := by
  obtain ⟨t, ht⟩ := exists_run cfg (es.flatMap MonitorEvent.atomic) .init
  refine ⟨t, ht, ?_⟩
  intro w hcalm
  have h0 : LooksLike cfg w init .init := rfl
  obtain ⟨hlooks, htrace⟩ := looksLike_run hx hy (Reachable.init init) h0 hr halive hcalm ht
  refine ⟨htrace, hlooks, ?_⟩
  intro hp request
  rw [Namensdienst.workers_lookupWorker, Namensdienst.workers_lookupWorker, hlooks,
    settled_of_idle hp, Namensdienst.listingOf_eq]

/-- Another worker. -/
def secondRegistration : Envelope RegisterWorkerPayload :=
  { payload := { workerId := "w2", taskTypes := ["sum"], address := "localhost",
                 port := Int32Field.default } }

/-- The pass at 25 removes the entry of the first worker, while the second one sends a
heartbeat. -/
def crossedPass : List MonitorEvent :=
  [.request (.registerWorker sampleRegistration 0), .request (.registerWorker secondRegistration 20),
    .beginPass 25, .visit, .request (.sendHeartbeat { payload := { workerId := "w2" } } 26), .visit,
    .endPass]

/-- To the second worker this looks as if its heartbeat had come after the pass. -/
theorem looks_atomic_crossedPass :
    ∃ s t, run (step ⟨10, 2⟩) init crossedPass = some s ∧
      run (Namensdienst.step ⟨10, 2⟩) .init
        [.registerWorker sampleRegistration 0, .registerWorker secondRegistration 20,
          .monitorPass 25, .sendHeartbeat { payload := { workerId := "w2" } } 26] = some t ∧
      t.listingOf "w2" = (s.settled ⟨10, 2⟩ "w2").map Worker.unnumbered := by
  have hrun : (run (step ⟨10, 2⟩) init crossedPass).isSome = true := by decide +kernel
  obtain ⟨s, hs⟩ := Option.isSome_iff_exists.mp hrun
  have halive : (run (step ⟨10, 2⟩) init crossedPass).map Monitor.dead = some false := by
    decide +kernel
  rw [hs, Option.map_some, Option.some.injEq] at halive
  obtain ⟨t, ht, hworkers⟩ := @looks_atomic ⟨10, 2⟩ s (by decide) (by decide) crossedPass hs halive
  obtain ⟨_, hlisting, _⟩ := hworkers "w2" (by decide +kernel)
  exact ⟨s, t, hs, ht, hlisting⟩

end Monitor

end TaskGrid
