/-
  TaskGrid.System.Presence — the naming service and one worker of it.

  The worker registers until the naming service says success and then only
  sends heartbeats: `send_heartbeat_loop` prints the message of the Ack and
  does not look at its success flag.  Other parties send any request except a
  registration or a heartbeat in the name of this worker; the monitor passes,
  and the naming service may restart with an empty registry.

  Main results: `presence_iff` (after two completed heartbeat exchanges the
  worker is found exactly when it still had an entry at the first of them) and
  `lost_for_good` (a worker without an entry is never found again).
-/
import TaskGrid.Namensdienst.Draining
import TaskGrid.Worker.Worker

namespace TaskGrid

open TaskGrid.Lib

/-! ## §1. The worker's side. -/

/-- A worker process: its id and types with WORKER_HOST and WORKER_PORT.  Splitting the
environment variable TASK_TYPES never gives the empty list. -/
structure WorkerProcess extends WorkerConfig where
  host : String
  port : Int32Field
  taskTypes_ne_nil : taskTypes ≠ []

namespace WorkerProcess

/-- The request `register_worker` sends. -/
def registration (w : WorkerProcess) (requestId : String) (timestamp : Int)
    (currentLoad : Int32Field) : Envelope RegisterWorkerPayload where
  messageType := "REGISTER_WORKER"
  requestId := requestId
  timestamp := timestamp
  sender := w.workerId
  payload := {
    workerId := w.workerId
    taskTypes := w.taskTypes
    address := w.host
    port := w.port
    status := "ACTIVE"
    currentLoad := currentLoad }

/-- The request `send_heartbeat_loop` sends.  It sets no status. -/
def heartbeat (w : WorkerProcess) (requestId : String) (timestamp : Int)
    (currentLoad : Int32Field) : Envelope HeartbeatPayload where
  messageType := "HEARTBEAT"
  requestId := requestId
  timestamp := timestamp
  sender := w.workerId
  payload := { workerId := w.workerId, currentLoad := currentLoad }

end WorkerProcess

/-! ## §2. The joint steps. -/

/-- The registry and what has happened to the worker so far.  `registered` is where its
program stands; the other three are history. -/
structure Presence where
  service : Namensdienst
  /-- A registration has been answered with success. -/
  registered : Bool
  /-- The latest completed heartbeat exchanges in a row, with no removal of an entry of the
  worker and no restart since the first of them. -/
  exchanges : Nat
  /-- Since the latest heartbeat that arrived, no monitor pass has found the first entry of the
  worker overdue, and no entry of it has been removed. -/
  fresh : Bool
  /-- Since the latest registration that arrived, a restart or a removal has taken the last
  entry of the worker. -/
  lost : Bool

/-- The labels of the joint steps. -/
inductive PresenceEvent where
  /-- A request of another party, or a monitor pass. -/
  | service (e : NsEvent)
  /-- The naming service starts anew with an empty registry. -/
  | restart
  /-- One attempt of `register_worker`. -/
  | register (delivery : Delivery) (requestId : String) (timestamp : Int)
      (currentLoad : Int32Field) (now : ℚ)
  /-- One round of `send_heartbeat_loop`. -/
  | heartbeat (delivery : Delivery) (requestId : String) (timestamp : Int)
      (currentLoad : Int32Field) (now : ℚ)

/-- The request speaks in the name of the worker id: it registers it or sends its heartbeat. -/
def NsEvent.speaksFor (w : String) : NsEvent → Bool
  | .registerWorker request _ => request.payload.workerId = w
  | .sendHeartbeat request _ => request.payload.workerId = w
  | _ => false

theorem NsEvent.registers_of_not_speaksFor {w : String} (e : NsEvent)
    (h : e.speaksFor w = false) : e.registers w = false := by
  cases e with
  | registerWorker => exact h
  | deregisterWorker | sendHeartbeat | monitorPass => rfl

/-- The step is a monitor pass. -/
def NsEvent.isMonitorPass : NsEvent → Bool
  | .monitorPass _ => true
  | _ => false

/-- The step is a monitor pass that finds the first entry of the worker overdue. -/
def NsEvent.findsOverdue (cfg : LoopConfig) (s : Namensdienst) (w : String) : NsEvent → Bool
  | .monitorPass now =>
      (s.entriesOf w).head?.any fun first => decide (now - first.lastHeartbeat ≥ (cfg.x : ℚ))
  | _ => false

namespace Presence

/-- Before the first step: an empty registry and a worker that has not registered. -/
def init : Presence := ⟨.init, false, 0, false, true⟩

/-- A step of the naming service by somebody else. -/
def afterService (s : Presence) (w : String) (service : Namensdienst) (overdue : Bool) :
    Presence :=
  let removed := (service.entriesOf w).length < (s.service.entriesOf w).length
  { s with
    service := service
    exchanges := if removed then 0 else s.exchanges
    fresh := s.fresh && !overdue && !removed
    lost := s.lost || (removed && (service.entriesOf w).isEmpty) }

/-- One joint step. -/
def step (cfg : LoopConfig) (w : WorkerProcess) (s : Presence) : PresenceEvent → Option Presence
  | .service e =>
      if e.speaksFor w.workerId then none
      else (s.service.step cfg e).map fun service =>
        s.afterService w.workerId service (e.findsOverdue cfg s.service w.workerId)
  | .restart =>
      some { s with service := .init, exchanges := 0, fresh := false, lost := true }
  | .register delivery requestId timestamp currentLoad now =>
      if s.registered then none
      else if delivery.reaches then
        let (service, reply) :=
          s.service.registerWorker (w.registration requestId timestamp currentLoad) now
        -- only a rejected registration leaves the registry without the worker
        some { s with
          service := service
          registered := delivery = .answered && reply.message.payload.success
          lost := s.lost && !reply.message.payload.success }
      else some s
  | .heartbeat delivery requestId timestamp currentLoad now =>
      if s.registered then
        if delivery.reaches then
          let (service, _) :=
            s.service.sendHeartbeat (w.heartbeat requestId timestamp currentLoad) now
          -- the Ack is printed and not looked at
          some { s with
            service := service
            exchanges := if delivery = .answered then s.exchanges + 1 else 0
            fresh := true }
        else some { s with exchanges := 0 }
      else none

variable {cfg : LoopConfig} {w : WorkerProcess} {s s' : Presence}

/-! ## §3. The entries of the worker. -/

/-- A request of another party leaves the entries of the worker alone or removes them all. -/
theorem entriesOf_of_request {a b : Namensdienst} {i : String} {e : NsEvent}
    (hs : a.step cfg e = some b) (he : e.speaksFor i = false) (hm : e.isMonitorPass = false) :
    b.entriesOf i = a.entriesOf i ∨ b.entriesOf i = [] := by
  cases e with
  | registerWorker request now =>
      cases hs
      have hne : request.payload.workerId ≠ i := by simpa [NsEvent.speaksFor] using he
      exact .inl (Namensdienst.entriesOf_registerWorker_ne now hne)
  | deregisterWorker request =>
      cases hs
      by_cases h : request.payload.workerId = i
      · subst h
        exact .inr (Namensdienst.entriesOf_deregisterWorker_self request)
      · exact .inl (Namensdienst.entriesOf_deregisterWorker_ne h)
  | sendHeartbeat request now =>
      cases hs
      have hne : request.payload.workerId ≠ i := by simpa [NsEvent.speaksFor] using he
      exact .inl (Namensdienst.entriesOf_sendHeartbeat_ne now hne)
  | monitorPass now => cases hm

/-- A pass that finds the first entry in time and removes none leaves the first one as it is. -/
theorem head_of_monitorPass {a : Namensdienst} {i : String} {now : ℚ} {first : Worker}
    {rest : List Worker} (hl : (a.monitorPass cfg now).entriesOf i = first :: rest)
    (hintime : (NsEvent.monitorPass now).findsOverdue cfg a i = false)
    (hkept : ¬ ((a.monitorPass cfg now).entriesOf i).length < (a.entriesOf i).length) :
    ∃ others, a.entriesOf i = first :: others := by
  rw [Namensdienst.entriesOf_monitorPass] at hl hkept
  unfold NsEvent.findsOverdue at hintime
  cases ha : a.entriesOf i with
  | nil =>
      rw [ha] at hl
      cases hl
  | cons u others =>
      rw [ha] at hl hkept hintime
      have hlt : ¬ now - u.lastHeartbeat ≥ (cfg.x : ℚ) := of_decide_eq_false hintime
      cases hu : Namensdienst.monitorEntry cfg now u with
      | none =>
          -- then the list has become shorter
          rw [List.filterMap_cons_none hu] at hkept
          exact absurd (Nat.lt_succ_of_le (List.length_filterMap_le _ _)) hkept
      | some v =>
          rw [List.filterMap_cons_some hu] at hl
          have hsame : v = u := by
            unfold Namensdienst.monitorEntry at hu
            simp only [if_neg hlt] at hu
            split at hu
            · cases hu
            · exact (Option.some.inj hu).symm
          rw [← (List.cons.inj hl).1, hsame]
          exact ⟨others, rfl⟩

/-- What somebody else does leaves no new entry of the worker. -/
theorem mem_entriesOf_of_service {a b : Namensdienst} {i : String} {e : NsEvent}
    (hs : a.step cfg e = some b) (he : e.speaksFor i = false) {x : Worker}
    (hx : x ∈ b.entriesOf i) : ∃ y ∈ a.entriesOf i, x.type = y.type := by
  by_cases hm : e.isMonitorPass = true
  · cases e with
    | monitorPass now =>
        cases hs
        rw [Namensdienst.entriesOf_monitorPass, List.mem_filterMap] at hx
        obtain ⟨y, hy, hxy⟩ := hx
        exact ⟨y, hy, by rw [monitorEntry_eq_some hxy]⟩
    | registerWorker | deregisterWorker | sendHeartbeat => cases hm
  · rcases entriesOf_of_request hs he (by simpa using hm) with h | h
    · exact ⟨x, h ▸ hx, rfl⟩
    · rw [h] at hx
      cases hx

/-- A registry without an entry of the worker gets none from anybody else. -/
theorem entriesOf_eq_nil_of_service {a b : Namensdienst} {i : String} {e : NsEvent}
    (hs : a.step cfg e = some b) (he : e.speaksFor i = false) (hnil : a.entriesOf i = []) :
    b.entriesOf i = [] :=
  Namensdienst.entriesOf_eq_nil_of_step hs (e.registers_of_not_speaksFor he) hnil

/-- A heartbeat of the worker refreshes its first entry, if it has one. -/
theorem entriesOf_heartbeat (hne : w.workerId ≠ "") (a : Namensdienst) (requestId : String)
    (timestamp : Int) (load : Int32Field) (now : ℚ) :
    (a.sendHeartbeat (w.heartbeat requestId timestamp load) now).1.entriesOf w.workerId
      = refreshHead (w.heartbeat requestId timestamp load).payload now
          (a.entriesOf w.workerId) := by
  show (a.sendHeartbeat _ now).1.entriesOf
    (w.heartbeat requestId timestamp load).payload.workerId = _
  rw [Namensdienst.entriesOf_sendHeartbeat_self now hne]
  rfl

/-! ## §4. The invariant. -/

/-- What holds between the two parties in every reachable state. -/
structure Inv (w : WorkerProcess) (s : Presence) : Prop where
  lost_iff : s.lost = true ↔ s.service.entriesOf w.workerId = []
  typed : ∀ e ∈ s.service.entriesOf w.workerId, e.type ∈ w.taskTypes
  head : s.fresh = true → ∀ e rest, s.service.entriesOf w.workerId = e :: rest →
    e.isDiscoverable = true
  beaten : s.fresh = true → s.registered = true
  named : s.registered = true → w.workerId ≠ ""

theorem inv_init (w : WorkerProcess) : Inv w init where
  lost_iff := ⟨fun _ => rfl, fun _ => rfl⟩
  typed e he := by cases he
  head hf := by cases hf
  beaten hf := by cases hf
  named hr := by cases hr

/-- What somebody else does keeps the invariant. -/
theorem inv_afterService (h : Inv w s) {service : Namensdienst} {e : NsEvent}
    (hs : s.service.step cfg e = some service) (he : e.speaksFor w.workerId = false) :
    Inv w (s.afterService w.workerId service (e.findsOverdue cfg s.service w.workerId)) := by
  have hfresh : (s.afterService w.workerId service
      (e.findsOverdue cfg s.service w.workerId)).fresh = true →
      s.fresh = true ∧ e.findsOverdue cfg s.service w.workerId = false ∧
        ¬ (service.entriesOf w.workerId).length < (s.service.entriesOf w.workerId).length := by
    intro hf
    simpa [afterService, and_assoc] using hf
  refine ⟨?_, ?_, ?_, fun hf => h.beaten (hfresh hf).1, h.named⟩
  · show (s.lost || (decide ((service.entriesOf w.workerId).length
        < (s.service.entriesOf w.workerId).length)
        && (service.entriesOf w.workerId).isEmpty)) = true ↔ service.entriesOf w.workerId = []
    by_cases hnil : s.service.entriesOf w.workerId = []
    · rw [h.lost_iff.mpr hnil, entriesOf_eq_nil_of_service hs he hnil]
      exact ⟨fun _ => rfl, fun _ => rfl⟩
    · -- the last entry goes when the new list is empty and the old one was not
      have hlost : s.lost = false := by
        rw [← Bool.not_eq_true, h.lost_iff]
        exact hnil
      have hpos : 0 < (s.service.entriesOf w.workerId).length := List.length_pos_iff.mpr hnil
      rw [hlost, Bool.false_or, Bool.and_eq_true, decide_eq_true_eq, List.isEmpty_iff]
      constructor
      · exact fun hb => hb.2
      · exact fun hb => ⟨by rw [hb]; exact hpos, hb⟩
  · intro x hx
    obtain ⟨y, hy, hxy⟩ := mem_entriesOf_of_service hs he hx
    rw [hxy]
    exact h.typed y hy
  · intro hf first rest hl
    obtain ⟨hold, hintime, hkept⟩ := hfresh hf
    have hl' : service.entriesOf w.workerId = first :: rest := hl
    by_cases hpass : e.isMonitorPass = true
    · cases e with
      | monitorPass now =>
          cases hs
          obtain ⟨others, hothers⟩ := head_of_monitorPass hl' hintime hkept
          exact h.head hold first others hothers
      | registerWorker | deregisterWorker | sendHeartbeat => cases hpass
    · rcases entriesOf_of_request hs he (by simpa using hpass) with hb | hb
      · rw [hb] at hl'
        exact h.head hold first rest hl'
      · rw [hb] at hl'
        cases hl'

/-- The entries after a registration that is accepted: there are some, all of the worker's
types. -/
theorem entriesOf_registration (h : Inv w s) (hne : w.workerId ≠ "") (requestId : String)
    (timestamp : Int) (load : Int32Field) (now : ℚ) :
    (s.service.registerWorker (w.registration requestId timestamp load) now).1.entriesOf
        w.workerId ≠ [] ∧
      ∀ e ∈ (s.service.registerWorker (w.registration requestId timestamp load)
        now).1.entriesOf w.workerId, e.type ∈ w.taskTypes := by
  have htypes : (w.registration requestId timestamp load).payload.effectiveTypes = w.taskTypes :=
    effectiveTypes_of_ne_nil w.taskTypes_ne_nil
  have hne' : (w.registration requestId timestamp load).payload.workerId ≠ "" := hne
  have hentries := @Namensdienst.entriesOf_registerWorker_self s.service _ now hne'
  rw [htypes] at hentries
  change (s.service.registerWorker _ now).1.entriesOf w.workerId = _ at hentries
  rw [hentries]
  refine ⟨?_, ?_⟩
  · obtain ⟨t, ht⟩ := List.exists_mem_of_ne_nil _ w.taskTypes_ne_nil
    obtain ⟨m, hm⟩ := exists_mem_newEntries (w.registration requestId timestamp load).payload now
      s.service.idcount ht
    exact List.ne_nil_of_mem (List.mem_append_right _ hm)
  · intro e he
    rcases List.mem_append.mp he with he | he
    · exact h.typed e (List.mem_filter.mp he).1
    · obtain ⟨t, ht, m, heq⟩ := mem_newEntries he
      rw [heq]
      exact ht

/-- What an attempt to register can do: nothing when it does not arrive or has no worker id, and
otherwise the accepted registration. -/
theorem register_eq_some {delivery : Delivery} {requestId : String} {timestamp : Int}
    {load : Int32Field} {now : ℚ}
    (hs : s.step cfg w (.register delivery requestId timestamp load now) = some s') :
    s' = s ∨ s.registered = false ∧ s'.fresh = s.fresh ∧
      (s'.service = s.service ∧ s'.lost = s.lost ∧ s'.registered = false
        ∨ w.workerId ≠ "" ∧ s'.lost = false ∧
          s'.service
            = (s.service.registerWorker (w.registration requestId timestamp load) now).1) := by
  unfold step at hs
  simp only [] at hs
  split at hs
  case isTrue => cases hs
  rename_i hreg
  split at hs
  case isFalse =>
    rw [Option.some.injEq] at hs
    exact .inl hs.symm
  rw [Option.some.injEq] at hs
  refine .inr ⟨by simpa using hreg, by rw [← hs], ?_⟩
  by_cases hne : w.workerId = ""
  · -- turned down: no worker id
    have hrej : s.service.registerWorker (w.registration requestId timestamp load) now
        = (s.service, workerIdMissing) := if_pos hne
    rw [hrej] at hs
    rw [← hs]
    exact .inl ⟨rfl, Bool.and_true s.lost, Bool.and_false _⟩
  · have hreply : (s.service.registerWorker (w.registration requestId timestamp load) now).2
        = nsAck true "Worker registered" := Namensdienst.reply_registerWorker now hne
    refine .inr ⟨hne, ?_, by rw [← hs]⟩
    rw [← hs]
    simp only [hreply]
    exact Bool.and_false s.lost

/-- An attempt to register keeps the invariant. -/
theorem inv_register (h : Inv w s) {delivery : Delivery} {requestId : String} {timestamp : Int}
    {load : Int32Field} {now : ℚ}
    (hs : s.step cfg w (.register delivery requestId timestamp load now) = some s') :
    Inv w s' := by
  rcases register_eq_some hs with hsame | ⟨hreg, hfresh, hcases⟩
  · exact hsame ▸ h
  -- a worker that has not registered has not beaten either
  have hstale : s'.fresh = false := by
    rw [hfresh, ← Bool.not_eq_true]
    intro hf
    rw [h.beaten hf] at hreg
    cases hreg
  have hhead : s'.fresh = true → ∀ e rest, s'.service.entriesOf w.workerId = e :: rest →
      e.isDiscoverable = true := by
    rw [hstale]
    exact nofun
  have hbeaten : s'.fresh = true → s'.registered = true := by
    rw [hstale]
    exact nofun
  rcases hcases with ⟨hservice, hlost, hreg'⟩ | ⟨hne, hlost, hservice⟩
  · refine ⟨?_, ?_, hhead, hbeaten, ?_⟩
    · rw [hlost, hservice]
      exact h.lost_iff
    · rw [hservice]
      exact h.typed
    · rw [hreg']
      exact nofun
  · obtain ⟨hsome, htyped⟩ := entriesOf_registration h hne requestId timestamp load now
    refine ⟨?_, ?_, hhead, hbeaten, fun _ => hne⟩
    · rw [hlost, hservice]
      exact ⟨nofun, fun hb => absurd hb hsome⟩
    · rw [hservice]
      exact htyped

/-- A round of the heartbeat loop keeps the invariant. -/
theorem inv_heartbeat (h : Inv w s) {delivery : Delivery} {requestId : String} {timestamp : Int}
    {load : Int32Field} {now : ℚ}
    (hs : s.step cfg w (.heartbeat delivery requestId timestamp load now) = some s') :
    Inv w s' := by
  unfold step at hs
  simp only [] at hs
  split at hs
  case isFalse => cases hs
  rename_i hreg
  split at hs
  case isFalse =>
    rw [Option.some.injEq] at hs
    rw [← hs]
    exact ⟨h.lost_iff, h.typed, h.head, h.beaten, h.named⟩
  rw [Option.some.injEq] at hs
  have hentries := entriesOf_heartbeat (h.named hreg) s.service requestId timestamp load now
  rw [← hs]
  refine ⟨?_, ?_, ?_, fun _ => hreg, fun _ => h.named hreg⟩
  · show s.lost = true ↔ _
    rw [hentries, h.lost_iff]
    cases s.service.entriesOf w.workerId with
    | nil => exact ⟨fun _ => rfl, fun _ => rfl⟩
    | cons first rest => exact ⟨nofun, nofun⟩
  · rw [hentries]
    have htyped := h.typed
    cases hl : s.service.entriesOf w.workerId with
    | nil => exact fun e he => nomatch he
    | cons first rest =>
        rw [hl] at htyped
        intro e he
        rcases List.mem_cons.mp he with he | he
        · rw [he]
          exact htyped first List.mem_cons_self
        · exact htyped e (List.mem_cons_of_mem _ he)
  · intro _ e rest he
    rw [hentries] at he
    cases hl : s.service.entriesOf w.workerId with
    | nil => rw [hl] at he; cases he
    | cons first others =>
        -- the heartbeat sets no status, so the first entry says ACTIVE
        rw [hl] at he
        have hfirst := (List.cons.inj he).1
        rw [← hfirst, Namensdienst.isDiscoverable_iff]
        show Namensdienst.Listable (statusOrActive "")
        decide

theorem inv_of_reachable (h : Reachable (step cfg w) init s) : Inv w s := by
  refine h.invariant (inv_init w) ?_
  intro a e b _ hI hs
  cases e with
  | service e =>
      unfold step at hs
      simp only [] at hs
      split at hs
      case isTrue => cases hs
      rename_i he
      obtain ⟨service, hservice, hb⟩ := Option.map_eq_some_iff.mp hs
      rw [← hb]
      exact inv_afterService hI hservice (by simpa using he)
  | restart =>
      cases hs
      exact ⟨⟨fun _ => rfl, fun _ => rfl⟩, fun e he => (nomatch he), nofun, nofun, hI.named⟩
  | register => exact inv_register hI hs
  | heartbeat => exact inv_heartbeat hI hs

/-! ## §5. The main result. -/

/-- LookupWorker returns the worker for at least one of its types. -/
def Found (w : WorkerProcess) (s : Presence) : Prop :=
  ∃ t ∈ w.taskTypes, ∃ p ∈ s.service.lookup t, p.workerId = w.workerId

/-- Two heartbeat exchanges in a row are completed, with no removal of an entry of the worker
and no restart since the first, and no monitor pass has found its first entry overdue since the
latest. -/
def Alive (s : Presence) : Prop := 2 ≤ s.exchanges ∧ s.fresh = true

/-- A worker whose first entry is in time is found when it has an entry, and not otherwise. -/
theorem found_iff (h : Inv w s) (hf : s.fresh = true) : s.Found w ↔ s.lost = false := by
  rw [← Bool.not_eq_true, h.lost_iff]
  constructor
  · rintro ⟨t, _, p, hp, hw⟩ hnil
    obtain ⟨e, he, _⟩ := Namensdienst.mem_lookup.mp ⟨hp, hw⟩
    rw [hnil] at he
    cases he
  · intro hne
    obtain ⟨first, rest, hl⟩ := List.exists_cons_of_ne_nil hne
    have hmem : first ∈ s.service.entriesOf w.workerId := by
      rw [hl]
      exact List.mem_cons_self
    exact ⟨first.type, h.typed first hmem,
      Namensdienst.listed_of_mem hmem rfl (h.head hf first rest hl)⟩

/-- **When heartbeats keep a worker in the registry.**  Along every run: whenever two heartbeat
exchanges in a row are completed, with no removal and no restart since the first, LookupWorker
returns the worker, if and only if whenever this is so neither a restart nor a removal of its
last entry has come between its registration and these exchanges. -/
theorem presence_iff (cfg : LoopConfig) (w : WorkerProcess) (es : List PresenceEvent) :
    Along (step cfg w) (fun _ _ b => b.Alive → b.Found w) init es
      ↔ Along (step cfg w) (fun _ _ b => b.Alive → b.lost = false) init es := by
  refine along_iff_along ?_ es
  intro a e b ha hs
  have hinv := inv_of_reachable (ha.tail hs)
  constructor
  · exact fun h hl => (found_iff hinv hl.2).mp (h hl)
  · exact fun h hl => (found_iff hinv hl.2).mpr (h hl)

/-- **Step lemma.**  Nothing brings the entries of a registered worker back. -/
theorem entriesOf_eq_nil_of_step (h : Inv w s) (hreg : s.registered = true)
    (hnil : s.service.entriesOf w.workerId = []) {e : PresenceEvent}
    (hs : s.step cfg w e = some s') :
    s'.registered = true ∧ s'.service.entriesOf w.workerId = [] := by
  cases e with
  | service e =>
      unfold step at hs
      simp only [] at hs
      split at hs
      case isTrue => cases hs
      rename_i he
      obtain ⟨service, hservice, hb⟩ := Option.map_eq_some_iff.mp hs
      rw [← hb]
      exact ⟨hreg, entriesOf_eq_nil_of_service hservice (by simpa using he) hnil⟩
  | restart =>
      cases hs
      exact ⟨hreg, rfl⟩
  | register =>
      unfold step at hs
      rw [hreg] at hs
      cases hs
  | heartbeat delivery requestId timestamp load now =>
      unfold step at hs
      rw [hreg] at hs
      simp only [if_true] at hs
      split at hs
      case isFalse =>
        rw [Option.some.injEq] at hs
        rw [← hs]
        exact ⟨rfl, hnil⟩
      rw [Option.some.injEq] at hs
      rw [← hs]
      refine ⟨rfl, ?_⟩
      rw [entriesOf_heartbeat (h.named hreg), hnil]
      rfl

/-- **A worker without an entry stays without.**  Once registered, it sends heartbeats only, and
nobody registers it again: it is never listed again, however many exchanges it completes. -/
theorem lost_for_good (h : Reachable (step cfg w) init s) (hreg : s.registered = true)
    (hlost : s.lost = true) {es : List PresenceEvent} (hr : run (step cfg w) s es = some s') :
    ¬ s'.Found w := by
  have hkeep : s'.registered = true ∧ s'.service.entriesOf w.workerId = [] := by
    refine run_preserves (I := fun s => s.registered = true ∧
      s.service.entriesOf w.workerId = []) ?_ es h ⟨hreg, ?_⟩ hr
    · intro a e b ha hI hs
      exact entriesOf_eq_nil_of_step (inv_of_reachable ha) hI.1 hI.2 hs
    · exact (inv_of_reachable h).lost_iff.mp hlost
  rintro ⟨t, _, p, hp, hw⟩
  obtain ⟨e, he, _⟩ := Namensdienst.mem_lookup.mp ⟨hp, hw⟩
  rw [hkeep.2] at he
  cases he

/-! ## §6. A restart. -/

/-- A worker with one task type. -/
def sampleProcess : WorkerProcess where
  workerId := "w1"
  taskTypes := ["reverse"]
  host := "localhost"
  port := Namensdienst.samplePort
  taskTypes_ne_nil := List.cons_ne_nil _ _

/-- The worker registers, the naming service restarts, and the first heartbeat is answered. -/
def restartRun : List PresenceEvent :=
  [.register .answered "r1" 0 .default 0, .restart, .heartbeat .answered "r2" 5 .default 5]

/-- The second heartbeat is answered as well, and nobody finds the worker. -/
theorem not_found_restartRun :
    ¬ Along (step ⟨10, 2⟩ sampleProcess) (fun _ _ b => b.Alive → b.Found sampleProcess) init
      (restartRun ++ [.heartbeat .answered "r3" 10 .default 10]) := by
  intro hall
  have hlast := along_iff_forall_split.mp hall restartRun _ [] _ _ rfl rfl rfl
  obtain ⟨t, ht, p, hp, _⟩ := hlast ⟨by decide, by decide⟩
  have hempty : p ∈ ([] : List WorkerPayload) := hp
  cases hempty

end Presence

end TaskGrid
