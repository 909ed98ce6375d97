/-
  TaskGrid.Namensdienst.Entries — the registry as seen by one worker.

  `s.entriesOf w` are the entries of the worker id `w`, in order.  Every
  request touches the entries of one worker id and leaves the others alone
  (`entriesOf_*`); a monitor pass treats every entry on its own.  What
  LookupWorker says about `w` depends on these entries only (`mem_lookup`).
-/
import TaskGrid.Namensdienst.Nameservice

namespace TaskGrid

open TaskGrid.Lib

/-! ## §1. New entries. -/

/-- Every new entry is `entry` of one of the types. -/
theorem mem_newEntries {p : RegisterWorkerPayload} {now : ℚ} {e : Worker} :
    ∀ {n : Nat} {types : List String}, e ∈ p.newEntries now n types →
      ∃ t ∈ types, ∃ m, e = p.entry now t m := by
  intro n types
  induction types generalizing n with
  | nil => intro h; cases h
  | cons t types ih =>
      intro h
      unfold RegisterWorkerPayload.newEntries at h
      rw [List.mem_cons] at h
      rcases h with h | h
      · exact ⟨t, List.mem_cons_self, n, h⟩
      · obtain ⟨t', ht', m, he⟩ := ih h
        exact ⟨t', List.mem_cons_of_mem t ht', m, he⟩

/-- Every type gets an entry. -/
theorem exists_mem_newEntries (p : RegisterWorkerPayload) (now : ℚ) {t : String} :
    ∀ (n : Nat) {types : List String}, t ∈ types →
      ∃ m, p.entry now t m ∈ p.newEntries now n types := by
  intro n types
  induction types generalizing n with
  | nil => intro h; cases h
  | cons t' types ih =>
      intro h
      unfold RegisterWorkerPayload.newEntries
      rcases List.mem_cons.mp h with h | h
      · exact ⟨n, by rw [h]; exact List.mem_cons_self⟩
      · obtain ⟨m, hm⟩ := ih (n + 1) h
        exact ⟨m, List.mem_cons_of_mem _ hm⟩

theorem effectiveTypes_ne_nil (p : RegisterWorkerPayload) : p.effectiveTypes ≠ [] := by
  unfold RegisterWorkerPayload.effectiveTypes
  split
  · decide
  · assumption

theorem effectiveTypes_of_ne_nil {p : RegisterWorkerPayload} (h : p.taskTypes ≠ []) :
    p.effectiveTypes = p.taskTypes := if_neg h

/-! ## §2. The first entry of a worker. -/

/-- What a heartbeat does to the entries of its worker: the first one is refreshed. -/
def refreshHead (p : HeartbeatPayload) (now : ℚ) : List Worker → List Worker
  | [] => []
  | e :: rest => e.refreshed p now :: rest

theorem filter_refreshFirst_self (p : HeartbeatPayload) (now : ℚ) (l : List Worker) :
    (Namensdienst.refreshFirst p now l).filter (·.workerId = p.workerId)
      = refreshHead p now (l.filter (·.workerId = p.workerId)) := by
  induction l with
  | nil => rfl
  | cons e l ih =>
      unfold Namensdienst.refreshFirst
      by_cases he : e.workerId = p.workerId
      · have he' : (e.refreshed p now).workerId = p.workerId := he
        rw [if_pos he, List.filter_cons_of_pos (by simpa using he'),
          List.filter_cons_of_pos (by simpa using he)]
        rfl
      · rw [if_neg he, List.filter_cons_of_neg (by simpa using he),
          List.filter_cons_of_neg (by simpa using he), ih]

theorem filter_refreshFirst_ne {p : HeartbeatPayload} {w : String} (h : p.workerId ≠ w) (now : ℚ)
    (l : List Worker) : (Namensdienst.refreshFirst p now l).filter (·.workerId = w)
      = l.filter (·.workerId = w) := by
  induction l with
  | nil => rfl
  | cons e l ih =>
      unfold Namensdienst.refreshFirst
      by_cases he : e.workerId = p.workerId
      · have hew : e.workerId ≠ w := fun hw => h (he.symm.trans hw)
        have hew' : (e.refreshed p now).workerId ≠ w := hew
        rw [if_pos he, List.filter_cons_of_neg (by simpa using hew'),
          List.filter_cons_of_neg (by simpa using hew)]
      · rw [if_neg he, List.filter_cons, List.filter_cons, ih]

/-! ## §3. The entries of a worker after each step. -/

/-- The monitor changes nothing of an entry but its status. -/
theorem monitorEntry_eq_some {cfg : LoopConfig} {now : ℚ} {e e' : Worker}
    (h : Namensdienst.monitorEntry cfg now e = some e') :
    e' = { e with status := e'.status } := by
  unfold Namensdienst.monitorEntry at h
  simp only [] at h
  split at h
  · cases h
  · rw [Option.some.injEq] at h
    rw [← h]
    split <;> rfl

/-- The request registers the worker id. -/
def NsEvent.registers (w : String) : NsEvent → Bool
  | .registerWorker request _ => request.payload.workerId = w
  | _ => false

namespace Namensdienst

/-- The entries of a worker id. -/
def entriesOf (s : Namensdienst) (w : String) : List Worker :=
  s.workers.filter (·.workerId = w)

variable {cfg : LoopConfig} {s : Namensdienst} {w : String}

/-- A registration with a worker id is accepted. -/
theorem reply_registerWorker {request : Envelope RegisterWorkerPayload} (now : ℚ)
    (hne : request.payload.workerId ≠ "") :
    (s.registerWorker request now).2 = nsAck true "Worker registered" := by
  unfold registerWorker
  simp only [if_neg hne]

/-- A registration keeps the entries at other addresses and appends the new ones. -/
theorem entriesOf_registerWorker_self {request : Envelope RegisterWorkerPayload} (now : ℚ)
    (hne : request.payload.workerId ≠ "") :
    (s.registerWorker request now).1.entriesOf request.payload.workerId
      = (s.entriesOf request.payload.workerId).filter (fun e => !request.payload.replaces e)
        ++ request.payload.newEntries now s.idcount request.payload.effectiveTypes := by
  have hnew : (request.payload.newEntries now s.idcount request.payload.effectiveTypes).filter
      (·.workerId = request.payload.workerId)
      = request.payload.newEntries now s.idcount request.payload.effectiveTypes := by
    rw [List.filter_eq_self]
    intro e he
    obtain ⟨t, _, m, he⟩ := mem_newEntries he
    rw [he]
    exact decide_eq_true rfl
  unfold registerWorker entriesOf
  simp only [if_neg hne]
  rw [List.filter_append, hnew, List.filter_filter, List.filter_filter]
  congr 1
  congr 1
  funext e
  rw [Bool.and_comm]

theorem entriesOf_registerWorker_ne {request : Envelope RegisterWorkerPayload} (now : ℚ)
    (h : request.payload.workerId ≠ w) :
    (s.registerWorker request now).1.entriesOf w = s.entriesOf w := by
  unfold registerWorker
  by_cases hne : request.payload.workerId = ""
  · simp only [if_pos hne]
  · have hnew : (request.payload.newEntries now s.idcount
        request.payload.effectiveTypes).filter (·.workerId = w) = [] := by
      rw [List.filter_eq_nil_iff]
      intro e he
      obtain ⟨t, _, m, he⟩ := mem_newEntries he
      rw [he]
      simp [RegisterWorkerPayload.entry, h]
    unfold entriesOf
    simp only [if_neg hne]
    rw [List.filter_append, hnew, List.append_nil, List.filter_filter]
    -- the entries of `w` are none of those the registration replaces
    apply List.filter_congr
    intro e _
    by_cases he : e.workerId = w
    · have hnr : request.payload.replaces e = false := by
        unfold RegisterWorkerPayload.replaces
        simp [he, Ne.symm h]
      simp [he, hnr]
    · simp [he]

theorem entriesOf_deregisterWorker_self (request : Envelope DeregisterWorkerPayload) :
    (s.deregisterWorker request).1.entriesOf request.payload.workerId = [] := by
  unfold deregisterWorker entriesOf
  simp only []
  rw [List.filter_filter, List.filter_eq_nil_iff]
  intro e _
  simp

theorem entriesOf_deregisterWorker_ne {request : Envelope DeregisterWorkerPayload}
    (h : request.payload.workerId ≠ w) :
    (s.deregisterWorker request).1.entriesOf w = s.entriesOf w := by
  unfold deregisterWorker entriesOf
  simp only []
  rw [List.filter_filter]
  apply List.filter_congr
  intro e _
  by_cases he : e.workerId = w
  · simp [he, Ne.symm h]
  · simp [he]

/-- A heartbeat refreshes the first entry of its worker and no other. -/
theorem entriesOf_sendHeartbeat_self {request : Envelope HeartbeatPayload} (now : ℚ)
    (hne : request.payload.workerId ≠ "") :
    (s.sendHeartbeat request now).1.entriesOf request.payload.workerId
      = refreshHead request.payload now (s.entriesOf request.payload.workerId) := by
  unfold sendHeartbeat
  simp only [if_neg hne]
  split
  · exact filter_refreshFirst_self request.payload now s.workers
  · rename_i hnone
    have hnil : s.entriesOf request.payload.workerId = [] := by
      unfold entriesOf
      rw [List.filter_eq_nil_iff]
      intro e he
      simp only [List.any_eq_true, not_exists, not_and] at hnone
      exact hnone e he
    rw [hnil]
    rfl

theorem entriesOf_sendHeartbeat_ne {request : Envelope HeartbeatPayload} (now : ℚ)
    (h : request.payload.workerId ≠ w) :
    (s.sendHeartbeat request now).1.entriesOf w = s.entriesOf w := by
  unfold sendHeartbeat
  simp only []
  split
  · rfl
  · split
    · exact filter_refreshFirst_ne h now s.workers
    · rfl

/-- A monitor pass treats the entries of a worker one by one. -/
theorem entriesOf_monitorPass (now : ℚ) :
    (s.monitorPass cfg now).entriesOf w = (s.entriesOf w).filterMap (monitorEntry cfg now) := by
  unfold monitorPass entriesOf
  simp only []
  induction s.workers with
  | nil => rfl
  | cons e l ih =>
      cases hm : monitorEntry cfg now e with
      | none =>
          rw [List.filterMap_cons_none hm, ih]
          by_cases he : e.workerId = w
          · rw [List.filter_cons_of_pos (by simpa using he), List.filterMap_cons_none hm]
          · rw [List.filter_cons_of_neg (by simpa using he)]
      | some e' =>
          have hid : e'.workerId = e.workerId := by rw [monitorEntry_eq_some hm]
          rw [List.filterMap_cons_some hm]
          by_cases he : e.workerId = w
          · rw [List.filter_cons_of_pos (by simpa [hid] using he),
              List.filter_cons_of_pos (by simpa using he), List.filterMap_cons_some hm, ih]
          · rw [List.filter_cons_of_neg (by simpa [hid] using he),
              List.filter_cons_of_neg (by simpa using he), ih]

/-- Only a registration gives a worker an entry: a heartbeat without one is answered with
"Worker not found". -/
theorem entriesOf_eq_nil_of_step {s' : Namensdienst} {e : NsEvent}
    (hs : s.step cfg e = some s') (he : e.registers w = false) (hnil : s.entriesOf w = []) :
    s'.entriesOf w = [] := by
  cases e with
  | registerWorker request now =>
      cases hs
      rw [entriesOf_registerWorker_ne now (of_decide_eq_false he), hnil]
  | deregisterWorker request =>
      cases hs
      by_cases hw : request.payload.workerId = w
      · rw [← hw]
        exact entriesOf_deregisterWorker_self request
      · rw [entriesOf_deregisterWorker_ne hw, hnil]
  | sendHeartbeat request now =>
      cases hs
      by_cases hempty : request.payload.workerId = ""
      · -- turned down: no worker id
        have hrej : s.sendHeartbeat request now = (s, workerIdMissing) := if_pos hempty
        rw [hrej]
        exact hnil
      · by_cases hw : request.payload.workerId = w
        · subst hw
          rw [entriesOf_sendHeartbeat_self now hempty, hnil]
          rfl
        · rw [entriesOf_sendHeartbeat_ne now hw, hnil]
  | monitorPass now =>
      cases hs
      rw [entriesOf_monitorPass, hnil]
      rfl

/-! ## §4. LookupWorker. -/

/-- What LookupWorker lists for a worker: its discoverable entries of the type. -/
theorem mem_lookup {t : String} {p : WorkerPayload} :
    p ∈ s.lookup t ∧ p.workerId = w
      ↔ ∃ e ∈ s.entriesOf w, e.type = t ∧ e.isDiscoverable = true ∧ p = e.payload := by
  unfold lookup lookupWorker lookupEntries entriesOf
  simp only [List.mem_map, List.mem_filter, Bool.and_eq_true, decide_eq_true_eq]
  constructor
  · rintro ⟨⟨e, ⟨he, ht, hd⟩, hp⟩, hw⟩
    have hew : e.workerId = w := by
      rw [← hp] at hw
      exact hw
    exact ⟨e, ⟨he, hew⟩, ht, hd, hp.symm⟩
  · rintro ⟨e, ⟨he, hew⟩, ht, hd, hp⟩
    exact ⟨⟨e, ⟨he, ht, hd⟩, hp.symm⟩, by rw [hp]; exact hew⟩

/-- A worker with a discoverable entry of the type is listed. -/
theorem listed_of_mem {t : String} {e : Worker} (he : e ∈ s.entriesOf w) (ht : e.type = t)
    (hd : e.isDiscoverable = true) : ∃ p ∈ s.lookup t, p.workerId = w := by
  obtain ⟨hp, hw⟩ := mem_lookup.mpr ⟨e, he, ht, hd, rfl⟩
  exact ⟨_, hp, hw⟩

end Namensdienst

end TaskGrid
