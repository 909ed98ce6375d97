/-
  TaskGrid.Dispatcher.GetStatus — servicer.py: GetStatus.

  GetStatus puts the figures of the collector into int32 fields, and the
  ValueError of a figure that does not fit ends the call.  The counters are
  bounded by the number of tasks, the timeouts by that number times the limit
  on retries; so GetStatus answers for as long as this product fits
  (`status_answers`).

  The text of `details` is a parameter: `json.dumps` of the figures.
-/
import TaskGrid.Dispatcher.StatusCollector
import TaskGrid.Dispatcher.Retries
import Mathlib.Algebra.Order.BigOperators.Group.List

namespace TaskGrid

open TaskGrid.Lib

/-! ## §1. The handler. -/

/-- StatusResponse.Payload.  The average is the exact one, as in `Status`. -/
structure StatusResponsePayload where
  queuedTasks : Int32Field := .default
  activeWorkers : Int32Field := .default
  runningTasks : Int32Field := .default
  completedTasks : Int32Field := .default
  failedTasks : Int32Field := .default
  timeoutCount : Int32Field := .default
  retryCount : Int32Field := .default
  averageProcessingTimeMs : ℚ := 0
  details : String := ""

/-- The payload with the figures: the first one that does not fit raises. -/
def statusPayload (dumps : Status → String) (data : Status) :
    Except PyError StatusResponsePayload := do
  let queuedTasks ← encodeInt32 data.offeneTasks
  let runningTasks ← encodeInt32 data.laufendeTasks
  let activeWorkers ← encodeInt32 data.aktiveWorker
  let completedTasks ← encodeInt32 data.abgeschlosseneTasks
  let failedTasks ← encodeInt32 data.fehlgeschlageneTasks
  let timeoutCount ← encodeInt32 data.anzahlTimeouts
  let retryCount ← encodeInt32 data.anzahlRetries
  return {
    queuedTasks := queuedTasks
    activeWorkers := activeWorkers
    runningTasks := runningTasks
    completedTasks := completedTasks
    failedTasks := failedTasks
    timeoutCount := timeoutCount
    retryCount := retryCount
    averageProcessingTimeMs := data.durchschnittlicheBearbeitungszeitMs
    details := dumps data }

namespace Dispatcher

/-- `DispatcherServicer.GetStatus`.  The collector is given by the lookups it makes. -/
def getStatusReply (dumps : Status → String) (collector : Option (String → List WorkerInfo))
    (d : Dispatcher) (request : Envelope Unit) (now : Int) :
    Except PyError (Reply StatusResponsePayload) :=
  match collector with
  | none => .ok { message := { payload := { details := "\x7b\x7d" } } }
  | some lookupWorker =>
      match statusPayload dumps (getStatus d.store lookupWorker) with
      | .error e => .error e
      | .ok payload => .ok { message := {
          messageType := "STATUS_RESPONSE"
          requestId := request.requestId
          timestamp := now
          sender := "dispatcher"
          payload := payload } }

end Dispatcher

/-! ## §2. Figures that fit. -/

theorem encodeInt32_of_lt {n : Int} (h0 : 0 ≤ n) (h : n < 2 ^ 31) :
    ∃ m, encodeInt32 n = .ok m ∧ m.val = n := by
  obtain ⟨m, hm⟩ := (encodeInt32_isOk_iff n).mpr ⟨by omega, by omega⟩
  exact ⟨m, hm, val_of_encodeInt32 hm⟩

/-- What every figure of a status is below. -/
structure Status.Below (data : Status) (bound : Int) : Prop where
  offeneTasks : (data.offeneTasks : Int) < bound
  laufendeTasks : (data.laufendeTasks : Int) < bound
  aktiveWorker : (data.aktiveWorker : Int) < bound
  abgeschlosseneTasks : (data.abgeschlosseneTasks : Int) < bound
  fehlgeschlageneTasks : (data.fehlgeschlageneTasks : Int) < bound
  timeouts_nonneg : 0 ≤ data.anzahlTimeouts
  anzahlTimeouts : data.anzahlTimeouts < bound
  anzahlRetries : data.anzahlRetries = data.anzahlTimeouts

/-- The response shows the figures. -/
structure StatusResponsePayload.Shows (payload : StatusResponsePayload) (data : Status) :
    Prop where
  queuedTasks : payload.queuedTasks.val = data.offeneTasks
  runningTasks : payload.runningTasks.val = data.laufendeTasks
  activeWorkers : payload.activeWorkers.val = data.aktiveWorker
  completedTasks : payload.completedTasks.val = data.abgeschlosseneTasks
  failedTasks : payload.failedTasks.val = data.fehlgeschlageneTasks
  timeoutCount : payload.timeoutCount.val = data.anzahlTimeouts
  retryCount : payload.retryCount.val = data.anzahlRetries

/-- Figures below 2^31 are shown as they are. -/
theorem shows_of_below {dumps : Status → String} {data : Status} (h : data.Below (2 ^ 31)) :
    ∃ payload, statusPayload dumps data = .ok payload ∧ payload.Shows data := by
  obtain ⟨q, hq, hq'⟩ := encodeInt32_of_lt (Int.natCast_nonneg _) h.offeneTasks
  obtain ⟨r, hr, hr'⟩ := encodeInt32_of_lt (Int.natCast_nonneg _) h.laufendeTasks
  obtain ⟨a, ha, ha'⟩ := encodeInt32_of_lt (Int.natCast_nonneg _) h.aktiveWorker
  obtain ⟨c, hc, hc'⟩ := encodeInt32_of_lt (Int.natCast_nonneg _) h.abgeschlosseneTasks
  obtain ⟨f, hf, hf'⟩ := encodeInt32_of_lt (Int.natCast_nonneg _) h.fehlgeschlageneTasks
  obtain ⟨t, ht, ht'⟩ := encodeInt32_of_lt h.timeouts_nonneg h.anzahlTimeouts
  refine ⟨⟨q, a, r, c, f, t, t, data.durchschnittlicheBearbeitungszeitMs, dumps data⟩, ?_,
    ⟨hq', hr', ha', hc', hf', ht', ht'.trans h.anzahlRetries.symm⟩⟩
  unfold statusPayload
  rw [h.anzahlRetries, hq, hr, ha, hc, hf, ht]
  rfl

/-! ## §3. The figures of a reachable dispatcher. -/

namespace Dispatcher

variable {cfg : Config} {d : Dispatcher} {lookupWorker : String → List WorkerInfo}

/-- There are as many records as numbers given out. -/
theorem length_entries (h : Reachable (step cfg) init d) :
    d.store.entries.length = d.taskIdCounter := by
  have hkeys := congrArg List.length (keys_of_reachable h)
  simpa [Keyed.keys] using hkeys

/-- The timeouts are at most the limit for each task. -/
theorem sum_retryCount_le (h : Reachable (step cfg) init d) :
    0 ≤ (d.store.entries.map Task.retryCount).sum ∧
      (d.store.entries.map Task.retryCount).sum ≤ (d.taskIdCounter * cfg.limit : Nat) := by
  have hbound : ∀ task ∈ d.store.entries, 0 ≤ task.retryCount ∧ task.retryCount ≤ cfg.limit := by
    intro task htask
    obtain ⟨hnonneg, hle, _⟩ := retryCount_le_limit h (Keyed.get_of_mem htask)
    exact ⟨hnonneg, hle⟩
  constructor
  · refine List.sum_nonneg fun n hn => ?_
    obtain ⟨task, htask, rfl⟩ := List.mem_map.mp hn
    exact (hbound task htask).1
  · have hsum : (d.store.entries.map Task.retryCount).sum
        ≤ (d.store.entries.map Task.retryCount).length • (cfg.limit : Int) := by
      refine List.sum_le_card_nsmul _ _ fun n hn => ?_
      obtain ⟨task, htask, rfl⟩ := List.mem_map.mp hn
      exact (hbound task htask).2
    rw [List.length_map, length_entries h, nsmul_eq_mul] at hsum
    exact_mod_cast hsum

/-- The figures are below the number of tasks times the limit on retries. -/
theorem status_below (h : Reachable (step cfg) init d)
    (hposts : d.taskIdCounter * cfg.limit < 2 ^ 31)
    (hworkers : (getStatus d.store lookupWorker).aktiveWorker < 2 ^ 31) :
    (getStatus d.store lookupWorker).Below (2 ^ 31) := by
  have hlen : d.store.entries.length < 2 ^ 31 := by
    rw [length_entries h]
    exact Nat.lt_of_le_of_lt (Nat.le_mul_of_pos_right _ cfg.limit_pos) hposts
  have hcount : ∀ p : Task → Bool, ((d.store.entries.countP p : Nat) : Int) < 2 ^ 31 := by
    intro p
    have hle : d.store.entries.countP p ≤ d.store.entries.length := List.countP_le_length
    omega
  obtain ⟨h0, hle⟩ := sum_retryCount_le h
  refine ⟨hcount _, hcount _, by omega, hcount _, hcount _, h0, ?_, rfl⟩
  show (d.store.entries.map Task.retryCount).sum < 2 ^ 31
  omega

/-- **GetStatus answers, and its figures add up.**  After every run, as long as the number of
tasks times the limit on retries and the number of workers found are below 2^31, GetStatus raises
nothing; the four counters of its response sum up to the accepted PostTask calls, and its timeout
count, which is also its retry count, is the number of timers that found their task in flight. -/
theorem status_answers {es : List Event} (hr : run (step cfg) init es = some d)
    (hposts : d.taskIdCounter * cfg.limit < 2 ^ 31)
    (hworkers : (getStatus d.store lookupWorker).aktiveWorker < 2 ^ 31)
    (dumps : Status → String) (request : Envelope Unit) (now : Int) :
    ∃ reply, d.getStatusReply dumps (some lookupWorker) request now = .ok reply ∧
      reply.message.payload.queuedTasks.val + reply.message.payload.runningTasks.val
          + reply.message.payload.completedTasks.val + reply.message.payload.failedTasks.val
        = tally (step cfg) acceptedPost init es ∧
      reply.message.payload.timeoutCount.val = tally (step cfg) timeoutInFlight init es ∧
      reply.message.payload.retryCount = reply.message.payload.timeoutCount ∧
      reply.message.payload.activeWorkers.val
        = (getStatus d.store lookupWorker).aktiveWorker := by
  have hd : Reachable (step cfg) init d := ⟨es, hr⟩
  obtain ⟨payload, hpayload, hshows⟩ := @shows_of_below dumps _
    (status_below hd hposts hworkers)
  have hreply : d.getStatusReply dumps (some lookupWorker) request now
      = .ok { message := ⟨"STATUS_RESPONSE", request.requestId, now, "dispatcher", payload⟩ } := by
    simp only [getStatusReply, hpayload]
  refine ⟨_, hreply, ?_, ?_, ?_, hshows.activeWorkers⟩
  · -- every task is in one of the four counters, as none is CREATED
    have hproper : ∀ t ∈ d.store.entries, t.status ≠ .created := by
      intro task htask hs
      have hstatus := (taskInv_of_reachable hd (Keyed.get_of_mem htask)).status
      rw [hs] at hstatus
      exact absurd hstatus (by decide)
    have hcounters := counters_add d.store lookupWorker hproper
    have hsmall : d.taskIdCounter < 2 ^ 31 :=
      Nat.lt_of_le_of_lt (Nat.le_mul_of_pos_right _ cfg.limit_pos) hposts
    rw [length_entries hd, ← tally_acceptedPost hr hsmall] at hcounters
    show payload.queuedTasks.val + payload.runningTasks.val + payload.completedTasks.val
      + payload.failedTasks.val = _
    rw [hshows.queuedTasks, hshows.runningTasks, hshows.completedTasks, hshows.failedTasks,
      ← hcounters]
    push_cast
    rfl
  · -- the timeouts are the timers that have fired
    have htally : d.fired.length = init.fired.length + tally (step cfg) timeoutInFlight init es :=
      run_tally (f := fun d => d.fired.length) (fun _ _ _ => timeoutInFlight_step) es
        (Reachable.init init) hr
    have hfired : (d.fired.length : Int) = tally (step cfg) timeoutInFlight init es := by
      rw [htally]
      simp [init]
    exact (hshows.timeoutCount.trans (sum_retryCount hd)).trans hfired
  · exact Int32Field.val_injective (hshows.retryCount.trans hshows.timeoutCount.symm)

/-- One task runs at the sample worker, and none has timed out. -/
theorem status_answers_sampleDispatch :
    ∃ d reply, run (step ⟨3⟩) init sampleDispatch = some d ∧
      d.getStatusReply (fun _ => "") (some fun _ => [sampleWorker]) { payload := () } 2 = .ok reply ∧
      reply.message.payload.runningTasks.val = 1 ∧
      reply.message.payload.timeoutCount.val = 0 := by
  obtain ⟨reply, hreply, _, htimeouts, _, _⟩ := @status_answers ⟨3⟩ _ (fun _ => [sampleWorker])
    sampleDispatch rfl (by decide) (by decide) (fun _ => "") { payload := () } 2
  refine ⟨_, reply, rfl, hreply, ?_, htimeouts⟩
  cases hreply
  rfl

end Dispatcher

end TaskGrid
