/-
  TaskGrid.Namensdienst.Draining — a draining worker is still handed out.

  LookupWorker leaves out UNHEALTHY and OFFLINE entries only, so an entry
  that says DRAINING is listed like an ACTIVE one; and a heartbeat with an
  empty status writes ACTIVE over it.  `draining_listed` says of every
  registry that a worker is listed for each of its types right after it has
  announced DRAINING, before and after its next heartbeat.
-/
import TaskGrid.Namensdienst.Entries

namespace TaskGrid

open TaskGrid.Lib

namespace Namensdienst

variable {cfg : LoopConfig} {s : Namensdienst} {w : String}

/-! ## §1. The property. -/

/-- The step is a registration of the worker as ACTIVE. -/
def RegistersActive (w : String) (e : NsEvent) : Prop :=
  ∃ request now, e = .registerWorker request now ∧ request.payload.workerId = w ∧
    request.payload.status = "ACTIVE"

/-- From the state on, no LookupWorker answer contains the worker until it registers as
ACTIVE again. -/
def StaysAway (cfg : LoopConfig) (s : Namensdienst) (w : String) : Prop :=
  ∀ es s', run (step cfg) s es = some s' → (∀ e ∈ es, ¬ RegistersActive w e) →
    ∀ request : Envelope LookupPayload,
      ∀ p ∈ (s'.lookupWorker request).message.payload.workers, p.workerId ≠ w

/-! ## §2. What a registration makes visible. -/

/-- A status LookupWorker does not leave out. -/
def Listable (status : String) : Prop := status ≠ "UNHEALTHY" ∧ status ≠ "OFFLINE"

instance (status : String) : Decidable (Listable status) :=
  inferInstanceAs (Decidable (_ ∧ _))

theorem isDiscoverable_iff (e : Worker) : e.isDiscoverable = true ↔ Listable e.status := by
  unfold Worker.isDiscoverable Listable
  simp

theorem listable_statusOrActive {status : String} (h : Listable status) :
    Listable (statusOrActive status) := by
  unfold statusOrActive
  split
  · decide
  · exact h

/-- The new entries of a registration are listed, whatever its status says short of
UNHEALTHY and OFFLINE. -/
theorem mem_entriesOf_registerWorker (s : Namensdienst)
    {request : Envelope RegisterWorkerPayload} (now : ℚ)
    (hne : request.payload.workerId ≠ "") (hs : Listable request.payload.status) {t : String}
    (ht : t ∈ request.payload.effectiveTypes) :
    ∃ e ∈ (s.registerWorker request now).1.entriesOf request.payload.workerId,
      e.type = t ∧ e.isDiscoverable = true := by
  obtain ⟨m, hm⟩ := exists_mem_newEntries request.payload now s.idcount ht
  refine ⟨request.payload.entry now t m, ?_, rfl, ?_⟩
  · rw [entriesOf_registerWorker_self now hne]
    exact List.mem_append_right _ hm
  · rw [isDiscoverable_iff]
    exact listable_statusOrActive hs

/-- A heartbeat with an empty status hides no entry of its worker. -/
theorem mem_entriesOf_sendHeartbeat {request : Envelope HeartbeatPayload} (now : ℚ)
    (hne : request.payload.workerId ≠ "") (hs : request.payload.status = "") {t : String}
    (h : ∃ e ∈ s.entriesOf request.payload.workerId, e.type = t ∧ e.isDiscoverable = true) :
    ∃ e ∈ (s.sendHeartbeat request now).1.entriesOf request.payload.workerId,
      e.type = t ∧ e.isDiscoverable = true := by
  obtain ⟨e, he, ht, hd⟩ := h
  rw [entriesOf_sendHeartbeat_self now hne]
  cases hl : s.entriesOf request.payload.workerId with
  | nil => rw [hl] at he; cases he
  | cons e₀ rest =>
      rw [hl, List.mem_cons] at he
      rcases he with he | he
      · -- the first entry now says ACTIVE
        refine ⟨e₀.refreshed request.payload now, List.mem_cons_self, ?_, ?_⟩
        · rw [← ht, he]
          rfl
        · rw [isDiscoverable_iff]
          show Listable (statusOrActive request.payload.status)
          rw [hs]
          decide
      · exact ⟨e, List.mem_cons_of_mem _ he, ht, hd⟩

theorem listed_of_entriesOf {t : String}
    (h : ∃ e ∈ s.entriesOf w, e.type = t ∧ e.isDiscoverable = true)
    (request : Envelope LookupPayload) (hreq : request.payload.taskType = t) :
    ∃ p ∈ (s.lookupWorker request).message.payload.workers, p.workerId = w := by
  obtain ⟨e, he, ht, hd⟩ := h
  obtain ⟨p, hp, hw⟩ := listed_of_mem he ht hd
  rw [← hreq] at hp
  exact ⟨p, hp, hw⟩

/-! ## §3. The main result. -/

/-- **A draining worker stays in the answers.**  After every accepted registration with status
DRAINING, in every registry: the worker does not stay away; every LookupWorker for one of its
types lists it at once, and still after its next heartbeat with an empty status. -/
theorem draining_listed (cfg : LoopConfig) (s : Namensdienst)
    (request : Envelope RegisterWorkerPayload) (now : ℚ)
    (hne : request.payload.workerId ≠ "") (hs : request.payload.status = "DRAINING") :
    ¬ StaysAway cfg (s.registerWorker request now).1 request.payload.workerId ∧
    ∀ lookup : Envelope LookupPayload,
      lookup.payload.taskType ∈ request.payload.effectiveTypes →
      (∃ p ∈ ((s.registerWorker request now).1.lookupWorker lookup).message.payload.workers,
        p.workerId = request.payload.workerId) ∧
      ∀ (heartbeat : Envelope HeartbeatPayload) (now' : ℚ),
        heartbeat.payload.workerId = request.payload.workerId →
        heartbeat.payload.status = "" →
        ∃ p ∈ (((s.registerWorker request now).1.sendHeartbeat heartbeat now').1.lookupWorker
            lookup).message.payload.workers,
          p.workerId = request.payload.workerId := by
  have hlistable : Listable request.payload.status := by
    rw [hs]
    decide
  have hnow : ∀ lookup : Envelope LookupPayload,
      lookup.payload.taskType ∈ request.payload.effectiveTypes →
      ∃ p ∈ ((s.registerWorker request now).1.lookupWorker lookup).message.payload.workers,
        p.workerId = request.payload.workerId := by
    intro lookup ht
    exact listed_of_entriesOf (mem_entriesOf_registerWorker s now hne hlistable ht) lookup rfl
  refine ⟨?_, ?_⟩
  · -- the empty continuation already lists the worker
    intro haway
    obtain ⟨t, ht⟩ := List.exists_mem_of_ne_nil _ (effectiveTypes_ne_nil request.payload)
    obtain ⟨p, hp, hw⟩ := hnow { payload := ⟨t⟩ } ht
    exact haway [] _ rfl (fun _ h => nomatch h) { payload := ⟨t⟩ } p hp hw
  · intro lookup ht
    refine ⟨hnow lookup ht, ?_⟩
    intro heartbeat now' hid hempty
    have hentry := mem_entriesOf_registerWorker s now hne hlistable ht
    rw [← hid] at hentry ⊢
    exact listed_of_entriesOf
      (mem_entriesOf_sendHeartbeat now' (by rw [hid]; exact hne) hempty hentry) lookup rfl

/-- The port of a worker. -/
def samplePort : Int32Field := ⟨50061, by decide, by decide⟩

/-- A worker announces that it drains. -/
def sampleDraining : Envelope RegisterWorkerPayload :=
  { payload := { workerId := "w1", taskTypes := ["reverse"], address := "localhost",
                 port := samplePort, status := "DRAINING" } }

/-- The draining worker does not stay away. -/
theorem draining_listed_sample :
    ¬ StaysAway ⟨10, 2⟩ (init.registerWorker sampleDraining 0).1 "w1" :=
  (draining_listed ⟨10, 2⟩ init sampleDraining 0 (by decide) rfl).1

/-- The heartbeat thread of the draining worker goes on, and LookupWorker lists it. -/
theorem not_staysAway_sampleDraining :
    ¬ ∀ s', run (step ⟨10, 2⟩) init [.registerWorker sampleDraining 0,
        .sendHeartbeat { payload := { workerId := "w1" } } 5] = some s' →
      ∀ p ∈ (s'.lookupWorker { payload := ⟨"reverse"⟩ }).message.payload.workers,
        p.workerId ≠ "w1" := by
  intro h
  exact absurd (h _ rfl) (by decide)

end Namensdienst

end TaskGrid
