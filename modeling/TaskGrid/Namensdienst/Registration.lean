/-
  TaskGrid.Namensdienst.Registration — when the registry is a map.

  RegisterWorker removes the entries with the same worker id, address and port,
  and inserts one entry for each element of the list of types.  An entry at
  another address survives, and a type named twice gets two entries.
  `registry_iff` says of every run that these are the only two ways in which
  the registry stops being a map from worker id and type to the latest
  registration.
-/
import TaskGrid.Namensdienst.Draining
import Mathlib.Data.List.Nodup

namespace TaskGrid

open TaskGrid.Lib

/-! ## §1. What a registration fixes. -/

/-- The fields of an entry that only RegisterWorker writes. -/
structure Imprint where
  workerId : String
  type : String
  address : String
  port : Int32Field
  taskTypes : List String

/-- The imprint of an entry. -/
def Worker.imprint (e : Worker) : Imprint := ⟨e.workerId, e.type, e.address, e.port, e.taskTypes⟩

/-- The key of an imprint. -/
def Imprint.key (i : Imprint) : String × String := (i.workerId, i.type)

/-- The latest registration of a worker id. -/
def latestOf (registrations : List RegisterWorkerPayload) (w : String) :
    Option RegisterWorkerPayload :=
  (registrations.filter (·.workerId = w)).getLast?

theorem latestOf_append_self (l : List RegisterWorkerPayload) (p : RegisterWorkerPayload) :
    latestOf (l ++ [p]) p.workerId = some p := by
  unfold latestOf
  rw [List.filter_append, List.filter_cons_of_pos (by simp), List.filter_nil]
  exact List.getLast?_concat

theorem latestOf_append_ne (l : List RegisterWorkerPayload) {p : RegisterWorkerPayload}
    {w : String} (h : p.workerId ≠ w) : latestOf (l ++ [p]) w = latestOf l w := by
  unfold latestOf
  rw [List.filter_append, List.filter_cons_of_neg (by simpa using h), List.filter_nil,
    List.append_nil]

/-- The imprint is the one the registration leaves. -/
def Imprint.IsOf (i : Imprint) (p : RegisterWorkerPayload) : Prop :=
  i.address = p.address ∧ i.port = p.port ∧ i.taskTypes = p.effectiveTypes

/-- The imprints form a map to the latest registrations. -/
structure ImprintsMap (registrations : List RegisterWorkerPayload) (l : List Imprint) : Prop where
  nodup : (l.map Imprint.key).Nodup
  latest : ∀ i ∈ l, ∃ p, latestOf registrations i.workerId = some p ∧ i.IsOf p

/-- Leaving entries out keeps the map. -/
theorem ImprintsMap.sublist {registrations : List RegisterWorkerPayload} {l l' : List Imprint}
    (h : ImprintsMap registrations l) (hl : l'.Sublist l) : ImprintsMap registrations l' :=
  ⟨h.nodup.sublist (hl.map _), fun i hi => h.latest i (hl.subset hi)⟩

/-! ## §2. The imprints after each step. -/

theorem imprint_refreshFirst (p : HeartbeatPayload) (now : ℚ) (l : List Worker) :
    (Namensdienst.refreshFirst p now l).map Worker.imprint = l.map Worker.imprint := by
  induction l with
  | nil => rfl
  | cons e l ih =>
      unfold Namensdienst.refreshFirst
      split
      · rfl
      · rw [List.map_cons, List.map_cons, ih]

theorem imprint_monitor (cfg : LoopConfig) (now : ℚ) (l : List Worker) :
    ((l.filterMap (Namensdienst.monitorEntry cfg now)).map Worker.imprint).Sublist
      (l.map Worker.imprint) := by
  induction l with
  | nil => exact List.Sublist.slnil
  | cons e l ih =>
      cases hm : Namensdienst.monitorEntry cfg now e with
      | none =>
          rw [List.filterMap_cons_none hm, List.map_cons]
          exact ih.cons _
      | some e' =>
          have himp : e'.imprint = e.imprint := by
            rw [monitorEntry_eq_some hm]
            rfl
          rw [List.filterMap_cons_some hm, List.map_cons, List.map_cons, himp]
          exact ih.cons_cons _

/-- The keys of new entries are their types, under one worker id. -/
theorem keys_newEntries (p : RegisterWorkerPayload) (now : ℚ) (n : Nat) (types : List String) :
    ((p.newEntries now n types).map Worker.imprint).map Imprint.key
      = types.map fun t => (p.workerId, t) := by
  induction types generalizing n with
  | nil => rfl
  | cons t types ih =>
      unfold RegisterWorkerPayload.newEntries
      rw [List.map_cons, List.map_cons, List.map_cons, ih]
      rfl

theorem nodup_keys_iff (w : String) (types : List String) :
    (types.map fun t => (w, t)).Nodup ↔ types.Nodup :=
  List.nodup_map_iff fun _ _ h => congrArg Prod.snd h

theorem nodup_effectiveTypes {p : RegisterWorkerPayload} :
    p.effectiveTypes.Nodup ↔ p.taskTypes.Nodup := by
  unfold RegisterWorkerPayload.effectiveTypes
  split
  · rename_i h
    rw [h]
    simp
  · rfl

namespace Namensdienst

variable {cfg : LoopConfig} {a b s : Namensdienst}

/-- The imprints of the registry. -/
def imprints (s : Namensdienst) : List Imprint := s.workers.map Worker.imprint

/-! ## §3. The property and its condition. -/

/-- The registry is a map from worker id and type to the latest accepted registration, and
so LookupWorker lists no worker twice and hands out no replaced address. -/
structure RegistryIsMap (s : Namensdienst) : Prop where
  nodup : (s.workers.map fun e => (e.workerId, e.type)).Nodup
  latest : ∀ e ∈ s.workers, ∃ p, latestOf s.registrations e.workerId = some p ∧
    e.address = p.address ∧ e.port = p.port ∧ e.taskTypes = p.effectiveTypes
  listedOnce : ∀ request : Envelope LookupPayload,
    ((s.lookupWorker request).message.payload.workers.map WorkerPayload.workerId).Nodup
  current : ∀ request : Envelope LookupPayload,
    ∀ w ∈ (s.lookupWorker request).message.payload.workers,
      ∃ p, latestOf s.registrations w.workerId = some p ∧ w.address = p.address ∧ w.port = p.port

/-- If the step is an accepted registration, it names no type twice and every entry of its
worker id has its address and port. -/
def RegistersCleanly (a : Namensdienst) (e : NsEvent) : Prop :=
  ∀ request now, e = .registerWorker request now → request.payload.workerId ≠ "" →
    request.payload.taskTypes.Nodup ∧
    ∀ w ∈ a.workers, w.workerId = request.payload.workerId →
      w.address = request.payload.address ∧ w.port = request.payload.port

/-- Within one task type the keys are the worker ids, so LookupWorker repeats none. -/
theorem listedOnce_of_nodup (h : (s.workers.map fun e => (e.workerId, e.type)).Nodup)
    (request : Envelope LookupPayload) :
    ((s.lookupWorker request).message.payload.workers.map WorkerPayload.workerId).Nodup := by
  show (((s.lookupEntries request.payload.taskType).map Worker.payload).map
    WorkerPayload.workerId).Nodup
  have hsub : ((s.lookupEntries request.payload.taskType).map
      fun e => (e.workerId, e.type)).Nodup :=
    h.sublist (List.filter_sublist.map _)
  have hpair : (s.lookupEntries request.payload.taskType).map (fun e => (e.workerId, e.type))
      = ((s.lookupEntries request.payload.taskType).map Worker.workerId).map
          fun w => (w, request.payload.taskType) := by
    rw [List.map_map]
    apply List.map_congr_left
    intro e he
    unfold lookupEntries at he
    simp only [List.mem_filter, Bool.and_eq_true, decide_eq_true_eq] at he
    show (e.workerId, e.type) = (e.workerId, request.payload.taskType)
    rw [he.2.1]
  rw [hpair] at hsub
  rw [List.map_map]
  exact List.Nodup.of_map _ hsub

/-- The consequences for LookupWorker follow from the map. -/
theorem registryIsMap_iff : RegistryIsMap s ↔ ImprintsMap s.registrations s.imprints := by
  have hkeys : s.imprints.map Imprint.key = s.workers.map fun e => (e.workerId, e.type) := by
    unfold imprints
    rw [List.map_map]
    rfl
  constructor
  · intro h
    refine ⟨by rw [hkeys]; exact h.nodup, ?_⟩
    intro i hi
    obtain ⟨e, he, hie⟩ := List.mem_map.mp hi
    rw [← hie]
    exact h.latest e he
  · intro h
    have hnodup : (s.workers.map fun e => (e.workerId, e.type)).Nodup := by
      rw [← hkeys]
      exact h.nodup
    have hlatest : ∀ e ∈ s.workers, ∃ p, latestOf s.registrations e.workerId = some p ∧
        e.address = p.address ∧ e.port = p.port ∧ e.taskTypes = p.effectiveTypes :=
      fun e he => h.latest e.imprint (List.mem_map_of_mem he)
    refine ⟨hnodup, hlatest, listedOnce_of_nodup hnodup, ?_⟩
    intro request w hw
    obtain ⟨e, he, hew⟩ := List.mem_map.mp hw
    obtain ⟨p, hp, haddr, hport, _⟩ := hlatest e (List.mem_of_mem_filter he)
    rw [← hew]
    exact ⟨p, hp, haddr, hport⟩

/-! ## §4. One step. -/

/-- A clean registration replaces all old entries of its worker: those it keeps are of others. -/
theorem workerId_ne_of_kept {p : RegisterWorkerPayload}
    (hsame : ∀ w ∈ a.workers, w.workerId = p.workerId → w.address = p.address ∧ w.port = p.port) :
    ∀ i ∈ (a.workers.filter fun w => !p.replaces w).map Worker.imprint,
      i.workerId ≠ p.workerId := by
  intro i hi hid
  obtain ⟨e, he, hie⟩ := List.mem_map.mp hi
  obtain ⟨hmem, hrep⟩ := List.mem_filter.mp he
  have heid : e.workerId = p.workerId := by
    rw [← hie] at hid
    exact hid
  obtain ⟨haddr, hport⟩ := hsame e hmem heid
  unfold RegisterWorkerPayload.replaces at hrep
  simp [heid, haddr, hport] at hrep

/-- A clean registration keeps the map. -/
theorem imprintsMap_registerWorker {request : Envelope RegisterWorkerPayload} (now : ℚ)
    (h : ImprintsMap a.registrations a.imprints) (hne : request.payload.workerId ≠ "")
    (hnodup : request.payload.taskTypes.Nodup)
    (hsame : ∀ w ∈ a.workers, w.workerId = request.payload.workerId →
      w.address = request.payload.address ∧ w.port = request.payload.port) :
    ImprintsMap (a.registerWorker request now).1.registrations
      (a.registerWorker request now).1.imprints := by
  have hother := workerId_ne_of_kept hsame
  have hkept : ImprintsMap a.registrations
      ((a.workers.filter fun w => !request.payload.replaces w).map Worker.imprint) :=
    h.sublist (List.filter_sublist.map _)
  unfold registerWorker imprints
  simp only [if_neg hne, List.map_append]
  refine ⟨?_, ?_⟩
  · -- the new keys are distinct among themselves and from the keys of other workers
    rw [List.map_append, List.nodup_append]
    refine ⟨hkept.nodup, ?_, ?_⟩
    · rw [keys_newEntries, nodup_keys_iff, nodup_effectiveTypes]
      exact hnodup
    · intro k hk k' hk' heq
      obtain ⟨i, hi, hik⟩ := List.mem_map.mp hk
      rw [keys_newEntries] at hk'
      obtain ⟨t, _, htk⟩ := List.mem_map.mp hk'
      apply hother i hi
      have : i.key = (request.payload.workerId, t) := by rw [hik, heq, ← htk]
      exact congrArg Prod.fst this
  · -- an entry of another worker keeps its latest registration, a new one has this one
    intro i hi
    rcases List.mem_append.mp hi with hi | hi
    · obtain ⟨p, hp, hof⟩ := hkept.latest i hi
      rw [latestOf_append_ne _ (Ne.symm (hother i hi))]
      exact ⟨p, hp, hof⟩
    · obtain ⟨e, he, hie⟩ := List.mem_map.mp hi
      obtain ⟨t, _, m, heq⟩ := mem_newEntries he
      rw [← hie, heq]
      exact ⟨request.payload, latestOf_append_self _ _, rfl, rfl, rfl⟩

/-- **Step lemma.**  A clean step keeps the map. -/
theorem imprintsMap_step {e : NsEvent} (h : ImprintsMap a.registrations a.imprints)
    (hs : a.step cfg e = some b) (hclean : RegistersCleanly a e) :
    ImprintsMap b.registrations b.imprints := by
  cases e with
  | registerWorker request now =>
      cases hs
      by_cases hne : request.payload.workerId = ""
      · unfold registerWorker
        simp only [if_pos hne]
        exact h
      · obtain ⟨hnodup, hsame⟩ := hclean request now rfl hne
        exact imprintsMap_registerWorker now h hne hnodup hsame
  | deregisterWorker request =>
      cases hs
      exact h.sublist (List.filter_sublist.map _)
  | sendHeartbeat request now =>
      cases hs
      unfold sendHeartbeat
      simp only []
      split
      · exact h
      · split
        · show ImprintsMap a.registrations
            ((refreshFirst request.payload now a.workers).map Worker.imprint)
          rw [imprint_refreshFirst]
          exact h
        · exact h
  | monitorPass now =>
      cases hs
      exact h.sublist (imprint_monitor cfg now a.workers)

/-- A step that leaves a map behind was clean. -/
theorem registersCleanly_of_map {e : NsEvent} (hs : a.step cfg e = some b)
    (h : RegistryIsMap b) : RegistersCleanly a e := by
  intro request now he hne
  subst he
  cases hs
  have hmap := registryIsMap_iff.mp h
  unfold registerWorker imprints at hmap
  simp only [if_neg hne, List.map_append] at hmap
  refine ⟨?_, ?_⟩
  · have hnodup := hmap.nodup
    rw [List.map_append, List.nodup_append, keys_newEntries, nodup_keys_iff,
      nodup_effectiveTypes] at hnodup
    exact hnodup.2.1
  · intro w hw hid
    by_contra hdiff
    have hkept : w ∈ a.workers.filter fun w => !request.payload.replaces w := by
      refine List.mem_filter.mpr ⟨hw, ?_⟩
      unfold RegisterWorkerPayload.replaces
      simp only [hid, decide_true, Bool.true_and, Bool.not_eq_true', Bool.and_eq_false_iff,
        decide_eq_false_iff_not]
      by_contra hall
      rw [not_or, not_not, not_not] at hall
      exact hdiff hall
    -- the entry that stayed has the replaced address
    obtain ⟨p, hp, haddr, hport, _⟩ := hmap.latest w.imprint
      (List.mem_append_left _ (List.mem_map_of_mem hkept))
    have hwid : w.imprint.workerId = request.payload.workerId := hid
    rw [hwid, latestOf_append_self, Option.some.injEq] at hp
    exact hdiff ⟨by rw [hp]; exact haddr, by rw [hp]; exact hport⟩

/-! ## §5. Runs. -/

/-- **When the registry is a map.**  Along every run: the registry is a map to the latest
registrations after every step if and only if every accepted registration names each type
once and meets no entry of its worker id at another address or port. -/
theorem registry_iff (cfg : LoopConfig) (es : List NsEvent) :
    Along (step cfg) (fun _ _ b => RegistryIsMap b) init es
      ↔ Along (step cfg) (fun a e _ => RegistersCleanly a e) init es := by
  constructor
  · -- an unclean registration breaks the map at once
    refine along_mono ?_ es (Reachable.init init)
    intro a e b _ hs h
    exact registersCleanly_of_map hs h
  · -- clean steps keep the map, which the start state is
    refine along_of_invariant (I := fun s => ImprintsMap s.registrations s.imprints) ?_ es
      (Reachable.init init) ?_
    · intro a e b _ hI hs hclean
      have h := imprintsMap_step hI hs hclean
      exact ⟨registryIsMap_iff.mpr h, h⟩
    · exact ⟨List.nodup_nil, fun _ h => nomatch h⟩

/-- The registration of a worker at an address. -/
def sampleAt (address : String) : Envelope RegisterWorkerPayload :=
  { payload := ⟨"w1", ["reverse"], address, samplePort, "ACTIVE", .default⟩ }

/-- The worker registers and, after a restart on another host, registers again. -/
def movedRun : List NsEvent :=
  [.registerWorker (sampleAt "old-host") 0, .registerWorker (sampleAt "new-host") 1]

/-- The old address stays in the registry next to the new one. -/
theorem not_registryIsMap_movedRun :
    ¬ Along (step ⟨10, 2⟩) (fun _ _ b => RegistryIsMap b) init movedRun := by
  intro hall
  obtain ⟨_, hsecond⟩ := hall _ rfl
  obtain ⟨hmap, _⟩ := hsecond _ rfl
  exact absurd hmap.nodup (by decide)

end Namensdienst

end TaskGrid
