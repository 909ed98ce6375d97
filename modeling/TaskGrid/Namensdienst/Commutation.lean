/-
  TaskGrid.Namensdienst.Commutation — requests repeated and requests in another order.

  The numeric id of an entry is the only thing about it that depends on what
  other workers have sent.  Without it the registry is a list on which every
  request acts (`act`): the registry of the code refines this list
  (`listing_process`), and a request acts under its own worker id and nowhere
  else (`onFiber_act`).

  Main results: `registry_algebra` (a request repeated at once changes
  nothing more, requests of different workers can be swapped) and
  `listingOf_processAll` (after any sequence of requests the entries of a
  worker are the work of its own requests).
-/
import TaskGrid.Namensdienst.Entries
import TaskGrid.Lib.Fibers

namespace TaskGrid

open TaskGrid.Lib

/-! ## §1. Requests. -/

/-- A request that writes the registry, with the time it is processed at. -/
inductive RegistryRequest where
  | registerWorker (request : Envelope RegisterWorkerPayload) (now : ℚ)
  | deregisterWorker (request : Envelope DeregisterWorkerPayload)
  | sendHeartbeat (request : Envelope HeartbeatPayload) (now : ℚ)

/-- The worker id a request carries. -/
def RegistryRequest.workerId : RegistryRequest → String
  | .registerWorker request _ => request.payload.workerId
  | .deregisterWorker request => request.payload.workerId
  | .sendHeartbeat request _ => request.payload.workerId

namespace Namensdienst

/-- The registry after a request, and its Ack. -/
def process (s : Namensdienst) : RegistryRequest → Namensdienst × Reply AckPayload
  | .registerWorker request now => s.registerWorker request now
  | .deregisterWorker request => s.deregisterWorker request
  | .sendHeartbeat request now => s.sendHeartbeat request now

/-- The registry after a sequence of requests. -/
def processAll (s : Namensdienst) (requests : List RegistryRequest) : Namensdienst :=
  requests.foldl (fun s r => (s.process r).1) s

end Namensdienst

/-- The entry without its internal numeric id. -/
def Worker.unnumbered (w : Worker) : Worker := { w with id := 0 }

/-- The entries without their internal numeric ids, in order. -/
def Namensdienst.listing (s : Namensdienst) : List Worker := s.workers.map Worker.unnumbered

/-- The entries of one worker, without their numeric ids, in order. -/
def Namensdienst.listingOf (s : Namensdienst) (w : String) : List Worker :=
  fiber Worker.workerId w s.listing

/-- Two answers of LookupWorker that list the same workers in some order. -/
structure SameAnswer (a b : Reply LookupResponsePayload) : Prop where
  code : a.code = b.code
  details : a.details = b.details
  found : a.message.payload.found = b.message.payload.found
  text : a.message.payload.message = b.message.payload.message
  workers : a.message.payload.workers.Perm b.message.payload.workers

/-! ## §2. The registry without numeric ids. -/

/-- What a request does to a list of entries. -/
def RegistryRequest.act : RegistryRequest → List Worker → List Worker
  | .registerWorker request now, l =>
      if request.payload.workerId = "" then l
      else l.filter (fun w => !request.payload.replaces w)
        ++ request.payload.effectiveTypes.map fun t => request.payload.entry now t 0
  | .deregisterWorker request, l => l.filter fun w => w.workerId ≠ request.payload.workerId
  | .sendHeartbeat request now, l =>
      if request.payload.workerId = "" then l
      else Namensdienst.refreshFirst request.payload now l

/-- The Ack of a request, from the entries its worker has. -/
def RegistryRequest.ack : RegistryRequest → List Worker → Reply AckPayload
  | .registerWorker request _, _ =>
      if request.payload.workerId = "" then workerIdMissing else nsAck true "Worker registered"
  | .deregisterWorker _, own =>
      nsAck (!own.isEmpty) (if own.isEmpty then "Worker not found" else "Worker deregistered")
  | .sendHeartbeat request _, own =>
      if request.payload.workerId = "" then workerIdMissing
      else if own.isEmpty then nsAck false "Worker not found"
      else nsAck true "Heartbeat received"

theorem unnumbered_newEntries (p : RegisterWorkerPayload) (now : ℚ) (types : List String) :
    ∀ n, (p.newEntries now n types).map Worker.unnumbered
      = types.map fun t => p.entry now t 0 := by
  induction types with
  | nil => intro n; rfl
  | cons t types ih =>
      intro n
      show (p.entry now t n).unnumbered :: (p.newEntries now (n + 1) types).map _ = _
      rw [ih]
      rfl

theorem unnumbered_refreshFirst (p : HeartbeatPayload) (now : ℚ) (l : List Worker) :
    (Namensdienst.refreshFirst p now l).map Worker.unnumbered
      = Namensdienst.refreshFirst p now (l.map Worker.unnumbered) := by
  induction l with
  | nil => rfl
  | cons w l ih =>
      rw [List.map_cons]
      unfold Namensdienst.refreshFirst
      have hid : w.unnumbered.workerId = w.workerId := rfl
      rw [hid]
      split
      · rfl
      · rw [List.map_cons, ih]

/-- A heartbeat of a worker without entries changes nothing. -/
theorem refreshFirst_of_not_mem {p : HeartbeatPayload} {l : List Worker}
    (h : ∀ w ∈ l, w.workerId ≠ p.workerId) (now : ℚ) : Namensdienst.refreshFirst p now l = l := by
  induction l with
  | nil => rfl
  | cons w l ih =>
      unfold Namensdienst.refreshFirst
      rw [if_neg (h w List.mem_cons_self), ih fun v hv => h v (List.mem_cons_of_mem w hv)]

/-- A heartbeat sent twice is the heartbeat sent once. -/
theorem refreshFirst_refreshFirst (p : HeartbeatPayload) (now : ℚ) (l : List Worker) :
    Namensdienst.refreshFirst p now (Namensdienst.refreshFirst p now l)
      = Namensdienst.refreshFirst p now l := by
  induction l with
  | nil => rfl
  | cons w l ih =>
      by_cases hw : w.workerId = p.workerId
      · have hw' : (w.refreshed p now).workerId = p.workerId := hw
        simp only [Namensdienst.refreshFirst, if_pos hw, if_pos hw']
        rfl
      · simp only [Namensdienst.refreshFirst, if_neg hw, ih]

namespace Namensdienst

variable {s : Namensdienst}

/-- Whether a worker has entries can be read with and without the numeric ids. -/
theorem listingOf_eq_nil_iff {w : String} :
    s.listingOf w = [] ↔ ∀ e ∈ s.workers, e.workerId ≠ w := by
  unfold listingOf fiber listing
  rw [List.filter_eq_nil_iff]
  constructor
  · intro h e he
    have hno := h e.unnumbered (List.mem_map_of_mem he)
    rw [decide_eq_true_eq] at hno
    exact hno
  · intro h e he
    obtain ⟨e', he', rfl⟩ := List.mem_map.mp he
    rw [decide_eq_true_eq]
    exact h e' he'

/-- **Refinement.**  Without the numeric ids, a request does to the registry what it does to the
list of its entries. -/
theorem listing_process (s : Namensdienst) (r : RegistryRequest) :
    (s.process r).1.listing = r.act s.listing := by
  cases r with
  | registerWorker request now =>
      show (s.registerWorker request now).1.workers.map Worker.unnumbered = _
      unfold registerWorker RegistryRequest.act
      by_cases hne : request.payload.workerId = ""
      · simp only [if_pos hne]
        rfl
      · simp only [if_neg hne]
        unfold listing
        rw [List.map_append, unnumbered_newEntries, List.filter_map]
        rfl
  | deregisterWorker request =>
      show (s.workers.filter _).map Worker.unnumbered = (s.workers.map Worker.unnumbered).filter _
      rw [List.filter_map]
      rfl
  | sendHeartbeat request now =>
      show (s.sendHeartbeat request now).1.workers.map Worker.unnumbered = _
      unfold sendHeartbeat RegistryRequest.act
      by_cases hne : request.payload.workerId = ""
      · simp only [if_pos hne]
        rfl
      · simp only [if_neg hne]
        unfold listing
        rw [← unnumbered_refreshFirst]
        split
        · rfl
        · -- no entry of the worker, so there is nothing to refresh
          rename_i hnone
          rw [refreshFirst_of_not_mem]
          intro w hw hid
          exact hnone (List.any_eq_true.mpr ⟨w, hw, by simpa using hid⟩)

/-- The Ack depends on the entries of the worker only. -/
theorem ack_process (s : Namensdienst) (r : RegistryRequest) :
    (s.process r).2 = r.ack (s.listingOf r.workerId) := by
  cases r with
  | registerWorker request now =>
      show (s.registerWorker request now).2
        = if request.payload.workerId = "" then workerIdMissing else nsAck true "Worker registered"
      unfold registerWorker
      simp only []
      split <;> rfl
  | deregisterWorker request =>
      have hempty : (s.workers.filter fun w => w.workerId = request.payload.workerId).isEmpty
          = (s.listingOf request.payload.workerId).isEmpty := by
        rw [Bool.eq_iff_iff, List.isEmpty_iff, List.isEmpty_iff, listingOf_eq_nil_iff,
          List.filter_eq_nil_iff]
        simp
      show nsAck _ _ = nsAck _ _
      rw [hempty]
      rfl
  | sendHeartbeat request now =>
      have hany : (s.workers.any fun w => w.workerId = request.payload.workerId)
          = !(s.listingOf request.payload.workerId).isEmpty := by
        rw [Bool.eq_iff_iff, Bool.not_eq_true', ← Bool.not_eq_true, List.isEmpty_iff,
          listingOf_eq_nil_iff, List.any_eq_true]
        simp
      show (s.sendHeartbeat request now).2 = _
      unfold sendHeartbeat RegistryRequest.ack
      by_cases hne : request.payload.workerId = ""
      · simp only [if_pos hne]
      · simp only [if_neg hne, hany]
        show _ = if (s.listingOf request.payload.workerId).isEmpty = true then _ else _
        cases (s.listingOf request.payload.workerId).isEmpty <;> rfl

end Namensdienst

/-! ## §3. A request repeated. -/

/-- **A request repeated at once changes nothing more.** -/
theorem act_act (r : RegistryRequest) (l : List Worker) : r.act (r.act l) = r.act l := by
  cases r with
  | registerWorker request now =>
      unfold RegistryRequest.act
      by_cases hne : request.payload.workerId = ""
      · simp only [if_pos hne]
      · simp only [if_neg hne]
        -- the second time the entries of the first are the ones replaced
        have hnew : (request.payload.effectiveTypes.map fun t =>
            request.payload.entry now t 0).filter (fun w => !request.payload.replaces w) = [] := by
          rw [List.filter_eq_nil_iff]
          intro w hw
          obtain ⟨t, _, rfl⟩ := List.mem_map.mp hw
          simp [RegisterWorkerPayload.replaces, RegisterWorkerPayload.entry]
        rw [List.filter_append, hnew, List.append_nil, List.filter_filter]
        simp only [Bool.and_self]
  | deregisterWorker request =>
      unfold RegistryRequest.act
      simp only []
      rw [List.filter_filter]
      simp only [Bool.and_self]
  | sendHeartbeat request now =>
      unfold RegistryRequest.act
      by_cases hne : request.payload.workerId = ""
      · simp only [if_pos hne]
      · simp only [if_neg hne]
        exact refreshFirst_refreshFirst request.payload now l

/-! ## §4. Requests of different workers. -/

/-- **A request acts under its own worker id and nowhere else.** -/
theorem onFiber_act (r : RegistryRequest) : OnFiber Worker.workerId r.workerId r.act := by
  cases r with
  | registerWorker request now =>
      by_cases hne : request.payload.workerId = ""
      · have hact : (RegistryRequest.registerWorker request now).act = id := by
          funext l
          exact if_pos hne
        rw [hact]
        exact onFiber_id _
      · have hact : (RegistryRequest.registerWorker request now).act
            = (· ++ request.payload.effectiveTypes.map fun t => request.payload.entry now t 0)
              ∘ List.filter (fun w => !request.payload.replaces w) := by
          funext l
          exact if_neg hne
        rw [hact]
        refine (onFiber_append ?_).comp (onFiber_filter ?_)
        · intro w hw
          obtain ⟨t, _, rfl⟩ := List.mem_map.mp hw
          rfl
        · -- an entry of another worker is not replaced, whatever its address
          intro w hw
          have hid : w.workerId ≠ request.payload.workerId := hw
          simp [RegisterWorkerPayload.replaces, hid]
  | deregisterWorker request =>
      refine onFiber_filter ?_
      intro w hw
      exact decide_eq_true hw
  | sendHeartbeat request now =>
      by_cases hne : request.payload.workerId = ""
      · have hact : (RegistryRequest.sendHeartbeat request now).act = id := by
          funext l
          exact if_pos hne
        rw [hact]
        exact onFiber_id _
      · have hact : (RegistryRequest.sendHeartbeat request now).act
            = Namensdienst.refreshFirst request.payload now := by
          funext l
          exact if_neg hne
        rw [hact]
        refine ⟨?_, ?_⟩
        · -- the first entry of the worker is the head of its fiber
          intro l m hlm
          show fiber _ request.payload.workerId _ = fiber _ request.payload.workerId _
          unfold fiber
          rw [filter_refreshFirst_self, filter_refreshFirst_self]
          exact congrArg (refreshHead request.payload now) hlm
        · intro w hw l
          exact filter_refreshFirst_ne (Ne.symm hw) now l

namespace Namensdienst

/-- The answers of LookupWorker depend on the entries up to their order. -/
theorem sameAnswer_of_perm {a b : Namensdienst} (h : a.listing.Perm b.listing)
    (request : Envelope LookupPayload) :
    SameAnswer (a.lookupWorker request) (b.lookupWorker request) := by
  -- a listed worker shows nothing of its numeric id
  have hlisted : ∀ s : Namensdienst, (s.lookupEntries request.payload.taskType).map Worker.payload
      = (s.listing.filter fun w =>
          w.type = request.payload.taskType && w.isDiscoverable).map Worker.payload := by
    intro s
    unfold lookupEntries listing
    rw [List.filter_map, List.map_map]
    rfl
  have hworkers : ((a.lookupEntries request.payload.taskType).map Worker.payload).Perm
      ((b.lookupEntries request.payload.taskType).map Worker.payload) := by
    rw [hlisted a, hlisted b]
    exact (h.filter _).map _
  have hempty : (a.lookupEntries request.payload.taskType).isEmpty
      = (b.lookupEntries request.payload.taskType).isEmpty := by
    have hlen := hworkers.length_eq
    rw [List.length_map, List.length_map] at hlen
    rw [Bool.eq_iff_iff, List.isEmpty_iff_length_eq_zero, List.isEmpty_iff_length_eq_zero, hlen]
  refine ⟨rfl, rfl, ?_, ?_, hworkers⟩
  · show (!_) = (!_)
    rw [hempty]
  · show (if _ then _ else _) = if _ then _ else _
    rw [hempty]

theorem listingOf_process_ne (s : Namensdienst) {r : RegistryRequest} {w : String}
    (h : w ≠ r.workerId) : (s.process r).1.listingOf w = s.listingOf w := by
  unfold listingOf
  rw [listing_process]
  exact (onFiber_act r).other w h s.listing

/-- **After any sequence of requests the entries of a worker are the work of its own requests.** -/
theorem listingOf_processAll (s : Namensdienst) (requests : List RegistryRequest) (w : String) :
    (s.processAll requests).listingOf w
      = (s.processAll (requests.filter (·.workerId = w))).listingOf w := by
  have hlisting : ∀ (requests : List RegistryRequest) (s : Namensdienst),
      (s.processAll requests).listing = requests.foldl (fun l r => r.act l) s.listing := by
    intro requests
    induction requests with
    | nil => intro s; rfl
    | cons r requests ih =>
        intro s
        show ((s.process r).1.processAll requests).listing = _
        rw [ih, listing_process]
        rfl
  unfold listingOf
  rw [hlisting, hlisting]
  exact fiber_foldl onFiber_act w requests s.listing s.listing rfl

/-- **Registry operations are idempotent, and those of different workers commute.**  In every
state, without the numeric ids: a request processed twice leaves the entries it leaves when
processed once.  Two requests with different worker ids give in either order the same Acks, the
same entries up to their order, the same entries of each single worker in the same order, and
the same answers of LookupWorker up to their order. -/
theorem registry_algebra (s : Namensdienst) :
    (∀ r, ((s.process r).1.process r).1.listing = (s.process r).1.listing) ∧
    ∀ r q : RegistryRequest, r.workerId ≠ q.workerId →
      (s.process r).2 = ((s.process q).1.process r).2 ∧
      (s.process q).2 = ((s.process r).1.process q).2 ∧
      ((s.process r).1.process q).1.listing.Perm ((s.process q).1.process r).1.listing ∧
      (∀ w, ((s.process r).1.process q).1.listingOf w = ((s.process q).1.process r).1.listingOf w) ∧
      ∀ request, SameAnswer (((s.process r).1.process q).1.lookupWorker request)
        (((s.process q).1.process r).1.lookupWorker request) := by
  constructor
  · intro r
    rw [listing_process, listing_process, act_act]
  · intro r q hne
    have hfiber : ∀ w, ((s.process r).1.process q).1.listingOf w
        = ((s.process q).1.process r).1.listingOf w := by
      intro w
      unfold listingOf
      rw [listing_process, listing_process, listing_process, listing_process]
      exact (onFiber_act q).comm (onFiber_act r) (Ne.symm hne) w s.listing
    have hperm := perm_of_fibers hfiber
    refine ⟨?_, ?_, hperm, hfiber, fun request => sameAnswer_of_perm hperm request⟩
    · rw [ack_process, ack_process, listingOf_process_ne s hne]
    · rw [ack_process, ack_process, listingOf_process_ne s (Ne.symm hne)]

/-- A worker of one type, at a host of its own. -/
def arrival (workerId : String) : RegistryRequest :=
  .registerWorker { payload := ⟨workerId, ["reverse"], workerId, .default, "ACTIVE", .default⟩ } 0

/-- Two workers arrive in either order: the lists differ, and not in what they contain. -/
theorem registry_algebra_arrivals :
    ((init.process (arrival "w1")).1.process (arrival "w2")).1.listing.map Worker.workerId
        = ["w1", "w2"] ∧
      ((init.process (arrival "w2")).1.process (arrival "w1")).1.listing.map Worker.workerId
        = ["w2", "w1"] ∧
      ((init.process (arrival "w1")).1.process (arrival "w2")).1.listing.Perm
        ((init.process (arrival "w2")).1.process (arrival "w1")).1.listing ∧
      ∀ request, SameAnswer
        (((init.process (arrival "w1")).1.process (arrival "w2")).1.lookupWorker request)
        (((init.process (arrival "w2")).1.process (arrival "w1")).1.lookupWorker request) := by
  obtain ⟨_, hswap⟩ := registry_algebra init
  obtain ⟨_, _, hperm, _, hanswers⟩ := hswap (arrival "w1") (arrival "w2") (by decide)
  exact ⟨rfl, rfl, hperm, hanswers⟩

end Namensdienst

end TaskGrid
