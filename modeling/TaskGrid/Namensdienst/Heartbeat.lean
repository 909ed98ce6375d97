/-
  TaskGrid.Namensdienst.Heartbeat — which workers heartbeats keep discoverable.

  A registration creates one entry for each task type; SendHeartbeat refreshes
  the first entry of the worker id and returns.  `heartbeat_iff` says of
  every registration that heartbeats in time keep the worker listed, with its
  latest load, exactly when the registration leaves the worker with a single
  entry (and the offline multiplier is positive), or when the timeout is so
  small that no heartbeat can be in time.
-/
import TaskGrid.Namensdienst.Draining
import Mathlib.Tactic.Linarith
import Mathlib.Tactic.NormNum

namespace TaskGrid

open TaskGrid.Lib

namespace Namensdienst

variable {cfg : LoopConfig} {s s' : Namensdienst} {w t : String}

/-! ## §1. The property. -/

/-- The steps keep to the cadence of the worker, whose last sign of life was at `last`: it is
neither registered again nor deregistered, its heartbeats say nothing or ACTIVE, and each
of them, like every monitor pass in between, comes less than `x` seconds after the one before. -/
def Cadenced (cfg : LoopConfig) (w : String) : ℚ → List NsEvent → Prop
  | _, [] => True
  | last, .registerWorker request _ :: es =>
      request.payload.workerId ≠ w ∧ Cadenced cfg w last es
  | last, .deregisterWorker request :: es =>
      request.payload.workerId ≠ w ∧ Cadenced cfg w last es
  | last, .sendHeartbeat request now :: es =>
      if request.payload.workerId = w then
        (request.payload.status = "" ∨ request.payload.status = "ACTIVE") ∧
          last ≤ now ∧ now - last < (cfg.x : ℚ) ∧ Cadenced cfg w now es
      else Cadenced cfg w last es
  | last, .monitorPass now :: es =>
      last ≤ now ∧ now - last < (cfg.x : ℚ) ∧ Cadenced cfg w last es

/-- The load of the latest heartbeat of the worker, if there was one. -/
def latestLoad (w : String) : Option Int32Field → List NsEvent → Option Int32Field
  | load, [] => load
  | load, .sendHeartbeat request _ :: es =>
      if request.payload.workerId = w then latestLoad w (some request.payload.currentLoad) es
      else latestLoad w load es
  | load, _ :: es => latestLoad w load es

theorem latestLoad_sendHeartbeat (w : String) (load : Option Int32Field)
    (request : Envelope HeartbeatPayload) (now : ℚ) (es : List NsEvent) :
    latestLoad w load (.sendHeartbeat request now :: es)
      = if request.payload.workerId = w then latestLoad w (some request.payload.currentLoad) es
        else latestLoad w load es := rfl

/-- LookupWorker lists the worker for each of the types, with the load wherever one is known. -/
def Lists (s : Namensdienst) (w : String) (types : List String) (load : Option Int32Field) :
    Prop :=
  ∀ t ∈ types, (∃ p ∈ s.lookup t, p.workerId = w) ∧
    ∀ l, load = some l → ∀ p ∈ s.lookup t, p.workerId = w → p.currentLoad = l

/-- Heartbeats in time keep the worker discoverable: whatever happens from the state on, as long
as the cadence is kept. -/
def KeptDiscoverable (cfg : LoopConfig) (s : Namensdienst) (w : String) (types : List String)
    (now : ℚ) : Prop :=
  ∀ es s', Cadenced cfg w now es → run (step cfg) s es = some s' →
    Lists s' w types (latestLoad w none es)

/-- A step within the cadence is about other workers and leaves the entries of the worker
alone, or it is a heartbeat in time, or a monitor pass in time. -/
theorem cadenced_cases {e : NsEvent} {es : List NsEvent} {last : ℚ}
    (hc : Cadenced cfg w last (e :: es)) (hs : s.step cfg e = some s') :
    (s'.entriesOf w = s.entriesOf w ∧ Cadenced cfg w last es ∧
        ∀ load, latestLoad w load (e :: es) = latestLoad w load es) ∨
      (∃ request now, e = .sendHeartbeat request now ∧ request.payload.workerId = w ∧
        (request.payload.status = "" ∨ request.payload.status = "ACTIVE") ∧
        last ≤ now ∧ now - last < (cfg.x : ℚ) ∧ Cadenced cfg w now es) ∨
      (∃ now, e = .monitorPass now ∧ last ≤ now ∧ now - last < (cfg.x : ℚ) ∧
        Cadenced cfg w last es) := by
  cases e with
  | registerWorker request now =>
      cases hs
      exact .inl ⟨entriesOf_registerWorker_ne now hc.1, hc.2, fun _ => rfl⟩
  | deregisterWorker request =>
      cases hs
      exact .inl ⟨entriesOf_deregisterWorker_ne hc.1, hc.2, fun _ => rfl⟩
  | sendHeartbeat request now =>
      cases hs
      unfold Cadenced at hc
      by_cases hw : request.payload.workerId = w
      · rw [if_pos hw] at hc
        obtain ⟨hstatus, h0, hx, hc⟩ := hc
        exact .inr (.inl ⟨request, now, rfl, hw, hstatus, h0, hx, hc⟩)
      · rw [if_neg hw] at hc
        refine .inl ⟨entriesOf_sendHeartbeat_ne now hw, hc, ?_⟩
        intro load
        rw [latestLoad_sendHeartbeat, if_neg hw]
  | monitorPass now =>
      obtain ⟨h0, hx, hc⟩ := hc
      exact .inr (.inr ⟨now, rfl, h0, hx, hc⟩)

/-! ## §2. A worker with a single entry. -/

/-- The worker has one entry: of the type, listed, as old as its last sign of life, and with
the latest load. -/
def SingleEntry (s : Namensdienst) (w t : String) (last : ℚ) (load : Option Int32Field) : Prop :=
  ∃ e, s.entriesOf w = [e] ∧ e.type = t ∧ e.isDiscoverable = true ∧ e.lastHeartbeat = last ∧
    ∀ l, load = some l → e.currentLoad = l

theorem SingleEntry.lists {last : ℚ} {load : Option Int32Field}
    (h : SingleEntry s w t last load) : Lists s w [t] load := by
  obtain ⟨e, he, ht, hd, _, hload⟩ := h
  intro t' ht'
  rw [List.mem_singleton] at ht'
  rw [ht']
  refine ⟨listed_of_mem (by rw [he]; exact List.mem_singleton_self e) ht hd, ?_⟩
  intro l hl p hp hw
  obtain ⟨e', he', _, _, hp'⟩ := mem_lookup.mp ⟨hp, hw⟩
  rw [he, List.mem_singleton] at he'
  rw [hp', he']
  exact hload l hl

/-- A pass in time leaves a fresh entry alone. -/
theorem monitorEntry_of_fresh {now : ℚ} {e : Worker} (hy : 1 ≤ cfg.y)
    (h0 : e.lastHeartbeat ≤ now) (hx : now - e.lastHeartbeat < (cfg.x : ℚ)) :
    monitorEntry cfg now e = some e := by
  have hpos : (0 : ℚ) < (cfg.x : ℚ) := by linarith
  have hxpos : 0 < cfg.x := by exact_mod_cast hpos
  -- with a positive multiplier OFFLINE comes no earlier than UNHEALTHY
  have hmul : cfg.x ≤ cfg.x * cfg.y := by nlinarith
  have hmulq : (cfg.x : ℚ) ≤ ((cfg.x * cfg.y : Int) : ℚ) := by exact_mod_cast hmul
  unfold monitorEntry
  simp only []
  rw [if_neg (by linarith), if_neg (by linarith)]

/-- **Step lemma.**  A step within the cadence keeps the single entry. -/
theorem SingleEntry.step (hne : w ≠ "") (hy : 1 ≤ cfg.y) {e : NsEvent} {es : List NsEvent} {last : ℚ}
    {load : Option Int32Field} (h : SingleEntry s w t last load)
    (hc : Cadenced cfg w last (e :: es)) (hs : s.step cfg e = some s') :
    ∃ last' load', SingleEntry s' w t last' load' ∧ Cadenced cfg w last' es ∧
      latestLoad w load (e :: es) = latestLoad w load' es := by
  obtain ⟨entry, he, ht, hd, hlast, hload⟩ := h
  rcases cadenced_cases hc hs with ⟨hsame, hrest, hlatest⟩ |
    ⟨request, now, heq, hw, hstatus, h0, hx, hrest⟩ | ⟨now, heq, h0, hx, hrest⟩
  · exact ⟨last, load, ⟨entry, by rw [hsame, he], ht, hd, hlast, hload⟩, hrest, hlatest load⟩
  · -- the heartbeat refreshes the entry, since there is no other one before it
    subst heq
    cases hs
    rw [latestLoad_sendHeartbeat, if_pos hw]
    refine ⟨now, some request.payload.currentLoad,
      ⟨entry.refreshed request.payload now, ?_, ht, ?_, rfl, ?_⟩, hrest, rfl⟩
    · subst hw
      rw [entriesOf_sendHeartbeat_self now hne, he]
      rfl
    · rw [isDiscoverable_iff]
      show Listable (statusOrActive request.payload.status)
      rcases hstatus with hst | hst <;> rw [hst] <;> decide
    · intro l hl
      rw [Option.some.injEq] at hl
      exact hl
  · subst heq
    cases hs
    have hfresh : monitorEntry cfg now entry = some entry :=
      monitorEntry_of_fresh hy (by rw [hlast]; exact h0) (by rw [hlast]; exact hx)
    refine ⟨last, load, ⟨entry, ?_, ht, hd, hlast, hload⟩, hrest, rfl⟩
    rw [entriesOf_monitorPass, he, List.filterMap_cons_some hfresh, List.filterMap_nil]

/-- **Run lemma.**  Within the cadence the single entry lasts. -/
theorem SingleEntry.run (hne : w ≠ "") (hy : 1 ≤ cfg.y) :
    ∀ {es : List NsEvent} {s s' : Namensdienst} {last : ℚ} {load : Option Int32Field},
      SingleEntry s w t last load → Cadenced cfg w last es →
      Lib.run (Namensdienst.step cfg) s es = some s' →
      ∃ last', SingleEntry s' w t last' (latestLoad w load es) := by
  intro es
  induction es with
  | nil =>
      intro s s' last load h _ hr
      rw [run_nil, Option.some.injEq] at hr
      exact ⟨last, hr ▸ h⟩
  | cons e es ih =>
      intro s s' last load h hc hr
      obtain ⟨m, hm, hr⟩ := run_cons_eq_some.mp hr
      obtain ⟨last', load', h', hc', hlatest⟩ := h.step hne hy hc hm
      rw [hlatest]
      exact ih h' hc' hr

/-! ## §3. A timeout nothing can meet. -/

/-- With a timeout of zero or less no heartbeat and no pass is within the cadence, so nothing
happens to the entries of the worker. -/
theorem entriesOf_of_nonpos (hx : cfg.x ≤ 0) {last : ℚ} :
    ∀ {es : List NsEvent} {s s' : Namensdienst}, Cadenced cfg w last es →
      run (step cfg) s es = some s' →
      s'.entriesOf w = s.entriesOf w ∧ ∀ load, latestLoad w load es = load := by
  have hxq : (cfg.x : ℚ) ≤ 0 := by exact_mod_cast hx
  intro es
  induction es with
  | nil =>
      intro s s' _ hr
      rw [run_nil, Option.some.injEq] at hr
      exact ⟨by rw [hr], fun _ => rfl⟩
  | cons e es ih =>
      intro s s' hc hr
      obtain ⟨m, hm, hr⟩ := run_cons_eq_some.mp hr
      rcases cadenced_cases hc hm with ⟨hsame, hc, hlatest⟩ |
        ⟨_, _, _, _, _, h0, hlt, _⟩ | ⟨_, _, h0, hlt, _⟩
      · obtain ⟨h1, h2⟩ := ih hc hr
        exact ⟨h1.trans hsame, fun load => (hlatest load).trans (h2 load)⟩
      · linarith
      · linarith

/-! ## §4. What goes wrong otherwise. -/

/-- The entries the worker keeps at other addresses when it registers. -/
def keptEntries (s : Namensdienst) (p : RegisterWorkerPayload) : List Worker :=
  (s.entriesOf p.workerId).filter fun e => !p.replaces e

theorem keptEntries_eq_nil_iff {p : RegisterWorkerPayload} :
    s.keptEntries p = [] ↔
      ∀ e ∈ s.workers, e.workerId = p.workerId → e.address = p.address ∧ e.port = p.port := by
  unfold keptEntries entriesOf RegisterWorkerPayload.replaces
  rw [List.filter_eq_nil_iff]
  constructor
  · intro h e he hw
    have := h e (List.mem_filter.mpr ⟨he, by simpa using hw⟩)
    simpa [hw] using this
  · intro h e he
    obtain ⟨hmem, hw⟩ := List.mem_filter.mp he
    have hw' : e.workerId = p.workerId := by simpa using hw
    obtain ⟨ha, hp⟩ := h e hmem hw'
    simp [hw', ha, hp]

/-- The entries after a registration with task types. -/
theorem entriesOf_registered {request : Envelope RegisterWorkerPayload} (now : ℚ)
    (hne : request.payload.workerId ≠ "") (hT : request.payload.taskTypes ≠ []) :
    (s.registerWorker request now).1.entriesOf request.payload.workerId
      = s.keptEntries request.payload
        ++ request.payload.newEntries now s.idcount request.payload.taskTypes := by
  rw [entriesOf_registerWorker_self now hne, effectiveTypes_of_ne_nil hT]
  rfl

/-- **A heartbeat misses every entry behind the first.**  When such an entry is a new one, it
goes on reporting the load of the registration. -/
theorem tail_of_keptDiscoverable {request : Envelope RegisterWorkerPayload} {now : ℚ}
    (hne : request.payload.workerId ≠ "") (hs : Listable request.payload.status)
    (hx : 0 < cfg.x)
    (h : KeptDiscoverable cfg (s.registerWorker request now).1 request.payload.workerId
      request.payload.taskTypes now) {first e : Worker} {rest : List Worker}
    (hl : (s.registerWorker request now).1.entriesOf request.payload.workerId = first :: rest)
    (hnew : e ∈ request.payload.newEntries now s.idcount request.payload.taskTypes) :
    e ∉ rest := by
  intro hmem
  have hxq : (0 : ℚ) < (cfg.x : ℚ) := by exact_mod_cast hx
  obtain ⟨t, ht, m, he⟩ := mem_newEntries hnew
  -- some load that tells the heartbeat from the registration
  obtain ⟨load, hload⟩ : ∃ load : Int32Field, load ≠ request.payload.currentLoad := by
    by_cases h0 : request.payload.currentLoad = ⟨0, by decide, by decide⟩
    · exact ⟨⟨1, by decide, by decide⟩, by rw [h0]; decide⟩
    · exact ⟨_, Ne.symm h0⟩
  -- one heartbeat at once, with another load
  have hc : Cadenced cfg request.payload.workerId now
      [.sendHeartbeat { payload := ⟨request.payload.workerId, load, ""⟩ } now] := by
    unfold Cadenced
    rw [if_pos rfl]
    exact ⟨.inl rfl, le_refl now, by linarith, trivial⟩
  have hlists := h _ _ hc rfl t ht
  rw [latestLoad_sendHeartbeat, if_pos rfl] at hlists
  -- the entry behind the first is still there, with the load it was registered with
  have hentry : e ∈ ((s.registerWorker request now).1.sendHeartbeat
      { payload := ⟨request.payload.workerId, load, ""⟩ } now).1.entriesOf
      request.payload.workerId := by
    rw [entriesOf_sendHeartbeat_self now hne]
    show e ∈ refreshHead _ now ((s.registerWorker request now).1.entriesOf _)
    rw [hl]
    exact List.mem_cons_of_mem _ hmem
  have hd : e.isDiscoverable = true := by
    rw [isDiscoverable_iff, he]
    exact listable_statusOrActive hs
  have htype : e.type = t := by
    rw [he]
    rfl
  obtain ⟨hp, hw⟩ := mem_lookup.mpr ⟨e, hentry, htype, hd, rfl⟩
  have hsame := hlists.2 load rfl e.payload hp hw
  apply hload
  rw [← hsame, he]
  rfl

/-- So the worker has a single entry. -/
theorem length_of_keptDiscoverable {request : Envelope RegisterWorkerPayload} {now : ℚ}
    (hne : request.payload.workerId ≠ "") (hT : request.payload.taskTypes ≠ [])
    (hs : Listable request.payload.status) (hx : 0 < cfg.x)
    (h : KeptDiscoverable cfg (s.registerWorker request now).1 request.payload.workerId
      request.payload.taskTypes now) :
    s.keptEntries request.payload = [] ∧ request.payload.taskTypes.length = 1 := by
  have hl := entriesOf_registered (s := s) now hne hT
  have htail : ∀ first rest, s.keptEntries request.payload
      ++ request.payload.newEntries now s.idcount request.payload.taskTypes = first :: rest →
      ∀ e ∈ request.payload.newEntries now s.idcount request.payload.taskTypes, e ∉ rest :=
    fun first rest heq e he => tail_of_keptDiscoverable hne hs hx h (hl.trans heq) he
  cases htypes : request.payload.taskTypes with
  | nil => exact absurd htypes hT
  | cons t types =>
      rw [htypes] at htail
      cases hkept : s.keptEntries request.payload with
      | cons first rest =>
          -- the first entry is a kept one: the first new entry is behind it
          rw [hkept] at htail
          exact absurd (List.mem_append_right rest List.mem_cons_self)
            (htail first _ rfl _ List.mem_cons_self)
      | nil =>
          refine ⟨rfl, ?_⟩
          rw [hkept] at htail
          cases types with
          | nil => rfl
          | cons t' types =>
              -- the entry of the second type is behind the one of the first
              exact absurd List.mem_cons_self
                (htail _ _ rfl _ (List.mem_cons_of_mem _ List.mem_cons_self))

/-- With a multiplier of zero or less the next pass removes a fresh entry. -/
theorem mult_of_keptDiscoverable {request : Envelope RegisterWorkerPayload} {now : ℚ}
    (hne : request.payload.workerId ≠ "") (hT : request.payload.taskTypes ≠ [])
    (hx : 0 < cfg.x) (hkept : s.keptEntries request.payload = [])
    (h : KeptDiscoverable cfg (s.registerWorker request now).1 request.payload.workerId
      request.payload.taskTypes now) : 1 ≤ cfg.y := by
  by_contra hy
  have hxq : (0 : ℚ) < (cfg.x : ℚ) := by exact_mod_cast hx
  have hmul : cfg.x * cfg.y ≤ 0 := by nlinarith
  have hmulq : ((cfg.x * cfg.y : Int) : ℚ) ≤ 0 := by exact_mod_cast hmul
  have hc : Cadenced cfg request.payload.workerId now [.monitorPass now] :=
    ⟨le_refl now, by linarith, trivial⟩
  obtain ⟨t, ht⟩ := List.exists_mem_of_ne_nil _ hT
  obtain ⟨⟨p, hp, hw⟩, _⟩ := h _ _ hc rfl t ht
  obtain ⟨e, he, _⟩ := mem_lookup.mp ⟨hp, hw⟩
  -- no entry survives the pass
  rw [entriesOf_monitorPass, entriesOf_registered now hne hT, hkept, List.nil_append,
    List.mem_filterMap] at he
  obtain ⟨e₀, he₀, hm⟩ := he
  obtain ⟨_, _, _, heq⟩ := mem_newEntries he₀
  have hnow : e₀.lastHeartbeat = now := by rw [heq]; rfl
  unfold monitorEntry at hm
  simp only [] at hm
  rw [if_pos (by rw [hnow]; linarith)] at hm
  cases hm

/-! ## §5. The main result. -/

/-- **When heartbeats keep a worker discoverable.**  For every registry and every accepted
registration with task types: heartbeats in time keep the worker listed for all of them with
its latest load, whatever other workers and the monitor do, if and only if the timeout is not
positive (then no heartbeat can be in time), or the multiplier is positive, the worker has
one task type, and it has no entry at another address. -/
theorem heartbeat_iff (cfg : LoopConfig) (s : Namensdienst)
    (request : Envelope RegisterWorkerPayload) (now : ℚ)
    (hne : request.payload.workerId ≠ "") (hT : request.payload.taskTypes ≠ [])
    (hs : Listable request.payload.status) :
    KeptDiscoverable cfg (s.registerWorker request now).1 request.payload.workerId
        request.payload.taskTypes now
      ↔ cfg.x ≤ 0 ∨ (1 ≤ cfg.y ∧ request.payload.taskTypes.length = 1 ∧
          ∀ e ∈ s.workers, e.workerId = request.payload.workerId →
            e.address = request.payload.address ∧ e.port = request.payload.port) := by
  rw [← keptEntries_eq_nil_iff]
  constructor
  · intro h
    by_cases hx : cfg.x ≤ 0
    · exact .inl hx
    · have hpos : 0 < cfg.x := by omega
      obtain ⟨hkept, hlen⟩ := length_of_keptDiscoverable hne hT hs hpos h
      exact .inr ⟨mult_of_keptDiscoverable hne hT hpos hkept h, hlen, hkept⟩
  · intro hcond es s' hc hr
    rcases hcond with hx | ⟨hy, hlen, hkept⟩
    · -- no heartbeat is in time: the entries of the registration are still there
      obtain ⟨hsame, hlatest⟩ := entriesOf_of_nonpos hx hc hr
      intro t ht
      rw [← effectiveTypes_of_ne_nil hT] at ht
      obtain ⟨e, he, htype, hd⟩ := mem_entriesOf_registerWorker s now hne hs ht
      rw [← hsame] at he
      refine ⟨listed_of_mem he htype hd, ?_⟩
      intro l hl
      rw [hlatest none] at hl
      cases hl
    · -- a single entry lasts as long as the cadence is kept
      obtain ⟨t, htypes⟩ := List.length_eq_one_iff.mp hlen
      have hsingle : SingleEntry (s.registerWorker request now).1 request.payload.workerId t now
          none := by
        refine ⟨request.payload.entry now t s.idcount, ?_, rfl, ?_, rfl, fun _ hl => nomatch hl⟩
        · rw [entriesOf_registered now hne hT, hkept, htypes]
          rfl
        · rw [isDiscoverable_iff]
          exact listable_statusOrActive hs
      obtain ⟨last, hlast⟩ := hsingle.run hne hy hc hr
      rw [htypes]
      exact hlast.lists

/-- A worker with one task type registers. -/
def sampleRegistration : Envelope RegisterWorkerPayload :=
  { payload := { workerId := "w1", taskTypes := ["reverse"], address := "localhost",
                 port := samplePort, status := "ACTIVE" } }

/-- Heartbeats keep this worker discoverable. -/
theorem heartbeat_iff_sample :
    KeptDiscoverable ⟨10, 2⟩ (init.registerWorker sampleRegistration 0).1 "w1" ["reverse"] 0 :=
  (heartbeat_iff ⟨10, 2⟩ init sampleRegistration 0 (by decide) (by decide) (by decide)).mpr
    (.inr ⟨by decide, rfl, fun _ h => nomatch h⟩)

/-- A worker with two task types registers. -/
def sampleTwoTypes : Envelope RegisterWorkerPayload :=
  { payload := { workerId := "w1", taskTypes := ["reverse", "upper"], address := "localhost",
                 port := samplePort, status := "ACTIVE" } }

/-- Heartbeats every five seconds, with the monitor passing in between. -/
def sampleHeartbeats : List NsEvent :=
  [.sendHeartbeat { payload := { workerId := "w1" } } 5,
    .sendHeartbeat { payload := { workerId := "w1" } } 10, .monitorPass 11]

/-- The worker is not listed for its second type, although its heartbeats are in time. -/
theorem not_keptDiscoverable_sampleTwoTypes :
    ¬ KeptDiscoverable ⟨10, 2⟩ (init.registerWorker sampleTwoTypes 0).1 "w1"
      ["reverse", "upper"] 0 := by
  intro h
  have hc : Cadenced ⟨10, 2⟩ "w1" 0 sampleHeartbeats := by
    refine ⟨.inl rfl, ?_, ?_, .inl rfl, ?_, ?_, ?_, ?_, trivial⟩ <;> norm_num
  obtain ⟨s', hrun, hnil⟩ : ∃ s', run (step ⟨10, 2⟩)
      (init.registerWorker sampleTwoTypes 0).1 sampleHeartbeats = some s' ∧
        s'.lookup "upper" = [] := ⟨_, rfl, by decide +kernel⟩
  obtain ⟨⟨p, hp, _⟩, _⟩ := h sampleHeartbeats s' hc hrun "upper" (by decide)
  rw [hnil] at hp
  cases hp

end Namensdienst

end TaskGrid
