/-
  TaskGrid.System.Startup — the start of a worker: the loop of `register_worker`.

  A worker process calls RegisterWorker until it reads success, with pauses
  that double, and gives up with a RuntimeError that ends the process.  A call
  can fail on the way or lose its answer; other parties and the monitor go on,
  and the naming service may restart.

  Main results:
    * `start_up` — the calls and pauses of every start, and a start that
      succeeds leaves the worker listed for all its types.
    * `forgotten_after_giving_up` — a worker that has given up may still be
      listed, since only the answers may have been lost; the monitor removes
      it.
-/
import TaskGrid.System.Silence
import TaskGrid.Lib.Refinement

namespace TaskGrid

open TaskGrid.Lib

/-! ## §1. The loop. -/

/-- Where `register_worker` stands. -/
inductive StartPoint where
  /-- Before the call of this attempt. -/
  | calling (attempt waitSeconds : Nat)
  /-- In `time.sleep` after this attempt. -/
  | sleeping (attempt waitSeconds : Nat)
  /-- This attempt was answered with success, and the worker serves. -/
  | returned (attempt : Nat)
  /-- The RuntimeError has ended the process. -/
  | raised
  deriving DecidableEq

/-- The naming service and a worker process that starts. -/
structure Startup where
  service : Namensdienst
  point : StartPoint
  /-- The seconds spent in `time.sleep`. -/
  slept : Nat

/-- The labels of the steps. -/
inductive StartupEvent where
  /-- A request of another party, or a monitor pass. -/
  | service (e : NsEvent)
  /-- The naming service starts anew. -/
  | restart
  /-- The call of an attempt. -/
  | call (delivery : Delivery) (requestId : String) (timestamp : Int) (currentLoad : Int32Field)
      (now : ℚ)
  /-- The end of `time.sleep`. -/
  | sleepEnds

/-- The step is no call after this time. -/
def StartupEvent.NotAfter (last : ℚ) : StartupEvent → Prop
  | .call _ _ _ _ now => now ≤ last
  | _ => True

namespace Startup

/-- The head of the loop: `range(1, max_retries + 1)` may be empty. -/
def start (maxRetries : Nat) (service : Namensdienst) : Startup :=
  ⟨service, if 0 < maxRetries then .calling 1 1 else .raised, 0⟩

/-- The caller reads success. -/
def acked (w : WorkerProcess) (s : Startup) (delivery : Delivery) (requestId : String)
    (timestamp : Int) (currentLoad : Int32Field) (now : ℚ) : Bool :=
  delivery = .answered &&
    (s.service.registerWorker
      (w.registration requestId timestamp currentLoad) now).2.message.payload.success

/-- One step. -/
def step (cfg : LoopConfig) (w : WorkerProcess) (maxRetries : Nat) (s : Startup) :
    StartupEvent → Option Startup
  | .service e =>
      if e.speaksFor w.workerId then none
      else (s.service.step cfg e).map fun service => { s with service := service }
  | .restart => some { s with service := .init }
  | .call delivery requestId timestamp currentLoad now =>
      match s.point with
      | .calling attempt waitSeconds =>
          some { s with
            service :=
              if delivery.reaches then
                (s.service.registerWorker
                  (w.registration requestId timestamp currentLoad) now).1
              else s.service
            point :=
              if s.acked w delivery requestId timestamp currentLoad now then .returned attempt
              else .sleeping attempt waitSeconds }
      | _ => none
  | .sleepEnds =>
      match s.point with
      | .sleeping attempt waitSeconds =>
          some { s with
            point :=
              if attempt < maxRetries then .calling (attempt + 1) (waitSeconds * 2) else .raised
            slept := s.slept + waitSeconds }
      | _ => none

/-- What the process learns in a step: whether its call was a success. -/
def learns (w : WorkerProcess) (s : Startup) : StartupEvent → Option Bool
  | .call delivery requestId timestamp currentLoad now =>
      some (s.acked w delivery requestId timestamp currentLoad now)
  | _ => none

@[simp] theorem learns_call (w : WorkerProcess) (s : Startup) (delivery : Delivery)
    (requestId : String) (timestamp : Int) (load : Int32Field) (now : ℚ) :
    s.learns w (.call delivery requestId timestamp load now)
      = some (s.acked w delivery requestId timestamp load now) := rfl

/-- The answers to all calls so far. -/
def answers (maxRetries : Nat) : StartPoint → List Bool
  | .calling attempt _ => List.replicate (attempt - 1) false
  | .sleeping attempt _ => List.replicate attempt false
  | .returned attempt => List.replicate (attempt - 1) false ++ [true]
  | .raised => List.replicate maxRetries false

/-- The attempts are numbered within the limit, each pause is twice as long as the one before,
and all of them add up. -/
def Paced (maxRetries : Nat) (s : Startup) : Prop :=
  match s.point with
  | .calling attempt waitSeconds =>
      1 ≤ attempt ∧ attempt ≤ maxRetries ∧ waitSeconds = 2 ^ (attempt - 1) ∧
        s.slept + 1 = waitSeconds
  | .sleeping attempt waitSeconds =>
      1 ≤ attempt ∧ attempt ≤ maxRetries ∧ waitSeconds = 2 ^ (attempt - 1) ∧
        s.slept + 1 = waitSeconds
  | .returned attempt =>
      1 ≤ attempt ∧ attempt ≤ maxRetries ∧ s.slept + 1 = 2 ^ (attempt - 1)
  | .raised => s.slept + 1 = 2 ^ maxRetries

/-- A lookup for each of its types lists the worker at its address. -/
def ListedForAll (w : WorkerProcess) (service : Namensdienst) : Prop :=
  ∀ t ∈ w.taskTypes, ∃ p ∈ service.lookup t,
    p.workerId = w.workerId ∧ p.address = w.host ∧ p.port = w.port ∧ p.taskTypes = w.taskTypes

variable {cfg : LoopConfig} {w : WorkerProcess} {maxRetries : Nat} {s a b : Startup}

/-! ## §2. Inversion. -/

/-- What a step can do. -/
inductive StartupStep (cfg : LoopConfig) (w : WorkerProcess) (maxRetries : Nat) (a : Startup) :
    StartupEvent → Startup → Prop where
  | service {e : NsEvent} {service : Namensdienst} (he : e.speaksFor w.workerId = false)
      (hs : a.service.step cfg e = some service) :
      StartupStep cfg w maxRetries a (.service e) { a with service := service }
  | restart : StartupStep cfg w maxRetries a .restart { a with service := .init }
  | success {delivery : Delivery} {requestId : String} {timestamp : Int} {load : Int32Field}
      {now : ℚ} {attempt waitSeconds : Nat} (hp : a.point = .calling attempt waitSeconds)
      (hacked : a.acked w delivery requestId timestamp load now = true)
      (hreaches : delivery.reaches = true) :
      StartupStep cfg w maxRetries a (.call delivery requestId timestamp load now)
        { a with
          service := (a.service.registerWorker (w.registration requestId timestamp load) now).1
          point := .returned attempt }
  | failure {delivery : Delivery} {requestId : String} {timestamp : Int} {load : Int32Field}
      {now : ℚ} {attempt waitSeconds : Nat} {service : Namensdienst}
      (hp : a.point = .calling attempt waitSeconds)
      (hacked : a.acked w delivery requestId timestamp load now = false)
      (hservice : service = a.service ∨
        service = (a.service.registerWorker (w.registration requestId timestamp load) now).1) :
      StartupStep cfg w maxRetries a (.call delivery requestId timestamp load now)
        { a with service := service, point := .sleeping attempt waitSeconds }
  | again {attempt waitSeconds : Nat} (hp : a.point = .sleeping attempt waitSeconds)
      (hmore : attempt < maxRetries) :
      StartupStep cfg w maxRetries a .sleepEnds
        { a with point := .calling (attempt + 1) (waitSeconds * 2), slept := a.slept + waitSeconds }
  | giveUp {attempt waitSeconds : Nat} (hp : a.point = .sleeping attempt waitSeconds)
      (hmore : ¬ attempt < maxRetries) :
      StartupStep cfg w maxRetries a .sleepEnds
        { a with point := .raised, slept := a.slept + waitSeconds }

/-- **Inversion.** -/
theorem startupStep_of_step {e : StartupEvent} (hs : a.step cfg w maxRetries e = some b) :
    StartupStep cfg w maxRetries a e b := by
  cases e with
  | service e =>
      simp only [step] at hs
      split at hs
      case isTrue => cases hs
      rename_i he
      obtain ⟨service, hservice, rfl⟩ := Option.map_eq_some_iff.mp hs
      exact .service (by simpa using he) hservice
  | restart =>
      cases hs
      exact .restart
  | call delivery requestId timestamp load now =>
      simp only [step] at hs
      split at hs
      case h_2 => cases hs
      rename_i attempt waitSeconds hp
      rw [Option.some.injEq] at hs
      subst hs
      cases hacked : a.acked w delivery requestId timestamp load now with
      | true =>
          have hreaches : delivery.reaches = true := by
            unfold acked at hacked
            rw [Bool.and_eq_true, decide_eq_true_eq] at hacked
            rw [hacked.1]
            rfl
          rw [if_pos hreaches, if_pos rfl]
          exact .success hp hacked hreaches
      | false =>
          rw [if_neg Bool.false_ne_true]
          refine .failure hp hacked ?_
          split
          · exact .inr rfl
          · exact .inl rfl
  | sleepEnds =>
      simp only [step] at hs
      split at hs
      case h_2 => cases hs
      rename_i attempt waitSeconds hp
      rw [Option.some.injEq] at hs
      subst hs
      by_cases hmore : attempt < maxRetries
      · rw [if_pos hmore]
        exact .again hp hmore
      · rw [if_neg hmore]
        exact .giveUp hp hmore

/-! ## §3. The calls and the pauses. -/

theorem paced_start (maxRetries : Nat) (service : Namensdienst) :
    Paced maxRetries (start maxRetries service) := by
  unfold Paced start
  by_cases h : 0 < maxRetries
  · rw [if_pos h]
    exact ⟨Nat.le_refl 1, h, rfl, rfl⟩
  · rw [if_neg h, Nat.eq_zero_of_not_pos h]
    rfl

/-- **Step lemma.** -/
theorem paced_step {e : StartupEvent} (h : Paced maxRetries a)
    (hs : a.step cfg w maxRetries e = some b) : Paced maxRetries b := by
  unfold Paced at h
  cases startupStep_of_step hs with
  | service => exact h
  | restart => exact h
  | success hp =>
      rw [hp] at h
      exact ⟨h.1, h.2.1, h.2.2.2.trans h.2.2.1⟩
  | failure hp =>
      rw [hp] at h
      exact h
  | again hp hmore =>
      rw [hp] at h
      obtain ⟨h1, _, hwait, hslept⟩ := h
      refine ⟨Nat.succ_le_succ (Nat.zero_le _), hmore, ?_, ?_⟩
      · rw [hwait, Nat.add_sub_cancel, ← Nat.pow_succ, Nat.succ_eq_add_one, Nat.sub_add_cancel h1]
      · show a.slept + _ + 1 = _
        omega
  | giveUp hp hmore =>
      rw [hp] at h
      obtain ⟨h1, hle, hwait, hslept⟩ := h
      have hlast := Nat.le_antisymm (Nat.le_of_not_lt hmore) hle
      have hdouble := Nat.pow_succ (n := 2) (m := maxRetries - 1)
      rw [Nat.succ_eq_add_one, Nat.sub_add_cancel (Nat.le_trans h1 hle)] at hdouble
      rw [← hlast] at hwait
      show a.slept + _ + 1 = 2 ^ maxRetries
      omega

/-- What the process has learned is what its place in the loop says. -/
theorem answers_step {e : StartupEvent} (h : Paced maxRetries a)
    (hs : a.step cfg w maxRetries e = some b) :
    answers maxRetries b.point = answers maxRetries a.point ++ (a.learns w e).toList := by
  unfold Paced at h
  cases startupStep_of_step hs with
  | service => exact (List.append_nil _).symm
  | restart => exact (List.append_nil _).symm
  | success hp hacked =>
      rw [learns_call, hp, hacked]
      rfl
  | @failure _ _ _ _ _ attempt _ _ hp hacked _ =>
      rw [hp] at h
      rw [learns_call, hp, hacked]
      show List.replicate attempt false = List.replicate (attempt - 1) false ++ [false]
      rw [← List.replicate_succ', Nat.sub_add_cancel h.1]
  | again hp =>
      rw [hp]
      exact (List.append_nil _).symm
  | giveUp hp hmore =>
      rw [hp] at h ⊢
      rw [Nat.le_antisymm (Nat.le_of_not_lt hmore) h.2.1]
      exact (List.append_nil _).symm

/-- A call that is a success leaves the worker listed. -/
theorem listed_of_acked {service : Namensdienst} {delivery : Delivery} {requestId : String}
    {timestamp : Int} {load : Int32Field} {now : ℚ} (hservice : a.service = service)
    (hacked : a.acked w delivery requestId timestamp load now = true) :
    ListedForAll w (service.registerWorker (w.registration requestId timestamp load) now).1 := by
  have hne : (w.registration requestId timestamp load).payload.workerId ≠ "" := by
    intro hempty
    have hrej : service.registerWorker (w.registration requestId timestamp load) now
        = (service, workerIdMissing) := if_pos hempty
    unfold acked at hacked
    rw [hservice, hrej, Bool.and_eq_true] at hacked
    cases hacked.2
  have htypes : (w.registration requestId timestamp load).payload.effectiveTypes = w.taskTypes :=
    effectiveTypes_of_ne_nil w.taskTypes_ne_nil
  intro t ht
  obtain ⟨m, hm⟩ := exists_mem_newEntries (w.registration requestId timestamp load).payload now
    service.idcount (htypes.symm ▸ ht)
  have hmem := List.mem_append_right
    ((service.entriesOf (w.registration requestId timestamp load).payload.workerId).filter
      fun e => !(w.registration requestId timestamp load).payload.replaces e) hm
  rw [← Namensdienst.entriesOf_registerWorker_self now hne] at hmem
  obtain ⟨hp, hid⟩ := Namensdienst.mem_lookup.mpr ⟨_, hmem, rfl, rfl, rfl⟩
  exact ⟨_, hp, hid, rfl, rfl, htypes⟩

/-- **Every start of a worker.**  Over every run, whatever calls and answers are lost and whatever
happens to the registry in between: the process makes its calls one after the other up to the
first success and at most `maxRetries` of them, it sleeps `2 ^ k - 1` seconds over `k` failures,
it gives up after `maxRetries` failures and not before, and the call that succeeds leaves the
worker listed for each of its types. -/
theorem start_up {service : Namensdienst} {es : List StartupEvent}
    (hr : run (step cfg w maxRetries) (start maxRetries service) es = some s) :
    trace (step cfg w maxRetries) (learns w) (start maxRetries service) es
        = answers maxRetries s.point ∧
      s.Paced maxRetries ∧
      Along (step cfg w maxRetries)
        (fun a e b => a.learns w e = some true → ListedForAll w b.service)
        (start maxRetries service) es := by
  have hpaced : ∀ {b : Startup}, Reachable (step cfg w maxRetries) (start maxRetries service) b →
      b.Paced maxRetries := by
    intro b hb
    refine hb.invariant (I := Paced maxRetries) (paced_start maxRetries service) ?_
    intro a e b _ h hs
    exact paced_step h hs
  refine ⟨?_, hpaced ⟨es, hr⟩, ?_⟩
  · refine trace_invariant (P := fun os s => os = answers maxRetries s.point) ?_ ?_ hr
    · unfold start
      split <;> rename_i h
      · rfl
      · rw [Nat.eq_zero_of_not_pos h]
        rfl
    · rintro os a e b ha rfl hs
      exact (answers_step (hpaced ha) hs).symm
  · rw [along_iff_forall_split]
    intro pre e post a b _ _ hs hlearns
    cases startupStep_of_step hs with
    | success _ hacked => exact listed_of_acked rfl hacked
    | failure _ hacked =>
        rw [learns_call, hacked] at hlearns
        cases hlearns
    | _ => cases hlearns

/-- The second call is answered, with a monitor pass in the pause before it. -/
def secondAttempt : List StartupEvent :=
  [.call .answerLost "r1" 0 .default 0, .service (.monitorPass 1), .sleepEnds,
    .call .answered "r2" 2 .default 2]

/-- This start is over after one pause of a second. -/
theorem start_up_secondAttempt :
    ∃ s, run (step ⟨10, 2⟩ Presence.sampleProcess 5) (start 5 .init) secondAttempt = some s ∧
      trace (step ⟨10, 2⟩ Presence.sampleProcess 5) (learns Presence.sampleProcess)
          (start 5 .init) secondAttempt = [false, true] ∧
      s.slept = 1 := by
  have hrun : (run (step ⟨10, 2⟩ Presence.sampleProcess 5) (start 5 .init) secondAttempt).map
      (fun s => (s.point, s.slept)) = some (.returned 2, 1) := by decide +kernel
  obtain ⟨s, hs, hpoint⟩ := Option.map_eq_some_iff.mp hrun
  obtain ⟨htrace, _, _⟩ := start_up hs
  rw [(Prod.mk.inj hpoint).1] at htrace
  exact ⟨s, hs, htrace, (Prod.mk.inj hpoint).2⟩

/-! ## §4. After the RuntimeError. -/

/-- A step leaves entries that were there before, or writes those of a call. -/
theorem ages_of_step {last : ℚ} {e : StartupEvent} (hs : a.step cfg w maxRetries e = some b)
    (he : e.NotAfter last) {v : Worker} (hv : v ∈ b.service.entriesOf w.workerId) :
    (∃ u ∈ a.service.entriesOf w.workerId, u.Ages v) ∨
      a.point ≠ .raised ∧ v.lastHeartbeat ≤ last := by
  have hcall : ∀ {requestId : String} {timestamp : Int} {load : Int32Field} {now : ℚ},
      now ≤ last → v ∈ (a.service.registerWorker
        (w.registration requestId timestamp load) now).1.entriesOf w.workerId →
      (∃ u ∈ a.service.entriesOf w.workerId, u.Ages v) ∨ v.lastHeartbeat ≤ last := by
    intro requestId timestamp load now hnow hv
    by_cases hne : w.workerId = ""
    · have hrej : a.service.registerWorker (w.registration requestId timestamp load) now
          = (a.service, workerIdMissing) := if_pos hne
      rw [hrej] at hv
      exact .inl ⟨v, hv, .refl v⟩
    · have hentries := @Namensdienst.entriesOf_registerWorker_self a.service
        (w.registration requestId timestamp load) now hne
      rw [show w.workerId = (w.registration requestId timestamp load).payload.workerId from rfl,
        hentries, List.mem_append] at hv
      rcases hv with hold | hnew
      · exact .inl ⟨v, (List.mem_filter.mp hold).1, .refl v⟩
      · obtain ⟨_, _, _, rfl⟩ := mem_newEntries hnew
        exact .inr hnow
  cases startupStep_of_step hs with
  | service hq hservice => exact .inl (Namensdienst.ages_of_step hservice hq hv)
  | restart => cases hv
  | success hp =>
      refine (hcall he hv).imp_right fun hle => ⟨?_, hle⟩
      rw [hp]
      exact nofun
  | failure hp _ hservice =>
      rcases hservice with rfl | rfl
      · exact .inl ⟨v, hv, .refl v⟩
      · refine (hcall he hv).imp_right fun hle => ⟨?_, hle⟩
        rw [hp]
        exact nofun
  | again => exact .inl ⟨v, hv, .refl v⟩
  | giveUp => exact .inl ⟨v, hv, .refl v⟩

/-- The RuntimeError ends the process: there is no call after it. -/
theorem raised_step {e : StartupEvent} (hs : a.step cfg w maxRetries e = some b)
    (h : a.point = .raised) : b.point = .raised ∧ ∀ last, e.NotAfter last := by
  cases startupStep_of_step hs with
  | service => exact ⟨h, fun _ => trivial⟩
  | restart => exact ⟨h, fun _ => trivial⟩
  | success hp | failure hp | again hp | giveUp hp =>
      rw [h] at hp
      cases hp

/-- From then on the entries of the worker only age. -/
theorem raised_run {Q : Namensdienst → Prop}
    (hQ : ∀ a b : Namensdienst, Q a →
      (∀ v ∈ b.entriesOf w.workerId, ∃ u ∈ a.entriesOf w.workerId, u.Ages v) → Q b)
    {es : List StartupEvent} (hr : run (step cfg w maxRetries) a es = some s)
    (h : a.point = .raised) (hq : Q a.service) : Q s.service := by
  have hkeep : s.point = .raised ∧ Q s.service := by
    refine run_preserves (I := fun s => s.point = .raised ∧ Q s.service) ?_ es
      (Reachable.init a) ⟨h, hq⟩ hr
    rintro x e y _ ⟨hraised, hx⟩ hs
    obtain ⟨hraised', hcall⟩ := raised_step hs hraised
    refine ⟨hraised', hQ _ _ hx ?_⟩
    intro v hv
    exact (ages_of_step hs (hcall 0) hv).resolve_right fun hnew => hnew.1 hraised
  exact hkeep.2

/-- No entry of the worker is younger than the last call. -/
theorem lastHeartbeat_run {last : ℚ} {service : Namensdienst} {es : List StartupEvent}
    (h : ∀ e ∈ service.entriesOf w.workerId, e.lastHeartbeat ≤ last)
    (hcalls : ∀ e ∈ es, e.NotAfter last)
    (hr : run (step cfg w maxRetries) (start maxRetries service) es = some s) :
    ∀ e ∈ s.service.entriesOf w.workerId, e.lastHeartbeat ≤ last := by
  refine run_preserves_of_labels (P := StartupEvent.NotAfter last)
    (I := fun s => ∀ e ∈ s.service.entriesOf w.workerId, e.lastHeartbeat ≤ last) ?_ es
    (Reachable.init _) hcalls h hr
  intro a e b _ he hI hs v hv
  rcases ages_of_step hs he hv with ⟨u, hu, hages⟩ | ⟨_, hle⟩
  · rw [hages.lastHeartbeat]
    exact hI u hu
  · exact hle

/-- **A worker that has given up is forgotten.**  Its calls may have arrived, so it may be listed
after the RuntimeError.  From the first monitor pass that comes `x` seconds after the last call no
lookup finds it, and from the first one that comes `x * y` seconds after the last call it has no
entry, whatever the others do. -/
theorem forgotten_after_giving_up {last now : ℚ} {service : Namensdienst} {s' s'' : Startup}
    {es fs : List StartupEvent}
    (hold : ∀ e ∈ service.entriesOf w.workerId, e.lastHeartbeat ≤ last)
    (hcalls : ∀ e ∈ es, e.NotAfter last)
    (hr : run (step cfg w maxRetries) (start maxRetries service) es = some s)
    (hraised : s.point = .raised)
    (hpass : s.step cfg w maxRetries (.service (.monitorPass now)) = some s')
    (hr' : run (step cfg w maxRetries) s' fs = some s'') :
    (last + cfg.x ≤ now → ∀ request,
        ∀ v ∈ (s''.service.lookupWorker request).message.payload.workers,
          v.workerId ≠ w.workerId) ∧
      (last + ((cfg.x * cfg.y : Int) : ℚ) ≤ now → s''.service.entriesOf w.workerId = []) := by
  have hlast := lastHeartbeat_run hold hcalls hr
  have hraised' := (raised_step hpass hraised).1
  have hentries : s'.service.entriesOf w.workerId
      = (s.service.entriesOf w.workerId).filterMap (Namensdienst.monitorEntry cfg now) := by
    cases startupStep_of_step hpass with
    | service _ hservice =>
        cases hservice
        exact Namensdienst.entriesOf_monitorPass now
  refine ⟨?_, ?_⟩
  · intro hx request v hv
    have hunlisted : s'.service.Unlisted w.workerId := by
      intro e he
      rw [hentries, List.mem_filterMap] at he
      obtain ⟨u, hu, hue⟩ := he
      refine (Namensdienst.ages_of_monitorEntry hue).2 (le_trans ?_ hx)
      exact add_le_add_left (hlast u hu) _
    exact (raised_run (Q := fun s => s.Unlisted w.workerId) (fun _ _ h => h.of_ages) hr' hraised'
      hunlisted).not_mem_lookup hv
  · intro hxy
    refine raised_run (Q := fun s => s.entriesOf w.workerId = []) ?_ hr' hraised' ?_
    · intro a b hnil hages
      rw [List.eq_nil_iff_forall_not_mem]
      intro v hv
      obtain ⟨u, hu, _⟩ := hages v hv
      rw [hnil] at hu
      cases hu
    · rw [hentries, List.filterMap_eq_nil_iff]
      intro e he
      refine Namensdienst.monitorEntry_of_overdue (le_trans ?_ hxy)
      exact add_le_add_left (hlast e he) _

/-- A start with a single attempt whose answer is lost. -/
def lostAnswer : List StartupEvent := [.call .answerLost "r1" 0 .default 0, .sleepEnds]

/-- The worker is listed when its process has ended, and a pass at 20 removes it. -/
theorem forgotten_after_giving_up_lostAnswer :
    ∃ s s', run (step ⟨10, 2⟩ Presence.sampleProcess 1) (start 1 .init) lostAnswer = some s ∧
      s.point = .raised ∧ (s.service.lookup "reverse").length = 1 ∧
      s.step ⟨10, 2⟩ Presence.sampleProcess 1 (.service (.monitorPass 20)) = some s' ∧
      s'.service.entriesOf "w1" = [] := by
  refine ⟨_, _, rfl, rfl, rfl, rfl, ?_⟩
  have htimes : ∀ e ∈ lostAnswer, e.NotAfter 0 := by
    intro e he
    rcases List.mem_cons.mp he with rfl | he
    · exact le_refl (0 : ℚ)
    · rw [List.mem_singleton.mp he]
      trivial
  exact (@forgotten_after_giving_up ⟨10, 2⟩ Presence.sampleProcess 1 _ 0 20 .init _ _ lostAnswer []
    (fun e he => nomatch he) htimes rfl rfl rfl rfl).2 (by decide +kernel)

end Startup

end TaskGrid
