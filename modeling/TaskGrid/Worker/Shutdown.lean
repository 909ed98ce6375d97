/-
  TaskGrid.Worker.Shutdown — handle_shutdown_signal and graceful_shutdown.

  Main results:
    * `graceful_shutdown` — from the signal on no task is begun, and when the
      process exits because its load is 0, the only calls it can cut off are
      those that had read `is_draining` before the signal and have not
      increased the load since.
    * `shutdown_ends` — unless there is another signal, the main thread exits
      after a number of steps that SHUTDOWN_TIMEOUT bounds, whatever the
      calls do.
-/
import TaskGrid.Worker.Runtime
import Mathlib.Algebra.Order.Floor.Ring
import Mathlib.Data.Rat.Floor
import Mathlib.Tactic.Linarith

namespace TaskGrid

open TaskGrid.Lib

/-! ## §1. The requests in the process. -/

/-- The call has read False from `is_draining`. -/
def CallPoint.isAdmitted : CallPoint → Bool
  | .entered => false
  | .admitted | .processing | .leaving _ => true

/-- The call has read False from `is_draining` and has not increased the load. -/
def CallPoint.isUncounted : CallPoint → Bool
  | .admitted => true
  | .entered | .processing | .leaving _ => false

/-- The requests of the calls at a point of this kind. -/
def requestsAt (p : CallPoint → Bool) (calls : List Call) : List (Envelope TaskPayload) :=
  (calls.filter (p ·.point)).map Call.request

/-- The call that has ended in a step. -/
def RuntimeEvent.ended : RuntimeEvent → List (Envelope TaskPayload)
  | .decreaseLoad request _ => [request]
  | _ => []

variable {p q : CallPoint → Bool} {calls calls' : List Call}

theorem requestsAt_append (p : CallPoint → Bool) (calls calls' : List Call) :
    requestsAt p (calls ++ calls') = requestsAt p calls ++ requestsAt p calls' := by
  unfold requestsAt
  rw [List.filter_append, List.map_append]

theorem requestsAt_perm (h : calls.Perm calls') : (requestsAt p calls).Perm (requestsAt p calls') :=
  (h.filter _).map _

theorem requestsAt_congr (h : ∀ c ∈ calls, p c.point = q c.point) :
    requestsAt p calls = requestsAt q calls := by
  unfold requestsAt
  rw [List.filter_congr h]

theorem mem_requestsAt {c : Call} (h : c ∈ calls) (hp : p c.point = true) :
    c.request ∈ requestsAt p calls :=
  List.mem_map_of_mem (List.mem_filter.mpr ⟨h, hp⟩)

namespace Runtime

variable {handlers : Handlers} {w : WorkerConfig} {shutdownTimeout : Int} {s s' : Runtime}

/-! ## §2. After the signal. -/

/-- The report comes from one of the requests. -/
def Begun (handlers : Handlers) (w : WorkerConfig) (requests : List (Envelope TaskPayload))
    (report : Envelope ResultPayload) : Prop :=
  ∃ request ∈ requests, ∃ first second now,
    report ∈ (executeTask handlers w false request first second now).1

/-- No step resets the flag. -/
theorem isDraining_step {e : RuntimeEvent} (hs : s.step handlers w shutdownTimeout e = some s')
    (hd : s.isDraining = true) : s'.isDraining = true := by
  cases e <;> simp only [step] at hs <;> (repeat' split at hs) <;> cases hs <;>
    first | exact hd | rfl

/-- A draining process admits no call: those it has admitted end, and those of them that are not
counted become fewer. -/
theorem admitted_step {e : RuntimeEvent} (hs : s.step handlers w shutdownTimeout e = some s')
    (hd : s.isDraining = true) :
    (requestsAt CallPoint.isAdmitted s.calls).Perm
        (e.ended ++ requestsAt CallPoint.isAdmitted s'.calls) ∧
      (requestsAt CallPoint.isUncounted s'.calls).Subperm
        (requestsAt CallPoint.isUncounted s.calls) := by
  have hperm := (calls_step hs).1
  rw [hd] at hperm
  refine ⟨?_, ?_⟩
  · have hreq := requestsAt_perm (p := CallPoint.isAdmitted) hperm
    rw [requestsAt_append, requestsAt_append] at hreq
    -- what a step takes on it leaves behind, or the call ends
    have hflow : requestsAt CallPoint.isAdmitted e.takes
        = requestsAt CallPoint.isAdmitted (e.leaves handlers w true) ++ e.ended := by
      cases e <;> rfl
    rw [hflow, List.perm_iff_count] at hreq
    rw [List.perm_iff_count]
    intro request
    have hcount := hreq request
    simp only [List.count_append] at hcount ⊢
    omega
  · have hreq := requestsAt_perm (p := CallPoint.isUncounted) hperm
    rw [requestsAt_append, requestsAt_append] at hreq
    have hnone : requestsAt CallPoint.isUncounted (e.leaves handlers w true) = [] := by
      cases e <;> rfl
    rw [hnone, List.append_nil] at hreq
    exact (List.sublist_append_left _ _).subperm.trans hreq.subperm

/-- The reports of a step come from a call that has been admitted. -/
theorem reports_step {e : RuntimeEvent} (hs : s.step handlers w shutdownTimeout e = some s')
    {report : Envelope ResultPayload} (hr : report ∈ s'.reports) :
    report ∈ s.reports ∨
      Begun handlers w (requestsAt CallPoint.isAdmitted s.calls) report := by
  cases e with
  | process request first second now =>
      simp only [step] at hs
      split at hs <;> cases hs
      rename_i hmem
      rcases List.mem_append.mp hr with hr | hr
      · exact .inl hr
      · exact .inr ⟨request, mem_requestsAt hmem rfl, first, second, now, hr⟩
  | _ =>
      left
      simp only [step] at hs
      (repeat' split at hs) <;> cases hs <;> exact hr

theorem Begun.mono {requests requests' : List (Envelope TaskPayload)}
    {report : Envelope ResultPayload} (h : Begun handlers w requests report)
    (hsub : ∀ request ∈ requests, request ∈ requests') : Begun handlers w requests' report := by
  obtain ⟨request, hmem, hrest⟩ := h
  exact ⟨request, hsub request hmem, hrest⟩

/-- **Run lemma.**  What becomes of the admitted calls of a draining process. -/
theorem draining_run {es : List RuntimeEvent} :
    ∀ {s s' : Runtime}, s.isDraining = true →
      run (step handlers w shutdownTimeout) s es = some s' →
      (requestsAt CallPoint.isAdmitted s.calls).Perm
          (es.flatMap RuntimeEvent.ended ++ requestsAt CallPoint.isAdmitted s'.calls) ∧
        (requestsAt CallPoint.isUncounted s'.calls).Subperm
          (requestsAt CallPoint.isUncounted s.calls) ∧
        ∀ report ∈ s'.reports, report ∈ s.reports ∨
          Begun handlers w (requestsAt CallPoint.isAdmitted s.calls) report := by
  induction es with
  | nil =>
      intro s s' _ hr
      rw [run_nil, Option.some.injEq] at hr
      rw [hr]
      exact ⟨List.Perm.refl _, List.Subperm.refl _, fun _ h => .inl h⟩
  | cons e es ih =>
      intro s s' hd hr
      obtain ⟨m, hm, hr⟩ := run_cons_eq_some.mp hr
      obtain ⟨hperm, hsub⟩ := admitted_step hm hd
      obtain ⟨hperm', hsub', hreports⟩ := ih (isDraining_step hm hd) hr
      refine ⟨?_, hsub'.trans hsub, ?_⟩
      · rw [List.flatMap_cons, List.append_assoc]
        exact hperm.trans (hperm'.append_left _)
      · intro report hmem
        rcases hreports report hmem with hold | hbegun
        · exact reports_step hm hold
        · -- admitted after the step, so before it
          exact .inr (hbegun.mono fun request h =>
            hperm.mem_iff.mpr (List.mem_append_right _ h))

/-! ## §3. The exit. -/

/-- The two ways out of `wait_for_running_tasks`. -/
theorem exit_cases {e : RuntimeEvent} (hs : s.step handlers w shutdownTimeout e = some s')
    (hrunning : s.main ≠ .exited) (hexit : s'.main = .exited) :
    s'.calls = s.calls ∧ s'.reports = s.reports ∧
      ((e = .readLoad ∧ s.currentLoad ≤ 0) ∨
        ∃ startTime now, s.main = .readingClock startTime ∧ e = .readClock now ∧
          startTime + shutdownTimeout < now) := by
  cases e with
  | readLoad =>
      simp only [step] at hs
      split at hs <;> cases hs
      refine ⟨rfl, rfl, .inl ⟨rfl, ?_⟩⟩
      by_contra hpos
      simp only [if_pos (not_le.mp hpos)] at hexit
      cases hexit
  | readClock now =>
      simp only [step] at hs
      split at hs
      case h_2 => cases hs
      rename_i startTime hmain
      split at hs <;> cases hs
      refine ⟨rfl, rfl, .inr ⟨startTime, now, hmain, rfl, ?_⟩⟩
      by_contra hle
      have hnot : ¬ now - startTime > shutdownTimeout := by
        intro h
        exact hle (by linarith)
      simp only [if_neg hnot] at hexit
      cases hexit
  | signal =>
      simp only [step] at hs
      split at hs <;> cases hs
      cases hexit
  | statusUpdated now =>
      simp only [step] at hs
      split at hs <;> cases hs
      cases hexit
  | wake =>
      simp only [step] at hs
      split at hs <;> cases hs
      cases hexit
  | enter | check | increaseLoad | process | decreaseLoad =>
      -- the steps of the calls leave the main thread alone
      simp only [step] at hs
      (repeat' split at hs) <;> cases hs <;> exact absurd hexit hrunning

/-- **Graceful shutdown.**  Of the calls admitted before the signal each has ended at the exit or
is still there, and no other call has sent anything.  An exit because the load is 0 leaves behind
only calls that stood between the flag and the load when the signal came and stand there still;
any other exit is later than SHUTDOWN_TIMEOUT. -/
theorem graceful_shutdown {pre mid : List RuntimeEvent} {e : RuntimeEvent} {a b c d : Runtime}
    (hpre : run (step handlers w shutdownTimeout) init pre = some a)
    (hsignal : a.step handlers w shutdownTimeout .signal = some b)
    (hmid : run (step handlers w shutdownTimeout) b mid = some c)
    (hstep : c.step handlers w shutdownTimeout e = some d)
    (hrunning : c.main ≠ .exited) (hexit : d.main = .exited) :
    (requestsAt CallPoint.isAdmitted a.calls).Perm
        (mid.flatMap RuntimeEvent.ended ++ requestsAt CallPoint.isAdmitted d.calls) ∧
      (∀ report ∈ d.reports, report ∈ a.reports ∨
        Begun handlers w (requestsAt CallPoint.isAdmitted a.calls) report) ∧
      ((e = .readLoad ∧
          requestsAt CallPoint.isAdmitted d.calls = requestsAt CallPoint.isUncounted d.calls ∧
          (requestsAt CallPoint.isUncounted d.calls).Subperm
            (requestsAt CallPoint.isUncounted a.calls)) ∨
        ∃ startTime now, c.main = .readingClock startTime ∧ e = .readClock now ∧
          startTime + shutdownTimeout < now) := by
  have ha : Reachable (step handlers w shutdownTimeout) init a := ⟨pre, hpre⟩
  have hc := (ha.tail hsignal).run hmid
  -- the signal itself changes no call
  have hb : b.calls = a.calls ∧ b.reports = a.reports ∧ b.isDraining = true := by
    simp only [step] at hsignal
    split at hsignal <;> cases hsignal
    exact ⟨rfl, rfl, rfl⟩
  obtain ⟨hperm, hsub, hreports⟩ := draining_run hb.2.2 hmid
  rw [hb.1] at hperm hsub hreports
  rw [hb.2.1] at hreports
  obtain ⟨hcalls, hsent, hways⟩ := exit_cases hstep hrunning hexit
  rw [hcalls, hsent]
  refine ⟨hperm, hreports, ?_⟩
  rcases hways with ⟨he, hload⟩ | htimeout
  · refine .inl ⟨he, requestsAt_congr ?_, hsub⟩
    -- a load of 0 means that no call is counted
    have hcount : c.calls.countP (·.point.isCounted) = 0 := by
      have := (load_of_reachable hc).1
      omega
    rw [List.countP_eq_zero] at hcount
    intro call hmem
    have hnot := hcount call hmem
    cases hp : call.point with
    | entered => rfl
    | admitted => rfl
    | processing => rw [hp] at hnot; exact absurd rfl hnot
    | leaving => rw [hp] at hnot; exact absurd rfl hnot
  · exact .inr htimeout

/-- The call ends while the status is announced. -/
def whileWaiting : List RuntimeEvent :=
  [.process runtimeRequest .returned .returned 1,
    .decreaseLoad runtimeRequest
      (some (taskResponse runtimeWorker runtimeRequest true "accepted" "" 1)),
    .statusUpdated 0]

/-- Nothing is cut off: the call has ended. -/
theorem graceful_shutdown_whileWaiting :
    ∃ a b c d, run (step (taskHandlers id id) runtimeWorker 10) init beforeSignal = some a ∧
      a.step (taskHandlers id id) runtimeWorker 10 .signal = some b ∧
      run (step (taskHandlers id id) runtimeWorker 10) b whileWaiting = some c ∧
      c.step (taskHandlers id id) runtimeWorker 10 .readLoad = some d ∧ d.main = .exited ∧
      (requestsAt CallPoint.isAdmitted a.calls).Perm
        (whileWaiting.flatMap RuntimeEvent.ended ++ requestsAt CallPoint.isAdmitted d.calls) := by
  refine ⟨_, _, _, _, rfl, rfl, rfl, rfl, rfl, ?_⟩
  exact (@graceful_shutdown (taskHandlers id id) runtimeWorker 10 beforeSignal whileWaiting .readLoad
    _ _ _ _ rfl rfl rfl rfl (by intro h; cases h) rfl).1

/-! ## §4. The wait ends. -/

/-- The step is one of the main thread during the shutdown. -/
def isMain : RuntimeEvent → Bool
  | .statusUpdated _ | .readLoad | .readClock _ | .wake => true
  | _ => false

/-- How often the main thread can still sleep when the clock has come to `clock`. -/
def sleepsLeft (shutdownTimeout : Int) (startTime clock : ℚ) : Nat :=
  (⌊startTime + shutdownTimeout - clock⌋ + 1).toNat

theorem sleepsLeft_mono (shutdownTimeout : Int) (startTime : ℚ) {clock now : ℚ}
    (h : clock ≤ now) :
    sleepsLeft shutdownTimeout startTime now ≤ sleepsLeft shutdownTimeout startTime clock := by
  have hfloor : ⌊startTime + shutdownTimeout - now⌋ ≤ ⌊startTime + shutdownTimeout - clock⌋ :=
    Int.floor_mono (by linarith)
  unfold sleepsLeft
  omega

/-- Each second of sleep leaves one less. -/
theorem sleepsLeft_succ {startTime now : ℚ} (h : now ≤ startTime + shutdownTimeout) :
    sleepsLeft shutdownTimeout startTime (now + 1) + 1
      = sleepsLeft shutdownTimeout startTime now := by
  have hnonneg : 0 ≤ ⌊startTime + shutdownTimeout - now⌋ := Int.floor_nonneg.mpr (by linarith)
  have hsub : ⌊startTime + shutdownTimeout - (now + 1)⌋
      = ⌊startTime + shutdownTimeout - now⌋ - 1 := by
    rw [← Int.floor_sub_one]
    congr 1
    ring
  unfold sleepsLeft
  omega

/-- How many steps the main thread can still make. -/
def rank (shutdownTimeout : Int) (s : Runtime) : Nat :=
  match s.main with
  | .serving | .exited => 0
  | .announcing => 3 * (shutdownTimeout + 1).toNat + 3
  | .readingLoad startTime => 3 * sleepsLeft shutdownTimeout startTime s.clock + 2
  | .readingClock startTime => 3 * sleepsLeft shutdownTimeout startTime s.clock + 1
  | .sleeping startTime => 3 * sleepsLeft shutdownTimeout startTime (s.clock + 1) + 3

/-- Every step of the main thread lowers the rank, and the calls do not touch it. -/
theorem rank_step {e : RuntimeEvent} (hne : e ≠ .signal)
    (hs : s.step handlers w shutdownTimeout e = some s') :
    s'.rank shutdownTimeout + (if isMain e then 1 else 0) ≤ s.rank shutdownTimeout := by
  cases e with
  | signal => exact absurd rfl hne
  | statusUpdated now =>
      simp only [step] at hs
      split at hs <;> cases hs
      rename_i h
      have hstart : sleepsLeft shutdownTimeout now now = (shutdownTimeout + 1).toNat := by
        unfold sleepsLeft
        rw [add_sub_cancel_left, Int.floor_intCast]
      simp only [rank, h.1, hstart, isMain, if_true]
      omega
  | readLoad =>
      simp only [step] at hs
      split at hs <;> cases hs
      rename_i startTime hmain
      by_cases hload : s.currentLoad > 0
      · simp only [rank, hmain, if_pos hload, isMain, if_true]
        omega
      · simp only [rank, hmain, if_neg hload, isMain, if_true]
        omega
  | readClock now =>
      simp only [step] at hs
      split at hs
      case h_2 => cases hs
      rename_i startTime hmain
      split at hs <;> cases hs
      rename_i hclock
      have hmono := sleepsLeft_mono shutdownTimeout startTime hclock
      by_cases hlate : now - startTime > shutdownTimeout
      · simp only [rank, hmain, if_pos hlate, isMain, if_true]
        omega
      · have hsucc : sleepsLeft shutdownTimeout startTime (now + 1) + 1
            = sleepsLeft shutdownTimeout startTime now := sleepsLeft_succ (by linarith)
        simp only [rank, hmain, if_neg hlate, isMain, if_true]
        omega
  | wake =>
      simp only [step] at hs
      split at hs <;> cases hs
      rename_i startTime hmain
      simp only [rank, hmain, isMain, if_true]
      omega
  | enter | check | increaseLoad | process | decreaseLoad =>
      simp only [step] at hs
      (repeat' split at hs) <;> cases hs <;> exact Nat.le_refl _

/-- A main thread that is shutting down can always make its next step. -/
theorem exists_main_step (hserving : s.main ≠ .serving) (hexited : s.main ≠ .exited) :
    ∃ e, isMain e = true ∧ (s.step handlers w shutdownTimeout e).isSome = true := by
  cases hm : s.main with
  | serving => exact absurd hm hserving
  | announcing =>
      refine ⟨.statusUpdated s.clock, rfl, ?_⟩
      simp only [step, hm, le_refl, and_self, if_true, Option.isSome_some]
  | readingLoad startTime => exact ⟨.readLoad, rfl, by simp only [step, hm, Option.isSome_some]⟩
  | readingClock startTime =>
      refine ⟨.readClock s.clock, rfl, ?_⟩
      simp only [step, hm, le_refl, if_true, Option.isSome_some]
  | sleeping startTime => exact ⟨.wake, rfl, by simp only [step, hm, Option.isSome_some]⟩
  | exited => exact absurd hm hexited

/-- A shutdown is not called off. -/
theorem shuttingDown_step {e : RuntimeEvent} (hs : s.step handlers w shutdownTimeout e = some s')
    (hm : s.main ≠ .serving) : s'.main ≠ .serving := by
  cases e <;> simp only [step] at hs <;> (repeat' split at hs) <;> cases hs <;>
    first | exact hm | (intro h; cases h)

/-- **The shutdown ends.**  From the signal on, without a second one and with a clock that does not
run back, the main thread makes at most this many steps, however many calls come and go, and
unless it has exited it can make the next one. -/
theorem shutdown_ends {pre es : List RuntimeEvent} {a b c : Runtime}
    (hpre : run (step handlers w shutdownTimeout) init pre = some a)
    (hsignal : a.step handlers w shutdownTimeout .signal = some b)
    (hrun : run (step handlers w shutdownTimeout) b es = some c) (hlast : .signal ∉ es) :
    es.countP isMain ≤ 3 * (shutdownTimeout + 1).toNat + 3 ∧
      (c.main ≠ .exited →
        ∃ e, isMain e = true ∧ (c.step handlers w shutdownTimeout e).isSome = true) := by
  have hb : b.main = .announcing := by
    simp only [step] at hsignal
    split at hsignal <;> cases hsignal
    rfl
  have hreach := (show Reachable (step handlers w shutdownTimeout) init a from ⟨pre, hpre⟩).tail
    hsignal
  refine ⟨?_, ?_⟩
  · have hcount := run_countP_le (P := (· ≠ .signal)) (p := isMain)
      (fun s e s' hne hs => rank_step hne hs) es
      (fun e he => fun heq => hlast (heq ▸ he)) hrun
    have hrank : b.rank shutdownTimeout = 3 * (shutdownTimeout + 1).toNat + 3 := by
      unfold rank
      rw [hb]
    omega
  · have hmain : c.main ≠ .serving :=
      run_preserves (fun _ _ _ _ hI hs => shuttingDown_step hs hI) es hreach
        (by rw [hb]; intro h; cases h) hrun
    exact exists_main_step hmain

/-- The steps of that shutdown are among the 36 it may take. -/
theorem shutdown_ends_whileWaiting :
    (∃ a b c, run (step (taskHandlers id id) runtimeWorker 10) init beforeSignal = some a ∧
      a.step (taskHandlers id id) runtimeWorker 10 .signal = some b ∧
      run (step (taskHandlers id id) runtimeWorker 10) b whileWaiting = some c) ∧
      whileWaiting.countP isMain ≤ 36 := by
  refine ⟨⟨_, _, _, rfl, rfl, rfl⟩, ?_⟩
  exact (@shutdown_ends (taskHandlers id id) runtimeWorker 10 beforeSignal whileWaiting _ _ _
    rfl rfl rfl (by decide)).1

end Runtime

end TaskGrid
