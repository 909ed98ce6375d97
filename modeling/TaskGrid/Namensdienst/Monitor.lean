/-
  TaskGrid.Namensdienst.Monitor — the monitor thread among the requests.

  A pass of `startLoop.loop` takes a copy of the list and looks at its entries
  one by one; requests run in between.  An entry is an object whose identity
  is its `id` (the counter gives every new entry another one), and the copy
  holds references: what the thread reads of an entry is what the entry
  says now, also when a request has taken it out of the list meanwhile
  (`detached`).

  Main results: `survives_iff` (the thread lives as long as no entry that is
  stale at its turn has been taken out since the copy) and
  `run_pass` with `pass_expires_stale` (a pass with no request in between).
-/
import TaskGrid.Namensdienst.Entries
import Mathlib.Data.List.Range
import Mathlib.Tactic.Linarith

namespace TaskGrid

open TaskGrid.Lib

/-! ## §1. The thread. -/

/-- The naming service with its monitor thread. -/
structure Monitor where
  service : Namensdienst
  /-- The entries requests have taken out of the list since the running pass began. -/
  detached : List Worker
  /-- The running pass: its clock reading and the entries it has still to look at. -/
  pass : Option (ℚ × List Nat)
  /-- An exception has ended the thread. -/
  dead : Bool

/-- The ids of the entries. -/
def ids (l : List Worker) : List Nat := l.map Worker.id

/-- `worker.status = status` on the entry with the id. -/
def setStatus (id : Nat) (status : String) (l : List Worker) : List Worker :=
  l.map fun w => if w.id = id then { w with status := status } else w

/-- `elapsed >= x * y` -/
def LoopConfig.isStale (cfg : LoopConfig) (now : ℚ) (w : Worker) : Bool :=
  now - w.lastHeartbeat ≥ ((cfg.x * cfg.y : Int) : ℚ)

/-- `elapsed >= x` -/
def LoopConfig.isOverdue (cfg : LoopConfig) (now : ℚ) (w : Worker) : Bool :=
  now - w.lastHeartbeat ≥ (cfg.x : ℚ)

namespace Monitor

/-- The naming service after start-up. -/
def init : Monitor := ⟨.init, [], none, false⟩

/-- The entry a reference leads to. -/
def object? (s : Monitor) (id : Nat) : Option Worker :=
  (s.service.workers.find? (·.id = id)).or (s.detached.find? (·.id = id))

/-- Write a status to the object, wherever it is. -/
def writeStatus (s : Monitor) (id : Nat) (status : String) : Monitor :=
  { s with
    service := { s.service with workers := setStatus id status s.service.workers }
    detached := setStatus id status s.detached }

/-- `self.workers.remove(worker)`: a ValueError when the object is not in the list, and nothing
in the loop catches it. -/
def remove (s : Monitor) (id : Nat) : Monitor :=
  if id ∈ ids s.service.workers then
    { s with service := { s.service with workers := s.service.workers.eraseP (·.id = id) } }
  else { s with pass := none, dead := true }

/-- The start of a pass: `now = time.time()` and the copy. -/
def beginPass (s : Monitor) (now : ℚ) : Option Monitor :=
  if s.dead || s.pass.isSome then none
  else some { s with detached := [], pass := some (now, ids s.service.workers) }

/-- The body of the inner loop for the entry, as the thread reads it. -/
def judge (cfg : LoopConfig) (s : Monitor) (now : ℚ) (worker : Worker) : Monitor :=
  let s := if cfg.isOverdue now worker then s.writeStatus worker.id "UNHEALTHY" else s
  if cfg.isStale now worker then (s.writeStatus worker.id "OFFLINE").remove worker.id else s

/-- One iteration of the inner loop. -/
def visit (cfg : LoopConfig) (s : Monitor) : Option Monitor :=
  match s.pass with
  | some (now, id :: rest) =>
      (s.object? id).map fun worker => { s with pass := some (now, rest) }.judge cfg now worker
  | _ => none

/-- The end of a pass. -/
def endPass (s : Monitor) : Option Monitor :=
  match s.pass with
  | some (_, []) => some { s with detached := [], pass := none }
  | _ => none

end Monitor

/-- The entries a request takes out of the list. -/
def Namensdienst.takenOut (s : Namensdienst) : NsEvent → List Worker
  | .registerWorker request _ =>
      if request.payload.workerId = "" then [] else s.workers.filter request.payload.replaces
  | .deregisterWorker request => s.workers.filter (·.workerId = request.payload.workerId)
  | _ => []

/-- The labels of the steps. -/
inductive MonitorEvent where
  | request (e : NsEvent)
  | beginPass (now : ℚ)
  | visit
  | endPass

/-- The event is a request and no monitor pass. -/
def NsEvent.isRequest : NsEvent → Bool
  | .monitorPass _ => false
  | _ => true

namespace Monitor

/-- One step: a request, or a step of the monitor thread. -/
def step (cfg : LoopConfig) (s : Monitor) : MonitorEvent → Option Monitor
  | .request e =>
      if e.isRequest then
        (s.service.step cfg e).map fun service =>
          { s with service := service, detached := s.detached ++ s.service.takenOut e }
      else none
  | .beginPass now => s.beginPass now
  | .visit => s.visit cfg
  | .endPass => s.endPass

end Monitor

/-! ## §2. Lists of entries with distinct ids. -/

@[simp] theorem ids_nil : ids [] = [] := rfl

@[simp] theorem ids_cons (w : Worker) (l : List Worker) : ids (w :: l) = w.id :: ids l := rfl

@[simp] theorem ids_append (l l' : List Worker) : ids (l ++ l') = ids l ++ ids l' :=
  List.map_append

@[simp] theorem ids_setStatus (id : Nat) (status : String) (l : List Worker) :
    ids (setStatus id status l) = ids l := by
  induction l with
  | nil => rfl
  | cons w l ih =>
      show _ :: ids (setStatus id status l) = w.id :: ids l
      rw [ih]
      by_cases h : w.id = id <;> simp [h]

theorem setStatus_of_not_mem {id : Nat} {l : List Worker} (h : id ∉ ids l) (status : String) :
    setStatus id status l = l := by
  induction l with
  | nil => rfl
  | cons w l ih =>
      rw [ids_cons, List.mem_cons, not_or] at h
      show (if w.id = id then _ else w) :: setStatus id status l = w :: l
      rw [if_neg (Ne.symm h.1), ih h.2]

theorem setStatus_split {id : Nat} {done rest : List Worker} {w : Worker} (hw : w.id = id)
    (hd : id ∉ ids done) (hr : id ∉ ids rest) (status : String) :
    setStatus id status (done ++ w :: rest)
      = done ++ { w with status := status } :: rest := by
  unfold setStatus
  rw [List.map_append, List.map_cons, if_pos hw]
  congr 1
  · exact setStatus_of_not_mem hd status
  · congr 1
    exact setStatus_of_not_mem hr status

theorem find?_of_not_mem {id : Nat} {l : List Worker} (h : id ∉ ids l) :
    l.find? (·.id = id) = none := by
  rw [List.find?_eq_none]
  intro w hw
  have hne : w.id ≠ id := fun he => h (he ▸ List.mem_map_of_mem hw)
  simpa using hne

theorem find?_split {id : Nat} {done : List Worker} {w : Worker} (hw : w.id = id)
    (hd : id ∉ ids done) (rest : List Worker) :
    (done ++ w :: rest).find? (·.id = id) = some w := by
  rw [List.find?_append, find?_of_not_mem hd, Option.none_or]
  exact List.find?_cons_of_pos (by simpa using hw)

theorem eraseP_split {id : Nat} {done : List Worker} {w : Worker} (hw : w.id = id)
    (hd : id ∉ ids done) (rest : List Worker) :
    (done ++ w :: rest).eraseP (·.id = id) = done ++ rest := by
  -- `remove` goes by the object, so it passes over the entries before it
  have hnone : ∀ e ∈ done, ¬ (decide (e.id = id)) = true := by
    intro e he
    have hne : e.id ≠ id := fun h => hd (h ▸ List.mem_map_of_mem he)
    simpa using hne
  rw [List.eraseP_append_right _ hnone, List.eraseP_cons_of_pos (by simpa using hw)]

theorem ids_eraseP (id : Nat) (l : List Worker) :
    ids (l.eraseP (·.id = id)) = (ids l).erase id := by
  induction l with
  | nil => rfl
  | cons w l ih =>
      rw [ids_cons]
      by_cases h : w.id = id
      · rw [List.eraseP_cons_of_pos (by simpa using h), h, List.erase_cons_head]
      · rw [List.eraseP_cons_of_neg (by simpa using h), ids_cons, ih,
          List.erase_cons_tail (by simpa using h)]

/-- A registration numbers its entries from the counter on. -/
theorem ids_newEntries (p : RegisterWorkerPayload) (now : ℚ) (n : Nat) (types : List String) :
    ids (p.newEntries now n types) = List.range' n types.length := by
  induction types generalizing n with
  | nil => rfl
  | cons t types ih =>
      show n :: ids (p.newEntries now (n + 1) types) = _
      rw [ih, List.length_cons, List.range'_succ]

theorem ids_refreshFirst (p : HeartbeatPayload) (now : ℚ) (l : List Worker) :
    ids (Namensdienst.refreshFirst p now l) = ids l := by
  induction l with
  | nil => rfl
  | cons w l ih =>
      unfold Namensdienst.refreshFirst
      split
      · rfl
      · rw [ids_cons, ids_cons, ih]

/-- A request moves entries out of the list and adds entries with new ids. -/
theorem ids_of_request {cfg : LoopConfig} {s s' : Namensdienst} {e : NsEvent}
    (hs : s.step cfg e = some s') (he : e.isRequest = true) :
    ∃ new, (ids s'.workers ++ ids (s.takenOut e)).Perm (ids s.workers ++ new) ∧ new.Nodup ∧
      (∀ i ∈ new, s.idcount ≤ i ∧ i < s'.idcount) ∧ s.idcount ≤ s'.idcount := by
  -- what a filter keeps and what it drops are the entries there were
  have hsplit : ∀ p : Worker → Bool,
      (ids (s.workers.filter fun w => !p w) ++ ids (s.workers.filter p)).Perm (ids s.workers) := by
    intro p
    rw [← ids_append]
    exact (List.perm_append_comm.trans (List.filter_append_perm p s.workers)).map Worker.id
  cases e with
  | registerWorker request now =>
      cases hs
      by_cases hne : request.payload.workerId = ""
      · refine ⟨[], ?_, List.nodup_nil, nofun, ?_⟩ <;>
          simp [Namensdienst.registerWorker, Namensdienst.takenOut, hne]
      · refine ⟨List.range' s.idcount request.payload.effectiveTypes.length, ?_,
          List.nodup_range', ?_, ?_⟩
        · simp only [Namensdienst.registerWorker, Namensdienst.takenOut, if_neg hne, ids_append,
            ids_newEntries]
          rw [List.append_assoc]
          refine (List.perm_append_comm.append_left _).trans ?_
          rw [← List.append_assoc]
          exact (hsplit request.payload.replaces).append_right _
        · intro i hi
          rw [List.mem_range'_1] at hi
          simp only [Namensdienst.registerWorker, if_neg hne]
          exact hi
        · simp only [Namensdienst.registerWorker, if_neg hne]
          omega
  | deregisterWorker request =>
      cases hs
      refine ⟨[], ?_, List.nodup_nil, nofun, Nat.le_refl _⟩
      rw [List.append_nil]
      have hnot : (s.deregisterWorker request).1.workers
          = s.workers.filter fun w => !decide (w.workerId = request.payload.workerId) := by
        simp [Namensdienst.deregisterWorker]
      rw [hnot]
      exact hsplit fun w => w.workerId = request.payload.workerId
  | sendHeartbeat request now =>
      cases hs
      have hsame : ids (s.sendHeartbeat request now).1.workers = ids s.workers ∧
          (s.sendHeartbeat request now).1.idcount = s.idcount := by
        unfold Namensdienst.sendHeartbeat
        simp only []
        split
        · exact ⟨rfl, rfl⟩
        · split
          · exact ⟨ids_refreshFirst request.payload now s.workers, rfl⟩
          · exact ⟨rfl, rfl⟩
      refine ⟨[], ?_, List.nodup_nil, nofun, Nat.le_of_eq hsame.2.symm⟩
      rw [hsame.1]
      exact List.Perm.refl _
  | monitorPass => cases he

/-! ## §3. The references of a pass. -/

namespace Monitor

variable {cfg : LoopConfig} {s s' a b : Monitor}

/-- The entries in the list and those taken out are different objects, and the references of the
running pass lead to one of them each. -/
structure Inv (s : Monitor) : Prop where
  nodup : (ids s.service.workers ++ ids s.detached).Nodup
  old : ∀ i ∈ ids s.service.workers ++ ids s.detached, i < s.service.idcount
  pass : ∀ now l, s.pass = some (now, l) →
    l.Nodup ∧ ∀ i ∈ l, i ∈ ids s.service.workers ++ ids s.detached

/-- A change that touches no id and no reference. -/
theorem Inv.congr (h : Inv s) (hw : ids s'.service.workers = ids s.service.workers)
    (hd : ids s'.detached = ids s.detached) (hi : s'.service.idcount = s.service.idcount)
    (hp : s'.pass = s.pass) : Inv s' := by
  refine ⟨?_, ?_, ?_⟩
  · rw [hw, hd]
    exact h.nodup
  · rw [hw, hd, hi]
    exact h.old
  · rw [hw, hd, hp]
    exact h.pass

/-- What a request does, with its guard. -/
theorem request_eq_some {e : NsEvent} (hs : s.step cfg (.request e) = some s') :
    e.isRequest = true ∧ ∃ service, s.service.step cfg e = some service ∧
      s' = { s with service := service, detached := s.detached ++ s.service.takenOut e } := by
  unfold step at hs
  simp only [] at hs
  split at hs
  case isFalse => cases hs
  rename_i he
  obtain ⟨service, hservice, heq⟩ := Option.map_eq_some_iff.mp hs
  exact ⟨he, service, hservice, heq.symm⟩

theorem beginPass_eq_some {now : ℚ} (hs : s.beginPass now = some s') :
    s' = { s with detached := [], pass := some (now, ids s.service.workers) } := by
  unfold beginPass at hs
  split at hs
  · cases hs
  · exact (Option.some.inj hs).symm

theorem endPass_eq_some (hs : s.endPass = some s') :
    s' = { s with detached := [], pass := none } := by
  unfold endPass at hs
  split at hs
  · exact (Option.some.inj hs).symm
  · cases hs

/-- What one iteration does, with its guard. -/
theorem visit_eq_some (hs : s.visit cfg = some s') :
    ∃ now id rest w, s.pass = some (now, id :: rest) ∧ s.object? id = some w ∧
      s' = { s with pass := some (now, rest) }.judge cfg now w := by
  unfold visit at hs
  split at hs
  case h_2 => cases hs
  rename_i now id rest hp
  obtain ⟨w, hw, heq⟩ := Option.map_eq_some_iff.mp hs
  exact ⟨now, id, rest, w, hp, hw, heq.symm⟩

/-- The two writes of an iteration: perhaps UNHEALTHY, and for a stale entry OFFLINE before it
is removed. -/
theorem judge_cases (cfg : LoopConfig) (s : Monitor) (now : ℚ) (w : Worker) :
    ∃ m, (m = s ∨ m = s.writeStatus w.id "UNHEALTHY") ∧
      s.judge cfg now w
        = if cfg.isStale now w then (m.writeStatus w.id "OFFLINE").remove w.id else m := by
  refine ⟨if cfg.isOverdue now w then s.writeStatus w.id "UNHEALTHY" else s, ?_, rfl⟩
  split
  · exact .inr rfl
  · exact .inl rfl

theorem inv_writeStatus (h : Inv s) (id : Nat) (status : String) : Inv (s.writeStatus id status) :=
  h.congr (ids_setStatus id status _) (ids_setStatus id status _) rfl rfl

/-- Removing an entry the pass has no reference to any more. -/
theorem inv_remove (h : Inv s) {id : Nat} (hid : ∀ now l, s.pass = some (now, l) → id ∉ l) :
    Inv (s.remove id) := by
  unfold remove
  split
  · -- the object is gone for good: it is in neither list afterwards
    have hsub : (ids (s.service.workers.eraseP (·.id = id)) ++ ids s.detached).Sublist
        (ids s.service.workers ++ ids s.detached) := by
      rw [ids_eraseP]
      exact List.erase_sublist.append_right _
    refine ⟨h.nodup.sublist hsub, fun i hi => h.old i (hsub.subset hi), ?_⟩
    intro now l hp
    obtain ⟨hnd, hmem⟩ := h.pass now l hp
    refine ⟨hnd, ?_⟩
    intro i hi
    have hne : i ≠ id := fun he => hid now l hp (he ▸ hi)
    rw [ids_eraseP]
    rcases List.mem_append.mp (hmem i hi) with hi' | hi'
    · exact List.mem_append_left _ ((List.mem_erase_of_ne hne).mpr hi')
    · exact List.mem_append_right _ hi'
  · -- the thread dies and drops its references
    exact ⟨h.nodup, h.old, nofun⟩

theorem inv_request (h : Inv s) {e : NsEvent} {service : Namensdienst}
    (hs : s.service.step cfg e = some service) (he : e.isRequest = true) :
    Inv { s with service := service, detached := s.detached ++ s.service.takenOut e } := by
  obtain ⟨new, hperm, hnew, hfresh, hcount⟩ := ids_of_request hs he
  -- all ids afterwards: the old ones and the new ones
  have hall : (ids service.workers ++ ids (s.detached ++ s.service.takenOut e)).Perm
      ((ids s.service.workers ++ ids s.detached) ++ new) := by
    rw [ids_append]
    calc (ids service.workers ++ (ids s.detached ++ ids (s.service.takenOut e))).Perm
          (ids service.workers ++ (ids (s.service.takenOut e) ++ ids s.detached)) :=
        List.perm_append_comm.append_left _
      _ = (ids service.workers ++ ids (s.service.takenOut e)) ++ ids s.detached :=
        (List.append_assoc _ _ _).symm
      List.Perm _ ((ids s.service.workers ++ new) ++ ids s.detached) := hperm.append_right _
      _ = ids s.service.workers ++ (new ++ ids s.detached) := List.append_assoc _ _ _
      List.Perm _ (ids s.service.workers ++ (ids s.detached ++ new)) :=
        List.perm_append_comm.append_left _
      _ = (ids s.service.workers ++ ids s.detached) ++ new := (List.append_assoc _ _ _).symm
  refine ⟨?_, ?_, ?_⟩
  · rw [hall.nodup_iff, List.nodup_append]
    refine ⟨h.nodup, hnew, ?_⟩
    intro i hi j hj hij
    have hlt := h.old i hi
    have hge := (hfresh j hj).1
    omega
  · intro i hi
    rcases List.mem_append.mp (hall.subset hi) with hi | hi
    · exact Nat.lt_of_lt_of_le (h.old i hi) hcount
    · exact (hfresh i hi).2
  · intro now l hp
    obtain ⟨hnd, hmem⟩ := h.pass now l hp
    exact ⟨hnd, fun i hi => hall.symm.subset (List.mem_append_left _ (hmem i hi))⟩

theorem inv_beginPass (h : Inv s) {now : ℚ} (hs : s.beginPass now = some s') : Inv s' := by
  have hnd : (ids s.service.workers).Nodup := (List.nodup_append.mp h.nodup).1
  rw [beginPass_eq_some hs]
  refine ⟨?_, fun i hi => h.old i ?_, ?_⟩
  · simpa using hnd
  · simpa using Or.inl (by simpa using hi)
  · intro now' l hp
    rw [Option.some.injEq, Prod.mk.injEq] at hp
    rw [← hp.2]
    exact ⟨hnd, fun i hi => List.mem_append_left _ hi⟩

theorem inv_endPass (h : Inv s) (hs : s.endPass = some s') : Inv s' := by
  rw [endPass_eq_some hs]
  refine ⟨?_, fun i hi => h.old i ?_, nofun⟩
  · simpa using (List.nodup_append.mp h.nodup).1
  · simpa using Or.inl (by simpa using hi)

/-- A reference leads to an object with its id, in the list or out of it. -/
theorem object?_eq_some {id : Nat} {w : Worker} (h : s.object? id = some w) :
    w.id = id ∧ (w ∈ s.service.workers ∨ id ∉ ids s.service.workers ∧ w ∈ s.detached) := by
  unfold object? at h
  cases hf : s.service.workers.find? (·.id = id) with
  | some v =>
      rw [hf, Option.some_or, Option.some.injEq] at h
      subst h
      exact ⟨by simpa using List.find?_some hf, .inl (List.mem_of_find?_eq_some hf)⟩
  | none =>
      -- not in the list, so a request has taken it out
      rw [hf, Option.none_or] at h
      refine ⟨by simpa using List.find?_some h, .inr ⟨?_, List.mem_of_find?_eq_some h⟩⟩
      intro hmem
      obtain ⟨v, hv, hid⟩ := List.mem_map.mp hmem
      rw [List.find?_eq_none] at hf
      exact absurd hid (by simpa using hf v hv)

theorem inv_judge (h : Inv s) (now : ℚ) {w : Worker}
    (hid : ∀ now l, s.pass = some (now, l) → w.id ∉ l) : Inv (s.judge cfg now w) := by
  obtain ⟨m, hm, hjudge⟩ := judge_cases cfg s now w
  have hinv : Inv m := by
    rcases hm with rfl | rfl
    · exact h
    · exact inv_writeStatus h _ _
  have hpass : m.pass = s.pass := by
    rcases hm with rfl | rfl
    · rfl
    · rfl
  rw [hjudge]
  split
  · refine inv_remove (inv_writeStatus hinv _ _) ?_
    intro now' l hp
    refine hid now' l ?_
    rw [← hpass]
    exact hp
  · exact hinv

theorem inv_visit (h : Inv s) (hs : s.visit cfg = some s') : Inv s' := by
  obtain ⟨now, id, rest, w, hp, ho, hs'⟩ := visit_eq_some hs
  obtain ⟨hnd, hmem⟩ := h.pass now _ hp
  have hw := (object?_eq_some ho).1
  rw [hs']
  -- the thread has taken the reference from its copy
  have hnext : Inv { s with pass := some (now, rest) } := by
    refine ⟨h.nodup, h.old, ?_⟩
    intro now' l hl
    rw [Option.some.injEq, Prod.mk.injEq] at hl
    rw [← hl.2]
    exact ⟨(List.nodup_cons.mp hnd).2, fun i hi => hmem i (List.mem_cons_of_mem _ hi)⟩
  refine inv_judge hnext now ?_
  intro now' l hl
  rw [Option.some.injEq, Prod.mk.injEq] at hl
  rw [← hl.2, hw]
  exact (List.nodup_cons.mp hnd).1

theorem inv_of_reachable (h : Reachable (step cfg) init s) : Inv s := by
  refine h.invariant ⟨List.nodup_nil, nofun, nofun⟩ ?_
  intro a e b _ hI hs
  cases e with
  | request e =>
      obtain ⟨he, service, hservice, hb⟩ := request_eq_some hs
      rw [hb]
      exact inv_request hI hservice he
  | beginPass now => exact inv_beginPass hI hs
  | visit => exact inv_visit hI hs
  | endPass => exact inv_endPass hI hs

/-! ## §4. When the thread survives. -/

/-- When the step is an iteration that reaches `self.workers.remove(worker)`, the entry is in the
list; and the thread is alive after the step. -/
def Survives (cfg : LoopConfig) (a : Monitor) (e : MonitorEvent) (b : Monitor) : Prop :=
  (e = .visit → ∀ now id rest w, a.pass = some (now, id :: rest) → a.object? id = some w →
    cfg.isStale now w = true → id ∈ ids a.service.workers) ∧ b.dead = false

/-- When the step is an iteration over an entry a request has taken out of the list since the
copy, the entry is not stale. -/
def SparesTaken (cfg : LoopConfig) (a : Monitor) (e : MonitorEvent) : Prop :=
  e = .visit → ∀ now rest w, a.pass = some (now, w.id :: rest) → w ∈ a.detached →
    cfg.isStale now w = false

/-- A reference to an entry taken out leads to it. -/
theorem object?_of_detached (h : Inv s) {w : Worker} (hw : w ∈ s.detached) :
    s.object? w.id = some w ∧ w.id ∉ ids s.service.workers := by
  obtain ⟨_, hnd, hdisj⟩ := List.nodup_append.mp h.nodup
  have hout : w.id ∉ ids s.service.workers :=
    fun hi => hdisj _ hi _ (List.mem_map_of_mem hw) rfl
  obtain ⟨done, rest, hsplit⟩ := List.append_of_mem hw
  have hdone : w.id ∉ ids done := by
    rw [hsplit, ids_append, ids_cons] at hnd
    intro hi
    exact (List.nodup_append.mp hnd).2.2 _ hi _ List.mem_cons_self rfl
  refine ⟨?_, hout⟩
  unfold object?
  rw [find?_of_not_mem hout, Option.none_or, hsplit, find?_split rfl hdone]

/-- The thread dies in an iteration only, over a stale entry that is not in the list. -/
theorem dead_judge {now : ℚ} {w : Worker}
    (h : cfg.isStale now w = true → w.id ∈ ids s.service.workers) :
    (s.judge cfg now w).dead = s.dead := by
  obtain ⟨m, hm, hjudge⟩ := judge_cases cfg s now w
  have hmark : m.dead = s.dead ∧ ids m.service.workers = ids s.service.workers := by
    rcases hm with rfl | rfl
    · exact ⟨rfl, rfl⟩
    · exact ⟨rfl, ids_setStatus _ _ _⟩
  rw [hjudge]
  split
  · rename_i hst
    have hmem : w.id ∈ ids (m.writeStatus w.id "OFFLINE").service.workers := by
      show w.id ∈ ids (setStatus w.id "OFFLINE" m.service.workers)
      rw [ids_setStatus, hmark.2]
      exact h hst
    unfold remove
    rw [if_pos hmem]
    exact hmark.1
  · exact hmark.1

/-- Only an iteration can end the thread. -/
theorem dead_step {e : MonitorEvent} (hs : a.step cfg e = some b) (he : e ≠ .visit) :
    b.dead = a.dead := by
  cases e with
  | request e =>
      obtain ⟨_, _, _, hb⟩ := request_eq_some hs
      rw [hb]
  | beginPass now => rw [beginPass_eq_some hs]
  | visit => exact absurd rfl he
  | endPass => rw [endPass_eq_some hs]

/-- **When the monitor thread survives.**  Along every run of requests and steps of the thread:
every iteration that removes an entry finds it in the list, and the thread lives, if and only if
no iteration reaches an entry that is stale and that a request has taken out of the list since
the pass took its copy. -/
theorem survives_iff (cfg : LoopConfig) (es : List MonitorEvent) :
    Along (step cfg) (Survives cfg) init es
      ↔ Along (step cfg) (fun a e _ => SparesTaken cfg a e) init es := by
  constructor
  · refine along_mono ?_ es (Reachable.init init)
    intro a e b ha _ h he now rest w hp hw
    obtain ⟨ho, hout⟩ := object?_of_detached (inv_of_reachable ha) hw
    -- a stale entry would be removed, but it is not in the list
    by_contra hst
    exact hout (h.1 he now w.id rest w hp ho (by simpa using hst))
  · refine along_of_invariant (I := fun s => s.dead = false) ?_ es (Reachable.init init) rfl
    intro a e b ha halive hs h
    have hfinds : e = .visit → ∀ now id rest w, a.pass = some (now, id :: rest) →
        a.object? id = some w → cfg.isStale now w = true → id ∈ ids a.service.workers := by
      intro he now id rest w hp ho hst
      obtain ⟨hid, hin | ⟨_, hw⟩⟩ := object?_eq_some ho
      · rw [← hid]
        exact List.mem_map_of_mem hin
      · subst hid
        rw [h he now rest w hp hw] at hst
        cases hst
    have hdead : b.dead = false := by
      by_cases he : e = .visit
      · subst he
        obtain ⟨now, id, rest, w, hp, ho, hb⟩ := visit_eq_some hs
        obtain ⟨hid, _⟩ := object?_eq_some ho
        rw [hb, dead_judge]
        · exact halive
        · intro hst
          rw [hid]
          exact hfinds rfl now id rest w hp ho hst
      · rw [dead_step hs he]
        exact halive
    exact ⟨⟨hfinds, hdead⟩, hdead⟩

/-- A worker registers. -/
def sampleRegistration : Envelope RegisterWorkerPayload :=
  { payload := { workerId := "w1", taskTypes := ["reverse"], address := "localhost",
                 port := Int32Field.default } }

/-- The pass copies the list with the stale entry, then the worker is deregistered. -/
def deregisteredRun : List MonitorEvent :=
  [.request (.registerWorker sampleRegistration 0), .beginPass 25,
    .request (.deregisterWorker { payload := ⟨"w1"⟩ })]

/-- The iteration over the entry ends the thread. -/
theorem not_survives_deregisteredRun :
    ¬ Along (step ⟨10, 2⟩) (Survives ⟨10, 2⟩) init (deregisteredRun ++ [.visit]) := by
  intro hall
  have hlast := along_iff_forall_split.mp hall deregisteredRun .visit [] _ _ rfl rfl rfl
  exact absurd hlast.2 (by decide +kernel)

/-! ## §5. A pass with no request in between. -/

/-- The steps of a pass over a list of `n` entries. -/
def passEvents (now : ℚ) (n : Nat) : List MonitorEvent :=
  .beginPass now :: (List.replicate n .visit ++ [.endPass])

/-- A naming service between two passes. -/
def idle (s : Namensdienst) : Monitor := ⟨s, [], none, false⟩

/-- The state of a pass: `done` has been looked at, `rest` is still to come. -/
def during (s : Namensdienst) (now : ℚ) (done rest : List Worker) : Monitor :=
  ⟨{ s with workers := done ++ rest }, [], some (now, ids rest), false⟩

theorem writeStatus_split {t : Namensdienst} {p : Option (ℚ × List Nat)} {id : Nat}
    {done rest : List Worker} {w : Worker} (hw : w.id = id) (hd : id ∉ ids done)
    (hr : id ∉ ids rest) (status : String) :
    writeStatus ⟨{ t with workers := done ++ w :: rest }, [], p, false⟩ id status
      = ⟨{ t with workers := done ++ { w with status := status } :: rest }, [], p, false⟩ := by
  unfold writeStatus
  simp only []
  rw [setStatus_split hw hd hr]
  rfl

theorem remove_split {t : Namensdienst} {p : Option (ℚ × List Nat)} {id : Nat}
    {done rest : List Worker} {w : Worker} (hw : w.id = id) (hd : id ∉ ids done) :
    remove ⟨{ t with workers := done ++ w :: rest }, [], p, false⟩ id
      = ⟨{ t with workers := done ++ rest }, [], p, false⟩ := by
  have hmem : id ∈ ids (done ++ w :: rest) := by
    rw [ids_append, ids_cons, hw]
    exact List.mem_append_right _ List.mem_cons_self
  unfold remove
  simp only []
  rw [if_pos hmem, eraseP_split hw hd]

end Monitor

/-- The entry with the status the monitor writes when it is overdue. -/
def LoopConfig.marked (cfg : LoopConfig) (now : ℚ) (w : Worker) : Worker :=
  if cfg.isOverdue now w then { w with status := "UNHEALTHY" } else w

@[simp] theorem marked_id (cfg : LoopConfig) (now : ℚ) (w : Worker) :
    (cfg.marked now w).id = w.id := by
  unfold LoopConfig.marked
  split <;> rfl

theorem monitorEntry_eq (cfg : LoopConfig) (now : ℚ) (w : Worker) :
    Namensdienst.monitorEntry cfg now w
      = if cfg.isStale now w then none else some (cfg.marked now w) := by
  unfold Namensdienst.monitorEntry LoopConfig.isStale LoopConfig.marked LoopConfig.isOverdue
  simp only [decide_eq_true_eq]

namespace Monitor

/-- **Step lemma.**  With no request since the copy, an iteration treats its entry as
`monitorEntry` says and leaves the others alone. -/
theorem visit_during (s : Namensdienst) (now : ℚ) {done rest : List Worker} {w : Worker}
    (hd : w.id ∉ ids done) (hr : w.id ∉ ids rest) :
    (during s now done (w :: rest)).visit cfg
      = some (during s now (done ++ (Namensdienst.monitorEntry cfg now w).toList) rest) := by
  have hobj : (during s now done (w :: rest)).object? w.id = some w := by
    unfold object? during
    simp only []
    rw [find?_split rfl hd, Option.some_or]
  have hvisit : (during s now done (w :: rest)).visit cfg
      = some (judge cfg ⟨{ s with workers := done ++ w :: rest }, [], some (now, ids rest), false⟩
          now w) := by
    unfold visit
    rw [show (during s now done (w :: rest)).pass = some (now, w.id :: ids rest) from rfl]
    simp only [hobj, Option.map_some]
    rfl
  -- the first status write
  have hmark : (if cfg.isOverdue now w then
        writeStatus ⟨{ s with workers := done ++ w :: rest }, [], some (now, ids rest), false⟩ w.id
          "UNHEALTHY"
      else ⟨{ s with workers := done ++ w :: rest }, [], some (now, ids rest), false⟩)
      = ⟨{ s with workers := done ++ cfg.marked now w :: rest }, [], some (now, ids rest),
          false⟩ := by
    unfold LoopConfig.marked
    split
    · exact writeStatus_split rfl hd hr "UNHEALTHY"
    · rfl
  rw [hvisit, monitorEntry_eq]
  unfold judge
  simp only []
  rw [hmark]
  split
  · -- the second one goes to an object that leaves the list at once
    have hid : ({ cfg.marked now w with status := "OFFLINE" } : Worker).id = w.id :=
      marked_id cfg now w
    rw [writeStatus_split (marked_id cfg now w) hd hr, remove_split hid hd]
    simp [during]
  · simp [during]

/-- **Run lemma.**  The iterations over the rest of the copy. -/
theorem run_visits (s : Namensdienst) (now : ℚ) :
    ∀ (rest done : List Worker), (ids (done ++ rest)).Nodup →
      run (step cfg) (during s now done rest) (List.replicate rest.length .visit)
        = some (during s now (done ++ rest.filterMap (Namensdienst.monitorEntry cfg now)) []) := by
  intro rest
  induction rest with
  | nil =>
      intro done _
      simp
  | cons w rest ih =>
      intro done hnd
      rw [ids_append, ids_cons] at hnd
      obtain ⟨hdone, hrest, hdisj⟩ := List.nodup_append.mp hnd
      have hd : w.id ∉ ids done := fun h => hdisj _ h _ List.mem_cons_self rfl
      have hr : w.id ∉ ids rest := (List.nodup_cons.mp hrest).1
      -- what stays of the entry has its id
      have hsub : (ids (Namensdienst.monitorEntry cfg now w).toList).Sublist [w.id] := by
        rw [monitorEntry_eq]
        split
        · exact List.nil_sublist _
        · simp
      -- so the ids of what has been done and what is left stay distinct
      have hnext : (ids (done ++ (Namensdienst.monitorEntry cfg now w).toList ++ rest)).Nodup := by
        rw [ids_append, ids_append, List.append_assoc]
        exact hnd.sublist ((hsub.append (List.Sublist.refl (ids rest))).append_left (ids done))
      rw [List.length_cons, List.replicate_succ, run_cons,
        show (during s now done (w :: rest)).step cfg .visit = _ from visit_during s now hd hr,
        Option.bind_some, ih _ hnext]
      rw [List.append_assoc]
      congr 3
      rw [List.filterMap_cons]
      cases Namensdienst.monitorEntry cfg now w <;> rfl

/-- A pass with no request in between does what `monitorPass` does. -/
theorem run_pass (s : Namensdienst) (now : ℚ) (hnd : (ids s.workers).Nodup) :
    run (step cfg) (idle s) (passEvents now s.workers.length)
      = some (idle (s.monitorPass cfg now)) := by
  have hvisits : run (step cfg) (during s now [] s.workers)
      (List.replicate s.workers.length .visit)
        = some (during s now (s.workers.filterMap (Namensdienst.monitorEntry cfg now)) []) :=
    run_visits s now s.workers [] hnd
  unfold passEvents
  rw [run_cons, show (idle s).step cfg (.beginPass now) = some (during s now [] s.workers) from rfl,
    Option.bind_some, run_append_eq_some]
  refine ⟨_, hvisits, ?_⟩
  rw [run_singleton_eq_some]
  unfold step endPass during
  simp only [List.append_nil]
  rfl

end Monitor

/-! ## §6. What a pass does. -/

/-- An entry that is not overdue is not stale. -/
theorem LoopConfig.isStale_of_not_isOverdue {cfg : LoopConfig} (hx : 0 ≤ cfg.x) (hy : 1 ≤ cfg.y)
    {now : ℚ} {w : Worker} (h : cfg.isOverdue now w = false) : cfg.isStale now w = false := by
  have hxy : (cfg.x : ℚ) ≤ ((cfg.x * cfg.y : Int) : ℚ) := by
    exact_mod_cast le_mul_of_one_le_right hx hy
  unfold LoopConfig.isOverdue at h
  unfold LoopConfig.isStale
  rw [decide_eq_false_iff_not, not_le] at h ⊢
  exact lt_of_lt_of_le h hxy

theorem LoopConfig.not_isStale (cfg : LoopConfig) (now : ℚ) (w : Worker) :
    (!cfg.isStale now w) = decide (now - w.lastHeartbeat < ((cfg.x * cfg.y : Int) : ℚ)) := by
  unfold LoopConfig.isStale
  rw [← decide_not]
  simp only [ge_iff_le, not_le]

theorem LoopConfig.not_isOverdue (cfg : LoopConfig) (now : ℚ) (w : Worker) :
    (!cfg.isOverdue now w) = decide (now - w.lastHeartbeat < (cfg.x : ℚ)) := by
  unfold LoopConfig.isOverdue
  rw [← decide_not]
  simp only [ge_iff_le, not_le]

/-- Treating an entry twice at the same time is treating it once. -/
theorem monitorEntry_monitorEntry (cfg : LoopConfig) (now : ℚ) (w : Worker) :
    (Namensdienst.monitorEntry cfg now w).bind (Namensdienst.monitorEntry cfg now)
      = Namensdienst.monitorEntry cfg now w := by
  have hheartbeat : (cfg.marked now w).lastHeartbeat = w.lastHeartbeat := by
    unfold LoopConfig.marked
    split <;> rfl
  have hstale : cfg.isStale now (cfg.marked now w) = cfg.isStale now w := by
    unfold LoopConfig.isStale
    rw [hheartbeat]
  have hmarked : cfg.marked now (cfg.marked now w) = cfg.marked now w := by
    unfold LoopConfig.marked
    split <;> simp [*]
  rw [monitorEntry_eq]
  split
  · rfl
  · rename_i hst
    rw [Option.bind_some, monitorEntry_eq, hstale, hmarked, if_neg hst]

namespace Namensdienst

variable {cfg : LoopConfig} (s : Namensdienst) (now : ℚ)

/-- A pass removes the stale entries and marks the overdue ones among the others. -/
theorem workers_monitorPass :
    (s.monitorPass cfg now).workers
      = (s.workers.filter fun w => !cfg.isStale now w).map (cfg.marked now) := by
  show s.workers.filterMap _ = _
  induction s.workers with
  | nil => rfl
  | cons w l ih =>
      rw [List.filterMap_cons, monitorEntry_eq]
      by_cases hst : cfg.isStale now w
      · rw [if_pos hst, List.filter_cons_of_neg (by simp [hst])]
        exact ih
      · rw [if_neg hst, List.filter_cons_of_pos (by simpa using hst), List.map_cons, ← ih]

/-- After a pass LookupWorker selects what it selected before, less the overdue entries. -/
theorem lookupEntries_monitorPass (hx : 0 ≤ cfg.x) (hy : 1 ≤ cfg.y) (taskType : String) :
    (s.monitorPass cfg now).lookupEntries taskType
      = s.workers.filter fun w =>
          (w.type = taskType && w.isDiscoverable) && !cfg.isOverdue now w := by
  show (s.workers.filterMap _).filter _ = _
  induction s.workers with
  | nil => rfl
  | cons w l ih =>
      rw [List.filterMap_cons, monitorEntry_eq]
      by_cases hov : cfg.isOverdue now w
      · -- marked entries are not handed out
        have hhidden : (cfg.marked now w).isDiscoverable = false := by
          unfold LoopConfig.marked
          rw [if_pos hov]
          rfl
        rw [List.filter_cons_of_neg (by simp [hov]), ← ih]
        by_cases hst : cfg.isStale now w
        · rw [if_pos hst]
        · rw [if_neg hst]
          exact List.filter_cons_of_neg (by simp [hhidden])
      · have hst : cfg.isStale now w = false :=
          LoopConfig.isStale_of_not_isOverdue hx hy (by simpa using hov)
        have hmarked : cfg.marked now w = w := if_neg hov
        rw [if_neg (by simp [hst]), hmarked]
        simp only []
        rw [List.filter_cons, List.filter_cons, ih]
        simp [hov]

/-- A second pass at the same time changes nothing. -/
theorem monitorPass_monitorPass :
    (s.monitorPass cfg now).monitorPass cfg now = s.monitorPass cfg now := by
  unfold monitorPass
  simp only []
  rw [List.filterMap_filterMap]
  simp only [monitorEntry_monitorEntry]

theorem nodup_ids_monitorPass (hnd : (ids s.workers).Nodup) :
    (ids (s.monitorPass cfg now).workers).Nodup := by
  have hids : ids (s.monitorPass cfg now).workers
      = ids (s.workers.filter fun w => !cfg.isStale now w) := by
    rw [workers_monitorPass]
    simp [ids, Function.comp_def]
  rw [hids]
  exact hnd.sublist (List.filter_sublist.map Worker.id)

end Namensdienst

namespace Monitor

/-- **A pass expires the stale entries and no others.**  Over entries that are distinct objects,
a pass with no request in between leaves the entries younger than `x * y` in their order, and the
only thing it writes is UNHEALTHY to those not younger than `x`.  LookupWorker then hands out the
entries of the type that are younger than `x` and were neither UNHEALTHY nor OFFLINE before, and a
second pass at the same time changes nothing. -/
theorem pass_expires_stale {cfg : LoopConfig} (hx : 0 ≤ cfg.x) (hy : 1 ≤ cfg.y)
    (s : Namensdienst) (now : ℚ) (hnd : (ids s.workers).Nodup) :
    ∃ s', run (step cfg) (idle s) (passEvents now s.workers.length) = some (idle s') ∧
      s' = { s with
        workers :=
          (s.workers.filter fun w => now - w.lastHeartbeat < ((cfg.x * cfg.y : Int) : ℚ)).map
            fun w => if now - w.lastHeartbeat ≥ (cfg.x : ℚ) then { w with status := "UNHEALTHY" }
              else w } ∧
      (∀ request, (s'.lookupWorker request).message.payload.workers
        = (s.workers.filter fun w =>
            (w.type = request.payload.taskType && w.status ≠ "UNHEALTHY" && w.status ≠ "OFFLINE")
              && now - w.lastHeartbeat < (cfg.x : ℚ)).map Worker.payload) ∧
      run (step cfg) (idle s') (passEvents now s'.workers.length) = some (idle s') := by
  refine ⟨s.monitorPass cfg now, run_pass s now hnd, ?_, ?_, ?_⟩
  · show { s with workers := (s.monitorPass cfg now).workers } = _
    rw [s.workers_monitorPass now]
    simp only [LoopConfig.not_isStale]
    congr 2
    funext w
    simp [LoopConfig.marked, LoopConfig.isOverdue]
  · intro request
    show ((s.monitorPass cfg now).lookupEntries request.payload.taskType).map Worker.payload = _
    rw [s.lookupEntries_monitorPass now hx hy]
    simp only [LoopConfig.not_isOverdue, Worker.isDiscoverable, Bool.and_assoc]
  · rw [run_pass _ now (s.nodup_ids_monitorPass now hnd), s.monitorPass_monitorPass now]

/-- Three registered workers. -/
def sampleRegistry : Namensdienst where
  workers :=
    [sampleRegistration.payload.entry 0 "reverse" 0, sampleRegistration.payload.entry 10 "sum" 1,
      sampleRegistration.payload.entry 20 "hash" 2]
  idcount := 3
  registrations := []

/-- With thresholds of 10 and 20 seconds a pass at 20 removes the first and marks the second. -/
theorem pass_expires_stale_sampleRegistry :
    run (step ⟨10, 2⟩) (idle sampleRegistry) (passEvents 20 3)
      = some (idle { sampleRegistry with
          workers :=
            [{ sampleRegistration.payload.entry 10 "sum" 1 with status := "UNHEALTHY" },
              sampleRegistration.payload.entry 20 "hash" 2] }) := by
  obtain ⟨s', hrun, hs', _, _⟩ := @pass_expires_stale ⟨10, 2⟩ (by decide) (by decide)
    sampleRegistry 20 (by decide)
  have hworkers : s' = { sampleRegistry with
      workers :=
        [{ sampleRegistration.payload.entry 10 "sum" 1 with status := "UNHEALTHY" },
          sampleRegistration.payload.entry 20 "hash" 2] } := by
    rw [hs']
    congr 1
    decide +kernel
  rw [show passEvents 20 3 = passEvents 20 sampleRegistry.workers.length from rfl, hrun, hworkers]

end Monitor

end TaskGrid
