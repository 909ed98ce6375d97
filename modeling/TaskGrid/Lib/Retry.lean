/-
  TaskGrid.Lib.Retry — jobs that are attempted a bounded number of times.

  A job waits, is in flight, or is done.  Starting an attempt counts a start;
  an attempt that expires counts an expiry and sends the job back to waiting,
  or, when the limit is reached, ends it; a job can also be finished in any
  phase.  The file names no program; its parameter is the limit.

  Main results:
    * `Accounted.of_steps` — the two counters of a job determine each other in
      every phase and never exceed the limit.
    * `Step.done_iff_of_expiry` — an expiry ends the job exactly when it is
      the last one the limit allows.
    * `Step.rank_lt` — every step brings the job closer to its end.
-/
import Mathlib.Logic.Relation

namespace TaskGrid.Lib.Retry

/-! ## §1. Jobs and their steps. -/

/-- The phase of a job. -/
inductive Phase where
  | waiting
  | inFlight
  | done
  deriving DecidableEq, Repr

/-- A job: its phase, the attempts started, the attempts that expired. -/
@[ext] structure Job where
  phase : Phase
  starts : Nat
  expiries : Nat
  deriving DecidableEq, Repr

/-- A job before its first attempt. -/
def Job.fresh : Job := ⟨.waiting, 0, 0⟩

variable {limit : Nat}

/-- The steps of a job. -/
inductive Step (limit : Nat) : Job → Job → Prop where
  | start (a b : Nat) : Step limit ⟨.waiting, a, b⟩ ⟨.inFlight, a + 1, b⟩
  | expire {a b : Nat} (h : b + 1 < limit) : Step limit ⟨.inFlight, a, b⟩ ⟨.waiting, a, b + 1⟩
  | exhaust {a b : Nat} (h : limit ≤ b + 1) : Step limit ⟨.inFlight, a, b⟩ ⟨.done, a, b + 1⟩
  | finish {p : Phase} (a b : Nat) (h : p ≠ .done) : Step limit ⟨p, a, b⟩ ⟨.done, a, b⟩

/-! ## §2. The counters. -/

/-- **The accounts of a job.**  In flight there is one start more than expiries, and a job
that is not done has an expiry left. -/
def Accounted (limit : Nat) (j : Job) : Prop :=
  match j.phase with
  | .waiting => j.starts = j.expiries ∧ j.expiries < limit
  | .inFlight => j.starts = j.expiries + 1 ∧ j.expiries < limit
  | .done => j.starts ≤ limit ∧ j.expiries ≤ limit

theorem Accounted.fresh (h : 0 < limit) : Accounted limit Job.fresh := ⟨rfl, h⟩

/-- **Step lemma.**  A step keeps the accounts. -/
theorem Accounted.step {j j' : Job} (hs : Step limit j j') (h : Accounted limit j) :
    Accounted limit j' := by
  cases hs with
  | start a b =>
      obtain ⟨hstarts, hlt⟩ : a = b ∧ b < limit := h
      show a + 1 = b + 1 ∧ b < limit
      omega
  | @expire a b hlt =>
      obtain ⟨hstarts, _⟩ : a = b + 1 ∧ b < limit := h
      show a = b + 1 ∧ b + 1 < limit
      omega
  | @exhaust a b hle =>
      obtain ⟨hstarts, hlt⟩ : a = b + 1 ∧ b < limit := h
      show a ≤ limit ∧ b + 1 ≤ limit
      omega
  | @finish p a b hp =>
      show a ≤ limit ∧ b ≤ limit
      cases p with
      | waiting =>
          obtain ⟨hstarts, hlt⟩ : a = b ∧ b < limit := h
          omega
      | inFlight =>
          obtain ⟨hstarts, hlt⟩ : a = b + 1 ∧ b < limit := h
          omega
      | done => exact absurd rfl hp

/-- **Run lemma.**  Whatever a job has been through, its accounts hold. -/
theorem Accounted.of_steps (hpos : 0 < limit) {j : Job}
    (h : Relation.ReflTransGen (Step limit) Job.fresh j) : Accounted limit j := by
  induction h with
  | refl => exact Accounted.fresh hpos
  | tail _ hs ih => exact ih.step hs

/-- No counter exceeds the limit in any phase. -/
theorem Accounted.le_limit {j : Job} (h : Accounted limit j) :
    j.starts ≤ limit ∧ j.expiries ≤ limit := by
  obtain ⟨p, a, b⟩ := j
  show a ≤ limit ∧ b ≤ limit
  cases p with
  | waiting =>
      obtain ⟨hstarts, hlt⟩ : a = b ∧ b < limit := h
      omega
  | inFlight =>
      obtain ⟨hstarts, hlt⟩ : a = b + 1 ∧ b < limit := h
      omega
  | done => exact h

/-- **An expiry ends the job exactly when it is the last one the limit allows.** -/
theorem Step.done_iff_of_expiry {j j' : Job} (hs : Step limit j j') (h : Accounted limit j)
    (hexp : j'.expiries = j.expiries + 1) : j'.phase = .done ↔ j'.expiries = limit := by
  cases hs with
  | start a b =>
      have : b = b + 1 := hexp
      omega
  | @expire a b hlt =>
      show Phase.waiting = .done ↔ b + 1 = limit
      constructor
      · intro hp
        cases hp
      · intro he
        omega
  | @exhaust a b hle =>
      obtain ⟨_, hlt⟩ : a = b + 1 ∧ b < limit := h
      show Phase.done = .done ↔ b + 1 = limit
      constructor
      · intro _
        omega
      · intro _
        rfl
  | @finish p a b hp =>
      have : b = b + 1 := hexp
      omega

/-! ## §3. The end of a job. -/

/-- The steps a job can still make. -/
def Job.rank (limit : Nat) (j : Job) : Nat :=
  match j.phase with
  | .waiting => 2 * (limit - j.expiries) + 1
  | .inFlight => 2 * (limit - j.expiries)
  | .done => 0

/-- **Every step brings the job closer to its end.** -/
theorem Step.rank_lt {j j' : Job} (hs : Step limit j j') (h : Accounted limit j) :
    j'.rank limit < j.rank limit := by
  cases hs with
  | start a b =>
      show 2 * (limit - b) < 2 * (limit - b) + 1
      omega
  | @expire a b hlt =>
      show 2 * (limit - (b + 1)) + 1 < 2 * (limit - b)
      omega
  | @exhaust a b hle =>
      obtain ⟨_, hlt⟩ : a = b + 1 ∧ b < limit := h
      show 0 < 2 * (limit - b)
      omega
  | @finish p a b hp =>
      cases p with
      | waiting =>
          show 0 < 2 * (limit - b) + 1
          omega
      | inFlight =>
          obtain ⟨_, hlt⟩ : a = b + 1 ∧ b < limit := h
          show 0 < 2 * (limit - b)
          omega
      | done => exact absurd rfl hp

end TaskGrid.Lib.Retry
