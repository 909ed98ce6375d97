/-
  TaskGrid.System.JobBoard — what the dispatcher and its workers are for.

  A job board: jobs are numbered in the order of their submission, a job is
  open until it is closed, once, with the value its handler computes or with
  an error, and whoever asks is told how a job stands.  There is no queue, no
  worker, no timeout and no retry on the board.  Nothing here is translated
  from the source; `TaskGrid.System.Refinement` connects it to the model.

  Main result: `contract_of_board`, what a client can rely on.
-/
import TaskGrid.Lib.Refinement
import TaskGrid.Dispatcher.Inversion
import TaskGrid.Worker.Worker

namespace TaskGrid

open TaskGrid.Lib

/-! ## §1. The board. -/

/-- How a job ends. -/
inductive Outcome where
  | completed (result : String)
  | failed (error : String)
  deriving DecidableEq, Repr

/-- A job: what was submitted, and its outcome once it is closed. -/
structure Job where
  work : PostTaskPayload
  outcome : Option Outcome
  deriving DecidableEq

/-- The jobs in the order of their submission.  The first one has number 1. -/
abbrev JobBoard := List Job

instance (handlers : Handlers) (taskType payload result : String) :
    Decidable (Computes handlers taskType payload result) :=
  match h : handlers taskType with
  | none => isFalse fun ⟨_, hh, _⟩ => by rw [h] at hh; cases hh
  | some handle =>
      decidable_of_iff (handle payload = .ok result)
        ⟨fun hr => ⟨handle, h, hr⟩, fun ⟨_, hh, hr⟩ => by
          rw [h, Option.some.injEq] at hh
          rw [hh]
          exact hr⟩

/-- The outcome is one the job may have: a result is the value of the handler. -/
def Job.Admits (handlers : Handlers) (job : Job) : Outcome → Prop
  | .completed result => Computes handlers job.work.taskType job.work.taskPayload result
  | .failed _ => True

instance (handlers : Handlers) (job : Job) : DecidablePred (job.Admits handlers)
  | .completed result =>
      inferInstanceAs
        (Decidable (Computes handlers job.work.taskType job.work.taskPayload result))
  | .failed _ => inferInstanceAs (Decidable True)

/-! ## §2. What an observer sees. -/

/-- How a submission is answered. -/
inductive PostAnswer where
  | rejected
  | accepted (taskId : Int32Field)
  /-- The call ends with an exception. -/
  | raised
  deriving DecidableEq

/-- How a question about a job is answered. -/
inductive JobAnswer where
  | unknown
  | pending (text : String)
  | completed (result : String)
  | failed (error : String)
  deriving DecidableEq

/-- What a client sees of one call. -/
inductive Observation where
  | posted (work : PostTaskPayload) (answer : PostAnswer)
  | asked (taskId : Int32Field) (answer : JobAnswer)
  deriving DecidableEq

/-- Tell a number.  One that fits no int32 field cannot be told. -/
def tellNumber (n : Int) : PostAnswer :=
  match encodeInt32 n with
  | .ok taskId => .accepted taskId
  | .error _ => .raised

/-- The answer to a submission when `stored` jobs are on the board. -/
def postAnswer (stored : Nat) (work : PostTaskPayload) : PostAnswer :=
  if Dispatcher.Valid work then tellNumber ((stored + 1 : Nat) : Int) else .rejected

/-- The answer to a question about the job. -/
def Job.answer (job : Job) : JobAnswer :=
  match job.outcome with
  | none => .pending ""
  | some (.completed result) => .completed result
  | some (.failed error) => .failed error

namespace JobBoard

/-- The job with this number. -/
def job (b : JobBoard) (n : Int) : Option Job :=
  if 0 < n then b[(n - 1).toNat]? else none

/-- The answer to a question about the number. -/
def answer (b : JobBoard) (taskId : Int32Field) : JobAnswer :=
  match b.job taskId.val with
  | none => .unknown
  | some job => job.answer

end JobBoard

/-- The labels of the steps of the board. -/
inductive BoardEvent where
  | submit (work : PostTaskPayload)
  /-- Close the job at this place of the list. -/
  | close (index : Nat) (outcome : Outcome)
  | ask (taskId : Int32Field)

namespace JobBoard

/-- One step of the board. -/
def step (handlers : Handlers) (b : JobBoard) : BoardEvent → Option JobBoard
  | .submit work => some (if Dispatcher.Valid work then b ++ [⟨work, none⟩] else b)
  | .close index outcome =>
      match b[index]? with
      | none => none
      | some job =>
          if job.outcome = none ∧ job.Admits handlers outcome then
            some (b.set index { job with outcome := some outcome })
          else none
  | .ask _ => some b

/-- What a step shows.  Nobody sees a job being closed. -/
def shows (b : JobBoard) : BoardEvent → Option Observation
  | .submit work => some (.posted work (postAnswer b.length work))
  | .close _ _ => none
  | .ask taskId => some (.asked taskId (b.answer taskId))

/-! ## §3. Numbers on the board. -/

variable {b : JobBoard} {n : Int}

/-- A new job gets the next number, and the others keep theirs. -/
theorem job_concat (b : JobBoard) (j : Job) (n : Int) :
    job (b ++ [j]) n = if n = ((b.length + 1 : Nat) : Int) then some j else b.job n := by
  unfold job
  by_cases hn : n = ((b.length + 1 : Nat) : Int)
  · have hlast : (n - 1).toNat = b.length := by omega
    rw [if_pos hn, if_pos (by omega), hlast, List.getElem?_concat_length]
  · rw [if_neg hn]
    by_cases hpos : 0 < n
    · rw [if_pos hpos, if_pos hpos]
      by_cases hlt : (n - 1).toNat < b.length
      · exact List.getElem?_append_left hlt
      · -- past the end of both
        rw [List.getElem?_eq_none (Nat.not_lt.mp hlt), List.getElem?_eq_none]
        rw [List.length_append, List.length_singleton]
        omega
    · rw [if_neg hpos, if_neg hpos]

/-- Closing a job changes the job with this number only. -/
theorem job_set (b : JobBoard) (i : Nat) (j : Job) (n : Int) :
    job (b.set i j) n = if n = ((i + 1 : Nat) : Int) ∧ i < b.length then some j else b.job n := by
  unfold job
  by_cases hpos : 0 < n
  · rw [if_pos hpos, if_pos hpos, List.getElem?_set]
    by_cases hi : i = (n - 1).toNat
    · rw [if_pos hi]
      by_cases hlt : i < b.length
      · rw [if_pos hlt, if_pos ⟨by omega, hlt⟩]
      · rw [if_neg hlt, if_neg (fun h => hlt h.2), List.getElem?_eq_none (by omega)]
    · rw [if_neg hi, if_neg (fun h => hi (by omega))]
  · rw [if_neg hpos, if_neg hpos, if_neg (by omega)]

theorem mem_of_job {j : Job} (h : b.job n = some j) : j ∈ b := by
  unfold job at h
  split at h
  · exact List.mem_of_getElem? h
  · cases h

/-- The numbers on the board are those up to its length. -/
theorem job_eq_none_of_gt (h : (b.length : Int) < n) : b.job n = none := by
  unfold job
  rw [if_pos (by omega), List.getElem?_eq_none (by omega)]

end JobBoard

/-! ## §4. The contract. -/

/-- The submission was accepted under this number. -/
def Observation.acceptedAs (taskId : Int32Field) : Observation → Option PostTaskPayload
  | .posted work (.accepted id) => if id = taskId then some work else none
  | _ => none

/-- The submission put a job on the board. -/
def Observation.isStored : Observation → Bool
  | .posted work _ => Dispatcher.Valid work
  | .asked _ _ => false

/-- The answer says that the job is closed. -/
def JobAnswer.isFinal : JobAnswer → Bool
  | .unknown | .pending _ => false
  | .completed _ | .failed _ => true

/-- The answer can be given about a job with this work. -/
def JobAnswer.Fits (handlers : Handlers) (work : PostTaskPayload) : JobAnswer → Prop
  | .unknown => False
  | .pending text => text = ""
  | .completed result => Computes handlers work.taskType work.taskPayload result
  | .failed _ => True

/-- **What a client can rely on**, of one observation and all those before it.  Submissions get
the numbers 1, 2, 3 and so on.  A question is answered for the one submission that was accepted
under the number; nobody else's work is mixed up with it, and once it says how the job has ended
it says so for ever. -/
def Contract (handlers : Handlers) (before : List Observation) : Observation → Prop
  | .posted work answer => answer = postAnswer (before.countP Observation.isStored) work
  | .asked taskId answer =>
      (∀ earlier, .asked taskId earlier ∈ before → earlier.isFinal = true → answer = earlier) ∧
        match before.filterMap (Observation.acceptedAs taskId) with
        | [] => answer = .unknown
        | [work] => answer.Fits handlers work
        | _ => False

/-! ## §5. The board keeps the contract. -/

/-- The board and what has been shown of it. -/
structure BoardInv (handlers : Handlers) (os : List Observation) (b : JobBoard) : Prop where
  length : os.countP Observation.isStored = b.length
  works : ∀ taskId : Int32Field,
    os.filterMap (Observation.acceptedAs taskId) = ((b.job taskId.val).map Job.work).toList
  settled : ∀ taskId answer, .asked taskId answer ∈ os → answer.isFinal = true →
    b.answer taskId = answer
  admitted : ∀ job ∈ b, ∀ outcome, job.outcome = some outcome → job.Admits handlers outcome
  contract : Causal (Contract handlers) os

namespace JobBoard

variable {handlers : Handlers} {os : List Observation} {b b' : JobBoard}

theorem boardInv_init (handlers : Handlers) : BoardInv handlers [] [] where
  length := rfl
  works taskId := by
    unfold job
    split <;> rfl
  settled _ _ h := absurd h List.not_mem_nil
  admitted _ h := absurd h List.not_mem_nil
  contract := causal_nil

/-- A closed job fits its work. -/
theorem fits_answer {j : Job}
    (h : ∀ outcome, j.outcome = some outcome → j.Admits handlers outcome) :
    j.answer.Fits handlers j.work := by
  unfold Job.answer
  split
  · rfl
  · rename_i result ho
    exact h _ ho
  · trivial

/-- A rejected submission changes nothing. -/
theorem boardInv_rejected (h : BoardInv handlers os b) {work : PostTaskPayload}
    (hv : ¬ Dispatcher.Valid work) :
    BoardInv handlers (os ++ [.posted work (postAnswer b.length work)]) b where
  length := by
    rw [List.countP_append, h.length, List.countP_singleton, Observation.isStored,
      decide_eq_false hv]
    rfl
  works taskId := by
    have hnone : Observation.acceptedAs taskId (.posted work (postAnswer b.length work))
        = none := by
      unfold postAnswer
      rw [if_neg hv]
      rfl
    rw [List.filterMap_append, h.works, List.filterMap_cons_none hnone, List.filterMap_nil,
      List.append_nil]
  settled taskId answer hmem hf := by
    simp only [List.mem_append, List.mem_singleton, reduceCtorEq, or_false] at hmem
    exact h.settled taskId answer hmem hf
  admitted := h.admitted
  contract := causal_concat.mpr ⟨h.contract, by rw [Contract, h.length]⟩

/-- A number that has been told was accepted as itself. -/
theorem acceptedAs_tellNumber (work : PostTaskPayload) (taskId : Int32Field) (n : Int) :
    Observation.acceptedAs taskId (.posted work (tellNumber n))
      = if taskId.val = n then some work else none := by
  unfold tellNumber
  by_cases hid : taskId.val = n
  · rw [← hid, encodeInt32_val, if_pos rfl]
    exact if_pos rfl
  · rw [if_neg hid]
    cases he : encodeInt32 n with
    | error _ => rfl
    | ok m =>
        refine if_neg fun hm => hid ?_
        rw [← hm]
        exact val_of_encodeInt32 he

/-- The submissions accepted under a number after a valid one. -/
theorem works_submit (h : BoardInv handlers os b) {work : PostTaskPayload}
    (hv : Dispatcher.Valid work) (taskId : Int32Field) :
    (os ++ [Observation.posted work (postAnswer b.length work)]).filterMap
        (Observation.acceptedAs taskId)
      = ((job (b ++ [⟨work, none⟩]) taskId.val).map Job.work).toList := by
  have hnew := acceptedAs_tellNumber work taskId ((b.length + 1 : Nat) : Int)
  rw [postAnswer, if_pos hv, List.filterMap_append, h.works, job_concat]
  by_cases hid : taskId.val = ((b.length + 1 : Nat) : Int)
  · -- the number just given out; nobody had it before
    rw [if_pos hid] at hnew
    rw [if_pos hid, job_eq_none_of_gt (by omega), List.filterMap_cons_some hnew]
    rfl
  · rw [if_neg hid] at hnew
    rw [if_neg hid, List.filterMap_cons_none hnew, List.filterMap_nil, List.append_nil]

/-- A valid submission adds an open job. -/
theorem boardInv_submit (h : BoardInv handlers os b) {work : PostTaskPayload}
    (hv : Dispatcher.Valid work) :
    BoardInv handlers (os ++ [.posted work (postAnswer b.length work)]) (b ++ [⟨work, none⟩]) where
  length := by
    rw [List.countP_append, h.length, List.countP_singleton, Observation.isStored,
      decide_eq_true hv, List.length_append]
    rfl
  works := works_submit h hv
  settled taskId answer hmem hf := by
    simp only [List.mem_append, List.mem_singleton, reduceCtorEq, or_false] at hmem
    have hold := h.settled taskId answer hmem hf
    unfold JobBoard.answer at hold ⊢
    -- an answer that is final was about a number already given out
    have hne : taskId.val ≠ ((b.length + 1 : Nat) : Int) := by
      intro hid
      rw [job_eq_none_of_gt (by omega)] at hold
      rw [← hold] at hf
      cases hf
    rw [job_concat, if_neg hne]
    exact hold
  admitted j hj outcome ho := by
    rcases List.mem_append.mp hj with hj | hj
    · exact h.admitted j hj outcome ho
    · rw [List.mem_singleton.mp hj] at ho
      cases ho
  contract := causal_concat.mpr ⟨h.contract, by rw [Contract, h.length]⟩

/-- Closing an open job keeps every final answer. -/
theorem boardInv_close (h : BoardInv handlers os b) {i : Nat} {j : Job} {outcome : Outcome}
    (hj : b[i]? = some j) (hopen : j.outcome = none) (hadmits : j.Admits handlers outcome) :
    BoardInv handlers os (b.set i { j with outcome := some outcome }) := by
  obtain ⟨hlt, _⟩ := List.getElem?_eq_some_iff.mp hj
  -- the job with the number of the place
  have hjob : ∀ n : Int, n = ((i + 1 : Nat) : Int) → b.job n = some j := by
    intro n hn
    unfold job
    rw [if_pos (by omega), show (n - 1).toNat = i by omega]
    exact hj
  refine ⟨by rw [List.length_set]; exact h.length, ?_, ?_, ?_, h.contract⟩
  · intro taskId
    rw [h.works, job_set]
    split
    · rename_i hn
      rw [hjob _ hn.1]
      rfl
    · rfl
  · intro taskId answer hmem hf
    have hold := h.settled taskId answer hmem hf
    unfold JobBoard.answer at hold ⊢
    by_cases hn : taskId.val = ((i + 1 : Nat) : Int)
    · -- the job was open, so no answer about it was final
      rw [hjob _ hn] at hold
      simp only [Job.answer, hopen] at hold
      rw [← hold] at hf
      cases hf
    · rw [job_set, if_neg fun h => hn h.1]
      exact hold
  · intro k hk o ho
    rcases List.mem_or_eq_of_mem_set hk with hk | rfl
    · exact h.admitted k hk o ho
    · rw [Option.some.injEq] at ho
      subst ho
      cases outcome with
      | completed result => exact hadmits
      | failed error => trivial

/-- A question is answered in keeping with what has been shown. -/
theorem boardInv_ask (h : BoardInv handlers os b) (taskId : Int32Field) :
    BoardInv handlers (os ++ [.asked taskId (b.answer taskId)]) b where
  length := by
    rw [List.countP_append, h.length]
    rfl
  works id := by
    rw [List.filterMap_append, h.works]
    exact List.append_nil _
  settled id answer hmem hf := by
    rcases List.mem_append.mp hmem with hmem | hmem
    · exact h.settled id answer hmem hf
    · have heq := List.mem_singleton.mp hmem
      injection heq with hid hanswer
      rw [hid, hanswer]
  admitted := h.admitted
  contract := by
    refine causal_concat.mpr ⟨h.contract, h.settled taskId, ?_⟩
    rw [h.works]
    unfold JobBoard.answer
    cases hj : b.job taskId.val with
    | none => rfl
    | some j => exact fits_answer (h.admitted j (mem_of_job hj))

/-- **Step lemma.** -/
theorem boardInv_step (h : BoardInv handlers os b) {e : BoardEvent}
    (hs : b.step handlers e = some b') : BoardInv handlers (os ++ (b.shows e).toList) b' := by
  cases e with
  | submit work =>
      simp only [step, Option.some.injEq] at hs
      by_cases hv : Dispatcher.Valid work
      · rw [if_pos hv] at hs
        exact hs ▸ boardInv_submit h hv
      · rw [if_neg hv] at hs
        exact hs ▸ boardInv_rejected h hv
  | close i outcome =>
      simp only [step] at hs
      split at hs
      · cases hs
      · rename_i j hj
        split at hs <;> cases hs
        rename_i hc
        rw [shows, Option.toList_none, List.append_nil]
        exact boardInv_close h hj hc.1 hc.2
  | ask taskId =>
      cases hs
      exact boardInv_ask h taskId

/-- The run lemma. -/
theorem boardInv_of_run {fs : List BoardEvent} (hr : run (step handlers) [] fs = some b) :
    BoardInv handlers (trace (step handlers) shows [] fs) b :=
  trace_invariant (P := BoardInv handlers) (boardInv_init handlers)
    (fun _ _ _ _ _ hI hs => boardInv_step hI hs) hr

/-- **Every trace of the board keeps the contract.** -/
theorem contract_of_board {fs : List BoardEvent} (hr : run (step handlers) [] fs = some b) :
    Causal (Contract handlers) (trace (step handlers) shows [] fs) :=
  (boardInv_of_run hr).contract

end JobBoard

end TaskGrid
