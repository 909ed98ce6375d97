/-
  TaskGrid.System.Session — from command line to command line.

  Any number of people run the client, in any order, while the system works:
  each run of the program is one process with its own arguments, its request
  or its response may be lost, and all that comes of it is what it prints.

  Main result: `printed_results`.  What a process prints as the result of an
  id is the value the handler computes from the words of the command line
  that was given this id.
-/
import TaskGrid.System.Refinement
import TaskGrid.Client.CommandLine

namespace TaskGrid

open TaskGrid.Lib

/-! ## §1. The steps. -/

/-- The labels of the steps of a session. -/
inductive SessionEvent where
  /-- A step of the system that is neither a restart nor a PostTask. -/
  | system (e : SystemEvent)
  /-- Somebody runs the client. -/
  | invoke (i : Invocation)

/-- The step is a PostTask. -/
def SystemEvent.isPost : SystemEvent → Bool
  | .dispatcher (.postTask _ _) => true
  | _ => false

/-- The call that reaches the dispatcher, if one does. -/
def Invocation.clientEvent (i : Invocation) : Option ClientEvent :=
  if i.delivery.reaches then
    match readArgs i.args with
    | .complain _ => none
    | .send taskType payload =>
        some (.system (.dispatcher (.postTask
          (postRequest i.clientId i.requestId i.timestamp taskType payload) i.now)))
    | .result taskId =>
        match encodeInt32 taskId with
        | .error _ => none
        | .ok field => some (.getResult (getRequest i.clientId i.requestId i.timestamp field) i.now)
  else none

/-- What becomes of a process: its arguments and what it has printed. -/
structure Shown where
  args : List String
  printed : List String
  deriving DecidableEq

namespace Session

/-- One step of a session. -/
def step (cfg : Config) (handlers : Handlers) (s : System) : SessionEvent → Option System
  | .system e => if e.isPost then none else s.serve cfg handlers (.system e)
  | .invoke i =>
      match i.clientEvent with
      | none => some s
      | some e => s.serve cfg handlers e

/-- What a step shows. -/
def shows (s : System) : SessionEvent → Option Shown
  | .system _ => none
  | .invoke i => some ⟨i.args, mainFrom s.dispatcher i⟩

end Session

/-! ## §2. What the processes print. -/

/-- The process was to send this task. -/
def Shown.Sends (o : Shown) (taskType payload : String) : Prop :=
  readArgs o.args = .send taskType payload

/-- The process was to send this task and says which id it has. -/
def Shown.SendsAs (o : Shown) (taskType payload : String) (n : Int) : Prop :=
  o.Sends taskType payload ∧ o.printed.getLast? = some (acceptedLine n)

/-- The process was asked for the id and gives a result. -/
def Shown.Reports (o : Shown) (n : Int) (result : String) : Prop :=
  readArgs o.args = .result n ∧ o.printed.getLast? = some (completedLine result)

/-- **What can be read off the terminals**, of one process and all those before it.  No id is
given out twice.  A result is the value the handler computes from the words of a command line
before, of the one that was given the id if it has said so; and it stays what it is. -/
structure Honest (handlers : Handlers) (before : List Shown) (o : Shown) : Prop where
  fresh : ∀ taskType payload n, o.SendsAs taskType payload n →
    ∀ p ∈ before, ∀ taskType' payload', ¬ p.SendsAs taskType' payload' n
  computed : ∀ n result, o.Reports n result →
    ∃ p ∈ before, ∃ taskType payload, p.Sends taskType payload ∧
      Computes handlers taskType payload result
  own : ∀ n result, o.Reports n result → ∀ p ∈ before, ∀ taskType payload,
    p.SendsAs taskType payload n → Computes handlers taskType payload result
  stable : ∀ n result, o.Reports n result → ∀ p ∈ before, ∀ earlier,
    p.Reports n earlier → result = earlier

namespace Session

variable {cfg : Config} {handlers : Handlers} {s s' : System}

/-- A response that arrives is the answer that was given. -/
theorem receive_eq_ok {π : Type} {i : Invocation} {answer : Except RpcError (Envelope π)}
    {response : Envelope π} (h : i.receive answer = .ok response) :
    i.delivery = .answered ∧ answer = .ok response := by
  unfold Invocation.receive at h
  split at h
  · rename_i hd
    exact ⟨hd, h⟩
  · cases h

theorem reaches_of_answered {i : Invocation} (h : i.delivery = .answered) :
    i.delivery.reaches = true := by
  rw [h]
  rfl

/-- A process that says which id its task has got was answered so. -/
theorem observation_of_sendsAs {i : Invocation} {taskType payload : String} {n : Int}
    (h : Shown.SendsAs ⟨i.args, mainFrom s.dispatcher i⟩ taskType payload n) :
    ∃ e taskId, i.clientEvent = some e ∧ taskId.val = n ∧
      s.shows e = some (.posted ⟨taskType, payload⟩ (.accepted taskId)) := by
  have hargs : readArgs i.args = .send taskType payload := h.1
  have hline := h.2
  simp only [mainFrom, hargs] at hline
  obtain ⟨response, hcall, hsuccess, hid⟩ := accepted_of_line hline
  unfold Invocation.postAnswer at hcall
  split at hcall
  · cases hcall
  · rename_i reply hreply
    obtain ⟨hdelivery, hcaller⟩ := receive_eq_ok hcall
    have he : i.clientEvent = some (.system (.dispatcher (.postTask
        (postRequest i.clientId i.requestId i.timestamp taskType payload) i.now))) := by
      unfold Invocation.clientEvent
      rw [if_pos (reaches_of_answered hdelivery), hargs]
    have hseen : seenPost (s.dispatcher.postTask
        (postRequest i.clientId i.requestId i.timestamp taskType payload) i.now).2
        = .accepted response.payload.taskId := by
      rw [hreply]
      simp only [seenPost, hcaller, hsuccess, if_true]
    exact ⟨_, _, he, hid,
      congrArg (fun a => some (Observation.posted ⟨taskType, payload⟩ a)) hseen⟩

/-- A process that gives a result was answered so. -/
theorem observation_of_reports {i : Invocation} {n : Int} {result : String}
    (h : Shown.Reports ⟨i.args, mainFrom s.dispatcher i⟩ n result) :
    ∃ e taskId, i.clientEvent = some e ∧ taskId.val = n ∧
      s.shows e = some (.asked taskId (.completed result)) := by
  have hargs : readArgs i.args = .result n := h.1
  have hline := h.2
  simp only [mainFrom, hargs] at hline
  obtain ⟨field, response, hfield, hcall, hfound, hstatus, hresult⟩ := completed_of_line hline
  obtain ⟨hdelivery, hcaller⟩ := receive_eq_ok hcall
  have he : i.clientEvent
      = some (.getResult (getRequest i.clientId i.requestId i.timestamp field) i.now) := by
    unfold Invocation.clientEvent
    rw [if_pos (reaches_of_answered hdelivery), hargs]
    simp only [hfield]
  have hseen : seenResult (s.dispatcher.getResult
      (getRequest i.clientId i.requestId i.timestamp field) i.now) = .completed result := by
    simp only [seenResult, hcaller, hfound, hstatus, hresult, if_true, Bool.true_eq_false,
      if_false]
  exact ⟨_, _, he, val_of_encodeInt32 hfield,
    congrArg (fun a => some (Observation.asked field a)) hseen⟩

/-- A submission that reaches the dispatcher is one of a process that was to send it. -/
theorem sends_of_observation {i : Invocation} {e : ClientEvent} {work : PostTaskPayload}
    {answer : PostAnswer} (he : i.clientEvent = some e)
    (hshow : s.shows e = some (.posted work answer)) (printed : List String) :
    Shown.Sends ⟨i.args, printed⟩ work.taskType work.taskPayload := by
  unfold Invocation.clientEvent at he
  split at he
  case isFalse => cases he
  split at he
  · cases he
  · rename_i taskType payload hargs
    rw [Option.some.injEq] at he
    subst he
    injection hshow with hshow
    injection hshow with hwork _
    subst hwork
    exact hargs
  · split at he
    · cases he
    · rw [Option.some.injEq] at he
      subst he
      injection hshow with hshow
      cases hshow

end Session

/-! ## §3. What is on the terminals and what the dispatcher has answered. -/

/-- The number of an accepted submission is that of its job. -/
theorem BoardInv.job_of_accepted {handlers : Handlers} {bs : List Observation} {b : JobBoard}
    (h : BoardInv handlers bs b) {work : PostTaskPayload} {taskId : Int32Field}
    (hmem : .posted work (.accepted taskId) ∈ bs) :
    ∃ j, b.job taskId.val = some j ∧ j.work = work := by
  have hwork : work ∈ bs.filterMap (Observation.acceptedAs taskId) :=
    List.mem_filterMap.mpr ⟨_, hmem, if_pos rfl⟩
  rw [h.works, Option.mem_toList, Option.map_eq_some_iff] at hwork
  exact hwork

theorem val_of_tellNumber {n : Int} {taskId : Int32Field}
    (h : PostAnswer.accepted taskId = tellNumber n) : taskId.val = n := by
  unfold tellNumber at h
  split at h
  · rename_i field hfield
    injection h with h
    rw [h]
    exact val_of_encodeInt32 hfield
  · cases h

/-- The number a submission is told is the next one. -/
theorem val_of_postAnswer {stored : Nat} {work : PostTaskPayload} {taskId : Int32Field}
    (h : PostAnswer.accepted taskId = postAnswer stored work) :
    taskId.val = ((stored + 1 : Nat) : Int) := by
  unfold postAnswer at h
  split at h
  · exact val_of_tellNumber h
  · cases h

/-- What was accepted under a number is an accepted submission. -/
theorem posted_of_acceptedAs {taskId : Int32Field} {o : Observation} {work : PostTaskPayload}
    (h : o.acceptedAs taskId = some work) : o = .posted work (.accepted taskId) := by
  unfold Observation.acceptedAs at h
  split at h
  · split at h
    · rename_i hid
      rw [Option.some.injEq] at h
      rw [hid, h]
    · cases h
  · cases h

/-- What the processes print and what the dispatcher has answered belong together. -/
structure Linked (os : List Shown) (bs : List Observation) : Prop where
  posted : ∀ work answer, .posted work answer ∈ bs →
    ∃ p ∈ os, p.Sends work.taskType work.taskPayload
  accepted : ∀ p ∈ os, ∀ taskType payload n, p.SendsAs taskType payload n →
    ∃ taskId : Int32Field, taskId.val = n ∧ .posted ⟨taskType, payload⟩ (.accepted taskId) ∈ bs
  completed : ∀ p ∈ os, ∀ n result, p.Reports n result →
    ∃ taskId : Int32Field, taskId.val = n ∧ .asked taskId (.completed result) ∈ bs

/-- The new process and the answer it has got. -/
structure Witnesses (o : Shown) (new : Option Observation) : Prop where
  posted : ∀ work answer, new = some (.posted work answer) → o.Sends work.taskType work.taskPayload
  accepted : ∀ taskType payload n, o.SendsAs taskType payload n →
    ∃ taskId : Int32Field, taskId.val = n ∧ new = some (.posted ⟨taskType, payload⟩ (.accepted taskId))
  completed : ∀ n result, o.Reports n result →
    ∃ taskId : Int32Field, taskId.val = n ∧ new = some (.asked taskId (.completed result))

variable {handlers : Handlers} {os : List Shown} {bs : List Observation} {o : Shown}
  {new : Option Observation} {b b' : JobBoard}

theorem Linked.concat (h : Linked os bs) (hw : Witnesses o new) :
    Linked (os ++ [o]) (bs ++ new.toList) where
  posted work answer hmem := by
    rcases List.mem_append.mp hmem with hmem | hmem
    · obtain ⟨p, hp, hsends⟩ := h.posted work answer hmem
      exact ⟨p, List.mem_append_left _ hp, hsends⟩
    · rw [Option.mem_toList] at hmem
      exact ⟨o, List.mem_append_right _ (List.mem_singleton_self o), hw.posted work answer hmem⟩
  accepted p hp taskType payload n hs := by
    rcases List.mem_append.mp hp with hp | hp
    · obtain ⟨taskId, hid, hmem⟩ := h.accepted p hp taskType payload n hs
      exact ⟨taskId, hid, List.mem_append_left _ hmem⟩
    · rw [List.mem_singleton.mp hp] at hs
      obtain ⟨taskId, hid, hnew⟩ := hw.accepted taskType payload n hs
      exact ⟨taskId, hid, List.mem_append_right _ (by rw [hnew]; exact List.mem_singleton_self _)⟩
  completed p hp n result hr := by
    rcases List.mem_append.mp hp with hp | hp
    · obtain ⟨taskId, hid, hmem⟩ := h.completed p hp n result hr
      exact ⟨taskId, hid, List.mem_append_left _ hmem⟩
    · rw [List.mem_singleton.mp hp] at hr
      obtain ⟨taskId, hid, hnew⟩ := hw.completed n result hr
      exact ⟨taskId, hid, List.mem_append_right _ (by rw [hnew]; exact List.mem_singleton_self _)⟩

/-- The contract of the dispatcher about the new answer. -/
theorem contract_of_new (hb' : BoardInv handlers (bs ++ new.toList) b') {a : Observation}
    (hnew : new = some a) : Contract handlers bs a := by
  have hcontract := hb'.contract
  rw [hnew] at hcontract
  exact (causal_concat.mp hcontract).2

/-- **What a process prints is honest.** -/
theorem honest_of_linked (hb : BoardInv handlers bs b)
    (hb' : BoardInv handlers (bs ++ new.toList) b') (hl : Linked os bs) (hw : Witnesses o new) :
    Honest handlers os o := by
  -- the one submission that was accepted under the number of a result
  have hone : ∀ n result, o.Reports n result → ∃ taskId : Int32Field, taskId.val = n ∧
      new = some (.asked taskId (.completed result)) ∧ ∃ work,
        bs.filterMap (Observation.acceptedAs taskId) = [work] ∧
        Computes handlers work.taskType work.taskPayload result := by
    intro n result hr
    obtain ⟨taskId, hid, hnew⟩ := hw.completed n result hr
    obtain ⟨_, hfits⟩ := contract_of_new hb' hnew
    refine ⟨taskId, hid, hnew, ?_⟩
    split at hfits
    · cases hfits
    · rename_i work hwork
      exact ⟨work, hwork, hfits⟩
    · exact hfits.elim
  refine ⟨?_, ?_, ?_, ?_⟩
  · intro taskType payload n hs p hp taskType' payload' hs'
    obtain ⟨taskId, hid, hnew⟩ := hw.accepted taskType payload n hs
    obtain ⟨taskId', hid', hmem⟩ := hl.accepted p hp taskType' payload' n hs'
    have hnext := val_of_postAnswer (contract_of_new hb' hnew)
    -- a number given out before is at most the number of stored jobs
    obtain ⟨j, hj, _⟩ := hb.job_of_accepted hmem
    rw [JobBoard.job_eq_none_of_gt (by rw [← hb.length]; omega)] at hj
    cases hj
  · intro n result hr
    obtain ⟨taskId, _, _, work, hwork, hcomputes⟩ := hone n result hr
    have hmem : work ∈ bs.filterMap (Observation.acceptedAs taskId) := by
      rw [hwork]
      exact List.mem_singleton_self work
    obtain ⟨a, ha, hacc⟩ := List.mem_filterMap.mp hmem
    rw [posted_of_acceptedAs hacc] at ha
    obtain ⟨p, hp, hsends⟩ := hl.posted work _ ha
    exact ⟨p, hp, _, _, hsends, hcomputes⟩
  · intro n result hr p hp taskType payload hs
    obtain ⟨taskId, hid, _, work, hwork, hcomputes⟩ := hone n result hr
    obtain ⟨taskId', hid', hmem⟩ := hl.accepted p hp taskType payload n hs
    have hsame : taskId' = taskId := Int32Field.val_injective (hid'.trans hid.symm)
    have hin : (⟨taskType, payload⟩ : PostTaskPayload)
        ∈ bs.filterMap (Observation.acceptedAs taskId) :=
      List.mem_filterMap.mpr ⟨.posted ⟨taskType, payload⟩ (.accepted taskId'), hmem,
        if_pos hsame⟩
    rw [hwork, List.mem_singleton] at hin
    rw [← hin] at hcomputes
    exact hcomputes
  · intro n result hr p hp earlier hearlier
    obtain ⟨taskId, hid, hnew⟩ := hw.completed n result hr
    obtain ⟨taskId', hid', hmem⟩ := hl.completed p hp n earlier hearlier
    have hsame : taskId' = taskId := Int32Field.val_injective (hid'.trans hid.symm)
    obtain ⟨hsettled, _⟩ := contract_of_new hb' hnew
    have heq := hsettled _ (hsame ▸ hmem) rfl
    injection heq

/-! ## §4. The main result. -/

namespace Session

variable {cfg : Config} {s s' : System}

/-- The processes so far, and a run of the system that has answered them. -/
structure SessionInv (cfg : Config) (handlers : Handlers) (os : List Shown) (s : System) :
    Prop where
  honest : Causal (Honest handlers) os
  served : ∃ es, run (System.serve cfg handlers) .init es = some s ∧
    Linked os (trace (System.serve cfg handlers) System.shows .init es)

/-- What the clients of a run have been answered is what some board shows. -/
theorem boardInv_of_serve {es : List ClientEvent}
    (hr : run (System.serve cfg handlers) .init es = some s) :
    ∃ b, BoardInv handlers (trace (System.serve cfg handlers) System.shows .init es) b :=
  (System.simulation cfg handlers).trace_property (Q := fun bs => ∃ b, BoardInv handlers bs b)
    (fun _ b hfs => ⟨b, JobBoard.boardInv_of_run hfs⟩) hr

/-- A step that shows nothing to anybody. -/
theorem sessionInv_system (h : SessionInv cfg handlers os s) {e : SystemEvent}
    (hpost : e.isPost = false) (hs : s.serve cfg handlers (.system e) = some s') :
    SessionInv cfg handlers os s' := by
  obtain ⟨hhonest, es, hr, hl⟩ := h
  refine ⟨hhonest, es ++ [.system e], run_append_eq_some.mpr
    ⟨s, hr, run_singleton_eq_some.mpr hs⟩, ?_⟩
  have hnone : s.shows (.system e) = none := by
    cases e with
    | dispatcher e =>
        cases e with
        | postTask => cases hpost
        | _ => rfl
    | _ => rfl
  rw [trace_append hr, trace_singleton hs, hnone, Option.toList_none, List.append_nil]
  exact hl

/-- A process, and the step of the dispatcher that answers it. -/
theorem sessionInv_invoke (h : SessionInv cfg handlers os s) {i : Invocation}
    (hs : step cfg handlers s (.invoke i) = some s') :
    SessionInv cfg handlers (os ++ [⟨i.args, mainFrom s.dispatcher i⟩]) s' := by
  obtain ⟨hhonest, es, hr, hl⟩ := h
  -- the run that goes on with the call of the process, if it arrives
  have hserved : ∃ es', run (System.serve cfg handlers) .init es' = some s' ∧
      trace (System.serve cfg handlers) System.shows .init es'
        = trace (System.serve cfg handlers) System.shows .init es
          ++ (i.clientEvent.bind s.shows).toList := by
    simp only [step] at hs
    split at hs
    · rename_i hnone
      cases hs
      exact ⟨es, hr, by rw [hnone]; exact (List.append_nil _).symm⟩
    · rename_i e he
      refine ⟨es ++ [e], run_append_eq_some.mpr ⟨s, hr, run_singleton_eq_some.mpr hs⟩, ?_⟩
      rw [trace_append hr, trace_singleton hs, he]
      rfl
  obtain ⟨es', hr', htrace⟩ := hserved
  have hw : Witnesses ⟨i.args, mainFrom s.dispatcher i⟩ (i.clientEvent.bind s.shows) := by
    refine ⟨?_, ?_, ?_⟩
    · intro work answer hnew
      obtain ⟨e, he, hshow⟩ := Option.bind_eq_some_iff.mp hnew
      exact sends_of_observation he hshow _
    · intro taskType payload n hsends
      obtain ⟨e, taskId, he, hid, hshow⟩ := observation_of_sendsAs hsends
      exact ⟨taskId, hid, Option.bind_eq_some_iff.mpr ⟨e, he, hshow⟩⟩
    · intro n result hreports
      obtain ⟨e, taskId, he, hid, hshow⟩ := observation_of_reports hreports
      exact ⟨taskId, hid, Option.bind_eq_some_iff.mpr ⟨e, he, hshow⟩⟩
  obtain ⟨b, hb⟩ := boardInv_of_serve hr
  obtain ⟨b', hb'⟩ := boardInv_of_serve hr'
  rw [htrace] at hb'
  refine ⟨causal_concat.mpr ⟨hhonest, honest_of_linked hb hb' hl hw⟩, es', hr', ?_⟩
  rw [htrace]
  exact hl.concat hw

/-- **From command line to command line.**  In every session in one lifetime of the dispatcher,
whatever is lost, delayed, repeated or retried: no two processes are told the same task id, and
what a process prints as the result of an id is the value the handler of its type computes from
the words of the command line that was given the id, the same for everyone who asks. -/
theorem printed_results {es : List SessionEvent} (hr : run (step cfg handlers) .init es = some s) :
    Causal (Honest handlers) (trace (step cfg handlers) shows .init es) := by
  have hinv : SessionInv cfg handlers (trace (step cfg handlers) shows .init es) s := by
    refine trace_invariant (P := SessionInv cfg handlers) ⟨causal_nil, [], rfl, ?_⟩ ?_ hr
    · exact ⟨fun _ _ h => absurd h List.not_mem_nil, fun _ h => absurd h List.not_mem_nil,
        fun _ h => absurd h List.not_mem_nil⟩
    · intro os a e b _ hI hs
      cases e with
      | system e =>
          simp only [step] at hs
          split at hs
          · cases hs
          · rename_i hpost
            rw [shows, Option.toList_none, List.append_nil]
            exact sessionInv_system hI (by simpa using hpost) hs
      | invoke i => exact sessionInv_invoke hI hs
  exact hinv.honest

/-- A run of the program with these arguments whose call is answered. -/
def answered (args : List String) : Invocation :=
  ⟨args, "client-1", "r1", 0, .answered, ⟨.ok, "failed to connect"⟩, 0⟩

/-- A task is sent, dispatched, executed and asked for. -/
def typedLife : List SessionEvent :=
  [.invoke (answered ["send", "reverse", "abc"])] ++ (System.sampleLife.drop 1).map .system ++
    [.invoke (answered ["result", "1"])]

/-- What is on the two terminals. -/
theorem printed_results_typedLife :
    ∃ s os, run (step ⟨3⟩ System.sampleHandlers) .init typedLife = some s ∧
      trace (step ⟨3⟩ System.sampleHandlers) shows .init typedLife = os ∧
      os = [⟨["send", "reverse", "abc"], ["Task wurde angenommen. Task-ID: 1"]⟩,
        ⟨["result", "1"], ["Task-ID: 1", "Status: COMPLETED", "Ergebnis: cba"]⟩] ∧
      Causal (Honest System.sampleHandlers) os := by
  refine ⟨_, _, rfl, rfl, by decide, ?_⟩
  exact @printed_results System.sampleHandlers ⟨3⟩ _ typedLife rfl

end Session

end TaskGrid
