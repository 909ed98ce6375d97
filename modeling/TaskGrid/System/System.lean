/-
  TaskGrid.System.System — clients, dispatcher and workers together.

  The messages are lists of everything that was ever sent.  A message can
  be handled any number of times, in any order, or never: that covers
  delay, loss, duplication and reordering.  PostTask requests come from
  outside with the label of the step, and what `dispatch_task` returns is
  chosen by the environment, since the answer of a worker can be lost too.

  A restart replaces the dispatcher by a new one; the requests and results of
  earlier incarnations stay on the wire, tagged with the epoch that sent them.
-/
import TaskGrid.Dispatcher.Terminal
import TaskGrid.Worker.Worker

namespace TaskGrid

open TaskGrid.Lib

/-! ## §1. The state. -/

/-- A PostTask call: the request and what the dispatcher answered. -/
structure Post where
  request : Envelope PostTaskPayload
  answer : Except PyError (Reply PostTaskResponsePayload)

/-- The call was accepted and answered with this task id. -/
def Post.answeredWith (taskId : Int32Field) (p : Post) : Bool :=
  match p.answer with
  | .ok reply => reply.message.payload.success && reply.message.payload.taskId = taskId
  | .error _ => false

/-- The whole system. -/
structure System where
  dispatcher : Dispatcher
  /-- The number of restarts so far. -/
  epoch : Nat
  /-- The PostTask calls to the running dispatcher. -/
  posts : List Post
  /-- The ExecuteTask requests of earlier incarnations. -/
  surviving : List (Nat × ExecuteCall)
  /-- The ReturnResult requests workers have sent, with the epoch of the executed request. -/
  results : List (Nat × Envelope ResultPayload)

namespace System

/-- The system before the first step. -/
def init : System where
  dispatcher := .init
  epoch := 0
  posts := []
  surviving := []
  results := []

/-- The ExecuteTask requests a worker can run. -/
def calls (s : System) : List (Nat × ExecuteCall) :=
  s.surviving ++ s.dispatcher.sent.map fun c => (s.epoch, c)

end System

/-! ## §2. The steps. -/

/-- The labels of the steps of the system. -/
inductive SystemEvent where
  /-- A step of the dispatcher other than ReturnResult. -/
  | dispatcher (e : Event)
  /-- A worker runs ExecuteTask on a request. -/
  | execute (epoch : Nat) (call : ExecuteCall) (worker : WorkerConfig) (isDraining : Bool)
      (first second : CallOutcome) (now : Int)
  /-- A ReturnResult request reaches the dispatcher. -/
  | deliver (epoch : Nat) (request : Envelope ResultPayload) (now : Int)
  /-- The dispatcher process is replaced by a new one. -/
  | restart
  deriving DecidableEq

/-- The step is a ReturnResult. -/
def Event.isReturnResult : Event → Bool
  | .returnResult _ _ => true
  | _ => false

/-- The PostTask call a dispatcher step answers. -/
def Dispatcher.postOf (d : Dispatcher) : Event → List Post
  | .postTask request now => [⟨request, (d.postTask request now).2⟩]
  | _ => []

namespace System

/-- One step of the system. -/
def step (cfg : Config) (handlers : Handlers) (s : System) : SystemEvent → Option System
  | .dispatcher e =>
      if e.isReturnResult then none
      else (s.dispatcher.step cfg e).map fun d =>
        { s with dispatcher := d, posts := s.posts ++ s.dispatcher.postOf e }
  | .execute epoch call worker isDraining first second now =>
      if (epoch, call) ∈ s.calls then
        let reports := (executeTask handlers worker isDraining call.request first second now).1
        some { s with results := s.results ++ reports.map fun r => (epoch, r) }
      else none
  | .deliver epoch request now =>
      if (epoch, request) ∈ s.results then
        some { s with dispatcher := (s.dispatcher.returnResult request now).1 }
      else none
  | .restart =>
      some { s with
        dispatcher := .init
        epoch := s.epoch + 1
        posts := []
        surviving := s.calls }

variable {cfg : Config} {handlers : Handlers} {s s' : System}

/-! ## §3. The dispatcher inside the system. -/

/-- What a step other than a restart does: a step of the dispatcher, the delivery of a
result, or an execution. -/
theorem step_cases {e : SystemEvent} (hs : s.step cfg handlers e = some s')
    (he : e ≠ .restart) :
    (∃ e' d, e = .dispatcher e' ∧ e'.isReturnResult = false ∧
        s.dispatcher.step cfg e' = some d ∧
        s' = { s with dispatcher := d, posts := s.posts ++ s.dispatcher.postOf e' }) ∨
      (∃ epoch request now, e = .deliver epoch request now ∧ (epoch, request) ∈ s.results ∧
        s' = { s with dispatcher := (s.dispatcher.returnResult request now).1 }) ∨
      (∃ epoch call worker isDraining first second now,
        e = .execute epoch call worker isDraining first second now ∧
        (epoch, call) ∈ s.calls ∧
        s' = { s with
          results := s.results ++
            (executeTask handlers worker isDraining call.request first second now).1.map
              fun r => (epoch, r) }) := by
  cases e with
  | dispatcher e' =>
      simp only [step] at hs
      split at hs
      · cases hs
      · rename_i hr
        rw [Option.map_eq_some_iff] at hs
        obtain ⟨d, hd, hs⟩ := hs
        exact .inl ⟨e', d, rfl, by simpa using hr, hd, hs.symm⟩
  | deliver epoch request now =>
      simp only [step] at hs
      split at hs
      · rename_i hmem
        exact .inr (.inl ⟨epoch, request, now, rfl, hmem, (Option.some.inj hs).symm⟩)
      · cases hs
  | execute epoch call worker isDraining first second now =>
      simp only [step] at hs
      split at hs
      · rename_i hmem
        exact .inr (.inr ⟨epoch, call, worker, isDraining, first, second, now, rfl, hmem,
          (Option.some.inj hs).symm⟩)
      · cases hs
  | restart => exact absurd rfl he

/-- The dispatcher of a system makes a step of its own, or none. -/
theorem dispatcher_reachable_step {e : SystemEvent} (hs : s.step cfg handlers e = some s')
    (he : e ≠ .restart) (h : Reachable (Dispatcher.step cfg) .init s.dispatcher) :
    Reachable (Dispatcher.step cfg) .init s'.dispatcher := by
  rcases step_cases hs he with ⟨e', d, _, _, hd, hs'⟩ | ⟨_, request, now, _, _, hs'⟩
    | ⟨_, _, _, _, _, _, _, _, _, hs'⟩ <;> rw [hs']
  · exact h.tail hd
  · exact h.tail (e := .returnResult request now) rfl
  · exact h

/-- The dispatcher of a reachable system is a reachable dispatcher: the properties of single
dispatchers hold in the system. -/
theorem dispatcher_reachable (h : Reachable (step cfg handlers) init s) :
    Reachable (Dispatcher.step cfg) .init s.dispatcher := by
  refine h.invariant (I := fun s => Reachable (Dispatcher.step cfg) .init s.dispatcher)
    (Reachable.init _) ?_
  intro s e s' _ hI hs
  by_cases he : e = .restart
  · subst he
    cases hs
    exact Reachable.init _
  · exact dispatcher_reachable_step hs he hI

end System

end TaskGrid
