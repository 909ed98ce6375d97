/-
  TaskGrid.System.Grid — dispatcher, naming service and workers together.

  `System` leaves open which workers a lookup finds and what `dispatch_task`
  returns.  Here the naming service answers the lookups of the dispatcher
  from its registry, and a request is executed by a worker process behind the
  address it was sent to; several processes may share one address, as the
  replicas of a compose service do.  A call can fail on the way or lose its
  answer, a lookup may be answered long before the answer arrives, and both
  services may restart.

  Main result: `system_reachable`.  The system inside a grid is one of those
  `System` describes, so everything proved there holds in the grid.
-/
import TaskGrid.System.Presence
import TaskGrid.System.System

namespace TaskGrid

open TaskGrid.Lib

/-! ## §1. The clients of the dispatcher. -/

/-- The request `NamensdienstClient.lookup_worker` sends. -/
def lookupRequest (taskType requestId : String) (now : Int) : Envelope LookupPayload where
  messageType := "LOOKUP_WORKER"
  requestId := requestId
  timestamp := now
  sender := "dispatcher"
  payload := ⟨taskType⟩

/-- What `NamensdienstClient.lookup_worker` makes of the response; none is a gRPC error. -/
def workersOf : Option LookupResponsePayload → List WorkerInfo
  | none => []
  | some response =>
      if !response.found || response.workers.isEmpty then []
      else response.workers.map fun w => ⟨w.workerId, w.address, w.port.val, w.currentLoad.val⟩

/-- What `WorkerClient.dispatch_task` makes of the response; none is a gRPC error. -/
def successOf : Option (Envelope TaskResponsePayload) → Option Bool
  | none => none
  | some response => if !response.payload.accepted then some false else some true

deriving instance DecidableEq for WorkerProcess

/-- The request `update_worker_status` sends. -/
def WorkerProcess.statusUpdate (w : WorkerProcess) (status requestId : String) (timestamp : Int)
    (currentLoad : Int32Field) : Envelope RegisterWorkerPayload :=
  let request := w.registration requestId timestamp currentLoad
  { request with payload := { request.payload with status := status } }

/-! ## §2. The state. -/

/-- One run of ExecuteTask: the request it works on with the epoch that sent it, the process
that runs it, and how its ReturnResult calls end. -/
structure Execution where
  epoch : Nat
  call : ExecuteCall
  process : WorkerProcess
  isDraining : Bool
  first : CallOutcome
  second : CallOutcome
  now : Int

/-- The reports of the execution and its response. -/
def Execution.outcome (handlers : Handlers) (x : Execution) :
    List (Envelope ResultPayload) × Option (Envelope TaskResponsePayload) :=
  executeTask handlers x.process.toWorkerConfig x.isDraining x.call.request x.first x.second x.now

/-- The request reached a process that listens behind its address. -/
def Execution.AtAddress (x : Execution) : Prop :=
  x.process.host = x.call.worker.address ∧ x.process.port.val = x.call.worker.port

instance (x : Execution) : Decidable x.AtAddress := inferInstanceAs (Decidable (_ ∧ _))

/-- The grid. -/
structure Grid where
  system : System
  service : Namensdienst
  /-- The accepted registrations in all lifetimes of the naming service. -/
  registered : List RegisterWorkerPayload
  /-- The answered lookups of blocked runs, with the task id. -/
  answers : List (String × LookupResponsePayload)
  /-- Everything workers have executed. -/
  executions : List Execution

/-! ## §3. The steps. -/

/-- The labels of the steps of the grid. -/
inductive GridEvent where
  /-- A step of the dispatcher that needs neither the naming service nor a worker, the delivery
  of a report, or a restart of the dispatcher. -/
  | system (e : SystemEvent)
  /-- The naming service answers the lookup of a blocked run. -/
  | lookup (taskId : String) (now : Int)
  /-- `lookup_worker` returns, with an answer or with a gRPC error. -/
  | lookupReturns (taskId : String) (answer : Option LookupResponsePayload) (now : Int)
  /-- A worker runs ExecuteTask. -/
  | execute (x : Execution)
  /-- `dispatch_task` returns, with the response of the execution at this place of the list or
  with a gRPC error. -/
  | reply (taskId : String) (worker : WorkerInfo) (timer : Timer) (execution : Option Nat)
      (now : Int)
  /-- `register_worker` or `update_worker_status` of a process. -/
  | register (w : WorkerProcess) (status requestId : String) (timestamp : Int)
      (currentLoad : Int32Field) (now : ℚ)
  /-- Any other step of the naming service. -/
  | service (e : NsEvent)
  /-- The naming service starts anew. -/
  | restartService

/-- The step involves no naming service and no worker. -/
def SystemEvent.isInternal : SystemEvent → Bool
  | .dispatcher (.lookupReturns _ _ _) => false
  | .dispatcher (.reply _ _ _ _ _) => false
  | .dispatcher _ => true
  | .execute _ _ _ _ _ _ _ => false
  | .deliver _ _ _ => true
  | .restart => true

/-- The step registers a worker. -/
def NsEvent.isRegistration : NsEvent → Bool
  | .registerWorker _ _ => true
  | _ => false

namespace Grid

/-- The grid before the first step. -/
def init : Grid := ⟨.init, .init, [], [], []⟩

/-- The value of `dispatch_task`, if the response at this place of the list can be the one to
its call: that of an execution of a request to this worker about this task. -/
def replyValue (handlers : Handlers) (g : Grid) (taskId : String) (worker : WorkerInfo) :
    Option Nat → Option (Option Bool)
  | none => some none
  | some i =>
      match g.executions[i]? with
      | none => none
      | some x =>
          if x.epoch = g.system.epoch ∧ x.call.taskId = taskId ∧ x.call.worker = worker then
            some (successOf (x.outcome handlers).2)
          else none

/-- The lookups a restart of the dispatcher leaves: none. -/
def answersAfter (g : Grid) : SystemEvent → List (String × LookupResponsePayload)
  | .restart => []
  | _ => g.answers

/-- One step of the grid. -/
def step (cfg : Config) (ns : LoopConfig) (handlers : Handlers) (fleet : List WorkerProcess)
    (g : Grid) : GridEvent → Option Grid
  | .system e =>
      if e.isInternal then
        (g.system.step cfg handlers e).map fun system =>
          { g with system := system, answers := g.answersAfter e }
      else none
  | .lookup taskId now =>
      if DispatchRun.mk taskId .lookupWorker ∈ g.system.dispatcher.runs then
        match g.system.dispatcher.store.get taskId with
        | none => none
        | some task =>
            let response := g.service.lookupWorker (lookupRequest task.taskType taskId now)
            some { g with answers := g.answers ++ [(taskId, response.message.payload)] }
      else none
  | .lookupReturns taskId answer now =>
      if ∀ response ∈ answer, (taskId, response) ∈ g.answers then
        (g.system.step cfg handlers
            (.dispatcher (.lookupReturns taskId (workersOf answer) now))).map fun system =>
          { g with system := system, answers := g.answers.filter (·.1 ≠ taskId) }
      else none
  | .execute x =>
      if x.process ∈ fleet ∧ x.AtAddress then
        (g.system.step cfg handlers (.execute x.epoch x.call x.process.toWorkerConfig x.isDraining
            x.first x.second x.now)).map fun system =>
          { g with system := system, executions := g.executions ++ [x] }
      else none
  | .reply taskId worker timer execution now =>
      match g.replyValue handlers taskId worker execution with
      | none => none
      | some success =>
          (g.system.step cfg handlers
              (.dispatcher (.reply taskId worker timer success now))).map fun system =>
            { g with system := system }
  | .register w status requestId timestamp currentLoad now =>
      if w ∈ fleet then
        let request := w.statusUpdate status requestId timestamp currentLoad
        let (service, reply) := g.service.registerWorker request now
        some { g with
          service := service
          registered :=
            if reply.message.payload.success then g.registered ++ [request.payload]
            else g.registered }
      else none
  | .service e =>
      if e.isRegistration then none
      else (g.service.step ns e).map fun service => { g with service := service }
  | .restartService => some { g with service := .init }

end Grid

/-! ## §4. Inversion. -/

namespace System

variable {cfg : Config} {handlers : Handlers} {s s' : System}

theorem step_of_dispatcher {e : Event} (hs : s.step cfg handlers (.dispatcher e) = some s') :
    s.dispatcher.step cfg e = some s'.dispatcher := by
  rcases step_cases hs nofun with ⟨e', d, heq, _, hd, rfl⟩ | ⟨_, _, _, heq, _⟩
    | ⟨_, _, _, _, _, _, _, heq, _⟩
  · injection heq with heq
    exact heq ▸ hd
  · cases heq
  · cases heq

theorem dispatcher_of_execute {epoch : Nat} {call : ExecuteCall} {worker : WorkerConfig}
    {isDraining : Bool} {first second : CallOutcome} {now : Int}
    (hs : s.step cfg handlers (.execute epoch call worker isDraining first second now)
      = some s') : s'.dispatcher = s.dispatcher := by
  simp only [step] at hs
  split at hs <;> cases hs
  rfl

end System

namespace Grid

variable {cfg : Config} {ns : LoopConfig} {handlers : Handlers} {fleet : List WorkerProcess}
  {g g' : Grid}

/-- What a step can do to a grid. -/
inductive GridStep (cfg : Config) (ns : LoopConfig) (handlers : Handlers)
    (fleet : List WorkerProcess) (g : Grid) : GridEvent → Grid → Prop where
  | system {e : SystemEvent} {s : System} (he : e.isInternal = true)
      (hs : g.system.step cfg handlers e = some s) :
      GridStep cfg ns handlers fleet g (.system e)
        { g with system := s, answers := g.answersAfter e }
  | lookup {taskId : String} {now : Int} {task : Task}
      (hg : g.system.dispatcher.store.get taskId = some task) :
      GridStep cfg ns handlers fleet g (.lookup taskId now)
        { g with
          answers := g.answers ++ [(taskId,
            (g.service.lookupWorker
              (lookupRequest task.taskType taskId now)).message.payload)] }
  | lookupReturns {taskId : String} {answer : Option LookupResponsePayload} {now : Int}
      {s : System} (ha : ∀ response ∈ answer, (taskId, response) ∈ g.answers)
      (hs : g.system.step cfg handlers
        (.dispatcher (.lookupReturns taskId (workersOf answer) now)) = some s) :
      GridStep cfg ns handlers fleet g (.lookupReturns taskId answer now)
        { g with system := s, answers := g.answers.filter (·.1 ≠ taskId) }
  | execute {x : Execution} {s : System} (hx : x.process ∈ fleet) (ha : x.AtAddress)
      (hs : g.system.step cfg handlers (.execute x.epoch x.call x.process.toWorkerConfig
        x.isDraining x.first x.second x.now) = some s) :
      GridStep cfg ns handlers fleet g (.execute x)
        { g with system := s, executions := g.executions ++ [x] }
  | reply {taskId : String} {worker : WorkerInfo} {timer : Timer} {execution : Option Nat}
      {now : Int} {success : Option Bool} {s : System}
      (hr : g.replyValue handlers taskId worker execution = some success)
      (hs : g.system.step cfg handlers
        (.dispatcher (.reply taskId worker timer success now)) = some s) :
      GridStep cfg ns handlers fleet g (.reply taskId worker timer execution now)
        { g with system := s }
  | register {w : WorkerProcess} {status requestId : String} {timestamp : Int}
      {currentLoad : Int32Field} {now : ℚ} (hw : w ∈ fleet) :
      GridStep cfg ns handlers fleet g (.register w status requestId timestamp currentLoad now)
        { g with
          service :=
            (g.service.registerWorker (w.statusUpdate status requestId timestamp currentLoad)
              now).1
          registered :=
            if (g.service.registerWorker (w.statusUpdate status requestId timestamp currentLoad)
                now).2.message.payload.success then
              g.registered ++ [(w.statusUpdate status requestId timestamp currentLoad).payload]
            else g.registered }
  | service {e : NsEvent} {service : Namensdienst} (he : e.isRegistration = false)
      (hs : g.service.step ns e = some service) :
      GridStep cfg ns handlers fleet g (.service e) { g with service := service }
  | restartService : GridStep cfg ns handlers fleet g .restartService
      { g with service := .init }

/-- **Inversion.** -/
theorem gridStep_of_step {a : GridEvent} (hs : g.step cfg ns handlers fleet a = some g') :
    GridStep cfg ns handlers fleet g a g' := by
  cases a with
  | system e =>
      simp only [step] at hs
      split at hs
      case isFalse => cases hs
      rename_i he
      obtain ⟨s, hsys, rfl⟩ := Option.map_eq_some_iff.mp hs
      exact .system he hsys
  | lookup taskId now =>
      simp only [step] at hs
      split at hs
      case isFalse => cases hs
      split at hs <;> cases hs
      rename_i task hg
      exact .lookup hg
  | lookupReturns taskId answer now =>
      simp only [step] at hs
      split at hs
      case isFalse => cases hs
      rename_i ha
      obtain ⟨s, hsys, rfl⟩ := Option.map_eq_some_iff.mp hs
      exact .lookupReturns ha hsys
  | execute x =>
      simp only [step] at hs
      split at hs
      case isFalse => cases hs
      rename_i hx
      obtain ⟨s, hsys, rfl⟩ := Option.map_eq_some_iff.mp hs
      exact .execute hx.1 hx.2 hsys
  | reply taskId worker timer execution now =>
      simp only [step] at hs
      split at hs
      · cases hs
      · rename_i success hr
        obtain ⟨s, hsys, rfl⟩ := Option.map_eq_some_iff.mp hs
        exact .reply hr hsys
  | register w status requestId timestamp currentLoad now =>
      simp only [step] at hs
      split at hs <;> cases hs
      rename_i hw
      exact .register hw
  | service e =>
      simp only [step] at hs
      split at hs
      · cases hs
      · rename_i he
        obtain ⟨service, hns, rfl⟩ := Option.map_eq_some_iff.mp hs
        exact .service (by simpa using he) hns
  | restartService =>
      cases hs
      exact .restartService

/-- **A step of the grid is a step of the system, or one the system does not see.** -/
theorem step_system {a : GridEvent} (hs : g.step cfg ns handlers fleet a = some g') :
    (∃ e, g.system.step cfg handlers e = some g'.system) ∨ g'.system = g.system := by
  cases gridStep_of_step hs with
  | system _ hsys => exact .inl ⟨_, hsys⟩
  | lookup => exact .inr rfl
  | lookupReturns _ hsys => exact .inl ⟨_, hsys⟩
  | execute _ _ hsys => exact .inl ⟨_, hsys⟩
  | reply _ hsys => exact .inl ⟨_, hsys⟩
  | register => exact .inr rfl
  | service => exact .inr rfl
  | restartService => exact .inr rfl

/-- The step of the dispatcher in a step of the grid. -/
def dispatcherEvent (handlers : Handlers) (g : Grid) : GridEvent → Option Event
  | .system (.dispatcher e) => some e
  | .system (.deliver _ request now) => some (.returnResult request now)
  | .lookupReturns taskId answer now => some (.lookupReturns taskId (workersOf answer) now)
  | .reply taskId worker timer execution now =>
      (g.replyValue handlers taskId worker execution).map fun success =>
        .reply taskId worker timer success now
  | _ => none

/-- **Every step but a restart is this step of the dispatcher, or leaves the dispatcher alone.** -/
theorem dispatcher_step {a : GridEvent} (hs : g.step cfg ns handlers fleet a = some g')
    (ha : a ≠ .system .restart) :
    match g.dispatcherEvent handlers a with
    | none => g'.system.dispatcher = g.system.dispatcher
    | some e => g.system.dispatcher.step cfg e = some g'.system.dispatcher := by
  cases gridStep_of_step hs with
  | @system e s he hsys =>
      rcases System.step_cases hsys (fun hr => ha (congrArg _ hr)) with ⟨e', d, rfl, _, hd, rfl⟩
        | ⟨_, _, _, rfl, _, rfl⟩ | ⟨_, _, _, _, _, _, _, rfl, _, _⟩
      · exact hd
      · rfl
      · cases he
  | lookup => rfl
  | lookupReturns _ hsys => exact System.step_of_dispatcher hsys
  | execute _ _ hsys => exact System.dispatcher_of_execute hsys
  | @reply taskId worker timer execution now success s hr hsys =>
      have he : g.dispatcherEvent handlers (.reply taskId worker timer execution now)
          = some (.reply taskId worker timer success now) := by
        simp only [dispatcherEvent, hr, Option.map_some]
      rw [he]
      exact System.step_of_dispatcher hsys
  | register => rfl
  | service => rfl
  | restartService => rfl

/-- The system inside a reachable grid is a reachable system: what holds of all systems holds
in the grid. -/
theorem system_reachable (h : Reachable (step cfg ns handlers fleet) init g) :
    Reachable (System.step cfg handlers) .init g.system := by
  refine h.invariant (I := fun g => Reachable (System.step cfg handlers) .init g.system)
    (Reachable.init _) ?_
  intro g a g' _ hI hs
  rcases step_system hs with ⟨e, hsys⟩ | hsame
  · exact hI.tail hsys
  · rw [hsame]
    exact hI

/-- Its dispatcher is a reachable dispatcher. -/
theorem dispatcher_reachable (h : Reachable (step cfg ns handlers fleet) init g) :
    Reachable (Dispatcher.step cfg) .init g.system.dispatcher :=
  System.dispatcher_reachable (system_reachable h)

end Grid

end TaskGrid
