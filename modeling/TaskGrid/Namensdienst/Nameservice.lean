/-
  TaskGrid.Namensdienst.Nameservice — nameservice.py and its worker.py.

  The registry is a list of entries, one for each task type of a worker, in
  the order of insertion.  A handler runs to its end before the next one
  starts, and so does a pass of the monitor loop; a handler reads the clock
  once.  Clock readings are exact rationals.

  `registrations` is history: no handler reads it.
-/
import TaskGrid.Proto.Messages
import TaskGrid.Lib.Transition
import Mathlib.Algebra.Order.Ring.Rat

namespace TaskGrid

open TaskGrid.Lib

/-! ## §1. Messages. -/

/-- RegisterWorkerRequest.Payload -/
structure RegisterWorkerPayload where
  workerId : String
  taskTypes : List String
  address : String
  port : Int32Field
  status : String := ""
  currentLoad : Int32Field := .default
  deriving DecidableEq

/-- HeartbeatRequest.Payload -/
structure HeartbeatPayload where
  workerId : String
  currentLoad : Int32Field := .default
  status : String := ""
  deriving DecidableEq

/-- DeregisterWorkerRequest.Payload -/
structure DeregisterWorkerPayload where
  workerId : String
  deriving DecidableEq

/-- LookupRequest.Payload -/
structure LookupPayload where
  taskType : String
  deriving DecidableEq

/-- LookupResponse.WorkerPayload -/
structure WorkerPayload where
  workerId : String
  taskTypes : List String
  address : String
  port : Int32Field
  status : String
  currentLoad : Int32Field
  deriving DecidableEq

/-- LookupResponse.Payload -/
structure LookupResponsePayload where
  found : Bool
  workers : List WorkerPayload
  message : String
  deriving DecidableEq

/-! ## §2. The registry. -/

/-- `Worker`: one entry of the registry. -/
structure Worker where
  type : String
  address : String
  port : Int32Field
  id : Nat
  workerId : String
  taskTypes : List String
  lastHeartbeat : ℚ
  status : String
  currentLoad : Int32Field
  deriving DecidableEq

/-- `Namensdienst`, with the accepted registrations in order. -/
structure Namensdienst where
  workers : List Worker
  idcount : Nat
  registrations : List RegisterWorkerPayload

/-- The arguments of `startLoop`: NAMESERVICE_UNHEALTHY_SECS and NAMESERVICE_OFFLINE_MULT. -/
structure LoopConfig where
  x : Int
  y : Int

/-- `payload.status or "ACTIVE"` -/
def statusOrActive (status : String) : String := if status = "" then "ACTIVE" else status

/-- `list(payload.task_types) or ["unknown"]` -/
def RegisterWorkerPayload.effectiveTypes (p : RegisterWorkerPayload) : List String :=
  if p.taskTypes = [] then ["unknown"] else p.taskTypes

/-- The entry a registration creates for one of its types. -/
def RegisterWorkerPayload.entry (p : RegisterWorkerPayload) (now : ℚ) (taskType : String)
    (id : Nat) : Worker where
  type := taskType
  address := p.address
  port := p.port
  id := id
  workerId := p.workerId
  taskTypes := p.effectiveTypes
  lastHeartbeat := now
  status := statusOrActive p.status
  currentLoad := p.currentLoad

/-- The loop of RegisterWorker: one entry for each task type, numbered from the counter on. -/
def RegisterWorkerPayload.newEntries (p : RegisterWorkerPayload) (now : ℚ) :
    Nat → List String → List Worker
  | _, [] => []
  | idcount, taskType :: rest =>
      p.entry now taskType idcount :: p.newEntries now (idcount + 1) rest

/-- The entry is one a registration replaces: same worker id, address and port. -/
def RegisterWorkerPayload.replaces (p : RegisterWorkerPayload) (w : Worker) : Bool :=
  w.workerId = p.workerId && w.address = p.address && w.port = p.port

/-- An entry after a heartbeat. -/
def Worker.refreshed (w : Worker) (p : HeartbeatPayload) (now : ℚ) : Worker :=
  { w with
    lastHeartbeat := now
    currentLoad := p.currentLoad
    status := statusOrActive p.status }

/-- LookupWorker hands the entry out. -/
def Worker.isDiscoverable (w : Worker) : Bool := w.status ≠ "UNHEALTHY" && w.status ≠ "OFFLINE"

/-- The WorkerPayload LookupWorker builds from an entry. -/
def Worker.payload (w : Worker) : WorkerPayload where
  workerId := w.workerId
  taskTypes := w.taskTypes
  address := w.address
  port := w.port
  status := w.status
  currentLoad := w.currentLoad

/-- The Ack of a request without a worker id. -/
def workerIdMissing : Reply AckPayload where
  code := .invalidArgument
  details := "worker_id darf nicht leer sein"
  message := { payload := { success := false, message := "worker_id missing" } }

/-- An Ack of the naming service. -/
def nsAck (success : Bool) (message : String) : Reply AckPayload where
  message := { payload := { success := success, message := message } }

namespace Namensdienst

/-- The registry after start-up. -/
def init : Namensdienst := ⟨[], 0, []⟩

/-- `Namensdienst.RegisterWorker` -/
def registerWorker (s : Namensdienst) (request : Envelope RegisterWorkerPayload) (now : ℚ) :
    Namensdienst × Reply AckPayload :=
  let payload := request.payload
  if payload.workerId = "" then (s, workerIdMissing)
  else
    -- entries of the same worker id at another address or port stay
    let kept := s.workers.filter fun w => !payload.replaces w
    let taskTypes := payload.effectiveTypes
    ({ workers := kept ++ payload.newEntries now s.idcount taskTypes
       idcount := s.idcount + taskTypes.length
       registrations := s.registrations ++ [payload] }, nsAck true "Worker registered")

/-- The entries LookupWorker selects. -/
def lookupEntries (s : Namensdienst) (taskType : String) : List Worker :=
  s.workers.filter fun w => w.type = taskType && w.isDiscoverable

/-- `Namensdienst.LookupWorker` -/
def lookupWorker (s : Namensdienst) (request : Envelope LookupPayload) :
    Reply LookupResponsePayload :=
  let result := s.lookupEntries request.payload.taskType
  { message := { payload := {
      found := !result.isEmpty
      workers := result.map Worker.payload
      message := if result.isEmpty then "No workers found" else "Workers found" } } }

/-- The workers LookupWorker lists for a task type. -/
def lookup (s : Namensdienst) (taskType : String) : List WorkerPayload :=
  (s.lookupWorker { payload := ⟨taskType⟩ }).message.payload.workers

/-- `Namensdienst.DeregisterWorker` -/
def deregisterWorker (s : Namensdienst) (request : Envelope DeregisterWorkerPayload) :
    Namensdienst × Reply AckPayload :=
  let payload := request.payload
  let removed := s.workers.filter fun w => w.workerId = payload.workerId
  ({ s with workers := s.workers.filter fun w => w.workerId ≠ payload.workerId },
    nsAck (!removed.isEmpty) (if removed.isEmpty then "Worker not found" else "Worker deregistered"))

/-- The loop of SendHeartbeat: it returns at the first entry of the worker. -/
def refreshFirst (p : HeartbeatPayload) (now : ℚ) : List Worker → List Worker
  | [] => []
  | w :: rest =>
      if w.workerId = p.workerId then w.refreshed p now :: rest
      else w :: refreshFirst p now rest

/-- `Namensdienst.SendHeartbeat` -/
def sendHeartbeat (s : Namensdienst) (request : Envelope HeartbeatPayload) (now : ℚ) :
    Namensdienst × Reply AckPayload :=
  let payload := request.payload
  if payload.workerId = "" then (s, workerIdMissing)
  else if s.workers.any fun w => w.workerId = payload.workerId then
    ({ s with workers := refreshFirst payload now s.workers }, nsAck true "Heartbeat received")
  else (s, nsAck false "Worker not found")

/-- The body of the monitor loop for one entry: the entry afterwards, or none when it is
removed. -/
def monitorEntry (cfg : LoopConfig) (now : ℚ) (w : Worker) : Option Worker :=
  let elapsed := now - w.lastHeartbeat
  let w := if elapsed ≥ (cfg.x : ℚ) then { w with status := "UNHEALTHY" } else w
  -- OFFLINE is written to an object that leaves the list in the same pass
  if elapsed ≥ ((cfg.x * cfg.y : Int) : ℚ) then none else some w

/-- One pass of the monitor loop.  It iterates over a copy and removes the object it looks
at, so every entry is treated once and on its own. -/
def monitorPass (cfg : LoopConfig) (s : Namensdienst) (now : ℚ) : Namensdienst :=
  { s with workers := s.workers.filterMap (monitorEntry cfg now) }

end Namensdienst

/-! ## §3. The step function. -/

/-- The labels of the steps.  LookupWorker changes nothing, so it is no step. -/
inductive NsEvent where
  | registerWorker (request : Envelope RegisterWorkerPayload) (now : ℚ)
  | deregisterWorker (request : Envelope DeregisterWorkerPayload)
  | sendHeartbeat (request : Envelope HeartbeatPayload) (now : ℚ)
  | monitorPass (now : ℚ)

/-- One step of the naming service. -/
def Namensdienst.step (cfg : LoopConfig) (s : Namensdienst) : NsEvent → Option Namensdienst
  | .registerWorker request now => some (s.registerWorker request now).1
  | .deregisterWorker request => some (s.deregisterWorker request).1
  | .sendHeartbeat request now => some (s.sendHeartbeat request now).1
  | .monitorPass now => some (s.monitorPass cfg now)

end TaskGrid
