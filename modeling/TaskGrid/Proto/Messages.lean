/-
  TaskGrid.Proto.Messages — the wire messages of proto/taskgrid.proto.

  Every message of the protocol is an envelope (message_type, request_id,
  timestamp, sender) around a payload.  An int32 field holds a value of the
  subtype `Int32Field`, so a message with an unencodable id cannot be built;
  assigning a Python int goes through `encodeInt32`, which raises ValueError
  as protobuf does.  Only the messages between client, dispatcher and worker
  are here; those of the naming service are in
  `TaskGrid.Namensdienst.Nameservice`.
-/
import Mathlib.Algebra.Group.Int.Defs

namespace TaskGrid

/-! ## §1. int32 fields. -/

/-- The Python exceptions the modelled code can let escape. -/
inductive PyError where
  | valueError (message : String)
  deriving DecidableEq, Repr

/-- A value an int32 field can hold. -/
structure Int32Field where
  val : Int
  lower : -2 ^ 31 ≤ val
  upper : val ≤ 2 ^ 31 - 1
  deriving DecidableEq

theorem Int32Field.val_injective {m n : Int32Field} (h : m.val = n.val) : m = n := by
  cases m
  cases n
  cases h
  rfl

/-- The default of an unset int32 field. -/
def Int32Field.default : Int32Field := ⟨0, by decide, by decide⟩

/-- Assign a Python int to an int32 field. -/
def encodeInt32 (n : Int) : Except PyError Int32Field :=
  if h : -2 ^ 31 ≤ n ∧ n ≤ 2 ^ 31 - 1 then .ok ⟨n, h.1, h.2⟩
  else .error (.valueError ("Value out of range: " ++ toString n))

theorem encodeInt32_val (n : Int32Field) : encodeInt32 n.val = .ok n := by
  unfold encodeInt32
  rw [dif_pos ⟨n.lower, n.upper⟩]

theorem val_of_encodeInt32 {n : Int} {m : Int32Field} (h : encodeInt32 n = .ok m) :
    m.val = n := by
  unfold encodeInt32 at h
  split at h
  · injection h with h
    rw [← h]
  · cases h

/-- Exactly the ints in the int32 range are accepted. -/
theorem encodeInt32_isOk_iff (n : Int) :
    (∃ m, encodeInt32 n = .ok m) ↔ -2 ^ 31 ≤ n ∧ n ≤ 2 ^ 31 - 1 := by
  unfold encodeInt32
  split
  · rename_i h
    exact ⟨fun _ => h, fun _ => ⟨_, rfl⟩⟩
  · rename_i h
    exact ⟨fun ⟨m, hm⟩ => (nomatch hm), fun h' => absurd h' h⟩

/-! ## §2. Envelopes and replies. -/

/-- A protocol message. -/
structure Envelope (π : Type) where
  messageType : String := ""
  requestId : String := ""
  timestamp : Int := 0
  sender : String := ""
  payload : π
  deriving DecidableEq

/-- The gRPC status codes the handlers set. -/
inductive StatusCode where
  | ok
  | invalidArgument
  | notFound
  deriving DecidableEq, Repr

/-- What a handler hands back to gRPC: the status of the context and the message. -/
structure Reply (π : Type) where
  code : StatusCode := .ok
  details : String := ""
  message : Envelope π
  deriving DecidableEq

/-- How a call ends for its caller: answered, with the answer lost on the way back, or without
having reached the handler. -/
inductive Delivery where
  | answered
  | answerLost
  | notDelivered
  deriving DecidableEq, Repr

/-- The handler has run. -/
def Delivery.reaches : Delivery → Bool
  | .answered | .answerLost => true
  | .notDelivered => false

/-! ## §3. Payloads. -/

/-- PostTaskRequest.Payload -/
structure PostTaskPayload where
  taskType : String
  taskPayload : String
  deriving DecidableEq

/-- PostTaskResponse.Payload -/
structure PostTaskResponsePayload where
  success : Bool := false
  taskId : Int32Field := .default
  status : String := ""
  message : String := ""
  deriving DecidableEq

/-- GetResultRequest.Payload -/
structure GetResultPayload where
  taskId : Int32Field
  deriving DecidableEq

/-- ResultResponse.Payload -/
structure ResultResponsePayload where
  found : Bool := false
  taskId : Int32Field := .default
  status : String := ""
  result : String := ""
  error : String := ""
  deriving DecidableEq

/-- TaskRequest.Payload, the argument of ExecuteTask -/
structure TaskPayload where
  taskId : Int32Field
  taskType : String
  taskPayload : String
  taskStatus : String
  deriving DecidableEq

/-- TaskResponse.Payload, the answer of ExecuteTask -/
structure TaskResponsePayload where
  accepted : Bool
  taskId : Int32Field
  workerId : String
  status : String
  error : String
  deriving DecidableEq

/-- ResultRequest.Payload, the argument of ReturnResult -/
structure ResultPayload where
  taskId : Int32Field
  workerId : String
  status : String
  result : String
  error : String
  deriving DecidableEq

/-- Ack.Payload -/
structure AckPayload where
  success : Bool := false
  message : String := ""
  deriving DecidableEq

end TaskGrid
