/-
  TaskGrid.Client.CommandLine — client.py: send_task and main.

  `readArgs` is `main` up to its call of `send_task` or `request_result`, and
  `mainFrom` is `main` with a dispatcher at the other end.  What a process
  prints is a list with one entry for each call of `print`.

  The lines a process can end with begin with different letters, so its last
  line tells what it has learned (`acceptedLine_inj`, `completed_of_line`).
-/
import TaskGrid.Client.Client
import TaskGrid.Worker.SumHandler

namespace TaskGrid

open TaskGrid.Lib

/-! ## §1. send_task. -/

/-- What `send_task` prints and returns. -/
structure SendOutput where
  printed : List String
  taskId : Option Int
  deriving DecidableEq

/-- The request `send_task` builds. -/
def postRequest (clientId requestId : String) (timestamp : Int) (taskType payload : String) :
    Envelope PostTaskPayload where
  messageType := "POST_TASK"
  requestId := requestId
  timestamp := timestamp
  sender := clientId
  payload := ⟨taskType, payload⟩

/-- The line `send_task` prints for an accepted task. -/
def acceptedLine (taskId : Int) : String :=
  "Task wurde angenommen. Task-ID: " ++ str taskId

/-- `send_task` of a client, with the PostTask call as its argument. -/
def sendTask (call : Envelope PostTaskPayload → Except RpcError (Envelope PostTaskResponsePayload))
    (clientId requestId : String) (timestamp : Int) (taskType payload : String) : SendOutput :=
  match call (postRequest clientId requestId timestamp taskType payload) with
  | .error error => ⟨["Verbindungsfehler zum Dispatcher: " ++ error.describe], none⟩
  | .ok response =>
      if response.payload.success then
        ⟨[acceptedLine response.payload.taskId.val], some response.payload.taskId.val⟩
      else ⟨["Fehler: " ++ response.payload.message], none⟩

/-! ## §2. main. -/

/-- What `main` does after it has looked at its arguments. -/
inductive Command where
  /-- It prints these lines and returns. -/
  | complain (lines : List String)
  | send (taskType payload : String)
  | result (taskId : Int)
  deriving DecidableEq

/-- `main` up to its call, on `sys.argv[1:]`. -/
def readArgs : List String → Command
  | [] => .complain [
      "Nutzung:",
      "Task senden:    python -m src.client.client send <task_type> <payload>",
      "Ergebnis holen: python -m src.client.client result <task_id>"]
  | command :: args =>
      if command = "send" then
        match args with
        | taskType :: word :: words => .send taskType (" ".intercalate (word :: words))
        | _ => .complain [
            "Fehler: Für \"send\" brauchst du <task_type> und <payload>",
            "Beispiel: python -m src.client.client send reverse \"Hallo\""]
      else if command = "result" then
        match args with
        | [] => .complain [
            "Fehler: Für \"result\" brauchst du eine <task_id>",
            "Beispiel: python -m src.client.client result 42"]
        | arg :: _ =>
            match parseIntLimited arg.toList with
            | none => .complain ["Fehler: task_id muss eine Zahl sein"]
            | some taskId => .result taskId
      else .complain ["Unbekannter Befehl: " ++ command, "Erlaubt sind: send, result"]

/-! ## §3. A process of the client. -/

/-- One run of the program, with how its call ends.  `error` is what gRPC raises when there is
no response. -/
structure Invocation where
  args : List String
  clientId : String
  requestId : String
  timestamp : Int
  delivery : Delivery
  error : RpcError
  /-- The clock of the dispatcher. -/
  now : Int

/-- What the caller gets of an answer that is on its way. -/
def Invocation.receive {π : Type} (i : Invocation) (answer : Except RpcError (Envelope π)) :
    Except RpcError (Envelope π) :=
  if i.delivery = .answered then answer else .error i.error

/-- The answer of PostTask.  An exception of the handler is one at the caller. -/
def Invocation.postAnswer (i : Invocation)
    (answer : Except PyError (Reply PostTaskResponsePayload)) :
    Except RpcError (Envelope PostTaskResponsePayload) :=
  match answer with
  | .error _ => .error i.error
  | .ok reply => i.receive reply.toCaller

/-- What a process prints when the dispatcher is in the state `d`. -/
def mainFrom (d : Dispatcher) (i : Invocation) : List String :=
  match readArgs i.args with
  | .complain lines => lines
  | .send taskType payload =>
      (sendTask (fun request => i.postAnswer (d.postTask request i.now).2) i.clientId i.requestId
        i.timestamp taskType payload).printed
  | .result taskId =>
      (requestResult (fun request => i.receive (d.getResult request i.now).toCaller) i.clientId
        i.requestId i.timestamp taskId).printed

/-! ## §4. What the last line tells. -/

/-- A text begins with the letter its first part begins with. -/
theorem head?_append {p : String} {c : Char} (h : p.toList.head? = some c) (q : String) :
    (p ++ q).toList.head? = some c := by
  rw [String.toList_append, List.head?_append, h, Option.some_or]

/-- Lines that begin with different letters differ. -/
theorem line_ne {p q : String} {c d : Char} (hp : p.toList.head? = some c)
    (hq : q.toList.head? = some d) (hne : c ≠ d) : p ≠ q := by
  rintro rfl
  rw [hp, Option.some.injEq] at hq
  exact hne hq

theorem acceptedLine_inj {m n : Int} (h : acceptedLine m = acceptedLine n) : m = n :=
  str_injective ((String.append_right_inj _).mp h)

variable {clientId requestId : String} {timestamp : Int}

/-- A process that ends with a task id has been given it. -/
theorem accepted_of_line {taskType payload : String} {n : Int}
    {call : Envelope PostTaskPayload → Except RpcError (Envelope PostTaskResponsePayload)}
    (h : (sendTask call clientId requestId timestamp taskType payload).printed.getLast?
      = some (acceptedLine n)) :
    ∃ response, call (postRequest clientId requestId timestamp taskType payload) = .ok response ∧
      response.payload.success = true ∧ response.payload.taskId.val = n := by
  have hfirst : (acceptedLine n).toList.head? = some 'T' := head?_append rfl _
  unfold sendTask at h
  split at h
  · simp only [List.getLast?_singleton, Option.some.injEq] at h
    exact absurd h (line_ne (c := 'V') (head?_append rfl _) hfirst (by decide))
  · rename_i response hcall
    split at h
    · rename_i hsuccess
      exact ⟨response, hcall, hsuccess, acceptedLine_inj (Option.some.inj h)⟩
    · simp only [List.getLast?_singleton, Option.some.injEq] at h
      exact absurd h (line_ne (c := 'F') (head?_append rfl _) hfirst (by decide))

/-- The line `request_result` ends with for a COMPLETED task. -/
def completedLine (result : String) : String := "Ergebnis: " ++ result

/-- Of the lines `showResult` can end with, only the one with the result begins with an E. -/
theorem completed_of_showResult {taskId : Int} {result : String}
    {response : Envelope ResultResponsePayload}
    (h : (showResult taskId response).printed.getLast? = some (completedLine result)) :
    response.payload.found = true ∧ response.payload.status = "COMPLETED" ∧
      response.payload.result = result := by
  have hfirst : (completedLine result).toList.head? = some 'E' := head?_append rfl _
  unfold showResult at h
  simp only [] at h
  split at h
  · -- not found
    rw [List.getLast?_concat, Option.some.injEq] at h
    exact absurd h (line_ne (c := 'T') (by decide) hfirst (by decide))
  · rename_i hfound
    split at h
    · rename_i hstatus
      rw [List.getLast?_concat, Option.some.injEq] at h
      exact ⟨by simpa using hfound, hstatus, (String.append_right_inj _).mp h⟩
    · repeat' split at h
      all_goals rw [List.getLast?_concat, Option.some.injEq] at h
      · exact absurd h (line_ne (c := 'F') (head?_append rfl _) hfirst (by decide))
      · exact absurd h (line_ne (c := 'T') (head?_append (head?_append rfl _) _) hfirst (by decide))
      · exact absurd h (line_ne (c := 'T') (head?_append rfl _) hfirst (by decide))
      · exact absurd h (line_ne (c := 'U') (head?_append rfl _) hfirst (by decide))

/-- The request `request_result` builds. -/
def getRequest (clientId requestId : String) (timestamp : Int) (field : Int32Field) :
    Envelope GetResultPayload where
  messageType := "GET_RESULT"
  requestId := requestId
  timestamp := timestamp
  sender := clientId
  payload := { taskId := field }

/-- A process that ends with a result has been given it. -/
theorem completed_of_line {taskId : Int} {result : String}
    {call : Envelope GetResultPayload → Except RpcError (Envelope ResultResponsePayload)}
    (h : (requestResult call clientId requestId timestamp taskId).printed.getLast?
      = some (completedLine result)) :
    ∃ field response, encodeInt32 taskId = .ok field ∧
      call (getRequest clientId requestId timestamp field) = .ok response ∧
      response.payload.found = true ∧ response.payload.status = "COMPLETED" ∧
      response.payload.result = result := by
  have hfirst : (completedLine result).toList.head? = some 'E' := head?_append rfl _
  unfold requestResult at h
  split at h
  · simp only [List.getLast?_singleton, Option.some.injEq] at h
    exact absurd h (line_ne (c := 'U') (head?_append rfl _) hfirst (by decide))
  · rename_i field he
    split at h
    · simp only [List.getLast?_singleton, Option.some.injEq] at h
      exact absurd h (line_ne (c := 'V') (head?_append rfl _) hfirst (by decide))
    · rename_i response hcall
      exact ⟨field, response, he, hcall, completed_of_showResult h⟩

end TaskGrid
