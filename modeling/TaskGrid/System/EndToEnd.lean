/-
  TaskGrid.System.EndToEnd — GetResult answers what the handler computes.

  Within one dispatcher lifetime every ExecuteTask request, every COMPLETED
  report on the wire and every COMPLETED record can be traced back to the
  one PostTask call that was answered with the id (`Traced`).  `traced_step`
  preserves the trace over every step of the system; `result_correct` reads
  it off at a GetResult.
-/
import TaskGrid.Dispatcher.Work
import TaskGrid.System.System

namespace TaskGrid

open TaskGrid.Lib

/-! ## §1. PostTask calls and the records they leave. -/

/-- The posts answered with an id match the record of that id: one post with its type and
payload when there is a record, none otherwise. -/
def PostsMatch (posts : List Post) (d : Dispatcher) : Prop :=
  ∀ n : Int32Field,
    (d.store.get (str n.val) = none → posts.filter (Post.answeredWith n) = []) ∧
    ∀ task, d.store.get (str n.val) = some task →
      ∃ p, posts.filter (Post.answeredWith n) = [p] ∧
        p.request.payload = ⟨task.taskType, task.payload⟩

namespace Dispatcher

variable {cfg : Config} {a b d : Dispatcher}

/-- The response to an accepted task answers with its id, if the id fits; else the call
raises and no id is answered. -/
theorem answeredWith_postTaskResponse (request : Envelope PostTaskPayload) (n : Int32Field)
    (k now : Int) :
    Post.answeredWith n ⟨request, postTaskResponse request (str k) now⟩ = true ↔ n.val = k := by
  unfold Post.answeredWith postTaskResponse
  simp only [int?_str]
  cases he : encodeInt32 k with
  | error err =>
      simp only [Bool.false_eq_true, false_iff]
      intro hn
      rw [← hn, encodeInt32_val] at he
      cases he
  | ok m =>
      simp only [Bool.true_and, decide_eq_true_eq]
      constructor
      · intro h
        rw [← h]
        exact val_of_encodeInt32 he
      · intro hn
        rw [← hn, encodeInt32_val, Except.ok.injEq] at he
        exact he.symm

/-- **What PostTask answers.**  Either it stores nothing and no id is given out, or it
stores the request under the next number, which is the id it answers with. -/
theorem answer_postTask (d : Dispatcher) (request : Envelope PostTaskPayload) (now : Int) :
    ((d.postTask request now).1 = d ∧
        ∀ n, Post.answeredWith n ⟨request, (d.postTask request now).2⟩ = false) ∨
      ((d.postTask request now).1.store.get (str ((d.taskIdCounter + 1 : Nat) : Int))
          = some (Task.posted (str ((d.taskIdCounter + 1 : Nat) : Int)) request.payload now) ∧
        ∀ n : Int32Field, Post.answeredWith n ⟨request, (d.postTask request now).2⟩ = true
          ↔ n.val = ((d.taskIdCounter + 1 : Nat) : Int)) := by
  rcases postTask_cases d request now with ⟨details, hd⟩ | hd
  · rw [hd]
    exact .inl ⟨rfl, fun _ => rfl⟩
  · rw [hd]
    refine .inr ⟨?_, ?_⟩
    · show (d.store.put _).get _ = _
      rw [Keyed.get_put]
      exact if_pos rfl
    · exact fun n => answeredWith_postTaskResponse request n _ now

/-- A step that is no PostTask leaves the posts matching. -/
theorem postsMatch_of_step {posts : List Post} (ha : Reachable (step cfg) init a) {e : Event}
    (hs : a.step cfg e = some b) (hp : ∀ request now, e ≠ .postTask request now)
    (h : PostsMatch posts a) : PostsMatch posts b := by
  intro n
  obtain ⟨hnone, hsome⟩ := h n
  cases hg : a.store.get (str n.val) with
  | none =>
      have hslot := slotStep_of_reachable ha hs (str n.val)
      rw [slot_eq_empty_of_none ha hg] at hslot
      have hb : b.store.get (str n.val) = none := by
        rw [← slot_task, hslot.of_empty hp]
        rfl
      refine ⟨fun _ => hnone hg, ?_⟩
      intro task hg'
      rw [hb] at hg'
      cases hg'
  | some task =>
      obtain ⟨task', hg', hw⟩ := sameWork_of_step ha hs hg
      obtain ⟨p, hfilter, hpay⟩ := hsome task hg
      refine ⟨?_, ?_⟩
      · intro hnone'
        rw [hg'] at hnone'
        cases hnone'
      · intro task'' hg''
        rw [hg', Option.some.injEq] at hg''
        rw [← hg'']
        exact ⟨p, hfilter, by rw [hpay, hw.taskType, hw.payload]⟩

/-- PostTask leaves the posts, its own call included, matching. -/
theorem postsMatch_postTask {posts : List Post} (ha : Reachable (step cfg) init a)
    (request : Envelope PostTaskPayload) (now : Int) (h : PostsMatch posts a) :
    PostsMatch (posts ++ [⟨request, (a.postTask request now).2⟩])
      (a.postTask request now).1 := by
  intro n
  obtain ⟨hnone, hsome⟩ := h n
  rcases answer_postTask a request now with ⟨hd, hans⟩ | ⟨hget, hans⟩
  · -- turned down: the call answers with no id
    rw [hd, List.filter_append, List.filter_cons_of_neg (by rw [hans n]; decide),
      List.filter_nil, List.append_nil]
    exact ⟨hnone, hsome⟩
  · by_cases hn : n.val = ((a.taskIdCounter + 1 : Nat) : Int)
    · -- the new id: nobody was answered with it before
      have hfresh : a.store.get (str n.val) = none := by
        rw [hn, ← slot_task, (numbered_of_reachable ha).next_empty]
        rfl
      rw [List.filter_append, hnone hfresh, List.filter_cons_of_pos ((hans n).mpr hn),
        List.filter_nil, hn, hget]
      refine ⟨?_, ?_⟩
      · intro hnone'
        cases hnone'
      · intro task htask
        rw [Option.some.injEq] at htask
        rw [← htask]
        exact ⟨_, rfl, rfl⟩
    · -- another id: neither its record nor its posts change
      have hne : str ((a.taskIdCounter + 1 : Nat) : Int) ≠ str n.val := by
        intro heq
        exact hn (str_injective heq).symm
      have hsame : (a.postTask request now).1.store.get (str n.val)
          = a.store.get (str n.val) :=
        congrArg Slot.task (slot_postTask_ne a request now hne)
      have hneg : ¬ Post.answeredWith n ⟨request, (a.postTask request now).2⟩ = true :=
        fun h => hn ((hans n).mp h)
      rw [hsame, List.filter_append, List.filter_cons_of_neg hneg, List.filter_nil,
        List.append_nil]
      exact ⟨hnone, hsome⟩

end Dispatcher

/-! ## §2. The trace. -/

/-- Every COMPLETED report and every COMPLETED record carries what the handler computes for
the task, and the posts match the records. -/
structure Traced (handlers : Handlers) (s : System) : Prop where
  surviving : s.surviving = []
  posts : PostsMatch s.posts s.dispatcher
  results : ∀ r ∈ s.results, r.2.payload.status = "COMPLETED" →
    ∃ task, s.dispatcher.store.get (str r.2.payload.taskId.val) = some task ∧
      Computes handlers task.taskType task.payload r.2.payload.result
  records : ∀ t task, s.dispatcher.store.get t = some task → task.status = .completed →
    Computes handlers task.taskType task.payload task.result

namespace System

variable {cfg : Config} {handlers : Handlers} {s s' : System}

theorem traced_init : Traced handlers init :=
  ⟨rfl, fun _ => ⟨fun _ => rfl, fun _ h => nomatch h⟩, fun _ h => (nomatch h),
    fun _ _ h => nomatch h⟩

/-- A step of the dispatcher keeps the results and the records traced, if the report it
takes in is one of the results. -/
theorem traced_dispatcher {e : Event} {d : Dispatcher}
    (ha : Reachable (Dispatcher.step cfg) .init s.dispatcher)
    (hs : s.dispatcher.step cfg e = some d) (h : Traced handlers s)
    (hresult : ∀ request now, e = .returnResult request now →
      ∃ epoch, (epoch, request) ∈ s.results) :
    (∀ r ∈ s.results, r.2.payload.status = "COMPLETED" →
      ∃ task, d.store.get (str r.2.payload.taskId.val) = some task ∧
        Computes handlers task.taskType task.payload r.2.payload.result) ∧
    ∀ t task, d.store.get t = some task → task.status = .completed →
      Computes handlers task.taskType task.payload task.result := by
  refine ⟨?_, ?_⟩
  · intro r hr hc
    obtain ⟨task, hg, hcomp⟩ := h.results r hr hc
    obtain ⟨task', hg', hw⟩ := Dispatcher.sameWork_of_step ha hs hg
    refine ⟨task', hg', ?_⟩
    rw [hw.taskType, hw.payload]
    exact hcomp
  · intro t task' hg' hc
    rcases Dispatcher.completed_cases ha hs hg' hc with hold |
      ⟨request, now, task, he, hid, hreport, hg, hres, hw⟩
    · exact h.records t task' hold hc
    · -- the result was on the wire, so it is the handler's
      obtain ⟨epoch, hmem⟩ := hresult request now he
      obtain ⟨task₀, hg₀, hcomp⟩ := h.results _ hmem hreport
      rw [hid, hg, Option.some.injEq] at hg₀
      rw [hw.taskType, hw.payload, hres, hg₀]
      exact hcomp

/-- A COMPLETED report of an execution carries what the handler computes for the record of its
task: the executed request was sent for the work of that record. -/
theorem traced_execute {epoch : Nat} {call : ExecuteCall} {worker : WorkerConfig}
    {isDraining : Bool} {first second : CallOutcome} {now : Int} {report : Envelope ResultPayload}
    (ha : Reachable (Dispatcher.step cfg) .init s.dispatcher) (h : Traced handlers s)
    (hmem : (epoch, call) ∈ s.calls)
    (hreport : report ∈
      (executeTask handlers worker isDraining call.request first second now).1)
    (hc : report.payload.status = "COMPLETED") :
    ∃ task, s.dispatcher.store.get (str report.payload.taskId.val) = some task ∧
      Computes handlers task.taskType task.payload report.payload.result := by
  -- without a restart every request on the wire is one of the running dispatcher
  have hsent : call ∈ s.dispatcher.sent := by
    unfold calls at hmem
    rw [h.surviving, List.nil_append, List.mem_map] at hmem
    obtain ⟨c, hc', heq⟩ := hmem
    injection heq with _ heq
    rw [← heq]
    exact hc'
  obtain ⟨task, hg, hasks⟩ := Dispatcher.asksFor_of_sent ha hsent
  obtain ⟨hid, hcomp⟩ := report_of_executeTask hreport
  refine ⟨task, ?_, ?_⟩
  · rw [hid]
    exact hg
  · have hwork := hcomp hc
    rw [hasks.1, hasks.2] at hwork
    exact hwork

/-- **Step lemma.**  Every step but a restart keeps the trace. -/
theorem traced_step {e : SystemEvent}
    (ha : Reachable (Dispatcher.step cfg) .init s.dispatcher)
    (hs : s.step cfg handlers e = some s') (he : e ≠ .restart) (h : Traced handlers s) :
    Traced handlers s' := by
  rcases step_cases hs he with ⟨e', d, _, hnr, hd, hs'⟩ | ⟨epoch, request, now, _, hmem, hs'⟩
    | ⟨epoch, call, worker, isDraining, first, second, now, _, hmem, hs'⟩
  · -- a step of the dispatcher that is no ReturnResult
    obtain ⟨hresults, hrecords⟩ := traced_dispatcher ha hd h (by
      intro request now heq
      rw [heq] at hnr
      cases hnr)
    rw [hs']
    refine ⟨h.surviving, ?_, hresults, hrecords⟩
    by_cases hp : ∃ request now, e' = .postTask request now
    · obtain ⟨request, now, heq⟩ := hp
      subst heq
      cases hd
      exact Dispatcher.postsMatch_postTask ha request now h.posts
    · have hp' : ∀ request now, e' ≠ .postTask request now :=
        fun request now heq => hp ⟨request, now, heq⟩
      have hnil : s.dispatcher.postOf e' = [] := by
        cases e' with
        | postTask request now => exact absurd rfl (hp' request now)
        | _ => rfl
      show PostsMatch (s.posts ++ s.dispatcher.postOf e') d
      rw [hnil, List.append_nil]
      exact Dispatcher.postsMatch_of_step ha hd hp' h.posts
  · -- a delivery: the report is one of the results on the wire
    have hd : s.dispatcher.step cfg (.returnResult request now)
        = some (s.dispatcher.returnResult request now).1 := rfl
    obtain ⟨hresults, hrecords⟩ := traced_dispatcher ha hd h (by
      intro request' now' heq
      injection heq with hreq
      exact ⟨epoch, hreq ▸ hmem⟩)
    rw [hs']
    exact ⟨h.surviving, Dispatcher.postsMatch_of_step ha hd (by intro r n heq; cases heq) h.posts,
      hresults, hrecords⟩
  · -- an execution puts new reports on the wire and changes nothing else
    rw [hs']
    refine ⟨h.surviving, h.posts, ?_, h.records⟩
    intro r hr hc
    rw [List.mem_append] at hr
    rcases hr with hr | hr
    · exact h.results r hr hc
    · rw [List.mem_map] at hr
      obtain ⟨report, hreport, hr⟩ := hr
      rw [← hr] at hc ⊢
      have hnew := traced_execute ha h hmem hreport hc
      exact hnew

/-- **Run lemma.**  Without a restart, everything stays traced. -/
theorem traced_run {es : List SystemEvent} (hlife : .restart ∉ es) :
    ∀ {s s' : System}, Reachable (Dispatcher.step cfg) .init s.dispatcher →
      Traced handlers s → run (step cfg handlers) s es = some s' → Traced handlers s' := by
  induction es with
  | nil =>
      intro s s' _ h hr
      rw [run_nil, Option.some.injEq] at hr
      exact hr ▸ h
  | cons e es ih =>
      intro s s' ha h hr
      obtain ⟨m, hm, hr⟩ := run_cons_eq_some.mp hr
      have he : e ≠ .restart := fun heq => hlife (heq ▸ List.mem_cons_self)
      exact ih (fun hmem => hlife (List.mem_cons_of_mem e hmem))
        (System.dispatcher_reachable_step hm he ha)
        (traced_step ha hm he h) hr

/-! ## §3. The main result. -/

/-- **End-to-end correctness within one dispatcher lifetime.**  Whenever GetResult answers
COMPLETED, exactly one PostTask call was answered with the id, and the result is what the
handler of its task type computes from its payload. -/
theorem result_correct {es : List SystemEvent} (hrun : run (step cfg handlers) init es = some s)
    (hlife : .restart ∉ es) (request : Envelope GetResultPayload) (now : Int)
    (hc : (s.dispatcher.getResult request now).message.payload.status = "COMPLETED") :
    ∃ post, s.posts.filter (Post.answeredWith request.payload.taskId) = [post] ∧
      Computes handlers post.request.payload.taskType post.request.payload.taskPayload
        (s.dispatcher.getResult request now).message.payload.result := by
  have htraced := traced_run hlife (Reachable.init _) traced_init hrun
  cases hg : s.dispatcher.store.get (str request.payload.taskId.val) with
  | none =>
      -- the answer would be NOT_FOUND
      unfold Dispatcher.getResult at hc
      simp only [hg] at hc
      exact absurd hc (by decide)
  | some task =>
      have hstatus : task.status = .completed := by
        unfold Dispatcher.getResult at hc
        simp only [hg] at hc
        cases hst : task.status <;> rw [hst] at hc <;> first | rfl | exact absurd hc (by decide)
      obtain ⟨post, hfilter, hpay⟩ := (htraced.posts request.payload.taskId).2 task hg
      refine ⟨post, hfilter, ?_⟩
      rw [Dispatcher.getResult_result rfl hg, hpay]
      exact htraced.records _ task hg hstatus

/-! ## §4. A run. -/

/-- The handler of one task type. -/
def sampleHandlers : Handlers := fun taskType =>
  if taskType = "reverse" then some fun payload => .ok (String.ofList payload.toList.reverse)
  else none

/-- The request `sampleDispatch` sends. -/
def sampleCall : ExecuteCall where
  worker := Dispatcher.sampleWorker
  request := {
    messageType := "EXECUTE_TASK"
    requestId := "1"
    timestamp := 1
    sender := "dispatcher"
    payload := ⟨Dispatcher.sampleTaskId, "reverse", "abc", "DISPATCHED"⟩ }

/-- A worker process for that type. -/
def sampleProcess : WorkerConfig := ⟨"w1", ["reverse"]⟩

/-- The report of the execution. -/
def sampleReport : Envelope ResultPayload := resultRequest sampleProcess sampleCall.request
  "cba" "COMPLETED" "" 2

/-- Post a task, dispatch it, run it and deliver the result twice. -/
def sampleLife : List SystemEvent :=
  Dispatcher.sampleDispatch.map .dispatcher ++
    [.execute 0 sampleCall sampleProcess false .returned .returned 2,
      .deliver 0 sampleReport 3, .deliver 0 sampleReport 4]

/-- The answer of this run traces back to its post. -/
theorem result_correct_sampleLife :
    ∃ s, run (step ⟨3⟩ sampleHandlers) init sampleLife = some s ∧
      ∃ post, s.posts.filter (Post.answeredWith Dispatcher.sampleTaskId) = [post] ∧
        Computes sampleHandlers post.request.payload.taskType post.request.payload.taskPayload
          (s.dispatcher.getResult
            { payload := ⟨Dispatcher.sampleTaskId⟩ } 5).message.payload.result := by
  refine ⟨_, rfl, ?_⟩
  exact @result_correct ⟨3⟩ sampleHandlers _ sampleLife rfl (by decide)
    { payload := ⟨Dispatcher.sampleTaskId⟩ } 5 rfl

end System

end TaskGrid
