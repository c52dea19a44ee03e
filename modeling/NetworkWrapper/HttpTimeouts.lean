import NetworkWrapper.HttpAnswers

set_option autoImplicit false

-- A peer that sends nothing, or reads nothing, does not keep its connection.
namespace NetworkWrapper

def Operation.remaining : Operation → Nat
  | .unstarted => 2
  | .outstanding => 2
  | .completed _ => 1
  | .delivered => 0

@[simp] theorem Operation.remaining_unstarted : Operation.remaining .unstarted = 2 := rfl
@[simp] theorem Operation.remaining_outstanding : Operation.remaining .outstanding = 2 := rfl
@[simp] theorem Operation.remaining_completed (ec : ErrorCode) : Operation.remaining (.completed ec) = 1 := rfl
@[simp] theorem Operation.remaining_delivered : Operation.remaining .delivered = 0 := rfl

theorem Operation.remaining_cancel (operation : Operation) : operation.cancel.remaining ≤ operation.remaining := by
  cases operation <;> simp [Operation.cancel]

namespace HttpConnection

def remaining (connection : HttpConnection) : Nat :=
  connection.reading.remaining + connection.writing.remaining + connection.waiting.remaining

-- Nothing holds a shared pointer to the connection any more.
def finished (connection : HttpConnection) : Bool :=
  !connection.reading.pending && !connection.writing.pending && !connection.waiting.pending

end HttpConnection

structure Guarded (now : Nat) (past : List ConnectionEvent) (connection : HttpConnection) : Prop where
  started : connection.reading ≠ .unstarted ∧ connection.waiting ≠ .unstarted
  ordered : connection.writing ≠ .unstarted → connection.reading = .delivered
  due : connection.deadline ≤ now + HttpConnection.timeout
  late : connection.socketOpen = false → connection.deadline ≤ now
  expiry : connection.waiting = .completed none → connection.deadline ≤ now
  cancelled : ∀ what, connection.waiting = .completed (some what) → connection.writing = .delivered
  concluded : connection.waiting = .delivered → connection.socketOpen = false ∨ connection.writing = .delivered
  closed : connection.socketOpen = false → connection.reading ≠ .outstanding ∧ connection.writing ≠ .outstanding
  bounded : past.length + connection.remaining ≤ 6

theorem guarded_started (onConnectionCallback : Option OnConnection) (now : Nat) :
    Guarded now [] ((HttpConnection.construct now).start onConnectionCallback) := by
  constructor <;> simp [HttpConnection.start, HttpConnection.readRequest, HttpConnection.checkConnectionTimeout,
    HttpConnection.construct, HttpConnection.remaining]

theorem guarded_later (now : Nat) (past : List ConnectionEvent) (connection : HttpConnection)
    (guarded : Guarded now past connection) : Guarded (now + 1) past connection :=
  { guarded with
    due := by have due := guarded.due; omega
    late := fun closed => Nat.le_succ_of_le (guarded.late closed)
    expiry := fun expired => Nat.le_succ_of_le (guarded.expiry expired) }

theorem guarded_closed (now : Nat) (past : List ConnectionEvent) (connection : HttpConnection)
    (event : ConnectionEvent) (guarded : Guarded now past connection) (expired : connection.waiting = .completed none) :
    Guarded now (past ++ [event]) { connection with waiting := .delivered }.close := by
  obtain ⟨⟨reads, _⟩, ordered, due, late, expiry, cancelled, concluded, closed, bounded⟩ := guarded
  have deadline := expiry expired
  refine ⟨⟨by simpa [HttpConnection.close] using reads, by simp [HttpConnection.close]⟩, ?_, due,
    fun _ => deadline, ?_, ?_,
    fun _ => .inl rfl, fun _ => ?_, ?_⟩
  · simpa [HttpConnection.close] using ordered
  · simp [HttpConnection.close]
  · simp [HttpConnection.close]
  · simp [HttpConnection.close]
  · have read := Operation.remaining_cancel connection.reading
    have written := Operation.remaining_cancel connection.writing
    simp only [HttpConnection.remaining, expired, Operation.remaining_completed] at bounded
    simp only [HttpConnection.remaining, HttpConnection.close, Operation.remaining_delivered, List.length_append,
      List.length_singleton]
    omega

theorem guarded_spent (now : Nat) (past : List ConnectionEvent) (connection next : HttpConnection)
    (event : ConnectionEvent) (guarded : Guarded now past connection) (spent : next.remaining + 1 ≤ connection.remaining) :
    (past ++ [event]).length + next.remaining ≤ 6 := by
  have bounded := guarded.bounded
  simp only [List.length_append, List.length_singleton]
  omega

theorem guarded_read (now : Nat) (past : List ConnectionEvent) (connection : HttpConnection) (ec : ErrorCode)
    (guarded : Guarded now past connection) (fresh : connection.responseBody = .fresh)
    (completed : connection.reading = .completed ec) :
    Guarded now (past ++ [.readDelivered]) ({ connection with reading := .delivered }.onRead ec).world := by
  have idle : connection.writing = .unstarted := by
    by_contra begun
    rw [guarded.ordered begun] at completed
    cases completed
  have unanswered (response : HttpResponse) : Guarded now (past ++ [.readDelivered])
      { connection with reading := .delivered, responseBody := response } :=
    { guarded with
      started := ⟨by simp, guarded.started.2⟩
      ordered := fun _ => rfl
      closed := fun _ => ⟨by simp, by simp [idle]⟩
      bounded := guarded_spent now past connection _ .readDelivered guarded (by
        simp only [HttpConnection.remaining, completed, Operation.remaining_completed, Operation.remaining_delivered]
        omega) }
  cases ec with
  | some what => exact unanswered connection.responseBody
  | none =>
      rcases process_request_cases { connection with reading := .delivered } fresh with
        ⟨answer, _, returned⟩ | ⟨response, threw, _⟩
      · rw [HttpConnection.onRead, returned]
        refine { unanswered answer.response with
          ordered := fun _ => rfl
          cancelled := fun what cancelled => ?_
          concluded := fun concluded => .inl ((guarded.concluded concluded).resolve_right (by simp [idle]))
          closed := fun closed => ⟨by simp, by simp [show connection.socketOpen = false from closed]⟩
          bounded := guarded_spent now past connection _ .readDelivered guarded ?_ }
        · have written := guarded.cancelled what cancelled
          rw [idle] at written
          cases written
        · simp only [HttpConnection.remaining, completed, idle, Operation.remaining_completed,
            Operation.remaining_delivered, Operation.remaining_unstarted, Outcome.world_returned]
          split
          · simp only [Operation.remaining_outstanding]
            omega
          · simp only [Operation.remaining_completed]
            omega
      · rw [HttpConnection.onRead, threw]
        exact unanswered response

theorem guarded_step (now : Nat) (past : List ConnectionEvent) (connection : HttpConnection) (event : ConnectionEvent)
    (outcome : Outcome HttpConnection) (guarded : Guarded now past connection)
    (fresh : connection.reading ≠ .delivered → connection.responseBody = .fresh)
    (taken : connectionStep now connection event = some outcome) : Guarded now (past ++ [event]) outcome.world := by
  cases event with
  | arrived requestBody =>
      simp only [connectionStep, Option.ite_none_right_eq_some, Option.some.injEq] at taken
      obtain ⟨reads, rfl⟩ := taken
      refine { guarded with
        started := ⟨by simp, guarded.started.2⟩
        ordered := fun begun => ?_
        closed := fun closed => ⟨by simp, (guarded.closed closed).2⟩
        bounded := guarded_spent now past connection _ _ guarded (by
          simp only [HttpConnection.remaining, reads, Outcome.world_returned, Operation.remaining_completed,
            Operation.remaining_outstanding]
          omega) }
      have delivered := guarded.ordered begun
      rw [reads] at delivered
      cases delivered
  | readFailed what =>
      simp only [connectionStep, Option.ite_none_right_eq_some, Option.some.injEq] at taken
      obtain ⟨reads, rfl⟩ := taken
      refine { guarded with
        started := ⟨by simp, guarded.started.2⟩
        ordered := fun begun => ?_
        closed := fun closed => ⟨by simp, (guarded.closed closed).2⟩
        bounded := guarded_spent now past connection _ _ guarded (by
          simp only [HttpConnection.remaining, reads, Outcome.world_returned, Operation.remaining_completed,
            Operation.remaining_outstanding]
          omega) }
      have delivered := guarded.ordered begun
      rw [reads] at delivered
      cases delivered
  | wrote ec =>
      simp only [connectionStep, Option.ite_none_right_eq_some, Option.some.injEq] at taken
      obtain ⟨writes, rfl⟩ := taken
      refine { guarded with
        ordered := fun _ => guarded.ordered (by rw [writes]; simp)
        cancelled := fun what cancelled => ?_
        concluded := fun concluded => .inl ((guarded.concluded concluded).resolve_right (by rw [writes]; simp))
        closed := fun closed => ⟨(guarded.closed closed).1, by simp⟩
        bounded := guarded_spent now past connection _ _ guarded (by
          simp only [HttpConnection.remaining, writes, Outcome.world_returned, Operation.remaining_completed,
            Operation.remaining_outstanding]
          omega) }
      have written := guarded.cancelled what cancelled
      rw [writes] at written
      cases written
  | expired =>
      simp only [connectionStep, Option.ite_none_right_eq_some, Option.some.injEq] at taken
      obtain ⟨⟨waits, deadline⟩, rfl⟩ := taken
      exact { guarded with
        started := ⟨guarded.started.1, by simp⟩
        expiry := fun _ => deadline
        cancelled := by simp
        concluded := by simp
        bounded := guarded_spent now past connection _ _ guarded (by simp [HttpConnection.remaining, waits]) }
  | readDelivered =>
      cases completed : connection.reading with
      | completed ec =>
          simp only [connectionStep, completed, Option.some.injEq] at taken
          subst outcome
          exact guarded_read now past connection ec guarded (fresh (by rw [completed]; simp)) completed
      | _ => simp [connectionStep, completed] at taken
  | writeDelivered shutdownError =>
      cases completed : connection.writing with
      | completed ec =>
          simp only [connectionStep, completed, Option.some.injEq] at taken
          subst outcome
          have read := guarded.ordered (by rw [completed]; simp)
          refine { guarded with
            started := ⟨guarded.started.1, by simpa [HttpConnection.onWrite] using guarded.started.2⟩
            ordered := fun _ => read
            expiry := by simpa [HttpConnection.onWrite] using guarded.expiry
            cancelled := fun _ _ => rfl
            concluded := fun _ => .inr rfl
            closed := fun closed => ⟨(guarded.closed closed).1, by simp [HttpConnection.onWrite]⟩
            bounded := guarded_spent now past connection _ _ guarded ?_ }
          have fewer := Operation.remaining_cancel connection.waiting
          simp only [HttpConnection.remaining, HttpConnection.onWrite, completed, Operation.remaining_completed,
            Operation.remaining_delivered, Outcome.world_returned]
          omega
      | _ => simp [connectionStep, completed] at taken
  | waitDelivered =>
      cases completed : connection.waiting with
      | completed ec =>
          simp only [connectionStep, completed, Option.some.injEq] at taken
          subst outcome
          cases ec with
          | none => exact guarded_closed now past connection .waitDelivered guarded completed
          | some what =>
              exact { guarded with
                started := ⟨guarded.started.1, by simp [HttpConnection.onWait]⟩
                expiry := by simp [HttpConnection.onWait]
                cancelled := by simp [HttpConnection.onWait]
                concluded := fun _ => .inr (guarded.cancelled what completed)
                bounded := guarded_spent now past connection _ _ guarded (by
                  simp [HttpConnection.remaining, HttpConnection.onWait, completed]) }
      | _ => simp [connectionStep, completed] at taken

theorem guarded_rule (onConnectionCallback : Option OnConnection) :
    ConnectionRule onConnectionCallback fun now past connection =>
      Answering onConnectionCallback past connection ∧ Guarded now past connection where
  begins := fun now => ⟨answering_started onConnectionCallback now, guarded_started onConnectionCallback now⟩
  passes := fun now past connection holds => ⟨holds.1, guarded_later now past connection holds.2⟩
  steps := fun now past connection event outcome holds taken =>
    ⟨answering_step onConnectionCallback now past connection event outcome holds.1 taken,
      guarded_step now past connection event outcome holds.2 (fun unread => (holds.1.untouched unread).2) taken⟩

def serversOwn : ConnectionEvent → Bool
  | .expired => true
  | .readDelivered => true
  | .writeDelivered _ => true
  | .waitDelivered => true
  | _ => false

theorem own_step_enabled (now : Nat) (past : List ConnectionEvent) (connection : HttpConnection)
    (guarded : Guarded now past connection) (due : connection.deadline ≤ now)
    (unfinished : connection.finished = false) :
    ∃ event outcome, serversOwn event = true ∧ connectionStep now connection event = some outcome := by
  cases waits : connection.waiting with
  | unstarted => exact absurd waits guarded.started.2
  | outstanding => exact ⟨.expired, _, rfl, if_pos ⟨waits, due⟩⟩
  | completed ec => exact ⟨.waitDelivered, _, rfl, by rw [connectionStep, waits]⟩
  | delivered =>
      cases reads : connection.reading with
      | unstarted => exact absurd reads guarded.started.1
      | completed ec => exact ⟨.readDelivered, _, rfl, by rw [connectionStep, reads]⟩
      | outstanding =>
          rcases guarded.concluded waits with closed | written
          · exact absurd reads (guarded.closed closed).1
          · have delivered := guarded.ordered (by rw [written]; simp)
            rw [reads] at delivered
            cases delivered
      | delivered =>
          cases writes : connection.writing with
          | completed ec => exact ⟨.writeDelivered none, _, rfl, by rw [connectionStep, writes]⟩
          | outstanding =>
              rcases guarded.concluded waits with closed | written
              · exact absurd writes (guarded.closed closed).2
              · rw [writes] at written
                cases written
          | unstarted => simp [HttpConnection.finished, Operation.pending, waits, reads, writes] at unfinished
          | delivered => simp [HttpConnection.finished, Operation.pending, waits, reads, writes] at unfinished

theorem deadline_kept (now : Nat) (connection : HttpConnection) (event : ConnectionEvent)
    (outcome : Outcome HttpConnection) (taken : connectionStep now connection event = some outcome) :
    outcome.world.deadline = connection.deadline := by
  cases event with
  | readDelivered =>
      cases completed : connection.reading with
      | completed ec =>
          simp only [connectionStep, completed, Option.some.injEq] at taken
          subst outcome
          cases ec with
          | some what => rfl
          | none =>
              simp only [HttpConnection.onRead, HttpConnection.processRequest]
              split
              · rfl
              · next onConnection _ =>
                  cases onConnection connection.requestBody connection.responseBody <;> rfl
      | _ => simp [connectionStep, completed] at taken
  | writeDelivered shutdownError =>
      cases completed : connection.writing with
      | completed ec =>
          simp only [connectionStep, completed, Option.some.injEq] at taken
          subst outcome
          rfl
      | _ => simp [connectionStep, completed] at taken
  | waitDelivered =>
      cases completed : connection.waiting with
      | completed ec =>
          simp only [connectionStep, completed, Option.some.injEq] at taken
          subst outcome
          cases ec <;> rfl
      | _ => simp [connectionStep, completed] at taken
  | _ =>
      simp only [connectionStep, Option.ite_none_right_eq_some, Option.some.injEq] at taken
      rw [← taken.2]
      rfl

theorem spent_finished (now : Nat) (past : List ConnectionEvent) (connection : HttpConnection)
    (guarded : Guarded now past connection) (spent : 6 ≤ past.length) : connection.finished = true := by
  have bounded := guarded.bounded
  have nothing : connection.remaining = 0 := by omega
  unfold HttpConnection.remaining at nothing
  unfold HttpConnection.finished
  cases reads : connection.reading <;> cases writes : connection.writing <;> cases waits : connection.waiting <;>
    simp_all [Operation.pending]

theorem connection_reclaimed (onConnectionCallback : Option OnConnection) (responsive : Responsive onConnectionCallback)
    (index budget : Nat) (serving : HttpServing) (connection : HttpConnection) (past : List ConnectionEvent)
    (there : serving.connections[index]? = some connection) (answering : Answering onConnectionCallback past connection)
    (guarded : Guarded serving.now past connection) (due : connection.deadline ≤ serving.now)
    (enough : 6 ≤ past.length + budget) :
    ∃ (handlers : List ConnectionEvent) (final : HttpServing) (reclaimed : HttpConnection), handlers.all serversOwn = true ∧
      Transition.run httpStep ⟨serving, .running⟩ (handlers.map (.connection index)) = some ⟨final, .running⟩ ∧
      final.connections[index]? = some reclaimed ∧ reclaimed.finished = true := by
  induction budget generalizing serving connection past with
  | zero => exact ⟨[], serving, connection, rfl, rfl, there, spent_finished serving.now past connection guarded enough⟩
  | succ budget ih =>
      cases concluded : connection.finished with
      | true => exact ⟨[], serving, connection, rfl, rfl, there, concluded⟩
      | false =>
          obtain ⟨event, outcome, own, stepped⟩ := own_step_enabled serving.now past connection guarded due concluded
          obtain ⟨next, rfl⟩ := connection_responsive onConnectionCallback serving.now connection event outcome responsive
            answering.callback stepped
          have kept := (guarded_rule onConnectionCallback).steps serving.now past connection event _
            ⟨answering, guarded⟩ stepped
          have deadline := deadline_kept serving.now connection event _ stepped
          have within := (List.getElem?_eq_some_iff.mp there).1
          let moved : HttpServing := { serving with connections := serving.connections.set index next }
          have taken : httpStep ⟨serving, .running⟩ (.connection index event) = some ⟨moved, .running⟩ := by
            simp only [httpStep, there, Option.bind_some, stepped, Option.map_some, Outcome.map_returned, settle, moved]
          obtain ⟨handlers, final, reclaimed, theirs, ran, stays, finished⟩ := ih moved next (past ++ [event])
            (by simp [moved, within]) kept.1 kept.2 (deadline ▸ due)
            (by simp only [List.length_append, List.length_singleton]; omega)
          refine ⟨event :: handlers, final, reclaimed, by simp [own, theirs], ?_, stays, finished⟩
          exact (Transition.run_cons _ _ _ _ _).mpr ⟨⟨moved, .running⟩, taken, ran⟩

theorem seconds_pass (serving : HttpServing) (seconds : Nat) :
    Transition.run httpStep ⟨serving, .running⟩ (List.replicate seconds .secondPassed) =
      some ⟨{ serving with now := serving.now + seconds }, .running⟩ := by
  induction seconds generalizing serving with
  | zero => rfl
  | succ seconds ih =>
      refine (Transition.run_cons _ _ _ _ _).mpr ⟨_, rfl, ?_⟩
      rw [ih]
      simp only [Nat.add_assoc, Nat.add_comm 1 seconds]

theorem finished_guarded (now : Nat) (past : List ConnectionEvent) (connection : HttpConnection)
    (guarded : Guarded now past connection) (finished : connection.finished = true) :
    connection.socketOpen = false ∨ connection.writing = .delivered := by
  apply guarded.concluded
  simp only [HttpConnection.finished, Bool.and_eq_true] at finished
  cases waits : connection.waiting with
  | unstarted => exact absurd waits guarded.started.2
  | outstanding => simp [waits, Operation.pending] at finished
  | completed ec => simp [waits, Operation.pending] at finished
  | delivered => rfl

theorem awaited_guarded (now : Nat) (past : List ConnectionEvent) (connection : HttpConnection)
    (guarded : Guarded now past connection)
    (awaits : connection.reading = .outstanding ∨ connection.writing = .outstanding) :
    connection.waiting.pending = true := by
  cases waits : connection.waiting with
  | unstarted => exact absurd waits guarded.started.2
  | outstanding => rfl
  | completed ec => rfl
  | delivered =>
      rcases guarded.concluded waits with closed | written
      · exact absurd awaits (not_or.mpr (guarded.closed closed))
      · have read := guarded.ordered (by rw [written]; simp)
        simp [read, written] at awaits

theorem http_connection_reclaimed (server : HttpFileServer) (handled : server.customHandler ≠ none)
    (events : List HttpEvent) (serving : Process HttpServing)
    (reached : Transition.run httpStep (servingWith (some server.onNewConnection)) events = some serving)
    (index : Nat) (connection : HttpConnection) (there : serving.world.connections[index]? = some connection) :
    (ownEvents index events).length ≤ 6 ∧
    (connection.reading = .outstanding ∨ connection.writing = .outstanding → connection.waiting.pending = true) ∧
    (connection.socketOpen = false → connection.deadline ≤ serving.world.now) ∧
    ∃ (seconds : Nat) (handlers : List ConnectionEvent) (final : Process HttpServing) (reclaimed : HttpConnection),
      seconds ≤ HttpConnection.timeout ∧ handlers.all serversOwn = true ∧
      Transition.run httpStep serving
        (List.replicate seconds .secondPassed ++ handlers.map (.connection index)) = some final ∧
      final.world.connections[index]? = some reclaimed ∧ reclaimed.finished = true ∧
      (reclaimed.socketOpen = false ∨ reclaimed.writing = .delivered) := by
  have responsive := file_server_responsive server handled
  have running := responsive_runs _ events serving responsive reached
  obtain ⟨answering, guarded⟩ := (obeys_run _ _ (guarded_rule _) events serving reached).holds index connection there
  have bounded := guarded.bounded
  refine ⟨by omega, awaited_guarded _ _ connection guarded, guarded.late, ?_⟩
  obtain ⟨world, ending⟩ := serving
  obtain rfl : ending = .running := running
  have due : connection.deadline ≤ world.now + HttpConnection.timeout := guarded.due
  let seconds := connection.deadline - world.now
  let later : HttpServing := { world with now := world.now + seconds }
  have waited : Transition.run httpStep ⟨world, .running⟩ (List.replicate seconds .secondPassed) =
      some ⟨later, .running⟩ := seconds_pass world seconds
  have longer := (Transition.run_append _ _ _ _ _).mpr ⟨_, reached, waited⟩
  obtain ⟨stillAnswering, stillGuarded⟩ := (obeys_run _ _ (guarded_rule _) _ _ longer).holds index connection there
  obtain ⟨handlers, final, reclaimed, own, ran, stays, finished⟩ := connection_reclaimed _ responsive index 6 later
    connection _ there stillAnswering stillGuarded (by simp only [later, seconds]; omega) (Nat.le_add_left _ _)
  have whole := (Transition.run_append _ _ _ _ _).mpr ⟨_, longer, ran⟩
  obtain ⟨_, after⟩ := (obeys_run _ _ (guarded_rule _) _ _ whole).holds index reclaimed stays
  exact ⟨seconds, handlers, ⟨final, .running⟩, reclaimed, by simp only [seconds]; omega, own,
    (Transition.run_append _ _ _ _ _).mpr ⟨_, waited, ran⟩, stays, finished,
    finished_guarded _ _ reclaimed after finished⟩

theorem http_connection_silent_reclaimed :
    ∃ serving connection, Transition.run httpStep (servingWith (some configServer.onNewConnection))
        [.accepted, .secondPassed] = some serving ∧
      serving.world.connections[0]? = some connection ∧ connection.reading = .outstanding ∧
      ∃ (seconds : Nat) (handlers : List ConnectionEvent) (final : Process HttpServing) (reclaimed : HttpConnection),
        seconds ≤ 60 ∧ Transition.run httpStep serving
          (List.replicate seconds .secondPassed ++ handlers.map (.connection 0)) = some final ∧
        final.world.connections[0]? = some reclaimed ∧ reclaimed.finished = true := by
  obtain ⟨_, _, _, seconds, handlers, final, reclaimed, soon, _, ran, there, finished, _⟩ :=
    http_connection_reclaimed configServer (Option.some_ne_none _) [.accepted, .secondPassed] _ rfl 0 _ rfl
  exact ⟨_, _, rfl, rfl, rfl, seconds, handlers, final, reclaimed, soon, ran, there, finished⟩

end NetworkWrapper
