import NetworkWrapper.HttpConnections

set_option autoImplicit false

namespace NetworkWrapper

def Answers (onConnectionCallback : Option OnConnection) (request : HttpRequest) (answer : HttpAnswer) : Prop :=
  match onConnectionCallback with
  | none => answer = ⟨.fresh, 0⟩
  | some onConnection =>
      ∃ response, onConnection request .fresh = .returned response ∧ answer = ⟨response, response.body.length⟩

structure Answering (onConnectionCallback : Option OnConnection) (past : List ConnectionEvent)
    (connection : HttpConnection) : Prop where
  callback : connection.onConnectionCallback = onConnectionCallback
  started : connection.reading ≠ .unstarted
  arrived : connection.reading = .completed none → .arrived connection.requestBody ∈ past
  untouched : connection.reading ≠ .delivered → connection.writing = .unstarted ∧ connection.responseBody = .fresh
  answered : connection.writing ≠ .unstarted → .arrived connection.requestBody ∈ past ∧
    Answers onConnectionCallback connection.requestBody ⟨connection.responseBody, connection.contentLength⟩
  unsent : connection.writing = .unstarted ∨ connection.writing = .outstanding → connection.transmitted = []
  sent : connection.transmitted = [] ∨ connection.transmitted = [⟨connection.responseBody, connection.contentLength⟩]

theorem answering_started (onConnectionCallback : Option OnConnection) (now : Nat) :
    Answering onConnectionCallback [] ((HttpConnection.construct now).start onConnectionCallback) :=
  ⟨rfl, by simp [HttpConnection.start, HttpConnection.readRequest, HttpConnection.checkConnectionTimeout],
    by simp [HttpConnection.start, HttpConnection.readRequest, HttpConnection.checkConnectionTimeout],
    fun _ => ⟨rfl, rfl⟩, fun contrary => absurd rfl contrary, fun _ => rfl, .inl rfl⟩

theorem answering_longer (onConnectionCallback : Option OnConnection) (past : List ConnectionEvent)
    (event : ConnectionEvent) (connection : HttpConnection) (answering : Answering onConnectionCallback past connection) :
    Answering onConnectionCallback (past ++ [event]) connection :=
  { answering with
    arrived := fun completed => List.mem_append_left _ (answering.arrived completed)
    answered := fun begun => ⟨List.mem_append_left _ (answering.answered begun).1, (answering.answered begun).2⟩ }

theorem process_request_cases (connection : HttpConnection) (fresh : connection.responseBody = .fresh) :
    (∃ answer, Answers connection.onConnectionCallback connection.requestBody answer ∧
      connection.processRequest = .returned { connection with
        responseBody := answer.response
        contentLength := answer.contentLength
        writing := if connection.socketOpen then .outstanding else .completed badDescriptor }) ∨
    ∃ response, connection.processRequest.world = { connection with responseBody := response } ∧
      ∀ next, connection.processRequest ≠ .returned next := by
  cases given : connection.onConnectionCallback with
  | none =>
      refine .inl ⟨⟨.fresh, 0⟩, rfl, ?_⟩
      simp only [HttpConnection.processRequest, given, HttpConnection.writeResponse, fresh]
      rfl
  | some onConnection =>
      simp only [HttpConnection.processRequest, given, fresh]
      cases answer : onConnection connection.requestBody .fresh with
      | returned response =>
          refine .inl ⟨⟨response, response.body.length⟩, ⟨response, answer, rfl⟩, ?_⟩
          simp only [Outcome.map_returned, Outcome.returned_and_then, HttpConnection.writeResponse]
      | threw what response => exact .inr ⟨response, by simp [Outcome.map], by simp [Outcome.map]⟩
      | undefined response => exact .inr ⟨response, by simp [Outcome.map], by simp [Outcome.map]⟩

theorem answering_read (onConnectionCallback : Option OnConnection) (past : List ConnectionEvent)
    (connection : HttpConnection) (ec : ErrorCode) (answering : Answering onConnectionCallback past connection)
    (completed : connection.reading = .completed ec) :
    Answering onConnectionCallback past ({ connection with reading := .delivered }.onRead ec).world := by
  obtain ⟨idle, fresh⟩ := answering.untouched (by rw [completed]; simp)
  have nothing := answering.unsent (.inl idle)
  -- a read that failed, or a callback that threw, leaves the connection unanswered
  have unanswered (response : HttpResponse) :
      Answering onConnectionCallback past { connection with reading := .delivered, responseBody := response } :=
    ⟨answering.callback, by simp, by simp, by simp, fun begun => absurd idle begun, fun _ => nothing, .inl nothing⟩
  cases ec with
  | some what =>
      have same := unanswered connection.responseBody
      exact same
  | none =>
      have arrived := answering.arrived completed
      rcases process_request_cases { connection with reading := .delivered } fresh with
        ⟨answer, answers, returned⟩ | ⟨response, threw, _⟩
      · rw [HttpConnection.onRead, returned]
        have given : Answers onConnectionCallback connection.requestBody answer := answering.callback ▸ answers
        exact ⟨answering.callback, by simp, by simp, by simp, fun _ => ⟨arrived, given⟩, fun _ => nothing, .inl nothing⟩
      · rw [HttpConnection.onRead, threw]
        exact unanswered response

theorem answering_closed (onConnectionCallback : Option OnConnection) (past : List ConnectionEvent)
    (connection : HttpConnection) (answering : Answering onConnectionCallback past connection) :
    Answering onConnectionCallback past connection.close := by
  obtain ⟨callback, started, arrived, untouched, answered, unsent, sent⟩ := answering
  refine ⟨callback, ?_, ?_, ?_, ?_, ?_, sent⟩
  · simpa [HttpConnection.close] using started
  · simpa [HttpConnection.close] using arrived
  · simpa [HttpConnection.close] using untouched
  · simpa [HttpConnection.close] using answered
  · simpa [HttpConnection.close] using fun idle => unsent (.inl idle)

theorem answering_step (onConnectionCallback : Option OnConnection) (now : Nat) (past : List ConnectionEvent)
    (connection : HttpConnection) (event : ConnectionEvent) (outcome : Outcome HttpConnection)
    (answering : Answering onConnectionCallback past connection)
    (taken : connectionStep now connection event = some outcome) :
    Answering onConnectionCallback (past ++ [event]) outcome.world := by
  have longer := answering_longer onConnectionCallback past event connection answering
  cases event with
  | arrived requestBody =>
      simp only [connectionStep, Option.ite_none_right_eq_some, Option.some.injEq] at taken
      obtain ⟨reads, rfl⟩ := taken
      obtain ⟨idle, fresh⟩ := longer.untouched (by rw [reads]; simp)
      exact ⟨longer.callback, by simp, fun _ => List.mem_append_right _ List.mem_cons_self, fun _ => ⟨idle, fresh⟩,
        fun begun => absurd idle begun, longer.unsent, longer.sent⟩
  | readFailed what =>
      simp only [connectionStep, Option.ite_none_right_eq_some, Option.some.injEq] at taken
      obtain ⟨reads, rfl⟩ := taken
      have before := longer.untouched (by rw [reads]; simp)
      exact { longer with started := by simp, arrived := by simp, untouched := fun _ => before }
  | wrote ec =>
      simp only [connectionStep, Option.ite_none_right_eq_some, Option.some.injEq] at taken
      obtain ⟨writes, rfl⟩ := taken
      have nothing := longer.unsent (.inr writes)
      have begun := longer.answered (by rw [writes]; simp)
      refine { longer with
        untouched := fun unread => ?_
        answered := fun _ => begun
        unsent := by simp
        sent := ?_ }
      · have idle := (longer.untouched unread).1
        rw [writes] at idle
        cases idle
      · by_cases succeeded : ec = none
        · exact .inr (by simp [succeeded, nothing])
        · exact .inl (by simp [succeeded, nothing])
  | expired =>
      simp only [connectionStep, Option.ite_none_right_eq_some, Option.some.injEq] at taken
      obtain ⟨_, rfl⟩ := taken
      exact { longer with }
  | readDelivered =>
      cases completed : connection.reading with
      | completed ec =>
          simp only [connectionStep, completed, Option.some.injEq] at taken
          subst outcome
          exact answering_read onConnectionCallback _ connection ec longer completed
      | _ => simp [connectionStep, completed] at taken
  | writeDelivered shutdownError =>
      cases completed : connection.writing with
      | completed ec =>
          simp only [connectionStep, completed, Option.some.injEq] at taken
          subst outcome
          have begun := longer.answered (by rw [completed]; simp)
          refine { longer with
            untouched := fun unread => ?_
            answered := fun _ => begun
            unsent := by simp [HttpConnection.onWrite] }
          have idle := (longer.untouched unread).1
          rw [completed] at idle
          cases idle
      | _ => simp [connectionStep, completed] at taken
  | waitDelivered =>
      cases completed : connection.waiting with
      | completed ec =>
          simp only [connectionStep, completed, Option.some.injEq] at taken
          subst outcome
          cases ec with
          | some what => exact { longer with }
          | none => exact answering_closed onConnectionCallback _ _ { longer with }
      | _ => simp [connectionStep, completed] at taken

theorem answering_rule (onConnectionCallback : Option OnConnection) :
    ConnectionRule onConnectionCallback fun _ past connection => Answering onConnectionCallback past connection where
  begins := answering_started onConnectionCallback
  passes := fun _ _ _ answering => answering
  steps := fun now past connection event outcome => answering_step onConnectionCallback now past connection event outcome

theorem own_event_member (index : Nat) (events : List HttpEvent) (event : ConnectionEvent) :
    event ∈ ownEvents index events ↔ .connection index event ∈ events := by
  simp only [ownEvents, List.mem_filterMap]
  constructor
  · rintro ⟨listed, member, own⟩
    cases listed with
    | secondPassed => cases own
    | accepted => cases own
    | connection other step =>
        simp only [Option.ite_none_right_eq_some, Option.some.injEq] at own
        obtain ⟨rfl, rfl⟩ := own
        exact member
  · exact fun member => ⟨_, member, by simp⟩

theorem answers_run (onConnectionCallback : Option OnConnection) (events : List HttpEvent)
    (final : Process HttpServing)
    (reached : Transition.run httpStep (servingWith onConnectionCallback) events = some final)
    (index : Nat) (connection : HttpConnection) (there : final.world.connections[index]? = some connection) :
    connection.transmitted.length ≤ 1 ∧
      ∀ answer ∈ connection.transmitted, ∃ request, .connection index (.arrived request) ∈ events ∧
        Answers onConnectionCallback request answer := by
  have answering := (obeys_run onConnectionCallback _ (answering_rule onConnectionCallback) events final reached).holds
    index connection there
  rcases answering.sent with nothing | once
  · simp [nothing]
  · refine ⟨by rw [once]; exact Nat.le_refl _, fun answer member => ?_⟩
    rw [once] at member
    obtain rfl := List.mem_singleton.mp member
    have begun : connection.writing ≠ .unstarted := by
      intro idle
      rw [answering.unsent (.inl idle)] at once
      cases once
    obtain ⟨arrived, answers⟩ := answering.answered begun
    exact ⟨connection.requestBody, (own_event_member index events _).mp arrived, answers⟩

def OneRequest (past : List ConnectionEvent) (connection : HttpConnection) : Prop :=
  ∀ request, .arrived request ∈ past →
    connection.requestBody = request ∧ connection.reading ≠ .unstarted ∧ connection.reading ≠ .outstanding

theorem on_read_request (ec : ErrorCode) (connection : HttpConnection) :
    (connection.onRead ec).world.requestBody = connection.requestBody ∧
      (connection.onRead ec).world.reading = connection.reading := by
  cases ec with
  | some what => exact ⟨rfl, rfl⟩
  | none =>
      cases given : connection.onConnectionCallback with
      | none => simp only [HttpConnection.onRead, HttpConnection.processRequest, given, Outcome.world,
          HttpConnection.writeResponse, and_self]
      | some onConnection =>
          cases answer : onConnection connection.requestBody connection.responseBody <;>
            simp only [HttpConnection.onRead, HttpConnection.processRequest, given, answer, Outcome.map, Outcome.andThen,
              Outcome.world, HttpConnection.writeResponse, and_self]

theorem request_kept (now : Nat) (connection : HttpConnection) (event : ConnectionEvent)
    (outcome : Outcome HttpConnection) (taken : connectionStep now connection event = some outcome) :
    (∃ request, event = .arrived request ∧ connection.reading = .outstanding ∧
      outcome.world.requestBody = request ∧ outcome.world.reading = .completed none) ∨
    (∀ request, event ≠ .arrived request) ∧ outcome.world.requestBody = connection.requestBody ∧
      (outcome.world.reading = .unstarted ∨ outcome.world.reading = .outstanding →
        outcome.world.reading = connection.reading) := by
  cases event with
  | arrived request =>
      simp only [connectionStep, Option.ite_none_right_eq_some, Option.some.injEq] at taken
      obtain ⟨reads, rfl⟩ := taken
      exact .inl ⟨request, rfl, reads, rfl, rfl⟩
  | readFailed what =>
      simp only [connectionStep, Option.ite_none_right_eq_some, Option.some.injEq] at taken
      obtain ⟨reads, rfl⟩ := taken
      exact .inr ⟨by simp, rfl, by simp [Outcome.world]⟩
  | wrote ec =>
      simp only [connectionStep, Option.ite_none_right_eq_some, Option.some.injEq] at taken
      obtain ⟨_, rfl⟩ := taken
      exact .inr ⟨by simp, rfl, fun _ => rfl⟩
  | expired =>
      simp only [connectionStep, Option.ite_none_right_eq_some, Option.some.injEq] at taken
      obtain ⟨_, rfl⟩ := taken
      exact .inr ⟨by simp, rfl, fun _ => rfl⟩
  | readDelivered =>
      cases completed : connection.reading with
      | completed ec =>
          simp only [connectionStep, completed, Option.some.injEq] at taken
          subst outcome
          obtain ⟨same, delivered⟩ := on_read_request ec { connection with reading := .delivered }
          exact .inr ⟨by simp, same, by simp [delivered]⟩
      | _ => simp [connectionStep, completed] at taken
  | writeDelivered shutdownError =>
      cases completed : connection.writing with
      | completed ec =>
          simp only [connectionStep, completed, Option.some.injEq] at taken
          subst outcome
          exact .inr ⟨by simp, rfl, fun _ => rfl⟩
      | _ => simp [connectionStep, completed] at taken
  | waitDelivered =>
      cases completed : connection.waiting with
      | completed ec =>
          simp only [connectionStep, completed, Option.some.injEq] at taken
          subst outcome
          cases ec with
          | some what => exact .inr ⟨by simp, rfl, fun _ => rfl⟩
          | none =>
              refine .inr ⟨by simp, rfl, ?_⟩
              simp only [HttpConnection.onWait, HttpConnection.close, Outcome.world, Operation.cancel_unstarted]
              rintro (unstarted | outstanding)
              · rw [unstarted]
                rfl
              · exact absurd outstanding (Operation.cancel_outstanding _)
      | _ => simp [connectionStep, completed] at taken

theorem one_request_rule (onConnectionCallback : Option OnConnection) :
    ConnectionRule onConnectionCallback fun _ past connection => OneRequest past connection where
  begins := fun _ request none => by cases none
  passes := fun _ _ _ one => one
  steps := fun now past connection event outcome one taken request arrived => by
    rcases request_kept now connection event outcome taken with
      ⟨latest, rfl, reads, body, completed⟩ | ⟨other, body, reading⟩
    · -- an earlier request would have ended the read that this one completes
      have first : ∀ earlier, .arrived earlier ∉ past := fun earlier before => (one earlier before).2.2 reads
      rcases List.mem_append.mp arrived with before | now
      · exact absurd before (first request)
      · cases List.mem_singleton.mp now
        exact ⟨body, by simp [completed], by simp [completed]⟩
    · rcases List.mem_append.mp arrived with before | now
      · obtain ⟨same, started, ended⟩ := one request before
        exact ⟨body.trans same, fun unstarted => started ((reading (.inl unstarted)).symm.trans unstarted),
          fun outstanding => ended ((reading (.inr outstanding)).symm.trans outstanding)⟩
      · exact absurd (List.mem_singleton.mp now).symm (other request)

theorem transmitted_answers_request (onConnectionCallback : Option OnConnection) (events : List HttpEvent)
    (final : Process HttpServing)
    (reached : Transition.run httpStep (servingWith onConnectionCallback) events = some final)
    (index : Nat) (connection : HttpConnection) (there : final.world.connections[index]? = some connection)
    (request : HttpRequest) (arrived : .connection index (.arrived request) ∈ events) :
    ∀ answer ∈ connection.transmitted, Answers onConnectionCallback request answer := by
  have one := (obeys_run onConnectionCallback _ (one_request_rule onConnectionCallback) events final reached).holds
    index connection there request ((own_event_member index events _).mpr arrived)
  intro answer member
  obtain ⟨other, arrivedToo, answers⟩ :=
    (answers_run onConnectionCallback events final reached index connection there).2 answer member
  have same := (obeys_run onConnectionCallback _ (one_request_rule onConnectionCallback) events final reached).holds
    index connection there other ((own_event_member index events _).mpr arrivedToo)
  rw [← one.1, same.1]
  exact answers

def Responsive (onConnectionCallback : Option OnConnection) : Prop :=
  ∀ onConnection, onConnectionCallback = some onConnection →
    ∀ request response, ∃ next, onConnection request response = .returned next

theorem file_server_responsive (server : HttpFileServer) (handled : server.customHandler ≠ none) :
    Responsive (some server.onNewConnection) := by
  rintro onConnection same request response
  cases same
  obtain ⟨customHandler, given⟩ := Option.ne_none_iff_exists'.mp handled
  simp only [HttpFileServer.onNewConnection, HttpFileServer.onGetRequest, given]
  split
  · split
    · exact ⟨_, rfl⟩
    · split <;> exact ⟨_, rfl⟩
  · exact ⟨_, rfl⟩

theorem read_responsive (onConnectionCallback : Option OnConnection) (connection : HttpConnection) (ec : ErrorCode)
    (responsive : Responsive onConnectionCallback) (callback : connection.onConnectionCallback = onConnectionCallback) :
    ∃ next, connection.onRead ec = .returned next := by
  cases ec with
  | some what => exact ⟨_, rfl⟩
  | none =>
      cases given : connection.onConnectionCallback with
      | none => exact ⟨_, by rw [HttpConnection.onRead, HttpConnection.processRequest, given]⟩
      | some onConnection =>
          obtain ⟨response, answer⟩ := responsive onConnection (callback.symm.trans given) connection.requestBody
            connection.responseBody
          exact ⟨_, by simp only [HttpConnection.onRead, HttpConnection.processRequest, given, answer, Outcome.map_returned,
            Outcome.returned_and_then]; rfl⟩

theorem connection_responsive (onConnectionCallback : Option OnConnection) (now : Nat) (connection : HttpConnection)
    (event : ConnectionEvent) (outcome : Outcome HttpConnection) (responsive : Responsive onConnectionCallback)
    (callback : connection.onConnectionCallback = onConnectionCallback)
    (taken : connectionStep now connection event = some outcome) : ∃ next, outcome = .returned next := by
  cases event with
  | readDelivered =>
      cases completed : connection.reading with
      | completed ec =>
          simp only [connectionStep, completed, Option.some.injEq] at taken
          subst outcome
          exact read_responsive onConnectionCallback _ ec responsive callback
      | _ => simp [connectionStep, completed] at taken
  | writeDelivered shutdownError =>
      cases completed : connection.writing with
      | completed ec =>
          simp only [connectionStep, completed, Option.some.injEq] at taken
          exact ⟨_, taken.symm⟩
      | _ => simp [connectionStep, completed] at taken
  | waitDelivered =>
      cases completed : connection.waiting with
      | completed ec =>
          simp only [connectionStep, completed, Option.some.injEq] at taken
          exact ⟨_, taken.symm⟩
      | _ => simp [connectionStep, completed] at taken
  | _ =>
      simp only [connectionStep, Option.ite_none_right_eq_some, Option.some.injEq] at taken
      exact ⟨_, taken.2.symm⟩

theorem responsive_runs (onConnectionCallback : Option OnConnection) (events : List HttpEvent)
    (final : Process HttpServing) (responsive : Responsive onConnectionCallback)
    (reached : Transition.run httpStep (servingWith onConnectionCallback) events = some final) :
    final.ending = .running := by
  induction events using List.reverseRecOn generalizing final with
  | nil =>
      rw [Transition.run_nil] at reached
      subst final
      rfl
  | append_singleton events event ih =>
      obtain ⟨middle, before, taken⟩ := (Transition.run_snoc _ _ _ _ _).mp reached
      have obeys := obeys_run onConnectionCallback _ (answering_rule onConnectionCallback) events middle before
      obtain ⟨_, ⟨_, rfl⟩ | ⟨_, rfl⟩ | ⟨index, step, connection, outcome, _, there, stepped, rfl⟩⟩ :=
        http_step_cases middle final event taken
      · rfl
      · rfl
      · obtain ⟨next, rfl⟩ := connection_responsive onConnectionCallback _ connection step outcome responsive
          (obeys.holds index connection there).callback stepped
        rfl

theorem http_answers_exact (server : HttpFileServer) (handled : server.customHandler ≠ none) (events : List HttpEvent)
    (final : Process HttpServing)
    (reached : Transition.run httpStep (servingWith (some server.onNewConnection)) events = some final) :
    final.ending = .running ∧
      ∀ index connection, final.world.connections[index]? = some connection →
        connection.transmitted.length ≤ 1 ∧
          ∀ answer ∈ connection.transmitted, ∃ request, .connection index (.arrived request) ∈ events ∧
            server.onNewConnection request .fresh = .returned answer.response ∧
            answer.contentLength = answer.response.body.length := by
  refine ⟨responsive_runs _ events final (file_server_responsive server handled) reached, fun index connection there => ?_⟩
  obtain ⟨once, answered⟩ := answers_run _ events final reached index connection there
  refine ⟨once, fun answer member => ?_⟩
  obtain ⟨request, arrived, response, answers, rfl⟩ := answered answer member
  exact ⟨request, arrived, answers, rfl⟩

def configServer : HttpFileServer := ⟨⟨utf8 "./files", []⟩, some (webSocketConfigHandler [123, 125])⟩

def configRequest (method : String) : HttpRequest :=
  { method := utf8 method, target := webSocketConfigPath, version := 11, fields := [] }

def askedTwice : List HttpEvent :=
  [.accepted, .accepted, .connection 1 (.arrived (configRequest "GET")), .connection 0 (.arrived (configRequest "PUT")),
    .connection 0 .readDelivered, .connection 1 .readDelivered, .connection 1 (.wrote none), .connection 0 (.wrote none),
    .connection 0 (.writeDelivered none), .connection 1 (.writeDelivered none)]

theorem http_answers_asked_twice :
    ∃ final, Transition.run httpStep (servingWith (some configServer.onNewConnection)) askedTwice = some final ∧
      final.ending = .running ∧ ∃ connection, final.world.connections[1]? = some connection ∧
        connection.transmitted.map (fun answer => (answer.response.body, answer.contentLength)) = [([123, 125], 2)] ∧
        connection.transmitted.length ≤ 1 := by
  have answered := http_answers_exact configServer (Option.some_ne_none _) askedTwice _ rfl
  exact ⟨_, rfl, answered.1, _, rfl, by decide, (answered.2 1 _ rfl).1⟩

end NetworkWrapper
