import NetworkWrapper.ServerRuns

set_option autoImplicit false

-- What a registered session of the single-threaded server can count on: a read
-- is outstanding, and a write whenever there is something to send.
namespace NetworkWrapper

open WebSocketSession WebSocketMainLogicServer

structure Serviced (reads : Nat) (buffer : Bytes) (session : WebSocketSession) : Prop where
  reading : session.pendingReads = reads
  filled : session.readBuffer = buffer
  writing : session.pendingWrites = session.sendBufferSafeQueue.buffersToSend.take 1

-- Nothing is promised to a session whose connection is lost.
structure Lively (session : WebSocketSession) : Prop where
  unstranded : session.useBoostStrands = false
  waiting : session.pendingAccepts ≠ 0 → Serviced 0 [] session
  served : HandshakeDone session → session.isConnected = true → Serviced 1 [] session

-- The session whose handler is running, before the handler reads again.
structure Midway (buffer : Bytes) (session : WebSocketSession) : Prop where
  unstranded : session.useBoostStrands = false
  accepted : session.pendingAccepts = 0
  serviced : session.isConnected = true → Serviced 0 buffer session

theorem written_strands (session : WebSocketSession) (data : Bytes) :
    (session.write data).world.useBoostStrands = session.useBoostStrands := by
  by_cases empty : data = []
  · rw [empty, write_empty]
    rfl
  · rw [write_nonempty session data empty, Outcome.world_returned, queued]
    split
    · rfl
    · split <;> rfl

theorem serviced_written (reads : Nat) (buffer : Bytes) (session : WebSocketSession) (data : Bytes)
    (unstranded : session.useBoostStrands = false) (serviced : Serviced reads buffer session) :
    Serviced reads buffer (session.write data).world := by
  obtain ⟨_, _, _, sameReads, sameBuffer⟩ := written_elsewhere session data
  refine ⟨sameReads.trans serviced.reading, sameBuffer.trans serviced.filled, ?_⟩
  by_cases empty : data = []
  · rw [empty, write_empty]
    exact serviced.writing
  · have writing := serviced.writing
    rw [write_nonempty session data empty, Outcome.world_returned]
    cases buffers : session.sendBufferSafeQueue.buffersToSend with
    | nil =>
        rw [buffers, List.take_nil] at writing
        simp [queued, buffers, unstranded, asyncWrite, writing]
    | cons front rest =>
        rw [buffers] at writing
        simp [queued, buffers, writing]

theorem lively_written (session : WebSocketSession) (data : Bytes) (lively : Lively session) :
    Lively (session.write data).world := by
  obtain ⟨sameBorn, sameConnected, sameAccepts, _, _⟩ := written_elsewhere session data
  refine ⟨(written_strands session data).trans lively.unstranded, fun waits => ?_, fun done connected => ?_⟩
  · rw [sameAccepts] at waits
    exact serviced_written 0 [] session data lively.unstranded (lively.waiting waits)
  · rw [sameConnected] at connected
    have before : HandshakeDone session := ⟨sameBorn ▸ done.1, sameAccepts ▸ done.2⟩
    exact serviced_written 1 [] session data lively.unstranded (lively.served before connected)

theorem midway_written (buffer : Bytes) (session : WebSocketSession) (data : Bytes) (midway : Midway buffer session) :
    Midway buffer (session.write data).world := by
  obtain ⟨_, sameConnected, sameAccepts, _, _⟩ := written_elsewhere session data
  refine ⟨(written_strands session data).trans midway.unstranded, sameAccepts.trans midway.accepted, fun connected => ?_⟩
  rw [sameConnected] at connected
  exact serviced_written 0 buffer session data midway.unstranded (midway.serviced connected)

theorem midway_cleared (buffer : Bytes) (session : WebSocketSession) (midway : Midway buffer session) :
    Midway [] { session with readBuffer := [] } := by
  refine ⟨midway.unstranded, midway.accepted, fun connected => ?_⟩
  have serviced := midway.serviced connected
  exact ⟨serviced.reading, rfl, serviced.writing⟩

theorem lively_read (session : WebSocketSession) (midway : Midway [] session) : Lively session.doRead := by
  refine ⟨midway.unstranded, fun waits => absurd midway.accepted waits, fun _ connected => ?_⟩
  have serviced := midway.serviced connected
  exact ⟨congrArg (· + 1) serviced.reading, serviced.filled, serviced.writing⟩

theorem lively_started (session : WebSocketSession) (midway : Midway [] session) :
    Lively (if session.useBoostStrands then session.post .doRead else session.doRead) := by
  rw [if_neg (by rw [midway.unstranded]; exact Bool.false_ne_true)]
  exact lively_read session midway

theorem lively_closed (session : WebSocketSession) (unstranded : session.useBoostStrands = false)
    (accepted : session.pendingAccepts = 0) : Lively { session with isConnected := false } :=
  ⟨unstranded, fun waits => absurd accepted waits, fun _ connected => by cases connected⟩

def MidwayFor (self : SessionId) (buffer : Bytes) (host : Sessions) : Prop :=
  ∀ other, if other = self then Midway buffer (host other) else Lively (host other)

theorem told_midway (self : SessionId) (buffer data : Bytes) (recipients : List SessionId) (host : Sessions)
    (before : MidwayFor self buffer host) : MidwayFor self buffer (deliverAll sessionDelivered recipients data host) := by
  apply deliver_all_keeps fun other session => if other = self then Midway buffer session else Lively session
  · intro target _ session holds
    by_cases own : target = self
    · rw [if_pos own] at holds ⊢
      exact midway_written buffer session data holds
    · rw [if_neg own] at holds ⊢
      exact lively_written session data holds
  · exact before

theorem told_lively (data : Bytes) (recipients : List SessionId) (host : Sessions) (before : ∀ other, Lively (host other)) :
    ∀ other, Lively (deliverAll sessionDelivered recipients data host other) :=
  deliver_all_keeps (fun _ session => Lively session) data recipients
    (fun _ _ session lively => lively_written session data lively) host before

theorem lively_update (host : Sessions) (self : SessionId) (session : WebSocketSession)
    (others : ∀ other, other ≠ self → Lively (host other)) (own : Lively session) :
    ∀ other, Lively (Function.update host self session other) := by
  intro other
  by_cases same : other = self
  · subst other
    rw [Function.update_self]
    exact own
  · rw [Function.update_of_ne same]
    exact others other same

theorem midway_update (host : Sessions) (self : SessionId) (buffer : Bytes) (session : WebSocketSession)
    (others : ∀ other, Lively (host other)) (own : Midway buffer session) :
    MidwayFor self buffer (Function.update host self session) := by
  intro other
  by_cases same : other = self
  · subst other
    rw [if_pos rfl, Function.update_self]
    exact own
  · rw [if_neg same, Function.update_of_ne same]
    exact others other

theorem midway_resumed (self : SessionId) (buffer : Bytes) (host : Sessions) (midway : MidwayFor self buffer host)
    (resumed : WebSocketSession) (lively : Midway buffer (host self) → Lively resumed) :
    ∀ other, Lively (Function.update host self resumed other) := by
  have own := midway self
  rw [if_pos rfl] at own
  refine lively_update host self resumed (fun other different => ?_) (lively own)
  have others := midway other
  rwa [if_neg different] at others

theorem accepted_lively (stale : Address → Option Int) (address : Address) (self : SessionId) (server next : Server)
    (healthy : Healthy server) (lively : ∀ other, Lively (server.host other))
    (pending : 0 < (server.host self).pendingAccepts)
    (returned : onAccept (boundCallbacks stale address) self none
      (server.update self { server.host self with pendingAccepts := (server.host self).pendingAccepts - 1 }) =
        .returned next) : ∀ other, Lively (next.host other) := by
  have serviced := (lively self).waiting (Nat.ne_of_gt pending)
  have single := ((healthy.lives self).handshake (Nat.ne_of_gt pending)).2.1
  have midway := midway_update server.host self []
    { server.host self with pendingAccepts := (server.host self).pendingAccepts - 1 } lively
    ⟨(lively self).unstranded, by simp only [single], fun _ => ⟨serviced.reading, serviced.filled, serviced.writing⟩⟩
  have greeted := told_midway self [] (welcomeText server.app.lastPlayerId) [self] _
    (told_midway self [] (newClientText server.app.lastPlayerId) server.app.allSessions _ midway)
  simp only [onAccept, boundCallbacks, on_new_client_returns _ _ session_writes, Outcome.returned_and_then, World.call,
    Outcome.map_returned, Outcome.returned.injEq] at returned
  subst next
  exact midway_resumed self [] _ greeted _ (lively_started _)

theorem received_lively (stale : Address → Option Int) (address : Address) (self : SessionId) (server next : Server)
    (message : Bytes) (healthy : Healthy server) (lively : ∀ other, Lively (server.host other))
    (pending : 0 < (server.host self).pendingReads)
    (returned : onRead (boundCallbacks stale address) self none (server.update self { server.host self with
      pendingReads := (server.host self).pendingReads - 1
      readBuffer := (server.host self).readBuffer ++ message }) = .returned next) :
    ∀ other, Lively (next.host other) := by
  have done := life_unborn _ _ (healthy.lives self) (.inl pending)
  have midway := midway_update server.host self ((server.host self).readBuffer ++ message) { server.host self with
      pendingReads := (server.host self).pendingReads - 1
      readBuffer := (server.host self).readBuffer ++ message } lively ⟨(lively self).unstranded, done.2, fun connected => by
    have serviced := (lively self).served done connected
    exact ⟨by simp only [serviced.reading], rfl, serviced.writing⟩⟩
  cases read : playerId stale self server.app with
  | none =>
      rw [received_undefined stale address self server _ read] at returned
      cases returned
  | some id =>
      have relayed := on_new_message_returns _ _ session_writes stale self ((server.host self).readBuffer ++ message)
        (server.update self { server.host self with
          pendingReads := (server.host self).pendingReads - 1
          readBuffer := (server.host self).readBuffer ++ message }) id read
      simp only [onRead, boundCallbacks, World.update_same] at returned
      rw [relayed] at returned
      simp only [Outcome.returned_and_then, World.call, Outcome.map_returned, Outcome.returned.injEq] at returned
      subst next
      refine midway_resumed self _ _ (told_midway self _ _ [self] _ (told_midway self _ _ _ _ midway)) _ fun own => ?_
      exact lively_read _ (midway_cleared _ _ own)

theorem wrote_lively (stale : Address → Option Int) (address : Address) (self : SessionId) (server next : Server) (index : Nat)
    (healthy : Healthy server) (lively : ∀ other, Lively (server.host other))
    (pending : index < (server.host self).pendingWrites.length)
    (returned : onWrite (boundCallbacks stale address) self none (server.update self
      { server.host self with pendingWrites := (server.host self).pendingWrites.eraseIdx index }) = .returned next) :
    ∀ other, Lively (next.host other) := by
  have writing : (server.host self).pendingWrites ≠ [] := List.ne_nil_of_length_pos (Nat.zero_lt_of_lt pending)
  have done := life_unborn _ _ (healthy.lives self) (.inr writing)
  obtain ⟨sent, rest, _, _, popped⟩ := sole_writer_sent (server.host self) (healthy.lives self).sole index pending
  simp only [onWrite, World.call, World.update_same, popped, Outcome.map_returned, Outcome.returned.injEq] at returned
  subst next
  refine lively_update _ self _ (fun other different => ?_) ?_
  · rw [World.update_other _ _ _ _ different]
    exact lively other
  · refine ⟨(lively self).unstranded, fun waits => absurd done.2 waits, fun _ connected => ?_⟩
    have serviced := (lively self).served done connected
    exact ⟨serviced.reading, serviced.filled, rfl⟩

theorem failed_lively (stale : Address → Option Int) (address : Address) (self : SessionId) (server next : Server)
    (session : WebSocketSession) (lively : ∀ other, Lively (server.host other))
    (returned : connectionError (boundCallbacks stale address) self (server.update self session) = .returned next)
    (unstranded : session.useBoostStrands = false) (accepted : session.pendingAccepts = 0) :
    ∀ other, Lively (next.host other) := by
  have closed : ∀ other, Lively (Function.update (Function.update server.host self session) self
      { session with isConnected := false } other) := by
    refine lively_update _ self _ (fun other different => ?_) (lively_closed session unstranded accepted)
    rw [Function.update_of_ne different]
    exact lively other
  let dropped := (server.update self session).update self { session with isConnected := false }
  have lost : onLostClient sessionWrite stale self dropped = .returned next := by
    simpa only [connectionError, boundCallbacks, World.update_same] using returned
  rcases on_lost_client_ends _ _ session_writes stale self dropped with ⟨id, rest, _, _, _, ends⟩ | ⟨_, ends⟩ | ends
  all_goals
    rw [ends] at lost
    cases lost
  exact told_lively _ rest _ closed

theorem completed_lively (stale : Address → Option Int) (server next : Server) (self : SessionId) (completion : Completion)
    (address : Address) (healthy : Healthy server) (lively : ∀ other, Lively (server.host other))
    (taken : complete (boundCallbacks stale address) self server completion = some (.returned next)) :
    ∀ other, Lively (next.host other) := by
  have life := healthy.lives self
  cases completion with
  | accepted ec =>
      obtain ⟨pending, returned⟩ := (complete_accepted _ _ _ _ _).mp taken
      cases ec with
      | none => exact accepted_lively stale address self server next healthy lively pending returned
      | some what =>
          have single := (life.handshake (Nat.ne_of_gt pending)).2.1
          exact failed_lively stale address self server next _ lively returned (lively self).unstranded
            (by simp only [single])
  | received ec message =>
      obtain ⟨⟨pending, _⟩, returned⟩ := (complete_received _ _ _ _ _ _).mp taken
      have done := life_unborn _ _ life (.inl pending)
      cases ec with
      | none => exact received_lively stale address self server next message healthy lively pending returned
      | some what => exact failed_lively stale address self server next _ lively returned (lively self).unstranded done.2
  | wrote index ec =>
      obtain ⟨pending, returned⟩ := (complete_wrote _ _ _ _ _ _).mp taken
      have writing : (server.host self).pendingWrites ≠ [] := List.ne_nil_of_length_pos (Nat.zero_lt_of_lt pending)
      have done := life_unborn _ _ life (.inr writing)
      cases ec with
      | none => exact wrote_lively stale address self server next index healthy lively pending returned
      | some what => exact failed_lively stale address self server next _ lively returned (lively self).unstranded done.2
  | ran =>
      obtain ⟨task, rest, posted, _⟩ := (complete_ran _ _ _ _).mp taken
      rw [life.sole.unposted] at posted
      cases posted

def ServerLively (process : Process Server) : Prop :=
  process.ending = .running → Healthy process.world ∧ ∀ self, Lively (process.world.host self)

theorem server_step_lively (stale : Address → Option Int) (process next : Process Server) (event : ServerEvent)
    (before : ServerLively process) (taken : serverStep stale process event = some next) : ServerLively next := by
  intro runs
  obtain ⟨server, ending⟩ := process
  cases ending with
  | escaped what => cases taken
  | undefined => cases taken
  | running =>
  obtain ⟨healthy, lively⟩ := before rfl
  refine ⟨server_step_healthy stale server event next healthy taken runs, ?_⟩
  cases event with
  | opened self =>
      simp only [serverStep, Bool.not_eq_true, Option.ite_none_left_eq_some, Option.some.injEq] at taken
      obtain ⟨_, rfl⟩ := taken
      refine lively_update _ self _ (fun other _ => lively other) ⟨rfl, fun _ => ⟨rfl, rfl, rfl⟩, fun done => ?_⟩
      cases done.2
  | completed self completion address =>
      simp only [serverStep, Option.ite_none_right_eq_some, Option.map_eq_some_iff] at taken
      obtain ⟨_, outcome, done, rfl⟩ := taken
      cases outcome with
      | returned after => exact completed_lively stale server after self completion address healthy lively done
      | threw what after => cases runs
      | undefined after => cases runs
  | released self closeError =>
      simp only [serverStep, Option.ite_none_right_eq_some, Option.some.injEq] at taken
      obtain ⟨unreferenced, rfl⟩ := taken
      have closed := released_closed server healthy self unreferenced
      have unchanged : server.call self (·.disconnect closeError) = .returned server := by
        simp [World.call, disconnect, closed, World.update]
      rw [unchanged]
      exact lively

theorem no_clients_lively : ServerLively noClients :=
  fun _ => ⟨no_clients_healthy, fun _ => ⟨rfl, fun waits => absurd rfl waits, fun done => absurd done.1 Bool.false_ne_true⟩⟩

theorem server_run_lively (stale : Address → Option Int) (events : List ServerEvent) (final : Process Server)
    (reached : Transition.run (serverStep stale) noClients events = some final) : ServerLively final :=
  Transition.run_keeps (serverStep stale) ServerLively
    (fun process event next before taken => server_step_lively stale process next event before taken) events noClients
    final no_clients_lively reached

theorem front_written (stale : Address → Option Int) (address : Address) (self : SessionId) (server : Server) (front : SendBuffer)
    (rest : List SendBuffer) (healthy : Healthy server) (allocatable : Allocatable server.app (.newClient self address))
    (buffers : (server.host self).sendBufferSafeQueue.buffersToSend = front :: rest)
    (writing : (server.host self).pendingWrites = (server.host self).sendBufferSafeQueue.buffersToSend.take 1) :
    serverStep stale ⟨server, .running⟩ (.completed self (.wrote 0 none) address) = some ⟨server.update self
      { server.host self with sendBufferSafeQueue := ⟨rest⟩, pendingWrites := rest.take 1 }, .running⟩ := by
  have pending : 0 < (server.host self).pendingWrites.length := by
    rw [writing, buffers]
    exact Nat.one_pos
  obtain ⟨sent, after, queue, _, popped⟩ := sole_writer_sent (server.host self) (healthy.lives self).sole 0 pending
  obtain ⟨rfl, rfl⟩ := List.cons.inj (buffers.symm.trans queue)
  simp only [serverStep, if_pos allocatable, complete, if_pos pending, onWrite, World.call, World.update_same, popped,
    Outcome.map_returned, Option.map_some, settle]
  simp only [World.update, Function.update_idem]

theorem queue_drains (stale : Address → Option Int) (address : Address) (self : SessionId) (count : Nat) (server : Server)
    (healthy : Healthy server) (allocatable : Allocatable server.app (.newClient self address))
    (length : (server.host self).sendBufferSafeQueue.buffersToSend.length = count)
    (writing : (server.host self).pendingWrites = (server.host self).sendBufferSafeQueue.buffersToSend.take 1) :
    ∃ drained : Server, Transition.run (serverStep stale) ⟨server, .running⟩
        (List.replicate count (.completed self (.wrote 0 none) address)) = some ⟨drained, .running⟩ ∧
      (drained.host self).sendBufferSafeQueue.buffersToSend = [] ∧
      ∀ other, other ≠ self → drained.host other = server.host other := by
  induction count generalizing server with
  | zero => exact ⟨server, rfl, List.eq_nil_of_length_eq_zero length, fun _ _ => rfl⟩
  | succ count ih =>
      obtain ⟨front, rest, buffers⟩ := List.exists_cons_of_length_eq_add_one length
      let session := { server.host self with sendBufferSafeQueue := ⟨rest⟩, pendingWrites := rest.take 1 }
      have stepped : serverStep stale ⟨server, .running⟩ (.completed self (.wrote 0 none) address) =
          some ⟨server.update self session, .running⟩ :=
        front_written stale address self server front rest healthy allocatable buffers writing
      have good : Healthy (server.update self session) :=
        server_step_healthy stale server _ _ healthy stepped rfl
      have shorter : ((server.update self session).host self).sendBufferSafeQueue.buffersToSend.length = count := by
        rw [buffers, List.length_cons] at length
        simp only [World.update_same, session]
        omega
      obtain ⟨drained, ran, empty, others⟩ := ih (server.update self session) good allocatable shorter
        (by simp only [World.update_same, session])
      refine ⟨drained, (Transition.run_cons _ _ _ _ _).mpr ⟨_, stepped, ran⟩, empty, fun other different => ?_⟩
      rw [others other different, World.update_other _ _ _ _ different]

theorem registered_sessions_served (stale : Address → Option Int) (events : List ServerEvent) (final : Process Server)
    (reached : Transition.run (serverStep stale) noClients events = some final) (runs : final.ending = .running)
    (self : SessionId) (address : Address) (registered : self ∈ final.world.app.allSessions)
    (allocatable : Allocatable final.world.app (.newClient self address)) :
    ((final.world.host self).pendingReads = 1 ∧ (final.world.host self).readBuffer = [] ∧
      (final.world.host self).pendingWrites =
        (final.world.host self).sendBufferSafeQueue.buffersToSend.take 1) ∧
    (∀ message : Bytes, message.length ≤ readBufferLimit → ∃ next,
      serverStep stale final (.completed self (.received none message) address) = some next ∧
      next.ending = .running) ∧
    ∃ drained : Server, Transition.run (serverStep stale) final
        (List.replicate (final.world.host self).sendBufferSafeQueue.buffersToSend.length
          (.completed self (.wrote 0 none) address)) = some ⟨drained, .running⟩ ∧
      (drained.host self).sendBufferSafeQueue.buffersToSend = [] ∧
      ∀ other, other ≠ self → drained.host other = final.world.host other := by
  obtain ⟨healthy, lively⟩ := server_run_lively stale events final reached runs
  obtain ⟨server, ending⟩ := final
  obtain rfl : ending = .running := runs
  have life := healthy.lives self
  have serviced := (lively self).served (life_handshaken _ _ life registered) (life.member.mp registered).2.1
  refine ⟨⟨serviced.reading, serviced.filled, serviced.writing⟩, fun message fits => ?_,
    queue_drains stale address self _ server healthy allocatable rfl serviced.writing⟩
  have room : 0 < (server.host self).pendingReads ∧
      (server.host self).readBuffer.length + message.length ≤ readBufferLimit := by
    rw [serviced.reading, serviced.filled, List.length_nil, Nat.zero_add]
    exact ⟨Nat.one_pos, fits⟩
  have done : complete (boundCallbacks stale address) self server (.received none message) = some (onRead
      (boundCallbacks stale address) self none (server.update self { server.host self with
        pendingReads := (server.host self).pendingReads - 1
        readBuffer := (server.host self).readBuffer ++ message })) := by
    simp only [complete, if_pos room]
  have first : FirstFailure ⟨server, .running⟩ (.completed self (.received none message) address) :=
    (life.member.mp registered).2.1
  obtain ⟨next, returned, _⟩ := (completed_step stale server self _ address _ healthy allocatable done).resolve_right
    fun later => later.1 first
  refine ⟨⟨next, .running⟩, ?_, rfl⟩
  simp only [serverStep, if_pos allocatable, done, returned, Option.map_some, settle]

def twoTalking : List ServerEvent :=
  [.opened 0, .opened 1, .completed 0 (.accepted none) 10, .completed 1 (.accepted none) 11,
    .completed 0 (.received none [104]) 12]

theorem registered_sessions_two_talking :
    ∃ final, Transition.run (serverStep undefinedRead) noClients twoTalking = some final ∧
      (final.world.host 1).pendingReads = 1 ∧
      ∃ drained : Server, Transition.run (serverStep undefinedRead) final
          (List.replicate 2 (.completed 1 (.wrote 0 none) 13)) = some ⟨drained, .running⟩ ∧
        (drained.host 1).sendBufferSafeQueue.buffersToSend = [] := by
  obtain ⟨served, _, drained, ran, empty, _⟩ :=
    registered_sessions_served undefinedRead twoTalking _ rfl rfl 1 13 (by decide) (by decide)
  exact ⟨_, rfl, served.1, drained, ran, empty⟩

end NetworkWrapper
