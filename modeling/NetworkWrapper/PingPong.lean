import NetworkWrapper.ChatProgress

set_option autoImplicit false

-- A client and a single-threaded server whose message callback writes one answer
-- to each message, as the test of the two ends has it.
namespace NetworkWrapper

open WebSocketSession

-- SendBuffer refuses an empty payload, and one read takes no more than its buffer.
def Sendable (data : Bytes) : Prop := data ≠ [] ∧ data.length ≤ readBufferLimit

def answerCalls (answer : Bytes → Bytes) (self : SessionId) : Completion → List Call
  | .received none message => [.write self (answer message)]
  | _ => []

def Conversing (answer : Bytes → Bytes) (self : SessionId) : LinkEvent → Prop
  | .sendChecked inData => Sendable inData
  | .serverSteps event => ∃ completion, event = .completed self completion (answerCalls answer self completion)
  | _ => True

def StreamResult.succeeded : StreamResult → Bool
  | .received none _ => true
  | .wrote _ none => true
  | .other none => true
  | _ => false

def proceeds : LinkEvent → Bool
  | .sendLocked _ => true
  | .clientTransmits => true
  | .serverTransmits => true
  | .clientCompleted completion => (clientResult completion).succeeded
  | .serverSteps (.completed _ completion _) => (sessionResult completion).succeeded
  | _ => false

structure Asking (client : Endpoint WatchedClient) : Prop where
  runs : client.process.ending = .running
  tended : ClientTended client.process.world.host
  opening : client.broken = false →
    client.process.world.host.isConnected = true ∨ 0 < client.process.world.host.pendingHandshakes

structure Replying (answer : Bytes → Bytes) (wsSession : SessionId) (server : Endpoint Watched) : Prop where
  runs : server.process.ending = .running
  answered : (server.process.world.host wsSession).accepted =
    (sessionMessages (callbacksOf wsSession server.process.world)).map answer
  reading : server.broken = false →
    0 < (server.process.world.host wsSession).pendingAccepts + (server.process.world.host wsSession).pendingReads
  writing : server.broken = false → (server.process.world.host wsSession).pendingWrites =
    (server.process.world.host wsSession).sendBufferSafeQueue.buffersToSend.take 1

-- The steps that are still to be taken at each end: a message not yet on the wire
-- is transmitted, seen to be written and read, and the one that answers it too.
def clientWork (client : Endpoint WatchedClient) : Nat :=
  6 * (client.process.world.host.buffersToSend.length - client.sent) + client.sent + client.incoming.length +
    client.process.world.host.pendingHandshakes

def serverWork (self : SessionId) (server : Endpoint Watched) : Nat :=
  4 * server.incoming.length +
    3 * ((server.process.world.host self).sendBufferSafeQueue.buffersToSend.length - server.sent) + server.sent +
    (server.process.world.host self).pendingAccepts

def remaining (self : SessionId) (link : Link) : Nat :=
  7 * link.sending.length + clientWork link.client + serverWork self link.server

theorem watching_returns (world : WatchedClient) (completion : WebSocketConnection.ClientCompletion)
    (outcome : Outcome WatchedClient)
    (done : WebSocketConnection.complete watching world completion = some outcome) :
    outcome = .returned outcome.world := by
  have failed (what : String) (world : WatchedClient) : WebSocketConnection.failed watching what world =
      .returned (WebSocketConnection.failed watching what world).world := by
    rw [failed_watching, Outcome.world_returned]
  cases completion with
  | resolved ec =>
      obtain ⟨_, rfl⟩ := (WebSocketConnection.complete_resolved _ _ _ _).mp done
      cases ec with
      | none => rfl
      | some what => exact failed what _
  | connected ec =>
      obtain ⟨_, rfl⟩ := (WebSocketConnection.complete_connected _ _ _ _).mp done
      cases ec with
      | none => rfl
      | some what => exact failed what _
  | handshaken ec =>
      obtain ⟨_, rfl⟩ := (WebSocketConnection.complete_handshaken _ _ _ _).mp done
      cases ec with
      | none => rfl
      | some what => exact failed what _
  | received ec message =>
      obtain ⟨_, rfl⟩ := (WebSocketConnection.complete_received _ _ _ _ _).mp done
      unfold WebSocketConnection.onRead
      split
      · rfl
      · cases ec with
        | none => rfl
        | some what => exact failed what _
  | wrote index ec =>
      obtain ⟨_, rfl⟩ := (WebSocketConnection.complete_wrote _ _ _ _ _).mp done
      unfold WebSocketConnection.onWrite
      split
      · rfl
      · cases ec with
        | none => simp only [WebSocketConnection.pop_queued, Outcome.map_returned, Outcome.world_returned]
        | some what => exact failed what _

theorem busy_connected (connection : WebSocketConnection) (sent : Nat) (sending : List Bytes)
    (side : ClientSide connection sent false sending)
    (busy : connection.buffersToSend ≠ [] ∨ 0 < connection.pendingReads) : connection.isConnected = true := by
  by_contra apart
  obtain ⟨nothing, idle, _⟩ := side.opening rfl (by simpa using apart)
  rcases busy with queued | reads
  · exact queued nothing
  · exact absurd reads (by rw [idle]; exact Nat.lt_irrefl 0)

structure Asked (before after : Endpoint WatchedClient) : Prop where
  asking : Asking after
  paid : clientWork after + 1 = clientWork before

theorem asked_handshaken (endpoint : Endpoint WatchedClient) (outcome : Outcome WatchedClient)
    (tended : ClientTended outcome.world.host)
    (done : WebSocketConnection.complete watching endpoint.process.world (.handshaken none) = some outcome) :
    Asked endpoint { endpoint with process := settle outcome } := by
  obtain ⟨pending, rfl⟩ := (WebSocketConnection.complete_handshaken _ _ _ _).mp done
  refine ⟨⟨rfl, tended, fun _ => .inl rfl⟩, ?_⟩
  simp only [clientWork, WebSocketConnection.onHandshake, watching, noteClient, settle, WebSocketConnection.doRead]
  omega

theorem asked_received (endpoint : Endpoint WatchedClient) (message : Bytes) (rest : List Bytes)
    (outcome : Outcome WatchedClient) (sending : List Bytes)
    (side : ClientSide endpoint.process.world.host endpoint.sent false sending)
    (arrives : endpoint.incoming = message :: rest) (tended : ClientTended outcome.world.host)
    (done : WebSocketConnection.complete watching endpoint.process.world (.received none message) = some outcome) :
    Asked endpoint { endpoint with incoming := rest, process := settle outcome } := by
  obtain ⟨⟨pending, _⟩, rfl⟩ := (WebSocketConnection.complete_received _ _ _ _ _).mp done
  have connected := busy_connected _ _ _ side (.inr pending)
  simp only [WebSocketConnection.onRead, connected, Bool.true_eq_false, if_false, watching, noteClient,
    Outcome.returned_and_then] at tended ⊢
  refine ⟨⟨rfl, tended, fun _ => .inl rfl⟩, ?_⟩
  simp only [clientWork, settle, WebSocketConnection.doRead, arrives, List.length_cons]
  omega

theorem asked_wrote (endpoint : Endpoint WatchedClient) (index : Nat) (outcome : Outcome WatchedClient)
    (sending : List Bytes) (side : ClientSide endpoint.process.world.host endpoint.sent false sending)
    (transmitted : index < endpoint.sent) (tended : ClientTended outcome.world.host)
    (done : WebSocketConnection.complete watching endpoint.process.world (.wrote index none) = some outcome) :
    Asked endpoint { endpoint with sent := endpoint.sent - 1, process := settle outcome } := by
  obtain ⟨pending, rfl⟩ := (WebSocketConnection.complete_wrote _ _ _ _ _).mp done
  obtain ⟨rfl, front, rest, buffers, writing⟩ := outstanding_front _ _ side.outstanding index pending
  have connected := busy_connected _ _ _ side (.inl (by rw [buffers]; exact List.cons_ne_nil _ _))
  have started := side.sent
  rw [writing, List.length_singleton] at started
  simp only [WebSocketConnection.onWrite, connected, Bool.true_eq_false, if_false, WebSocketConnection.pop_queued,
    Outcome.map_returned] at tended ⊢
  refine ⟨⟨rfl, tended, fun _ => .inl rfl⟩, ?_⟩
  simp only [clientWork, settle, buffers, List.tail_cons, List.length_cons]
  omega

theorem asking_completed (endpoint after : Endpoint WatchedClient) (sending : List Bytes)
    (completion : WebSocketConnection.ClientCompletion) (outcome : Outcome WatchedClient) (asking : Asking endpoint)
    (side : ClientSide endpoint.process.world.host endpoint.sent endpoint.broken sending)
    (allowed : endpoint.completes (clientResult completion) = some after)
    (done : WebSocketConnection.complete watching endpoint.process.world completion = some outcome) :
    Asking { after with process := settle outcome } ∧
      ((clientResult completion).succeeded = true → after.broken = endpoint.broken ∧
        clientWork { after with process := settle outcome } + 1 = clientWork endpoint) := by
  have tended := client_tended_completed endpoint after sending completion outcome side asking.tended allowed done
  have lost (broken : after.broken = true) : Asking { after with process := settle outcome } := by
    refine ⟨?_, (settle_world outcome).symm ▸ tended, fun well => absurd broken (ne_true_of_eq_false well)⟩
    rw [watching_returns _ _ _ done]
    rfl
  have gained (next : Endpoint WatchedClient) (same : after = next) (well : next.broken = endpoint.broken)
      (asked : Asked endpoint { next with process := settle outcome }) :
      Asking { after with process := settle outcome } ∧
        ((clientResult completion).succeeded = true → after.broken = endpoint.broken ∧
          clientWork { after with process := settle outcome } + 1 = clientWork endpoint) := by
    subst next
    exact ⟨asked.asking, fun _ => ⟨well, asked.paid⟩⟩
  cases completion with
  | resolved ec =>
      have pending := ((WebSocketConnection.complete_resolved _ _ _ _).mp done).1
      exact absurd side.unresolved (Nat.ne_of_gt pending)
  | connected ec =>
      have pending := ((WebSocketConnection.complete_connected _ _ _ _).mp done).1
      exact absurd side.unconnected (Nat.ne_of_gt pending)
  | handshaken ec =>
      cases ec with
      | some what =>
          cases allowed
          exact ⟨lost rfl, fun succeeded => Bool.noConfusion succeeded⟩
      | none =>
          obtain ⟨_, same⟩ := completes_other _ _ allowed
          exact gained endpoint same rfl (asked_handshaken endpoint outcome tended done)
  | received ec message =>
      cases ec with
      | some what =>
          cases allowed
          exact ⟨lost rfl, fun succeeded => Bool.noConfusion succeeded⟩
      | none =>
          obtain ⟨rest, arrives, well, same⟩ := completes_received _ _ _ allowed
          rw [well] at side
          exact gained _ same rfl (asked_received endpoint message rest outcome sending side arrives tended done)
  | wrote index ec =>
      cases ec with
      | some what =>
          cases allowed
          exact ⟨lost rfl, fun succeeded => Bool.noConfusion succeeded⟩
      | none =>
          obtain ⟨⟨well, transmitted⟩, same⟩ := completes_wrote _ _ _ allowed
          rw [well] at side
          exact gained _ same rfl (asked_wrote endpoint index outcome sending side transmitted tended done)

theorem answer_read (self : SessionId) (data : Bytes) (given : data ≠ []) (world : Watched) :
    ∃ later, onRead (recording [.write self data]) self none world = .returned later ∧
      later.host self = { (world.host self).queued ⟨data, given⟩ with readBuffer := [] }.doRead := by
  have seen (callback : Callback) : callbacksOf self (note self callback world) ≠ [] := by
    rw [callbacks_of_note_same]
    exact List.append_ne_nil_of_right_ne_nil _ (List.cons_ne_nil _ _)
  simp only [onRead, recording, performAll, Call.perform, if_neg (seen _), World.call, note_host,
    write_nonempty _ data given, Outcome.map_returned, Outcome.returned_and_then]
  exact ⟨_, rfl, by rw [World.update_same, World.update_same]⟩

structure Replied (answer : Bytes → Bytes) (wsSession : SessionId) (before after : Endpoint Watched) : Prop where
  replying : Replying answer wsSession after
  paid : serverWork wsSession after + 1 = serverWork wsSession before

theorem replied_accepted (answer : Bytes → Bytes) (self : SessionId) (endpoint : Endpoint Watched)
    (outcome : Outcome Watched) (replying : Replying answer self endpoint)
    (side : ServerSide (endpoint.process.world.host self) endpoint.sent)
    (done : complete (recording []) self endpoint.process.world (.accepted none) = some outcome) :
    Replied answer self endpoint { endpoint with process := settle outcome } := by
  have told := complete_callbacks self [] _ _ _ done
  obtain ⟨pending, rfl⟩ := (complete_accepted _ _ _ _ _).mp done
  have unstranded := side.sole.unstranded
  simp only [onAccept, recording, performAll, Outcome.returned_and_then, World.call, note_host, World.update_same,
    unstranded, Bool.false_eq_true, if_false, Outcome.map_returned, notified] at told ⊢
  refine ⟨⟨rfl, ?_, fun _ => ?_, fun well => ?_⟩, ?_⟩
  · simp only [settle, told, session_messages_append, World.update_same, Outcome.world_returned] at told ⊢
    simpa [told, sessionMessages, doRead] using replying.answered
  · simp only [settle, World.update_same, doRead]
    omega
  · simpa [settle, doRead] using replying.writing well
  · simp only [serverWork, settle, World.update_same, doRead]
    omega

theorem replied_received (answer : Bytes → Bytes) (self : SessionId) (endpoint : Endpoint Watched) (message : Bytes)
    (rest : List Bytes) (outcome : Outcome Watched) (replying : Replying answer self endpoint)
    (side : ServerSide (endpoint.process.world.host self) endpoint.sent) (well : endpoint.broken = false)
    (given : answer message ≠ []) (arrives : endpoint.incoming = message :: rest)
    (done : complete (recording [.write self (answer message)]) self endpoint.process.world (.received none message) =
      some outcome) :
    Replied answer self endpoint { endpoint with incoming := rest, process := settle outcome } := by
  have told := complete_callbacks self _ _ _ _ done
  obtain ⟨⟨pending, _⟩, rfl⟩ := (complete_received _ _ _ _ _ _).mp done
  have emptied : (endpoint.process.world.host self).readBuffer = [] := side.reader.consumed (by omega)
  let reading := { endpoint.process.world.host self with
    pendingReads := (endpoint.process.world.host self).pendingReads - 1
    readBuffer := (endpoint.process.world.host self).readBuffer ++ message }
  obtain ⟨later, returns, host⟩ := answer_read self (answer message) given (endpoint.process.world.update self reading)
  rw [World.update_same] at host
  rw [returns, Outcome.world_returned, emptied] at told
  have written := serviced_written _ _ reading (answer message) side.sole.unstranded
    ⟨rfl, rfl, replying.writing well⟩
  rw [write_nonempty _ _ given, Outcome.world_returned] at written
  have started := outstanding_queued _ _ _ side.sole.outstanding side.sent
  rw [returns]
  refine ⟨⟨rfl, ?_, fun _ => ?_, fun _ => ?_⟩, ?_⟩
  · simp only [settle, told, session_messages_append, List.map_append, host, doRead, queued_accepted]
    rw [← replying.answered]
    rfl
  · simp only [settle, host, doRead]
    omega
  · simp only [settle, host, doRead]
    exact written.writing
  · obtain ⟨_, _, accepts, _, _⟩ := queued_elsewhere reading ⟨answer message, given⟩
    simp only [serverWork, settle, host, doRead, queued_buffers, accepts, arrives, List.length_cons, List.length_append,
      List.length_nil]
    simp only [reading]
    omega

theorem replied_wrote (answer : Bytes → Bytes) (self : SessionId) (endpoint : Endpoint Watched) (index : Nat)
    (outcome : Outcome Watched) (replying : Replying answer self endpoint)
    (side : ServerSide (endpoint.process.world.host self) endpoint.sent)
    (transmitted : index < endpoint.sent)
    (done : complete (recording []) self endpoint.process.world (.wrote index none) = some outcome) :
    Replied answer self endpoint { endpoint with sent := endpoint.sent - 1, process := settle outcome } := by
  have told := complete_callbacks self [] _ _ _ done
  obtain ⟨pending, rfl⟩ := (complete_wrote _ _ _ _ _ _).mp done
  obtain ⟨front, rest, buffers, writing, popped⟩ := sole_writer_sent _ side.sole index pending
  have started := side.sent
  rw [writing, List.length_singleton] at started
  simp only [onWrite, World.call, World.update_same, popped, Outcome.map_returned, notified, List.append_nil] at told ⊢
  refine ⟨⟨rfl, ?_, fun unbroken => ?_, fun _ => ?_⟩, ?_⟩
  · simp only [settle, Outcome.world_returned] at told ⊢
    simpa [told] using replying.answered
  · simpa [settle] using replying.reading unbroken
  · simp [settle]
  · simp only [serverWork, settle, World.update_same, buffers, List.length_cons]
    omega

theorem replying_completed (answer : Bytes → Bytes) (self : SessionId) (endpoint after : Endpoint Watched)
    (completion : Completion) (outcome : Outcome Watched) (replying : Replying answer self endpoint)
    (side : ServerSide (endpoint.process.world.host self) endpoint.sent)
    (given : ∀ message ∈ endpoint.incoming, answer message ≠ [])
    (allowed : endpoint.completes (sessionResult completion) = some after)
    (done : complete (recording (answerCalls answer self completion)) self endpoint.process.world completion =
      some outcome) :
    Replying answer self { after with process := settle outcome } ∧
      ((sessionResult completion).succeeded = true → after.broken = endpoint.broken ∧
        serverWork self { after with process := settle outcome } + 1 = serverWork self endpoint) := by
  have told := complete_callbacks self _ _ _ _ done
  have lost (session : WebSocketSession)
      (failed : outcome = connectionError (recording []) self (endpoint.process.world.update self session))
      (broken : after.broken = true) (same : session.accepted = (endpoint.process.world.host self).accepted)
      (silent : notified (endpoint.process.world.host self).readBuffer completion = [.onDisconnection]) :
      Replying answer self { after with process := settle outcome } := by
    refine ⟨?_, ?_, fun well => absurd broken (ne_true_of_eq_false well),
      fun well => absurd broken (ne_true_of_eq_false well)⟩
    · rw [failed]
      rfl
    · rw [silent] at told
      simp only [settle_world, told, session_messages_append, List.map_append]
      rw [← replying.answered, ← same, failed]
      simp [connectionError, recording, performAll, sessionMessages]
  have gained (next : Endpoint Watched) (same : after = next) (well : next.broken = endpoint.broken)
      (replied : Replied answer self endpoint { next with process := settle outcome }) :
      Replying answer self { after with process := settle outcome } ∧
        ((sessionResult completion).succeeded = true → after.broken = endpoint.broken ∧
          serverWork self { after with process := settle outcome } + 1 = serverWork self endpoint) := by
    subst next
    exact ⟨replied.replying, fun _ => ⟨well, replied.paid⟩⟩
  cases completion with
  | accepted ec =>
      cases ec with
      | some what =>
          cases allowed
          obtain ⟨_, failed⟩ := (complete_accepted _ _ _ _ _).mp done
          exact ⟨lost _ failed.symm rfl rfl rfl, fun succeeded => Bool.noConfusion succeeded⟩
      | none =>
          obtain ⟨_, same⟩ := completes_other _ _ allowed
          exact gained endpoint same rfl (replied_accepted answer self endpoint outcome replying side done)
  | received ec message =>
      cases ec with
      | some what =>
          cases allowed
          obtain ⟨_, failed⟩ := (complete_received _ _ _ _ _ _).mp done
          exact ⟨lost _ failed.symm rfl rfl rfl, fun succeeded => Bool.noConfusion succeeded⟩
      | none =>
          obtain ⟨rest, arrives, well, same⟩ := completes_received _ _ _ allowed
          have nonempty : answer message ≠ [] := given message (arrives ▸ List.mem_cons_self)
          exact gained _ same rfl
            (replied_received answer self endpoint message rest outcome replying side well nonempty arrives done)
  | wrote index ec =>
      cases ec with
      | some what =>
          cases allowed
          obtain ⟨_, failed⟩ := (complete_wrote _ _ _ _ _ _).mp done
          exact ⟨lost _ failed.symm rfl rfl rfl, fun succeeded => Bool.noConfusion succeeded⟩
      | none =>
          obtain ⟨⟨well, transmitted⟩, same⟩ := completes_wrote _ _ _ allowed
          exact gained _ same rfl (replied_wrote answer self endpoint index outcome replying side transmitted done)
  | ran =>
      obtain ⟨task, rest, posted, _⟩ := (complete_ran _ _ _ _).mp done
      rw [side.sole.unposted] at posted
      cases posted

structure Conversation (answer : Bytes → Bytes) (wsSession : SessionId) (link : Link) : Prop where
  sound : LinkSound wsSession link
  up : (link.upLane wsSession).InOrder
  down : (link.downLane wsSession).InOrder
  offers : Offers Sendable link.client link.sending
  asking : Asking link.client
  replying : Replying answer wsSession link.server

structure Proceeded (wsSession : SessionId) (link next : Link) : Prop where
  client : next.client.broken = link.client.broken
  server : next.server.broken = link.server.broken
  kept : (next.connection.accepted ++ next.sending).Perm (link.connection.accepted ++ link.sending)
  paid : remaining wsSession next + 1 = remaining wsSession link

theorem arriving_sendable (answer : Bytes → Bytes) (self : SessionId) (link : Link)
    (conversation : Conversation answer self link) (message : Bytes)
    (heard : message ∈ link.serverDelivered self ∨ message ∈ link.server.incoming) : Sendable message := by
  apply conversation.offers.accepted message
  apply conversation.up.ordered.subset
  rcases heard with delivered | flies
  · exact List.mem_append_left _ delivered
  · exact List.mem_append_right _ flies

theorem send_proceeds (answer : Bytes → Bytes) (self : SessionId) (link next : Link) (index : Nat)
    (conversation : Conversation answer self link) (taken : linkStep self link (.sendLocked index) = some next) :
    Asking next.client ∧ next.server = link.server ∧ Proceeded self link next := by
  have asking := conversation.asking
  have side := conversation.sound.client
  have started := outstanding_queued _ _ _ side.outstanding side.sent
  cases held : link.sending[index]? with
  | none => simp [linkStep, asking.runs, held] at taken
  | some inData =>
      simp only [linkStep, asking.runs, held, Option.some.injEq] at taken
      subst next
      obtain ⟨given, _⟩ := conversation.offers.sending inData (List.mem_of_getElem? held)
      obtain ⟨within, found⟩ := List.getElem?_eq_some_iff.mp held
      have tended := client_tended_sent _ inData asking.tended
      have sent := WebSocketConnection.locked_send_nonempty link.connection inData given
      refine ⟨⟨?_, ?_, fun well => ?_⟩, rfl, rfl, rfl, ?_, ?_⟩
      · rw [sent]
        rfl
      · rw [called_host]
        exact tended
      · rw [called_host, sent]
        exact asking.opening well
      · simp only [Link.connection, called_host]
        rw [← Link.connection, sent, Outcome.world_returned, List.append_assoc]
        refine List.Perm.append_left _ ?_
        rw [← found]
        exact List.getElem_cons_eraseIdx_perm within
      · simp only [remaining, clientWork, called_host, List.length_eraseIdx_of_lt within]
        rw [sent]
        simp only [Link.connection, Outcome.world_returned, List.length_append, List.length_singleton] at started ⊢
        omega

theorem client_proceeds (answer : Bytes → Bytes) (self : SessionId) (link next : Link)
    (completion : WebSocketConnection.ClientCompletion) (conversation : Conversation answer self link)
    (taken : linkStep self link (.clientCompleted completion) = some next) :
    Asking next.client ∧ next.server = link.server ∧
      ((clientResult completion).succeeded = true → Proceeded self link next) := by
  simp only [linkStep, conversation.asking.runs, Option.bind_eq_some_iff, Option.map_eq_some_iff] at taken
  obtain ⟨after, allowed, outcome, done, rfl⟩ := taken
  obtain ⟨asking, counts⟩ := asking_completed link.client after link.sending completion outcome conversation.asking
    conversation.sound.client allowed done
  refine ⟨asking, rfl, fun succeeded => ?_⟩
  obtain ⟨broken, paid⟩ := counts succeeded
  refine ⟨broken, rfl, ?_, ?_⟩
  · simp only [Link.connection, settle_world, completed_accepted _ _ _ done]
    exact List.Perm.refl _
  · simp only [remaining]
    omega

theorem server_proceeds (answer : Bytes → Bytes) (self : SessionId) (link next : Link) (completion : Completion)
    (answers : ∀ message, Sendable message → Sendable (answer message)) (conversation : Conversation answer self link)
    (taken : linkStep self link (.serverSteps (.completed self completion (answerCalls answer self completion))) =
      some next) :
    Replying answer self next.server ∧ next.client = link.client ∧ next.sending = link.sending ∧
      ((sessionResult completion).succeeded = true → Proceeded self link next) := by
  simp only [linkStep, linkServerStep, if_true, sessionStep, conversation.replying.runs, Option.bind_eq_some_iff,
    Option.map_eq_some_iff] at taken
  obtain ⟨_, ⟨after, allowed, _, ⟨outcome, done, rfl⟩, rfl⟩, rfl⟩ := taken
  obtain ⟨replying, counts⟩ := replying_completed answer self link.server after completion outcome
    conversation.replying conversation.sound.server
    (fun message flies => (answers message (arriving_sendable answer self link conversation message (.inr flies))).1)
    allowed done
  refine ⟨replying, rfl, rfl, fun succeeded => ?_⟩
  obtain ⟨broken, paid⟩ := counts succeeded
  refine ⟨rfl, broken, List.Perm.refl _, ?_⟩
  simp only [remaining]
  omega

theorem conversation_step (answer : Bytes → Bytes) (self : SessionId)
    (answers : ∀ message, Sendable message → Sendable (answer message)) (link : Link) (event : LinkEvent) (next : Link)
    (conversation : Conversation answer self link) (conversing : Conversing answer self event)
    (taken : linkStep self link event = some next) :
    Conversation answer self next ∧ (proceeds event = true → Proceeded self link next) := by
  have sound := conversation.sound
  obtain ⟨kept, upward, downward⟩ := link_step_carries self link next event sound taken
  have up := Lane.in_order_reaches _ _ conversation.up upward
  have down := Lane.in_order_reaches _ _ conversation.down downward
  have offers : Offers Sendable next.client next.sending := by
    refine offers_network Sendable self link next event ?_ conversation.offers taken
    rintro inData rfl
    exact conversing
  have onward (ends : Asking next.client ∧ Replying answer self next.server) : Conversation answer self next :=
    ⟨kept, up, down, offers, ends.1, ends.2⟩
  have asking := conversation.asking
  have replying := conversation.replying
  cases event with
  | sendChecked inData =>
      simp only [linkStep, Option.ite_none_right_eq_some, Option.some.injEq] at taken
      obtain ⟨_, rfl⟩ := taken
      exact ⟨onward ⟨asking, replying⟩, fun forth => Bool.noConfusion forth⟩
  | sendLocked index =>
      obtain ⟨asks, server, proceeded⟩ := send_proceeds answer self link next index conversation taken
      exact ⟨onward ⟨asks, server ▸ replying⟩, fun _ => proceeded⟩
  | clientCompleted completion =>
      obtain ⟨asks, server, proceeded⟩ := client_proceeds answer self link next completion conversation taken
      exact ⟨onward ⟨asks, server ▸ replying⟩, proceeded⟩
  | clientTransmits =>
      cases writing : link.connection.pendingWrites[link.client.sent]? with
      | none => cases well : link.client.broken <;> simp [linkStep, well, writing] at taken
      | some buffer =>
          cases well : link.client.broken with
          | true => simp [linkStep, well] at taken
          | false =>
              have started := (transmitted_front _ _ _ buffer sound.client.outstanding writing).1
              have queued := outstanding_queued _ _ _ sound.client.outstanding started
              simp only [linkStep, well, writing, Option.some.injEq] at taken
              subst next
              refine ⟨onward ⟨⟨asking.runs, asking.tended, fun _ => asking.opening well⟩, ?_⟩, fun _ => ?_⟩
              · exact ⟨replying.runs, replying.answered, replying.reading, replying.writing⟩
              · refine ⟨well.symm, rfl, List.Perm.refl _, ?_⟩
                simp only [Link.connection] at queued
                simp only [remaining, clientWork, serverWork, List.length_append, List.length_singleton]
                omega
  | clientOverlaps incoming =>
      simp only [linkStep, Option.ite_none_right_eq_some] at taken
      exact absurd taken.1 (no_overlap _ _ sound.client.outstanding)
  | serverSteps event =>
      obtain ⟨completion, rfl⟩ := conversing
      obtain ⟨replies, client, _, proceeded⟩ :=
        server_proceeds answer self link next completion answers conversation taken
      exact ⟨onward ⟨client ▸ asking, replies⟩, proceeded⟩
  | serverTransmits =>
      cases writing : (link.session self).pendingWrites[link.server.sent]? with
      | none => cases well : link.server.broken <;> simp [linkStep, well, writing] at taken
      | some buffer =>
          cases well : link.server.broken with
          | true => simp [linkStep, well] at taken
          | false =>
              have started := (transmitted_front _ _ _ buffer sound.server.sole.outstanding writing).1
              have queued := outstanding_queued _ _ _ sound.server.sole.outstanding started
              simp only [linkStep, well, writing, Option.some.injEq] at taken
              subst next
              refine ⟨onward ⟨⟨asking.runs, asking.tended, asking.opening⟩, ?_⟩, fun _ => ?_⟩
              · exact ⟨replying.runs, replying.answered, fun _ => replying.reading well, fun _ => replying.writing well⟩
              · refine ⟨rfl, well.symm, List.Perm.refl _, ?_⟩
                simp only [Link.session] at queued
                simp only [remaining, clientWork, serverWork, List.length_append, List.length_singleton]
                omega
  | serverOverlaps incoming =>
      simp only [linkStep, Option.ite_none_right_eq_some] at taken
      exact absurd taken.1 (no_overlap _ _ sound.server.sole.outstanding)

def said : LinkEvent → Option Bytes
  | .sendChecked inData => some inData
  | _ => none

structure Accounts (wsSession : SessionId) (start : Link) (past : List LinkEvent) (link : Link) : Prop where
  client : link.client.broken = start.client.broken
  server : link.server.broken = start.server.broken
  kept : (link.connection.accepted ++ link.sending).Perm
    (start.connection.accepted ++ start.sending ++ past.filterMap said)
  paid : past.length + remaining wsSession link = remaining wsSession start + 8 * (past.filterMap said).length

theorem accounts_proceeded (self : SessionId) (start link next : Link) (past : List LinkEvent) (event : LinkEvent)
    (accounts : Accounts self start past link) (silent : said event = none) (proceeded : Proceeded self link next) :
    Accounts self start (past ++ [event]) next := by
  have same : (past ++ [event]).filterMap said = past.filterMap said := by simp [silent]
  have paid := accounts.paid
  have step := proceeded.paid
  refine ⟨proceeded.client.trans accounts.client, proceeded.server.trans accounts.server, ?_, ?_⟩
  · rw [same]
    exact proceeded.kept.trans accounts.kept
  · rw [same, List.length_append, List.length_singleton]
    omega

theorem accounts_said (self : SessionId) (start link next : Link) (past : List LinkEvent) (inData : Bytes)
    (accounts : Accounts self start past link) (taken : linkStep self link (.sendChecked inData) = some next) :
    Accounts self start (past ++ [.sendChecked inData]) next := by
  simp only [linkStep, Option.ite_none_right_eq_some, Option.some.injEq] at taken
  obtain ⟨_, rfl⟩ := taken
  have more : (past ++ [LinkEvent.sendChecked inData]).filterMap said = past.filterMap said ++ [inData] := by simp [said]
  have paid := accounts.paid
  refine ⟨accounts.client, accounts.server, ?_, ?_⟩
  · rw [more, ← List.append_assoc, ← List.append_assoc]
    exact accounts.kept.append_right [inData]
  · rw [more]
    simp only [remaining, List.length_append, List.length_singleton] at paid ⊢
    omega

theorem undisturbed_run (answer : Bytes → Bytes) (self : SessionId)
    (answers : ∀ message, Sendable message → Sendable (answer message)) (events : List LinkEvent) (start final : Link)
    (conversation : Conversation answer self start) (conversing : ∀ event ∈ events, Conversing answer self event)
    (undisturbed : ∀ event ∈ events, said event ≠ none ∨ proceeds event = true)
    (reached : Transition.run (linkStep self) start events = some final) :
    Conversation answer self final ∧ Accounts self start events final := by
  refine Transition.run_history (linkStep self) (fun past link =>
    (∀ event ∈ past, Conversing answer self event ∧ (said event ≠ none ∨ proceeds event = true)) →
      Conversation answer self link ∧ Accounts self start past link) ?_ events start final
    (fun _ => ⟨conversation, rfl, rfl, by simp, by simp⟩) reached
    (fun event member => ⟨conversing event member, undisturbed event member⟩)
  intro past link event next sofar taken allowed
  obtain ⟨before, accounts⟩ := sofar fun earlier member => allowed earlier (List.mem_append_left _ member)
  obtain ⟨conversing, undisturbed⟩ := allowed event (List.mem_append_right _ List.mem_cons_self)
  obtain ⟨kept, proceeded⟩ := conversation_step answer self answers link event next before conversing taken
  refine ⟨kept, ?_⟩
  cases event with
  | sendChecked inData => exact accounts_said self start link next past inData accounts taken
  | _ =>
      exact accounts_proceeded self start link next past _ accounts rfl
        (proceeded (undisturbed.resolve_left (by simp [said])))

theorem client_can (self : SessionId) (link : Link) (completion : WebSocketConnection.ClientCompletion)
    (after : Endpoint WatchedClient) (runs : link.client.process.ending = .running)
    (allowed : link.client.completes (clientResult completion) = some after)
    (done : ∃ outcome, WebSocketConnection.complete watching link.client.process.world completion = some outcome) :
    ∃ next, linkStep self link (.clientCompleted completion) = some next := by
  obtain ⟨outcome, done⟩ := done
  simp only [linkStep, runs, allowed, done, Option.bind_some, Option.map_some, Option.some.injEq, exists_eq']

theorem server_can (answer : Bytes → Bytes) (self : SessionId) (link : Link) (completion : Completion)
    (after : Endpoint Watched) (runs : link.server.process.ending = .running)
    (allowed : link.server.completes (sessionResult completion) = some after)
    (done : ∃ outcome, complete (recording (answerCalls answer self completion)) self link.server.process.world
      completion = some outcome) :
    ∃ next, linkStep self link (.serverSteps (.completed self completion (answerCalls answer self completion))) =
      some next := by
  obtain ⟨outcome, done⟩ := done
  simp only [linkStep, linkServerStep, if_true, sessionStep, runs, allowed, done, Option.bind_some, Option.map_some,
    Option.some.injEq, exists_eq']

def Proceeds (answer : Bytes → Bytes) (self : SessionId) (link : Link) : Prop :=
  ∃ event, Conversing answer self event ∧ proceeds event = true ∧ ∃ next, linkStep self link event = some next

theorem sender_moves (answer : Bytes → Bytes) (self : SessionId) (link : Link)
    (conversation : Conversation answer self link) (waits : link.sending ≠ []) : Proceeds answer self link := by
  cases held : link.sending with
  | nil => exact absurd held waits
  | cons inData rest =>
      refine ⟨.sendLocked 0, trivial, rfl, ?_⟩
      simp only [linkStep, conversation.asking.runs, held, List.getElem?_cons_zero, Option.some.injEq, exists_eq']

theorem client_moves (answer : Bytes → Bytes) (self : SessionId)
    (answers : ∀ message, Sendable message → Sendable (answer message)) (link : Link)
    (conversation : Conversation answer self link) (well : link.client.broken = false)
    (owes : clientWork link.client ≠ 0) : Proceeds answer self link := by
  have asking := conversation.asking
  have side := conversation.sound.client
  rw [well] at side
  rcases Nat.eq_zero_or_pos link.connection.pendingHandshakes with opened | opening
  · have connected : link.connection.isConnected = true :=
      (asking.opening well).resolve_right (by rw [← Link.connection, opened]; exact Nat.lt_irrefl 0)
    cases arrives : link.client.incoming with
    | cons message rest =>
        have written : message ∈ (link.session self).accepted :=
          conversation.down.ordered.subset (List.mem_append_right _ (by
            rw [Link.downLane, Lane.between, clientInbound, arrives]
            exact List.mem_cons_self))
        have fits : message.length ≤ readBufferLimit := by
          have replied : (link.session self).accepted = (link.serverDelivered self).map answer :=
            conversation.replying.answered
          rw [replied] at written
          obtain ⟨heard, delivered, rfl⟩ := List.mem_map.mp written
          exact (answers heard (arriving_sendable answer self link conversation heard (.inl delivered))).2
        exact ⟨.clientCompleted (.received none message), trivial, rfl, _,
          client_reads self link message rest conversation.sound.client asking.runs well
            (asking.tended.reading connected) connected arrives fits⟩
    | nil =>
        rcases Nat.eq_zero_or_pos link.client.sent with idle | started
        · cases buffers : link.connection.buffersToSend with
          | nil =>
              simp only [Link.connection] at buffers opened
              exact absurd (by simp [clientWork, buffers, opened, arrives, idle]) owes
          | cons front rest =>
              have writing : link.connection.pendingWrites = [front] := by
                rw [Link.connection, asking.tended.writing connected, ← Link.connection, buffers]
                rfl
              refine ⟨.clientTransmits, trivial, rfl, ?_⟩
              simp only [linkStep, well, idle, writing, List.getElem?_cons_zero, Option.some.injEq, exists_eq']
        · have pending : 0 < link.client.process.world.host.pendingWrites.length := Nat.lt_of_lt_of_le started side.sent
          exact ⟨.clientCompleted (.wrote 0 none), trivial, rfl,
            client_can self link (.wrote 0 none) _ asking.runs (if_pos ⟨well, started⟩) ⟨_, if_pos pending⟩⟩
  · exact ⟨.clientCompleted (.handshaken none), trivial, rfl,
      client_can self link (.handshaken none) _ asking.runs (if_pos well) ⟨_, if_pos opening⟩⟩

theorem server_moves (answer : Bytes → Bytes) (self : SessionId) (link : Link)
    (conversation : Conversation answer self link) (well : link.server.broken = false)
    (owes : serverWork self link.server ≠ 0) : Proceeds answer self link := by
  have replying := conversation.replying
  have side := conversation.sound.server
  have moves (completion : Completion) (after : Endpoint Watched) (succeeded : (sessionResult completion).succeeded = true)
      (allowed : link.server.completes (sessionResult completion) = some after)
      (done : ∃ outcome, complete (recording (answerCalls answer self completion)) self link.server.process.world
        completion = some outcome) : Proceeds answer self link :=
    ⟨.serverSteps (.completed self completion (answerCalls answer self completion)), ⟨completion, rfl⟩, succeeded,
      server_can answer self link completion after replying.runs allowed done⟩
  rcases Nat.eq_zero_or_pos (link.session self).pendingAccepts with accepted | accepting
  · cases arrives : link.server.incoming with
    | cons message rest =>
        have reading : 0 < (link.session self).pendingReads := by
          have attends := replying.reading well
          simp only [Link.session] at accepted ⊢
          omega
        have empty : (link.session self).readBuffer = [] := side.reader.consumed (by omega)
        have fits : message.length ≤ readBufferLimit :=
          (arriving_sendable answer self link conversation message (.inr (arrives ▸ List.mem_cons_self))).2
        refine moves (.received none message) { link.server with incoming := rest } rfl ?_ ⟨_, if_pos ⟨reading, ?_⟩⟩
        · simp [sessionResult, Endpoint.completes, well, arrives]
        · simp only [Link.session] at empty
          simpa [empty] using fits
    | nil =>
        rcases Nat.eq_zero_or_pos link.server.sent with idle | started
        · cases buffers : (link.session self).sendBufferSafeQueue.buffersToSend with
          | nil =>
              simp only [Link.session] at buffers accepted
              exact absurd (by simp [serverWork, buffers, accepted, arrives, idle]) owes
          | cons front rest =>
              have writing : (link.session self).pendingWrites = [front] := by
                rw [Link.session, replying.writing well, ← Link.session, buffers]
                rfl
              refine ⟨.serverTransmits, trivial, rfl, ?_⟩
              simp only [linkStep, well, idle, writing, List.getElem?_cons_zero, Option.some.injEq, exists_eq']
        · have pending : 0 < (link.session self).pendingWrites.length := Nat.lt_of_lt_of_le started side.sent
          exact moves (.wrote 0 none) _ rfl (if_pos ⟨well, started⟩) ⟨_, if_pos pending⟩
  · exact moves (.accepted none) _ rfl (if_pos well) ⟨_, if_pos accepting⟩

theorem conversation_opened (answer : Bytes → Bytes) (self : SessionId) : Conversation answer self (linkOpened self) := by
  obtain ⟨up, down⟩ := link_opened_lanes self
  refine ⟨link_opened_sound self, up, down, ⟨by simp [linkOpened, WebSocketConnection.create], by simp [linkOpened]⟩,
    ⟨rfl, client_tended_apart _ rfl, fun _ => .inr Nat.one_pos⟩, ⟨rfl, ?_, fun _ => ?_, fun _ => ?_⟩⟩
  · simp only [linkOpened, World.update_same]
    rfl
  · simp only [linkOpened, World.update_same]
    exact Nat.one_pos
  · simp only [linkOpened, World.update_same]
    rfl

theorem conversation_run (answer : Bytes → Bytes) (self : SessionId)
    (answers : ∀ message, Sendable message → Sendable (answer message)) (events : List LinkEvent) (final : Link)
    (conversing : ∀ event ∈ events, Conversing answer self event)
    (reached : Transition.run (linkStep self) (linkOpened self) events = some final) : Conversation answer self final :=
  Transition.run_keeps_guarded (linkStep self) (fun _ event => Conversing answer self event) (Conversation answer self)
    (fun link event next conversation conversing taken =>
      (conversation_step answer self answers link event next conversation conversing taken).1)
    events (linkOpened self) final (conversation_opened answer self)
    ((Transition.meets_events (linkStep self) _ (linkOpened self) final events reached).mpr conversing) reached

theorem all_answered (answer : Bytes → Bytes) (self : SessionId) (link : Link)
    (conversation : Conversation answer self link) (clientWell : link.client.broken = false)
    (serverWell : link.server.broken = false) (nothing : remaining self link = 0) :
    link.sending = [] ∧ link.clientDelivered = link.connection.accepted.map answer := by
  simp only [remaining, clientWork, serverWork] at nothing
  have upSent : (link.upLane self).waiting = [] := by
    have queued : link.client.process.world.host.buffersToSend = [] := List.eq_nil_of_length_eq_zero (by omega)
    simp [Link.upLane, Lane.between, clientOutbound, connectionOutbound, queued, unsent]
  have downSent : (link.downLane self).waiting = [] := by
    have queued : (link.server.process.world.host self).sendBufferSafeQueue.buffersToSend = [] :=
      List.eq_nil_of_length_eq_zero (by omega)
    simp [Link.downLane, Lane.between, serverOutbound, sessionOutbound, queued, unsent]
  have heard : link.serverDelivered self = link.connection.accepted :=
    Lane.in_order_drained _ conversation.up clientWell (List.eq_nil_of_length_eq_zero (by
      simp only [Link.upLane, Lane.between, serverInbound]
      omega)) upSent
  have shown : link.clientDelivered = (link.session self).accepted :=
    Lane.in_order_drained _ conversation.down serverWell (List.eq_nil_of_length_eq_zero (by
      simp only [Link.downLane, Lane.between, clientInbound]
      omega)) downSent
  refine ⟨List.eq_nil_of_length_eq_zero (by omega), ?_⟩
  calc
    link.clientDelivered = (link.session self).accepted := shown
    _ = (link.serverDelivered self).map answer := conversation.replying.answered
    _ = link.connection.accepted.map answer := by rw [heard]

-- The test's expectations, in every order of steps: each message gets its own
-- answer, in order, and where nothing fails a payload takes eight steps from
-- sendBinary to its answer, none of which can be held up for ever.
theorem every_ping_answered (answer : Bytes → Bytes)
    (answers : ∀ message, Sendable message → Sendable (answer message)) (self : SessionId)
    (before after : List LinkEvent) (middle final : Link)
    (conversing : ∀ event ∈ before ++ after, Conversing answer self event)
    (undisturbed : ∀ event ∈ after, said event ≠ none ∨ proceeds event = true)
    (reached : Transition.run (linkStep self) (linkOpened self) before = some middle)
    (onward : Transition.run (linkStep self) middle after = some final) :
    ((middle.session self).accepted = (middle.serverDelivered self).map answer ∧
      middle.serverDelivered self <+: middle.connection.accepted ∧
      middle.clientDelivered <+: middle.connection.accepted.map answer) ∧
    after.length + remaining self final = remaining self middle + 8 * (after.filterMap said).length ∧
    (middle.client.broken = false → middle.server.broken = false →
      (remaining self final ≠ 0 → Proceeds answer self final) ∧
      (remaining self final = 0 → final.sending = [] ∧
        final.connection.accepted.Perm (middle.connection.accepted ++ middle.sending ++ after.filterMap said) ∧
        final.clientDelivered = final.connection.accepted.map answer)) := by
  have there := conversation_run answer self answers before middle
    (fun event member => conversing event (List.mem_append_left _ member)) reached
  obtain ⟨ends, accounts⟩ := undisturbed_run answer self answers after middle final there
    (fun event member => conversing event (List.mem_append_right _ member)) undisturbed onward
  have heard : middle.serverDelivered self <+: middle.connection.accepted := Lane.in_order_prefix _ there.up
  have replied : (middle.session self).accepted = (middle.serverDelivered self).map answer := there.replying.answered
  refine ⟨⟨replied, heard, ?_⟩, accounts.paid, fun clientWell serverWell => ⟨fun owes => ?_, fun nothing => ?_⟩⟩
  · have shown : middle.clientDelivered <+: (middle.session self).accepted := Lane.in_order_prefix _ there.down
    exact shown.trans (replied ▸ heard.map answer)
  · by_cases waits : final.sending = []
    · by_cases idle : clientWork final.client = 0
      · refine server_moves answer self final ends (accounts.server.trans serverWell) (fun rested => owes ?_)
        rw [remaining, waits, idle, rested]
        rfl
      · exact client_moves answer self answers final ends (accounts.client.trans clientWell) idle
    · exact sender_moves answer self final ends waits
  · obtain ⟨locked, told⟩ := all_answered answer self final ends (accounts.client.trans clientWell)
      (accounts.server.trans serverWell) nothing
    refine ⟨locked, ?_, told⟩
    have kept := accounts.kept
    rwa [locked, List.append_nil] at kept

def ping : Bytes := [112, 105, 110, 103, 33]

def pong : Bytes := [112, 111, 110, 103, 33]

def pingedTwice : List LinkEvent :=
  [.serverSteps (.completed 0 (.accepted none) []), .clientCompleted (.handshaken none), .sendChecked ping,
    .sendChecked ping, .sendLocked 1, .sendLocked 0, .clientTransmits, .clientCompleted (.wrote 0 none),
    .serverSteps (.completed 0 (.received none ping) [.write 0 pong]), .clientTransmits, .serverTransmits,
    .serverSteps (.completed 0 (.received none ping) [.write 0 pong]), .clientCompleted (.received none pong),
    .clientCompleted (.wrote 0 none), .serverSteps (.completed 0 (.wrote 0 none) []), .serverTransmits,
    .clientCompleted (.received none pong), .serverSteps (.completed 0 (.wrote 0 none) [])]

theorem every_ping_answered_twice :
    ∃ final, Transition.run (linkStep 0) (linkOpened 0) pingedTwice = some final ∧
      pingedTwice.length = 2 + 8 * 2 ∧ final.connection.accepted = [ping, ping] ∧
      final.clientDelivered = [pong, pong] := by
  have sendable : Sendable ping ∧ Sendable pong := ⟨⟨by decide, by decide⟩, ⟨by decide, by decide⟩⟩
  refine ⟨_, rfl, rfl, rfl, ?_⟩
  have answered := every_ping_answered (fun _ => pong) (fun _ _ => sendable.2) 0 [] pingedTwice _ _
    (by simp [pingedTwice, Conversing, answerCalls, sendable]) (by simp [pingedTwice, said, proceeds, clientResult,
      sessionResult, StreamResult.succeeded]) rfl rfl
  exact ((answered.2.2 rfl rfl).2 rfl).2.2

end NetworkWrapper
