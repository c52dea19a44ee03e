import NetworkWrapper.Broadcast
import NetworkWrapper.Delivery
import NetworkWrapper.ServerRuns

set_option autoImplicit false

-- The whole system of the single-threaded server: the main logic over its sessions,
-- and for each session the stream to a native client of its own.
namespace NetworkWrapper

open WebSocketSession WebSocketMainLogicServer

-- All there is of one connection beside the server's session.
structure Peer where
  client : Endpoint WatchedClient
  sending : List Bytes
  incoming : List Bytes
  sent : Nat
  broken : Bool

-- log is ghost state: the callbacks of the main logic, in the order of the calls.
structure Chat where
  server : Process Server
  peers : SessionId → Peer
  log : List LogicEvent

def historyEntry : LogicEvent → SessionId × Callback
  | .newClient wsSession _ => (wsSession, .onConnection)
  | .newMessage wsSession messageReceived => (wsSession, .onMessage messageReceived)
  | .lostClient wsSession => (wsSession, .onDisconnection)

def historyOf (log : List LogicEvent) : History := log.map historyEntry

-- The server as its sessions see it.
def recordedServer (host : Sessions) (log : List LogicEvent) : Watched := ⟨host, historyOf log⟩

namespace Chat

def link (self : SessionId) (chat : Chat) : Link where
  client := (chat.peers self).client
  server := ⟨⟨recordedServer chat.server.world.host chat.log, chat.server.ending⟩, (chat.peers self).incoming,
    (chat.peers self).sent, (chat.peers self).broken⟩
  sending := (chat.peers self).sending

def withLink (self : SessionId) (chat : Chat) (link : Link) : Chat :=
  { chat with
    peers := Function.update chat.peers self
      ⟨link.client, link.sending, link.server.incoming, link.server.sent, link.server.broken⟩ }

def seen (self : SessionId) (chat : Chat) : List Bytes := (chat.link self).clientDelivered

end Chat

def calledBack (session : WebSocketSession) (self : SessionId) (address : Address) : Completion → Option LogicEvent
  | .accepted none => some (.newClient self address)
  | .received none message => some (.newMessage self (session.readBuffer ++ message))
  | .accepted (some _) => some (.lostClient self)
  | .received (some _) _ => some (.lostClient self)
  | .wrote _ (some _) => some (.lostClient self)
  | .wrote _ none => none
  | .ran => none

inductive ChatEvent where
  | opened (self : SessionId)
  | completed (self : SessionId) (completion : Completion) (address : Address)
  | released (self : SessionId) (closeError : ErrorCode)
  | network (self : SessionId) (event : LinkEvent)
deriving DecidableEq, Repr

-- What the server does for a session is the main logic's business here, so the
-- link of that session gives only the events of its client and of the network.
def chatStep (stale : Address → Option Int) (chat : Chat) (event : ChatEvent) : Option Chat :=
  match event with
  | .opened self => (serverStep stale chat.server (.opened self)).map fun server => { chat with server := server }
  | .released self closeError =>
      (serverStep stale chat.server (.released self closeError)).map fun server => { chat with server := server }
  | .completed self completion address =>
      ((chat.link self).server.completes (sessionResult completion)).bind fun endpoint =>
        (serverStep stale chat.server (.completed self completion address)).map fun server =>
          { chat.withLink self { chat.link self with server := endpoint } with
            server := server
            log := chat.log ++ (calledBack (chat.server.world.host self) self address completion).toList }
  | .network _ (.serverSteps _) => none
  | .network self event =>
      if (chat.server.world.host self).constructed then
        (linkStep self (chat.link self) event).map (chat.withLink self)
      else none

-- Each client is connected by TCP once its session is opened, and waits for the
-- answer to its handshake.
def noChat : Chat where
  server := noClients
  peers := fun _ =>
    ⟨⟨⟨⟨{ WebSocketConnection.create with pendingHandshakes := 1 }, []⟩, .running⟩, [], 0, false⟩,
      [], [], 0, false⟩
  log := []

def messagesFrom (self : SessionId) (log : List LogicEvent) : List Bytes :=
  log.filterMap fun event => match event with
    | .newMessage wsSession messageReceived => if wsSession = self then some messageReceived else none
    | _ => none

theorem history_snoc (log : List LogicEvent) (event : LogicEvent) :
    historyOf (log ++ [event]) = historyOf log ++ [historyEntry event] := by
  rw [historyOf, List.map_append, List.map_singleton, historyOf]

theorem recorded_messages (self : SessionId) (host : Sessions) (log : List LogicEvent) :
    sessionMessages (callbacksOf self (recordedServer host log)) = messagesFrom self log := by
  induction log with
  | nil => rfl
  | cons event rest ih =>
      simp only [sessionMessages, callbacksOf, recordedServer, historyOf, messagesFrom] at ih ⊢
      cases event with
      | newClient wsSession address => by_cases same : wsSession = self <;> simp [historyEntry, same, ih]
      | newMessage wsSession messageReceived => by_cases same : wsSession = self <;> simp [historyEntry, same, ih]
      | lostClient wsSession => by_cases same : wsSession = self <;> simp [historyEntry, same, ih]

theorem spoken_known (self : SessionId) (host : Sessions) (log : List LogicEvent) (event : LogicEvent)
    (member : event ∈ log) (spoken : (historyEntry event).1 = self) :
    callbacksOf self (recordedServer host log) ≠ [] := by
  have entry : historyEntry event ∈ (recordedServer host log).app.filter fun entry => entry.1 = self :=
    List.mem_filter.mpr ⟨List.mem_map_of_mem member, by simp [spoken]⟩
  simp only [callbacksOf, ne_eq, List.map_eq_nil_iff]
  exact List.ne_nil_of_mem entry

theorem registered_known (host : Sessions) (log : List LogicEvent) (logic : WebSocketMainLogicServer)
    (tracked : Tracked log logic) (later : List LogicEvent) (wsSession : SessionId)
    (member : wsSession ∈ logic.allSessions) : callbacksOf wsSession (recordedServer host (log ++ later)) ≠ [] := by
  have joined := present_joined wsSession log ((tracked.registered wsSession).mp member)
  obtain ⟨event, listed, entered⟩ := List.mem_filterMap.mp joined
  have within : event ∈ log ++ later := List.mem_append_left later listed
  cases event with
  | newClient other address =>
      obtain rfl : other = wsSession := by simpa using entered
      exact spoken_known other host _ _ within rfl
  | newMessage other messageReceived => cases entered
  | lostClient other => cases entered

-- The main logic only writes, so a list of write calls does what it does.
def tell (recipients : List SessionId) (data : Bytes) : List Call := recipients.map fun target => .write target data

theorem perform_tell (recipients : List SessionId) (data : Bytes) (given : data ≠ []) (onward : List Call) (host : Sessions)
    (log : List LogicEvent) (known : ∀ target ∈ recipients, callbacksOf target (recordedServer host log) ≠ []) :
    performAll (tell recipients data ++ onward) (recordedServer host log) =
      performAll onward (recordedServer (deliverAll sessionDelivered recipients data host) log) := by
  induction recipients generalizing host with
  | nil => rfl
  | cons target rest ih =>
      have first : (Call.write target data).perform (recordedServer host log) =
          .returned (recordedServer (sessionDelivered target data host) log) := by
        rw [Call.perform, if_neg (known target List.mem_cons_self)]
        simp only [World.call, recordedServer, write_nonempty _ data given, Outcome.map_returned, World.update,
          sessionDelivered, Outcome.world_returned]
      simp only [tell, List.map_cons, List.cons_append, performAll, first, Outcome.returned_and_then, deliver_all_cons]
      exact ih _ fun other member => known other (List.mem_cons_of_mem _ member)

theorem callback_recorded (stale : Address → Option Int) (server next : Server) (log : List LogicEvent) (event : LogicEvent)
    (tracked : Tracked log server.app) (performed : perform stale server event = .returned next) :
    ∃ calls, performAll calls (recordedServer server.host (log ++ [event])) =
      .returned (recordedServer next.host (log ++ [event])) := by
  have speaker (host : Sessions) : callbacksOf (historyEntry event).1 (recordedServer host (log ++ [event])) ≠ [] :=
    spoken_known _ host _ event (List.mem_append_right log List.mem_cons_self) rfl
  have others (host : Sessions) (wsSession : SessionId) (member : wsSession ∈ server.app.allSessions) :=
    registered_known host log server.app tracked [event] wsSession member
  cases event with
  | newClient wsSession address =>
      simp only [perform, on_new_client_returns _ _ session_writes, Outcome.returned.injEq] at performed
      subst next
      refine ⟨tell server.app.allSessions (newClientText server.app.lastPlayerId) ++
        (tell [wsSession] (welcomeText server.app.lastPlayerId) ++ []), ?_⟩
      rw [perform_tell _ _ (new_client_nonempty _) _ _ _ (others _),
        perform_tell [wsSession] _ (welcome_nonempty _) _ _ _ (List.forall_mem_singleton.mpr (speaker _))]
      rfl
  | newMessage wsSession messageReceived =>
      rw [perform] at performed
      rcases on_new_message_ends _ _ session_writes stale wsSession messageReceived server with
        ⟨id, _, relayed⟩ | relayed
      all_goals
        rw [relayed] at performed
        cases performed
      refine ⟨tell (server.app.allSessions.filter fun target => wsSession ≠ target)
          (newMessageText id messageReceived) ++ (tell [wsSession] (fromYouText messageReceived) ++ []), ?_⟩
      rw [perform_tell _ _ (new_message_nonempty _ _) _ _ _
          fun target member => others _ target (List.mem_of_mem_filter member),
        perform_tell [wsSession] _ (from_you_nonempty _) _ _ _ (List.forall_mem_singleton.mpr (speaker _))]
      rfl
  | lostClient wsSession =>
      rw [perform] at performed
      rcases on_lost_client_ends _ _ session_writes stale wsSession server with
        ⟨id, rest, _, _, shuffled, lost⟩ | ⟨_, lost⟩ | lost
      all_goals
        rw [lost] at performed
        cases performed
      refine ⟨tell rest (clientLeftText id) ++ [], ?_⟩
      rw [perform_tell _ _ (client_left_nonempty _) _ _ _ fun target stays =>
        others _ target (shuffled.mem_iff.mpr (List.mem_cons_of_mem _ stays))]
      rfl

theorem outcome_recorded (stale : Address → Option Int) (server : Server) (log : List LogicEvent) (event : LogicEvent)
    (tracked : Tracked log server.app) :
    ∃ calls, performAll calls (recordedServer server.host (log ++ [event])) =
      .returned (recordedServer (perform stale server event).world.host (log ++ [event])) := by
  rcases perform_ends stale server event with ⟨next, performed⟩ | performed | performed
  all_goals rw [performed]
  · exact callback_recorded stale server next log event tracked performed
  · exact ⟨[], rfl⟩
  · exact ⟨[], rfl⟩

theorem note_recorded (host : Sessions) (log : List LogicEvent) (event : LogicEvent) :
    note (historyEntry event).1 (historyEntry event).2 (recordedServer host log) =
      recordedServer host (log ++ [event]) := by
  simp only [note, recordedServer, history_snoc]

theorem failed_recorded (stale : Address → Option Int) (address : Address) (self : SessionId) (server : Server)
    (log : List LogicEvent) (tracked : Tracked log server.app) :
    ∃ calls, (connectionError (recording calls) self (recordedServer server.host log)).world =
      recordedServer (connectionError (boundCallbacks stale address) self server).world.host
        (log ++ [.lostClient self]) := by
  let dropped := server.update self { server.host self with isConnected := false }
  obtain ⟨calls, told⟩ := outcome_recorded stale dropped log (.lostClient self) tracked
  rw [← note_recorded] at told
  exact ⟨calls, congrArg Outcome.world told⟩

theorem resumed_recorded (stale : Address → Option Int) (self : SessionId) (server next : Server) (log : List LogicEvent)
    (event : LogicEvent) (resume : WebSocketSession → Outcome WebSocketSession) (tracked : Tracked log server.app)
    (performed : perform stale server event = .returned next) :
    ∃ calls, ((performAll calls (note (historyEntry event).1 (historyEntry event).2
      (recordedServer server.host log))).andThen fun world => world.call self resume).world =
        recordedServer (next.call self resume).world.host (log ++ [event]) := by
  obtain ⟨calls, told⟩ := callback_recorded stale server next log event tracked performed
  refine ⟨calls, ?_⟩
  rw [note_recorded, told]
  simp only [Outcome.returned_and_then, World.call, Outcome.map_world, World.update, recordedServer]

theorem completed_recorded (stale : Address → Option Int) (address : Address) (self : SessionId) (server : Server)
    (log : List LogicEvent) (completion : Completion) (outcome : Outcome Server) (tracked : Tracked log server.app)
    (read : ∀ message, completion = .received none message → ∃ id, playerId stale self server.app = some id)
    (taken : complete (boundCallbacks stale address) self server completion = some outcome) :
    ∃ calls recorded, complete (recording calls) self (recordedServer server.host log) completion = some recorded ∧
      recorded.world = recordedServer outcome.world.host
        (log ++ (calledBack (server.host self) self address completion).toList) := by
  cases completion with
  | accepted ec =>
      obtain ⟨pending, rfl⟩ := (complete_accepted _ _ _ _ _).mp taken
      let begun := server.update self { server.host self with pendingAccepts := (server.host self).pendingAccepts - 1 }
      cases ec with
      | some what =>
          obtain ⟨calls, failed⟩ := failed_recorded stale address self begun log tracked
          exact ⟨calls, _, (complete_accepted _ _ _ _ _).mpr ⟨pending, rfl⟩, failed⟩
      | none =>
          have performed := on_new_client_returns _ _ session_writes self address begun
          obtain ⟨calls, resumed⟩ := resumed_recorded stale self begun _ log (.newClient self address)
            (fun session => .returned (if session.useBoostStrands then session.post .doRead else session.doRead))
            tracked performed
          refine ⟨calls, _, (complete_accepted _ _ _ _ _).mpr ⟨pending, rfl⟩, resumed.trans ?_⟩
          simp only [onAccept, boundCallbacks]
          rw [performed]
          rfl
  | received ec message =>
      obtain ⟨allowed, rfl⟩ := (complete_received _ _ _ _ _ _).mp taken
      let begun := server.update self { server.host self with
        pendingReads := (server.host self).pendingReads - 1
        readBuffer := (server.host self).readBuffer ++ message }
      cases ec with
      | some what =>
          obtain ⟨calls, failed⟩ := failed_recorded stale address self begun log tracked
          exact ⟨calls, _, (complete_received _ _ _ _ _ _).mpr ⟨allowed, rfl⟩, failed⟩
      | none =>
          let payload := (server.host self).readBuffer ++ message
          obtain ⟨id, known⟩ := read message rfl
          have performed := on_new_message_returns _ _ session_writes stale self payload begun id known
          obtain ⟨calls, resumed⟩ := resumed_recorded stale self begun _ log (.newMessage self payload)
            (fun session => .returned { session with readBuffer := [] }.doRead) tracked performed
          refine ⟨calls, _, (complete_received _ _ _ _ _ _).mpr ⟨allowed, rfl⟩, ?_⟩
          simp only [onRead, boundCallbacks, recording, World.update_same]
          rw [performed]
          exact resumed
  | wrote index ec =>
      obtain ⟨pending, rfl⟩ := (complete_wrote _ _ _ _ _ _).mp taken
      cases ec with
      | some what =>
          obtain ⟨calls, failed⟩ := failed_recorded stale address self (server.update self { server.host self with
            pendingWrites := (server.host self).pendingWrites.eraseIdx index }) log tracked
          exact ⟨calls, _, (complete_wrote _ _ _ _ _ _).mpr ⟨pending, rfl⟩, failed⟩
      | none =>
          refine ⟨[], _, (complete_wrote _ _ _ _ _ _).mpr ⟨pending, rfl⟩, ?_⟩
          simp [onWrite, World.call, World.update, recordedServer, calledBack]
  | ran =>
      obtain ⟨task, rest, posted, rfl⟩ := (complete_ran _ _ _ _).mp taken
      refine ⟨[], _, (complete_ran _ _ _ _).mpr ⟨task, rest, posted, rfl⟩, ?_⟩
      simp [World.call, World.update, recordedServer, calledBack]

end NetworkWrapper
