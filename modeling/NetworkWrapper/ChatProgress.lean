import Mathlib.Data.Fintype.EquivFin
import NetworkWrapper.ChatReadable
import NetworkWrapper.ServedSessions

set_option autoImplicit false

namespace NetworkWrapper

open WebSocketSession WebSocketMainLogicServer

structure ClientTended (connection : WebSocketConnection) : Prop where
  reading : connection.isConnected = true → 0 < connection.pendingReads
  writing : connection.isConnected = true → connection.pendingWrites = connection.buffersToSend.take 1

theorem client_tended_apart (connection : WebSocketConnection) (apart : connection.isConnected = false) :
    ClientTended connection :=
  ⟨fun connected => absurd (apart.symm.trans connected) Bool.false_ne_true,
    fun connected => absurd (apart.symm.trans connected) Bool.false_ne_true⟩

theorem client_tended_failed (what : String) (world : WatchedClient) :
    ClientTended (WebSocketConnection.failed watching what world).world.host := by
  rw [failed_watching]
  exact client_tended_apart _ rfl

theorem client_tended_sent (connection : WebSocketConnection) (inData : Bytes) (attended : ClientTended connection) :
    ClientTended (connection.lockedSend inData).world := by
  by_cases given : inData = []
  · subst inData
    exact attended
  · rw [WebSocketConnection.locked_send_nonempty connection inData given]
    refine ⟨attended.reading, fun connected => ?_⟩
    have writing := attended.writing connected
    simp only [Outcome.world_returned, writing]
    cases connection.buffersToSend with
    | nil => rfl
    | cons front rest => rfl

theorem client_tended_opened (connection : WebSocketConnection) (sent : Nat) (sending : List Bytes)
    (side : ClientSide connection sent false sending) (attended : ClientTended connection) :
    connection.pendingWrites = connection.buffersToSend.take 1 := by
  by_cases connected : connection.isConnected = true
  · exact attended.writing connected
  · have nothing := (side.opening rfl (by simpa using connected)).1
    have outstanding := side.outstanding
    rw [nothing] at outstanding ⊢
    exact List.prefix_nil.mp outstanding

theorem only_erased (queue : List SendBuffer) (index : Nat) (pending : index < (queue.take 1).length) :
    (queue.take 1).eraseIdx index = [] := by
  cases queue with
  | nil => cases pending
  | cons front rest =>
      obtain rfl : index = 0 := by simpa using pending
      rfl

theorem client_tended_completed (endpoint after : Endpoint WatchedClient) (sending : List Bytes)
    (completion : WebSocketConnection.ClientCompletion) (outcome : Outcome WatchedClient)
    (side : ClientSide endpoint.process.world.host endpoint.sent endpoint.broken sending)
    (attended : ClientTended endpoint.process.world.host)
    (allowed : endpoint.completes (clientResult completion) = some after)
    (done : WebSocketConnection.complete watching endpoint.process.world completion = some outcome) :
    ClientTended outcome.world.host := by
  cases completion with
  | resolved ec =>
      have pending := ((WebSocketConnection.complete_resolved _ _ _ _).mp done).1
      exact absurd side.unresolved (Nat.ne_of_gt pending)
  | connected ec =>
      have pending := ((WebSocketConnection.complete_connected _ _ _ _).mp done).1
      exact absurd side.unconnected (Nat.ne_of_gt pending)
  | handshaken ec =>
      obtain ⟨_, rfl⟩ := (WebSocketConnection.complete_handshaken _ _ _ _).mp done
      cases ec with
      | some what => exact client_tended_failed what _
      | none =>
          obtain ⟨well, _⟩ := completes_other _ _ allowed
          rw [well] at side
          have writing := client_tended_opened _ _ _ side attended
          exact ⟨fun _ => Nat.succ_pos _, fun _ => writing⟩
  | received ec message =>
      obtain ⟨_, rfl⟩ := (WebSocketConnection.complete_received _ _ _ _ _).mp done
      by_cases apart : endpoint.process.world.host.isConnected = false
      · simp only [WebSocketConnection.onRead, if_pos apart]
        exact client_tended_apart _ apart
      · simp only [WebSocketConnection.onRead, if_neg apart]
        cases ec with
        | some what => exact client_tended_failed what _
        | none => exact ⟨fun _ => Nat.succ_pos _, attended.writing⟩
  | wrote index ec =>
      obtain ⟨pending, rfl⟩ := (WebSocketConnection.complete_wrote _ _ _ _ _).mp done
      by_cases apart : endpoint.process.world.host.isConnected = false
      · simp only [WebSocketConnection.onWrite, if_pos apart]
        exact client_tended_apart _ apart
      · simp only [WebSocketConnection.onWrite, if_neg apart]
        cases ec with
        | some what => exact client_tended_failed what _
        | none =>
            have writing := attended.writing (by simpa using apart)
            simp only [WebSocketConnection.pop_queued, Outcome.map_returned, Outcome.world_returned]
            refine ⟨attended.reading, fun _ => ?_⟩
            rw [writing] at pending ⊢
            rw [only_erased _ index pending, List.nil_append]

theorem client_tended_network (self : SessionId) (link next : Link) (event : LinkEvent)
    (side : ClientSide link.connection link.client.sent link.client.broken link.sending)
    (attended : ClientTended link.connection) (taken : linkStep self link event = some next) : ClientTended next.connection := by
  obtain ⟨inData, rfl, client, _⟩ | ⟨index, inData, rfl, _, client, _⟩ |
    ⟨completion, endpoint, outcome, rfl, allowed, done, client, _⟩ | ⟨process, _, _⟩ :=
      link_client_cases self link next event taken
  · rw [Link.connection, client]
    exact attended
  · rw [Link.connection, client, called_host]
    exact client_tended_sent _ inData attended
  · rw [Link.connection, client, settle_world]
    exact client_tended_completed link.client endpoint link.sending completion outcome side attended allowed done
  · rw [Link.connection, process]
    exact attended

structure ChatTended (chat : Chat) : Prop where
  sound : ChatSound chat
  attended : ∀ self, ClientTended (chat.link self).connection
  served : ServerLively chat.server

theorem chat_step_tended (stale : Address → Option Int) (chat : Chat) (event : ChatEvent) (next : Chat)
    (tended : ChatTended chat) (taken : chatStep stale chat event = some next) : ChatTended next := by
  refine ⟨chat_step_sound stale chat event next tended.sound taken, ?_, ?_⟩
  · refine chat_client_step (fun _ client _ => ClientTended client.process.world.host) stale chat next event taken
      tended.attended ?_
    rintro speaking step link rfl stepped
    have side := (tended.sound.lanes speaking).sound.client
    exact client_tended_network speaking _ link step side (tended.attended speaking) stepped
  · have lively := tended.served
    cases event with
    | opened self =>
        simp only [chatStep, Option.map_eq_some_iff] at taken
        obtain ⟨server, stepped, rfl⟩ := taken
        exact server_step_lively stale chat.server server _ lively stepped
    | released self closeError =>
        simp only [chatStep, Option.map_eq_some_iff] at taken
        obtain ⟨server, stepped, rfl⟩ := taken
        exact server_step_lively stale chat.server server _ lively stepped
    | completed self completion address =>
        simp only [chatStep, Option.bind_eq_some_iff, Option.map_eq_some_iff] at taken
        obtain ⟨_, _, server, stepped, rfl⟩ := taken
        exact server_step_lively stale chat.server server _ lively stepped
    | network self step =>
        obtain ⟨_, _, _, rfl⟩ := network_stepped stale chat next self step taken
        exact lively

theorem no_chat_tended : ChatTended noChat :=
  ⟨no_chat_sound, fun _ => client_tended_apart _ rfl, no_clients_lively⟩

theorem chat_run_tended (stale : Address → Option Int) (events : List ChatEvent) (final : Chat)
    (reached : Transition.run (chatStep stale) noChat events = some final) : ChatTended final :=
  Transition.run_keeps (chatStep stale) ChatTended (chat_step_tended stale) events noChat final no_chat_tended reached

structure Up (wsSession : SessionId) (chat : Chat) : Prop where
  present : isPresent wsSession chat.log = true
  well : (chat.peers wsSession).broken = false
  clientRuns : (chat.peers wsSession).client.process.ending = .running
  clientWell : (chat.peers wsSession).client.broken = false
  connected : (chat.peers wsSession).client.process.world.host.isConnected = true

theorem up_session (chat : Chat) (tended : ChatTended chat) (runs : chat.server.ending = .running) (self : SessionId)
    (up : Up self chat) :
    (chat.server.world.host self).constructed = true ∧ Serviced 1 [] (chat.server.world.host self) := by
  obtain ⟨done, connected⟩ := (present_registered chat (tended.sound.served runs) self).mp up.present
  exact ⟨done.1, ((tended.served runs).2 self).served done connected⟩

theorem fresh_address (logic : WebSocketMainLogicServer) (self : SessionId) :
    ∃ address, Allocatable logic (.newClient self address) := by
  obtain ⟨address, fresh⟩ := Infinite.exists_notMem_finset (logic.allPlayersData.map PlayerData.address).toFinset
  refine ⟨address, fun player member same => fresh ?_⟩
  rw [List.mem_toFinset, ← same]
  exact List.mem_map_of_mem member

-- The steps that a message in the queue, one being written and one in flight
-- still take.
def effort (queued sent inFlight : Nat) : Nat := 3 * (queued - sent) + sent + inFlight

theorem effort_transmitted (queued sent inFlight : Nat) (waits : sent < queued) :
    effort queued (sent + 1) (inFlight + 1) < effort queued sent inFlight := by
  unfold effort
  omega

theorem effort_written (queued sent inFlight : Nat) (started : 0 < sent) (within : sent ≤ queued + 1) :
    effort queued (sent - 1) inFlight < effort (queued + 1) sent inFlight := by
  unfold effort
  omega

theorem effort_read (queued sent inFlight : Nat) : effort queued sent inFlight < effort queued sent (inFlight + 1) := by
  unfold effort
  omega

theorem effort_none (queued sent inFlight : Nat) :
    effort queued sent inFlight = 0 ↔ queued = 0 ∧ sent = 0 ∧ inFlight = 0 := by
  unfold effort
  omega

def owedUp (self : SessionId) (chat : Chat) : Nat :=
  effort (chat.peers self).client.process.world.host.buffersToSend.length (chat.peers self).client.sent
    (chat.peers self).incoming.length

def owedDown (self : SessionId) (chat : Chat) : Nat :=
  effort (chat.server.world.host self).sendBufferSafeQueue.buffersToSend.length (chat.peers self).sent
    (chat.peers self).client.incoming.length

def onward : ChatEvent → Bool
  | .network _ .clientTransmits => true
  | .network _ .serverTransmits => true
  | .network _ (.clientCompleted (.received none _)) => true
  | .network _ (.clientCompleted (.wrote _ none)) => true
  | .completed _ (.received none _) _ => true
  | .completed _ (.wrote _ none) _ => true
  | _ => false

structure Lowered (wsSession : SessionId) (chat next : Chat) : Prop where
  runs : next.server.ending = .running
  log : next.log = chat.log
  peers : ∀ other, other ≠ wsSession → next.peers other = chat.peers other
  hosts : ∀ other, other ≠ wsSession → next.server.world.host other = chat.server.world.host other
  up : Up wsSession next
  accepted : (next.link wsSession).connection.accepted = (chat.link wsSession).connection.accepted
  upward : owedUp wsSession next = owedUp wsSession chat
  lower : owedDown wsSession next < owedDown wsSession chat

theorem with_link_peers (chat : Chat) (self : SessionId) (link : Link) : (chat.withLink self link).peers self =
    ⟨link.client, link.sending, link.server.incoming, link.server.sent, link.server.broken⟩ :=
  Function.update_self _ _ _

theorem with_link_others (chat : Chat) (self other : SessionId) (link : Link) (different : other ≠ self) :
    (chat.withLink self link).peers other = chat.peers other :=
  Function.update_of_ne different _ _

theorem down_read (stale : Address → Option Int) (chat : Chat) (self : SessionId) (tended : ChatTended chat)
    (runs : chat.server.ending = .running) (up : Up self chat) (message : Bytes) (rest : List Bytes)
    (arrives : (chat.peers self).client.incoming = message :: rest) (fits : message.length ≤ readBufferLimit) :
    ∃ next, chatStep stale chat (.network self (.clientCompleted (.received none message))) = some next ∧
      Lowered self chat next := by
  have opened := (up_session chat tended runs self up).1
  have reading := (tended.attended self).reading up.connected
  have stepped := client_reads self (chat.link self) message rest (tended.sound.lanes self).sound.client up.clientRuns
    up.clientWell reading up.connected arrives fits
  refine ⟨_, network_taken stale chat self _ _ (by simp) opened stepped, runs, rfl,
    fun other different => with_link_others chat self other _ different, fun _ _ => rfl, ?_, ?_, ?_, ?_⟩
  · refine ⟨up.present, ?_, ?_, ?_, ?_⟩
    · rw [with_link_peers]
      exact up.well
    · rw [with_link_peers]
    · rw [with_link_peers]
      exact up.clientWell
    · rw [with_link_peers]
      exact up.connected
  · simp only [Chat.link, Link.connection, with_link_peers]
    rfl
  · simp only [owedUp, with_link_peers]
    rfl
  · simp only [owedDown, with_link_peers, arrives, List.length_cons]
    exact effort_read _ _ _

theorem down_transmitted (stale : Address → Option Int) (chat : Chat) (self : SessionId) (tended : ChatTended chat)
    (runs : chat.server.ending = .running) (up : Up self chat) (idle : (chat.peers self).sent = 0) (front : SendBuffer)
    (rest : List SendBuffer)
    (buffers : (chat.server.world.host self).sendBufferSafeQueue.buffersToSend = front :: rest) :
    ∃ next, chatStep stale chat (.network self .serverTransmits) = some next ∧ Lowered self chat next := by
  obtain ⟨opened, serviced⟩ := up_session chat tended runs self up
  have writing : ((chat.link self).session self).pendingWrites[(chat.link self).server.sent]? = some front := by
    have first : (chat.server.world.host self).pendingWrites[(chat.peers self).sent]? = some front := by
      rw [serviced.writing, buffers, idle]
      rfl
    exact first
  have waits : (chat.peers self).sent < (chat.server.world.host self).sendBufferSafeQueue.buffersToSend.length := by
    rw [buffers, idle]
    exact Nat.succ_pos _
  have stepped : linkStep self (chat.link self) .serverTransmits = some { chat.link self with
      server := { (chat.link self).server with sent := (chat.link self).server.sent + 1 }
      client := { (chat.link self).client with incoming := (chat.link self).client.incoming ++ [front.data] } } := by
    have well : (chat.link self).server.broken = false := up.well
    simp only [linkStep, well, writing]
  refine ⟨_, network_taken stale chat self _ _ (by simp) opened stepped, runs, rfl,
    fun other different => with_link_others chat self other _ different, fun _ _ => rfl, ?_, ?_, ?_, ?_⟩
  · refine ⟨up.present, ?_, ?_, ?_, ?_⟩
    · rw [with_link_peers]
      exact up.well
    · rw [with_link_peers]
      exact up.clientRuns
    · rw [with_link_peers]
      exact up.clientWell
    · rw [with_link_peers]
      exact up.connected
  · simp only [Chat.link, Link.connection, with_link_peers]
  · simp only [owedUp, with_link_peers]
    rfl
  · simp only [owedDown, with_link_peers, List.length_append, List.length_singleton]
    exact effort_transmitted _ _ _ waits

theorem down_written (stale : Address → Option Int) (chat : Chat) (self : SessionId) (tended : ChatTended chat)
    (runs : chat.server.ending = .running) (up : Up self chat) (started : 0 < (chat.peers self).sent) :
    ∃ address next, chatStep stale chat (.completed self (.wrote 0 none) address) = some next ∧ Lowered self chat next := by
  obtain ⟨_, serviced⟩ := up_session chat tended runs self up
  obtain ⟨address, allocatable⟩ := fresh_address chat.server.world.app self
  have within : (chat.peers self).sent ≤ (chat.server.world.host self).pendingWrites.length :=
    (tended.sound.lanes self).sound.server.sent
  cases buffers : (chat.server.world.host self).sendBufferSafeQueue.buffersToSend with
  | nil =>
      rw [serviced.writing, buffers, List.take_nil, List.length_nil] at within
      exact absurd within (Nat.not_le_of_lt started)
  | cons front rest =>
      have completes : (chat.link self).server.completes (.wrote 0 none) =
          some { (chat.link self).server with sent := (chat.link self).server.sent - 1 } :=
        if_pos ⟨up.well, started⟩
      have written := front_written stale address self chat.server.world front rest (tended.served runs).1 allocatable
        buffers serviced.writing
      have stepped : chatStep stale chat (.completed self (.wrote 0 none) address) = some {
          server := ⟨chat.server.world.update self { chat.server.world.host self with
            sendBufferSafeQueue := ⟨rest⟩, pendingWrites := rest.take 1 }, .running⟩
          peers := Function.update chat.peers self { chat.peers self with sent := (chat.peers self).sent - 1 }
          log := chat.log } := by
        have same : chat.server = ⟨chat.server.world, .running⟩ := by rw [← runs]
        rw [← same] at written
        simp only [chatStep, sessionResult, completes, written, Option.bind_some, Option.map_some, calledBack,
          Option.toList_none, List.append_nil]
        rfl
      refine ⟨address, _, stepped, rfl, rfl, fun other different => Function.update_of_ne different _ _,
        fun other different => World.update_other _ _ _ _ different, ?_, ?_, ?_, ?_⟩
      · refine ⟨up.present, ?_, ?_, ?_, ?_⟩
        · simpa using up.well
        · simpa using up.clientRuns
        · simpa using up.clientWell
        · simpa using up.connected
      · simp [Chat.link, Link.connection]
      · simp [owedUp]
      · simp only [owedDown, Function.update_self, World.update_same, buffers, List.length_cons]
        refine effort_written _ _ _ started ?_
        rw [serviced.writing, buffers] at within
        exact within.trans (by simp)

theorem down_step (stale : Address → Option Int) (chat : Chat) (self : SessionId) (tended : ChatTended chat)
    (offers : ∀ other, Offers Modest (chat.peers other).client (chat.peers other).sending)
    (runs : chat.server.ending = .running) (up : Up self chat) (owes : owedDown self chat ≠ 0) :
    ∃ event next, onward event = true ∧ chatStep stale chat event = some next ∧ Lowered self chat next := by
  cases arrives : (chat.peers self).client.incoming with
  | cons message rest =>
      have flies : message ∈ (chat.peers self).client.incoming := by
        rw [arrives]
        exact List.mem_cons_self
      have readable := (readable_in_flight chat tended.sound offers self).2.1 message flies
      obtain ⟨next, taken, lowered⟩ := down_read stale chat self tended runs up message rest arrives readable.fits
      exact ⟨_, next, rfl, taken, lowered⟩
  | nil =>
      rcases Nat.eq_zero_or_pos (chat.peers self).sent with idle | started
      · cases buffers : (chat.server.world.host self).sendBufferSafeQueue.buffersToSend with
        | nil => exact absurd ((effort_none _ _ _).mpr ⟨by rw [buffers]; rfl, idle, by rw [arrives]; rfl⟩) owes
        | cons front rest =>
            obtain ⟨next, taken, lowered⟩ := down_transmitted stale chat self tended runs up idle front rest buffers
            exact ⟨_, next, rfl, taken, lowered⟩
      · obtain ⟨address, next, taken, lowered⟩ := down_written stale chat self tended runs up started
        exact ⟨_, next, rfl, taken, lowered⟩

structure Raised (wsSession : SessionId) (chat next : Chat) : Prop where
  runs : next.server.ending = .running
  log : next.log = chat.log ∨ ∃ message, next.log = chat.log ++ [.newMessage wsSession message]
  peers : ∀ other, other ≠ wsSession → next.peers other = chat.peers other
  up : Up wsSession next
  accepted : (next.link wsSession).connection.accepted = (chat.link wsSession).connection.accepted
  lower : owedUp wsSession next < owedUp wsSession chat

theorem up_read (stale : Address → Option Int) (chat : Chat) (self : SessionId) (tended : ChatTended chat)
    (runs : chat.server.ending = .running) (up : Up self chat) (message : Bytes) (rest : List Bytes)
    (arrives : (chat.peers self).incoming = message :: rest) (fits : message.length ≤ readBufferLimit) :
    ∃ address next, chatStep stale chat (.completed self (.received none message) address) = some next ∧
      Raised self chat next := by
  obtain ⟨_, serviced⟩ := up_session chat tended runs self up
  obtain ⟨address, allocatable⟩ := fresh_address chat.server.world.app self
  have reading : 0 < (chat.server.world.host self).pendingReads := by
    rw [serviced.reading]
    exact Nat.one_pos
  obtain ⟨server, taken⟩ := server_reads stale chat tended.sound self message rest address runs up.well reading arrives fits
    allocatable
  refine ⟨address, _, taken, rfl, .inr ⟨message, rfl⟩,
    fun other different => Function.update_of_ne different _ _, ?_, ?_, ?_⟩
  · refine ⟨?_, ?_, ?_, ?_, ?_⟩
    · rw [present_snoc]
      exact up.present
    · simpa using up.well
    · simpa using up.clientRuns
    · simpa using up.clientWell
    · simpa using up.connected
  · simp [Chat.link, Link.connection]
  · simp only [owedUp, Function.update_self, arrives, List.length_cons]
    exact effort_read _ _ _

theorem up_transmitted (stale : Address → Option Int) (chat : Chat) (self : SessionId) (tended : ChatTended chat)
    (runs : chat.server.ending = .running) (up : Up self chat) (idle : (chat.peers self).client.sent = 0)
    (front : SendBuffer) (rest : List SendBuffer)
    (buffers : (chat.peers self).client.process.world.host.buffersToSend = front :: rest) :
    ∃ next, chatStep stale chat (.network self .clientTransmits) = some next ∧ Raised self chat next := by
  have opened := (up_session chat tended runs self up).1
  have writing : (chat.link self).connection.pendingWrites[(chat.link self).client.sent]? = some front := by
    have first : (chat.link self).connection.pendingWrites[(chat.peers self).client.sent]? = some front := by
      have queued : (chat.link self).connection.buffersToSend = front :: rest := buffers
      rw [(tended.attended self).writing up.connected, queued, idle]
      rfl
    exact first
  have waits : (chat.peers self).client.sent < (chat.peers self).client.process.world.host.buffersToSend.length := by
    rw [buffers, idle]
    exact Nat.succ_pos _
  have stepped : linkStep self (chat.link self) .clientTransmits = some { chat.link self with
      client := { (chat.link self).client with sent := (chat.link self).client.sent + 1 }
      server := { (chat.link self).server with incoming := (chat.link self).server.incoming ++ [front.data] } } := by
    have well : (chat.link self).client.broken = false := up.clientWell
    simp only [linkStep, well, writing]
  refine ⟨_, network_taken stale chat self _ _ (by simp) opened stepped, runs, .inl rfl,
    fun other different => with_link_others chat self other _ different, ?_, ?_, ?_⟩
  · refine ⟨up.present, ?_, ?_, ?_, ?_⟩
    · rw [with_link_peers]
      exact up.well
    · rw [with_link_peers]
      exact up.clientRuns
    · rw [with_link_peers]
      exact up.clientWell
    · rw [with_link_peers]
      exact up.connected
  · simp only [Chat.link, Link.connection, with_link_peers]
  · simp only [owedUp, with_link_peers, List.length_append, List.length_singleton]
    exact effort_transmitted _ _ _ waits

theorem write_popped (world : WatchedClient) (front : SendBuffer) (rest : List SendBuffer)
    (connected : world.host.isConnected = true) (buffers : world.host.buffersToSend = front :: rest)
    (writing : world.host.pendingWrites = world.host.buffersToSend.take 1) :
    WebSocketConnection.complete watching world (.wrote 0 none) = some (.returned
      ⟨{ world.host with buffersToSend := rest, pendingWrites := rest.take 1 }, world.app⟩) := by
  rw [WebSocketConnection.complete_wrote]
  refine ⟨by rw [writing, buffers]; exact Nat.one_pos, ?_⟩
  simp only [WebSocketConnection.onWrite, connected, Bool.true_eq_false, if_false, WebSocketConnection.pop_queued,
    Outcome.map_returned, buffers, writing, List.take_succ_cons, List.take_zero, List.eraseIdx_cons_zero, List.tail_cons,
    List.nil_append]

theorem up_written (stale : Address → Option Int) (chat : Chat) (self : SessionId) (tended : ChatTended chat)
    (runs : chat.server.ending = .running) (up : Up self chat) (started : 0 < (chat.peers self).client.sent) :
    ∃ next, chatStep stale chat (.network self (.clientCompleted (.wrote 0 none))) = some next ∧ Raised self chat next := by
  have opened := (up_session chat tended runs self up).1
  have writing := (tended.attended self).writing up.connected
  have within : (chat.peers self).client.sent ≤ (chat.link self).connection.pendingWrites.length :=
    (tended.sound.lanes self).sound.client.sent
  cases buffers : (chat.link self).connection.buffersToSend with
  | nil =>
      rw [writing, buffers, List.take_nil, List.length_nil] at within
      exact absurd within (Nat.not_le_of_lt started)
  | cons front rest =>
      have completes : (chat.link self).client.completes (.wrote 0 none) =
          some { (chat.link self).client with sent := (chat.link self).client.sent - 1 } :=
        if_pos ⟨up.clientWell, started⟩
      have popped := write_popped (chat.link self).client.process.world front rest up.connected buffers writing
      have going : (chat.link self).client.process.ending = .running := up.clientRuns
      have stepped : linkStep self (chat.link self) (.clientCompleted (.wrote 0 none)) = some { chat.link self with
          client := { (chat.link self).client with
            sent := (chat.link self).client.sent - 1
            process := ⟨⟨{ (chat.link self).connection with buffersToSend := rest, pendingWrites := rest.take 1 },
              (chat.link self).client.process.world.app⟩, .running⟩ } } := by
        simp only [linkStep, going, clientResult, completes, popped, Option.bind_some, Option.map_some, settle]
        rfl
      refine ⟨_, network_taken stale chat self _ _ (by simp) opened stepped, runs, .inl rfl,
        fun other different => with_link_others chat self other _ different, ?_, ?_, ?_⟩
      · refine ⟨up.present, ?_, ?_, ?_, ?_⟩
        · rw [with_link_peers]
          exact up.well
        · rw [with_link_peers]
        · rw [with_link_peers]
          exact up.clientWell
        · rw [with_link_peers]
          exact up.connected
      · simp only [Chat.link, Link.connection, with_link_peers]
      · have queued : (chat.peers self).client.process.world.host.buffersToSend = front :: rest := buffers
        simp only [owedUp, with_link_peers, queued, List.length_cons]
        refine effort_written _ _ _ started ?_
        rw [writing, buffers] at within
        exact within.trans (by simp)

theorem up_step (stale : Address → Option Int) (chat : Chat) (self : SessionId) (tended : ChatTended chat)
    (offers : ∀ other, Offers Modest (chat.peers other).client (chat.peers other).sending)
    (runs : chat.server.ending = .running) (up : Up self chat) (owes : owedUp self chat ≠ 0) :
    ∃ event next, onward event = true ∧ chatStep stale chat event = some next ∧ Raised self chat next := by
  cases arrives : (chat.peers self).incoming with
  | cons message rest =>
      have flies : message ∈ (chat.peers self).incoming := by
        rw [arrives]
        exact List.mem_cons_self
      have readable := (readable_in_flight chat tended.sound offers self).2.2 message flies
      obtain ⟨address, next, taken, raised⟩ := up_read stale chat self tended runs up message rest arrives readable.fits
      exact ⟨_, next, rfl, taken, raised⟩
  | nil =>
      rcases Nat.eq_zero_or_pos (chat.peers self).client.sent with idle | started
      · cases buffers : (chat.peers self).client.process.world.host.buffersToSend with
        | nil => exact absurd ((effort_none _ _ _).mpr ⟨by rw [buffers]; rfl, idle, by rw [arrives]; rfl⟩) owes
        | cons front rest =>
            obtain ⟨next, taken, raised⟩ := up_transmitted stale chat self tended runs up idle front rest buffers
            exact ⟨_, next, rfl, taken, raised⟩
      · obtain ⟨next, taken, raised⟩ := up_written stale chat self tended runs up started
        exact ⟨_, next, rfl, taken, raised⟩

end NetworkWrapper
