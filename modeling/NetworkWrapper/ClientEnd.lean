import NetworkWrapper.ServerEnd

set_option autoImplicit false

namespace NetworkWrapper

open WebSocketConnection

def connectionOutbound (connection : WebSocketConnection) (sent : Nat) (broken : Bool) : Lane.Outbound Bytes :=
  ⟨connection.accepted, unsent connection.buffersToSend sent, broken⟩

-- The client's own rules: as in a session the front of the queue is the message
-- being written, but nothing can be queued before the handshake is done.
structure ClientSide (connection : WebSocketConnection) (sent : Nat) (broken : Bool) (sending : List Bytes) : Prop where
  outstanding : connection.pendingWrites <+: connection.buffersToSend.take 1
  sent : sent ≤ connection.pendingWrites.length
  unresolved : connection.pendingResolves = 0
  unconnected : connection.pendingConnects = 0
  single : connection.pendingHandshakes + connection.pendingReads ≤ 1
  consumed : 0 < connection.pendingHandshakes + connection.pendingReads → connection.readBuffer = []
  opening : broken = false → connection.isConnected = false →
    connection.buffersToSend = [] ∧ connection.pendingReads = 0 ∧ sending = []

theorem client_messages_append (before after : List ClientCallback) :
    clientMessages (before ++ after) = clientMessages before ++ clientMessages after :=
  List.filterMap_append

theorem client_side_checked (connection : WebSocketConnection) (sent : Nat) (broken : Bool) (sending : List Bytes)
    (inData : Bytes) (side : ClientSide connection sent broken sending) (connected : connection.isConnected = true) :
    ClientSide connection sent broken (sending ++ [inData]) := by
  refine { side with opening := fun _ closed => ?_ }
  rw [connected] at closed
  cases closed

theorem client_side_locked (connection : WebSocketConnection) (sent : Nat) (broken : Bool) (sending : List Bytes)
    (index : Nat) (inData : Bytes) (side : ClientSide connection sent broken sending)
    (held : sending[index]? = some inData) :
    ClientSide (connection.lockedSend inData).world sent broken (sending.eraseIdx index) ∧
      Lane.Sends (connectionOutbound connection sent broken)
        (connectionOutbound (connection.lockedSend inData).world sent broken) := by
  have busy : sending ≠ [] := by
    rintro rfl
    cases held
  have opened (unbroken : broken = false) (closed : connection.isConnected = false) : False :=
    busy (side.opening unbroken closed).2.2
  by_cases empty : inData = []
  · rw [empty, locked_send_empty]
    exact ⟨{ side with opening := fun unbroken closed => absurd closed (opened unbroken) }, Lane.sends_refl _⟩
  · rw [locked_send_nonempty connection inData empty]
    have started := outstanding_queued _ _ sent side.outstanding side.sent
    have longer := Lane.sends_accepts (connectionOutbound connection sent broken) [inData]
    refine ⟨{
      side with
      outstanding := ?_
      sent := side.sent.trans (List.prefix_append _ _).length_le
      opening := fun unbroken closed => absurd closed (opened unbroken) }, ?_⟩
    · have outstanding := side.outstanding
      cases buffers : connection.buffersToSend with
      | nil =>
          rw [buffers, List.take_nil, List.prefix_nil] at outstanding
          simp [outstanding]
      | cons front rest => simpa [buffers] using outstanding
    · simpa only [connectionOutbound, Outcome.world_returned, unsent_more _ _ _ started, List.map_cons,
        List.map_nil] using longer

theorem client_loses (before after : WebSocketConnection) (sent later : Nat) (broken : Bool)
    (same : after.accepted = before.accepted) :
    Lane.Sends (connectionOutbound before sent broken) (connectionOutbound after later true) := by
  have kept := Lane.sends_broken (connectionOutbound before sent broken) (unsent after.buffersToSend later)
  simpa only [connectionOutbound, same] using kept

theorem client_hears_nothing (incoming : List Bytes) (before added : List ClientCallback)
    (silent : clientMessages added = []) :
    Lane.Receives ⟨incoming, clientMessages before⟩ ⟨incoming, clientMessages (before ++ added)⟩ := by
  rw [client_messages_append, silent, List.append_nil]
  exact Lane.receives_refl _

theorem client_side_lost_write (connection : WebSocketConnection) (sent index : Nat) (broken : Bool)
    (sending : List Bytes) (side : ClientSide connection sent broken sending)
    (pending : index < connection.pendingWrites.length) (left : List SendBuffer) (isConnected : Bool) :
    ClientSide { connection with
      isConnected := isConnected
      buffersToSend := left
      pendingWrites := connection.pendingWrites.eraseIdx index }
      (if index < sent then sent - 1 else sent) true sending := by
  have started := side.sent
  obtain ⟨rfl, front, rest, _, writing⟩ := outstanding_front _ _ side.outstanding index pending
  rw [writing, List.length_singleton] at started
  refine {
    side with
    outstanding := by simp [writing]
    sent := ?_
    opening := fun unbroken => by cases unbroken }
  rw [writing]
  split
  · exact Nat.sub_le_of_le_add started
  · omega

theorem handshaken_side (world : WatchedClient) (sent : Nat) (broken : Bool) (sending : List Bytes) (ec : ErrorCode)
    (side : ClientSide world.host sent broken sending) (pending : 0 < world.host.pendingHandshakes) :
    let handshaken := (onHandshake watching ec { world with host := { world.host with
      pendingHandshakes := world.host.pendingHandshakes - 1 } }).world
    let after := broken || ec.isSome
    ClientSide handshaken.host sent after sending ∧
      Lane.Sends (connectionOutbound world.host sent broken) (connectionOutbound handshaken.host sent after) ∧
      ∃ added, handshaken.app = world.app ++ added ∧ clientMessages added = [] := by
  have single := side.single
  have emptied := side.consumed (by omega)
  cases ec with
  | some what =>
      simp only [onHandshake, failed_watching, Outcome.world_returned, Option.isSome_some, Bool.or_true]
      refine ⟨{
        side with
        single := by simp only; omega
        consumed := fun _ => emptied
        opening := fun unbroken => by cases unbroken }, client_loses _ _ _ _ _ rfl, _, rfl, rfl⟩
  | none =>
      simp only [onHandshake, watching, noteClient, doRead, Outcome.world_returned, Option.isSome_none, Bool.or_false]
      refine ⟨{
        side with
        single := by simp only; omega
        consumed := fun _ => emptied
        opening := fun _ closed => by cases closed }, Lane.sends_refl _, _, rfl, rfl⟩

theorem received_message_side (world : WatchedClient) (sent : Nat) (sending : List Bytes) (message : Bytes)
    (side : ClientSide world.host sent false sending) (pending : 0 < world.host.pendingReads) :
    let received := (onRead watching none { world with host := { world.host with
      pendingReads := world.host.pendingReads - 1
      readBuffer := world.host.readBuffer ++ message } }).world
    ClientSide received.host sent false sending ∧
      connectionOutbound received.host sent false = connectionOutbound world.host sent false ∧
      received.app = world.app ++ [.onMessage message] := by
  have single := side.single
  have emptied := side.consumed (by omega)
  have connected : world.host.isConnected = true := by
    by_contra closed
    have opening := side.opening rfl (by simpa using closed)
    omega
  simp only [onRead, connected, Bool.true_eq_false, if_false, watching, noteClient, Outcome.returned_and_then, doRead,
    Outcome.world_returned, emptied, List.nil_append]
  refine ⟨{
    side with
    single := by simp only; omega
    consumed := fun _ => rfl
    opening := fun _ closed => by cases closed }, rfl, trivial⟩

theorem lost_read_side (world : WatchedClient) (sent : Nat) (broken : Bool) (sending : List Bytes) (what : String)
    (message : Bytes) (side : ClientSide world.host sent broken sending) (pending : 0 < world.host.pendingReads) :
    let lost := (onRead watching (some what) { world with host := { world.host with
      pendingReads := world.host.pendingReads - 1
      readBuffer := world.host.readBuffer ++ message } }).world
    ClientSide lost.host sent true sending ∧
      lost.host.accepted = world.host.accepted ∧ ∃ added, lost.app = world.app ++ added ∧ clientMessages added = [] := by
  have single := side.single
  unfold onRead
  split
  · refine ⟨{
      side with
      single := by simp only [Outcome.world_returned]; omega
      consumed := by simp only [Outcome.world_returned]; omega
      opening := fun unbroken => by cases unbroken }, rfl, [], by simp, rfl⟩
  · simp only [failed_watching, Outcome.world_returned]
    refine ⟨{
      side with
      single := by simp only; omega
      consumed := by simp only; omega
      opening := fun unbroken => by cases unbroken }, trivial, _, rfl, rfl⟩

theorem wrote_message_side (world : WatchedClient) (sent index : Nat) (sending : List Bytes)
    (side : ClientSide world.host sent false sending) (transmitted : index < sent) :
    let wrote := (onWrite watching none { world with host := { world.host with
      pendingWrites := world.host.pendingWrites.eraseIdx index } }).world
    ClientSide wrote.host (sent - 1) false sending ∧
      connectionOutbound wrote.host (sent - 1) false = connectionOutbound world.host sent false ∧
      wrote.app = world.app := by
  obtain ⟨rfl, front, rest, buffers, writing⟩ :=
    outstanding_front _ _ side.outstanding index (Nat.lt_of_lt_of_le transmitted side.sent)
  have started := side.sent
  rw [writing, List.length_singleton] at started
  obtain rfl : sent = 1 := by omega
  have connected : world.host.isConnected = true := by
    by_contra closed
    have opening := side.opening rfl (by simpa using closed)
    rw [buffers] at opening
    cases opening.1
  simp only [onWrite, connected, Bool.true_eq_false, if_false, pop_queued, Outcome.map_returned, Outcome.world_returned,
    writing, buffers, List.eraseIdx_cons_zero, List.nil_append, List.tail_cons]
  refine ⟨{
    side with
    outstanding := List.prefix_refl _
    sent := Nat.zero_le _
    opening := fun _ closed => by cases closed }, ?_, trivial⟩
  simp only [connectionOutbound, buffers, unsent, Nat.sub_self, List.drop_zero, List.drop_succ_cons]

theorem lost_write_watching (world : WatchedClient) (sent index : Nat) (broken : Bool) (sending : List Bytes)
    (what : String) (side : ClientSide world.host sent broken sending)
    (pending : index < world.host.pendingWrites.length) :
    let lost := (onWrite watching (some what) { world with host := { world.host with
      pendingWrites := world.host.pendingWrites.eraseIdx index } }).world
    ClientSide lost.host (if index < sent then sent - 1 else sent) true sending ∧
      lost.host.accepted = world.host.accepted ∧ ∃ added, lost.app = world.app ++ added ∧ clientMessages added = [] := by
  have lost := client_side_lost_write world.host sent index broken sending side pending
  unfold onWrite
  split
  · exact ⟨lost [] world.host.isConnected, rfl, [], by simp, rfl⟩
  · simp only [failed_watching, Outcome.world_returned]
    exact ⟨lost world.host.buffersToSend false, trivial, _, rfl, rfl⟩

def clientInbound (endpoint : Endpoint WatchedClient) : Lane.Inbound Bytes :=
  ⟨endpoint.incoming, clientMessages endpoint.process.world.app⟩

def clientOutbound (endpoint : Endpoint WatchedClient) : Lane.Outbound Bytes :=
  connectionOutbound endpoint.process.world.host endpoint.sent endpoint.broken

theorem client_completes (endpoint after : Endpoint WatchedClient) (sending : List Bytes)
    (completion : ClientCompletion) (outcome : Outcome WatchedClient)
    (side : ClientSide endpoint.process.world.host endpoint.sent endpoint.broken sending)
    (allowed : endpoint.completes (clientResult completion) = some after)
    (taken : complete watching endpoint.process.world completion = some outcome) :
    ClientSide outcome.world.host after.sent after.broken sending ∧
      Lane.Sends (clientOutbound endpoint) (connectionOutbound outcome.world.host after.sent after.broken) ∧
      Lane.Receives (clientInbound endpoint) ⟨after.incoming, clientMessages outcome.world.app⟩ := by
  cases completion with
  | resolved ec =>
      obtain ⟨pending, _⟩ := (complete_resolved _ _ _ _).mp taken
      exact absurd side.unresolved (Nat.ne_of_gt pending)
  | connected ec =>
      obtain ⟨pending, _⟩ := (complete_connected _ _ _ _).mp taken
      exact absurd side.unconnected (Nat.ne_of_gt pending)
  | handshaken ec =>
      obtain ⟨pending, rfl⟩ := (complete_handshaken _ _ _ _).mp taken
      obtain ⟨kept, sends, added, app, silent⟩ := handshaken_side _ _ _ _ ec side pending
      have steady : after.incoming = endpoint.incoming ∧ after.sent = endpoint.sent ∧
          after.broken = (endpoint.broken || ec.isSome) := by
        cases ec with
        | some what =>
            cases allowed
            exact ⟨rfl, rfl, (Bool.or_true _).symm⟩
        | none =>
            obtain ⟨_, rfl⟩ := completes_other _ _ allowed
            exact ⟨rfl, rfl, (Bool.or_false _).symm⟩
      obtain ⟨incoming, sent, broken⟩ := steady
      rw [incoming, sent, broken, app]
      exact ⟨kept, sends, client_hears_nothing _ _ _ silent⟩
  | received ec message =>
      obtain ⟨⟨pending, _⟩, rfl⟩ := (complete_received _ _ _ _ _).mp taken
      cases ec with
      | some what =>
          cases allowed
          obtain ⟨kept, same, added, app, silent⟩ := lost_read_side _ _ _ _ what message side pending
          rw [app]
          exact ⟨kept, client_loses _ _ _ _ _ same, client_hears_nothing _ _ _ silent⟩
      | none =>
          obtain ⟨rest, arrives, unbroken, rfl⟩ := completes_received _ _ _ allowed
          rw [unbroken] at side
          obtain ⟨kept, same, app⟩ := received_message_side _ _ _ message side pending
          simp only [clientOutbound, clientInbound, arrives, unbroken, app, same, client_messages_append]
          exact ⟨kept, Lane.sends_refl _, Lane.receives_next message rest _⟩
  | wrote index ec =>
      obtain ⟨pending, rfl⟩ := (complete_wrote _ _ _ _ _).mp taken
      cases ec with
      | some what =>
          cases allowed
          obtain ⟨kept, same, added, app, silent⟩ := lost_write_watching _ _ index _ _ what side pending
          rw [app]
          exact ⟨kept, client_loses _ _ _ _ _ same, client_hears_nothing _ _ _ silent⟩
      | none =>
          obtain ⟨⟨unbroken, transmitted⟩, rfl⟩ := completes_wrote _ _ _ allowed
          rw [unbroken] at side
          obtain ⟨kept, same, app⟩ := wrote_message_side _ _ index _ side transmitted
          simp only [clientOutbound, clientInbound, unbroken, app, same]
          exact ⟨kept, Lane.sends_refl _, Lane.receives_refl _⟩

end NetworkWrapper
