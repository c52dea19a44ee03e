import NetworkWrapper.Lane
import NetworkWrapper.Link
import NetworkWrapper.SessionFeed

set_option autoImplicit false

-- The server's end of the connection drives two lanes: it sends on one and
-- receives on the other.
namespace NetworkWrapper

open WebSocketSession

def unsent (queue : List SendBuffer) (sent : Nat) : List Bytes := (queue.drop sent).map SendBuffer.data

def sessionOutbound (session : WebSocketSession) (sent : Nat) (broken : Bool) : Lane.Outbound Bytes :=
  ⟨session.accepted, unsent session.sendBufferSafeQueue.buffersToSend sent, broken⟩

structure ServerSide (session : WebSocketSession) (sent : Nat) : Prop where
  sole : SoleWriter session
  reader : OneReader session
  sent : sent ≤ session.pendingWrites.length

theorem outstanding_queued (queue writes : List SendBuffer) (sent : Nat) (outstanding : writes <+: queue.take 1)
    (started : sent ≤ writes.length) : sent ≤ queue.length :=
  started.trans (outstanding.length_le.trans (List.length_take_le' 1 queue))

theorem unsent_more (queue added : List SendBuffer) (sent : Nat) (started : sent ≤ queue.length) :
    unsent (queue ++ added) sent = unsent queue sent ++ added.map SendBuffer.data := by
  rw [unsent, List.drop_append_of_le_length started, List.map_append, unsent]

theorem server_side_fed (before after : WebSocketSession) (sent : Nat) (side : ServerSide before sent)
    (fed : Fed before after) : ServerSide after sent := by
  obtain ⟨added, _, _, sole, accepts, reads, buffer⟩ := fed
  obtain ⟨kept, writes⟩ := sole side.sole
  refine ⟨kept, ⟨?_, ?_⟩, side.sent.trans writes.length_le⟩
  · rw [accepts, reads]
    exact side.reader.single
  · rw [accepts, reads, buffer]
    exact side.reader.consumed

theorem sends_fed (before after : WebSocketSession) (sent : Nat) (broken : Bool) (side : ServerSide before sent)
    (fed : Fed before after) : Lane.Sends (sessionOutbound before sent broken) (sessionOutbound after sent broken) := by
  obtain ⟨added, buffers, accepted, _⟩ := fed
  have started := outstanding_queued _ _ sent side.sole.outstanding side.sent
  have longer := Lane.sends_accepts (sessionOutbound before sent broken) (added.map SendBuffer.data)
  simpa only [sessionOutbound, buffers, accepted, unsent_more _ _ _ started] using longer

theorem resumed_side (self : SessionId) (calls : List Call) (callback : Callback) (world : Watched) (sent : Nat)
    (broken : Bool) (resume : WebSocketSession → WebSocketSession) (side : ServerSide (world.host self) sent)
    (resumes : ∀ session, ServerSide session sent → Fed (world.host self) session → ServerSide (resume session) sent ∧
      sessionOutbound (resume session) sent broken = sessionOutbound session sent broken) :
    let resumed := (performAll calls (note self callback world)).andThen fun world =>
      world.call self fun session => .returned (resume session)
    ServerSide (resumed.world.host self) sent ∧
      Lane.Sends (sessionOutbound (world.host self) sent broken)
        (sessionOutbound (resumed.world.host self) sent broken) := by
  have fed := fed_callback self self callback calls world
  apply Outcome.and_then_world fun after : Watched => ServerSide (after.host self) sent ∧
    Lane.Sends (sessionOutbound (world.host self) sent broken) (sessionOutbound (after.host self) sent broken)
  · exact ⟨server_side_fed _ _ sent side fed, sends_fed _ _ sent broken side fed⟩
  · intro middle done
    rw [done] at fed
    obtain ⟨kept, same⟩ := resumes (middle.host self) (server_side_fed _ _ sent side fed) fed
    rw [World.call_same, Outcome.world_returned, same]
    exact ⟨kept, sends_fed _ _ sent broken side fed⟩

theorem server_side_accepted (session : WebSocketSession) (sent : Nat) (side : ServerSide session sent)
    (pending : 0 < session.pendingAccepts) :
    let resting := { session with pendingAccepts := session.pendingAccepts - 1 }
    ServerSide resting sent ∧ resting.pendingAccepts + resting.pendingReads = 0 ∧ resting.readBuffer = [] := by
  have single := side.reader.single
  have idle : session.pendingAccepts - 1 + session.pendingReads = 0 := by omega
  exact ⟨⟨{ side.sole with }, one_reader_resting _ idle, side.sent⟩,
    idle, side.reader.consumed (by omega)⟩

theorem server_side_received (session : WebSocketSession) (sent : Nat) (message : Bytes) (side : ServerSide session sent)
    (pending : 0 < session.pendingReads) :
    let resting := { session with
      pendingReads := session.pendingReads - 1
      readBuffer := session.readBuffer ++ message }
    ServerSide resting sent ∧ resting.pendingAccepts + resting.pendingReads = 0 ∧ resting.readBuffer = message := by
  have single := side.reader.single
  have idle : session.pendingAccepts + (session.pendingReads - 1) = 0 := by omega
  have emptied := side.reader.consumed (by omega)
  exact ⟨⟨{ side.sole with }, one_reader_resting _ idle, side.sent⟩,
    idle, by rw [emptied, List.nil_append]⟩

theorem server_side_reading (session : WebSocketSession) (sent : Nat) (side : ServerSide session sent)
    (idle : session.pendingAccepts + session.pendingReads = 0) :
    ServerSide { session with readBuffer := [], pendingReads := session.pendingReads + 1 } sent :=
  ⟨{ side.sole with }, one_reader_reading session idle, side.sent⟩

theorem failed_side (self : SessionId) (calls : List Call) (world : Watched) (before : WebSocketSession)
    (sent after : Nat) (broken : Bool) (side : ServerSide (world.host self) after)
    (same : (world.host self).accepted = before.accepted) :
    let failed := (connectionError (recording calls) self world).world.host self
    ServerSide failed after ∧
      Lane.Sends (sessionOutbound before sent broken) (sessionOutbound failed after true) := by
  have fed := fed_connection_error self calls world
  have cut : Lane.Sends (sessionOutbound before sent broken) (sessionOutbound (world.host self) after true) := by
    have kept := Lane.sends_broken (sessionOutbound before sent broken)
      (unsent (world.host self).sendBufferSafeQueue.buffersToSend after)
    simpa only [sessionOutbound, same] using kept
  exact ⟨server_side_fed _ _ after side fed, Lane.sends_trans _ _ _ cut (sends_fed _ _ after true side fed)⟩

theorem accepted_side (self : SessionId) (calls : List Call) (world : Watched) (sent : Nat) (broken : Bool)
    (side : ServerSide (world.host self) sent)
    (idle : (world.host self).pendingAccepts + (world.host self).pendingReads = 0)
    (unread : (world.host self).readBuffer = []) :
    let accepted := (onAccept (recording calls) self none world).world.host self
    ServerSide accepted sent ∧
      Lane.Sends (sessionOutbound (world.host self) sent broken) (sessionOutbound accepted sent broken) := by
  apply resumed_side self calls .onConnection world sent broken _ side
  intro session kept fed
  obtain ⟨_, _, _, _, accepts, reads, buffer⟩ := fed
  have reading := server_side_reading session sent kept (by rw [accepts, reads, idle])
  have empty : session.readBuffer = [] := buffer.trans unread
  rw [kept.sole.unstranded]
  rw [← empty] at reading
  exact ⟨reading, rfl⟩

theorem received_side (self : SessionId) (calls : List Call) (world : Watched) (sent : Nat) (broken : Bool)
    (side : ServerSide (world.host self) sent)
    (idle : (world.host self).pendingAccepts + (world.host self).pendingReads = 0) :
    let received := (onRead (recording calls) self none world).world.host self
    ServerSide received sent ∧
      Lane.Sends (sessionOutbound (world.host self) sent broken) (sessionOutbound received sent broken) := by
  apply resumed_side self calls (.onMessage (world.host self).readBuffer) world sent broken _ side
  intro session kept fed
  obtain ⟨_, _, _, _, accepts, reads, _⟩ := fed
  exact ⟨server_side_reading session sent kept (by rw [accepts, reads, idle]), rfl⟩

theorem wrote_side (self : SessionId) (calls : List Call) (world : Watched) (sent index : Nat) (broken : Bool)
    (side : ServerSide (world.host self) sent) (transmitted : index < sent) :
    let wrote := (onWrite (recording calls) self none (world.update self
      { world.host self with pendingWrites := (world.host self).pendingWrites.eraseIdx index })).world.host self
    ServerSide wrote (sent - 1) ∧
      sessionOutbound wrote (sent - 1) broken = sessionOutbound (world.host self) sent broken := by
  obtain ⟨front, rest, buffers, writing, popped⟩ :=
    sole_writer_sent (world.host self) side.sole index (Nat.lt_of_lt_of_le transmitted side.sent)
  have started := side.sent
  rw [writing, List.length_singleton] at started
  obtain rfl : sent = 1 := by omega
  simp only [onWrite, World.call_same, World.update_same, popped, Outcome.world_returned]
  refine ⟨⟨sole_writer_after _ side.sole rest, { side.reader with }, Nat.zero_le _⟩, ?_⟩
  simp only [sessionOutbound, buffers, unsent, Nat.sub_self, List.drop_zero, List.drop_succ_cons]

theorem lost_write_side (session : WebSocketSession) (sent index : Nat) (side : ServerSide session sent)
    (pending : index < session.pendingWrites.length) :
    ServerSide { session with pendingWrites := session.pendingWrites.eraseIdx index }
      (if index < sent then sent - 1 else sent) := by
  have started := side.sent
  obtain ⟨rfl, front, rest, _, writing⟩ := sole_writer_single session side.sole index pending
  refine ⟨sole_writer_failed session side.sole 0, { side.reader with }, ?_⟩
  rw [writing, List.length_singleton] at started
  rw [writing]
  split
  · exact Nat.sub_le_of_le_add started
  · omega

def serverInbound (self : SessionId) (endpoint : Endpoint Watched) : Lane.Inbound Bytes :=
  ⟨endpoint.incoming, sessionMessages (callbacksOf self endpoint.process.world)⟩

def serverOutbound (self : SessionId) (endpoint : Endpoint Watched) : Lane.Outbound Bytes :=
  sessionOutbound (endpoint.process.world.host self) endpoint.sent endpoint.broken

theorem session_messages_append (before after : List Callback) :
    sessionMessages (before ++ after) = sessionMessages before ++ sessionMessages after :=
  List.filterMap_append

theorem server_receives (self : SessionId) (calls : List Call) (endpoint after : Endpoint Watched)
    (completion : Completion) (outcome : Outcome Watched) (side : ServerSide (endpoint.process.world.host self) endpoint.sent)
    (allowed : endpoint.completes (sessionResult completion) = some after)
    (taken : complete (recording calls) self endpoint.process.world completion = some outcome) :
    Lane.Receives (serverInbound self endpoint)
      ⟨after.incoming, sessionMessages (callbacksOf self outcome.world)⟩ := by
  rw [complete_callbacks self calls _ completion outcome taken, session_messages_append]
  have silent (same : after.incoming = endpoint.incoming) (delivered : List Bytes) (none : delivered = []) :
      Lane.Receives (serverInbound self endpoint)
        ⟨after.incoming, sessionMessages (callbacksOf self endpoint.process.world) ++ delivered⟩ := by
    rw [same, none, List.append_nil]
    exact Lane.receives_refl (serverInbound self endpoint)
  cases completion with
  | accepted ec =>
      cases ec with
      | some what =>
          cases allowed
          exact silent rfl _ rfl
      | none =>
          obtain ⟨_, rfl⟩ := completes_other _ _ allowed
          exact silent rfl _ rfl
  | received ec message =>
      cases ec with
      | some what =>
          cases allowed
          exact silent rfl _ rfl
      | none =>
          obtain ⟨rest, arrives, _, rfl⟩ := completes_received _ _ _ allowed
          obtain ⟨⟨pending, _⟩, _⟩ := (complete_received _ _ _ _ _ _).mp taken
          have emptied := side.reader.consumed (by omega)
          simp only [serverInbound, arrives, notified, emptied, List.nil_append]
          exact Lane.receives_next message rest _
  | wrote index ec =>
      cases ec with
      | some what =>
          cases allowed
          exact silent rfl _ rfl
      | none =>
          obtain ⟨_, rfl⟩ := completes_wrote _ _ _ allowed
          exact silent rfl _ rfl
  | ran =>
      obtain ⟨_, rfl⟩ := completes_other _ _ allowed
      exact silent rfl _ rfl

theorem server_sends (self : SessionId) (calls : List Call) (endpoint after : Endpoint Watched)
    (completion : Completion) (outcome : Outcome Watched) (side : ServerSide (endpoint.process.world.host self) endpoint.sent)
    (allowed : endpoint.completes (sessionResult completion) = some after)
    (taken : complete (recording calls) self endpoint.process.world completion = some outcome) :
    ServerSide (outcome.world.host self) after.sent ∧
      Lane.Sends (serverOutbound self endpoint)
        (sessionOutbound (outcome.world.host self) after.sent after.broken) := by
  cases completion with
  | accepted ec =>
      obtain ⟨pending, rfl⟩ := (complete_accepted _ _ _ _ _).mp taken
      obtain ⟨resting, idle, unread⟩ := server_side_accepted _ endpoint.sent side pending
      cases ec with
      | some what =>
          cases allowed
          exact failed_side self calls _ _ endpoint.sent endpoint.sent endpoint.broken (by rwa [World.update_same])
            (by rw [World.update_same])
      | none =>
          obtain ⟨_, rfl⟩ := completes_other _ _ allowed
          have served := accepted_side self calls (after.process.world.update self _) after.sent after.broken
            (by rwa [World.update_same]) (by rwa [World.update_same]) (by rwa [World.update_same])
          rwa [World.update_same] at served
  | received ec message =>
      obtain ⟨⟨pending, _⟩, rfl⟩ := (complete_received _ _ _ _ _ _).mp taken
      obtain ⟨resting, idle, _⟩ := server_side_received _ endpoint.sent message side pending
      cases ec with
      | some what =>
          cases allowed
          exact failed_side self calls _ _ endpoint.sent endpoint.sent endpoint.broken (by rwa [World.update_same])
            (by rw [World.update_same])
      | none =>
          obtain ⟨rest, _, _, rfl⟩ := completes_received _ _ _ allowed
          have served := received_side self calls (endpoint.process.world.update self _) endpoint.sent endpoint.broken
            (by rwa [World.update_same]) (by rwa [World.update_same])
          rwa [World.update_same] at served
  | wrote index ec =>
      obtain ⟨pending, rfl⟩ := (complete_wrote _ _ _ _ _ _).mp taken
      cases ec with
      | some what =>
          cases allowed
          have lost := lost_write_side _ endpoint.sent index side pending
          exact failed_side self calls _ _ endpoint.sent _ endpoint.broken (by rwa [World.update_same])
            (by rw [World.update_same])
      | none =>
          obtain ⟨⟨_, transmitted⟩, rfl⟩ := completes_wrote _ _ _ allowed
          obtain ⟨kept, same⟩ := wrote_side self calls endpoint.process.world endpoint.sent index endpoint.broken side
            transmitted
          exact ⟨kept, same ▸ Lane.sends_refl _⟩
  | ran =>
      obtain ⟨task, rest, posted, _⟩ := (complete_ran _ _ _ _).mp taken
      rw [side.sole.unposted] at posted
      cases posted

def Elsewhere (self : SessionId) : SessionEvent → Prop
  | .opened other _ => other ≠ self
  | .completed other _ _ => other ≠ self
  | .called _ => True

theorem elsewhere_step (self : SessionId) (process next : Process Watched) (event : SessionEvent)
    (elsewhere : Elsewhere self event) (taken : sessionStep process event = some next) :
    Fed (process.world.host self) (next.world.host self) ∧
      callbacksOf self next.world = callbacksOf self process.world := by
  obtain ⟨other, strands, rfl, _, rfl⟩ | ⟨other, completion, calls, outcome, rfl, done, rfl⟩ | ⟨call, rfl, rfl⟩ :=
    session_step_cases process next event taken
  · rw [World.update_other _ other self _ (Ne.symm elsewhere)]
    exact ⟨fed_refl _, rfl⟩
  · rw [settle_world]
    exact ⟨fed_elsewhere self other calls _ completion outcome (Ne.symm elsewhere) done,
      (complete_quiet self other calls _ completion outcome elsewhere done).1⟩
  · rw [settle_call_world]
    exact ⟨fed_perform self process.world call, (perform_quiet self process.world call).1⟩

theorem link_server_cases (self : SessionId) (link : Link) (event : SessionEvent) (next : Endpoint Watched)
    (taken : linkServerStep self link event = some next) :
    (∃ process, Elsewhere self event ∧ sessionStep link.server.process event = some process ∧
      next = { link.server with process := process }) ∨
    (∃ completion calls after outcome, link.server.completes (sessionResult completion) = some after ∧
      complete (recording calls) self link.server.process.world completion = some outcome ∧
      next = { after with process := settle outcome }) := by
  cases event with
  | opened other strands =>
      simp only [linkServerStep, Option.ite_none_right_eq_some, Option.map_eq_some_iff] at taken
      obtain ⟨⟨different, _⟩, process, stepped, rfl⟩ := taken
      exact .inl ⟨process, different, stepped, rfl⟩
  | completed other completion calls =>
      by_cases same : other = self
      · subst other
        simp only [linkServerStep, if_true, Option.bind_eq_some_iff, Option.map_eq_some_iff] at taken
        obtain ⟨after, allowed, process, stepped, rfl⟩ := taken
        obtain ⟨_, _, opened, _⟩ | ⟨_, _, _, outcome, completed, done, rfl⟩ | ⟨_, called, _⟩ :=
          session_step_cases _ _ _ stepped
        · cases opened
        · cases completed
          exact .inr ⟨completion, calls, after, outcome, allowed, done, rfl⟩
        · cases called
      · simp only [linkServerStep, if_neg same, Option.map_eq_some_iff] at taken
        obtain ⟨process, stepped, rfl⟩ := taken
        exact .inl ⟨process, same, stepped, rfl⟩
  | called call =>
      simp only [linkServerStep, Option.map_eq_some_iff] at taken
      obtain ⟨process, stepped, rfl⟩ := taken
      exact .inl ⟨process, trivial, stepped, rfl⟩

theorem server_end_step (self : SessionId) (link : Link) (event : SessionEvent) (next : Endpoint Watched)
    (side : ServerSide (link.server.process.world.host self) link.server.sent)
    (taken : linkServerStep self link event = some next) :
    ServerSide (next.process.world.host self) next.sent ∧
      Lane.Sends (serverOutbound self link.server) (serverOutbound self next) ∧
      Lane.Receives (serverInbound self link.server) (serverInbound self next) := by
  obtain ⟨process, elsewhere, stepped, rfl⟩ | ⟨completion, calls, after, outcome, allowed, done, rfl⟩ :=
    link_server_cases self link event next taken
  · obtain ⟨fed, same⟩ := elsewhere_step self _ _ event elsewhere stepped
    refine ⟨server_side_fed _ _ _ side fed, sends_fed _ _ _ _ side fed, ?_⟩
    simp only [serverInbound, same]
    exact Lane.receives_refl _
  · obtain ⟨kept, sends⟩ := server_sends self calls link.server after completion outcome side allowed done
    have receives := server_receives self calls link.server after completion outcome side allowed done
    simp only [serverOutbound, serverInbound, settle_world]
    exact ⟨kept, sends, receives⟩

end NetworkWrapper
