import NetworkWrapper.ClientEnd

set_option autoImplicit false

namespace NetworkWrapper

def Link.upLane (self : SessionId) (link : Link) : Lane Bytes :=
  Lane.between (clientOutbound link.client) (serverInbound self link.server)

def Link.downLane (self : SessionId) (link : Link) : Lane Bytes :=
  Lane.between (serverOutbound self link.server) (clientInbound link.client)

structure LinkSound (session : SessionId) (link : Link) : Prop where
  server : ServerSide (link.session session) link.server.sent
  client : ClientSide link.connection link.client.sent link.client.broken link.sending

theorem link_opened_sound (self : SessionId) : LinkSound self (linkOpened self) := by
  refine ⟨?_, ?_⟩
  · simp only [Link.session, linkOpened, World.update_same]
    exact ⟨⟨rfl, rfl, List.prefix_refl _⟩, ⟨Nat.le_refl _, fun _ => rfl⟩, Nat.zero_le _⟩
  · exact ⟨List.prefix_refl _, Nat.zero_le _, rfl, rfl, Nat.le_refl _, fun _ => rfl, fun _ _ => ⟨rfl, rfl, rfl⟩⟩

theorem link_opened_lanes (self : SessionId) : (Link.upLane self (linkOpened self)).InOrder ∧
    (Link.downLane self (linkOpened self)).InOrder := by
  refine ⟨⟨List.prefix_refl _, fun _ => rfl⟩, ?_⟩
  simp only [Link.downLane, serverOutbound, linkOpened, World.update_same]
  exact ⟨List.prefix_refl _, fun _ => rfl⟩

theorem transmitted_front (queue writes : List SendBuffer) (sent : Nat) (buffer : SendBuffer)
    (outstanding : writes <+: queue.take 1) (writing : writes[sent]? = some buffer) :
    sent + 1 ≤ writes.length ∧ unsent queue sent = buffer.data :: unsent queue (sent + 1) := by
  obtain ⟨pending, found⟩ := List.getElem?_eq_some_iff.mp writing
  obtain ⟨rfl, front, rest, rfl, rfl⟩ := outstanding_front queue writes outstanding sent pending
  rw [List.getElem_cons_zero] at found
  exact ⟨Nat.le_refl _, by simp [unsent, found]⟩

theorem no_overlap (queue writes : List SendBuffer) (outstanding : writes <+: queue.take 1) : ¬ 2 ≤ writes.length :=
  Nat.not_le.mpr (Nat.lt_succ_of_le (outstanding_length queue writes outstanding))

def Carries (self : SessionId) (link next : Link) : Prop :=
  LinkSound self next ∧ Lane.Reaches (link.upLane self) (next.upLane self) ∧
    Lane.Reaches (link.downLane self) (next.downLane self)

theorem send_locked_carries (self : SessionId) (link next : Link) (index : Nat) (sound : LinkSound self link)
    (taken : linkStep self link (.sendLocked index) = some next) : Carries self link next := by
  cases state : link.client.process.ending with
  | escaped what => simp [linkStep, state] at taken
  | undefined => simp [linkStep, state] at taken
  | running =>
      cases held : link.sending[index]? with
      | none => simp [linkStep, state, held] at taken
      | some inData =>
          simp only [linkStep, state, held, Option.some.injEq] at taken
          subst next
          obtain ⟨kept, sends⟩ := client_side_locked _ _ _ _ index inData sound.client held
          refine ⟨⟨sound.server, ?_⟩, ?_, ?_⟩
          · simpa only [Link.connection, settle_call_world, onClient, Outcome.map_world] using kept
          · have up := sends (serverInbound self link.server)
            simpa only [Link.upLane, clientOutbound, Link.connection, settle_call_world, onClient,
              Outcome.map_world] using up
          · simp only [Link.downLane, clientInbound, settle_call_world, onClient, Outcome.map_world]
            exact Lane.reaches_refl _

theorem client_completed_carries (self : SessionId) (link next : Link)
    (completion : WebSocketConnection.ClientCompletion) (sound : LinkSound self link)
    (taken : linkStep self link (.clientCompleted completion) = some next) : Carries self link next := by
  cases state : link.client.process.ending with
  | escaped what => simp [linkStep, state] at taken
  | undefined => simp [linkStep, state] at taken
  | running =>
      simp only [linkStep, state, Option.bind_eq_some_iff, Option.map_eq_some_iff] at taken
      obtain ⟨after, allowed, outcome, done, rfl⟩ := taken
      obtain ⟨kept, sends, receives⟩ := client_completes _ after _ completion outcome sound.client allowed done
      refine ⟨⟨sound.server, ?_⟩, ?_, ?_⟩
      · simpa only [Link.connection, settle_world] using kept
      · simpa only [Link.upLane, clientOutbound, settle_world] using sends (serverInbound self link.server)
      · simpa only [Link.downLane, clientInbound, settle_world] using receives (serverOutbound self link.server)

theorem client_transmits_carries (self : SessionId) (link next : Link) (sound : LinkSound self link)
    (taken : linkStep self link .clientTransmits = some next) : Carries self link next := by
  cases state : link.client.broken with
  | true => simp [linkStep, state] at taken
  | false =>
      cases writing : link.connection.pendingWrites[link.client.sent]? with
      | none => simp [linkStep, state, writing] at taken
      | some buffer =>
          simp only [linkStep, state, writing, Option.some.injEq] at taken
          subst next
          obtain ⟨started, front⟩ := transmitted_front _ _ _ buffer sound.client.outstanding writing
          refine ⟨⟨sound.server, { sound.client with sent := started, opening := state ▸ sound.client.opening }⟩, ?_,
            Lane.reaches_refl _⟩
          have up := Lane.transmits_next link.connection.accepted
            (unsent link.connection.buffersToSend (link.client.sent + 1)) buffer.data (serverInbound self link.server)
          rw [← front] at up
          simpa only [Link.upLane, clientOutbound, connectionOutbound, serverInbound, Link.connection, state] using up

theorem server_transmits_carries (self : SessionId) (link next : Link) (sound : LinkSound self link)
    (taken : linkStep self link .serverTransmits = some next) : Carries self link next := by
  cases state : link.server.broken with
  | true => simp [linkStep, state] at taken
  | false =>
      cases writing : (link.session self).pendingWrites[link.server.sent]? with
      | none => simp [linkStep, state, writing] at taken
      | some buffer =>
          simp only [linkStep, state, writing, Option.some.injEq] at taken
          subst next
          obtain ⟨started, front⟩ := transmitted_front _ _ _ buffer sound.server.sole.outstanding writing
          refine ⟨⟨{ sound.server with sent := started }, sound.client⟩, Lane.reaches_refl _, ?_⟩
          have down := Lane.transmits_next (link.session self).accepted
            (unsent (link.session self).sendBufferSafeQueue.buffersToSend (link.server.sent + 1)) buffer.data
            (clientInbound link.client)
          rw [← front] at down
          simpa only [Link.downLane, serverOutbound, sessionOutbound, clientInbound, Link.session, state] using down

theorem link_step_carries (self : SessionId) (link next : Link) (event : LinkEvent) (sound : LinkSound self link)
    (taken : linkStep self link event = some next) : Carries self link next := by
  cases event with
  | sendChecked inData =>
      simp only [linkStep, Option.ite_none_right_eq_some, Option.some.injEq] at taken
      obtain ⟨⟨_, connected⟩, rfl⟩ := taken
      exact ⟨⟨sound.server, client_side_checked _ _ _ _ inData sound.client connected⟩, Lane.reaches_refl _,
        Lane.reaches_refl _⟩
  | sendLocked index => exact send_locked_carries self link next index sound taken
  | clientCompleted completion => exact client_completed_carries self link next completion sound taken
  | clientTransmits => exact client_transmits_carries self link next sound taken
  | clientOverlaps incoming =>
      simp only [linkStep, Option.ite_none_right_eq_some] at taken
      exact absurd taken.1 (no_overlap _ _ sound.client.outstanding)
  | serverSteps event =>
      simp only [linkStep, Option.map_eq_some_iff] at taken
      obtain ⟨after, stepped, rfl⟩ := taken
      obtain ⟨kept, sends, receives⟩ := server_end_step self link event after sound.server stepped
      exact ⟨⟨kept, sound.client⟩, receives (clientOutbound link.client), sends (clientInbound link.client)⟩
  | serverTransmits => exact server_transmits_carries self link next sound taken
  | serverOverlaps incoming =>
      simp only [linkStep, Option.ite_none_right_eq_some] at taken
      exact absurd taken.1 (no_overlap _ _ sound.server.sole.outstanding)

theorem link_run_sound (self : SessionId) (events : List LinkEvent) (final : Link)
    (reached : Transition.run (linkStep self) (linkOpened self) events = some final) :
    LinkSound self final ∧ (final.upLane self).InOrder ∧ (final.downLane self).InOrder := by
  refine Transition.run_keeps (linkStep self)
    (fun link => LinkSound self link ∧ (link.upLane self).InOrder ∧ (link.downLane self).InOrder) ?_ events _ final
    ⟨link_opened_sound self, link_opened_lanes self⟩ reached
  rintro link event next ⟨sound, up, down⟩ taken
  obtain ⟨kept, upward, downward⟩ := link_step_carries self link next event sound taken
  exact ⟨kept, Lane.in_order_reaches _ _ up upward, Lane.in_order_reaches _ _ down downward⟩

theorem delivered_in_order (self : SessionId) (events : List LinkEvent) (final : Link)
    (reached : Transition.run (linkStep self) (linkOpened self) events = some final) :
    (final.serverDelivered self <+: final.connection.accepted ∧
      final.clientDelivered <+: (final.session self).accepted) ∧
    (final.client.broken = false ∧ final.server.broken = false ∧ final.client.incoming = [] ∧
      final.server.incoming = [] ∧ final.connection.buffersToSend = [] ∧
      (final.session self).sendBufferSafeQueue.buffersToSend = [] →
        final.serverDelivered self = final.connection.accepted ∧
          final.clientDelivered = (final.session self).accepted) := by
  obtain ⟨_, up, down⟩ := link_run_sound self events final reached
  refine ⟨⟨Lane.in_order_prefix _ up, Lane.in_order_prefix _ down⟩, ?_⟩
  rintro ⟨clientWell, serverWell, nothingDown, nothingUp, clientSent, serverSent⟩
  have upSent : (final.upLane self).waiting = [] := by
    simp only [Link.connection] at clientSent
    simp [Link.upLane, Lane.between, clientOutbound, connectionOutbound, clientSent, unsent]
  have downSent : (final.downLane self).waiting = [] := by
    simp only [Link.session] at serverSent
    simp [Link.downLane, Lane.between, serverOutbound, sessionOutbound, serverSent, unsent]
  exact ⟨Lane.in_order_drained _ up clientWell nothingUp upSent,
    Lane.in_order_drained _ down serverWell nothingDown downSent⟩

def pingedAndAnswered : List LinkEvent :=
  [.serverSteps (.completed 0 (.accepted none) []), .clientCompleted (.handshaken none), .sendChecked [80],
    .sendChecked [81], .sendLocked 1, .sendLocked 0, .clientTransmits,
    .serverSteps (.completed 0 (.received none [81]) [.write 0 [71]]), .clientCompleted (.wrote 0 none),
    .clientTransmits, .serverTransmits, .clientCompleted (.received none [71]), .clientCompleted (.wrote 0 none),
    .serverSteps (.completed 0 (.received none [80]) [.write 0 [70]]), .serverSteps (.completed 0 (.wrote 0 none) []),
    .serverTransmits, .serverSteps (.completed 0 (.wrote 0 none) []), .clientCompleted (.received none [70])]

theorem delivered_pinged_and_answered :
    ∃ final, Transition.run (linkStep 0) (linkOpened 0) pingedAndAnswered = some final ∧
      final.serverDelivered 0 = [[81], [80]] ∧ final.clientDelivered = [[71], [70]] := by
  refine ⟨_, rfl, ?_⟩
  have drained := (delivered_in_order 0 pingedAndAnswered _ rfl).2 (by decide)
  exact ⟨drained.1, drained.2⟩

end NetworkWrapper
