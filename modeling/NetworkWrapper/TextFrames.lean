import NetworkWrapper.ClientRuns
import NetworkWrapper.MessageFrames
import NetworkWrapper.ServerRuns
import NetworkWrapper.Utf8

set_option autoImplicit false

-- Neither end switches its stream to binary mode, so every payload given to
-- async_write goes out in text frames.
namespace NetworkWrapper

open WebSocketMainLogicServer

theorem utf8_valid (text : String) : Utf8.Valid (utf8 text) := by
  have same : (utf8 text).toByteArray = text.toByteArray := by
    apply ByteArray.ext
    simp [utf8]
  unfold Utf8.Valid
  rw [same]
  exact text.isValidUTF8

theorem quoted_valid_iff (bytes : Bytes) : Utf8.Valid (bytes ++ utf8 "\"") ↔ Utf8.Valid bytes := by
  have quote : utf8 "\"" = [34] := by decide
  rw [quote]
  exact Utf8.valid_before bytes 34 (by decide) (quote ▸ utf8_valid "\"")

theorem from_you_valid_iff (messageReceived : Bytes) :
    Utf8.Valid (fromYouText messageReceived) ↔ Utf8.Valid messageReceived := by
  rw [fromYouText, Utf8.valid_after _ _ (utf8_valid _), quoted_valid_iff]

theorem new_message_valid_iff (id : Int) (messageReceived : Bytes) :
    Utf8.Valid (newMessageText id messageReceived) ↔ Utf8.Valid messageReceived := by
  rw [newMessageText, Utf8.valid_after _ _ (utf8_valid _), decimal, Utf8.valid_after _ _ (utf8_valid _),
    Utf8.valid_after _ _ (utf8_valid _), quoted_valid_iff]

theorem new_client_valid (id : Int) : Utf8.Valid (newClientText id) :=
  Utf8.valid_append _ _ (utf8_valid _) (utf8_valid _)

theorem welcome_valid (id : Int) : Utf8.Valid (welcomeText id) := by
  rw [welcomeText, Utf8.valid_after _ _ (utf8_valid _), decimal, Utf8.valid_after _ _ (utf8_valid _)]
  exact utf8_valid _

theorem client_left_valid (id : Int) : Utf8.Valid (clientLeftText id) := by
  rw [clientLeftText, Utf8.valid_after _ _ (utf8_valid _), decimal, Utf8.valid_after _ _ (utf8_valid _)]
  exact utf8_valid _

structure TextSession (session : WebSocketSession) : Prop where
  sole : SoleWriter session
  reader : OneReader session
  texts : ∀ buffer ∈ session.sendBufferSafeQueue.buffersToSend, Utf8.Valid buffer.data

theorem text_session_writes (session : WebSocketSession) (text : TextSession session) (buffer : SendBuffer)
    (writing : buffer ∈ session.pendingWrites) : Utf8.Valid buffer.data :=
  text.texts buffer (List.mem_of_mem_take (text.sole.outstanding.subset writing))

theorem text_session_written (session : WebSocketSession) (text : TextSession session) (data : Bytes)
    (valid : Utf8.Valid data) : TextSession (session.write data).world := by
  by_cases empty : data = []
  · rw [empty, WebSocketSession.write_empty]
    exact text
  · refine ⟨sole_writer_written session text.sole data, one_reader_written session text.reader data, ?_⟩
    rw [WebSocketSession.write_nonempty session data empty, Outcome.world_returned, queued_buffers]
    intro buffer member
    rcases List.mem_append.mp member with before | last
    · exact text.texts buffer before
    · rw [List.mem_singleton.mp last]
      exact valid

-- The session whose handler is running has no other read pending.
def AtRest (buffer : Bytes) (session : WebSocketSession) : Prop :=
  session.pendingAccepts + session.pendingReads = 0 ∧ session.readBuffer = buffer

theorem told_texts (self : SessionId) (rest : Bytes) (recipients : List SessionId) (data : Bytes) (valid : Utf8.Valid data)
    (host : Sessions) (before : ∀ other, TextSession (host other) ∧ (other = self → AtRest rest (host other)))
    (other : SessionId) :
    TextSession (deliverAll sessionDelivered recipients data host other) ∧
      (other = self → AtRest rest (deliverAll sessionDelivered recipients data host other)) := by
  apply deliver_all_keeps fun other session => TextSession session ∧ (other = self → AtRest rest session)
  · intro target _ session held
    refine ⟨text_session_written session held.1 data valid, fun same => ?_⟩
    obtain ⟨_, _, accepts, reads, buffer⟩ := written_elsewhere session data
    obtain ⟨idle, unread⟩ := held.2 same
    exact ⟨by rw [accepts, reads, idle], by rw [buffer, unread]⟩
  · exact before

theorem text_session_reading (session : WebSocketSession) (text : TextSession session)
    (idle : session.pendingAccepts + session.pendingReads = 0) :
    TextSession { session with readBuffer := [], pendingReads := session.pendingReads + 1 } :=
  ⟨{ text.sole with }, one_reader_reading session idle, text.texts⟩

theorem text_session_resumed (session : WebSocketSession) (text : TextSession session)
    (idle : session.pendingAccepts + session.pendingReads = 0) (unread : session.readBuffer = []) :
    TextSession (if session.useBoostStrands then session.post .doRead else session.doRead) := by
  have reading := text_session_reading session text idle
  rw [text.sole.unstranded]
  rwa [← unread] at reading

theorem text_update (server : Server) (self : SessionId) (session : WebSocketSession)
    (texts : ∀ other, TextSession (server.host other)) (text : TextSession session) (other : SessionId) :
    TextSession ((server.update self session).host other) := by
  by_cases same : other = self
  · subst other
    rwa [World.update_same]
  · rw [World.update_other _ _ _ _ same]
    exact texts other

theorem text_at_rest (server : Server) (self : SessionId) (session : WebSocketSession)
    (texts : ∀ other, TextSession (server.host other)) (text : TextSession session)
    (idle : session.pendingAccepts + session.pendingReads = 0) (other : SessionId) :
    TextSession ((server.update self session).host other) ∧
      (other = self → AtRest session.readBuffer ((server.update self session).host other)) := by
  refine ⟨text_update server self session texts text other, ?_⟩
  rintro rfl
  rw [World.update_same]
  exact ⟨idle, rfl⟩

theorem text_accepted (stale : Address → Option Int) (address : Address) (self : SessionId) (server : Server)
    (texts : ∀ other, TextSession (server.host other)) (session : WebSocketSession) (text : TextSession session)
    (idle : session.pendingAccepts + session.pendingReads = 0) (unread : session.readBuffer = []) (other : SessionId) :
    TextSession ((WebSocketSession.onAccept (boundCallbacks stale address) self none
      (server.update self session)).world.host other) := by
  have started := text_at_rest server self session texts text idle
  have told := told_texts self [] [self] (welcomeText server.app.lastPlayerId) (welcome_valid _) _
    (told_texts self [] server.app.allSessions (newClientText server.app.lastPlayerId) (new_client_valid _) _
      (unread ▸ started))
  have announced := on_new_client_returns _ _ session_writes self address (server.update self session)
  simp only [WebSocketSession.onAccept, boundCallbacks]
  rw [announced]
  simp only [Outcome.returned_and_then, World.call, Outcome.map_returned, Outcome.world_returned]
  apply text_update
  · exact fun other => (told other).1
  · obtain ⟨own, rest⟩ := told self
    obtain ⟨calm, empty⟩ := rest rfl
    exact text_session_resumed _ own calm empty

theorem text_received (stale : Address → Option Int) (address : Address) (self : SessionId) (server : Server)
    (texts : ∀ other, TextSession (server.host other)) (session : WebSocketSession) (text : TextSession session)
    (idle : session.pendingAccepts + session.pendingReads = 0) (valid : Utf8.Valid session.readBuffer)
    (other : SessionId) :
    TextSession ((WebSocketSession.onRead (boundCallbacks stale address) self none
      (server.update self session)).world.host other) := by
  have started := text_at_rest server self session texts text idle
  cases read : playerId stale self server.app with
  | none =>
      rw [received_undefined stale address self server session read, Outcome.world_undefined]
      exact (started other).1
  | some id =>
      have told := told_texts self session.readBuffer [self] (fromYouText session.readBuffer)
        ((from_you_valid_iff _).mpr valid) _
        (told_texts self session.readBuffer (server.app.allSessions.filter fun target => self ≠ target)
          (newMessageText id session.readBuffer) ((new_message_valid_iff _ _).mpr valid) _ started)
      have relayed := on_new_message_returns _ _ session_writes stale self session.readBuffer
        (server.update self session) id read
      simp only [WebSocketSession.onRead, boundCallbacks, World.update_same]
      rw [relayed]
      simp only [Outcome.returned_and_then, World.call, Outcome.map_returned, Outcome.world_returned]
      apply text_update
      · exact fun other => (told other).1
      · obtain ⟨own, rest⟩ := told self
        have reading := text_session_reading _ own (rest rfl).1
        exact reading

theorem text_session_closed (session : WebSocketSession) (text : TextSession session) :
    TextSession { session with isConnected := false } :=
  ⟨{ text.sole with }, { text.reader with },
    text.texts⟩

theorem text_session_disconnected (session : WebSocketSession) (text : TextSession session) (closeError : ErrorCode) :
    TextSession (session.disconnect closeError).world := by
  rw [WebSocketSession.disconnect_world]
  exact text_session_closed session text

theorem text_failed (stale : Address → Option Int) (address : Address) (self : SessionId) (server : Server)
    (texts : ∀ other, TextSession (server.host other)) (session : WebSocketSession) (text : TextSession session)
    (other : SessionId) :
    TextSession ((WebSocketSession.connectionError (boundCallbacks stale address) self
      (server.update self session)).world.host other) := by
  have lost := text_session_closed session text
  let dropped := (server.update self session).update self { session with isConnected := false }
  have started := text_update (server.update self session) self _ (text_update server self session texts text) lost
  simp only [WebSocketSession.connectionError, boundCallbacks, World.update_same]
  rcases on_lost_client_ends _ _ session_writes stale self dropped with ⟨id, rest, _, _, _, lost⟩ | ⟨_, lost⟩ | lost
  all_goals rw [lost]
  · apply deliver_all_keeps fun _ session => TextSession session
    · exact fun target _ session held => text_session_written session held _ (client_left_valid _)
    · exact started
  · exact started other
  · exact started other

theorem text_wrote (stale : Address → Option Int) (address : Address) (self : SessionId) (server : Server)
    (texts : ∀ other, TextSession (server.host other)) (index : Nat)
    (pending : index < (server.host self).pendingWrites.length) (other : SessionId) :
    TextSession ((WebSocketSession.onWrite (boundCallbacks stale address) self none (server.update self
      { server.host self with pendingWrites := (server.host self).pendingWrites.eraseIdx index })).world.host other) := by
  have text := texts self
  obtain ⟨sent, rest, buffers, _, popped⟩ := sole_writer_sent (server.host self) text.sole index pending
  simp only [WebSocketSession.onWrite, World.call, World.update_same, popped, Outcome.map_returned,
    Outcome.world_returned]
  refine text_update _ self _ (text_update server self _ texts ?_) ?_ other
  · exact ⟨sole_writer_failed _ text.sole index, { text.reader with }, text.texts⟩
  · exact ⟨sole_writer_after _ text.sole rest, { text.reader with },
      fun buffer member => text.texts buffer (by simp [buffers, member])⟩

def received : ServerEvent → Option Bytes
  | .completed _ (.received none message) _ => some message
  | _ => none

theorem text_completed (stale : Address → Option Int) (server : Server) (self : SessionId)
    (completion : WebSocketSession.Completion) (address : Address) (outcome : Outcome Server)
    (texts : ∀ other, TextSession (server.host other))
    (valid : ∀ message, received (.completed self completion address) = some message → Utf8.Valid message)
    (taken : WebSocketSession.complete (boundCallbacks stale address) self server completion = some outcome)
    (other : SessionId) : TextSession (outcome.world.host other) := by
  obtain ⟨sole, ⟨single, consumed⟩, queued⟩ := texts self
  cases completion with
  | accepted ec =>
      obtain ⟨pending, rfl⟩ := (WebSocketSession.complete_accepted _ _ _ _ _).mp taken
      have idle : (server.host self).pendingAccepts - 1 + (server.host self).pendingReads = 0 := by omega
      have text : TextSession { server.host self with pendingAccepts := (server.host self).pendingAccepts - 1 } :=
        ⟨{ sole with }, one_reader_resting _ idle, queued⟩
      cases ec with
      | none => exact text_accepted stale address self server texts _ text idle (consumed (by omega)) other
      | some what => exact text_failed stale address self server texts _ text other
  | received ec message =>
      obtain ⟨⟨pending, _⟩, rfl⟩ := (WebSocketSession.complete_received _ _ _ _ _ _).mp taken
      have idle : (server.host self).pendingAccepts + ((server.host self).pendingReads - 1) = 0 := by omega
      have text : TextSession { server.host self with
          pendingReads := (server.host self).pendingReads - 1
          readBuffer := (server.host self).readBuffer ++ message } :=
        ⟨{ sole with }, one_reader_resting _ idle, queued⟩
      cases ec with
      | none =>
          refine text_received stale address self server texts _ text idle ?_ other
          rw [consumed (by omega), List.nil_append]
          exact valid message rfl
      | some what => exact text_failed stale address self server texts _ text other
  | wrote index ec =>
      obtain ⟨pending, rfl⟩ := (WebSocketSession.complete_wrote _ _ _ _ _ _).mp taken
      cases ec with
      | none => exact text_wrote stale address self server texts index pending other
      | some what =>
          refine text_failed stale address self server texts _ ?_ other
          exact ⟨sole_writer_failed _ sole index, ⟨single, consumed⟩, queued⟩
  | ran =>
      obtain ⟨task, rest, posted, _⟩ := (WebSocketSession.complete_ran _ _ _ _).mp taken
      rw [sole.unposted] at posted
      cases posted

theorem text_step (stale : Address → Option Int) (process next : Process Server) (event : ServerEvent)
    (texts : ∀ self, TextSession (process.world.host self))
    (valid : ∀ message, received event = some message → Utf8.Valid message)
    (taken : serverStep stale process event = some next) (self : SessionId) : TextSession (next.world.host self) := by
  obtain ⟨server, ending⟩ := process
  cases ending with
  | escaped what => cases taken
  | undefined => cases taken
  | running =>
      cases event with
      | opened opening =>
          simp only [serverStep, Bool.not_eq_true, Option.ite_none_left_eq_some, Option.some.injEq] at taken
          obtain ⟨_, rfl⟩ := taken
          apply text_update server opening _ texts
          exact ⟨⟨rfl, rfl, List.prefix_refl []⟩, ⟨Nat.le_refl 1, fun _ => rfl⟩, by simp [WebSocketSession.run,
            WebSocketSession.construct, WebSocketSession.unconstructed, WebSocketSession.onRun]⟩
      | completed completing completion address =>
          simp only [serverStep, Option.ite_none_right_eq_some, Option.map_eq_some_iff] at taken
          obtain ⟨_, outcome, done, rfl⟩ := taken
          rw [settle_world]
          exact text_completed stale server completing completion address outcome texts valid done self
      | released releasing closeError =>
          simp only [serverStep, Option.ite_none_right_eq_some, Option.some.injEq] at taken
          obtain ⟨_, rfl⟩ := taken
          rw [settle_world, World.call, Outcome.map_world]
          exact text_update server releasing _ texts (text_session_disconnected _ (texts releasing) closeError) self

theorem text_run (stale : Address → Option Int) (events : List ServerEvent) (process final : Process Server)
    (texts : ∀ self, TextSession (process.world.host self))
    (valid : ∀ event ∈ events, ∀ message, received event = some message → Utf8.Valid message)
    (reached : Transition.run (serverStep stale) process events = some final) (self : SessionId) :
    TextSession (final.world.host self) := by
  induction events generalizing process with
  | nil =>
      rw [Transition.run_nil] at reached
      exact reached ▸ texts self
  | cons event rest ih =>
      obtain ⟨next, taken, onward⟩ := (Transition.run_cons _ _ _ _ _).mp reached
      have step := text_step stale process next event texts (valid event List.mem_cons_self) taken
      exact ih next step (fun later member => valid later (List.mem_cons_of_mem _ member)) onward

theorem no_clients_text (self : SessionId) : TextSession (noClients.world.host self) :=
  ⟨sole_writer_unconstructed, ⟨Nat.zero_le _, fun _ => rfl⟩, by simp [noClients, WebSocketSession.unconstructed]⟩

-- The client that accepts nothing but the given payloads hands nothing but text to
-- async_write.
def SentAsText (payloads : Bytes → Prop) : Prop :=
  ∀ (events : List ClientEvent) (final : Process WatchedClient),
    Transition.run clientStep freshClient events = some final →
    (∀ inData ∈ final.world.host.accepted, payloads inData) →
    ∀ buffer ∈ final.world.host.pendingWrites, Utf8.Valid buffer.data

-- Every frame by which the server relays one of the given payloads is text, and so
-- is all that a server which receives nothing else hands to async_write.
def RelayedAsText (payloads : Bytes → Prop) : Prop :=
  (∀ (stale : Address → Option Int) (wsSession : SessionId) (logic : WebSocketMainLogicServer) (bytes : Bytes),
    payloads bytes → ∀ frame ∈ messageFrames stale wsSession bytes logic, Utf8.Valid frame.2) ∧
  ∀ (stale : Address → Option Int) (events : List ServerEvent) (final : Process Server),
    Transition.run (serverStep stale) noClients events = some final →
    (∀ event ∈ events, ∀ message, received event = some message → payloads message) →
    ∀ self, ∀ buffer ∈ (final.world.host self).pendingWrites, Utf8.Valid buffer.data

theorem sent_as_text_iff (payloads : Bytes → Prop) :
    SentAsText payloads ↔ ∀ bytes, payloads bytes → Utf8.Valid bytes := by
  constructor
  · intro sent bytes given
    cases bytes with
    | nil => exact utf8_valid ""
    | cons first rest =>
        exact sent [.connect "localhost" "7777" none, .completed (.resolved none), .completed (.connected none),
          .completed (.handshaken none), .sendBinary (first :: rest)] _ rfl (by
            intro inData member
            exact List.mem_singleton.mp member ▸ given) ⟨first :: rest, List.cons_ne_nil _ _⟩ List.mem_cons_self
  · intro valid events final reached only buffer writing
    exact valid buffer.data (only buffer.data ((from_accepted_run events final reached).2 buffer writing))

theorem relayed_as_text_iff (payloads : Bytes → Prop) :
    RelayedAsText payloads ↔ ∀ bytes, payloads bytes → Utf8.Valid bytes := by
  constructor
  · intro relayed bytes given
    have read : playerId (fun _ => none) 0 initial = some (-1) := rfl
    have feedback := relayed.1 (fun _ => none) 0 initial bytes given (0, fromYouText bytes)
      (by simp [message_frames_written _ _ _ _ _ read])
    exact (from_you_valid_iff bytes).mp feedback
  · intro valid
    refine ⟨fun stale wsSession logic bytes given => ?_, fun stale events final reached only self buffer writing => ?_⟩
    · rw [all_frames_iff Utf8.Valid]
      intro id _
      exact ⟨(from_you_valid_iff bytes).mpr (valid bytes given),
        fun _ => (new_message_valid_iff id bytes).mpr (valid bytes given)⟩
    · refine text_session_writes _ (text_run stale events noClients final no_clients_text ?_ reached self) buffer writing
      exact fun event member message got => valid message (only event member message got)

theorem text_frames_valid_iff (payloads : Bytes → Prop) :
    (SentAsText payloads ↔ ∀ bytes, payloads bytes → Utf8.Valid bytes) ∧
      (RelayedAsText payloads ↔ ∀ bytes, payloads bytes → Utf8.Valid bytes) :=
  ⟨sent_as_text_iff payloads, relayed_as_text_iff payloads⟩

theorem binary_payload_sent_as_text :
    ¬ ∀ payloads : Bytes → Prop, SentAsText payloads ∧ RelayedAsText payloads := by
  intro always
  have invalid : ¬ Utf8.Valid [0xFF] := by decide
  exact invalid ((sent_as_text_iff (· = [0xFF])).mp (always (· = [0xFF])).1 [0xFF] rfl)

end NetworkWrapper
