import NetworkWrapper.ChatSound
import NetworkWrapper.TextFrames

set_option autoImplicit false

namespace NetworkWrapper

open WebSocketSession WebSocketMainLogicServer

theorem utf8_append (first second : String) : utf8 (first ++ second) = utf8 first ++ utf8 second := by
  simp [utf8]

theorem digit_one_byte : ∀ digit < 10, (utf8 (.singleton (Nat.digitChar digit))).length = 1 := by
  decide

theorem repr_bytes (value : Nat) : (utf8 value.repr).length = value.repr.length := by
  induction value using Nat.strongRecOn with
  | ind value ih =>
      by_cases small : value < 10
      · rw [Nat.repr_of_lt small, digit_one_byte value small, String.length_singleton]
      · rw [Nat.repr_of_ge (by omega), utf8_append, List.length_append, String.length_append, ih (value / 10) (by omega),
          digit_one_byte _ (Nat.mod_lt value (by omega)), String.length_singleton]

theorem repr_within (value : Nat) (bound : value < 10 ^ 10) : (utf8 value.repr).length ≤ 10 := by
  rw [repr_bytes]
  exact (Nat.length_repr_le_iff (by omega)).mpr bound

theorem decimal_within (id : Int) (low : -(2 ^ 31) ≤ id) (high : id < 2 ^ 31) : (decimal id).length ≤ 11 := by
  cases id with
  | ofNat value =>
      have digits := repr_within value (by simp only [Int.ofNat_eq_natCast] at high; omega)
      exact Nat.le_succ_of_le digits
  | negSucc value =>
      have digits := repr_within (value + 1) (by rw [Int.negSucc_eq] at low; omega)
      have sign : (utf8 "-").length = 1 := by decide
      have written : decimal (.negSucc value) = utf8 "-" ++ utf8 (value + 1).repr := utf8_append _ _
      rw [written, List.length_append, sign]
      omega

theorem next_id_within (clients : Nat) : (decimal (nextId clients)).length ≤ 11 :=
  decimal_within _ (Int.le_bmod (by decide)) (Int.bmod_lt (by decide))

structure Readable (text : Bytes) : Prop where
  valid : Utf8.Valid text
  fits : text.length ≤ readBufferLimit

def relayOverhead : Nat := 47

structure Modest (messageReceived : Bytes) : Prop where
  valid : Utf8.Valid messageReceived
  short : messageReceived.length + relayOverhead ≤ readBufferLimit

theorem modest_readable (messageReceived : Bytes) (modest : Modest messageReceived) : Readable messageReceived :=
  ⟨modest.valid, Nat.le_of_add_right_le modest.short⟩

theorem announcement_readable (before after : String) (id : Int) (short : (decimal id).length ≤ 11)
    (small : (utf8 before).length + (utf8 after).length ≤ 1024) : Readable (utf8 before ++ (decimal id ++ utf8 after)) := by
  refine ⟨Utf8.valid_append _ _ (utf8_valid _) (Utf8.valid_append _ _ (utf8_valid _) (utf8_valid _)), ?_⟩
  simp only [List.length_append, readBufferLimit]
  omega

theorem new_client_readable (id : Int) (short : (decimal id).length ≤ 11) : Readable (newClientText id) := by
  have readable := announcement_readable "[BROADCAST][NEW CLIENT]: " "" id short (by decide)
  rwa [show utf8 "" = [] from rfl, List.append_nil] at readable

theorem welcome_readable (id : Int) (short : (decimal id).length ≤ 11) : Readable (welcomeText id) :=
  announcement_readable _ _ id short (by decide)

theorem client_left_readable (id : Int) (short : (decimal id).length ≤ 11) : Readable (clientLeftText id) :=
  announcement_readable _ _ id short (by decide)

theorem from_you_readable (messageReceived : Bytes) (modest : Modest messageReceived) :
    Readable (fromYouText messageReceived) := by
  refine ⟨(from_you_valid_iff _).mpr modest.valid, ?_⟩
  have short := modest.short
  rw [relayOverhead] at short
  rw [from_you_length]
  omega

theorem new_message_readable (id : Int) (messageReceived : Bytes) (short : (decimal id).length ≤ 11)
    (modest : Modest messageReceived) : Readable (newMessageText id messageReceived) := by
  refine ⟨(new_message_valid_iff _ _).mpr modest.valid, ?_⟩
  have room := modest.short
  rw [relayOverhead] at room
  rw [new_message_length]
  omega

theorem text_for_readable (self : SessionId) (before : List LogicEvent) (event : LogicEvent) (text : Bytes)
    (modest : ∀ wsSession messageReceived, event = .newMessage wsSession messageReceived → Modest messageReceived)
    (told : textFor self before event = some text) : Readable text := by
  cases event with
  | newClient wsSession address =>
      have short := next_id_within ((joins (before ++ [.newClient wsSession address])).idxOf wsSession)
      simp only [textFor] at told
      split at told
      · cases told
        exact welcome_readable _ short
      · split at told
        · cases told
          exact new_client_readable _ short
        · cases told
  | newMessage wsSession messageReceived =>
      have relayed := modest wsSession messageReceived rfl
      simp only [textFor] at told
      split at told
      · split at told
        · cases told
          exact from_you_readable _ relayed
        · cases told
          exact new_message_readable _ _ (next_id_within _) relayed
      · cases told
  | lostClient wsSession =>
      simp only [textFor] at told
      split at told
      · cases told
        exact client_left_readable _ (next_id_within _)
      · cases told

theorem expected_readable (self : SessionId) (log : List LogicEvent)
    (modest : ∀ wsSession, ∀ messageReceived ∈ messagesFrom wsSession log, Modest messageReceived) :
    ∀ text ∈ expectedTexts self log, Readable text := by
  intro text expected
  obtain ⟨position, _, told⟩ := List.mem_filterMap.mp expected
  obtain ⟨event, there, told⟩ := Option.bind_eq_some_iff.mp told
  refine text_for_readable self _ event text ?_ told
  rintro wsSession messageReceived rfl
  exact modest wsSession messageReceived (List.mem_filterMap.mpr ⟨_, List.mem_of_getElem? there, if_pos rfl⟩)

def saying : ChatEvent → Option Bytes
  | .network _ (.sendChecked inData) => some inData
  | _ => none

theorem chat_client_step (holds : SessionId → Endpoint WatchedClient → List Bytes → Prop) (stale : Address → Option Int)
    (chat next : Chat) (event : ChatEvent) (taken : chatStep stale chat event = some next)
    (before : ∀ self, holds self (chat.peers self).client (chat.peers self).sending)
    (kept : ∀ self step link, event = .network self step → linkStep self (chat.link self) step = some link →
      holds self link.client link.sending) (self : SessionId) :
    holds self (next.peers self).client (next.peers self).sending := by
  cases event with
  | opened opening =>
      simp only [chatStep, Option.map_eq_some_iff] at taken
      obtain ⟨server, _, rfl⟩ := taken
      exact before self
  | released releasing closeError =>
      simp only [chatStep, Option.map_eq_some_iff] at taken
      obtain ⟨server, _, rfl⟩ := taken
      exact before self
  | completed completing completion address =>
      obtain ⟨_, _, endpoint, outcome, _, _, rfl⟩ := chat_completed stale chat next completing completion address taken
      by_cases same : self = completing
      · subst self
        simpa [Chat.withLink, Chat.link] using before completing
      · simpa [Chat.withLink, Chat.link, same] using before self
  | network speaking step =>
      obtain ⟨_, link, stepped, rfl⟩ := network_stepped stale chat next speaking step taken
      by_cases same : self = speaking
      · subst self
        simpa [Chat.withLink] using kept speaking step link rfl stepped
      · simpa [Chat.withLink, same] using before self

theorem link_client_cases (self : SessionId) (link next : Link) (event : LinkEvent)
    (taken : linkStep self link event = some next) :
    (∃ inData, event = .sendChecked inData ∧ next.client = link.client ∧ next.sending = link.sending ++ [inData]) ∨
    (∃ index inData, event = .sendLocked index ∧ link.sending[index]? = some inData ∧
      next.client = { link.client with
        process := settleCall (onClient link.client.process.world (link.connection.lockedSend inData)) } ∧
      next.sending = link.sending.eraseIdx index) ∨
    (∃ completion endpoint outcome, event = .clientCompleted completion ∧
      link.client.completes (clientResult completion) = some endpoint ∧
      WebSocketConnection.complete watching link.client.process.world completion = some outcome ∧
      next.client = { endpoint with process := settle outcome } ∧ next.sending = link.sending) ∨
    (next.client.process = link.client.process ∧ next.client.broken = link.client.broken ∧
      next.sending = link.sending) := by
  cases event with
  | sendChecked inData =>
      simp only [linkStep, Option.ite_none_right_eq_some, Option.some.injEq] at taken
      obtain ⟨_, rfl⟩ := taken
      exact .inl ⟨inData, rfl, rfl, rfl⟩
  | sendLocked index =>
      simp only [linkStep] at taken
      split at taken
      · rename_i inData _ waits
        cases taken
        exact .inr (.inl ⟨index, inData, rfl, waits, rfl, rfl⟩)
      · cases taken
  | clientCompleted completion =>
      simp only [linkStep] at taken
      split at taken
      · simp only [Option.bind_eq_some_iff, Option.map_eq_some_iff] at taken
        obtain ⟨endpoint, allowed, outcome, done, rfl⟩ := taken
        exact .inr (.inr (.inl ⟨completion, endpoint, outcome, rfl, allowed, done, rfl, rfl⟩))
      · cases taken
  | clientTransmits =>
      simp only [linkStep] at taken
      split at taken
      · cases taken
        exact .inr (.inr (.inr ⟨rfl, rfl, rfl⟩))
      · cases taken
  | clientOverlaps incoming =>
      simp only [linkStep, Option.ite_none_right_eq_some, Option.some.injEq] at taken
      obtain ⟨_, rfl⟩ := taken
      exact .inr (.inr (.inr ⟨rfl, rfl, rfl⟩))
  | serverSteps step =>
      simp only [linkStep, Option.map_eq_some_iff] at taken
      obtain ⟨_, _, rfl⟩ := taken
      exact .inr (.inr (.inr ⟨rfl, rfl, rfl⟩))
  | serverTransmits =>
      simp only [linkStep] at taken
      split at taken
      · cases taken
        exact .inr (.inr (.inr ⟨rfl, rfl, rfl⟩))
      · cases taken
  | serverOverlaps incoming =>
      simp only [linkStep, Option.ite_none_right_eq_some, Option.some.injEq] at taken
      obtain ⟨_, rfl⟩ := taken
      exact .inr (.inr (.inr ⟨rfl, rfl, rfl⟩))

structure Offers (holds : Bytes → Prop) (client : Endpoint WatchedClient) (sending : List Bytes) : Prop where
  accepted : ∀ inData ∈ client.process.world.host.accepted, holds inData
  sending : ∀ inData ∈ sending, holds inData

theorem accepted_same (accepted : List Bytes) :
    HandlerRule fun connection => connection.accepted = accepted where
  connectStarted _ same := same
  handshakeStarted _ same := same
  opened _ same := same
  readAgain _ same := same
  cleared _ same := same
  popped connection same := by
    rw [WebSocketConnection.pop_queued]
    exact same
  failed _ same := by
    simp only [WebSocketConnection.stop]
    split <;> exact same

theorem completed_accepted (world : WatchedClient) (completion : WebSocketConnection.ClientCompletion)
    (outcome : Outcome WatchedClient)
    (taken : WebSocketConnection.complete watching world completion = some outcome) :
    outcome.world.host.accepted = world.host.accepted := by
  have ended : (endOperation world.host completion).accepted = world.host.accepted := by
    cases completion <;> rfl
  exact complete_keeps watching _ (accepted_same world.host.accepted)
    (watching_keeps _) world completion outcome ended taken

theorem locked_accepted (connection : WebSocketConnection) (inData data : Bytes)
    (member : data ∈ (connection.lockedSend inData).world.accepted) : data ∈ connection.accepted ∨ data = inData := by
  by_cases given : inData = []
  · subst inData
    exact .inl member
  · rw [WebSocketConnection.locked_send_nonempty connection inData given] at member
    rcases List.mem_append.mp member with before | last
    · exact .inl before
    · exact .inr (List.mem_singleton.mp last)

theorem offers_network (holds : Bytes → Prop) (self : SessionId) (link next : Link) (event : LinkEvent)
    (given : ∀ inData, event = .sendChecked inData → holds inData) (offers : Offers holds link.client link.sending)
    (taken : linkStep self link event = some next) : Offers holds next.client next.sending := by
  obtain ⟨accepted, sending⟩ := offers
  obtain ⟨inData, rfl, client, sends⟩ | ⟨index, inData, rfl, waits, client, sends⟩ |
    ⟨completion, endpoint, outcome, rfl, _, done, client, sends⟩ | ⟨process, _, sends⟩ :=
      link_client_cases self link next event taken
  · refine ⟨client ▸ accepted, fun data member => ?_⟩
    rw [sends] at member
    rcases List.mem_append.mp member with before | last
    · exact sending data before
    · exact List.mem_singleton.mp last ▸ given inData rfl
  · refine ⟨fun data member => ?_, fun data member => ?_⟩
    · rw [client, called_host] at member
      rcases locked_accepted _ inData data member with before | rfl
      · exact accepted data before
      · exact sending data (List.mem_of_getElem? waits)
    · rw [sends] at member
      exact sending data (List.mem_of_mem_eraseIdx member)
  · refine ⟨fun data member => ?_, sends ▸ sending⟩
    rw [client, settle_world, completed_accepted _ _ _ done] at member
    exact accepted data member
  · exact ⟨process ▸ accepted, sends ▸ sending⟩

theorem offers_step (holds : Bytes → Prop) (stale : Address → Option Int) (chat : Chat) (event : ChatEvent) (next : Chat)
    (offers : ∀ self, Offers holds (chat.peers self).client (chat.peers self).sending)
    (given : ∀ inData, saying event = some inData → holds inData) (taken : chatStep stale chat event = some next) :
    ∀ self, Offers holds (next.peers self).client (next.peers self).sending := by
  refine chat_client_step (fun _ => Offers holds) stale chat next event taken offers ?_
  rintro speaking step link rfl stepped
  refine offers_network holds speaking (chat.link speaking) link step ?_ (offers speaking) stepped
  rintro inData rfl
  exact given inData rfl

theorem offers_run (holds : Bytes → Prop) (stale : Address → Option Int) (events : List ChatEvent) (final : Chat)
    (given : ∀ event ∈ events, ∀ inData, saying event = some inData → holds inData)
    (reached : Transition.run (chatStep stale) noChat events = some final) :
    ∀ self, Offers holds (final.peers self).client (final.peers self).sending :=
  Transition.run_keeps_guarded (chatStep stale) (fun _ event => ∀ inData, saying event = some inData → holds inData)
    (fun chat => ∀ self, Offers holds (chat.peers self).client (chat.peers self).sending)
    (fun chat event next => offers_step holds stale chat event next) events noChat final
    (fun self => ⟨fun data member => (by cases member), fun data member => (by cases member)⟩)
    ((Transition.meets_events (chatStep stale) _ noChat final events reached).mpr given) reached

def WebSocketConnection.readAgain (connection : WebSocketConnection) : WebSocketConnection :=
  { connection with readBuffer := [], pendingReads := connection.pendingReads - 1 }.doRead

theorem read_shown (world : WatchedClient) (message : Bytes) (reading : 0 < world.host.pendingReads)
    (connected : world.host.isConnected = true) (empty : world.host.readBuffer = [])
    (fits : message.length ≤ readBufferLimit) :
    WebSocketConnection.complete watching world (.received none message) =
      some (.returned ⟨world.host.readAgain, world.app ++ [.onMessage message]⟩) := by
  have room : 0 < world.host.pendingReads ∧ world.host.readBuffer.length + message.length ≤ readBufferLimit :=
    ⟨reading, by rwa [empty, List.length_nil, Nat.zero_add]⟩
  rw [WebSocketConnection.complete_received]
  refine ⟨room, ?_⟩
  simp only [WebSocketConnection.onRead, connected, Bool.true_eq_false, if_false, watching, noteClient,
    Outcome.returned_and_then, empty, List.nil_append, WebSocketConnection.readAgain]

theorem client_reads (self : SessionId) (link : Link) (message : Bytes) (rest : List Bytes)
    (side : ClientSide link.connection link.client.sent link.client.broken link.sending)
    (runs : link.client.process.ending = .running) (unbroken : link.client.broken = false)
    (reading : 0 < link.connection.pendingReads) (connected : link.connection.isConnected = true)
    (arrives : link.client.incoming = message :: rest) (fits : message.length ≤ readBufferLimit) :
    linkStep self link (.clientCompleted (.received none message)) = some { link with client := { link.client with
      incoming := rest
      process := ⟨⟨link.connection.readAgain, link.client.process.world.app ++ [.onMessage message]⟩, .running⟩ } } := by
  have empty : link.client.process.world.host.readBuffer = [] := side.consumed (by omega)
  have allowed : link.client.completes (.received none message) = some { link.client with incoming := rest } := by
    simp only [Endpoint.completes, unbroken, arrives, if_true]
  simp only [linkStep, runs, clientResult, allowed, read_shown _ message reading connected empty fits, Option.bind_some,
    Option.map_some, settle, Link.connection]

theorem server_reads (stale : Address → Option Int) (chat : Chat) (sound : ChatSound chat) (self : SessionId) (message : Bytes)
    (rest : List Bytes) (address : Address) (runs : chat.server.ending = .running)
    (unbroken : (chat.peers self).broken = false) (reading : 0 < (chat.server.world.host self).pendingReads)
    (arrives : (chat.peers self).incoming = message :: rest) (fits : message.length ≤ readBufferLimit)
    (allocatable : Allocatable chat.server.world.app (.newClient self address)) :
    ∃ server, chatStep stale chat (.completed self (.received none message) address) = some {
      server := ⟨server, .running⟩
      peers := Function.update chat.peers self { chat.peers self with incoming := rest }
      log := chat.log ++ [.newMessage self message] } := by
  have empty : (chat.server.world.host self).readBuffer = [] := (sound.lanes self).sound.server.reader.consumed (by
    exact Nat.lt_of_lt_of_le reading (Nat.le_add_left _ _))
  have allowed : (chat.link self).server.completes (.received none message) =
      some { (chat.link self).server with incoming := rest } := by
    have arriving : (chat.link self).server.incoming = message :: rest := arrives
    have well : (chat.link self).server.broken = false := unbroken
    simp only [Endpoint.completes, well, arriving, if_true]
  obtain ⟨outcome, done⟩ : ∃ outcome,
      complete (boundCallbacks stale address) self chat.server.world (.received none message) = some outcome :=
    ⟨_, (complete_received _ _ _ _ _ _).mpr ⟨⟨reading, by simpa [empty] using fits⟩, rfl⟩⟩
  have registered := reader_registered chat (sound.served runs) self unbroken reading
  have first : FirstFailure ⟨chat.server.world, .running⟩ (.completed self (.received none message) address) :=
    (((sound.served runs).healthy.lives self).member.mp registered).2.1
  obtain ⟨server, rfl, _⟩ := (completed_step stale chat.server.world self _ address outcome
    (sound.served runs).healthy allocatable done).resolve_right fun later => later.1 first
  refine ⟨server, ?_⟩
  simp only [chatStep, sessionResult, allowed, Option.bind_some, serverStep, runs, if_pos allocatable, done,
    Option.map_some, settle, calledBack, empty, List.nil_append, Option.toList_some]
  rfl

theorem readable_in_flight (chat : Chat) (sound : ChatSound chat)
    (offers : ∀ self, Offers Modest (chat.peers self).client (chat.peers self).sending) (self : SessionId) :
    (∀ text ∈ (chat.server.world.host self).accepted, Readable text) ∧
      (∀ message ∈ (chat.peers self).client.incoming, Readable message) ∧
      ∀ message ∈ (chat.peers self).incoming, Readable message := by
  have written : ∀ text ∈ (chat.server.world.host self).accepted, Readable text := fun text accepted =>
    expected_readable self chat.log (fun other message told => (offers other).accepted message
      ((messages_heard chat sound other).subset told))
      text ((sound.promised self).subset accepted)
  refine ⟨written, fun message flies => ?_, fun message flies => ?_⟩
  · exact written message ((sound.lanes self).down.ordered.subset (List.mem_append_right _ flies))
  · exact modest_readable message
      ((offers self).accepted message ((sound.lanes self).up.ordered.subset (List.mem_append_right _ flies)))

theorem chat_texts_readable (stale : Address → Option Int) (events : List ChatEvent) (final : Chat)
    (reached : Transition.run (chatStep stale) noChat events = some final)
    (modest : ∀ event ∈ events, ∀ inData, saying event = some inData → Modest inData) (self : SessionId) :
    (∀ text ∈ (final.server.world.host self).accepted, Readable text) ∧
    (∀ message rest, (final.peers self).client.incoming = message :: rest →
      (final.peers self).client.broken = false → (final.peers self).client.process.ending = .running →
      (final.server.world.host self).constructed = true → (final.link self).connection.isConnected = true →
      0 < (final.link self).connection.pendingReads → Readable message ∧
        ∃ next, chatStep stale final (.network self (.clientCompleted (.received none message))) = some next ∧
          next.seen self = final.seen self ++ [message]) ∧
    (∀ message rest address, (final.peers self).incoming = message :: rest → (final.peers self).broken = false →
      final.server.ending = .running → 0 < (final.server.world.host self).pendingReads →
      Allocatable final.server.world.app (.newClient self address) → Readable message ∧
        ∃ next, chatStep stale final (.completed self (.received none message) address) = some next ∧
          next.server.ending = .running ∧ next.log = final.log ++ [.newMessage self message]) := by
  have sound := chat_run_sound stale events final reached
  obtain ⟨written, down, up⟩ := readable_in_flight final sound (offers_run Modest stale events final modest reached) self
  refine ⟨written, fun message rest arrives unbroken runs opened connected reading => ?_,
    fun message rest address arrives unbroken runs reading allocatable => ?_⟩
  · have readable := down message (by rw [arrives]; exact List.mem_cons_self)
    have taken := client_reads self (final.link self) message rest (sound.lanes self).sound.client runs
      unbroken reading connected arrives readable.fits
    refine ⟨readable, _, network_taken stale final self _ _ (by simp) opened taken, ?_⟩
    simp only [Chat.seen, Chat.link, Chat.withLink, Function.update_self, Link.clientDelivered]
    exact client_messages_append _ _
  · have readable := up message (by rw [arrives]; exact List.mem_cons_self)
    obtain ⟨server, taken⟩ := server_reads stale final sound self message rest address runs unbroken reading arrives
      readable.fits allocatable
    exact ⟨readable, _, taken, rfl, rfl⟩

def saidOk : List ChatEvent :=
  [.opened 0, .opened 1, .completed 0 (.accepted none) 10, .network 0 (.clientCompleted (.handshaken none)),
    .network 0 .serverTransmits, .completed 1 (.accepted none) 11, .network 1 (.clientCompleted (.handshaken none)),
    .network 1 (.sendChecked [111, 107]), .network 1 (.sendLocked 0), .network 1 .clientTransmits]

theorem said_ok_modest : ∀ event ∈ saidOk, ∀ inData, saying event = some inData → Modest inData := by
  have ok : Modest [111, 107] := ⟨by decide, by decide⟩
  simp only [saidOk, List.forall_mem_cons, saying]
  simp [ok]

theorem chat_texts_readable_said_ok :
    ∃ final, Transition.run (chatStep undefinedRead) noChat saidOk = some final ∧
      (∃ next, chatStep undefinedRead final (.network 0 (.clientCompleted (.received none (welcomeText 1)))) = some next ∧
        next.seen 0 = [welcomeText 1]) ∧
      ∃ next, chatStep undefinedRead final (.completed 1 (.received none [111, 107]) 12) = some next ∧
        next.server.ending = .running := by
  have first := (chat_texts_readable undefinedRead saidOk _ rfl said_ok_modest 0).2.1 (welcomeText 1) [] rfl rfl rfl rfl rfl
    (by decide)
  have second := (chat_texts_readable undefinedRead saidOk _ rfl said_ok_modest 1).2.2 [111, 107] [] 12 rfl rfl rfl
    (by decide) (by decide)
  obtain ⟨_, told, taken, shown⟩ := first
  obtain ⟨_, heard, received, runs, _⟩ := second
  exact ⟨_, rfl, ⟨told, taken, shown⟩, heard, received, runs⟩

end NetworkWrapper
