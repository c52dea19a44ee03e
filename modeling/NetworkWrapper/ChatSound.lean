import NetworkWrapper.ChatCallbacks

set_option autoImplicit false

namespace NetworkWrapper

open WebSocketSession WebSocketMainLogicServer

structure Lanes (session : SessionId) (link : Link) : Prop where
  sound : LinkSound session link
  up : (link.upLane session).InOrder
  down : (link.downLane session).InOrder

theorem lanes_carried (self : SessionId) (link next : Link) (lanes : Lanes self link) (carries : Carries self link next) :
    Lanes self next := by
  obtain ⟨kept, upward, downward⟩ := carries
  exact ⟨kept, Lane.in_order_reaches _ _ lanes.up upward, Lane.in_order_reaches _ _ lanes.down downward⟩

theorem server_carries (self : SessionId) (link next : Link) (sound : LinkSound self link)
    (sameClient : next.client = link.client) (sameSending : next.sending = link.sending)
    (kept : ServerSide (next.session self) next.server.sent)
    (sends : Lane.Sends (serverOutbound self link.server) (serverOutbound self next.server))
    (receives : Lane.Receives (serverInbound self link.server) (serverInbound self next.server)) :
    Carries self link next := by
  obtain ⟨client, server, sending⟩ := next
  simp only at sameClient sameSending
  subst client sending
  exact ⟨⟨kept, sound.client⟩, receives (clientOutbound link.client), sends (clientInbound link.client)⟩

structure Served (chat : Chat) : Prop where
  healthy : Healthy chat.server.world
  announced : Announced chat.log chat.server.world
  once : (joins chat.log).Nodup
  joined : ∀ self, self ∈ joins chat.log ↔ HandshakeDone (chat.server.world.host self)
  lost : ∀ self ∈ joins chat.log, isPresent self chat.log = false → (chat.peers self).broken = true

structure ChatSound (chat : Chat) : Prop where
  lanes : ∀ self, Lanes self (chat.link self)
  promised : ∀ self, (chat.server.world.host self).accepted <+: expectedTexts self chat.log
  served : chat.server.ending = .running → Served chat

theorem promised_longer (self : SessionId) (log : List LogicEvent) (later : Option LogicEvent) (texts : List Bytes)
    (promised : texts <+: expectedTexts self log) : texts <+: expectedTexts self (log ++ later.toList) := by
  cases later with
  | none => simpa using promised
  | some event =>
      rw [Option.toList_some, expected_snoc]
      exact promised.trans (List.prefix_append _ _)

theorem present_registered (chat : Chat) (served : Served chat) (self : SessionId) :
    isPresent self chat.log = true ↔
      HandshakeDone (chat.server.world.host self) ∧ (chat.server.world.host self).isConnected = true := by
  rw [← served.announced.tracked.registered self, (served.healthy.lives self).member, HandshakeDone]
  constructor
  · exact fun registered => ⟨⟨registered.1, registered.2.2⟩, registered.2.1⟩
  · exact fun done => ⟨done.1.1, done.2, done.1.2⟩

theorem reader_registered (chat : Chat) (served : Served chat) (self : SessionId)
    (unbroken : (chat.peers self).broken = false) (pending : 0 < (chat.server.world.host self).pendingReads) :
    self ∈ chat.server.world.app.allSessions := by
  rw [served.announced.tracked.registered self]
  by_contra absent
  have done := life_unborn _ _ (served.healthy.lives self) (.inl pending)
  have broken := served.lost self ((served.joined self).mpr done) (by simpa using absent)
  rw [broken] at unbroken
  cases unbroken

theorem message_read (stale : Address → Option Int) (chat : Chat) (served : Served chat) (self : SessionId)
    (completion : Completion) (address : Address) (endpoint : Endpoint Watched) (outcome : Outcome Server)
    (allowed : (chat.link self).server.completes (sessionResult completion) = some endpoint)
    (taken : complete (boundCallbacks stale address) self chat.server.world completion = some outcome) :
    ∀ message, completion = .received none message → ∃ id, playerId stale self chat.server.world.app = some id := by
  rintro message rfl
  obtain ⟨⟨pending, _⟩, _⟩ := (complete_received _ _ _ _ _ _).mp taken
  obtain ⟨_, _, unbroken, _⟩ := completes_received _ _ _ allowed
  exact player_id_registered stale _ served.healthy.linked self (reader_registered chat served self unbroken pending)

theorem completes_broken {Host : Type} (endpoint after : Endpoint Host) (result : StreamResult)
    (allowed : endpoint.completes result = some after) (broken : endpoint.broken = true) : after.broken = true := by
  cases result with
  | received ec message =>
      cases ec with
      | some what =>
          cases allowed
          rfl
      | none =>
          obtain ⟨_, _, unbroken, _⟩ := completes_received _ _ _ allowed
          rw [broken] at unbroken
          cases unbroken
  | wrote index ec =>
      cases ec with
      | some what =>
          cases allowed
          rfl
      | none =>
          obtain ⟨⟨unbroken, _⟩, _⟩ := completes_wrote _ _ _ allowed
          rw [broken] at unbroken
          cases unbroken
  | other ec =>
      cases ec with
      | some what =>
          cases allowed
          rfl
      | none =>
          obtain ⟨unbroken, _⟩ := completes_other _ _ allowed
          rw [broken] at unbroken
          cases unbroken

theorem lost_breaks (session : WebSocketSession) (self wsSession : SessionId) (address : Address)
    (completion : Completion) (endpoint after : Endpoint Watched)
    (allowed : endpoint.completes (sessionResult completion) = some after)
    (called : calledBack session self address completion = some (.lostClient wsSession)) :
    wsSession = self ∧ after.broken = true := by
  cases completion with
  | accepted ec =>
      cases ec with
      | none => cases called
      | some what =>
          cases called
          cases allowed
          exact ⟨rfl, rfl⟩
  | received ec message =>
      cases ec with
      | none => cases called
      | some what =>
          cases called
          cases allowed
          exact ⟨rfl, rfl⟩
  | wrote index ec =>
      cases ec with
      | none => cases called
      | some what =>
          cases called
          cases allowed
          exact ⟨rfl, rfl⟩
  | ran => cases called

theorem chat_completed (stale : Address → Option Int) (chat next : Chat) (self : SessionId) (completion : Completion)
    (address : Address) (taken : chatStep stale chat (.completed self completion address) = some next) :
    chat.server.ending = .running ∧ Allocatable chat.server.world.app (.newClient self address) ∧
      ∃ endpoint outcome, (chat.link self).server.completes (sessionResult completion) = some endpoint ∧
        complete (boundCallbacks stale address) self chat.server.world completion = some outcome ∧
        next = { chat.withLink self { chat.link self with server := endpoint } with
          server := settle outcome
          log := chat.log ++ (calledBack (chat.server.world.host self) self address completion).toList } := by
  simp only [chatStep, Option.bind_eq_some_iff, Option.map_eq_some_iff] at taken
  obtain ⟨endpoint, allowed, server, stepped, rfl⟩ := taken
  cases state : chat.server.ending with
  | escaped what => simp [serverStep, state] at stepped
  | undefined => simp [serverStep, state] at stepped
  | running =>
      simp only [serverStep, state, Option.ite_none_right_eq_some, Option.map_eq_some_iff] at stepped
      obtain ⟨room, outcome, done, rfl⟩ := stepped
      exact ⟨rfl, room, endpoint, outcome, allowed, done, rfl⟩

theorem completed_carries (stale : Address → Option Int) (chat : Chat) (self other : SessionId) (completion : Completion)
    (address : Address) (endpoint : Endpoint Watched) (outcome : Outcome Server)
    (sound : LinkSound other (chat.link other)) (tracked : Tracked chat.log chat.server.world.app)
    (read : ∀ message, completion = .received none message → ∃ id, playerId stale self chat.server.world.app = some id)
    (allowed : (chat.link self).server.completes (sessionResult completion) = some endpoint)
    (taken : complete (boundCallbacks stale address) self chat.server.world completion = some outcome) :
    let next : Chat := { chat.withLink self { chat.link self with server := endpoint } with
      server := settle outcome
      log := chat.log ++ (calledBack (chat.server.world.host self) self address completion).toList }
    Carries other (chat.link other) (next.link other) := by
  obtain ⟨calls, recorded, done, seen⟩ :=
    completed_recorded stale address self chat.server.world chat.log completion outcome tracked read taken
  by_cases same : other = self
  · subst other
    obtain ⟨kept, sends⟩ :=
      server_sends self calls (chat.link self).server endpoint completion recorded sound.server allowed done
    have receives :=
      server_receives self calls (chat.link self).server endpoint completion recorded sound.server allowed done
    rw [seen] at kept sends receives
    apply server_carries self _ _ sound
    · simp [Chat.link, Chat.withLink]
    · simp [Chat.link, Chat.withLink]
    · simpa [Chat.link, Chat.withLink, Link.session, settle_world, recordedServer] using kept
    · simpa [Chat.link, Chat.withLink, serverOutbound, settle_world, recordedServer] using sends
    · simpa [Chat.link, Chat.withLink, serverInbound, settle_world] using receives
  · have fed := fed_elsewhere other self calls _ completion recorded same done
    have quiet := (complete_quiet other self calls _ completion recorded (Ne.symm same) done).1
    rw [seen] at fed quiet
    have side : ServerSide (chat.server.world.host other) (chat.peers other).sent := sound.server
    apply server_carries other _ _ sound
    · simp [Chat.link, Chat.withLink, same]
    · simp [Chat.link, Chat.withLink, same]
    · simpa [Chat.link, Chat.withLink, same, Link.session, settle_world, recordedServer] using
        server_side_fed _ _ _ side fed
    · simpa [Chat.link, Chat.withLink, same, serverOutbound, settle_world, recordedServer] using
        sends_fed _ _ _ (chat.peers other).broken side fed
    · simp only [Chat.link, Chat.withLink, serverInbound, settle_world, Function.update_of_ne same]
      rw [quiet]
      exact Lane.receives_refl _

theorem called_back_legal (chat : Chat) (served : Served chat) (self : SessionId) (completion : Completion)
    (address : Address) (endpoint : Endpoint Watched) (outcome : Outcome Server) (stale : Address → Option Int)
    (event : LogicEvent)
    (allowed : (chat.link self).server.completes (sessionResult completion) = some endpoint)
    (taken : complete (boundCallbacks stale address) self chat.server.world completion = some outcome)
    (called : calledBack (chat.server.world.host self) self address completion = some event)
    (returns : ∀ wsSession, event ≠ .lostClient wsSession) : Legal chat.log event := by
  cases completion with
  | accepted ec =>
      cases ec with
      | some what => cases called; exact absurd rfl (returns self)
      | none =>
          cases called
          obtain ⟨pending, _⟩ := (complete_accepted _ _ _ _ _).mp taken
          intro member
          exact Nat.ne_of_gt pending ((served.joined self).mp member).2
  | received ec message =>
      cases ec with
      | some what => cases called; exact absurd rfl (returns self)
      | none =>
          cases called
          obtain ⟨⟨pending, _⟩, _⟩ := (complete_received _ _ _ _ _ _).mp taken
          obtain ⟨_, _, unbroken, _⟩ := completes_received _ _ _ allowed
          exact (served.announced.tracked.registered self).mp (reader_registered chat served self unbroken pending)
  | wrote index ec =>
      cases ec with
      | some what => cases called; exact absurd rfl (returns self)
      | none => cases called
  | ran => cases called

theorem recorded_handshaken (registered : Prop) (self : SessionId) (calls : List Call) (world : Watched)
    (completion : Completion) (recorded : Outcome Watched) (life : Life registered (world.host self))
    (taken : complete (recording calls) self world completion = some recorded) :
    HandshakeDone (recorded.world.host self) := by
  have idle : .onRun ∉ (world.host self).posted := by
    rw [life.sole.unposted]
    exact List.not_mem_nil
  have past (active : 0 < (world.host self).pendingReads ∨ (world.host self).pendingWrites ≠ []) :
      HandshakeDone (recorded.world.host self) := by
    obtain ⟨born, accepted⟩ := life_unborn _ _ life active
    have done := handshaken_completes self calls world completion recorded ⟨born, accepted, idle⟩ taken
    exact ⟨done.1, done.2.1⟩
  cases completion with
  | accepted ec =>
      obtain ⟨pending, rfl⟩ := (complete_accepted _ _ _ _ _).mp taken
      obtain ⟨_, single, _, _⟩ := life.handshake (Nat.ne_of_gt pending)
      have born : (world.host self).constructed = true := by
        by_contra unborn
        rw [life.unborn (by simpa using unborn)] at single
        cases single
      have begun := update_handshaken self world
        { world.host self with pendingAccepts := (world.host self).pendingAccepts - 1 }
        ⟨born, by simp only [single, Nat.sub_self], idle⟩
      cases ec with
      | none => exact ⟨(accept_handshaken self calls _ begun).1, (accept_handshaken self calls _ begun).2.1⟩
      | some what =>
          have failed := connection_error_handshaken self calls _ begun
          exact ⟨failed.1, failed.2.1⟩
  | received ec message => exact past (.inl ((complete_received _ _ _ _ _ _).mp taken).1.1)
  | wrote index ec =>
      exact past (.inr (List.ne_nil_of_length_pos (Nat.zero_lt_of_lt ((complete_wrote _ _ _ _ _ _).mp taken).1)))
  | ran =>
      obtain ⟨task, rest, posted, _⟩ := (complete_ran _ _ _ _).mp taken
      rw [life.sole.unposted] at posted
      cases posted

theorem called_back_joins (session : WebSocketSession) (self other : SessionId) (address : Address)
    (completion : Completion) (log : List LogicEvent) (different : other ≠ self) :
    other ∈ joins (log ++ (calledBack session self address completion).toList) ↔ other ∈ joins log := by
  rw [joins, List.filterMap_append, List.mem_append]
  refine or_iff_left fun member => ?_
  cases completion with
  | accepted ec => cases ec <;> simp [calledBack, different] at member
  | received ec message => cases ec <;> simp [calledBack] at member
  | wrote index ec => cases ec <;> simp [calledBack] at member
  | ran => simp [calledBack] at member

theorem joined_completed (chat : Chat) (served : Served chat) (self : SessionId) (completion : Completion)
    (address : Address) (outcome : Outcome Server) (stale : Address → Option Int)
    (read : ∀ message, completion = .received none message → ∃ id, playerId stale self chat.server.world.app = some id)
    (taken : complete (boundCallbacks stale address) self chat.server.world completion = some outcome)
    (succeeds : ∀ what, completion ≠ .accepted (some what)) (other : SessionId) :
    other ∈ joins (chat.log ++ (calledBack (chat.server.world.host self) self address completion).toList) ↔
      HandshakeDone (outcome.world.host other) := by
  obtain ⟨calls, recorded, done, seen⟩ :=
    completed_recorded stale address self chat.server.world chat.log completion outcome served.announced.tracked read
      taken
  have life := served.healthy.lives self
  by_cases same : other = self
  · subst other
    have after := recorded_handshaken _ self calls _ completion recorded life done
    rw [seen] at after
    refine iff_of_true ?_ after
    have earlier (active : 0 < (chat.server.world.host self).pendingReads ∨
        (chat.server.world.host self).pendingWrites ≠ []) (later : List LogicEvent) : self ∈ joins (chat.log ++ later) := by
      rw [joins, List.filterMap_append]
      exact List.mem_append_left _ ((served.joined self).mpr (life_unborn _ _ life active))
    cases completion with
    | accepted ec =>
        cases ec with
        | none =>
            rw [calledBack, Option.toList_some, joins_snoc]
            exact List.mem_append_right _ List.mem_cons_self
        | some what => exact absurd rfl (succeeds what)
    | received ec message => exact earlier (.inl ((complete_received _ _ _ _ _ _).mp taken).1.1) _
    | wrote index ec =>
        exact earlier (.inr (List.ne_nil_of_length_pos
          (Nat.zero_lt_of_lt ((complete_wrote _ _ _ _ _ _).mp taken).1))) _
    | ran =>
        obtain ⟨task, rest, posted, _⟩ := (complete_ran _ _ _ _).mp taken
        rw [life.sole.unposted] at posted
        cases posted
  · obtain ⟨_, ⟨born, accepts, _⟩, _⟩ := complete_quiet other self calls _ completion recorded (Ne.symm same) done
    rw [seen] at born accepts
    rw [called_back_joins _ self other address completion _ same, served.joined other, HandshakeDone, HandshakeDone,
      show (outcome.world.host other).constructed = _ from born,
      show (outcome.world.host other).pendingAccepts = _ from accepts]
    rfl

theorem called_back_present (session : WebSocketSession) (self other : SessionId) (address : Address)
    (completion : Completion) (log : List LogicEvent) (different : other ≠ self) :
    isPresent other (log ++ (calledBack session self address completion).toList) = isPresent other log := by
  cases completion with
  | accepted ec => cases ec <;> simp [calledBack, present_snoc, Ne.symm different]
  | received ec message => cases ec <;> simp [calledBack, present_snoc, Ne.symm different]
  | wrote index ec => cases ec <;> simp [calledBack, present_snoc, Ne.symm different]
  | ran => simp [calledBack]

theorem called_back_speaker (session : WebSocketSession) (self : SessionId) (address : Address)
    (completion : Completion) (event : LogicEvent)
    (called : calledBack session self address completion = some event) : (historyEntry event).1 = self := by
  cases completion with
  | accepted ec => cases ec <;> (cases called; rfl)
  | received ec message => cases ec <;> (cases called; rfl)
  | wrote index ec =>
      cases ec with
      | none => cases called
      | some what =>
          cases called
          rfl
  | ran => cases called

theorem lost_completed (log : List LogicEvent) (session : WebSocketSession) (self : SessionId) (completion : Completion)
    (address : Address) (endpoint after : Endpoint Watched) (event : LogicEvent)
    (allowed : endpoint.completes (sessionResult completion) = some after)
    (called : calledBack session self address completion = some event) (legal : Legal log event)
    (absent : isPresent self (log ++ [event]) = false) : after.broken = true := by
  have own := called_back_speaker session self address completion event called
  rw [present_snoc] at absent
  cases event with
  | newClient wsSession address' =>
      obtain rfl : wsSession = self := own
      simp at absent
  | newMessage wsSession messageReceived =>
      obtain rfl : wsSession = self := own
      rw [show isPresent wsSession log = true from legal] at absent
      cases absent
  | lostClient wsSession => exact (lost_breaks session self wsSession address completion endpoint after allowed called).2

theorem announced_completed (stale : Address → Option Int) (chat : Chat) (served : Served chat) (self : SessionId)
    (completion : Completion) (address : Address) (endpoint : Endpoint Watched) (outcome : Outcome Server)
    (room : Allocatable chat.server.world.app (.newClient self address))
    (allowed : (chat.link self).server.completes (sessionResult completion) = some endpoint)
    (done : complete (boundCallbacks stale address) self chat.server.world completion = some outcome) :
    (Announced (chat.log ++ (calledBack (chat.server.world.host self) self address completion).toList) outcome.world ∧
      ∀ event, calledBack (chat.server.world.host self) self address completion = some event → Legal chat.log event) ∨
    (SameAccepted chat.server.world.host outcome.world.host ∧ ∀ next, outcome ≠ .returned next) := by
  have performed := completed_performs stale address self chat.server.world completion outcome done
  have legal := called_back_legal chat served self completion address endpoint outcome stale
  cases called : calledBack (chat.server.world.host self) self address completion with
  | none =>
      rw [called] at performed
      rw [Option.toList_none, List.append_nil]
      exact .inl ⟨announced_same chat.log _ _ served.announced performed.1 performed.2, fun event other => by cases other⟩
  | some event =>
      rw [called] at performed
      obtain ⟨begun, performs⟩ := performed
      have allocatable : Allocatable chat.server.world.app event := by
        cases completion with
        | accepted ec =>
            cases ec <;> (cases called; first | exact room | trivial)
        | received ec message => cases ec <;> (cases called; trivial)
        | wrote index ec =>
            cases ec with
            | none => cases called
            | some what =>
                cases called
                trivial
        | ran => cases called
      rcases announced_performs stale chat.server.world begun chat.log event outcome served.announced served.once
        allocatable (legal event allowed done called) performs with ⟨lawful, onward⟩ | threw
      · rw [Option.toList_some]
        exact .inl ⟨onward, fun other same => by cases same; exact lawful⟩
      · exact .inr threw

theorem with_link_broken (chat : Chat) (self other : SessionId) (link : Link) :
    ((chat.withLink self link).peers other).broken =
      if other = self then link.server.broken else (chat.peers other).broken := by
  by_cases same : other = self
  · subst other
    simp [Chat.withLink]
  · simp [Chat.withLink, same]

theorem completed_sound (stale : Address → Option Int) (chat next : Chat) (self : SessionId) (completion : Completion)
    (address : Address) (sound : ChatSound chat)
    (taken : chatStep stale chat (.completed self completion address) = some next) : ChatSound next := by
  obtain ⟨running, room, endpoint, outcome, allowed, done, rfl⟩ :=
    chat_completed stale chat next self completion address taken
  have served := sound.served running
  have stepped : serverStep stale ⟨chat.server.world, .running⟩ (.completed self completion address) =
      some (settle outcome) := by
    simp only [serverStep, if_pos room, done, Option.map_some]
  have read := message_read stale chat served self completion address endpoint outcome allowed done
  have announced := announced_completed stale chat served self completion address endpoint outcome room allowed done
  refine ⟨fun other => ?_, fun other => ?_, fun runs => ?_⟩
  · exact lanes_carried other _ _ (sound.lanes other) (completed_carries stale chat self other completion address endpoint
      outcome (sound.lanes other).sound served.announced.tracked read allowed done)
  · simp only [settle_world]
    rcases announced with ⟨onward, _⟩ | ⟨same, _⟩
    · rw [onward.written other]
    · rw [same other]
      exact promised_longer other chat.log _ _ (sound.promised other)
  · simp only at runs
    have returned : ∃ world, outcome = .returned world := by
      cases outcome with
      | returned world => exact ⟨world, rfl⟩
      | threw what world => cases runs
      | undefined world => cases runs
    have healthy := server_step_healthy stale chat.server.world _ _ served.healthy stepped runs
    obtain ⟨onward, legal⟩ := announced.resolve_right fun ended => returned.elim ended.2
    have joined := joined_completed chat served self completion address outcome stale read done fun what failed => by
      subst failed
      have present : isPresent self chat.log = true := legal (.lostClient self) rfl
      exact Nat.ne_of_gt ((complete_accepted _ _ _ _ _).mp done).1
        ((present_registered chat served self).mp present).1.2
    refine ⟨healthy, by simpa only [settle_world] using onward, ?_, fun other => ?_, fun other member absent => ?_⟩
    · cases called : calledBack (chat.server.world.host self) self address completion with
      | none => simpa using served.once
      | some event => exact joins_legal chat.log event served.once (legal event called)
    · simp only [settle_world]
      exact joined other
    · simp only [with_link_broken]
      by_cases same : other = self
      · subst other
        rw [if_pos rfl]
        cases called : calledBack (chat.server.world.host self) self address completion with
        | none =>
            simp only [called, Option.toList_none, List.append_nil] at member absent
            exact completes_broken _ endpoint _ allowed (served.lost self member absent)
        | some event =>
            simp only [called, Option.toList_some] at absent
            exact lost_completed chat.log _ self completion address _ endpoint event allowed called (legal event called)
              absent
      · rw [if_neg same]
        exact served.lost other ((called_back_joins _ self other address completion _ same).mp member)
          ((called_back_present _ self other address completion _ same).symm.trans absent)

theorem opened_carries (chat : Chat) (self other : SessionId) (sound : LinkSound other (chat.link other))
    (healthy : Healthy chat.server.world) (fresh : (chat.server.world.host self).constructed = false) :
    Carries other (chat.link other)
      (Chat.link other { chat with server := ⟨chat.server.world.update self (construct false).run, .running⟩ }) := by
  have side : ServerSide (chat.server.world.host other) (chat.peers other).sent := sound.server
  by_cases same : other = self
  · subst other
    have blank := (healthy.lives self).unborn fresh
    rw [blank] at side
    have unsent : (chat.peers self).sent = 0 := Nat.le_zero.mp side.sent
    refine server_carries self _ _ sound ?_ ?_ ?_ ?_ ?_
    · rfl
    · rfl
    · simp only [Link.session, Chat.link, recordedServer, World.update_same, unsent]
      exact ⟨⟨rfl, rfl, List.prefix_refl _⟩, ⟨Nat.le_refl _, fun _ => rfl⟩, Nat.zero_le _⟩
    · have same : serverOutbound self (Chat.link self { chat with
          server := ⟨chat.server.world.update self (construct false).run, .running⟩ }).server =
          serverOutbound self (chat.link self).server := by
        simp only [serverOutbound, Chat.link, recordedServer, World.update_same, blank]
        rfl
      rw [same]
      exact Lane.sends_refl _
    · exact Lane.receives_refl _
  · have untouched : (chat.server.world.update self (construct false).run).host other = chat.server.world.host other :=
      World.update_other _ _ _ _ same
    refine server_carries other _ _ sound ?_ ?_ ?_ ?_ ?_
    · rfl
    · rfl
    · simp only [Link.session, Chat.link, recordedServer, untouched]
      exact side
    · simp only [serverOutbound, Chat.link, recordedServer, untouched]
      exact Lane.sends_refl _
    · exact Lane.receives_refl _

theorem opened_sound (stale : Address → Option Int) (chat next : Chat) (self : SessionId) (sound : ChatSound chat)
    (taken : chatStep stale chat (.opened self) = some next) : ChatSound next := by
  simp only [chatStep, Option.map_eq_some_iff] at taken
  obtain ⟨server, stepped, rfl⟩ := taken
  cases state : chat.server.ending with
  | escaped what => simp [serverStep, state] at stepped
  | undefined => simp [serverStep, state] at stepped
  | running =>
      simp only [serverStep, state, Bool.not_eq_true, Option.ite_none_left_eq_some, Option.some.injEq] at stepped
      obtain ⟨fresh, rfl⟩ := stepped
      have served := sound.served state
      have blank := (served.healthy.lives self).unborn fresh
      have same : SameAccepted chat.server.world.host (chat.server.world.update self (construct false).run).host := by
        refine same_accepted_update chat.server.world self _ ?_
        rw [blank]
        rfl
      refine ⟨fun other => ?_, fun other => ?_, fun _ => ⟨?_, ?_, served.once, fun other => ?_, served.lost⟩⟩
      · exact lanes_carried other _ _ (sound.lanes other)
          (opened_carries chat self other (sound.lanes other).sound served.healthy fresh)
      · rw [same other]
        exact sound.promised other
      · exact opened_healthy chat.server.world served.healthy self fresh
      · exact announced_same chat.log _ _ served.announced rfl same
      · rw [served.joined other]
        by_cases equal : other = self
        · subst other
          simp [HandshakeDone, fresh, run, onRun, construct, unconstructed]
        · rw [World.update_other _ _ _ _ equal]

theorem released_sound (stale : Address → Option Int) (chat next : Chat) (self : SessionId) (closeError : ErrorCode)
    (sound : ChatSound chat) (taken : chatStep stale chat (.released self closeError) = some next) : ChatSound next := by
  simp only [chatStep, Option.map_eq_some_iff] at taken
  obtain ⟨server, stepped, rfl⟩ := taken
  cases state : chat.server.ending with
  | escaped what => simp [serverStep, state] at stepped
  | undefined => simp [serverStep, state] at stepped
  | running =>
      simp only [serverStep, state, Option.ite_none_right_eq_some, Option.some.injEq] at stepped
      obtain ⟨unreferenced, rfl⟩ := stepped
      have closed := released_closed chat.server.world (sound.served state).healthy self unreferenced
      have unchanged : settle (chat.server.world.call self (·.disconnect closeError)) = chat.server := by
        obtain ⟨⟨world, ending⟩, peers, log⟩ := chat
        obtain rfl : ending = .running := state
        simp only at closed
        simp [World.call, disconnect, closed, World.update, settle]
      rw [unchanged]
      exact sound

theorem network_keeps_server (self : SessionId) (link next : Link) (event : LinkEvent)
    (outside : ∀ step, event ≠ .serverSteps step) (taken : linkStep self link event = some next) :
    next.server.process = link.server.process ∧ next.server.broken = link.server.broken := by
  cases event with
  | serverSteps step => exact absurd rfl (outside step)
  | sendChecked inData =>
      simp only [linkStep, Option.ite_none_right_eq_some, Option.some.injEq] at taken
      obtain ⟨_, rfl⟩ := taken
      exact ⟨rfl, rfl⟩
  | sendLocked index =>
      simp only [linkStep] at taken
      split at taken
      · cases taken
        exact ⟨rfl, rfl⟩
      · cases taken
  | clientCompleted completion =>
      simp only [linkStep] at taken
      split at taken
      · simp only [Option.bind_eq_some_iff, Option.map_eq_some_iff] at taken
        obtain ⟨_, _, _, _, rfl⟩ := taken
        exact ⟨rfl, rfl⟩
      · cases taken
  | clientTransmits =>
      simp only [linkStep] at taken
      split at taken
      · cases taken
        exact ⟨rfl, rfl⟩
      · cases taken
  | clientOverlaps incoming =>
      simp only [linkStep, Option.ite_none_right_eq_some, Option.some.injEq] at taken
      obtain ⟨_, rfl⟩ := taken
      exact ⟨rfl, rfl⟩
  | serverTransmits =>
      simp only [linkStep] at taken
      split at taken
      · cases taken
        exact ⟨rfl, rfl⟩
      · cases taken
  | serverOverlaps incoming =>
      simp only [linkStep, Option.ite_none_right_eq_some, Option.some.injEq] at taken
      obtain ⟨_, rfl⟩ := taken
      exact ⟨rfl, rfl⟩

theorem with_link_self (chat : Chat) (self : SessionId) (link : Link)
    (same : link.server.process = (chat.link self).server.process) : (chat.withLink self link).link self = link := by
  obtain ⟨client, ⟨process, incoming, sent, broken⟩, sending⟩ := link
  simp only at same
  subst process
  simp [Chat.link, Chat.withLink]

theorem with_link_other (chat : Chat) (self other : SessionId) (link : Link) (different : other ≠ self) :
    (chat.withLink self link).link other = chat.link other := by
  simp [Chat.link, Chat.withLink, different]

theorem network_stepped (stale : Address → Option Int) (chat next : Chat) (self : SessionId) (event : LinkEvent)
    (taken : chatStep stale chat (.network self event) = some next) :
    (∀ step, event ≠ .serverSteps step) ∧
      ∃ link, linkStep self (chat.link self) event = some link ∧ next = chat.withLink self link := by
  cases event with
  | serverSteps step => cases taken
  | _ =>
      simp only [chatStep, Option.ite_none_right_eq_some, Option.map_eq_some_iff] at taken
      obtain ⟨_, link, stepped, rfl⟩ := taken
      exact ⟨by simp, link, stepped, rfl⟩

theorem network_taken (stale : Address → Option Int) (chat : Chat) (self : SessionId) (event : LinkEvent) (link : Link)
    (outside : ∀ step, event ≠ .serverSteps step) (opened : (chat.server.world.host self).constructed = true)
    (stepped : linkStep self (chat.link self) event = some link) :
    chatStep stale chat (.network self event) = some (chat.withLink self link) := by
  cases event with
  | serverSteps step => exact absurd rfl (outside step)
  | _ => simp only [chatStep, if_pos opened, stepped, Option.map_some]

theorem network_sound (stale : Address → Option Int) (chat next : Chat) (self : SessionId) (event : LinkEvent)
    (sound : ChatSound chat) (taken : chatStep stale chat (.network self event) = some next) : ChatSound next := by
  obtain ⟨outside, link, stepped, rfl⟩ := network_stepped stale chat next self event taken
  obtain ⟨process, broken⟩ := network_keeps_server self _ link event outside stepped
  refine ⟨fun other => ?_, sound.promised, fun runs => ?_⟩
  · by_cases same : other = self
    · subst other
      rw [with_link_self chat self link process]
      exact lanes_carried self _ _ (sound.lanes self) (link_step_carries self _ link event (sound.lanes self).sound stepped)
    · rw [with_link_other chat self other link same]
      exact sound.lanes other
  · have served := sound.served runs
    refine { served with lost := fun other member absent => ?_ }
    rw [with_link_broken]
    split
    · next same =>
        subst other
        rw [broken]
        exact served.lost self member absent
    · exact served.lost other member absent

theorem chat_step_sound (stale : Address → Option Int) (chat : Chat) (event : ChatEvent) (next : Chat) (sound : ChatSound chat)
    (taken : chatStep stale chat event = some next) : ChatSound next := by
  cases event with
  | opened self => exact opened_sound stale chat next self sound taken
  | completed self completion address => exact completed_sound stale chat next self completion address sound taken
  | released self closeError => exact released_sound stale chat next self closeError sound taken
  | network self event => exact network_sound stale chat next self event sound taken

theorem no_chat_sound : ChatSound noChat := by
  refine ⟨fun self => ⟨⟨?_, ?_⟩, ?_, ?_⟩, fun self => List.nil_prefix, fun _ => ?_⟩
  · exact ⟨sole_writer_unconstructed, ⟨Nat.zero_le _, fun _ => rfl⟩, Nat.zero_le _⟩
  · exact ⟨List.prefix_refl _, Nat.zero_le _, rfl, rfl, Nat.le_refl _, fun _ => rfl, fun _ _ => ⟨rfl, rfl, rfl⟩⟩
  · exact ⟨List.prefix_refl _, fun _ => rfl⟩
  · exact ⟨List.prefix_refl _, fun _ => rfl⟩
  · refine ⟨no_clients_healthy, ⟨tracked_initial, numbering_initial, fun _ => rfl⟩, List.nodup_nil, fun self => ?_, ?_⟩
    · simp [noChat, noClients, joins, HandshakeDone, unconstructed]
    · simp [noChat, joins]

theorem chat_run_sound (stale : Address → Option Int) (events : List ChatEvent) (final : Chat)
    (reached : Transition.run (chatStep stale) noChat events = some final) : ChatSound final :=
  Transition.run_keeps (chatStep stale) ChatSound (chat_step_sound stale) events noChat final no_chat_sound reached

theorem messages_heard (chat : Chat) (sound : ChatSound chat) (self : SessionId) :
    messagesFrom self chat.log <+: (chat.link self).connection.accepted :=
  recorded_messages self chat.server.world.host chat.log ▸ Lane.in_order_prefix _ (sound.lanes self).up

theorem texts_shown (chat : Chat) (sound : ChatSound chat) (self : SessionId) :
    chat.seen self <+: expectedTexts self chat.log :=
  (Lane.in_order_prefix _ (sound.lanes self).down).trans (sound.promised self)

theorem chat_drained (chat : Chat) (sound : ChatSound chat) (self : SessionId) (runs : chat.server.ending = .running)
    (clientWell : (chat.peers self).client.broken = false) (serverWell : (chat.peers self).broken = false)
    (nothingDown : (chat.peers self).client.incoming = []) (nothingUp : (chat.peers self).incoming = [])
    (clientSent : (chat.link self).connection.buffersToSend = [])
    (serverSent : ((chat.link self).session self).sendBufferSafeQueue.buffersToSend = []) :
    chat.seen self = expectedTexts self chat.log ∧ messagesFrom self chat.log = (chat.link self).connection.accepted := by
  have heard : (chat.link self).serverDelivered self = messagesFrom self chat.log :=
    recorded_messages self chat.server.world.host chat.log
  have upSent : ((chat.link self).upLane self).waiting = [] := by
    simp only [Link.connection] at clientSent
    simp [Link.upLane, Lane.between, clientOutbound, connectionOutbound, clientSent, unsent]
  have downSent : ((chat.link self).downLane self).waiting = [] := by
    simp only [Link.session] at serverSent
    simp [Link.downLane, Lane.between, serverOutbound, sessionOutbound, serverSent, unsent]
  have down := Lane.in_order_drained _ (sound.lanes self).down serverWell nothingDown downSent
  have up := Lane.in_order_drained _ (sound.lanes self).up clientWell nothingUp upSent
  exact ⟨down.trans ((sound.served runs).announced.written self), heard.symm.trans up⟩

end NetworkWrapper
