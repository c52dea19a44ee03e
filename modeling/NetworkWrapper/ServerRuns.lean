import NetworkWrapper.Registry
import NetworkWrapper.SessionWrites

set_option autoImplicit false

-- The single-threaded server as a whole: the main logic bound to the callbacks
-- of all its sessions, with the network choosing what completes and how.
namespace NetworkWrapper

open WebSocketSession WebSocketMainLogicServer

abbrev Server := LogicWorld Sessions

-- address is where make_shared puts the player if the completion announces a client.
def boundCallbacks (stale : Address → Option Int) (address : Address) : AllCallbacks Sessions WebSocketMainLogicServer where
  onConnection := some fun self => onNewClient sessionWrite self address
  onDisconnection := some (onLostClient sessionWrite stale)
  onMessage := some (onNewMessage sessionWrite stale)

inductive ServerEvent where
  | opened (self : SessionId)
  | completed (self : SessionId) (completion : Completion) (address : Address)
  | released (self : SessionId) (closeError : ErrorCode)
deriving DecidableEq, Repr

-- Handlers, posted tasks and the registry hold the shared pointers of a session.
def Unreferenced (server : Server) (self : SessionId) : Prop :=
  let session := server.host self
  session.constructed = true ∧ session.pendingAccepts = 0 ∧ session.pendingReads = 0 ∧ session.pendingWrites = [] ∧
    session.posted = [] ∧ self ∉ server.app.allSessions

instance (server : Server) (self : SessionId) : Decidable (Unreferenced server self) :=
  inferInstanceAs (Decidable (_ ∧ _))

def serverStep (stale : Address → Option Int) (process : Process Server) (event : ServerEvent) : Option (Process Server) :=
  match process.ending, event with
  | .running, .opened self =>
      if (process.world.host self).constructed then none
      else some ⟨process.world.update self (construct false).run, .running⟩
  | .running, .completed self completion address =>
      if Allocatable process.world.app (.newClient self address) then
        (complete (boundCallbacks stale address) self process.world completion).map settle
      else none
  -- the destructor disconnects, and a destructor that throws ends the process too
  | .running, .released self closeError =>
      if Unreferenced process.world self then some (settle (process.world.call self (·.disconnect closeError))) else none
  | _, _ => none

def noClients : Process Server := ⟨⟨fun _ => unconstructed, initial⟩, .running⟩

-- No handshake fails, and of each session only one operation ends in an error: the
-- first one to do so finds the session still connected. A read that completes later,
-- also without an error, reaches for the player that is gone.
def FirstFailure (process : Process Server) : ServerEvent → Prop
  | .completed _ (.accepted ec) _ => ec = none
  | .completed self (.received _ _) _ => (process.world.host self).isConnected = true
  | .completed self (.wrote _ ec) _ => ec = none ∨ (process.world.host self).isConnected = true
  | _ => True

instance (process : Process Server) : (event : ServerEvent) → Decidable (FirstFailure process event)
  | .completed _ (.accepted ec) _ => inferInstanceAs (Decidable (ec = none))
  | .completed self (.received _ _) _ => inferInstanceAs (Decidable ((process.world.host self).isConnected = true))
  | .completed self (.wrote _ ec) _ =>
      inferInstanceAs (Decidable (ec = none ∨ (process.world.host self).isConnected = true))
  | .completed _ .ran _ => isTrue trivial
  | .opened _ => isTrue trivial
  | .released _ _ => isTrue trivial

structure Life (registered : Prop) (session : WebSocketSession) : Prop where
  sole : SoleWriter session
  member : registered ↔ session.constructed = true ∧ session.isConnected = true ∧ session.pendingAccepts = 0
  unborn : session.constructed = false → session = unconstructed
  handshake : session.pendingAccepts ≠ 0 →
    session.isConnected = true ∧ session.pendingAccepts = 1 ∧ session.pendingReads = 0 ∧ session.pendingWrites = []

def HandshakeDone (session : WebSocketSession) : Prop := session.constructed = true ∧ session.pendingAccepts = 0

structure Healthy (server : Server) : Prop where
  linked : Linked server.app
  lives : ∀ self, Life (self ∈ server.app.allSessions) (server.host self)
  pointed : ∀ self, HandshakeDone (server.host self) → server.app.userData self ≠ none

theorem life_unborn (registered : Prop) (session : WebSocketSession) (life : Life registered session)
    (active : 0 < session.pendingReads ∨ session.pendingWrites ≠ []) :
    HandshakeDone session := by
  have born : session.constructed = true := by
    cases constructed : session.constructed with
    | true => rfl
    | false =>
        rw [life.unborn constructed] at active
        simp [unconstructed] at active
  refine ⟨born, ?_⟩
  by_contra waiting
  obtain ⟨_, _, reads, writes⟩ := life.handshake waiting
  rcases active with reading | writing
  · exact Nat.ne_of_gt reading reads
  · exact writing writes

theorem life_handshaken (registered : Prop) (session : WebSocketSession) (life : Life registered session)
    (present : registered) : HandshakeDone session :=
  ⟨(life.member.mp present).1, (life.member.mp present).2.2⟩

theorem life_written (registered : Prop) (session : WebSocketSession) (life : Life registered session)
    (handshaken : HandshakeDone session) (data : Bytes) :
    Life registered (session.write data).world ∧ HandshakeDone (session.write data).world := by
  obtain ⟨born, accepted⟩ := handshaken
  obtain ⟨sameBorn, sameConnected, sameAccepts, _, _⟩ := written_elsewhere session data
  refine ⟨⟨sole_writer_written session life.sole data, ?_, ?_, ?_⟩, sameBorn.trans born, sameAccepts.trans accepted⟩
  · rw [sameBorn, sameConnected, sameAccepts]
    exact life.member
  · intro unborn
    rw [sameBorn, born] at unborn
    cases unborn
  · intro waiting
    rw [sameAccepts] at waiting
    exact absurd accepted waiting

theorem life_reading (registered : Prop) (session : WebSocketSession) (life : Life registered session)
    (handshaken : HandshakeDone session) (reads : Nat) (buffer : Bytes) :
    Life registered { session with readBuffer := buffer, pendingReads := reads } := by
  obtain ⟨born, accepted⟩ := handshaken
  exact ⟨{ life.sole with }, life.member, by simp [born],
    by simp [accepted]⟩

theorem deliver_all_keeps (holds : SessionId → WebSocketSession → Prop) (data : Bytes) (recipients : List SessionId)
    (kept : ∀ target ∈ recipients, ∀ session, holds target session → holds target (session.write data).world)
    (host : Sessions) (before : ∀ self, holds self (host self)) (self : SessionId) :
    holds self (deliverAll sessionDelivered recipients data host self) := by
  induction recipients generalizing host with
  | nil => exact before self
  | cons target rest ih =>
      refine ih (fun other member => kept other (List.mem_cons_of_mem _ member)) _ ?_
      intro other
      by_cases same : other = target
      · subst other
        simpa only [sessionDelivered, Function.update_self] using
          kept target List.mem_cons_self (host target) (before target)
      · simpa only [sessionDelivered, Function.update_of_ne same] using before other

theorem handshake_delivered (recipients : List SessionId) (data : Bytes) (host : Sessions) (self : SessionId) :
    HandshakeDone (deliverAll sessionDelivered recipients data host self) ↔ HandshakeDone (host self) := by
  refine deliver_all_keeps (fun self session => HandshakeDone session ↔ HandshakeDone (host self)) data recipients ?_ host
    (fun _ => Iff.rfl) self
  intro target _ session same
  obtain ⟨born, _, accepts, _, _⟩ := written_elsewhere session data
  rw [← same, HandshakeDone, HandshakeDone, born, accepts]

theorem connection_error_registered (stale : Address → Option Int) (address : Address) (self : SessionId)
    (server : Server) (linked : Linked server.app) (others : ∀ other, other ≠ self →
      Life (other ∈ server.app.allSessions) (server.host other))
    (pointed : ∀ other, HandshakeDone (server.host other) → server.app.userData other ≠ none)
    (sole : SoleWriter (server.host self)) (born : (server.host self).constructed = true)
    (accepted : (server.host self).pendingAccepts = 0) (member : self ∈ server.app.allSessions) :
    ∃ next, connectionError (boundCallbacks stale address) self server = .returned next ∧ Healthy next := by
  obtain ⟨rest, removed, shuffled⟩ := erase_by_value_perm server.app.allSessions self member
  have split := shuffled.nodup_iff.mp linked.sessionsDistinct
  let dropped := server.update self { server.host self with isConnected := false }
  obtain ⟨id, read⟩ := player_id_registered stale dropped.app linked self member
  refine ⟨_, on_lost_client_returns _ _ session_writes stale self rest dropped id read removed, ?_, ?_, ?_⟩
  · exact linked_departed server.app linked self rest member shuffled
  · apply deliver_all_keeps (fun other session => Life (other ∈ rest) session)
    · exact fun target stays session life => (life_written _ session life (life_handshaken _ session life stays) _).1
    · intro other
      by_cases same : other = self
      · subst other
        have gone : self ∉ rest := (List.nodup_cons.mp split).1
        have lost : dropped.host self = { server.host self with isConnected := false } := World.update_same _ _ _
        rw [lost]
        refine ⟨{ sole with }, ?_, ?_, ?_⟩
        · simp [gone]
        · simp [born]
        · simp [accepted]
      · have life := others other same
        have kept : dropped.host other = server.host other := World.update_other _ _ _ _ same
        have stays : other ∈ server.app.allSessions ↔ other ∈ rest := by
          rw [shuffled.mem_iff, List.mem_cons]
          exact or_iff_right same
        rw [kept]
        exact propext stays ▸ life
  · intro other done
    rw [handshake_delivered] at done
    by_cases same : other = self
    · subst other
      exact pointed self ⟨born, accepted⟩
    · rw [World.update_other _ _ _ _ same] at done
      exact pointed other done

theorem connection_error_unknown (stale : Address → Option Int) (address : Address) (self : SessionId)
    (server : Server) (absent : self ∉ server.app.allSessions) (next : Server) :
    connectionError (boundCallbacks stale address) self server ≠ .returned next := by
  let dropped := server.update self { server.host self with isConnected := false }
  have lost : connectionError (boundCallbacks stale address) self server =
      onLostClient sessionWrite stale self dropped := rfl
  intro returned
  rcases on_lost_client_absent sessionWrite stale self dropped absent with threw | undefined
  · rw [lost, threw] at returned
    cases returned
  · rw [lost, undefined] at returned
    cases returned

theorem healthy_update (server : Server) (healthy : Healthy server) (self : SessionId) (session : WebSocketSession)
    (life : Life (self ∈ server.app.allSessions) session)
    (past : HandshakeDone session → HandshakeDone (server.host self)) : Healthy (server.update self session) := by
  refine ⟨healthy.linked, fun other => ?_, fun other done => ?_⟩
  · by_cases same : other = self
    · subst other
      rw [World.update_same]
      exact life
    · rw [World.update_other _ _ _ _ same]
      exact healthy.lives other
  · by_cases same : other = self
    · subst other
      rw [World.update_same] at done
      exact healthy.pointed self (past done)
    · rw [World.update_other _ _ _ _ same] at done
      exact healthy.pointed other done

theorem failed_healthy (stale : Address → Option Int) (address : Address) (self : SessionId) (server : Server)
    (healthy : Healthy server) (session : WebSocketSession) (sole : SoleWriter session)
    (sameBorn : session.constructed = (server.host self).constructed)
    (sameAccepts : session.pendingAccepts = (server.host self).pendingAccepts)
    (active : 0 < (server.host self).pendingReads ∨ (server.host self).pendingWrites ≠ []) :
    if (server.host self).isConnected then
      ∃ next, connectionError (boundCallbacks stale address) self (server.update self session) = .returned next ∧
        Healthy next
    else ∀ next, connectionError (boundCallbacks stale address) self (server.update self session) ≠ .returned next := by
  obtain ⟨born, accepted⟩ := life_unborn _ _ (healthy.lives self) active
  by_cases connected : (server.host self).isConnected = true
  · rw [if_pos connected]
    have member := (healthy.lives self).member.mpr ⟨born, connected, accepted⟩
    apply connection_error_registered stale address self (server.update self session) healthy.linked
    · intro other different
      rw [World.update_other _ _ _ _ different]
      exact healthy.lives other
    · intro other handshaken
      by_cases same : other = self
      · subst other
        exact healthy.pointed self ⟨born, accepted⟩
      · rw [World.update_other _ _ _ _ same] at handshaken
        exact healthy.pointed other handshaken
    · rwa [World.update_same]
    · rw [World.update_same, sameBorn, born]
    · rw [World.update_same, sameAccepts, accepted]
    · exact member
  · rw [if_neg connected]
    have absent : self ∉ server.app.allSessions := fun member =>
      connected ((healthy.lives self).member.mp member).2.1
    exact connection_error_unknown stale address self (server.update self session) absent

theorem new_client_healthy (self : SessionId) (address : Address) (server : Server) (linked : Linked server.app)
    (fresh : ∀ player ∈ server.app.allPlayersData, player.address ≠ address) (others : ∀ other, other ≠ self →
      Life (other ∈ server.app.allSessions) (server.host other))
    (pointed : ∀ other, other ≠ self → HandshakeDone (server.host other) → server.app.userData other ≠ none)
    (sole : SoleWriter (server.host self)) (born : (server.host self).constructed = true)
    (connected : (server.host self).isConnected = true) (accepted : (server.host self).pendingAccepts = 0)
    (absent : self ∉ server.app.allSessions) :
    ∃ next, onNewClient sessionWrite self address server = .returned next ∧ Healthy next ∧
      self ∈ next.app.allSessions := by
  have newcomer : self ∈ server.app.allSessions ++ [self] := List.mem_append_right _ List.mem_cons_self
  have before (other : SessionId) : Life (other ∈ server.app.allSessions ++ [self]) (server.host other) := by
    by_cases same : other = self
    · subst other
      exact ⟨sole, by simp [born, connected, accepted], by simp [born], by simp [accepted]⟩
    · have stays : other ∈ server.app.allSessions ↔ other ∈ server.app.allSessions ++ [self] := by simp [same]
      exact propext stays ▸ others other same
  refine ⟨_, on_new_client_returns _ _ session_writes self address server, ⟨?_, ?_, ?_⟩, newcomer⟩
  · exact linked_joined server.app linked self address absent fresh
  · apply deliver_all_keeps (fun other session => Life (other ∈ server.app.allSessions ++ [self]) session)
      (welcomeText server.app.lastPlayerId) [self]
    · intro target member session life
      rw [List.mem_singleton.mp member] at life ⊢
      exact (life_written _ session life (life_handshaken _ session life newcomer) _).1
    · apply deliver_all_keeps (fun other session => Life (other ∈ server.app.allSessions ++ [self]) session)
      · intro target member session life
        exact (life_written _ session life (life_handshaken _ session life (List.mem_append_left _ member)) _).1
      · exact before
  · intro other done
    by_cases same : other = self
    · subst other
      simp [joined, addSession, createPlayer]
    · have earlier : HandshakeDone (server.host other) := (handshake_delivered _ _ _ other).mp
        ((handshake_delivered [self] _ _ other).mp done)
      simpa [joined, addSession, createPlayer, same] using pointed other same earlier

theorem accepted_healthy (stale : Address → Option Int) (address : Address) (self : SessionId) (server : Server)
    (healthy : Healthy server) (fresh : ∀ player ∈ server.app.allPlayersData, player.address ≠ address)
    (pending : 0 < (server.host self).pendingAccepts) :
    ∃ next, onAccept (boundCallbacks stale address) self none
      (server.update self { server.host self with pendingAccepts := (server.host self).pendingAccepts - 1 }) =
        .returned next ∧ Healthy next := by
  have life := healthy.lives self
  obtain ⟨connected, single, _, _⟩ := life.handshake (Nat.ne_of_gt pending)
  have absent : self ∉ server.app.allSessions := fun member => Nat.ne_of_gt pending (life.member.mp member).2.2
  have born : (server.host self).constructed = true := by
    cases constructed : (server.host self).constructed with
    | true => rfl
    | false =>
        rw [life.unborn constructed] at single
        cases single
  let begun := server.update self { server.host self with pendingAccepts := (server.host self).pendingAccepts - 1 }
  have begunSelf : begun.host self = { server.host self with pendingAccepts := 0 } := by
    simp only [begun, World.update_same, single]
  obtain ⟨next, announced, good, member⟩ := new_client_healthy self address begun healthy.linked fresh
    (by
      intro other different
      rw [World.update_other _ _ _ _ different]
      exact healthy.lives other)
    (by
      intro other different
      rw [World.update_other _ _ _ _ different]
      exact healthy.pointed other)
    (by
      rw [begunSelf]
      exact { life.sole with })
    (by rw [begunSelf, born]) (by rw [begunSelf, connected]) (by rw [begunSelf]) absent
  have handshaken := life_handshaken _ _ (good.lives self) member
  have reading := life_reading _ _ (good.lives self) handshaken ((next.host self).pendingReads + 1)
    (next.host self).readBuffer
  refine ⟨next.update self (next.host self).doRead, ?_, healthy_update next good self _ reading id⟩
  simp only [onAccept, boundCallbacks]
  rw [announced]
  simp [World.call, (good.lives self).sole.unstranded]

theorem new_message_healthy (stale : Address → Option Int) (self : SessionId) (messageReceived : Bytes)
    (server : Server) (healthy : Healthy server) (handshaken : HandshakeDone (server.host self)) (id : Int)
    (read : playerId stale self server.app = some id) :
    ∃ next, onNewMessage sessionWrite stale self messageReceived server = .returned next ∧ Healthy next ∧
      HandshakeDone (next.host self) := by
  let holds (other : SessionId) (session : WebSocketSession) : Prop :=
    Life (other ∈ server.app.allSessions) session ∧ (other = self → HandshakeDone session)
  have kept (target : SessionId) (data : Bytes) (session : WebSocketSession) (held : holds target session)
      (ready : HandshakeDone session) : holds target (session.write data).world := by
    have written := life_written _ session held.1 ready data
    exact ⟨written.1, fun _ => written.2⟩
  have done (other : SessionId) : holds other (deliverAll sessionDelivered [self] (fromYouText messageReceived)
      (deliverAll sessionDelivered (server.app.allSessions.filter fun target => self ≠ target)
        (newMessageText id messageReceived) server.host) other) := by
    apply deliver_all_keeps holds _ [self]
    · exact fun target member session held => kept target _ session held (held.2 (List.mem_singleton.mp member))
    · apply deliver_all_keeps holds
      · intro target member session held
        exact kept target _ session held (life_handshaken _ session held.1 (List.mem_of_mem_filter member))
      · exact fun other => ⟨healthy.lives other, fun same => same ▸ handshaken⟩
  refine ⟨_, on_new_message_returns _ _ session_writes stale self messageReceived server id read,
    ⟨healthy.linked, fun other => (done other).1, fun other ready => ?_⟩, (done self).2 rfl⟩
  exact healthy.pointed other ((handshake_delivered _ _ _ other).mp ((handshake_delivered [self] _ _ other).mp ready))

theorem received_healthy (stale : Address → Option Int) (address : Address) (self : SessionId) (server : Server)
    (healthy : Healthy server) (session : WebSocketSession) (life : Life (self ∈ server.app.allSessions) session)
    (past : HandshakeDone (server.host self)) (handshaken : HandshakeDone session) (id : Int)
    (read : playerId stale self server.app = some id) :
    ∃ next, onRead (boundCallbacks stale address) self none (server.update self session) = .returned next ∧
      Healthy next := by
  have filled := healthy_update server healthy self session life fun _ => past
  have filledSelf : (server.update self session).host self = session := World.update_same _ _ _
  obtain ⟨next, relayed, good, ready⟩ := new_message_healthy stale self session.readBuffer _ filled
    (by rwa [filledSelf]) id read
  have reading := life_reading _ _ (good.lives self) ready ((next.host self).pendingReads + 1) []
  refine ⟨next.update self { next.host self with readBuffer := [] }.doRead, ?_,
    healthy_update next good self _ reading fun _ => ready⟩
  simp only [onRead, boundCallbacks, filledSelf]
  rw [relayed]
  simp only [Outcome.returned_and_then, World.call, Outcome.map_returned]

theorem received_undefined (stale : Address → Option Int) (address : Address) (self : SessionId) (server : Server)
    (session : WebSocketSession) (dangles : playerId stale self server.app = none) :
    onRead (boundCallbacks stale address) self none (server.update self session) =
      .undefined (server.update self session) := by
  have relayed := on_new_message_undefined sessionWrite stale self session.readBuffer (server.update self session) dangles
  simp only [onRead, boundCallbacks, World.update_same]
  rw [relayed, Outcome.undefined_and_then]

theorem received_settled (stale : Address → Option Int) (address : Address) (self : SessionId) (server : Server)
    (healthy : Healthy server) (session : WebSocketSession) (life : Life (self ∈ server.app.allSessions) session)
    (past : HandshakeDone (server.host self)) (handshaken : HandshakeDone session) :
    (∃ next, onRead (boundCallbacks stale address) self none (server.update self session) = .returned next ∧
      Healthy next ∧ ((server.host self).isConnected = true ∨ ∃ freed, stale freed ≠ none)) ∨
    (¬ (server.host self).isConnected = true ∧
      ∀ next, onRead (boundCallbacks stale address) self none (server.update self session) ≠ .returned next) := by
  have registered := (healthy.lives self).member
  cases read : playerId stale self server.app with
  | none =>
      refine .inr ⟨fun connected => ?_, fun next returned => ?_⟩
      · have member := registered.mpr ⟨past.1, connected, past.2⟩
        obtain ⟨id, known⟩ := player_id_registered stale server.app healthy.linked self member
        rw [read] at known
        cases known
      · rw [received_undefined stale address self server session read] at returned
        cases returned
  | some id =>
      obtain ⟨next, returned, good⟩ := received_healthy stale address self server healthy session life past handshaken id read
      refine .inl ⟨next, returned, good, ?_⟩
      by_cases member : self ∈ server.app.allSessions
      · exact .inl (registered.mp member).2.1
      · obtain ⟨freed, points⟩ := Option.ne_none_iff_exists'.mp (healthy.pointed self past)
        rw [player_id_dangles stale server.app healthy.linked self member freed points] at read
        exact .inr ⟨freed, by simp [read]⟩

theorem wrote_healthy (stale : Address → Option Int) (address : Address) (self : SessionId) (server : Server)
    (healthy : Healthy server) (index : Nat) (pending : index < (server.host self).pendingWrites.length) :
    ∃ next, onWrite (boundCallbacks stale address) self none (server.update self
      { server.host self with pendingWrites := (server.host self).pendingWrites.eraseIdx index }) = .returned next ∧
      Healthy next := by
  have life := healthy.lives self
  have writing : (server.host self).pendingWrites ≠ [] := List.ne_nil_of_length_pos (Nat.zero_lt_of_lt pending)
  obtain ⟨born, accepted⟩ := life_unborn _ _ life (.inr writing)
  obtain ⟨sent, rest, _, _, popped⟩ := sole_writer_sent (server.host self) life.sole index pending
  let after := { server.host self with sendBufferSafeQueue := ⟨rest⟩, pendingWrites := rest.take 1 }
  have onward : Life (self ∈ server.app.allSessions) after :=
    ⟨sole_writer_after (server.host self) life.sole rest, life.member, by simp [after, born], by simp [after, accepted]⟩
  refine ⟨server.update self after, ?_, healthy_update server healthy self after onward fun _ => ⟨born, accepted⟩⟩
  simp only [onWrite, World.call, World.update_same, popped, Outcome.map_returned]
  simp only [World.update, Function.update_idem, after]

theorem opened_healthy (server : Server) (healthy : Healthy server) (self : SessionId)
    (fresh : (server.host self).constructed = false) : Healthy (server.update self (construct false).run) := by
  have absent : self ∉ server.app.allSessions := by
    intro member
    rw [((healthy.lives self).member.mp member).1] at fresh
    cases fresh
  apply healthy_update server healthy
  · refine ⟨⟨rfl, rfl, List.prefix_refl []⟩, ?_, ?_, ?_⟩
    · simp [absent, run, onRun, construct, unconstructed]
    · simp [run, onRun, construct]
    · simp [run, onRun, construct, unconstructed]
  · simp [HandshakeDone, run, onRun, construct, unconstructed]

-- The last owner of a session goes away after its connection failed, so the
-- destructor has nothing to close.
theorem released_closed (server : Server) (healthy : Healthy server) (self : SessionId)
    (unreferenced : Unreferenced server self) : (server.host self).isConnected = false := by
  obtain ⟨born, accepted, _, _, _, absent⟩ := unreferenced
  by_contra open_
  exact absent ((healthy.lives self).member.mpr ⟨born, by simpa using open_, accepted⟩)

theorem completed_step (stale : Address → Option Int) (server : Server) (self : SessionId) (completion : Completion)
    (address : Address) (outcome : Outcome Server) (healthy : Healthy server)
    (fresh : ∀ player ∈ server.app.allPlayersData, player.address ≠ address)
    (taken : complete (boundCallbacks stale address) self server completion = some outcome) :
    (∃ next, outcome = .returned next ∧ Healthy next ∧
      (FirstFailure ⟨server, .running⟩ (.completed self completion address) ∨ ∃ freed, stale freed ≠ none)) ∨
    (¬ FirstFailure ⟨server, .running⟩ (.completed self completion address) ∧ ∀ next, outcome ≠ .returned next) := by
  have life := healthy.lives self
  cases completion with
  | accepted ec =>
      obtain ⟨pending, rfl⟩ := (complete_accepted _ _ _ _ _).mp taken
      cases ec with
      | none =>
          obtain ⟨next, returned, good⟩ := accepted_healthy stale address self server healthy fresh pending
          exact .inl ⟨next, returned, good, .inl rfl⟩
      | some what =>
          have absent : self ∉ server.app.allSessions := fun member =>
            Nat.ne_of_gt pending (life.member.mp member).2.2
          exact .inr ⟨by simp [FirstFailure], connection_error_unknown stale address self _ absent⟩
  | received ec message =>
      obtain ⟨⟨pending, _⟩, rfl⟩ := (complete_received _ _ _ _ _ _).mp taken
      have handshaken := life_unborn _ _ life (.inl pending)
      have reading := life_reading _ _ life handshaken ((server.host self).pendingReads - 1)
        ((server.host self).readBuffer ++ message)
      cases ec with
      | none => exact received_settled stale address self server healthy _ reading handshaken handshaken
      | some what =>
          have failed := failed_healthy stale address self server healthy _ reading.sole rfl rfl (.inl pending)
          split at failed <;> rename_i connected
          · obtain ⟨next, returned, good⟩ := failed
            exact .inl ⟨next, returned, good, .inl connected⟩
          · exact .inr ⟨connected, failed⟩
  | wrote index ec =>
      obtain ⟨pending, rfl⟩ := (complete_wrote _ _ _ _ _ _).mp taken
      have writing : (server.host self).pendingWrites ≠ [] := List.ne_nil_of_length_pos (Nat.zero_lt_of_lt pending)
      cases ec with
      | none =>
          obtain ⟨next, returned, good⟩ := wrote_healthy stale address self server healthy index pending
          exact .inl ⟨next, returned, good, .inl (.inl rfl)⟩
      | some what =>
          have failed := failed_healthy stale address self server healthy _
            (sole_writer_failed _ life.sole index) rfl rfl (.inr writing)
          split at failed <;> rename_i connected
          · obtain ⟨next, returned, good⟩ := failed
            exact .inl ⟨next, returned, good, .inl (.inr connected)⟩
          · exact .inr ⟨by simpa [FirstFailure] using connected, failed⟩
  | ran =>
      obtain ⟨task, rest, posted, _⟩ := (complete_ran _ _ _ _).mp taken
      rw [life.sole.unposted] at posted
      cases posted

theorem server_step (stale : Address → Option Int) (server : Server) (event : ServerEvent) (next : Process Server)
    (healthy : Healthy server) (taken : serverStep stale ⟨server, .running⟩ event = some next) :
    (next.ending = .running ∧ Healthy next.world ∧
      (FirstFailure ⟨server, .running⟩ event ∨ ∃ freed, stale freed ≠ none)) ∨
    (¬ FirstFailure ⟨server, .running⟩ event ∧ next.ending ≠ .running) := by
  cases event with
  | opened self =>
      simp only [serverStep, Bool.not_eq_true, Option.ite_none_left_eq_some, Option.some.injEq] at taken
      obtain ⟨unborn, rfl⟩ := taken
      exact .inl ⟨rfl, opened_healthy server healthy self unborn, .inl trivial⟩
  | completed self completion address =>
      simp only [serverStep, Option.ite_none_right_eq_some, Option.map_eq_some_iff] at taken
      obtain ⟨fresh, outcome, done, rfl⟩ := taken
      rcases completed_step stale server self completion address outcome healthy fresh done with
        ⟨after, rfl, good, first⟩ | ⟨later, ends⟩
      · exact .inl ⟨rfl, good, first⟩
      · refine .inr ⟨later, ?_⟩
        cases outcome with
        | returned after => exact absurd rfl (ends after)
        | threw what after => simp [settle]
        | undefined after => simp [settle]
  | released self closeError =>
      simp only [serverStep, Option.ite_none_right_eq_some, Option.some.injEq] at taken
      obtain ⟨unreferenced, rfl⟩ := taken
      have closed := released_closed server healthy self unreferenced
      have unchanged : server.call self (·.disconnect closeError) = .returned server := by
        simp [World.call, disconnect, closed, World.update]
      rw [unchanged]
      exact .inl ⟨rfl, healthy, .inl trivial⟩

theorem server_step_healthy (stale : Address → Option Int) (server : Server) (event : ServerEvent)
    (next : Process Server) (healthy : Healthy server)
    (taken : serverStep stale ⟨server, .running⟩ event = some next) (runs : next.ending = .running) :
    Healthy next.world := by
  rcases server_step stale server event next healthy taken with ⟨_, good, _⟩ | ⟨_, ends⟩
  · exact good
  · exact absurd runs ends

theorem no_clients_healthy : Healthy noClients.world := by
  refine ⟨linked_initial, fun self => ⟨sole_writer_unconstructed, ?_, fun _ => rfl, ?_⟩, ?_⟩
  · simp [noClients, initial, unconstructed]
  · simp [noClients, unconstructed]
  · simp [noClients, HandshakeDone, unconstructed]

-- The language promises nothing of a read of freed memory.
def undefinedRead : Address → Option Int := fun _ => none

theorem server_run (events : List ServerEvent) (server : Server) (final : Process Server) (healthy : Healthy server)
    (reached : Transition.run (serverStep undefinedRead) ⟨server, .running⟩ events = some final) :
    final.ending = .running ↔
      Transition.Meets (serverStep undefinedRead) FirstFailure ⟨server, .running⟩ events := by
  induction events generalizing server with
  | nil =>
      rw [Transition.run_nil] at reached
      exact iff_of_true (reached ▸ rfl) trivial
  | cons event rest ih =>
      obtain ⟨next, taken, onward⟩ := (Transition.run_cons _ _ _ _ _).mp reached
      rw [Transition.meets_cons _ _ _ _ _ _ taken]
      rcases server_step undefinedRead server event next healthy taken with ⟨runs, good, met⟩ | ⟨later, ends⟩
      · have first : FirstFailure ⟨server, .running⟩ event := met.resolve_right fun ⟨freed, read⟩ => read rfl
        obtain ⟨world, ending⟩ := next
        obtain rfl : ending = .running := runs
        simpa only [first, true_and] using ih world good onward
      · have stopped (event : ServerEvent) : serverStep undefinedRead next event = none := by
          cases ending : next.ending with
          | running => exact absurd ending ends
          | escaped what => simp [serverStep, ending]
          | undefined => simp [serverStep, ending]
        rw [Transition.run_stopped _ _ _ _ stopped onward]
        exact iff_of_false ends (fun met => later met.1)

theorem server_survives_iff (events : List ServerEvent) (final : Process Server)
    (reached : Transition.run (serverStep undefinedRead) noClients events = some final) :
    final.ending = .running ↔ Transition.Meets (serverStep undefinedRead) FirstFailure noClients events :=
  server_run events noClients.world final no_clients_healthy reached

def servedClients : List ServerEvent :=
  [.opened 0, .opened 1, .completed 0 (.accepted none) 10, .completed 1 (.accepted none) 11,
    .completed 0 (.received none [104]) 12, .completed 1 (.wrote 0 none) 12,
    .completed 0 (.received (some "End of file") []) 12, .completed 0 (.wrote 0 none) 12,
    .completed 0 (.wrote 0 none) 12, .completed 0 (.wrote 0 none) 12, .released 0 none]

theorem server_survives_served_clients :
    ∃ final, Transition.run (serverStep undefinedRead) noClients servedClients = some final ∧
      final.ending = .running := by
  exact ⟨_, rfl, (server_survives_iff servedClients _ rfl).mpr (by decide)⟩

theorem refused_handshake_ends_server :
    ¬ ∀ (events : List ServerEvent) (final : Process Server),
      Transition.run (serverStep undefinedRead) noClients events = some final → final.ending = .running := by
  intro always
  have ended := always [.opened 0, .completed 0 (.accepted (some "bad method")) 10] _ rfl
  cases ended

end NetworkWrapper
