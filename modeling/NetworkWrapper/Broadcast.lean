import Mathlib.Data.List.Range
import NetworkWrapper.Registry

set_option autoImplicit false

namespace NetworkWrapper

open WebSocketMainLogicServer

def Legal (before : List LogicEvent) : LogicEvent → Prop
  | .newClient wsSession _ => wsSession ∉ joins before
  | .newMessage wsSession _ => isPresent wsSession before = true
  | .lostClient wsSession => isPresent wsSession before = true

def Lawful : List LogicEvent → List LogicEvent → Prop
  | _, [] => True
  | before, event :: rest => Legal before event ∧ Lawful (before ++ [event]) rest

instance (before : List LogicEvent) : (event : LogicEvent) → Decidable (Legal before event)
  | .newClient wsSession _ => inferInstanceAs (Decidable (wsSession ∉ joins before))
  | .newMessage wsSession _ => inferInstanceAs (Decidable (isPresent wsSession before = true))
  | .lostClient wsSession => inferInstanceAs (Decidable (isPresent wsSession before = true))

instance decideLawful : (before events : List LogicEvent) → Decidable (Lawful before events)
  | _, [] => isTrue trivial
  | before, event :: rest =>
      let _ := decideLawful (before ++ [event]) rest
      inferInstanceAs (Decidable (Legal before event ∧ Lawful (before ++ [event]) rest))

def nextId (clients : Nat) : Int := Int.bmod (1 + clients) (2 ^ 32)

def clientId (wsSession : SessionId) (events : List LogicEvent) : Int := nextId ((joins events).idxOf wsSession)

-- The abstract view of one client: the text, if any, that it gets for an event
-- which comes after the events before.
def textFor (self : SessionId) (before : List LogicEvent) : LogicEvent → Option Bytes
  | .newClient wsSession address =>
      let id := clientId wsSession (before ++ [.newClient wsSession address])
      if wsSession = self then some (welcomeText id)
      else if isPresent self before then some (newClientText id)
      else none
  | .newMessage wsSession messageReceived =>
      if isPresent self before then
        if wsSession = self then some (fromYouText messageReceived)
        else some (newMessageText (clientId wsSession before) messageReceived)
      else none
  | .lostClient wsSession =>
      if isPresent self before ∧ wsSession ≠ self then some (clientLeftText (clientId wsSession before)) else none

def textAt (self : SessionId) (events : List LogicEvent) (position : Nat) : Option Bytes :=
  events[position]?.bind (textFor self (events.take position))

def expectedTexts (self : SessionId) (events : List LogicEvent) : List Bytes :=
  (List.range events.length).filterMap (textAt self events)

def seenBy (self : SessionId) (events : List LogicEvent) : List Nat :=
  (List.range events.length).filter fun position => (textAt self events position).isSome

theorem expected_snoc (self : SessionId) (events : List LogicEvent) (event : LogicEvent) :
    expectedTexts self (events ++ [event]) = expectedTexts self events ++ (textFor self events event).toList := by
  have earlier : (List.range events.length).filterMap (textAt self (events ++ [event])) =
      (List.range events.length).filterMap (textAt self events) := by
    apply List.filterMap_congr
    intro position member
    have within : position < events.length := List.mem_range.mp member
    simp only [textAt, List.getElem?_append_left within, List.take_append_of_le_length (Nat.le_of_lt within)]
  have last : textAt self (events ++ [event]) events.length = textFor self events event := by
    simp [textAt]
  rw [expectedTexts, List.length_append, List.length_singleton, List.range_succ, List.filterMap_append, earlier,
    expectedTexts]
  cases text : textFor self events event <;> simp [last, text]

theorem next_id_successor (clients : Nat) : int32Successor (nextId clients) = nextId (clients + 1) := by
  have shifted : (1 + (clients : Int)) + 1 = 1 + ((clients + 1 : Nat) : Int) := by omega
  have step : Int.bmod (Int.bmod (1 + clients) (2 ^ 32) + 1) (2 ^ 32) = Int.bmod (1 + clients + 1) (2 ^ 32) :=
    Int.bmod_add_bmod
  rw [shifted] at step
  exact step

theorem client_id_newcomer (wsSession : SessionId) (address : Address) (before : List LogicEvent)
    (unseen : wsSession ∉ joins before) :
    clientId wsSession (before ++ [.newClient wsSession address]) = nextId (joins before).length := by
  have single : joins [.newClient wsSession address] = [wsSession] := rfl
  rw [clientId, joins_snoc, single, List.idxOf_append_of_notMem unseen, List.idxOf_cons_self, Nat.add_zero]

theorem client_id_kept (wsSession : SessionId) (before : List LogicEvent) (event : LogicEvent)
    (seen : wsSession ∈ joins before) : clientId wsSession (before ++ [event]) = clientId wsSession before := by
  rw [clientId, joins_snoc, List.idxOf_append_of_mem seen, clientId]

structure Numbering (events : List LogicEvent) (logic : WebSocketMainLogicServer) : Prop where
  counter : logic.lastPlayerId = nextId (joins events).length
  known : ∀ wsSession ∈ logic.allSessions, ∃ player ∈ logic.allPlayersData,
    player.wsSession = wsSession ∧ player.id = clientId wsSession events

theorem numbering_initial : Numbering [] initial := ⟨by decide, by simp [initial]⟩

theorem numbering_joined (events : List LogicEvent) (logic : WebSocketMainLogicServer) (tracked : Tracked events logic)
    (numbering : Numbering events logic) (wsSession : SessionId) (address : Address)
    (unseen : wsSession ∉ joins events) :
    Numbering (events ++ [.newClient wsSession address]) (joined wsSession address logic) := by
  have single : joins [.newClient wsSession address] = [wsSession] := rfl
  refine ⟨?_, ?_⟩
  · rw [joins_snoc, single, List.length_append, List.length_singleton, ← next_id_successor, ← numbering.counter]
    rfl
  · intro other member
    simp only [joined, addSession, createPlayer, List.mem_append, List.mem_singleton] at member ⊢
    by_cases same : other = wsSession
    · subst other
      refine ⟨⟨address, logic.lastPlayerId, wsSession⟩, .inr rfl, rfl, ?_⟩
      rw [client_id_newcomer wsSession address events unseen]
      exact numbering.counter
    · have before : other ∈ logic.allSessions := member.resolve_right same
      have seen : other ∈ joins events := present_joined other events ((tracked.registered other).mp before)
      obtain ⟨player, present, owner, numbered⟩ := numbering.known other before
      refine ⟨player, .inl present, owner, ?_⟩
      rw [client_id_kept other events _ seen]
      exact numbered

theorem numbering_kept (events : List LogicEvent) (event : LogicEvent) (logic : WebSocketMainLogicServer)
    (tracked : Tracked events logic) (numbering : Numbering events logic) (silent : joins [event] = []) :
    Numbering (events ++ [event]) logic := by
  refine ⟨?_, ?_⟩
  · rw [joins_snoc, silent, List.append_nil]
    exact numbering.counter
  · intro other member
    rw [client_id_kept other events event (present_joined other events ((tracked.registered other).mp member))]
    exact numbering.known other member

theorem numbering_departed (events : List LogicEvent) (logic : WebSocketMainLogicServer) (linked : Linked logic)
    (numbering : Numbering events logic) (wsSession : SessionId) (rest : List SessionId)
    (member : wsSession ∈ logic.allSessions) (shuffled : logic.allSessions.Perm (wsSession :: rest)) :
    Numbering events (departed wsSession rest logic) := by
  obtain ⟨removed, gone, _, players⟩ := departed_players logic linked wsSession member rest
  refine ⟨numbering.counter, ?_⟩
  intro other stays
  have before : other ∈ logic.allSessions := shuffled.mem_iff.mpr (List.mem_cons_of_mem _ stays)
  have different : other ≠ wsSession := by
    rintro rfl
    exact (List.nodup_cons.mp (shuffled.nodup_iff.mp linked.sessionsDistinct)).1 stays
  obtain ⟨player, present, owner, numbered⟩ := numbering.known other before
  rcases List.mem_cons.mp (players.mem_iff.mp present) with same | kept
  · exact absurd (owner.symm.trans (same ▸ gone)) different
  · exact ⟨player, kept, owner, numbered⟩

structure Announced (events : List LogicEvent) (world : LogicWorld Sessions) : Prop where
  tracked : Tracked events world.app
  numbering : Numbering events world.app
  written : ∀ self, (world.host self).accepted = expectedTexts self events

theorem announced_initial : Announced [] singleThreaded :=
  ⟨tracked_initial, numbering_initial, fun _ => rfl⟩

theorem announced_player_id (stale : Address → Option Int) (events : List LogicEvent) (world : LogicWorld Sessions)
    (announced : Announced events world) (wsSession : SessionId) (present : isPresent wsSession events = true) :
    playerId stale wsSession world.app = some (clientId wsSession events) := by
  have member := (announced.tracked.registered wsSession).mpr present
  obtain ⟨player, lives, rfl, numbered⟩ := announced.numbering.known wsSession member
  rw [player_id_known stale world.app announced.tracked.linked player lives, numbered]

theorem announced_new_client (stale : Address → Option Int) (events : List LogicEvent) (world next : LogicWorld Sessions)
    (wsSession : SessionId) (address : Address) (announced : Announced events world)
    (unseen : wsSession ∉ joins events) (tracked : Tracked (events ++ [.newClient wsSession address]) next.app)
    (taken : logicStep stale world (.newClient wsSession address) = some next) :
    Announced (events ++ [.newClient wsSession address]) next := by
  obtain ⟨_, rfl⟩ := step_new_client stale world next wsSession address taken
  have numbering := numbering_joined events world.app announced.tracked announced.numbering wsSession address unseen
  refine ⟨tracked, numbering, fun self => ?_⟩
  have id : world.app.lastPlayerId = clientId wsSession (events ++ [.newClient wsSession address]) := by
    rw [client_id_newcomer wsSession address events unseen]
    exact announced.numbering.counter
  rw [expected_snoc, ← announced.written self, delivered_accepted _ _ _ (welcome_nonempty _),
    deliver_all_accepted _ announced.tracked.linked.sessionsDistinct _ _ (new_client_nonempty _), id]
  simp only [announced.tracked.registered self, textFor]
  by_cases same : wsSession = self
  · subst self
    have absent : isPresent wsSession events = false :=
      Bool.eq_false_iff.mpr fun present => unseen (present_joined wsSession events present)
    simp [absent]
  · cases isPresent self events <;> simp [same]

theorem announced_new_message (stale : Address → Option Int) (events : List LogicEvent) (world next : LogicWorld Sessions)
    (wsSession : SessionId) (messageReceived : Bytes) (announced : Announced events world)
    (present : isPresent wsSession events = true)
    (tracked : Tracked (events ++ [.newMessage wsSession messageReceived]) next.app)
    (taken : logicStep stale world (.newMessage wsSession messageReceived) = some next) :
    Announced (events ++ [.newMessage wsSession messageReceived]) next := by
  obtain ⟨id, read, rfl⟩ := step_new_message stale world next wsSession messageReceived taken
  obtain rfl : clientId wsSession events = id :=
    Option.some.inj ((announced_player_id stale events world announced wsSession present).symm.trans read)
  refine ⟨tracked, numbering_kept events _ world.app announced.tracked announced.numbering rfl, fun self => ?_⟩
  have others : (world.app.allSessions.filter fun target => wsSession ≠ target).Nodup :=
    announced.tracked.linked.sessionsDistinct.filter _
  rw [expected_snoc, ← announced.written self, delivered_accepted _ _ _ (from_you_nonempty _),
    deliver_all_accepted _ others _ _ (new_message_nonempty _ _)]
  simp only [List.mem_filter, announced.tracked.registered self, textFor, decide_eq_true_eq]
  by_cases same : wsSession = self
  · subst self
    simp [present]
  · cases isPresent self events <;> simp [same]

theorem announced_lost_client (stale : Address → Option Int) (events : List LogicEvent) (world next : LogicWorld Sessions)
    (wsSession : SessionId) (announced : Announced events world) (present : isPresent wsSession events = true)
    (tracked : Tracked (events ++ [.lostClient wsSession]) next.app)
    (taken : logicStep stale world (.lostClient wsSession) = some next) :
    Announced (events ++ [.lostClient wsSession]) next := by
  have member := (announced.tracked.registered wsSession).mpr present
  obtain ⟨absent, _⟩ | ⟨_, id, rest, read, shuffled, rfl⟩ := step_lost_client stale world next wsSession taken
  · exact absurd member absent
  obtain rfl : clientId wsSession events = id :=
    Option.some.inj ((announced_player_id stale events world announced wsSession present).symm.trans read)
  have linked := announced.tracked.linked
  have departure := numbering_departed events world.app linked announced.numbering wsSession rest member shuffled
  refine ⟨tracked, ?_, fun self => ?_⟩
  · refine ⟨?_, fun other stays => ?_⟩
    · rw [joins_snoc]
      simpa [joins] using departure.counter
    · have before : other ∈ world.app.allSessions := shuffled.mem_iff.mpr (List.mem_cons_of_mem _ stays)
      rw [client_id_kept other events _ (present_joined other events ((announced.tracked.registered other).mp before))]
      exact departure.known other stays
  · have remaining := (List.nodup_cons.mp (shuffled.nodup_iff.mp linked.sessionsDistinct)).2
    have stays : self ∈ rest ↔ isPresent self events = true ∧ wsSession ≠ self := by
      have registered := tracked.registered self
      rw [present_snoc] at registered
      simpa [departed, erasePlayer] using registered
    rw [expected_snoc, ← announced.written self, deliver_all_accepted _ remaining _ _ (client_left_nonempty _)]
    simp only [stays, textFor]
    split <;> rfl

theorem announced_run (stale : Address → Option Int) (before events : List LogicEvent) (world final : LogicWorld Sessions)
    (announced : Announced before world) (once : (joins before).Nodup) (lawful : Lawful before events)
    (reached : Transition.run (logicStep stale) world events = some final) : Announced (before ++ events) final := by
  induction events generalizing before world with
  | nil =>
      rw [Transition.run_nil] at reached
      simpa [reached] using announced
  | cons event rest ih =>
      obtain ⟨next, taken, onward⟩ := (Transition.run_cons _ _ _ _ _).mp reached
      obtain ⟨legal, later⟩ := lawful
      have distinct : (joins (before ++ [event])).Nodup := by
        rw [joins_snoc]
        cases event with
        | newClient wsSession address =>
            exact List.nodup_append_comm.mp (List.nodup_cons.mpr ⟨legal, once⟩)
        | newMessage wsSession messageReceived => simpa [joins] using once
        | lostClient wsSession => simpa [joins] using once
      have tracked := tracked_step stale before event world next announced.tracked distinct taken
      have step : Announced (before ++ [event]) next := by
        cases event with
        | newClient wsSession address =>
            exact announced_new_client stale before world next wsSession address announced legal tracked taken
        | newMessage wsSession messageReceived =>
            exact announced_new_message stale before world next wsSession messageReceived announced legal tracked taken
        | lostClient wsSession =>
            exact announced_lost_client stale before world next wsSession announced legal tracked taken
      rw [← List.singleton_append, ← List.append_assoc]
      exact ih (before ++ [event]) next step distinct later onward

theorem seen_texts (self : SessionId) (events : List LogicEvent) :
    (expectedTexts self events).map some = (seenBy self events).map (textAt self events) := by
  unfold expectedTexts seenBy
  induction List.range events.length with
  | nil => rfl
  | cons position rest ih => cases text : textAt self events position <;> simp [text, ih]

theorem shared_positions (self other : SessionId) (events : List LogicEvent) :
    (seenBy self events).filter (· ∈ seenBy other events) = (seenBy other events).filter (· ∈ seenBy self events) := by
  simp only [seenBy, List.filter_filter, List.mem_filter, List.mem_range]
  apply List.filter_congr
  intro position member
  have within : position < events.length := List.mem_range.mp member
  simp [within, Bool.and_comm]

theorem texts_written (stale : Address → Option Int) (events : List LogicEvent) (world : LogicWorld Sessions)
    (lawful : Lawful [] events) (reached : Transition.run (logicStep stale) singleThreaded events = some world) :
    (∀ self, (world.host self).accepted = expectedTexts self events ∧
      (world.host self).accepted.map some = (seenBy self events).map (textAt self events)) ∧
      ∀ self other, (seenBy self events).filter (· ∈ seenBy other events) =
        (seenBy other events).filter (· ∈ seenBy self events) := by
  have announced := announced_run stale [] events singleThreaded world announced_initial List.nodup_nil lawful reached
  refine ⟨fun self => ⟨announced.written self, ?_⟩, fun self other => shared_positions self other events⟩
  rw [announced.written self, List.nil_append]
  exact seen_texts self events

def talkedAndLeft : List LogicEvent :=
  [.newClient 3 10, .newClient 5 11, .newMessage 3 [104], .lostClient 3, .newClient 7 10, .newMessage 7 [105]]

theorem texts_written_talked_and_left :
    ∃ world, Transition.run (logicStep fun _ => none) singleThreaded talkedAndLeft = some world ∧
      (world.host 5).accepted = [welcomeText 2, newMessageText 1 [104], clientLeftText 1, newClientText 3,
        newMessageText 3 [105]] := by
  have written := texts_written (fun _ => none) talkedAndLeft _ (by decide) rfl
  exact ⟨_, rfl, (written.1 5).1.trans (by decide)⟩

end NetworkWrapper
