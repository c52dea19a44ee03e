import Mathlib.Data.List.Nodup
import Mathlib.Data.Option.Basic
import NetworkWrapper.MainLogic
import NetworkWrapper.Transition

set_option autoImplicit false

namespace NetworkWrapper

open WebSocketMainLogicServer

inductive LogicEvent where
  | newClient (wsSession : SessionId) (address : Address)
  | newMessage (wsSession : SessionId) (messageReceived : Bytes)
  | lostClient (wsSession : SessionId)
deriving DecidableEq, Repr

def perform (stale : Address → Option Int) (world : LogicWorld Sessions) : LogicEvent → Outcome (LogicWorld Sessions)
  | .newClient wsSession address => onNewClient sessionWrite wsSession address world
  | .newMessage wsSession messageReceived => onNewMessage sessionWrite stale wsSession messageReceived world
  | .lostClient wsSession => onLostClient sessionWrite stale wsSession world

-- The allocator places a new player where no living player is.
def Allocatable (logic : WebSocketMainLogicServer) : LogicEvent → Prop
  | .newClient _ address => ∀ player ∈ logic.allPlayersData, player.address ≠ address
  | _ => True

instance (logic : WebSocketMainLogicServer) : (event : LogicEvent) → Decidable (Allocatable logic event)
  | .newClient _ address => inferInstanceAs (Decidable (∀ player ∈ logic.allPlayersData, player.address ≠ address))
  | .newMessage _ _ => isTrue trivial
  | .lostClient _ => isTrue trivial

-- A call that throws leaves its caller, and the next call, with the state at the
-- throw. After undefined behaviour there is no next call.
def logicStep (stale : Address → Option Int) (world : LogicWorld Sessions) (event : LogicEvent) :
    Option (LogicWorld Sessions) :=
  if Allocatable world.app event then
    match perform stale world event with
    | .returned next => some next
    | .threw _ next => some next
    | .undefined _ => none
  else none

def singleThreaded : LogicWorld Sessions := ⟨fun _ => WebSocketSession.construct false, initial⟩

def joins (events : List LogicEvent) : List SessionId :=
  events.filterMap fun event => match event with
    | .newClient wsSession _ => some wsSession
    | _ => none

def isPresent (self : SessionId) (events : List LogicEvent) : Bool :=
  events.foldl (fun present event => match event with
    | .newClient wsSession _ => present || wsSession = self
    | .newMessage _ _ => present
    | .lostClient wsSession => present && wsSession ≠ self) false

structure RegistryInvariant (events : List LogicEvent) (logic : WebSocketMainLogicServer) : Prop where
  sessionsDistinct : logic.allSessions.Nodup
  sessionHasPlayer : ∀ wsSession ∈ logic.allSessions,
    ∃ player ∈ logic.allPlayersData, logic.userData wsSession = some player.address
  playerHasSession : ∀ player ∈ logic.allPlayersData,
    ∃! wsSession, wsSession ∈ logic.allSessions ∧ logic.userData wsSession = some player.address
  addressesDistinct : (logic.allPlayersData.map PlayerData.address).Nodup
  idsDistinct : (logic.allPlayersData.map PlayerData.id).Nodup
  idsBounded : ∀ player ∈ logic.allPlayersData, 1 ≤ player.id ∧ player.id < logic.lastPlayerId
  registered : ∀ wsSession, wsSession ∈ logic.allSessions ↔ isPresent wsSession events = true

def assignedIds (stale : Address → Option Int) : LogicWorld Sessions → List LogicEvent → List Int
  | _, [] => []
  | world, event :: rest =>
      match logicStep stale world event with
      | none => []
      | some next =>
          let later := assignedIds stale next rest
          match event with
          | .newClient wsSession _ => (playerId stale wsSession next.app).toList ++ later
          | _ => later

-- The two vectors hold the same players: the registered sessions, each with its
-- userData, are a rearrangement of the player entries.
structure Linked (logic : WebSocketMainLogicServer) : Prop where
  sessionsDistinct : logic.allSessions.Nodup
  addressesDistinct : (logic.allPlayersData.map PlayerData.address).Nodup
  matched : (logic.allSessions.map fun wsSession => (wsSession, logic.userData wsSession)).Perm
    (logic.allPlayersData.map fun player => (player.wsSession, some player.address))

theorem linked_initial : Linked initial := ⟨List.nodup_nil, List.nodup_nil, List.Perm.nil⟩

theorem linked_session_player (logic : WebSocketMainLogicServer) (linked : Linked logic) (wsSession : SessionId)
    (member : wsSession ∈ logic.allSessions) :
    ∃ player ∈ logic.allPlayersData, player.wsSession = wsSession ∧ logic.userData wsSession = some player.address := by
  have paired : (wsSession, logic.userData wsSession) ∈
      logic.allSessions.map fun wsSession => (wsSession, logic.userData wsSession) :=
    List.mem_map_of_mem (f := fun wsSession => (wsSession, logic.userData wsSession)) member
  obtain ⟨player, present, same⟩ := List.mem_map.mp (linked.matched.mem_iff.mp paired)
  obtain ⟨owner, points⟩ := Prod.mk.inj same
  exact ⟨player, present, owner, points.symm⟩

theorem linked_owner (logic : WebSocketMainLogicServer) (linked : Linked logic) (player : PlayerData)
    (present : player ∈ logic.allPlayersData) :
    player.wsSession ∈ logic.allSessions ∧ logic.userData player.wsSession = some player.address := by
  have entry : (player.wsSession, some player.address) ∈
      logic.allPlayersData.map fun player => (player.wsSession, some player.address) :=
    List.mem_map_of_mem (f := fun player : PlayerData => (player.wsSession, some player.address)) present
  obtain ⟨wsSession, member, same⟩ := List.mem_map.mp (linked.matched.mem_iff.mpr entry)
  obtain ⟨owner, points⟩ := Prod.mk.inj same
  exact owner ▸ ⟨member, points⟩

theorem linked_pointers_distinct (logic : WebSocketMainLogicServer) (linked : Linked logic) :
    (logic.allSessions.map logic.userData).Nodup := by
  have pointers := linked.matched.map Prod.snd
  simp only [List.map_map, Function.comp_def] at pointers
  rw [pointers.nodup_iff, ← Function.comp_def, ← List.map_map]
  exact linked.addressesDistinct.map (Option.some_injective _)

theorem linked_player_session (logic : WebSocketMainLogicServer) (linked : Linked logic) (player : PlayerData)
    (present : player ∈ logic.allPlayersData) :
    ∃! wsSession, wsSession ∈ logic.allSessions ∧ logic.userData wsSession = some player.address := by
  obtain ⟨member, points⟩ := linked_owner logic linked player present
  refine ⟨player.wsSession, ⟨member, points⟩, ?_⟩
  intro other ⟨otherMember, otherPoints⟩
  exact List.inj_on_of_nodup_map (linked_pointers_distinct logic linked) otherMember member
    (otherPoints.trans points.symm)

theorem player_id_known (stale : Address → Option Int) (logic : WebSocketMainLogicServer) (linked : Linked logic)
    (player : PlayerData) (present : player ∈ logic.allPlayersData) :
    playerId stale player.wsSession logic = some player.id := by
  have points := (linked_owner logic linked player present).2
  cases found : logic.allPlayersData.find? (fun other => decide (other.address = player.address ∧
      other.wsSession = player.wsSession)) with
  | none =>
      have missing := List.find?_eq_none.mp found player present
      simp at missing
  | some other =>
      have same : other.address = player.address ∧ other.wsSession = player.wsSession := by
        simpa using List.find?_some found
      have equal := List.inj_on_of_nodup_map linked.addressesDistinct (List.mem_of_find?_eq_some found) present same.1
      simp only [playerId, points, found, equal]

theorem player_id_registered (stale : Address → Option Int) (logic : WebSocketMainLogicServer) (linked : Linked logic)
    (wsSession : SessionId) (member : wsSession ∈ logic.allSessions) :
    ∃ id, playerId stale wsSession logic = some id := by
  obtain ⟨player, present, rfl, _⟩ := linked_session_player logic linked wsSession member
  exact ⟨player.id, player_id_known stale logic linked player present⟩

-- The players that live belong to registered sessions, so no other session's
-- userData designates one of them, whatever address it holds.
theorem player_id_dangles (stale : Address → Option Int) (logic : WebSocketMainLogicServer) (linked : Linked logic)
    (wsSession : SessionId) (absent : wsSession ∉ logic.allSessions) (address : Address)
    (points : logic.userData wsSession = some address) : playerId stale wsSession logic = stale address := by
  have unfound : logic.allPlayersData.find? (fun player => decide (player.address = address ∧
      player.wsSession = wsSession)) = none := by
    simp only [List.find?_eq_none, decide_eq_true_eq, not_and]
    rintro player present _ rfl
    exact absent (linked_owner logic linked player present).1
  simp only [playerId, points, unfound]

theorem linked_joined (logic : WebSocketMainLogicServer) (linked : Linked logic) (wsSession : SessionId)
    (address : Address) (absent : wsSession ∉ logic.allSessions)
    (fresh : ∀ player ∈ logic.allPlayersData, player.address ≠ address) : Linked (joined wsSession address logic) := by
  have others : (logic.allSessions.map fun other =>
      (other, Function.update logic.userData wsSession (some address) other)) =
      logic.allSessions.map fun other => (other, logic.userData other) := by
    apply List.map_congr_left
    intro other member
    have different : other ≠ wsSession := fun same => absent (same ▸ member)
    rw [Function.update_of_ne different]
  refine ⟨?_, ?_, ?_⟩
  · exact List.nodup_append_comm.mp (List.nodup_cons.mpr ⟨absent, linked.sessionsDistinct⟩)
  · have unused : address ∉ logic.allPlayersData.map PlayerData.address := by
      intro member
      obtain ⟨player, present, same⟩ := List.mem_map.mp member
      exact fresh player present same
    simp only [joined, addSession, createPlayer, List.map_append, List.map_cons, List.map_nil]
    exact List.nodup_append_comm.mp (List.nodup_cons.mpr ⟨unused, linked.addressesDistinct⟩)
  · simp only [joined, addSession, createPlayer, List.map_append, others, List.map_cons, List.map_nil,
      Function.update_self]
    exact linked.matched.append_right _

theorem departed_players (logic : WebSocketMainLogicServer) (linked : Linked logic) (wsSession : SessionId)
    (member : wsSession ∈ logic.allSessions) (rest : List SessionId) :
    ∃ removed, removed.wsSession = wsSession ∧ logic.userData wsSession = some removed.address ∧
      logic.allPlayersData.Perm (removed :: (departed wsSession rest logic).allPlayersData) := by
  obtain ⟨player, present, owner, points⟩ := linked_session_player logic linked wsSession member
  obtain ⟨removed, left, erased, found, shuffled⟩ := erase_by_callback_perm
    (fun player : PlayerData => decide (some player.address = logic.userData wsSession)) logic.allPlayersData
    player present (by simp [points])
  have designated : some removed.address = logic.userData wsSession := of_decide_eq_true found
  have sole : removed = player := List.inj_on_of_nodup_map linked.addressesDistinct
    (shuffled.mem_iff.mpr List.mem_cons_self) present (Option.some.inj (designated.trans points))
  refine ⟨removed, sole ▸ owner, designated.symm, ?_⟩
  simpa only [departed, erasePlayer, erased] using shuffled

theorem linked_departed (logic : WebSocketMainLogicServer) (linked : Linked logic) (wsSession : SessionId)
    (rest : List SessionId) (member : wsSession ∈ logic.allSessions)
    (shuffled : logic.allSessions.Perm (wsSession :: rest)) : Linked (departed wsSession rest logic) := by
  obtain ⟨removed, owner, points, players⟩ := departed_players logic linked wsSession member rest
  have sessions : (wsSession :: rest).Nodup := shuffled.nodup_iff.mp linked.sessionsDistinct
  have addresses := (players.map PlayerData.address).nodup_iff.mp linked.addressesDistinct
  refine ⟨(List.nodup_cons.mp sessions).2, (List.nodup_cons.mp addresses).2, ?_⟩
  have both := ((shuffled.map fun other => (other, logic.userData other)).symm.trans linked.matched).trans
    (players.map fun player => (player.wsSession, some player.address))
  simp only [List.map_cons, points, owner] at both
  exact both.cons_inv

theorem step_new_client (stale : Address → Option Int) (world next : LogicWorld Sessions) (wsSession : SessionId)
    (address : Address) (taken : logicStep stale world (.newClient wsSession address) = some next) :
    (∀ player ∈ world.app.allPlayersData, player.address ≠ address) ∧
      next = ⟨sessionDelivered wsSession (welcomeText world.app.lastPlayerId)
        (deliverAll sessionDelivered world.app.allSessions (newClientText world.app.lastPlayerId) world.host),
        joined wsSession address world.app⟩ := by
  simp only [logicStep, perform, on_new_client_returns _ _ session_writes, Option.ite_none_right_eq_some,
    Option.some.injEq] at taken
  exact ⟨taken.1, taken.2.symm⟩

theorem step_new_message (stale : Address → Option Int) (world next : LogicWorld Sessions) (wsSession : SessionId)
    (messageReceived : Bytes) (taken : logicStep stale world (.newMessage wsSession messageReceived) = some next) :
    ∃ id, playerId stale wsSession world.app = some id ∧
      next = ⟨sessionDelivered wsSession (fromYouText messageReceived)
        (deliverAll sessionDelivered (world.app.allSessions.filter fun target => wsSession ≠ target)
          (newMessageText id messageReceived) world.host), world.app⟩ := by
  simp only [logicStep, perform, Option.ite_none_right_eq_some] at taken
  rcases on_new_message_ends _ _ session_writes stale wsSession messageReceived world with ⟨id, read, relayed⟩ | relayed
  all_goals rw [relayed] at taken
  · exact ⟨id, read, (Option.some.inj taken.2).symm⟩
  · cases taken.2

theorem step_lost_client (stale : Address → Option Int) (world next : LogicWorld Sessions) (wsSession : SessionId)
    (taken : logicStep stale world (.lostClient wsSession) = some next) :
    (wsSession ∉ world.app.allSessions ∧ next = world) ∨
    (wsSession ∈ world.app.allSessions ∧ ∃ id rest, playerId stale wsSession world.app = some id ∧
      world.app.allSessions.Perm (wsSession :: rest) ∧
      next = ⟨deliverAll sessionDelivered rest (clientLeftText id) world.host, departed wsSession rest world.app⟩) := by
  simp only [logicStep, perform, Option.ite_none_right_eq_some] at taken
  rcases on_lost_client_ends _ _ session_writes stale wsSession world with
    ⟨id, rest, read, member, shuffled, lost⟩ | ⟨absent, lost⟩ | lost
  all_goals rw [lost] at taken
  · exact .inr ⟨member, id, rest, read, shuffled, (Option.some.inj taken.2).symm⟩
  · exact .inl ⟨absent, (Option.some.inj taken.2).symm⟩
  · cases taken.2

theorem perform_ends (stale : Address → Option Int) (world : LogicWorld Sessions) (event : LogicEvent) :
    (∃ next, perform stale world event = .returned next) ∨
      perform stale world event = .threw sessionNotFound world ∨ perform stale world event = .undefined world := by
  cases event with
  | newClient wsSession address => exact .inl ⟨_, on_new_client_returns _ _ session_writes wsSession address world⟩
  | newMessage wsSession messageReceived =>
      rcases on_new_message_ends _ _ session_writes stale wsSession messageReceived world with ⟨_, _, relayed⟩ | relayed
      · exact .inl ⟨_, relayed⟩
      · exact .inr (.inr relayed)
  | lostClient wsSession =>
      rcases on_lost_client_ends _ _ session_writes stale wsSession world with ⟨_, _, _, _, _, lost⟩ | ⟨_, lost⟩ | lost
      · exact .inl ⟨_, lost⟩
      · exact .inr (.inl lost)
      · exact .inr (.inr lost)

theorem perform_threw (stale : Address → Option Int) (world after : LogicWorld Sessions) (event : LogicEvent)
    (what : String) (threw : perform stale world event = .threw what after) : after = world := by
  rcases perform_ends stale world event with ⟨next, performed⟩ | performed | performed
  all_goals
    rw [performed] at threw
    cases threw
  rfl

theorem joins_snoc (events : List LogicEvent) (event : LogicEvent) :
    joins (events ++ [event]) = joins events ++ joins [event] := by
  simp only [joins, List.filterMap_append]

theorem present_snoc (self : SessionId) (events : List LogicEvent) (event : LogicEvent) :
    isPresent self (events ++ [event]) = match event with
      | .newClient wsSession _ => isPresent self events || wsSession = self
      | .newMessage _ _ => isPresent self events
      | .lostClient wsSession => isPresent self events && wsSession ≠ self := by
  cases event <;> simp [isPresent]

theorem present_joined (self : SessionId) (events : List LogicEvent) (present : isPresent self events = true) :
    self ∈ joins events := by
  induction events using List.reverseRecOn with
  | nil => simp [isPresent] at present
  | append_singleton events event ih =>
      rw [joins_snoc, List.mem_append]
      rw [present_snoc] at present
      cases event with
      | newClient wsSession address =>
          simp only [Bool.or_eq_true, decide_eq_true_eq] at present
          rcases present with before | same
          · exact .inl (ih before)
          · exact .inr (by simp [joins, same])
      | newMessage wsSession messageReceived => exact .inl (ih present)
      | lostClient wsSession =>
          simp only [Bool.and_eq_true] at present
          exact .inl (ih present.1)

structure Tracked (events : List LogicEvent) (logic : WebSocketMainLogicServer) : Prop where
  linked : Linked logic
  registered : ∀ wsSession, wsSession ∈ logic.allSessions ↔ isPresent wsSession events = true

theorem tracked_initial : Tracked [] initial := ⟨linked_initial, by simp [initial, isPresent]⟩

theorem tracked_step (stale : Address → Option Int) (events : List LogicEvent) (event : LogicEvent)
    (world next : LogicWorld Sessions) (tracked : Tracked events world.app)
    (once : (joins (events ++ [event])).Nodup) (taken : logicStep stale world event = some next) :
    Tracked (events ++ [event]) next.app := by
  obtain ⟨linked, registered⟩ := tracked
  cases event with
  | newClient wsSession address =>
      obtain ⟨fresh, rfl⟩ := step_new_client stale world next wsSession address taken
      have unseen : wsSession ∉ joins events := by
        rw [joins_snoc] at once
        exact fun member => (List.disjoint_of_nodup_append once) member (by simp [joins])
      have absent : wsSession ∉ world.app.allSessions :=
        fun member => unseen (present_joined wsSession events ((registered wsSession).mp member))
      refine ⟨linked_joined world.app linked wsSession address absent fresh, ?_⟩
      intro other
      rw [present_snoc]
      simp only [joined, addSession, createPlayer, List.mem_append, List.mem_singleton, registered other,
        Bool.or_eq_true, decide_eq_true_eq, eq_comm (a := other)]
  | newMessage wsSession messageReceived =>
      obtain ⟨_, _, rfl⟩ := step_new_message stale world next wsSession messageReceived taken
      exact ⟨linked, fun other => by rw [present_snoc]; exact registered other⟩
  | lostClient wsSession =>
      rcases step_lost_client stale world next wsSession taken with
        ⟨absent, rfl⟩ | ⟨member, _, rest, _, shuffled, rfl⟩
      · refine ⟨linked, fun other => ?_⟩
        rw [present_snoc, registered other]
        simp only [Bool.and_eq_true, decide_eq_true_eq, iff_self_and]
        exact fun present same => absent ((registered wsSession).mpr (same ▸ present))
      · refine ⟨linked_departed world.app linked wsSession rest member shuffled, fun other => ?_⟩
        have distinct := shuffled.nodup_iff.mp linked.sessionsDistinct
        have others : other ∈ world.app.allSessions ↔ other = wsSession ∨ other ∈ rest := by
          rw [shuffled.mem_iff, List.mem_cons]
        simp only [present_snoc, Bool.and_eq_true, decide_eq_true_eq, ← registered other, others, departed, erasePlayer]
        constructor
        · exact fun within => ⟨.inr within, fun same => (List.nodup_cons.mp distinct).1 (same ▸ within)⟩
        · rintro ⟨same | within, different⟩
          · exact absurd same.symm different
          · exact within

theorem tracked_run (stale : Address → Option Int) (events : List LogicEvent) (world : LogicWorld Sessions)
    (once : (joins events).Nodup) (reached : Transition.run (logicStep stale) singleThreaded events = some world) :
    Tracked events world.app := by
  induction events using List.reverseRecOn generalizing world with
  | nil =>
      rw [Transition.run_nil] at reached
      exact reached ▸ tracked_initial
  | append_singleton events event ih =>
      obtain ⟨middle, before, taken⟩ := (Transition.run_snoc _ _ _ _ _).mp reached
      have earlier : (joins events).Nodup := by
        rw [joins_snoc] at once
        exact once.of_append_left
      exact tracked_step stale events event middle world (ih middle earlier before) once taken

structure Numbered (clients : Nat) (logic : WebSocketMainLogicServer) : Prop where
  counter : logic.lastPlayerId = clients + 1
  distinct : (logic.allPlayersData.map PlayerData.id).Nodup
  bounded : ∀ player ∈ logic.allPlayersData, 1 ≤ player.id ∧ player.id < logic.lastPlayerId

theorem numbered_initial : Numbered 0 initial := ⟨rfl, List.nodup_nil, by simp [initial]⟩

theorem int32_successor_small (value : Int) (low : 0 ≤ value) (high : value + 1 < 2 ^ 31) :
    int32Successor value = value + 1 := by
  unfold int32Successor
  exact Int.bmod_eq_of_le (by omega) (by omega)

theorem numbered_joined (clients : Nat) (logic : WebSocketMainLogicServer) (numbered : Numbered clients logic)
    (wsSession : SessionId) (address : Address) (room : clients + 1 < 2 ^ 31 - 1) :
    Numbered (clients + 1) (joined wsSession address logic) := by
  obtain ⟨counter, distinct, bounded⟩ := numbered
  have successor : int32Successor logic.lastPlayerId = logic.lastPlayerId + 1 :=
    int32_successor_small _ (by omega) (by omega)
  refine ⟨?_, ?_, ?_⟩
  · calc
      (joined wsSession address logic).lastPlayerId = logic.lastPlayerId + 1 := successor
      _ = ((clients + 1 : Nat) : Int) + 1 := by omega
  · have unused : logic.lastPlayerId ∉ logic.allPlayersData.map PlayerData.id := by
      intro member
      obtain ⟨player, present, same⟩ := List.mem_map.mp member
      have below := (bounded player present).2
      omega
    simp only [joined, addSession, createPlayer, List.map_append, List.map_cons, List.map_nil]
    exact List.nodup_append_comm.mp (List.nodup_cons.mpr ⟨unused, distinct⟩)
  · intro player member
    simp only [joined, addSession, createPlayer, List.mem_append, List.mem_singleton] at member
    simp only [joined, addSession, createPlayer, successor]
    rcases member with before | rfl
    · have held := bounded player before
      omega
    · simp only
      omega

theorem numbered_departed (clients : Nat) (logic : WebSocketMainLogicServer) (linked : Linked logic)
    (numbered : Numbered clients logic) (wsSession : SessionId) (rest : List SessionId)
    (member : wsSession ∈ logic.allSessions) : Numbered clients (departed wsSession rest logic) := by
  obtain ⟨removed, _, _, players⟩ := departed_players logic linked wsSession member rest
  have ids := (players.map PlayerData.id).nodup_iff.mp numbered.distinct
  refine ⟨numbered.counter, (List.nodup_cons.mp ids).2, fun player present => ?_⟩
  exact numbered.bounded player (players.mem_iff.mpr (List.mem_cons_of_mem _ present))

theorem numbered_run (stale : Address → Option Int) (events : List LogicEvent) (world : LogicWorld Sessions)
    (once : (joins events).Nodup) (few : (joins events).length < 2 ^ 31 - 1)
    (reached : Transition.run (logicStep stale) singleThreaded events = some world) :
    Numbered (joins events).length world.app := by
  induction events using List.reverseRecOn generalizing world with
  | nil =>
      rw [Transition.run_nil] at reached
      exact reached ▸ numbered_initial
  | append_singleton events event ih =>
      obtain ⟨middle, before, taken⟩ := (Transition.run_snoc _ _ _ _ _).mp reached
      rw [joins_snoc] at once few ⊢
      have shorter : (joins events).length < 2 ^ 31 - 1 := by
        rw [List.length_append] at few
        omega
      have earlier := ih middle once.of_append_left shorter before
      cases event with
      | newClient wsSession address =>
          obtain ⟨_, rfl⟩ := step_new_client stale middle world wsSession address taken
          rw [List.length_append] at few ⊢
          exact numbered_joined _ middle.app earlier wsSession address few
      | newMessage wsSession messageReceived =>
          obtain ⟨_, _, rfl⟩ := step_new_message stale middle world wsSession messageReceived taken
          simpa [joins] using earlier
      | lostClient wsSession =>
          have linked := (tracked_run stale events middle once.of_append_left before).linked
          rcases step_lost_client stale middle world wsSession taken with ⟨_, rfl⟩ | ⟨member, _, rest, _, _, rfl⟩
          · simpa [joins] using earlier
          · simpa [joins] using numbered_departed _ middle.app linked earlier wsSession rest member

theorem player_id_joined (stale : Address → Option Int) (wsSession : SessionId) (address : Address)
    (logic : WebSocketMainLogicServer) (fresh : ∀ player ∈ logic.allPlayersData, player.address ≠ address) :
    playerId stale wsSession (joined wsSession address logic) = some logic.lastPlayerId := by
  have unfound : logic.allPlayersData.find? (fun player => decide (player.address = address ∧
      player.wsSession = wsSession)) = none := by
    simpa using fun player present same => absurd same (fresh player present)
  simp [playerId, joined, addSession, createPlayer, List.find?_append, unfound, -Bool.decide_and]

theorem assigned_ids_count (stale : Address → Option Int) (events : List LogicEvent) (world final : LogicWorld Sessions)
    (positive : 0 ≤ world.app.lastPlayerId) (room : world.app.lastPlayerId + (joins events).length < 2 ^ 31)
    (reached : Transition.run (logicStep stale) world events = some final) :
    assignedIds stale world events =
      (List.range (joins events).length).map fun earlier : Nat => world.app.lastPlayerId + earlier := by
  induction events generalizing world with
  | nil => rfl
  | cons event rest ih =>
      obtain ⟨next, taken, onward⟩ := (Transition.run_cons _ _ _ _ _).mp reached
      have split : joins (event :: rest) = joins [event] ++ joins rest := by
        rw [← List.singleton_append, joins, List.filterMap_append]
        rfl
      rw [split, List.length_append] at room ⊢
      have unnumbered : next.app.lastPlayerId = world.app.lastPlayerId → joins [event] = [] →
          assignedIds stale next rest = (List.range ((joins [event]).length + (joins rest).length)).map
            fun earlier : Nat => world.app.lastPlayerId + earlier := by
        intro same none
        rw [ih next (by omega) (by omega) onward, same, none, List.length_nil, Nat.zero_add]
      cases event with
      | newClient wsSession address =>
          obtain ⟨fresh, rfl⟩ := step_new_client stale world next wsSession address taken
          have single : (joins [.newClient wsSession address]).length = 1 := rfl
          have counted : (joined wsSession address world.app).lastPlayerId = world.app.lastPlayerId + 1 :=
            int32_successor_small _ positive (by omega)
          have later := ih _ (by simp only [counted]; omega) (by simp only [counted]; omega) onward
          simp only [assignedIds, taken, player_id_joined stale wsSession address world.app fresh, later, counted,
            Option.toList_some, List.singleton_append, single, Nat.add_comm 1, List.range_succ_eq_map, List.map_cons,
            List.map_map]
          refine List.cons_eq_cons.mpr ⟨by simp, List.map_congr_left fun earlier _ => ?_⟩
          simp only [Function.comp_apply, Nat.succ_eq_add_one]
          omega
      | newMessage wsSession messageReceived =>
          obtain ⟨_, _, same⟩ := step_new_message stale world next wsSession messageReceived taken
          simpa only [assignedIds, taken] using unnumbered (by rw [same]) rfl
      | lostClient wsSession =>
          simp only [assignedIds, taken]
          rcases step_lost_client stale world next wsSession taken with ⟨_, rfl⟩ | ⟨_, _, departure, _, _, rfl⟩
          · exact unnumbered rfl rfl
          · exact unnumbered rfl rfl

-- What freed memory reads as where the read gives something at all.
def stillReads (stale : Address → Int) : Address → Option Int := fun address => some (stale address)

theorem still_read (stale : Address → Int) (wsSession : SessionId) (logic : WebSocketMainLogicServer) :
    ∃ id, playerId (stillReads stale) wsSession logic = some id := by
  simp only [playerId, stillReads]
  split
  · exact ⟨-1, rfl⟩
  · split <;> exact ⟨_, rfl⟩

theorem lost_client_throws (stale : Address → Int) (world : LogicWorld Sessions) (wsSession : SessionId)
    (absent : wsSession ∉ world.app.allSessions) :
    perform (stillReads stale) world (.lostClient wsSession) = .threw sessionNotFound world := by
  obtain ⟨id, read⟩ := still_read stale wsSession world.app
  exact on_lost_client_unknown sessionWrite (stillReads stale) wsSession world id read absent

-- The calls include losses of sessions whose userData is stale, and are taken to
-- read some int there.
theorem registry_kept (stale : Address → Int) (events : List LogicEvent) (world : LogicWorld Sessions)
    (reached : Transition.run (logicStep (stillReads stale)) singleThreaded events = some world)
    (once : (joins events).Nodup) (few : (joins events).length < 2 ^ 31 - 1) :
    RegistryInvariant events world.app ∧ (assignedIds (stillReads stale) singleThreaded events).Nodup ∧
      (∀ wsSession, isPresent wsSession events = false →
        perform (stillReads stale) world (.lostClient wsSession) = .threw sessionNotFound world) ∧
      ∀ event what after, perform (stillReads stale) world event = .threw what after → after = world := by
  obtain ⟨linked, registered⟩ := tracked_run (stillReads stale) events world once reached
  obtain ⟨_, distinct, bounded⟩ := numbered_run (stillReads stale) events world once few reached
  refine ⟨?_, ?_, ?_, fun event what after => perform_threw (stillReads stale) world after event what⟩
  · exact {
      sessionsDistinct := linked.sessionsDistinct
      sessionHasPlayer := fun wsSession member =>
        (linked_session_player world.app linked wsSession member).imp fun _ held => ⟨held.1, held.2.2⟩
      playerHasSession := linked_player_session world.app linked
      addressesDistinct := linked.addressesDistinct
      idsDistinct := distinct
      idsBounded := bounded
      registered := registered }
  · have room : singleThreaded.app.lastPlayerId + (joins events).length < 2 ^ 31 := by
      simp only [singleThreaded, initial]
      omega
    rw [assigned_ids_count (stillReads stale) events singleThreaded world (by decide) room reached]
    refine List.nodup_range.map ?_
    intro first second same
    simp only at same
    omega
  · intro wsSession absent
    apply lost_client_throws
    intro member
    rw [registered wsSession, absent] at member
    cases member

def leftAndReplaced : List LogicEvent :=
  [.newClient 3 10, .newClient 5 11, .newMessage 3 [104], .lostClient 3, .lostClient 3, .newClient 7 10]

theorem registry_kept_left_and_replaced :
    ∃ world, Transition.run (logicStep (stillReads fun _ => 0)) singleThreaded leftAndReplaced = some world ∧
      world.app.allSessions = [5, 7] ∧ RegistryInvariant leftAndReplaced world.app ∧
      (assignedIds (stillReads fun _ => 0) singleThreaded leftAndReplaced).Nodup := by
  have kept := registry_kept (fun _ => 0) leftAndReplaced _ rfl (by decide) (by decide)
  exact ⟨_, rfl, by decide, kept.1, kept.2.1⟩

end NetworkWrapper
