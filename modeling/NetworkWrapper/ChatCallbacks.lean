import NetworkWrapper.Chat

set_option autoImplicit false

namespace NetworkWrapper

open WebSocketSession WebSocketMainLogicServer

def SameAccepted (before after : Sessions) : Prop := ∀ self, (after self).accepted = (before self).accepted

theorem same_accepted_update (server : Server) (self : SessionId) (session : WebSocketSession)
    (same : session.accepted = (server.host self).accepted) :
    SameAccepted server.host (server.update self session).host := by
  intro other
  by_cases equal : other = self
  · rw [equal, World.update_same, same]
  · rw [World.update_other _ _ _ _ equal]

theorem pop_accepted (session : WebSocketSession) : session.popAndContinue.world.accepted = session.accepted := by
  cases buffers : session.sendBufferSafeQueue.buffersToSend with
  | nil => rw [pop_empty session buffers, Outcome.world_undefined]
  | cons sent rest =>
      cases rest with
      | nil => rw [pop_last session sent buffers, Outcome.world_returned]
      | cons next rest => rw [pop_more session sent next rest buffers, Outcome.world_returned]

structure Performs (stale : Address → Option Int) (server begun : Server) (event : LogicEvent) (outcome : Outcome Server) :
    Prop where
  app : begun.app = server.app
  before : SameAccepted server.host begun.host
  after : SameAccepted (perform stale begun event).world.host outcome.world.host
  performed : outcome.world.app = (perform stale begun event).world.app
  returns : ∀ next, outcome = .returned next → ∃ middle, perform stale begun event = .returned middle

theorem resumed_performs (stale : Address → Option Int) (server begun : Server) (self : SessionId) (event : LogicEvent)
    (resume : WebSocketSession → WebSocketSession) (app : begun.app = server.app)
    (before : SameAccepted server.host begun.host) (same : ∀ session, (resume session).accepted = session.accepted) :
    Performs stale server begun event
      ((perform stale begun event).andThen fun world => world.call self fun session => .returned (resume session)) := by
  rcases perform_ends stale begun event with ⟨middle, performed⟩ | performed | performed
  · have after := same_accepted_update middle self (resume (middle.host self)) (same _)
    exact ⟨app, before, by rw [performed]; exact after, by rw [performed]; rfl, fun _ _ => ⟨middle, performed⟩⟩
  all_goals
    refine ⟨app, before, by rw [performed]; exact fun _ => rfl, by rw [performed]; rfl, fun next done => ?_⟩
    rw [performed] at done
    cases done

theorem failed_performs (stale : Address → Option Int) (address : Address) (self : SessionId) (server : Server)
    (session : WebSocketSession) (same : session.accepted = (server.host self).accepted) :
    ∃ begun, Performs stale server begun (.lostClient self)
      (connectionError (boundCallbacks stale address) self (server.update self session)) := by
  let dropped := (server.update self session).update self { session with isConnected := false }
  have before : SameAccepted server.host dropped.host := by
    intro other
    rw [same_accepted_update (server.update self session) self { session with isConnected := false }
      (by rw [World.update_same]) other]
    exact same_accepted_update server self session same other
  have reached : connectionError (boundCallbacks stale address) self (server.update self session) =
      perform stale dropped (.lostClient self) := by
    simp only [connectionError, boundCallbacks, World.update_same, perform, dropped]
  rw [reached]
  exact ⟨dropped, rfl, before, fun _ => rfl, rfl, fun next done => ⟨next, done⟩⟩

theorem completed_performs (stale : Address → Option Int) (address : Address) (self : SessionId) (server : Server)
    (completion : Completion) (outcome : Outcome Server)
    (taken : complete (boundCallbacks stale address) self server completion = some outcome) :
    match calledBack (server.host self) self address completion with
    | none => outcome.world.app = server.app ∧ SameAccepted server.host outcome.world.host
    | some event => ∃ begun, Performs stale server begun event outcome := by
  cases completion with
  | accepted ec =>
      obtain ⟨pending, rfl⟩ := (complete_accepted _ _ _ _ _).mp taken
      cases ec with
      | some what => exact failed_performs stale address self server _ rfl
      | none =>
          have performs := resumed_performs stale server (server.update self _) self (.newClient self address)
            (fun session => if session.useBoostStrands then session.post .doRead else session.doRead) rfl
            (same_accepted_update server self { server.host self with
              pendingAccepts := (server.host self).pendingAccepts - 1 } rfl)
            (by intro session; split <;> rfl)
          exact ⟨_, performs⟩
  | received ec message =>
      obtain ⟨_, rfl⟩ := (complete_received _ _ _ _ _ _).mp taken
      cases ec with
      | some what => exact failed_performs stale address self server _ rfl
      | none =>
          let begun := server.update self { server.host self with
            pendingReads := (server.host self).pendingReads - 1
            readBuffer := (server.host self).readBuffer ++ message }
          have performs := resumed_performs stale server begun self
            (.newMessage self ((server.host self).readBuffer ++ message))
            (fun session => { session with readBuffer := [] }.doRead) rfl (same_accepted_update server self _ rfl)
            (fun _ => rfl)
          refine ⟨begun, ?_⟩
          simp only [onRead, boundCallbacks, World.update_same]
          exact performs
  | wrote index ec =>
      obtain ⟨_, rfl⟩ := (complete_wrote _ _ _ _ _ _).mp taken
      cases ec with
      | some what => exact failed_performs stale address self server _ rfl
      | none =>
          refine ⟨?_, fun other => ?_⟩
          · simp only [onWrite, World.call_app, World.update_app]
          · simp only [onWrite]
            by_cases same : other = self
            · rw [same, World.call_same, World.update_same, pop_accepted]
            · rw [World.call_other _ _ _ _ same, World.update_other _ _ _ _ same]
  | ran =>
      obtain ⟨task, rest, _, rfl⟩ := (complete_ran _ _ _ _).mp taken
      refine ⟨by simp only [World.call_app, World.update_app], fun other => ?_⟩
      by_cases same : other = self
      · rw [same, World.call_same, World.update_same]
        cases task with
        | onRun => rfl
        | doRead => rfl
        | doWrite =>
            simp only [runTask, doWrite]
            split <;> rfl
      · rw [World.call_other _ _ _ _ same, World.update_other _ _ _ _ same]

theorem announced_same (log : List LogicEvent) (before after : Server) (announced : Announced log before)
    (app : after.app = before.app) (same : SameAccepted before.host after.host) : Announced log after := by
  refine ⟨?_, ?_, fun self => (same self).trans (announced.written self)⟩
  · rw [app]
    exact announced.tracked
  · rw [app]
    exact announced.numbering

theorem joins_legal (log : List LogicEvent) (event : LogicEvent) (once : (joins log).Nodup) (legal : Legal log event) :
    (joins (log ++ [event])).Nodup := by
  rw [joins_snoc]
  cases event with
  | newClient wsSession address => exact List.nodup_append_comm.mp (List.nodup_cons.mpr ⟨legal, once⟩)
  | newMessage wsSession messageReceived => simpa [joins] using once
  | lostClient wsSession => simpa [joins] using once

theorem announced_legal (stale : Address → Option Int) (log : List LogicEvent) (event : LogicEvent) (server next : Server)
    (announced : Announced log server) (once : (joins log).Nodup) (legal : Legal log event)
    (taken : logicStep stale server event = some next) : Announced (log ++ [event]) next := by
  have tracked := tracked_step stale log event server next announced.tracked (joins_legal log event once legal) taken
  cases event with
  | newClient wsSession address =>
      exact announced_new_client stale log server next wsSession address announced legal tracked taken
  | newMessage wsSession messageReceived =>
      exact announced_new_message stale log server next wsSession messageReceived announced legal tracked taken
  | lostClient wsSession => exact announced_lost_client stale log server next wsSession announced legal tracked taken

theorem announced_performs (stale : Address → Option Int) (server begun : Server) (log : List LogicEvent) (event : LogicEvent)
    (outcome : Outcome Server) (announced : Announced log server) (once : (joins log).Nodup)
    (room : Allocatable server.app event) (legal : (∀ wsSession, event ≠ .lostClient wsSession) → Legal log event)
    (performs : Performs stale server begun event outcome) :
    (Legal log event ∧ Announced (log ++ [event]) outcome.world) ∨
      (SameAccepted server.host outcome.world.host ∧ ∀ next, outcome ≠ .returned next) := by
  have start := announced_same log server begun announced performs.app performs.before
  rcases perform_ends stale begun event with ⟨middle, performed⟩ | performed | performed
  · have taken : logicStep stale begun event = some middle := by
      rw [logicStep, performs.app, if_pos room, performed]
    have lawful : Legal log event := by
      cases event with
      | newClient wsSession address => exact legal fun _ => by simp
      | newMessage wsSession messageReceived => exact legal fun _ => by simp
      | lostClient wsSession =>
          refine (start.tracked.registered wsSession).mp ?_
          by_contra absent
          rcases on_lost_client_absent _ stale wsSession begun absent with lost | lost
          all_goals
            rw [perform, lost] at performed
            cases performed
    have onward := announced_legal stale log event begun middle start once lawful taken
    refine .inl ⟨lawful, announced_same _ middle _ onward ?_ ?_⟩
    · rw [performs.performed, performed, Outcome.world_returned]
    · have after := performs.after
      rwa [performed] at after
  all_goals
    refine .inr ⟨fun self => ?_, fun next returned => ?_⟩
    · have after := performs.after self
      rw [performed] at after
      exact after.trans (performs.before self)
    · obtain ⟨middle, returns⟩ := performs.returns next returned
      rw [returns] at performed
      cases performed

end NetworkWrapper
