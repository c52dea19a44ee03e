import NetworkWrapper.SessionRuns
import NetworkWrapper.SessionWrites

set_option autoImplicit false

namespace NetworkWrapper

open WebSocketSession

def Fed (before after : WebSocketSession) : Prop :=
  ∃ added : List SendBuffer,
    after.sendBufferSafeQueue.buffersToSend = before.sendBufferSafeQueue.buffersToSend ++ added ∧
    after.accepted = before.accepted ++ added.map SendBuffer.data ∧
    (SoleWriter before → SoleWriter after ∧ before.pendingWrites <+: after.pendingWrites) ∧
    after.pendingAccepts = before.pendingAccepts ∧ after.pendingReads = before.pendingReads ∧
    after.readBuffer = before.readBuffer

theorem fed_refl (session : WebSocketSession) : Fed session session :=
  ⟨[], by simp, by simp, fun sole => ⟨sole, List.prefix_refl _⟩, rfl, rfl, rfl⟩

theorem fed_trans (first second third : WebSocketSession) (before : Fed first second) (after : Fed second third) :
    Fed first third := by
  obtain ⟨some, buffers, accepted, sole, accepts, reads, buffer⟩ := before
  obtain ⟨more, moreBuffers, moreAccepted, moreSole, moreAccepts, moreReads, moreBuffer⟩ := after
  refine ⟨some ++ more, ?_, ?_, ?_, moreAccepts.trans accepts, moreReads.trans reads, moreBuffer.trans buffer⟩
  · rw [moreBuffers, buffers, List.append_assoc]
  · rw [moreAccepted, accepted, List.map_append, List.append_assoc]
  · intro start
    obtain ⟨middle, some⟩ := sole start
    obtain ⟨last, more⟩ := moreSole middle
    exact ⟨last, some.trans more⟩

theorem fed_write (session : WebSocketSession) (data : Bytes) : Fed session (session.write data).world := by
  by_cases empty : data = []
  · rw [empty, write_empty]
    exact fed_refl session
  · rw [write_nonempty session data empty]
    obtain ⟨_, _, accepts, reads, buffer⟩ := queued_elsewhere session ⟨data, empty⟩
    exact ⟨[⟨data, empty⟩], queued_buffers session _, queued_accepted session _,
      fun sole => ⟨sole_writer_queued session sole _, queued_writes session _⟩, accepts, reads, buffer⟩

theorem fed_closed (session : WebSocketSession) : Fed session { session with isConnected := false } :=
  ⟨[], by simp, by simp, fun sole => ⟨{ sole with }, List.prefix_refl _⟩,
    rfl, rfl, rfl⟩

theorem fed_disconnect (session : WebSocketSession) (closeError : ErrorCode) :
    Fed session (session.disconnect closeError).world := by
  rw [disconnect_world]
  exact fed_closed session

theorem fed_call (self target : SessionId) (world : Watched) (body : WebSocketSession → Outcome WebSocketSession)
    (feeds : ∀ session, Fed session (body session).world) :
    Fed (world.host self) ((world.call target body).world.host self) := by
  by_cases same : self = target
  · subst target
    rw [World.call_same]
    exact feeds (world.host self)
  · rw [World.call_other world target self body same]
    exact fed_refl _

theorem fed_perform (self : SessionId) (world : Watched) (call : Call) :
    Fed (world.host self) ((call.perform world).world.host self) := by
  cases call with
  | write target data =>
      by_cases unseen : callbacksOf target world = []
      · simpa only [Call.perform, if_pos unseen, Outcome.world_returned] using fed_refl (world.host self)
      · simpa only [Call.perform, if_neg unseen] using
          fed_call self target world _ fun session => fed_write session data
  | disconnect target closeError =>
      by_cases unseen : callbacksOf target world = []
      · simpa only [Call.perform, if_pos unseen, Outcome.world_returned] using fed_refl (world.host self)
      · simpa only [Call.perform, if_neg unseen] using
          fed_call self target world _ fun session => fed_disconnect session closeError

theorem fed_perform_all (self : SessionId) (calls : List Call) (world : Watched) :
    Fed (world.host self) ((performAll calls world).world.host self) := by
  induction calls generalizing world with
  | nil => exact fed_refl _
  | cons call rest ih =>
      apply Outcome.and_then_keeps fun middle : Watched => Fed (world.host self) (middle.host self)
      · exact fed_perform self world call
      · exact fun middle sofar => fed_trans _ _ _ sofar (ih middle)

theorem fed_callback (self other : SessionId) (callback : Callback) (calls : List Call) (world : Watched) :
    Fed (world.host self) ((performAll calls (note other callback world)).world.host self) :=
  fed_perform_all self calls (note other callback world)

theorem fed_connection_error (self : SessionId) (calls : List Call) (world : Watched) :
    Fed (world.host self) ((connectionError (recording calls) self world).world.host self) := by
  have closed := fed_closed (world.host self)
  rw [← World.update_same world self { world.host self with isConnected := false }] at closed
  exact fed_trans _ _ _ closed (fed_callback self self .onDisconnection calls _)

theorem fed_announced (self other : SessionId) (callback : Callback) (calls : List Call) (world : Watched)
    (session : WebSocketSession) (onward : WebSocketSession → Outcome WebSocketSession) (different : self ≠ other) :
    Fed (world.host self) (((performAll calls (note other callback (world.update other session))).andThen
      fun world => world.call other onward).world.host self) := by
  have fed := fed_callback self other callback calls (world.update other session)
  rw [World.update_other world other self session different] at fed
  apply Outcome.and_then_keeps (fun after : Watched => Fed (world.host self) (after.host self)) _ _ fed
  intro middle sofar
  rwa [World.call_other middle other self onward different]

theorem fed_failed (self other : SessionId) (calls : List Call) (world : Watched) (session : WebSocketSession)
    (different : self ≠ other) :
    Fed (world.host self) ((connectionError (recording calls) other (world.update other session)).world.host self) := by
  let failing := world.update other session
  have fed := fed_callback self other .onDisconnection calls
    (failing.update other { failing.host other with isConnected := false })
  rwa [World.update_other _ other self _ different, World.update_other _ other self _ different] at fed

theorem fed_elsewhere (self other : SessionId) (calls : List Call) (world : Watched) (completion : Completion)
    (outcome : Outcome Watched) (different : self ≠ other)
    (taken : complete (recording calls) other world completion = some outcome) :
    Fed (world.host self) (outcome.world.host self) := by
  cases completion with
  | accepted ec =>
      obtain ⟨_, rfl⟩ := (complete_accepted _ _ _ _ _).mp taken
      cases ec with
      | some what => exact fed_failed self other calls world _ different
      | none => exact fed_announced self other .onConnection calls world _ _ different
  | received ec message =>
      obtain ⟨_, rfl⟩ := (complete_received _ _ _ _ _ _).mp taken
      cases ec with
      | some what => exact fed_failed self other calls world _ different
      | none => exact fed_announced self other (.onMessage _) calls world _ _ different
  | wrote index ec =>
      obtain ⟨_, rfl⟩ := (complete_wrote _ _ _ _ _ _).mp taken
      cases ec with
      | some what => exact fed_failed self other calls world _ different
      | none =>
          rw [onWrite, World.call_other _ other self _ different, World.update_other _ other self _ different]
          exact fed_refl _
  | ran =>
      obtain ⟨task, rest, _, rfl⟩ := (complete_ran _ _ _ _).mp taken
      rw [World.call_other _ other self _ different, World.update_other _ other self _ different]
      exact fed_refl _

end NetworkWrapper
