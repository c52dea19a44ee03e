import Mathlib.Data.List.Infix
import NetworkWrapper.Session

set_option autoImplicit false

namespace NetworkWrapper

open WebSocketSession

-- A session of the single-threaded server: the one async_write that can be
-- outstanding carries the front of the queue, which stays there until it is sent.
structure SoleWriter (session : WebSocketSession) : Prop where
  unstranded : session.useBoostStrands = false
  unposted : session.posted = []
  outstanding : session.pendingWrites <+: session.sendBufferSafeQueue.buffersToSend.take 1

theorem sole_writer_unconstructed : SoleWriter unconstructed := ⟨rfl, rfl, List.prefix_refl []⟩

theorem sole_writer_single (session : WebSocketSession) (sole : SoleWriter session) (index : Nat)
    (pending : index < session.pendingWrites.length) :
    index = 0 ∧ ∃ sent rest, session.sendBufferSafeQueue.buffersToSend = sent :: rest ∧
      session.pendingWrites = [sent] :=
  outstanding_front _ _ sole.outstanding index pending

theorem sole_writer_queued (session : WebSocketSession) (sole : SoleWriter session) (buffer : SendBuffer) :
    SoleWriter (session.queued buffer) := by
  obtain ⟨unstranded, unposted, outstanding⟩ := sole
  cases buffers : session.sendBufferSafeQueue.buffersToSend with
  | nil =>
      rw [buffers, List.take_nil, List.prefix_nil] at outstanding
      exact ⟨by simp [queued, buffers, unstranded, asyncWrite], by simp [queued, buffers, unstranded, asyncWrite, unposted],
        by simp [queued, buffers, unstranded, asyncWrite, outstanding]⟩
  | cons front rest =>
      rw [buffers, List.take_succ_cons, List.take_zero] at outstanding
      exact ⟨by simp [queued, buffers, unstranded], by simp [queued, buffers, unposted],
        by simpa [queued, buffers] using outstanding⟩

theorem sole_writer_written (session : WebSocketSession) (sole : SoleWriter session) (data : Bytes) :
    SoleWriter (session.write data).world := by
  by_cases empty : data = []
  · rw [empty, write_empty]
    exact sole
  · rw [write_nonempty session data empty]
    exact sole_writer_queued session sole _

theorem sole_writer_sent (session : WebSocketSession) (sole : SoleWriter session) (index : Nat)
    (pending : index < session.pendingWrites.length) :
    ∃ sent rest, session.sendBufferSafeQueue.buffersToSend = sent :: rest ∧ session.pendingWrites = [sent] ∧
      { session with pendingWrites := session.pendingWrites.eraseIdx index }.popAndContinue =
        .returned { session with sendBufferSafeQueue := ⟨rest⟩, pendingWrites := rest.take 1 } := by
  obtain ⟨rfl, sent, rest, buffers, writing⟩ := sole_writer_single session sole index pending
  refine ⟨sent, rest, buffers, writing, ?_⟩
  let idle := { session with pendingWrites := session.pendingWrites.eraseIdx 0 }
  cases rest with
  | nil =>
      have popped := pop_last idle sent buffers
      simpa [idle, writing] using popped
  | cons next rest =>
      have popped := pop_more idle sent next rest buffers
      simpa [idle, writing] using popped

theorem sole_writer_after (session : WebSocketSession) (sole : SoleWriter session) (rest : List SendBuffer) :
    SoleWriter { session with sendBufferSafeQueue := ⟨rest⟩, pendingWrites := rest.take 1 } :=
  ⟨sole.unstranded, sole.unposted, List.prefix_refl _⟩

theorem sole_writer_failed (session : WebSocketSession) (sole : SoleWriter session) (index : Nat) :
    SoleWriter { session with pendingWrites := session.pendingWrites.eraseIdx index } := by
  refine ⟨sole.unstranded, sole.unposted, ?_⟩
  by_cases pending : index < session.pendingWrites.length
  · obtain ⟨rfl, sent, rest, _, writing⟩ := sole_writer_single session sole index pending
    simp [writing]
  · rw [List.eraseIdx_of_length_le (Nat.le_of_not_lt pending)]
    exact sole.outstanding

theorem queued_writes (session : WebSocketSession) (buffer : SendBuffer) :
    session.pendingWrites <+: (session.queued buffer).pendingWrites := by
  simp only [queued]
  split
  · exact List.prefix_refl _
  · split
    · exact List.prefix_refl _
    · exact List.prefix_append _ _

theorem queued_buffers (session : WebSocketSession) (buffer : SendBuffer) :
    (session.queued buffer).sendBufferSafeQueue.buffersToSend =
      session.sendBufferSafeQueue.buffersToSend ++ [buffer] := by
  simp only [queued]
  split
  · rfl
  · split <;> rfl

theorem queued_accepted (session : WebSocketSession) (buffer : SendBuffer) :
    (session.queued buffer).accepted = session.accepted ++ [buffer.data] := by
  simp only [queued]
  split
  · rfl
  · split <;> rfl

theorem queued_elsewhere (session : WebSocketSession) (buffer : SendBuffer) :
    (session.queued buffer).constructed = session.constructed ∧
      (session.queued buffer).isConnected = session.isConnected ∧
      (session.queued buffer).pendingAccepts = session.pendingAccepts ∧
      (session.queued buffer).pendingReads = session.pendingReads ∧
      (session.queued buffer).readBuffer = session.readBuffer := by
  simp only [queued]
  split
  · exact ⟨rfl, rfl, rfl, rfl, rfl⟩
  · split <;> exact ⟨rfl, rfl, rfl, rfl, rfl⟩

theorem written_elsewhere (session : WebSocketSession) (data : Bytes) :
    (session.write data).world.constructed = session.constructed ∧
      (session.write data).world.isConnected = session.isConnected ∧
      (session.write data).world.pendingAccepts = session.pendingAccepts ∧
      (session.write data).world.pendingReads = session.pendingReads ∧
      (session.write data).world.readBuffer = session.readBuffer := by
  by_cases empty : data = []
  · rw [empty, write_empty]
    exact ⟨rfl, rfl, rfl, rfl, rfl⟩
  · rw [write_nonempty session data empty]
    exact queued_elsewhere session _

-- The handshake is followed by reads, one at a time, each into an empty buffer.
structure OneReader (session : WebSocketSession) : Prop where
  single : session.pendingAccepts + session.pendingReads ≤ 1
  consumed : 0 < session.pendingAccepts + session.pendingReads → session.readBuffer = []

theorem one_reader_written (session : WebSocketSession) (reader : OneReader session) (data : Bytes) :
    OneReader (session.write data).world := by
  obtain ⟨_, _, accepts, reads, buffer⟩ := written_elsewhere session data
  refine ⟨?_, ?_⟩
  · rw [accepts, reads]
    exact reader.single
  · rw [accepts, reads, buffer]
    exact reader.consumed

theorem one_reader_reading (session : WebSocketSession) (idle : session.pendingAccepts + session.pendingReads = 0) :
    OneReader { session with readBuffer := [], pendingReads := session.pendingReads + 1 } := by
  refine ⟨?_, fun _ => rfl⟩
  simp only
  omega

theorem one_reader_resting (session : WebSocketSession) (idle : session.pendingAccepts + session.pendingReads = 0) :
    OneReader session :=
  ⟨by omega, by omega⟩

end NetworkWrapper
