import NetworkWrapper.MainLogic

set_option autoImplicit false

namespace NetworkWrapper

open WebSocketMainLogicServer

abbrev WriteLog := List (SessionId × Bytes)

def logged (target : SessionId) (data : Bytes) (log : WriteLog) : WriteLog := log ++ [(target, data)]

def logWrite (target : SessionId) (data : Bytes) (log : WriteLog) : Outcome WriteLog := .returned (logged target data log)

theorem log_writes : Writes logWrite logged := fun _ _ _ _ => rfl

def messageFrames (stale : Address → Option Int) (wsSession : SessionId) (messageReceived : Bytes)
    (logic : WebSocketMainLogicServer) : WriteLog :=
  (onNewMessage logWrite stale wsSession messageReceived ⟨[], logic⟩).world.host

theorem deliver_all_logged (recipients : List SessionId) (data : Bytes) (log : WriteLog) :
    deliverAll logged recipients data log = log ++ recipients.map fun target => (target, data) := by
  induction recipients generalizing log with
  | nil => simp
  | cons target rest ih => simp [ih, logged]

theorem message_frames_written (stale : Address → Option Int) (wsSession : SessionId) (messageReceived : Bytes)
    (logic : WebSocketMainLogicServer) (id : Int) (read : playerId stale wsSession logic = some id) :
    messageFrames stale wsSession messageReceived logic =
      (logic.allSessions.filter fun target => wsSession ≠ target).map (fun target =>
        (target, newMessageText id messageReceived)) ++ [(wsSession, fromYouText messageReceived)] := by
  rw [messageFrames, on_new_message_returns logWrite logged log_writes stale wsSession messageReceived _ id read,
    Outcome.world_returned, deliver_all_logged]
  rfl

-- Nothing is written where the sender's player cannot be read.
theorem all_frames_iff (holds : Bytes → Prop) (stale : Address → Option Int) (wsSession : SessionId) (messageReceived : Bytes)
    (logic : WebSocketMainLogicServer) :
    (∀ frame ∈ messageFrames stale wsSession messageReceived logic, holds frame.2) ↔
      ∀ id, playerId stale wsSession logic = some id →
        holds (fromYouText messageReceived) ∧ ((∃ other ∈ logic.allSessions, other ≠ wsSession) →
          holds (newMessageText id messageReceived)) := by
  cases read : playerId stale wsSession logic with
  | none =>
      have unwritten : messageFrames stale wsSession messageReceived logic = [] := by
        rw [messageFrames, on_new_message_undefined logWrite stale wsSession messageReceived _ read,
          Outcome.world_undefined]
      simp [unwritten]
  | some id =>
      rw [message_frames_written stale wsSession messageReceived logic id read]
      simp only [Option.some.injEq, forall_eq']
      constructor
      · intro all
        refine ⟨all (wsSession, fromYouText messageReceived) (by simp), ?_⟩
        rintro ⟨other, member, different⟩
        exact all (other, _) (List.mem_append_left _ (List.mem_map_of_mem (List.mem_filter.mpr
          ⟨member, by simpa using Ne.symm different⟩)))
      · rintro ⟨feedback, broadcast⟩ frame member
        rcases List.mem_append.mp member with others | own
        · obtain ⟨target, kept, rfl⟩ := List.mem_map.mp others
          obtain ⟨registered, different⟩ := List.mem_filter.mp kept
          exact broadcast ⟨target, registered, Ne.symm (by simpa using different)⟩
        · rw [List.mem_singleton.mp own]
          exact feedback

theorem from_you_length (messageReceived : Bytes) : (fromYouText messageReceived).length = messageReceived.length + 37 := by
  have tag : (utf8 "[BROADCAST][NEW MESSAGE][FROM YOU] \"").length = 36 := by decide
  have closing : (utf8 "\"").length = 1 := by decide
  simp only [fromYouText, List.length_append, tag, closing]
  omega

theorem new_message_length (id : Int) (messageReceived : Bytes) :
    (newMessageText id messageReceived).length = messageReceived.length + (decimal id).length + 36 := by
  have tag : (utf8 "[BROADCAST][NEW MESSAGE][FROM \"").length = 31 := by decide
  have middle : (utf8 "\"] \"").length = 4 := by decide
  have closing : (utf8 "\"").length = 1 := by decide
  simp only [newMessageText, List.length_append, tag, middle, closing]
  omega

def FitsRelayed (stale : Address → Option Int) (wsSession : SessionId) (messageReceived : Bytes)
    (logic : WebSocketMainLogicServer) : Prop :=
  ∀ id, playerId stale wsSession logic = some id →
    messageReceived.length + 37 ≤ readBufferLimit ∧ ((∃ other ∈ logic.allSessions, other ≠ wsSession) →
      messageReceived.length + (decimal id).length + 36 ≤ readBufferLimit)

theorem frames_fit_iff (stale : Address → Option Int) (wsSession : SessionId) (messageReceived : Bytes)
    (logic : WebSocketMainLogicServer) :
    (∀ frame ∈ messageFrames stale wsSession messageReceived logic, frame.2.length ≤ readBufferLimit) ↔
      FitsRelayed stale wsSession messageReceived logic := by
  simp only [all_frames_iff fun frame => frame.length ≤ readBufferLimit, from_you_length, new_message_length,
    FitsRelayed]

theorem largest_message_outgrows :
    ¬ ∀ (stale : Address → Option Int) (wsSession : SessionId) (messageReceived : Bytes) (logic : WebSocketMainLogicServer),
      messageReceived.length ≤ readBufferLimit →
      ∀ frame ∈ messageFrames stale wsSession messageReceived logic, frame.2.length ≤ readBufferLimit := by
  intro always
  have readable : (List.replicate readBufferLimit (97 : UInt8)).length ≤ readBufferLimit := by simp
  have fits := (all_frames_iff (fun frame => frame.length ≤ readBufferLimit) (fun _ => none) 0 _ initial).mp
    (always (fun _ => none) 0 _ initial readable) (-1) rfl
  have feedback := fits.1
  rw [from_you_length, List.length_replicate] at feedback
  omega

end NetworkWrapper
