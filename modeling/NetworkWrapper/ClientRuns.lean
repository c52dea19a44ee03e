import NetworkWrapper.ClientCalls
import NetworkWrapper.Transition

set_option autoImplicit false

-- Runs of one native client whose user watches the callbacks: every public call
-- and every handler is one step, in any order.
namespace NetworkWrapper

open WebSocketConnection

inductive ClientEvent where
  | connect (ipAddress port : String) (closeError : ErrorCode)
  | sendBinary (inData : Bytes)
  | sendUtf8Text (inText : Bytes)
  | disconnect (closeError : ErrorCode)
  | completed (completion : ClientCompletion)
deriving DecidableEq, Repr

def onClient (world : WatchedClient) (outcome : Outcome WebSocketConnection) : Outcome WatchedClient :=
  outcome.map fun connection => { world with host := connection }

def clientStep (process : Process WatchedClient) (event : ClientEvent) : Option (Process WatchedClient) :=
  match process.ending, event with
  | .running, .connect ipAddress port closeError =>
      some (settleCall (onClient process.world (process.world.host.connect ipAddress port closeError)))
  | .running, .sendBinary inData => some (settleCall (onClient process.world (process.world.host.sendBinary inData).2))
  | .running, .sendUtf8Text inText =>
      some (settleCall (onClient process.world (process.world.host.sendUtf8Text inText).2))
  | .running, .disconnect closeError =>
      some (settleCall (onClient process.world (process.world.host.disconnect closeError)))
  | .running, .completed completion => (complete watching process.world completion).map settle
  | _, _ => none

def freshClient : Process WatchedClient := ⟨⟨create, []⟩, .running⟩

def FromAccepted (connection : WebSocketConnection) : Prop :=
  (∀ buffer ∈ connection.buffersToSend, buffer.data ∈ connection.accepted) ∧
    ∀ buffer ∈ connection.pendingWrites, buffer.data ∈ connection.accepted

def ClientEvent.asCall : ClientEvent → Option ClientCall
  | .connect ipAddress port closeError => some (.connect ipAddress port closeError)
  | .sendBinary inData => some (.sendBinary inData)
  | .sendUtf8Text inText => some (.sendUtf8Text inText)
  | .disconnect closeError => some (.disconnect closeError)
  | .completed _ => none

theorem client_step_cases (process next : Process WatchedClient) (event : ClientEvent)
    (taken : clientStep process event = some next) : process.ending = .running ∧
      ((∃ call, event.asCall = some call ∧
          next = settleCall (onClient process.world (call.perform process.world.host))) ∨
        ∃ completion outcome, event = .completed completion ∧
          complete watching process.world completion = some outcome ∧ next = settle outcome) := by
  obtain ⟨world, ending⟩ := process
  cases ending with
  | escaped what => cases taken
  | undefined => cases taken
  | running =>
      refine ⟨rfl, ?_⟩
      cases event with
      | completed completion =>
          obtain ⟨outcome, done, rfl⟩ := Option.map_eq_some_iff.mp taken
          exact .inr ⟨completion, outcome, rfl, done, rfl⟩
      | connect ipAddress port closeError =>
          cases taken
          exact .inl ⟨_, rfl, rfl⟩
      | sendBinary inData =>
          cases taken
          exact .inl ⟨_, rfl, rfl⟩
      | sendUtf8Text inText =>
          cases taken
          exact .inl ⟨_, rfl, rfl⟩
      | disconnect closeError =>
          cases taken
          exact .inl ⟨_, rfl, rfl⟩

theorem called_host (world : WatchedClient) (outcome : Outcome WebSocketConnection) :
    (settleCall (onClient world outcome)).world.host = outcome.world := by
  rw [settle_call_world, onClient, Outcome.map_world]

theorem called_app (world : WatchedClient) (outcome : Outcome WebSocketConnection) :
    (settleCall (onClient world outcome)).world.app = world.app := by
  rw [settle_call_world, onClient]
  cases outcome <;> rfl

def tells (connection : WebSocketConnection) : ClientCompletion → List ClientCallback
  | .resolved ec => ec.toList.map .onError
  | .connected ec => ec.toList.map .onError
  | .handshaken none => [.onOpen]
  | .handshaken (some what) => [.onError what]
  | .received ec message =>
      if connection.isConnected = false then []
      else match ec with
      | none => [.onMessage (connection.readBuffer ++ message)]
      | some what => [.onError what]
  | .wrote _ ec => if connection.isConnected = false then [] else ec.toList.map .onError

theorem failed_tells (what : String) (world : WatchedClient) :
    (failed watching what world).world.app = world.app ++ [.onError what] := by
  rw [failed_watching, Outcome.world_returned]

theorem complete_tells (world : WatchedClient) (completion : ClientCompletion) (outcome : Outcome WatchedClient)
    (taken : complete watching world completion = some outcome) :
    outcome.world.app = world.app ++ tells world.host completion := by
  cases completion with
  | resolved ec =>
      obtain ⟨_, rfl⟩ := (complete_resolved _ _ _ _).mp taken
      cases ec with
      | none => exact (List.append_nil _).symm
      | some what => exact failed_tells what _
  | connected ec =>
      obtain ⟨_, rfl⟩ := (complete_connected _ _ _ _).mp taken
      cases ec with
      | none => exact (List.append_nil _).symm
      | some what => exact failed_tells what _
  | handshaken ec =>
      obtain ⟨_, rfl⟩ := (complete_handshaken _ _ _ _).mp taken
      cases ec with
      | none => rfl
      | some what => exact failed_tells what _
  | received ec message =>
      obtain ⟨_, rfl⟩ := (complete_received _ _ _ _ _).mp taken
      by_cases apart : world.host.isConnected = false
      · simp [onRead, tells, apart]
      · cases ec with
        | none => simp [onRead, tells, apart, watching, noteClient]
        | some what => simp [onRead, tells, apart, failed_tells]
  | wrote index ec =>
      obtain ⟨_, rfl⟩ := (complete_wrote _ _ _ _ _).mp taken
      by_cases apart : world.host.isConnected = false
      · simp [onWrite, tells, apart]
      · cases ec with
        | none => simp [onWrite, tells, apart, pop_queued]
        | some what => simp [onWrite, tells, apart, failed_tells]

theorem client_step_keeps (holds : WebSocketConnection → Prop) (rule : HandlerRule holds) (performed : CallRule holds)
    (ended : ∀ connection completion, holds connection → holds (endOperation connection completion))
    (process next : Process WatchedClient) (event : ClientEvent) (start : holds process.world.host)
    (taken : clientStep process event = some next) : holds next.world.host := by
  obtain ⟨_, ⟨call, _, rfl⟩ | ⟨completion, outcome, _, done, rfl⟩⟩ := client_step_cases process next event taken
  · rw [called_host]
    exact perform_keeps holds performed call process.world.host start
  · rw [settle_world]
    exact complete_keeps watching holds rule (watching_keeps holds) process.world completion outcome
      (ended process.world.host completion start) done

structure AcceptedSince (earlier : Nat) (connection : WebSocketConnection) : Prop where
  known : earlier ≤ connection.accepted.length
  queued : ∀ buffer ∈ connection.buffersToSend, buffer.data ∈ connection.accepted.drop earlier
  writing : ∀ buffer ∈ connection.pendingWrites, buffer.data ∈ connection.accepted.drop earlier

theorem accepted_since_fewer (earlier : Nat) (before after : WebSocketConnection) (since : AcceptedSince earlier before)
    (buffers : ∀ buffer ∈ after.buffersToSend, buffer ∈ before.buffersToSend)
    (writes : ∀ buffer ∈ after.pendingWrites, buffer ∈ before.pendingWrites)
    (same : after.accepted = before.accepted) : AcceptedSince earlier after := by
  refine ⟨?_, fun buffer member => ?_, fun buffer member => ?_⟩
  · rw [same]
    exact since.known
  · rw [same]
    exact since.queued buffer (buffers buffer member)
  · rw [same]
    exact since.writing buffer (writes buffer member)

theorem accepted_since_stop (earlier : Nat) (connection : WebSocketConnection) (since : AcceptedSince earlier connection) :
    AcceptedSince earlier connection.stop := by
  by_cases connected : connection.isConnected = true
  · simpa only [stop, if_pos connected] using
      accepted_since_fewer earlier connection { connection with isConnected := false, stopped := true } since
        (fun _ member => member) (fun _ member => member) rfl
  · simpa only [stop, if_neg connected] using since

theorem accepted_since_sent (earlier : Nat) (connection : WebSocketConnection) (inData : Bytes) (given : inData ≠ [])
    (since : AcceptedSince earlier connection) : AcceptedSince earlier (connection.lockedSend inData).world := by
  rw [locked_send_nonempty connection inData given]
  have grown : (connection.accepted ++ [inData]).drop earlier = connection.accepted.drop earlier ++ [inData] :=
    List.drop_append_of_le_length since.known
  have known : inData ∈ connection.accepted.drop earlier ++ [inData] := List.mem_append_right _ List.mem_cons_self
  refine ⟨?_, fun buffer member => ?_, fun buffer member => ?_⟩
  · exact since.known.trans (by simp)
  · rw [Outcome.world_returned, grown]
    rcases List.mem_append.mp member with before | last
    · exact List.mem_append_left _ (since.queued buffer before)
    · rw [List.mem_singleton.mp last]
      exact known
  · rw [Outcome.world_returned, grown]
    rcases List.mem_append.mp member with before | last
    · exact List.mem_append_left _ (since.writing buffer before)
    · by_cases idle : connection.buffersToSend = []
      · rw [if_pos idle] at last
        rw [List.mem_singleton.mp last]
        exact known
      · rw [if_neg idle] at last
        cases last

theorem calls_accepted_since (earlier : Nat) : CallRule (AcceptedSince earlier) where
  stopped := accepted_since_stop earlier
  sent connection inData _ given since := accepted_since_sent earlier connection inData given since
  addressed _ _ _ since := ⟨since.known, since.queued, since.writing⟩
  resolving _ since := ⟨since.known, since.queued, since.writing⟩

theorem accepted_since_ended (earlier : Nat) (connection : WebSocketConnection) (completion : ClientCompletion)
    (since : AcceptedSince earlier connection) : AcceptedSince earlier (endOperation connection completion) := by
  refine accepted_since_fewer earlier connection _ since ?_ ?_ ?_
  · cases completion <;> exact fun _ member => member
  · cases completion with
    | wrote index ec => exact fun _ member => List.mem_of_mem_eraseIdx member
    | _ => exact fun _ member => member
  · cases completion <;> rfl

theorem handlers_accepted_since (earlier : Nat) : HandlerRule (AcceptedSince earlier) where
  connectStarted _ since := ⟨since.known, since.queued, since.writing⟩
  handshakeStarted _ since := ⟨since.known, since.queued, since.writing⟩
  opened _ since := ⟨since.known, since.queued, since.writing⟩
  readAgain _ since := ⟨since.known, since.queued, since.writing⟩
  cleared _ since := ⟨since.known, by simp, since.writing⟩
  popped connection since := by
    rw [pop_queued]
    refine ⟨since.known, fun buffer member => since.queued buffer (List.mem_of_mem_tail member), fun buffer member => ?_⟩
    rcases List.mem_append.mp member with before | next
    · exact since.writing buffer before
    · exact since.queued buffer (List.mem_of_mem_tail (List.mem_of_mem_take next))
  failed connection since := accepted_since_stop earlier _ ⟨since.known, since.queued, since.writing⟩

theorem accepted_since_step (earlier : Nat) (process next : Process WatchedClient) (event : ClientEvent)
    (since : AcceptedSince earlier process.world.host) (taken : clientStep process event = some next) :
    AcceptedSince earlier next.world.host :=
  client_step_keeps (AcceptedSince earlier) (handlers_accepted_since earlier) (calls_accepted_since earlier)
    (accepted_since_ended earlier) process next event since taken

theorem from_accepted_run (events : List ClientEvent) (final : Process WatchedClient)
    (reached : Transition.run clientStep freshClient events = some final) : FromAccepted final.world.host := by
  have since : AcceptedSince 0 final.world.host :=
    Transition.run_keeps clientStep (fun process => AcceptedSince 0 process.world.host)
      (fun process event next sofar taken => accepted_since_step 0 process next event sofar taken)
      events freshClient final ⟨Nat.zero_le _, by simp [freshClient, create], by simp [freshClient, create]⟩ reached
  exact ⟨since.queued, since.writing⟩

end NetworkWrapper
