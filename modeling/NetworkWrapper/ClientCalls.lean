import NetworkWrapper.Client

set_option autoImplicit false

-- User callbacks of the native client that call its public methods, and what a
-- handler keeps whatever its callback does. Handlers that run after the
-- io_context was stopped are not excluded.
namespace NetworkWrapper

open WebSocketConnection

inductive ClientCall where
  | sendUtf8Text (inText : Bytes)
  | sendBinary (inData : Bytes)
  | disconnect (closeError : ErrorCode)
  | connect (ipAddress port : String) (closeError : ErrorCode)
  | isConnected
deriving DecidableEq, Repr

def ClientCall.perform (connection : WebSocketConnection) : ClientCall → Outcome WebSocketConnection
  | .sendUtf8Text inText => (connection.sendUtf8Text inText).2
  | .sendBinary inData => (connection.sendBinary inData).2
  | .disconnect closeError => connection.disconnect closeError
  | .connect ipAddress port closeError => connection.connect ipAddress port closeError
  | .isConnected => .returned connection

theorem send_connected (connection : WebSocketConnection) (inData : Bytes) :
    (connection.sendBinary inData).2.world.isConnected = connection.isConnected := by
  by_cases connected : connection.isConnected = true
  · by_cases empty : inData = []
    · simp [sendBinary, connected, empty, locked_send_empty]
    · simp [sendBinary, connected, locked_send_nonempty connection inData empty]
  · simp [sendBinary, connected]

theorem stop_connected (connection : WebSocketConnection) : connection.stop.isConnected = false := by
  by_cases connected : connection.isConnected = true
  · simp [stop, connected]
  · simp [stop, connected]

structure CallRule (holds : WebSocketConnection → Prop) : Prop where
  stopped : ∀ connection, holds connection → holds connection.stop
  sent : ∀ connection inData, connection.isConnected = true → inData ≠ [] → holds connection →
    holds (connection.lockedSend inData).world
  addressed : ∀ connection ipAddress port, holds connection →
    holds { connection with ipAddress := ipAddress, port := port }
  resolving : ∀ connection, holds connection → holds connection.asyncResolve

theorem send_keeps (holds : WebSocketConnection → Prop) (rule : CallRule holds) (connection : WebSocketConnection)
    (inData : Bytes) (start : holds connection) : holds (connection.sendBinary inData).2.world := by
  by_cases connected : connection.isConnected = true
  · rw [sendBinary, if_pos connected]
    by_cases empty : inData = []
    · rw [empty, locked_send_empty]
      exact start
    · exact rule.sent connection inData connected empty start
  · rw [sendBinary, if_neg connected]
    exact start

theorem begin_connect_keeps (holds : WebSocketConnection → Prop) (rule : CallRule holds)
    (connection : WebSocketConnection) (ipAddress port : String) (closeError : ErrorCode) (start : holds connection) :
    holds (connection.beginConnect ipAddress port closeError).world := by
  refine Outcome.and_then_keeps holds _ _ ?_ fun later sofar => rule.addressed later ipAddress port sofar
  rw [disconnect_world]
  exact rule.stopped connection start

theorem perform_keeps (holds : WebSocketConnection → Prop) (rule : CallRule holds) (call : ClientCall)
    (connection : WebSocketConnection) (start : holds connection) : holds (call.perform connection).world := by
  cases call with
  | sendUtf8Text inText => exact send_keeps holds rule connection _ start
  | sendBinary inData => exact send_keeps holds rule connection inData start
  | disconnect closeError =>
      rw [ClientCall.perform, disconnect_world]
      exact rule.stopped connection start
  | connect ipAddress port closeError =>
      exact Outcome.and_then_keeps holds _ _ (begin_connect_keeps holds rule connection ipAddress port closeError start)
        rule.resolving
  | isConnected => exact start

theorem calls_stay_apart : CallRule fun connection => connection.isConnected = false where
  stopped connection _ := stop_connected connection
  sent connection _ connected _ apart := absurd (connected.symm.trans apart) (by simp)
  addressed _ _ _ apart := apart
  resolving _ apart := apart

variable {App : Type}

-- note records a call in the ghost state when it begins.
def performCall (note : ClientCall → WebSocketConnection → App → App) (call : ClientCall) (world : ClientWorld App) :
    Outcome (ClientWorld App) :=
  (call.perform world.host).map fun connection => { host := connection, app := note call world.host world.app }

def performCalls (note : ClientCall → WebSocketConnection → App → App) :
    List ClientCall → ClientWorld App → Outcome (ClientWorld App)
  | [], world => .returned world
  | call :: rest, world => (performCall note call world).andThen (performCalls note rest)

-- A handler invokes at most one callback, so one list of calls is enough.
def calling (note : ClientCall → WebSocketConnection → App → App) (calls : List ClientCall) : ClientCallbacks App where
  onOpen := some (performCalls note calls)
  onError := some fun _ => performCalls note calls
  onMessage := some fun _ => performCalls note calls

def answering (calls : List ClientCall) : ClientCallbacks (List ClientCallback) where
  onOpen := some fun world => (noteClient .onOpen world).andThen (performCalls (fun _ _ log => log) calls)
  onError := some fun message world =>
    (noteClient (.onError message) world).andThen (performCalls (fun _ _ log => log) calls)
  onMessage := some fun payload world =>
    (noteClient (.onMessage payload) world).andThen (performCalls (fun _ _ log => log) calls)

theorem perform_calls_keeps (note : ClientCall → WebSocketConnection → App → App) (holds : ClientWorld App → Prop)
    (kept : ∀ call world, holds world → holds (performCall note call world).world) (calls : List ClientCall)
    (world : ClientWorld App) (start : holds world) : holds (performCalls note calls world).world := by
  induction calls generalizing world with
  | nil => exact start
  | cons call rest ih =>
      exact Outcome.and_then_keeps holds _ _ (kept call world start) fun later sofar => ih later sofar

def endOperation (connection : WebSocketConnection) : ClientCompletion → WebSocketConnection
  | .resolved _ => { connection with pendingResolves := connection.pendingResolves - 1 }
  | .connected _ => { connection with pendingConnects := connection.pendingConnects - 1 }
  | .handshaken _ => { connection with pendingHandshakes := connection.pendingHandshakes - 1 }
  | .received _ message => { connection with
      pendingReads := connection.pendingReads - 1
      readBuffer := connection.readBuffer ++ message }
  | .wrote index _ => { connection with pendingWrites := connection.pendingWrites.eraseIdx index }

structure HandlerRule (holds : WebSocketConnection → Prop) : Prop where
  connectStarted : ∀ connection, holds connection → holds connection.asyncConnect
  handshakeStarted : ∀ connection, holds connection → holds connection.asyncHandshake
  opened : ∀ connection, holds connection → holds { connection with isConnected := true }.doRead
  readAgain : ∀ connection, holds connection → holds { connection with readBuffer := [] }.doRead
  cleared : ∀ connection, holds connection → holds { connection with buffersToSend := [] }
  popped : ∀ connection, holds connection → holds connection.popAndContinue.world
  failed : ∀ connection, holds connection → holds { connection with isConnected := false }.stop

structure CallbacksKeep (callbacks : ClientCallbacks App) (holds : WebSocketConnection → Prop) : Prop where
  onOpen : ∀ action, callbacks.onOpen = some action → ∀ world, holds world.host → holds (action world).world.host
  onError : ∀ action, callbacks.onError = some action → ∀ message world, holds world.host →
    holds (action message world).world.host
  onMessage : ∀ action, callbacks.onMessage = some action → ∀ payload world, holds world.host →
    holds (action payload world).world.host

theorem failed_keeps (callbacks : ClientCallbacks App) (holds : WebSocketConnection → Prop) (rule : HandlerRule holds)
    (kept : CallbacksKeep callbacks holds) (what : String) (world : ClientWorld App) (start : holds world.host) :
    holds (failed callbacks what world).world.host := by
  refine Outcome.and_then_keeps (fun world : ClientWorld App => holds world.host) _ _ ?_ fun later sofar => rule.failed later.host sofar
  cases given : callbacks.onError with
  | none => exact start
  | some onError => exact kept.onError onError given what world start

theorem on_read_keeps (callbacks : ClientCallbacks App) (holds : WebSocketConnection → Prop) (rule : HandlerRule holds)
    (kept : CallbacksKeep callbacks holds) (ec : ErrorCode) (world : ClientWorld App) (start : holds world.host) :
    holds (onRead callbacks ec world).world.host := by
  by_cases apart : world.host.isConnected = false
  · simpa only [onRead, if_pos apart, Outcome.world_returned] using start
  · cases ec with
    | some what =>
        simp only [onRead, if_neg apart]
        exact failed_keeps callbacks holds rule kept what world start
    | none =>
        simp only [onRead, if_neg apart]
        refine Outcome.and_then_keeps (fun world : ClientWorld App => holds world.host) _ _ ?_ fun later sofar =>
          rule.readAgain later.host sofar
        cases given : callbacks.onMessage with
        | none => exact start
        | some onMessage => exact kept.onMessage onMessage given _ world start

theorem on_write_keeps (callbacks : ClientCallbacks App) (holds : WebSocketConnection → Prop) (rule : HandlerRule holds)
    (kept : CallbacksKeep callbacks holds) (ec : ErrorCode) (world : ClientWorld App) (start : holds world.host) :
    holds (onWrite callbacks ec world).world.host := by
  by_cases apart : world.host.isConnected = false
  · simpa only [onWrite, if_pos apart, Outcome.world_returned] using rule.cleared world.host start
  · cases ec with
    | some what =>
        simp only [onWrite, if_neg apart]
        exact failed_keeps callbacks holds rule kept what world start
    | none =>
        simp only [onWrite, if_neg apart, Outcome.map_world]
        exact rule.popped world.host start

theorem complete_keeps (callbacks : ClientCallbacks App) (holds : WebSocketConnection → Prop) (rule : HandlerRule holds)
    (kept : CallbacksKeep callbacks holds) (world : ClientWorld App) (completion : ClientCompletion)
    (outcome : Outcome (ClientWorld App)) (ended : holds (endOperation world.host completion))
    (taken : complete callbacks world completion = some outcome) : holds outcome.world.host := by
  cases completion with
  | resolved ec =>
      obtain ⟨_, rfl⟩ := (complete_resolved _ _ _ _).mp taken
      cases ec with
      | some what => exact failed_keeps callbacks holds rule kept what _ ended
      | none => exact rule.connectStarted _ ended
  | connected ec =>
      obtain ⟨_, rfl⟩ := (complete_connected _ _ _ _).mp taken
      cases ec with
      | some what => exact failed_keeps callbacks holds rule kept what _ ended
      | none => exact rule.handshakeStarted _ ended
  | handshaken ec =>
      obtain ⟨_, rfl⟩ := (complete_handshaken _ _ _ _).mp taken
      cases ec with
      | some what => exact failed_keeps callbacks holds rule kept what _ ended
      | none =>
          have opened := rule.opened _ ended
          simp only [onHandshake]
          cases given : callbacks.onOpen with
          | none => exact opened
          | some onOpen => exact kept.onOpen onOpen given _ opened
  | received ec message =>
      obtain ⟨_, rfl⟩ := (complete_received _ _ _ _ _).mp taken
      exact on_read_keeps callbacks holds rule kept ec _ ended
  | wrote index ec =>
      obtain ⟨_, rfl⟩ := (complete_wrote _ _ _ _ _).mp taken
      exact on_write_keeps callbacks holds rule kept ec _ ended

theorem watching_keeps (holds : WebSocketConnection → Prop) : CallbacksKeep watching holds := by
  refine ⟨?_, ?_, ?_⟩
  · rintro _ ⟨⟩ world start
    exact start
  · rintro _ ⟨⟩ message world start
    exact start
  · rintro _ ⟨⟩ payload world start
    exact start

theorem answering_keeps (holds : WebSocketConnection → Prop) (rule : CallRule holds) (calls : List ClientCall) :
    CallbacksKeep (answering calls) holds := by
  have performed (world : WatchedClient) (start : holds world.host) :
      holds (performCalls (fun _ _ log => log) calls world).world.host := by
    refine perform_calls_keeps _ (fun world => holds world.host) (fun call world sofar => ?_) calls world start
    rw [performCall, Outcome.map_world]
    exact perform_keeps holds rule call world.host sofar
  refine ⟨?_, ?_, ?_⟩
  · rintro _ ⟨⟩ world start
    exact performed _ start
  · rintro _ ⟨⟩ message world start
    exact performed _ start
  · rintro _ ⟨⟩ payload world start
    exact performed _ start

end NetworkWrapper
