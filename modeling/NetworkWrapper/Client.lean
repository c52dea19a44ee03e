import NetworkWrapper.Session

set_option autoImplicit false

namespace NetworkWrapper

-- The native client. The resolver and the stream are represented by the
-- operations outstanding on them, the io_context by its stopped flag. accepted
-- is ghost state: what sendBinary has taken, in the order of the calls.
structure WebSocketConnection where
  isConnected : Bool
  stopped : Bool
  readBuffer : Bytes
  ipAddress : String
  port : String
  buffersToSend : List SendBuffer
  pendingResolves : Nat
  pendingConnects : Nat
  pendingHandshakes : Nat
  pendingReads : Nat
  pendingWrites : List SendBuffer
  accepted : List Bytes
deriving DecidableEq

namespace WebSocketConnection

def create : WebSocketConnection :=
  { isConnected := false, stopped := false, readBuffer := [], ipAddress := "", port := "", buffersToSend := [],
    pendingResolves := 0, pendingConnects := 0, pendingHandshakes := 0, pendingReads := 0, pendingWrites := [],
    accepted := [] }

def stop (connection : WebSocketConnection) : WebSocketConnection :=
  if connection.isConnected then { connection with isConnected := false, stopped := true } else connection

-- closeError is the result of the close handshake: _ws.close() throws it.
def disconnect (connection : WebSocketConnection) (closeError : ErrorCode) : Outcome WebSocketConnection :=
  if connection.isConnected then
    match closeError with
    | none => .returned connection.stop
    | some what => .threw what connection.stop
  else .returned connection

-- connect() up to the point where it hands the run task to the worker thread.
def beginConnect (connection : WebSocketConnection) (ipAddress port : String) (closeError : ErrorCode) :
    Outcome WebSocketConnection :=
  (connection.disconnect closeError).andThen fun connection =>
    .returned { connection with ipAddress := ipAddress, port := port }

def asyncResolve (connection : WebSocketConnection) : WebSocketConnection :=
  { connection with pendingResolves := connection.pendingResolves + 1 }

-- handing over the run task comes in between, see the worker thread
def connect (connection : WebSocketConnection) (ipAddress port : String) (closeError : ErrorCode) :
    Outcome WebSocketConnection :=
  (connection.beginConnect ipAddress port closeError).andThen fun connection => .returned connection.asyncResolve

def asyncConnect (connection : WebSocketConnection) : WebSocketConnection :=
  { connection with pendingConnects := connection.pendingConnects + 1 }

def asyncHandshake (connection : WebSocketConnection) : WebSocketConnection :=
  { connection with pendingHandshakes := connection.pendingHandshakes + 1 }

def doRead (connection : WebSocketConnection) : WebSocketConnection :=
  { connection with pendingReads := connection.pendingReads + 1 }

def asyncWrite (connection : WebSocketConnection) (buffer : SendBuffer) : WebSocketConnection :=
  { connection with pendingWrites := connection.pendingWrites ++ [buffer] }

-- front() of an empty std::list is undefined.
def doWrite (connection : WebSocketConnection) : Outcome WebSocketConnection :=
  match connection.buffersToSend with
  | [] => .undefined connection
  | buffer :: _ => .returned (connection.asyncWrite buffer)

-- What sendBinary does while it holds _atomicLock.
def lockedSend (connection : WebSocketConnection) (inData : Bytes) : Outcome WebSocketConnection :=
  let wasEmpty := connection.buffersToSend.isEmpty
  match SendBuffer.create inData with
  | .error what => .threw what connection
  | .ok buffer =>
      let queued := { connection with
        buffersToSend := connection.buffersToSend ++ [buffer]
        accepted := connection.accepted ++ [inData] }
      if wasEmpty = true then queued.doWrite else .returned queued

-- The boolean is what the call returns if it returns.
def sendBinary (connection : WebSocketConnection) (inData : Bytes) : Bool × Outcome WebSocketConnection :=
  if connection.isConnected then (true, connection.lockedSend inData) else (false, .returned connection)

-- strlen: up to the first NUL.
def sendUtf8Text (connection : WebSocketConnection) (inText : Bytes) : Bool × Outcome WebSocketConnection :=
  connection.sendBinary (inText.takeWhile (· ≠ 0))

-- _onWrite after its test of _isConnected, without an error.
def popAndContinue (connection : WebSocketConnection) : Outcome WebSocketConnection :=
  match connection.buffersToSend with
  | [] => .returned connection
  | _ :: rest =>
      let shorter := { connection with buffersToSend := rest }
      if rest.isEmpty = false then shorter.doWrite else .returned shorter

theorem disconnect_world (connection : WebSocketConnection) (closeError : ErrorCode) :
    (connection.disconnect closeError).world = connection.stop := by
  by_cases connected : connection.isConnected = true
  · cases closeError <;> simp [disconnect, connected]
  · simp [disconnect, stop, connected]

theorem locked_send_empty (connection : WebSocketConnection) :
    connection.lockedSend [] = .threw emptySendBuffer connection := by
  simp [lockedSend, SendBuffer.create]

theorem locked_send_nonempty (connection : WebSocketConnection) (inData : Bytes) (given : inData ≠ []) :
    connection.lockedSend inData = .returned { connection with
      buffersToSend := connection.buffersToSend ++ [⟨inData, given⟩]
      pendingWrites := connection.pendingWrites ++
        if connection.buffersToSend = [] then [⟨inData, given⟩] else []
      accepted := connection.accepted ++ [inData] } := by
  simp only [lockedSend, send_buffer_created inData given]
  cases buffers : connection.buffersToSend with
  | nil => simp [doWrite, asyncWrite]
  | cons front rest => simp

theorem pop_queued (connection : WebSocketConnection) : connection.popAndContinue = .returned { connection with
    buffersToSend := connection.buffersToSend.tail
    pendingWrites := connection.pendingWrites ++ connection.buffersToSend.tail.take 1 } := by
  cases connection with
  | mk isConnected stopped readBuffer ipAddress port buffersToSend resolves connects handshakes reads writes accepted =>
      cases buffersToSend with
      | nil => simp [popAndContinue]
      | cons front rest => cases rest <;> simp [popAndContinue, doWrite, asyncWrite]

end WebSocketConnection

abbrev ClientWorld (App : Type) := World WebSocketConnection App

-- _onCloseCallback is stored and never called.
structure ClientCallbacks (App : Type) where
  onOpen : Option (ClientWorld App → Outcome (ClientWorld App))
  onError : Option (String → ClientWorld App → Outcome (ClientWorld App))
  onMessage : Option (Bytes → ClientWorld App → Outcome (ClientWorld App))

namespace WebSocketConnection

variable {App : Type}

def failed (callbacks : ClientCallbacks App) (what : String) (world : ClientWorld App) : Outcome (ClientWorld App) :=
  let reported : Outcome (ClientWorld App) := match callbacks.onError with
    | none => .returned world
    | some onError => onError what world
  -- _isConnected is cleared first, so _stop() finds nothing to stop
  reported.andThen fun world => .returned { world with host := { world.host with isConnected := false }.stop }

def onResolve (callbacks : ClientCallbacks App) (ec : ErrorCode) (world : ClientWorld App) : Outcome (ClientWorld App) :=
  match ec with
  | some what => failed callbacks what world
  | none => .returned { world with host := world.host.asyncConnect }

def onConnect (callbacks : ClientCallbacks App) (ec : ErrorCode) (world : ClientWorld App) : Outcome (ClientWorld App) :=
  match ec with
  | some what => failed callbacks what world
  | none => .returned { world with host := world.host.asyncHandshake }

def onHandshake (callbacks : ClientCallbacks App) (ec : ErrorCode) (world : ClientWorld App) :
    Outcome (ClientWorld App) :=
  match ec with
  | some what => failed callbacks what world
  | none =>
      let opened := { world with host := { world.host with isConnected := true }.doRead }
      match callbacks.onOpen with
      | none => .returned opened
      | some onOpen => onOpen opened

def onRead (callbacks : ClientCallbacks App) (ec : ErrorCode) (world : ClientWorld App) : Outcome (ClientWorld App) :=
  if world.host.isConnected = false then .returned world
  else match ec with
  | some what => failed callbacks what world
  | none =>
      let handled : Outcome (ClientWorld App) := match callbacks.onMessage with
        | none => .returned world
        | some onMessage => onMessage world.host.readBuffer world
      handled.andThen fun world => .returned { world with host := { world.host with readBuffer := [] }.doRead }

def onWrite (callbacks : ClientCallbacks App) (ec : ErrorCode) (world : ClientWorld App) : Outcome (ClientWorld App) :=
  if world.host.isConnected = false then .returned { world with host := { world.host with buffersToSend := [] } }
  else match ec with
  | some what => failed callbacks what world
  | none => world.host.popAndContinue.map fun connection => { world with host := connection }

inductive ClientCompletion where
  | resolved (ec : ErrorCode)
  | connected (ec : ErrorCode)
  | handshaken (ec : ErrorCode)
  | received (ec : ErrorCode) (message : Bytes)
  | wrote (index : Nat) (ec : ErrorCode)
deriving DecidableEq, Repr

def complete (callbacks : ClientCallbacks App) (world : ClientWorld App) :
    ClientCompletion → Option (Outcome (ClientWorld App))
  | .resolved ec =>
      let connection := world.host
      if 0 < connection.pendingResolves then
        some (onResolve callbacks ec
          { world with host := { connection with pendingResolves := connection.pendingResolves - 1 } })
      else none
  | .connected ec =>
      let connection := world.host
      if 0 < connection.pendingConnects then
        some (onConnect callbacks ec
          { world with host := { connection with pendingConnects := connection.pendingConnects - 1 } })
      else none
  | .handshaken ec =>
      let connection := world.host
      if 0 < connection.pendingHandshakes then
        some (onHandshake callbacks ec
          { world with host := { connection with pendingHandshakes := connection.pendingHandshakes - 1 } })
      else none
  | .received ec message =>
      let connection := world.host
      if 0 < connection.pendingReads ∧ connection.readBuffer.length + message.length ≤ readBufferLimit then
        some (onRead callbacks ec { world with host := { connection with
          pendingReads := connection.pendingReads - 1
          readBuffer := connection.readBuffer ++ message } })
      else none
  | .wrote index ec =>
      let connection := world.host
      if index < connection.pendingWrites.length then
        some (onWrite callbacks ec
          { world with host := { connection with pendingWrites := connection.pendingWrites.eraseIdx index } })
      else none

theorem complete_resolved (callbacks : ClientCallbacks App) (world : ClientWorld App) (ec : ErrorCode)
    (outcome : Outcome (ClientWorld App)) :
    complete callbacks world (.resolved ec) = some outcome ↔
      0 < world.host.pendingResolves ∧
        onResolve callbacks ec { world with host := { world.host with
          pendingResolves := world.host.pendingResolves - 1 } } = outcome := by
  simp only [complete, Option.ite_none_right_eq_some, Option.some.injEq]

theorem complete_connected (callbacks : ClientCallbacks App) (world : ClientWorld App) (ec : ErrorCode)
    (outcome : Outcome (ClientWorld App)) :
    complete callbacks world (.connected ec) = some outcome ↔
      0 < world.host.pendingConnects ∧
        onConnect callbacks ec { world with host := { world.host with
          pendingConnects := world.host.pendingConnects - 1 } } = outcome := by
  simp only [complete, Option.ite_none_right_eq_some, Option.some.injEq]

theorem complete_handshaken (callbacks : ClientCallbacks App) (world : ClientWorld App) (ec : ErrorCode)
    (outcome : Outcome (ClientWorld App)) :
    complete callbacks world (.handshaken ec) = some outcome ↔
      0 < world.host.pendingHandshakes ∧
        onHandshake callbacks ec { world with host := { world.host with
          pendingHandshakes := world.host.pendingHandshakes - 1 } } = outcome := by
  simp only [complete, Option.ite_none_right_eq_some, Option.some.injEq]

theorem complete_received (callbacks : ClientCallbacks App) (world : ClientWorld App) (ec : ErrorCode)
    (message : Bytes) (outcome : Outcome (ClientWorld App)) :
    complete callbacks world (.received ec message) = some outcome ↔
      (0 < world.host.pendingReads ∧ world.host.readBuffer.length + message.length ≤ readBufferLimit) ∧
        onRead callbacks ec { world with host := { world.host with
          pendingReads := world.host.pendingReads - 1
          readBuffer := world.host.readBuffer ++ message } } = outcome := by
  simp only [complete, Option.ite_none_right_eq_some, Option.some.injEq]

theorem complete_wrote (callbacks : ClientCallbacks App) (world : ClientWorld App) (index : Nat) (ec : ErrorCode)
    (outcome : Outcome (ClientWorld App)) :
    complete callbacks world (.wrote index ec) = some outcome ↔
      index < world.host.pendingWrites.length ∧
        onWrite callbacks ec { world with host := { world.host with
          pendingWrites := world.host.pendingWrites.eraseIdx index } } = outcome := by
  simp only [complete, Option.ite_none_right_eq_some, Option.some.injEq]

end WebSocketConnection

inductive ClientCallback where
  | onOpen
  | onError (message : String)
  | onMessage (payload : Bytes)
deriving DecidableEq, Repr

abbrev WatchedClient := ClientWorld (List ClientCallback)

def noteClient (callback : ClientCallback) (world : WatchedClient) : Outcome WatchedClient :=
  .returned { world with app := world.app ++ [callback] }

def watching : ClientCallbacks (List ClientCallback) where
  onOpen := some (noteClient .onOpen)
  onError := some fun message => noteClient (.onError message)
  onMessage := some fun payload => noteClient (.onMessage payload)

theorem failed_watching (what : String) (world : WatchedClient) :
    WebSocketConnection.failed watching what world =
      .returned ⟨{ world.host with isConnected := false }, world.app ++ [.onError what]⟩ := by
  simp [WebSocketConnection.failed, watching, noteClient, WebSocketConnection.stop]

end NetworkWrapper
