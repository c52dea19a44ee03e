import NetworkWrapper.SendQueue

set_option autoImplicit false

-- The wasm client over the browser's sockets.
namespace NetworkWrapper.Wasm

-- Zero is success.
abbrev EmscriptenResult := Int

-- wsSocket is the handle of the socket created last, if it could be created.
structure WebSocketConnection where
  isConnected : Bool
  wsSocket : Option Nat
deriving DecidableEq, Repr

inductive SocketPhase where
  | connecting
  | opened
  | failed
  | closed
deriving DecidableEq, Repr

-- A handle is the position in the list of all sockets created. disconnected says
-- that emscripten_websocket_close() was called, since it opened if it has.
structure Socket where
  url : String
  phase : SocketPhase
  disconnected : Bool
deriving DecidableEq, Repr

inductive SocketEvent where
  | opened
  | message (data : Bytes)
  | error
  | closed (reason : String)
deriving DecidableEq, Repr

-- A socket opens at most once, its close event is its last one. Messages may
-- still come in after emscripten_websocket_close(), until the close event.
def SocketPhase.after : SocketPhase → SocketEvent → Option SocketPhase
  | .connecting, .opened => some .opened
  | .opened, .message _ => some .opened
  | .connecting, .error => some .failed
  | .opened, .error => some .failed
  | .connecting, .closed _ => some .closed
  | .opened, .closed _ => some .closed
  | .failed, .closed _ => some .closed
  | _, _ => none

def Socket.deliver (socket : Socket) (event : SocketEvent) : Option Socket :=
  (socket.phase.after event).map fun phase =>
    { socket with phase := phase, disconnected := if event = .opened then false else socket.disconnected }

structure Callbacks (App : Type) where
  onOpen : Option (App → App)
  onError : Option (String → App → App)
  onClose : Option (String → App → App)
  onMessage : Option (Bytes → App → App)

structure World (App : Type) where
  connection : WebSocketConnection
  app : App

variable {App : Type}

def onOpen (callbacks : Callbacks App) (world : World App) : World App :=
  { connection := { world.connection with isConnected := true }
    app := match callbacks.onOpen with
      | none => world.app
      | some onOpen => onOpen world.app }

def onError (callbacks : Callbacks App) (world : World App) : World App :=
  { connection := { world.connection with isConnected := false }
    app := match callbacks.onError with
      | none => world.app
      | some onError => onError "unkown error" world.app }

def onClose (callbacks : Callbacks App) (reason : String) (world : World App) : World App :=
  { connection := { world.connection with isConnected := false }
    app := match callbacks.onClose with
      | none => world.app
      | some onClose => onClose reason world.app }

def onMessage (callbacks : Callbacks App) (data : Bytes) (world : World App) : World App :=
  { world with app := match callbacks.onMessage with
      | none => world.app
      | some onMessage => onMessage data world.app }

-- The event reaches the object through its userData pointer, whichever socket it
-- comes from.
def handle (callbacks : Callbacks App) (world : World App) : SocketEvent → World App
  | .opened => onOpen callbacks world
  | .message data => onMessage callbacks data world
  | .error => onError callbacks world
  | .closed reason => onClose callbacks reason world

inductive Callback where
  | onOpen
  | onError (message : String)
  | onClose (reason : String)
  | onMessage (payload : Bytes)
deriving DecidableEq, Repr

def watching : Callbacks (List Callback) where
  onOpen := some fun log => log ++ [.onOpen]
  onError := some fun message log => log ++ [.onError message]
  onClose := some fun reason log => log ++ [.onClose reason]
  onMessage := some fun payload log => log ++ [.onMessage payload]

def sendUtf8Text (connection : WebSocketConnection) (result : EmscriptenResult) : Bool :=
  if connection.isConnected = false then false else if result ≠ 0 then false else true

def sendBinary (connection : WebSocketConnection) (result : EmscriptenResult) : Bool :=
  if connection.isConnected = false then false else if result ≠ 0 then false else true

-- A callback that was invoked: the socket the event came from, and whether it was
-- the one in wsSocket.
structure Heard where
  socket : Nat
  current : Bool
  callback : Callback
deriving DecidableEq, Repr

-- handledLate says that an event was handled on the destroyed object.
structure Client where
  connection : WebSocketConnection
  sockets : List Socket
  heard : List Heard
  destroyed : Bool
  handledLate : Bool
deriving DecidableEq, Repr

namespace Client

def create : Client :=
  { connection := { isConnected := false, wsSocket := none }, sockets := [], heard := [], destroyed := false,
    handledLate := false }

def closeSocket (client : Client) : List Socket :=
  match client.connection.wsSocket with
  | none => client.sockets
  | some handle => client.sockets.modify handle fun socket => { socket with disconnected := true }

def disconnect (client : Client) : Client :=
  if client.connection.isConnected = false then client
  else { client with
    sockets := client.closeSocket
    connection := { client.connection with isConnected := false } }

-- Without success of emscripten_websocket_new() there is no socket to hear of.
def connect (client : Client) (inHost inPort : String) (created : Bool) : Client :=
  let client := if client.connection.isConnected then client.disconnect else client
  if created then
    { client with
      sockets := client.sockets ++
        [{ url := "ws://" ++ inHost ++ ":" ++ inPort ++ "/", phase := .connecting, disconnected := false }]
      connection := { client.connection with wsSocket := some client.sockets.length } }
  else { client with connection := { client.connection with wsSocket := none } }

def destroy (client : Client) : Client := { client.disconnect with destroyed := true }

def deliver (client : Client) (handle : Nat) (event : SocketEvent) : Option Client :=
  match client.sockets[handle]? with
  | none => none
  | some socket =>
      (socket.deliver event).map fun socket =>
        if client.destroyed then { client with sockets := client.sockets.set handle socket, handledLate := true }
        else
          let world := Wasm.handle watching { connection := client.connection, app := [] } event
          { client with
            connection := world.connection
            sockets := client.sockets.set handle socket
            heard := client.heard ++ world.app.map fun callback =>
              { socket := handle, current := client.connection.wsSocket = some handle, callback := callback } }

end Client

-- A callback is the last thing a handler does, so what it calls comes after it.
inductive Event where
  | connect (inHost inPort : String) (created : Bool)
  | disconnect
  | send (result : EmscriptenResult)
  | destroy
  | delivered (handle : Nat) (event : SocketEvent)
deriving DecidableEq, Repr

def step (client : Client) : Event → Option Client
  | .connect inHost inPort created => if client.destroyed then none else some (client.connect inHost inPort created)
  | .disconnect => if client.destroyed then none else some client.disconnect
  | .send _ => if client.destroyed then none else some client
  | .destroy => if client.destroyed then none else some client.destroy
  | .delivered handle event => client.deliver handle event

end NetworkWrapper.Wasm
