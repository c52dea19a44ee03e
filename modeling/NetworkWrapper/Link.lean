import NetworkWrapper.ClientRuns
import NetworkWrapper.SessionCallbacks

set_option autoImplicit false

-- One established connection: a native client, a session of a single-threaded
-- server, and the stream between them. The server goes on serving other sessions.
namespace NetworkWrapper

-- One end of the connection. incoming holds the messages on their way to it,
-- sent counts the outstanding async_writes, from the front, that have put their
-- message on the wire, and broken says that an operation of this end has failed.
structure Endpoint (Host : Type) where
  process : Process Host
  incoming : List Bytes
  sent : Nat
  broken : Bool

inductive StreamResult where
  | received (ec : ErrorCode) (message : Bytes)
  | wrote (index : Nat) (ec : ErrorCode)
  | other (ec : ErrorCode)
deriving DecidableEq, Repr

-- A read takes exactly the next message, a write succeeds once its message is on
-- the wire, and after a failure nothing succeeds any more.
def Endpoint.completes {Host : Type} (endpoint : Endpoint Host) : StreamResult → Option (Endpoint Host)
  | .received none message =>
      match endpoint.broken, endpoint.incoming with
      | false, next :: rest => if next = message then some { endpoint with incoming := rest } else none
      | _, _ => none
  | .wrote index none =>
      if endpoint.broken = false ∧ index < endpoint.sent then some { endpoint with sent := endpoint.sent - 1 } else none
  | .other none => if endpoint.broken = false then some endpoint else none
  | .received (some _) _ => some { endpoint with broken := true }
  | .wrote index (some _) =>
      some { endpoint with sent := if index < endpoint.sent then endpoint.sent - 1 else endpoint.sent, broken := true }
  | .other (some _) => some { endpoint with broken := true }

theorem completes_received {Host : Type} (endpoint after : Endpoint Host) (message : Bytes)
    (allowed : endpoint.completes (.received none message) = some after) :
    ∃ rest, endpoint.incoming = message :: rest ∧ endpoint.broken = false ∧ after = { endpoint with incoming := rest } := by
  cases state : endpoint.broken with
  | true => simp [Endpoint.completes, state] at allowed
  | false =>
      cases arrives : endpoint.incoming with
      | nil => simp [Endpoint.completes, state, arrives] at allowed
      | cons next rest =>
          simp only [Endpoint.completes, state, arrives, Option.ite_none_right_eq_some, Option.some.injEq] at allowed
          obtain ⟨rfl, rfl⟩ := allowed
          exact ⟨rest, rfl, rfl, rfl⟩

theorem completes_wrote {Host : Type} (endpoint after : Endpoint Host) (index : Nat)
    (allowed : endpoint.completes (.wrote index none) = some after) :
    (endpoint.broken = false ∧ index < endpoint.sent) ∧ after = { endpoint with sent := endpoint.sent - 1 } := by
  simp only [Endpoint.completes, Option.ite_none_right_eq_some, Option.some.injEq] at allowed
  exact ⟨allowed.1, allowed.2.symm⟩

theorem completes_other {Host : Type} (endpoint after : Endpoint Host)
    (allowed : endpoint.completes (.other none) = some after) : endpoint.broken = false ∧ after = endpoint := by
  simp only [Endpoint.completes, Option.ite_none_right_eq_some, Option.some.injEq] at allowed
  exact ⟨allowed.1, allowed.2.symm⟩

def clientResult : WebSocketConnection.ClientCompletion → StreamResult
  | .received ec message => .received ec message
  | .wrote index ec => .wrote index ec
  | .resolved ec => .other ec
  | .connected ec => .other ec
  | .handshaken ec => .other ec

def sessionResult : WebSocketSession.Completion → StreamResult
  | .received ec message => .received ec message
  | .wrote index ec => .wrote index ec
  | .accepted ec => .other ec
  | .ran => .other none

-- sending holds the payloads of the threads that are in sendBinary between the
-- test of _isConnected and the lock. A callback of the client that sends is one
-- more such thread: sendBinary and the rest of the handler share nothing.
structure Link where
  client : Endpoint WatchedClient
  server : Endpoint Watched
  sending : List Bytes

inductive LinkEvent where
  | sendChecked (inData : Bytes)
  | sendLocked (index : Nat)
  | clientCompleted (completion : WebSocketConnection.ClientCompletion)
  | clientTransmits
  | clientOverlaps (incoming : List Bytes)
  | serverSteps (event : SessionEvent)
  | serverTransmits
  | serverOverlaps (incoming : List Bytes)
deriving DecidableEq, Repr

section

variable (self : SessionId)

def Link.connection (link : Link) : WebSocketConnection := link.client.process.world.host

def Link.session (link : Link) : WebSocketSession := link.server.process.world.host self

-- The server's sessions are all without strands, and this one is open already.
def linkServerStep (link : Link) (event : SessionEvent) : Option (Endpoint Watched) :=
  match event with
  | .opened other useBoostStrands =>
      if other ≠ self ∧ useBoostStrands = false then
        (sessionStep link.server.process event).map fun process => { link.server with process := process }
      else none
  | .completed other completion _ =>
      if other = self then
        (link.server.completes (sessionResult completion)).bind fun endpoint =>
          (sessionStep link.server.process event).map fun process => { endpoint with process := process }
      else (sessionStep link.server.process event).map fun process => { link.server with process := process }
  | .called _ => (sessionStep link.server.process event).map fun process => { link.server with process := process }

-- Writes that overlap are not promised anything: the far end may get whatever.
def linkStep (link : Link) (event : LinkEvent) : Option Link :=
  match event with
  | .sendChecked inData =>
      if link.client.process.ending = .running ∧ link.connection.isConnected = true then
        some { link with sending := link.sending ++ [inData] }
      else none
  | .sendLocked index =>
      match link.client.process.ending, link.sending[index]? with
      | .running, some inData => some { link with
          client := { link.client with
            process := settleCall (onClient link.client.process.world (link.connection.lockedSend inData)) }
          sending := link.sending.eraseIdx index }
      | _, _ => none
  | .clientCompleted completion =>
      match link.client.process.ending with
      | .running =>
          (link.client.completes (clientResult completion)).bind fun endpoint =>
            (WebSocketConnection.complete watching link.client.process.world completion).map fun outcome =>
              { link with client := { endpoint with process := settle outcome } }
      | _ => none
  | .clientTransmits =>
      match link.client.broken, link.connection.pendingWrites[link.client.sent]? with
      | false, some buffer => some { link with
          client := { link.client with sent := link.client.sent + 1 }
          server := { link.server with incoming := link.server.incoming ++ [buffer.data] } }
      | _, _ => none
  | .clientOverlaps incoming =>
      if 2 ≤ link.connection.pendingWrites.length then
        some { link with server := { link.server with incoming := incoming } }
      else none
  | .serverSteps event => (linkServerStep self link event).map fun server => { link with server := server }
  | .serverTransmits =>
      match link.server.broken, (link.session self).pendingWrites[link.server.sent]? with
      | false, some buffer => some { link with
          server := { link.server with sent := link.server.sent + 1 }
          client := { link.client with incoming := link.client.incoming ++ [buffer.data] } }
      | _, _ => none
  | .serverOverlaps incoming =>
      if 2 ≤ (link.session self).pendingWrites.length then
        some { link with client := { link.client with incoming := incoming } }
      else none

-- TCP is connected: the server waits for the handshake, the client for its answer.
def linkOpened : Link where
  client := ⟨⟨⟨{ WebSocketConnection.create with pendingHandshakes := 1 }, []⟩, .running⟩, [], 0, false⟩
  server := ⟨⟨noSessions.world.update self (WebSocketSession.construct false).run, .running⟩, [], 0, false⟩
  sending := []

end

def clientMessages (history : List ClientCallback) : List Bytes :=
  history.filterMap fun callback => match callback with
    | .onMessage payload => some payload
    | _ => none

def sessionMessages (history : List Callback) : List Bytes :=
  history.filterMap fun callback => match callback with
    | .onMessage payload => some payload
    | _ => none

def Link.clientDelivered (link : Link) : List Bytes := clientMessages link.client.process.world.app

def Link.serverDelivered (self : SessionId) (link : Link) : List Bytes :=
  sessionMessages (callbacksOf self link.server.process.world)

end NetworkWrapper
