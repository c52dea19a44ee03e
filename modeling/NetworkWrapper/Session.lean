import Mathlib.Logic.Function.Basic
import NetworkWrapper.Outcome
import NetworkWrapper.SendQueue

set_option autoImplicit false

namespace NetworkWrapper

-- The identity of a session object, not its address.
abbrev SessionId := Nat

-- beast::flat_buffer _readBuffer{8 * 1024} at both ends of a connection.
def readBufferLimit : Nat := 8 * 1024

inductive StrandTask where
  | onRun
  | doRead
  | doWrite
deriving DecidableEq, Repr

-- The stream is represented by the operations that are outstanding on it and
-- the shared strand by the tasks this session has posted to it, oldest first.
-- constructed separates live session objects from ids not used yet. accepted is
-- ghost state: what write() has taken, in the order of the calls.
structure WebSocketSession where
  constructed : Bool
  isConnected : Bool
  useBoostStrands : Bool
  readBuffer : Bytes
  sendBufferSafeQueue : SafeQueue SendBuffer
  pendingAccepts : Nat
  pendingReads : Nat
  pendingWrites : List SendBuffer
  posted : List StrandTask
  accepted : List Bytes
deriving DecidableEq

namespace WebSocketSession

def unconstructed : WebSocketSession :=
  { constructed := false, isConnected := true, useBoostStrands := false, readBuffer := [],
    sendBufferSafeQueue := ⟨[]⟩, pendingAccepts := 0, pendingReads := 0, pendingWrites := [], posted := [],
    accepted := [] }

def construct (useBoostStrands : Bool) : WebSocketSession :=
  { unconstructed with constructed := true, useBoostStrands := useBoostStrands }

def post (session : WebSocketSession) (task : StrandTask) : WebSocketSession :=
  { session with posted := session.posted ++ [task] }

def asyncWrite (session : WebSocketSession) (buffer : SendBuffer) : WebSocketSession :=
  { session with pendingWrites := session.pendingWrites ++ [buffer] }

def onRun (session : WebSocketSession) : WebSocketSession :=
  { session with pendingAccepts := session.pendingAccepts + 1 }

def run (session : WebSocketSession) : WebSocketSession :=
  if session.useBoostStrands then session.post .onRun else session.onRun

def doRead (session : WebSocketSession) : WebSocketSession :=
  { session with pendingReads := session.pendingReads + 1 }

def doWrite (session : WebSocketSession) : Outcome WebSocketSession :=
  match session.sendBufferSafeQueue.peekFront with
  | none => .undefined session
  | some buffer => .returned (session.asyncWrite buffer)

def write (session : WebSocketSession) (data : Bytes) : Outcome WebSocketSession :=
  match SendBuffer.create data with
  | .error what => .threw what session
  | .ok buffer =>
      let (queue, newSize) := session.sendBufferSafeQueue.emplaceBack buffer
      let queued := { session with sendBufferSafeQueue := queue, accepted := session.accepted ++ [data] }
      -- assume the next _onWrite callback will pick it up
      if newSize > 1 then .returned queued
      else if queued.useBoostStrands then .returned (queued.post .doWrite)
      else queued.doWrite

-- closeError is the result of the close handshake: _ws.close() throws it.
def disconnect (session : WebSocketSession) (closeError : ErrorCode) : Outcome WebSocketSession :=
  if session.isConnected then
    let closed := { session with isConnected := false }
    match closeError with
    | none => .returned closed
    | some what => .threw what closed
  else .returned session

-- _onWrite without an error.
def popAndContinue (session : WebSocketSession) : Outcome WebSocketSession :=
  match session.sendBufferSafeQueue.popFront with
  | none => .undefined session
  | some popped =>
      let shorter := { session with sendBufferSafeQueue := popped }
      if popped.empty = false then shorter.doWrite else .returned shorter

end WebSocketSession

structure World (Host App : Type) where
  host : Host
  app : App

abbrev Sessions := SessionId → WebSocketSession

namespace World

variable {App : Type}

def update (world : World Sessions App) (self : SessionId) (session : WebSocketSession) : World Sessions App :=
  { world with host := Function.update world.host self session }

def call (world : World Sessions App) (self : SessionId) (body : WebSocketSession → Outcome WebSocketSession) :
    Outcome (World Sessions App) :=
  (body (world.host self)).map (world.update self)

end World

namespace World

variable {App : Type}

@[simp] theorem update_same (world : World Sessions App) (self : SessionId) (session : WebSocketSession) :
    (world.update self session).host self = session := by
  simp [update]

@[simp] theorem update_other (world : World Sessions App) (self other : SessionId) (session : WebSocketSession)
    (different : other ≠ self) : (world.update self session).host other = world.host other := by
  simp [update, different]

@[simp] theorem update_app (world : World Sessions App) (self : SessionId) (session : WebSocketSession) :
    (world.update self session).app = world.app := rfl

@[simp] theorem call_app (world : World Sessions App) (self : SessionId)
    (body : WebSocketSession → Outcome WebSocketSession) : (world.call self body).world.app = world.app := by
  simp [call]

@[simp] theorem call_same (world : World Sessions App) (self : SessionId)
    (body : WebSocketSession → Outcome WebSocketSession) :
    (world.call self body).world.host self = (body (world.host self)).world := by
  simp [call]

@[simp] theorem call_other (world : World Sessions App) (self other : SessionId)
    (body : WebSocketSession → Outcome WebSocketSession) (different : other ≠ self) :
    (world.call self body).world.host other = world.host other := by
  simp [call, different]

end World

namespace WebSocketSession

-- What write() does to a session once the buffer exists: only the writer that
-- finds the queue empty starts, or posts, the next async_write.
def queued (session : WebSocketSession) (buffer : SendBuffer) : WebSocketSession :=
  let longer := { session with
    sendBufferSafeQueue := ⟨session.sendBufferSafeQueue.buffersToSend ++ [buffer]⟩
    accepted := session.accepted ++ [buffer.data] }
  if session.sendBufferSafeQueue.buffersToSend ≠ [] then longer
  else if session.useBoostStrands then longer.post .doWrite
  else longer.asyncWrite buffer

theorem disconnect_world (session : WebSocketSession) (closeError : ErrorCode) :
    (session.disconnect closeError).world = { session with isConnected := false } := by
  cases session with
  | mk constructed isConnected strands readBuffer queue accepts reads writes posted accepted =>
      cases isConnected <;> cases closeError <;> rfl

theorem write_empty (session : WebSocketSession) : session.write [] = .threw emptySendBuffer session := by
  simp [write, SendBuffer.create]

theorem write_nonempty (session : WebSocketSession) (data : Bytes) (given : data ≠ []) :
    session.write data = .returned (session.queued ⟨data, given⟩) := by
  rw [write, send_buffer_created data given]
  cases buffers : session.sendBufferSafeQueue.buffersToSend with
  | nil =>
      cases strands : session.useBoostStrands <;>
        simp [SafeQueue.emplaceBack, queued, buffers, strands, doWrite, SafeQueue.peekFront, asyncWrite]
  | cons front rest => simp [SafeQueue.emplaceBack, queued, buffers]

theorem pop_empty (session : WebSocketSession) (buffers : session.sendBufferSafeQueue.buffersToSend = []) :
    session.popAndContinue = .undefined session := by
  simp [popAndContinue, SafeQueue.popFront, buffers]

theorem pop_last (session : WebSocketSession) (sent : SendBuffer)
    (buffers : session.sendBufferSafeQueue.buffersToSend = [sent]) :
    session.popAndContinue = .returned { session with sendBufferSafeQueue := ⟨[]⟩ } := by
  simp [popAndContinue, SafeQueue.popFront, SafeQueue.empty, buffers]

theorem pop_more (session : WebSocketSession) (sent next : SendBuffer) (rest : List SendBuffer)
    (buffers : session.sendBufferSafeQueue.buffersToSend = sent :: next :: rest) :
    session.popAndContinue = .returned { session with
      sendBufferSafeQueue := ⟨next :: rest⟩
      pendingWrites := session.pendingWrites ++ [next] } := by
  simp [popAndContinue, SafeQueue.popFront, SafeQueue.empty, buffers, doWrite, SafeQueue.peekFront, asyncWrite]

end WebSocketSession

-- An unset std::function is none.
structure AllCallbacks (Host App : Type) where
  onConnection : Option (SessionId → World Host App → Outcome (World Host App))
  onDisconnection : Option (SessionId → World Host App → Outcome (World Host App))
  onMessage : Option (SessionId → Bytes → World Host App → Outcome (World Host App))

namespace WebSocketSession

variable {App : Type}

def connectionError (callbacks : AllCallbacks Sessions App) (self : SessionId) (world : World Sessions App) :
    Outcome (World Sessions App) :=
  let dropped := world.update self { world.host self with isConnected := false }
  match callbacks.onDisconnection with
  | none => .returned dropped
  | some onDisconnection => onDisconnection self dropped

def onAccept (callbacks : AllCallbacks Sessions App) (self : SessionId) (ec : ErrorCode) (world : World Sessions App) :
    Outcome (World Sessions App) :=
  match ec with
  | some _ => connectionError callbacks self world
  | none =>
      let announced : Outcome (World Sessions App) := match callbacks.onConnection with
        | none => .returned world
        | some onConnection => onConnection self world
      announced.andThen fun world => world.call self fun session =>
        .returned (if session.useBoostStrands then session.post .doRead else session.doRead)

def onRead (callbacks : AllCallbacks Sessions App) (self : SessionId) (ec : ErrorCode) (world : World Sessions App) :
    Outcome (World Sessions App) :=
  match ec with
  | some _ => connectionError callbacks self world
  | none =>
      let handled : Outcome (World Sessions App) := match callbacks.onMessage with
        | none => .returned world
        | some onMessage => onMessage self (world.host self).readBuffer world
      handled.andThen fun world => world.call self fun session =>
        .returned { session with readBuffer := [] }.doRead

def onWrite (callbacks : AllCallbacks Sessions App) (self : SessionId) (ec : ErrorCode) (world : World Sessions App) :
    Outcome (World Sessions App) :=
  match ec with
  | some _ => connectionError callbacks self world
  | none => world.call self popAndContinue

def runTask (task : StrandTask) (session : WebSocketSession) : Outcome WebSocketSession :=
  match task with
  | .onRun => .returned session.onRun
  | .doRead => .returned session.doRead
  | .doWrite => session.doWrite

-- What io_context::run() can hand to one session: the completion of an
-- outstanding operation, or the oldest task it posted. A read appends what it
-- received to the read buffer, never past the limit, also when it fails.
inductive Completion where
  | accepted (ec : ErrorCode)
  | received (ec : ErrorCode) (message : Bytes)
  | wrote (index : Nat) (ec : ErrorCode)
  | ran
deriving DecidableEq, Repr

def complete (callbacks : AllCallbacks Sessions App) (self : SessionId) (world : World Sessions App) :
    Completion → Option (Outcome (World Sessions App))
  | .accepted ec =>
      let session := world.host self
      if 0 < session.pendingAccepts then
        some (onAccept callbacks self ec
          (world.update self { session with pendingAccepts := session.pendingAccepts - 1 }))
      else none
  | .received ec message =>
      let session := world.host self
      if 0 < session.pendingReads ∧ session.readBuffer.length + message.length ≤ readBufferLimit then
        some (onRead callbacks self ec (world.update self
          { session with pendingReads := session.pendingReads - 1, readBuffer := session.readBuffer ++ message }))
      else none
  | .wrote index ec =>
      let session := world.host self
      if index < session.pendingWrites.length then
        some (onWrite callbacks self ec
          (world.update self { session with pendingWrites := session.pendingWrites.eraseIdx index }))
      else none
  | .ran =>
      let session := world.host self
      match session.posted with
      | [] => none
      | task :: rest => some ((world.update self { session with posted := rest }).call self (runTask task))

theorem complete_accepted (callbacks : AllCallbacks Sessions App) (self : SessionId) (world : World Sessions App)
    (ec : ErrorCode) (outcome : Outcome (World Sessions App)) :
    complete callbacks self world (.accepted ec) = some outcome ↔
      0 < (world.host self).pendingAccepts ∧
        onAccept callbacks self ec (world.update self
          { world.host self with pendingAccepts := (world.host self).pendingAccepts - 1 }) = outcome := by
  simp only [complete, Option.ite_none_right_eq_some, Option.some.injEq]

theorem complete_received (callbacks : AllCallbacks Sessions App) (self : SessionId) (world : World Sessions App)
    (ec : ErrorCode) (message : Bytes) (outcome : Outcome (World Sessions App)) :
    complete callbacks self world (.received ec message) = some outcome ↔
      (0 < (world.host self).pendingReads ∧
        (world.host self).readBuffer.length + message.length ≤ readBufferLimit) ∧
        onRead callbacks self ec (world.update self
          { world.host self with
            pendingReads := (world.host self).pendingReads - 1
            readBuffer := (world.host self).readBuffer ++ message }) = outcome := by
  simp only [complete, Option.ite_none_right_eq_some, Option.some.injEq]

theorem complete_wrote (callbacks : AllCallbacks Sessions App) (self : SessionId) (world : World Sessions App)
    (index : Nat) (ec : ErrorCode) (outcome : Outcome (World Sessions App)) :
    complete callbacks self world (.wrote index ec) = some outcome ↔
      index < (world.host self).pendingWrites.length ∧
        onWrite callbacks self ec (world.update self
          { world.host self with pendingWrites := (world.host self).pendingWrites.eraseIdx index }) = outcome := by
  simp only [complete, Option.ite_none_right_eq_some, Option.some.injEq]

theorem complete_ran (callbacks : AllCallbacks Sessions App) (self : SessionId) (world : World Sessions App)
    (outcome : Outcome (World Sessions App)) :
    complete callbacks self world .ran = some outcome ↔
      ∃ task rest, (world.host self).posted = task :: rest ∧
        (world.update self { world.host self with posted := rest }).call self (runTask task) = outcome := by
  cases posted : (world.host self).posted with
  | nil => simp [complete, posted]
  | cons task rest =>
      simp only [complete, posted, Option.some.injEq, List.cons.injEq]
      constructor
      · exact fun done => ⟨task, rest, ⟨rfl, rfl⟩, done⟩
      · rintro ⟨_, _, ⟨rfl, rfl⟩, done⟩
        exact done

end WebSocketSession

end NetworkWrapper
