import NetworkWrapper.ClientCalls
import NetworkWrapper.ClientRuns
import NetworkWrapper.LockLog

set_option autoImplicit false

-- The two locks of the native client that a thread must not take twice, and what
-- a handler on the worker thread does with them.
namespace NetworkWrapper

open WebSocketConnection

inductive ClientLock where
  | atomicLock
  | taskMutex
deriving DecidableEq, Repr

abbrev ClientLockLog := List (LockStep ClientLock)

-- sendBinary takes _atomicLock once it has seen the connection, connect() takes
-- the task mutex in execute(), after a disconnect() that may throw.
def lockSteps (connection : WebSocketConnection) : ClientCall → ClientLockLog
  | .sendUtf8Text _ => if connection.isConnected then LockLog.critical .atomicLock else []
  | .sendBinary _ => if connection.isConnected then LockLog.critical .atomicLock else []
  | .disconnect _ => []
  | .connect _ _ closeError =>
      if connection.isConnected && closeError.isSome then [] else LockLog.critical .taskMutex
  | .isConnected => []

def noteLocks (call : ClientCall) (connection : WebSocketConnection) (log : ClientLockLog) : ClientLockLog :=
  log ++ lockSteps connection call

-- _onWrite holds _atomicLock from its first line to its end, the other handlers
-- take no lock themselves.
def lockedComplete (calls : List ClientCall) (connection : WebSocketConnection) :
    ClientCompletion → Option (Outcome (ClientWorld ClientLockLog))
  | .wrote index ec =>
      (complete (calling noteLocks calls) ⟨connection, [.acquire .atomicLock]⟩ (.wrote index ec)).map fun outcome =>
        outcome.map fun world => { world with app := world.app ++ [.release .atomicLock] }
  | completion => complete (calling noteLocks calls) ⟨connection, []⟩ completion

-- The worker thread is inside its task, so it holds the task mutex already.
def NoSelfDeadlock (outcome : Outcome (ClientWorld ClientLockLog)) : Prop :=
  LockLog.safe [.taskMutex] outcome.world.app = true

instance (outcome : Outcome (ClientWorld ClientLockLog)) : Decidable (NoSelfDeadlock outcome) :=
  inferInstanceAs (Decidable (_ = true))

-- How a callback is invoked: whether _isConnected holds and whether the handler
-- holds _atomicLock.
structure Invocation where
  connected : Bool
  underLock : Bool
deriving DecidableEq, Repr

def invocation (connection : WebSocketConnection) : ClientCompletion → Option Invocation
  | .resolved ec => if ec.isSome then some ⟨connection.isConnected, false⟩ else none
  | .connected ec => if ec.isSome then some ⟨connection.isConnected, false⟩ else none
  | .handshaken ec => some ⟨connection.isConnected || ec.isNone, false⟩
  | .received _ _ => if connection.isConnected then some ⟨true, false⟩ else none
  | .wrote _ ec => if connection.isConnected && ec.isSome then some ⟨true, true⟩ else none

def sendsSafely (called : Invocation) (payload : Bytes) (onward : Bool) : Bool :=
  if called.connected then !called.underLock && (payload = [] || onward) else onward

-- A call that throws ends the callback.
def callsSafely : Invocation → List ClientCall → Bool
  | _, [] => true
  | called, .sendUtf8Text inText :: rest => sendsSafely called (inText.takeWhile (· ≠ 0)) (callsSafely called rest)
  | called, .sendBinary inData :: rest => sendsSafely called inData (callsSafely called rest)
  | called, .disconnect closeError :: rest =>
      called.connected && closeError.isSome || callsSafely { called with connected := false } rest
  | called, .connect _ _ closeError :: _ => called.connected && closeError.isSome
  | called, .isConnected :: rest => callsSafely called rest

def handlerSafe (connection : WebSocketConnection) (completion : ClientCompletion) (calls : List ClientCall) : Bool :=
  match invocation connection completion with
  | none => true
  | some called => callsSafely called calls

def locksAround (underLock : Bool) : List ClientLock := if underLock then [.atomicLock, .taskMutex] else [.taskMutex]

theorem send_returns (connection : WebSocketConnection) (inData : Bytes)
    (sendable : connection.isConnected = true → inData ≠ []) :
    ∃ later, (connection.sendBinary inData).2 = .returned later ∧ later.isConnected = connection.isConnected := by
  by_cases connected : connection.isConnected = true
  · obtain ⟨later, sent, kept⟩ : ∃ later, connection.lockedSend inData = .returned later ∧
        later.isConnected = connection.isConnected :=
      ⟨_, locked_send_nonempty connection inData (sendable connected), rfl⟩
    refine ⟨later, ?_, kept⟩
    rw [sendBinary, if_pos connected]
    exact sent
  · exact ⟨connection, by rw [sendBinary, if_neg connected], rfl⟩

theorem calls_return (log : ClientLockLog) (connection later : WebSocketConnection) (call : ClientCall)
    (rest : List ClientCall) (returns : call.perform connection = .returned later) :
    performCalls noteLocks (call :: rest) ⟨connection, log⟩ =
      performCalls noteLocks rest ⟨later, log ++ lockSteps connection call⟩ := by
  simp [performCalls, performCall, returns, noteLocks]

theorem calls_throw (log : ClientLockLog) (connection later : WebSocketConnection) (call : ClientCall)
    (rest : List ClientCall) (what : String) (throws : call.perform connection = .threw what later) :
    performCalls noteLocks (call :: rest) ⟨connection, log⟩ = .threw what ⟨later, log ++ lockSteps connection call⟩ := by
  simp [performCalls, performCall, throws, noteLocks, Outcome.map]

def Deadlocked (world : ClientWorld ClientLockLog) : Prop := LockLog.safe [.taskMutex] world.app = false

theorem deadlocked_calls (rest : List ClientCall) (world : ClientWorld ClientLockLog) (call : ClientCall)
    (deadlocks : LockLog.safe [.taskMutex] (world.app ++ lockSteps world.host call) = false) :
    Deadlocked (performCalls noteLocks (call :: rest) world).world := by
  have kept (call : ClientCall) (world : ClientWorld ClientLockLog) (already : Deadlocked world) :
      Deadlocked (performCall noteLocks call world).world := by
    rw [performCall, Outcome.map_world]
    simpa only [Deadlocked, noteLocks, LockLog.safe_append, Bool.and_eq_false_iff] using Or.inl already
  refine Outcome.and_then_keeps Deadlocked _ _ ?_ fun later already =>
    perform_calls_keeps noteLocks Deadlocked kept rest later already
  rw [performCall, Outcome.map_world]
  exact deadlocks

def RestSafe (called : Invocation) (rest : List ClientCall) : Prop :=
  ∀ (connection : WebSocketConnection) (log : ClientLockLog), connection.isConnected = called.connected →
    LockLog.held [.taskMutex] log = locksAround called.underLock →
      LockLog.safe [.taskMutex] (performCalls noteLocks rest ⟨connection, log⟩).world.app =
        (LockLog.safe [.taskMutex] log && callsSafely called rest)

theorem sends_safe (called : Invocation) (connection : WebSocketConnection) (log : ClientLockLog) (inData : Bytes)
    (call : ClientCall) (rest : List ClientCall) (performs : call.perform connection = (connection.sendBinary inData).2)
    (takes : lockSteps connection call = if connection.isConnected then LockLog.critical .atomicLock else [])
    (same : connection.isConnected = called.connected)
    (around : LockLog.held [.taskMutex] log = locksAround called.underLock) (onward : RestSafe called rest) :
    LockLog.safe [.taskMutex] (performCalls noteLocks (call :: rest) ⟨connection, log⟩).world.app =
      (LockLog.safe [.taskMutex] log && sendsSafely called inData (callsSafely called rest)) := by
  have underLock : (locksAround called.underLock).contains ClientLock.atomicLock = called.underLock := by
    cases called.underLock <;> rfl
  have taken : LockLog.safe [.taskMutex] (log ++ LockLog.critical .atomicLock) =
      (LockLog.safe [.taskMutex] log && !called.underLock) := by
    rw [LockLog.safe_append, LockLog.safe_critical, around, underLock]
  by_cases connected : called.connected = true
  · rw [connected] at same
    rw [if_pos same] at takes
    by_cases empty : inData = []
    · have throws : call.perform connection = .threw emptySendBuffer connection := by
        rw [performs, sendBinary, if_pos same, empty, locked_send_empty]
      rw [calls_throw log connection connection call rest _ throws, takes]
      simp [taken, sendsSafely, connected, empty]
    · obtain ⟨later, sent, kept⟩ := send_returns connection inData fun _ => empty
      rw [calls_return log connection later call rest (performs.trans sent), takes]
      rw [onward later _ (kept.trans (same.trans connected.symm))
        (by rw [LockLog.held_append, LockLog.held_critical, around])]
      simp [taken, sendsSafely, connected, empty, Bool.and_assoc]
  · have apart : connection.isConnected = false := by simpa [same] using connected
    obtain ⟨later, sent, kept⟩ := send_returns connection inData (by simp [apart])
    rw [calls_return log connection later call rest (performs.trans sent), takes, apart]
    simp only [Bool.false_eq_true, if_false, List.append_nil, sendsSafely, connected]
    exact onward later log (kept.trans same) around

theorem calls_safe (called : Invocation) (calls : List ClientCall) : RestSafe called calls := by
  induction calls generalizing called with
  | nil => intro connection log _ _; simp [performCalls, callsSafely]
  | cons call rest ih =>
      intro connection log same around
      cases call with
      | sendUtf8Text inText => exact sends_safe called connection log _ _ rest rfl rfl same around (ih called)
      | sendBinary inData => exact sends_safe called connection log inData _ rest rfl rfl same around (ih called)
      | disconnect closeError =>
          by_cases connected : connection.isConnected = true
          · cases closeError with
            | none =>
                have returns : (ClientCall.disconnect none).perform connection = .returned connection.stop := by
                  simp [ClientCall.perform, disconnect, connected]
                rw [calls_return log connection connection.stop (.disconnect none) rest returns]
                simpa [lockSteps, callsSafely] using ih { called with connected := false } connection.stop log
                  (by simp [stop, connected]) around
            | some what =>
                have throws : (ClientCall.disconnect (some what)).perform connection = .threw what connection.stop := by
                  simp [ClientCall.perform, disconnect, connected]
                rw [calls_throw log connection connection.stop (.disconnect (some what)) rest what throws]
                simp [lockSteps, callsSafely, ← same, connected]
          · have apart : called.connected = false := by simpa [same] using connected
            have returns : (ClientCall.disconnect closeError).perform connection = .returned connection := by
              simp [ClientCall.perform, disconnect, connected]
            rw [calls_return log connection connection (.disconnect closeError) rest returns]
            simpa [lockSteps, callsSafely, apart] using ih { called with connected := false } connection log
              (by simpa using connected) around
      | connect ipAddress port closeError =>
          have inTask : (locksAround called.underLock).contains ClientLock.taskMutex = true := by
            cases called.underLock <;> rfl
          by_cases throws : (connection.isConnected && closeError.isSome) = true
          · obtain ⟨connected, thrown⟩ := Bool.and_eq_true_iff.mp throws
            obtain ⟨what, rfl⟩ := Option.isSome_iff_exists.mp thrown
            have thrown : (ClientCall.connect ipAddress port (some what)).perform connection =
                .threw what connection.stop := by
              simp [ClientCall.perform, connect, beginConnect, disconnect, connected]
            rw [calls_throw log connection connection.stop (.connect ipAddress port (some what)) rest what thrown]
            simp [lockSteps, callsSafely, ← same, connected]
          · -- execute() locks the mutex this thread holds
            have again : lockSteps connection (.connect ipAddress port closeError) = LockLog.critical .taskMutex := by
              simp only [lockSteps, if_neg throws]
            have deadlocks : LockLog.safe [.taskMutex] (log ++ LockLog.critical .taskMutex) = false := by
              rw [LockLog.safe_append, LockLog.safe_critical, around, inTask]
              simp
            have never : Deadlocked (performCalls noteLocks (.connect ipAddress port closeError :: rest)
                ⟨connection, log⟩).world := by
              apply deadlocked_calls
              rw [again]
              exact deadlocks
            rw [never]
            have refused : (called.connected && closeError.isSome) = false := by simpa [same] using throws
            simp only [callsSafely, refused, Bool.and_false]
      | isConnected =>
          rw [calls_return log connection connection .isConnected rest rfl]
          simpa [lockSteps, callsSafely] using ih called connection log same around

theorem host_after_log (first : Outcome (ClientWorld ClientLockLog))
    (after : ClientWorld ClientLockLog → WebSocketConnection) :
    (first.andThen fun world => .returned { world with host := after world }).world.app = first.world.app := by
  cases first <;> rfl

theorem failed_log (calls : List ClientCall) (what : String) (world : ClientWorld ClientLockLog) :
    (failed (calling noteLocks calls) what world).world.app = (performCalls noteLocks calls world).world.app :=
  host_after_log (performCalls noteLocks calls world) _

theorem callback_safe (world : ClientWorld ClientLockLog) (calls : List ClientCall) (connected : Bool)
    (unlocked : world.app = []) (same : world.host.isConnected = connected) :
    LockLog.safe [.taskMutex] (performCalls noteLocks calls world).world.app =
      callsSafely ⟨connected, false⟩ calls := by
  obtain ⟨connection, log⟩ := world
  cases unlocked
  exact calls_safe ⟨connected, false⟩ calls connection [] same rfl

theorem on_write_safe (calls : List ClientCall) (connection : WebSocketConnection) (ec : ErrorCode) (index : Nat) :
    LockLog.safe [.taskMutex]
      (onWrite (calling noteLocks calls) ec ⟨connection, [.acquire .atomicLock]⟩).world.app =
        handlerSafe connection (.wrote index ec) calls := by
  by_cases connected : connection.isConnected = true
  · cases ec with
    | none => simp [onWrite, connected, handlerSafe, invocation, pop_queued, LockLog.safe]
    | some what =>
        simp only [onWrite, connected, Bool.true_eq_false, if_false, failed_log]
        rw [calls_safe ⟨true, true⟩ calls connection [.acquire .atomicLock] connected rfl]
        simp [handlerSafe, invocation, connected, LockLog.safe]
  · simp [onWrite, connected, handlerSafe, invocation, LockLog.safe]

theorem on_read_safe (calls : List ClientCall) (connection : WebSocketConnection) (ec : ErrorCode) (message : Bytes) :
    LockLog.safe [.taskMutex] (onRead (calling noteLocks calls) ec ⟨connection, []⟩).world.app =
      handlerSafe connection (.received ec message) calls := by
  by_cases connected : connection.isConnected = true
  · have safely := callback_safe ⟨connection, []⟩ calls true rfl connected
    cases ec with
    | none =>
        simp only [onRead, connected, Bool.true_eq_false, if_false, calling, host_after_log, safely, handlerSafe, invocation,
          if_true]
    | some what =>
        simp only [onRead, connected, Bool.true_eq_false, if_false, failed_log, safely, handlerSafe, invocation, if_true]
  · simp [onRead, connected, handlerSafe, invocation, LockLog.safe]

theorem handler_no_deadlock_iff (connection : WebSocketConnection) (completion : ClientCompletion)
    (calls : List ClientCall) (outcome : Outcome (ClientWorld ClientLockLog))
    (taken : lockedComplete calls connection completion = some outcome) :
    NoSelfDeadlock outcome ↔ handlerSafe connection completion calls = true := by
  unfold NoSelfDeadlock
  cases completion with
  | resolved ec =>
      obtain ⟨_, rfl⟩ := (complete_resolved _ _ _ _).mp taken
      cases ec with
      | none => simp [onResolve, handlerSafe, invocation, LockLog.safe]
      | some what =>
          rw [onResolve, failed_log, callback_safe _ calls connection.isConnected rfl rfl]
          rfl
  | connected ec =>
      obtain ⟨_, rfl⟩ := (complete_connected _ _ _ _).mp taken
      cases ec with
      | none => simp [onConnect, handlerSafe, invocation, LockLog.safe]
      | some what =>
          rw [onConnect, failed_log, callback_safe _ calls connection.isConnected rfl rfl]
          rfl
  | handshaken ec =>
      obtain ⟨_, rfl⟩ := (complete_handshaken _ _ _ _).mp taken
      cases ec with
      | none =>
          simp only [onHandshake, calling]
          rw [callback_safe _ calls true rfl rfl]
          simp [handlerSafe, invocation]
      | some what =>
          rw [onHandshake, failed_log, callback_safe _ calls connection.isConnected rfl rfl]
          simp [handlerSafe, invocation]
  | received ec message =>
      obtain ⟨_, rfl⟩ := (complete_received _ _ _ _ _).mp taken
      rw [on_read_safe calls _ ec message]
      rfl
  | wrote index ec =>
      obtain ⟨handled, done, rfl⟩ := Option.map_eq_some_iff.mp taken
      obtain ⟨_, rfl⟩ := (complete_wrote _ _ _ _ _).mp done
      rw [Outcome.map_world, LockLog.safe_release, on_write_safe calls _ ec index]
      rfl

theorem handler_no_deadlock_disconnecting :
    ∃ outcome, lockedComplete [.sendUtf8Text [104], .isConnected, .disconnect none, .sendBinary [1]]
        { create with isConnected := true, pendingReads := 1 } (.received none [7]) = some outcome ∧
      NoSelfDeadlock outcome :=
  ⟨_, rfl, (handler_no_deadlock_iff { create with isConnected := true, pendingReads := 1 } (.received none [7])
    [.sendUtf8Text [104], .isConnected, .disconnect none, .sendBinary [1]] _ rfl).mpr (by decide)⟩

-- A write fails and the error callback answers with another send.
theorem error_callback_send_deadlocks :
    ¬ ∀ (events : List ClientEvent) (process : Process WatchedClient) (completion : ClientCompletion)
      (calls : List ClientCall) (outcome : Outcome (ClientWorld ClientLockLog)),
      Transition.run clientStep freshClient events = some process →
        lockedComplete calls process.world.host completion = some outcome → NoSelfDeadlock outcome := by
  intro always
  have safe := always [.connect "localhost" "7777" none, .completed (.resolved none), .completed (.connected none),
    .completed (.handshaken none), .sendBinary [1]] _ (.wrote 0 (some "broken pipe")) [.sendBinary [2]] _ rfl rfl
  revert safe
  decide

end NetworkWrapper
