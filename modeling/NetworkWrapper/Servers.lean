import NetworkWrapper.Outcome
import NetworkWrapper.SendQueue

set_option autoImplicit false

-- The two servers: a TCP listener, an io_context and the threads that run it.
namespace NetworkWrapper

-- What the four calls on the acceptor report.
structure Opening where
  opened : ErrorCode
  optionSet : ErrorCode
  bound : ErrorCode
  listening : ErrorCode
deriving DecidableEq, Repr

def Opening.succeeds (opening : Opening) : Bool :=
  opening.opened = none && opening.optionSet = none && opening.bound = none && opening.listening = none

-- An accept stays pending when the acceptor is closed: its completion with an
-- error still has to be handled.
structure TcpListener where
  acceptorOpen : Bool
  onNewConnectionCallback : Bool
  pendingAccepts : Nat
deriving DecidableEq, Repr

namespace TcpListener

def create : TcpListener := { acceptorOpen := false, onNewConnectionCallback := false, pendingAccepts := 0 }

def setOnNewConnectionCallback (listener : TcpListener) (given : Bool) : TcpListener :=
  { listener with onNewConnectionCallback := given }

def stop (listener : TcpListener) : TcpListener :=
  if listener.acceptorOpen then { listener with acceptorOpen := false } else listener

def doAccept (listener : TcpListener) : TcpListener :=
  { listener with pendingAccepts := listener.pendingAccepts + 1 }

-- A failure is printed and the call returns, with the acceptor left as it is.
def start (listener : TcpListener) (opening : Opening) : Outcome TcpListener :=
  if listener.onNewConnectionCallback = false then .threw "not callback(s) setup" listener
  else
    let closed := listener.stop
    if opening.opened ≠ none then .returned closed
    else
      let opened := { closed with acceptorOpen := true }
      if opening.optionSet ≠ none then .returned opened
      else if opening.bound ≠ none then .returned opened
      else if opening.listening ≠ none then .returned opened
      else .returned opened.doAccept

theorem start_succeeds (listener : TcpListener) (opening : Opening) (given : listener.onNewConnectionCallback = true)
    (succeeds : opening.succeeds = true) : listener.start opening =
      .returned { listener with acceptorOpen := true, pendingAccepts := listener.pendingAccepts + 1 } := by
  simp only [Opening.succeeds, Bool.and_eq_true, decide_eq_true_eq] at succeeds
  obtain ⟨⟨⟨opened, optionSet⟩, bound⟩, listening⟩ := succeeds
  by_cases before : listener.acceptorOpen = true
  · simp [start, given, opened, optionSet, bound, listening, doAccept, stop, before]
  · simp [start, given, opened, optionSet, bound, listening, doAccept, stop, before]

theorem start_returns (listener : TcpListener) (opening : Opening) (given : listener.onNewConnectionCallback = true) :
    ∃ next, listener.start opening = .returned next := by
  simp only [start, given, Bool.true_eq_false, if_false]
  split
  · exact ⟨_, rfl⟩
  · split
    · exact ⟨_, rfl⟩
    · split
      · exact ⟨_, rfl⟩
      · split <;> exact ⟨_, rfl⟩

end TcpListener

-- A thread of the server is created to call _ioc.run() and ends after it.
inductive ServerThread where
  | created
  | inRun
  | ended
deriving DecidableEq, Repr

-- What both servers have in common. The io_context is its stopped flag and what
-- is outstanding in it: the listener's accepts and the connections' operations.
structure TcpServer where
  totalThreads : Nat
  atLeastOne : 0 < totalThreads
  stopped : Bool
  listener : TcpListener
  connectionWork : Nat
  allThreads : List ServerThread
  onConnectionCallback : Bool
deriving DecidableEq

namespace TcpServer

def create (totalThreads : Nat) (atLeastOne : 0 < totalThreads) : TcpServer :=
  { totalThreads := totalThreads, atLeastOne := atLeastOne, stopped := false, listener := .create, connectionWork := 0,
    allThreads := [], onConnectionCallback := false }

-- The constructors refuse to build a server without a thread.
def construct (totalThreads : Nat) : Except String TcpServer :=
  if atLeastOne : 0 < totalThreads then .ok (create totalThreads atLeastOne)
  else .error "total thread(s) must be > 0"

def outstandingWork (server : TcpServer) : Nat := server.listener.pendingAccepts + server.connectionWork

-- The joined threads have left run(), for the context is stopped.
def stop (server : TcpServer) : TcpServer :=
  if server.allThreads.isEmpty then server
  else { server with listener := server.listener.stop, stopped := true, allThreads := [] }

def launch (server : TcpServer) (opening : Opening) : Outcome TcpServer :=
  ((server.listener.setOnNewConnectionCallback true).start opening).map fun listener =>
    { server with listener := listener, allThreads := List.replicate server.totalThreads .created }

end TcpServer

namespace WebSocketServer

def stop (server : TcpServer) : TcpServer := server.stop

def start (server : TcpServer) (opening : Opening) : Outcome TcpServer := (stop server).launch opening

end WebSocketServer

namespace HttpServer

def setOnConnectionCallback (server : TcpServer) (given : Bool) : TcpServer := { server with onConnectionCallback := given }

def stop (server : TcpServer) : TcpServer := server.stop

def start (server : TcpServer) (opening : Opening) : Outcome TcpServer :=
  if server.onConnectionCallback = false then .threw "missing OnConnectionCallback" server
  else (stop server).launch opening

end HttpServer

namespace TcpServer

theorem stop_idle (server : TcpServer) (idle : server.allThreads = []) : server.stop = server := by
  simp [stop, idle]

theorem stop_busy (server : TcpServer) (busy : server.allThreads ≠ []) :
    server.stop = { server with listener := server.listener.stop, stopped := true, allThreads := [] } := by
  simp [stop, busy]

theorem launch_succeeds (server : TcpServer) (opening : Opening) (succeeds : opening.succeeds = true) :
    server.launch opening = .returned { server with
      listener := ⟨true, true, server.listener.pendingAccepts + 1⟩
      allThreads := List.replicate server.totalThreads .created } := by
  rw [launch, TcpListener.start_succeeds _ opening rfl succeeds]
  rfl

theorem launch_returns (server : TcpServer) (opening : Opening) :
    ∃ listener, server.launch opening = .returned { server with
      listener := listener, allThreads := List.replicate server.totalThreads .created } := by
  obtain ⟨listener, started⟩ :=
    TcpListener.start_returns (server.listener.setOnNewConnectionCallback true) opening rfl
  exact ⟨listener, by rw [launch, started]; rfl⟩

end TcpServer

end NetworkWrapper
