import NetworkWrapper.Servers
import NetworkWrapper.Transition

set_option autoImplicit false

-- Any sequence of start() and stop() calls on one of the servers, with its
-- threads running the context in between.
namespace NetworkWrapper

inductive ServerKind where
  | webSocketServer
  | httpServer
deriving DecidableEq, Repr

def ServerKind.start : ServerKind → TcpServer → Opening → Outcome TcpServer
  | .webSocketServer => WebSocketServer.start
  | .httpServer => HttpServer.start

def ServerKind.stop : ServerKind → TcpServer → TcpServer
  | .webSocketServer => WebSocketServer.stop
  | .httpServer => HttpServer.stop

-- start() refuses to begin.
def ServerKind.refuses : ServerKind → TcpServer → Bool
  | .webSocketServer, _ => false
  | .httpServer, server => !server.onConnectionCallback

inductive TcpServerEvent where
  | setOnConnectionCallback (given : Bool)
  | start (opening : Opening)
  | stop
  | enterRun (thread : Nat)
  | accepted (ec : ErrorCode) (sessionWork : Nat)
  | worked (connectionWork : Nat)
  | leaveRun (thread : Nat)
deriving DecidableEq, Repr

def TcpServerEvent.isCall : TcpServerEvent → Bool
  | .setOnConnectionCallback _ => true
  | .start _ => true
  | .stop => true
  | _ => false

namespace TcpServer

-- run() returns at once if the context is stopped, and stops a context that has
-- nothing to do.
def enterRun (server : TcpServer) (thread : Nat) : TcpServer :=
  if server.stopped || server.outstandingWork = 0 then
    { server with stopped := true, allThreads := server.allThreads.set thread .ended }
  else { server with allThreads := server.allThreads.set thread .inRun }

def afterHandler (server : TcpServer) : TcpServer :=
  if server.outstandingWork = 0 then { server with stopped := true } else server

-- TcpListener::_onAccept; a connection brings the operations it starts with.
def onAccept (ec : ErrorCode) (sessionWork : Nat) (server : TcpServer) : TcpServer :=
  match ec with
  | some _ => server
  | none => { server with listener := server.listener.doAccept, connectionWork := server.connectionWork + sessionWork }

def handlersRun (server : TcpServer) : Bool := !server.stopped && server.allThreads.contains .inRun

end TcpServer

def serverCallStep (kind : ServerKind) (server : TcpServer) : TcpServerEvent → Option TcpServer
  | .setOnConnectionCallback given => some (HttpServer.setOnConnectionCallback server given)
  | .start opening => some (kind.start server opening).world
  | .stop => some (kind.stop server)
  | .enterRun thread => if server.allThreads[thread]? = some .created then some (server.enterRun thread) else none
  | .accepted ec sessionWork =>
      if server.handlersRun = true ∧ 0 < server.listener.pendingAccepts then
        some (TcpServer.onAccept ec sessionWork { server with
          listener := { server.listener with pendingAccepts := server.listener.pendingAccepts - 1 } }).afterHandler
      else none
  | .worked connectionWork =>
      if server.handlersRun = true ∧ 0 < server.connectionWork then
        some { server with connectionWork := connectionWork }.afterHandler
      else none
  | .leaveRun thread =>
      if server.stopped = true ∧ server.allThreads[thread]? = some .inRun then
        some { server with allThreads := server.allThreads.set thread .ended }
      else none

def ServesAccepts (kind : ServerKind) (server : TcpServer) : Prop :=
  ∀ (after : List TcpServerEvent) (later : TcpServer), (∀ event ∈ after, event.isCall = false) →
    Transition.run (serverCallStep kind) server after = some later →
      .created ∈ later.allThreads → 0 < later.listener.pendingAccepts → later.stopped = false

def StartRefused (kind : ServerKind) (server : TcpServer) : TcpServerEvent → Prop
  | .start _ => kind.refuses server = true
  | _ => True

instance (kind : ServerKind) (server : TcpServer) : (event : TcpServerEvent) → Decidable (StartRefused kind server event)
  | .start _ => inferInstanceAs (Decidable (_ = true))
  | .setOnConnectionCallback _ => isTrue trivial
  | .stop => isTrue trivial
  | .enterRun _ => isTrue trivial
  | .accepted _ _ => isTrue trivial
  | .worked _ => isTrue trivial
  | .leaveRun _ => isTrue trivial

def NeverRun (server : TcpServer) : Prop := server.allThreads = [] ∧ server.stopped = false

def RunBefore (server : TcpServer) : Prop := server.allThreads ≠ [] ∨ server.stopped = true

theorem start_refused (kind : ServerKind) (server : TcpServer) (opening : Opening)
    (refuses : kind.refuses server = true) : (kind.start server opening).world = server := by
  cases kind with
  | webSocketServer => cases refuses
  | httpServer =>
      have missing : server.onConnectionCallback = false := by simpa [ServerKind.refuses] using refuses
      simp [ServerKind.start, HttpServer.start, missing]

theorem start_begun (kind : ServerKind) (server : TcpServer) (opening : Opening)
    (begins : kind.refuses server = false) : kind.start server opening = server.stop.launch opening := by
  cases kind with
  | webSocketServer => rfl
  | httpServer =>
      have given : server.onConnectionCallback = true := by simpa [ServerKind.refuses] using begins
      simp [ServerKind.start, HttpServer.start, given, HttpServer.stop]

theorem start_not_refused (kind : ServerKind) (server next : TcpServer) (opening : Opening)
    (started : kind.start server opening = .returned next) : kind.refuses server = false := by
  by_contra refuses
  cases kind with
  | webSocketServer => exact refuses rfl
  | httpServer =>
      have missing : server.onConnectionCallback = false := by simpa [ServerKind.refuses] using refuses
      simp [ServerKind.start, HttpServer.start, missing] at started

theorem stop_runs_before (server : TcpServer) (earlier : RunBefore server) : server.stop.stopped = true := by
  by_cases idle : server.allThreads = []
  · rw [TcpServer.stop_idle server idle]
    exact earlier.resolve_left fun busy => busy idle
  · rw [TcpServer.stop_busy server idle]

theorem launch_threads (server : TcpServer) (opening : Opening) :
    (server.launch opening).world.allThreads ≠ [] ∧ (server.launch opening).world.stopped = server.stopped := by
  obtain ⟨listener, launched⟩ := server.launch_returns opening
  rw [launched]
  exact ⟨by simp [Nat.ne_of_gt server.atLeastOne], rfl⟩

theorem start_runs (kind : ServerKind) (server : TcpServer) (opening : Opening)
    (begins : kind.refuses server = false) : RunBefore (kind.start server opening).world := by
  rw [start_begun kind server opening begins]
  exact .inl (launch_threads server.stop opening).1

theorem start_breaks (kind : ServerKind) (server next : TcpServer) (event : TcpServerEvent)
    (begun : ¬ StartRefused kind server event) (taken : serverCallStep kind server event = some next) :
    RunBefore next := by
  cases event with
  | start opening =>
      cases taken
      exact start_runs kind server opening (by simpa [StartRefused] using begun)
  | _ => exact absurd trivial begun

theorem after_handler_runs (server : TcpServer) (busy : server.allThreads ≠ []) : RunBefore server.afterHandler := by
  by_cases idle : server.outstandingWork = 0
  · exact .inr (by simp [TcpServer.afterHandler, idle])
  · exact .inl (by simpa [TcpServer.afterHandler, idle] using busy)

theorem handlers_busy (server : TcpServer) (handlers : server.handlersRun = true) : server.allThreads ≠ [] := by
  intro idle
  simp [TcpServer.handlersRun, idle] at handlers

theorem never_run_step (kind : ServerKind) (server next : TcpServer) (event : TcpServerEvent) (never : NeverRun server)
    (refused : StartRefused kind server event) (taken : serverCallStep kind server event = some next) :
    NeverRun next := by
  have quiet : server.handlersRun = false := by simp [TcpServer.handlersRun, never.1]
  cases event with
  | setOnConnectionCallback given =>
      cases taken
      exact never
  | start opening =>
      cases taken
      rw [start_refused kind server opening refused]
      exact never
  | stop =>
      have same : kind.stop server = server := by
        cases kind <;> exact server.stop_idle never.1
      cases taken
      rw [same]
      exact never
  | enterRun thread => simp [serverCallStep, never.1] at taken
  | accepted ec sessionWork => simp [serverCallStep, quiet] at taken
  | worked connectionWork => simp [serverCallStep, quiet] at taken
  | leaveRun thread => simp [serverCallStep, never.1] at taken

theorem run_before_step (kind : ServerKind) (server next : TcpServer) (event : TcpServerEvent)
    (earlier : RunBefore server) (taken : serverCallStep kind server event = some next) : RunBefore next := by
  cases event with
  | setOnConnectionCallback given =>
      cases taken
      exact earlier
  | start opening =>
      cases taken
      by_cases refuses : kind.refuses server = true
      · rw [start_refused kind server opening refuses]
        exact earlier
      · exact start_runs kind server opening (by simpa using refuses)
  | stop =>
      have same : kind.stop server = server.stop := by cases kind <;> rfl
      cases taken
      rw [same]
      exact .inr (stop_runs_before server earlier)
  | enterRun thread =>
      simp only [serverCallStep, Option.ite_none_right_eq_some, Option.some.injEq] at taken
      obtain ⟨fresh, rfl⟩ := taken
      have busy : server.allThreads ≠ [] := List.ne_nil_of_mem (List.mem_of_getElem? fresh)
      by_cases exhausted : (server.stopped || server.outstandingWork = 0) = true
      · exact .inr (by simp [TcpServer.enterRun, exhausted])
      · exact .inl (by simpa [TcpServer.enterRun, exhausted] using busy)
  | accepted ec sessionWork =>
      simp only [serverCallStep, Option.ite_none_right_eq_some, Option.some.injEq] at taken
      obtain ⟨⟨handlers, _⟩, rfl⟩ := taken
      apply after_handler_runs
      cases ec <;> exact handlers_busy server handlers
  | worked connectionWork =>
      simp only [serverCallStep, Option.ite_none_right_eq_some, Option.some.injEq] at taken
      obtain ⟨⟨handlers, _⟩, rfl⟩ := taken
      exact after_handler_runs _ (handlers_busy server handlers)
  | leaveRun thread =>
      simp only [serverCallStep, Option.ite_none_right_eq_some, Option.some.injEq] at taken
      obtain ⟨⟨stopped, _⟩, rfl⟩ := taken
      exact .inr stopped

def AcceptKeepsRunning (server : TcpServer) : Prop := 0 < server.listener.pendingAccepts → server.stopped = false

theorem after_handler_accepts (server : TcpServer) (running : server.stopped = false) :
    AcceptKeepsRunning server.afterHandler := by
  by_cases idle : server.outstandingWork = 0
  · have none : server.listener.pendingAccepts = 0 := Nat.eq_zero_of_add_eq_zero_right idle
    intro pending
    rw [TcpServer.afterHandler, if_pos idle] at pending
    exact absurd none (Nat.ne_of_gt pending)
  · intro _
    rw [TcpServer.afterHandler, if_neg idle]
    exact running

theorem accept_keeps_running_step (kind : ServerKind) (server next : TcpServer) (event : TcpServerEvent)
    (noCall : event.isCall = false) (keeps : AcceptKeepsRunning server)
    (taken : serverCallStep kind server event = some next) : AcceptKeepsRunning next := by
  cases event with
  | setOnConnectionCallback given => cases noCall
  | start opening => cases noCall
  | stop => cases noCall
  | enterRun thread =>
      simp only [serverCallStep, Option.ite_none_right_eq_some, Option.some.injEq] at taken
      obtain ⟨_, rfl⟩ := taken
      by_cases exhausted : (server.stopped || server.outstandingWork = 0) = true
      · intro pending
        rw [TcpServer.enterRun, if_pos exhausted] at pending
        have working : server.outstandingWork ≠ 0 := Nat.ne_of_gt (Nat.add_pos_left pending _)
        simp [keeps pending, working] at exhausted
      · rw [TcpServer.enterRun, if_neg exhausted]
        exact keeps
  | accepted ec sessionWork =>
      simp only [serverCallStep, Option.ite_none_right_eq_some, Option.some.injEq] at taken
      obtain ⟨⟨handlers, _⟩, rfl⟩ := taken
      have running : server.stopped = false := by
        simp only [TcpServer.handlersRun, Bool.and_eq_true, Bool.not_eq_true'] at handlers
        exact handlers.1
      apply after_handler_accepts
      cases ec <;> exact running
  | worked connectionWork =>
      simp only [serverCallStep, Option.ite_none_right_eq_some, Option.some.injEq] at taken
      obtain ⟨⟨handlers, _⟩, rfl⟩ := taken
      have running : server.stopped = false := by
        simp only [TcpServer.handlersRun, Bool.and_eq_true, Bool.not_eq_true'] at handlers
        exact handlers.1
      exact after_handler_accepts _ running
  | leaveRun thread =>
      simp only [serverCallStep, Option.ite_none_right_eq_some, Option.some.injEq] at taken
      obtain ⟨_, rfl⟩ := taken
      exact keeps

theorem serves_accepts_running (kind : ServerKind) (server : TcpServer) (running : server.stopped = false) :
    ServesAccepts kind server := by
  intro after later noCalls reached _ pending
  have keeps : AcceptKeepsRunning later :=
    Transition.run_keeps_guarded (serverCallStep kind) (fun _ event => event.isCall = false) AcceptKeepsRunning
      (fun state event next sofar noCall taken => accept_keeps_running_step kind state next event noCall sofar taken)
      after server later (fun _ => running)
      (Transition.meets_all _ _ _ _ fun event member _ => noCalls event member) reached
  exact keeps pending

theorem restarted_serves_iff (kind : ServerKind) (totalThreads : Nat) (atLeastOne : 0 < totalThreads)
    (before : List TcpServerEvent) (opening : Opening) (server next : TcpServer)
    (reached : Transition.run (serverCallStep kind) (.create totalThreads atLeastOne) before = some server)
    (started : kind.start server opening = .returned next) (listens : opening.succeeds = true) :
    ServesAccepts kind next ↔
      Transition.Meets (serverCallStep kind) (StartRefused kind) (.create totalThreads atLeastOne) before := by
  have begins := start_not_refused kind server next opening started
  rw [start_begun kind server opening begins] at started
  have sameStopped : next.stopped = server.stop.stopped := by
    have same := (launch_threads server.stop opening).2
    rw [started] at same
    exact same
  rw [TcpServer.launch_succeeds _ opening listens] at started
  constructor
  · intro serves
    by_contra runBefore
    have earlier : RunBefore server := Transition.run_breaks_guard (serverCallStep kind) (StartRefused kind) RunBefore
      (fun state event later begun taken => start_breaks kind state later event begun taken)
      (fun state event later sofar taken => run_before_step kind state later event sofar taken)
      before _ server runBefore reached
    -- before any thread has come to run()
    have found : next.stopped = false := by
      cases started
      exact serves [] _ (by simp) rfl (by simp [Nat.ne_of_gt server.stop.atLeastOne]) (Nat.succ_pos _)
    rw [sameStopped, stop_runs_before server earlier] at found
    cases found
  · intro met
    have never : NeverRun server := Transition.run_keeps_guarded (serverCallStep kind) (StartRefused kind) NeverRun
      (fun state event later sofar allowed taken => never_run_step kind state later event sofar allowed taken)
      before _ server ⟨rfl, rfl⟩ met reached
    apply serves_accepts_running
    rw [sameStopped, TcpServer.stop_idle server never.1]
    exact never.2

def noOpeningError : Opening := { opened := none, optionSet := none, bound := none, listening := none }

theorem restarted_serves_refused_once :
    ∃ next, ServerKind.httpServer.start
        { TcpServer.create 2 (by decide) with onConnectionCallback := true } noOpeningError = .returned next ∧
      ServesAccepts .httpServer next :=
  ⟨_, rfl, (restarted_serves_iff .httpServer 2 (by decide) [.start noOpeningError, .stop, .setOnConnectionCallback true]
    noOpeningError _ _ rfl rfl (by decide)).mpr (by decide)⟩

theorem restarted_server_stays_stopped :
    ¬ ∀ (kind : ServerKind) (totalThreads : Nat) (atLeastOne : 0 < totalThreads) (before : List TcpServerEvent)
      (opening : Opening) (server next : TcpServer),
      Transition.run (serverCallStep kind) (.create totalThreads atLeastOne) before = some server →
        kind.start server opening = .returned next → opening.succeeds = true → ServesAccepts kind next := by
  intro always
  have serves := always .webSocketServer 1 (by decide) [.start noOpeningError, .enterRun 0, .stop] noOpeningError _ _
    rfl rfl (by decide)
  have found := serves [] _ (by simp) rfl (by decide) (by decide)
  revert found
  decide

end NetworkWrapper
