import NetworkWrapper.ClientCalls
import NetworkWrapper.Transition
import NetworkWrapper.WorkerThread

set_option autoImplicit false

-- The first connect(): the user thread hands the run task to the worker thread
-- and then starts to resolve the address, while the worker may already run.
namespace NetworkWrapper

open WebSocketConnection

inductive ClientTask where
  | runContext
deriving DecidableEq, Repr

inductive ConnectPoint where
  | outside
  | begun
  | executed
  | resolving
  | returned
deriving DecidableEq, Repr

-- inRun says that the worker's task is inside _ioc.run().
structure ConnectingClient where
  client : Process WatchedClient
  worker : WorkerThread ClientTask
  inRun : Bool
  user : ConnectPoint

def freshConnection : ConnectingClient :=
  { client := ⟨⟨create, []⟩, .running⟩, worker := .started, inRun := false, user := .outside }

def outstandingWork (connection : WebSocketConnection) : Nat :=
  connection.pendingResolves + connection.pendingConnects + connection.pendingHandshakes + connection.pendingReads +
    connection.pendingWrites.length

-- run() returns once the context is stopped or has nothing left to do, and
-- leaves it stopped.
def runReturns (connection : WebSocketConnection) : Bool :=
  connection.stopped || outstandingWork connection = 0

def leaveRun (state : ConnectingClient) : ConnectingClient :=
  if runReturns state.client.world.host then
    { state with
      client := { state.client with world := { state.client.world with
        host := { state.client.world.host with stopped := true } } }
      worker := state.worker.finishWork
      inRun := false }
  else { state with inRun := true }

inductive ConnectEvent where
  | connect (ipAddress port : String)
  | execute
  | asyncResolve
  | leaveConnect
  | waitUntilNotified
  | wakeUp
  | run
  | completed (completion : ClientCompletion)
deriving DecidableEq, Repr

def connectStep (state : ConnectingClient) (event : ConnectEvent) : Option ConnectingClient :=
  if state.client.ending = .running then
    let world := state.client.world
    match event with
    | .connect ipAddress port =>
        if state.user = .outside then
          some { state with
            client := settleCall ((world.host.beginConnect ipAddress port none).map fun connection =>
              { world with host := connection })
            user := .begun }
        else none
    | .execute =>
        if state.user = .begun then
          (state.worker.execute .runContext).map fun worker => { state with worker := worker, user := .executed }
        else none
    | .asyncResolve =>
        if state.user = .executed then
          some { state with
            client := ⟨{ world with host := world.host.asyncResolve }, .running⟩
            user := .resolving }
        else none
    | .leaveConnect => if state.user = .resolving then some { state with user := .returned } else none
    | .waitUntilNotified => state.worker.waitUntilNotified.map fun worker => { state with worker := worker }
    | .wakeUp => state.worker.wakeUp.map fun worker => { state with worker := worker }
    | .run =>
        if state.worker.point = .working ∧ state.inRun = false then some (leaveRun state) else none
    | .completed completion =>
        if state.inRun = true then
          (complete watching world completion).map fun outcome => leaveRun { state with client := settle outcome }
        else none
  else none

theorem connect_uninterrupted (state : ConnectingClient) (ipAddress port : String)
    (running : state.client.ending = .running) (outside : state.user = .outside)
    (free : state.worker.holdsTaskMutex = false) :
    ∃ next, Transition.run connectStep state [.connect ipAddress port, .execute, .asyncResolve, .leaveConnect] =
        some next ∧
      next.client = settleCall ((state.client.world.host.connect ipAddress port none).map fun connection =>
        { state.client.world with host := connection }) ∧
      next.worker.workCallback = some .runContext ∧ next.user = .returned := by
  by_cases connected : state.client.world.host.isConnected = true
  · simp [Transition.run, connectStep, running, outside, connect, beginConnect, disconnect, connected, settleCall,
      WorkerThread.execute, free]
  · simp [Transition.run, connectStep, running, outside, connect, beginConnect, disconnect, connected, settleCall,
      WorkerThread.execute, free]

-- connect() is over, its resolve has not been handled, and nothing is left that
-- would make the worker run the context.
def ConnectLost (state : ConnectingClient) : Prop :=
  state.user = .returned ∧ 0 < state.client.world.host.pendingResolves ∧ state.worker.point = .waiting ∧
    state.worker.isNotified = false

instance (state : ConnectingClient) : Decidable (ConnectLost state) := inferInstanceAs (Decidable (_ ∧ _))

def RunAfterResolve (state : ConnectingClient) : ConnectEvent → Prop
  | .run => state.user = .resolving ∨ state.user = .returned
  | _ => True

instance (state : ConnectingClient) : (event : ConnectEvent) → Decidable (RunAfterResolve state event)
  | .run => inferInstanceAs (Decidable (_ ∨ _))
  | .connect _ _ => isTrue trivial
  | .execute => isTrue trivial
  | .asyncResolve => isTrue trivial
  | .leaveConnect => isTrue trivial
  | .waitUntilNotified => isTrue trivial
  | .wakeUp => isTrue trivial
  | .completed _ => isTrue trivial

def TaskUnderWay (state : ConnectingClient) : Prop :=
  state.worker.isRunning = true ∧ state.client.world.host.stopped = false ∧
    (state.worker.point = .working ∨
      state.worker.point = .waiting ∧ state.worker.isNotified = true ∧ state.inRun = false)

def OnlyResolving (connection : WebSocketConnection) : Prop :=
  connection.isConnected = false ∧ connection.pendingConnects = 0 ∧ connection.pendingHandshakes = 0 ∧
    connection.pendingReads = 0 ∧ connection.pendingWrites = []

inductive ConnectPhase (state : ConnectingClient) : Prop where
  | before (user : state.user = .outside ∨ state.user = .begun) (quiet : OnlyResolving state.client.world.host)
      (unresolved : state.client.world.host.pendingResolves = 0) (runnable : state.client.world.host.stopped = false)
      (running : state.worker.isRunning = true) (outside : state.inRun = false)
      (point : state.worker.point = .beforeWait ∨ state.worker.point = .waiting) (unnotified : state.worker.isNotified = false)
  | handedOver (user : state.user = .executed) (quiet : OnlyResolving state.client.world.host)
      (unresolved : state.client.world.host.pendingResolves = 0) (task : TaskUnderWay state) (outside : state.inRun = false)
  | resolving (user : state.user = .resolving ∨ state.user = .returned) (quiet : OnlyResolving state.client.world.host)
      (resolve : state.client.world.host.pendingResolves = 1) (task : TaskUnderWay state)
  | resolved (user : state.user = .resolving ∨ state.user = .returned)
      (handled : state.client.world.host.pendingResolves = 0)

theorem connect_phase_kept (state : ConnectingClient) (phase : ConnectPhase state) : ¬ ConnectLost state := by
  rintro ⟨returned, pending, waiting, unnotified⟩
  cases phase with
  | before user _ _ _ _ _ _ _ => simp [returned] at user
  | handedOver user _ _ _ _ => simp [returned] at user
  | resolving _ _ _ task =>
      rcases task.2.2 with working | ⟨_, notified, _⟩
      · rw [working] at waiting
        cases waiting
      · rw [notified] at unnotified
        cases unnotified
  | resolved _ handled => exact Nat.ne_of_gt pending handled

theorem failed_resolves (what : String) (world : WatchedClient) :
    (failed watching what world).world.host.pendingResolves = world.host.pendingResolves := by
  rw [failed_watching, Outcome.world_returned]

theorem handlers_resolve_nothing (count : Nat) : HandlerRule fun connection => connection.pendingResolves ≤ count where
  connectStarted _ few := few
  handshakeStarted _ few := few
  opened _ few := few
  readAgain _ few := few
  cleared _ few := few
  popped connection few := by
    rw [pop_queued]
    exact few
  failed _ few := few

theorem complete_resolves (world : WatchedClient) (completion : ClientCompletion) (outcome : Outcome WatchedClient)
    (taken : complete watching world completion = some outcome) :
    outcome.world.host.pendingResolves ≤ world.host.pendingResolves := by
  have ended : (endOperation world.host completion).pendingResolves ≤ world.host.pendingResolves := by
    cases completion with
    | resolved ec => exact Nat.sub_le _ _
    | _ => exact Nat.le_refl _
  exact complete_keeps watching _ (handlers_resolve_nothing world.host.pendingResolves) (watching_keeps _) world completion
    outcome ended taken

theorem complete_resolving (world : WatchedClient) (completion : ClientCompletion) (outcome : Outcome WatchedClient)
    (quiet : OnlyResolving world.host) (single : world.host.pendingResolves = 1)
    (taken : complete watching world completion = some outcome) : outcome.world.host.pendingResolves = 0 := by
  obtain ⟨_, connects, handshakes, reads, writes⟩ := quiet
  cases completion with
  | resolved ec =>
      obtain ⟨_, rfl⟩ := (complete_resolved _ _ _ _).mp taken
      cases ec with
      | some what => rw [onResolve, failed_resolves, single]
      | none => simp [onResolve, asyncConnect, single]
  | connected ec => simp [complete, connects] at taken
  | handshaken ec => simp [complete, handshakes] at taken
  | received ec message => simp [complete, reads] at taken
  | wrote index ec => simp [complete, writes] at taken

theorem leave_run_resolves (state : ConnectingClient) :
    (leaveRun state).client.world.host.pendingResolves = state.client.world.host.pendingResolves ∧
      (leaveRun state).user = state.user := by
  unfold leaveRun
  split <;> exact ⟨rfl, rfl⟩

theorem wake_up_under_way (state : ConnectingClient) (task : TaskUnderWay state) (worker : WorkerThread ClientTask)
    (woken : state.worker.wakeUp = some worker) : TaskUnderWay { state with worker := worker } := by
  obtain ⟨running, runnable, point⟩ := task
  rcases point with working | ⟨waiting, notified, _⟩
  · simp [WorkerThread.wakeUp, working] at woken
  · simp only [WorkerThread.wakeUp, waiting, notified, running, if_true, Bool.true_eq_false, if_false,
      Option.some.injEq] at woken
    subst worker
    exact ⟨rfl, runnable, .inl rfl⟩

theorem under_way_not_waiting (state : ConnectingClient) (task : TaskUnderWay state) :
    state.worker.waitUntilNotified = none := by
  rcases task.2.2 with working | ⟨waiting, _, _⟩
  · simp [WorkerThread.waitUntilNotified, working]
  · simp [WorkerThread.waitUntilNotified, waiting]

inductive ConnectDoes (state : ConnectingClient) : ConnectEvent → ConnectingClient → Prop where
  | connect (ipAddress port : String) (outside : state.user = .outside) :
      ConnectDoes state (.connect ipAddress port) { state with
        client := settleCall ((state.client.world.host.beginConnect ipAddress port none).map fun connection =>
          { state.client.world with host := connection })
        user := .begun }
  | execute (worker : WorkerThread ClientTask) (begun : state.user = .begun)
      (handed : state.worker.execute .runContext = some worker) :
      ConnectDoes state .execute { state with worker := worker, user := .executed }
  | asyncResolve (executed : state.user = .executed) :
      ConnectDoes state .asyncResolve { state with
        client := ⟨{ state.client.world with host := state.client.world.host.asyncResolve }, .running⟩
        user := .resolving }
  | leaveConnect (resolving : state.user = .resolving) :
      ConnectDoes state .leaveConnect { state with user := .returned }
  | waitUntilNotified (worker : WorkerThread ClientTask) (waits : state.worker.waitUntilNotified = some worker) :
      ConnectDoes state .waitUntilNotified { state with worker := worker }
  | wakeUp (worker : WorkerThread ClientTask) (wakes : state.worker.wakeUp = some worker) :
      ConnectDoes state .wakeUp { state with worker := worker }
  | run (working : state.worker.point = .working) (notYet : state.inRun = false) :
      ConnectDoes state .run (leaveRun state)
  | completed (completion : ClientCompletion) (outcome : Outcome WatchedClient) (inside : state.inRun = true)
      (done : complete watching state.client.world completion = some outcome) :
      ConnectDoes state (.completed completion) (leaveRun { state with client := settle outcome })

theorem connect_step_does (state next : ConnectingClient) (event : ConnectEvent)
    (taken : connectStep state event = some next) : ConnectDoes state event next := by
  simp only [connectStep, Option.ite_none_right_eq_some] at taken
  obtain ⟨_, taken⟩ := taken
  cases event with
  | connect ipAddress port =>
      simp only [Option.ite_none_right_eq_some, Option.some.injEq] at taken
      obtain ⟨outside, rfl⟩ := taken
      exact .connect ipAddress port outside
  | execute =>
      simp only [Option.ite_none_right_eq_some, Option.map_eq_some_iff] at taken
      obtain ⟨begun, worker, handed, rfl⟩ := taken
      exact .execute worker begun handed
  | asyncResolve =>
      simp only [Option.ite_none_right_eq_some, Option.some.injEq] at taken
      obtain ⟨executed, rfl⟩ := taken
      exact .asyncResolve executed
  | leaveConnect =>
      simp only [Option.ite_none_right_eq_some, Option.some.injEq] at taken
      obtain ⟨resolving, rfl⟩ := taken
      exact .leaveConnect resolving
  | waitUntilNotified =>
      obtain ⟨worker, waits, rfl⟩ := Option.map_eq_some_iff.mp taken
      exact .waitUntilNotified worker waits
  | wakeUp =>
      obtain ⟨worker, wakes, rfl⟩ := Option.map_eq_some_iff.mp taken
      exact .wakeUp worker wakes
  | run =>
      simp only [Option.ite_none_right_eq_some, Option.some.injEq] at taken
      obtain ⟨⟨working, notYet⟩, rfl⟩ := taken
      exact .run working notYet
  | completed completion =>
      simp only [Option.ite_none_right_eq_some, Option.map_eq_some_iff] at taken
      obtain ⟨inside, outcome, done, rfl⟩ := taken
      exact .completed completion outcome inside done

theorem before_step (state next : ConnectingClient) (event : ConnectEvent)
    (user : state.user = .outside ∨ state.user = .begun) (quiet : OnlyResolving state.client.world.host)
    (unresolved : state.client.world.host.pendingResolves = 0) (runnable : state.client.world.host.stopped = false)
    (running : state.worker.isRunning = true) (outside : state.inRun = false)
    (point : state.worker.point = .beforeWait ∨ state.worker.point = .waiting)
    (unnotified : state.worker.isNotified = false) (does : ConnectDoes state event next) :
    ConnectPhase next := by
  cases does with
  | connect ipAddress port _ =>
      have begun : (settleCall ((state.client.world.host.beginConnect ipAddress port none).map fun connection =>
          { state.client.world with host := connection })) =
          ⟨{ state.client.world with
            host := { state.client.world.host with ipAddress := ipAddress, port := port } }, .running⟩ := by
        simp [beginConnect, disconnect, quiet.1, settleCall]
      rw [begun]
      exact .before (.inr rfl) quiet unresolved runnable running outside point unnotified
  | execute worker _ handed =>
      rcases point with holding | waiting
      · simp [WorkerThread.execute, WorkerThread.holdsTaskMutex, holding] at handed
      · simp [WorkerThread.execute, WorkerThread.holdsTaskMutex, waiting] at handed
        subst worker
        exact .handedOver rfl quiet unresolved ⟨running, runnable, .inr ⟨rfl, rfl, outside⟩⟩ outside
  | asyncResolve executed => simp [executed] at user
  | leaveConnect resolving => simp [resolving] at user
  | waitUntilNotified worker waits =>
      simp only [WorkerThread.waitUntilNotified, Option.ite_none_right_eq_some, Option.some.injEq] at waits
      obtain ⟨_, rfl⟩ := waits
      exact .before user quiet unresolved runnable running outside (.inr rfl) rfl
  | wakeUp worker wakes =>
      simp only [WorkerThread.wakeUp, unnotified, if_true, Option.ite_none_right_eq_some, Option.some.injEq] at wakes
      obtain ⟨_, rfl⟩ := wakes
      exact .before user quiet unresolved runnable running outside point unnotified
  | run working _ => simp [working] at point
  | completed _ _ inside _ =>
      rw [outside] at inside
      cases inside

theorem handed_over_step (state next : ConnectingClient) (event : ConnectEvent) (user : state.user = .executed)
    (quiet : OnlyResolving state.client.world.host) (unresolved : state.client.world.host.pendingResolves = 0)
    (task : TaskUnderWay state) (outside : state.inRun = false) (allowed : RunAfterResolve state event)
    (does : ConnectDoes state event next) : ConnectPhase next := by
  cases does with
  | connect _ _ elsewhere => simp [user] at elsewhere
  | execute _ begun _ => simp [user] at begun
  | asyncResolve _ => exact .resolving (.inl rfl) quiet (by simp [asyncResolve, unresolved]) task
  | leaveConnect resolving => simp [user] at resolving
  | waitUntilNotified worker waits => simp [under_way_not_waiting state task] at waits
  | wakeUp worker wakes =>
      exact .handedOver user quiet unresolved (wake_up_under_way state task worker wakes) outside
  | run _ _ =>
      -- the worker has not been let into run() before the resolve
      simp [RunAfterResolve, user] at allowed
  | completed _ _ inside _ =>
      rw [outside] at inside
      cases inside

theorem resolving_step (state next : ConnectingClient) (event : ConnectEvent)
    (user : state.user = .resolving ∨ state.user = .returned) (quiet : OnlyResolving state.client.world.host)
    (resolve : state.client.world.host.pendingResolves = 1) (task : TaskUnderWay state)
    (does : ConnectDoes state event next) : ConnectPhase next := by
  cases does with
  | connect _ _ outside => simp [outside] at user
  | execute _ begun _ => simp [begun] at user
  | asyncResolve executed => simp [executed] at user
  | leaveConnect _ => exact .resolving (.inr rfl) quiet resolve task
  | waitUntilNotified worker waits => simp [under_way_not_waiting state task] at waits
  | wakeUp worker wakes => exact .resolving user quiet resolve (wake_up_under_way state task worker wakes)
  | run working _ =>
      -- the context has the resolve to wait for
      have busy : runReturns state.client.world.host = false := by
        simp [runReturns, task.2.1, outstandingWork, resolve]
      have entered : leaveRun state = { state with inRun := true } := by simp [leaveRun, busy]
      rw [entered]
      exact .resolving user quiet resolve ⟨task.1, task.2.1, .inl working⟩
  | completed completion outcome _ done =>
      obtain ⟨sameResolves, sameUser⟩ := leave_run_resolves { state with client := settle outcome }
      refine .resolved ?_ ?_
      · rw [sameUser]
        exact user
      · rw [sameResolves, settle_world]
        exact complete_resolving state.client.world completion outcome quiet resolve done

theorem resolved_step (state next : ConnectingClient) (event : ConnectEvent)
    (user : state.user = .resolving ∨ state.user = .returned) (handled : state.client.world.host.pendingResolves = 0)
    (does : ConnectDoes state event next) : ConnectPhase next := by
  cases does with
  | connect _ _ outside => simp [outside] at user
  | execute _ begun _ => simp [begun] at user
  | asyncResolve executed => simp [executed] at user
  | leaveConnect _ => exact .resolved (.inr rfl) handled
  | waitUntilNotified _ _ => exact .resolved user handled
  | wakeUp _ _ => exact .resolved user handled
  | run _ _ =>
      obtain ⟨sameResolves, sameUser⟩ := leave_run_resolves state
      refine .resolved ?_ (sameResolves.trans handled)
      rw [sameUser]
      exact user
  | completed completion outcome _ done =>
      obtain ⟨sameResolves, sameUser⟩ := leave_run_resolves { state with client := settle outcome }
      refine .resolved ?_ ?_
      · rw [sameUser]
        exact user
      · rw [sameResolves, settle_world]
        exact Nat.le_zero.mp (handled ▸ complete_resolves state.client.world completion outcome done)

theorem connect_phase_step (state next : ConnectingClient) (event : ConnectEvent) (phase : ConnectPhase state)
    (allowed : RunAfterResolve state event) (taken : connectStep state event = some next) : ConnectPhase next := by
  have does := connect_step_does state next event taken
  cases phase with
  | before user quiet unresolved runnable running outside point unnotified =>
      exact before_step state next event user quiet unresolved runnable running outside point unnotified does
  | handedOver user quiet unresolved task outside =>
      exact handed_over_step state next event user quiet unresolved task outside allowed does
  | resolving user quiet resolve task => exact resolving_step state next event user quiet resolve task does
  | resolved user handled => exact resolved_step state next event user handled does

theorem fresh_connection_phase : ConnectPhase freshConnection :=
  .before (.inl rfl) ⟨rfl, rfl, rfl, rfl, rfl⟩ rfl rfl rfl rfl (.inl rfl) rfl

theorem connect_kept_if_run_after_resolve (events : List ConnectEvent) (final : ConnectingClient)
    (reached : Transition.run connectStep freshConnection events = some final)
    (late : Transition.Meets connectStep RunAfterResolve freshConnection events) : ¬ ConnectLost final := by
  apply connect_phase_kept
  exact Transition.run_keeps_guarded connectStep RunAfterResolve ConnectPhase
    (fun state event next phase allowed taken => connect_phase_step state next event phase allowed taken)
    events freshConnection final fresh_connection_phase late reached

def resolvedInTime : List ConnectEvent :=
  [.waitUntilNotified, .wakeUp, .connect "localhost" "7777", .execute, .wakeUp, .asyncResolve, .run, .leaveConnect,
    .completed (.resolved none), .completed (.connected (some "connection refused")), .waitUntilNotified]

theorem connect_kept_resolved_in_time :
    ∃ final, Transition.run connectStep freshConnection resolvedInTime = some final ∧ ¬ ConnectLost final :=
  ⟨_, rfl, connect_kept_if_run_after_resolve resolvedInTime _ rfl (by decide)⟩

theorem early_run_loses_connect :
    ¬ ∀ (events : List ConnectEvent) (final : ConnectingClient),
      Transition.run connectStep freshConnection events = some final → ¬ ConnectLost final := by
  intro always
  have kept := always [.waitUntilNotified, .connect "localhost" "7777", .execute, .wakeUp, .run, .asyncResolve,
    .leaveConnect, .waitUntilNotified] _ rfl
  exact kept (by decide)

end NetworkWrapper
