import NetworkWrapper.ClientLocks
import NetworkWrapper.FirstConnect

set_option autoImplicit false

-- The whole life of a native client: its user thread connects again and again and
-- makes other calls in between, and its callbacks make calls on the worker thread.
namespace NetworkWrapper

open WebSocketConnection

inductive LifeEvent where
  | connect (ipAddress port : String) (closeError : ErrorCode)
  | execute
  | asyncResolve
  | leaveConnect
  | call (made : ClientCall)
  | waitUntilNotified
  | wakeUp
  | run
  | leaveRun
  | completed (completion : ClientCompletion) (calls : List ClientCall)
deriving DecidableEq, Repr

def outsideConnect (state : ConnectingClient) : Bool := state.user = .outside || state.user = .returned

def ClientCall.isConnect : ClientCall → Bool
  | .connect _ _ _ => true
  | _ => false

-- A disconnect() that throws ends connect() before it hands over the run task.
def beginAgain (state : ConnectingClient) (ipAddress port : String) (closeError : ErrorCode) : ConnectingClient :=
  let world := state.client.world
  match world.host.beginConnect ipAddress port closeError with
  | .returned connection =>
      { state with client := ⟨{ world with host := connection }, .running⟩, user := .begun }
  | stopped => { state with client := settleCall (onClient world stopped), user := .outside }

-- A handler that takes a lock of its own thread again never ends. One that is
-- under way when another thread stops the context still ends, and run() returns.
def lifeStep (state : ConnectingClient) (event : LifeEvent) : Option ConnectingClient :=
  if state.client.ending = .running then
    let world := state.client.world
    match event with
    | .connect ipAddress port closeError =>
        if outsideConnect state then some (beginAgain state ipAddress port closeError) else none
    | .execute =>
        if state.user = .begun then
          (state.worker.execute .runContext).map fun worker => { state with worker := worker, user := .executed }
        else none
    | .asyncResolve =>
        if state.user = .executed then
          some { state with
            client := ⟨{ world with host := world.host.asyncResolve }, .running⟩
            user := .resolving }
        else none
    | .leaveConnect => if state.user = .resolving then some { state with user := .returned } else none
    | .call made =>
        if outsideConnect state && !made.isConnect then
          some { state with client := settleCall (onClient world (made.perform world.host)) }
        else none
    | .waitUntilNotified => state.worker.waitUntilNotified.map fun worker => { state with worker := worker }
    | .wakeUp => state.worker.wakeUp.map fun worker => { state with worker := worker }
    | .run =>
        if state.worker.point = .working ∧ state.inRun = false then some (leaveRun state) else none
    | .leaveRun =>
        if state.inRun = true ∧ runReturns world.host = true then some (leaveRun state) else none
    | .completed completion calls =>
        if state.inRun = true ∧ handlerSafe world.host completion calls = true then
          (complete (answering calls) world completion).map fun outcome =>
            leaveRun { state with client := settle outcome }
        else none
  else none

inductive LifeDoes (state : ConnectingClient) : LifeEvent → ConnectingClient → Prop where
  | connect (ipAddress port : String) (closeError : ErrorCode) (outside : outsideConnect state = true) :
      LifeDoes state (.connect ipAddress port closeError) (beginAgain state ipAddress port closeError)
  | execute (worker : WorkerThread ClientTask) (begun : state.user = .begun)
      (handed : state.worker.execute .runContext = some worker) :
      LifeDoes state .execute { state with worker := worker, user := .executed }
  | asyncResolve (executed : state.user = .executed) :
      LifeDoes state .asyncResolve { state with
        client := ⟨{ state.client.world with host := state.client.world.host.asyncResolve }, .running⟩
        user := .resolving }
  | leaveConnect (resolving : state.user = .resolving) :
      LifeDoes state .leaveConnect { state with user := .returned }
  | call (made : ClientCall) (outside : outsideConnect state = true) (noConnect : made.isConnect = false) :
      LifeDoes state (.call made)
        { state with client := settleCall (onClient state.client.world (made.perform state.client.world.host)) }
  | waitUntilNotified (worker : WorkerThread ClientTask) (waits : state.worker.waitUntilNotified = some worker) :
      LifeDoes state .waitUntilNotified { state with worker := worker }
  | wakeUp (worker : WorkerThread ClientTask) (wakes : state.worker.wakeUp = some worker) :
      LifeDoes state .wakeUp { state with worker := worker }
  | run (working : state.worker.point = .working) (notYet : state.inRun = false) :
      LifeDoes state .run (leaveRun state)
  | leaveRun (inside : state.inRun = true) (returns : runReturns state.client.world.host = true) :
      LifeDoes state .leaveRun (leaveRun state)
  | completed (completion : ClientCompletion) (calls : List ClientCall) (outcome : Outcome WatchedClient)
      (inside : state.inRun = true) (safe : handlerSafe state.client.world.host completion calls = true)
      (done : complete (answering calls) state.client.world completion = some outcome) :
      LifeDoes state (.completed completion calls) (leaveRun { state with client := settle outcome })

theorem life_step_does (state next : ConnectingClient) (event : LifeEvent)
    (taken : lifeStep state event = some next) : LifeDoes state event next := by
  simp only [lifeStep, Option.ite_none_right_eq_some] at taken
  obtain ⟨_, taken⟩ := taken
  cases event with
  | connect ipAddress port closeError =>
      simp only [Option.ite_none_right_eq_some, Option.some.injEq] at taken
      obtain ⟨outside, rfl⟩ := taken
      exact .connect ipAddress port closeError outside
  | execute =>
      simp only [Option.ite_none_right_eq_some, Option.map_eq_some_iff] at taken
      obtain ⟨begun, worker, handed, rfl⟩ := taken
      exact .execute worker begun handed
  | asyncResolve =>
      simp only [Option.ite_none_right_eq_some, Option.some.injEq] at taken
      obtain ⟨executed, rfl⟩ := taken
      exact .asyncResolve executed
  | leaveConnect =>
      simp only [Option.ite_none_right_eq_some, Option.some.injEq] at taken
      obtain ⟨resolving, rfl⟩ := taken
      exact .leaveConnect resolving
  | call made =>
      simp only [Option.ite_none_right_eq_some, Option.some.injEq, Bool.and_eq_true, Bool.not_eq_true'] at taken
      obtain ⟨⟨outside, noConnect⟩, rfl⟩ := taken
      exact .call made outside noConnect
  | waitUntilNotified =>
      obtain ⟨worker, waits, rfl⟩ := Option.map_eq_some_iff.mp taken
      exact .waitUntilNotified worker waits
  | wakeUp =>
      obtain ⟨worker, wakes, rfl⟩ := Option.map_eq_some_iff.mp taken
      exact .wakeUp worker wakes
  | run =>
      simp only [Option.ite_none_right_eq_some, Option.some.injEq] at taken
      obtain ⟨⟨working, notYet⟩, rfl⟩ := taken
      exact .run working notYet
  | leaveRun =>
      simp only [Option.ite_none_right_eq_some, Option.some.injEq] at taken
      obtain ⟨⟨inside, returns⟩, rfl⟩ := taken
      exact .leaveRun inside returns
  | completed completion calls =>
      simp only [Option.ite_none_right_eq_some, Option.map_eq_some_iff] at taken
      obtain ⟨⟨inside, safe⟩, outcome, done, rfl⟩ := taken
      exact .completed completion calls outcome inside safe done

-- The worker is about to call run(), after the last connect() has started to
-- resolve the address.
def AboutToRun (state : ConnectingClient) : Prop :=
  state.client.ending = .running ∧ state.worker.point = .working ∧ state.inRun = false ∧
    (state.user = .resolving ∨ state.user = .returned)

-- run() finds the context running and stays in it until the resolve is handled.
def ServesResolve (state : ConnectingClient) : Prop :=
  state.client.world.host.stopped = false ∧
    ∃ next, lifeStep state .run = some next ∧ next.inRun = true ∧ 0 < next.client.world.host.pendingResolves

def ContextStopped (connection : WebSocketConnection) : Prop := connection.stopped = true

theorem calls_stay_stopped : CallRule ContextStopped where
  stopped connection stopped := by
    by_cases connected : connection.isConnected = true
    · simp [ContextStopped, stop, connected]
    · simpa [ContextStopped, stop, connected] using stopped
  sent connection inData _ given stopped := by
    rw [locked_send_nonempty connection inData given]
    exact stopped
  addressed _ _ _ stopped := stopped
  resolving _ stopped := stopped

-- What holds once the worker has called run(), and for good: nothing restarts the
-- context.
def HasRun (state : ConnectingClient) : Prop := state.inRun = true ∨ ContextStopped state.client.world.host

theorem leave_run_has_run (state : ConnectingClient) : HasRun (leaveRun state) := by
  by_cases returns : runReturns state.client.world.host = true
  · exact .inr (by simp [ContextStopped, leaveRun, returns])
  · exact .inl (by simp [leaveRun, returns])

theorem begin_again_has_run (state : ConnectingClient) (ipAddress port : String) (closeError : ErrorCode)
    (earlier : HasRun state) : HasRun (beginAgain state ipAddress port closeError) := by
  rcases earlier with inside | stopped
  · refine .inl ?_
    unfold beginAgain
    dsimp only
    split <;> exact inside
  · refine .inr ?_
    have kept := begin_connect_keeps ContextStopped calls_stay_stopped state.client.world.host ipAddress port closeError stopped
    unfold beginAgain
    dsimp only
    split
    · rename_i begun
      rw [begun] at kept
      exact kept
    · simpa only [settle_call_world, onClient, Outcome.map_world] using kept

theorem has_run_step (state next : ConnectingClient) (event : LifeEvent) (earlier : HasRun state)
    (taken : lifeStep state event = some next) : HasRun next := by
  cases life_step_does state next event taken with
  | connect ipAddress port closeError _ => exact begin_again_has_run state ipAddress port closeError earlier
  | execute _ _ _ => exact earlier
  | asyncResolve _ => exact earlier
  | leaveConnect _ => exact earlier
  | call made _ _ =>
      refine earlier.imp_right fun stopped => ?_
      simpa only [settle_call_world, onClient, Outcome.map_world] using
        perform_keeps ContextStopped calls_stay_stopped made state.client.world.host stopped
  | waitUntilNotified _ _ => exact earlier
  | wakeUp _ _ => exact earlier
  | run _ _ => exact leave_run_has_run state
  | leaveRun _ _ => exact leave_run_has_run state
  | completed _ _ _ _ _ _ => exact leave_run_has_run _

structure NeverRan (state : ConnectingClient) : Prop where
  outside : state.inRun = false
  disconnected : state.client.world.host.isConnected = false
  runnable : state.client.world.host.stopped = false
  unresolved : state.user = .resolving ∨ state.user = .returned → 0 < state.client.world.host.pendingResolves

theorem perform_disconnected (call : ClientCall) (connection : WebSocketConnection)
    (disconnected : connection.isConnected = false) (noConnect : call.isConnect = false) :
    call.perform connection = .returned connection := by
  cases call with
  | sendUtf8Text inText => simp [ClientCall.perform, sendUtf8Text, sendBinary, disconnected]
  | sendBinary inData => simp [ClientCall.perform, sendBinary, disconnected]
  | disconnect closeError => simp [ClientCall.perform, disconnect, disconnected]
  | connect ipAddress port closeError => cases noConnect
  | isConnected => rfl

theorem begin_again_disconnected (state : ConnectingClient) (ipAddress port : String) (closeError : ErrorCode)
    (disconnected : state.client.world.host.isConnected = false) :
    beginAgain state ipAddress port closeError = { state with
      client := ⟨{ state.client.world with
        host := { state.client.world.host with ipAddress := ipAddress, port := port } }, .running⟩
      user := .begun } := by
  simp [beginAgain, beginConnect, disconnect, disconnected]

theorem never_ran_step (state next : ConnectingClient) (event : LifeEvent) (never : NeverRan state)
    (noRun : event ≠ .run) (taken : lifeStep state event = some next) : NeverRan next := by
  cases life_step_does state next event taken with
  | connect ipAddress port closeError _ =>
      rw [begin_again_disconnected state ipAddress port closeError never.disconnected]
      exact ⟨never.outside, never.disconnected, never.runnable, by simp⟩
  | execute _ _ _ => exact ⟨never.outside, never.disconnected, never.runnable, by simp⟩
  | asyncResolve _ => exact ⟨never.outside, never.disconnected, never.runnable, fun _ => Nat.succ_pos _⟩
  | leaveConnect resolving =>
      exact ⟨never.outside, never.disconnected, never.runnable, fun _ => never.unresolved (.inl resolving)⟩
  | call made _ noConnect =>
      rw [perform_disconnected made _ never.disconnected noConnect]
      exact ⟨never.outside, never.disconnected, never.runnable, never.unresolved⟩
  | waitUntilNotified _ _ => exact ⟨never.outside, never.disconnected, never.runnable, never.unresolved⟩
  | wakeUp _ _ => exact ⟨never.outside, never.disconnected, never.runnable, never.unresolved⟩
  | run _ _ => exact absurd rfl noRun
  | leaveRun inside _ => simp [never.outside] at inside
  | completed _ _ _ inside _ _ => simp [never.outside] at inside

theorem run_step_has_run (state next : ConnectingClient) (taken : lifeStep state .run = some next) : HasRun next := by
  cases life_step_does state next .run taken with
  | run _ _ => exact leave_run_has_run state

theorem never_ran_serves (state : ConnectingClient) (never : NeverRan state) (about : AboutToRun state) :
    ServesResolve state := by
  obtain ⟨running, working, outside, issued⟩ := about
  have pending := never.unresolved issued
  have busy : runReturns state.client.world.host = false := by
    simp [runReturns, never.runnable, outstandingWork, Nat.ne_of_gt pending]
  refine ⟨never.runnable, { state with inRun := true }, ?_, rfl, pending⟩
  simp [lifeStep, running, working, outside, leaveRun, busy]

theorem run_serves_resolve_iff (events : List LifeEvent) (state : ConnectingClient)
    (reached : Transition.run lifeStep freshConnection events = some state) (about : AboutToRun state) :
    ServesResolve state ↔ .run ∉ events := by
  have noRuns : Transition.Meets lifeStep (fun _ event => event ≠ .run) freshConnection events ↔ .run ∉ events := by
    rw [Transition.meets_events lifeStep (fun event => event ≠ .run) freshConnection state events reached]
    exact List.forall_mem_ne'
  rw [← noRuns]
  constructor
  · intro serves
    by_contra ranBefore
    have earlier : HasRun state := Transition.run_breaks_guard lifeStep (fun _ event => event ≠ .run) HasRun
      (fun middle event next ran taken => run_step_has_run middle next (not_not.mp ran ▸ taken))
      (fun middle event next sofar taken => has_run_step middle next event sofar taken)
      events freshConnection state ranBefore reached
    rcases earlier with inside | stopped
    · rw [about.2.2.1] at inside
      cases inside
    · exact absurd (serves.1.symm.trans stopped) (by simp)
  · intro met
    have never : NeverRan state := Transition.run_keeps_guarded lifeStep (fun _ event => event ≠ .run) NeverRan
      (fun middle event next sofar noRun taken => never_ran_step middle next event sofar noRun taken)
      events freshConnection state ⟨rfl, rfl, rfl, by simp [freshConnection]⟩ met reached
    exact never_ran_serves state never about

instance (state : ConnectingClient) : Decidable (AboutToRun state) := inferInstanceAs (Decidable (_ ∧ _))

def firstAttempt : List LifeEvent :=
  [.call (.sendUtf8Text [104]), .waitUntilNotified, .connect "localhost" "7777" none, .execute, .asyncResolve, .wakeUp]

theorem first_attempt_serves_resolve :
    ∃ state, Transition.run lifeStep freshConnection firstAttempt = some state ∧ ServesResolve state :=
  ⟨_, rfl, (run_serves_resolve_iff firstAttempt _ rfl (by decide)).mpr (by decide)⟩

def secondAttempt : List LifeEvent :=
  firstAttempt ++ [.leaveConnect, .run, .completed (.resolved (some "Host not found")) [], .waitUntilNotified,
    .connect "localhost" "7777" none, .execute, .asyncResolve, .leaveConnect, .wakeUp]

theorem second_attempt_finds_stopped :
    ¬ ∀ (events : List LifeEvent) (state : ConnectingClient),
      Transition.run lifeStep freshConnection events = some state → AboutToRun state → ServesResolve state := by
  intro always
  have serves := always secondAttempt _ rfl (by decide)
  have found := serves.1
  revert found
  decide

end NetworkWrapper
