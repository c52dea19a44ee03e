import NetworkWrapper.ClientLife

set_option autoImplicit false

-- Who owns a native client: the user's references and the handlers that wait in
-- the client's own io_context, each with its shared_from_this().
namespace NetworkWrapper

open WebSocketConnection

inductive Releaser where
  | user
  | handler
deriving DecidableEq, Repr

-- closedByUser is ghost state: disconnect() was called while the client was
-- connected. destroyed says who released the last owner.
structure OwnedClient where
  life : ConnectingClient
  userRefs : Nat
  closedByUser : Bool
  destroyed : Option Releaser

def freshOwned : OwnedClient :=
  { life := freshConnection, userRefs := 1, closedByUser := false, destroyed := none }

def OwnedClient.connection (state : OwnedClient) : WebSocketConnection := state.life.client.world.host

inductive OwnerEvent where
  | copyReference
  | dropReference
  | userStep (event : LifeEvent)
  | workerStep (event : LifeEvent)
  | handled (completion : ClientCompletion) (calls : List ClientCall) (drops : Nat)
deriving DecidableEq, Repr

def LifeEvent.ofUser : LifeEvent → Bool
  | .connect _ _ _ => true
  | .execute => true
  | .asyncResolve => true
  | .leaveConnect => true
  | .call _ => true
  | _ => false

def LifeEvent.ofWorker : LifeEvent → Bool
  | .waitUntilNotified => true
  | .wakeUp => true
  | .run => true
  | .leaveRun => true
  | _ => false

def LifeEvent.isDisconnect : LifeEvent → Bool
  | .call (.disconnect _) => true
  | _ => false

def disconnects : List ClientCall → Bool
  | [] => false
  | .sendUtf8Text inText :: rest => inText.takeWhile (· ≠ 0) ≠ [] && disconnects rest
  | .sendBinary inData :: rest => inData ≠ [] && disconnects rest
  | .disconnect _ :: _ => true
  | .connect _ _ _ :: _ => false
  | .isConnected :: rest => disconnects rest

def closesInCallback (connection : WebSocketConnection) (completion : ClientCompletion) (calls : List ClientCall) : Bool :=
  match invocation connection completion with
  | none => false
  | some called => called.connected && disconnects calls

-- The user's last reference is not dropped while the user is inside connect().
def OwnedClient.mayDrop (state : OwnedClient) (drops : Nat) : Bool :=
  drops < state.userRefs || drops = state.userRefs && outsideConnect state.life

-- A handler gives its own reference up when it ends; a callback may also drop
-- references of the user's, after the calls it makes through them.
def ownerStep (state : OwnedClient) (event : OwnerEvent) : Option OwnedClient :=
  if state.destroyed = none then
    match event with
    | .copyReference => if 0 < state.userRefs then some { state with userRefs := state.userRefs + 1 } else none
    | .dropReference =>
        if state.mayDrop 1 = true then
          some { state with
            userRefs := state.userRefs - 1
            destroyed := if state.userRefs - 1 + outstandingWork state.connection = 0 then some .user else none }
        else none
    | .userStep event =>
        if event.ofUser = true ∧ 0 < state.userRefs then
          (lifeStep state.life event).map fun life => { state with
            life := life
            closedByUser := state.closedByUser || event.isDisconnect && state.connection.isConnected }
        else none
    | .workerStep event =>
        if event.ofWorker = true then (lifeStep state.life event).map fun life => { state with life := life } else none
    | .handled completion calls drops =>
        if state.mayDrop drops = true ∧ (0 < state.userRefs ∨ calls = []) then
          (lifeStep state.life (.completed completion calls)).map fun life => { state with
            life := life
            userRefs := state.userRefs - drops
            closedByUser := state.closedByUser || closesInCallback state.connection completion calls
            destroyed := if life.client.ending = .running ∧
                state.userRefs - drops + outstandingWork life.client.world.host = 0 then some .handler else none }
        else none
  else none

-- The user has disconnected and let go, the worker waits with nothing to run, and
-- the client is still owned.
def Leaked (state : OwnedClient) : Prop :=
  state.closedByUser = true ∧ state.userRefs = 0 ∧ state.destroyed = none ∧
    state.life.worker.point = .waiting ∧ state.life.worker.isNotified = false ∧ state.life.inRun = false ∧
      0 < outstandingWork state.connection

instance (state : OwnedClient) : Decidable (Leaked state) := inferInstanceAs (Decidable (_ ∧ _))

def sendsFirst : List ClientCall → Bool
  | .sendUtf8Text inText :: _ => inText.takeWhile (· ≠ 0) ≠ []
  | .sendBinary inData :: _ => inData ≠ []
  | .isConnected :: rest => sendsFirst rest
  | _ => false

def errorSends (connection : WebSocketConnection) (calls : List ClientCall) : Bool :=
  connection.isConnected && connection.buffersToSend.isEmpty && sendsFirst calls

-- Whether the handler starts an operation, which then owns the client.
def startsAnother (connection : WebSocketConnection) (calls : List ClientCall) : ClientCompletion → Bool
  | .resolved ec => ec.isNone || errorSends connection calls
  | .connected ec => ec.isNone || errorSends connection calls
  | .handshaken ec => ec.isNone || errorSends connection calls
  | .received ec _ => connection.isConnected && (ec.isNone || errorSends connection calls)
  | .wrote _ ec => connection.isConnected && ec.isNone && decide (1 < connection.buffersToSend.length)

def KeepsOwner (state : OwnedClient) : OwnerEvent → Prop
  | .dropReference => state.userRefs = 1 → state.closedByUser = true → outstandingWork state.connection = 0
  | .handled completion calls drops => drops = state.userRefs →
      (0 < state.userRefs → (state.closedByUser || closesInCallback state.connection completion calls) = false) ∧
        (1 < outstandingWork state.connection ∨ startsAnother state.connection calls completion = true)
  | _ => True

def AtLeast (count : Nat) (connection : WebSocketConnection) : Prop := count ≤ outstandingWork connection

theorem stop_outstanding (connection : WebSocketConnection) :
    outstandingWork connection.stop = outstandingWork connection := by
  by_cases connected : connection.isConnected = true
  · simp [stop, connected, outstandingWork]
  · simp [stop, connected]

theorem send_starts_write (connection : WebSocketConnection) (inData : Bytes) (connected : connection.isConnected = true)
    (idle : connection.buffersToSend = []) (given : inData ≠ []) :
    outstandingWork (connection.sendBinary inData).2.world = outstandingWork connection + 1 := by
  simp [sendBinary, connected, locked_send_nonempty connection inData given, outstandingWork, idle]
  omega

theorem calls_at_least (count : Nat) : CallRule (AtLeast count) where
  stopped connection enough := by
    rw [AtLeast, stop_outstanding]
    exact enough
  sent connection inData _ given enough := by
    rw [locked_send_nonempty connection inData given]
    exact enough.trans (by simp only [Outcome.world_returned, outstandingWork, List.length_append]; omega)
  addressed _ _ _ enough := enough
  resolving _ enough := enough.trans (by simp only [outstandingWork, asyncResolve]; omega)

theorem handlers_at_least (count : Nat) : HandlerRule (AtLeast count) where
  connectStarted connection enough := enough.trans (by simp only [outstandingWork, asyncConnect]; omega)
  handshakeStarted connection enough := enough.trans (by simp only [outstandingWork, asyncHandshake]; omega)
  opened connection enough := enough.trans (by simp only [outstandingWork, doRead]; omega)
  readAgain connection enough := enough.trans (by simp only [outstandingWork, doRead]; omega)
  cleared _ enough := enough
  popped connection enough := by
    rw [pop_queued]
    exact enough.trans (by simp [outstandingWork])
  failed connection enough := by
    rw [AtLeast, stop_outstanding]
    exact enough

theorem end_operation_outstanding (connection : WebSocketConnection) (completion : ClientCompletion) :
    outstandingWork connection ≤ outstandingWork (endOperation connection completion) + 1 := by
  cases completion with
  | wrote index ec =>
      simp only [endOperation, outstandingWork, List.length_eraseIdx]
      split <;> omega
  | resolved ec => simp only [endOperation, outstandingWork]; omega
  | connected ec => simp only [endOperation, outstandingWork]; omega
  | handshaken ec => simp only [endOperation, outstandingWork]; omega
  | received ec message => simp only [endOperation, outstandingWork]; omega

theorem complete_outstanding (world : WatchedClient) (completion : ClientCompletion) (calls : List ClientCall)
    (outcome : Outcome WatchedClient) (taken : complete (answering calls) world completion = some outcome) :
    outstandingWork world.host ≤ outstandingWork outcome.world.host + 1 := by
  have ended := end_operation_outstanding world.host completion
  have kept : AtLeast (outstandingWork world.host - 1) outcome.world.host :=
    complete_keeps (answering calls) _ (handlers_at_least _) (answering_keeps _ (calls_at_least _) calls) world completion
      outcome (by simp only [AtLeast]; omega) taken
  simp only [AtLeast] at kept
  omega

theorem callback_at_least (count : Nat) (calls : List ClientCall) (world : WatchedClient) (enough : AtLeast count world.host) :
    AtLeast count (performCalls (fun _ _ log => log) calls world).world.host := by
  refine perform_calls_keeps _ (fun world : WatchedClient => AtLeast count world.host) (fun call later sofar => ?_) calls
    world enough
  rw [performCall, Outcome.map_world]
  exact perform_keeps _ (calls_at_least count) call later.host sofar

theorem call_then_rest (count : Nat) (call : ClientCall) (rest : List ClientCall) (world : WatchedClient)
    (enough : AtLeast count (call.perform world.host).world) :
    AtLeast count (performCalls (fun _ _ log => log) (call :: rest) world).world.host := by
  refine Outcome.and_then_keeps (fun world : WatchedClient => AtLeast count world.host) _ _ ?_ fun later sofar =>
    callback_at_least count rest later sofar
  rw [performCall, Outcome.map_world]
  exact enough

theorem first_send_owns (calls : List ClientCall) (world : WatchedClient)
    (sends : errorSends world.host calls = true) :
    AtLeast (outstandingWork world.host + 1) (performCalls (fun _ _ log => log) calls world).world.host := by
  simp only [errorSends, Bool.and_eq_true, List.isEmpty_iff] at sends
  obtain ⟨⟨connected, idle⟩, first⟩ := sends
  induction calls with
  | nil => cases first
  | cons call rest ih =>
      cases call with
      | sendUtf8Text inText =>
          refine call_then_rest _ (.sendUtf8Text inText) rest world (Nat.le_of_eq ?_)
          exact (send_starts_write world.host _ connected idle (by simpa [sendsFirst] using first)).symm
      | sendBinary inData =>
          refine call_then_rest _ (.sendBinary inData) rest world (Nat.le_of_eq ?_)
          exact (send_starts_write world.host _ connected idle (by simpa [sendsFirst] using first)).symm
      | disconnect closeError => cases first
      | connect ipAddress port closeError => cases first
      | isConnected => exact ih first

theorem failed_owns (calls : List ClientCall) (what : String) (world : WatchedClient)
    (sends : errorSends world.host calls = true) :
    AtLeast (outstandingWork world.host + 1) (failed (answering calls) what world).world.host := by
  refine Outcome.and_then_keeps (fun world : WatchedClient => AtLeast _ world.host) _ _ ?_ fun later sofar =>
    (handlers_at_least _).failed later.host sofar
  exact first_send_owns calls { world with app := world.app ++ [.onError what] } sends

theorem on_read_failed (callbacks : ClientCallbacks (List ClientCallback)) (what : String) (world : WatchedClient)
    (connected : world.host.isConnected = true) : onRead callbacks (some what) world = failed callbacks what world := by
  simp [onRead, connected]

theorem ended_owns (world : WatchedClient) (completion : ClientCompletion) (outcome : Outcome WatchedClient)
    (started : AtLeast (outstandingWork (endOperation world.host completion) + 1) outcome.world.host) :
    outstandingWork world.host ≤ outstandingWork outcome.world.host :=
  (end_operation_outstanding world.host completion).trans started

theorem end_operation_error_sends (connection : WebSocketConnection) (completion : ClientCompletion)
    (calls : List ClientCall) : errorSends (endOperation connection completion) calls = errorSends connection calls := by
  cases completion <;> rfl

theorem ended_failed_owns (world : WatchedClient) (completion : ClientCompletion) (calls : List ClientCall)
    (what : String) (sends : errorSends world.host calls = true) :
    AtLeast (outstandingWork (endOperation world.host completion) + 1)
      (failed (answering calls) what { world with host := endOperation world.host completion }).world.host :=
  failed_owns calls what { world with host := endOperation world.host completion }
    ((end_operation_error_sends world.host completion calls).trans sends)

theorem read_again_owns (calls : List ClientCall) (world : WatchedClient) (connected : world.host.isConnected = true)
    (returns : (settle (onRead (answering calls) none world)).ending = .running) :
    AtLeast (outstandingWork world.host + 1) (onRead (answering calls) none world).world.host := by
  have handled : onRead (answering calls) none world =
      (performCalls (fun _ _ log => log) calls { world with app := world.app ++ [.onMessage world.host.readBuffer] }).andThen
        fun later => .returned { later with host := { later.host with readBuffer := [] }.doRead } := by
    simp [onRead, connected, answering, noteClient]
  have enough := callback_at_least (outstandingWork world.host) calls
    { world with app := world.app ++ [.onMessage world.host.readBuffer] } (Nat.le_refl _)
  rw [handled] at returns ⊢
  cases called : performCalls (fun _ _ log => log) calls
      { world with app := world.app ++ [.onMessage world.host.readBuffer] } with
  | returned later =>
      rw [called] at enough
      simp only [AtLeast, Outcome.world_returned] at enough
      simp only [AtLeast, Outcome.returned_and_then, Outcome.world_returned, doRead, outstandingWork] at enough ⊢
      omega
  | threw what later =>
      rw [called] at returns
      cases returns
  | undefined later =>
      rw [called] at returns
      cases returns

theorem started_outstanding (world : WatchedClient) (completion : ClientCompletion) (calls : List ClientCall)
    (outcome : Outcome WatchedClient) (taken : complete (answering calls) world completion = some outcome)
    (returns : (settle outcome).ending = .running) (starts : startsAnother world.host calls completion = true) :
    outstandingWork world.host ≤ outstandingWork outcome.world.host := by
  apply ended_owns world completion outcome
  cases completion with
  | resolved ec =>
      obtain ⟨_, rfl⟩ := (complete_resolved _ _ _ _).mp taken
      cases ec with
      | none =>
          simp only [AtLeast, onResolve, Outcome.world_returned, asyncConnect, endOperation, outstandingWork]
          omega
      | some what => exact ended_failed_owns world (.resolved (some what)) calls what (by simpa [startsAnother] using starts)
  | connected ec =>
      obtain ⟨_, rfl⟩ := (complete_connected _ _ _ _).mp taken
      cases ec with
      | none =>
          simp only [AtLeast, onConnect, Outcome.world_returned, asyncHandshake, endOperation, outstandingWork]
          omega
      | some what => exact ended_failed_owns world (.connected (some what)) calls what (by simpa [startsAnother] using starts)
  | handshaken ec =>
      obtain ⟨_, rfl⟩ := (complete_handshaken _ _ _ _).mp taken
      cases ec with
      | none =>
          refine callback_at_least _ calls _ ?_
          simp only [AtLeast, doRead, endOperation, outstandingWork]
          omega
      | some what => exact ended_failed_owns world (.handshaken (some what)) calls what (by simpa [startsAnother] using starts)
  | received ec message =>
      obtain ⟨_, rfl⟩ := (complete_received _ _ _ _ _).mp taken
      simp only [startsAnother, Bool.and_eq_true] at starts
      obtain ⟨connected, starts⟩ := starts
      cases ec with
      | none =>
          exact read_again_owns calls { world with host := endOperation world.host (.received none message) }
            connected returns
      | some what =>
          have fails := on_read_failed (answering calls) what
            { world with host := endOperation world.host (.received (some what) message) } connected
          have owns := ended_failed_owns world (.received (some what) message) calls what (by simpa using starts)
          rw [← fails] at owns
          exact owns
  | wrote index ec =>
      obtain ⟨_, rfl⟩ := (complete_wrote _ _ _ _ _).mp taken
      simp only [startsAnother, Bool.and_eq_true, Option.isNone_iff_eq_none, decide_eq_true_eq] at starts
      obtain ⟨⟨connected, rfl⟩, more⟩ := starts
      simp only [onWrite, connected, Bool.true_eq_false, if_false, Outcome.map_world, pop_queued, Outcome.world_returned,
        AtLeast, endOperation, outstandingWork, List.length_append, List.length_take, List.length_tail]
      omega

theorem complete_pending (world : WatchedClient) (completion : ClientCompletion) (calls : List ClientCall)
    (outcome : Outcome WatchedClient) (taken : complete (answering calls) world completion = some outcome) :
    0 < outstandingWork world.host := by
  unfold outstandingWork
  cases completion with
  | resolved ec =>
      have pending := ((complete_resolved _ _ _ _).mp taken).1
      omega
  | connected ec =>
      have pending := ((complete_connected _ _ _ _).mp taken).1
      omega
  | handshaken ec =>
      have pending := ((complete_handshaken _ _ _ _).mp taken).1
      omega
  | received ec message =>
      have pending := ((complete_received _ _ _ _ _).mp taken).1.1
      omega
  | wrote index ec =>
      have pending := ((complete_wrote _ _ _ _ _).mp taken).1
      omega

theorem leave_run_outstanding (state : ConnectingClient) :
    (leaveRun state).client.ending = state.client.ending ∧
      outstandingWork (leaveRun state).client.world.host = outstandingWork state.client.world.host := by
  by_cases returns : runReturns state.client.world.host = true
  · simp [leaveRun, returns, outstandingWork]
  · simp [leaveRun, returns]

theorem handled_outstanding (life next : ConnectingClient) (completion : ClientCompletion) (calls : List ClientCall)
    (taken : lifeStep life (.completed completion calls) = some next) (returns : next.client.ending = .running)
    (owned : 1 < outstandingWork life.client.world.host ∨
      startsAnother life.client.world.host calls completion = true) :
    0 < outstandingWork next.client.world.host := by
  cases life_step_does life next (.completed completion calls) taken with
  | completed _ _ outcome _ _ done =>
      obtain ⟨sameEnding, sameWork⟩ := leave_run_outstanding { life with client := settle outcome }
      rw [sameEnding] at returns
      rw [sameWork, settle_world]
      rcases owned with others | starts
      · have fewer := complete_outstanding life.client.world completion calls outcome done
        omega
      · have same := started_outstanding life.client.world completion calls outcome done returns starts
        have pending := complete_pending life.client.world completion calls outcome done
        omega

structure OwnedSoundly (state : OwnedClient) : Prop where
  letGo : state.destroyed = none → state.userRefs = 0 → state.closedByUser = false
  notByHandler : state.destroyed ≠ some .handler

theorem no_calls_close_nothing (connection : WebSocketConnection) (completion : ClientCompletion) :
    closesInCallback connection completion [] = false := by
  unfold closesInCallback
  cases invocation connection completion with
  | none => rfl
  | some called => exact Bool.and_false _

theorem may_drop_within (state : OwnedClient) (drops : Nat) (allowed : state.mayDrop drops = true) :
    drops ≤ state.userRefs := by
  simp only [OwnedClient.mayDrop, Bool.or_eq_true, Bool.and_eq_true, decide_eq_true_eq] at allowed
  omega

theorem owned_soundly_handled (state next : OwnedClient) (completion : ClientCompletion) (calls : List ClientCall)
    (drops : Nat) (sound : OwnedSoundly state) (kept : KeepsOwner state (.handled completion calls drops))
    (taken : ownerStep state (.handled completion calls drops) = some next) : OwnedSoundly next := by
  simp only [ownerStep, Option.ite_none_right_eq_some, Option.map_eq_some_iff] at taken
  obtain ⟨alive, ⟨allowed, calling⟩, life, moved, rfl⟩ := taken
  have within := may_drop_within state drops allowed
  by_cases last : drops = state.userRefs
  · obtain ⟨unclosed, owned⟩ := kept last
    refine ⟨fun _ _ => ?_, ?_⟩
    · by_cases held : 0 < state.userRefs
      · exact unclosed held
      · -- nobody was left to call disconnect()
        have noCalls := calling.resolve_left held
        subst noCalls
        simp only [no_calls_close_nothing, Bool.or_false]
        exact sound.letGo alive (Nat.eq_zero_of_not_pos held)
    · by_cases returns : life.client.ending = .running
      · have pending := handled_outstanding state.life life completion calls moved returns owned
        dsimp only
        rw [if_neg (by omega)]
        simp
      · simp [returns]
  · have held : state.userRefs - drops ≠ 0 := by omega
    refine ⟨fun _ none => absurd none held, ?_⟩
    dsimp only
    rw [if_neg (by omega)]
    simp

theorem owned_soundly_step (state next : OwnedClient) (event : OwnerEvent) (sound : OwnedSoundly state)
    (kept : KeepsOwner state event) (taken : ownerStep state event = some next) : OwnedSoundly next := by
  cases event with
  | copyReference =>
      simp only [ownerStep, Option.ite_none_right_eq_some, Option.some.injEq] at taken
      obtain ⟨_, _, rfl⟩ := taken
      exact ⟨fun _ none => absurd none (Nat.succ_ne_zero _), sound.notByHandler⟩
  | dropReference =>
      simp only [ownerStep, Option.ite_none_right_eq_some, Option.some.injEq] at taken
      obtain ⟨alive, allowed, rfl⟩ := taken
      have within := may_drop_within state 1 allowed
      refine ⟨fun survives none => ?_, ?_⟩
      · by_contra closed
        have last : state.userRefs = 1 := by
          dsimp only at none
          omega
        have idle := kept last (by simpa using closed)
        simp [last, idle] at survives
      · dsimp only
        split <;> simp
  | userStep event =>
      simp only [ownerStep, Option.ite_none_right_eq_some, Option.map_eq_some_iff] at taken
      obtain ⟨_, ⟨_, held⟩, life, _, rfl⟩ := taken
      exact ⟨fun _ none => absurd none (Nat.ne_of_gt held), sound.notByHandler⟩
  | workerStep event =>
      simp only [ownerStep, Option.ite_none_right_eq_some, Option.map_eq_some_iff] at taken
      obtain ⟨_, _, life, _, rfl⟩ := taken
      exact ⟨sound.letGo, sound.notByHandler⟩
  | handled completion calls drops =>
      exact owned_soundly_handled state next completion calls drops sound kept taken

theorem owned_soundly_no_leak (state : OwnedClient) (sound : OwnedSoundly state) :
    ¬ Leaked state ∧ state.destroyed ≠ some .handler := by
  refine ⟨?_, sound.notByHandler⟩
  rintro ⟨closed, none, alive, _⟩
  rw [sound.letGo alive none] at closed
  cases closed

theorem ownership_sound_if_kept (events : List OwnerEvent) (final : OwnedClient)
    (reached : Transition.run ownerStep freshOwned events = some final)
    (kept : Transition.Meets ownerStep KeepsOwner freshOwned events) :
    ¬ Leaked final ∧ final.destroyed ≠ some .handler := by
  apply owned_soundly_no_leak
  exact Transition.run_keeps_guarded ownerStep KeepsOwner OwnedSoundly
    (fun state event next sound allowed taken => owned_soundly_step state next event sound allowed taken)
    events freshOwned final ⟨fun _ none => absurd none (by decide), by decide⟩ kept reached

instance (state : OwnedClient) : (event : OwnerEvent) → Decidable (KeepsOwner state event)
  | .dropReference => inferInstanceAs (Decidable (_ → _ → _))
  | .handled _ _ _ => inferInstanceAs (Decidable (_ → _))
  | .copyReference => isTrue trivial
  | .userStep _ => isTrue trivial
  | .workerStep _ => isTrue trivial

def connectsOnce : List OwnerEvent :=
  [.workerStep .waitUntilNotified, .userStep (.connect "localhost" "7777" none), .userStep .execute,
    .userStep .asyncResolve, .userStep .leaveConnect, .workerStep .wakeUp, .workerStep .run]

def opensOnce : List OwnerEvent :=
  connectsOnce ++ [.handled (.resolved none) [] 0, .handled (.connected none) [] 0, .handled (.handshaken none) [] 0]

-- The last reference is dropped while the read is pending, the worker goes on.
theorem ownership_sound_dropped_while_open :
    ∃ final, Transition.run ownerStep freshOwned
        (opensOnce ++ [.handled (.received none [1]) [.sendBinary [2]] 1, .handled (.received none [3]) [] 0]) = some final ∧
      ¬ Leaked final ∧ final.destroyed ≠ some .handler :=
  ⟨_, rfl, ownership_sound_if_kept
    (opensOnce ++ [.handled (.received none [1]) [.sendBinary [2]] 1, .handled (.received none [3]) [] 0]) _ rfl (by decide)⟩

-- A disconnected client leaks with its pending read, and a failed attempt of a
-- client nobody refers to any more destroys it on its own worker thread.
theorem clients_leak_and_join_themselves :
    (¬ ∀ (events : List OwnerEvent) (final : OwnedClient),
      Transition.run ownerStep freshOwned events = some final → ¬ Leaked final) ∧
    ¬ ∀ (events : List OwnerEvent) (final : OwnedClient),
      Transition.run ownerStep freshOwned events = some final → final.destroyed ≠ some .handler := by
  constructor
  · intro never
    exact never (opensOnce ++ [.userStep (.call (.disconnect none)), .dropReference, .workerStep .leaveRun,
      .workerStep .waitUntilNotified]) _ rfl (by decide)
  · intro never
    exact never (connectsOnce ++ [.dropReference, .handled (.resolved (some "Host not found")) [] 0]) _ rfl (by decide)

end NetworkWrapper
