import NetworkWrapper.ClientLocks
import NetworkWrapper.WasmClient

set_option autoImplicit false

-- What follows a disconnect() in the native and in the wasm client, as long as
-- connect() is not called.
namespace NetworkWrapper

open WebSocketConnection

-- disconnected: disconnect() was called, and connect() not since. late: onOpen or
-- onMessage was invoked in between.
structure Finality where
  disconnected : Bool
  late : Bool
deriving DecidableEq, Repr

namespace Finality

def fresh : Finality := { disconnected := false, late := false }

def hear (finality : Finality) : Finality := { finality with late := finality.late || finality.disconnected }

structure Respected (finality : Finality) (isConnected : Bool) : Prop where
  nothingLate : finality.late = false
  apart : finality.disconnected = true → isConnected = false

theorem late_not_respected (finality : Finality) (isConnected : Bool) (late : finality.late = true) :
    ¬ finality.Respected isConnected := by
  intro respected
  rw [respected.nothingLate] at late
  cases late

theorem respected_apart (finality : Finality) (isConnected : Bool) (respected : finality.Respected isConnected) :
    finality.Respected false :=
  ⟨respected.nothingLate, fun _ => rfl⟩

theorem heard_respected (finality : Finality) (isConnected later : Bool) (respected : finality.Respected isConnected)
    (going : finality.disconnected = false) : finality.hear.Respected later := by
  refine ⟨?_, fun disconnected => ?_⟩
  · simp [hear, respected.nothingLate, going]
  · rw [hear, going] at disconnected
    cases disconnected

theorem connected_going (finality : Finality) (isConnected : Bool) (respected : finality.Respected isConnected)
    (connected : isConnected = true) : finality.disconnected = false := by
  by_contra disconnected
  have apart := respected.apart (by simpa using disconnected)
  rw [connected] at apart
  cases apart

end Finality

def noteFinality (call : ClientCall) (_ : WebSocketConnection) (finality : Finality) : Finality :=
  match call with
  | .disconnect _ => { finality with disconnected := true }
  | .connect _ _ _ => { finality with disconnected := false }
  | _ => finality

def listening (calls : List ClientCall) : ClientCallbacks Finality where
  onOpen := some fun world => performCalls noteFinality calls { world with app := world.app.hear }
  onError := some fun _ world => performCalls noteFinality calls world
  onMessage := some fun _ world => performCalls noteFinality calls { world with app := world.app.hear }

inductive HistoryEvent where
  | call (made : ClientCall)
  | completed (completion : ClientCompletion) (calls : List ClientCall)
deriving DecidableEq, Repr

abbrev ClientHistory := Process (ClientWorld Finality)

-- A handler that takes a lock of its own thread again never ends.
def historyStep (process : ClientHistory) (event : HistoryEvent) : Option ClientHistory :=
  if process.ending = .running then
    match event with
    | .call made => some (settleCall (performCall noteFinality made process.world))
    | .completed completion calls =>
        if handlerSafe process.world.host completion calls = true then
          (complete (listening calls) process.world completion).map settle
        else none
  else none

def freshHistory : ClientHistory := ⟨⟨create, .fresh⟩, .running⟩

def StaysDisconnected (world : ClientWorld Finality) : Prop := world.app.Respected world.host.isConnected

def HistoryEvent.opens : HistoryEvent → Bool
  | .completed (.handshaken none) _ => true
  | _ => false

def NoLateHandshake (process : ClientHistory) (event : HistoryEvent) : Prop :=
  process.world.app.disconnected = true → event.opens = false

instance (process : ClientHistory) (event : HistoryEvent) : Decidable (NoLateHandshake process event) :=
  inferInstanceAs (Decidable (_ → _))

theorem call_stays_disconnected (call : ClientCall) (world : ClientWorld Finality) (before : StaysDisconnected world) :
    StaysDisconnected (performCall noteFinality call world).world := by
  rw [performCall, Outcome.map_world]
  cases call with
  | sendUtf8Text inText =>
      simpa only [StaysDisconnected, noteFinality, ClientCall.perform, sendUtf8Text, send_connected] using before
  | sendBinary inData =>
      simpa only [StaysDisconnected, noteFinality, ClientCall.perform, send_connected] using before
  | disconnect closeError =>
      refine ⟨before.nothingLate, fun _ => ?_⟩
      rw [ClientCall.perform, disconnect_world]
      exact stop_connected world.host
  | connect ipAddress port closeError => exact ⟨before.nothingLate, fun disconnected => Bool.noConfusion disconnected⟩
  | isConnected => exact before

theorem calls_stay_disconnected (calls : List ClientCall) (world : ClientWorld Finality)
    (before : StaysDisconnected world) : StaysDisconnected (performCalls noteFinality calls world).world :=
  perform_calls_keeps noteFinality StaysDisconnected call_stays_disconnected calls world before

theorem failed_stays_disconnected (calls : List ClientCall) (what : String) (world : ClientWorld Finality)
    (before : StaysDisconnected world) : StaysDisconnected (failed (listening calls) what world).world := by
  refine Outcome.and_then_keeps StaysDisconnected _ _ (calls_stay_disconnected calls world before) fun later sofar => ?_
  rw [Outcome.world_returned, StaysDisconnected, stop_connected]
  exact Finality.respected_apart _ _ sofar

theorem on_read_stays_disconnected (calls : List ClientCall) (ec : ErrorCode) (world : ClientWorld Finality)
    (before : StaysDisconnected world) : StaysDisconnected (onRead (listening calls) ec world).world := by
  by_cases apart : world.host.isConnected = false
  · simpa only [onRead, if_pos apart, Outcome.world_returned] using before
  · simp only [onRead, if_neg apart]
    cases ec with
    | some what => exact failed_stays_disconnected calls what world before
    | none =>
        have going := Finality.connected_going _ _ before (by simpa using apart)
        refine Outcome.and_then_keeps StaysDisconnected _ _ ?_ fun later sofar => sofar
        exact calls_stay_disconnected calls _ (Finality.heard_respected _ _ _ before going)

theorem on_write_stays_disconnected (calls : List ClientCall) (ec : ErrorCode) (world : ClientWorld Finality)
    (before : StaysDisconnected world) : StaysDisconnected (onWrite (listening calls) ec world).world := by
  by_cases apart : world.host.isConnected = false
  · simp only [onWrite, if_pos apart]
    exact before
  · simp only [onWrite, if_neg apart]
    cases ec with
    | some what => exact failed_stays_disconnected calls what world before
    | none =>
        simp only [pop_queued, Outcome.map_returned, Outcome.world_returned]
        exact before

theorem complete_stays_disconnected (calls : List ClientCall) (world : ClientWorld Finality)
    (completion : ClientCompletion) (outcome : Outcome (ClientWorld Finality)) (before : StaysDisconnected world)
    (onTime : world.app.disconnected = true → completion ≠ .handshaken none)
    (taken : complete (listening calls) world completion = some outcome) : StaysDisconnected outcome.world := by
  cases completion with
  | resolved ec =>
      obtain ⟨_, rfl⟩ := (complete_resolved _ _ _ _).mp taken
      cases ec with
      | none => exact before
      | some what => exact failed_stays_disconnected calls what _ before
  | connected ec =>
      obtain ⟨_, rfl⟩ := (complete_connected _ _ _ _).mp taken
      cases ec with
      | none => exact before
      | some what => exact failed_stays_disconnected calls what _ before
  | handshaken ec =>
      obtain ⟨_, rfl⟩ := (complete_handshaken _ _ _ _).mp taken
      cases ec with
      | none =>
          have going : world.app.disconnected = false := by
            by_contra disconnected
            exact onTime (by simpa using disconnected) rfl
          exact calls_stay_disconnected calls _ (Finality.heard_respected _ _ _ before going)
      | some what => exact failed_stays_disconnected calls what _ before
  | received ec message =>
      obtain ⟨_, rfl⟩ := (complete_received _ _ _ _ _).mp taken
      exact on_read_stays_disconnected calls ec _ before
  | wrote index ec =>
      obtain ⟨_, rfl⟩ := (complete_wrote _ _ _ _ _).mp taken
      exact on_write_stays_disconnected calls ec _ before

theorem history_step_cases (process next : ClientHistory) (event : HistoryEvent)
    (taken : historyStep process event = some next) :
    (∃ made, event = .call made ∧ next = settleCall (performCall noteFinality made process.world)) ∨
      ∃ completion calls outcome, event = .completed completion calls ∧
        complete (listening calls) process.world completion = some outcome ∧ next = settle outcome := by
  simp only [historyStep, Option.ite_none_right_eq_some] at taken
  obtain ⟨_, taken⟩ := taken
  cases event with
  | call made =>
      cases taken
      exact .inl ⟨made, rfl, rfl⟩
  | completed completion calls =>
      simp only [Option.ite_none_right_eq_some, Option.map_eq_some_iff] at taken
      obtain ⟨_, outcome, done, rfl⟩ := taken
      exact .inr ⟨completion, calls, outcome, rfl, done, rfl⟩

theorem history_step_stays (process : ClientHistory) (event : HistoryEvent) (next : ClientHistory)
    (before : StaysDisconnected process.world) (onTime : NoLateHandshake process event)
    (taken : historyStep process event = some next) : StaysDisconnected next.world := by
  obtain ⟨made, rfl, rfl⟩ | ⟨completion, calls, outcome, rfl, done, rfl⟩ := history_step_cases process next event taken
  · rw [settle_call_world]
    exact call_stays_disconnected made process.world before
  · rw [settle_world]
    refine complete_stays_disconnected calls process.world completion outcome before ?_ done
    rintro disconnected rfl
    cases onTime disconnected

theorem late_calls (calls : List ClientCall) (world : ClientWorld Finality) (late : world.app.late = true) :
    (performCalls noteFinality calls world).world.app.late = true := by
  refine perform_calls_keeps noteFinality (fun world => world.app.late = true) (fun call world sofar => ?_) calls world late
  rw [performCall, Outcome.map_world]
  cases call <;> exact sofar

theorem late_handshake_breaks (process : ClientHistory) (event : HistoryEvent) (next : ClientHistory)
    (tooLate : ¬ NoLateHandshake process event) (taken : historyStep process event = some next) :
    ¬ StaysDisconnected next.world := by
  simp only [NoLateHandshake, Classical.not_imp, Bool.not_eq_false] at tooLate
  obtain ⟨disconnected, opens⟩ := tooLate
  obtain ⟨made, rfl, _⟩ | ⟨completion, calls, outcome, rfl, done, rfl⟩ := history_step_cases process next event taken
  · cases opens
  · have opening : completion = .handshaken none := by
      cases completion with
      | handshaken ec =>
          cases ec with
          | none => rfl
          | some what => cases opens
      | _ => cases opens
    subst opening
    obtain ⟨_, rfl⟩ := (complete_handshaken _ _ _ _).mp done
    rw [settle_world]
    apply Finality.late_not_respected
    exact late_calls calls _ (by simp [Finality.hear, disconnected])

namespace Wasm

def SocketEvent.speaks : SocketEvent → Bool
  | .opened => true
  | .message _ => true
  | _ => false

def Callback.speaks : Callback → Bool
  | .onOpen => true
  | .onMessage _ => true
  | _ => false

structure History where
  client : Client
  finality : Finality

def noteEvent (state : History) (client : Client) : Event → Finality
  | .connect _ _ _ => { state.finality with disconnected := false }
  | .disconnect => { state.finality with disconnected := true }
  | .delivered _ _ =>
      if (client.heard.drop state.client.heard.length).any fun heard => heard.callback.speaks then state.finality.hear
      else state.finality
  | _ => state.finality

def historyStep (state : History) (event : Event) : Option History :=
  (step state.client event).map fun client => { client := client, finality := noteEvent state client event }

def freshHistory : History := { client := .create, finality := .fresh }

def StaysDisconnected (state : History) : Prop := state.finality.Respected state.client.connection.isConnected

def Event.speaks : Event → Bool
  | .delivered _ event => event.speaks
  | _ => false

-- No socket opens and no message comes in after a disconnect(). On a destroyed
-- object nothing is left to call.
def NoLateEvent (state : History) (event : Event) : Prop :=
  state.finality.disconnected = true → state.client.destroyed = false → event.speaks = false

instance (state : History) (event : Event) : Decidable (NoLateEvent state event) := inferInstanceAs (Decidable (_ → _))

theorem disconnect_apart (client : Client) : client.disconnect.connection.isConnected = false := by
  by_cases apart : client.connection.isConnected = false
  · simp [Client.disconnect, apart]
  · simp [Client.disconnect, apart]

theorem deliver_cases (client next : Client) (handle : Nat) (event : SocketEvent)
    (taken : client.deliver handle event = some next) :
    (client.destroyed = true ∧ next.connection = client.connection ∧ next.heard = client.heard) ∨
      (client.destroyed = false ∧
        next.connection = (Wasm.handle watching ⟨client.connection, []⟩ event).connection ∧
        ∃ current, next.heard = client.heard ++
          (Wasm.handle watching ⟨client.connection, []⟩ event).app.map fun callback => ⟨handle, current, callback⟩) := by
  unfold Client.deliver at taken
  cases reads : client.sockets[handle]? with
  | none => simp [reads] at taken
  | some socket =>
      rw [reads] at taken
      obtain ⟨moved, _, rfl⟩ := Option.map_eq_some_iff.mp taken
      cases gone : client.destroyed with
      | true => exact .inl ⟨rfl, rfl, rfl⟩
      | false => exact .inr ⟨rfl, rfl, _, rfl⟩

theorem handled_speaks (connection : WebSocketConnection) (event : SocketEvent) (socket : Nat) (current : Bool) :
    (((handle watching ⟨connection, []⟩ event).app.map fun callback => Heard.mk socket current callback).any
      fun heard => heard.callback.speaks) = event.speaks := by
  cases event <;> rfl

theorem handled_silent (connection : WebSocketConnection) (event : SocketEvent) (silent : event.speaks = false) :
    (handle watching ⟨connection, []⟩ event).connection.isConnected = false := by
  cases event with
  | error => rfl
  | closed reason => rfl
  | opened => cases silent
  | message data => cases silent

theorem delivered_finality (state : History) (next : Client) (handle : Nat) (event : SocketEvent)
    (taken : state.client.deliver handle event = some next) :
    noteEvent state next (.delivered handle event) =
      if (!state.client.destroyed && event.speaks) = true then state.finality.hear else state.finality := by
  obtain ⟨gone, _, heard⟩ | ⟨alive, _, current, heard⟩ := deliver_cases state.client next handle event taken
  · simp [noteEvent, heard, gone]
  · simp only [noteEvent, heard, List.drop_left, handled_speaks, alive, Bool.not_false, Bool.true_and]

theorem delivered_stays (state : History) (next : Client) (handle : Nat) (event : SocketEvent)
    (before : StaysDisconnected state) (onTime : NoLateEvent state (.delivered handle event))
    (taken : state.client.deliver handle event = some next) :
    StaysDisconnected ⟨next, noteEvent state next (.delivered handle event)⟩ := by
  rw [StaysDisconnected, delivered_finality state next handle event taken]
  obtain ⟨gone, same, _⟩ | ⟨alive, handled, _⟩ := deliver_cases state.client next handle event taken
  · rw [same]
    simpa [gone] using show state.finality.Respected state.client.connection.isConnected from before
  · cases speaks : event.speaks with
    | true =>
        have going : state.finality.disconnected = false := by
          by_contra disconnected
          have silent := onTime (by simpa using disconnected) alive
          rw [Event.speaks, speaks] at silent
          cases silent
        simpa [alive] using Finality.heard_respected _ _ _ before going
    | false =>
        rw [handled, handled_silent state.client.connection event speaks]
        simpa [alive] using Finality.respected_apart _ _ before

theorem history_step_stays (state : History) (event : Event) (next : History) (before : StaysDisconnected state)
    (onTime : NoLateEvent state event) (taken : historyStep state event = some next) : StaysDisconnected next := by
  obtain ⟨client, moved, rfl⟩ := Option.map_eq_some_iff.mp taken
  cases event with
  | connect inHost inPort created => exact ⟨before.nothingLate, fun disconnected => Bool.noConfusion disconnected⟩
  | disconnect =>
      simp only [step, Option.ite_none_left_eq_some, Option.some.injEq] at moved
      obtain ⟨_, rfl⟩ := moved
      exact ⟨before.nothingLate, fun _ => disconnect_apart state.client⟩
  | send result =>
      simp only [step, Option.ite_none_left_eq_some, Option.some.injEq] at moved
      obtain ⟨_, rfl⟩ := moved
      exact before
  | destroy =>
      simp only [step, Option.ite_none_left_eq_some, Option.some.injEq] at moved
      obtain ⟨_, rfl⟩ := moved
      exact ⟨before.nothingLate, fun _ => disconnect_apart state.client⟩
  | delivered handle event => exact delivered_stays state client handle event before onTime moved

theorem late_event_breaks (state : History) (event : Event) (next : History) (tooLate : ¬ NoLateEvent state event)
    (taken : historyStep state event = some next) : ¬ StaysDisconnected next := by
  simp only [NoLateEvent, Classical.not_imp, Bool.not_eq_false] at tooLate
  obtain ⟨disconnected, alive, speaks⟩ := tooLate
  obtain ⟨client, moved, rfl⟩ := Option.map_eq_some_iff.mp taken
  cases event with
  | delivered handle event =>
      apply Finality.late_not_respected
      rw [delivered_finality state client handle event moved, alive]
      have spoken : event.speaks = true := speaks
      simp [spoken, Finality.hear, disconnected]
  | _ => cases speaks

end Wasm

theorem disconnect_final_iff (events : List HistoryEvent) (final : ClientHistory) (wasmEvents : List Wasm.Event)
    (wasmFinal : Wasm.History) (reached : Transition.run historyStep freshHistory events = some final)
    (wasmReached : Transition.run Wasm.historyStep Wasm.freshHistory wasmEvents = some wasmFinal) :
    (Transition.Throughout historyStep (fun process => StaysDisconnected process.world) freshHistory events ↔
      Transition.Meets historyStep NoLateHandshake freshHistory events) ∧
      (Transition.Throughout Wasm.historyStep Wasm.StaysDisconnected Wasm.freshHistory wasmEvents ↔
        Transition.Meets Wasm.historyStep Wasm.NoLateEvent Wasm.freshHistory wasmEvents) := by
  constructor
  · exact Transition.throughout_iff_meets historyStep NoLateHandshake (fun process => StaysDisconnected process.world)
      history_step_stays (fun process event next _ => late_handshake_breaks process event next)
      events freshHistory final ⟨rfl, fun _ => rfl⟩ reached
  · exact Transition.throughout_iff_meets Wasm.historyStep Wasm.NoLateEvent Wasm.StaysDisconnected
      Wasm.history_step_stays (fun state event next _ => Wasm.late_event_breaks state event next)
      wasmEvents Wasm.freshHistory wasmFinal ⟨rfl, fun _ => rfl⟩ wasmReached

def disconnectsWhenOpen : List HistoryEvent :=
  [.call (.connect "localhost" "7777" none), .completed (.resolved none) [], .completed (.connected none) [],
    .completed (.handshaken none) [.sendBinary [1]], .completed (.received none [2]) [.disconnect none],
    .completed (.wrote 0 none) []]

def wasmDisconnectsWhenOpen : List Wasm.Event :=
  [.connect "localhost" "7777" true, .delivered 0 .opened, .delivered 0 (.message [1]), .disconnect, .send 0,
    .delivered 0 (.closed "no reason")]

theorem disconnect_final_when_open :
    Transition.Throughout historyStep (fun process => StaysDisconnected process.world) freshHistory disconnectsWhenOpen ∧
      Transition.Throughout Wasm.historyStep Wasm.StaysDisconnected Wasm.freshHistory wasmDisconnectsWhenOpen := by
  obtain ⟨native, wasm⟩ := disconnect_final_iff disconnectsWhenOpen _ wasmDisconnectsWhenOpen _ rfl rfl
  exact ⟨native.mpr (by decide), wasm.mpr (by decide)⟩

def disconnectsEarly : List HistoryEvent :=
  [.call (.connect "localhost" "7777" none), .completed (.resolved none) [], .completed (.connected none) [],
    .call (.disconnect none), .completed (.handshaken none) []]

def wasmDisconnectsEarly : List Wasm.Event := [.connect "localhost" "7777" true, .disconnect, .delivered 0 .opened]

theorem early_disconnect_not_final :
    (¬ ∀ (events : List HistoryEvent) (final : ClientHistory),
      Transition.run historyStep freshHistory events = some final → StaysDisconnected final.world) ∧
      ¬ ∀ (events : List Wasm.Event) (final : Wasm.History),
        Transition.run Wasm.historyStep Wasm.freshHistory events = some final → Wasm.StaysDisconnected final := by
  constructor
  · intro always
    exact Finality.late_not_respected _ _ rfl (always disconnectsEarly _ rfl)
  · intro always
    exact Finality.late_not_respected _ _ rfl (always wasmDisconnectsEarly _ rfl)

end NetworkWrapper
