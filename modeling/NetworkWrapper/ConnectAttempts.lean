import NetworkWrapper.ClientLocks
import NetworkWrapper.FirstConnect

set_option autoImplicit false

-- What the callbacks of the native client tell its user about the attempts to
-- connect, one after the other.
namespace NetworkWrapper

open WebSocketConnection

-- Where the user takes the connection to be, by its calls and by what it heard.
inductive AttemptStage where
  | apart
  | trying
  | opened
deriving DecidableEq, Repr

namespace AttemptStage

-- none: the user hears something it cannot make sense of.
def after : AttemptStage → ClientCallback → Option AttemptStage
  | .trying, .onOpen => some .opened
  | .opened, .onMessage _ => some .opened
  | .trying, .onError _ => some .apart
  | .opened, .onError _ => some .apart
  | _, _ => none

def attempts : AttemptStage → Nat
  | .trying => 1
  | _ => 0

def isConnected : AttemptStage → Bool
  | .opened => true
  | _ => false

end AttemptStage

-- heard is the history of the callbacks. The stage is none from the first one on
-- that made no sense.
structure AttemptUser where
  stage : Option AttemptStage
  heard : List ClientCallback
deriving DecidableEq

def AttemptUser.hears (user : AttemptUser) (callback : ClientCallback) : AttemptUser :=
  { stage := user.stage.bind (·.after callback), heard := user.heard ++ [callback] }

abbrev AttemptWorld := ClientWorld AttemptUser

-- A disconnect() only counts on a connection, and one that throws ends connect().
def noteAttempt (call : ClientCall) (connection : WebSocketConnection) (user : AttemptUser) : AttemptUser :=
  { user with stage := user.stage.map fun stage =>
      match call with
      | .disconnect _ => if connection.isConnected then .apart else stage
      | .connect _ _ closeError => if connection.isConnected && closeError.isSome then .apart else .trying
      | _ => stage }

def hear (callback : ClientCallback) (world : AttemptWorld) : AttemptWorld :=
  { world with app := world.app.hears callback }

def attending (calls : List ClientCall) : ClientCallbacks AttemptUser where
  onOpen := some fun world => performCalls noteAttempt calls (hear .onOpen world)
  onError := some fun message world => performCalls noteAttempt calls (hear (.onError message) world)
  onMessage := some fun payload world => performCalls noteAttempt calls (hear (.onMessage payload) world)

inductive AttemptEvent where
  | call (made : ClientCall)
  | completed (completion : ClientCompletion) (calls : List ClientCall)
deriving DecidableEq, Repr

-- run() returns after a handler that leaves nothing to do, the io_context stopped.
def leaveIdle (process : Process AttemptWorld) : Process AttemptWorld :=
  if runReturns process.world.host then
    { process with world := { process.world with host := { process.world.host with stopped := true } } }
  else process

-- A handler that takes a lock of its own thread again never ends. Completions
-- that come after the io_context stopped are not excluded.
def attemptStep (process : Process AttemptWorld) (event : AttemptEvent) : Option (Process AttemptWorld) :=
  if process.ending = .running then
    match event with
    | .call made => some (settleCall (performCall noteAttempt made process.world))
    | .completed completion calls =>
        if handlerSafe process.world.host completion calls = true then
          (complete (attending calls) process.world completion).map fun outcome => leaveIdle (settle outcome)
        else none
  else none

def freshAttempts : Process AttemptWorld := ⟨⟨create, ⟨some .apart, []⟩⟩, .running⟩

def underWay (connection : WebSocketConnection) : Nat :=
  connection.pendingResolves + connection.pendingConnects + connection.pendingHandshakes

-- connect() is not called while an earlier one still resolves, connects or shakes
-- hands.
def OneAttempt (process : Process AttemptWorld) : AttemptEvent → Prop
  | .call (.connect _ _ _) => underWay process.world.host = 0
  | _ => True

instance (process : Process AttemptWorld) : (event : AttemptEvent) → Decidable (OneAttempt process event)
  | .call (.connect _ _ _) => inferInstanceAs (Decidable (_ = 0))
  | .call (.sendUtf8Text _) => isTrue trivial
  | .call (.sendBinary _) => isTrue trivial
  | .call (.disconnect _) => isTrue trivial
  | .call .isConnected => isTrue trivial
  | .completed _ _ => isTrue trivial

structure Informed (world : AttemptWorld) (stage : AttemptStage) : Prop where
  told : world.app.stage = some stage
  attempts : underWay world.host = stage.attempts
  connected : world.host.isConnected = stage.isConnected

structure Calms (before after : AttemptWorld) : Prop where
  attempts : underWay after.host = underWay before.host
  outcome : after.host.isConnected = before.host.isConnected ∧ after.app.stage = before.app.stage ∨
    before.host.isConnected = true ∧ after.host.isConnected = false ∧
      after.app.stage = before.app.stage.map fun _ => .apart

theorem calms_refl (world : AttemptWorld) : Calms world world := ⟨rfl, .inl ⟨rfl, rfl⟩⟩

theorem calms_trans (first second third : AttemptWorld) (early : Calms first second) (late : Calms second third) :
    Calms first third := by
  refine ⟨late.attempts.trans early.attempts, ?_⟩
  rcases early.outcome with ⟨connected, told⟩ | ⟨opened, closed, told⟩
  · rw [← connected, ← told]
    exact late.outcome
  · rcases late.outcome with ⟨same, after⟩ | ⟨again, _, _⟩
    · exact .inr ⟨opened, same.trans closed, after.trans told⟩
    · exact absurd again (ne_true_of_eq_false closed)

theorem send_under_way (connection : WebSocketConnection) (inData : Bytes) :
    underWay (connection.sendBinary inData).2.world = underWay connection := by
  by_cases connected : connection.isConnected = true
  · by_cases empty : inData = []
    · simp [sendBinary, connected, empty, locked_send_empty]
    · simp [sendBinary, connected, locked_send_nonempty connection inData empty, underWay]
  · simp [sendBinary, connected]

theorem stop_under_way (connection : WebSocketConnection) : underWay connection.stop = underWay connection := by
  unfold stop
  split <;> rfl

-- A connect() that gets past its disconnect() is none of a callback's calls.
def ClientCall.endsEarly (connection : WebSocketConnection) : ClientCall → Prop
  | .connect _ _ closeError => connection.isConnected = true ∧ closeError.isSome = true
  | _ => True

theorem perform_calms (call : ClientCall) (world : AttemptWorld) (early : call.endsEarly world.host) :
    Calms world (performCall noteAttempt call world).world := by
  obtain ⟨connection, stage⟩ := world
  rw [performCall, Outcome.map_world]
  cases call with
  | sendUtf8Text inText =>
      exact ⟨send_under_way connection _, .inl ⟨send_connected connection _, by simp [noteAttempt]⟩⟩
  | sendBinary inData =>
      exact ⟨send_under_way connection inData, .inl ⟨send_connected connection inData, by simp [noteAttempt]⟩⟩
  | disconnect closeError =>
      simp only [ClientCall.perform, disconnect_world]
      refine ⟨stop_under_way connection, ?_⟩
      by_cases connected : connection.isConnected = true
      · exact .inr ⟨connected, stop_connected connection, by simp [noteAttempt, connected]⟩
      · exact .inl ⟨by simp [stop, connected], by simp [noteAttempt, connected]⟩
  | connect ipAddress port closeError =>
      obtain ⟨connected, throws⟩ := early
      obtain ⟨what, rfl⟩ := Option.isSome_iff_exists.mp throws
      have thrown : (ClientCall.connect ipAddress port (some what)).perform connection = .threw what connection.stop := by
        dsimp only at connected
        simp [ClientCall.perform, connect, beginConnect, disconnect, connected]
      simp only [thrown, Outcome.world_threw]
      dsimp only at connected
      exact ⟨stop_under_way connection, .inr ⟨connected, stop_connected connection, by simp [noteAttempt, connected]⟩⟩
  | isConnected => exact ⟨rfl, .inl ⟨rfl, by simp [noteAttempt]⟩⟩

theorem safe_ends_early (called : Invocation) (call : ClientCall) (rest : List ClientCall)
    (connection : WebSocketConnection) (same : connection.isConnected = called.connected)
    (safe : callsSafely called (call :: rest) = true) : call.endsEarly connection := by
  cases call with
  | connect ipAddress port closeError => simpa [ClientCall.endsEarly, callsSafely, same] using safe
  | _ => trivial

theorem sends_safe_onward (called : Invocation) (connection later : WebSocketConnection) (inData : Bytes)
    (rest : List ClientCall) (same : connection.isConnected = called.connected)
    (safe : sendsSafely called inData (callsSafely called rest) = true)
    (returned : (connection.sendBinary inData).2 = .returned later) :
    callsSafely { called with connected := later.isConnected } rest = true := by
  have kept : later.isConnected = called.connected := by
    have unchanged := send_connected connection inData
    rw [returned] at unchanged
    exact unchanged.trans same
  rw [kept]
  obtain ⟨connected, underLock⟩ := called
  dsimp only at same safe ⊢
  cases connected with
  | false => simpa [sendsSafely] using safe
  | true =>
    have given : inData ≠ [] := by
      rintro rfl
      simp [sendBinary, same, locked_send_empty] at returned
    simp only [sendsSafely, if_true, given, decide_false, Bool.false_or, Bool.and_eq_true] at safe
    exact safe.2

theorem safe_onward (called : Invocation) (call : ClientCall) (rest : List ClientCall)
    (connection later : WebSocketConnection) (same : connection.isConnected = called.connected)
    (safe : callsSafely called (call :: rest) = true) (returned : call.perform connection = .returned later) :
    callsSafely { called with connected := later.isConnected } rest = true := by
  cases call with
  | sendUtf8Text inText => exact sends_safe_onward called connection later _ rest same safe returned
  | sendBinary inData => exact sends_safe_onward called connection later inData rest same safe returned
  | disconnect closeError =>
      have closed : later.isConnected = false := by
        have stopped := disconnect_world connection closeError
        rw [ClientCall.perform] at returned
        rw [returned] at stopped
        exact (congrArg WebSocketConnection.isConnected stopped).trans (stop_connected connection)
      rw [closed]
      have unthrown : (called.connected && closeError.isSome) = false := by
        by_contra throws
        simp only [Bool.not_eq_false, Bool.and_eq_true] at throws
        obtain ⟨what, rfl⟩ := Option.isSome_iff_exists.mp throws.2
        simp [ClientCall.perform, disconnect, same, throws.1] at returned
      simpa [callsSafely, unthrown] using safe
  | connect ipAddress port closeError =>
      obtain ⟨connected, throws⟩ := safe_ends_early called _ rest connection same safe
      obtain ⟨what, rfl⟩ := Option.isSome_iff_exists.mp throws
      simp [ClientCall.perform, connect, beginConnect, disconnect, connected] at returned
  | isConnected =>
      cases returned
      rw [same]
      exact safe

theorem calls_calm (called : Invocation) (calls : List ClientCall) (world : AttemptWorld)
    (same : world.host.isConnected = called.connected) (safe : callsSafely called calls = true) :
    Calms world (performCalls noteAttempt calls world).world := by
  induction calls generalizing called world with
  | nil => exact calms_refl world
  | cons call rest ih =>
      have first := perform_calms call world (safe_ends_early called call rest world.host same safe)
      refine Outcome.and_then_world (Calms world) _ _ first fun later done => ?_
      rw [done] at first
      rw [performCall] at done
      cases made : call.perform world.host with
      | returned connection =>
          rw [made] at done
          cases done
          have onward := safe_onward called call rest world.host connection same safe made
          exact calms_trans _ _ _ first (ih _ _ rfl onward)
      | threw what connection =>
          rw [made] at done
          cases done
      | undefined connection =>
          rw [made] at done
          cases done

theorem calms_informed (before after : AttemptWorld) (stage : AttemptStage) (informed : Informed before stage)
    (calms : Calms before after) : ∃ later, Informed after later := by
  rcases calms.outcome with ⟨connected, told⟩ | ⟨opened, closed, told⟩
  · exact ⟨stage, told.trans informed.told, calms.attempts.trans informed.attempts, connected.trans informed.connected⟩
  · have settled : stage.attempts = 0 := by
      rw [informed.connected] at opened
      cases stage with
      | opened => rfl
      | apart | trying => cases opened
    refine ⟨.apart, ?_, ?_, closed⟩
    · rw [told, informed.told]
      rfl
    · exact (calms.attempts.trans informed.attempts).trans settled

structure EndsInformed (outcome : Outcome AttemptWorld) : Prop where
  told : outcome.world.app.stage ≠ none
  returned : ∀ later, outcome = .returned later → ∃ stage, Informed later stage

theorem informed_ends (outcome : Outcome AttemptWorld) (informed : ∃ stage, Informed outcome.world stage) :
    EndsInformed outcome := by
  obtain ⟨stage, knows⟩ := informed
  refine ⟨by simp [knows.told], fun later done => ⟨stage, ?_⟩⟩
  rw [done] at knows
  exact knows

theorem failed_ends_informed (called : Invocation) (calls : List ClientCall) (what : String) (world : AttemptWorld)
    (stage : AttemptStage) (told : world.app.stage = some stage) (hears : stage.after (.onError what) = some .apart)
    (settled : underWay world.host = 0) (same : world.host.isConnected = called.connected)
    (safe : callsSafely called calls = true) : EndsInformed (failed (attending calls) what world) := by
  have heard : (hear (.onError what) world).app.stage = some .apart := by
    simp [hear, AttemptUser.hears, told, hears]
  have calms := calls_calm called calls (hear (.onError what) world) same safe
  have known : (performCalls noteAttempt calls (hear (.onError what) world)).world.app.stage = some .apart := by
    rcases calms.outcome with ⟨_, unchanged⟩ | ⟨_, _, closed⟩
    · exact unchanged.trans heard
    · rw [closed, heard]
      rfl
  have quiet := calms.attempts.trans settled
  simp only [failed, attending]
  cases performed : performCalls noteAttempt calls (hear (.onError what) world) with
  | returned later =>
      rw [performed] at known quiet
      refine informed_ends _ ⟨.apart, known, ?_, stop_connected _⟩
      exact (stop_under_way _).trans quiet
  | threw thrown later =>
      rw [performed] at known
      refine ⟨?_, fun _ done => by cases done⟩
      rw [Outcome.threw_and_then, known]
      exact Option.some_ne_none _
  | undefined later =>
      rw [performed] at known
      refine ⟨?_, fun _ done => by cases done⟩
      rw [Outcome.undefined_and_then, known]
      exact Option.some_ne_none _

theorem attempt_trying (world : AttemptWorld) (stage : AttemptStage) (informed : Informed world stage)
    (trying : 0 < underWay world.host) : stage = .trying := by
  rw [informed.attempts] at trying
  cases stage with
  | trying => rfl
  | apart | opened => cases trying

theorem opened_stage (world : AttemptWorld) (stage : AttemptStage) (informed : Informed world stage)
    (connected : world.host.isConnected = true) : stage = .opened := by
  rw [informed.connected] at connected
  cases stage with
  | opened => rfl
  | apart | trying => cases connected

theorem read_ends_informed (calls : List ClientCall) (ec : ErrorCode) (world : AttemptWorld) (stage : AttemptStage)
    (informed : Informed world stage)
    (safe : world.host.isConnected = true → callsSafely ⟨true, false⟩ calls = true) :
    EndsInformed (onRead (attending calls) ec world) := by
  by_cases connected : world.host.isConnected = true
  · obtain rfl := opened_stage world stage informed connected
    simp only [onRead, connected, Bool.true_eq_false, if_false]
    cases ec with
    | some what =>
        exact failed_ends_informed ⟨true, false⟩ calls what world .opened informed.told rfl informed.attempts connected
          (safe connected)
    | none =>
        have heard : Informed (hear (.onMessage world.host.readBuffer) world) .opened :=
          ⟨by simp [hear, AttemptUser.hears, informed.told, AttemptStage.after], informed.attempts, informed.connected⟩
        have calms := calls_calm ⟨true, false⟩ calls (hear (.onMessage world.host.readBuffer) world) connected
          (safe connected)
        refine informed_ends _ (Outcome.and_then_keeps (fun world => ∃ stage, Informed world stage) _ _
          (calms_informed _ _ .opened heard calms) ?_)
        rintro later ⟨stage, knows⟩
        exact ⟨stage, knows.told, knows.attempts, knows.connected⟩
  · have apart : world.host.isConnected = false := by simpa using connected
    simp only [onRead, apart, if_true]
    exact informed_ends _ ⟨stage, informed⟩

theorem write_ends_informed (calls : List ClientCall) (ec : ErrorCode) (world : AttemptWorld) (stage : AttemptStage)
    (informed : Informed world stage)
    (safe : world.host.isConnected = true → ec.isSome = true → callsSafely ⟨true, true⟩ calls = true) :
    EndsInformed (onWrite (attending calls) ec world) := by
  by_cases connected : world.host.isConnected = true
  · obtain rfl := opened_stage world stage informed connected
    simp only [onWrite, connected, Bool.true_eq_false, if_false]
    cases ec with
    | some what =>
        exact failed_ends_informed ⟨true, true⟩ calls what world .opened informed.told rfl informed.attempts connected
          (safe connected rfl)
    | none =>
        simp only [pop_queued, Outcome.map_returned]
        exact informed_ends _ ⟨.opened, informed.told, informed.attempts, informed.connected⟩
  · have apart : world.host.isConnected = false := by simpa using connected
    simp only [onWrite, apart, if_true]
    exact informed_ends _ ⟨stage, informed.told, informed.attempts, apart.symm.trans informed.connected⟩

theorem attempt_ended (connection later : WebSocketConnection) (stage : AttemptStage)
    (attempts : underWay connection = stage.attempts) (one : underWay later + 1 = underWay connection) :
    underWay later = 0 := by
  cases stage <;> simp only [AttemptStage.attempts] at attempts <;> omega

theorem complete_ends_informed (calls : List ClientCall) (world : AttemptWorld) (completion : ClientCompletion)
    (outcome : Outcome AttemptWorld) (stage : AttemptStage) (informed : Informed world stage)
    (safe : handlerSafe world.host completion calls = true)
    (taken : complete (attending calls) world completion = some outcome) : EndsInformed outcome := by
  have connected := informed.connected
  cases completion with
  | resolved ec =>
      obtain ⟨pending, rfl⟩ := (complete_resolved _ _ _ _).mp taken
      obtain rfl := attempt_trying world stage informed (by simp only [underWay]; omega)
      cases ec with
      | none =>
          have onward : underWay { world.host with pendingResolves := world.host.pendingResolves - 1 }.asyncConnect =
              underWay world.host := by
            simp only [underWay, asyncConnect]
            omega
          exact informed_ends _ ⟨.trying, informed.told, onward.trans informed.attempts, connected⟩
      | some what =>
          have ended : underWay { world.host with pendingResolves := world.host.pendingResolves - 1 } = 0 := by
            refine attempt_ended world.host _ .trying informed.attempts ?_
            simp only [underWay]
            omega
          exact failed_ends_informed ⟨world.host.isConnected, false⟩ calls what _ .trying informed.told rfl ended rfl safe
  | connected ec =>
      obtain ⟨pending, rfl⟩ := (complete_connected _ _ _ _).mp taken
      obtain rfl := attempt_trying world stage informed (by simp only [underWay]; omega)
      cases ec with
      | none =>
          have onward : underWay { world.host with pendingConnects := world.host.pendingConnects - 1 }.asyncHandshake =
              underWay world.host := by
            simp only [underWay, asyncHandshake]
            omega
          exact informed_ends _ ⟨.trying, informed.told, onward.trans informed.attempts, connected⟩
      | some what =>
          have ended : underWay { world.host with pendingConnects := world.host.pendingConnects - 1 } = 0 := by
            refine attempt_ended world.host _ .trying informed.attempts ?_
            simp only [underWay]
            omega
          exact failed_ends_informed ⟨world.host.isConnected, false⟩ calls what _ .trying informed.told rfl ended rfl safe
  | handshaken ec =>
      obtain ⟨pending, rfl⟩ := (complete_handshaken _ _ _ _).mp taken
      obtain rfl := attempt_trying world stage informed (by simp only [underWay]; omega)
      have ended : underWay { world.host with pendingHandshakes := world.host.pendingHandshakes - 1 } = 0 := by
        refine attempt_ended world.host _ .trying informed.attempts ?_
        simp only [underWay]
        omega
      cases ec with
      | none =>
          simp only [onHandshake, attending]
          refine informed_ends _ (calms_informed _ _ .opened ⟨?_, ended, rfl⟩ (calls_calm ⟨true, false⟩ calls _ rfl ?_))
          · simp [hear, AttemptUser.hears, informed.told, AttemptStage.after]
          · simpa [handlerSafe, invocation] using safe
      | some what =>
          refine failed_ends_informed ⟨world.host.isConnected, false⟩ calls what _ .trying informed.told rfl ended rfl ?_
          simpa [handlerSafe, invocation] using safe
  | received ec message =>
      obtain ⟨_, rfl⟩ := (complete_received _ _ _ _ _).mp taken
      refine read_ends_informed calls ec _ stage ⟨informed.told, informed.attempts, connected⟩ fun opened => ?_
      dsimp only at opened
      simpa [handlerSafe, invocation, opened] using safe
  | wrote index ec =>
      obtain ⟨_, rfl⟩ := (complete_wrote _ _ _ _ _).mp taken
      refine write_ends_informed calls ec _ stage ⟨informed.told, informed.attempts, connected⟩ fun opened error => ?_
      dsimp only at opened
      simpa [handlerSafe, invocation, opened, error] using safe

theorem connect_begins (connection : WebSocketConnection) (ipAddress port : String) (closeError : ErrorCode)
    (goesOn : ¬ (ClientCall.connect ipAddress port closeError).endsEarly connection) :
    connection.connect ipAddress port closeError =
      .returned { connection.stop with ipAddress := ipAddress, port := port }.asyncResolve := by
  have left : connection.disconnect closeError = .returned connection.stop := by
    by_cases connected : connection.isConnected = true
    · cases closeError with
      | none => simp [disconnect, connected]
      | some what => exact absurd ⟨connected, rfl⟩ goesOn
    · simp [disconnect, stop, connected]
  rw [connect, beginConnect, left]
  rfl

theorem connect_tries (world : AttemptWorld) (ipAddress port : String) (closeError : ErrorCode)
    (goesOn : ¬ (ClientCall.connect ipAddress port closeError).endsEarly world.host) :
    ∃ later, performCall noteAttempt (.connect ipAddress port closeError) world = .returned later ∧
      later.app = { world.app with stage := world.app.stage.map fun _ => .trying } ∧
        underWay later.host = underWay world.host + 1 ∧ later.host.isConnected = false ∧
          (world.host.isConnected = false → later.host.stopped = world.host.stopped) := by
  have begun := connect_begins world.host ipAddress port closeError goesOn
  refine ⟨_, by rw [performCall, ClientCall.perform, begun, Outcome.map_returned], ?_, ?_, ?_, ?_⟩
  · have unthrown : (world.host.isConnected && closeError.isSome) = false := by
      simpa [ClientCall.endsEarly] using goesOn
    simp [noteAttempt, unthrown]
  · have kept := stop_under_way world.host
    simp only [underWay, asyncResolve] at kept ⊢
    omega
  · exact stop_connected world.host
  · intro apart
    simp [asyncResolve, stop, apart]

theorem call_informed (call : ClientCall) (world : AttemptWorld) (stage : AttemptStage) (informed : Informed world stage)
    (alone : call.endsEarly world.host ∨ underWay world.host = 0) :
    ∃ later, Informed (performCall noteAttempt call world).world later := by
  by_cases early : call.endsEarly world.host
  · exact calms_informed world _ stage informed (perform_calms call world early)
  · have settled := alone.resolve_left early
    cases call with
    | connect ipAddress port closeError =>
        obtain ⟨later, made, told, one, apart, _⟩ := connect_tries world ipAddress port closeError early
        rw [made, Outcome.world_returned]
        refine ⟨.trying, ?_, ?_, apart⟩
        · rw [told, informed.told]
          rfl
        · rw [one, settled]
          rfl
    | _ => exact absurd trivial early

theorem leave_idle_app (process : Process AttemptWorld) : (leaveIdle process).world.app = process.world.app := by
  unfold leaveIdle
  split <;> rfl

theorem leave_idle_ending (process : Process AttemptWorld) : (leaveIdle process).ending = process.ending := by
  unfold leaveIdle
  split <;> rfl

theorem leave_idle_informed (process : Process AttemptWorld) (stage : AttemptStage)
    (informed : Informed process.world stage) : Informed (leaveIdle process).world stage := by
  unfold leaveIdle
  split
  · exact ⟨informed.told, informed.attempts, informed.connected⟩
  · exact informed

structure WellInformed (process : Process AttemptWorld) : Prop where
  told : process.world.app.stage ≠ none
  running : process.ending = .running → ∃ stage, Informed process.world stage

theorem well_informed_step (process : Process AttemptWorld) (event : AttemptEvent) (next : Process AttemptWorld)
    (before : WellInformed process) (alone : OneAttempt process event) (taken : attemptStep process event = some next) :
    WellInformed next := by
  simp only [attemptStep, Option.ite_none_right_eq_some] at taken
  obtain ⟨running, taken⟩ := taken
  obtain ⟨stage, informed⟩ := before.running running
  cases event with
  | call made =>
      cases taken
      have free : made.endsEarly process.world.host ∨ underWay process.world.host = 0 := by
        cases made with
        | connect ipAddress port closeError => exact .inr alone
        | _ => exact .inl trivial
      obtain ⟨later, knows⟩ := call_informed made process.world stage informed free
      refine ⟨?_, fun _ => ⟨later, ?_⟩⟩
      · rw [settle_call_world, knows.told]
        exact Option.some_ne_none _
      · rw [settle_call_world]
        exact knows
  | completed completion calls =>
      simp only [Option.ite_none_right_eq_some, Option.map_eq_some_iff] at taken
      obtain ⟨safe, outcome, done, rfl⟩ := taken
      have ends := complete_ends_informed calls process.world completion outcome stage informed safe done
      refine ⟨by simpa [leave_idle_app] using ends.told, fun alive => ?_⟩
      rw [leave_idle_ending] at alive
      cases outcome with
      | returned later =>
          obtain ⟨stage, knows⟩ := ends.returned later rfl
          exact ⟨stage, leave_idle_informed _ stage knows⟩
      | threw what later => cases alive
      | undefined later => cases alive

def unanswered (completion : ClientCompletion) : AttemptEvent := .completed completion []

theorem unanswered_safe (connection : WebSocketConnection) (completion : ClientCompletion) :
    handlerSafe connection completion [] = true := by
  unfold handlerSafe
  split <;> rfl

theorem unanswered_step (process : Process AttemptWorld) (completion : ClientCompletion) (later : AttemptWorld)
    (running : process.ending = .running)
    (done : complete (attending []) process.world completion = some (.returned later))
    (busy : runReturns later.host = false) :
    attemptStep process (unanswered completion) = some ⟨later, .running⟩ := by
  simp [attemptStep, unanswered, running, unanswered_safe, done, settle, leaveIdle, busy]

theorem busy_goes_on (connection : WebSocketConnection) (runnable : connection.stopped = false)
    (busy : 0 < outstandingWork connection) : runReturns connection = false := by
  simp only [runReturns, runnable, Bool.false_or, decide_eq_false_iff_not]
  omega

def WebSocketConnection.ClientCompletion.succeeded : ClientCompletion → Bool
  | .resolved ec => ec.isNone
  | .connected ec => ec.isNone
  | .handshaken ec => ec.isNone
  | .received ec _ => ec.isNone
  | .wrote _ ec => ec.isNone

-- Successful completions, with the io_context never stopped, bring one onOpen and an
-- open connection.
structure Opens (process opened : Process AttemptWorld) (completions : List ClientCompletion) : Prop where
  reached : Transition.run attemptStep process (completions.map unanswered) = some opened
  succeeded : ∀ completion ∈ completions, completion.succeeded = true
  running : opened.ending = .running
  runnable : opened.world.host.stopped = false
  connected : opened.world.host.isConnected = true
  attempts : underWay opened.world.host + 1 = underWay process.world.host
  told : opened.world.app = process.world.app.hears .onOpen

def CanOpen (process : Process AttemptWorld) : Prop := ∃ completions opened, Opens process opened completions

theorem handshake_opens (process : Process AttemptWorld) (running : process.ending = .running)
    (runnable : process.world.host.stopped = false) (pending : 0 < process.world.host.pendingHandshakes) :
    CanOpen process := by
  have taken := unanswered_step process _ _ running ((complete_handshaken _ _ none _).mpr ⟨pending, rfl⟩)
    (busy_goes_on _ runnable (by simp only [hear, outstandingWork, doRead]; omega))
  refine ⟨[.handshaken none], _, (Transition.run_cons _ _ _ _ _).mpr ⟨_, taken, rfl⟩, by simp [ClientCompletion.succeeded],
    rfl, runnable, rfl, ?_, rfl⟩
  simp only [hear, doRead, underWay]
  omega

theorem step_can_open (process next : Process AttemptWorld) (completion : ClientCompletion)
    (taken : attemptStep process (unanswered completion) = some next) (succeeded : completion.succeeded = true)
    (same : next.world.app = process.world.app) (attempts : underWay next.world.host = underWay process.world.host)
    (onward : CanOpen next) : CanOpen process := by
  obtain ⟨completions, opened, opens⟩ := onward
  refine ⟨completion :: completions, opened, (Transition.run_cons _ _ _ _ _).mpr ⟨next, taken, opens.reached⟩,
    List.forall_mem_cons.mpr ⟨succeeded, opens.succeeded⟩, opens.running, opens.runnable, opens.connected,
    opens.attempts.trans attempts, ?_⟩
  rw [opens.told, same]

theorem connect_opens (process : Process AttemptWorld) (running : process.ending = .running)
    (runnable : process.world.host.stopped = false) (pending : 0 < process.world.host.pendingConnects) :
    CanOpen process := by
  have taken := unanswered_step process _ _ running ((complete_connected _ _ none _).mpr ⟨pending, rfl⟩)
    (busy_goes_on _ runnable (by simp only [outstandingWork, asyncHandshake]; omega))
  refine step_can_open process _ _ taken rfl rfl ?_ (handshake_opens _ rfl runnable (Nat.succ_pos _))
  simp only [underWay, asyncHandshake]
  omega

theorem resolve_opens (process : Process AttemptWorld) (running : process.ending = .running)
    (runnable : process.world.host.stopped = false) (pending : 0 < process.world.host.pendingResolves) :
    CanOpen process := by
  have taken := unanswered_step process _ _ running ((complete_resolved _ _ none _).mpr ⟨pending, rfl⟩)
    (busy_goes_on _ runnable (by simp only [outstandingWork, asyncConnect]; omega))
  refine step_can_open process _ _ taken rfl rfl ?_ (connect_opens _ rfl runnable (Nat.succ_pos _))
  simp only [underWay, asyncConnect]
  omega

theorem attempt_opens (process : Process AttemptWorld) (running : process.ending = .running)
    (runnable : process.world.host.stopped = false) (pending : 0 < underWay process.world.host) : CanOpen process := by
  by_cases shaking : 0 < process.world.host.pendingHandshakes
  · exact handshake_opens process running runnable shaking
  · by_cases connecting : 0 < process.world.host.pendingConnects
    · exact connect_opens process running runnable connecting
    · refine resolve_opens process running runnable ?_
      simp only [underWay] at pending
      omega

def OpensTwice (process : Process AttemptWorld) : Prop :=
  ∃ (early late : List ClientCompletion) (opened confused : Process AttemptWorld),
    Opens process opened early ∧ opened.world.app.stage = some .opened ∧
      Opens opened confused late ∧ confused.world.app.stage = none ∧
        confused.world.app.heard = process.world.app.heard ++ [.onOpen, .onOpen]

theorem overlapping_open_twice (process : Process AttemptWorld) (running : process.ending = .running)
    (runnable : process.world.host.stopped = false) (told : process.world.app.stage = some .trying)
    (two : underWay process.world.host = 2) : OpensTwice process := by
  obtain ⟨early, opened, once⟩ := attempt_opens process running runnable (by omega)
  have one := once.attempts
  obtain ⟨late, confused, again⟩ := attempt_opens opened once.running once.runnable (by omega)
  have heard : opened.world.app.stage = some .opened := by
    rw [once.told, AttemptUser.hears, told]
    rfl
  refine ⟨early, late, opened, confused, once, heard, again, ?_, ?_⟩
  · rw [again.told, AttemptUser.hears, heard]
    rfl
  · simp [again.told, once.told, AttemptUser.hears]

def shakesHands : List AttemptEvent :=
  [.call (.connect "localhost" "7777" none), .completed (.resolved none) [], .completed (.connected none) []]

-- One connection, one attempt that fails, and one that still goes on.
def connectsThrice : List AttemptEvent :=
  [.call (.connect "localhost" "7777" none), .completed (.resolved none) [], .completed (.connected none) [],
    .completed (.handshaken none) [.sendBinary [1]], .completed (.received none [2]) [.disconnect none],
    .completed (.wrote 0 none) [], .call (.connect "localhost" "7777" none),
    .completed (.resolved (some "Host not found (authoritative)")) [.isConnected],
    .call (.connect "localhost" "7777" none), .completed (.resolved none) []]

end NetworkWrapper
