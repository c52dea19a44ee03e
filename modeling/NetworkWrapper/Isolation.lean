import NetworkWrapper.ClientRuns

set_option autoImplicit false

-- Successive connections of one native client: what an earlier one may leave in
-- the send queue and in the read buffer.
namespace NetworkWrapper

open WebSocketConnection

-- leftover is ghost state: an earlier step has left something behind.
structure SuccessiveClient where
  process : Process WatchedClient
  leftover : Bool

def SuccessiveClient.connection (state : SuccessiveClient) : WebSocketConnection := state.process.world.host

def freshSuccessive : SuccessiveClient := { process := freshClient, leftover := false }

-- A write that fails on a connected client stays in the queue, and so do the
-- bytes of a read in the buffer when they are not delivered.
def leavesSomething (connection : WebSocketConnection) : ClientEvent → Bool
  | .completed (.wrote _ ec) => connection.isConnected && ec.isSome
  | .completed (.received ec message) => (ec.isSome || !connection.isConnected) && !message.isEmpty
  | _ => false

def successiveStep (state : SuccessiveClient) (event : ClientEvent) : Option SuccessiveClient :=
  (clientStep state.process event).map fun process =>
    { process := process, leftover := state.leftover || leavesSomething state.connection event }

def opening : ClientEvent := .completed (.handshaken none)

-- A connection is only opened when every read and write of an earlier one has
-- completed and has left nothing behind.
def CleanOpening (state : SuccessiveClient) (event : ClientEvent) : Prop :=
  event = opening → state.leftover = false ∧ state.connection.pendingReads = 0 ∧ state.connection.pendingWrites = []

instance (state : SuccessiveClient) (event : ClientEvent) : Decidable (CleanOpening state event) :=
  inferInstanceAs (Decidable (_ → _))

def OneWriteOfFront (connection : WebSocketConnection) : Prop :=
  connection.isConnected = true → connection.buffersToSend ≠ [] →
    ∃ front rest, connection.buffersToSend = front :: rest ∧ connection.pendingWrites = [front]

def NothingEarlier (connection : WebSocketConnection) : Prop :=
  connection.buffersToSend = [] ∧ connection.readBuffer = []

structure Tidy (connection : WebSocketConnection) : Prop where
  unread : connection.readBuffer = []
  writing : connection.pendingWrites = connection.buffersToSend.take 1

structure Isolated (state : SuccessiveClient) : Prop where
  tidy : state.leftover = false → Tidy state.connection
  apart : state.leftover = true → state.connection.isConnected = false

theorem tidy_one_write (connection : WebSocketConnection) (tidy : Tidy connection) : OneWriteOfFront connection := by
  intro _ waiting
  obtain ⟨front, rest, split⟩ := List.exists_cons_of_ne_nil waiting
  refine ⟨front, rest, split, ?_⟩
  rw [tidy.writing, split]
  rfl

theorem isolated_one_write (state : SuccessiveClient) (isolated : Isolated state) : OneWriteOfFront state.connection := by
  by_cases left : state.leftover = true
  · intro connected
    rw [isolated.apart left] at connected
    cases connected
  · exact tidy_one_write state.connection (isolated.tidy (by simpa using left))

theorem tidy_stop (connection : WebSocketConnection) (tidy : Tidy connection) : Tidy connection.stop := by
  by_cases connected : connection.isConnected = true
  · rw [stop, if_pos connected]
    exact ⟨tidy.unread, tidy.writing⟩
  · rw [stop, if_neg connected]
    exact tidy

theorem tidy_sent (connection : WebSocketConnection) (inData : Bytes) (given : inData ≠ []) (tidy : Tidy connection) :
    Tidy (connection.lockedSend inData).world := by
  rw [locked_send_nonempty connection inData given]
  refine ⟨tidy.unread, ?_⟩
  cases waiting : connection.buffersToSend with
  | nil => simp [tidy.writing, waiting]
  | cons front rest => simp [tidy.writing, waiting]

theorem calls_tidy : CallRule Tidy where
  stopped := tidy_stop
  sent connection inData _ given tidy := tidy_sent connection inData given tidy
  addressed _ _ _ tidy := ⟨tidy.unread, tidy.writing⟩
  resolving _ tidy := ⟨tidy.unread, tidy.writing⟩

theorem tidy_failed (what : String) (world : WatchedClient) (tidy : Tidy world.host) :
    Tidy (failed watching what world).world.host := by
  rw [failed_watching]
  exact ⟨tidy.unread, tidy.writing⟩

theorem tidy_on_read (ec : ErrorCode) (message : Bytes) (world : WatchedClient) (tidy : Tidy world.host)
    (nothing : leavesSomething world.host (.completed (.received ec message)) = false) :
    Tidy (onRead watching ec { world with host := endOperation world.host (.received ec message) }).world.host := by
  by_cases connected : world.host.isConnected = true
  · cases ec with
    | none =>
        simp only [onRead, endOperation, connected, Bool.true_eq_false, if_false, watching, noteClient,
          Outcome.returned_and_then, Outcome.world_returned]
        exact ⟨rfl, tidy.writing⟩
    | some what =>
        have empty : message = [] := by simpa [leavesSomething] using nothing
        simp only [onRead, endOperation, connected, Bool.true_eq_false, if_false]
        apply tidy_failed
        exact ⟨by simp [tidy.unread, empty], tidy.writing⟩
  · have empty : message = [] := by simpa [leavesSomething, connected] using nothing
    simp only [onRead, endOperation, connected, if_true, Outcome.world_returned]
    exact ⟨by simp [tidy.unread, empty], tidy.writing⟩

theorem tidy_on_write (index : Nat) (ec : ErrorCode) (world : WatchedClient) (tidy : Tidy world.host)
    (pending : index < world.host.pendingWrites.length)
    (nothing : leavesSomething world.host (.completed (.wrote index ec)) = false) :
    Tidy (onWrite watching ec { world with host := endOperation world.host (.wrote index ec) }).world.host := by
  obtain ⟨first, front, rest, waiting, alone⟩ :=
    outstanding_front world.host.buffersToSend world.host.pendingWrites (by rw [tidy.writing]) index pending
  have finished : world.host.pendingWrites.eraseIdx index = [] := by rw [alone, first]; rfl
  by_cases connected : world.host.isConnected = true
  · cases ec with
    | none =>
        simp only [onWrite, endOperation, connected, Bool.true_eq_false, if_false, pop_queued, Outcome.map_returned,
          Outcome.world_returned, finished]
        exact ⟨tidy.unread, rfl⟩
    | some what => simp [leavesSomething, connected] at nothing
  · simp only [onWrite, endOperation, connected, if_true, Outcome.world_returned, finished]
    exact ⟨tidy.unread, rfl⟩

theorem tidy_completed (world : WatchedClient) (completion : ClientCompletion) (outcome : Outcome WatchedClient)
    (tidy : Tidy world.host) (nothing : leavesSomething world.host (.completed completion) = false)
    (taken : complete watching world completion = some outcome) : Tidy outcome.world.host := by
  cases completion with
  | resolved ec =>
      obtain ⟨_, rfl⟩ := (complete_resolved _ _ _ _).mp taken
      cases ec with
      | none => exact ⟨tidy.unread, tidy.writing⟩
      | some what => exact tidy_failed what _ ⟨tidy.unread, tidy.writing⟩
  | connected ec =>
      obtain ⟨_, rfl⟩ := (complete_connected _ _ _ _).mp taken
      cases ec with
      | none => exact ⟨tidy.unread, tidy.writing⟩
      | some what => exact tidy_failed what _ ⟨tidy.unread, tidy.writing⟩
  | handshaken ec =>
      obtain ⟨_, rfl⟩ := (complete_handshaken _ _ _ _).mp taken
      cases ec with
      | none => exact ⟨tidy.unread, tidy.writing⟩
      | some what => exact tidy_failed what _ ⟨tidy.unread, tidy.writing⟩
  | received ec message =>
      obtain ⟨_, rfl⟩ := (complete_received _ _ _ _ _).mp taken
      exact tidy_on_read ec message world tidy nothing
  | wrote index ec =>
      obtain ⟨pending, rfl⟩ := (complete_wrote _ _ _ _ _).mp taken
      exact tidy_on_write index ec world tidy pending nothing

theorem failed_apart (what : String) (world : WatchedClient) :
    (failed watching what world).world.host.isConnected = false := by
  rw [failed_watching, Outcome.world_returned]

theorem completed_apart (world : WatchedClient) (completion : ClientCompletion) (outcome : Outcome WatchedClient)
    (notOpening : completion ≠ .handshaken none)
    (gone : world.host.isConnected = false ∨ leavesSomething world.host (.completed completion) = true)
    (taken : complete watching world completion = some outcome) : outcome.world.host.isConnected = false := by
  cases completion with
  | resolved ec =>
      obtain ⟨_, rfl⟩ := (complete_resolved _ _ _ _).mp taken
      cases ec with
      | none => exact gone.resolve_right (by simp [leavesSomething])
      | some what => exact failed_apart what _
  | connected ec =>
      obtain ⟨_, rfl⟩ := (complete_connected _ _ _ _).mp taken
      cases ec with
      | none => exact gone.resolve_right (by simp [leavesSomething])
      | some what => exact failed_apart what _
  | handshaken ec =>
      obtain ⟨_, rfl⟩ := (complete_handshaken _ _ _ _).mp taken
      cases ec with
      | none => exact absurd rfl notOpening
      | some what => exact failed_apart what _
  | received ec message =>
      obtain ⟨_, rfl⟩ := (complete_received _ _ _ _ _).mp taken
      by_cases connected : world.host.isConnected = true
      · cases ec with
        | none => simp [leavesSomething, connected] at gone
        | some what =>
            simp only [onRead, connected, Bool.true_eq_false, if_false]
            exact failed_apart what _
      · simp [onRead, connected]
  | wrote index ec =>
      obtain ⟨_, rfl⟩ := (complete_wrote _ _ _ _ _).mp taken
      by_cases connected : world.host.isConnected = true
      · cases ec with
        | none => simp [leavesSomething, connected] at gone
        | some what =>
            simp only [onWrite, connected, Bool.true_eq_false, if_false]
            exact failed_apart what _
      · simp [onWrite, connected]

theorem no_call_opens (call : ClientCall) (event : ClientEvent) (made : event.asCall = some call)
    (connection : WebSocketConnection) : leavesSomething connection event = false := by
  cases event with
  | completed completion => cases made
  | _ => rfl

theorem isolated_step (state next : SuccessiveClient) (event : ClientEvent) (isolated : Isolated state)
    (clean : CleanOpening state event) (taken : successiveStep state event = some next) : Isolated next := by
  obtain ⟨process, moved, rfl⟩ := Option.map_eq_some_iff.mp taken
  obtain ⟨_, ⟨call, made, rfl⟩ | ⟨completion, outcome, rfl, done, rfl⟩⟩ := client_step_cases _ _ _ moved
  · have nothing := no_call_opens call event made state.connection
    refine ⟨fun before => ?_, fun left => ?_⟩
    · simp only [nothing, Bool.or_false] at before
      rw [SuccessiveClient.connection, called_host]
      exact perform_keeps Tidy calls_tidy call state.connection (isolated.tidy before)
    · simp only [nothing, Bool.or_false] at left
      rw [SuccessiveClient.connection, called_host]
      exact perform_keeps _ calls_stay_apart call state.connection (isolated.apart left)
  · refine ⟨fun before => ?_, fun left => ?_⟩
    · simp only [Bool.or_eq_false_iff] at before
      rw [SuccessiveClient.connection, settle_world]
      exact tidy_completed state.process.world completion outcome (isolated.tidy before.1) before.2 done
    · simp only [Bool.or_eq_true] at left
      rw [SuccessiveClient.connection, settle_world]
      refine completed_apart state.process.world completion outcome ?_ (left.imp_left isolated.apart) done
      rintro rfl
      have before := (clean rfl).1
      simp [before, leavesSomething] at left

theorem opened_clean (state next : SuccessiveClient) (isolated : Isolated state) (clean : CleanOpening state opening)
    (taken : successiveStep state opening = some next) :
    NothingEarlier next.connection ∧ next.connection.pendingWrites = [] := by
  obtain ⟨before, _, written⟩ := clean rfl
  have tidy := isolated.tidy before
  have unqueued : state.connection.buffersToSend = [] := by
    have front := tidy.writing.symm.trans written
    simpa using front
  obtain ⟨process, moved, rfl⟩ := Option.map_eq_some_iff.mp taken
  obtain ⟨_, ⟨call, made, rfl⟩ | ⟨completion, outcome, same, done, rfl⟩⟩ := client_step_cases _ _ _ moved
  · cases made
  · cases same
    obtain ⟨_, rfl⟩ := (complete_handshaken _ _ _ _).mp done
    exact ⟨⟨unqueued, tidy.unread⟩, written⟩

theorem isolated_run (events : List ClientEvent) (state final : SuccessiveClient) (isolated : Isolated state)
    (clean : Transition.Meets successiveStep CleanOpening state events)
    (reached : Transition.run successiveStep state events = some final) : Isolated final :=
  Transition.run_keeps_guarded successiveStep CleanOpening Isolated
    (fun middle event next sofar allowed taken => isolated_step middle next event sofar allowed taken)
    events state final isolated clean reached

theorem accepted_since_run (earlier : Nat) (events : List ClientEvent) (state final : SuccessiveClient)
    (since : AcceptedSince earlier state.connection)
    (reached : Transition.run successiveStep state events = some final) : AcceptedSince earlier final.connection := by
  refine Transition.run_keeps successiveStep (fun state => AcceptedSince earlier state.connection) ?_ events state final
    since reached
  intro middle event next sofar taken
  obtain ⟨process, moved, rfl⟩ := Option.map_eq_some_iff.mp taken
  exact accepted_since_step earlier middle.process process event sofar moved

theorem isolated_fresh : Isolated freshSuccessive := ⟨fun _ => ⟨rfl, rfl⟩, by simp [freshSuccessive]⟩

def DeliversOnly (event : ClientEvent) (before after : List ClientCallback) : Prop :=
  ∃ told, after = before ++ told ∧
    ∀ payload, .onMessage payload ∈ told → event = .completed (.received none payload)

theorem delivers_nothing (event : ClientEvent) (log : List ClientCallback) : DeliversOnly event log log :=
  ⟨[], (List.append_nil log).symm, by simp⟩

theorem completed_delivers (world : WatchedClient) (completion : ClientCompletion) (outcome : Outcome WatchedClient)
    (unread : world.host.isConnected = true → world.host.readBuffer = [])
    (taken : complete watching world completion = some outcome) :
    DeliversOnly (.completed completion) world.app outcome.world.app := by
  refine ⟨tells world.host completion, complete_tells world completion outcome taken, fun payload member => ?_⟩
  cases completion with
  | resolved ec => cases ec <;> simp [tells] at member
  | connected ec => cases ec <;> simp [tells] at member
  | handshaken ec => cases ec <;> simp [tells] at member
  | wrote index ec => cases ec <;> simp [tells] at member
  | received ec message =>
      by_cases apart : world.host.isConnected = false
      · simp [tells, apart] at member
      · cases ec with
        | some what => simp [tells, apart] at member
        | none =>
            have same : payload = message := by
              simpa [tells, apart, unread (by simpa using apart)] using member
            rw [same]

theorem step_delivers (state next : SuccessiveClient) (event : ClientEvent) (isolated : Isolated state)
    (taken : successiveStep state event = some next) :
    DeliversOnly event state.process.world.app next.process.world.app := by
  obtain ⟨process, moved, rfl⟩ := Option.map_eq_some_iff.mp taken
  obtain ⟨_, ⟨call, _, rfl⟩ | ⟨completion, outcome, rfl, done, rfl⟩⟩ := client_step_cases _ _ _ moved
  · rw [called_app]
    exact delivers_nothing event _
  · rw [settle_world]
    refine completed_delivers state.process.world completion outcome (fun connected => ?_) done
    have before : state.leftover = false := by
      by_contra left
      have apart := isolated.apart (by simpa using left)
      exact absurd (connected.symm.trans apart) (by simp)
    exact (isolated.tidy before).unread

theorem run_delivers (events : List ClientEvent) (state final : SuccessiveClient) (isolated : Isolated state)
    (clean : Transition.Meets successiveStep CleanOpening state events)
    (reached : Transition.run successiveStep state events = some final) :
    ∃ told, final.process.world.app = state.process.world.app ++ told ∧
      ∀ payload, .onMessage payload ∈ told → .completed (.received none payload) ∈ events := by
  induction events generalizing state with
  | nil =>
      rw [Transition.run_nil] at reached
      exact ⟨[], by simp [reached], by simp⟩
  | cons event rest ih =>
      obtain ⟨next, taken, onward⟩ := (Transition.run_cons _ _ _ _ _).mp reached
      obtain ⟨allowed, later⟩ := (Transition.meets_cons _ _ _ _ _ _ taken).mp clean
      obtain ⟨first, told, delivered⟩ := step_delivers state next event isolated taken
      obtain ⟨others, heard, come⟩ := ih next (isolated_step state next event isolated allowed taken) later onward
      refine ⟨first ++ others, by rw [heard, told, List.append_assoc], fun payload member => ?_⟩
      rcases List.mem_append.mp member with now | after
      · rw [delivered payload now]
        exact List.mem_cons_self
      · exact List.mem_cons_of_mem _ (come payload after)

def OnlySince (opened final : SuccessiveClient) (after : List ClientEvent) : Prop :=
  AcceptedSince opened.connection.accepted.length final.connection ∧
    ∃ told, final.process.world.app = opened.process.world.app ++ told ∧
      ∀ payload, .onMessage payload ∈ told → .completed (.received none payload) ∈ after

theorem connections_isolated (events : List ClientEvent) (final : SuccessiveClient)
    (reached : Transition.run successiveStep freshSuccessive events = some final)
    (clean : Transition.Meets successiveStep CleanOpening freshSuccessive events) :
    OneWriteOfFront final.connection ∧
      ∀ before after, events = before ++ opening :: after →
        ∃ opened, Transition.run successiveStep freshSuccessive (before ++ [opening]) = some opened ∧
          NothingEarlier opened.connection ∧ OnlySince opened final after := by
  refine ⟨isolated_one_write final (isolated_run events _ final isolated_fresh clean reached), ?_⟩
  rintro before after rfl
  obtain ⟨middle, earlier, onward⟩ := (Transition.run_append _ _ _ _ _).mp reached
  obtain ⟨opened, taken, later⟩ := (Transition.run_cons _ _ _ _ _).mp onward
  obtain ⟨cleanBefore, cleanRest⟩ := (Transition.meets_append _ _ _ _ _ _ earlier).mp clean
  obtain ⟨allowed, cleanAfter⟩ := (Transition.meets_cons _ _ _ _ _ _ taken).mp cleanRest
  have isolated := isolated_run before freshSuccessive middle isolated_fresh cleanBefore earlier
  obtain ⟨nothing, written⟩ := opened_clean middle opened isolated allowed taken
  have since : AcceptedSince opened.connection.accepted.length opened.connection :=
    ⟨Nat.le_refl _, by simp [nothing.1], by simp [written]⟩
  refine ⟨opened, (Transition.run_snoc _ _ _ _ _).mpr ⟨middle, earlier, taken⟩, nothing, ?_, ?_⟩
  · exact accepted_since_run _ after opened final since later
  · exact run_delivers after opened final (isolated_step middle opened opening isolated allowed taken) cleanAfter later

def opensAnew : List ClientEvent :=
  [.connect "localhost" "7777" none, .completed (.resolved none), .completed (.connected none), opening]

def reopensCleanly : List ClientEvent :=
  opensAnew ++ [.sendBinary [1], .sendBinary [2], .disconnect none, .completed (.wrote 0 (some "operation aborted")),
    .completed (.received (some "operation aborted") [])] ++ opensAnew ++ [.sendBinary [3], .completed (.received none [9])]

theorem connections_isolated_reopened : ∃ final,
    Transition.run successiveStep freshSuccessive reopensCleanly = some final ∧ OneWriteOfFront final.connection :=
  ⟨_, rfl, (connections_isolated reopensCleanly _ rfl (by decide)).1⟩

-- The write of a connected client fails and its payload is never sent, nor is
-- any payload of the connection opened after it.
def failedWriteThenOpen : List ClientEvent :=
  opensAnew ++ [.sendBinary [1], .completed (.wrote 0 (some "broken pipe")),
    .completed (.received (some "broken pipe") [])] ++ opensAnew

theorem failed_write_outlives_connection :
    ¬ ∀ (events : List ClientEvent) (final : SuccessiveClient),
      Transition.run successiveStep freshSuccessive events = some final →
        OneWriteOfFront final.connection ∧
          ∀ before after, events = before ++ opening :: after →
            ∃ opened, Transition.run successiveStep freshSuccessive (before ++ [opening]) = some opened ∧
              NothingEarlier opened.connection ∧ OnlySince opened final after := by
  intro always
  obtain ⟨front, rest, _, alone⟩ := (always failedWriteThenOpen _ rfl).1 rfl (by decide)
  cases alone

end NetworkWrapper
