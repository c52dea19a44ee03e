import NetworkWrapper.Session
import NetworkWrapper.Transition

set_option autoImplicit false

-- Runs of session objects under a user who only watches and reacts: the history
-- of user callbacks is recorded, and each callback goes on to make any finite
-- list of calls on any sessions it holds.
namespace NetworkWrapper

open WebSocketSession

inductive Callback where
  | onConnection
  | onMessage (payload : Bytes)
  | onDisconnection
deriving DecidableEq, Repr

abbrev History := List (SessionId × Callback)

abbrev Watched := World Sessions History

def callbacksOf (self : SessionId) (world : Watched) : List Callback :=
  (world.app.filter fun entry => entry.1 = self).map Prod.snd

inductive Call where
  | write (target : SessionId) (data : Bytes)
  | disconnect (target : SessionId) (closeError : ErrorCode)
deriving DecidableEq, Repr

-- The server stores its sessions nowhere, so user code has a pointer to one only
-- after a callback handed it out; a call without a pointer does not exist.
def Call.perform (world : Watched) : Call → Outcome Watched
  | .write target data =>
      if callbacksOf target world = [] then .returned world else world.call target (·.write data)
  | .disconnect target closeError =>
      if callbacksOf target world = [] then .returned world else world.call target (·.disconnect closeError)

def performAll : List Call → Watched → Outcome Watched
  | [], world => .returned world
  | call :: rest, world => (call.perform world).andThen (performAll rest)

def note (self : SessionId) (callback : Callback) (world : Watched) : Watched :=
  { world with app := world.app ++ [(self, callback)] }

def recording (calls : List Call) : AllCallbacks Sessions History where
  onConnection := some fun self world => performAll calls (note self .onConnection world)
  onDisconnection := some fun self world => performAll calls (note self .onDisconnection world)
  onMessage := some fun self payload world => performAll calls (note self (.onMessage payload) world)

-- calls is what the callback of that completion, if it makes one, goes on to do.
inductive SessionEvent where
  | opened (self : SessionId) (useBoostStrands : Bool)
  | completed (self : SessionId) (completion : Completion) (calls : List Call)
  | called (call : Call)
deriving DecidableEq, Repr

def sessionStep (process : Process Watched) (event : SessionEvent) : Option (Process Watched) :=
  match process.ending, event with
  | .running, .opened self useBoostStrands =>
      if (process.world.host self).constructed then none
      else some ⟨process.world.update self (construct useBoostStrands).run, .running⟩
  | .running, .completed self completion calls =>
      (complete (recording calls) self process.world completion).map settle
  | .running, .called call => some (settleCall (call.perform process.world))
  | _, _ => none

def noSessions : Process Watched := ⟨⟨fun _ => unconstructed, []⟩, .running⟩

@[simp] theorem callbacks_of_update (self other : SessionId) (world : Watched) (session : WebSocketSession) :
    callbacksOf self (world.update other session) = callbacksOf self world := rfl

theorem callbacks_of_app (self : SessionId) (before after : Watched) (same : after.app = before.app) :
    callbacksOf self after = callbacksOf self before := by
  simp only [callbacksOf, same]

@[simp] theorem callbacks_of_note_same (self : SessionId) (callback : Callback) (world : Watched) :
    callbacksOf self (note self callback world) = callbacksOf self world ++ [callback] := by
  simp [callbacksOf, note]

@[simp] theorem callbacks_of_note_other (self other : SessionId) (callback : Callback) (world : Watched)
    (different : other ≠ self) : callbacksOf self (note other callback world) = callbacksOf self world := by
  simp [callbacksOf, note, different]

@[simp] theorem note_host (self : SessionId) (callback : Callback) (world : Watched) :
    (note self callback world).host = world.host := rfl

-- What the user's calls, and the work done for other sessions, can change in a
-- session: never whether it waits for the handshake.
def SameHandshake (before after : WebSocketSession) : Prop :=
  after.constructed = before.constructed ∧ after.pendingAccepts = before.pendingAccepts ∧
    (.onRun ∈ after.posted ↔ .onRun ∈ before.posted)

theorem same_handshake_refl (session : WebSocketSession) : SameHandshake session session :=
  ⟨rfl, rfl, Iff.rfl⟩

theorem same_handshake_trans (a b c : WebSocketSession) (ab : SameHandshake a b) (bc : SameHandshake b c) :
    SameHandshake a c :=
  ⟨bc.1.trans ab.1, bc.2.1.trans ab.2.1, bc.2.2.trans ab.2.2⟩

theorem write_same_handshake (session : WebSocketSession) (data : Bytes) :
    SameHandshake session (session.write data).world := by
  by_cases empty : data = []
  · rw [empty, write_empty]
    exact same_handshake_refl session
  · rw [write_nonempty session data empty]
    simp only [Outcome.world_returned, queued]
    split
    · exact ⟨rfl, rfl, Iff.rfl⟩
    · split
      · exact ⟨rfl, rfl, by simp [post]⟩
      · exact ⟨rfl, rfl, Iff.rfl⟩

theorem disconnect_same_handshake (session : WebSocketSession) (closeError : ErrorCode) :
    SameHandshake session (session.disconnect closeError).world := by
  rw [disconnect_world]
  exact ⟨rfl, rfl, Iff.rfl⟩

theorem do_write_same_handshake (session : WebSocketSession) : SameHandshake session session.doWrite.world := by
  unfold doWrite
  split <;> exact ⟨rfl, rfl, Iff.rfl⟩

theorem pop_same_handshake (session : WebSocketSession) : SameHandshake session session.popAndContinue.world := by
  cases buffers : session.sendBufferSafeQueue.buffersToSend with
  | nil =>
      rw [pop_empty session buffers]
      exact same_handshake_refl session
  | cons sent rest =>
      cases rest with
      | nil =>
          rw [pop_last session sent buffers]
          exact ⟨rfl, rfl, Iff.rfl⟩
      | cons next rest =>
          rw [pop_more session sent next rest buffers]
          exact ⟨rfl, rfl, Iff.rfl⟩

-- A step that is quiet for a session makes none of its callbacks, and leaves it
-- alone altogether as long as no callback has handed it out.
def Quiet (self : SessionId) (before after : Watched) : Prop :=
  callbacksOf self after = callbacksOf self before ∧ SameHandshake (before.host self) (after.host self) ∧
    (callbacksOf self before = [] → after.host self = before.host self)

theorem quiet_refl (self : SessionId) (world : Watched) : Quiet self world world :=
  ⟨rfl, same_handshake_refl _, fun _ => rfl⟩

theorem quiet_trans (self : SessionId) (a b c : Watched) (ab : Quiet self a b) (bc : Quiet self b c) :
    Quiet self a c := by
  refine ⟨bc.1.trans ab.1, same_handshake_trans _ _ _ ab.2.1 bc.2.1, fun unseen => ?_⟩
  exact (bc.2.2 (ab.1.trans unseen)).trans (ab.2.2 unseen)

theorem quiet_update_other (self other : SessionId) (world : Watched) (session : WebSocketSession)
    (different : other ≠ self) : Quiet self world (world.update other session) := by
  have untouched := World.update_other world other self session (Ne.symm different)
  exact ⟨rfl, untouched ▸ same_handshake_refl _, fun _ => untouched⟩

theorem quiet_call_other (self other : SessionId) (world : Watched) (body : WebSocketSession → Outcome WebSocketSession)
    (different : other ≠ self) : Quiet self world (world.call other body).world := by
  have untouched := World.call_other world other self body (Ne.symm different)
  exact ⟨callbacks_of_app self _ _ (World.call_app world other body), untouched ▸ same_handshake_refl _,
    fun _ => untouched⟩

theorem quiet_note_other (self other : SessionId) (callback : Callback) (world : Watched) (different : other ≠ self) :
    Quiet self world (note other callback world) :=
  ⟨callbacks_of_note_other self other callback world different, same_handshake_refl _, fun _ => rfl⟩

theorem quiet_held_call (self target : SessionId) (world : Watched) (body : WebSocketSession → Outcome WebSocketSession)
    (held : callbacksOf target world ≠ []) (kept : ∀ session, SameHandshake session (body session).world) :
    Quiet self world (world.call target body).world := by
  by_cases same : target = self
  · subst target
    refine ⟨callbacks_of_app self _ _ (World.call_app world self body), ?_, fun unseen => absurd unseen held⟩
    simpa only [World.call_same] using kept (world.host self)
  · exact quiet_call_other self target world body same

theorem perform_quiet (self : SessionId) (world : Watched) (call : Call) :
    Quiet self world (call.perform world).world := by
  cases call with
  | write target data =>
      by_cases unseen : callbacksOf target world = []
      · simpa only [Call.perform, if_pos unseen, Outcome.world_returned] using quiet_refl self world
      · simpa only [Call.perform, if_neg unseen] using
          quiet_held_call self target world _ unseen (fun session => write_same_handshake session data)
  | disconnect target closeError =>
      by_cases unseen : callbacksOf target world = []
      · simpa only [Call.perform, if_pos unseen, Outcome.world_returned] using quiet_refl self world
      · simpa only [Call.perform, if_neg unseen] using
          quiet_held_call self target world _ unseen (fun session => disconnect_same_handshake session closeError)

theorem perform_all_quiet (self : SessionId) (calls : List Call) (world : Watched) :
    Quiet self world (performAll calls world).world := by
  induction calls generalizing world with
  | nil => exact quiet_refl self world
  | cons call rest ih =>
      apply Outcome.and_then_keeps (Quiet self world)
      · exact perform_quiet self world call
      · exact fun middle sofar => quiet_trans self _ _ _ sofar (ih middle)

theorem connection_error_quiet (self other : SessionId) (calls : List Call) (world : Watched) (different : other ≠ self) :
    Quiet self world (connectionError (recording calls) other world).world :=
  quiet_trans self _ _ _ (quiet_update_other self other world _ different)
    (quiet_trans self _ _ _ (quiet_note_other self other .onDisconnection _ different) (perform_all_quiet self calls _))

theorem announce_quiet (self other : SessionId) (calls : List Call) (callback : Callback) (world : Watched)
    (onward : WebSocketSession → Outcome WebSocketSession) (different : other ≠ self) :
    Quiet self world
      ((performAll calls (note other callback world)).andThen fun world => world.call other onward).world := by
  have announced : Quiet self world (performAll calls (note other callback world)).world :=
    quiet_trans self _ _ _ (quiet_note_other self other callback world different) (perform_all_quiet self calls _)
  apply Outcome.and_then_keeps (Quiet self world) _ _ announced
  exact fun middle sofar => quiet_trans self _ _ _ sofar (quiet_call_other self other middle onward different)

theorem handler_quiet (self other : SessionId) (calls : List Call) (world : Watched) (ec : ErrorCode)
    (different : other ≠ self) :
    Quiet self world (onAccept (recording calls) other ec world).world ∧
      Quiet self world (onRead (recording calls) other ec world).world ∧
      Quiet self world (onWrite (recording calls) other ec world).world := by
  cases ec with
  | some what =>
      have failed := connection_error_quiet self other calls world different
      exact ⟨failed, failed, failed⟩
  | none =>
      exact ⟨announce_quiet self other calls .onConnection world _ different,
        announce_quiet self other calls (.onMessage _) world _ different,
        quiet_call_other self other world _ different⟩

theorem complete_quiet (self other : SessionId) (calls : List Call) (world : Watched) (completion : Completion)
    (outcome : Outcome Watched) (different : other ≠ self)
    (taken : complete (recording calls) other world completion = some outcome) : Quiet self world outcome.world := by
  cases completion with
  | accepted ec =>
      obtain ⟨_, rfl⟩ := (complete_accepted _ _ _ _ _).mp taken
      exact quiet_trans self _ _ _ (quiet_update_other self other world _ different)
        (handler_quiet self other calls _ ec different).1
  | received ec message =>
      obtain ⟨_, rfl⟩ := (complete_received _ _ _ _ _ _).mp taken
      exact quiet_trans self _ _ _ (quiet_update_other self other world _ different)
        (handler_quiet self other calls _ ec different).2.1
  | wrote index ec =>
      obtain ⟨_, rfl⟩ := (complete_wrote _ _ _ _ _ _).mp taken
      exact quiet_trans self _ _ _ (quiet_update_other self other world _ different)
        (handler_quiet self other calls _ ec different).2.2
  | ran =>
      obtain ⟨task, rest, _, rfl⟩ := (complete_ran _ _ _ _).mp taken
      exact quiet_trans self _ _ _ (quiet_update_other self other world _ different)
        (quiet_call_other self other _ _ different)

end NetworkWrapper
