import NetworkWrapper.SessionRuns

set_option autoImplicit false

namespace NetworkWrapper

open WebSocketSession

def InProtocol (callbacks : List Callback) : Prop :=
  ∃ messages : List Bytes, callbacks <+: .onConnection :: messages.map .onMessage ++ [.onDisconnection]

-- failed says that a read or a write of the session has failed before.
def OrderlyEvent (self : SessionId) (failed : Bool) : SessionEvent → Prop
  | .completed other (.accepted ec) _ => other = self → ec = none
  | .completed other (.received _ _) _ => other = self → failed = false
  | .completed other (.wrote _ ec) _ => other = self → ec = none ∨ failed = false
  | _ => True

def fails (self : SessionId) : SessionEvent → Bool
  | .completed other (.received ec _) _ => other = self ∧ ec ≠ none
  | .completed other (.wrote _ ec) _ => other = self ∧ ec ≠ none
  | _ => false

-- The accept of the session does not fail, and once a read or a write of it has
-- failed, no read of it completes any more and no write of it fails.
def Orderly (self : SessionId) : Bool → List SessionEvent → Prop
  | _, [] => True
  | failed, event :: rest => OrderlyEvent self failed event ∧ Orderly self (failed || fails self event) rest

instance (self : SessionId) (failed : Bool) : (event : SessionEvent) → Decidable (OrderlyEvent self failed event)
  | .completed other (.accepted ec) _ => inferInstanceAs (Decidable (other = self → ec = none))
  | .completed other (.received _ _) _ => inferInstanceAs (Decidable (other = self → failed = false))
  | .completed other (.wrote _ ec) _ => inferInstanceAs (Decidable (other = self → ec = none ∨ failed = false))
  | .completed _ .ran _ => isTrue trivial
  | .opened _ _ => isTrue trivial
  | .called _ => isTrue trivial

instance decideOrderly (self : SessionId) : (failed : Bool) → (events : List SessionEvent) →
    Decidable (Orderly self failed events)
  | _, [] => isTrue trivial
  | failed, event :: rest =>
      let _ := decideOrderly self (failed || fails self event) rest
      inferInstanceAs (Decidable (_ ∧ _))

theorem in_protocol_earlier (early late : List Callback) (earlier : early <+: late) (good : InProtocol late) :
    InProtocol early := by
  obtain ⟨messages, within⟩ := good
  exact ⟨messages, earlier.trans within⟩

theorem open_in_protocol (messages : List Bytes) : InProtocol (.onConnection :: messages.map .onMessage) :=
  ⟨messages, List.prefix_append _ _⟩

theorem closed_in_protocol (messages : List Bytes) :
    InProtocol (.onConnection :: messages.map .onMessage ++ [.onDisconnection]) :=
  ⟨messages, List.prefix_refl _⟩

theorem disconnection_ends (messages others : List Bytes) (late : List Callback)
    (within : messages.map Callback.onMessage ++ .onDisconnection :: late <+:
      others.map Callback.onMessage ++ [.onDisconnection]) : late = [] := by
  induction messages generalizing others with
  | nil =>
      cases others with
      | nil => simpa using within
      | cons message others => simp at within
  | cons message rest ih =>
      cases others with
      | nil => simp at within
      | cons other others =>
          simp only [List.map_cons, List.cons_append, List.cons_prefix_cons] at within
          exact ih others within.2

theorem not_in_protocol_after (messages : List Bytes) (callback : Callback) :
    ¬ InProtocol (.onConnection :: messages.map .onMessage ++ [.onDisconnection] ++ [callback]) := by
  intro ⟨others, within⟩
  simp only [List.cons_append, List.append_assoc, List.nil_append, List.cons_prefix_cons] at within
  have nothing := disconnection_ends messages others [callback] within.2
  simp at nothing

theorem not_in_protocol_first : ¬ InProtocol [.onDisconnection] := by
  intro ⟨others, within⟩
  simp at within

def notified (buffer : Bytes) : Completion → List Callback
  | .accepted none => [.onConnection]
  | .accepted (some _) => [.onDisconnection]
  | .received none message => [.onMessage (buffer ++ message)]
  | .received (some _) _ => [.onDisconnection]
  | .wrote _ none => []
  | .wrote _ (some _) => [.onDisconnection]
  | .ran => []

theorem perform_all_callbacks (self : SessionId) (calls : List Call) (world : Watched) :
    callbacksOf self (performAll calls world).world = callbacksOf self world :=
  (perform_all_quiet self calls world).1

theorem and_then_call_callbacks (self : SessionId) (first : Outcome Watched)
    (body : WebSocketSession → Outcome WebSocketSession) :
    callbacksOf self (first.andThen fun world => world.call self body).world = callbacksOf self first.world := by
  apply Outcome.and_then_keeps fun world => callbacksOf self world = callbacksOf self first.world
  · rfl
  · exact fun world sofar => (callbacks_of_app self _ _ (World.call_app world self body)).trans sofar

theorem connection_error_callbacks (self : SessionId) (calls : List Call) (world : Watched) :
    callbacksOf self (connectionError (recording calls) self world).world =
      callbacksOf self world ++ [.onDisconnection] :=
  (perform_all_callbacks self calls _).trans (callbacks_of_note_same self .onDisconnection _)

theorem complete_callbacks (self : SessionId) (calls : List Call) (world : Watched) (completion : Completion)
    (outcome : Outcome Watched) (taken : complete (recording calls) self world completion = some outcome) :
    callbacksOf self outcome.world =
      callbacksOf self world ++ notified (world.host self).readBuffer completion := by
  cases completion with
  | accepted ec =>
      obtain ⟨_, rfl⟩ := (complete_accepted _ _ _ _ _).mp taken
      cases ec with
      | some what => exact connection_error_callbacks self calls _
      | none =>
          simp only [onAccept, recording, and_then_call_callbacks, perform_all_callbacks, callbacks_of_note_same,
            callbacks_of_update, notified]
  | received ec message =>
      obtain ⟨_, rfl⟩ := (complete_received _ _ _ _ _ _).mp taken
      cases ec with
      | some what => exact connection_error_callbacks self calls _
      | none =>
          simp only [onRead, recording, and_then_call_callbacks, perform_all_callbacks, callbacks_of_note_same,
            callbacks_of_update, notified, World.update_same]
  | wrote index ec =>
      obtain ⟨_, rfl⟩ := (complete_wrote _ _ _ _ _ _).mp taken
      cases ec with
      | some what => exact connection_error_callbacks self calls _
      | none =>
          rw [notified, List.append_nil]
          exact callbacks_of_app self _ _ (World.call_app _ self popAndContinue)
  | ran =>
      obtain ⟨task, rest, _, rfl⟩ := (complete_ran _ _ _ _).mp taken
      rw [notified, List.append_nil]
      exact callbacks_of_app self _ _ (World.call_app _ self (runTask task))

def Waiting (session : WebSocketSession) : Prop :=
  session.pendingReads = 0 ∧ session.pendingWrites = [] ∧
    ((session.posted = [] ∧ session.pendingAccepts ≤ 1) ∨ (session.posted = [.onRun] ∧ session.pendingAccepts = 0)) ∧
    (session.constructed = false → session.posted = [] ∧ session.pendingAccepts = 0)

def Handshaken (session : WebSocketSession) : Prop :=
  session.constructed = true ∧ session.pendingAccepts = 0 ∧ .onRun ∉ session.posted

theorem handshaken_kept (before after : WebSocketSession) (same : SameHandshake before after)
    (done : Handshaken before) : Handshaken after :=
  ⟨same.1.trans done.1, same.2.1.trans done.2.1, fun queued => done.2.2 (same.2.2.mp queued)⟩

theorem callback_handshaken (self : SessionId) (calls : List Call) (callback : Callback) (world : Watched)
    (done : Handshaken (world.host self)) :
    Handshaken ((performAll calls (note self callback world)).world.host self) :=
  handshaken_kept _ _ (perform_all_quiet self calls (note self callback world)).2.1 done

theorem and_then_call_handshaken (self : SessionId) (first : Outcome Watched)
    (body : WebSocketSession → Outcome WebSocketSession) (done : Handshaken (first.world.host self))
    (kept : ∀ session, Handshaken session → Handshaken (body session).world) :
    Handshaken ((first.andThen fun world => world.call self body).world.host self) := by
  apply Outcome.and_then_keeps (fun world : Watched => Handshaken (world.host self)) _ _ done
  intro world sofar
  rw [World.call_same]
  exact kept _ sofar

theorem update_handshaken (self : SessionId) (world : Watched) (session : WebSocketSession)
    (done : Handshaken session) : Handshaken ((world.update self session).host self) :=
  (World.update_same world self session).symm ▸ done

theorem read_handshaken (session : WebSocketSession) (done : Handshaken session) :
    Handshaken (if session.useBoostStrands then session.post .doRead else session.doRead) := by
  split
  · exact ⟨done.1, done.2.1, by simpa [post] using done.2.2⟩
  · exact done

theorem accept_handshaken (self : SessionId) (calls : List Call) (world : Watched)
    (done : Handshaken (world.host self)) :
    Handshaken ((onAccept (recording calls) self none world).world.host self) :=
  and_then_call_handshaken self _ _ (callback_handshaken self calls .onConnection world done) (fun _ given => read_handshaken _ given)

theorem connection_error_handshaken (self : SessionId) (calls : List Call) (world : Watched)
    (done : Handshaken (world.host self)) :
    Handshaken ((connectionError (recording calls) self world).world.host self) := by
  have dropped : Handshaken { world.host self with isConnected := false } := done
  exact callback_handshaken self calls .onDisconnection _ (update_handshaken self world _ dropped)

theorem handshaken_completes (self : SessionId) (calls : List Call) (world : Watched) (completion : Completion)
    (outcome : Outcome Watched) (done : Handshaken (world.host self))
    (taken : complete (recording calls) self world completion = some outcome) :
    Handshaken (outcome.world.host self) := by
  cases completion with
  | accepted ec =>
      obtain ⟨pending, rfl⟩ := (complete_accepted _ _ _ _ _).mp taken
      exact absurd done.2.1 (Nat.ne_of_gt pending)
  | received ec message =>
      obtain ⟨_, rfl⟩ := (complete_received _ _ _ _ _ _).mp taken
      have read : Handshaken { world.host self with
          pendingReads := (world.host self).pendingReads - 1
          readBuffer := (world.host self).readBuffer ++ message } := done
      have start := update_handshaken self world _ read
      cases ec with
      | some what => exact connection_error_handshaken self calls _ start
      | none =>
          apply and_then_call_handshaken self _ _ (callback_handshaken self calls _ _ start)
          intro session given
          exact given
  | wrote index ec =>
      obtain ⟨_, rfl⟩ := (complete_wrote _ _ _ _ _ _).mp taken
      have written : Handshaken { world.host self with
          pendingWrites := (world.host self).pendingWrites.eraseIdx index } := done
      have start := update_handshaken self world _ written
      cases ec with
      | some what => exact connection_error_handshaken self calls _ start
      | none =>
          rw [onWrite, World.call_same]
          exact handshaken_kept _ _ (pop_same_handshake _) start
  | ran =>
      obtain ⟨task, rest, posted, rfl⟩ := (complete_ran _ _ _ _).mp taken
      rw [World.call_same, World.update_same]
      have kept : Handshaken { world.host self with posted := rest } :=
        ⟨done.1, done.2.1, fun later => done.2.2 (posted ▸ List.mem_cons_of_mem task later)⟩
      cases task with
      | onRun => exact absurd (posted ▸ List.mem_cons_self) done.2.2
      | doRead => exact kept
      | doWrite => exact handshaken_kept _ _ (do_write_same_handshake _) kept

inductive Standing (self : SessionId) : Bool → Watched → Prop where
  | waiting (world : Watched) (silent : callbacksOf self world = []) (waits : Waiting (world.host self)) :
      Standing self false world
  | serving (world : Watched) (messages : List Bytes)
      (seen : callbacksOf self world = .onConnection :: messages.map .onMessage)
      (done : Handshaken (world.host self)) : Standing self false world
  | lost (world : Watched) (messages : List Bytes)
      (seen : callbacksOf self world = .onConnection :: messages.map .onMessage ++ [.onDisconnection])
      (done : Handshaken (world.host self)) : Standing self true world

theorem standing_in_protocol (self : SessionId) (failed : Bool) (world : Watched)
    (stands : Standing self failed world) : InProtocol (callbacksOf self world) := by
  cases stands with
  | waiting _ silent waits => exact ⟨[], by simp [silent]⟩
  | serving _ messages seen done => exact seen ▸ open_in_protocol messages
  | lost _ messages seen done => exact seen ▸ closed_in_protocol messages

theorem standing_quiet (self : SessionId) (failed : Bool) (before after : Watched)
    (stands : Standing self failed before) (quiet : Quiet self before after) : Standing self failed after := by
  obtain ⟨same, handshake, untouched⟩ := quiet
  cases stands with
  | waiting _ silent waits => exact .waiting after (same.trans silent) (untouched silent ▸ waits)
  | serving _ messages seen done =>
      exact .serving after messages (same.trans seen) (handshaken_kept _ _ handshake done)
  | lost _ messages seen done => exact .lost after messages (same.trans seen) (handshaken_kept _ _ handshake done)

theorem waiting_completes (self : SessionId) (calls : List Call) (world : Watched) (completion : Completion)
    (outcome : Outcome Watched) (silent : callbacksOf self world = []) (waits : Waiting (world.host self))
    (orderly : ∀ ec, completion = .accepted ec → ec = none)
    (taken : complete (recording calls) self world completion = some outcome) :
    Standing self false outcome.world := by
  have seen := complete_callbacks self calls world completion outcome taken
  rw [silent, List.nil_append] at seen
  obtain ⟨reads, writes, handshake, unbuilt⟩ := waits
  cases completion with
  | accepted ec =>
      obtain ⟨pending, rfl⟩ := (complete_accepted _ _ _ _ _).mp taken
      obtain rfl := orderly ec rfl
      refine .serving _ [] seen (accept_handshaken self calls _ (update_handshaken self world _ ?_))
      have built : (world.host self).constructed = true := by
        by_contra absent
        have idle := (unbuilt (by simpa using absent)).2
        omega
      rcases handshake with ⟨posted, bound⟩ | ⟨_, none⟩
      · exact ⟨built, by simp only; omega, by simp [posted]⟩
      · omega
  | received ec message =>
      obtain ⟨⟨pending, _⟩, rfl⟩ := (complete_received _ _ _ _ _ _).mp taken
      omega
  | wrote index ec =>
      obtain ⟨pending, rfl⟩ := (complete_wrote _ _ _ _ _ _).mp taken
      simp [writes] at pending
  | ran =>
      obtain ⟨task, rest, posted, rfl⟩ := (complete_ran _ _ _ _).mp taken
      rcases handshake with ⟨none, _⟩ | ⟨one, accepts⟩
      · simp [none] at posted
      · obtain ⟨rfl, rfl⟩ : task = .onRun ∧ rest = [] := by simpa [one, eq_comm] using posted
        refine .waiting _ seen ?_
        rw [World.call_same, World.update_same]
        refine ⟨reads, writes, .inl ⟨rfl, by simp [runTask, onRun, accepts]⟩, fun absent => ?_⟩
        have idle := (unbuilt absent).1
        simp [one] at idle

theorem serving_completes (self : SessionId) (calls : List Call) (world : Watched) (completion : Completion)
    (outcome : Outcome Watched) (messages : List Bytes)
    (seen : callbacksOf self world = .onConnection :: messages.map .onMessage) (done : Handshaken (world.host self))
    (taken : complete (recording calls) self world completion = some outcome) :
    Standing self (fails self (.completed self completion calls)) outcome.world := by
  have onward := complete_callbacks self calls world completion outcome taken
  have kept := handshaken_completes self calls world completion outcome done taken
  rw [seen] at onward
  cases completion with
  | accepted ec =>
      obtain ⟨pending, rfl⟩ := (complete_accepted _ _ _ _ _).mp taken
      exact absurd done.2.1 (Nat.ne_of_gt pending)
  | received ec message =>
      cases ec with
      | none =>
          simp only [fails, ne_eq, not_true_eq_false, and_false, decide_false]
          exact .serving _ (messages ++ [(world.host self).readBuffer ++ message]) (by simpa [notified] using onward) kept
      | some what =>
          simp only [fails, ne_eq, reduceCtorEq, not_false_eq_true, and_self, decide_true]
          exact .lost _ messages (by simpa [notified] using onward) kept
  | wrote index ec =>
      cases ec with
      | none =>
          simp only [fails, ne_eq, not_true_eq_false, and_false, decide_false]
          exact .serving _ messages (by simpa [notified] using onward) kept
      | some what =>
          simp only [fails, ne_eq, reduceCtorEq, not_false_eq_true, and_self, decide_true]
          exact .lost _ messages (by simpa [notified] using onward) kept
  | ran => exact .serving _ messages (by simpa [notified] using onward) kept

theorem lost_completes (self : SessionId) (calls : List Call) (world : Watched) (completion : Completion)
    (outcome : Outcome Watched) (messages : List Bytes)
    (seen : callbacksOf self world = .onConnection :: messages.map .onMessage ++ [.onDisconnection])
    (done : Handshaken (world.host self)) (taken : complete (recording calls) self world completion = some outcome) :
    if OrderlyEvent self true (.completed self completion calls) then Standing self true outcome.world
    else ¬ InProtocol (callbacksOf self outcome.world) := by
  have onward := complete_callbacks self calls world completion outcome taken
  have kept := handshaken_completes self calls world completion outcome done taken
  rw [seen] at onward
  cases completion with
  | accepted ec =>
      obtain ⟨pending, rfl⟩ := (complete_accepted _ _ _ _ _).mp taken
      exact absurd done.2.1 (Nat.ne_of_gt pending)
  | received ec message =>
      rw [if_neg (by simp [OrderlyEvent]), onward]
      cases ec with
      | none => exact not_in_protocol_after messages _
      | some what => exact not_in_protocol_after messages _
  | wrote index ec =>
      cases ec with
      | none =>
          rw [if_pos (by simp [OrderlyEvent])]
          exact .lost _ messages (by simpa [notified] using onward) kept
      | some what =>
          rw [if_neg (by simp [OrderlyEvent]), onward]
          exact not_in_protocol_after messages _
  | ran =>
      rw [if_pos (by simp [OrderlyEvent])]
      exact .lost _ messages (by simpa [notified] using onward) kept

theorem session_step_cases (process next : Process Watched) (event : SessionEvent)
    (taken : sessionStep process event = some next) :
    (∃ self useBoostStrands, event = .opened self useBoostStrands ∧ (process.world.host self).constructed = false ∧
      next = ⟨process.world.update self (construct useBoostStrands).run, .running⟩) ∨
    (∃ self completion calls outcome, event = .completed self completion calls ∧
      complete (recording calls) self process.world completion = some outcome ∧ next = settle outcome) ∨
    (∃ call, event = .called call ∧ next = settleCall (call.perform process.world)) := by
  obtain ⟨world, ending⟩ := process
  cases ending with
  | escaped what => simp [sessionStep] at taken
  | undefined => simp [sessionStep] at taken
  | running =>
      cases event with
      | opened self useBoostStrands =>
          simp only [sessionStep, Option.ite_none_left_eq_some, Bool.not_eq_true, Option.some.injEq] at taken
          exact .inl ⟨self, useBoostStrands, rfl, taken.1, taken.2.symm⟩
      | completed self completion calls =>
          simp only [sessionStep, Option.map_eq_some_iff] at taken
          obtain ⟨outcome, done, rfl⟩ := taken
          exact .inr (.inl ⟨self, completion, calls, outcome, rfl, done, rfl⟩)
      | called call =>
          simp only [sessionStep, Option.some.injEq] at taken
          exact .inr (.inr ⟨call, rfl, taken.symm⟩)

theorem session_step_extends (self : SessionId) (process next : Process Watched) (event : SessionEvent)
    (taken : sessionStep process event = some next) :
    callbacksOf self process.world <+: callbacksOf self next.world := by
  obtain ⟨other, strands, rfl, _, rfl⟩ | ⟨other, completion, calls, outcome, rfl, done, rfl⟩ | ⟨call, rfl, rfl⟩ :=
    session_step_cases process next event taken
  · exact List.prefix_refl _
  · rw [settle_world]
    by_cases same : other = self
    · subst other
      rw [complete_callbacks self calls _ completion outcome done]
      exact List.prefix_append _ _
    · rw [(complete_quiet self other calls _ completion outcome same done).1]
  · rw [settle_call_world, (perform_quiet self process.world call).1]

theorem opened_standing (self other : SessionId) (failed useBoostStrands : Bool) (world : Watched)
    (stands : Standing self failed world) (fresh : (world.host other).constructed = false) :
    Standing self failed (world.update other (construct useBoostStrands).run) := by
  by_cases same : other = self
  · subst other
    cases stands with
    | waiting _ silent waits =>
        refine .waiting _ silent ?_
        rw [World.update_same]
        cases useBoostStrands <;> exact ⟨rfl, rfl, by simp [run, onRun, post, construct, unconstructed],
          by simp [run, onRun, post, construct, unconstructed]⟩
    | serving _ messages seen done => exact absurd done.1 (by simp [fresh])
    | lost _ messages seen done => exact absurd done.1 (by simp [fresh])
  · exact standing_quiet self failed world _ stands (quiet_update_other self other world _ same)

theorem orderly_elsewhere (self other : SessionId) (failed : Bool) (completion : Completion) (calls : List Call)
    (different : other ≠ self) :
    OrderlyEvent self failed (.completed other completion calls) ∧
      fails self (.completed other completion calls) = false := by
  cases completion <;> simp [OrderlyEvent, fails, different]

theorem completed_standing (self : SessionId) (failed : Bool) (calls : List Call) (world : Watched)
    (completion : Completion) (outcome : Outcome Watched) (stands : Standing self failed world)
    (taken : complete (recording calls) self world completion = some outcome) :
    if OrderlyEvent self failed (.completed self completion calls)
    then Standing self (failed || fails self (.completed self completion calls)) outcome.world
    else ¬ InProtocol (callbacksOf self outcome.world) := by
  cases stands with
  | waiting _ silent waits =>
      by_cases orderly : ∀ ec, completion = .accepted ec → ec = none
      · have onward := waiting_completes self calls world completion outcome silent waits orderly taken
        cases completion with
        | accepted ec =>
            obtain rfl := orderly ec rfl
            rw [if_pos (by simp [OrderlyEvent])]
            exact onward
        | received ec message =>
            obtain ⟨⟨pending, _⟩, _⟩ := (complete_received _ _ _ _ _ _).mp taken
            exact absurd waits.1 (Nat.ne_of_gt pending)
        | wrote index ec =>
            obtain ⟨pending, _⟩ := (complete_wrote _ _ _ _ _ _).mp taken
            simp [waits.2.1] at pending
        | ran =>
            rw [if_pos (by simp [OrderlyEvent])]
            exact onward
      · obtain ⟨ec, rfl, failure⟩ : ∃ ec, completion = .accepted ec ∧ ec ≠ none := by simpa using orderly
        obtain ⟨what, rfl⟩ := Option.ne_none_iff_exists'.mp failure
        rw [if_neg (by simp [OrderlyEvent]), complete_callbacks self calls world _ outcome taken, silent]
        exact not_in_protocol_first
  | serving _ messages seen done =>
      have orderly : OrderlyEvent self false (.completed self completion calls) := by
        cases completion with
        | accepted ec =>
            obtain ⟨pending, _⟩ := (complete_accepted _ _ _ _ _).mp taken
            exact absurd done.2.1 (Nat.ne_of_gt pending)
        | received ec message => simp [OrderlyEvent]
        | wrote index ec => simp [OrderlyEvent]
        | ran => simp [OrderlyEvent]
      rw [if_pos orderly, Bool.false_or]
      exact serving_completes self calls world completion outcome messages seen done taken
  | lost _ messages seen done =>
      exact lost_completes self calls world completion outcome messages seen done taken

theorem session_step_standing (self : SessionId) (failed : Bool) (process next : Process Watched)
    (event : SessionEvent) (stands : Standing self failed process.world)
    (taken : sessionStep process event = some next) :
    if OrderlyEvent self failed event then Standing self (failed || fails self event) next.world
    else ¬ InProtocol (callbacksOf self next.world) := by
  obtain ⟨other, strands, rfl, fresh, rfl⟩ | ⟨other, completion, calls, outcome, rfl, done, rfl⟩ | ⟨call, rfl, rfl⟩ :=
    session_step_cases process next event taken
  · have orderly : OrderlyEvent self failed (.opened other strands) := trivial
    have steady : fails self (.opened other strands) = false := rfl
    rw [if_pos orderly, steady, Bool.or_false]
    exact opened_standing self other failed strands process.world stands fresh
  · rw [settle_world]
    by_cases same : other = self
    · subst other
      exact completed_standing self failed calls process.world completion outcome stands done
    · obtain ⟨orderly, steady⟩ := orderly_elsewhere self other failed completion calls same
      rw [if_pos orderly, steady, Bool.or_false]
      exact standing_quiet self failed _ _ stands (complete_quiet self other calls _ completion outcome same done)
  · have orderly : OrderlyEvent self failed (.called call) := trivial
    have steady : fails self (.called call) = false := rfl
    rw [if_pos orderly, steady, Bool.or_false, settle_call_world]
    exact standing_quiet self failed _ _ stands (perform_quiet self process.world call)

theorem run_in_protocol_iff (self : SessionId) (events : List SessionEvent) (failed : Bool)
    (process final : Process Watched) (stands : Standing self failed process.world)
    (reached : Transition.run sessionStep process events = some final) :
    InProtocol (callbacksOf self final.world) ↔ Orderly self failed events := by
  induction events generalizing process failed with
  | nil =>
      rw [Transition.run_nil] at reached
      subst final
      exact iff_of_true (standing_in_protocol self failed process.world stands) trivial
  | cons event rest ih =>
      obtain ⟨next, taken, onward⟩ := (Transition.run_cons _ _ _ _ _).mp reached
      have step := session_step_standing self failed process next event stands taken
      by_cases orderly : OrderlyEvent self failed event
      · rw [if_pos orderly] at step
        simpa only [Orderly, orderly, true_and] using ih _ next step onward
      · rw [if_neg orderly] at step
        have later := Transition.run_extends sessionStep (fun process => callbacksOf self process.world)
          (fun before event after => session_step_extends self before after event) rest next final onward
        refine iff_of_false (fun good => step (in_protocol_earlier _ _ later good)) (fun given => orderly given.1)

theorem no_sessions_standing (self : SessionId) : Standing self false noSessions.world :=
  .waiting _ rfl ⟨rfl, rfl, .inl ⟨rfl, Nat.zero_le _⟩, fun _ => ⟨rfl, rfl⟩⟩

theorem callbacks_in_protocol_iff_orderly (self : SessionId) (events : List SessionEvent) (final : Process Watched)
    (reached : Transition.run sessionStep noSessions events = some final) :
    InProtocol (callbacksOf self final.world) ↔ Orderly self false events :=
  run_in_protocol_iff self events false noSessions final (no_sessions_standing self) reached

def servedAndLost : List SessionEvent :=
  [.opened 0 false, .completed 0 (.accepted none) [.write 0 [72]], .completed 0 (.received none [80]) [],
    .completed 0 (.wrote 0 none) [], .completed 0 (.received (some "End of file") []) []]

theorem callbacks_in_protocol_served_and_lost :
    ∃ final, Transition.run sessionStep noSessions servedAndLost = some final ∧
      InProtocol (callbacksOf 0 final.world) := by
  exact ⟨_, rfl, (callbacks_in_protocol_iff_orderly 0 servedAndLost _ rfl).mpr (by decide)⟩

theorem failed_accept_breaks_protocol :
    ¬ ∀ (self : SessionId) (events : List SessionEvent) (final : Process Watched),
      Transition.run sessionStep noSessions events = some final → InProtocol (callbacksOf self final.world) := by
  intro always
  exact not_in_protocol_first
    (always 0 [.opened 0 false, .completed 0 (.accepted (some "bad method")) []] _ rfl)

end NetworkWrapper
