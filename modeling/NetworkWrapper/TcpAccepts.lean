import Mathlib.Data.List.Perm.Basic
import NetworkWrapper.Servers
import NetworkWrapper.Transition

set_option autoImplicit false

-- The accept loop of TcpListener, with the accepts that wait for a connection
-- kept apart from the completions that wait to be delivered.
namespace NetworkWrapper

structure AcceptLoop where
  acceptorOpen : Bool
  listening : Bool
  onNewConnectionCallback : Bool
  outstanding : Nat
  completed : List ErrorCode
  connections : Nat
deriving DecidableEq

def operationAborted : ErrorCode := some "operation aborted"

def badDescriptor : ErrorCode := some "bad descriptor"

namespace AcceptLoop

def create (given : Bool) : AcceptLoop :=
  { acceptorOpen := false, listening := false, onNewConnectionCallback := given, outstanding := 0, completed := [],
    connections := 0 }

-- close() completes what waits with an error. A completion that is already
-- there is left as it is.
def stop (loop : AcceptLoop) : AcceptLoop :=
  if loop.acceptorOpen then
    { loop with
      acceptorOpen := false, listening := false, outstanding := 0
      completed := loop.completed ++ List.replicate loop.outstanding operationAborted }
  else loop

-- An accept on a closed acceptor completes with an error of its own.
def doAccept (loop : AcceptLoop) : AcceptLoop :=
  if loop.acceptorOpen then { loop with outstanding := loop.outstanding + 1 }
  else { loop with completed := loop.completed ++ [badDescriptor] }

def start (loop : AcceptLoop) (opening : Opening) : Outcome AcceptLoop :=
  if loop.onNewConnectionCallback = false then .threw "not callback(s) setup" loop
  else
    let closed := loop.stop
    if opening.opened ≠ none then .returned closed
    else
      let opened := { closed with acceptorOpen := true }
      if opening.optionSet ≠ none then .returned opened
      else if opening.bound ≠ none then .returned opened
      else if opening.listening ≠ none then .returned opened
      else .returned { opened with listening := true }.doAccept

def onAccept (loop : AcceptLoop) (ec : ErrorCode) : AcceptLoop :=
  match ec with
  | some _ => loop
  | none => { loop with connections := loop.connections + 1 }.doAccept

-- What will arm the acceptor again: an accept that waits or a connection that
-- was accepted and not yet delivered.
def inProgress (loop : AcceptLoop) : Nat := loop.outstanding + loop.completed.count none

def AcceptsWhileOpen (loop : AcceptLoop) : Prop :=
  loop.acceptorOpen = true ↔ loop.listening = true ∧ loop.inProgress = 1

instance (loop : AcceptLoop) : Decidable loop.AcceptsWhileOpen :=
  inferInstanceAs (Decidable (_ ↔ _))

end AcceptLoop

inductive AcceptEvent where
  | start (opening : Opening)
  | stop
  | completes (ec : ErrorCode)
  | delivered (index : Nat)
deriving DecidableEq

-- Completions are delivered in any order. Only a listening acceptor can accept.
def acceptStep (loop : AcceptLoop) : AcceptEvent → Option AcceptLoop
  | .start opening => some (loop.start opening).world
  | .stop => some loop.stop
  | .completes ec =>
      if 0 < loop.outstanding ∧ (ec = none → loop.listening = true) then
        some { loop with outstanding := loop.outstanding - 1, completed := loop.completed ++ [ec] }
      else none
  | .delivered index =>
      match loop.completed[index]? with
      | none => none
      | some ec => some (AcceptLoop.onAccept { loop with completed := loop.completed.eraseIdx index } ec)

-- The steps that leave the loop as it should be: a start() that fails on open()
-- at the latest or not at all, and then with no accepted connection still on its
-- way, and no accept that fails by itself.
def KeepsAccepting (loop : AcceptLoop) : AcceptEvent → Prop
  | .start opening => loop.onNewConnectionCallback = false ∨ opening.opened ≠ none ∨
      (opening.succeeds = true ∧ none ∉ loop.completed)
  | .stop => True
  | .completes ec => ec = none
  | .delivered _ => True

instance (loop : AcceptLoop) : (event : AcceptEvent) → Decidable (KeepsAccepting loop event)
  | .start _ => inferInstanceAs (Decidable (_ ∨ _ ∨ (_ ∧ _)))
  | .stop => isTrue trivial
  | .completes _ => inferInstanceAs (Decidable (_ = _))
  | .delivered _ => isTrue trivial

namespace AcceptLoop

def Closes (loop : AcceptLoop) : Prop := loop.acceptorOpen = false → loop.listening = false ∧ loop.outstanding = 0

theorem stop_open (loop : AcceptLoop) (isOpen : loop.acceptorOpen = true) : loop.stop =
    { loop with
      acceptorOpen := false, listening := false, outstanding := 0
      completed := loop.completed ++ List.replicate loop.outstanding operationAborted } := by
  simp only [stop, isOpen, if_true]

theorem stop_closed (loop : AcceptLoop) (closed : loop.acceptorOpen = false) : loop.stop = loop := by
  simp [stop, closed]

theorem stop_facts (loop : AcceptLoop) (closes : loop.Closes) :
    loop.stop.acceptorOpen = false ∧ loop.stop.listening = false ∧ loop.stop.outstanding = 0 ∧
      loop.stop.completed.count none = loop.completed.count none ∧
      loop.stop.onNewConnectionCallback = loop.onNewConnectionCallback := by
  cases isOpen : loop.acceptorOpen with
  | false =>
      rw [stop_closed loop isOpen]
      exact ⟨isOpen, (closes isOpen).1, (closes isOpen).2, rfl, rfl⟩
  | true =>
      rw [stop_open loop isOpen]
      simp [List.count_append, List.count_replicate, operationAborted]

theorem start_cases (loop : AcceptLoop) (opening : Opening) :
    (loop.onNewConnectionCallback = false ∧ (loop.start opening).world = loop) ∨
    (loop.onNewConnectionCallback = true ∧ opening.opened ≠ none ∧ (loop.start opening).world = loop.stop) ∨
    (loop.onNewConnectionCallback = true ∧ opening.opened = none ∧ opening.succeeds = false ∧
      (loop.start opening).world = { loop.stop with acceptorOpen := true }) ∨
    (loop.onNewConnectionCallback = true ∧ opening.succeeds = true ∧
      (loop.start opening).world =
        { loop.stop with acceptorOpen := true, listening := true, outstanding := loop.stop.outstanding + 1 }) := by
  cases given : loop.onNewConnectionCallback with
  | false => exact .inl ⟨rfl, by simp [start, given]⟩
  | true =>
      right
      obtain ⟨opened, optionSet, bound, listening⟩ := opening
      by_cases first : opened = none
      · by_cases second : optionSet = none
        · by_cases third : bound = none
          · by_cases fourth : listening = none
            · exact .inr (.inr ⟨rfl, by simp [Opening.succeeds, first, second, third, fourth],
                by simp [start, given, first, second, third, fourth, doAccept]⟩)
            · exact .inr (.inl ⟨rfl, first, by simp [Opening.succeeds, fourth],
                by simp [start, given, first, second, third, fourth]⟩)
          · exact .inr (.inl ⟨rfl, first, by simp [Opening.succeeds, third],
              by simp [start, given, first, second, third]⟩)
        · exact .inr (.inl ⟨rfl, first, by simp [Opening.succeeds, second], by simp [start, given, first, second]⟩)
      · exact .inl ⟨rfl, first, by simp [start, given, first]⟩

theorem do_accept_facts (loop : AcceptLoop) :
    loop.doAccept.acceptorOpen = loop.acceptorOpen ∧ loop.doAccept.listening = loop.listening ∧
      (loop.acceptorOpen = false → loop.doAccept.outstanding = loop.outstanding) ∧
      (loop.acceptorOpen = true → loop.doAccept.inProgress = loop.inProgress + 1) := by
  cases isOpen : loop.acceptorOpen with
  | false => simp [doAccept, isOpen]
  | true =>
      have armed : loop.doAccept = { loop with outstanding := loop.outstanding + 1 } := by
        simp only [doAccept, isOpen, if_true]
      rw [armed]
      refine ⟨isOpen, rfl, fun contrary => absurd contrary (by decide), fun _ => ?_⟩
      simp only [inProgress]
      omega

theorem delivered_facts (loop : AcceptLoop) (index : Nat) (next : AcceptLoop)
    (taken : acceptStep loop (.delivered index) = some next) :
    next.acceptorOpen = loop.acceptorOpen ∧ next.listening = loop.listening ∧
      (loop.acceptorOpen = false → next.outstanding = loop.outstanding) ∧
      (loop.acceptorOpen = true → next.inProgress = loop.inProgress) := by
  cases there : loop.completed[index]? with
  | none => simp [acceptStep, there] at taken
  | some ec =>
      simp only [acceptStep, there, Option.some.injEq] at taken
      subst taken
      obtain ⟨short, same⟩ := List.getElem?_eq_some_iff.mp there
      have counted := (List.getElem_cons_eraseIdx_perm short).count_eq none
      rw [same] at counted
      cases ec with
      | some what =>
          rw [List.count_cons_of_ne (Option.some_ne_none what)] at counted
          refine ⟨rfl, rfl, fun _ => rfl, fun _ => ?_⟩
          simp only [onAccept, inProgress, counted]
      | none =>
          rw [List.count_cons_self] at counted
          obtain ⟨sameOpen, sameListening, closed, rearmed⟩ := do_accept_facts
            { loop with completed := loop.completed.eraseIdx index, connections := loop.connections + 1 }
          refine ⟨sameOpen, sameListening, closed, fun isOpen => (rearmed isOpen).trans ?_⟩
          simp only [inProgress]
          omega

theorem closes_step (loop : AcceptLoop) (event : AcceptEvent) (next : AcceptLoop) (closes : loop.Closes)
    (taken : acceptStep loop event = some next) : next.Closes := by
  cases event with
  | start opening =>
      obtain ⟨closed, silent, cancelled, _, _⟩ := stop_facts loop closes
      cases taken
      rcases start_cases loop opening with ⟨_, ended⟩ | ⟨_, _, ended⟩ | ⟨_, _, _, ended⟩ | ⟨_, _, ended⟩
      · rw [ended]
        exact closes
      · rw [ended]
        exact fun _ => ⟨silent, cancelled⟩
      · rw [ended]
        exact fun contrary => nomatch contrary
      · rw [ended]
        exact fun contrary => nomatch contrary
  | stop =>
      obtain ⟨_, silent, cancelled, _, _⟩ := stop_facts loop closes
      cases taken
      exact fun _ => ⟨silent, cancelled⟩
  | completes ec =>
      simp only [acceptStep, Option.ite_none_right_eq_some, Option.some.injEq] at taken
      obtain ⟨⟨waiting, _⟩, rfl⟩ := taken
      intro closed
      have none := (closes closed).2
      omega
  | delivered index =>
      obtain ⟨sameOpen, sameListening, sameOutstanding, _⟩ := delivered_facts loop index next taken
      intro closed
      rw [sameOpen] at closed
      rw [sameListening, sameOutstanding closed]
      exact closes closed

theorem accepts_while_open_step (loop : AcceptLoop) (event : AcceptEvent) (next : AcceptLoop)
    (before : loop.AcceptsWhileOpen) (closes : loop.Closes) (allowed : KeepsAccepting loop event)
    (taken : acceptStep loop event = some next) : next.AcceptsWhileOpen := by
  cases event with
  | start opening =>
      obtain ⟨closed, silent, cancelled, same, _⟩ := stop_facts loop closes
      cases taken
      rcases start_cases loop opening with ⟨_, ended⟩ | ⟨_, _, ended⟩ | ⟨given, opened, failed, _⟩ | ⟨given, succeeded, ended⟩
      · rw [ended]
        exact before
      · rw [ended]
        simp [AcceptsWhileOpen, closed, silent]
      · rcases allowed with missing | refused | ⟨succeeds, _⟩
        · rw [given] at missing
          cases missing
        · exact absurd opened refused
        · rw [failed] at succeeds
          cases succeeds
      · have nothing : none ∉ loop.completed := by
          rcases allowed with missing | refused | ⟨_, absent⟩
          · rw [given] at missing
            cases missing
          · simp only [Opening.succeeds, Bool.and_eq_true, decide_eq_true_eq] at succeeded
            exact absurd succeeded.1.1.1 refused
          · exact absent
        rw [ended]
        simp [AcceptsWhileOpen, inProgress, cancelled, same, List.count_eq_zero.mpr nothing]
  | stop =>
      obtain ⟨closed, silent, _⟩ := stop_facts loop closes
      cases taken
      simp [AcceptsWhileOpen, closed, silent]
  | completes ec =>
      simp only [acceptStep, Option.ite_none_right_eq_some, Option.some.injEq] at taken
      obtain ⟨⟨waiting, _⟩, rfl⟩ := taken
      obtain rfl : ec = none := allowed
      have moved : loop.outstanding - 1 + (loop.completed ++ [none]).count none = loop.inProgress := by
        rw [List.count_append, List.count_singleton_self, inProgress]
        omega
      simpa only [AcceptsWhileOpen, inProgress, moved] using before
  | delivered index =>
      obtain ⟨sameOpen, sameListening, _, sameProgress⟩ := delivered_facts loop index next taken
      cases isOpen : loop.acceptorOpen with
      | false =>
          have silent := (closes isOpen).1
          simp [AcceptsWhileOpen, sameOpen, sameListening, isOpen, silent]
      | true =>
          have same := sameProgress isOpen
          simpa only [AcceptsWhileOpen, sameOpen, sameListening, same] using before

theorem accepts_while_open_broken (loop : AcceptLoop) (event : AcceptEvent) (next : AcceptLoop)
    (before : loop.AcceptsWhileOpen) (closes : loop.Closes) (refused : ¬ KeepsAccepting loop event)
    (taken : acceptStep loop event = some next) : ¬ next.AcceptsWhileOpen := by
  cases event with
  | start opening =>
      obtain ⟨closed, silent, cancelled, same, _⟩ := stop_facts loop closes
      simp only [KeepsAccepting, not_or, not_and, not_not] at refused
      obtain ⟨given, opened, late⟩ := refused
      cases taken
      rcases start_cases loop opening with ⟨missing, _⟩ | ⟨_, failed, _⟩ | ⟨_, _, _, ended⟩ | ⟨_, succeeded, ended⟩
      · exact absurd missing given
      · exact absurd opened failed
      · rw [ended]
        simp [AcceptsWhileOpen, silent]
      · have pending : 0 < loop.completed.count none := List.count_pos_iff.mpr (late succeeded)
        rw [ended]
        simp only [AcceptsWhileOpen, inProgress, cancelled, same, true_iff, true_and]
        omega
  | stop => exact absurd trivial refused
  | completes ec =>
      simp only [acceptStep, Option.ite_none_right_eq_some, Option.some.injEq] at taken
      obtain ⟨⟨waiting, _⟩, rfl⟩ := taken
      have isOpen : loop.acceptorOpen = true := by
        by_contra contrary
        have nothing := (closes (by simpa using contrary)).2
        omega
      obtain ⟨_, single⟩ := before.mp isOpen
      have failed : ec ≠ none := refused
      have fewer : (loop.completed ++ [ec]).count none = loop.completed.count none := by
        rw [List.count_append, List.count_singleton, Nat.add_eq_left]
        simpa using failed
      intro after
      have again := (after.mp isOpen).2
      simp only [inProgress, fewer] at again single
      omega
  | delivered index => exact absurd trivial refused

-- The listener of the servers, in which all pending accepts are one number.
def listener (loop : AcceptLoop) : TcpListener :=
  { acceptorOpen := loop.acceptorOpen, onNewConnectionCallback := loop.onNewConnectionCallback
    pendingAccepts := loop.outstanding + loop.completed.length }

theorem stop_listener (loop : AcceptLoop) : loop.stop.listener = loop.listener.stop := by
  cases isOpen : loop.acceptorOpen with
  | false => simp [stop, listener, TcpListener.stop, isOpen]
  | true =>
      simp only [stop, listener, TcpListener.stop, isOpen, if_true, List.length_append, List.length_replicate]
      rw [Nat.zero_add, Nat.add_comm]

theorem do_accept_listener (loop : AcceptLoop) : loop.doAccept.listener = loop.listener.doAccept := by
  cases isOpen : loop.acceptorOpen with
  | false => simp [doAccept, listener, TcpListener.doAccept, isOpen, Nat.add_assoc]
  | true => simp [doAccept, listener, TcpListener.doAccept, isOpen, Nat.add_right_comm]

theorem start_listener (loop : AcceptLoop) (opening : Opening) :
    (loop.start opening).map listener = loop.listener.start opening := by
  have stopped := stop_listener loop
  have opened : { loop.stop with acceptorOpen := true }.listener = { loop.listener.stop with acceptorOpen := true } := by
    rw [← stopped]
    rfl
  have armed := do_accept_listener { loop.stop with acceptorOpen := true, listening := true }
  have same : loop.listener.onNewConnectionCallback = loop.onNewConnectionCallback := rfl
  simp only [start, TcpListener.start, same]
  split
  · rfl
  · split
    · rw [Outcome.map_returned, stopped]
    · split
      · rw [Outcome.map_returned, opened]
      · split
        · rw [Outcome.map_returned, opened]
        · split
          · rw [Outcome.map_returned, opened]
          · rw [Outcome.map_returned, armed, ← opened]
            rfl

end AcceptLoop

theorem accepts_while_open_iff (given : Bool) (events : List AcceptEvent) (final : AcceptLoop)
    (reached : Transition.run acceptStep (.create given) events = some final) :
    Transition.Throughout acceptStep AcceptLoop.AcceptsWhileOpen (.create given) events ↔
      Transition.Meets acceptStep KeepsAccepting (.create given) events := by
  have closed : (AcceptLoop.create given).Closes := fun _ => ⟨rfl, rfl⟩
  have idle : (AcceptLoop.create given).AcceptsWhileOpen := by simp [AcceptLoop.AcceptsWhileOpen, AcceptLoop.create]
  have closes := Transition.throughout_invariant acceptStep AcceptLoop.Closes AcceptLoop.closes_step events _ closed
  have exactly := Transition.throughout_iff_meets acceptStep KeepsAccepting
    (fun loop => loop.AcceptsWhileOpen ∧ loop.Closes)
    (fun loop event next before allowed taken =>
      ⟨AcceptLoop.accepts_while_open_step loop event next before.1 before.2 allowed taken,
        AcceptLoop.closes_step loop event next before.2 taken⟩)
    (fun loop event next before refused taken both =>
      AcceptLoop.accepts_while_open_broken loop event next before.1 before.2 refused taken both.1)
    events _ final ⟨idle, closed⟩ reached
  rw [← exactly, Transition.throughout_and]
  exact ⟨fun always => ⟨always, closes⟩, fun both => both.1⟩

def openingSucceeds : Opening := ⟨none, none, none, none⟩

def addressInUse : Opening := ⟨none, none, some "Address already in use", none⟩

def acceptsAndRestarts : List AcceptEvent :=
  [.start openingSucceeds, .completes none, .delivered 0, .completes none, .delivered 0, .stop, .start openingSucceeds,
    .delivered 0, .completes none, .stop, .delivered 0, .delivered 0, .start ⟨some "Too many open files", none, none, none⟩]

theorem accepts_while_open_restarted :
    Transition.Throughout acceptStep AcceptLoop.AcceptsWhileOpen (.create true) acceptsAndRestarts :=
  (accepts_while_open_iff true acceptsAndRestarts _ rfl).mpr (by decide)

-- bind() fails; an accept fails while the acceptor is open; a connection accepted
-- before stop() is delivered after the next start().
theorem accepts_while_open_fails :
    Transition.run acceptStep (.create true) [.start addressInUse] = some ⟨true, false, true, 0, [], 0⟩ ∧
    Transition.run acceptStep (.create true)
      [.start openingSucceeds, .completes (some "Too many open files"), .delivered 0] =
        some ⟨true, true, true, 0, [], 0⟩ ∧
    Transition.run acceptStep (.create true)
      [.start openingSucceeds, .completes none, .stop, .start openingSucceeds, .delivered 0] =
        some ⟨true, true, true, 2, [], 1⟩ ∧
    ¬ ∀ (events : List AcceptEvent) (final : AcceptLoop),
      Transition.run acceptStep (.create true) events = some final → final.AcceptsWhileOpen := by
  refine ⟨rfl, rfl, rfl, fun always => ?_⟩
  have bound := always [.start addressInUse] _ rfl
  revert bound
  decide

end NetworkWrapper
