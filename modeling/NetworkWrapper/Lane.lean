import Mathlib.Data.List.Infix
import NetworkWrapper.Transition

set_option autoImplicit false

-- What one direction of a reliable connection is for: messages are accepted,
-- wait, are put on the wire one after the other and handed over at the far end.
variable {Message : Type}

structure Lane (Message : Type) where
  accepted : List Message
  waiting : List Message
  inFlight : List Message
  delivered : List Message
  broken : Bool

-- Once the sending end is broken nothing more is transmitted, and it may forget
-- or keep what still waits as it likes.
inductive LaneAction (Message : Type) where
  | accept (message : Message)
  | transmit
  | deliver
  | fail
  | abandon (kept : List Message)

namespace Lane

def step (lane : Lane Message) : LaneAction Message → Option (Lane Message)
  | .accept message => some { lane with
      accepted := lane.accepted ++ [message]
      waiting := lane.waiting ++ [message] }
  | .transmit =>
      match lane.broken, lane.waiting with
      | false, message :: rest => some { lane with waiting := rest, inFlight := lane.inFlight ++ [message] }
      | _, _ => none
  | .deliver =>
      match lane.inFlight with
      | [] => none
      | message :: rest => some { lane with inFlight := rest, delivered := lane.delivered ++ [message] }
  | .fail => some { lane with broken := true }
  | .abandon kept => if lane.broken then some { lane with waiting := kept } else none

structure InOrder (lane : Lane Message) : Prop where
  ordered : lane.delivered ++ lane.inFlight <+: lane.accepted
  complete : lane.broken = false → lane.accepted = lane.delivered ++ lane.inFlight ++ lane.waiting

theorem in_order_step (lane : Lane Message) (action : LaneAction Message) (next : Lane Message) (inOrder : InOrder lane)
    (taken : lane.step action = some next) : InOrder next := by
  obtain ⟨ordered, complete⟩ := inOrder
  cases action with
  | accept message =>
      cases taken
      refine ⟨ordered.trans (List.prefix_append _ _), fun unbroken => ?_⟩
      simp only [complete unbroken, List.append_assoc]
  | transmit =>
      cases waits : lane.waiting with
      | nil => cases state : lane.broken <;> simp [step, waits, state] at taken
      | cons message rest =>
          cases state : lane.broken with
          | true => simp [step, waits, state] at taken
          | false =>
              simp only [step, waits, state, Option.some.injEq] at taken
              subst next
              have all : lane.accepted = lane.delivered ++ (lane.inFlight ++ [message]) ++ rest := by
                rw [complete state, waits]
                simp only [List.append_assoc, List.singleton_append]
              exact ⟨all ▸ List.prefix_append _ _, fun _ => all⟩
  | deliver =>
      cases flies : lane.inFlight with
      | nil => simp [step, flies] at taken
      | cons message rest =>
          simp only [step, flies, Option.some.injEq] at taken
          subst next
          have moved : lane.delivered ++ [message] ++ rest = lane.delivered ++ lane.inFlight := by
            rw [flies, List.append_assoc, List.singleton_append]
          refine ⟨?_, fun unbroken => ?_⟩
          · simp only [moved, ordered]
          · simp only [moved, complete unbroken]
  | fail =>
      cases taken
      exact ⟨ordered, fun unbroken => by cases unbroken⟩
  | abandon kept =>
      simp only [step, Option.ite_none_right_eq_some, Option.some.injEq] at taken
      obtain ⟨gone, rfl⟩ := taken
      refine ⟨ordered, fun unbroken => ?_⟩
      simp only [gone] at unbroken
      cases unbroken

def Reaches (lane next : Lane Message) : Prop := ∃ actions, Transition.run step lane actions = some next

theorem reaches_refl (lane : Lane Message) : Reaches lane lane := ⟨[], rfl⟩

theorem reaches_trans (first second third : Lane Message) (before : Reaches first second)
    (after : Reaches second third) : Reaches first third := by
  obtain ⟨some, there⟩ := before
  obtain ⟨more, onward⟩ := after
  exact ⟨some ++ more, (Transition.run_append _ _ _ _ _).mpr ⟨second, there, onward⟩⟩

theorem reaches_one (lane next : Lane Message) (action : LaneAction Message) (taken : lane.step action = some next) :
    Reaches lane next :=
  ⟨[action], (Transition.run_cons _ _ _ _ _).mpr ⟨next, taken, rfl⟩⟩

theorem reaches_accepts (lane : Lane Message) (messages : List Message) :
    Reaches lane { lane with
      accepted := lane.accepted ++ messages
      waiting := lane.waiting ++ messages } := by
  induction messages generalizing lane with
  | nil => simpa using reaches_refl lane
  | cons message rest ih =>
      have first : Reaches lane { lane with
          accepted := lane.accepted ++ [message]
          waiting := lane.waiting ++ [message] } := reaches_one lane _ (.accept message) rfl
      have others := reaches_trans _ _ _ first (ih _)
      simpa only [List.append_assoc, List.singleton_append] using others

theorem reaches_broken (lane : Lane Message) (kept : List Message) :
    Reaches lane { lane with broken := true, waiting := kept } :=
  reaches_trans _ _ _ (reaches_one lane _ .fail rfl) (reaches_one _ _ (.abandon kept) rfl)

theorem in_order_reaches (lane next : Lane Message) (inOrder : InOrder lane) (reached : Reaches lane next) :
    InOrder next := by
  obtain ⟨actions, run⟩ := reached
  exact Transition.run_keeps step InOrder (fun lane action next good taken => in_order_step lane action next good taken)
    actions lane next inOrder run

theorem in_order_prefix (lane : Lane Message) (inOrder : InOrder lane) : lane.delivered <+: lane.accepted :=
  (List.prefix_append _ _).trans inOrder.ordered

theorem in_order_drained (lane : Lane Message) (inOrder : InOrder lane) (unbroken : lane.broken = false)
    (arrived : lane.inFlight = []) (sent : lane.waiting = []) : lane.delivered = lane.accepted := by
  rw [inOrder.complete unbroken, arrived, sent, List.append_nil, List.append_nil]

structure Outbound (Message : Type) where
  accepted : List Message
  waiting : List Message
  broken : Bool

structure Inbound (Message : Type) where
  inFlight : List Message
  delivered : List Message

def between (outbound : Outbound Message) (inbound : Inbound Message) : Lane Message :=
  ⟨outbound.accepted, outbound.waiting, inbound.inFlight, inbound.delivered, outbound.broken⟩

def Sends (before after : Outbound Message) : Prop :=
  ∀ inbound, Reaches (between before inbound) (between after inbound)

def Receives (before after : Inbound Message) : Prop :=
  ∀ outbound, Reaches (between outbound before) (between outbound after)

theorem sends_refl (outbound : Outbound Message) : Sends outbound outbound :=
  fun inbound => reaches_refl (between outbound inbound)

theorem sends_trans (first second third : Outbound Message) (before : Sends first second) (after : Sends second third) :
    Sends first third :=
  fun inbound => reaches_trans _ _ _ (before inbound) (after inbound)

theorem sends_accepts (outbound : Outbound Message) (messages : List Message) :
    Sends outbound ⟨outbound.accepted ++ messages, outbound.waiting ++ messages, outbound.broken⟩ :=
  fun inbound => reaches_accepts (between outbound inbound) messages

theorem sends_broken (outbound : Outbound Message) (kept : List Message) :
    Sends outbound ⟨outbound.accepted, kept, true⟩ :=
  fun inbound => reaches_broken (between outbound inbound) kept

theorem receives_refl (inbound : Inbound Message) : Receives inbound inbound :=
  fun outbound => reaches_refl (between outbound inbound)

theorem receives_next (message : Message) (rest delivered : List Message) :
    Receives ⟨message :: rest, delivered⟩ ⟨rest, delivered ++ [message]⟩ :=
  fun _ => reaches_one _ _ .deliver rfl

theorem transmits_next (accepted rest : List Message) (message : Message) (inbound : Inbound Message) :
    Reaches (between ⟨accepted, message :: rest, false⟩ inbound)
      (between ⟨accepted, rest, false⟩ ⟨inbound.inFlight ++ [message], inbound.delivered⟩) :=
  reaches_one _ _ .transmit rfl

end Lane
