import Mathlib.Algebra.Order.BigOperators.Group.List
import Mathlib.Algebra.Order.Ring.Nat
import NetworkWrapper.Transition

set_option autoImplicit false

-- What a machine can still bring to an end, whatever state it has got into.
namespace Transition

variable {State Event : Type}

-- A run to a state of rank zero, by allowed events only, if from every other
-- state one of them leads down.
theorem run_descends (step : State → Event → Option State) (allowed : Event → Prop) (inv : State → Prop)
    (rank : State → Nat)
    (descends : ∀ state, inv state → rank state ≠ 0 →
      ∃ event next, allowed event ∧ step state event = some next ∧ inv next ∧ rank next < rank state)
    (state : State) (start : inv state) :
    ∃ events final, run step state events = some final ∧ (∀ event ∈ events, allowed event) ∧ inv final ∧
      rank final = 0 := by
  induction bound : rank state using Nat.strongRecOn generalizing state with
  | ind height ih =>
      by_cases bottom : height = 0
      · exact ⟨[], state, rfl, by simp, start, bound.trans bottom⟩
      · obtain ⟨event, next, good, taken, kept, lower⟩ := descends state start (bound ▸ bottom)
        obtain ⟨events, final, onward, all, ends, rests⟩ := ih (rank next) (bound ▸ lower) next kept rfl
        exact ⟨event :: events, final, (run_cons _ _ _ _ _).mpr ⟨next, taken, onward⟩,
          List.forall_mem_cons.mpr ⟨good, all⟩, ends, rests⟩

theorem sum_lower {Party : Type} [DecidableEq Party] (parties : List Party) (before after : Party → Nat) (party : Party)
    (member : party ∈ parties) (lower : after party < before party)
    (others : ∀ other, other ≠ party → after other = before other) :
    (parties.map after).sum < (parties.map before).sum := by
  apply List.sum_lt_sum
  · intro other _
    by_cases same : other = party
    · exact same ▸ Nat.le_of_lt lower
    · exact Nat.le_of_eq (others other same)
  · exact ⟨party, member, lower⟩

theorem run_descends_all {Party : Type} [DecidableEq Party] (step : State → Event → Option State) (allowed : Event → Prop)
    (inv : State → Prop) (parties : List Party) (rank : Party → State → Nat)
    (descends : ∀ state, inv state → ∀ party ∈ parties, rank party state ≠ 0 →
      ∃ event next, allowed event ∧ step state event = some next ∧ inv next ∧ rank party next < rank party state ∧
        ∀ other, other ≠ party → rank other next = rank other state)
    (state : State) (start : inv state) :
    ∃ events final, run step state events = some final ∧ (∀ event ∈ events, allowed event) ∧ inv final ∧
      ∀ party ∈ parties, rank party final = 0 := by
  obtain ⟨events, final, reached, all, ends, rests⟩ := run_descends step allowed inv
    (fun state => (parties.map (rank · state)).sum) (fun state holds something => by
      have owed : ∃ party ∈ parties, rank party state ≠ 0 := by
        by_contra nothing
        push Not at nothing
        refine something (List.sum_eq_zero fun amount member => ?_)
        obtain ⟨party, listed, rfl⟩ := List.mem_map.mp member
        exact nothing party listed
      obtain ⟨party, member, owes⟩ := owed
      obtain ⟨event, next, good, taken, kept, lower, others⟩ := descends state holds party member owes
      exact ⟨event, next, good, taken, kept, sum_lower parties (rank · state) (rank · next) party member lower others⟩)
    state start
  exact ⟨events, final, reached, all, ends, fun party member =>
    List.sum_eq_zero_iff.mp rests _ (List.mem_map_of_mem member)⟩

-- What the steps of a run cost, each at the state it is taken in.
def spent (step : State → Event → Option State) (cost : State → Event → Nat) : State → List Event → Nat
  | _, [] => 0
  | state, event :: rest => cost state event +
      match step state event with
      | none => 0
      | some next => spent step cost next rest

theorem run_within (step : State → Event → Option State) (cost : State → Event → Nat) (gain : Event → Nat)
    (rank : State → Nat)
    (paid : ∀ state event next, step state event = some next → cost state event + rank next ≤ rank state + gain event)
    (events : List Event) (state final : State) (reached : run step state events = some final) :
    spent step cost state events + rank final ≤ rank state + (events.map gain).sum := by
  induction events generalizing state with
  | nil =>
      rw [run_nil] at reached
      simp [spent, reached]
  | cons event rest ih =>
      obtain ⟨next, taken, onward⟩ := (run_cons _ _ _ _ _).mp reached
      have now := paid state event next taken
      have later := ih next onward
      simp only [spent, taken, List.map_cons, List.sum_cons]
      omega

end Transition
