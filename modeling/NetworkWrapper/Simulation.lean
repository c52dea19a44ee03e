import NetworkWrapper.Transition

set_option autoImplicit false

-- A machine that follows another one: every step of the lower machine is done,
-- on related states, by a list of steps of the higher one, none for a step that
-- the higher machine does not see.
namespace Simulation

variable {Low LowEvent High HighEvent : Type}

structure Refines (low : Low → LowEvent → Option Low) (high : High → HighEvent → Option High)
    (events : Low → LowEvent → List HighEvent) (related : Low → High → Prop) : Prop where
  step : ∀ state event next abstract, related state abstract → low state event = some next →
    ∃ after, Transition.run high abstract (events state event) = some after ∧ related next after

def translate (low : Low → LowEvent → Option Low) (events : Low → LowEvent → List HighEvent) :
    Low → List LowEvent → List HighEvent
  | _, [] => []
  | state, event :: rest =>
      match low state event with
      | none => []
      | some next => events state event ++ translate low events next rest

theorem translate_cons (low : Low → LowEvent → Option Low) (events : Low → LowEvent → List HighEvent)
    (state next : Low) (event : LowEvent) (rest : List LowEvent) (taken : low state event = some next) :
    translate low events state (event :: rest) = events state event ++ translate low events next rest := by
  simp only [translate, taken]

variable {low : Low → LowEvent → Option Low} {high : High → HighEvent → Option High}
  {events : Low → LowEvent → List HighEvent} {related : Low → High → Prop}

theorem refines_run (refines : Refines low high events related) (steps : List LowEvent) (state final : Low)
    (abstract : High) (start : related state abstract) (reached : Transition.run low state steps = some final) :
    ∃ after, Transition.run high abstract (translate low events state steps) = some after ∧ related final after := by
  induction steps generalizing state abstract with
  | nil =>
      rw [Transition.run_nil] at reached
      exact ⟨abstract, rfl, reached ▸ start⟩
  | cons event rest ih =>
      obtain ⟨next, taken, onward⟩ := (Transition.run_cons _ _ _ _ _).mp reached
      obtain ⟨middle, first, kept⟩ := refines.step state event next abstract start taken
      obtain ⟨after, later, ended⟩ := ih next middle kept onward
      rw [translate_cons low events state next event rest taken]
      exact ⟨after, (Transition.run_append _ _ _ _ _).mpr ⟨middle, first, later⟩, ended⟩

end Simulation
