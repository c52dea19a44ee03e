import NetworkWrapper.Transition

set_option autoImplicit false

-- Two threads that take turns on a shared state, each at a program point of its
-- own, and the rely-guarantee rule for them.
namespace Interleaving

structure Threads (First Second Shared FirstEvent SecondEvent : Type) where
  first : First → Shared → FirstEvent → Option (First × Shared)
  second : Second → Shared → SecondEvent → Option (Second × Shared)

structure Config (First Second Shared : Type) where
  first : First
  second : Second
  shared : Shared
deriving DecidableEq

variable {First Second Shared FirstEvent SecondEvent : Type}

def step (threads : Threads First Second Shared FirstEvent SecondEvent) (config : Config First Second Shared) :
    FirstEvent ⊕ SecondEvent → Option (Config First Second Shared)
  | .inl event => (threads.first config.first config.shared event).map fun next => ⟨next.1, config.second, next.2⟩
  | .inr event => (threads.second config.second config.shared event).map fun next => ⟨config.first, next.1, next.2⟩

-- What holds of the shared state, what a thread knows at each of its points, and
-- what a step of it may do to the shared state. A step is looked at alone: the
-- other thread sees no more of it than that.
structure Outline (threads : Threads First Second Shared FirstEvent SecondEvent) where
  common : Shared → Prop
  first : First → Shared → Prop
  second : Second → Shared → Prop
  firstDoes : Shared → Shared → Prop
  secondDoes : Shared → Shared → Prop
  first_step : ∀ point shared event next, common shared → first point shared →
    threads.first point shared event = some next → common next.2 ∧ first next.1 next.2 ∧ firstDoes shared next.2
  second_step : ∀ point shared event next, common shared → second point shared →
    threads.second point shared event = some next → common next.2 ∧ second next.1 next.2 ∧ secondDoes shared next.2
  first_stable : ∀ point shared later, first point shared → secondDoes shared later → first point later
  second_stable : ∀ point shared later, second point shared → firstDoes shared later → second point later

namespace Outline

variable {threads : Threads First Second Shared FirstEvent SecondEvent}

structure Holds (outline : Outline threads) (config : Config First Second Shared) : Prop where
  common : outline.common config.shared
  first : outline.first config.first config.shared
  second : outline.second config.second config.shared

theorem step_holds (outline : Outline threads) (config : Config First Second Shared)
    (event : FirstEvent ⊕ SecondEvent) (next : Config First Second Shared) (holds : outline.Holds config)
    (taken : step threads config event = some next) : outline.Holds next := by
  cases event with
  | inl event =>
      obtain ⟨reached, moved, rfl⟩ := Option.map_eq_some_iff.mp taken
      obtain ⟨common, first, does⟩ := outline.first_step _ _ _ _ holds.common holds.first moved
      exact ⟨common, first, outline.second_stable _ _ _ holds.second does⟩
  | inr event =>
      obtain ⟨reached, moved, rfl⟩ := Option.map_eq_some_iff.mp taken
      obtain ⟨common, second, does⟩ := outline.second_step _ _ _ _ holds.common holds.second moved
      exact ⟨common, outline.first_stable _ _ _ holds.first does, second⟩

theorem run_holds (outline : Outline threads) (config final : Config First Second Shared)
    (events : List (FirstEvent ⊕ SecondEvent)) (start : outline.Holds config)
    (reached : Transition.run (step threads) config events = some final) : outline.Holds final :=
  Transition.run_keeps (step threads) outline.Holds outline.step_holds events config final start reached

end Outline

end Interleaving
