import Mathlib.Data.List.Infix
import Mathlib.Data.List.Induction

set_option autoImplicit false

-- Machines given by a partial step function. An event that is not enabled in a
-- state has no next state, so a list of events is a run only if every event of
-- it was enabled when it came. All nondeterminism sits in the choice of events.
namespace Transition

variable {State Event : Type}

def run (step : State → Event → Option State) : State → List Event → Option State
  | state, [] => some state
  | state, event :: rest =>
      match step state event with
      | none => none
      | some next => run step next rest

theorem run_nil (step : State → Event → Option State) (state final : State) :
    run step state [] = some final ↔ final = state := by
  simp only [run, Option.some.injEq, eq_comm]

theorem run_cons (step : State → Event → Option State) (state final : State) (event : Event) (rest : List Event) :
    run step state (event :: rest) = some final ↔
      ∃ next, step state event = some next ∧ run step next rest = some final := by
  cases taken : step state event with
  | none => simp [run, taken]
  | some next => simp [run, taken]

theorem run_append (step : State → Event → Option State) (state final : State) (before after : List Event) :
    run step state (before ++ after) = some final ↔
      ∃ middle, run step state before = some middle ∧ run step middle after = some final := by
  induction before generalizing state with
  | nil => simp [run]
  | cons event rest ih =>
      simp only [List.cons_append, run_cons, ih]
      constructor
      · rintro ⟨next, taken, middle, reached, onward⟩
        exact ⟨middle, ⟨next, taken, reached⟩, onward⟩
      · rintro ⟨middle, ⟨next, taken, reached⟩, onward⟩
        exact ⟨next, taken, middle, reached, onward⟩

theorem run_snoc (step : State → Event → Option State) (state final : State) (before : List Event) (event : Event) :
    run step state (before ++ [event]) = some final ↔
      ∃ middle, run step state before = some middle ∧ step middle event = some final := by
  rw [run_append]
  simp only [run_cons, run_nil, exists_eq_right']

theorem run_stopped (step : State → Event → Option State) (state final : State) (events : List Event)
    (stopped : ∀ event, step state event = none) (reached : run step state events = some final) : final = state := by
  cases events with
  | nil => exact (run_nil step state final).mp reached
  | cons event rest =>
      obtain ⟨next, taken, _⟩ := (run_cons _ _ _ _ _).mp reached
      rw [stopped event] at taken
      cases taken

def Meets (step : State → Event → Option State) (guard : State → Event → Prop) : State → List Event → Prop
  | _, [] => True
  | state, event :: rest => guard state event ∧
      match step state event with
      | none => True
      | some next => Meets step guard next rest

instance decideMeets (step : State → Event → Option State) (guard : State → Event → Prop)
    [decided : ∀ state event, Decidable (guard state event)] :
    (state : State) → (events : List Event) → Decidable (Meets step guard state events)
  | _, [] => isTrue trivial
  | state, event :: rest =>
      let _ : Decidable (match step state event with
          | none => True
          | some next => Meets step guard next rest) :=
        match step state event with
        | none => isTrue trivial
        | some next => decideMeets step guard next rest
      inferInstanceAs (Decidable (guard state event ∧ _))

theorem meets_cons (step : State → Event → Option State) (guard : State → Event → Prop) (state next : State)
    (event : Event) (rest : List Event) (taken : step state event = some next) :
    Meets step guard state (event :: rest) ↔ guard state event ∧ Meets step guard next rest := by
  simp only [Meets, taken]

theorem meets_append (step : State → Event → Option State) (guard : State → Event → Prop) (state middle : State)
    (before after : List Event) (reached : run step state before = some middle) :
    Meets step guard state (before ++ after) ↔ Meets step guard state before ∧ Meets step guard middle after := by
  induction before generalizing state with
  | nil =>
      rw [run_nil] at reached
      simp [Meets, reached]
  | cons event rest ih =>
      obtain ⟨next, taken, onward⟩ := (run_cons _ _ _ _ _).mp reached
      rw [List.cons_append, meets_cons step guard state next event _ taken, meets_cons step guard state next event _ taken,
        ih next onward, and_assoc]

theorem meets_all (step : State → Event → Option State) (guard : State → Event → Prop) (state : State)
    (events : List Event) (allowed : ∀ event ∈ events, ∀ state, guard state event) : Meets step guard state events := by
  induction events generalizing state with
  | nil => trivial
  | cons event rest ih =>
      refine ⟨allowed event List.mem_cons_self state, ?_⟩
      cases step state event with
      | none => trivial
      | some next => exact ih next fun later member => allowed later (List.mem_cons_of_mem _ member)

theorem meets_events (step : State → Event → Option State) (allowed : Event → Prop) (state final : State)
    (events : List Event) (reached : run step state events = some final) :
    Meets step (fun _ event => allowed event) state events ↔ ∀ event ∈ events, allowed event := by
  induction events generalizing state with
  | nil => simp [Meets]
  | cons event rest ih =>
      obtain ⟨next, taken, onward⟩ := (run_cons _ _ _ _ _).mp reached
      rw [meets_cons step _ state next event rest taken, ih next onward, List.forall_mem_cons]

theorem run_keeps_guarded (step : State → Event → Option State) (guard : State → Event → Prop) (inv : State → Prop)
    (kept : ∀ state event next, inv state → guard state event → step state event = some next → inv next)
    (events : List Event) (state final : State) (start : inv state) (met : Meets step guard state events)
    (reached : run step state events = some final) : inv final := by
  induction events generalizing state with
  | nil =>
      rw [run_nil] at reached
      exact reached ▸ start
  | cons event rest ih =>
      obtain ⟨next, taken, onward⟩ := (run_cons _ _ _ _ _).mp reached
      obtain ⟨allowed, later⟩ := (meets_cons step guard state next event rest taken).mp met
      exact ih next (kept state event next start allowed taken) later onward

theorem run_keeps (step : State → Event → Option State) (inv : State → Prop)
    (kept : ∀ state event next, inv state → step state event = some next → inv next)
    (events : List Event) (state final : State) (start : inv state)
    (reached : run step state events = some final) : inv final := by
  have allowed : Meets step (fun _ _ => True) state events := meets_all step _ state events fun _ _ _ => trivial
  exact run_keeps_guarded step (fun _ _ => True) inv (fun state event next holds _ => kept state event next holds)
    events state final start allowed reached

theorem run_breaks_guard (step : State → Event → Option State) (guard : State → Event → Prop) (inv : State → Prop)
    (broken : ∀ state event next, ¬ guard state event → step state event = some next → inv next)
    (kept : ∀ state event next, inv state → step state event = some next → inv next)
    (events : List Event) (state final : State) (unmet : ¬ Meets step guard state events)
    (reached : run step state events = some final) : inv final := by
  induction events generalizing state with
  | nil => exact absurd trivial unmet
  | cons event rest ih =>
      obtain ⟨next, taken, onward⟩ := (run_cons _ _ _ _ _).mp reached
      rw [meets_cons step guard state next event rest taken] at unmet
      by_cases allowed : guard state event
      · exact ih next (fun later => unmet ⟨allowed, later⟩) onward
      · exact run_keeps step inv kept rest next final (broken state event next allowed taken) onward

-- What holds in every state the run passes through, the first and the last one
-- included.
def Throughout (step : State → Event → Option State) (holds : State → Prop) (state : State) (events : List Event) : Prop :=
  ∀ earlier later, events = earlier ++ later → ∀ middle, run step state earlier = some middle → holds middle

theorem throughout_guarded (step : State → Event → Option State) (guard : State → Event → Prop) (inv : State → Prop)
    (kept : ∀ state event next, inv state → guard state event → step state event = some next → inv next)
    (events : List Event) (state : State) (start : inv state) (met : Meets step guard state events) :
    Throughout step inv state events := by
  rintro earlier later rfl middle reached
  have met := ((meets_append step guard state middle earlier later reached).mp met).1
  exact run_keeps_guarded step guard inv kept earlier state middle start met reached

theorem throughout_invariant (step : State → Event → Option State) (inv : State → Prop)
    (kept : ∀ state event next, inv state → step state event = some next → inv next)
    (events : List Event) (state : State) (start : inv state) : Throughout step inv state events :=
  fun earlier _ _ middle reached => run_keeps step inv kept earlier state middle start reached

theorem throughout_and (step : State → Event → Option State) (holds also : State → Prop) (state : State)
    (events : List Event) : Throughout step (fun state => holds state ∧ also state) state events ↔
      Throughout step holds state events ∧ Throughout step also state events := by
  constructor
  · intro always
    exact ⟨fun earlier later split middle reached => (always earlier later split middle reached).1,
      fun earlier later split middle reached => (always earlier later split middle reached).2⟩
  · rintro ⟨first, second⟩ earlier later split middle reached
    exact ⟨first earlier later split middle reached, second earlier later split middle reached⟩

-- An exact guard: a step that is not allowed leaves a state without the invariant.
theorem throughout_iff_meets (step : State → Event → Option State) (guard : State → Event → Prop) (inv : State → Prop)
    (kept : ∀ state event next, inv state → guard state event → step state event = some next → inv next)
    (broken : ∀ state event next, inv state → ¬ guard state event → step state event = some next → ¬ inv next)
    (events : List Event) (state final : State) (start : inv state) (reached : run step state events = some final) :
    Throughout step inv state events ↔ Meets step guard state events := by
  refine ⟨fun always => ?_, throughout_guarded step guard inv kept events state start⟩
  induction events generalizing state with
  | nil => trivial
  | cons event rest ih =>
      obtain ⟨next, taken, onward⟩ := (run_cons _ _ _ _ _).mp reached
      have onwardAlways : Throughout step inv next rest := by
        rintro earlier later rfl middle run
        exact always (event :: earlier) later rfl middle ((run_cons _ _ _ _ _).mpr ⟨next, taken, run⟩)
      have afterwards : inv next := onwardAlways [] rest rfl next rfl
      refine (meets_cons step guard state next event rest taken).mpr ⟨?_, ih next afterwards onward onwardAlways⟩
      by_contra refused
      exact broken state event next start refused taken afterwards

theorem run_extends {Entry : Type} (step : State → Event → Option State) (log : State → List Entry)
    (extended : ∀ state event next, step state event = some next → log state <+: log next)
    (events : List Event) (state final : State) (reached : run step state events = some final) :
    log state <+: log final :=
  run_keeps step (fun later => log state <+: log later)
    (fun middle event next sofar taken => sofar.trans (extended middle event next taken))
    events state final (List.prefix_refl _) reached

-- What a run keeps may speak of the events it has taken so far.
theorem run_history (step : State → Event → Option State) (holds : List Event → State → Prop)
    (onward : ∀ past state event next, holds past state → step state event = some next → holds (past ++ [event]) next)
    (events : List Event) (state final : State) (start : holds [] state) (reached : run step state events = some final) :
    holds events final := by
  induction events using List.reverseRecOn generalizing final with
  | nil =>
      rw [run_nil] at reached
      exact reached ▸ start
  | append_singleton past event ih =>
      obtain ⟨middle, before, taken⟩ := (run_snoc _ _ _ _ _).mp reached
      exact onward past middle event final (ih middle before) taken

end Transition
