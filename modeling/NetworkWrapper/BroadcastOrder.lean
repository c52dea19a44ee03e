import NetworkWrapper.ManagerHistory

set_option autoImplicit false

-- In which order the callbacks of several forEachSession calls come to a session.
namespace NetworkWrapper

def InProgress (call : Nat) (manager : ThreadSafeManager) : Prop :=
  ∃ thread index : Nat, manager.threads[thread]? = some (.visiting call index)

def callsFor (wsSession : SessionId) (visits : List (Nat × SessionId)) : List Nat :=
  visits.filterMap fun visit => if visit.2 = wsSession then some visit.1 else none

structure Onward (manager next : ThreadSafeManager) : Prop where
  calls : manager.calls ≤ next.calls
  visits : next.visits = manager.visits ∨ ∃ (call : Nat) (currWsSession : SessionId), InProgress call manager ∧
    next.visits = manager.visits ++ [(call, currWsSession)]
  begun : ∀ call, InProgress call next → manager.calls ≤ call ∨ InProgress call manager

theorem onward_moved (manager next : ThreadSafeManager) (thread : Nat) (target : ManagerPoint)
    (moved : next.threads = manager.threads.set thread target) (calls : manager.calls ≤ next.calls)
    (visits : next.visits = manager.visits)
    (begun : ∀ call index, target = .visiting call index → manager.calls ≤ call) : Onward manager next := by
  refine ⟨calls, .inl visits, ?_⟩
  rintro call ⟨other, index, there⟩
  rw [moved] at there
  rcases Threads.stands_moved _ _ _ _ _ there with ⟨_, here⟩ | ⟨_, before⟩
  · exact .inl (begun call index here.symm)
  · exact .inr ⟨other, index, before⟩

theorem onward_advanced (manager next : ThreadSafeManager) (thread : Nat) (point : ManagerPoint)
    (stands : manager.threads[thread]? = some point) (taken : manager.advance thread point = some next) :
    Onward manager next := by
  have moves (after : ThreadSafeManager) (target : ManagerPoint)
      (moved : after.threads = manager.threads.set thread target) (calls : manager.calls ≤ after.calls)
      (visits : after.visits = manager.visits) (outside : ∀ call index, target ≠ .visiting call index) :
      Onward manager after :=
    onward_moved manager after thread target moved calls visits fun call index same => absurd same (outside call index)
  cases point with
  | idle => cases taken
  | adding wsSession =>
      cases taken
      exact moves _ (.added wsSession) rfl (Nat.le_refl _) rfl fun _ _ same => by cases same
  | added wsSession =>
      cases taken
      exact moves _ .idle rfl (Nat.le_refl _) rfl fun _ _ same => by cases same
  | finding wsSession index =>
      rw [ThreadSafeManager.advance] at taken
      split at taken
      · cases taken
        exact moves _ (.removed wsSession false) rfl (Nat.le_refl _) rfl fun _ _ same => by cases same
      · split at taken <;> cases taken
        · exact moves _ (.found wsSession index) rfl (Nat.le_refl _) rfl fun _ _ same => by cases same
        · exact moves _ (.finding wsSession (index + 1)) rfl (Nat.le_refl _) rfl fun _ _ same => by cases same
  | found wsSession index =>
      rw [ThreadSafeManager.advance] at taken
      split at taken <;> cases taken <;>
        exact moves _ (.popping wsSession) rfl (Nat.le_refl _) rfl fun _ _ same => by cases same
  | popping wsSession =>
      cases taken
      exact moves _ (.removed wsSession true) rfl (Nat.le_refl _) rfl fun _ _ same => by cases same
  | removed wsSession wasRemoved =>
      cases taken
      exact moves _ .idle rfl (Nat.le_refl _) rfl fun _ _ same => by cases same
  | visiting call index =>
      rw [ThreadSafeManager.advance] at taken
      cases current : manager.allSessions[index]? with
      | none =>
          rw [current] at taken
          cases taken
          exact moves _ .idle rfl (Nat.le_refl _) rfl fun _ _ same => by cases same
      | some currWsSession =>
          rw [current] at taken
          cases taken
          refine ⟨Nat.le_refl _, .inr ⟨call, currWsSession, ⟨thread, index, stands⟩, rfl⟩, ?_⟩
          rintro otherCall ⟨other, otherIndex, there⟩
          rcases Threads.stands_moved _ _ _ _ _ there with ⟨_, here⟩ | ⟨_, before⟩
          · cases here
            exact .inr ⟨thread, index, stands⟩
          · exact .inr ⟨other, otherIndex, before⟩

theorem onward_step (manager next : ThreadSafeManager) (event : ManagerEvent)
    (taken : managerStep manager event = some next) : Onward manager next := by
  cases event with
  | addSession thread wsSession =>
      simp only [managerStep, Option.ite_none_right_eq_some, Option.map_eq_some_iff] at taken
      obtain ⟨_, mutex, _, rfl⟩ := taken
      exact onward_moved manager _ thread (.adding wsSession) rfl (Nat.le_refl _) rfl fun _ _ same => by cases same
  | removeSession thread wsSession =>
      simp only [managerStep, Option.ite_none_right_eq_some, Option.map_eq_some_iff] at taken
      obtain ⟨_, mutex, _, rfl⟩ := taken
      exact onward_moved manager _ thread (.finding wsSession 0) rfl (Nat.le_refl _) rfl fun _ _ same => by cases same
  | forEachSession thread =>
      simp only [managerStep, Option.ite_none_right_eq_some, Option.map_eq_some_iff] at taken
      obtain ⟨_, mutex, _, rfl⟩ := taken
      refine onward_moved manager _ thread (.visiting manager.calls 0) rfl (Nat.le_succ _) rfl fun call index same => ?_
      cases same
      exact Nat.le_refl _
  | advance thread =>
      obtain ⟨point, stands, moved⟩ := Option.bind_eq_some_iff.mp taken
      exact onward_advanced manager next thread point stands moved

theorem visits_onward (events : List ManagerEvent) (manager final : ThreadSafeManager)
    (reached : Transition.run managerStep manager events = some final) :
    ∃ fresh : List (Nat × SessionId), final.visits = manager.visits ++ fresh ∧
      ∀ visit ∈ fresh, manager.calls ≤ visit.1 ∨ InProgress visit.1 manager := by
  induction events generalizing manager with
  | nil =>
      rw [Transition.run_nil] at reached
      exact ⟨[], by rw [reached, List.append_nil], fun visit member => by cases member⟩
  | cons event rest ih =>
      obtain ⟨next, taken, onward⟩ := (Transition.run_cons _ _ _ _ _).mp reached
      have step := onward_step manager next event taken
      obtain ⟨later, made, ongoing⟩ := ih next onward
      have before (visit : Nat × SessionId) (member : visit ∈ later) :
          manager.calls ≤ visit.1 ∨ InProgress visit.1 manager := by
        rcases ongoing visit member with unbegun | going
        · exact .inl (step.calls.trans unbegun)
        · exact step.begun visit.1 going
      rcases step.visits with same | ⟨call, currWsSession, going, visited⟩
      · exact ⟨later, by rw [made, same], before⟩
      · refine ⟨(call, currWsSession) :: later, by rw [made, visited, List.append_assoc, List.singleton_append], ?_⟩
        intro visit member
        rcases List.mem_cons.mp member with rfl | after
        · exact .inr going
        · exact before visit after

theorem visit_made (events : List ManagerEvent) (manager final : ThreadSafeManager) (call : Nat)
    (wsSession : SessionId) (earlierVisits laterVisits : List (Nat × SessionId))
    (reached : Transition.run managerStep manager events = some final)
    (split : final.visits = earlierVisits ++ (call, wsSession) :: laterVisits)
    (short : manager.visits.length ≤ earlierVisits.length) :
    ∃ (before after : List ManagerEvent) (middle : ThreadSafeManager), events = before ++ after ∧
      Transition.run managerStep manager before = some middle ∧
      Transition.run managerStep middle after = some final ∧ middle.visits = earlierVisits ∧ InProgress call middle := by
  induction events generalizing manager with
  | nil =>
      rw [Transition.run_nil] at reached
      rw [← reached, split, List.length_append, List.length_cons] at short
      omega
  | cons event rest ih =>
      obtain ⟨next, taken, onward⟩ := (Transition.run_cons _ _ _ _ _).mp reached
      by_cases still : next.visits.length ≤ earlierVisits.length
      · obtain ⟨before, after, middle, rfl, made, ended, visits, going⟩ := ih next onward still
        exact ⟨event :: before, after, middle, rfl, (Transition.run_cons _ _ _ _ _).mpr ⟨next, taken, made⟩, ended, visits,
          going⟩
      · rcases (onward_step manager next event taken).visits with same | ⟨other, currWsSession, going, visited⟩
        · rw [same] at still
          exact absurd short still
        · obtain ⟨fresh, made, _⟩ := visits_onward rest next final onward
          rw [visited, List.append_assoc, List.singleton_append] at made
          have length : manager.visits.length = earlierVisits.length := by
            rw [visited, List.length_append, List.length_singleton] at still
            omega
          obtain ⟨same, tail⟩ := List.append_inj (made.symm.trans split) length
          cases (List.cons.inj tail).1
          exact ⟨[], event :: rest, manager, rfl, rfl, reached, same, going⟩

theorem broadcasts_cross_in_progress (totalThreads : Nat) (events : List ManagerEvent) (final : ThreadSafeManager)
    (reached : Transition.run managerStep (.create totalThreads) events = some final) (wsSession : SessionId)
    (first second : Nat) (begun : first < second)
    (crossed : [second, first].Sublist (callsFor wsSession final.visits)) :
    ∃ (before after : List ManagerEvent) (middle : ThreadSafeManager), events = before ++ after ∧
      Transition.run managerStep (.create totalThreads) before = some middle ∧
      InProgress first middle ∧ InProgress second middle := by
  obtain ⟨front, back, split, inFront, inBack⟩ := List.cons_sublist_iff.mp crossed
  obtain ⟨frontVisits, backVisits, whole, rfl, rfl⟩ := List.filterMap_eq_append_iff.mp split
  obtain ⟨visit, member, own⟩ := List.mem_filterMap.mp inFront
  obtain ⟨later, laterMember, laterOwn⟩ := List.mem_filterMap.mp (List.singleton_sublist.mp inBack)
  simp only [Option.ite_none_right_eq_some, Option.some.injEq] at own laterOwn
  obtain ⟨earlierVisits, between, rfl⟩ := List.append_of_mem member
  obtain ⟨call, target⟩ := visit
  obtain ⟨rfl, rfl⟩ : target = wsSession ∧ call = second := own
  rw [List.append_assoc, List.cons_append] at whole
  obtain ⟨before, after, middle, rfl, made, ended, visits, going⟩ :=
    visit_made events (.create totalThreads) final call target earlierVisits (between ++ backVisits) reached whole
      (Nat.zero_le _)
  refine ⟨before, after, middle, rfl, made, ?_, going⟩
  -- the earlier call has begun by now, and still has a callback to make
  obtain ⟨logic, sound⟩ := manager_run_sound totalThreads before middle made
  obtain ⟨thread, index, stands⟩ := going
  have known := (sound.numbered thread call index stands).1
  obtain ⟨fresh, grown, ongoing⟩ := visits_onward after middle final ended
  rw [whole, visits] at grown
  have fresher := List.append_cancel_left grown
  have remaining : later ∈ fresh := by
    rw [← fresher]
    exact List.mem_cons_of_mem _ (List.mem_append_right _ laterMember)
  rcases ongoing later remaining with unbegun | still
  · rw [laterOwn.2] at unbegun
    omega
  · rw [laterOwn.2] at still
    exact still

theorem broadcasts_cross_twice :
    ∃ final, Transition.run managerStep (.create 2) broadcastTwice = some final ∧
      callsFor 5 final.visits = [1, 0] ∧ callsFor 6 final.visits = [0, 1] ∧
      ∃ (before : List ManagerEvent) (middle : ThreadSafeManager),
        Transition.run managerStep (.create 2) before = some middle ∧ InProgress 0 middle ∧ InProgress 1 middle := by
  obtain ⟨before, _, middle, _, made, first, second⟩ :=
    broadcasts_cross_in_progress 2 broadcastTwice _ rfl 5 0 1 (by decide) (by decide)
  exact ⟨_, rfl, rfl, rfl, before, middle, made, first, second⟩

end NetworkWrapper
