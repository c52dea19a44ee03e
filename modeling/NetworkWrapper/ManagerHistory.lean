import NetworkWrapper.SessionManager

set_option autoImplicit false

namespace NetworkWrapper

open WebSocketMainLogicServer SharedLock

theorem erased_at (registry : List SessionId) (wsSession : SessionId) (index : Nat)
    (here : registry[index]? = some wsSession) (first : ∀ element ∈ registry.take index, element ≠ wsSession) :
    stdVectorNoReallocEraseByValue registry wsSession =
      (true, (if index = registry.length - 1 then registry
        else swapElements registry index (registry.length - 1)).dropLast) := by
  obtain ⟨within, reads⟩ := List.getElem?_eq_some_iff.mp here
  have position : registry.findIdx (fun element => decide (element = wsSession)) = index := by
    rw [List.findIdx_eq within]
    refine ⟨by simp [reads], fun earlier before => ?_⟩
    have member : registry[earlier] ∈ registry.take index := by
      rw [List.mem_take_iff_getElem]
      exact ⟨earlier, by omega, rfl⟩
    simpa using first _ member
  have inside : index ≠ registry.length := Nat.ne_of_lt within
  simp only [stdVectorNoReallocEraseByValue, position, if_neg inside, stdVectorNoReallocEraseByIterator,
    decide_eq_true_eq]

theorem erased_missing (registry : List SessionId) (wsSession : SessionId) (index : Nat)
    (ended : registry[index]? = none) (first : ∀ element ∈ registry.take index, element ≠ wsSession) :
    stdVectorNoReallocEraseByValue registry wsSession = (false, registry) := by
  rw [List.getElem?_eq_none_iff] at ended
  rw [List.take_of_length_le ended] at first
  exact erase_by_value_absent registry wsSession fun present => first wsSession present rfl

theorem sound_advanced (manager next : ThreadSafeManager) (logic : WebSocketMainLogicServer) (thread : Nat)
    (point : ManagerPoint) (sound : ManagerSound manager logic) (stands : manager.threads[thread]? = some point)
    (taken : manager.advance thread point = some next) : ∃ after, ManagerSound next after := by
  have reached := sound.underway thread point stands
  cases point with
  | idle => cases taken
  | adding wsSession =>
      cases taken
      refine ⟨logic, sound_writing manager logic thread _ (.added wsSession) _ sound stands rfl rfl ?_⟩
      rw [show manager.allSessions = logic.allSessions from reached]
      rfl
  | added wsSession =>
      cases taken
      exact ⟨_, sound_unlocked manager logic _ thread _ _ sound stands rfl (unlocked_added logic wsSession) reached
        fun call sessions same => by cases same⟩
  | finding wsSession index =>
      obtain ⟨same, first⟩ := reached
      rw [ThreadSafeManager.advance] at taken
      cases current : manager.allSessions[index]? with
      | none =>
          rw [current] at taken
          cases taken
          refine ⟨logic, sound_writing manager logic thread _ (.removed wsSession false) _ sound stands rfl rfl ?_⟩
          rw [same] at current ⊢
          exact erased_missing logic.allSessions wsSession index current first
      | some element =>
          rw [current] at taken
          simp only at taken
          by_cases hit : element = wsSession
          · rw [if_pos hit] at taken
            cases taken
            subst element
            refine ⟨logic, sound_writing manager logic thread _ (.found wsSession index) _ sound stands rfl rfl ?_⟩
            exact ⟨same, same ▸ current, first⟩
          · rw [if_neg hit] at taken
            cases taken
            refine ⟨logic, sound_writing manager logic thread _ (.finding wsSession (index + 1)) _ sound stands rfl rfl
              ⟨same, ?_⟩⟩
            rw [same] at current
            obtain ⟨within, reads⟩ := List.getElem?_eq_some_iff.mp current
            rw [← List.take_concat_get' logic.allSessions index within, reads]
            intro other member
            rcases List.mem_append.mp member with before | last
            · exact first other before
            · rw [List.mem_singleton.mp last]
              exact hit
  | found wsSession index =>
      obtain ⟨same, here, first⟩ := reached
      have erased := erased_at logic.allSessions wsSession index here first
      rw [ThreadSafeManager.advance, same] at taken
      by_cases last : index = logic.allSessions.length - 1
      · rw [if_pos last] at taken erased
        cases taken
        refine ⟨logic, sound_writing manager logic thread _ (.popping wsSession) _ sound stands rfl rfl ?_⟩
        rw [same]
        exact erased
      · rw [if_neg last] at taken erased
        cases taken
        exact ⟨logic, sound_writing manager logic thread _ (.popping wsSession) _ sound stands rfl rfl erased⟩
  | popping wsSession =>
      cases taken
      exact ⟨logic, sound_writing manager logic thread _ (.removed wsSession true) _ sound stands rfl rfl reached⟩
  | removed wsSession wasRemoved =>
      cases taken
      exact ⟨_, sound_unlocked manager logic _ thread _ _ sound stands rfl
        (unlocked_removed logic wsSession wasRemoved manager.allSessions reached) rfl
        fun call sessions same => by cases same⟩
  | visiting call index =>
      rw [ThreadSafeManager.advance] at taken
      cases current : manager.allSessions[index]? with
      | none =>
          rw [current] at taken
          cases taken
          exact ⟨logic, sound_unshared manager logic thread call index sound stands current⟩
      | some currWsSession =>
          rw [current] at taken
          cases taken
          exact ⟨logic, sound_visited manager logic thread call index currWsSession sound stands current⟩

theorem manager_step_sound (manager next : ThreadSafeManager) (logic : WebSocketMainLogicServer) (event : ManagerEvent)
    (sound : ManagerSound manager logic) (taken : managerStep manager event = some next) :
    ∃ after, ManagerSound next after := by
  cases event with
  | addSession thread wsSession =>
      simp only [managerStep, Option.ite_none_right_eq_some, Option.map_eq_some_iff] at taken
      obtain ⟨idle, mutex, locked, rfl⟩ := taken
      exact ⟨logic, sound_locked manager logic thread (.adding wsSession) mutex sound idle locked rfl id⟩
  | removeSession thread wsSession =>
      simp only [managerStep, Option.ite_none_right_eq_some, Option.map_eq_some_iff] at taken
      obtain ⟨idle, mutex, locked, rfl⟩ := taken
      refine ⟨logic, sound_locked manager logic thread (.finding wsSession 0) mutex sound idle locked rfl fun same => ?_⟩
      exact ⟨same, by simp⟩
  | forEachSession thread =>
      simp only [managerStep, Option.ite_none_right_eq_some, Option.map_eq_some_iff] at taken
      obtain ⟨idle, mutex, locked, rfl⟩ := taken
      exact ⟨logic, sound_shared manager logic thread mutex sound idle locked⟩
  | advance thread =>
      obtain ⟨point, stands, moved⟩ := Option.bind_eq_some_iff.mp taken
      exact sound_advanced manager next logic thread point sound stands moved

theorem manager_created_sound (totalThreads : Nat) : ManagerSound (.create totalThreads) initial := by
  have idle (thread : Nat) (point : ManagerPoint)
      (stands : (ThreadSafeManager.create totalThreads).threads[thread]? = some point) : point = .idle :=
    List.eq_of_mem_replicate (List.mem_of_getElem? stands)
  refine ⟨rfl, guards_free _ fun point member => ?_, fun _ => rfl, fun thread point stands => ?_,
    fun thread call index stands => ?_, fun thread _ call index _ stands _ => ?_, (fun visit member => by cases member),
    (fun call sessions done => by cases done)⟩
  · rw [List.eq_of_mem_replicate member]
    rfl
  · rw [idle thread point stands]
    trivial
  · cases idle thread _ stands
  · cases idle thread _ stands

theorem manager_run_sound (totalThreads : Nat) (events : List ManagerEvent) (manager : ThreadSafeManager)
    (reached : Transition.run managerStep (.create totalThreads) events = some manager) :
    ∃ logic, ManagerSound manager logic :=
  Transition.run_keeps managerStep (fun manager => ∃ logic, ManagerSound manager logic)
    (fun manager event next ⟨logic, sound⟩ taken => manager_step_sound manager next logic event sound taken) events _
    manager ⟨initial, manager_created_sound totalThreads⟩ reached

theorem holder_advances (manager : ThreadSafeManager) (thread : Nat) (point : ManagerPoint)
    (stands : manager.threads[thread]? = some point) (within : point.hold ≠ .none) :
    ∃ next, managerStep manager (.advance thread) = some next := by
  simp only [managerStep, stands, Option.bind_some]
  cases point with
  | idle => exact absurd rfl within
  | adding wsSession => exact ⟨_, rfl⟩
  | added wsSession => exact ⟨_, rfl⟩
  | finding wsSession index =>
      rw [ThreadSafeManager.advance]
      split
      · exact ⟨_, rfl⟩
      · split <;> exact ⟨_, rfl⟩
  | found wsSession index =>
      rw [ThreadSafeManager.advance]
      split <;> exact ⟨_, rfl⟩
  | popping wsSession => exact ⟨_, rfl⟩
  | removed wsSession wasRemoved => exact ⟨_, rfl⟩
  | visiting call index =>
      rw [ThreadSafeManager.advance]
      split <;> exact ⟨_, rfl⟩

theorem session_manager_atomic (totalThreads : Nat) (events : List ManagerEvent) (manager : ThreadSafeManager)
    (reached : Transition.run managerStep (.create totalThreads) events = some manager) :
    ∃ logic : WebSocketMainLogicServer,
      Transition.run unlockedStep initial manager.history = some logic ∧
      (manager.mutex.writer = false → manager.allSessions = logic.allSessions) ∧
      (∀ (call : Nat) (sessions : List SessionId), .visited call sessions ∈ manager.history →
        visitedBy call manager.visits = sessions) ∧
      (∀ (thread other : Nat) (point otherPoint : ManagerPoint), manager.threads[thread]? = some point →
        manager.threads[other]? = some otherPoint → point.hold = .alone → other ≠ thread → otherPoint.hold = .none) ∧
      (∀ (thread : Nat) (point : ManagerPoint), manager.threads[thread]? = some point → point.hold ≠ .none →
        ∃ next, managerStep manager (.advance thread) = some next) := by
  obtain ⟨logic, sound⟩ := manager_run_sound totalThreads events manager reached
  refine ⟨logic, sound.replayed, sound.settled, fun call sessions done => (sound.complete call sessions done).2.1, ?_, ?_⟩
  · intro thread other point otherPoint stands otherStands within different
    exact guards_alone _ _ thread other point otherPoint sound.guards stands otherStands within different
  · intro thread point stands within
    exact holder_advances manager thread point stands within

def broadcastTwice : List ManagerEvent :=
  [.addSession 0 5, .advance 0, .advance 0, .addSession 1 6, .advance 1, .advance 1, .forEachSession 0,
    .forEachSession 1, .advance 1, .advance 0, .advance 0, .advance 1, .advance 0, .advance 1, .removeSession 0 5,
    .advance 0, .advance 0, .advance 0, .advance 0]

theorem session_manager_broadcast_twice :
    ∃ manager, Transition.run managerStep (.create 2) broadcastTwice = some manager ∧
      manager.history = [.added 5, .added 6, .visited 0 [5, 6], .visited 1 [5, 6], .removed 5 true] ∧
      visitedBy 1 manager.visits = [5, 6] ∧
      ∃ logic, Transition.run unlockedStep initial manager.history = some logic ∧ [6] = logic.allSessions := by
  obtain ⟨logic, replayed, settled, visited, _⟩ := session_manager_atomic 2 broadcastTwice _ rfl
  exact ⟨_, rfl, rfl, visited 1 [5, 6] (by decide), logic, replayed, settled rfl⟩

end NetworkWrapper
