import NetworkWrapper.MainLogic
import NetworkWrapper.SharedLock
import NetworkWrapper.Transition

set_option autoImplicit false

-- ThreadSafeWebSocketSessionManager under several threads. Between a lock and
-- its unlock every access to the vector is a step of its own.
namespace NetworkWrapper

open WebSocketMainLogicServer SharedLock

inductive ManagerPoint where
  | idle
  | adding (wsSession : SessionId)
  | added (wsSession : SessionId)
  | finding (wsSession : SessionId) (index : Nat)
  | found (wsSession : SessionId) (index : Nat)
  | popping (wsSession : SessionId)
  | removed (wsSession : SessionId) (wasRemoved : Bool)
  | visiting (call index : Nat)
deriving DecidableEq

def ManagerPoint.hold : ManagerPoint → Hold
  | .idle => .none
  | .visiting _ _ => .together
  | _ => .alone

-- A finished call with what its caller learns from it.
inductive ManagerCall where
  | added (wsSession : SessionId)
  | removed (wsSession : SessionId) (wasRemoved : Bool)
  | visited (call : Nat) (sessions : List SessionId)
deriving DecidableEq

-- calls numbers the calls of forEachSession, visits are the calls of their
-- callbacks as they happen, history are the calls of the manager as they unlock.
structure ThreadSafeManager where
  mutex : SharedMutex
  allSessions : List SessionId
  threads : List ManagerPoint
  calls : Nat
  visits : List (Nat × SessionId)
  history : List ManagerCall
deriving DecidableEq

def visitedBy (call : Nat) (visits : List (Nat × SessionId)) : List SessionId :=
  visits.filterMap fun visit => if visit.1 = call then some visit.2 else none

namespace ThreadSafeManager

def create (totalThreads : Nat) : ThreadSafeManager :=
  { mutex := .free, allSessions := [], threads := List.replicate totalThreads .idle, calls := 0, visits := [],
    history := [] }

def goto (manager : ThreadSafeManager) (thread : Nat) (point : ManagerPoint) : ThreadSafeManager :=
  { manager with threads := manager.threads.set thread point }

def leave (manager : ThreadSafeManager) (thread : Nat) (mutex : SharedMutex) (call : ManagerCall) : ThreadSafeManager :=
  { manager.goto thread .idle with mutex := mutex, history := manager.history ++ [call] }

def advance (manager : ThreadSafeManager) (thread : Nat) : ManagerPoint → Option ThreadSafeManager
  | .idle => none
  | .adding wsSession =>
      some { manager.goto thread (.added wsSession) with allSessions := manager.allSessions ++ [wsSession] }
  | .added wsSession => some (manager.leave thread manager.mutex.unlock (.added wsSession))
  | .finding wsSession index =>
      match manager.allSessions[index]? with
      | none => some (manager.goto thread (.removed wsSession false))
      | some element =>
          if element = wsSession then some (manager.goto thread (.found wsSession index))
          else some (manager.goto thread (.finding wsSession (index + 1)))
  | .found wsSession index =>
      if index = manager.allSessions.length - 1 then some (manager.goto thread (.popping wsSession))
      else some { manager.goto thread (.popping wsSession) with
        allSessions := swapElements manager.allSessions index (manager.allSessions.length - 1) }
  | .popping wsSession =>
      some { manager.goto thread (.removed wsSession true) with allSessions := manager.allSessions.dropLast }
  | .removed wsSession wasRemoved =>
      some (manager.leave thread manager.mutex.unlock (.removed wsSession wasRemoved))
  | .visiting call index =>
      match manager.allSessions[index]? with
      | none => some (manager.leave thread manager.mutex.unlockShared (.visited call (visitedBy call manager.visits)))
      | some currWsSession => some { manager.goto thread (.visiting call (index + 1)) with
          visits := manager.visits ++ [(call, currWsSession)] }

end ThreadSafeManager

-- A call begins when it gets the lock; until then its thread waits.
inductive ManagerEvent where
  | addSession (thread : Nat) (wsSession : SessionId)
  | removeSession (thread : Nat) (wsSession : SessionId)
  | forEachSession (thread : Nat)
  | advance (thread : Nat)
deriving DecidableEq

def managerStep (manager : ThreadSafeManager) (event : ManagerEvent) : Option ThreadSafeManager :=
  match event with
  | .addSession thread wsSession =>
      if manager.threads[thread]? = some .idle then
        manager.mutex.lock.map fun mutex => { manager.goto thread (.adding wsSession) with mutex := mutex }
      else none
  | .removeSession thread wsSession =>
      if manager.threads[thread]? = some .idle then
        manager.mutex.lock.map fun mutex => { manager.goto thread (.finding wsSession 0) with mutex := mutex }
      else none
  | .forEachSession thread =>
      if manager.threads[thread]? = some .idle then
        manager.mutex.lockShared.map fun mutex => { manager.goto thread (.visiting manager.calls 0) with
          mutex := mutex
          calls := manager.calls + 1 }
      else none
  | .advance thread => manager.threads[thread]?.bind (manager.advance thread)

-- The same calls one after the other: what the main logic does to its registry
-- when it is alone.
def unlockedStep (logic : WebSocketMainLogicServer) : ManagerCall → Option WebSocketMainLogicServer
  | .added wsSession => some (addSession wsSession logic)
  | .removed wsSession wasRemoved =>
      match removeSession wsSession (⟨(), logic⟩ : LogicWorld Unit), wasRemoved with
      | .returned world, true => some world.app
      | .threw _ world, false => some world.app
      | _, _ => none
  | .visited _ sessions =>
      let visit (currWsSession : SessionId) (world : LogicWorld (List SessionId)) :=
        Outcome.returned { world with host := world.host ++ [currWsSession] }
      match forEachSession visit logic.allSessions ⟨[], logic⟩ with
      | .returned world => if world.host = sessions then some world.app else none
      | _ => none

theorem for_each_visits (recipients visited : List SessionId) (logic : WebSocketMainLogicServer) :
    forEachSession (fun currWsSession (world : LogicWorld (List SessionId)) =>
        .returned { world with host := world.host ++ [currWsSession] }) recipients ⟨visited, logic⟩ =
      .returned ⟨visited ++ recipients, logic⟩ := by
  induction recipients generalizing visited with
  | nil => rw [forEachSession, List.append_nil]
  | cons target rest ih =>
      rw [forEachSession, Outcome.returned_and_then, ih, List.append_assoc, List.singleton_append]

theorem unlocked_added (logic : WebSocketMainLogicServer) (wsSession : SessionId) :
    unlockedStep logic (.added wsSession) =
      some { logic with allSessions := logic.allSessions ++ [wsSession] } := rfl

theorem unlocked_removed (logic : WebSocketMainLogicServer) (wsSession : SessionId) (wasRemoved : Bool)
    (rest : List SessionId) (erased : stdVectorNoReallocEraseByValue logic.allSessions wsSession = (wasRemoved, rest)) :
    unlockedStep logic (.removed wsSession wasRemoved) = some { logic with allSessions := rest } := by
  cases wasRemoved with
  | true => simp only [unlockedStep, removeSession, erased]
  | false =>
      have absent : wsSession ∉ logic.allSessions := by
        intro present
        obtain ⟨others, removed, _⟩ := erase_by_value_perm logic.allSessions wsSession present
        rw [removed] at erased
        cases erased
      rw [erase_by_value_absent logic.allSessions wsSession absent] at erased
      cases erased
      simp only [unlockedStep, removeSession, erase_by_value_absent _ _ absent]

theorem unlocked_visited (logic : WebSocketMainLogicServer) (call : Nat) :
    unlockedStep logic (.visited call logic.allSessions) = some logic := by
  simp only [unlockedStep, for_each_visits, List.nil_append, if_true]

-- How far a thread has come with the vector, measured by the registry that the
-- finished calls have left.
def Underway (registry cells : List SessionId) : ManagerPoint → Prop
  | .idle => True
  | .adding _ => cells = registry
  | .added wsSession => cells = registry ++ [wsSession]
  | .finding wsSession index => cells = registry ∧ ∀ element ∈ registry.take index, element ≠ wsSession
  | .found wsSession index => cells = registry ∧ registry[index]? = some wsSession ∧
      ∀ element ∈ registry.take index, element ≠ wsSession
  | .popping wsSession => stdVectorNoReallocEraseByValue registry wsSession = (true, cells.dropLast)
  | .removed wsSession wasRemoved => stdVectorNoReallocEraseByValue registry wsSession = (wasRemoved, cells)
  | .visiting _ index => index ≤ registry.length

structure ManagerSound (manager : ThreadSafeManager) (logic : WebSocketMainLogicServer) : Prop where
  replayed : Transition.run unlockedStep initial manager.history = some logic
  guards : Guards ManagerPoint.hold manager.mutex manager.threads
  settled : manager.mutex.writer = false → manager.allSessions = logic.allSessions
  underway : ∀ (thread : Nat) (point : ManagerPoint), manager.threads[thread]? = some point →
    Underway logic.allSessions manager.allSessions point
  numbered : ∀ thread call index : Nat, manager.threads[thread]? = some (.visiting call index) →
    call < manager.calls ∧ visitedBy call manager.visits = logic.allSessions.take index
  distinct : ∀ thread other call index otherIndex : Nat, manager.threads[thread]? = some (.visiting call index) →
    manager.threads[other]? = some (.visiting call otherIndex) → thread = other
  past : ∀ visit ∈ manager.visits, visit.1 < manager.calls
  complete : ∀ (call : Nat) (sessions : List SessionId), .visited call sessions ∈ manager.history →
    call < manager.calls ∧ visitedBy call manager.visits = sessions ∧
      ∀ thread index : Nat, manager.threads[thread]? ≠ some (.visiting call index)

theorem held_idle (point : ManagerPoint) (outside : point.hold = .none) : point = .idle := by
  cases point with
  | idle => rfl
  | _ => cases outside

theorem nobody_visits (mutex : SharedMutex) (threads : List ManagerPoint) (thread : Nat) (point : ManagerPoint)
    (guards : Guards ManagerPoint.hold mutex threads) (stands : threads[thread]? = some point)
    (within : point.hold = .alone) (other call index : Nat) : threads[other]? ≠ some (.visiting call index) := by
  intro visits
  have up := guards_written mutex threads thread point guards stands within
  have down := guards_read mutex threads other _ guards visits rfl
  rw [up] at down
  cases down

theorem visited_append (call : Nat) (earlier later : List (Nat × SessionId)) :
    visitedBy call (earlier ++ later) = visitedBy call earlier ++ visitedBy call later :=
  List.filterMap_append

theorem visited_own (call : Nat) (currWsSession : SessionId) :
    visitedBy call [(call, currWsSession)] = [currWsSession] := by
  simp [visitedBy]

theorem visited_other (call other : Nat) (currWsSession : SessionId) (different : other ≠ call) :
    visitedBy call [(other, currWsSession)] = [] := by
  simp [visitedBy, different]

theorem visited_later (call : Nat) (visits : List (Nat × SessionId)) (past : ∀ visit ∈ visits, visit.1 < call) :
    visitedBy call visits = [] := by
  rw [visitedBy, List.filterMap_eq_nil_iff]
  intro visit member
  exact if_neg (Nat.ne_of_lt (past visit member))

theorem sound_written (manager : ThreadSafeManager) (logic : WebSocketMainLogicServer) (thread : Nat)
    (point : ManagerPoint) (replayed : Transition.run unlockedStep initial manager.history = some logic)
    (guards : Guards ManagerPoint.hold manager.mutex manager.threads) (stands : manager.threads[thread]? = some point)
    (within : point.hold = .alone) (reached : Underway logic.allSessions manager.allSessions point)
    (past : ∀ visit ∈ manager.visits, visit.1 < manager.calls)
    (complete : ∀ (call : Nat) (sessions : List SessionId), .visited call sessions ∈ manager.history →
      call < manager.calls ∧ visitedBy call manager.visits = sessions) : ManagerSound manager logic := by
  have unvisited := nobody_visits manager.mutex manager.threads thread point guards stands within
  refine ⟨replayed, guards, fun down => ?_, fun other otherPoint there => ?_, fun other call index visits => ?_,
    fun other _ call index _ visits _ => ?_, past, fun call sessions done => ?_⟩
  · rw [guards_written _ _ thread point guards stands within] at down
    cases down
  · by_cases same : other = thread
    · subst other
      rw [stands] at there
      cases there
      exact reached
    · have outside := guards_alone _ _ thread other point otherPoint guards stands there within same
      rw [held_idle otherPoint outside]
      trivial
  · exact absurd visits (unvisited other call index)
  · exact absurd visits (unvisited other call index)
  · exact ⟨(complete call sessions done).1, (complete call sessions done).2, fun other => unvisited other call⟩

theorem sound_writing (manager : ThreadSafeManager) (logic : WebSocketMainLogicServer) (thread : Nat)
    (point target : ManagerPoint) (cells : List SessionId) (sound : ManagerSound manager logic)
    (stands : manager.threads[thread]? = some point) (within : point.hold = .alone) (still : target.hold = .alone)
    (reached : Underway logic.allSessions cells target) :
    ManagerSound { manager.goto thread target with allSessions := cells } logic := by
  have guards := guards_kept _ _ thread point target sound.guards stands (still.trans within.symm)
  have there : (manager.threads.set thread target)[thread]? = some target :=
    List.getElem?_set_self (List.getElem?_eq_some_iff.mp stands).1
  exact sound_written _ logic thread target sound.replayed guards there still reached sound.past
    fun call sessions done => ⟨(sound.complete call sessions done).1, (sound.complete call sessions done).2.1⟩

theorem sound_locked (manager : ThreadSafeManager) (logic : WebSocketMainLogicServer) (thread : Nat)
    (target : ManagerPoint) (mutex : SharedMutex) (sound : ManagerSound manager logic)
    (stands : manager.threads[thread]? = some .idle) (locked : manager.mutex.lock = some mutex)
    (enters : target.hold = .alone)
    (reached : manager.allSessions = logic.allSessions → Underway logic.allSessions manager.allSessions target) :
    ManagerSound { manager.goto thread target with mutex := mutex } logic := by
  have guards := guards_locked _ mutex _ thread .idle target sound.guards stands locked rfl enters
  have there : (manager.threads.set thread target)[thread]? = some target :=
    List.getElem?_set_self (List.getElem?_eq_some_iff.mp stands).1
  simp only [SharedMutex.lock, Option.ite_none_right_eq_some] at locked
  exact sound_written _ logic thread target sound.replayed guards there enters (reached (sound.settled locked.1.1))
    sound.past fun call sessions done => ⟨(sound.complete call sessions done).1, (sound.complete call sessions done).2.1⟩

theorem sound_unlocked (manager : ThreadSafeManager) (logic after : WebSocketMainLogicServer) (thread : Nat)
    (point : ManagerPoint) (finished : ManagerCall) (sound : ManagerSound manager logic)
    (stands : manager.threads[thread]? = some point) (within : point.hold = .alone)
    (step : unlockedStep logic finished = some after) (same : manager.allSessions = after.allSessions)
    (unvisited : ∀ call sessions, finished ≠ .visited call sessions) :
    ManagerSound (manager.leave thread manager.mutex.unlock finished) after := by
  have guards := guards_unlocked _ _ thread point .idle sound.guards stands within rfl
  have idle (other : Nat) (otherPoint : ManagerPoint)
      (there : (manager.threads.set thread .idle)[other]? = some otherPoint) : otherPoint = .idle := by
    rcases Threads.stands_moved _ _ _ _ _ there with ⟨_, here⟩ | ⟨different, before⟩
    · exact here
    · exact held_idle _ (guards_alone _ _ thread other point otherPoint sound.guards stands before within different)
  have nobody (other call index : Nat) : (manager.threads.set thread .idle)[other]? ≠ some (.visiting call index) := by
    intro visits
    cases idle other _ visits
  have replayed := (Transition.run_snoc _ _ _ _ _).mpr ⟨logic, sound.replayed, step⟩
  refine ⟨replayed, guards, fun _ => same, ?_, ?_, ?_, sound.past, ?_⟩
  · intro other otherPoint there
    rw [idle other otherPoint there]
    trivial
  · intro other call index visits
    exact absurd visits (nobody other call index)
  · intro other _ call index _ visits _
    exact absurd visits (nobody other call index)
  · intro call sessions done
    rcases List.mem_append.mp done with before | last
    · obtain ⟨known, seen, _⟩ := sound.complete call sessions before
      exact ⟨known, seen, fun other => nobody other call⟩
    · exact absurd (List.mem_singleton.mp last).symm (unvisited call sessions)

theorem sound_shared (manager : ThreadSafeManager) (logic : WebSocketMainLogicServer) (thread : Nat)
    (mutex : SharedMutex) (sound : ManagerSound manager logic) (stands : manager.threads[thread]? = some .idle)
    (locked : manager.mutex.lockShared = some mutex) :
    ManagerSound { manager.goto thread (.visiting manager.calls 0) with
      mutex := mutex
      calls := manager.calls + 1 } logic := by
  have guards := guards_shared _ mutex _ thread .idle (.visiting manager.calls 0) sound.guards stands locked rfl rfl
  simp only [SharedMutex.lockShared, Option.ite_none_right_eq_some] at locked
  have settled := sound.settled locked.1
  refine ⟨sound.replayed, guards, fun _ => settled, ?_, ?_, ?_, ?_, ?_⟩
  · intro other otherPoint there
    rcases Threads.stands_moved _ _ _ _ _ there with ⟨_, rfl⟩ | ⟨_, before⟩
    · exact Nat.zero_le _
    · exact sound.underway other otherPoint before
  · intro other call index visits
    rcases Threads.stands_moved _ _ _ _ _ visits with ⟨_, here⟩ | ⟨_, before⟩
    · cases here
      refine ⟨Nat.lt_succ_self _, ?_⟩
      rw [List.take_zero]
      exact visited_later _ _ sound.past
    · obtain ⟨known, seen⟩ := sound.numbered other call index before
      exact ⟨Nat.lt_succ_of_lt known, seen⟩
  · intro first second call index otherIndex visits alsoVisits
    rcases Threads.stands_moved _ _ _ _ _ visits with ⟨rfl, here⟩ | ⟨_, before⟩ <;>
      rcases Threads.stands_moved _ _ _ _ _ alsoVisits with ⟨rfl, alsoHere⟩ | ⟨_, alsoBefore⟩
    · rfl
    · cases here
      exact absurd (sound.numbered second _ otherIndex alsoBefore).1 (Nat.lt_irrefl _)
    · cases alsoHere
      exact absurd (sound.numbered first _ index before).1 (Nat.lt_irrefl _)
    · exact sound.distinct first second call index otherIndex before alsoBefore
  · intro visit member
    exact Nat.lt_succ_of_lt (sound.past visit member)
  · intro call sessions done
    obtain ⟨known, seen, nobody⟩ := sound.complete call sessions done
    refine ⟨Nat.lt_succ_of_lt known, seen, fun other index visits => ?_⟩
    rcases Threads.stands_moved _ _ _ _ _ visits with ⟨_, here⟩ | ⟨_, before⟩
    · cases here
      exact Nat.lt_irrefl _ known
    · exact nobody other index before

theorem sound_visited (manager : ThreadSafeManager) (logic : WebSocketMainLogicServer) (thread call index : Nat)
    (currWsSession : SessionId) (sound : ManagerSound manager logic)
    (stands : manager.threads[thread]? = some (.visiting call index))
    (current : manager.allSessions[index]? = some currWsSession) :
    ManagerSound { manager.goto thread (.visiting call (index + 1)) with
      visits := manager.visits ++ [(call, currWsSession)] } logic := by
  have guards := guards_kept _ _ thread _ (.visiting call (index + 1)) sound.guards stands rfl
  have settled := sound.settled (guards_read _ _ thread _ sound.guards stands rfl)
  rw [settled] at current
  obtain ⟨short, reads⟩ := List.getElem?_eq_some_iff.mp current
  obtain ⟨known, seen⟩ := sound.numbered thread call index stands
  have others (other : Nat) (different : call ≠ other) :
      visitedBy other (manager.visits ++ [(call, currWsSession)]) = visitedBy other manager.visits := by
    rw [visited_append, visited_other other call currWsSession different, List.append_nil]
  refine ⟨sound.replayed, guards, fun _ => settled, ?_, ?_, ?_, ?_, ?_⟩
  · intro other otherPoint there
    rcases Threads.stands_moved _ _ _ _ _ there with ⟨_, rfl⟩ | ⟨_, before⟩
    · exact short
    · exact sound.underway other otherPoint before
  · intro other otherCall otherIndex visits
    rcases Threads.stands_moved _ _ _ _ _ visits with ⟨_, here⟩ | ⟨different, before⟩
    · cases here
      refine ⟨known, ?_⟩
      rw [visited_append, visited_own, seen, ← reads, List.take_concat_get']
    · have apart : call ≠ otherCall := by
        rintro rfl
        exact different (sound.distinct other thread call otherIndex index before stands)
      rw [others otherCall apart]
      exact sound.numbered other otherCall otherIndex before
  · intro first second otherCall otherIndex lastIndex visits alsoVisits
    rcases Threads.stands_moved _ _ _ _ _ visits with ⟨rfl, here⟩ | ⟨_, before⟩ <;>
      rcases Threads.stands_moved _ _ _ _ _ alsoVisits with ⟨rfl, alsoHere⟩ | ⟨_, alsoBefore⟩
    · rfl
    · cases here
      exact sound.distinct first second call index lastIndex stands alsoBefore
    · cases alsoHere
      exact sound.distinct first second call otherIndex index before stands
    · exact sound.distinct first second otherCall otherIndex lastIndex before alsoBefore
  · intro visit member
    rcases List.mem_append.mp member with before | last
    · exact sound.past visit before
    · rw [List.mem_singleton.mp last]
      exact known
  · intro otherCall sessions done
    obtain ⟨before, seenBefore, nobody⟩ := sound.complete otherCall sessions done
    have apart : call ≠ otherCall := by
      rintro rfl
      exact nobody thread index stands
    refine ⟨before, (others otherCall apart).trans seenBefore, fun other otherIndex visits => ?_⟩
    rcases Threads.stands_moved _ _ _ _ _ visits with ⟨_, here⟩ | ⟨_, there⟩
    · cases here
      exact apart rfl
    · exact nobody other otherIndex there

theorem sound_unshared (manager : ThreadSafeManager) (logic : WebSocketMainLogicServer) (thread call index : Nat)
    (sound : ManagerSound manager logic) (stands : manager.threads[thread]? = some (.visiting call index))
    (ended : manager.allSessions[index]? = none) :
    ManagerSound (manager.leave thread manager.mutex.unlockShared (.visited call (visitedBy call manager.visits)))
      logic := by
  have guards := guards_unshared _ _ thread _ .idle sound.guards stands rfl rfl
  have settled := sound.settled (guards_read _ _ thread _ sound.guards stands rfl)
  obtain ⟨known, seen⟩ := sound.numbered thread call index stands
  rw [settled, List.getElem?_eq_none_iff] at ended
  rw [List.take_of_length_le ended] at seen
  have step := unlocked_visited logic call
  rw [← seen] at step
  refine ⟨(Transition.run_snoc _ _ _ _ _).mpr ⟨logic, sound.replayed, step⟩, guards, fun _ => settled, ?_, ?_, ?_,
    sound.past, ?_⟩
  · intro other otherPoint there
    rcases Threads.stands_moved _ _ _ _ _ there with ⟨_, rfl⟩ | ⟨_, before⟩
    · trivial
    · exact sound.underway other otherPoint before
  · intro other otherCall otherIndex visits
    rcases Threads.stands_moved _ _ _ _ _ visits with ⟨_, here⟩ | ⟨_, before⟩
    · cases here
    · exact sound.numbered other otherCall otherIndex before
  · intro first second otherCall otherIndex lastIndex visits alsoVisits
    rcases Threads.stands_moved _ _ _ _ _ visits with ⟨_, here⟩ | ⟨_, before⟩
    · cases here
    rcases Threads.stands_moved _ _ _ _ _ alsoVisits with ⟨_, alsoHere⟩ | ⟨_, alsoBefore⟩
    · cases alsoHere
    exact sound.distinct first second otherCall otherIndex lastIndex before alsoBefore
  · intro otherCall sessions done
    rcases List.mem_append.mp done with before | last
    · obtain ⟨past, seenBefore, nobody⟩ := sound.complete otherCall sessions before
      refine ⟨past, seenBefore, fun other otherIndex visits => ?_⟩
      rcases Threads.stands_moved _ _ _ _ _ visits with ⟨_, here⟩ | ⟨_, there⟩
      · cases here
      · exact nobody other otherIndex there
    · cases List.mem_singleton.mp last
      refine ⟨known, rfl, fun other otherIndex visits => ?_⟩
      rcases Threads.stands_moved _ _ _ _ _ visits with ⟨_, here⟩ | ⟨different, there⟩
      · cases here
      · exact different (sound.distinct other thread call otherIndex index there stands)

end NetworkWrapper
