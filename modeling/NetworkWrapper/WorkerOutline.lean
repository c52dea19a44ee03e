import NetworkWrapper.ThreadSynchronizer

set_option autoImplicit false

-- What each of the two threads of WorkerThread knows at each of its points, and what
-- it may count on while the other one goes on.
namespace NetworkWrapper

variable {WorkCallback : Type}

namespace CallerPoint

def holdsSetup : CallerPoint WorkCallback → Bool
  | .launchesLocked | .clearsSetup | .testsSetup | .unlocksSetup => true
  | _ => false

def holdsTask : CallerPoint WorkCallback → Bool
  | .appliesLogic _ | .setsNotified _ | .notifiesOne _ | .unlocksTask _ => true
  | _ => false

end CallerPoint

namespace MethodPoint

def holdsSetup : MethodPoint → Bool
  | .setsRunning | .setsNotified | .notifiesOne | .unlocksSetup => true
  | _ => false

def holdsTask : MethodPoint → Bool
  | .locksTask | .waitsTask | .finished => false
  | _ => true

end MethodPoint

def Applied (worker : WorkerMembers WorkCallback) : TaskUse WorkCallback → Prop
  | .execute _ => worker.workCallback.isSome = true
  | .shutdown _ => worker.isRunning = false

structure Monitor (worker : WorkerMembers WorkCallback) : Prop where
  hasWork : worker.taskSynchronizer.isNotified = true → worker.workCallback.isSome = true ∨ worker.isRunning = false
  owes : worker.owed = true → worker.taskSynchronizer.isNotified = true
  signalled : worker.taskSynchronizer.waiting = true → worker.taskSynchronizer.isNotified = true →
    worker.taskSynchronizer.mutex = some .caller
  given : worker.setupSynchronizer.isNotified = true →
    worker.setupGiven = true ∨ worker.setupSynchronizer.mutex = some .worker

def CallerKnows (worker : WorkerMembers WorkCallback) : CallerPoint WorkCallback → Prop
  | .constructs => worker.thread.started = false ∧ worker.setupGiven = false ∧ worker.isRunning = false
  | .launches => worker.lockingModel = .avoidLocking ∧ worker.thread.started = false ∧
      worker.setupGiven = false ∧ worker.isRunning = false
  | .observes => worker.lockingModel = .avoidLocking ∧ worker.thread.started = true ∧
      worker.setupGiven = worker.isRunning
  | .locksSetup | .launchesLocked => worker.lockingModel = .lockThreads ∧ worker.thread.started = false ∧
      worker.setupGiven = false
  | .clearsSetup => worker.lockingModel = .lockThreads ∧ worker.thread.started = true ∧ worker.setupGiven = false
  | .testsSetup => worker.lockingModel = .lockThreads ∧ worker.thread.started = true ∧
      (worker.setupGiven = true → worker.setupSynchronizer.isNotified = true)
  | .waitsSetup => worker.lockingModel = .lockThreads ∧ worker.thread.started = true ∧
      (worker.setupGiven = true →
        worker.setupSynchronizer.isNotified = true ∧ worker.setupSynchronizer.waiting = false)
  | .setsNotified use => worker.setupGiven = true ∧ Applied worker use
  | .notifiesOne use => worker.setupGiven = true ∧ Applied worker use ∧ worker.taskSynchronizer.isNotified = true
  | .unlocksTask use => worker.setupGiven = true ∧ Applied worker use ∧
      worker.taskSynchronizer.isNotified = true ∧ worker.taskSynchronizer.waiting = false
  | .joins _ => worker.setupGiven = true ∧ worker.isRunning = false
  | _ => worker.setupGiven = true

structure CallerAt (point : CallerPoint WorkCallback) (worker : WorkerMembers WorkCallback) : Prop where
  setup : worker.setupSynchronizer.mutex = some .caller ↔ point.holdsSetup = true
  task : worker.taskSynchronizer.mutex = some .caller ↔ point.holdsTask = true
  knows : CallerKnows worker point

def MethodKnows (worker : WorkerMembers WorkCallback) : MethodPoint → Prop
  | .locksTask | .reports => worker.setupGiven = false ∧ worker.isRunning = false ∧
      worker.taskSynchronizer.isNotified = false
  | .locksSetup | .setsRunning => worker.lockingModel = .lockThreads ∧ worker.setupGiven = false ∧
      worker.isRunning = false ∧ worker.taskSynchronizer.isNotified = false
  | .setsNotified => worker.lockingModel = .lockThreads ∧ worker.setupGiven = false ∧ worker.isRunning = true ∧
      worker.taskSynchronizer.isNotified = false
  | .notifiesOne => worker.lockingModel = .lockThreads ∧ worker.setupGiven = false ∧ worker.isRunning = true ∧
      worker.taskSynchronizer.isNotified = false ∧ worker.setupSynchronizer.isNotified = true
  | .unlocksSetup => worker.setupGiven = true ∧ worker.isRunning = true ∧ worker.taskSynchronizer.isNotified = false
  | .testsLoop | .clearsTask => worker.setupGiven = true ∧ worker.isRunning = true ∧
      (worker.owed = true → worker.performed = true)
  | .testsTask | .waitsTask => worker.setupGiven = true ∧
      (worker.stored = true ∨ worker.isRunning = false →
        worker.taskSynchronizer.isNotified = true ∨ worker.taskSynchronizer.mutex = some .caller)
  | .testsQuit => worker.setupGiven = true ∧ worker.taskSynchronizer.isNotified = true
  | .callsBack => worker.setupGiven = true ∧ worker.isRunning = true ∧ worker.taskSynchronizer.isNotified = true
  | .unlocksTask | .finished => worker.setupGiven = true ∧ worker.isRunning = false

structure MethodAt (point : MethodPoint) (worker : WorkerMembers WorkCallback) : Prop where
  setup : worker.setupSynchronizer.mutex = some .worker ↔ point.holdsSetup = true
  task : worker.taskSynchronizer.mutex = some .worker ↔ point.holdsTask = true
  started : point ≠ .locksTask → worker.thread.started = true
  ended : worker.thread.ended = true ↔ point = .finished
  knows : MethodKnows worker point

-- The worker relies on it: outside its own critical section the caller changes
-- nothing but the set-up, and it leaves the section with the flag set.
structure CallerDoes (earlier later : WorkerMembers WorkCallback) : Prop where
  lockingModel : later.lockingModel = earlier.lockingModel
  setup : later.setupSynchronizer.mutex = some .worker ↔ earlier.setupSynchronizer.mutex = some .worker
  task : later.taskSynchronizer.mutex = some .worker ↔ earlier.taskSynchronizer.mutex = some .worker
  started : earlier.thread.started = true → later.thread.started = true
  ended : later.thread.ended = earlier.thread.ended
  given : later.setupGiven = earlier.setupGiven
  stopped : earlier.isRunning = false → later.isRunning = false
  early : earlier.setupGiven = false → later.isRunning = earlier.isRunning ∧
    later.taskSynchronizer.isNotified = earlier.taskSynchronizer.isNotified
  setupUnlocked : earlier.setupSynchronizer.mutex = some .worker →
    later.setupSynchronizer.isNotified = earlier.setupSynchronizer.isNotified
  taskUnlocked : earlier.taskSynchronizer.mutex ≠ some .caller →
    later.isRunning = earlier.isRunning ∧ later.stored = earlier.stored ∧ later.performed = earlier.performed ∧
      later.owed = earlier.owed ∧ later.taskSynchronizer.isNotified = earlier.taskSynchronizer.isNotified
  unlocks : earlier.taskSynchronizer.mutex = some .caller → later.taskSynchronizer.mutex ≠ some .caller →
    later.taskSynchronizer.isNotified = true

-- The caller relies on it: once the set-up is given, nobody else stops the worker,
-- and nobody touches the task synchronizer while the caller holds it.
structure MethodDoes (earlier later : WorkerMembers WorkCallback) : Prop where
  lockingModel : later.lockingModel = earlier.lockingModel
  launched : earlier.thread.started = true ∧ later.thread.started = true
  setup : later.setupSynchronizer.mutex = some .caller ↔ earlier.setupSynchronizer.mutex = some .caller
  task : later.taskSynchronizer.mutex = some .caller ↔ earlier.taskSynchronizer.mutex = some .caller
  callback : later.workCallback = earlier.workCallback
  running : earlier.setupGiven = true → later.setupGiven = true ∧ later.isRunning = earlier.isRunning
  observed : earlier.lockingModel = .avoidLocking → earlier.setupGiven = earlier.isRunning →
    later.setupGiven = later.isRunning
  setupUnlocked : earlier.lockingModel = .lockThreads → earlier.setupSynchronizer.mutex = some .caller →
    later.setupGiven = earlier.setupGiven ∧
      later.setupSynchronizer.isNotified = earlier.setupSynchronizer.isNotified
  gives : earlier.lockingModel = .lockThreads → later.setupGiven = true → earlier.setupGiven = true ∨
    (later.setupSynchronizer.isNotified = true ∧ later.setupSynchronizer.waiting = false)
  setupKept : earlier.setupSynchronizer.isNotified = true → later.setupSynchronizer.isNotified = true
  setupAwake : earlier.setupSynchronizer.waiting = false → later.setupSynchronizer.waiting = false
  taskUnlocked : earlier.taskSynchronizer.mutex = some .caller →
    later.taskSynchronizer.isNotified = earlier.taskSynchronizer.isNotified ∧
      (earlier.taskSynchronizer.waiting = false → later.taskSynchronizer.waiting = false)

theorem applied_stable (earlier later : WorkerMembers WorkCallback) (use : TaskUse WorkCallback)
    (applied : Applied earlier use) (callback : later.workCallback = earlier.workCallback)
    (running : later.isRunning = earlier.isRunning) : Applied later use := by
  cases use with
  | execute inWorkCallback =>
      rw [Applied, callback]
      exact applied
  | shutdown destroying => exact running.trans applied

theorem caller_stable (point : CallerPoint WorkCallback) (earlier later : WorkerMembers WorkCallback)
    (stands : CallerAt point earlier) (does : MethodDoes earlier later) : CallerAt point later := by
  refine ⟨does.setup.trans stands.setup, does.task.trans stands.task, ?_⟩
  have knows := stands.knows
  cases point with
  | constructs | launches | locksSetup | launchesLocked =>
      -- the worker thread does not exist yet
      simp [CallerKnows, does.launched.1] at knows
  | observes =>
      obtain ⟨avoids, _, observed⟩ := knows
      exact ⟨does.lockingModel.trans avoids, does.launched.2, does.observed avoids observed⟩
  | clearsSetup =>
      obtain ⟨locks, _, early⟩ := knows
      obtain ⟨given, _⟩ := does.setupUnlocked locks (stands.setup.mpr rfl)
      exact ⟨does.lockingModel.trans locks, does.launched.2, given.trans early⟩
  | testsSetup =>
      obtain ⟨locks, _, notified⟩ := knows
      obtain ⟨given, flag⟩ := does.setupUnlocked locks (stands.setup.mpr rfl)
      exact ⟨does.lockingModel.trans locks, does.launched.2, fun later => flag.trans (notified (given ▸ later))⟩
  | waitsSetup =>
      obtain ⟨locks, _, notified⟩ := knows
      refine ⟨does.lockingModel.trans locks, does.launched.2, fun later => ?_⟩
      rcases does.gives locks later with already | now
      · exact ⟨does.setupKept (notified already).1, does.setupAwake (notified already).2⟩
      · exact now
  | setsNotified use =>
      obtain ⟨given, running⟩ := does.running knows.1
      exact ⟨given, applied_stable earlier later use knows.2 does.callback running⟩
  | notifiesOne use =>
      obtain ⟨given, running⟩ := does.running knows.1
      have flag := (does.taskUnlocked (stands.task.mpr rfl)).1.trans knows.2.2
      exact ⟨given, applied_stable earlier later use knows.2.1 does.callback running, flag⟩
  | unlocksTask use =>
      obtain ⟨given, running⟩ := does.running knows.1
      obtain ⟨flag, awake⟩ := does.taskUnlocked (stands.task.mpr rfl)
      exact ⟨given, applied_stable earlier later use knows.2.1 does.callback running, flag.trans knows.2.2.1,
        awake knows.2.2.2⟩
  | joins destroying =>
      obtain ⟨given, running⟩ := does.running knows.1
      exact ⟨given, running.trans knows.2⟩
  | unlocksSetup | idle | testsRunning destroying | locksTask use | appliesLogic use | destroyed =>
      exact (does.running knows).1

theorem method_stable (point : MethodPoint) (earlier later : WorkerMembers WorkCallback)
    (stands : MethodAt point earlier) (does : CallerDoes earlier later) : MethodAt point later := by
  refine ⟨does.setup.trans stands.setup, does.task.trans stands.task, fun past => does.started (stands.started past),
    does.ended ▸ stands.ended, ?_⟩
  have knows := stands.knows
  have protects (holds : point.holdsTask = true) : earlier.taskSynchronizer.mutex ≠ some .caller := by
    simp [stands.task.mpr holds]
  cases point with
  | locksTask | reports =>
      obtain ⟨early, running, flag⟩ := knows
      obtain ⟨sameRunning, sameFlag⟩ := does.early early
      exact ⟨does.given.trans early, sameRunning.trans running, sameFlag.trans flag⟩
  | locksSetup | setsRunning | setsNotified =>
      obtain ⟨locks, early, running, flag⟩ := knows
      obtain ⟨sameRunning, sameFlag⟩ := does.early early
      exact ⟨does.lockingModel.trans locks, does.given.trans early, sameRunning.trans running, sameFlag.trans flag⟩
  | notifiesOne =>
      obtain ⟨locks, early, running, flag, setup⟩ := knows
      obtain ⟨sameRunning, sameFlag⟩ := does.early early
      exact ⟨does.lockingModel.trans locks, does.given.trans early, sameRunning.trans running, sameFlag.trans flag,
        (does.setupUnlocked (stands.setup.mpr rfl)).trans setup⟩
  | unlocksSetup =>
      obtain ⟨given, running, flag⟩ := knows
      obtain ⟨sameRunning, _, _, _, sameFlag⟩ := does.taskUnlocked (protects rfl)
      exact ⟨does.given.trans given, sameRunning.trans running, sameFlag.trans flag⟩
  | testsLoop | clearsTask =>
      obtain ⟨given, running, ran⟩ := knows
      obtain ⟨sameRunning, _, performed, owed, _⟩ := does.taskUnlocked (protects rfl)
      exact ⟨does.given.trans given, sameRunning.trans running, fun owes => performed.trans (ran (owed ▸ owes))⟩
  | testsTask | waitsTask =>
      obtain ⟨given, notified⟩ := knows
      refine ⟨does.given.trans given, fun pending => ?_⟩
      by_cases mine : earlier.taskSynchronizer.mutex = some .caller
      · -- the caller is in its critical section, or it has just left it
        by_cases still : later.taskSynchronizer.mutex = some .caller
        · exact .inr still
        · exact .inl (does.unlocks mine still)
      · obtain ⟨sameRunning, stored, _, _, sameFlag⟩ := does.taskUnlocked mine
        rw [stored, sameRunning] at pending
        exact .inl (sameFlag.trans ((notified pending).resolve_right mine))
  | testsQuit =>
      obtain ⟨given, flag⟩ := knows
      obtain ⟨_, _, _, _, sameFlag⟩ := does.taskUnlocked (protects rfl)
      exact ⟨does.given.trans given, sameFlag.trans flag⟩
  | callsBack =>
      obtain ⟨given, running, flag⟩ := knows
      obtain ⟨sameRunning, _, _, _, sameFlag⟩ := does.taskUnlocked (protects rfl)
      exact ⟨does.given.trans given, sameRunning.trans running, sameFlag.trans flag⟩
  | unlocksTask | finished => exact ⟨does.given.trans knows.1, does.stopped knows.2⟩

def CallerReaches (worker : WorkerMembers WorkCallback)
    (next : CallerPoint WorkCallback × WorkerMembers WorkCallback) : Prop :=
  Monitor next.2 ∧ CallerAt next.1 next.2 ∧ CallerDoes worker next.2

open ThreadSynchronizer WorkerMembers

theorem caller_does_nothing (worker : WorkerMembers WorkCallback) : CallerDoes worker worker :=
  ⟨rfl, Iff.rfl, Iff.rfl, id, rfl, rfl, id, fun _ => ⟨rfl, rfl⟩, fun _ => rfl,
    fun _ => ⟨rfl, rfl, rfl, rfl, rfl⟩, fun mine released => absurd mine released⟩

theorem caller_passes (point there : CallerPoint WorkCallback) (worker : WorkerMembers WorkCallback)
    (monitor : Monitor worker) (stands : CallerAt point worker) (setup : there.holdsSetup = point.holdsSetup)
    (task : there.holdsTask = point.holdsTask) (knows : CallerKnows worker there) :
    CallerReaches worker (there, worker) := by
  refine ⟨monitor, ⟨?_, ?_, knows⟩, caller_does_nothing worker⟩
  · rw [setup]
    exact stands.setup
  · rw [task]
    exact stands.task

theorem caller_launches (point there : CallerPoint WorkCallback) (worker : WorkerMembers WorkCallback)
    (monitor : Monitor worker) (stands : CallerAt point worker) (setup : there.holdsSetup = point.holdsSetup)
    (task : there.holdsTask = point.holdsTask) (knows : CallerKnows worker.launch there) :
    CallerReaches worker (there, worker.launch) := by
  refine ⟨⟨monitor.hasWork, monitor.owes, monitor.signalled, monitor.given⟩, ⟨?_, ?_, knows⟩,
    { caller_does_nothing worker with started := fun _ => rfl }⟩
  · rw [setup]
    exact stands.setup
  · rw [task]
    exact stands.task

theorem caller_sets_up (point there : CallerPoint WorkCallback) (worker : WorkerMembers WorkCallback)
    (setup : ThreadSynchronizer) (monitor : Monitor worker) (stands : CallerAt point worker)
    (mine : setup.mutex = some .caller ↔ there.holdsSetup = true)
    (theirs : setup.mutex = some .worker ↔ worker.setupSynchronizer.mutex = some .worker)
    (flag : setup.isNotified = worker.setupSynchronizer.isNotified ∨
      setup.isNotified = false ∧ worker.setupSynchronizer.mutex ≠ some .worker)
    (task : there.holdsTask = point.holdsTask) (knows : CallerKnows (worker.withSetup setup) there) :
    CallerReaches worker (there, worker.withSetup setup) := by
  refine ⟨⟨monitor.hasWork, monitor.owes, monitor.signalled, fun notified => ?_⟩, ⟨mine, ?_, knows⟩,
    { caller_does_nothing worker with setup := theirs, setupUnlocked := fun locked => ?_ }⟩
  · rcases flag with same | ⟨cleared, _⟩
    · exact (monitor.given (same ▸ notified)).imp_right theirs.mpr
    · simp [withSetup, cleared] at notified
  · rw [task]
    exact stands.task
  · exact flag.resolve_right fun cleared => cleared.2 locked

theorem caller_does_locked (worker later : WorkerMembers WorkCallback) (given : worker.setupGiven = true)
    (mine : worker.taskSynchronizer.mutex = some .caller) (theirs : later.taskSynchronizer.mutex ≠ some .worker)
    (lockingModel : later.lockingModel = worker.lockingModel) (thread : later.thread = worker.thread)
    (setup : later.setupSynchronizer = worker.setupSynchronizer) (sameGiven : later.setupGiven = worker.setupGiven)
    (stopped : worker.isRunning = false → later.isRunning = false)
    (unlocks : later.taskSynchronizer.mutex ≠ some .caller → later.taskSynchronizer.isNotified = true) :
    CallerDoes worker later := by
  refine ⟨lockingModel, by rw [setup], ⟨fun taken => absurd taken theirs, ?_⟩, fun started => thread ▸ started,
    by rw [thread], sameGiven, stopped, ?_, fun _ => by rw [setup], fun free => absurd mine free, fun _ => unlocks⟩
  · exact fun taken => nomatch mine.symm.trans taken
  · exact fun early => absurd given (ne_true_of_eq_false early)

theorem caller_locks_task (use : TaskUse WorkCallback) (worker : WorkerMembers WorkCallback) (monitor : Monitor worker)
    (stands : CallerAt (.locksTask use) worker) (free : worker.taskSynchronizer.mutex = none) :
    CallerReaches worker (.appliesLogic use, worker.withTask { worker.taskSynchronizer with mutex := some .caller }) := by
  refine ⟨⟨monitor.hasWork, monitor.owes, fun _ _ => rfl, monitor.given⟩, ⟨stands.setup, ?_, stands.knows⟩,
    { caller_does_nothing worker with task := ?_, unlocks := fun _ released => absurd rfl released }⟩
  · simp [withTask, CallerPoint.holdsTask]
  · simp [withTask, free]

theorem caller_applies_logic (use : TaskUse WorkCallback) (worker : WorkerMembers WorkCallback)
    (monitor : Monitor worker) (stands : CallerAt (.appliesLogic use) worker) :
    CallerReaches worker (.setsNotified use, worker.apply use) := by
  have given := stands.knows
  have mine := stands.task.mpr rfl
  cases use with
  | execute inWorkCallback =>
      refine ⟨⟨fun _ => .inl rfl, monitor.owes, monitor.signalled, monitor.given⟩,
        ⟨stands.setup, stands.task, given, rfl⟩, ?_⟩
      exact caller_does_locked worker _ given mine (by simp [apply, mine]) rfl rfl rfl rfl id
        fun released => absurd mine released
  | shutdown destroying =>
      refine ⟨⟨fun _ => .inr rfl, monitor.owes, monitor.signalled, monitor.given⟩,
        ⟨stands.setup, stands.task, given, rfl⟩, ?_⟩
      exact caller_does_locked worker _ given mine (by simp [apply, mine]) rfl rfl rfl rfl (fun _ => rfl)
        fun released => absurd mine released

theorem caller_sets_notified (use : TaskUse WorkCallback) (worker : WorkerMembers WorkCallback)
    (monitor : Monitor worker) (stands : CallerAt (.setsNotified use) worker) :
    CallerReaches worker (.notifiesOne use, worker.withTask worker.taskSynchronizer.setNotified) := by
  obtain ⟨given, applied⟩ := stands.knows
  have mine := stands.task.mpr rfl
  have work : worker.workCallback.isSome = true ∨ worker.isRunning = false := by
    cases use with
    | execute inWorkCallback => exact .inl applied
    | shutdown destroying => exact .inr applied
  refine ⟨⟨fun _ => work, fun _ => rfl, fun _ _ => mine, monitor.given⟩,
    ⟨stands.setup, stands.task, given, applied_stable worker _ use applied rfl rfl, rfl⟩, ?_⟩
  exact caller_does_locked worker _ given mine (by simp [withTask, setNotified, mine]) rfl rfl rfl rfl id fun _ => rfl

theorem caller_notifies_one (use : TaskUse WorkCallback) (worker : WorkerMembers WorkCallback)
    (monitor : Monitor worker) (stands : CallerAt (.notifiesOne use) worker) :
    CallerReaches worker (.unlocksTask use, worker.withTask worker.taskSynchronizer.notifyOne) := by
  obtain ⟨given, applied, flag⟩ := stands.knows
  have mine := stands.task.mpr rfl
  refine ⟨⟨monitor.hasWork, monitor.owes, fun waiting => absurd waiting Bool.false_ne_true, monitor.given⟩,
    ⟨stands.setup, stands.task, given, applied_stable worker _ use applied rfl rfl, flag, rfl⟩, ?_⟩
  exact caller_does_locked worker _ given mine (by simp [withTask, notifyOne, mine]) rfl rfl rfl rfl id fun _ => flag

-- Nobody sleeps when the mutex is given back, so the flag has been seen or will be.
theorem caller_unlocks_task (use : TaskUse WorkCallback) (there : CallerPoint WorkCallback)
    (worker later : WorkerMembers WorkCallback) (monitor : Monitor worker) (stands : CallerAt (.unlocksTask use) worker)
    (outside : there.holdsSetup = false ∧ there.holdsTask = false) (knows : CallerKnows later there)
    (task : later.taskSynchronizer = worker.taskSynchronizer.unlock)
    (setup : later.setupSynchronizer = worker.setupSynchronizer) (given : later.setupGiven = worker.setupGiven)
    (running : later.isRunning = worker.isRunning) (callback : later.workCallback = worker.workCallback)
    (thread : later.thread = worker.thread) (lockingModel : later.lockingModel = worker.lockingModel) :
    CallerReaches worker (there, later) := by
  obtain ⟨early, _, flag, awake⟩ := stands.knows
  have mine := stands.task.mpr rfl
  have notified : later.taskSynchronizer.isNotified = true := by rw [task]; exact flag
  have unlocked : later.taskSynchronizer.mutex = none := by rw [task]; rfl
  have signalled : later.taskSynchronizer.waiting ≠ true := by
    rw [task]
    exact ne_true_of_eq_false awake
  refine ⟨⟨fun _ => ?_, fun _ => notified, fun waiting => absurd waiting signalled, ?_⟩, ⟨?_, ?_, knows⟩, ?_⟩
  · rw [callback, running]
    exact monitor.hasWork flag
  · rw [setup, given]
    exact monitor.given
  · rw [setup, outside.1]
    exact stands.setup
  · simp [unlocked, outside.2]
  · exact caller_does_locked worker later early mine (by simp [unlocked]) lockingModel thread setup given
      (fun stopped => running.trans stopped) fun _ => notified

theorem caller_goes_on (point : CallerPoint WorkCallback) (worker : WorkerMembers WorkCallback)
    (next : CallerPoint WorkCallback × WorkerMembers WorkCallback) (monitor : Monitor worker)
    (stands : CallerAt point worker) (taken : point.goOn worker = some next) : CallerReaches worker next := by
  have knows := stands.knows
  cases point with
  | constructs =>
      obtain ⟨started, early, stopped⟩ := knows
      have same : { worker with isRunning := false } = worker := by rw [← stopped]
      simp only [CallerPoint.goOn, same, Option.some.injEq] at taken
      rw [← taken]
      cases chosen : worker.lockingModel with
      | lockThreads => exact caller_passes _ _ worker monitor stands rfl rfl ⟨chosen, started, early⟩
      | avoidLocking => exact caller_passes _ _ worker monitor stands rfl rfl ⟨chosen, started, early, stopped⟩
  | launches =>
      obtain ⟨avoids, _, early, stopped⟩ := knows
      cases taken
      exact caller_launches _ _ worker monitor stands rfl rfl ⟨avoids, rfl, early.trans stopped.symm⟩
  | observes =>
      obtain ⟨avoids, started, observed⟩ := knows
      cases running : worker.isRunning with
      | false =>
          cases (if_pos running).symm.trans taken
          exact caller_passes _ _ worker monitor stands rfl rfl stands.knows
      | true =>
          cases (if_neg (ne_false_of_eq_true running)).symm.trans taken
          exact caller_passes _ _ worker monitor stands rfl rfl (observed.trans running)
  | locksSetup =>
      obtain ⟨setup, locked, rfl⟩ := Option.map_eq_some_iff.mp taken
      obtain ⟨free, rfl⟩ := (lock_some _ _ _).mp locked
      exact caller_sets_up _ _ worker _ monitor stands (by simp [CallerPoint.holdsSetup]) (by simp [free]) (.inl rfl) rfl
        knows
  | launchesLocked =>
      obtain ⟨locks, _, early⟩ := knows
      cases taken
      exact caller_launches _ _ worker monitor stands rfl rfl ⟨locks, rfl, early⟩
  | clearsSetup =>
      obtain ⟨locks, started, early⟩ := knows
      have mine := stands.setup.mpr rfl
      cases taken
      exact caller_sets_up _ _ worker _ monitor stands stands.setup Iff.rfl (.inr ⟨rfl, by simp [mine]⟩) rfl
        ⟨locks, started, fun given => absurd given (ne_true_of_eq_false early)⟩
  | testsSetup =>
      obtain ⟨locks, started, notified⟩ := knows
      have mine := stands.setup.mpr rfl
      cases flag : worker.setupSynchronizer.isNotified with
      | false =>
          cases (if_pos flag).symm.trans taken
          refine caller_sets_up _ _ worker _ monitor stands (by simp [wait, CallerPoint.holdsSetup])
            (by simp [wait, mine]) (.inl rfl) rfl ⟨locks, started, fun given => ?_⟩
          exact absurd (notified given) (ne_true_of_eq_false flag)
      | true =>
          cases (if_neg (ne_false_of_eq_true flag)).symm.trans taken
          refine caller_passes _ _ worker monitor stands rfl rfl ((monitor.given flag).resolve_right ?_)
          simp [mine]
  | waitsSetup =>
      obtain ⟨locks, started, notified⟩ := knows
      obtain ⟨setup, locked, rfl⟩ := Option.map_eq_some_iff.mp taken
      obtain ⟨_, free, rfl⟩ := (wake_up_some _ _ _).mp locked
      exact caller_sets_up _ _ worker _ monitor stands (by simp [CallerPoint.holdsSetup]) (by simp [free]) (.inl rfl)
        rfl ⟨locks, started, fun given => (notified given).1⟩
  | unlocksSetup =>
      have mine := stands.setup.mpr rfl
      cases taken
      exact caller_sets_up _ _ worker _ monitor stands (by simp [unlock, CallerPoint.holdsSetup])
        (by simp [unlock, mine]) (.inl rfl) rfl knows
  | idle => cases taken
  | testsRunning destroying =>
      cases running : worker.isRunning with
      | false =>
          cases (if_neg (ne_true_of_eq_false running)).symm.trans taken
          cases destroying <;> exact caller_passes _ _ worker monitor stands rfl rfl knows
      | true =>
          cases (if_pos running).symm.trans taken
          exact caller_passes _ _ worker monitor stands rfl rfl knows
  | locksTask use =>
      obtain ⟨task, locked, rfl⟩ := Option.map_eq_some_iff.mp taken
      obtain ⟨free, rfl⟩ := (lock_some _ _ _).mp locked
      exact caller_locks_task use worker monitor stands free
  | appliesLogic use =>
      cases taken
      exact caller_applies_logic use worker monitor stands
  | setsNotified use =>
      cases taken
      exact caller_sets_notified use worker monitor stands
  | notifiesOne use =>
      cases taken
      exact caller_notifies_one use worker monitor stands
  | unlocksTask use =>
      cases use with
      | execute inWorkCallback =>
          cases taken
          exact caller_unlocks_task _ _ worker _ monitor stands ⟨rfl, rfl⟩ knows.1 rfl rfl rfl rfl rfl rfl rfl
      | shutdown destroying =>
          cases taken
          exact caller_unlocks_task _ _ worker _ monitor stands ⟨rfl, rfl⟩ ⟨knows.1, knows.2.1⟩ rfl rfl rfl rfl rfl rfl rfl
  | joins destroying =>
      simp only [CallerPoint.goOn] at taken
      split at taken
      · obtain ⟨_, joined⟩ := Option.ite_none_right_eq_some.mp taken
        cases joined
        cases destroying <;>
          exact ⟨⟨monitor.hasWork, monitor.owes, monitor.signalled, monitor.given⟩,
            ⟨stands.setup, stands.task, knows.1⟩, { caller_does_nothing worker with }⟩
      · cases taken
        cases destroying <;> exact caller_passes _ _ worker monitor stands rfl rfl knows.1
  | destroyed => cases taken

theorem caller_steps (point : CallerPoint WorkCallback) (worker : WorkerMembers WorkCallback)
    (event : CallerEvent WorkCallback) (next : CallerPoint WorkCallback × WorkerMembers WorkCallback)
    (monitor : Monitor worker) (stands : CallerAt point worker) (taken : point.step worker event = some next) :
    CallerReaches worker next := by
  have knows := stands.knows
  cases event with
  | goesOn => exact caller_goes_on point worker next monitor stands taken
  | execute inWorkCallback =>
      cases point <;> cases taken
      exact caller_passes _ _ worker monitor stands rfl rfl knows
  | isAvailable =>
      cases point <;> cases taken
      exact caller_passes _ _ worker monitor stands rfl rfl knows
  | shutdown =>
      cases point <;> cases taken
      exact caller_passes _ _ worker monitor stands rfl rfl knows
  | destroy =>
      cases point <;> cases taken
      exact caller_passes _ _ worker monitor stands rfl rfl knows
  | wakesSpuriously =>
      cases point with
      | waitsSetup =>
          obtain ⟨locks, started, notified⟩ := knows
          obtain ⟨setup, woken, rfl⟩ := Option.map_eq_some_iff.mp taken
          obtain ⟨_, rfl⟩ := (wake_spuriously_some _ _).mp woken
          exact caller_sets_up _ _ worker _ monitor stands stands.setup Iff.rfl (.inl rfl) rfl
            ⟨locks, started, fun given => ⟨(notified given).1, rfl⟩⟩
      | _ => cases taken

def MethodReaches (worker : WorkerMembers WorkCallback) (next : MethodPoint × WorkerMembers WorkCallback) : Prop :=
  Monitor next.2 ∧ MethodAt next.1 next.2 ∧ MethodDoes worker next.2

theorem method_does_task (worker later : WorkerMembers WorkCallback) (started : worker.thread.started = true)
    (free : worker.taskSynchronizer.mutex ≠ some .caller) (stillFree : later.taskSynchronizer.mutex ≠ some .caller)
    (sameStarted : later.thread.started = worker.thread.started)
    (lockingModel : later.lockingModel = worker.lockingModel)
    (setup : later.setupSynchronizer = worker.setupSynchronizer) (given : later.setupGiven = worker.setupGiven)
    (running : later.isRunning = worker.isRunning) (callback : later.workCallback = worker.workCallback) :
    MethodDoes worker later := by
  refine ⟨lockingModel, ⟨started, sameStarted.trans started⟩, by rw [setup], iff_of_false stillFree free, callback,
    fun already => ⟨given.trans already, running⟩, fun _ observed => ?_, fun _ _ => ⟨given, by rw [setup]⟩,
    fun _ now => .inl (given ▸ now), fun flag => setup ▸ flag, fun awake => setup ▸ awake,
    fun mine => absurd mine free⟩
  rw [given, running, observed]

theorem method_does_setup (worker later : WorkerMembers WorkCallback) (started : worker.thread.started = true)
    (thread : later.thread = worker.thread) (lockingModel : later.lockingModel = worker.lockingModel)
    (task : later.taskSynchronizer = worker.taskSynchronizer) (callback : later.workCallback = worker.workCallback)
    (free : worker.setupSynchronizer.mutex ≠ some .caller)
    (stillFree : later.setupSynchronizer.mutex ≠ some .caller)
    (running : worker.setupGiven = true → later.setupGiven = true ∧ later.isRunning = worker.isRunning)
    (observed : worker.lockingModel = .avoidLocking → worker.setupGiven = worker.isRunning →
      later.setupGiven = later.isRunning)
    (gives : worker.lockingModel = .lockThreads → later.setupGiven = true → worker.setupGiven = true ∨
      (later.setupSynchronizer.isNotified = true ∧ later.setupSynchronizer.waiting = false))
    (flag : worker.setupSynchronizer.isNotified = true → later.setupSynchronizer.isNotified = true)
    (awake : worker.setupSynchronizer.waiting = false → later.setupSynchronizer.waiting = false) :
    MethodDoes worker later := by
  refine ⟨lockingModel, ⟨started, thread ▸ started⟩, iff_of_false stillFree free, by rw [task], callback, running,
    observed, fun _ mine => absurd mine free, gives, flag, awake, fun _ => ?_⟩
  rw [task]
  exact ⟨rfl, id⟩

theorem method_passes (point there : MethodPoint) (worker : WorkerMembers WorkCallback) (monitor : Monitor worker)
    (stands : MethodAt point worker) (started : worker.thread.started = true) (holds : point.holdsTask = true)
    (setup : there.holdsSetup = point.holdsSetup) (task : there.holdsTask = true)
    (unfinished : point ≠ .finished ∧ there ≠ .finished) (knows : MethodKnows worker there) :
    MethodReaches worker (there, worker) := by
  have mine := stands.task.mpr holds
  refine ⟨monitor, ⟨?_, by simp [mine, task], fun _ => started,
      stands.ended.trans (iff_of_false unfinished.1 unfinished.2), knows⟩,
    method_does_task worker worker started (by simp [mine]) (by simp [mine]) rfl rfl rfl rfl rfl rfl⟩
  rw [setup]
  exact stands.setup

theorem method_locks_task (worker : WorkerMembers WorkCallback) (monitor : Monitor worker)
    (stands : MethodAt .locksTask worker) (started : worker.thread.started = true)
    (free : worker.taskSynchronizer.mutex = none) :
    MethodReaches worker (.reports, worker.withTask { worker.taskSynchronizer with mutex := some .worker }) := by
  have unnotified := ne_true_of_eq_false stands.knows.2.2
  refine ⟨⟨monitor.hasWork, monitor.owes, fun _ notified => absurd notified unnotified, monitor.given⟩,
    ⟨stands.setup, ?_, fun _ => started, stands.ended.trans (iff_of_false nofun nofun), stands.knows⟩, ?_⟩
  · simp [withTask, MethodPoint.holdsTask]
  · exact method_does_task worker _ started (by simp [free]) (by simp [withTask]) rfl rfl rfl rfl rfl rfl

theorem method_reports_running (worker : WorkerMembers WorkCallback) (monitor : Monitor worker)
    (stands : MethodAt .reports worker) (started : worker.thread.started = true)
    (avoids : worker.lockingModel = .avoidLocking) :
    MethodReaches worker (.testsLoop, { worker with isRunning := true, setupGiven := true }) := by
  obtain ⟨early, _, flag⟩ := stands.knows
  have unnotified := ne_true_of_eq_false flag
  refine ⟨⟨fun notified => absurd notified unnotified, monitor.owes, monitor.signalled, fun _ => .inl rfl⟩,
    ⟨stands.setup, stands.task, fun _ => started, stands.ended.trans (iff_of_false nofun nofun), rfl, rfl, ?_⟩,
    ⟨rfl, ⟨started, started⟩, Iff.rfl, Iff.rfl, rfl, ?_, fun _ _ => rfl, ?_, ?_, id, id, fun _ => ⟨rfl, id⟩⟩⟩
  · exact fun owed => absurd (monitor.owes owed) unnotified
  · exact fun given => absurd given (ne_true_of_eq_false early)
  · exact fun locks => nomatch avoids.symm.trans locks
  · exact fun locks => nomatch avoids.symm.trans locks

theorem method_locks_setup (worker : WorkerMembers WorkCallback) (monitor : Monitor worker)
    (stands : MethodAt .locksSetup worker) (started : worker.thread.started = true)
    (free : worker.setupSynchronizer.mutex = none) :
    MethodReaches worker
      (.setsRunning, worker.withSetup { worker.setupSynchronizer with mutex := some .worker }) := by
  refine ⟨⟨monitor.hasWork, monitor.owes, monitor.signalled, fun _ => .inr rfl⟩,
    ⟨?_, stands.task, fun _ => started, stands.ended.trans (iff_of_false nofun nofun), stands.knows⟩, ?_⟩
  · simp [withSetup, MethodPoint.holdsSetup]
  · exact method_does_setup worker _ started rfl rfl rfl rfl (by simp [free]) (by simp [withSetup])
      (fun given => ⟨given, rfl⟩) (fun _ => id) (fun _ => .inl) id id

theorem method_sets_running (worker : WorkerMembers WorkCallback) (monitor : Monitor worker)
    (stands : MethodAt .setsRunning worker) (started : worker.thread.started = true) :
    MethodReaches worker (.setsNotified, { worker with isRunning := true }) := by
  obtain ⟨locks, early, _, flag⟩ := stands.knows
  have mine := stands.setup.mpr rfl
  have unnotified := ne_true_of_eq_false flag
  refine ⟨⟨fun notified => absurd notified unnotified, monitor.owes, monitor.signalled, monitor.given⟩,
    ⟨stands.setup, stands.task, fun _ => started, stands.ended.trans (iff_of_false nofun nofun), locks, early, rfl,
      flag⟩, ?_⟩
  exact method_does_setup worker _ started rfl rfl rfl rfl (by simp [mine]) (by simp [mine])
    (fun given => absurd given (ne_true_of_eq_false early)) (fun avoids => nomatch locks.symm.trans avoids)
    (fun _ => .inl) id id

theorem method_sets_notified (worker : WorkerMembers WorkCallback) (monitor : Monitor worker)
    (stands : MethodAt .setsNotified worker) (started : worker.thread.started = true) :
    MethodReaches worker (.notifiesOne, worker.withSetup worker.setupSynchronizer.setNotified) := by
  obtain ⟨locks, early, running, flag⟩ := stands.knows
  have mine := stands.setup.mpr rfl
  refine ⟨⟨monitor.hasWork, monitor.owes, monitor.signalled, fun _ => .inr mine⟩,
    ⟨stands.setup, stands.task, fun _ => started, stands.ended.trans (iff_of_false nofun nofun), locks, early,
      running, flag, rfl⟩, ?_⟩
  exact method_does_setup worker _ started rfl rfl rfl rfl (by simp [mine]) (by simp [withSetup, setNotified, mine])
    (fun given => ⟨given, rfl⟩) (fun _ => id) (fun _ => .inl) (fun _ => rfl) id

theorem method_notifies_one (worker : WorkerMembers WorkCallback) (monitor : Monitor worker)
    (stands : MethodAt .notifiesOne worker) (started : worker.thread.started = true) :
    MethodReaches worker
      (.unlocksSetup, { worker.withSetup worker.setupSynchronizer.notifyOne with setupGiven := true }) := by
  obtain ⟨locks, _, running, flag, notified⟩ := stands.knows
  have mine := stands.setup.mpr rfl
  refine ⟨⟨monitor.hasWork, monitor.owes, monitor.signalled, fun _ => .inl rfl⟩,
    ⟨stands.setup, stands.task, fun _ => started, stands.ended.trans (iff_of_false nofun nofun), rfl, running, flag⟩,
    ?_⟩
  exact method_does_setup worker _ started rfl rfl rfl rfl (by simp [mine]) (by simp [withSetup, notifyOne, mine])
    (fun _ => ⟨rfl, rfl⟩) (fun avoids => nomatch locks.symm.trans avoids) (fun _ _ => .inr ⟨notified, rfl⟩) id
    (fun _ => rfl)

theorem method_unlocks_setup (worker : WorkerMembers WorkCallback) (monitor : Monitor worker)
    (stands : MethodAt .unlocksSetup worker) (started : worker.thread.started = true) :
    MethodReaches worker (.testsLoop, worker.withSetup worker.setupSynchronizer.unlock) := by
  obtain ⟨given, running, flag⟩ := stands.knows
  have mine := stands.setup.mpr rfl
  have nothingOwed : worker.owed ≠ true := fun owed => absurd (monitor.owes owed) (ne_true_of_eq_false flag)
  refine ⟨⟨monitor.hasWork, monitor.owes, monitor.signalled, fun _ => .inl given⟩,
    ⟨?_, stands.task, fun _ => started, stands.ended.trans (iff_of_false nofun nofun), given, running,
      fun owed => absurd owed nothingOwed⟩, ?_⟩
  · simp [withSetup, unlock, MethodPoint.holdsSetup]
  · exact method_does_setup worker _ started rfl rfl rfl rfl (by simp [mine]) (by simp [withSetup, unlock])
      (fun given => ⟨given, rfl⟩) (fun _ => id) (fun _ => .inl) id id

theorem method_clears_task (worker : WorkerMembers WorkCallback) (monitor : Monitor worker)
    (stands : MethodAt .clearsTask worker) (started : worker.thread.started = true) :
    MethodReaches worker (.testsTask, { worker.withTask worker.taskSynchronizer.clear with
      stored := false, owed := worker.owed && !worker.performed }) := by
  obtain ⟨given, running, ran⟩ := stands.knows
  have mine := stands.task.mpr rfl
  have nothingOwed : (worker.owed && !worker.performed) ≠ true := by
    cases owed : worker.owed with
    | false => simp
    | true => simp [ran owed]
  refine ⟨⟨fun notified => absurd notified Bool.false_ne_true, fun owed => absurd owed nothingOwed,
      fun _ notified => absurd notified Bool.false_ne_true, monitor.given⟩,
    ⟨stands.setup, stands.task, fun _ => started, stands.ended.trans (iff_of_false nofun nofun), given, ?_⟩, ?_⟩
  · rintro (stored | stopped)
    · exact absurd stored Bool.false_ne_true
    · exact absurd stopped (ne_false_of_eq_true running)
  · exact method_does_task worker _ started (by simp [mine]) (by simp [withTask, clear, mine]) rfl rfl rfl rfl rfl rfl

theorem method_falls_asleep (worker : WorkerMembers WorkCallback) (monitor : Monitor worker)
    (stands : MethodAt .testsTask worker) (started : worker.thread.started = true)
    (flag : worker.taskSynchronizer.isNotified = false) :
    MethodReaches worker (.waitsTask, worker.withTask worker.taskSynchronizer.wait) := by
  obtain ⟨given, told⟩ := stands.knows
  have mine := stands.task.mpr rfl
  have notTheirs : worker.taskSynchronizer.mutex ≠ some .caller := by simp [mine]
  have unnotified := ne_true_of_eq_false flag
  refine ⟨⟨monitor.hasWork, monitor.owes, fun _ notified => absurd notified unnotified, monitor.given⟩,
    ⟨stands.setup, ?_, fun _ => started, stands.ended.trans (iff_of_false nofun nofun), given,
      fun pending => .inl ((told pending).resolve_right notTheirs)⟩, ?_⟩
  · simp [withTask, wait, MethodPoint.holdsTask]
  · exact method_does_task worker _ started notTheirs (by simp [withTask, wait]) rfl rfl rfl rfl rfl rfl

theorem method_wakes_up (worker : WorkerMembers WorkCallback) (monitor : Monitor worker)
    (stands : MethodAt .waitsTask worker) (started : worker.thread.started = true)
    (awake : worker.taskSynchronizer.waiting = false) (free : worker.taskSynchronizer.mutex = none) :
    MethodReaches worker (.testsTask, worker.withTask { worker.taskSynchronizer with mutex := some .worker }) := by
  obtain ⟨given, told⟩ := stands.knows
  have notTheirs : worker.taskSynchronizer.mutex ≠ some .caller := by simp [free]
  have notAsleep := ne_true_of_eq_false awake
  refine ⟨⟨monitor.hasWork, monitor.owes, fun waiting => absurd waiting notAsleep, monitor.given⟩,
    ⟨stands.setup, ?_, fun _ => started, stands.ended.trans (iff_of_false nofun nofun), given,
      fun pending => .inl ((told pending).resolve_right notTheirs)⟩, ?_⟩
  · simp [withTask, MethodPoint.holdsTask]
  · exact method_does_task worker _ started notTheirs (by simp [withTask]) rfl rfl rfl rfl rfl rfl

theorem method_calls_back (worker : WorkerMembers WorkCallback) (monitor : Monitor worker)
    (stands : MethodAt .callsBack worker) (started : worker.thread.started = true) :
    MethodReaches worker (.testsLoop, { worker with performed := true }) := by
  obtain ⟨given, running, _⟩ := stands.knows
  have mine := stands.task.mpr rfl
  refine ⟨⟨monitor.hasWork, monitor.owes, monitor.signalled, monitor.given⟩,
    ⟨stands.setup, stands.task, fun _ => started, stands.ended.trans (iff_of_false nofun nofun), given, running,
      fun _ => rfl⟩, ?_⟩
  exact method_does_task worker _ started (by simp [mine]) (by simp [mine]) rfl rfl rfl rfl rfl rfl

theorem method_unlocks_task (worker : WorkerMembers WorkCallback) (monitor : Monitor worker)
    (stands : MethodAt .unlocksTask worker) (started : worker.thread.started = true) :
    MethodReaches worker (.finished, { worker.withTask worker.taskSynchronizer.unlock with
      thread := { worker.thread with ended := true } }) := by
  obtain ⟨given, stopped⟩ := stands.knows
  have mine := stands.task.mpr rfl
  have unsignalled (waiting : worker.taskSynchronizer.waiting = true)
      (notified : worker.taskSynchronizer.isNotified = true) : False :=
    nomatch mine.symm.trans (monitor.signalled waiting notified)
  refine ⟨⟨monitor.hasWork, monitor.owes, fun waiting notified => (unsignalled waiting notified).elim, monitor.given⟩,
    ⟨stands.setup, ?_, fun _ => started, iff_of_true rfl rfl, given, stopped⟩, ?_⟩
  · simp [withTask, unlock, MethodPoint.holdsTask]
  · exact method_does_task worker _ started (by simp [mine]) (by simp [withTask, unlock]) rfl rfl rfl rfl rfl rfl

theorem method_goes_on (point : MethodPoint) (worker : WorkerMembers WorkCallback)
    (next : MethodPoint × WorkerMembers WorkCallback) (monitor : Monitor worker) (stands : MethodAt point worker)
    (started : worker.thread.started = true) (taken : point.goOn worker = some next) : MethodReaches worker next := by
  have knows := stands.knows
  cases point with
  | locksTask =>
      obtain ⟨task, locked, rfl⟩ := Option.map_eq_some_iff.mp taken
      obtain ⟨free, rfl⟩ := (lock_some _ _ _).mp locked
      exact method_locks_task worker monitor stands started free
  | reports =>
      simp only [MethodPoint.goOn] at taken
      split at taken
      · rename_i avoids
        cases taken
        exact method_reports_running worker monitor stands started avoids
      · rename_i locks
        cases taken
        exact method_passes _ _ worker monitor stands started rfl rfl rfl ⟨nofun, nofun⟩ ⟨locks, knows⟩
  | locksSetup =>
      obtain ⟨setup, locked, rfl⟩ := Option.map_eq_some_iff.mp taken
      obtain ⟨free, rfl⟩ := (lock_some _ _ _).mp locked
      exact method_locks_setup worker monitor stands started free
  | setsRunning =>
      cases taken
      exact method_sets_running worker monitor stands started
  | setsNotified =>
      cases taken
      exact method_sets_notified worker monitor stands started
  | notifiesOne =>
      cases taken
      exact method_notifies_one worker monitor stands started
  | unlocksSetup =>
      cases taken
      exact method_unlocks_setup worker monitor stands started
  | testsLoop =>
      obtain ⟨_, running, _⟩ := knows
      cases (if_pos running).symm.trans taken
      exact method_passes _ _ worker monitor stands started rfl rfl rfl ⟨nofun, nofun⟩ stands.knows
  | clearsTask =>
      cases taken
      exact method_clears_task worker monitor stands started
  | testsTask =>
      cases flag : worker.taskSynchronizer.isNotified with
      | false =>
          cases (if_pos flag).symm.trans taken
          exact method_falls_asleep worker monitor stands started flag
      | true =>
          cases (if_neg (ne_false_of_eq_true flag)).symm.trans taken
          exact method_passes _ _ worker monitor stands started rfl rfl rfl ⟨nofun, nofun⟩ ⟨knows.1, flag⟩
  | waitsTask =>
      obtain ⟨task, locked, rfl⟩ := Option.map_eq_some_iff.mp taken
      obtain ⟨awake, free, rfl⟩ := (wake_up_some _ _ _).mp locked
      exact method_wakes_up worker monitor stands started awake free
  | testsQuit =>
      obtain ⟨given, flag⟩ := knows
      cases running : worker.isRunning with
      | false =>
          cases (if_pos running).symm.trans taken
          exact method_passes _ _ worker monitor stands started rfl rfl rfl ⟨nofun, nofun⟩ ⟨given, running⟩
      | true =>
          cases (if_neg (ne_false_of_eq_true running)).symm.trans taken
          exact method_passes _ _ worker monitor stands started rfl rfl rfl ⟨nofun, nofun⟩ ⟨given, running, flag⟩
  | callsBack =>
      obtain ⟨callback, _, rfl⟩ := Option.map_eq_some_iff.mp taken
      exact method_calls_back worker monitor stands started
  | unlocksTask =>
      cases taken
      exact method_unlocks_task worker monitor stands started
  | finished => cases taken

theorem method_steps (point : MethodPoint) (worker : WorkerMembers WorkCallback) (event : MethodEvent)
    (next : MethodPoint × WorkerMembers WorkCallback) (monitor : Monitor worker) (stands : MethodAt point worker)
    (taken : point.step worker event = some next) : MethodReaches worker next := by
  obtain ⟨started, taken⟩ := Option.ite_none_right_eq_some.mp taken
  cases event with
  | goesOn => exact method_goes_on point worker next monitor stands started taken
  | wakesSpuriously =>
      cases point with
      | waitsTask =>
          obtain ⟨given, notified⟩ := stands.knows
          obtain ⟨task, woken, rfl⟩ := Option.map_eq_some_iff.mp taken
          obtain ⟨_, rfl⟩ := (wake_spuriously_some _ _).mp woken
          exact ⟨⟨monitor.hasWork, monitor.owes, fun waiting => absurd waiting Bool.false_ne_true, monitor.given⟩,
            ⟨stands.setup, stands.task, fun _ => started, stands.ended, given, notified⟩,
            ⟨rfl, ⟨started, started⟩, Iff.rfl, Iff.rfl, rfl, fun given => ⟨given, rfl⟩, fun _ => id,
              fun _ _ => ⟨rfl, rfl⟩, fun _ => .inl, id, id, fun _ => ⟨rfl, fun _ => rfl⟩⟩⟩
      | _ => cases taken

def workerThreads (WorkCallback : Type) : Interleaving.Threads (CallerPoint WorkCallback) MethodPoint
    (WorkerMembers WorkCallback) (CallerEvent WorkCallback) MethodEvent where
  first := CallerPoint.step
  second := MethodPoint.step

def wakeUpOutline (WorkCallback : Type) : Interleaving.Outline (workerThreads WorkCallback) where
  common := Monitor
  first := CallerAt
  second := MethodAt
  firstDoes := CallerDoes
  secondDoes := MethodDoes
  first_step := caller_steps
  second_step := method_steps
  first_stable := caller_stable
  second_stable := method_stable

abbrev WorkerConfig (WorkCallback : Type) :=
  Interleaving.Config (CallerPoint WorkCallback) MethodPoint (WorkerMembers WorkCallback)

def constructing (lockingModel : LockingModel) : WorkerConfig WorkCallback :=
  { first := .constructs, second := .locksTask, shared := .create lockingModel }

theorem constructing_holds (lockingModel : LockingModel) :
    (wakeUpOutline WorkCallback).Holds (constructing lockingModel) := by
  refine ⟨⟨?_, ?_, ?_, ?_⟩, ⟨?_, ?_, rfl, rfl, rfl⟩, ⟨?_, ?_, ?_, ?_, rfl, rfl, rfl⟩⟩ <;>
    simp [constructing, WorkerMembers.create, ThreadSynchronizer.create, CallerPoint.holdsSetup, CallerPoint.holdsTask,
      MethodPoint.holdsSetup, MethodPoint.holdsTask]

end NetworkWrapper
