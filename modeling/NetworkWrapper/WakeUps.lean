import NetworkWrapper.WorkerOutline

set_option autoImplicit false

-- No wake-up of WorkerThread is lost: what follows from the outline in every state
-- that a run from the constructor reaches.
namespace NetworkWrapper

variable {WorkCallback : Type}

open ThreadSynchronizer WorkerMembers

def CallerPoint.inCall : CallerPoint WorkCallback → Bool
  | .idle | .destroyed => false
  | _ => true

-- A step that is neither a call nor a spurious wake-up, and no other round of the
-- loop in which the constructor sleeps.
def CallerMoves (point : CallerPoint WorkCallback) (worker : WorkerMembers WorkCallback) : Prop :=
  ∃ next, point.step worker .goesOn = some next ∧ next.1 ≠ point

def MethodMoves (point : MethodPoint) (worker : WorkerMembers WorkCallback) : Prop :=
  ∃ next, point.step worker .goesOn = some next ∧ next.1 ≠ point

theorem unheld (mutex : Option Party) (caller : mutex ≠ some .caller) (worker : mutex ≠ some .worker) :
    mutex = none := by
  cases mutex with
  | none => rfl
  | some party =>
      cases party with
      | caller => exact absurd rfl caller
      | worker => exact absurd rfl worker

theorem holder_moves (point : CallerPoint WorkCallback) (worker : WorkerMembers WorkCallback)
    (holds : point.holdsSetup = true ∨ point.holdsTask = true) : CallerMoves point worker := by
  cases point with
  | launchesLocked | clearsSetup | unlocksSetup | appliesLogic use | setsNotified use | notifiesOne use =>
      exact ⟨_, rfl, by simp⟩
  | testsSetup =>
      cases flag : worker.setupSynchronizer.isNotified with
      | false => exact ⟨_, if_pos flag, by simp⟩
      | true => exact ⟨_, if_neg (by simp [flag]), by simp⟩
  | unlocksTask use => cases use <;> exact ⟨_, rfl, by simp⟩
  | _ => simp [CallerPoint.holdsSetup, CallerPoint.holdsTask] at holds

theorem lock_free (synchronizer : ThreadSynchronizer) (party : Party) (free : synchronizer.mutex = none) :
    synchronizer.lock party = some { synchronizer with mutex := some party } := if_pos free

theorem caller_moves (point : CallerPoint WorkCallback) (worker : WorkerMembers WorkCallback)
    (inCall : point.inCall = true) (setup : worker.setupSynchronizer.mutex = none)
    (task : worker.taskSynchronizer.mutex = none) (observed : point = .observes → worker.isRunning = true)
    (awake : point = .waitsSetup → worker.setupSynchronizer.waiting = false)
    (ended : ∀ destroying, point = .joins destroying → worker.thread.ended = true) : CallerMoves point worker := by
  by_cases holds : point.holdsSetup = true ∨ point.holdsTask = true
  · exact holder_moves point worker holds
  cases point with
  | constructs => cases chosen : worker.lockingModel <;> exact ⟨_, rfl, by simp [CallerPoint.setupBranch, chosen]⟩
  | launches => exact ⟨_, rfl, by simp⟩
  | observes => exact ⟨_, if_neg (by simp [observed rfl]), by simp⟩
  | locksSetup => exact ⟨_, Option.map_eq_some_iff.mpr ⟨_, lock_free _ _ setup, rfl⟩, by simp⟩
  | waitsSetup =>
      exact ⟨_, Option.map_eq_some_iff.mpr ⟨_, (wake_up_some _ _ _).mpr ⟨awake rfl, setup, rfl⟩, rfl⟩, by simp⟩
  | testsRunning destroying =>
      cases running : worker.isRunning with
      | false => exact ⟨_, if_neg (by simp [running]), by cases destroying <;> simp [CallerPoint.afterShutdown]⟩
      | true => exact ⟨_, if_pos running, by simp⟩
  | locksTask use => exact ⟨_, Option.map_eq_some_iff.mpr ⟨_, lock_free _ _ task, rfl⟩, by simp⟩
  | joins destroying =>
      cases joinable : worker.thread.joinable with
      | false => exact ⟨_, if_neg (by simp [joinable]), by cases destroying <;> simp [CallerPoint.afterShutdown]⟩
      | true =>
          exact ⟨_, (if_pos joinable).trans (if_pos (ended destroying rfl)),
            by cases destroying <;> simp [CallerPoint.afterShutdown]⟩
  | idle | destroyed => cases inCall
  | _ => simp [CallerPoint.holdsSetup, CallerPoint.holdsTask] at holds

theorem method_moves (point : MethodPoint) (worker : WorkerMembers WorkCallback) (monitor : Monitor worker)
    (stands : MethodAt point worker) (started : worker.thread.started = true)
    (setup : worker.setupSynchronizer.mutex ≠ some .caller) (task : worker.taskSynchronizer.mutex ≠ some .caller)
    (awake : point = .waitsTask → worker.taskSynchronizer.waiting = false) (unfinished : point ≠ .finished) :
    MethodMoves point worker := by
  have goes (next : MethodPoint × WorkerMembers WorkCallback) (taken : point.goOn worker = some next)
      (onward : next.1 ≠ point) : MethodMoves point worker := ⟨next, (if_pos started).trans taken, onward⟩
  have setupFree (outside : point.holdsSetup = false) : worker.setupSynchronizer.mutex = none :=
    unheld _ setup fun mine => by simp [stands.setup.mp mine] at outside
  have taskFree (outside : point.holdsTask = false) : worker.taskSynchronizer.mutex = none :=
    unheld _ task fun mine => by simp [stands.task.mp mine] at outside
  cases point with
  | locksTask => exact goes _ (Option.map_eq_some_iff.mpr ⟨_, lock_free _ _ (taskFree rfl), rfl⟩) (by simp)
  | reports =>
      cases chosen : worker.lockingModel with
      | lockThreads => exact goes (.locksSetup, worker) (by simp [MethodPoint.goOn, chosen]) (by simp)
      | avoidLocking =>
          exact goes (.testsLoop, { worker with isRunning := true, setupGiven := true })
            (by simp [MethodPoint.goOn, chosen]) (by simp)
  | locksSetup => exact goes _ (Option.map_eq_some_iff.mpr ⟨_, lock_free _ _ (setupFree rfl), rfl⟩) (by simp)
  | setsRunning | setsNotified | notifiesOne | unlocksSetup | clearsTask | unlocksTask => exact goes _ rfl (by simp)
  | testsLoop =>
      cases running : worker.isRunning with
      | false => exact goes _ (if_neg (by simp [running])) (by simp)
      | true => exact goes _ (if_pos running) (by simp)
  | testsTask =>
      cases flag : worker.taskSynchronizer.isNotified with
      | false => exact goes _ (if_pos flag) (by simp)
      | true => exact goes _ (if_neg (by simp [flag])) (by simp)
  | waitsTask =>
      exact goes _ (Option.map_eq_some_iff.mpr ⟨_, (wake_up_some _ _ _).mpr ⟨awake rfl, taskFree rfl, rfl⟩, rfl⟩)
        (by simp)
  | testsQuit =>
      cases running : worker.isRunning with
      | false => exact goes _ (if_pos running) (by simp)
      | true => exact goes _ (if_neg (by simp [running])) (by simp)
  | callsBack =>
      obtain ⟨given, running, flag⟩ := stands.knows
      -- the slot cannot be empty
      have full := (monitor.hasWork flag).resolve_right (by simp [running])
      obtain ⟨callback, slot⟩ := Option.isSome_iff_exists.mp full
      exact goes _ (Option.map_eq_some_iff.mpr ⟨callback, slot, rfl⟩) (by simp)
  | finished => exact absurd rfl unfinished

def Moves (config : WorkerConfig WorkCallback) : Prop :=
  CallerMoves config.first config.shared ∨ MethodMoves config.second config.shared

def Rests (point : MethodPoint) (worker : WorkerMembers WorkCallback) : Prop :=
  point = .finished ∨ point = .waitsTask ∧ worker.taskSynchronizer.waiting = true

def Pending (config : WorkerConfig WorkCallback) : Prop :=
  config.first.inCall = true ∨
    (config.shared.stored = true ∨ config.shared.owed = true) ∧ config.shared.isRunning = true

theorem asleep_untold (worker : WorkerMembers WorkCallback) (monitor : Monitor worker)
    (stands : MethodAt .waitsTask worker) (waiting : worker.taskSynchronizer.waiting = true)
    (free : worker.taskSynchronizer.mutex ≠ some .caller) :
    worker.isRunning = true ∧ ¬ (worker.stored = true ∨ worker.owed = true) := by
  have unnotified : worker.taskSynchronizer.isNotified ≠ true := fun notified =>
    free (monitor.signalled waiting notified)
  have quiet : ¬ (worker.stored = true ∨ worker.isRunning = false) := fun told =>
    (stands.knows.2 told).elim unnotified free
  refine ⟨by simpa using fun stopped => quiet (.inr stopped), ?_⟩
  rintro (stored | owed)
  · exact quiet (.inl stored)
  · exact unnotified (monitor.owes owed)

theorem pending_moves (config : WorkerConfig WorkCallback) (holds : (wakeUpOutline WorkCallback).Holds config)
    (pending : Pending config) : Moves config := by
  obtain ⟨point, method, worker⟩ := config
  obtain ⟨monitor, caller, stands⟩ := holds
  by_cases holding : point.holdsSetup = true ∨ point.holdsTask = true
  · exact .inl (holder_moves point worker holding)
  have noSetup : worker.setupSynchronizer.mutex ≠ some .caller := fun mine => holding (.inl (caller.setup.mp mine))
  have noTask : worker.taskSynchronizer.mutex ≠ some .caller := fun mine => holding (.inr (caller.task.mp mine))
  have free (outside : method.holdsSetup = false ∧ method.holdsTask = false) :
      worker.setupSynchronizer.mutex = none ∧ worker.taskSynchronizer.mutex = none :=
    ⟨unheld _ noSetup fun mine => by simp [stands.setup.mp mine] at outside,
      unheld _ noTask fun mine => by simp [stands.task.mp mine] at outside⟩
  have knows := caller.knows
  cases started : worker.thread.started with
  | false =>
      have first : method = .locksTask := by
        by_contra past
        exact absurd (stands.started past) (ne_true_of_eq_false started)
      subst first
      obtain ⟨early, stopped, _⟩ := stands.knows
      obtain ⟨setup, task⟩ := free ⟨rfl, rfl⟩
      have inCall := pending.resolve_right fun told => absurd told.2 (ne_true_of_eq_false stopped)
      refine .inl (caller_moves point worker inCall setup task ?_ ?_ ?_)
      · rintro rfl
        exact absurd knows.2.1 (ne_true_of_eq_false started)
      · rintro rfl
        exact absurd knows.2.1 (ne_true_of_eq_false started)
      · rintro destroying rfl
        exact absurd knows.1 (ne_true_of_eq_false early)
  | true =>
      by_cases rests : Rests method worker
      · have given : worker.setupGiven = true ∧ method.holdsSetup = false ∧ method.holdsTask = false := by
          rcases rests with rfl | ⟨rfl, _⟩ <;> exact ⟨stands.knows.1, rfl, rfl⟩
        obtain ⟨setup, task⟩ := free given.2
        have told : method = .finished ∧ worker.isRunning = false ∨
            worker.isRunning = true ∧ ¬ (worker.stored = true ∨ worker.owed = true) := by
          rcases rests with rfl | ⟨rfl, waiting⟩
          · exact .inl ⟨rfl, stands.knows.2⟩
          · exact .inr (asleep_untold worker monitor stands waiting noTask)
        have inCall := pending.resolve_right fun waitedFor => by
          rcases told with ⟨_, stopped⟩ | ⟨_, untold⟩
          · exact absurd waitedFor.2 (ne_true_of_eq_false stopped)
          · exact untold waitedFor.1
        refine .inl (caller_moves point worker inCall setup task ?_ ?_ ?_)
        · rintro rfl
          exact knows.2.2.symm.trans given.1
        · rintro rfl
          exact (knows.2.2 given.1).2
        · rintro destroying rfl
          rcases told with ⟨finished, _⟩ | ⟨running, _⟩
          · exact stands.ended.mpr finished
          · exact absurd knows.2 (ne_false_of_eq_true running)
      · refine .inr (method_moves method worker monitor stands started noSetup noTask (fun waits => ?_)
          fun finished => rests (.inl finished))
        simpa using fun waiting => rests (.inr ⟨waits, waiting⟩)

def WaitsForSetup (worker : WorkerMembers WorkCallback) : CallerPoint WorkCallback → Prop
  | .observes => worker.isRunning = false
  | .clearsSetup => True
  | .testsSetup => worker.setupSynchronizer.isNotified = false
  | .waitsSetup => worker.setupSynchronizer.waiting = true ∨ worker.setupSynchronizer.isNotified = false
  | _ => False

structure NoLostWakeUp (config : WorkerConfig WorkCallback) : Prop where
  setup : WaitsForSetup config.shared config.first → config.shared.setupGiven = false
  task : config.shared.taskSynchronizer.mutex ≠ some .caller → config.second = .waitsTask →
    config.shared.stored = true ∨ config.shared.isRunning = false → config.shared.taskSynchronizer.isNotified = true
  available : config.shared.owed = true → config.shared.isAvailable = false
  unstuck : Pending config → Moves config

theorem setup_not_given (point : CallerPoint WorkCallback) (worker : WorkerMembers WorkCallback)
    (stands : CallerAt point worker) (waits : WaitsForSetup worker point) : worker.setupGiven = false := by
  have knows := stands.knows
  cases point with
  | observes => exact knows.2.2.trans waits
  | clearsSetup => exact knows.2.2
  | testsSetup =>
      by_contra given
      exact absurd (knows.2.2 (by simpa using given)) (ne_true_of_eq_false waits)
  | waitsSetup =>
      by_contra given
      obtain ⟨notified, awake⟩ := knows.2.2 (by simpa using given)
      rcases waits with waiting | unnotified
      · exact absurd waiting (ne_true_of_eq_false awake)
      · exact absurd notified (ne_true_of_eq_false unnotified)
  | _ => cases waits

theorem no_lost_wake_up (lockingModel : LockingModel) (events : List (CallerEvent WorkCallback ⊕ MethodEvent))
    (final : WorkerConfig WorkCallback)
    (reached : Transition.run (Interleaving.step (workerThreads WorkCallback)) (constructing lockingModel) events =
      some final) : NoLostWakeUp final := by
  have holds := (wakeUpOutline WorkCallback).run_holds _ final events (constructing_holds lockingModel) reached
  obtain ⟨point, method, worker⟩ := final
  refine ⟨setup_not_given point worker holds.first, fun free waits told => ?_, fun owed => ?_, pending_moves _ holds⟩
  · have stands := holds.second
    cases waits
    exact (stands.knows.2 told).resolve_right free
  · have notified : worker.taskSynchronizer.isNotified = true := holds.common.owes owed
    simp [isAvailable, notified]

-- The constructor returns, one task is handed over, and the worker is woken for no
-- reason before it is woken by the notification.
def handOver : List (CallerEvent Nat ⊕ MethodEvent) :=
  List.replicate 5 (.inl .goesOn) ++ List.replicate 10 (.inr .goesOn) ++ List.replicate 3 (.inl .goesOn) ++
    [.inl (.execute 7), .inr .wakesSpuriously] ++ List.replicate 5 (.inl .goesOn)

theorem no_lost_wake_up_handed_over :
    ∃ final, Transition.run (Interleaving.step (workerThreads Nat)) (constructing .lockThreads) handOver = some final ∧
      final.second = .waitsTask ∧ final.shared.stored = true ∧ final.shared.owed = true ∧ NoLostWakeUp final :=
  ⟨_, rfl, rfl, rfl, rfl, no_lost_wake_up .lockThreads handOver _ rfl⟩

end NetworkWrapper
