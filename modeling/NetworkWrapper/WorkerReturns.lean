import NetworkWrapper.Progress
import NetworkWrapper.WakeUps

set_option autoImplicit false

-- Every call of WorkerThread returns, the destructor included: how many steps the
-- two threads still have before them, and where they stand when none is left.
namespace NetworkWrapper

variable {WorkCallback : Type}

open ThreadSynchronizer WorkerMembers

-- A thread that is told is woken once, so a notification costs the notifier what
-- the other one will do because of it.
def CallerPoint.rank (point : CallerPoint WorkCallback) (setup : ThreadSynchronizer) : Nat :=
  match point with
  | .constructs => 8
  | .launches => 2
  | .observes => 1
  | .locksSetup => 7
  | .launchesLocked => 6
  | .clearsSetup => 5
  | .testsSetup => if setup.isNotified then 2 else 4
  | .waitsSetup => if setup.isNotified || setup.waiting then 3 else 5
  | .unlocksSetup => 1
  | .testsRunning _ => 16
  | .locksTask _ => 15
  | .appliesLogic _ => 14
  | .setsNotified _ => 13
  | .notifiesOne _ => 5
  | .unlocksTask _ => 2
  | .joins _ => 1
  | .idle | .destroyed => 0

def MethodPoint.rank (point : MethodPoint) (task : ThreadSynchronizer) : Nat :=
  match point with
  | .locksTask => 12
  | .reports => 11
  | .locksSetup => 10
  | .setsRunning => 9
  | .setsNotified => 8
  | .notifiesOne => 7
  | .unlocksSetup => 4
  | .testsLoop => 3
  | .clearsTask => 2
  | .testsTask => if task.isNotified then 6 else 1
  | .waitsTask => if task.isNotified then 7 else if task.waiting then 0 else 2
  | .testsQuit => 5
  | .callsBack => 4
  | .unlocksTask => 1
  | .finished => 0

def workLeft (config : WorkerConfig WorkCallback) : Nat :=
  config.first.rank config.shared.setupSynchronizer + config.second.rank config.shared.taskSynchronizer

-- The sleeping rounds of the constructor are not counted.
def ownMove (config : WorkerConfig WorkCallback) : CallerEvent WorkCallback ⊕ MethodEvent → Nat
  | .inl .goesOn =>
      match config.first with
      | .observes => if config.shared.isRunning then 1 else 0
      | _ => 1
  | .inr .goesOn => 1
  | _ => 0

def workBrought : CallerEvent WorkCallback ⊕ MethodEvent → Nat
  | .inl (.execute _) | .inl .shutdown | .inl .destroy => 16
  | .inl .wakesSpuriously | .inr .wakesSpuriously => 2
  | _ => 0

theorem method_rank_same (point : MethodPoint) (earlier later : ThreadSynchronizer)
    (flag : later.isNotified = earlier.isNotified) (waiting : later.waiting = earlier.waiting) :
    point.rank later = point.rank earlier := by
  cases point <;> simp [MethodPoint.rank, flag, waiting]

theorem caller_rank_same (point : CallerPoint WorkCallback) (earlier later : ThreadSynchronizer)
    (flag : later.isNotified = earlier.isNotified) (waiting : later.waiting = earlier.waiting) :
    point.rank later = point.rank earlier := by
  cases point <;> simp [CallerPoint.rank, flag, waiting]

theorem method_rank_notified (point : MethodPoint) (task : ThreadSynchronizer) :
    point.rank task.setNotified ≤ point.rank task + 7 := by
  cases point with
  | testsTask | waitsTask =>
      simp only [MethodPoint.rank, setNotified, if_true]
      omega
  | _ => exact Nat.le_add_right _ 7

theorem method_rank_awake (point : MethodPoint) (task : ThreadSynchronizer) :
    point.rank task.notifyOne ≤ point.rank task + 2 := by
  cases point with
  | waitsTask =>
      simp only [MethodPoint.rank, notifyOne, Bool.false_eq_true, if_false]
      split <;> omega
  | _ => exact Nat.le_add_right _ 2

theorem caller_rank_notified (point : CallerPoint WorkCallback) (setup : ThreadSynchronizer) :
    point.rank setup.setNotified ≤ point.rank setup := by
  cases point with
  | testsSetup | waitsSetup =>
      simp only [CallerPoint.rank, setNotified, Bool.true_or, if_true]
      split <;> omega
  | _ => exact Nat.le_refl _

theorem caller_rank_awake (point : CallerPoint WorkCallback) (setup : ThreadSynchronizer) :
    point.rank setup.notifyOne ≤ point.rank setup + 2 := by
  cases point with
  | waitsSetup =>
      simp only [CallerPoint.rank, notifyOne, Bool.or_false]
      cases flag : setup.isNotified with
      | true => simp
      | false =>
          simp only [Bool.false_or, Bool.false_eq_true, if_false]
          split <;> omega
  | _ => exact Nat.le_add_right _ 2

theorem own_move_at_most (config : WorkerConfig WorkCallback) (event : CallerEvent WorkCallback ⊕ MethodEvent) :
    ownMove config event ≤ 1 := by
  cases event with
  | inl event =>
      cases event with
      | goesOn =>
          simp only [ownMove]
          split
          · split <;> simp
          · exact Nat.le_refl 1
      | _ => exact Nat.zero_le 1
  | inr event => cases event <;> simp [ownMove]

theorem caller_lowers (point there : CallerPoint WorkCallback) (method : MethodPoint)
    (worker later : WorkerMembers WorkCallback) (event : CallerEvent WorkCallback)
    (same : method.rank later.taskSynchronizer = method.rank worker.taskSynchronizer)
    (lower : there.rank later.setupSynchronizer < point.rank worker.setupSynchronizer) :
    ownMove ⟨point, method, worker⟩ (.inl event) + workLeft ⟨there, method, later⟩ ≤ workLeft ⟨point, method, worker⟩ := by
  have one := own_move_at_most ⟨point, method, worker⟩ (.inl event)
  simp only [workLeft, same]
  omega

theorem caller_pays_own (point : CallerPoint WorkCallback) (method : MethodPoint) (worker : WorkerMembers WorkCallback)
    (next : CallerPoint WorkCallback × WorkerMembers WorkCallback) (taken : point.goOn worker = some next) :
    ownMove ⟨point, method, worker⟩ (.inl .goesOn) + workLeft ⟨next.1, method, next.2⟩ ≤
      workLeft ⟨point, method, worker⟩ := by
  cases point with
  | constructs =>
      cases taken
      refine caller_lowers _ _ _ _ _ _ rfl ?_
      cases worker.lockingModel <;> simp [CallerPoint.setupBranch, CallerPoint.rank]
  | launches | launchesLocked | clearsSetup | unlocksSetup =>
      cases taken
      exact caller_lowers _ _ _ _ _ _ rfl (by simp [CallerPoint.rank, withSetup, clear])
  | observes =>
      simp only [CallerPoint.goOn] at taken
      split at taken <;> rename_i running <;> cases taken
      · simp [ownMove, workLeft, running]
      · exact caller_lowers _ _ _ _ _ _ rfl (by simp [CallerPoint.rank])
  | locksSetup =>
      obtain ⟨setup, locked, rfl⟩ := Option.map_eq_some_iff.mp taken
      exact caller_lowers _ _ _ _ _ _ rfl (by simp [CallerPoint.rank])
  | testsSetup =>
      simp only [CallerPoint.goOn] at taken
      split at taken <;> rename_i notified <;> cases taken
      · exact caller_lowers _ _ _ _ _ _ rfl (by simp [CallerPoint.rank, withSetup, wait, notified])
      · exact caller_lowers _ _ _ _ _ _ rfl (by simp [CallerPoint.rank, notified])
  | waitsSetup =>
      obtain ⟨setup, woken, rfl⟩ := Option.map_eq_some_iff.mp taken
      obtain ⟨awake, _, rfl⟩ := (wake_up_some _ _ _).mp woken
      refine caller_lowers _ _ _ _ _ _ rfl ?_
      simp only [CallerPoint.rank, withSetup, awake, Bool.or_false]
      split <;> simp
  | testsRunning destroying =>
      simp only [CallerPoint.goOn] at taken
      split at taken <;> cases taken
      · exact caller_lowers _ _ _ _ _ _ rfl (by simp [CallerPoint.rank])
      · exact caller_lowers _ _ _ _ _ _ rfl (by cases destroying <;> simp [CallerPoint.rank, CallerPoint.afterShutdown])
  | locksTask use =>
      obtain ⟨task, locked, rfl⟩ := Option.map_eq_some_iff.mp taken
      obtain ⟨_, rfl⟩ := (lock_some _ _ _).mp locked
      exact caller_lowers _ _ _ _ _ _ (method_rank_same _ _ _ rfl rfl) (by simp [CallerPoint.rank])
  | appliesLogic use =>
      cases taken
      exact caller_lowers _ _ _ _ _ _ (by cases use <;> rfl) (by simp [CallerPoint.rank])
  | setsNotified use =>
      cases taken
      have brought := method_rank_notified method worker.taskSynchronizer
      simp only [ownMove, workLeft, CallerPoint.rank, withTask]
      omega
  | notifiesOne use =>
      cases taken
      have brought := method_rank_awake method worker.taskSynchronizer
      simp only [ownMove, workLeft, CallerPoint.rank, withTask]
      omega
  | unlocksTask use =>
      cases use with
      | execute inWorkCallback =>
          cases taken
          exact caller_lowers _ _ _ _ _ _ (method_rank_same _ _ _ rfl rfl) (by simp [CallerPoint.rank])
      | shutdown destroying =>
          cases taken
          exact caller_lowers _ _ _ _ _ _ (method_rank_same _ _ _ rfl rfl) (by simp [CallerPoint.rank])
  | joins destroying =>
      have returns : (CallerPoint.afterShutdown destroying : CallerPoint WorkCallback).rank worker.setupSynchronizer <
          (CallerPoint.joins destroying : CallerPoint WorkCallback).rank worker.setupSynchronizer := by
        cases destroying <;> simp [CallerPoint.rank, CallerPoint.afterShutdown]
      simp only [CallerPoint.goOn] at taken
      split at taken
      · split at taken <;> cases taken
        exact caller_lowers _ _ _ _ _ _ rfl returns
      · cases taken
        exact caller_lowers _ _ _ _ _ _ rfl returns
  | idle | destroyed => cases taken

theorem caller_pays (point : CallerPoint WorkCallback) (method : MethodPoint) (worker : WorkerMembers WorkCallback)
    (event : CallerEvent WorkCallback) (next : CallerPoint WorkCallback × WorkerMembers WorkCallback)
    (taken : point.step worker event = some next) :
    ownMove ⟨point, method, worker⟩ (.inl event) + workLeft ⟨next.1, method, next.2⟩ ≤
      workLeft ⟨point, method, worker⟩ + workBrought (.inl event) := by
  cases event with
  | execute inWorkCallback =>
      cases point <;> cases taken
      simp [ownMove, workLeft, workBrought, CallerPoint.rank]
      omega
  | isAvailable =>
      cases point <;> cases taken
      simp [ownMove, workBrought]
  | shutdown | destroy =>
      cases point <;> cases taken
      simp [ownMove, workLeft, workBrought, CallerPoint.rank]
      omega
  | wakesSpuriously =>
      cases point with
      | waitsSetup =>
          obtain ⟨setup, woken, rfl⟩ := Option.map_eq_some_iff.mp taken
          obtain ⟨_, rfl⟩ := (wake_spuriously_some _ _).mp woken
          have awake := caller_rank_awake (.waitsSetup : CallerPoint WorkCallback) worker.setupSynchronizer
          simp only [ownMove, workLeft, workBrought, withSetup, notifyOne] at awake ⊢
          omega
      | _ => cases taken
  | goesOn => exact caller_pays_own point method worker next taken

theorem method_lowers (point : CallerPoint WorkCallback) (method there : MethodPoint)
    (worker later : WorkerMembers WorkCallback)
    (same : point.rank later.setupSynchronizer = point.rank worker.setupSynchronizer)
    (lower : there.rank later.taskSynchronizer < method.rank worker.taskSynchronizer) :
    1 + workLeft ⟨point, there, later⟩ ≤ workLeft ⟨point, method, worker⟩ := by
  simp only [workLeft, same]
  omega

theorem method_pays_own (point : CallerPoint WorkCallback) (method : MethodPoint) (worker : WorkerMembers WorkCallback)
    (next : MethodPoint × WorkerMembers WorkCallback) (taken : method.goOn worker = some next) :
    1 + workLeft ⟨point, next.1, next.2⟩ ≤ workLeft ⟨point, method, worker⟩ := by
  cases method with
  | locksTask =>
      obtain ⟨task, locked, rfl⟩ := Option.map_eq_some_iff.mp taken
      exact method_lowers _ _ _ _ _ rfl (by simp [MethodPoint.rank])
  | reports =>
      simp only [MethodPoint.goOn] at taken
      split at taken <;> cases taken <;> exact method_lowers _ _ _ _ _ rfl (by simp [MethodPoint.rank])
  | locksSetup =>
      obtain ⟨setup, locked, rfl⟩ := Option.map_eq_some_iff.mp taken
      obtain ⟨_, rfl⟩ := (lock_some _ _ _).mp locked
      exact method_lowers _ _ _ _ _ (caller_rank_same _ _ _ rfl rfl) (by simp [MethodPoint.rank])
  | setsRunning =>
      cases taken
      exact method_lowers _ _ _ _ _ rfl (by simp [MethodPoint.rank])
  | setsNotified =>
      cases taken
      have brought := caller_rank_notified point worker.setupSynchronizer
      simp only [workLeft, MethodPoint.rank, withSetup]
      omega
  | notifiesOne =>
      cases taken
      have brought := caller_rank_awake point worker.setupSynchronizer
      simp only [workLeft, MethodPoint.rank, withSetup]
      omega
  | unlocksSetup =>
      cases taken
      exact method_lowers _ _ _ _ _ (caller_rank_same _ _ _ rfl rfl) (by simp [MethodPoint.rank])
  | testsLoop =>
      simp only [MethodPoint.goOn] at taken
      split at taken <;> cases taken <;> exact method_lowers _ _ _ _ _ rfl (by simp [MethodPoint.rank])
  | clearsTask =>
      cases taken
      exact method_lowers _ _ _ _ _ rfl (by simp [MethodPoint.rank, withTask, clear])
  | testsTask =>
      simp only [MethodPoint.goOn] at taken
      split at taken <;> rename_i notified <;> cases taken
      · exact method_lowers _ _ _ _ _ rfl (by simp [MethodPoint.rank, withTask, wait, notified])
      · exact method_lowers _ _ _ _ _ rfl (by simp [MethodPoint.rank, notified])
  | waitsTask =>
      obtain ⟨task, woken, rfl⟩ := Option.map_eq_some_iff.mp taken
      obtain ⟨awake, _, rfl⟩ := (wake_up_some _ _ _).mp woken
      refine method_lowers _ _ _ _ _ rfl ?_
      simp only [MethodPoint.rank, withTask, awake]
      split <;> simp
  | testsQuit =>
      simp only [MethodPoint.goOn] at taken
      split at taken <;> cases taken <;> exact method_lowers _ _ _ _ _ rfl (by simp [MethodPoint.rank])
  | callsBack =>
      obtain ⟨callback, _, rfl⟩ := Option.map_eq_some_iff.mp taken
      exact method_lowers _ _ _ _ _ rfl (by simp [MethodPoint.rank])
  | unlocksTask =>
      cases taken
      exact method_lowers _ _ _ _ _ rfl (by simp [MethodPoint.rank])
  | finished => cases taken

theorem method_pays (point : CallerPoint WorkCallback) (method : MethodPoint) (worker : WorkerMembers WorkCallback)
    (event : MethodEvent) (next : MethodPoint × WorkerMembers WorkCallback)
    (taken : method.step worker event = some next) :
    ownMove ⟨point, method, worker⟩ (.inr event) + workLeft ⟨point, next.1, next.2⟩ ≤
      workLeft ⟨point, method, worker⟩ + workBrought (.inr event : CallerEvent WorkCallback ⊕ MethodEvent) := by
  obtain ⟨_, taken⟩ := Option.ite_none_right_eq_some.mp taken
  cases event with
  | goesOn => exact method_pays_own point method worker next taken
  | wakesSpuriously =>
      cases method with
      | waitsTask =>
          obtain ⟨task, woken, rfl⟩ := Option.map_eq_some_iff.mp taken
          obtain ⟨_, rfl⟩ := (wake_spuriously_some _ _).mp woken
          have awake := method_rank_awake .waitsTask worker.taskSynchronizer
          simp only [ownMove, workLeft, workBrought, withTask, notifyOne] at awake ⊢
          omega
      | _ => cases taken

theorem work_within (config final : WorkerConfig WorkCallback) (events : List (CallerEvent WorkCallback ⊕ MethodEvent))
    (reached : Transition.run (Interleaving.step (workerThreads WorkCallback)) config events = some final) :
    Transition.spent (Interleaving.step (workerThreads WorkCallback)) ownMove config events + workLeft final ≤
      workLeft config + (events.map workBrought).sum := by
  refine Transition.run_within _ ownMove workBrought workLeft (fun config event next taken => ?_) events config final
    reached
  cases event with
  | inl event =>
      obtain ⟨there, moved, rfl⟩ := Option.map_eq_some_iff.mp taken
      exact caller_pays config.first config.second config.shared event there moved
  | inr event =>
      obtain ⟨there, moved, rfl⟩ := Option.map_eq_some_iff.mp taken
      exact method_pays config.first config.second config.shared event there moved

theorem work_left_at_most (config : WorkerConfig WorkCallback) : workLeft config ≤ 28 := by
  have caller : config.first.rank config.shared.setupSynchronizer ≤ 16 := by
    cases config.first with
    | testsSetup | waitsSetup =>
        simp only [CallerPoint.rank]
        split <;> simp
    | _ => simp [CallerPoint.rank]
  have method : config.second.rank config.shared.taskSynchronizer ≤ 12 := by
    cases config.second with
    | testsTask =>
        simp only [MethodPoint.rank]
        split <;> simp
    | waitsTask =>
        simp only [MethodPoint.rank]
        split
        · simp
        · split <;> simp
    | _ => simp [MethodPoint.rank]
  simp only [workLeft]
  omega

def CallerPoint.stopping : CallerPoint WorkCallback → Bool
  | .setsNotified (.shutdown _) | .notifiesOne (.shutdown _) | .unlocksTask (.shutdown _) | .joins _ => true
  | _ => false

def CallerPoint.gone : CallerPoint WorkCallback → Bool
  | .destroyed => true
  | _ => false

structure Gathered (config : WorkerConfig WorkCallback) : Prop where
  joined : config.shared.thread.joined = true → config.shared.thread.ended = true
  stopped : config.shared.setupGiven = true → config.shared.isRunning = false →
    config.first.stopping = true ∨ config.shared.thread.joined = true
  gone : config.first.gone = true → config.shared.isRunning = false

theorem gathered_onward (point there : CallerPoint WorkCallback) (method : MethodPoint)
    (worker later : WorkerMembers WorkCallback) (gathered : Gathered ⟨point, method, worker⟩)
    (thread : later.thread = worker.thread) (given : later.setupGiven = worker.setupGiven)
    (running : later.isRunning = worker.isRunning) (stopping : point.stopping = true → there.stopping = true)
    (gone : there.gone = true → worker.isRunning = false) : Gathered ⟨there, method, later⟩ := by
  refine ⟨fun joined => ?_, fun told stopped => ?_, fun away => running.trans (gone away)⟩
  · rw [thread] at joined ⊢
    exact gathered.joined joined
  · rw [given] at told
    rw [running] at stopped
    rw [thread]
    exact (gathered.stopped told stopped).imp_left stopping

theorem caller_gathers (point : CallerPoint WorkCallback) (method : MethodPoint) (worker : WorkerMembers WorkCallback)
    (next : CallerPoint WorkCallback × WorkerMembers WorkCallback)
    (holds : (wakeUpOutline WorkCallback).Holds ⟨point, method, worker⟩) (gathered : Gathered ⟨point, method, worker⟩)
    (taken : point.goOn worker = some next) : Gathered ⟨next.1, method, next.2⟩ := by
  have knows := holds.first.knows
  cases point with
  | constructs =>
      cases taken
      obtain ⟨_, early, _⟩ := knows
      refine ⟨gathered.joined, fun told => absurd told (ne_true_of_eq_false early), fun away => ?_⟩
      cases chosen : worker.lockingModel <;> simp [chosen, CallerPoint.setupBranch, CallerPoint.gone] at away
  | launches | launchesLocked =>
      cases taken
      refine ⟨gathered.joined, fun told stopped => ?_, fun away => Bool.noConfusion away⟩
      exact (gathered.stopped told stopped).imp_left fun stopping => Bool.noConfusion stopping
  | clearsSetup | unlocksSetup =>
      cases taken
      exact gathered_onward _ _ method _ _ gathered rfl rfl rfl Bool.noConfusion Bool.noConfusion
  | observes =>
      simp only [CallerPoint.goOn] at taken
      split at taken <;> cases taken <;>
        exact gathered_onward _ _ method _ _ gathered rfl rfl rfl Bool.noConfusion Bool.noConfusion
  | testsSetup =>
      simp only [CallerPoint.goOn] at taken
      split at taken <;> cases taken <;>
        exact gathered_onward _ _ method _ _ gathered rfl rfl rfl Bool.noConfusion Bool.noConfusion
  | locksSetup | waitsSetup =>
      obtain ⟨setup, locked, rfl⟩ := Option.map_eq_some_iff.mp taken
      exact gathered_onward _ _ method _ _ gathered rfl rfl rfl Bool.noConfusion Bool.noConfusion
  | testsRunning destroying =>
      simp only [CallerPoint.goOn] at taken
      split at taken <;> rename_i running <;> cases taken
      · exact gathered_onward _ _ method _ _ gathered rfl rfl rfl Bool.noConfusion Bool.noConfusion
      · exact gathered_onward _ _ method _ _ gathered rfl rfl rfl Bool.noConfusion fun _ => by simpa using running
  | locksTask use =>
      obtain ⟨task, locked, rfl⟩ := Option.map_eq_some_iff.mp taken
      exact gathered_onward _ _ method _ _ gathered rfl rfl rfl Bool.noConfusion Bool.noConfusion
  | appliesLogic use =>
      cases use with
      | execute inWorkCallback =>
          cases taken
          exact gathered_onward _ _ method _ _ gathered rfl rfl rfl Bool.noConfusion Bool.noConfusion
      | shutdown destroying =>
          cases taken
          exact ⟨gathered.joined, fun _ _ => .inl rfl, fun away => Bool.noConfusion away⟩
  | setsNotified use | notifiesOne use =>
      cases taken
      refine gathered_onward _ _ method _ _ gathered rfl rfl rfl (fun stopping => ?_) Bool.noConfusion
      cases use with
      | execute inWorkCallback => cases stopping
      | shutdown destroying => rfl
  | unlocksTask use =>
      cases use with
      | execute inWorkCallback =>
          cases taken
          exact gathered_onward _ _ method _ _ gathered rfl rfl rfl Bool.noConfusion Bool.noConfusion
      | shutdown destroying =>
          cases taken
          exact gathered_onward _ _ method _ _ gathered rfl rfl rfl (fun _ => rfl) Bool.noConfusion
  | joins destroying =>
      obtain ⟨given, stopped⟩ := knows
      have started : worker.thread.started = true := by
        refine holds.second.started ?_
        rintro rfl
        exact absurd given (ne_true_of_eq_false holds.second.knows.1)
      simp only [CallerPoint.goOn] at taken
      split at taken <;> rename_i joinable
      · split at taken <;> rename_i ended <;> cases taken
        exact ⟨fun _ => ended, fun _ _ => .inr rfl, fun _ => stopped⟩
      · cases taken
        have joined : worker.thread.joined = true := by simpa [StdThread.joinable, started] using joinable
        exact ⟨gathered.joined, fun _ _ => .inr joined, fun _ => stopped⟩
  | idle | destroyed => cases taken

theorem caller_step_gathers (point : CallerPoint WorkCallback) (method : MethodPoint)
    (worker : WorkerMembers WorkCallback) (event : CallerEvent WorkCallback)
    (next : CallerPoint WorkCallback × WorkerMembers WorkCallback)
    (holds : (wakeUpOutline WorkCallback).Holds ⟨point, method, worker⟩) (gathered : Gathered ⟨point, method, worker⟩)
    (taken : point.step worker event = some next) : Gathered ⟨next.1, method, next.2⟩ := by
  cases event with
  | goesOn => exact caller_gathers point method worker next holds gathered taken
  | execute inWorkCallback =>
      cases point <;> cases taken
      exact gathered_onward _ _ method _ _ gathered rfl rfl rfl Bool.noConfusion Bool.noConfusion
  | isAvailable =>
      cases point <;> cases taken
      exact gathered
  | shutdown | destroy =>
      cases point <;> cases taken
      exact gathered_onward _ _ method _ _ gathered rfl rfl rfl Bool.noConfusion Bool.noConfusion
  | wakesSpuriously =>
      cases point with
      | waitsSetup =>
          obtain ⟨setup, woken, rfl⟩ := Option.map_eq_some_iff.mp taken
          exact gathered_onward _ _ method _ _ gathered rfl rfl rfl Bool.noConfusion Bool.noConfusion
      | _ => cases taken

theorem method_thread (method : MethodPoint) (worker : WorkerMembers WorkCallback) (event : MethodEvent)
    (next : MethodPoint × WorkerMembers WorkCallback) (taken : method.step worker event = some next) :
    next.2.thread.joined = worker.thread.joined ∧ (worker.thread.ended = true → next.2.thread.ended = true) := by
  obtain ⟨_, taken⟩ := Option.ite_none_right_eq_some.mp taken
  cases event with
  | goesOn =>
      cases method with
      | locksTask | locksSetup | waitsTask =>
          obtain ⟨locked, _, rfl⟩ := Option.map_eq_some_iff.mp taken
          exact ⟨rfl, id⟩
      | callsBack =>
          obtain ⟨callback, _, rfl⟩ := Option.map_eq_some_iff.mp taken
          exact ⟨rfl, id⟩
      | reports | testsLoop | testsTask | testsQuit =>
          simp only [MethodPoint.goOn] at taken
          split at taken <;> cases taken <;> exact ⟨rfl, id⟩
      | unlocksTask =>
          cases taken
          exact ⟨rfl, fun _ => rfl⟩
      | finished => cases taken
      | _ =>
          cases taken
          exact ⟨rfl, id⟩
  | wakesSpuriously =>
      cases method with
      | waitsTask =>
          obtain ⟨task, woken, rfl⟩ := Option.map_eq_some_iff.mp taken
          exact ⟨rfl, id⟩
      | _ => cases taken

theorem method_given (method : MethodPoint) (worker : WorkerMembers WorkCallback) (event : MethodEvent)
    (next : MethodPoint × WorkerMembers WorkCallback) (stands : MethodAt method worker)
    (taken : method.step worker event = some next) (early : worker.setupGiven = false)
    (given : next.2.setupGiven = true) : next.2.isRunning = true := by
  obtain ⟨_, taken⟩ := Option.ite_none_right_eq_some.mp taken
  have knows := stands.knows
  cases event with
  | goesOn =>
      cases method with
      | locksTask | locksSetup =>
          obtain ⟨locked, _, rfl⟩ := Option.map_eq_some_iff.mp taken
          exact absurd given (ne_true_of_eq_false early)
      | reports =>
          simp only [MethodPoint.goOn] at taken
          split at taken <;> cases taken
          · rfl
          · exact absurd given (ne_true_of_eq_false early)
      | setsRunning =>
          cases taken
          rfl
      | setsNotified =>
          cases taken
          exact absurd given (ne_true_of_eq_false early)
      | notifiesOne =>
          cases taken
          exact knows.2.2.1
      | _ => exact absurd knows.1 (ne_true_of_eq_false early)
  | wakesSpuriously =>
      cases method with
      | waitsTask => exact absurd knows.1 (ne_true_of_eq_false early)
      | _ => cases taken

theorem method_step_gathers (point : CallerPoint WorkCallback) (method : MethodPoint)
    (worker : WorkerMembers WorkCallback) (event : MethodEvent) (next : MethodPoint × WorkerMembers WorkCallback)
    (holds : (wakeUpOutline WorkCallback).Holds ⟨point, method, worker⟩) (gathered : Gathered ⟨point, method, worker⟩)
    (taken : method.step worker event = some next) : Gathered ⟨point, next.1, next.2⟩ := by
  obtain ⟨_, _, does⟩ := method_steps method worker event next holds.common holds.second taken
  obtain ⟨joined, ended⟩ := method_thread method worker event next taken
  refine ⟨fun already => ended (gathered.joined (joined ▸ already)), fun given stopped => ?_, fun away => ?_⟩
  · cases before : worker.setupGiven with
    | true =>
        rw [joined]
        exact gathered.stopped before ((does.running before).2 ▸ stopped)
    | false =>
        have running := method_given method worker event next holds.second taken before given
        exact absurd running (ne_true_of_eq_false stopped)
  · have given : worker.setupGiven = true := by
      cases point with
      | destroyed => exact holds.first.knows
      | _ => cases away
    exact (does.running given).2.trans (gathered.gone away)

theorem gathered_step (config next : WorkerConfig WorkCallback) (event : CallerEvent WorkCallback ⊕ MethodEvent)
    (holds : (wakeUpOutline WorkCallback).Holds config) (gathered : Gathered config)
    (taken : Interleaving.step (workerThreads WorkCallback) config event = some next) : Gathered next := by
  cases event with
  | inl event =>
      obtain ⟨there, moved, rfl⟩ := Option.map_eq_some_iff.mp taken
      exact caller_step_gathers config.first config.second config.shared event there holds gathered moved
  | inr event =>
      obtain ⟨there, moved, rfl⟩ := Option.map_eq_some_iff.mp taken
      exact method_step_gathers config.first config.second config.shared event there holds gathered moved

theorem worker_gathered (lockingModel : LockingModel) (events : List (CallerEvent WorkCallback ⊕ MethodEvent))
    (final : WorkerConfig WorkCallback)
    (reached : Transition.run (Interleaving.step (workerThreads WorkCallback)) (constructing lockingModel) events =
      some final) : (wakeUpOutline WorkCallback).Holds final ∧ Gathered final := by
  refine Transition.run_keeps _ (fun config => (wakeUpOutline WorkCallback).Holds config ∧ Gathered config)
    (fun config event next sofar taken => ⟨(wakeUpOutline WorkCallback).step_holds config event next sofar.1 taken,
      gathered_step config next event sofar.1 sofar.2 taken⟩) events (constructing lockingModel) final
    ⟨constructing_holds lockingModel, ?_⟩ reached
  exact ⟨fun joined => Bool.noConfusion joined, fun given => Bool.noConfusion given, fun away => Bool.noConfusion away⟩

-- No call is under way, and unless the worker was told to stop, nothing that was
-- handed over waits to be run. A shutdown() may drop the last task.
structure AllReturned (config : WorkerConfig WorkCallback) : Prop where
  returned : config.first = .idle ∨ config.first = .destroyed
  performed : config.shared.isRunning = true → config.shared.stored = false ∧ config.shared.owed = false

theorem unmoved_at_rest (config : WorkerConfig WorkCallback) (holds : (wakeUpOutline WorkCallback).Holds config)
    (unmoved : ¬ Moves config) : AllReturned config := by
  have nothing : ¬ Pending config := fun pending => unmoved (pending_moves config holds pending)
  simp only [Pending, not_or, not_and] at nothing
  obtain ⟨outside, served⟩ := nothing
  refine ⟨?_, fun running => ?_⟩
  · obtain ⟨point, method, worker⟩ := config
    cases point with
    | idle => exact .inl rfl
    | destroyed => exact .inr rfl
    | _ => exact absurd rfl outside
  · constructor
    · by_contra stored
      exact served (.inl (by simpa using stored)) running
    · by_contra owed
      exact served (.inr (by simpa using owed)) running

-- std::thread must not be destroyed before it was joined.
structure DestroyedClean (config : WorkerConfig WorkCallback) : Prop where
  finished : config.second = .finished
  joined : config.shared.thread.joinable = false

theorem destroyed_clean (config : WorkerConfig WorkCallback) (holds : (wakeUpOutline WorkCallback).Holds config)
    (gathered : Gathered config) (destroyed : config.first = .destroyed) : DestroyedClean config := by
  obtain ⟨point, method, worker⟩ := config
  cases destroyed
  have joined : worker.thread.joined = true :=
    (gathered.stopped holds.first.knows (gathered.gone rfl)).resolve_left Bool.false_ne_true
  exact ⟨holds.second.ended.mp (gathered.joined joined), by simp [StdThread.joinable, joined]⟩

theorem worker_calls_return (lockingModel : LockingModel) (before after : List (CallerEvent WorkCallback ⊕ MethodEvent))
    (middle final : WorkerConfig WorkCallback)
    (reached : Transition.run (Interleaving.step (workerThreads WorkCallback)) (constructing lockingModel) before =
      some middle)
    (onward : Transition.run (Interleaving.step (workerThreads WorkCallback)) middle after = some final) :
    Transition.spent (Interleaving.step (workerThreads WorkCallback)) ownMove middle after ≤
        28 + (after.map workBrought).sum ∧
      (¬ Moves final → AllReturned final) ∧ (final.first = .destroyed → DestroyedClean final) := by
  have whole := (Transition.run_append _ _ _ _ _).mpr ⟨middle, reached, onward⟩
  obtain ⟨holds, gathered⟩ := worker_gathered lockingModel (before ++ after) final whole
  refine ⟨?_, unmoved_at_rest final holds, destroyed_clean final holds gathered⟩
  have within := work_within middle final after onward
  have most := work_left_at_most middle
  omega

def runAndDestroy : List (CallerEvent Nat ⊕ MethodEvent) :=
  List.replicate 7 (.inr .goesOn) ++ [.inl .destroy] ++ List.replicate 6 (.inl .goesOn) ++
    List.replicate 4 (.inr .goesOn) ++ [.inl .goesOn]

theorem worker_calls_return_destroyed :
    ∃ middle final,
      Transition.run (Interleaving.step (workerThreads Nat)) (constructing .lockThreads) handOver = some middle ∧
      Transition.run (Interleaving.step (workerThreads Nat)) middle runAndDestroy = some final ∧
      final.first = .destroyed ∧
      Transition.spent (Interleaving.step (workerThreads Nat)) ownMove middle runAndDestroy ≤
        28 + (runAndDestroy.map workBrought).sum ∧ DestroyedClean final := by
  obtain ⟨within, _, clean⟩ := worker_calls_return .lockThreads handOver runAndDestroy _ _ rfl rfl
  exact ⟨_, _, rfl, rfl, rfl, within, clean rfl⟩

end NetworkWrapper
