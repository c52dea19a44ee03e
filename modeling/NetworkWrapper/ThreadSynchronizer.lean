import NetworkWrapper.Interleaving

set_option autoImplicit false

-- WorkerThread step by step, from its constructor on: every place where one of
-- the two threads can be interrupted is a point of its own.
namespace NetworkWrapper

inductive Party where
  | caller
  | worker
deriving DecidableEq, Repr

-- Each of the two synchronizers has only one thread that ever waits on it, so one
-- bit says whether somebody is blocked on _condVar.
structure ThreadSynchronizer where
  mutex : Option Party
  waiting : Bool
  isNotified : Bool
deriving DecidableEq, Repr

namespace ThreadSynchronizer

def create : ThreadSynchronizer := { mutex := none, waiting := false, isNotified := false }

-- none while the thread has to wait for the mutex.
def lock (synchronizer : ThreadSynchronizer) (party : Party) : Option ThreadSynchronizer :=
  if synchronizer.mutex = none then some { synchronizer with mutex := some party } else none

def unlock (synchronizer : ThreadSynchronizer) : ThreadSynchronizer := { synchronizer with mutex := none }

-- waitUntilNotified begins by clearing the flag. _condVar.wait() then releases the
-- mutex, and takes it again once the thread is awake.
def clear (synchronizer : ThreadSynchronizer) : ThreadSynchronizer := { synchronizer with isNotified := false }

def wait (synchronizer : ThreadSynchronizer) : ThreadSynchronizer :=
  { synchronizer with mutex := none, waiting := true }

def wakeUp (synchronizer : ThreadSynchronizer) (party : Party) : Option ThreadSynchronizer :=
  if synchronizer.waiting then none else synchronizer.lock party

def wakeSpuriously (synchronizer : ThreadSynchronizer) : Option ThreadSynchronizer :=
  if synchronizer.waiting then some { synchronizer with waiting := false } else none

-- The two lines of notify().
def setNotified (synchronizer : ThreadSynchronizer) : ThreadSynchronizer := { synchronizer with isNotified := true }

def notifyOne (synchronizer : ThreadSynchronizer) : ThreadSynchronizer := { synchronizer with waiting := false }

theorem lock_some (synchronizer next : ThreadSynchronizer) (party : Party) :
    synchronizer.lock party = some next ↔
      synchronizer.mutex = none ∧ next = { synchronizer with mutex := some party } := by
  simp only [lock, Option.ite_none_right_eq_some, Option.some.injEq, @eq_comm _ next]

theorem wake_up_some (synchronizer next : ThreadSynchronizer) (party : Party) :
    synchronizer.wakeUp party = some next ↔ synchronizer.waiting = false ∧ synchronizer.mutex = none ∧
      next = { synchronizer with mutex := some party } := by
  simp only [wakeUp, Option.ite_none_left_eq_some, lock_some, Bool.not_eq_true]

theorem wake_spuriously_some (synchronizer next : ThreadSynchronizer) :
    synchronizer.wakeSpuriously = some next ↔
      synchronizer.waiting = true ∧ next = { synchronizer with waiting := false } := by
  simp only [wakeSpuriously, Option.ite_none_right_eq_some, Option.some.injEq, @eq_comm _ next]

end ThreadSynchronizer

inductive LockingModel where
  | lockThreads
  | avoidLocking
deriving DecidableEq, Repr

-- std::thread: ended is what join() waits for.
structure StdThread where
  started : Bool
  ended : Bool
  joined : Bool
deriving DecidableEq, Repr

def StdThread.joinable (thread : StdThread) : Bool := thread.started && !thread.joined

-- The last four are no members of the class. They record whether the set-up
-- notification has been given, whether a task was stored since the worker's wait
-- began, whether the last task has been run since it was stored, and whether an
-- execute() has ended whose task is still to be run and waited after.
structure WorkerMembers (WorkCallback : Type) where
  thread : StdThread
  setupSynchronizer : ThreadSynchronizer
  taskSynchronizer : ThreadSynchronizer
  isRunning : Bool
  lockingModel : LockingModel
  workCallback : Option WorkCallback
  setupGiven : Bool
  stored : Bool
  performed : Bool
  owed : Bool
deriving DecidableEq, Repr

-- What the scoped notifier of the task synchronizer is used for.
inductive TaskUse (WorkCallback : Type) where
  | execute (inWorkCallback : WorkCallback)
  | shutdown (destroying : Bool)
deriving DecidableEq, Repr

inductive CallerPoint (WorkCallback : Type) where
  | constructs
  | launches
  | observes
  | locksSetup
  | launchesLocked
  | clearsSetup
  | testsSetup
  | waitsSetup
  | unlocksSetup
  | idle
  | testsRunning (destroying : Bool)
  | locksTask (use : TaskUse WorkCallback)
  | appliesLogic (use : TaskUse WorkCallback)
  | setsNotified (use : TaskUse WorkCallback)
  | notifiesOne (use : TaskUse WorkCallback)
  | unlocksTask (use : TaskUse WorkCallback)
  | joins (destroying : Bool)
  | destroyed
deriving DecidableEq, Repr

inductive CallerEvent (WorkCallback : Type) where
  | execute (inWorkCallback : WorkCallback)
  | isAvailable
  | shutdown
  | destroy
  | goesOn
  | wakesSpuriously
deriving DecidableEq, Repr

-- Where _threadedMethod stands.
inductive MethodPoint where
  | locksTask
  | reports
  | locksSetup
  | setsRunning
  | setsNotified
  | notifiesOne
  | unlocksSetup
  | testsLoop
  | clearsTask
  | testsTask
  | waitsTask
  | testsQuit
  | callsBack
  | unlocksTask
  | finished
deriving DecidableEq, Repr

inductive MethodEvent where
  | goesOn
  | wakesSpuriously
deriving DecidableEq, Repr

variable {WorkCallback : Type}

namespace WorkerMembers

def create (lockingModel : LockingModel) : WorkerMembers WorkCallback :=
  { thread := { started := false, ended := false, joined := false }, setupSynchronizer := .create
    taskSynchronizer := .create, isRunning := false, lockingModel := lockingModel, workCallback := none
    setupGiven := false, stored := false, performed := false, owed := false }

def isAvailable (worker : WorkerMembers WorkCallback) : Bool := !worker.taskSynchronizer.isNotified

def withSetup (worker : WorkerMembers WorkCallback) (setup : ThreadSynchronizer) : WorkerMembers WorkCallback :=
  { worker with setupSynchronizer := setup }

def withTask (worker : WorkerMembers WorkCallback) (task : ThreadSynchronizer) : WorkerMembers WorkCallback :=
  { worker with taskSynchronizer := task }

def launch (worker : WorkerMembers WorkCallback) : WorkerMembers WorkCallback :=
  { worker with thread := { worker.thread with started := true } }

-- What execute() and shutdown() do under the lock.
def apply (worker : WorkerMembers WorkCallback) : TaskUse WorkCallback → WorkerMembers WorkCallback
  | .execute inWorkCallback => { worker with workCallback := some inWorkCallback, stored := true, performed := false }
  | .shutdown _ => { worker with isRunning := false }

end WorkerMembers

namespace CallerPoint

def afterShutdown (destroying : Bool) : CallerPoint WorkCallback := if destroying then .destroyed else .idle

-- The two ways in which the constructor waits for its thread.
def setupBranch : LockingModel → CallerPoint WorkCallback
  | .avoidLocking => .launches
  | .lockThreads => .locksSetup

-- Up to unlocksSetup a point is a place in the constructor, later ones are places
-- in the methods the caller has called.
def goOn (point : CallerPoint WorkCallback) (worker : WorkerMembers WorkCallback) :
    Option (CallerPoint WorkCallback × WorkerMembers WorkCallback) :=
  match point with
  | .constructs => some (setupBranch worker.lockingModel, { worker with isRunning := false })
  | .launches => some (.observes, worker.launch)
  | .observes => if worker.isRunning = false then some (.observes, worker) else some (.idle, worker)
  | .locksSetup => (worker.setupSynchronizer.lock .caller).map fun setup => (.launchesLocked, worker.withSetup setup)
  | .launchesLocked => some (.clearsSetup, worker.launch)
  | .clearsSetup => some (.testsSetup, worker.withSetup worker.setupSynchronizer.clear)
  | .testsSetup =>
      if worker.setupSynchronizer.isNotified = false then
        some (.waitsSetup, worker.withSetup worker.setupSynchronizer.wait)
      else some (.unlocksSetup, worker)
  | .waitsSetup => (worker.setupSynchronizer.wakeUp .caller).map fun setup => (.testsSetup, worker.withSetup setup)
  | .unlocksSetup => some (.idle, worker.withSetup worker.setupSynchronizer.unlock)
  | .idle => none
  | .testsRunning destroying =>
      if worker.isRunning then some (.locksTask (.shutdown destroying), worker)
      else some (afterShutdown destroying, worker)
  | .locksTask use => (worker.taskSynchronizer.lock .caller).map fun task => (.appliesLogic use, worker.withTask task)
  | .appliesLogic use => some (.setsNotified use, worker.apply use)
  | .setsNotified use => some (.notifiesOne use, worker.withTask worker.taskSynchronizer.setNotified)
  | .notifiesOne use => some (.unlocksTask use, worker.withTask worker.taskSynchronizer.notifyOne)
  | .unlocksTask (.execute _) => some (.idle, { worker.withTask worker.taskSynchronizer.unlock with owed := true })
  | .unlocksTask (.shutdown destroying) =>
      some (.joins destroying, worker.withTask worker.taskSynchronizer.unlock)
  | .joins destroying =>
      if worker.thread.joinable then
        if worker.thread.ended then
          some (afterShutdown destroying, { worker with thread := { worker.thread with joined := true } })
        else none
      else some (afterShutdown destroying, worker)
  | .destroyed => none

def step (point : CallerPoint WorkCallback) (worker : WorkerMembers WorkCallback) :
    CallerEvent WorkCallback → Option (CallerPoint WorkCallback × WorkerMembers WorkCallback)
  | .goesOn => point.goOn worker
  | .execute inWorkCallback =>
      match point with
      | .idle => some (.locksTask (.execute inWorkCallback), worker)
      | _ => none
  | .isAvailable =>
      match point with
      | .idle => some (.idle, worker)
      | _ => none
  | .shutdown =>
      match point with
      | .idle => some (.testsRunning false, worker)
      | _ => none
  | .destroy =>
      match point with
      | .idle => some (.testsRunning true, worker)
      | _ => none
  | .wakesSpuriously =>
      match point with
      | .waitsSetup => worker.setupSynchronizer.wakeSpuriously.map fun setup => (.waitsSetup, worker.withSetup setup)
      | _ => none

end CallerPoint

namespace MethodPoint

-- An empty std::function that is called ends the program, the last point but one
-- is the end of the scope of taskLock.
def goOn (point : MethodPoint) (worker : WorkerMembers WorkCallback) :
    Option (MethodPoint × WorkerMembers WorkCallback) :=
  match point with
  | .locksTask => (worker.taskSynchronizer.lock .worker).map fun task => (.reports, worker.withTask task)
  | .reports =>
      match worker.lockingModel with
      | .avoidLocking => some (.testsLoop, { worker with isRunning := true, setupGiven := true })
      | .lockThreads => some (.locksSetup, worker)
  | .locksSetup => (worker.setupSynchronizer.lock .worker).map fun setup => (.setsRunning, worker.withSetup setup)
  | .setsRunning => some (.setsNotified, { worker with isRunning := true })
  | .setsNotified => some (.notifiesOne, worker.withSetup worker.setupSynchronizer.setNotified)
  | .notifiesOne =>
      some (.unlocksSetup, { worker.withSetup worker.setupSynchronizer.notifyOne with setupGiven := true })
  | .unlocksSetup => some (.testsLoop, worker.withSetup worker.setupSynchronizer.unlock)
  | .testsLoop => if worker.isRunning then some (.clearsTask, worker) else some (.unlocksTask, worker)
  | .clearsTask =>
      some (.testsTask, { worker.withTask worker.taskSynchronizer.clear with
        stored := false, owed := worker.owed && !worker.performed })
  | .testsTask =>
      if worker.taskSynchronizer.isNotified = false then
        some (.waitsTask, worker.withTask worker.taskSynchronizer.wait)
      else some (.testsQuit, worker)
  | .waitsTask => (worker.taskSynchronizer.wakeUp .worker).map fun task => (.testsTask, worker.withTask task)
  | .testsQuit => if worker.isRunning = false then some (.unlocksTask, worker) else some (.callsBack, worker)
  | .callsBack => worker.workCallback.map fun _ => (.testsLoop, { worker with performed := true })
  | .unlocksTask =>
      some (.finished, { worker.withTask worker.taskSynchronizer.unlock with
        thread := { worker.thread with ended := true } })
  | .finished => none

def step (point : MethodPoint) (worker : WorkerMembers WorkCallback) (event : MethodEvent) :
    Option (MethodPoint × WorkerMembers WorkCallback) :=
  if worker.thread.started then
    match event with
    | .goesOn => point.goOn worker
    | .wakesSpuriously =>
        match point with
        | .waitsTask => worker.taskSynchronizer.wakeSpuriously.map fun task => (.waitsTask, worker.withTask task)
        | _ => none
  else none

end MethodPoint

end NetworkWrapper
