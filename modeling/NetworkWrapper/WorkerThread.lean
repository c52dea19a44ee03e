set_option autoImplicit false

namespace NetworkWrapper

-- Where the worker's loop stands. It holds the task mutex everywhere except in
-- its wait and after its end.
inductive WorkerPoint where
  | beforeWait
  | waiting
  | working
  | finished
deriving DecidableEq, Repr

structure WorkerThread (WorkCallback : Type) where
  isRunning : Bool
  isNotified : Bool
  workCallback : Option WorkCallback
  point : WorkerPoint
deriving DecidableEq, Repr

namespace WorkerThread

variable {WorkCallback : Type}

-- As the constructor leaves it, once the thread has reported that it runs.
def started : WorkerThread WorkCallback :=
  { isRunning := true, isNotified := false, workCallback := none, point := .beforeWait }

def holdsTaskMutex (worker : WorkerThread WorkCallback) : Bool :=
  worker.point = .beforeWait || worker.point = .working

def isAvailable (worker : WorkerThread WorkCallback) : Bool := !worker.isNotified

-- none while the caller has to wait for the mutex.
def execute (worker : WorkerThread WorkCallback) (inWorkCallback : WorkCallback) : Option (WorkerThread WorkCallback) :=
  if worker.holdsTaskMutex then none
  else some { worker with workCallback := some inWorkCallback, isNotified := true }

def waitUntilNotified (worker : WorkerThread WorkCallback) : Option (WorkerThread WorkCallback) :=
  if worker.point = .beforeWait then some { worker with isNotified := false, point := .waiting } else none

-- Also a spurious one: the loop goes back to its wait unless it was notified.
def wakeUp (worker : WorkerThread WorkCallback) : Option (WorkerThread WorkCallback) :=
  if worker.point = .waiting then
    if worker.isNotified = false then some worker
    else if worker.isRunning then some { worker with point := .working }
    else some { worker with point := .finished }
  else none

def finishWork (worker : WorkerThread WorkCallback) : WorkerThread WorkCallback :=
  { worker with point := if worker.isRunning then .beforeWait else .finished }

end WorkerThread

end NetworkWrapper
