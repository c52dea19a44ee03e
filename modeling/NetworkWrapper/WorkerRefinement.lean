import NetworkWrapper.WorkerOutline
import NetworkWrapper.WorkerRuns

set_option autoImplicit false

-- WorkerThread as its loop sees it against the two threads step by step: as long as
-- nobody tells the worker to stop, the one follows the other.
namespace NetworkWrapper

variable {WorkCallback : Type}

open ThreadSynchronizer WorkerMembers

def MethodPoint.seen : MethodPoint → WorkerPoint
  | .testsTask | .waitsTask | .testsQuit => .waiting
  | .callsBack => .working
  | .unlocksTask | .finished => .finished
  | _ => .beforeWait

-- A task counts as handed over from the moment it is in the slot, before the flag
-- is set: the caller holds the mutex in between.
def CallerPoint.handsOver : CallerPoint WorkCallback → Bool
  | .setsNotified _ => true
  | _ => false

def seen (config : WorkerConfig WorkCallback) : WorkerThread WorkCallback :=
  { isRunning := true, isNotified := config.shared.taskSynchronizer.isNotified || config.first.handsOver
    workCallback := config.shared.workCallback, point := config.second.seen }

def CallerPoint.ongoing : CallerPoint WorkCallback → Bool
  | .testsRunning _ | .locksTask (.shutdown _) | .appliesLogic (.shutdown _) | .setsNotified (.shutdown _)
  | .notifiesOne (.shutdown _) | .unlocksTask (.shutdown _) | .joins _ | .destroyed => false
  | _ => true

-- Neither shutdown() nor the destructor.
def KeepsRunning : CallerEvent WorkCallback ⊕ MethodEvent → Prop
  | .inl .shutdown | .inl .destroy => False
  | _ => True

structure Ongoing (config : WorkerConfig WorkCallback) : Prop where
  caller : config.first.ongoing = true
  running : config.shared.setupGiven = true → config.shared.isRunning = true

-- One step of the worker and its user, or none.
inductive Follows (worker : WorkerThread WorkCallback) : WorkerThread WorkCallback → Prop where
  | stays : Follows worker worker
  | executes (inWorkCallback : WorkCallback) (next : WorkerThread WorkCallback)
      (handed : worker.execute inWorkCallback = some next) : Follows worker next
  | waits (next : WorkerThread WorkCallback) (begun : worker.waitUntilNotified = some next) : Follows worker next
  | wakes (next : WorkerThread WorkCallback) (woken : worker.wakeUp = some next) : Follows worker next
  | finishes (working : worker.point = .working) : Follows worker worker.finishWork

theorem caller_locked_seen (point : CallerPoint WorkCallback) (method : MethodPoint)
    (worker : WorkerMembers WorkCallback) (holds : (wakeUpOutline WorkCallback).Holds ⟨point, method, worker⟩)
    (mine : worker.taskSynchronizer.mutex = some .caller) (given : worker.setupGiven = true) :
    (seen ⟨point, method, worker⟩).holdsTaskMutex = false := by
  have stands := holds.second
  have outside : method.holdsTask = false := by
    simpa [mine] using stands.task
  cases method with
  | locksTask => exact absurd given (ne_true_of_eq_false stands.knows.1)
  | waitsTask | finished => rfl
  | _ => cases outside

theorem caller_goes_on_seen (point : CallerPoint WorkCallback) (method : MethodPoint)
    (worker : WorkerMembers WorkCallback) (next : CallerPoint WorkCallback × WorkerMembers WorkCallback)
    (holds : (wakeUpOutline WorkCallback).Holds ⟨point, method, worker⟩) (ongoing : Ongoing ⟨point, method, worker⟩)
    (taken : point.goOn worker = some next) :
    Ongoing ⟨next.1, method, next.2⟩ ∧ Follows (seen ⟨point, method, worker⟩) (seen ⟨next.1, method, next.2⟩) := by
  have knows := holds.first.knows
  cases point with
  | constructs =>
      have given : ¬ worker.setupGiven = true := ne_true_of_eq_false knows.2.1
      cases taken
      cases chosen : worker.lockingModel with
      | lockThreads => exact ⟨⟨rfl, fun now => absurd now given⟩, .stays⟩
      | avoidLocking => exact ⟨⟨rfl, fun now => absurd now given⟩, .stays⟩
  | launches | launchesLocked | clearsSetup | unlocksSetup =>
      cases taken
      exact ⟨⟨rfl, ongoing.running⟩, .stays⟩
  | observes =>
      simp only [CallerPoint.goOn] at taken
      split at taken <;> cases taken <;> exact ⟨⟨rfl, ongoing.running⟩, .stays⟩
  | testsSetup =>
      simp only [CallerPoint.goOn] at taken
      split at taken <;> cases taken <;> exact ⟨⟨rfl, ongoing.running⟩, .stays⟩
  | locksSetup | waitsSetup =>
      obtain ⟨setup, locked, rfl⟩ := Option.map_eq_some_iff.mp taken
      exact ⟨⟨rfl, ongoing.running⟩, .stays⟩
  | locksTask use =>
      obtain ⟨task, locked, rfl⟩ := Option.map_eq_some_iff.mp taken
      obtain ⟨free, rfl⟩ := (lock_some _ _ _).mp locked
      cases use with
      | execute inWorkCallback => exact ⟨⟨rfl, ongoing.running⟩, .stays⟩
      | shutdown destroying => cases ongoing.caller
  | appliesLogic use =>
      cases use with
      | execute inWorkCallback =>
          have free := caller_locked_seen _ method worker holds (holds.first.task.mpr rfl) knows
          cases taken
          refine ⟨⟨rfl, ongoing.running⟩, .executes inWorkCallback _ ?_⟩
          rw [WorkerThread.execute, if_neg (by simp [free])]
          simp [seen, apply, CallerPoint.handsOver]
      | shutdown destroying => cases ongoing.caller
  | setsNotified use =>
      cases taken
      cases use with
      | execute inWorkCallback =>
          refine ⟨⟨rfl, ongoing.running⟩, ?_⟩
          have same : seen ⟨.setsNotified (.execute inWorkCallback), method, worker⟩ =
              seen ⟨.notifiesOne (.execute inWorkCallback), method, worker.withTask worker.taskSynchronizer.setNotified⟩ := by
            simp [seen, withTask, setNotified, CallerPoint.handsOver]
          rw [same]
          exact .stays
      | shutdown destroying => cases ongoing.caller
  | notifiesOne use =>
      cases taken
      cases use with
      | execute inWorkCallback => exact ⟨⟨rfl, ongoing.running⟩, .stays⟩
      | shutdown destroying => cases ongoing.caller
  | unlocksTask use =>
      cases use with
      | execute inWorkCallback =>
          cases taken
          exact ⟨⟨rfl, ongoing.running⟩, .stays⟩
      | shutdown destroying => cases ongoing.caller
  | testsRunning destroying | joins destroying => cases ongoing.caller
  | idle | destroyed => cases taken

theorem caller_seen (point : CallerPoint WorkCallback) (method : MethodPoint) (worker : WorkerMembers WorkCallback)
    (event : CallerEvent WorkCallback) (next : CallerPoint WorkCallback × WorkerMembers WorkCallback)
    (holds : (wakeUpOutline WorkCallback).Holds ⟨point, method, worker⟩) (ongoing : Ongoing ⟨point, method, worker⟩)
    (keeps : KeepsRunning (.inl event)) (taken : point.step worker event = some next) :
    Ongoing ⟨next.1, method, next.2⟩ ∧ Follows (seen ⟨point, method, worker⟩) (seen ⟨next.1, method, next.2⟩) := by
  cases event with
  | goesOn => exact caller_goes_on_seen point method worker next holds ongoing taken
  | execute inWorkCallback =>
      cases point <;> cases taken
      exact ⟨⟨rfl, ongoing.running⟩, .stays⟩
  | isAvailable =>
      cases point <;> cases taken
      exact ⟨⟨rfl, ongoing.running⟩, .stays⟩
  | shutdown | destroy => exact keeps.elim
  | wakesSpuriously =>
      cases point with
      | waitsSetup =>
          obtain ⟨setup, woken, rfl⟩ := Option.map_eq_some_iff.mp taken
          exact ⟨⟨rfl, ongoing.running⟩, .stays⟩
      | _ => cases taken

theorem hands_over_locked (point : CallerPoint WorkCallback) (hands : point.handsOver = true) :
    point.holdsTask = true := by
  cases point with
  | setsNotified use => rfl
  | _ => cases hands

theorem method_goes_on_seen (point : CallerPoint WorkCallback) (method : MethodPoint)
    (worker : WorkerMembers WorkCallback) (next : MethodPoint × WorkerMembers WorkCallback)
    (holds : (wakeUpOutline WorkCallback).Holds ⟨point, method, worker⟩) (ongoing : Ongoing ⟨point, method, worker⟩)
    (taken : method.goOn worker = some next) :
    Ongoing ⟨point, next.1, next.2⟩ ∧ Follows (seen ⟨point, method, worker⟩) (seen ⟨point, next.1, next.2⟩) := by
  have knows := holds.second.knows
  have caller := ongoing.caller
  cases method with
  | locksTask =>
      obtain ⟨task, locked, rfl⟩ := Option.map_eq_some_iff.mp taken
      obtain ⟨_, rfl⟩ := (lock_some _ _ _).mp locked
      exact ⟨⟨caller, ongoing.running⟩, .stays⟩
  | reports =>
      simp only [MethodPoint.goOn] at taken
      split at taken
      · cases taken
        exact ⟨⟨caller, fun _ => rfl⟩, .stays⟩
      · cases taken
        exact ⟨⟨caller, ongoing.running⟩, .stays⟩
  | locksSetup =>
      obtain ⟨setup, locked, rfl⟩ := Option.map_eq_some_iff.mp taken
      exact ⟨⟨caller, ongoing.running⟩, .stays⟩
  | setsRunning =>
      cases taken
      exact ⟨⟨caller, fun _ => rfl⟩, .stays⟩
  | setsNotified | unlocksSetup =>
      cases taken
      exact ⟨⟨caller, ongoing.running⟩, .stays⟩
  | notifiesOne =>
      cases taken
      exact ⟨⟨caller, fun _ => knows.2.2.1⟩, .stays⟩
  | testsLoop =>
      obtain ⟨_, running, _⟩ := knows
      cases (if_pos running).symm.trans taken
      exact ⟨⟨caller, ongoing.running⟩, .stays⟩
  | clearsTask =>
      have idle : point.handsOver = false := by
        by_contra hands
        have mine : worker.taskSynchronizer.mutex = some .worker := holds.second.task.mpr rfl
        have theirs := mine.symm.trans (holds.first.task.mpr (hands_over_locked point (by simpa using hands)))
        cases theirs
      cases taken
      refine ⟨⟨caller, ongoing.running⟩, .waits _ ?_⟩
      simp [WorkerThread.waitUntilNotified, seen, withTask, clear, idle, MethodPoint.seen]
  | testsTask =>
      simp only [MethodPoint.goOn] at taken
      split at taken <;> cases taken <;> exact ⟨⟨caller, ongoing.running⟩, .stays⟩
  | waitsTask =>
      obtain ⟨task, locked, rfl⟩ := Option.map_eq_some_iff.mp taken
      obtain ⟨_, _, rfl⟩ := (wake_up_some _ _ _).mp locked
      exact ⟨⟨caller, ongoing.running⟩, .stays⟩
  | testsQuit =>
      obtain ⟨given, flag⟩ := knows
      have running : ¬ worker.isRunning = false := ne_false_of_eq_true (ongoing.running given)
      cases (if_neg running).symm.trans taken
      refine ⟨⟨caller, ongoing.running⟩, .wakes _ ?_⟩
      have notified : worker.taskSynchronizer.isNotified = true := flag
      simp [WorkerThread.wakeUp, seen, MethodPoint.seen, notified]
  | callsBack =>
      obtain ⟨callback, _, rfl⟩ := Option.map_eq_some_iff.mp taken
      exact ⟨⟨caller, ongoing.running⟩, .finishes rfl⟩
  | unlocksTask =>
      obtain ⟨given, stopped⟩ := knows
      exact absurd (ongoing.running given) (ne_true_of_eq_false stopped)
  | finished => cases taken

theorem method_seen (point : CallerPoint WorkCallback) (method : MethodPoint) (worker : WorkerMembers WorkCallback)
    (event : MethodEvent) (next : MethodPoint × WorkerMembers WorkCallback)
    (holds : (wakeUpOutline WorkCallback).Holds ⟨point, method, worker⟩) (ongoing : Ongoing ⟨point, method, worker⟩)
    (taken : method.step worker event = some next) :
    Ongoing ⟨point, next.1, next.2⟩ ∧ Follows (seen ⟨point, method, worker⟩) (seen ⟨point, next.1, next.2⟩) := by
  obtain ⟨_, taken⟩ := Option.ite_none_right_eq_some.mp taken
  cases event with
  | goesOn => exact method_goes_on_seen point method worker next holds ongoing taken
  | wakesSpuriously =>
      cases method with
      | waitsTask =>
          obtain ⟨task, woken, rfl⟩ := Option.map_eq_some_iff.mp taken
          obtain ⟨_, rfl⟩ := (wake_spuriously_some _ _).mp woken
          exact ⟨⟨ongoing.caller, ongoing.running⟩, .stays⟩
      | _ => cases taken

theorem follows_history (history : WorkerHistory WorkCallback) (next : WorkerThread WorkCallback)
    (follows : Follows history.worker next) :
    ∃ steps after, Transition.run WorkerHistory.step history steps = some after ∧ after.worker = next := by
  have single (event : WorkerEvent WorkCallback) (after : WorkerHistory WorkCallback)
      (taken : history.step event = some after) (reaches : after.worker = next) :
      ∃ steps after, Transition.run WorkerHistory.step history steps = some after ∧ after.worker = next :=
    ⟨[event], after, (Transition.run_cons _ _ _ _ _).mpr ⟨after, taken, rfl⟩, reaches⟩
  cases follows with
  | stays => exact ⟨[], history, rfl, rfl⟩
  | executes inWorkCallback _ handed =>
      exact single (.execute inWorkCallback) _ (Option.map_eq_some_iff.mpr ⟨next, handed, rfl⟩) rfl
  | waits _ begun => exact single .waitUntilNotified _ (Option.map_eq_some_iff.mpr ⟨next, begun, rfl⟩) rfl
  | wakes _ woken =>
      refine single .wakeUp _ (Option.map_eq_some_iff.mpr ⟨next, woken, rfl⟩) ?_
      unfold WorkerHistory.woken
      split <;> rfl
  | finishes working => exact single .finishWork _ (if_pos working) rfl

structure Followed (config : WorkerConfig WorkCallback) : Prop where
  holds : (wakeUpOutline WorkCallback).Holds config
  ongoing : Ongoing config
  follows : ∃ steps history, Transition.run WorkerHistory.step WorkerHistory.started steps = some history ∧
    history.worker = seen config

theorem followed_step (config : WorkerConfig WorkCallback) (event : CallerEvent WorkCallback ⊕ MethodEvent)
    (next : WorkerConfig WorkCallback) (followed : Followed config) (keeps : KeepsRunning event)
    (taken : Interleaving.step (workerThreads WorkCallback) config event = some next) : Followed next := by
  obtain ⟨holds, ongoing, steps, history, sofar, same⟩ := followed
  have moved : Ongoing next ∧ Follows (seen config) (seen next) := by
    cases event with
    | inl event =>
        obtain ⟨reached, step, rfl⟩ := Option.map_eq_some_iff.mp taken
        exact caller_seen _ _ _ event reached holds ongoing keeps step
    | inr event =>
        obtain ⟨reached, step, rfl⟩ := Option.map_eq_some_iff.mp taken
        exact method_seen _ _ _ event reached holds ongoing step
  obtain ⟨further, after, onward, reaches⟩ := follows_history history (seen next) (same ▸ moved.2)
  exact ⟨(wakeUpOutline WorkCallback).step_holds config event next holds taken, moved.1, steps ++ further, after,
    (Transition.run_append _ _ _ _ _).mpr ⟨history, sofar, onward⟩, reaches⟩

theorem worker_thread_followed (lockingModel : LockingModel) (events : List (CallerEvent WorkCallback ⊕ MethodEvent))
    (final : WorkerConfig WorkCallback) (keeps : ∀ event ∈ events, KeepsRunning event)
    (reached : Transition.run (Interleaving.step (workerThreads WorkCallback)) (constructing lockingModel) events =
      some final) :
    ∃ steps history, Transition.run WorkerHistory.step WorkerHistory.started steps = some history ∧
      history.worker = seen final := by
  have together := Transition.run_keeps_guarded (Interleaving.step (workerThreads WorkCallback))
    (fun _ event => KeepsRunning event) Followed followed_step events (constructing lockingModel) final
    ⟨constructing_holds lockingModel, ⟨rfl, fun given => absurd given Bool.false_ne_true⟩, [], .started, rfl, rfl⟩
    (Transition.meets_all _ _ _ events fun event member _ => keeps event member) reached
  exact together.follows

theorem worker_never_ends (lockingModel : LockingModel) (events : List (CallerEvent WorkCallback ⊕ MethodEvent))
    (final : WorkerConfig WorkCallback) (keeps : ∀ event ∈ events, KeepsRunning event)
    (reached : Transition.run (Interleaving.step (workerThreads WorkCallback)) (constructing lockingModel) events =
      some final) : final.second ≠ .finished := by
  obtain ⟨steps, history, sofar, same⟩ := worker_thread_followed lockingModel events final keeps reached
  have alive := (WorkerHistory.served_run steps history sofar).alive
  rw [same] at alive
  intro finished
  exact alive (by rw [seen, finished, MethodPoint.seen])

end NetworkWrapper
