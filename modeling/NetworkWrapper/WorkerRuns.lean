import NetworkWrapper.Transition
import NetworkWrapper.WorkerThread

set_option autoImplicit false

-- One client thread that calls execute() again and again, and the worker thread
-- that runs what it finds in its only task slot.
namespace NetworkWrapper

-- Both logs are ghost state: a task is logged as run when the worker calls it.
structure WorkerHistory (WorkCallback : Type) where
  worker : WorkerThread WorkCallback
  submitted : List WorkCallback
  ran : List WorkCallback
deriving DecidableEq, Repr

inductive WorkerEvent (WorkCallback : Type) where
  | execute (inWorkCallback : WorkCallback)
  | waitUntilNotified
  | wakeUp
  | finishWork
deriving DecidableEq, Repr

namespace WorkerHistory

variable {WorkCallback : Type}

def started : WorkerHistory WorkCallback := { worker := .started, submitted := [], ran := [] }

-- The worker has been woken: if it leaves its wait to work, it calls the slot.
def woken (history : WorkerHistory WorkCallback) (worker : WorkerThread WorkCallback) : WorkerHistory WorkCallback :=
  if worker.point = .working then
    { history with worker := worker, ran := history.ran ++ worker.workCallback.toList }
  else { history with worker := worker }

def step (history : WorkerHistory WorkCallback) : WorkerEvent WorkCallback → Option (WorkerHistory WorkCallback)
  | .execute inWorkCallback =>
      (history.worker.execute inWorkCallback).map fun worker =>
        { history with worker := worker, submitted := history.submitted ++ [inWorkCallback] }
  | .waitUntilNotified => history.worker.waitUntilNotified.map fun worker => { history with worker := worker }
  | .wakeUp => history.worker.wakeUp.map history.woken
  | .finishWork =>
      if history.worker.point = .working then some { history with worker := history.worker.finishWork } else none

def WaitsUnnotified (history : WorkerHistory WorkCallback) : Prop :=
  history.worker.point = .waiting ∧ history.worker.isNotified = false

def Notified (history : WorkerHistory WorkCallback) : Prop :=
  history.worker.point = .waiting ∧ history.worker.isNotified = true

-- related compares what has been run with what was submitted: nothing lost is
-- equality, something overwritten is a sublist.
structure Served (related : List WorkCallback → List WorkCallback → Prop) (history : WorkerHistory WorkCallback) :
    Prop where
  running : history.worker.isRunning = true
  alive : history.worker.point ≠ .finished
  handed : history.Notified → ∃ earlier task, history.submitted = earlier ++ [task] ∧
    history.worker.workCallback = some task ∧ related history.ran earlier
  finished : ¬ history.Notified → related history.ran history.submitted ∧
    history.ran.getLast? = history.submitted.getLast?

variable (related : List WorkCallback → List WorkCallback → Prop)

theorem served_started (empty : related [] []) : Served related started :=
  ⟨rfl, by simp [started, WorkerThread.started], by simp [Notified, started, WorkerThread.started],
    fun _ => ⟨empty, rfl⟩⟩

theorem served_execute (history : WorkerHistory WorkCallback) (worker : WorkerThread WorkCallback)
    (inWorkCallback : WorkCallback) (served : Served related history)
    (grows : history.worker.isAvailable = true ∨
      ∀ ran earlier task, related ran earlier → related ran (earlier ++ [task]))
    (handed : history.worker.execute inWorkCallback = some worker) :
    Served related { history with worker := worker, submitted := history.submitted ++ [inWorkCallback] } := by
  simp only [WorkerThread.execute, Option.ite_none_left_eq_some, Option.some.injEq] at handed
  obtain ⟨free, rfl⟩ := handed
  have waiting : history.worker.point = .waiting := by
    cases stands : history.worker.point with
    | beforeWait => simp [WorkerThread.holdsTaskMutex, stands] at free
    | waiting => rfl
    | working => simp [WorkerThread.holdsTaskMutex, stands] at free
    | finished => exact absurd stands served.alive
  refine ⟨served.running, served.alive, fun _ => ⟨history.submitted, inWorkCallback, rfl, rfl, ?_⟩, fun calm => ?_⟩
  · by_cases notified : history.worker.isNotified = true
    · -- the task in the slot is overwritten
      obtain ⟨earlier, task, same, _, sofar⟩ := served.handed ⟨waiting, notified⟩
      rcases grows with available | grows
      · simp [WorkerThread.isAvailable, notified] at available
      · rw [same]
        exact grows _ _ _ sofar
    · exact (served.finished fun pending => notified pending.2).1
  · exact absurd ⟨waiting, rfl⟩ calm

theorem served_wake_up (history : WorkerHistory WorkCallback) (worker : WorkerThread WorkCallback)
    (served : Served related history)
    (both : ∀ ran earlier task, related ran earlier → related (ran ++ [task]) (earlier ++ [task]))
    (wakes : history.worker.wakeUp = some worker) : Served related (history.woken worker) := by
  simp only [WorkerThread.wakeUp, Option.ite_none_right_eq_some] at wakes
  obtain ⟨waiting, wakes⟩ := wakes
  by_cases notified : history.worker.isNotified = true
  · simp only [notified, served.running, Bool.true_eq_false, if_false, if_true, Option.some.injEq] at wakes
    subst worker
    obtain ⟨earlier, task, same, slot, sofar⟩ := served.handed ⟨waiting, notified⟩
    refine ⟨rfl, by simp [woken], fun pending => by simp [Notified, woken] at pending, fun _ => ?_⟩
    simp only [woken, if_true, slot, Option.toList_some]
    rw [same]
    exact ⟨both _ _ _ sofar, by simp⟩
  · simp only [notified, if_true, Option.some.injEq] at wakes
    subst worker
    have asleep : history.woken history.worker = history := by simp [woken, waiting]
    rw [asleep]
    exact served

def WhileAvailable (history : WorkerHistory WorkCallback) : WorkerEvent WorkCallback → Prop
  | .execute _ => history.worker.isAvailable = true
  | _ => True

instance (history : WorkerHistory WorkCallback) : (event : WorkerEvent WorkCallback) →
    Decidable (WhileAvailable history event)
  | .execute _ => inferInstanceAs (Decidable (_ = true))
  | .waitUntilNotified => isTrue trivial
  | .wakeUp => isTrue trivial
  | .finishWork => isTrue trivial

theorem served_step (history next : WorkerHistory WorkCallback) (event : WorkerEvent WorkCallback)
    (served : Served related history)
    (both : ∀ ran earlier task, related ran earlier → related (ran ++ [task]) (earlier ++ [task]))
    (grows : WhileAvailable history event ∨
      ∀ ran earlier task, related ran earlier → related ran (earlier ++ [task]))
    (taken : history.step event = some next) : Served related next := by
  cases event with
  | execute inWorkCallback =>
      obtain ⟨worker, handed, rfl⟩ := Option.map_eq_some_iff.mp taken
      exact served_execute related history worker inWorkCallback served grows handed
  | waitUntilNotified =>
      obtain ⟨worker, waits, rfl⟩ := Option.map_eq_some_iff.mp taken
      simp only [WorkerThread.waitUntilNotified, Option.ite_none_right_eq_some, Option.some.injEq] at waits
      obtain ⟨before, rfl⟩ := waits
      have calm : ¬ history.Notified := by simp [Notified, before]
      exact ⟨served.running, by simp, fun pending => by simp [Notified] at pending, fun _ => served.finished calm⟩
  | wakeUp =>
      obtain ⟨worker, wakes, rfl⟩ := Option.map_eq_some_iff.mp taken
      exact served_wake_up related history worker served both wakes
  | finishWork =>
      simp only [step, Option.ite_none_right_eq_some, Option.some.injEq] at taken
      obtain ⟨working, rfl⟩ := taken
      have calm : ¬ history.Notified := by simp [Notified, working]
      have again : history.worker.finishWork = { history.worker with point := .beforeWait } := by
        simp [WorkerThread.finishWork, served.running]
      rw [again]
      exact ⟨served.running, by simp, fun pending => by simp [Notified] at pending, fun _ => served.finished calm⟩

theorem served_run (events : List (WorkerEvent WorkCallback)) (final : WorkerHistory WorkCallback)
    (reached : Transition.run step started events = some final) : Served List.Sublist final :=
  Transition.run_keeps step (Served List.Sublist)
    (fun history event next served taken => served_step List.Sublist history next event served
      (fun _ _ _ sofar => sofar.append_right _)
      (.inr fun _ _ _ sofar => sofar.trans (List.sublist_append_left _ _)) taken)
    events started final (served_started _ (List.nil_sublist [])) reached

theorem served_run_available (events : List (WorkerEvent WorkCallback)) (final : WorkerHistory WorkCallback)
    (reached : Transition.run step started events = some final)
    (available : Transition.Meets step WhileAvailable started events) : Served Eq final :=
  Transition.run_keeps_guarded step WhileAvailable (Served Eq)
    (fun history event next served allowed taken => served_step Eq history next event served
      (fun _ _ _ sofar => by rw [sofar]) (.inl allowed) taken)
    events started final (served_started Eq rfl) available reached

theorem served_prefix (history : WorkerHistory WorkCallback) (served : Served Eq history) :
    history.ran <+: history.submitted ∧ (history.WaitsUnnotified → history.ran = history.submitted) := by
  by_cases pending : history.Notified
  · obtain ⟨earlier, task, same, _, sofar⟩ := served.handed pending
    refine ⟨?_, fun calm => ?_⟩
    · rw [same, sofar]
      exact List.prefix_append _ _
    · exact absurd (pending.2.symm.trans calm.2) (by simp)
  · have all := (served.finished pending).1
    exact ⟨all ▸ List.prefix_refl _, fun _ => all⟩

theorem served_sublist (history : WorkerHistory WorkCallback) (served : Served List.Sublist history) :
    history.ran.Sublist history.submitted ∧
      (history.WaitsUnnotified → history.ran.getLast? = history.submitted.getLast?) := by
  by_cases pending : history.Notified
  · obtain ⟨earlier, task, same, _, sofar⟩ := served.handed pending
    refine ⟨?_, fun calm => ?_⟩
    · rw [same]
      exact sofar.trans (List.sublist_append_left _ _)
    · exact absurd (pending.2.symm.trans calm.2) (by simp)
  · obtain ⟨sofar, last⟩ := served.finished pending
    exact ⟨sofar, fun _ => last⟩

theorem tasks_run_in_order (events : List (WorkerEvent WorkCallback)) (final : WorkerHistory WorkCallback)
    (reached : Transition.run step started events = some final) :
    (final.ran.Sublist final.submitted ∧
      (final.WaitsUnnotified → final.ran.getLast? = final.submitted.getLast?)) ∧
    (Transition.Meets step WhileAvailable started events →
      final.ran <+: final.submitted ∧ (final.WaitsUnnotified → final.ran = final.submitted)) := by
  refine ⟨served_sublist final (served_run events final reached), fun available => ?_⟩
  exact served_prefix final (served_run_available events final reached available)

def twoTasks : List (WorkerEvent Nat) :=
  [.waitUntilNotified, .execute 1, .wakeUp, .finishWork, .waitUntilNotified, .wakeUp, .execute 2, .wakeUp, .finishWork,
    .waitUntilNotified]

theorem two_tasks_run : ∃ final, Transition.run step started twoTasks = some final ∧
    final.ran <+: final.submitted ∧ final.ran = final.submitted := by
  obtain ⟨inOrder, done⟩ := (tasks_run_in_order twoTasks _ rfl).2 (by decide)
  exact ⟨_, rfl, inOrder, done ⟨rfl, rfl⟩⟩

theorem overwritten_task_lost :
    ¬ ∀ (events : List (WorkerEvent Nat)) (final : WorkerHistory Nat),
      Transition.run step started events = some final →
        final.ran <+: final.submitted ∧ (final.WaitsUnnotified → final.ran = final.submitted) := by
  intro always
  have kept := always [.waitUntilNotified, .execute 1, .execute 2, .wakeUp, .finishWork, .waitUntilNotified] _ rfl
  have lost := kept.2 ⟨rfl, rfl⟩
  revert lost
  decide

end WorkerHistory

end NetworkWrapper
