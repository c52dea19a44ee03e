import Mathlib.Data.List.Perm.Basic
import NetworkWrapper.WriteRace

set_option autoImplicit false

-- Who keeps one session alive when the server has several threads and strands:
-- the registry, the operations outstanding on it, and the threads that use it.
namespace NetworkWrapper

-- What a thread does with the session; written says that write() was called. A
-- broadcast is at this session and holds the shared lock of the registry.
inductive SessionUse where
  | idle
  | broadcast (written : Bool)
  | onAccept
  | welcome (written : Bool)
  | onRead (written : Bool)
  | onWrite
  | connectionError
  | leaving
  | strandWrite
deriving DecidableEq, Repr

namespace SessionUse

-- A posted _doWrite runs on the bare pointer.
def holds : SessionUse → Bool
  | .idle => false
  | .strandWrite => false
  | _ => true

def runsTask : SessionUse → Bool
  | .strandWrite => true
  | _ => false

def isBroadcast : SessionUse → Bool
  | .broadcast _ => true
  | _ => false

def written : SessionUse → Option SessionUse
  | .broadcast false => some (.broadcast true)
  | .welcome false => some (.welcome true)
  | .onRead false => some (.onRead true)
  | _ => none

-- The task is finished once it has started async_write and left the strand.
def advanced (doing : SessionUse) (strandLeft : Bool) : SessionUse :=
  if doing = .strandWrite ∧ strandLeft = true then .idle else doing

def ends : SessionUse → Bool
  | .broadcast true => true
  | .onWrite => true
  | .leaving => true
  | _ => false

end SessionUse

-- threaded is the send queue under these threads. The strand may take the tasks
-- in any order, so also in the order they were posted. escaped: removeSession has
-- thrown out of a handler.
structure OwnedSession where
  threaded : ThreadedSession
  uses : List SessionUse
  registered : Bool
  postedRuns : Nat
  postedReads : Nat
  pendingAccepts : Nat
  pendingReads : Nat
  escaped : Bool
deriving DecidableEq

namespace OwnedSession

-- A new session has posted its _onRun.
def create (totalThreads : Nat) : OwnedSession :=
  { threaded := .create true totalThreads, uses := List.replicate totalThreads .idle, registered := false,
    postedRuns := 1, postedReads := 0, pendingAccepts := 0, pendingReads := 0, escaped := false }

def goto (session : OwnedSession) (thread : Nat) (target : SessionUse) : OwnedSession :=
  { session with uses := session.uses.set thread target }

def handled (ec : ErrorCode) (onSuccess : SessionUse) : SessionUse := if ec.isSome then .connectionError else onSuccess

def owners (session : OwnedSession) : Nat :=
  session.registered.toNat + session.postedRuns + session.postedReads + session.pendingAccepts + session.pendingReads +
    session.threaded.pendingWrites.length + session.uses.countP SessionUse.holds

def runningWrites (session : OwnedSession) : Nat := session.uses.countP SessionUse.runsTask

-- The _doWrite tasks posted by write() that have not come to their async_write.
def doWriteTasks (session : OwnedSession) : Nat := session.threaded.posted + session.runningWrites

def broadcasts (session : OwnedSession) : Nat := session.uses.countP SessionUse.isBroadcast

end OwnedSession

open OwnedSession

inductive UseEvent where
  | ranRun (thread : Nat)
  | accepted (thread : Nat) (ec : ErrorCode)
  | addSession (thread : Nat)
  | ranRead (thread : Nat)
  | received (thread : Nat) (ec : ErrorCode)
  | wrote (thread : Nat) (index : Nat) (ec : ErrorCode)
  | broadcast (thread : Nat)
  | emplaceBack (thread : Nat) (buffer : SendBuffer)
  | advance (thread : Nat)
  | ranWrite (thread : Nat)
  | resume (thread : Nat)
  | removeSession (thread : Nat)
  | leave (thread : Nat)
deriving DecidableEq

-- resume: write() has returned to the callback and the callback to its handler,
-- which goes on with the next read. addSession and removeSession take the unique
-- lock of the registry.
def useStep (session : OwnedSession) (event : UseEvent) : Option OwnedSession :=
  if session.escaped ∨ session.threaded.undefined then none
  else match event with
  | .ranRun thread =>
      if session.uses[thread]? = some .idle ∧ session.threaded.strandOwner = none ∧ 0 < session.postedRuns then
        some { session with postedRuns := session.postedRuns - 1, pendingAccepts := session.pendingAccepts + 1 }
      else none
  | .accepted thread ec =>
      if session.uses[thread]? = some .idle ∧ 0 < session.pendingAccepts then
        some { session.goto thread (handled ec .onAccept) with pendingAccepts := session.pendingAccepts - 1 }
      else none
  | .addSession thread =>
      if session.uses[thread]? = some .onAccept ∧ session.broadcasts = 0 then
        some { session.goto thread (.welcome false) with registered := true }
      else none
  | .ranRead thread =>
      if session.uses[thread]? = some .idle ∧ session.threaded.strandOwner = none ∧ 0 < session.postedReads then
        some { session with postedReads := session.postedReads - 1, pendingReads := session.pendingReads + 1 }
      else none
  | .received thread ec =>
      if session.uses[thread]? = some .idle ∧ 0 < session.pendingReads then
        some { session.goto thread (handled ec (.onRead false)) with pendingReads := session.pendingReads - 1 }
      else none
  | .wrote thread index ec =>
      if session.uses[thread]? = some .idle then
        (threadStep session.threaded (.wrote thread index ec)).map fun threaded =>
          { session.goto thread (handled ec .onWrite) with threaded := threaded }
      else none
  | .broadcast thread =>
      if session.uses[thread]? = some .idle ∧ session.registered = true then
        some (session.goto thread (.broadcast false))
      else none
  | .emplaceBack thread buffer =>
      (session.uses[thread]?.bind SessionUse.written).bind fun target =>
        (threadStep session.threaded (.emplaceBack thread buffer)).map fun threaded =>
          { session.goto thread target with threaded := threaded }
  | .advance thread =>
      (session.uses[thread]?.filter (· ≠ .idle)).bind fun doing =>
        (threadStep session.threaded (.advance thread)).map fun threaded =>
          { session.goto thread (doing.advanced (threaded.strandOwner ≠ some thread)) with threaded := threaded }
  | .ranWrite thread =>
      if session.uses[thread]? = some .idle then
        (threadStep session.threaded (.ranPosted thread)).map fun threaded =>
          { session.goto thread .strandWrite with threaded := threaded }
      else none
  | .resume thread =>
      if session.threaded.threads[thread]? = some .idle then
        match session.uses[thread]? with
        | some (.welcome true) => some { session.goto thread .leaving with postedReads := session.postedReads + 1 }
        | some (.onRead true) => some { session.goto thread .leaving with pendingReads := session.pendingReads + 1 }
        | _ => none
      else none
  | .removeSession thread =>
      if session.uses[thread]? = some .connectionError ∧ session.broadcasts = 0 then
        if session.registered then some { session.goto thread .leaving with registered := false }
        else some { session with escaped := true }
      else none
  | .leave thread =>
      if session.threaded.threads[thread]? = some .idle ∧ session.uses[thread]?.any SessionUse.ends = true then
        some (session.goto thread .idle)
      else none

theorem use_step_threaded (session next : OwnedSession) (event : UseEvent) (taken : useStep session event = some next) :
    next.threaded = session.threaded ∨ ∃ moved, threadStep session.threaded moved = some next.threaded := by
  simp only [useStep, Option.ite_none_left_eq_some] at taken
  obtain ⟨_, taken⟩ := taken
  cases event with
  | wrote thread index ec =>
      simp only [Option.ite_none_right_eq_some, Option.map_eq_some_iff] at taken
      obtain ⟨_, threaded, moved, rfl⟩ := taken
      exact .inr ⟨_, moved⟩
  | emplaceBack thread buffer =>
      simp only [Option.bind_eq_some_iff, Option.map_eq_some_iff] at taken
      obtain ⟨target, _, threaded, moved, rfl⟩ := taken
      exact .inr ⟨_, moved⟩
  | advance thread =>
      simp only [Option.bind_eq_some_iff, Option.map_eq_some_iff] at taken
      obtain ⟨doing, _, threaded, moved, rfl⟩ := taken
      exact .inr ⟨_, moved⟩
  | ranWrite thread =>
      simp only [Option.ite_none_right_eq_some, Option.map_eq_some_iff] at taken
      obtain ⟨_, threaded, moved, rfl⟩ := taken
      exact .inr ⟨_, moved⟩
  | resume thread =>
      simp only [Option.ite_none_right_eq_some] at taken
      obtain ⟨_, taken⟩ := taken
      split at taken <;> cases taken <;> exact .inl rfl
  | removeSession thread =>
      simp only [Option.ite_none_right_eq_some] at taken
      obtain ⟨_, taken⟩ := taken
      split at taken <;> cases taken <;> exact .inl rfl
  | _ =>
      simp only [Option.ite_none_right_eq_some, Option.some.injEq] at taken
      obtain ⟨_, rfl⟩ := taken
      exact .inl rfl

theorem owned_run_threaded (totalThreads : Nat) (events : List UseEvent) (final : OwnedSession)
    (reached : Transition.run useStep (.create totalThreads) events = some final) :
    ∃ moves, Transition.run threadStep (.create true totalThreads) moves = some final.threaded := by
  refine Transition.run_keeps useStep
    (fun session => ∃ moves, Transition.run threadStep (.create true totalThreads) moves = some session.threaded)
    ?_ events (.create totalThreads) final ⟨[], rfl⟩ reached
  rintro session event next ⟨moves, sofar⟩ taken
  rcases use_step_threaded session next event taken with same | ⟨moved, step⟩
  · exact ⟨moves, by rw [same]; exact sofar⟩
  · exact ⟨moves ++ [moved], (Transition.run_snoc _ _ _ _ _).mpr ⟨session.threaded, sofar, step⟩⟩

def FindsOwner (session : OwnedSession) : Prop := 0 < session.runningWrites → 0 < session.owners

instance (session : OwnedSession) : Decidable (FindsOwner session) := inferInstanceAs (Decidable (_ → _))

-- What there is of the session when the handler on a thread ends, beside that
-- handler: its registry entry, a posted or an outstanding operation, another thread.
def KeptBeside (session : OwnedSession) (thread : Nat) : Prop :=
  session.registered = true ∨ 0 < session.postedRuns ∨ 0 < session.postedReads ∨ 0 < session.pendingAccepts ∨
    0 < session.pendingReads ∨ session.threaded.pendingWrites ≠ [] ∨
    (session.uses.eraseIdx thread).any SessionUse.holds = true

instance (session : OwnedSession) (thread : Nat) : Decidable (KeptBeside session thread) :=
  inferInstanceAs (Decidable (_ ∨ _))

-- No handler is the last there is of the session when it ends and a write() has
-- posted a _doWrite that has not come to its async_write.
def EndsInTime (session : OwnedSession) : UseEvent → Prop
  | .leave thread =>
      session.uses[thread]? = some (.broadcast true) ∨ session.doWriteTasks = 0 ∨ KeptBeside session thread
  | _ => True

instance (session : OwnedSession) : (event : UseEvent) → Decidable (EndsInTime session event)
  | .leave _ => inferInstanceAs (Decidable (_ ∨ _ ∨ _))
  | .ranRun _ | .accepted _ _ | .addSession _ | .ranRead _ | .received _ _ | .wrote _ _ _ | .broadcast _
  | .emplaceBack _ _ | .advance _ | .ranWrite _ | .resume _ | .removeSession _ => isTrue trivial

def BroadcastsRegistered (session : OwnedSession) : Prop := 0 < session.broadcasts → session.registered = true

theorem owned_by_thread (session next : OwnedSession) (thread : Nat) (before target : SessionUse)
    (stands : session.uses[thread]? = some before) (moved : next.uses = session.uses.set thread target)
    (holds : target.holds = true) : 0 < next.owners := by
  have within := (List.getElem?_eq_some_iff.mp stands).1
  have counted : 0 < next.uses.countP SessionUse.holds :=
    List.countP_pos_iff.mpr ⟨target, by rw [moved]; exact List.mem_set within target, holds⟩
  unfold owners
  omega

theorem handled_holds (ec : ErrorCode) (onSuccess : SessionUse) (holds : onSuccess.holds = true) :
    (handled ec onSuccess).holds = true := by
  cases ec with
  | none => exact holds
  | some what => rfl

theorem written_holds (doing target : SessionUse) (writes : doing.written = some target) :
    target.holds = true ∧ target.isBroadcast = doing.isBroadcast := by
  cases doing with
  | broadcast written => cases written <;> cases writes; exact ⟨rfl, rfl⟩
  | welcome written => cases written <;> cases writes; exact ⟨rfl, rfl⟩
  | onRead written => cases written <;> cases writes; exact ⟨rfl, rfl⟩
  | _ => cases writes

theorem advance_writes (threaded next : ThreadedSession) (thread : Nat)
    (taken : threadStep threaded (.advance thread) = some next) :
    threaded.pendingWrites.length ≤ next.pendingWrites.length := by
  simp only [threadStep, Option.ite_none_left_eq_some, Option.bind_eq_some_iff] at taken
  obtain ⟨_, point, _, moved⟩ := taken
  cases point with
  | idle => cases moved
  | emplaced newSize =>
      simp only [ThreadedSession.advance] at moved
      split at moved
      · cases moved
        exact Nat.le_refl _
      · split at moved <;> cases moved <;> exact Nat.le_refl _
  | doWrite =>
      simp only [ThreadedSession.advance] at moved
      split at moved <;> cases moved <;> exact Nat.le_refl _
  | peeked buffer =>
      cases moved
      simp
  | onWrite =>
      simp only [ThreadedSession.advance] at moved
      split at moved <;> cases moved <;> exact Nat.le_refl _
  | popped =>
      simp only [ThreadedSession.advance] at moved
      split at moved <;> cases moved <;> exact Nat.le_refl _

theorem ran_posted_writes (threaded next : ThreadedSession) (thread : Nat)
    (taken : threadStep threaded (.ranPosted thread) = some next) :
    0 < threaded.posted ∧ next.pendingWrites = threaded.pendingWrites := by
  simp only [threadStep, Option.ite_none_left_eq_some, Option.ite_none_right_eq_some, Option.some.injEq] at taken
  obtain ⟨_, ⟨_, waiting, _⟩, rfl⟩ := taken
  exact ⟨waiting, rfl⟩

theorem task_keeps_owners (session next : OwnedSession) (thread : Nat) (before target : SessionUse)
    (stands : session.uses[thread]? = some before) (empty : before.holds = false) (still : target.holds = false)
    (moved : next = { session.goto thread target with threaded := next.threaded })
    (writes : session.threaded.pendingWrites.length ≤ next.threaded.pendingWrites.length) :
    session.owners ≤ next.owners := by
  have counted := Threads.count_moved SessionUse.holds session.uses thread before target stands
  rw [empty, still] at counted
  rw [moved]
  simp only [owners, goto]
  omega

theorem advanced_cases (doing : SessionUse) (strandLeft : Bool) :
    doing.advanced strandLeft = doing ∨ doing = .strandWrite ∧ doing.advanced strandLeft = .idle := by
  unfold SessionUse.advanced
  split
  · rename_i finished
    exact .inr ⟨finished.1, rfl⟩
  · exact .inl rfl

theorem broadcasts_moved (session next : OwnedSession) (thread : Nat) (before target : SessionUse)
    (known : BroadcastsRegistered session) (stands : session.uses[thread]? = some before)
    (moved : next.uses = session.uses.set thread target) (same : next.registered = session.registered)
    (target_registered : target.isBroadcast = true → before.isBroadcast = true ∨ session.registered = true) :
    BroadcastsRegistered next := by
  have counted := Threads.count_moved SessionUse.isBroadcast session.uses thread before target stands
  intro broadcasting
  rw [same]
  cases broadcast : target.isBroadcast with
  | false =>
      rw [broadcast] at counted
      apply known
      simp only [broadcasts, moved, Bool.toNat_false] at broadcasting counted ⊢
      omega
  | true =>
      rcases target_registered broadcast with already | registered
      · exact known (List.countP_pos_iff.mpr ⟨before, List.mem_of_getElem? stands, already⟩)
      · exact registered

theorem handled_silent (ec : ErrorCode) (onSuccess : SessionUse) (silent : onSuccess.isBroadcast = false) :
    (handled ec onSuccess).isBroadcast = false := by
  cases ec with
  | none => exact silent
  | some what => rfl

inductive UseTaken (session : OwnedSession) : UseEvent → OwnedSession → Prop where
  | held (event : UseEvent) (next : OwnedSession) (thread : Nat) (before target : SessionUse)
      (stands : session.uses[thread]? = some before) (moved : next.uses = session.uses.set thread target)
      (holds : target.holds = true)
      (registry : next.registered = session.registered ∧
          (target.isBroadcast = true → before.isBroadcast = true ∨ session.registered = true) ∨
        session.broadcasts = 0 ∧ target.isBroadcast = false) : UseTaken session event next
  | started (event : UseEvent) (next : OwnedSession) (uses : next.uses = session.uses)
      (registry : next.registered = session.registered) (owned : 0 < next.owners) : UseTaken session event next
  | task (event : UseEvent) (next : OwnedSession) (thread : Nat) (before target : SessionUse)
      (stands : session.uses[thread]? = some before) (empty : before.holds = false) (still : target.holds = false)
      (moved : next = { session.goto thread target with threaded := next.threaded })
      (writes : session.threaded.pendingWrites.length ≤ next.threaded.pendingWrites.length)
      (underway : 0 < session.doWriteTasks) : UseTaken session event next
  | left (thread : Nat) (doing : SessionUse) (stands : session.uses[thread]? = some doing) (ends : doing.ends = true) :
      UseTaken session (.leave thread) (session.goto thread .idle)

theorem handled_taken (session next : OwnedSession) (event : UseEvent) (thread : Nat) (ec : ErrorCode)
    (onSuccess : SessionUse) (idle : session.uses[thread]? = some .idle)
    (moved : next.uses = session.uses.set thread (handled ec onSuccess)) (same : next.registered = session.registered)
    (holds : onSuccess.holds = true) (silent : onSuccess.isBroadcast = false) : UseTaken session event next := by
  refine .held event next thread .idle (handled ec onSuccess) idle moved (handled_holds ec onSuccess holds) (.inl ⟨same, ?_⟩)
  rw [handled_silent ec onSuccess silent]
  exact fun broadcast => nomatch broadcast

theorem task_underway (session : OwnedSession) (thread : Nat) (running : session.uses[thread]? = some .strandWrite) :
    0 < session.doWriteTasks := by
  have counted : 0 < session.uses.countP SessionUse.runsTask :=
    List.countP_pos_iff.mpr ⟨_, List.mem_of_getElem? running, rfl⟩
  unfold doWriteTasks runningWrites
  omega

theorem advanced_taken (session : OwnedSession) (thread : Nat) (doing : SessionUse) (threaded : ThreadedSession)
    (stands : session.uses[thread]? = some doing) (busy : doing ≠ .idle)
    (moved : threadStep session.threaded (.advance thread) = some threaded) (strandLeft : Bool) :
    UseTaken session (.advance thread)
      { session.goto thread (doing.advanced strandLeft) with threaded := threaded } := by
  have grown := advance_writes session.threaded threaded thread moved
  rcases advanced_cases doing strandLeft with same | ⟨rfl, finished⟩
  · rw [same]
    by_cases holder : doing.holds = true
    · exact .held _ _ thread doing doing stands rfl holder (.inl ⟨rfl, .inl⟩)
    · have strand : doing = .strandWrite := by
        cases doing with
        | idle => exact absurd rfl busy
        | strandWrite => rfl
        | _ => exact absurd rfl holder
      subst strand
      exact .task _ _ thread _ _ stands rfl rfl rfl grown (task_underway session thread stands)
  · rw [finished]
    exact .task _ _ thread _ _ stands rfl rfl rfl grown (task_underway session thread stands)

theorem use_step_taken (session next : OwnedSession) (event : UseEvent) (taken : useStep session event = some next) :
    UseTaken session event next := by
  simp only [useStep, Option.ite_none_left_eq_some] at taken
  obtain ⟨_, taken⟩ := taken
  cases event with
  | ranRun thread =>
      simp only [Option.ite_none_right_eq_some, Option.some.injEq] at taken
      obtain ⟨_, rfl⟩ := taken
      exact .started _ _ rfl rfl (by simp only [owners]; omega)
  | accepted thread ec =>
      simp only [Option.ite_none_right_eq_some, Option.some.injEq] at taken
      obtain ⟨⟨idle, _⟩, rfl⟩ := taken
      exact handled_taken session _ _ thread ec .onAccept idle rfl rfl rfl rfl
  | addSession thread =>
      simp only [Option.ite_none_right_eq_some, Option.some.injEq] at taken
      obtain ⟨⟨accepting, unlocked⟩, rfl⟩ := taken
      exact .held _ _ thread _ _ accepting rfl rfl (.inr ⟨unlocked, rfl⟩)
  | ranRead thread =>
      simp only [Option.ite_none_right_eq_some, Option.some.injEq] at taken
      obtain ⟨_, rfl⟩ := taken
      exact .started _ _ rfl rfl (by simp only [owners]; omega)
  | received thread ec =>
      simp only [Option.ite_none_right_eq_some, Option.some.injEq] at taken
      obtain ⟨⟨idle, _⟩, rfl⟩ := taken
      exact handled_taken session _ _ thread ec (.onRead false) idle rfl rfl rfl rfl
  | wrote thread index ec =>
      simp only [Option.ite_none_right_eq_some, Option.map_eq_some_iff] at taken
      obtain ⟨idle, threaded, _, rfl⟩ := taken
      exact handled_taken session _ _ thread ec .onWrite idle rfl rfl rfl rfl
  | broadcast thread =>
      simp only [Option.ite_none_right_eq_some, Option.some.injEq] at taken
      obtain ⟨⟨idle, registered⟩, rfl⟩ := taken
      exact .held _ _ thread _ _ idle rfl rfl (.inl ⟨rfl, fun _ => .inr registered⟩)
  | emplaceBack thread buffer =>
      simp only [Option.bind_eq_some_iff, Option.map_eq_some_iff] at taken
      obtain ⟨target, ⟨doing, stands, writes⟩, threaded, _, rfl⟩ := taken
      obtain ⟨holds, same⟩ := written_holds doing target writes
      exact .held _ _ thread _ _ stands rfl holds (.inl ⟨rfl, fun broadcast => .inl (same ▸ broadcast)⟩)
  | advance thread =>
      simp only [Option.bind_eq_some_iff, Option.map_eq_some_iff, Option.filter_eq_some_iff] at taken
      obtain ⟨doing, ⟨stands, busy⟩, threaded, moved, rfl⟩ := taken
      exact advanced_taken session thread doing threaded stands (by simpa using busy) moved _
  | ranWrite thread =>
      simp only [Option.ite_none_right_eq_some, Option.map_eq_some_iff] at taken
      obtain ⟨idle, threaded, moved, rfl⟩ := taken
      obtain ⟨waiting, same⟩ := ran_posted_writes session.threaded threaded thread moved
      exact .task _ _ thread _ _ idle rfl rfl rfl (by rw [same]) (by unfold doWriteTasks; omega)
  | resume thread =>
      simp only [Option.ite_none_right_eq_some] at taken
      obtain ⟨_, taken⟩ := taken
      split at taken
      · rename_i stands
        cases taken
        exact .held _ _ thread _ _ stands rfl rfl (.inl ⟨rfl, fun broadcast => nomatch broadcast⟩)
      · rename_i stands
        cases taken
        exact .held _ _ thread _ _ stands rfl rfl (.inl ⟨rfl, fun broadcast => nomatch broadcast⟩)
      · cases taken
  | removeSession thread =>
      simp only [Option.ite_none_right_eq_some] at taken
      obtain ⟨⟨failing, unlocked⟩, taken⟩ := taken
      split at taken <;> cases taken
      · exact .held _ _ thread _ _ failing rfl rfl (.inr ⟨unlocked, rfl⟩)
      · exact .held _ _ thread _ _ failing (Threads.stays_put session.uses thread _ failing).symm rfl
          (.inl ⟨rfl, fun broadcast => nomatch broadcast⟩)
  | leave thread =>
      simp only [Option.ite_none_right_eq_some, Option.some.injEq, Option.any_eq_true_iff_get] at taken
      obtain ⟨⟨_, given, ends⟩, rfl⟩ := taken
      exact .left thread _ (Option.some_get given).symm ends

theorem left_counts (session : OwnedSession) (thread : Nat) (doing : SessionUse)
    (stands : session.uses[thread]? = some doing) (ends : doing.ends = true) :
    (session.goto thread .idle).owners + 1 = session.owners ∧
      (session.goto thread .idle).runningWrites = session.runningWrites := by
  have held := Threads.count_moved SessionUse.holds session.uses thread doing .idle stands
  have ran := Threads.count_moved SessionUse.runsTask session.uses thread doing .idle stands
  have holder : doing.holds = true ∧ doing.runsTask = false := by
    cases doing <;> first | exact ⟨rfl, rfl⟩ | cases ends
  rw [holder.1] at held
  rw [holder.2] at ran
  simp only [SessionUse.holds, SessionUse.runsTask, Bool.toNat_true, Bool.toNat_false] at held ran
  simp only [owners, runningWrites, goto]
  omega

theorem kept_beside_iff (session : OwnedSession) (thread : Nat) (doing : SessionUse)
    (stands : session.uses[thread]? = some doing) :
    KeptBeside session thread ↔ 0 < (session.goto thread .idle).owners := by
  have within := (List.getElem?_eq_some_iff.mp stands).1
  have others : (session.uses.set thread .idle).countP SessionUse.holds =
      (session.uses.eraseIdx thread).countP SessionUse.holds := by
    rw [(List.set_perm_cons_eraseIdx within SessionUse.idle).countP_eq, List.countP_cons]
    rfl
  have any : (session.uses.eraseIdx thread).any SessionUse.holds = true ↔
      0 < (session.uses.eraseIdx thread).countP SessionUse.holds := by
    rw [List.any_eq_true, List.countP_pos_iff]
  have entry : session.registered = true ↔ 0 < session.registered.toNat := by
    cases session.registered <;> decide
  have writing : session.threaded.pendingWrites ≠ [] ↔ 0 < session.threaded.pendingWrites.length :=
    List.length_pos_iff.symm
  simp only [KeptBeside, any, entry, writing, owners, goto, others]
  omega

-- What carries the induction: also a _doWrite that waits has an owner to find.
def TasksOwned (session : OwnedSession) : Prop := 0 < session.doWriteTasks → 0 < session.owners

theorem tasks_owned_find (session : OwnedSession) (owned : TasksOwned session) : FindsOwner session := by
  intro running
  apply owned
  unfold doWriteTasks
  omega

theorem tasks_owned_left (session : OwnedSession) (thread : Nat) (known : BroadcastsRegistered session)
    (allowed : EndsInTime session (.leave thread)) (doing : SessionUse)
    (stands : session.uses[thread]? = some doing) (ends : doing.ends = true) : TasksOwned (session.goto thread .idle) := by
  obtain ⟨_, same⟩ := left_counts session thread doing stands ends
  intro underway
  rcases allowed with broadcast | none | beside
  · have counted : 0 < session.broadcasts := List.countP_pos_iff.mpr ⟨_, List.mem_of_getElem? broadcast, rfl⟩
    exact (kept_beside_iff session thread doing stands).mp (.inl (known counted))
  · simp only [doWriteTasks, same] at underway none
    simp only [goto] at underway
    omega
  · exact (kept_beside_iff session thread doing stands).mp beside

theorem tasks_owned_step (session : OwnedSession) (event : UseEvent) (next : OwnedSession)
    (before : TasksOwned session ∧ BroadcastsRegistered session) (allowed : EndsInTime session event)
    (taken : useStep session event = some next) : TasksOwned next := by
  obtain ⟨owned, known⟩ := before
  cases use_step_taken session next event taken with
  | held _ _ thread doing target stands moved holds _ =>
      exact fun _ => owned_by_thread session next thread doing target stands moved holds
  | started _ _ _ _ keeps => exact fun _ => keeps
  | task _ _ thread doing target stands empty still moved writes underway =>
      exact fun _ => (owned underway).trans_le
        (task_keeps_owners session next thread doing target stands empty still moved writes)
  | left thread doing stands ends => exact tasks_owned_left session thread known allowed doing stands ends

theorem broadcasts_registered_step (session : OwnedSession) (event : UseEvent) (next : OwnedSession)
    (known : BroadcastsRegistered session) (taken : useStep session event = some next) : BroadcastsRegistered next := by
  cases use_step_taken session next event taken with
  | held _ _ thread doing target stands moved _ registry =>
      rcases registry with ⟨same, announced⟩ | ⟨unlocked, silent⟩
      · exact broadcasts_moved session next thread doing target known stands moved same announced
      · -- the unique lock: nobody broadcasts
        have counted := Threads.count_moved SessionUse.isBroadcast session.uses thread doing target stands
        intro broadcasting
        simp only [broadcasts, moved, silent, Bool.toNat_false] at unlocked broadcasting counted
        omega
  | started _ _ uses registry _ =>
      simp only [BroadcastsRegistered, broadcasts, uses, registry]
      exact known
  | task _ _ thread doing target stands _ still moved _ _ =>
      refine broadcasts_moved session next thread doing target known stands (by rw [moved]; rfl) (by rw [moved]; rfl) ?_
      cases target with
      | broadcast written => cases still
      | _ => exact fun broadcast => nomatch broadcast
  | left thread doing stands _ =>
      exact broadcasts_moved session _ thread doing .idle known stands rfl rfl fun broadcast => nomatch broadcast

def StrandRuns (session : OwnedSession) : Prop :=
  ∀ thread, session.threaded.strandOwner = some thread → session.uses[thread]? = some .strandWrite

theorem strand_runs_moved (session next : OwnedSession) (thread : Nat) (before target : SessionUse)
    (strand : StrandRuns session) (stands : session.uses[thread]? = some before) (other : before ≠ .strandWrite)
    (moved : next.uses = session.uses.set thread target)
    (same : next.threaded.strandOwner = session.threaded.strandOwner) : StrandRuns next := by
  intro owner taken
  rw [same] at taken
  have running := strand owner taken
  have different : owner ≠ thread := by
    rintro rfl
    exact other (Option.some.inj (stands.symm.trans running))
  rw [moved, List.getElem?_set_ne (Ne.symm different)]
  exact running

theorem advance_strand (threaded next : ThreadedSession) (thread : Nat)
    (taken : threadStep threaded (.advance thread) = some next) :
    next.strandOwner = threaded.strandOwner ∨ threaded.strandOwner = some thread ∧ next.strandOwner = none := by
  simp only [threadStep, Option.ite_none_left_eq_some, Option.bind_eq_some_iff] at taken
  obtain ⟨_, point, _, moved⟩ := taken
  cases point with
  | idle => cases moved
  | peeked buffer =>
      cases moved
      by_cases owner : threaded.strandOwner = some thread
      · exact .inr ⟨owner, by simp [owner]⟩
      · exact .inl (by simp [owner])
  | emplaced newSize =>
      simp only [ThreadedSession.advance] at moved
      split at moved
      · cases moved
        exact .inl rfl
      · split at moved <;> cases moved <;> exact .inl rfl
  | doWrite =>
      simp only [ThreadedSession.advance] at moved
      split at moved <;> cases moved <;> exact .inl rfl
  | onWrite =>
      simp only [ThreadedSession.advance] at moved
      split at moved <;> cases moved <;> exact .inl rfl
  | popped =>
      simp only [ThreadedSession.advance] at moved
      split at moved <;> cases moved <;> exact .inl rfl

theorem advanced_strand (session : OwnedSession) (thread : Nat) (doing : SessionUse) (threaded : ThreadedSession)
    (strand : StrandRuns session) (stands : session.uses[thread]? = some doing)
    (moved : threadStep session.threaded (.advance thread) = some threaded) :
    StrandRuns { session.goto thread (doing.advanced (threaded.strandOwner ≠ some thread)) with
      threaded := threaded } := by
  have within := (List.getElem?_eq_some_iff.mp stands).1
  intro owner taken
  rcases advance_strand session.threaded threaded thread moved with same | ⟨_, free⟩
  · simp only [goto]
    have running := strand owner (same ▸ taken)
    by_cases own : owner = thread
    · subst own
      obtain rfl : doing = .strandWrite := Option.some.inj (stands.symm.trans running)
      simp only at taken
      simp [taken, SessionUse.advanced, List.getElem?_set_self within]
    · rw [List.getElem?_set_ne (Ne.symm own)]
      exact running
  · simp only [free] at taken
    cases taken

theorem strand_runs_step (session : OwnedSession) (event : UseEvent) (next : OwnedSession) (strand : StrandRuns session)
    (taken : useStep session event = some next) : StrandRuns next := by
  simp only [useStep, Option.ite_none_left_eq_some] at taken
  obtain ⟨_, taken⟩ := taken
  cases event with
  | ranRun thread =>
      simp only [Option.ite_none_right_eq_some, Option.some.injEq] at taken
      obtain ⟨_, rfl⟩ := taken
      exact strand
  | ranRead thread =>
      simp only [Option.ite_none_right_eq_some, Option.some.injEq] at taken
      obtain ⟨_, rfl⟩ := taken
      exact strand
  | accepted thread ec =>
      simp only [Option.ite_none_right_eq_some, Option.some.injEq] at taken
      obtain ⟨⟨idle, _⟩, rfl⟩ := taken
      exact strand_runs_moved session _ thread _ _ strand idle (by decide) rfl rfl
  | addSession thread =>
      simp only [Option.ite_none_right_eq_some, Option.some.injEq] at taken
      obtain ⟨⟨accepting, _⟩, rfl⟩ := taken
      exact strand_runs_moved session _ thread _ _ strand accepting (by decide) rfl rfl
  | received thread ec =>
      simp only [Option.ite_none_right_eq_some, Option.some.injEq] at taken
      obtain ⟨⟨idle, _⟩, rfl⟩ := taken
      exact strand_runs_moved session _ thread _ _ strand idle (by decide) rfl rfl
  | wrote thread index ec =>
      simp only [Option.ite_none_right_eq_some, Option.map_eq_some_iff] at taken
      obtain ⟨idle, threaded, moved, rfl⟩ := taken
      refine strand_runs_moved session _ thread _ _ strand idle (by decide) rfl ?_
      simp only [threadStep, Option.ite_none_left_eq_some, Option.ite_none_right_eq_some] at moved
      obtain ⟨_, _, moved⟩ := moved
      split at moved <;> cases moved <;> rfl
  | broadcast thread =>
      simp only [Option.ite_none_right_eq_some, Option.some.injEq] at taken
      obtain ⟨⟨idle, _⟩, rfl⟩ := taken
      exact strand_runs_moved session _ thread _ _ strand idle (by decide) rfl rfl
  | emplaceBack thread buffer =>
      simp only [Option.bind_eq_some_iff, Option.map_eq_some_iff] at taken
      obtain ⟨target, ⟨doing, stands, writes⟩, threaded, moved, rfl⟩ := taken
      refine strand_runs_moved session _ thread doing target strand stands ?_ rfl ?_
      · rintro rfl
        cases writes
      · simp only [threadStep, Option.ite_none_left_eq_some, Option.ite_none_right_eq_some] at moved
        obtain ⟨_, _, moved⟩ := moved
        cases moved
        rfl
  | advance thread =>
      simp only [Option.bind_eq_some_iff, Option.map_eq_some_iff, Option.filter_eq_some_iff] at taken
      obtain ⟨doing, ⟨stands, _⟩, threaded, moved, rfl⟩ := taken
      exact advanced_strand session thread doing threaded strand stands moved
  | ranWrite thread =>
      simp only [Option.ite_none_right_eq_some, Option.map_eq_some_iff] at taken
      obtain ⟨idle, threaded, moved, rfl⟩ := taken
      simp only [threadStep, Option.ite_none_left_eq_some, Option.ite_none_right_eq_some, Option.some.injEq] at moved
      obtain ⟨_, _, rfl⟩ := moved
      intro owner runs
      obtain rfl : thread = owner := by simpa using runs
      exact List.getElem?_set_self (List.getElem?_eq_some_iff.mp idle).1
  | resume thread =>
      simp only [Option.ite_none_right_eq_some] at taken
      obtain ⟨_, taken⟩ := taken
      split at taken
      · rename_i stands
        cases taken
        exact strand_runs_moved session _ thread _ _ strand stands (by decide) rfl rfl
      · rename_i stands
        cases taken
        exact strand_runs_moved session _ thread _ _ strand stands (by decide) rfl rfl
      · cases taken
  | removeSession thread =>
      simp only [Option.ite_none_right_eq_some] at taken
      obtain ⟨⟨failing, _⟩, taken⟩ := taken
      split at taken <;> cases taken
      · exact strand_runs_moved session _ thread _ _ strand failing (by decide) rfl rfl
      · exact strand
  | leave thread =>
      simp only [Option.ite_none_right_eq_some, Option.some.injEq, Option.any_eq_true_iff_get] at taken
      obtain ⟨⟨_, given, ends⟩, rfl⟩ := taken
      refine strand_runs_moved session _ thread _ _ strand (Option.some_get given).symm ?_ rfl rfl
      intro same
      rw [same] at ends
      cases ends

theorem posted_runs (session : OwnedSession) (thread : Nat) (going : ¬(session.escaped ∨ session.threaded.undefined))
    (idle : session.uses[thread]? = some .idle) (resting : session.threaded.threads[thread]? = some .idle)
    (waiting : 0 < session.threaded.posted) (free : session.threaded.strandOwner = none) :
    ∃ next, useStep session (.ranWrite thread) = some next ∧ next.owners = session.owners ∧
      0 < next.runningWrites := by
  have within := (List.getElem?_eq_some_iff.mp idle).1
  have counted := Threads.count_moved SessionUse.holds session.uses thread .idle .strandWrite idle
  simp only [SessionUse.holds, Bool.toNat_false, Nat.add_zero] at counted
  obtain ⟨ready, defined⟩ := not_or.mp going
  refine ⟨{ session.goto thread .strandWrite with threaded := { session.threaded.goto thread .doWrite with
      posted := session.threaded.posted - 1, strandOwner := some thread } }, ?_, ?_, ?_⟩
  · simp [useStep, ready, idle, threadStep, defined, resting, waiting, free]
  · simp only [owners, goto, ThreadedSession.goto, counted]
  · exact List.countP_pos_iff.mpr ⟨.strandWrite, List.mem_set within _, rfl⟩

theorem late_end_loses_owner (session : OwnedSession) (event : UseEvent) (next : OwnedSession)
    (strand : StrandRuns session) (late : ¬ EndsInTime session event) (taken : useStep session event = some next) :
    ∃ more last, Transition.run useStep next more = some last ∧ ¬ FindsOwner last := by
  cases event with
  | leave thread =>
      simp only [EndsInTime, not_or] at late
      obtain ⟨_, underway, alone⟩ := late
      simp only [useStep, Option.ite_none_left_eq_some, Option.ite_none_right_eq_some, Option.some.injEq,
        Option.any_eq_true_iff_get] at taken
      obtain ⟨going, ⟨resting, given, ends⟩, rfl⟩ := taken
      have stands := (Option.some_get given).symm
      obtain ⟨_, same⟩ := left_counts session thread _ stands ends
      rw [kept_beside_iff session thread _ stands] at alone
      by_cases running : 0 < session.runningWrites
      · exact ⟨[], _, rfl, fun finds => alone (finds (same ▸ running))⟩
      · have free : session.threaded.strandOwner = none := by
          cases owner : session.threaded.strandOwner with
          | none => rfl
          | some runner =>
              exact absurd (List.countP_pos_iff.mpr ⟨_, List.mem_of_getElem? (strand runner owner), rfl⟩) running
        have waiting : 0 < session.threaded.posted := by
          unfold doWriteTasks at underway
          omega
        have idle : (session.goto thread .idle).uses[thread]? = some .idle :=
          List.getElem?_set_self (List.getElem?_eq_some_iff.mp stands).1
        obtain ⟨last, ran, sameOwners, runs⟩ :=
          posted_runs (session.goto thread .idle) thread going idle resting waiting free
        exact ⟨[.ranWrite thread], last, (Transition.run_cons _ _ _ _ _).mpr ⟨last, ran, rfl⟩,
          fun finds => alone (sameOwners ▸ finds runs)⟩
  | _ => exact absurd trivial late

theorem posted_write_owned (totalThreads : Nat) (events : List UseEvent) (final : OwnedSession)
    (reached : Transition.run useStep (.create totalThreads) events = some final)
    (met : Transition.Meets useStep EndsInTime (.create totalThreads) events) :
    Transition.Throughout useStep FindsOwner (.create totalThreads) events ∧
      ∀ event next, useStep final event = some next → ¬ EndsInTime final event →
        ∃ more last, Transition.run useStep next more = some last ∧ ¬ FindsOwner last := by
  have registered : BroadcastsRegistered (.create totalThreads) := by
    intro broadcasting
    have none := Threads.count_idle SessionUse.isBroadcast totalThreads .idle rfl
    simp only [broadcasts, OwnedSession.create] at broadcasting
    omega
  have owned : TasksOwned (.create totalThreads) := by
    intro _
    simp only [owners, OwnedSession.create]
    omega
  have always := Transition.throughout_guarded useStep EndsInTime
    (fun session => TasksOwned session ∧ BroadcastsRegistered session)
    (fun session event next before allowed taken => ⟨tasks_owned_step session event next before allowed taken,
      broadcasts_registered_step session event next before.2 taken⟩)
    events _ ⟨owned, registered⟩ met
  have strand := Transition.run_keeps useStep StrandRuns strand_runs_step events _ final
    (by intro thread taken; cases taken) reached
  exact ⟨fun earlier later split middle run => tasks_owned_find middle (always earlier later split middle run).1,
    fun event next taken late => late_end_loses_owner final event next strand late taken⟩

def joinsServer : List UseEvent :=
  [.ranRun 0, .accepted 0 none, .addSession 0, .emplaceBack 0 ⟨[87], by decide⟩, .advance 0, .resume 0, .leave 0,
    .ranWrite 0, .advance 0, .advance 0, .wrote 0 0 none, .advance 0, .advance 0, .leave 0, .ranRead 0]

-- The strand runs the write of a broadcast before the failed read returns, and
-- in the second run after it.
def writesInTime : List UseEvent :=
  joinsServer ++ [.broadcast 1, .emplaceBack 1 ⟨[66], by decide⟩, .advance 1, .received 0 (some "End of file"), .leave 1,
    .removeSession 0, .ranWrite 1, .advance 1, .advance 1, .leave 0, .wrote 1 0 (some "Broken pipe")]

theorem posted_write_owned_in_time : Transition.Throughout useStep FindsOwner (.create 2) writesInTime :=
  (posted_write_owned 2 writesInTime _ rfl (by decide)).1

def writesTooLate : List UseEvent :=
  joinsServer ++ [.broadcast 1, .emplaceBack 1 ⟨[66], by decide⟩, .advance 1, .leave 1, .received 0 (some "End of file"),
    .removeSession 0, .leave 0, .ranWrite 1]

theorem posted_write_outlives_session :
    ¬ ∀ (totalThreads : Nat) (events : List UseEvent) (final : OwnedSession),
      Transition.run useStep (.create totalThreads) events = some final → FindsOwner final := by
  intro always
  have owned := always 2 writesTooLate _ rfl
  revert owned
  decide

end NetworkWrapper
