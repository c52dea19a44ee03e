import NetworkWrapper.SpinLock

set_option autoImplicit false

-- A lock with two ways to hold it, alone or together with other readers. hold
-- says how a thread holds the lock at each point of its program.
namespace SharedLock

inductive Hold where
  | none
  | together
  | alone
deriving DecidableEq

-- std::shared_mutex
structure SharedMutex where
  writer : Bool
  readers : Nat
deriving DecidableEq

namespace SharedMutex

def free : SharedMutex := ⟨false, 0⟩

def lock (mutex : SharedMutex) : Option SharedMutex :=
  if mutex.writer = false ∧ mutex.readers = 0 then some { mutex with writer := true } else none

def unlock (mutex : SharedMutex) : SharedMutex := { mutex with writer := false }

def lockShared (mutex : SharedMutex) : Option SharedMutex :=
  if mutex.writer = false then some { mutex with readers := mutex.readers + 1 } else none

def unlockShared (mutex : SharedMutex) : SharedMutex := { mutex with readers := mutex.readers - 1 }

end SharedMutex

variable {Point : Type} (hold : Point → Hold)

def holders (how : Hold) (threads : List Point) : Nat := threads.countP fun point => hold point = how

structure Guards (mutex : SharedMutex) (threads : List Point) : Prop where
  writers : holders hold .alone threads = mutex.writer.toNat
  readers : holders hold .together threads = mutex.readers
  apart : mutex.writer = true → mutex.readers = 0

theorem holders_moved (how : Hold) (threads : List Point) (thread : Nat) (point target : Point)
    (stands : threads[thread]? = some point) :
    holders hold how (threads.set thread target) + (if hold point = how then 1 else 0) =
      holders hold how threads + (if hold target = how then 1 else 0) := by
  have counted := Threads.count_moved (fun point => decide (hold point = how)) threads thread point target stands
  have before : (decide (hold point = how)).toNat = if hold point = how then 1 else 0 := by
    by_cases same : hold point = how <;> simp [same]
  have after : (decide (hold target = how)).toNat = if hold target = how then 1 else 0 := by
    by_cases same : hold target = how <;> simp [same]
  rw [← before, ← after]
  exact counted

theorem holders_some (how : Hold) (threads : List Point) (thread : Nat) (point : Point)
    (stands : threads[thread]? = some point) (within : hold point = how) : 0 < holders hold how threads :=
  List.countP_pos_iff.mpr ⟨point, List.mem_of_getElem? stands, by simp [within]⟩

variable {hold}

theorem guards_free (threads : List Point) (outside : ∀ point ∈ threads, hold point = .none) :
    Guards hold .free threads := by
  have none (how : Hold) (held : how ≠ .none) : holders hold how threads = 0 := by
    rw [holders, List.countP_eq_zero]
    intro point member
    simp [outside point member, Ne.symm held]
  exact ⟨none .alone (by decide), none .together (by decide), fun _ => rfl⟩

theorem guards_kept (mutex : SharedMutex) (threads : List Point) (thread : Nat) (point target : Point)
    (guards : Guards hold mutex threads) (stands : threads[thread]? = some point) (same : hold target = hold point) :
    Guards hold mutex (threads.set thread target) := by
  obtain ⟨writers, readers, apart⟩ := guards
  have writing := holders_moved hold .alone threads thread point target stands
  have reading := holders_moved hold .together threads thread point target stands
  rw [same] at writing reading
  exact ⟨by omega, by omega, apart⟩

theorem guards_locked (mutex next : SharedMutex) (threads : List Point) (thread : Nat) (point target : Point)
    (guards : Guards hold mutex threads) (stands : threads[thread]? = some point) (locked : mutex.lock = some next)
    (outside : hold point = .none) (enters : hold target = .alone) : Guards hold next (threads.set thread target) := by
  obtain ⟨writers, readers, apart⟩ := guards
  have writing := holders_moved hold .alone threads thread point target stands
  have reading := holders_moved hold .together threads thread point target stands
  unfold SharedMutex.lock at locked
  simp only [Option.ite_none_right_eq_some, Option.some.injEq] at locked
  obtain ⟨⟨down, unread⟩, rfl⟩ := locked
  simp only [outside, enters, reduceCtorEq, if_true, if_false] at writing reading
  rw [down, Bool.toNat_false] at writers
  refine ⟨?_, by simp only; omega, fun _ => unread⟩
  simp only [Bool.toNat_true]
  omega

theorem guards_unlocked (mutex : SharedMutex) (threads : List Point) (thread : Nat) (point target : Point)
    (guards : Guards hold mutex threads) (stands : threads[thread]? = some point) (within : hold point = .alone)
    (leaves : hold target = .none) : Guards hold mutex.unlock (threads.set thread target) := by
  obtain ⟨writers, readers, apart⟩ := guards
  have writing := holders_moved hold .alone threads thread point target stands
  have reading := holders_moved hold .together threads thread point target stands
  have bound : mutex.writer.toNat ≤ 1 := Bool.toNat_le mutex.writer
  simp only [within, leaves, reduceCtorEq, if_true, if_false] at writing reading
  refine ⟨?_, ?_, fun contrary => by cases contrary⟩
  · simp only [SharedMutex.unlock, Bool.toNat_false]
    omega
  · simp only [SharedMutex.unlock]
    omega

theorem guards_shared (mutex next : SharedMutex) (threads : List Point) (thread : Nat) (point target : Point)
    (guards : Guards hold mutex threads) (stands : threads[thread]? = some point)
    (locked : mutex.lockShared = some next) (outside : hold point = .none) (enters : hold target = .together) :
    Guards hold next (threads.set thread target) := by
  obtain ⟨writers, readers, apart⟩ := guards
  have writing := holders_moved hold .alone threads thread point target stands
  have reading := holders_moved hold .together threads thread point target stands
  unfold SharedMutex.lockShared at locked
  simp only [Option.ite_none_right_eq_some, Option.some.injEq] at locked
  obtain ⟨down, rfl⟩ := locked
  simp only [outside, enters, reduceCtorEq, if_true, if_false] at writing reading
  refine ⟨by simp only; omega, by simp only; omega, fun contrary => ?_⟩
  simp only [down, Bool.false_eq_true] at contrary

theorem guards_unshared (mutex : SharedMutex) (threads : List Point) (thread : Nat) (point target : Point)
    (guards : Guards hold mutex threads) (stands : threads[thread]? = some point) (within : hold point = .together)
    (leaves : hold target = .none) : Guards hold mutex.unlockShared (threads.set thread target) := by
  obtain ⟨writers, readers, apart⟩ := guards
  have writing := holders_moved hold .alone threads thread point target stands
  have reading := holders_moved hold .together threads thread point target stands
  simp only [within, leaves, reduceCtorEq, if_true, if_false] at writing reading
  refine ⟨?_, ?_, fun up => ?_⟩
  · simp only [SharedMutex.unlockShared]
    omega
  · simp only [SharedMutex.unlockShared]
    omega
  · simp only [SharedMutex.unlockShared, apart up]

theorem guards_written (mutex : SharedMutex) (threads : List Point) (thread : Nat) (point : Point)
    (guards : Guards hold mutex threads) (stands : threads[thread]? = some point) (within : hold point = .alone) :
    mutex.writer = true := by
  have some := holders_some hold .alone threads thread point stands within
  rw [guards.writers] at some
  cases up : mutex.writer with
  | true => rfl
  | false => rw [up] at some; cases some

theorem guards_read (mutex : SharedMutex) (threads : List Point) (thread : Nat) (point : Point)
    (guards : Guards hold mutex threads) (stands : threads[thread]? = some point) (within : hold point = .together) :
    mutex.writer = false := by
  have some := holders_some hold .together threads thread point stands within
  rw [guards.readers] at some
  cases up : mutex.writer with
  | false => rfl
  | true =>
      have none := guards.apart up
      omega

theorem guards_alone (mutex : SharedMutex) (threads : List Point) (thread other : Nat) (point otherPoint : Point)
    (guards : Guards hold mutex threads) (stands : threads[thread]? = some point)
    (otherStands : threads[other]? = some otherPoint) (within : hold point = .alone) (different : other ≠ thread) :
    hold otherPoint = .none := by
  have up := guards_written mutex threads thread point guards stands within
  cases held : hold otherPoint with
  | none => rfl
  | together =>
      have down := guards_read mutex threads other otherPoint guards otherStands held
      rw [up] at down
      cases down
  | alone =>
      have excludes : SpinLock.Excludes (fun point => decide (hold point = .alone)) mutex.writer threads := guards.writers
      exact absurd (SpinLock.excludes_alone _ _ other thread otherPoint point excludes otherStands stands (by simp [held])
        (by simp [within])) different

end SharedLock
