set_option autoImplicit false

-- What one thread does with its locks, in order. None of the locks may be taken
-- a second time by the thread that holds it.
inductive LockStep (Lock : Type) where
  | acquire (lock : Lock)
  | release (lock : Lock)
deriving DecidableEq, Repr

namespace LockLog

variable {Lock : Type} [DecidableEq Lock]

def held : List Lock → List (LockStep Lock) → List Lock
  | locks, [] => locks
  | locks, .acquire lock :: rest => held (lock :: locks) rest
  | locks, .release lock :: rest => held (locks.erase lock) rest

def safe : List Lock → List (LockStep Lock) → Bool
  | _, [] => true
  | locks, .acquire lock :: rest => !locks.contains lock && safe (lock :: locks) rest
  | locks, .release lock :: rest => safe (locks.erase lock) rest

-- A scoped lock around code that takes no lock itself.
def critical (lock : Lock) : List (LockStep Lock) := [.acquire lock, .release lock]

theorem held_append (locks : List Lock) (first second : List (LockStep Lock)) :
    held locks (first ++ second) = held (held locks first) second := by
  induction first generalizing locks with
  | nil => rfl
  | cons step rest ih => cases step <;> exact ih _

theorem safe_append (locks : List Lock) (first second : List (LockStep Lock)) :
    safe locks (first ++ second) = (safe locks first && safe (held locks first) second) := by
  induction first generalizing locks with
  | nil => rfl
  | cons step rest ih =>
      cases step with
      | acquire lock => simp only [List.cons_append, safe, held, ih, Bool.and_assoc]
      | release lock => simp only [List.cons_append, safe, held, ih]

@[simp] theorem held_critical (locks : List Lock) (lock : Lock) : held locks (critical lock) = locks := by
  simp [critical, held]

@[simp] theorem safe_critical (locks : List Lock) (lock : Lock) : safe locks (critical lock) = !locks.contains lock := by
  simp [critical, safe]

theorem safe_release (locks : List Lock) (steps : List (LockStep Lock)) (lock : Lock) :
    safe locks (steps ++ [.release lock]) = safe locks steps := by
  simp [safe_append, safe]

end LockLog
