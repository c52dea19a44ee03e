import Mathlib.Data.List.Perm.Basic
import NetworkWrapper.Threads

set_option autoImplicit false

-- A lock that is one atomic flag: a thread enters when its exchange finds the
-- flag down, and puts it down when it leaves. inside says at which points of its
-- program a thread holds the lock.
namespace SpinLock

variable {Point : Type} (inside : Point → Bool)

-- std::atomic<bool>::exchange(true): the value found and the value left.
def exchange (flag : Bool) : Bool × Bool := (flag, true)

-- std::atomic<bool>::store(false)
def store : Bool := false

def Excludes (flag : Bool) (threads : List Point) : Prop := threads.countP inside = flag.toNat

variable {inside}

theorem excludes_outside (threads : List Point) (outside : ∀ point ∈ threads, inside point = false) :
    Excludes inside false threads := by
  rw [Excludes, Bool.toNat_false, List.countP_eq_zero]
  intro point member
  simp [outside point member]

theorem excludes_kept (flag : Bool) (threads : List Point) (thread : Nat) (point target : Point)
    (excludes : Excludes inside flag threads) (stands : threads[thread]? = some point)
    (same : inside target = inside point) : Excludes inside flag (threads.set thread target) := by
  have counted := Threads.count_moved inside threads thread point target stands
  unfold Excludes at excludes ⊢
  rw [same] at counted
  omega

theorem excludes_entered (threads : List Point) (thread : Nat) (point target : Point)
    (excludes : Excludes inside (exchange false).1 threads) (stands : threads[thread]? = some point)
    (outside : inside point = false) (enters : inside target = true) :
    Excludes inside (exchange false).2 (threads.set thread target) := by
  have counted := Threads.count_moved inside threads thread point target stands
  unfold Excludes exchange at *
  rw [outside, enters] at counted
  simp only [Bool.toNat_false, Bool.toNat_true] at *
  omega

theorem excludes_left (flag : Bool) (threads : List Point) (thread : Nat) (point target : Point)
    (excludes : Excludes inside flag threads) (stands : threads[thread]? = some point)
    (within : inside point = true) (leaves : inside target = false) :
    Excludes inside store (threads.set thread target) := by
  have counted := Threads.count_moved inside threads thread point target stands
  unfold Excludes store at *
  rw [within, leaves] at counted
  have bound : flag.toNat ≤ 1 := by cases flag <;> decide
  simp only [Bool.toNat_false, Bool.toNat_true] at *
  omega

theorem excludes_taken (flag : Bool) (threads : List Point) (thread : Nat) (point : Point)
    (excludes : Excludes inside flag threads) (stands : threads[thread]? = some point) (within : inside point = true) :
    flag = true := by
  have some : 0 < threads.countP inside := List.countP_pos_iff.mpr ⟨point, List.mem_of_getElem? stands, within⟩
  rw [excludes] at some
  cases flag with
  | true => rfl
  | false => cases some

theorem excludes_alone (flag : Bool) (threads : List Point) (thread other : Nat) (point otherPoint : Point)
    (excludes : Excludes inside flag threads) (stands : threads[thread]? = some point)
    (otherStands : threads[other]? = some otherPoint) (within : inside point = true)
    (otherWithin : inside otherPoint = true) :
    thread = other := by
  by_contra different
  obtain ⟨short, reads⟩ := List.getElem?_eq_some_iff.mp stands
  have erased := (List.getElem_cons_eraseIdx_perm short).countP_eq inside
  rw [reads, List.countP_cons_of_pos within, excludes] at erased
  have stays : otherPoint ∈ threads.eraseIdx thread := by
    rw [List.mem_eraseIdx_iff_getElem?]
    exact ⟨other, Ne.symm different, otherStands⟩
  have some : 0 < (threads.eraseIdx thread).countP inside := List.countP_pos_iff.mpr ⟨otherPoint, stays, otherWithin⟩
  cases flag with
  | true => simp only [Bool.toNat_true] at erased; omega
  | false => simp only [Bool.toNat_false] at erased; omega

theorem excludes_owner (threads : List Point) (excludes : Excludes inside true threads) :
    ∃ (thread : Nat) (point : Point), threads[thread]? = some point ∧ inside point = true := by
  have some : 0 < threads.countP inside := by
    rw [excludes]
    decide
  obtain ⟨point, member, within⟩ := List.countP_pos_iff.mp some
  obtain ⟨thread, stands⟩ := List.mem_iff_getElem?.mp member
  exact ⟨thread, point, stands, within⟩

end SpinLock
