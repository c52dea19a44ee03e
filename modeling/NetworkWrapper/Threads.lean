set_option autoImplicit false

-- A program of several threads as a list of the points they have reached. A step
-- moves one thread from its point to another one.
namespace Threads

variable {Point : Type}

theorem stands_moved (threads : List Point) (thread other : Nat) (target point : Point)
    (stands : (threads.set thread target)[other]? = some point) :
    (other = thread ∧ point = target) ∨ (other ≠ thread ∧ threads[other]? = some point) := by
  by_cases same : other = thread
  · subst other
    refine .inl ⟨rfl, ?_⟩
    obtain ⟨within, reads⟩ := List.getElem?_eq_some_iff.mp stands
    rw [← reads, List.getElem_set_self]
  · rw [List.getElem?_set_ne (Ne.symm same)] at stands
    exact .inr ⟨same, stands⟩

theorem stays_put (threads : List Point) (thread : Nat) (point : Point) (stands : threads[thread]? = some point) :
    threads.set thread point = threads := by
  obtain ⟨within, reads⟩ := List.getElem?_eq_some_iff.mp stands
  rw [← reads]
  exact List.set_getElem_self within

theorem count_moved (counted : Point → Bool) (threads : List Point) (thread : Nat) (point target : Point)
    (stands : threads[thread]? = some point) :
    (threads.set thread target).countP counted + (counted point).toNat =
      threads.countP counted + (counted target).toNat := by
  induction threads generalizing thread with
  | nil => simp at stands
  | cons first rest ih =>
      cases thread with
      | zero =>
          have same : first = point := by simpa using stands
          subst first
          cases kept : counted point <;> cases moved : counted target <;> simp [kept, moved]
      | succ thread =>
          have later := ih thread (by simpa using stands)
          rw [List.set_cons_succ, List.countP_cons, List.countP_cons]
          omega

theorem count_idle (counted : Point → Bool) (totalThreads : Nat) (idle : Point) (off : counted idle = false) :
    (List.replicate totalThreads idle).countP counted = 0 := by
  simp [List.countP_replicate, off]

end Threads
