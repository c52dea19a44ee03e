import NetworkWrapper.QueueLocking
import NetworkWrapper.Simulation

set_option autoImplicit false

-- The queue with its lock refines the queue with operations that are one step.
namespace NetworkWrapper

def linearised (session : LockedSession) : ThreadEvent → List ThreadEvent
  | .emplaceBack _ _ => []
  | .advance thread =>
      match session.threads[thread]? with
      | some (.linking buffer) => [.emplaceBack thread buffer]
      | some .unlinking => [.advance thread]
      | some (.outside .onWrite) => []
      | some (.outside _) => [.advance thread]
      | _ => []
  | .ranPosted thread => [.ranPosted thread]
  | .wrote thread index ec => [.wrote thread index ec]

theorem thread_abstracted (session : LockedSession) (thread : Nat) (point : QueuePoint)
    (stands : session.threads[thread]? = some point) :
    session.abstracted.threads[thread]? = some (point.abstracted session.nodes.length) := by
  simp [LockedSession.abstracted, stands]

theorem goto_abstracted (session : LockedSession) (thread : Nat) (target : QueuePoint) :
    (session.goto thread target).abstracted =
      session.abstracted.goto thread (target.abstracted session.nodes.length) := by
  simp [LockedSession.abstracted, LockedSession.goto, ThreadedSession.goto, List.map_set]

theorem goto_unseen (session : LockedSession) (thread : Nat) (point target : QueuePoint)
    (stands : session.threads[thread]? = some point)
    (same : target.abstracted session.nodes.length = point.abstracted session.nodes.length) :
    (session.goto thread target).abstracted = session.abstracted := by
  rw [goto_abstracted, same, ThreadedSession.goto, Threads.stays_put _ _ _ (thread_abstracted session thread point stands)]

def Linearises (session : LockedSession) (event : ThreadEvent) (next : LockedSession) : Prop :=
  Transition.run threadStep session.abstracted (linearised session event) = some next.abstracted ∧ QueueSound next

theorem acquire_linearises (session : LockedSession) (thread : Nat) (point target : QueuePoint)
    (sound : QueueSound session) (stands : session.threads[thread]? = some point) (outside : point.locked = false)
    (within : target.locked = true) (uncounted : isCounting target = isCounting point)
    (undiscounted : isDiscounting target = isDiscounting point)
    (same : target.abstracted session.nodes.length = point.abstracted session.nodes.length) :
    (session.acquire thread target).abstracted = session.abstracted ∧ QueueSound (session.acquire thread target) := by
  cases held : session.writeAtomicLock with
  | true =>
      have spun : session.acquire thread target = session := by
        cases session
        simp only at held
        subst held
        rfl
      rw [spun]
      exact ⟨rfl, sound⟩
  | false =>
      have entered : session.acquire thread target = { session.goto thread target with writeAtomicLock := true } := by
        simp [LockedSession.acquire, SpinLock.exchange, held, LockedSession.goto]
      rw [entered]
      refine ⟨goto_unseen session thread point target stands same, ?_, ?_⟩
      · have excludes := sound.excludes
        rw [held] at excludes
        exact SpinLock.excludes_entered session.threads thread point target excludes stands outside within
      · have counting := Threads.count_moved isCounting session.threads thread point target stands
        have discounting := Threads.count_moved isDiscounting session.threads thread point target stands
        have counted := sound.counted
        rw [uncounted] at counting
        rw [undiscounted] at discounting
        simp only [LockedSession.goto]
        omega

theorem release_linearises (session : LockedSession) (thread : Nat) (point target : QueuePoint)
    (sound : QueueSound session) (stands : session.threads[thread]? = some point) (within : point.locked = true)
    (outside : target.locked = false) (uncounted : isCounting target = isCounting point)
    (undiscounted : isDiscounting target = isDiscounting point)
    (same : target.abstracted session.nodes.length = point.abstracted session.nodes.length) :
    (session.release thread target).abstracted = session.abstracted ∧ QueueSound (session.release thread target) := by
  refine ⟨goto_unseen session thread point target stands same, ?_, ?_⟩
  · exact SpinLock.excludes_left _ session.threads thread point target sound.excludes stands within outside
  · have counting := Threads.count_moved isCounting session.threads thread point target stands
    have discounting := Threads.count_moved isDiscounting session.threads thread point target stands
    have counted := sound.counted
    rw [uncounted] at counting
    rw [undiscounted] at discounting
    simp only [LockedSession.release, LockedSession.goto]
    omega

theorem outside_sound (session next : LockedSession) (thread : Nat) (point : ThreadPoint) (target : QueuePoint)
    (sound : QueueSound session) (stands : session.threads[thread]? = some (.outside point))
    (moved : next.threads = session.threads.set thread target) (flag : next.writeAtomicLock = session.writeAtomicLock)
    (nodes : next.nodes = session.nodes) (size : next.size = session.size) (outside : target.locked = false) :
    QueueSound next := by
  have plain : isCounting target = false ∧ isDiscounting target = false := by
    cases target with
    | outside point => exact ⟨rfl, rfl⟩
    | emplacing buffer => exact ⟨rfl, rfl⟩
    | popping => exact ⟨rfl, rfl⟩
    | _ => cases outside
  exact queue_sound_moved session next thread _ target sound stands moved flag nodes size outside plain.1 plain.2

theorem outside_linearises (session next : LockedSession) (thread : Nat) (point : ThreadPoint) (sound : QueueSound session)
    (going : session.undefined = false) (stands : session.threads[thread]? = some (.outside point))
    (taken : session.advanceOutside thread point = some next) : Linearises session (.advance thread) next := by
  have there := thread_abstracted session thread _ stands
  have alive : ¬ session.abstracted.undefined = true := by simp [LockedSession.abstracted, going]
  have one (advanced : session.abstracted.advance thread point = some next.abstracted) (seen : point ≠ .onWrite) :
      Transition.run threadStep session.abstracted (linearised session (.advance thread)) = some next.abstracted := by
    have listed : linearised session (.advance thread) = [.advance thread] := by
      cases point <;> simp [linearised, stands] at seen ⊢
    rw [listed, Transition.run_cons]
    refine ⟨next.abstracted, ?_, rfl⟩
    rw [threadStep, if_neg alive]
    simp only [there, QueuePoint.abstracted, Option.bind_some, advanced]
  have moved (target : ThreadPoint) :
      (session.goto thread (.outside target)).abstracted = session.abstracted.goto thread target :=
    goto_abstracted session thread (.outside target)
  cases point with
  | idle => cases taken
  | emplaced newSize =>
      simp only [LockedSession.advanceOutside] at taken
      split at taken
      · next more =>
          cases taken
          refine ⟨one ?_ (by simp), outside_sound session _ thread _ (.outside .idle) sound stands rfl rfl rfl rfl rfl⟩
          rw [ThreadedSession.advance, if_pos more, moved]
      · next first =>
          split at taken
          · next strands =>
              cases taken
              refine ⟨one ?_ (by simp), outside_sound session _ thread _ (.outside .idle) sound stands rfl rfl rfl rfl rfl⟩
              rw [ThreadedSession.advance, if_neg first,
                if_pos (show session.abstracted.useBoostStrands = true from strands)]
              rw [← moved .idle]
              rfl
          · next plain =>
              cases taken
              refine ⟨one ?_ (by simp),
                outside_sound session _ thread _ (.outside .doWrite) sound stands rfl rfl rfl rfl rfl⟩
              rw [ThreadedSession.advance, if_neg first,
                if_neg (show ¬ session.abstracted.useBoostStrands = true from plain), moved]
  | doWrite =>
      cases first : session.nodes.head? with
      | none =>
          simp only [LockedSession.advanceOutside, first, Option.some.injEq] at taken
          subst next
          refine ⟨one ?_ (by simp), ⟨sound.excludes, sound.counted⟩⟩
          simp only [ThreadedSession.advance, SafeQueue.peekFront, LockedSession.abstracted, first]
      | some buffer =>
          simp only [LockedSession.advanceOutside, first, Option.some.injEq] at taken
          subst next
          refine ⟨one ?_ (by simp),
            outside_sound session _ thread _ (.outside (.peeked buffer)) sound stands rfl rfl rfl rfl rfl⟩
          rw [moved]
          simp only [ThreadedSession.advance, SafeQueue.peekFront, LockedSession.abstracted, first]
  | peeked buffer =>
      cases taken
      refine ⟨one ?_ (by simp), outside_sound session _ thread _ (.outside .idle) sound stands rfl rfl rfl rfl rfl⟩
      rw [ThreadedSession.advance, ← moved .idle]
      rfl
  | onWrite =>
      cases taken
      refine ⟨?_, outside_sound session _ thread _ .popping sound stands rfl rfl rfl rfl rfl⟩
      have silent : linearised session (.advance thread) = [] := by simp [linearised, stands]
      rw [silent, goto_unseen session thread _ .popping stands rfl]
      rfl
  | popped =>
      simp only [LockedSession.advanceOutside] at taken
      split at taken
      · next more =>
          cases taken
          refine ⟨one ?_ (by simp), outside_sound session _ thread _ (.outside .doWrite) sound stands rfl rfl rfl rfl rfl⟩
          rw [ThreadedSession.advance, if_pos (show session.abstracted.sendBufferSafeQueue.empty = false from more), moved]
      · next none =>
          cases taken
          refine ⟨one ?_ (by simp), outside_sound session _ thread _ (.outside .idle) sound stands rfl rfl rfl rfl rfl⟩
          rw [ThreadedSession.advance, if_neg (show ¬ session.abstracted.sendBufferSafeQueue.empty = false from none), moved]

theorem linked_linearises (session : LockedSession) (thread : Nat) (buffer : SendBuffer) (sound : QueueSound session)
    (going : session.undefined = false) (stands : session.threads[thread]? = some (.linking buffer)) :
    Linearises session (.advance thread) { session.goto thread .counting with nodes := session.nodes ++ [buffer] } := by
  have there := thread_abstracted session thread _ stands
  have alive : ¬ session.abstracted.undefined = true := by simp [LockedSession.abstracted, going]
  obtain ⟨uncounted, undiscounted⟩ := alone_counted session thread _ sound stands rfl
  refine ⟨?_, ?_, ?_⟩
  · have listed : linearised session (.advance thread) = [.emplaceBack thread buffer] := by simp [linearised, stands]
    rw [listed, Transition.run_cons]
    refine ⟨_, ?_, rfl⟩
    rw [threadStep, if_neg alive]
    simp only [there, QueuePoint.abstracted, if_true]
    simp only [LockedSession.abstracted, SafeQueue.emplaceBack, ThreadedSession.goto, LockedSession.goto, Option.some.injEq,
      ThreadedSession.mk.injEq, true_and, and_true]
    rw [threads_abstracted session thread (session.nodes ++ [buffer]).length _ .counting sound stands rfl]
    rfl
  · exact SpinLock.excludes_kept _ session.threads thread _ .counting sound.excludes stands rfl
  · have counting := Threads.count_moved isCounting session.threads thread _ .counting stands
    have discounting := Threads.count_moved isDiscounting session.threads thread _ .counting stands
    have counted := sound.counted
    simp only [isCounting, isDiscounting, Bool.toNat_false, Bool.toNat_true] at counting discounting uncounted undiscounted
    simp only [LockedSession.goto, List.length_append, List.length_singleton]
    omega

theorem unlinked_linearises (session next : LockedSession) (thread : Nat) (sound : QueueSound session)
    (going : session.undefined = false) (stands : session.threads[thread]? = some .unlinking)
    (taken : session.advance thread .unlinking = some next) : Linearises session (.advance thread) next := by
  have there := thread_abstracted session thread _ stands
  have alive : ¬ session.abstracted.undefined = true := by simp [LockedSession.abstracted, going]
  have listed : linearised session (.advance thread) = [.advance thread] := by simp [linearised, stands]
  obtain ⟨uncounted, undiscounted⟩ := alone_counted session thread _ sound stands rfl
  have one (advanced : session.abstracted.advance thread .onWrite = some next.abstracted) :
      Transition.run threadStep session.abstracted (linearised session (.advance thread)) = some next.abstracted := by
    rw [listed, Transition.run_cons]
    refine ⟨next.abstracted, ?_, rfl⟩
    rw [threadStep, if_neg alive]
    simp only [there, QueuePoint.abstracted, Option.bind_some, advanced]
  cases nodes : session.nodes with
  | nil =>
      simp only [LockedSession.advance, nodes, Option.some.injEq] at taken
      subst next
      have counted := sound.counted
      rw [nodes] at counted
      refine ⟨one ?_, sound.excludes, counted⟩
      simp only [ThreadedSession.advance, SafeQueue.popFront, LockedSession.abstracted, nodes]
  | cons front rest =>
      simp only [LockedSession.advance, nodes, Option.some.injEq] at taken
      subst next
      refine ⟨one ?_, ?_, ?_⟩
      · have others := threads_abstracted session thread rest.length _ .discounting sound stands rfl
        simp only [ThreadedSession.advance, SafeQueue.popFront, LockedSession.abstracted, nodes, ThreadedSession.goto,
          LockedSession.goto, Option.some.injEq, ThreadedSession.mk.injEq, true_and, and_true]
        rw [others, nodes]
        rfl
      · exact SpinLock.excludes_kept _ session.threads thread _ .discounting sound.excludes stands rfl
      · have counting := Threads.count_moved isCounting session.threads thread _ .discounting stands
        have discounting := Threads.count_moved isDiscounting session.threads thread _ .discounting stands
        have counted := sound.counted
        rw [nodes] at counted
        simp only [isCounting, isDiscounting, Bool.toNat_false,
          Bool.toNat_true] at counting discounting uncounted undiscounted
        simp only [LockedSession.goto, List.length_cons] at counted ⊢
        omega

theorem sized_linearises (session : LockedSession) (thread : Nat) (sound : QueueSound session)
    (stands : session.threads[thread]? = some .sizing) :
    (session.goto thread (.emplaced session.size)).abstracted = session.abstracted ∧
      QueueSound (session.goto thread (.emplaced session.size)) := by
  obtain ⟨uncounted, undiscounted⟩ := alone_counted session thread _ sound stands rfl
  have exact_size : session.size = session.nodes.length := by
    have counted := sound.counted
    rw [uncounted, undiscounted] at counted
    exact counted
  refine ⟨goto_unseen session thread _ _ stands ?_,
    queue_sound_moved session _ thread _ _ sound stands rfl rfl rfl rfl rfl rfl rfl⟩
  rw [exact_size]
  rfl

theorem resized_linearises (session : LockedSession) (thread size : Nat) (point target : QueuePoint)
    (sound : QueueSound session) (stands : session.threads[thread]? = some point) (within : point.locked = true)
    (stays : target.locked = true)
    (same : target.abstracted session.nodes.length = point.abstracted session.nodes.length)
    (counted : size + (isCounting target).toNat = session.nodes.length + (isDiscounting target).toNat) :
    { session.goto thread target with size := size }.abstracted = session.abstracted ∧
      QueueSound { session.goto thread target with size := size } := by
  obtain ⟨uncounted, undiscounted⟩ := alone_counted session thread _ sound stands within
  have counting := Threads.count_moved isCounting session.threads thread point target stands
  have discounting := Threads.count_moved isDiscounting session.threads thread point target stands
  refine ⟨goto_unseen session thread point target stands same, ?_, ?_⟩
  · exact SpinLock.excludes_kept _ session.threads thread point target sound.excludes stands (stays.trans within.symm)
  · simp only [LockedSession.goto]
    omega

theorem locked_step_linearises (session next : LockedSession) (event : ThreadEvent) (sound : QueueSound session)
    (taken : lockedStep session event = some next) : Linearises session event next := by
  have going : session.undefined = false := by
    by_contra undefined
    simp [lockedStep, undefined] at taken
  have alive : ¬ session.abstracted.undefined = true := by simp [LockedSession.abstracted, going]
  have defined : ¬ session.undefined = true := by simp [going]
  unfold lockedStep at taken
  rw [if_neg defined] at taken
  cases event with
  | emplaceBack thread buffer =>
      simp only [Option.ite_none_right_eq_some, Option.some.injEq] at taken
      obtain ⟨idle, rfl⟩ := taken
      refine ⟨?_, outside_sound session _ thread _ (.emplacing buffer) sound idle rfl rfl rfl rfl rfl⟩
      rw [goto_unseen session thread _ (.emplacing buffer) idle rfl]
      rfl
  | advance thread =>
      obtain ⟨point, stands, moved⟩ := Option.bind_eq_some_iff.mp taken
      have silent (listed : linearised session (.advance thread) = [])
          (same : next.abstracted = session.abstracted ∧ QueueSound next) :
          Linearises session (.advance thread) next := by
        refine ⟨?_, same.2⟩
        rw [listed, same.1]
        rfl
      cases point with
      | outside point => exact outside_linearises session next thread point sound going stands moved
      | emplacing buffer =>
          cases moved
          exact silent (by simp [linearised, stands])
            (acquire_linearises session thread _ _ sound stands rfl rfl rfl rfl rfl)
      | linking buffer =>
          cases moved
          exact linked_linearises session thread buffer sound going stands
      | counting =>
          cases moved
          obtain ⟨uncounted, undiscounted⟩ := alone_counted session thread _ sound stands rfl
          have counted := sound.counted
          rw [uncounted, undiscounted] at counted
          exact silent (by simp [linearised, stands])
            (resized_linearises session thread _ _ .sizing sound stands rfl rfl rfl counted)
      | sizing =>
          cases moved
          exact silent (by simp [linearised, stands]) (sized_linearises session thread sound stands)
      | emplaced newSize =>
          cases moved
          exact silent (by simp [linearised, stands])
            (release_linearises session thread _ _ sound stands rfl rfl rfl rfl rfl)
      | popping =>
          cases moved
          exact silent (by simp [linearised, stands])
            (acquire_linearises session thread _ _ sound stands rfl rfl rfl rfl rfl)
      | unlinking => exact unlinked_linearises session next thread sound going stands moved
      | discounting =>
          cases moved
          obtain ⟨uncounted, undiscounted⟩ := alone_counted session thread _ sound stands rfl
          have counted := sound.counted
          rw [uncounted, undiscounted] at counted
          refine silent (by simp [linearised, stands])
            (resized_linearises session thread _ _ .popped sound stands rfl rfl rfl ?_)
          simp only [isCounting, isDiscounting, Bool.toNat_false, Bool.toNat_true] at counted ⊢
          omega
      | popped =>
          cases moved
          exact silent (by simp [linearised, stands])
            (release_linearises session thread _ _ sound stands rfl rfl rfl rfl rfl)
  | ranPosted thread =>
      simp only [Option.ite_none_right_eq_some, Option.some.injEq] at taken
      obtain ⟨⟨idle, waiting, free⟩, rfl⟩ := taken
      have there := thread_abstracted session thread _ idle
      refine ⟨?_, outside_sound session _ thread _ (.outside .doWrite) sound idle rfl rfl rfl rfl rfl⟩
      rw [linearised, Transition.run_cons]
      refine ⟨_, ?_, rfl⟩
      rw [threadStep, if_neg alive]
      have moved := goto_abstracted session thread (.outside .doWrite)
      simp only [there, QueuePoint.abstracted, true_and]
      rw [if_pos (show 0 < session.abstracted.posted ∧ session.abstracted.strandOwner = none from ⟨waiting, free⟩)]
      rw [show session.abstracted.goto thread .doWrite = (session.goto thread (.outside .doWrite)).abstracted from moved.symm]
      rfl
  | wrote thread index ec =>
      simp only [Option.ite_none_right_eq_some] at taken
      obtain ⟨⟨idle, pending⟩, completed⟩ := taken
      have there := thread_abstracted session thread _ idle
      have step : threadStep session.abstracted (.wrote thread index ec) = some next.abstracted := by
        rw [threadStep, if_neg alive]
        simp only [there, QueuePoint.abstracted, true_and]
        rw [if_pos (show index < session.abstracted.pendingWrites.length from pending)]
        cases ec with
        | some what =>
            cases completed
            rfl
        | none =>
            cases completed
            have moved := goto_abstracted { session with pendingWrites := session.pendingWrites.eraseIdx index } thread
              (.outside .onWrite)
            exact congrArg some moved.symm
      refine ⟨(Transition.run_cons _ _ _ _ _).mpr ⟨next.abstracted, step, rfl⟩, ?_⟩
      cases ec with
      | some what =>
          cases completed
          exact ⟨sound.excludes, sound.counted⟩
      | none =>
          cases completed
          exact outside_sound session _ thread _ (.outside .onWrite) sound idle rfl rfl rfl rfl rfl

def Linearised (session : LockedSession) (atomic : ThreadedSession) : Prop :=
  QueueSound session ∧ atomic = session.abstracted

theorem queue_operations_atomic : Simulation.Refines lockedStep threadStep linearised Linearised where
  step := by
    rintro session event next atomic ⟨sound, rfl⟩ taken
    obtain ⟨ran, kept⟩ := locked_step_linearises session next event sound taken
    exact ⟨next.abstracted, ran, kept, rfl⟩

theorem created_linearised (useBoostStrands : Bool) (totalThreads : Nat) :
    Linearised (.create useBoostStrands totalThreads) (.create useBoostStrands totalThreads) := by
  refine ⟨queue_sound_created useBoostStrands totalThreads, ?_⟩
  simp [LockedSession.create, LockedSession.abstracted, ThreadedSession.create, QueuePoint.abstracted]

theorem owner_advances (session : LockedSession) (thread : Nat) (point : QueuePoint) (defined : session.undefined = false)
    (stands : session.threads[thread]? = some point) (within : point.locked = true) :
    ∃ next, lockedStep session (.advance thread) = some next := by
  simp only [lockedStep, defined, Bool.false_eq_true, if_false, stands, Option.bind_some]
  cases point with
  | outside point => cases within
  | emplacing buffer => cases within
  | popping => cases within
  | unlinking => cases nodes : session.nodes <;> exact ⟨_, by rw [LockedSession.advance, nodes]⟩
  | linking buffer => exact ⟨_, rfl⟩
  | counting => exact ⟨_, rfl⟩
  | sizing => exact ⟨_, rfl⟩
  | emplaced newSize => exact ⟨_, rfl⟩
  | discounting => exact ⟨_, rfl⟩
  | popped => exact ⟨_, rfl⟩

theorem queue_locking_refines (useBoostStrands : Bool) (totalThreads : Nat) (events : List ThreadEvent)
    (session : LockedSession)
    (reached : Transition.run lockedStep (.create useBoostStrands totalThreads) events = some session) :
    Transition.run threadStep (.create useBoostStrands totalThreads)
        (Simulation.translate lockedStep linearised (.create useBoostStrands totalThreads) events) =
      some session.abstracted ∧
    (∀ (thread other : Nat) (point otherPoint : QueuePoint), session.threads[thread]? = some point →
      session.threads[other]? = some otherPoint → point.locked = true → otherPoint.locked = true → thread = other) ∧
    (session.writeAtomicLock = false → session.size = session.nodes.length) ∧
    (session.writeAtomicLock = true → session.undefined = false →
      ∃ (thread : Nat) (point : QueuePoint) (next : LockedSession), session.threads[thread]? = some point ∧
        point.locked = true ∧ lockedStep session (.advance thread) = some next) := by
  obtain ⟨_, ran, sound, rfl⟩ := Simulation.refines_run queue_operations_atomic events _ session _
    (created_linearised useBoostStrands totalThreads) reached
  refine ⟨ran, ?_, fun free => ?_, fun held defined => ?_⟩
  · intro thread other point otherPoint stands otherStands within otherWithin
    exact SpinLock.excludes_alone _ _ thread other point otherPoint sound.excludes stands otherStands within otherWithin
  · have nobody (counted : QueuePoint → Bool) (inside : ∀ point, counted point = true → point.locked = true) :
        session.threads.countP counted = 0 := by
      rw [List.countP_eq_zero]
      intro point member one
      obtain ⟨thread, stands⟩ := List.mem_iff_getElem?.mp member
      have taken := SpinLock.excludes_taken _ _ thread point sound.excludes stands (inside point one)
      rw [free] at taken
      cases taken
    have counted := sound.counted
    rw [nobody isCounting counting_locked, nobody isDiscounting discounting_locked] at counted
    exact counted
  · have excludes := sound.excludes
    rw [held] at excludes
    obtain ⟨thread, point, stands, within⟩ := SpinLock.excludes_owner session.threads excludes
    obtain ⟨next, taken⟩ := owner_advances session thread point defined stands within
    exact ⟨thread, point, next, stands, within, taken⟩

def pushedAtOnce : List ThreadEvent :=
  [.emplaceBack 0 ⟨[99], by decide⟩, .emplaceBack 1 ⟨[100], by decide⟩, .advance 1, .advance 0, .advance 1, .advance 1,
    .advance 1, .advance 0, .advance 1, .advance 0, .advance 0, .advance 0, .advance 0, .advance 0]

theorem queue_locking_pushed_at_once :
    ∃ session, Transition.run lockedStep (.create false 2) pushedAtOnce = some session ∧
      Transition.run threadStep (.create false 2)
        [.emplaceBack 1 ⟨[100], by decide⟩, .emplaceBack 0 ⟨[99], by decide⟩] = some session.abstracted ∧
      session.size = 2 := by
  obtain ⟨ran, _, size, _⟩ := queue_locking_refines false 2 pushedAtOnce _ rfl
  exact ⟨_, rfl, ran, size rfl⟩

end NetworkWrapper
