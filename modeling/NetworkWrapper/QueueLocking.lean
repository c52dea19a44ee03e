import NetworkWrapper.SpinLock
import NetworkWrapper.WriteRace

set_option autoImplicit false

-- The same session under several threads, with emplaceBack and popFront cut
-- into what they do to the flag of the queue's lock, to the nodes of the
-- std::list and to its size. peekFront and empty take no lock and are single
-- accesses to the nodes, at any moment: what a data race of theirs with
-- emplaceBack makes of the list is left out.
namespace NetworkWrapper

inductive QueuePoint where
  | outside (point : ThreadPoint)
  | emplacing (buffer : SendBuffer)
  | linking (buffer : SendBuffer)
  | counting
  | sizing
  | emplaced (newSize : Nat)
  | popping
  | unlinking
  | discounting
  | popped
deriving DecidableEq

namespace QueuePoint

def locked : QueuePoint → Bool
  | .outside _ => false
  | .emplacing _ => false
  | .popping => false
  | _ => true

-- What the point is for a session whose queue operations are single steps: an
-- emplaceBack is done once its node is linked, a popFront once it is unlinked.
def abstracted (length : Nat) : QueuePoint → ThreadPoint
  | .outside point => point
  | .emplacing _ => .idle
  | .linking _ => .idle
  | .counting => .emplaced length
  | .sizing => .emplaced length
  | .emplaced newSize => .emplaced newSize
  | .popping => .onWrite
  | .unlinking => .onWrite
  | .discounting => .popped
  | .popped => .popped

end QueuePoint

structure LockedSession where
  useBoostStrands : Bool
  writeAtomicLock : Bool
  nodes : List SendBuffer
  size : Nat
  threads : List QueuePoint
  posted : Nat
  strandOwner : Option Nat
  pendingWrites : List SendBuffer
  undefined : Bool
deriving DecidableEq

namespace LockedSession

def create (useBoostStrands : Bool) (totalThreads : Nat) : LockedSession :=
  { useBoostStrands := useBoostStrands, writeAtomicLock := false, nodes := [], size := 0,
    threads := List.replicate totalThreads (.outside .idle), posted := 0, strandOwner := none, pendingWrites := [],
    undefined := false }

def goto (session : LockedSession) (thread : Nat) (point : QueuePoint) : LockedSession :=
  { session with threads := session.threads.set thread point }

def advanceOutside (session : LockedSession) (thread : Nat) : ThreadPoint → Option LockedSession
  | .idle => none
  | .emplaced newSize =>
      if newSize > 1 then some (session.goto thread (.outside .idle))
      else if session.useBoostStrands then some { session.goto thread (.outside .idle) with posted := session.posted + 1 }
      else some (session.goto thread (.outside .doWrite))
  | .doWrite =>
      match session.nodes.head? with
      | none => some { session with undefined := true }
      | some buffer => some (session.goto thread (.outside (.peeked buffer)))
  | .peeked buffer => some { session.goto thread (.outside .idle) with
      pendingWrites := session.pendingWrites ++ [buffer]
      strandOwner := if session.strandOwner = some thread then none else session.strandOwner }
  | .onWrite => some (session.goto thread .popping)
  | .popped =>
      if session.nodes.isEmpty = false then some (session.goto thread (.outside .doWrite))
      else some (session.goto thread (.outside .idle))

-- while (lock_.exchange(true)) ; - one turn of the loop.
def acquire (session : LockedSession) (thread : Nat) (point : QueuePoint) : LockedSession :=
  let (held, flag) := SpinLock.exchange session.writeAtomicLock
  let taken := { session with writeAtomicLock := flag }
  if held then taken else taken.goto thread point

def release (session : LockedSession) (thread : Nat) (point : QueuePoint) : LockedSession :=
  { session.goto thread point with writeAtomicLock := SpinLock.store }

def advance (session : LockedSession) (thread : Nat) : QueuePoint → Option LockedSession
  | .outside point => session.advanceOutside thread point
  | .emplacing buffer => some (session.acquire thread (.linking buffer))
  | .linking buffer => some { session.goto thread .counting with nodes := session.nodes ++ [buffer] }
  | .counting => some { session.goto thread .sizing with size := session.size + 1 }
  | .sizing => some (session.goto thread (.emplaced session.size))
  | .emplaced newSize => some (session.release thread (.outside (.emplaced newSize)))
  | .popping => some (session.acquire thread .unlinking)
  | .unlinking =>
      match session.nodes with
      | [] => some { session with undefined := true }
      | _ :: rest => some { session.goto thread .discounting with nodes := rest }
  | .discounting => some { session.goto thread .popped with size := session.size - 1 }
  | .popped => some (session.release thread (.outside .popped))

def abstracted (session : LockedSession) : ThreadedSession where
  useBoostStrands := session.useBoostStrands
  sendBufferSafeQueue := ⟨session.nodes⟩
  threads := session.threads.map (QueuePoint.abstracted session.nodes.length)
  posted := session.posted
  strandOwner := session.strandOwner
  pendingWrites := session.pendingWrites
  undefined := session.undefined

end LockedSession

def lockedStep (session : LockedSession) (event : ThreadEvent) : Option LockedSession :=
  if session.undefined then none
  else match event with
  | .emplaceBack thread buffer =>
      if session.threads[thread]? = some (.outside .idle) then some (session.goto thread (.emplacing buffer)) else none
  | .advance thread => session.threads[thread]?.bind (session.advance thread)
  | .ranPosted thread =>
      if session.threads[thread]? = some (.outside .idle) ∧ 0 < session.posted ∧ session.strandOwner = none then
        some { session.goto thread (.outside .doWrite) with
          posted := session.posted - 1
          strandOwner := some thread }
      else none
  | .wrote thread index ec =>
      if session.threads[thread]? = some (.outside .idle) ∧ index < session.pendingWrites.length then
        let completed := { session with pendingWrites := session.pendingWrites.eraseIdx index }
        match ec with
        | some _ => some completed
        | none => some (completed.goto thread (.outside .onWrite))
      else none

def isCounting : QueuePoint → Bool
  | .counting => true
  | _ => false

def isDiscounting : QueuePoint → Bool
  | .discounting => true
  | _ => false

theorem counting_locked (point : QueuePoint) (counts : isCounting point = true) : point.locked = true := by
  cases point with
  | counting => rfl
  | _ => cases counts

theorem discounting_locked (point : QueuePoint) (counts : isDiscounting point = true) : point.locked = true := by
  cases point with
  | discounting => rfl
  | _ => cases counts

structure QueueSound (session : LockedSession) : Prop where
  excludes : SpinLock.Excludes QueuePoint.locked session.writeAtomicLock session.threads
  counted : session.size + session.threads.countP isCounting = session.nodes.length + session.threads.countP isDiscounting

theorem queue_sound_created (useBoostStrands : Bool) (totalThreads : Nat) :
    QueueSound (.create useBoostStrands totalThreads) := by
  refine ⟨SpinLock.excludes_outside _ fun point member => ?_, ?_⟩
  · rw [List.eq_of_mem_replicate member]
    rfl
  · simp only [LockedSession.create, Threads.count_idle isCounting totalThreads (.outside .idle) rfl,
      Threads.count_idle isDiscounting totalThreads (.outside .idle) rfl]
    rfl

theorem queue_sound_moved (session next : LockedSession) (thread : Nat) (point target : QueuePoint)
    (sound : QueueSound session) (stands : session.threads[thread]? = some point)
    (moved : next.threads = session.threads.set thread target) (flag : next.writeAtomicLock = session.writeAtomicLock)
    (nodes : next.nodes = session.nodes) (size : next.size = session.size) (same : target.locked = point.locked)
    (uncounted : isCounting target = isCounting point) (undiscounted : isDiscounting target = isDiscounting point) :
    QueueSound next := by
  have counting := Threads.count_moved isCounting session.threads thread point target stands
  have discounting := Threads.count_moved isDiscounting session.threads thread point target stands
  have counted := sound.counted
  refine ⟨?_, ?_⟩
  · rw [flag, moved]
    exact SpinLock.excludes_kept _ _ thread point target sound.excludes stands same
  · rw [moved, nodes, size]
    rw [uncounted] at counting
    rw [undiscounted] at discounting
    omega

theorem alone_counted (session : LockedSession) (thread : Nat) (point : QueuePoint) (sound : QueueSound session)
    (stands : session.threads[thread]? = some point) (within : point.locked = true) :
    session.threads.countP isCounting = (isCounting point).toNat ∧
      session.threads.countP isDiscounting = (isDiscounting point).toNat := by
  have others (other : Nat) (otherPoint : QueuePoint)
      (there : (session.threads.set thread (.outside .idle))[other]? = some otherPoint) :
      otherPoint.locked = false := by
    rcases Threads.stands_moved _ _ _ _ _ there with ⟨_, rfl⟩ | ⟨different, before⟩
    · rfl
    · by_contra locked
      exact different (SpinLock.excludes_alone _ _ other thread otherPoint point sound.excludes before stands
        (by simpa using locked) within)
  have none (counted : QueuePoint → Bool) (inside : ∀ point, counted point = true → point.locked = true) :
      (session.threads.set thread (.outside .idle)).countP counted = 0 := by
    rw [List.countP_eq_zero]
    intro other member one
    obtain ⟨index, there⟩ := List.mem_iff_getElem?.mp member
    have unlocked := others index other there
    rw [inside other one] at unlocked
    cases unlocked
  have counting := Threads.count_moved isCounting session.threads thread point (.outside .idle) stands
  have discounting := Threads.count_moved isDiscounting session.threads thread point (.outside .idle) stands
  rw [none isCounting counting_locked] at counting
  rw [none isDiscounting discounting_locked] at discounting
  have uncounted : (isCounting (.outside .idle)).toNat = 0 := rfl
  have undiscounted : (isDiscounting (.outside .idle)).toNat = 0 := rfl
  exact ⟨by omega, by omega⟩

theorem abstracted_unlocked (length other : Nat) (point : QueuePoint) (unlocked : point.locked = false) :
    point.abstracted length = point.abstracted other := by
  cases point with
  | outside point => rfl
  | emplacing buffer => rfl
  | popping => rfl
  | _ => cases unlocked

theorem threads_abstracted (session : LockedSession) (thread length : Nat) (point target : QueuePoint)
    (sound : QueueSound session) (stands : session.threads[thread]? = some point) (within : point.locked = true) :
    (session.threads.set thread target).map (QueuePoint.abstracted length) =
      (session.threads.map (QueuePoint.abstracted session.nodes.length)).set thread (target.abstracted length) := by
  apply List.ext_getElem?
  intro other
  have short := (List.getElem?_eq_some_iff.mp stands).1
  by_cases same : other = thread
  · subst other
    rw [List.getElem?_map, List.getElem?_set_self short, List.getElem?_set_self (by rw [List.length_map]; exact short)]
    rfl
  · rw [List.getElem?_map, List.getElem?_set_ne (Ne.symm same), List.getElem?_set_ne (Ne.symm same), List.getElem?_map]
    cases there : session.threads[other]? with
    | none => rfl
    | some otherPoint =>
        have unlocked : otherPoint.locked = false := by
          by_contra locked
          exact same (SpinLock.excludes_alone _ _ other thread otherPoint point sound.excludes there stands
            (by simpa using locked) within)
        rw [Option.map_some, Option.map_some, abstracted_unlocked length session.nodes.length otherPoint unlocked]

end NetworkWrapper
