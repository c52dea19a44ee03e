import NetworkWrapper.Session
import NetworkWrapper.Threads
import NetworkWrapper.Transition

set_option autoImplicit false

-- One server session under several threads. Each step is what another thread
-- can come between: the queue's own lock makes emplaceBack and popFront single
-- steps, and everything between them is not protected.
namespace NetworkWrapper

inductive ThreadPoint where
  | idle
  | emplaced (newSize : Nat)
  | doWrite
  | peeked (buffer : SendBuffer)
  | onWrite
  | popped
deriving DecidableEq

-- posted counts the _doWrite tasks on the strand; strandOwner is the thread that
-- runs one of them. undefined is set by a peekFront or popFront on an empty queue.
structure ThreadedSession where
  useBoostStrands : Bool
  sendBufferSafeQueue : SafeQueue SendBuffer
  threads : List ThreadPoint
  posted : Nat
  strandOwner : Option Nat
  pendingWrites : List SendBuffer
  undefined : Bool
deriving DecidableEq

namespace ThreadedSession

def create (useBoostStrands : Bool) (totalThreads : Nat) : ThreadedSession :=
  { useBoostStrands := useBoostStrands, sendBufferSafeQueue := ⟨[]⟩, threads := List.replicate totalThreads .idle,
    posted := 0, strandOwner := none, pendingWrites := [], undefined := false }

def goto (session : ThreadedSession) (thread : Nat) (point : ThreadPoint) : ThreadedSession :=
  { session with threads := session.threads.set thread point }

def advance (session : ThreadedSession) (thread : Nat) : ThreadPoint → Option ThreadedSession
  | .idle => none
  | .emplaced newSize =>
      if newSize > 1 then some (session.goto thread .idle)
      else if session.useBoostStrands then some { session.goto thread .idle with posted := session.posted + 1 }
      else some (session.goto thread .doWrite)
  | .doWrite =>
      match session.sendBufferSafeQueue.peekFront with
      | none => some { session with undefined := true }
      | some buffer => some (session.goto thread (.peeked buffer))
  | .peeked buffer => some { session.goto thread .idle with
      pendingWrites := session.pendingWrites ++ [buffer]
      strandOwner := if session.strandOwner = some thread then none else session.strandOwner }
  | .onWrite =>
      match session.sendBufferSafeQueue.popFront with
      | none => some { session with undefined := true }
      | some queue => some { session.goto thread .popped with sendBufferSafeQueue := queue }
  | .popped =>
      if session.sendBufferSafeQueue.empty = false then some (session.goto thread .doWrite)
      else some (session.goto thread .idle)

end ThreadedSession

-- ranPosted takes a task off the strand, which runs one task at a time. wrote
-- runs _onWrite on whichever thread is free: it is not bound to the strand.
inductive ThreadEvent where
  | emplaceBack (thread : Nat) (buffer : SendBuffer)
  | advance (thread : Nat)
  | ranPosted (thread : Nat)
  | wrote (thread : Nat) (index : Nat) (ec : ErrorCode)
deriving DecidableEq

def threadStep (session : ThreadedSession) (event : ThreadEvent) : Option ThreadedSession :=
  if session.undefined then none
  else match event with
  | .emplaceBack thread buffer =>
      if session.threads[thread]? = some .idle then
        let (queue, newSize) := session.sendBufferSafeQueue.emplaceBack buffer
        some { session.goto thread (.emplaced newSize) with sendBufferSafeQueue := queue }
      else none
  | .advance thread => session.threads[thread]?.bind (session.advance thread)
  | .ranPosted thread =>
      if session.threads[thread]? = some .idle ∧ 0 < session.posted ∧ session.strandOwner = none then
        some { session.goto thread .doWrite with posted := session.posted - 1, strandOwner := some thread }
      else none
  | .wrote thread index ec =>
      if session.threads[thread]? = some .idle ∧ index < session.pendingWrites.length then
        let completed := { session with pendingWrites := session.pendingWrites.eraseIdx index }
        match ec with
        | some _ => some completed
        | none => some (completed.goto thread .onWrite)
      else none

-- The steps are cut out of the functions of a session: one thread that runs
-- alone does to the queue and the writes what write() and _onWrite do.
structure Reflects (threaded : ThreadedSession) (session : WebSocketSession) : Prop where
  strands : threaded.useBoostStrands = session.useBoostStrands
  queue : threaded.sendBufferSafeQueue = session.sendBufferSafeQueue
  writes : threaded.pendingWrites = session.pendingWrites
  posted : threaded.posted = session.posted.count .doWrite

theorem write_uninterrupted (threaded : ThreadedSession) (session : WebSocketSession) (thread : Nat)
    (buffer : SendBuffer) (reflects : Reflects threaded session) (defined : threaded.undefined = false)
    (idle : threaded.threads[thread]? = some .idle) (free : threaded.strandOwner ≠ some thread) :
    ∃ steps next, Transition.run threadStep threaded
        (.emplaceBack thread buffer :: List.replicate steps (.advance thread)) = some next ∧
      next.threads = threaded.threads ∧ Reflects next (session.queued buffer) := by
  obtain ⟨strands, queue, writes, posted⟩ := reflects
  obtain ⟨within, reads⟩ := List.getElem?_eq_some_iff.mp idle
  have restored := Threads.stays_put threaded.threads thread .idle idle
  have same : (session.queued buffer).useBoostStrands = session.useBoostStrands := by
    simp only [WebSocketSession.queued]
    split
    · rfl
    · split <;> rfl
  have ran : ∃ steps, Transition.run threadStep threaded
      (.emplaceBack thread buffer :: List.replicate steps (.advance thread)) = some { threaded with
        sendBufferSafeQueue := (session.queued buffer).sendBufferSafeQueue
        pendingWrites := (session.queued buffer).pendingWrites
        posted := (session.queued buffer).posted.count .doWrite } := by
    cases buffers : session.sendBufferSafeQueue.buffersToSend with
    | cons front rest =>
        refine ⟨1, ?_⟩
        simp [Transition.run, threadStep, defined, reads, SafeQueue.emplaceBack, queue, buffers, ThreadedSession.goto,
          ThreadedSession.advance, within, restored, WebSocketSession.queued, writes, posted]
    | nil =>
        cases stranded : session.useBoostStrands with
        | true =>
            refine ⟨1, ?_⟩
            simp [Transition.run, threadStep, defined, reads, SafeQueue.emplaceBack, queue, buffers,
              ThreadedSession.goto, ThreadedSession.advance, within, restored, strands, stranded,
              WebSocketSession.queued, WebSocketSession.post, writes, posted]
        | false =>
            refine ⟨3, ?_⟩
            simp [Transition.run, threadStep, defined, reads, SafeQueue.emplaceBack, SafeQueue.peekFront, queue, buffers,
              ThreadedSession.goto, ThreadedSession.advance, within, restored, strands, stranded, free, List.replicate,
              WebSocketSession.queued, WebSocketSession.asyncWrite, writes, posted]
  obtain ⟨steps, ran⟩ := ran
  exact ⟨steps, _, ran, rfl, strands.trans same.symm, rfl, rfl, rfl⟩

theorem on_write_uninterrupted (threaded : ThreadedSession) (session : WebSocketSession) (thread index : Nat)
    (reflects : Reflects threaded session) (defined : threaded.undefined = false)
    (idle : threaded.threads[thread]? = some .idle) (free : threaded.strandOwner ≠ some thread)
    (pending : index < session.pendingWrites.length) (queued : session.sendBufferSafeQueue.buffersToSend ≠ []) :
    ∃ steps next after, Transition.run threadStep threaded
        (.wrote thread index none :: List.replicate steps (.advance thread)) = some next ∧
      next.threads = threaded.threads ∧
      { session with pendingWrites := session.pendingWrites.eraseIdx index }.popAndContinue = .returned after ∧
      Reflects next after := by
  obtain ⟨strands, queue, writes, posted⟩ := reflects
  obtain ⟨within, reads⟩ := List.getElem?_eq_some_iff.mp idle
  obtain ⟨sent, rest, buffers⟩ := List.exists_cons_of_ne_nil queued
  have restored := Threads.stays_put threaded.threads thread .idle idle
  let idle := { session with pendingWrites := session.pendingWrites.eraseIdx index }
  cases rest with
  | nil =>
      refine ⟨2, { threaded with
        sendBufferSafeQueue := ⟨[]⟩
        pendingWrites := threaded.pendingWrites.eraseIdx index }, _, ?_, rfl,
        WebSocketSession.pop_last idle sent buffers, strands, rfl, ?_, posted⟩
      · simp [Transition.run, threadStep, defined, reads, ThreadedSession.goto, ThreadedSession.advance,
          SafeQueue.popFront, SafeQueue.empty, queue, buffers, within, restored, writes, pending, List.replicate]
      · rw [writes]
  | cons next rest =>
      refine ⟨4, { threaded with
        sendBufferSafeQueue := ⟨next :: rest⟩
        pendingWrites := threaded.pendingWrites.eraseIdx index ++ [next] }, _, ?_, rfl,
        WebSocketSession.pop_more idle sent next rest buffers, strands, rfl, ?_, posted⟩
      · simp [Transition.run, threadStep, defined, reads, ThreadedSession.goto, ThreadedSession.advance,
          SafeQueue.popFront, SafeQueue.peekFront, SafeQueue.empty, queue, buffers, within, restored, writes, pending,
          free, List.replicate]
      · rw [writes]

structure SingleWrite (session : ThreadedSession) : Prop where
  single : session.pendingWrites.length + session.posted ≤ 1
  defined : session.undefined = false

-- No write() finds the queue empty while an _onWrite that popped the last buffer
-- has not yet looked whether there is more to send.
def OutsideWindow (session : ThreadedSession) : ThreadEvent → Prop
  | .emplaceBack _ _ => session.sendBufferSafeQueue.buffersToSend = [] → .popped ∉ session.threads
  | _ => True

instance (session : ThreadedSession) : (event : ThreadEvent) → Decidable (OutsideWindow session event)
  | .emplaceBack _ _ => inferInstanceAs (Decidable (_ → _))
  | .advance _ => isTrue trivial
  | .ranPosted _ => isTrue trivial
  | .wrote _ _ _ => isTrue trivial

-- The points at which a thread has taken on the next async_write, or the
-- popFront of the last one.
def onDuty : ThreadPoint → Bool
  | .emplaced newSize => newSize ≤ 1
  | .doWrite => true
  | .peeked _ => true
  | .onWrite => true
  | _ => false

def isPopped : ThreadPoint → Bool
  | .popped => true
  | _ => false

def duties (session : ThreadedSession) : Nat :=
  session.posted + session.pendingWrites.length + session.threads.countP onDuty

-- One duty at most, counting the thread that is about to drop it or keep it; and
-- whoever has it finds the buffer it is about at the front.
structure SoleDuty (session : ThreadedSession) : Prop where
  sole : duties session + session.threads.countP isPopped ≤ 1
  front : 0 < duties session → session.sendBufferSafeQueue.buffersToSend ≠ []
  defined : session.undefined = false

theorem sole_duty_single (session : ThreadedSession) (sole : SoleDuty session) : SingleWrite session := by
  refine ⟨?_, sole.defined⟩
  have bound := sole.sole
  unfold duties at bound
  omega

theorem sole_duty_created (useBoostStrands : Bool) (totalThreads : Nat) :
    SoleDuty (.create useBoostStrands totalThreads) := by
  have unduty := Threads.count_idle onDuty totalThreads .idle rfl
  have unpopped := Threads.count_idle isPopped totalThreads .idle rfl
  refine ⟨?_, ?_, rfl⟩
  · simp [ThreadedSession.create, duties, unduty, unpopped]
  · simp [ThreadedSession.create, duties, unduty]

theorem unpopped_count (threads : List ThreadPoint) (absent : .popped ∉ threads) : threads.countP isPopped = 0 := by
  rw [List.countP_eq_zero]
  intro point member
  cases point with
  | popped => exact absurd member absent
  | _ => simp [isPopped]

-- Every step moves one thread from point to target. All it has to show is that
-- it hands the duty on, and that a duty still finds a buffer.
theorem sole_duty_moved (session next : ThreadedSession) (thread : Nat) (point target : ThreadPoint)
    (sole : SoleDuty session) (stands : session.threads[thread]? = some point)
    (moved : next.threads = session.threads.set thread target) (defined : next.undefined = false)
    (handed : next.posted + next.pendingWrites.length + (onDuty target).toNat + (isPopped target).toNat ≤
      session.posted + session.pendingWrites.length + (onDuty point).toNat + (isPopped point).toNat)
    (front : 0 < duties next → next.sendBufferSafeQueue.buffersToSend ≠ []) : SoleDuty next := by
  refine ⟨?_, front, defined⟩
  have bound := sole.sole
  have counted := Threads.count_moved onDuty session.threads thread point target stands
  have popped := Threads.count_moved isPopped session.threads thread point target stands
  unfold duties at bound ⊢
  rw [moved]
  omega

theorem sole_duty_kept (session next : ThreadedSession) (thread : Nat) (point target : ThreadPoint)
    (sole : SoleDuty session) (stands : session.threads[thread]? = some point)
    (moved : next.threads = session.threads.set thread target)
    (queue : next.sendBufferSafeQueue = session.sendBufferSafeQueue) (defined : next.undefined = false)
    (handed : next.posted + next.pendingWrites.length + (onDuty target).toNat ≤
      session.posted + session.pendingWrites.length + (onDuty point).toNat)
    (popped : (isPopped target).toNat ≤ (isPopped point).toNat) : SoleDuty next := by
  refine sole_duty_moved session next thread point target sole stands moved defined (by omega) ?_
  intro busy
  have counted := Threads.count_moved onDuty session.threads thread point target stands
  have before : 0 < duties session := by
    unfold duties at busy ⊢
    rw [moved] at busy
    omega
  rw [queue]
  exact sole.front before

theorem duty_alone (session : ThreadedSession) (thread : Nat) (point : ThreadPoint) (sole : SoleDuty session)
    (stands : session.threads[thread]? = some point) (on : onDuty point = true) :
    session.posted = 0 ∧ session.pendingWrites = [] ∧ session.threads.countP onDuty = 1 ∧
      session.sendBufferSafeQueue.buffersToSend ≠ [] := by
  have counted : 0 < session.threads.countP onDuty :=
    List.countP_pos_iff.mpr ⟨point, List.mem_of_getElem? stands, on⟩
  have bound := sole.sole
  have busy : 0 < duties session := by
    unfold duties
    omega
  unfold duties at bound
  exact ⟨by omega, List.eq_nil_of_length_eq_zero (by omega), by omega, sole.front busy⟩

theorem sole_duty_emplaced (session : ThreadedSession) (thread : Nat) (buffer : SendBuffer)
    (sole : SoleDuty session) (idle : session.threads[thread]? = some .idle)
    (outside : OutsideWindow session (.emplaceBack thread buffer)) :
    SoleDuty { session.goto thread (.emplaced (session.sendBufferSafeQueue.buffersToSend.length + 1)) with
      sendBufferSafeQueue := ⟨session.sendBufferSafeQueue.buffersToSend ++ [buffer]⟩ } := by
  by_cases buffers : session.sendBufferSafeQueue.buffersToSend = []
  · have unpopped := unpopped_count session.threads (outside buffers)
    have unused : duties session = 0 := by
      by_contra busy
      exact sole.front (Nat.pos_of_ne_zero busy) buffers
    have counted := Threads.count_moved onDuty session.threads thread .idle
      (.emplaced (session.sendBufferSafeQueue.buffersToSend.length + 1)) idle
    have popped := Threads.count_moved isPopped session.threads thread .idle
      (.emplaced (session.sendBufferSafeQueue.buffersToSend.length + 1)) idle
    have one : (onDuty (.emplaced (session.sendBufferSafeQueue.buffersToSend.length + 1))).toNat = 1 := by
      simp [onDuty, buffers]
    have quiet : (isPopped (.emplaced (session.sendBufferSafeQueue.buffersToSend.length + 1))).toNat = 0 := rfl
    refine ⟨?_, by simp, sole.defined⟩
    simp only [duties, ThreadedSession.goto] at unused ⊢
    omega
  · have none : (onDuty (.emplaced (session.sendBufferSafeQueue.buffersToSend.length + 1))).toNat = 0 := by
      simp [onDuty, List.length_eq_zero_iff, buffers]
    refine sole_duty_moved session _ thread .idle _ sole idle rfl sole.defined ?_ (by simp)
    rw [none]
    exact Nat.le_refl _

theorem sole_duty_advanced (session next : ThreadedSession) (thread : Nat) (point : ThreadPoint)
    (sole : SoleDuty session) (stands : session.threads[thread]? = some point)
    (taken : session.advance thread point = some next) : SoleDuty next := by
  cases point with
  | idle => cases taken
  | emplaced newSize =>
      simp only [ThreadedSession.advance] at taken
      split at taken
      · cases taken
        exact sole_duty_kept session _ thread _ .idle sole stands rfl rfl sole.defined (Nat.le_add_right _ _) (Nat.le_refl _)
      · rename_i first
        have on : (onDuty (.emplaced newSize)).toNat = 1 := by simpa [onDuty] using first
        split at taken <;> cases taken
        · refine sole_duty_kept session _ thread _ .idle sole stands rfl rfl sole.defined ?_ (Nat.le_refl _)
          rw [on]
          simp only [ThreadedSession.goto, onDuty, Bool.toNat_false]
          omega
        · refine sole_duty_kept session _ thread _ .doWrite sole stands rfl rfl sole.defined ?_ (Nat.le_refl _)
          rw [on]
          exact Nat.le_refl _
  | doWrite =>
      obtain ⟨_, _, _, front⟩ := duty_alone session thread .doWrite sole stands rfl
      obtain ⟨first, rest, buffers⟩ := List.exists_cons_of_ne_nil front
      simp only [ThreadedSession.advance, SafeQueue.peekFront, buffers, List.head?_cons, Option.some.injEq] at taken
      subst next
      exact sole_duty_kept session _ thread _ (.peeked first) sole stands rfl rfl sole.defined (Nat.le_refl _)
        (Nat.le_refl _)
  | peeked buffer =>
      cases taken
      refine sole_duty_kept session _ thread _ .idle sole stands rfl rfl sole.defined ?_ (Nat.le_refl _)
      simp only [ThreadedSession.goto, List.length_append, List.length_singleton, onDuty, Bool.toNat_false,
        Bool.toNat_true]
      omega
  | onWrite =>
      obtain ⟨unposted, unwritten, single, front⟩ := duty_alone session thread .onWrite sole stands rfl
      obtain ⟨first, rest, buffers⟩ := List.exists_cons_of_ne_nil front
      simp only [ThreadedSession.advance, SafeQueue.popFront, buffers, Option.some.injEq] at taken
      subst next
      refine sole_duty_moved session _ thread _ .popped sole stands rfl sole.defined (Nat.le_refl _) ?_
      -- the duty is down: the popping thread decides about the rest
      have counted := Threads.count_moved onDuty session.threads thread .onWrite .popped stands
      simp only [onDuty, Bool.toNat_true, Bool.toNat_false, single] at counted
      intro busy
      simp only [duties, ThreadedSession.goto, unposted, unwritten, List.length_nil] at busy
      omega
  | popped =>
      unfold ThreadedSession.advance at taken
      by_cases more : session.sendBufferSafeQueue.empty = false
      · rw [if_pos more] at taken
        cases taken
        refine sole_duty_moved session _ thread _ .doWrite sole stands rfl sole.defined (Nat.le_refl _) ?_
        intro _
        simpa [ThreadedSession.goto, SafeQueue.empty] using more
      · rw [if_neg more] at taken
        cases taken
        exact sole_duty_kept session _ thread _ .idle sole stands rfl rfl sole.defined (Nat.le_refl _) (Nat.zero_le _)

theorem sole_duty_step (session next : ThreadedSession) (event : ThreadEvent) (sole : SoleDuty session)
    (outside : OutsideWindow session event) (taken : threadStep session event = some next) : SoleDuty next := by
  have going : ¬ session.undefined = true := by simp [sole.defined]
  unfold threadStep at taken
  rw [if_neg going] at taken
  cases event with
  | emplaceBack thread buffer =>
      simp only [Option.ite_none_right_eq_some, Option.some.injEq, SafeQueue.emplaceBack, List.length_append,
        List.length_singleton] at taken
      obtain ⟨idle, rfl⟩ := taken
      exact sole_duty_emplaced session thread buffer sole idle outside
  | advance thread =>
      obtain ⟨point, stands, moved⟩ := Option.bind_eq_some_iff.mp taken
      exact sole_duty_advanced session next thread point sole stands moved
  | ranPosted thread =>
      simp only [Option.ite_none_right_eq_some, Option.some.injEq] at taken
      obtain ⟨⟨idle, waiting, _⟩, rfl⟩ := taken
      refine sole_duty_kept session _ thread _ .doWrite sole idle rfl rfl sole.defined ?_ (Nat.le_refl _)
      simp only [ThreadedSession.goto, onDuty, Bool.toNat_true, Bool.toNat_false]
      omega
  | wrote thread index ec =>
      simp only [Option.ite_none_right_eq_some] at taken
      obtain ⟨⟨idle, within⟩, completed⟩ := taken
      have shorter : (session.pendingWrites.eraseIdx index).length + 1 = session.pendingWrites.length := by
        rw [List.length_eraseIdx_of_lt within]
        omega
      cases ec with
      | none =>
          cases completed
          refine sole_duty_kept session _ thread _ .onWrite sole idle rfl rfl sole.defined ?_ (Nat.le_refl _)
          simp only [ThreadedSession.goto, onDuty, Bool.toNat_true, Bool.toNat_false]
          omega
      | some what =>
          cases completed
          have bound := sole.sole
          refine ⟨?_, fun busy => sole.front ?_, sole.defined⟩
          · unfold duties at bound ⊢
            simp only
            omega
          · unfold duties at busy ⊢
            simp only at busy
            omega

theorem single_write_outside_window (useBoostStrands : Bool) (totalThreads : Nat) (events : List ThreadEvent)
    (session : ThreadedSession)
    (reached : Transition.run threadStep (.create useBoostStrands totalThreads) events = some session)
    (outside : Transition.Meets threadStep OutsideWindow (.create useBoostStrands totalThreads) events) :
    SingleWrite session := by
  apply sole_duty_single
  exact Transition.run_keeps_guarded threadStep OutsideWindow SoleDuty
    (fun state event next sole allowed taken => sole_duty_step state next event sole allowed taken)
    events _ session (sole_duty_created useBoostStrands totalThreads) outside reached

def wroteTwice : List ThreadEvent :=
  [.emplaceBack 0 ⟨[97], by decide⟩, .advance 0, .ranPosted 1, .advance 1, .advance 1, .wrote 1 0 none,
    .emplaceBack 0 ⟨[98], by decide⟩, .advance 1, .advance 1, .advance 1, .advance 1, .advance 0, .wrote 1 0 none]

theorem single_write_wrote_twice :
    ∃ session, Transition.run threadStep (.create true 2) wroteTwice = some session ∧ SingleWrite session :=
  ⟨_, rfl, single_write_outside_window true 2 wroteTwice _ rfl (by decide)⟩

theorem write_in_window_started_twice :
    ¬ ∀ (useBoostStrands : Bool) (totalThreads : Nat) (events : List ThreadEvent) (session : ThreadedSession),
      Transition.run threadStep (.create useBoostStrands totalThreads) events = some session → SingleWrite session := by
  intro always
  have single := (always false 2 [.emplaceBack 0 ⟨[97], by decide⟩, .advance 0, .advance 0, .advance 0,
    .wrote 1 0 none, .advance 1, .emplaceBack 0 ⟨[98], by decide⟩, .advance 0, .advance 0, .advance 0,
    .advance 1, .advance 1, .advance 1] _ rfl).single
  revert single
  decide

end NetworkWrapper
