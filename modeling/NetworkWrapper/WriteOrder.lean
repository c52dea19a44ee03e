import NetworkWrapper.WriteRace

set_option autoImplicit false

-- Which buffers the threads of a session hand to async_write, and in which order.
namespace NetworkWrapper

def emplacedIn (events : List ThreadEvent) : List SendBuffer :=
  events.filterMap fun event => match event with
    | .emplaceBack _ buffer => some buffer
    | _ => none

def startedBy (session : ThreadedSession) : ThreadEvent → List SendBuffer
  | .advance thread =>
      match session.threads[thread]? with
      | some (.peeked buffer) => [buffer]
      | _ => []
  | _ => []

def startedIn (session : ThreadedSession) : List ThreadEvent → List SendBuffer
  | [] => []
  | event :: rest => startedBy session event ++ match threadStep session event with
      | none => []
      | some next => startedIn next rest

def writeFails : ThreadEvent → Bool
  | .wrote _ _ (some _) => true
  | _ => false

def isUpcoming : ThreadPoint → Bool
  | .emplaced newSize => newSize ≤ 1
  | .doWrite => true
  | .peeked _ => true
  | .popped => true
  | _ => false

def upcoming (session : ThreadedSession) : Nat := session.posted + session.threads.countP isUpcoming

-- Between two async_writes the queue holds exactly what is not started; while
-- one is outstanding its buffer is still at the front.
structure InTurn (emplaced started : List SendBuffer) (session : ThreadedSession) (popped : List SendBuffer) :
    Prop where
  queued : emplaced = popped ++ session.sendBufferSafeQueue.buffersToSend
  next : 0 < upcoming session → started = popped
  underway : upcoming session = 0 → started = popped ++ session.sendBufferSafeQueue.buffersToSend.take 1
  front : ∀ (thread : Nat) (buffer : SendBuffer), session.threads[thread]? = some (.peeked buffer) →
    session.sendBufferSafeQueue.buffersToSend.head? = some buffer

theorem in_turn_created (useBoostStrands : Bool) (totalThreads : Nat) :
    InTurn [] [] (.create useBoostStrands totalThreads) [] := by
  have idle := Threads.count_idle isUpcoming totalThreads .idle rfl
  refine ⟨rfl, fun _ => rfl, fun _ => rfl, fun thread buffer stands => ?_⟩
  have point := List.eq_of_mem_replicate (List.mem_of_getElem? stands)
  cases point

theorem in_turn_initial (emplaced started popped : List SendBuffer) (session : ThreadedSession)
    (turn : InTurn emplaced started session popped) : started <+: emplaced := by
  rw [turn.queued]
  rcases Nat.eq_zero_or_pos (upcoming session) with none | some
  · rw [turn.underway none]
    exact (List.prefix_append_right_inj popped).mpr (List.take_prefix 1 _)
  · rw [turn.next some]
    exact List.prefix_append popped _

theorem in_turn_moved (emplaced started popped : List SendBuffer) (session next : ThreadedSession) (thread : Nat)
    (point target : ThreadPoint) (turn : InTurn emplaced started session popped)
    (stands : session.threads[thread]? = some point) (moved : next.threads = session.threads.set thread target)
    (queue : next.sendBufferSafeQueue = session.sendBufferSafeQueue)
    (handed : next.posted + (isUpcoming target).toNat = session.posted + (isUpcoming point).toNat)
    (front : ∀ buffer, target = .peeked buffer → session.sendBufferSafeQueue.buffersToSend.head? = some buffer) :
    InTurn emplaced started next popped := by
  have counted := Threads.count_moved isUpcoming session.threads thread point target stands
  have same : upcoming next = upcoming session := by
    unfold upcoming
    rw [moved]
    omega
  refine ⟨by rw [queue]; exact turn.queued, by rw [same]; exact turn.next, by rw [same, queue]; exact turn.underway, ?_⟩
  intro other buffer there
  rw [moved] at there
  rw [queue]
  rcases Threads.stands_moved _ _ _ _ _ there with ⟨_, peeks⟩ | ⟨_, before⟩
  · exact front buffer peeks.symm
  · exact turn.front other buffer before

def isOnWrite : ThreadPoint → Bool
  | .onWrite => true
  | _ => false

theorem duties_split (threads : List ThreadPoint) :
    threads.countP isUpcoming + threads.countP isOnWrite = threads.countP onDuty + threads.countP isPopped := by
  induction threads with
  | nil => rfl
  | cons point rest ih =>
      have one : (isUpcoming point).toNat + (isOnWrite point).toNat =
          (onDuty point).toNat + (isPopped point).toNat := by
        cases point with
        | emplaced newSize => rfl
        | _ => rfl
      simp only [List.countP_cons]
      cases upcoming : isUpcoming point <;> cases writes : isOnWrite point <;> cases duty : onDuty point <;>
        cases popped : isPopped point <;> simp only [upcoming, writes, duty, popped] at one ⊢ <;>
        simp at one ⊢ <;> omega

theorem sole_turn (session : ThreadedSession) (sole : SoleDuty session) :
    upcoming session + session.pendingWrites.length + session.threads.countP isOnWrite ≤ 1 := by
  have split := duties_split session.threads
  have bound := sole.sole
  unfold duties at bound
  unfold upcoming
  omega

theorem in_turn_emplaced (emplaced started popped : List SendBuffer) (session : ThreadedSession) (thread : Nat)
    (buffer : SendBuffer) (turn : InTurn emplaced started session popped) (sole : SoleDuty session)
    (idle : session.threads[thread]? = some .idle) (outside : OutsideWindow session (.emplaceBack thread buffer)) :
    InTurn (emplaced ++ [buffer]) started { session.goto thread
        (.emplaced (session.sendBufferSafeQueue.buffersToSend.length + 1)) with
      sendBufferSafeQueue := ⟨session.sendBufferSafeQueue.buffersToSend ++ [buffer]⟩ } popped := by
  have counted := Threads.count_moved isUpcoming session.threads thread .idle
    (.emplaced (session.sendBufferSafeQueue.buffersToSend.length + 1)) idle
  have queued : emplaced ++ [buffer] = popped ++ (session.sendBufferSafeQueue.buffersToSend ++ [buffer]) := by
    rw [turn.queued, List.append_assoc]
  have peeking (other : Nat) (peeked : SendBuffer)
      (there : (session.threads.set thread
        (.emplaced (session.sendBufferSafeQueue.buffersToSend.length + 1)))[other]? = some (.peeked peeked)) :
      session.sendBufferSafeQueue.buffersToSend.head? = some peeked := by
    rcases Threads.stands_moved _ _ _ _ _ there with ⟨_, contrary⟩ | ⟨_, before⟩
    · cases contrary
    · exact turn.front other peeked before
  cases buffers : session.sendBufferSafeQueue.buffersToSend with
  | nil =>
      -- nobody is on duty for an empty queue, and outside the window nobody has popped
      have unused : duties session = 0 := by
        by_contra busy
        exact sole.front (Nat.pos_of_ne_zero busy) buffers
      have none : upcoming session = 0 := by
        have unpopped := unpopped_count session.threads (outside buffers)
        have split := duties_split session.threads
        unfold duties at unused
        unfold upcoming
        omega
      have same : started = popped := by
        rw [turn.underway none, buffers, List.take_nil, List.append_nil]
      rw [buffers] at queued peeking
      refine ⟨queued, fun _ => same, fun contrary => ?_, fun other peeked there => ?_⟩
      · unfold upcoming at contrary
        rw [buffers] at counted
        simp only [ThreadedSession.goto, isUpcoming, List.length_nil, Nat.zero_add, Nat.le_refl, decide_true,
          Bool.toNat_true, Bool.toNat_false] at contrary counted
        omega
      · have contrary := peeking other peeked there
        cases contrary
  | cons front rest =>
      have later : (isUpcoming (.emplaced (session.sendBufferSafeQueue.buffersToSend.length + 1))).toNat = 0 := by
        simp [isUpcoming, buffers]
      have same : upcoming { session.goto thread (.emplaced (session.sendBufferSafeQueue.buffersToSend.length + 1)) with
          sendBufferSafeQueue := ⟨session.sendBufferSafeQueue.buffersToSend ++ [buffer]⟩ } = upcoming session := by
        rw [later] at counted
        unfold upcoming
        simp only [ThreadedSession.goto, isUpcoming, Bool.toNat_false] at counted ⊢
        omega
      rw [buffers] at same queued peeking
      refine ⟨queued, fun some => turn.next (same ▸ some), fun none => ?_, fun other peeked there => ?_⟩
      · have before := turn.underway (same ▸ none)
        rw [buffers] at before
        exact before
      · exact peeking other peeked there

theorem upcoming_at (session : ThreadedSession) (thread : Nat) (point : ThreadPoint)
    (stands : session.threads[thread]? = some point) (coming : isUpcoming point = true) : 0 < upcoming session := by
  have counted : 0 < session.threads.countP isUpcoming :=
    List.countP_pos_iff.mpr ⟨point, List.mem_of_getElem? stands, coming⟩
  unfold upcoming
  omega

theorem in_turn_started (emplaced started popped : List SendBuffer) (session : ThreadedSession) (thread : Nat)
    (buffer : SendBuffer) (strandOwner : Option Nat) (turn : InTurn emplaced started session popped)
    (sole : SoleDuty session) (stands : session.threads[thread]? = some (.peeked buffer)) :
    InTurn emplaced (started ++ [buffer]) { session.goto thread .idle with
      pendingWrites := session.pendingWrites ++ [buffer], strandOwner := strandOwner } popped := by
  have counted := Threads.count_moved isUpcoming session.threads thread (.peeked buffer) .idle stands
  have coming := upcoming_at session thread (.peeked buffer) stands rfl
  have bound := sole_turn session sole
  obtain ⟨rest, buffers⟩ := List.head?_eq_some_iff.mp (turn.front thread buffer stands)
  refine ⟨turn.queued, fun contrary => ?_, fun _ => ?_, fun other peeked there => ?_⟩
  · unfold upcoming at contrary bound
    simp only [ThreadedSession.goto, isUpcoming, Bool.toNat_true, Bool.toNat_false] at contrary counted
    omega
  · rw [turn.next coming]
    simp only [ThreadedSession.goto, buffers, List.take_succ_cons, List.take_zero]
  · rcases Threads.stands_moved _ _ _ _ _ there with ⟨_, contrary⟩ | ⟨_, before⟩
    · cases contrary
    · exact turn.front other peeked before

theorem in_turn_popped (emplaced started popped : List SendBuffer) (session : ThreadedSession) (thread : Nat)
    (sent : SendBuffer) (rest : List SendBuffer) (turn : InTurn emplaced started session popped)
    (sole : SoleDuty session) (stands : session.threads[thread]? = some .onWrite)
    (buffers : session.sendBufferSafeQueue.buffersToSend = sent :: rest) :
    InTurn emplaced started { session.goto thread .popped with sendBufferSafeQueue := ⟨rest⟩ } (popped ++ [sent]) := by
  have counted := Threads.count_moved isUpcoming session.threads thread .onWrite .popped stands
  have bound := sole_turn session sole
  have writing : 0 < session.threads.countP isOnWrite :=
    List.countP_pos_iff.mpr ⟨.onWrite, List.mem_of_getElem? stands, rfl⟩
  have none : upcoming session = 0 := by omega
  have same := turn.underway none
  have queued := turn.queued
  rw [buffers] at same queued
  refine ⟨?_, fun _ => same, fun contrary => ?_, fun other peeked there => ?_⟩
  · rw [queued, List.append_assoc, List.singleton_append]
  · have coming : 0 < upcoming { session.goto thread .popped with sendBufferSafeQueue := ⟨rest⟩ } := by
      unfold upcoming
      simp only [ThreadedSession.goto, isUpcoming, Bool.toNat_true, Bool.toNat_false] at counted ⊢
      omega
    omega
  · rcases Threads.stands_moved _ _ _ _ _ there with ⟨_, contrary⟩ | ⟨_, before⟩
    · cases contrary
    · have coming := upcoming_at session other (.peeked peeked) before rfl
      omega

theorem in_turn_advanced (emplaced started popped : List SendBuffer) (session next : ThreadedSession) (thread : Nat)
    (point : ThreadPoint) (turn : InTurn emplaced started session popped) (sole : SoleDuty session)
    (stands : session.threads[thread]? = some point) (taken : session.advance thread point = some next) :
    ∃ popped, InTurn emplaced (started ++ startedBy session (.advance thread)) next popped := by
  have unstarted (unpeeked : ∀ buffer, point ≠ .peeked buffer) :
      started ++ startedBy session (.advance thread) = started := by
    cases point with
    | peeked buffer => exact absurd rfl (unpeeked buffer)
    | _ => simp [startedBy, stands]
  cases point with
  | idle => cases taken
  | emplaced newSize =>
      rw [unstarted (fun _ same => by cases same)]
      rw [ThreadedSession.advance] at taken
      by_cases later : newSize > 1
      · rw [if_pos later] at taken
        cases taken
        have off : isUpcoming (.emplaced newSize) = false := by simpa [isUpcoming] using later
        refine ⟨popped, in_turn_moved _ _ _ session _ thread _ .idle turn stands rfl rfl ?_
          fun _ same => by cases same⟩
        rw [off]
        rfl
      · rw [if_neg later] at taken
        have on : isUpcoming (.emplaced newSize) = true := by simpa [isUpcoming] using later
        by_cases strands : session.useBoostStrands = true
        · rw [if_pos strands] at taken
          cases taken
          refine ⟨popped, in_turn_moved _ _ _ session _ thread _ .idle turn stands rfl rfl ?_
            fun _ same => by cases same⟩
          rw [on]
          rfl
        · rw [if_neg strands] at taken
          cases taken
          refine ⟨popped, in_turn_moved _ _ _ session _ thread _ .doWrite turn stands rfl rfl ?_
            fun _ same => by cases same⟩
          rw [on]
          rfl
  | doWrite =>
      rw [unstarted (fun _ same => by cases same)]
      obtain ⟨_, _, _, front⟩ := duty_alone session thread .doWrite sole stands rfl
      obtain ⟨first, rest, buffers⟩ := List.exists_cons_of_ne_nil front
      simp only [ThreadedSession.advance, SafeQueue.peekFront, buffers, List.head?_cons, Option.some.injEq] at taken
      subst next
      refine ⟨popped, in_turn_moved _ _ _ session _ thread _ (.peeked first) turn stands rfl rfl rfl ?_⟩
      intro buffer same
      cases same
      rw [buffers, List.head?_cons]
  | peeked buffer =>
      cases taken
      have handed : startedBy session (.advance thread) = [buffer] := by simp only [startedBy, stands]
      rw [handed]
      exact ⟨popped, in_turn_started _ _ _ session thread buffer _ turn sole stands⟩
  | onWrite =>
      rw [unstarted (fun _ same => by cases same)]
      obtain ⟨_, _, _, front⟩ := duty_alone session thread .onWrite sole stands rfl
      obtain ⟨sent, rest, buffers⟩ := List.exists_cons_of_ne_nil front
      simp only [ThreadedSession.advance, SafeQueue.popFront, buffers, Option.some.injEq] at taken
      subst next
      exact ⟨popped ++ [sent], in_turn_popped _ _ _ session thread sent rest turn sole stands buffers⟩
  | popped =>
      rw [unstarted (fun _ same => by cases same)]
      unfold ThreadedSession.advance at taken
      by_cases more : session.sendBufferSafeQueue.empty = false
      · rw [if_pos more] at taken
        cases taken
        exact ⟨popped, in_turn_moved _ _ _ session _ thread _ .doWrite turn stands rfl rfl rfl
          fun _ same => by cases same⟩
      · rw [if_neg more] at taken
        cases taken
        have sent : session.sendBufferSafeQueue.buffersToSend = [] := by simpa [SafeQueue.empty] using more
        have same := turn.next (upcoming_at session thread .popped stands rfl)
        refine ⟨popped, turn.queued, fun _ => same, fun _ => ?_, fun other peeked there => ?_⟩
        · simp only [ThreadedSession.goto, sent, same, List.take_nil, List.append_nil]
        · rcases Threads.stands_moved _ _ _ _ _ there with ⟨_, contrary⟩ | ⟨_, before⟩
          · cases contrary
          · exact turn.front other peeked before

theorem in_turn_step (emplaced started popped : List SendBuffer) (session next : ThreadedSession)
    (event : ThreadEvent) (turn : InTurn emplaced started session popped) (sole : SoleDuty session)
    (outside : OutsideWindow session event) (taken : threadStep session event = some next) :
    ∃ popped, InTurn (emplaced ++ emplacedIn [event]) (started ++ startedBy session event) next popped := by
  have going : ¬ session.undefined = true := by simp [sole.defined]
  unfold threadStep at taken
  rw [if_neg going] at taken
  cases event with
  | emplaceBack thread buffer =>
      simp only [Option.ite_none_right_eq_some, Option.some.injEq, SafeQueue.emplaceBack, List.length_append,
        List.length_singleton] at taken
      obtain ⟨idle, rfl⟩ := taken
      have unstarted : startedBy session (.emplaceBack thread buffer) = [] := rfl
      rw [unstarted, List.append_nil]
      exact ⟨popped, in_turn_emplaced _ _ _ session thread buffer turn sole idle outside⟩
  | advance thread =>
      obtain ⟨point, stands, moved⟩ := Option.bind_eq_some_iff.mp taken
      have unqueued : emplacedIn [.advance thread] = [] := rfl
      rw [unqueued, List.append_nil]
      exact in_turn_advanced _ _ _ session next thread point turn sole stands moved
  | ranPosted thread =>
      simp only [Option.ite_none_right_eq_some, Option.some.injEq] at taken
      obtain ⟨⟨idle, waiting, _⟩, rfl⟩ := taken
      have unqueued : emplacedIn [.ranPosted thread] = [] := rfl
      have unstarted : startedBy session (.ranPosted thread) = [] := rfl
      rw [unqueued, unstarted, List.append_nil, List.append_nil]
      refine ⟨popped, in_turn_moved _ _ _ session _ thread _ .doWrite turn idle rfl rfl ?_
        fun _ same => by cases same⟩
      simp only [isUpcoming, Bool.toNat_true, Bool.toNat_false]
      omega
  | wrote thread index ec =>
      simp only [Option.ite_none_right_eq_some] at taken
      obtain ⟨⟨idle, _⟩, completed⟩ := taken
      have unqueued : emplacedIn [.wrote thread index ec] = [] := rfl
      have unstarted : startedBy session (.wrote thread index ec) = [] := rfl
      rw [unqueued, unstarted, List.append_nil, List.append_nil]
      cases ec with
      | none =>
          cases completed
          exact ⟨popped, in_turn_moved _ _ _ session _ thread _ .onWrite turn idle rfl rfl rfl
            fun _ same => by cases same⟩
      | some what =>
          cases completed
          exact ⟨popped, turn.queued, turn.next, turn.underway, turn.front⟩

theorem in_turn_run (events : List ThreadEvent) (emplaced started popped : List SendBuffer)
    (session final : ThreadedSession) (turn : InTurn emplaced started session popped) (sole : SoleDuty session)
    (outside : Transition.Meets threadStep OutsideWindow session events)
    (reached : Transition.run threadStep session events = some final) :
    SoleDuty final ∧ ∃ popped, InTurn (emplaced ++ emplacedIn events) (started ++ startedIn session events)
      final popped := by
  induction events generalizing emplaced started popped session with
  | nil =>
      rw [Transition.run_nil] at reached
      subst final
      exact ⟨sole, popped, by simpa [emplacedIn, startedIn] using turn⟩
  | cons event rest ih =>
      obtain ⟨next, taken, onward⟩ := (Transition.run_cons _ _ _ _ _).mp reached
      obtain ⟨allowed, later⟩ := (Transition.meets_cons _ _ _ next event rest taken).mp outside
      obtain ⟨after, turned⟩ := in_turn_step _ _ _ session next event turn sole allowed taken
      have alone := sole_duty_step session next event sole allowed taken
      have done := ih _ _ after next turned alone later onward
      have appended : emplacedIn (event :: rest) = emplacedIn [event] ++ emplacedIn rest := by
        rw [emplacedIn, ← List.singleton_append, List.filterMap_append]
        rfl
      rw [appended, startedIn, taken, ← List.append_assoc, ← List.append_assoc]
      exact done

-- No buffer is left behind: as long as the queue is not empty somebody has taken
-- it on, unless a write failed, after which nobody pops the front.
def Attended (session : ThreadedSession) : Prop :=
  session.sendBufferSafeQueue.buffersToSend ≠ [] → 0 < duties session + session.threads.countP isPopped

theorem attended_moved (session next : ThreadedSession) (thread : Nat) (point target : ThreadPoint)
    (attended : Attended session) (stands : session.threads[thread]? = some point)
    (moved : next.threads = session.threads.set thread target)
    (queued : next.sendBufferSafeQueue.buffersToSend ≠ [] → session.sendBufferSafeQueue.buffersToSend ≠ [])
    (handed : next.posted + next.pendingWrites.length + (onDuty target).toNat + (isPopped target).toNat =
      session.posted + session.pendingWrites.length + (onDuty point).toNat + (isPopped point).toNat) :
    Attended next := by
  intro busy
  have counted := Threads.count_moved onDuty session.threads thread point target stands
  have popped := Threads.count_moved isPopped session.threads thread point target stands
  have before := attended (queued busy)
  unfold duties at before ⊢
  rw [moved]
  omega

theorem attended_emplaced (session : ThreadedSession) (thread : Nat) (buffer : SendBuffer)
    (attended : Attended session) (idle : session.threads[thread]? = some .idle) :
    Attended { session.goto thread (.emplaced (session.sendBufferSafeQueue.buffersToSend.length + 1)) with
      sendBufferSafeQueue := ⟨session.sendBufferSafeQueue.buffersToSend ++ [buffer]⟩ } := by
  by_cases empty : session.sendBufferSafeQueue.buffersToSend = []
  · intro _
    have counted := Threads.count_moved onDuty session.threads thread .idle
      (.emplaced (session.sendBufferSafeQueue.buffersToSend.length + 1)) idle
    have one : (onDuty (.emplaced (session.sendBufferSafeQueue.buffersToSend.length + 1))).toNat = 1 := by
      simp [onDuty, empty]
    rw [one] at counted
    simp only [duties, ThreadedSession.goto]
    simp only [onDuty, Bool.toNat_false] at counted
    omega
  · have none : (onDuty (.emplaced (session.sendBufferSafeQueue.buffersToSend.length + 1))).toNat = 0 := by
      simp [onDuty, List.length_eq_zero_iff, empty]
    refine attended_moved session _ thread .idle _ attended idle rfl (fun _ => empty) ?_
    rw [none]
    rfl

theorem attended_advanced (session next : ThreadedSession) (thread : Nat) (point : ThreadPoint)
    (attended : Attended session) (stands : session.threads[thread]? = some point)
    (taken : session.advance thread point = some next) : Attended next := by
  cases point with
  | idle => cases taken
  | emplaced newSize =>
      rw [ThreadedSession.advance] at taken
      by_cases later : newSize > 1
      · rw [if_pos later] at taken
        cases taken
        have off : onDuty (.emplaced newSize) = false := by simpa [onDuty] using later
        refine attended_moved session _ thread _ .idle attended stands rfl id ?_
        rw [off]
        rfl
      · rw [if_neg later] at taken
        have on : onDuty (.emplaced newSize) = true := by simpa [onDuty] using later
        by_cases strands : session.useBoostStrands = true
        · rw [if_pos strands] at taken
          cases taken
          refine attended_moved session _ thread _ .idle attended stands rfl id ?_
          rw [on]
          simp only [ThreadedSession.goto, onDuty, isPopped, Bool.toNat_true, Bool.toNat_false]
          omega
        · rw [if_neg strands] at taken
          cases taken
          refine attended_moved session _ thread _ .doWrite attended stands rfl id ?_
          rw [on]
          rfl
  | doWrite =>
      rw [ThreadedSession.advance] at taken
      cases front : session.sendBufferSafeQueue.peekFront with
      | none =>
          rw [front] at taken
          cases taken
          exact attended
      | some buffer =>
          rw [front] at taken
          cases taken
          exact attended_moved session _ thread _ (.peeked buffer) attended stands rfl id rfl
  | peeked buffer =>
      cases taken
      refine attended_moved session _ thread _ .idle attended stands rfl id ?_
      simp only [ThreadedSession.goto, List.length_append, List.length_singleton, onDuty, isPopped, Bool.toNat_true,
        Bool.toNat_false]
      omega
  | onWrite =>
      rw [ThreadedSession.advance] at taken
      cases buffers : session.sendBufferSafeQueue.buffersToSend with
      | nil =>
          have none : session.sendBufferSafeQueue.popFront = none := by simp only [SafeQueue.popFront, buffers]
          rw [none] at taken
          cases taken
          exact attended
      | cons sent rest =>
          have some : session.sendBufferSafeQueue.popFront = some ⟨rest⟩ := by simp only [SafeQueue.popFront, buffers]
          rw [some] at taken
          cases taken
          refine attended_moved session _ thread _ .popped attended stands rfl (fun _ => ?_) rfl
          rw [buffers]
          exact List.cons_ne_nil _ _
  | popped =>
      unfold ThreadedSession.advance at taken
      by_cases more : session.sendBufferSafeQueue.empty = false
      · rw [if_pos more] at taken
        cases taken
        exact attended_moved session _ thread _ .doWrite attended stands rfl id rfl
      · rw [if_neg more] at taken
        cases taken
        intro busy
        have sent : session.sendBufferSafeQueue.buffersToSend = [] := by simpa [SafeQueue.empty] using more
        exact absurd sent busy

theorem attended_step (session next : ThreadedSession) (event : ThreadEvent) (attended : Attended session)
    (succeeds : writeFails event = false) (taken : threadStep session event = some next) : Attended next := by
  unfold threadStep at taken
  by_cases stopped : session.undefined = true
  · rw [if_pos stopped] at taken
    cases taken
  rw [if_neg stopped] at taken
  cases event with
  | emplaceBack thread buffer =>
      simp only [Option.ite_none_right_eq_some, Option.some.injEq, SafeQueue.emplaceBack, List.length_append,
        List.length_singleton] at taken
      obtain ⟨idle, rfl⟩ := taken
      exact attended_emplaced session thread buffer attended idle
  | advance thread =>
      obtain ⟨point, stands, moved⟩ := Option.bind_eq_some_iff.mp taken
      exact attended_advanced session next thread point attended stands moved
  | ranPosted thread =>
      simp only [Option.ite_none_right_eq_some, Option.some.injEq] at taken
      obtain ⟨⟨idle, waiting, _⟩, rfl⟩ := taken
      refine attended_moved session _ thread _ .doWrite attended idle rfl id ?_
      simp only [ThreadedSession.goto, onDuty, isPopped, Bool.toNat_true, Bool.toNat_false]
      omega
  | wrote thread index ec =>
      simp only [Option.ite_none_right_eq_some] at taken
      obtain ⟨⟨idle, within⟩, completed⟩ := taken
      cases ec with
      | some what => cases succeeds
      | none =>
          cases completed
          have shorter : (session.pendingWrites.eraseIdx index).length + 1 = session.pendingWrites.length := by
            rw [List.length_eraseIdx_of_lt within]
            omega
          refine attended_moved session _ thread _ .onWrite attended idle rfl id ?_
          simp only [ThreadedSession.goto, onDuty, isPopped, Bool.toNat_true, Bool.toNat_false]
          omega

theorem attended_run (useBoostStrands : Bool) (totalThreads : Nat) (events : List ThreadEvent)
    (session : ThreadedSession) (succeed : ∀ event ∈ events, writeFails event = false)
    (reached : Transition.run threadStep (.create useBoostStrands totalThreads) events = some session) :
    Attended session := by
  have allowed := Transition.meets_all threadStep (fun _ event => writeFails event = false)
    (.create useBoostStrands totalThreads) events fun event member _ => succeed event member
  refine Transition.run_keeps_guarded threadStep (fun _ event => writeFails event = false) Attended ?_ events _ session
    (fun busy => absurd rfl busy) allowed reached
  intro state event next attended succeeds taken
  exact attended_step state next event attended succeeds taken

def Quiesced (session : ThreadedSession) : Prop :=
  session.posted = 0 ∧ session.pendingWrites = [] ∧ ∀ point ∈ session.threads, point = .idle

instance (session : ThreadedSession) : Decidable (Quiesced session) :=
  inferInstanceAs (Decidable (_ ∧ _ ∧ _))

theorem quiesced_sent (session : ThreadedSession) (attended : Attended session) (rest : Quiesced session) :
    session.sendBufferSafeQueue.buffersToSend = [] := by
  obtain ⟨unposted, unwritten, idle⟩ := rest
  have off (counted : ThreadPoint → Bool) (none : counted .idle = false) : session.threads.countP counted = 0 := by
    rw [List.countP_eq_zero]
    intro point member
    rw [idle point member, none]
    exact Bool.false_ne_true
  by_contra busy
  have some := attended busy
  unfold duties at some
  rw [off onDuty rfl, off isPopped rfl, unposted, unwritten] at some
  exact absurd some (Nat.lt_irrefl 0)

theorem writes_started_in_order (useBoostStrands : Bool) (totalThreads : Nat) (events : List ThreadEvent)
    (session : ThreadedSession)
    (reached : Transition.run threadStep (.create useBoostStrands totalThreads) events = some session)
    (outside : Transition.Meets threadStep OutsideWindow (.create useBoostStrands totalThreads) events) :
    startedIn (.create useBoostStrands totalThreads) events <+: emplacedIn events ∧
      ((∀ event ∈ events, writeFails event = false) → Quiesced session →
        startedIn (.create useBoostStrands totalThreads) events = emplacedIn events) := by
  obtain ⟨_, popped, turn⟩ := in_turn_run events [] [] [] _ session (in_turn_created useBoostStrands totalThreads)
    (sole_duty_created useBoostStrands totalThreads) outside reached
  rw [List.nil_append, List.nil_append] at turn
  refine ⟨in_turn_initial _ _ _ session turn, fun succeed rest => ?_⟩
  have sent := quiesced_sent session (attended_run useBoostStrands totalThreads events session succeed reached) rest
  have queued := turn.queued
  rw [sent, List.append_nil] at queued
  rcases Nat.eq_zero_or_pos (upcoming session) with none | some
  · have underway := turn.underway none
    rw [sent, List.take_nil, List.append_nil] at underway
    rw [underway, queued]
  · rw [turn.next some, queued]

def sentTwice : List ThreadEvent :=
  [.emplaceBack 0 ⟨[101], by decide⟩, .advance 0, .ranPosted 1, .advance 1, .emplaceBack 0 ⟨[102], by decide⟩,
    .advance 1, .wrote 1 0 none, .advance 0, .advance 1, .advance 1, .advance 1, .advance 1, .wrote 0 0 none,
    .advance 0, .advance 0]

theorem writes_in_order_sent_twice :
    startedIn (.create true 2) sentTwice = [⟨[101], by decide⟩, ⟨[102], by decide⟩] ∧
      startedIn (.create true 2) sentTwice = emplacedIn sentTwice :=
  ⟨rfl, (writes_started_in_order true 2 sentTwice _ rfl (by decide)).2 (by decide) (by decide)⟩

end NetworkWrapper
