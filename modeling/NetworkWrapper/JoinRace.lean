import NetworkWrapper.MainLogic
import NetworkWrapper.Threads
import NetworkWrapper.Transition

set_option autoImplicit false

-- The main logic under several threads with the thread-safe session manager.
-- Each operation of the manager holds its mutex throughout, so the steps other
-- threads can come between are those operations and what lies between them. The
-- work on _allPlayersData and _lastPlayerId has no lock: each piece of it is taken
-- as one step, the data race between two pieces is not modelled.
namespace NetworkWrapper

open WebSocketMainLogicServer

-- Of a session only the texts written to it matter here.
abbrev TextLog := SessionId → List Bytes

def recorded (target : SessionId) (data : Bytes) (log : TextLog) : TextLog :=
  Function.update log target (log target ++ [data])

def recordText (target : SessionId) (data : Bytes) (log : TextLog) : Outcome TextLog :=
  .returned (recorded target data log)

theorem record_writes : Writes recordText recorded := fun _ _ _ _ => rfl

inductive CallPoint where
  | idle
  | playerCreated (newWsSession : SessionId) (id : Int)
  | clientAnnounced (newWsSession : SessionId) (id : Int)
  | sessionAdded (newWsSession : SessionId) (id : Int)
  | playerRead (disconnectedWsSession : SessionId) (currPlayerData : Option Address) (playerId : Int)
  | sessionRemoved (currPlayerData : Option Address) (playerId : Int)
  | playerErased (playerId : Int)
deriving DecidableEq

-- ids and completed are ghost state: the id each client was given, and the
-- clients whose _onNewClient has returned.
structure ThreadedServer where
  process : Process (LogicWorld TextLog)
  threads : List CallPoint
  ids : SessionId → Option Int
  completed : List SessionId

namespace ThreadedServer

def create (totalThreads : Nat) : ThreadedServer :=
  { process := ⟨⟨fun _ => [], initial⟩, .running⟩, threads := List.replicate totalThreads .idle, ids := fun _ => none,
    completed := [] }

def resume (server : ThreadedServer) (thread : Nat) (outcome : Outcome (LogicWorld TextLog)) (point : CallPoint) :
    ThreadedServer :=
  { server with process := settle outcome, threads := server.threads.set thread point }

def advance (server : ThreadedServer) (thread : Nat) : CallPoint → Option ThreadedServer
  | .idle => none
  | .playerCreated newWsSession id =>
      some (server.resume thread (announce recordText (newClientText id) server.process.world)
        (.clientAnnounced newWsSession id))
  | .clientAnnounced newWsSession id =>
      let world := server.process.world
      some (server.resume thread (.returned { world with app := addSession newWsSession world.app })
        (.sessionAdded newWsSession id))
  | .sessionAdded newWsSession id =>
      some { server.resume thread (writeTo recordText newWsSession (welcomeText id) server.process.world) .idle with
        completed := server.completed ++ [newWsSession] }
  | .playerRead disconnectedWsSession currPlayerData playerId =>
      some (server.resume thread (removeSession disconnectedWsSession server.process.world)
        (.sessionRemoved currPlayerData playerId))
  | .sessionRemoved currPlayerData playerId =>
      let world := server.process.world
      some (server.resume thread (.returned { world with app := erasePlayer currPlayerData world.app })
        (.playerErased playerId))
  | .playerErased playerId =>
      some (server.resume thread (announce recordText (clientLeftText playerId) server.process.world) .idle)

end ThreadedServer

inductive CallEvent where
  | newClient (thread : Nat) (newWsSession : SessionId) (address : Address)
  | lostClient (thread : Nat) (disconnectedWsSession : SessionId)
  | advance (thread : Nat)
deriving DecidableEq, Repr

-- A session connects once; the loss of any session may be reported at any time.
def callStep (stale : Address → Option Int) (server : ThreadedServer) (event : CallEvent) : Option ThreadedServer :=
  if server.process.ending = .running then
    let world := server.process.world
    match event with
    | .newClient thread newWsSession address =>
        if server.threads[thread]? = some .idle ∧ server.ids newWsSession = none then
          some { server.resume thread (.returned { world with app := createPlayer newWsSession address world.app })
            (.playerCreated newWsSession world.app.lastPlayerId) with
            ids := Function.update server.ids newWsSession (some world.app.lastPlayerId) }
        else none
    | .lostClient thread disconnectedWsSession =>
        if server.threads[thread]? = some .idle then
          match playerId stale disconnectedWsSession world.app with
          | none => some (server.resume thread (.undefined world) .idle)
          | some playerId =>
              some (server.resume thread (.returned world)
                (.playerRead disconnectedWsSession (world.app.userData disconnectedWsSession) playerId))
        else none
    | .advance thread => server.threads[thread]?.bind (server.advance thread)
  else none

def ToldApart (server : ThreadedServer) : Prop :=
  ∀ first second firstId secondId, first ≠ second →
    server.ids first = some firstId → server.ids second = some secondId →
    first ∈ server.completed → second ∈ server.completed →
    first ∈ server.process.world.app.allSessions → second ∈ server.process.world.app.allSessions →
    newClientText secondId ∈ server.process.world.host first ∨ newClientText firstId ∈ server.process.world.host second

def betweenBroadcastAndAdd : CallPoint → Bool
  | .clientAnnounced _ _ => true
  | _ => false

def aboutToBroadcast : CallPoint → Bool
  | .playerCreated _ _ => true
  | _ => false

def JoinsApart (server : ThreadedServer) : CallEvent → Prop
  | .advance thread => (server.threads[thread]?.any aboutToBroadcast) = true →
      server.threads.all (fun point => !betweenBroadcastAndAdd point) = true
  | _ => True

instance (server : ThreadedServer) : (event : CallEvent) → Decidable (JoinsApart server event)
  | .newClient _ _ _ => isTrue trivial
  | .lostClient _ _ => isTrue trivial
  | .advance _ => inferInstanceAs (Decidable (_ → _))

theorem recorded_same (target : SessionId) (data : Bytes) (log : TextLog) :
    recorded target data log target = log target ++ [data] :=
  Function.update_self _ _ _

theorem recorded_kept (self target : SessionId) (data text : Bytes) (log : TextLog) (before : text ∈ log self) :
    text ∈ recorded target data log self := by
  by_cases same : self = target
  · subst target
    rw [recorded_same]
    exact List.mem_append_left _ before
  · have kept : recorded target data log self = log self := Function.update_of_ne same _ _
    rwa [kept]

theorem deliver_all_kept (self : SessionId) (recipients : List SessionId) (data text : Bytes) (log : TextLog)
    (before : text ∈ log self) : text ∈ deliverAll recorded recipients data log self := by
  induction recipients generalizing log with
  | nil => exact before
  | cons target rest ih => exact ih _ (recorded_kept self target data text log before)

theorem deliver_all_told (self : SessionId) (recipients : List SessionId) (text : Bytes) (log : TextLog)
    (member : self ∈ recipients) : text ∈ deliverAll recorded recipients text log self := by
  induction recipients generalizing log with
  | nil => cases member
  | cons target rest ih =>
      rcases List.mem_cons.mp member with same | later
      · subst target
        rw [deliver_all_cons]
        apply deliver_all_kept
        rw [recorded_same]
        exact List.mem_append_right _ List.mem_cons_self
      · exact ih _ later

theorem announce_records (text : Bytes) (given : text ≠ []) (world : LogicWorld TextLog) :
    announce recordText text world =
      .returned { world with host := deliverAll recorded world.app.allSessions text world.host } :=
  for_each_write_returns recordText recorded record_writes text given world.app.allSessions world

theorem join_uninterrupted (stale : Address → Option Int) (server : ThreadedServer) (thread : Nat) (newWsSession : SessionId)
    (address : Address) (running : server.process.ending = .running)
    (idle : server.threads[thread]? = some .idle) (unknown : server.ids newWsSession = none) :
    ∃ next, Transition.run (callStep stale) server
        [.newClient thread newWsSession address, .advance thread, .advance thread, .advance thread] = some next ∧
      next.process = settle (onNewClient recordText newWsSession address server.process.world) ∧
      next.threads = server.threads ∧ next.completed = server.completed ++ [newWsSession] := by
  obtain ⟨within, reads⟩ := List.getElem?_eq_some_iff.mp idle
  have restored := Threads.stays_put server.threads thread .idle idle
  refine ⟨⟨settle (onNewClient recordText newWsSession address server.process.world), server.threads,
    Function.update server.ids newWsSession (some server.process.world.app.lastPlayerId),
    server.completed ++ [newWsSession]⟩, ?_, rfl, rfl, rfl⟩
  simp [Transition.run, callStep, running, reads, unknown, ThreadedServer.resume, ThreadedServer.advance, within, restored,
    announce_records _ (new_client_nonempty _), settle, write_to_returns recordText recorded record_writes _ _
      (welcome_nonempty _), on_new_client_returns recordText recorded record_writes, createPlayer, addSession, joined]

structure Separated (server : ThreadedServer) : Prop where
  known : ∀ registered ∈ server.process.world.app.allSessions, server.ids registered ≠ none
  created : ∀ (thread : Nat) (newWsSession : SessionId) (id : Int),
    server.threads[thread]? = some (.playerCreated newWsSession id) → server.ids newWsSession = some id
  announced : ∀ (thread : Nat) (newWsSession : SessionId) (id : Int),
    server.threads[thread]? = some (.clientAnnounced newWsSession id) → server.ids newWsSession = some id ∧
      ∀ registered ∈ server.process.world.app.allSessions, newClientText id ∈ server.process.world.host registered
  alone : ∀ (one other : Nat) (onePoint otherPoint : CallPoint), server.threads[one]? = some onePoint →
    server.threads[other]? = some otherPoint → betweenBroadcastAndAdd onePoint = true →
    betweenBroadcastAndAdd otherPoint = true → one = other
  told : ∀ first second firstId secondId, first ≠ second →
    server.ids first = some firstId → server.ids second = some secondId →
    first ∈ server.process.world.app.allSessions → second ∈ server.process.world.app.allSessions →
    newClientText secondId ∈ server.process.world.host first ∨ newClientText firstId ∈ server.process.world.host second

theorem separated_told (server : ThreadedServer) (separated : Separated server) : ToldApart server := by
  intro first second firstId secondId different firstNumber secondNumber _ _ firstStays secondStays
  exact separated.told first second firstId secondId different firstNumber secondNumber firstStays secondStays

theorem separated_created (totalThreads : Nat) : Separated (.create totalThreads) := by
  have idle (thread : Nat) (point : CallPoint)
      (stands : (List.replicate totalThreads CallPoint.idle)[thread]? = some point) : point = .idle :=
    List.eq_of_mem_replicate (List.mem_of_getElem? stands)
  refine ⟨?_, ?_, ?_, ?_, ?_⟩
  · intro registered member
    cases member
  · intro thread newWsSession id stands
    cases idle thread _ stands
  · intro thread newWsSession id stands
    cases idle thread _ stands
  · intro one other onePoint otherPoint stands _ between _
    rw [idle one _ stands] at between
    cases between
  · intro first second firstId secondId _ _ _ member
    cases member

theorem separated_moved (server next : ThreadedServer) (thread : Nat) (target : CallPoint)
    (separated : Separated server) (moved : next.threads = server.threads.set thread target)
    (sameIds : next.ids = server.ids)
    (fewer : ∀ registered ∈ next.process.world.app.allSessions, registered ∈ server.process.world.app.allSessions)
    (grown : ∀ self text, text ∈ server.process.world.host self → text ∈ next.process.world.host self)
    (uncreated : aboutToBroadcast target = false) (unannounced : betweenBroadcastAndAdd target = false) :
    Separated next := by
  have earlier (other : Nat) (point : CallPoint) (stands : next.threads[other]? = some point)
      (different : point ≠ target) : server.threads[other]? = some point := by
    rw [moved] at stands
    rcases Threads.stands_moved _ _ _ _ _ stands with ⟨_, same⟩ | ⟨_, before⟩
    · exact absurd same different
    · exact before
  refine ⟨?_, ?_, ?_, ?_, ?_⟩
  · intro registered member
    rw [sameIds]
    exact separated.known registered (fewer registered member)
  · intro other newWsSession id stands
    rw [sameIds]
    refine separated.created other newWsSession id (earlier other _ stands ?_)
    rintro rfl
    cases uncreated
  · intro other newWsSession id stands
    have before := earlier other _ stands (by
      rintro rfl
      cases unannounced)
    obtain ⟨number, told⟩ := separated.announced other newWsSession id before
    rw [sameIds]
    exact ⟨number, fun registered member => grown registered _ (told registered (fewer registered member))⟩
  · intro one other onePoint otherPoint oneStands otherStands oneBetween otherBetween
    have apart (point : CallPoint) (between : betweenBroadcastAndAdd point = true) : point ≠ target := by
      rintro rfl
      rw [between] at unannounced
      cases unannounced
    exact separated.alone one other onePoint otherPoint (earlier one _ oneStands (apart _ oneBetween))
      (earlier other _ otherStands (apart _ otherBetween)) oneBetween otherBetween
  · intro first second firstId secondId different firstNumber secondNumber firstStays secondStays
    rw [sameIds] at firstNumber secondNumber
    rcases separated.told first second firstId secondId different firstNumber secondNumber
      (fewer first firstStays) (fewer second secondStays) with told | told
    · exact .inl (grown first _ told)
    · exact .inr (grown second _ told)

theorem separated_began (server : ThreadedServer) (separated : Separated server) (thread : Nat)
    (newWsSession : SessionId) (address : Address) (unknown : server.ids newWsSession = none) :
    Separated { server.resume thread (.returned { server.process.world with
        app := createPlayer newWsSession address server.process.world.app })
        (.playerCreated newWsSession server.process.world.app.lastPlayerId) with
      ids := Function.update server.ids newWsSession (some server.process.world.app.lastPlayerId) } := by
  have kept (other : SessionId) (id : Int) (numbered : server.ids other = some id) :
      Function.update server.ids newWsSession (some server.process.world.app.lastPlayerId) other = some id := by
    have different : other ≠ newWsSession := by
      rintro rfl
      rw [unknown] at numbered
      cases numbered
    rw [Function.update_of_ne different, numbered]
  have before (other : SessionId) (member : other ∈ server.process.world.app.allSessions) :
      Function.update server.ids newWsSession (some server.process.world.app.lastPlayerId) other = server.ids other := by
    have different : other ≠ newWsSession := fun same => separated.known other member (same ▸ unknown)
    exact Function.update_of_ne different _ _
  refine ⟨?_, ?_, ?_, ?_, ?_⟩
  · intro registered member
    have known := separated.known registered member
    rwa [← before registered member] at known
  · intro other session id stands
    rcases Threads.stands_moved _ _ _ _ _ stands with ⟨_, same⟩ | ⟨_, earlier⟩
    · cases same
      exact Function.update_self _ _ _
    · exact kept session id (separated.created other session id earlier)
  · intro other session id stands
    rcases Threads.stands_moved _ _ _ _ _ stands with ⟨_, same⟩ | ⟨_, earlier⟩
    · cases same
    · obtain ⟨number, told⟩ := separated.announced other session id earlier
      exact ⟨kept session id number, told⟩
  · intro one other onePoint otherPoint oneStands otherStands oneBetween otherBetween
    rcases Threads.stands_moved _ _ _ _ _ oneStands with ⟨_, same⟩ | ⟨_, oneEarlier⟩
    · rw [same] at oneBetween
      cases oneBetween
    rcases Threads.stands_moved _ _ _ _ _ otherStands with ⟨_, same⟩ | ⟨_, otherEarlier⟩
    · rw [same] at otherBetween
      cases otherBetween
    exact separated.alone one other onePoint otherPoint oneEarlier otherEarlier oneBetween otherBetween
  · intro first second firstId secondId different firstNumber secondNumber firstStays secondStays
    have firstBefore := (before first firstStays).symm.trans firstNumber
    have secondBefore := (before second secondStays).symm.trans secondNumber
    exact separated.told first second firstId secondId different firstBefore secondBefore firstStays secondStays

theorem separated_broadcast (server : ThreadedServer) (separated : Separated server) (thread : Nat)
    (newWsSession : SessionId) (id : Int) (stands : server.threads[thread]? = some (.playerCreated newWsSession id))
    (apart : server.threads.all (fun point => !betweenBroadcastAndAdd point) = true) :
    Separated (server.resume thread (announce recordText (newClientText id) server.process.world)
      (.clientAnnounced newWsSession id)) := by
  have nobody (other : Nat) (point : CallPoint) (reads : server.threads[other]? = some point) :
      betweenBroadcastAndAdd point = false := by
    simpa using List.all_eq_true.mp apart point (List.mem_of_getElem? reads)
  rw [announce_records _ (new_client_nonempty id)]
  have grown (self : SessionId) (text : Bytes) (before : text ∈ server.process.world.host self) :
      text ∈ deliverAll recorded server.process.world.app.allSessions (newClientText id) server.process.world.host self :=
    deliver_all_kept self _ _ text _ before
  refine ⟨separated.known, ?_, ?_, ?_, ?_⟩
  · intro other session otherId reads
    rcases Threads.stands_moved _ _ _ _ _ reads with ⟨_, same⟩ | ⟨_, earlier⟩
    · cases same
    · exact separated.created other session otherId earlier
  · intro other session otherId reads
    rcases Threads.stands_moved _ _ _ _ _ reads with ⟨_, same⟩ | ⟨_, earlier⟩
    · cases same
      exact ⟨separated.created thread newWsSession id stands, fun registered member => deliver_all_told _ _ _ _ member⟩
    · cases nobody other _ earlier
  · intro one other onePoint otherPoint oneStands otherStands oneBetween otherBetween
    rcases Threads.stands_moved _ _ _ _ _ oneStands with ⟨oneSame, _⟩ | ⟨_, oneEarlier⟩
    · rcases Threads.stands_moved _ _ _ _ _ otherStands with ⟨otherSame, _⟩ | ⟨_, otherEarlier⟩
      · rw [oneSame, otherSame]
      · rw [nobody other _ otherEarlier] at otherBetween
        cases otherBetween
    · rw [nobody one _ oneEarlier] at oneBetween
      cases oneBetween
  · intro first second firstId secondId different firstNumber secondNumber firstStays secondStays
    rcases separated.told first second firstId secondId different firstNumber secondNumber firstStays secondStays
      with told | told
    · exact .inl (grown first _ told)
    · exact .inr (grown second _ told)

theorem separated_added (server : ThreadedServer) (separated : Separated server) (thread : Nat)
    (newWsSession : SessionId) (id : Int)
    (stands : server.threads[thread]? = some (.clientAnnounced newWsSession id)) :
    Separated (server.resume thread
      (.returned { server.process.world with app := addSession newWsSession server.process.world.app })
      (.sessionAdded newWsSession id)) := by
  obtain ⟨number, told⟩ := separated.announced thread newWsSession id stands
  have alone (other : Nat) (point : CallPoint) (different : other ≠ thread)
      (reads : server.threads[other]? = some point) : betweenBroadcastAndAdd point = false := by
    by_contra between
    exact different (separated.alone other thread _ _ reads stands (by simpa using between) rfl)
  have members (registered : SessionId) (member : registered ∈ server.process.world.app.allSessions ++ [newWsSession]) :
      registered ∈ server.process.world.app.allSessions ∨ registered = newWsSession := by
    simpa using member
  refine ⟨?_, ?_, ?_, ?_, ?_⟩
  · intro registered member
    rcases members registered member with before | rfl
    · exact separated.known registered before
    · exact fun unknown => by simp [ThreadedServer.resume, number] at unknown
  · intro other session otherId reads
    rcases Threads.stands_moved _ _ _ _ _ reads with ⟨_, same⟩ | ⟨_, earlier⟩
    · cases same
    · exact separated.created other session otherId earlier
  · intro other session otherId reads
    rcases Threads.stands_moved _ _ _ _ _ reads with ⟨_, same⟩ | ⟨different, earlier⟩
    · cases same
    · cases alone other _ different earlier
  · intro one other onePoint otherPoint oneStands otherStands oneBetween otherBetween
    rcases Threads.stands_moved _ _ _ _ _ oneStands with ⟨_, same⟩ | ⟨different, earlier⟩
    · rw [same] at oneBetween
      cases oneBetween
    · rw [alone one _ different earlier] at oneBetween
      cases oneBetween
  · intro first second firstId secondId different firstNumber secondNumber firstStays secondStays
    rcases members first firstStays with firstBefore | rfl
    · rcases members second secondStays with secondBefore | rfl
      · exact separated.told first second firstId secondId different firstNumber secondNumber firstBefore secondBefore
      · have same : secondId = id := Option.some.inj (secondNumber.symm.trans number)
        exact .inl (same ▸ told first firstBefore)
    · have same : firstId = id := Option.some.inj (firstNumber.symm.trans number)
      rcases members second secondStays with secondBefore | rfl
      · exact .inr (same ▸ told second secondBefore)
      · exact absurd rfl different

theorem remove_session_world (wsSession : SessionId) (world : LogicWorld TextLog) :
    (removeSession wsSession world).world.host = world.host ∧
      ∀ registered ∈ (removeSession wsSession world).world.app.allSessions, registered ∈ world.app.allSessions := by
  by_cases member : wsSession ∈ world.app.allSessions
  · obtain ⟨rest, removed, shuffled⟩ := erase_by_value_perm world.app.allSessions wsSession member
    rw [remove_session_registered wsSession rest world removed]
    exact ⟨rfl, fun registered stays => shuffled.mem_iff.mpr (List.mem_cons_of_mem _ stays)⟩
  · rw [remove_session_unknown wsSession world member]
    exact ⟨rfl, fun _ stays => stays⟩

theorem separated_step (stale : Address → Option Int) (server next : ThreadedServer) (event : CallEvent)
    (separated : Separated server) (apart : JoinsApart server event) (taken : callStep stale server event = some next) :
    Separated next := by
  simp only [callStep, Option.ite_none_right_eq_some] at taken
  obtain ⟨_, taken⟩ := taken
  cases event with
  | newClient thread newWsSession address =>
      simp only [Option.ite_none_right_eq_some, Option.some.injEq] at taken
      obtain ⟨⟨_, unknown⟩, rfl⟩ := taken
      exact separated_began server separated thread newWsSession address unknown
  | lostClient thread disconnectedWsSession =>
      simp only [Option.ite_none_right_eq_some] at taken
      obtain ⟨_, read⟩ := taken
      split at read <;>
        (cases read
         exact separated_moved server _ thread _ separated rfl rfl (fun _ member => member) (fun _ _ before => before)
           rfl rfl)
  | advance thread =>
      obtain ⟨point, stands, moved⟩ := Option.bind_eq_some_iff.mp taken
      cases point with
      | idle => cases moved
      | playerCreated newWsSession id =>
          cases moved
          exact separated_broadcast server separated thread newWsSession id stands (apart (by simp [stands, aboutToBroadcast]))
      | clientAnnounced newWsSession id =>
          cases moved
          exact separated_added server separated thread newWsSession id stands
      | sessionAdded newWsSession id =>
          cases moved
          exact separated_moved server _ thread .idle separated rfl rfl (fun _ member => member)
            (fun self text before => recorded_kept self newWsSession _ text _ before) rfl rfl
      | playerRead disconnectedWsSession currPlayerData playerId =>
          cases moved
          obtain ⟨sameTexts, fewer⟩ := remove_session_world disconnectedWsSession server.process.world
          refine separated_moved server _ thread (.sessionRemoved currPlayerData playerId) separated rfl rfl ?_ ?_ rfl rfl
          · simpa only [ThreadedServer.resume, settle_world] using fewer
          · intro self text before
            simpa only [ThreadedServer.resume, settle_world, sameTexts] using before
      | sessionRemoved currPlayerData playerId =>
          cases moved
          exact separated_moved server _ thread (.playerErased playerId) separated rfl rfl (fun _ member => member)
            (fun _ _ before => before) rfl rfl
      | playerErased playerId =>
          cases moved
          have announced := announce_records (clientLeftText playerId) (client_left_nonempty playerId)
            server.process.world
          refine separated_moved server _ thread .idle separated rfl rfl ?_ ?_ rfl rfl
          · intro registered member
            simpa only [ThreadedServer.resume, announced, settle_world, Outcome.world_returned] using member
          · intro self text before
            simp only [ThreadedServer.resume, announced]
            exact deliver_all_kept self _ _ text _ before

theorem told_when_joins_apart (stale : Address → Option Int) (totalThreads : Nat) (events : List CallEvent)
    (server : ThreadedServer) (reached : Transition.run (callStep stale) (.create totalThreads) events = some server)
    (apart : Transition.Meets (callStep stale) JoinsApart (.create totalThreads) events) : ToldApart server := by
  apply separated_told
  exact Transition.run_keeps_guarded (callStep stale) JoinsApart Separated
    (fun state event next separated allowed taken => separated_step stale state next event separated allowed taken)
    events _ server (separated_created totalThreads) apart reached

def joinedApart : List CallEvent :=
  [.newClient 0 5 10, .newClient 1 6 11, .advance 0, .advance 0, .advance 1, .advance 0, .advance 1, .newClient 0 7 12,
    .advance 0, .advance 0, .advance 0, .advance 1, .lostClient 0 7, .advance 0, .advance 0, .advance 0]

theorem told_joined_apart :
    ∃ server, Transition.run (callStep fun _ => none) (.create 2) joinedApart = some server ∧ ToldApart server :=
  ⟨_, rfl, told_when_joins_apart (fun _ => none) 2 joinedApart _ rfl (by decide)⟩

theorem overlapping_joins_untold :
    ¬ ∀ (stale : Address → Option Int) (totalThreads : Nat) (events : List CallEvent) (server : ThreadedServer),
      Transition.run (callStep stale) (.create totalThreads) events = some server → ToldApart server := by
  intro always
  have told := always (fun _ => none) 2 [.newClient 0 5 10, .newClient 1 6 11, .advance 0, .advance 1, .advance 0,
    .advance 1, .advance 0, .advance 1] _ rfl 5 6 1 2 (by decide) rfl rfl (by decide) (by decide) (by decide) (by decide)
  revert told
  decide

end NetworkWrapper
