import Mathlib.Algebra.Group.Int.Defs
import Mathlib.Algebra.Group.Nat.Defs
import NetworkWrapper.SessionWrites
import NetworkWrapper.Texts
import NetworkWrapper.VectorErase

set_option autoImplicit false

namespace NetworkWrapper

-- Where make_shared put a PlayerData. The allocator can give out the address of
-- a player that is gone, never that of one that lives.
abbrev Address := Nat

-- wsSession is ghost state: the session whose userData was given the address. It
-- tells a player from those that were at its address before.
structure PlayerData where
  address : Address
  id : Int
  wsSession : SessionId
deriving DecidableEq, Repr

-- int32_t _lastPlayerId++
def int32Successor (value : Int) : Int := Int.bmod (value + 1) (2 ^ 32)

-- userData is the field of that name of every session object; allSessions is
-- the vector of the session manager.
structure WebSocketMainLogicServer where
  allSessions : List SessionId
  lastPlayerId : Int
  allPlayersData : List PlayerData
  userData : SessionId → Option Address

abbrev LogicWorld (Host : Type) := World Host WebSocketMainLogicServer

namespace WebSocketMainLogicServer

def initial : WebSocketMainLogicServer :=
  { allSessions := [], lastPlayerId := 1, allPlayersData := [], userData := fun _ => none }

def addSession (wsSession : SessionId) (logic : WebSocketMainLogicServer) : WebSocketMainLogicServer :=
  { logic with allSessions := logic.allSessions ++ [wsSession] }

def sessionNotFound : String := "websocket session to remove was not found"

def removeSession {Host : Type} (wsSession : SessionId) (world : LogicWorld Host) : Outcome (LogicWorld Host) :=
  match stdVectorNoReallocEraseByValue world.app.allSessions wsSession with
  | (true, rest) => .returned { world with app := { world.app with allSessions := rest } }
  | (false, _) => .threw sessionNotFound world

-- The callbacks given to it never touch the registry, so the size it reads again
-- at each turn of the loop is the one it started with.
def forEachSession {Host : Type} (callback : SessionId → LogicWorld Host → Outcome (LogicWorld Host)) :
    List SessionId → LogicWorld Host → Outcome (LogicWorld Host)
  | [], world => .returned world
  | currWsSession :: rest, world => (callback currWsSession world).andThen (forEachSession callback rest)

def createPlayer (newWsSession : SessionId) (address : Address) (logic : WebSocketMainLogicServer) :
    WebSocketMainLogicServer :=
  { logic with
    lastPlayerId := int32Successor logic.lastPlayerId
    allPlayersData := logic.allPlayersData ++ [⟨address, logic.lastPlayerId, newWsSession⟩]
    userData := Function.update logic.userData newWsSession (some address) }

-- currPlayerData ? currPlayerData->id : -1. The pointer dangles once its player is
-- gone, also where another one has its address by then. stale is what the freed
-- memory reads as, none for the language's answer: the behaviour is undefined.
def playerId (stale : Address → Option Int) (wsSession : SessionId) (logic : WebSocketMainLogicServer) : Option Int :=
  match logic.userData wsSession with
  | none => some (-1)
  | some address =>
      match logic.allPlayersData.find? fun player => player.address = address ∧ player.wsSession = wsSession with
      | some player => some player.id
      | none => stale address

def erasePlayer (currPlayerData : Option Address) (logic : WebSocketMainLogicServer) : WebSocketMainLogicServer :=
  { logic with
    allPlayersData := (stdVectorNoReallocEraseByCallback logic.allPlayersData
      fun player => some player.address = currPlayerData).2 }

-- The server sees its sessions through IWebSocketSession only: write is the
-- write() of whatever host owns them.
section

variable {Host : Type} (write : SessionId → Bytes → Host → Outcome Host)

def writeTo (target : SessionId) (data : Bytes) (world : LogicWorld Host) : Outcome (LogicWorld Host) :=
  (write target data world.host).map fun host => { world with host := host }

def announce (messageToSend : Bytes) (world : LogicWorld Host) : Outcome (LogicWorld Host) :=
  forEachSession (fun currWsSession => writeTo write currWsSession messageToSend) world.app.allSessions world

def onNewClient (newWsSession : SessionId) (address : Address) (world : LogicWorld Host) : Outcome (LogicWorld Host) :=
  let id := world.app.lastPlayerId
  (announce write (newClientText id) { world with app := createPlayer newWsSession address world.app }).andThen
    fun world => writeTo write newWsSession (welcomeText id) { world with app := addSession newWsSession world.app }

def onNewMessage (stale : Address → Option Int) (wsSession : SessionId) (messageReceived : Bytes)
    (world : LogicWorld Host) : Outcome (LogicWorld Host) :=
  match playerId stale wsSession world.app with
  | none => .undefined world
  | some playerId =>
      let messageToSend := newMessageText playerId messageReceived
      (forEachSession
        (fun currWsSession world =>
          if wsSession ≠ currWsSession then writeTo write currWsSession messageToSend world else .returned world)
        world.app.allSessions world).andThen
        (writeTo write wsSession (fromYouText messageReceived))

def onLostClient (stale : Address → Option Int) (disconnectedWsSession : SessionId) (world : LogicWorld Host) :
    Outcome (LogicWorld Host) :=
  let currPlayerData := world.app.userData disconnectedWsSession
  match playerId stale disconnectedWsSession world.app with
  | none => .undefined world
  | some playerId =>
      (removeSession disconnectedWsSession world).andThen fun world =>
        announce write (clientLeftText playerId) { world with app := erasePlayer currPlayerData world.app }

end

def joined (newWsSession : SessionId) (address : Address) (logic : WebSocketMainLogicServer) :
    WebSocketMainLogicServer :=
  addSession newWsSession (createPlayer newWsSession address logic)

def departed (disconnectedWsSession : SessionId) (rest : List SessionId) (logic : WebSocketMainLogicServer) :
    WebSocketMainLogicServer :=
  erasePlayer (logic.userData disconnectedWsSession) { logic with allSessions := rest }

theorem remove_session_registered {Host : Type} (wsSession : SessionId) (rest : List SessionId)
    (world : LogicWorld Host) (removed : stdVectorNoReallocEraseByValue world.app.allSessions wsSession = (true, rest)) :
    removeSession wsSession world = .returned { world with app := { world.app with allSessions := rest } } := by
  simp only [removeSession, removed]

theorem remove_session_unknown {Host : Type} (wsSession : SessionId) (world : LogicWorld Host)
    (absent : wsSession ∉ world.app.allSessions) : removeSession wsSession world = .threw sessionNotFound world := by
  simp only [removeSession, erase_by_value_absent _ _ absent]

theorem on_new_message_undefined {Host : Type} (write : SessionId → Bytes → Host → Outcome Host)
    (stale : Address → Option Int) (wsSession : SessionId) (messageReceived : Bytes) (world : LogicWorld Host)
    (dangles : playerId stale wsSession world.app = none) :
    onNewMessage write stale wsSession messageReceived world = .undefined world := by
  simp only [onNewMessage, dangles]

theorem on_lost_client_undefined {Host : Type} (write : SessionId → Bytes → Host → Outcome Host)
    (stale : Address → Option Int) (wsSession : SessionId) (world : LogicWorld Host)
    (dangles : playerId stale wsSession world.app = none) :
    onLostClient write stale wsSession world = .undefined world := by
  simp only [onLostClient, dangles]

theorem on_lost_client_unknown {Host : Type} (write : SessionId → Bytes → Host → Outcome Host)
    (stale : Address → Option Int) (wsSession : SessionId) (world : LogicWorld Host) (id : Int)
    (read : playerId stale wsSession world.app = some id) (absent : wsSession ∉ world.app.allSessions) :
    onLostClient write stale wsSession world = .threw sessionNotFound world := by
  simp only [onLostClient, read, remove_session_unknown wsSession world absent, Outcome.threw_and_then]

theorem on_lost_client_absent {Host : Type} (write : SessionId → Bytes → Host → Outcome Host)
    (stale : Address → Option Int) (wsSession : SessionId) (world : LogicWorld Host)
    (absent : wsSession ∉ world.app.allSessions) :
    onLostClient write stale wsSession world = .threw sessionNotFound world ∨
      onLostClient write stale wsSession world = .undefined world := by
  cases read : playerId stale wsSession world.app with
  | none => exact .inr (on_lost_client_undefined write stale wsSession world read)
  | some id => exact .inl (on_lost_client_unknown write stale wsSession world id read absent)

section

variable {Host : Type} (write : SessionId → Bytes → Host → Outcome Host) (delivered : SessionId → Bytes → Host → Host)

def Writes : Prop :=
  ∀ target data host, data ≠ [] → write target data host = .returned (delivered target data host)

def deliverAll (recipients : List SessionId) (data : Bytes) (host : Host) : Host :=
  recipients.foldl (fun host target => delivered target data host) host

@[simp] theorem deliver_all_nil (data : Bytes) (host : Host) : deliverAll delivered [] data host = host := rfl

@[simp] theorem deliver_all_cons (target : SessionId) (rest : List SessionId) (data : Bytes) (host : Host) :
    deliverAll delivered (target :: rest) data host = deliverAll delivered rest data (delivered target data host) := rfl

variable (writes : Writes write delivered)

include writes

theorem write_to_returns (target : SessionId) (data : Bytes) (given : data ≠ []) (world : LogicWorld Host) :
    writeTo write target data world = .returned { world with host := delivered target data world.host } := by
  simp only [writeTo, writes target data world.host given, Outcome.map_returned]

theorem for_each_write_returns (data : Bytes) (given : data ≠ []) (recipients : List SessionId)
    (world : LogicWorld Host) :
    forEachSession (fun currWsSession => writeTo write currWsSession data) recipients world =
      .returned { world with host := deliverAll delivered recipients data world.host } := by
  induction recipients generalizing world with
  | nil => rfl
  | cons target rest ih =>
      simp only [forEachSession, write_to_returns write delivered writes target data given, Outcome.returned_and_then]
      exact ih _

theorem for_each_other_returns (data : Bytes) (given : data ≠ []) (wsSession : SessionId)
    (recipients : List SessionId) (world : LogicWorld Host) :
    forEachSession
      (fun currWsSession world =>
        if wsSession ≠ currWsSession then writeTo write currWsSession data world else .returned world)
      recipients world =
    .returned { world with
      host := deliverAll delivered (recipients.filter fun target => wsSession ≠ target) data world.host } := by
  induction recipients generalizing world with
  | nil => rfl
  | cons target rest ih =>
      by_cases same : wsSession = target
      · simpa [forEachSession, same] using ih world
      · simpa [forEachSession, same, write_to_returns write delivered writes target data given] using ih _

theorem on_new_client_returns (wsSession : SessionId) (address : Address) (world : LogicWorld Host) :
    onNewClient write wsSession address world = .returned
      ⟨delivered wsSession (welcomeText world.app.lastPlayerId)
        (deliverAll delivered world.app.allSessions (newClientText world.app.lastPlayerId) world.host),
        joined wsSession address world.app⟩ := by
  simp only [onNewClient, announce, for_each_write_returns write delivered writes _ (new_client_nonempty _),
    Outcome.returned_and_then, write_to_returns write delivered writes _ _ (welcome_nonempty _)]
  rfl

theorem on_new_message_returns (stale : Address → Option Int) (wsSession : SessionId) (messageReceived : Bytes)
    (world : LogicWorld Host) (id : Int) (read : playerId stale wsSession world.app = some id) :
    onNewMessage write stale wsSession messageReceived world = .returned
      ⟨delivered wsSession (fromYouText messageReceived)
        (deliverAll delivered (world.app.allSessions.filter fun target => wsSession ≠ target)
          (newMessageText id messageReceived) world.host), world.app⟩ := by
  simp only [onNewMessage, read, for_each_other_returns write delivered writes _ (new_message_nonempty _ _),
    Outcome.returned_and_then, write_to_returns write delivered writes _ _ (from_you_nonempty _)]

theorem on_lost_client_returns (stale : Address → Option Int) (wsSession : SessionId) (rest : List SessionId)
    (world : LogicWorld Host) (id : Int) (read : playerId stale wsSession world.app = some id)
    (removed : stdVectorNoReallocEraseByValue world.app.allSessions wsSession = (true, rest)) :
    onLostClient write stale wsSession world = .returned
      ⟨deliverAll delivered rest (clientLeftText id) world.host, departed wsSession rest world.app⟩ := by
  simp only [onLostClient, read, remove_session_registered wsSession rest world removed, Outcome.returned_and_then,
    announce, for_each_write_returns write delivered writes _ (client_left_nonempty _)]
  rfl

theorem on_new_message_ends (stale : Address → Option Int) (wsSession : SessionId) (messageReceived : Bytes)
    (world : LogicWorld Host) :
    (∃ id, playerId stale wsSession world.app = some id ∧ onNewMessage write stale wsSession messageReceived world =
      .returned ⟨delivered wsSession (fromYouText messageReceived)
        (deliverAll delivered (world.app.allSessions.filter fun target => wsSession ≠ target)
          (newMessageText id messageReceived) world.host), world.app⟩) ∨
    onNewMessage write stale wsSession messageReceived world = .undefined world := by
  cases read : playerId stale wsSession world.app with
  | none => exact .inr (on_new_message_undefined write stale wsSession messageReceived world read)
  | some id =>
      exact .inl ⟨id, rfl, on_new_message_returns write delivered writes stale wsSession messageReceived world id read⟩

theorem on_lost_client_ends (stale : Address → Option Int) (wsSession : SessionId) (world : LogicWorld Host) :
    (∃ id rest, playerId stale wsSession world.app = some id ∧ wsSession ∈ world.app.allSessions ∧
      world.app.allSessions.Perm (wsSession :: rest) ∧ onLostClient write stale wsSession world = .returned
        ⟨deliverAll delivered rest (clientLeftText id) world.host, departed wsSession rest world.app⟩) ∨
    (wsSession ∉ world.app.allSessions ∧ onLostClient write stale wsSession world = .threw sessionNotFound world) ∨
    onLostClient write stale wsSession world = .undefined world := by
  cases read : playerId stale wsSession world.app with
  | none => exact .inr (.inr (on_lost_client_undefined write stale wsSession world read))
  | some id =>
      by_cases member : wsSession ∈ world.app.allSessions
      · obtain ⟨rest, removed, shuffled⟩ := erase_by_value_perm world.app.allSessions wsSession member
        exact .inl ⟨id, rest, rfl, member, shuffled,
          on_lost_client_returns write delivered writes stale wsSession rest world id read removed⟩
      · exact .inr (.inl ⟨member, on_lost_client_unknown write stale wsSession world id read member⟩)

end

def sessionWrite (target : SessionId) (data : Bytes) (host : Sessions) : Outcome Sessions :=
  ((host target).write data).map (Function.update host target)

def sessionDelivered (target : SessionId) (data : Bytes) (host : Sessions) : Sessions :=
  Function.update host target ((host target).write data).world

theorem session_writes : Writes sessionWrite sessionDelivered := by
  intro target data host given
  simp only [sessionWrite, sessionDelivered, WebSocketSession.write_nonempty _ data given, Outcome.map_returned,
    Outcome.world_returned]

theorem delivered_accepted (target self : SessionId) (data : Bytes) (given : data ≠ []) (host : Sessions) :
    (sessionDelivered target data host self).accepted =
      (host self).accepted ++ if target = self then [data] else [] := by
  by_cases same : target = self
  · subst target
    simp [sessionDelivered, WebSocketSession.write_nonempty _ data given, queued_accepted]
  · simp [sessionDelivered, same, Ne.symm same]

theorem deliver_all_accepted (recipients : List SessionId) (distinct : recipients.Nodup) (self : SessionId)
    (data : Bytes) (given : data ≠ []) (host : Sessions) :
    (deliverAll sessionDelivered recipients data host self).accepted =
      (host self).accepted ++ if self ∈ recipients then [data] else [] := by
  induction recipients generalizing host with
  | nil => simp
  | cons target rest ih =>
      obtain ⟨apart, others⟩ := List.nodup_cons.mp distinct
      have onward := ih others (sessionDelivered target data host)
      rw [deliver_all_cons, onward, delivered_accepted target self data given]
      by_cases same : target = self
      · subst target
        simp [apart]
      · simp [same, Ne.symm same]

end WebSocketMainLogicServer

end NetworkWrapper
