import NetworkWrapper.HttpFileServer
import NetworkWrapper.TcpAccepts
import NetworkWrapper.Threads

set_option autoImplicit false

-- The connections of the http server: each one reads a request, answers it and
-- is closed, at the latest when its timer expires. The handlers of one connection
-- are taken one at a time. With several threads nothing orders them: the server
-- uses no strand.
namespace NetworkWrapper

abbrev OnConnection := HttpRequest → HttpResponse → Outcome HttpResponse

-- The three asynchronous operations of a connection. Once completed, the result
-- waits for a thread to call the handler.
inductive Operation where
  | unstarted
  | outstanding
  | completed (ec : ErrorCode)
  | delivered
deriving DecidableEq, Repr

namespace Operation

def pending : Operation → Bool
  | .outstanding => true
  | .completed _ => true
  | _ => false

-- A cancelled operation still completes, one that is completed is not changed.
def cancel : Operation → Operation
  | .outstanding => .completed operationAborted
  | operation => operation

@[simp] theorem cancel_unstarted (operation : Operation) : operation.cancel = .unstarted ↔ operation = .unstarted := by
  cases operation <;> simp [cancel]

@[simp] theorem cancel_delivered (operation : Operation) : operation.cancel = .delivered ↔ operation = .delivered := by
  cases operation <;> simp [cancel]

@[simp] theorem cancel_succeeded (operation : Operation) :
    operation.cancel = .completed none ↔ operation = .completed none := by
  cases operation <;> simp [cancel, operationAborted]

@[simp] theorem cancel_outstanding (operation : Operation) : operation.cancel ≠ .outstanding := by
  cases operation <;> simp [cancel]

end Operation

-- content_length is set on the message that goes out.
structure HttpAnswer where
  response : HttpResponse
  contentLength : Nat
deriving DecidableEq

-- deadline is the expiry of the timer. transmitted is ghost state: what the
-- writes that succeeded have sent.
structure HttpConnection where
  deadline : Nat
  socketOpen : Bool
  sendShutdown : Bool
  onConnectionCallback : Option OnConnection
  requestBody : HttpRequest
  responseBody : HttpResponse
  contentLength : Nat
  reading : Operation
  writing : Operation
  waiting : Operation
  transmitted : List HttpAnswer

namespace HttpConnection

-- std::chrono::seconds(60)
def timeout : Nat := 60

def emptyRequest : HttpRequest := { method := [], target := [], version := 11, fields := [] }

def construct (now : Nat) : HttpConnection :=
  { deadline := now + timeout, socketOpen := true, sendShutdown := false, onConnectionCallback := none,
    requestBody := emptyRequest, responseBody := .fresh, contentLength := 0, reading := .unstarted, writing := .unstarted,
    waiting := .unstarted, transmitted := [] }

def readRequest (connection : HttpConnection) : HttpConnection := { connection with reading := .outstanding }

def checkConnectionTimeout (connection : HttpConnection) : HttpConnection := { connection with waiting := .outstanding }

def start (onConnectionCallback : Option OnConnection) (connection : HttpConnection) : HttpConnection :=
  { connection with onConnectionCallback := onConnectionCallback }.readRequest.checkConnectionTimeout

def close (connection : HttpConnection) : HttpConnection :=
  { connection with
    socketOpen := false
    reading := connection.reading.cancel
    writing := connection.writing.cancel }

-- A write on a closed socket fails at once.
def writeResponse (connection : HttpConnection) : HttpConnection :=
  { connection with
    contentLength := connection.responseBody.body.length
    writing := if connection.socketOpen then .outstanding else .completed badDescriptor }

def processRequest (connection : HttpConnection) : Outcome HttpConnection :=
  match connection.onConnectionCallback with
  | none => .returned connection.writeResponse
  | some onConnectionCallback =>
      ((onConnectionCallback connection.requestBody connection.responseBody).map fun response =>
        { connection with responseBody := response }).andThen fun answered => .returned answered.writeResponse

def onRead (ec : ErrorCode) (connection : HttpConnection) : Outcome HttpConnection :=
  match ec with
  | none => connection.processRequest
  | some _ => .returned connection

-- Whatever became of the write: no more is sent and the timer is called off.
def onWrite (shutdownError : ErrorCode) (connection : HttpConnection) : HttpConnection :=
  { connection with
    sendShutdown := connection.sendShutdown || (connection.socketOpen && shutdownError = none)
    waiting := connection.waiting.cancel }

def onWait (ec : ErrorCode) (connection : HttpConnection) : HttpConnection :=
  match ec with
  | none => connection.close
  | some _ => connection

end HttpConnection

-- The request is in the message as soon as it has been parsed. A write that
-- succeeds has sent the whole message.
inductive ConnectionEvent where
  | arrived (requestBody : HttpRequest)
  | readFailed (what : String)
  | wrote (ec : ErrorCode)
  | expired
  | readDelivered
  | writeDelivered (shutdownError : ErrorCode)
  | waitDelivered
deriving DecidableEq

open HttpConnection in
def connectionStep (now : Nat) (connection : HttpConnection) : ConnectionEvent → Option (Outcome HttpConnection)
  | .arrived requestBody =>
      if connection.reading = .outstanding then
        some (.returned { connection with requestBody := requestBody, reading := .completed none })
      else none
  | .readFailed what =>
      if connection.reading = .outstanding then some (.returned { connection with reading := .completed (some what) })
      else none
  | .wrote ec =>
      if connection.writing = .outstanding then
        let answer := ⟨connection.responseBody, connection.contentLength⟩
        some (.returned { connection with
          writing := .completed ec
          transmitted := if ec = none then connection.transmitted ++ [answer] else connection.transmitted })
      else none
  | .expired =>
      if connection.waiting = .outstanding ∧ connection.deadline ≤ now then
        some (.returned { connection with waiting := .completed none })
      else none
  | .readDelivered =>
      match connection.reading with
      | .completed ec => some ({ connection with reading := .delivered }.onRead ec)
      | _ => none
  | .writeDelivered shutdownError =>
      match connection.writing with
      | .completed _ => some (.returned ({ connection with writing := .delivered }.onWrite shutdownError))
      | _ => none
  | .waitDelivered =>
      match connection.waiting with
      | .completed ec => some (.returned ({ connection with waiting := .delivered }.onWait ec))
      | _ => none

-- The server does not store its connections; the list numbers them in the order
-- in which they were accepted.
structure HttpServing where
  now : Nat
  onConnectionCallback : Option OnConnection
  connections : List HttpConnection

inductive HttpEvent where
  | secondPassed
  | accepted
  | connection (index : Nat) (event : ConnectionEvent)
deriving DecidableEq

def httpStep (process : Process HttpServing) (event : HttpEvent) : Option (Process HttpServing) :=
  match process.ending, event with
  | .running, .secondPassed => some ⟨{ process.world with now := process.world.now + 1 }, .running⟩
  | .running, .accepted =>
      let newConnection := (HttpConnection.construct process.world.now).start process.world.onConnectionCallback
      some ⟨{ process.world with connections := process.world.connections ++ [newConnection] }, .running⟩
  | .running, .connection index event =>
      process.world.connections[index]?.bind fun connection =>
        (connectionStep process.world.now connection event).map fun outcome =>
          settle (outcome.map fun connection =>
            { process.world with connections := process.world.connections.set index connection })
  | _, _ => none

def servingWith (onConnectionCallback : Option OnConnection) : Process HttpServing :=
  ⟨⟨0, onConnectionCallback, []⟩, .running⟩

def ownEvents (index : Nat) (events : List HttpEvent) : List ConnectionEvent :=
  events.filterMap fun event => match event with
    | .connection other event => if other = index then some event else none
    | _ => none

theorem own_events_snoc (index : Nat) (events : List HttpEvent) (event : HttpEvent) :
    ownEvents index (events ++ [event]) = ownEvents index events ++ ownEvents index [event] :=
  List.filterMap_append

theorem http_step_cases (process next : Process HttpServing) (event : HttpEvent)
    (taken : httpStep process event = some next) : process.ending = .running ∧
    ((event = .secondPassed ∧ next = ⟨{ process.world with now := process.world.now + 1 }, .running⟩) ∨
    (event = .accepted ∧ next = ⟨{ process.world with connections := process.world.connections ++
      [(HttpConnection.construct process.world.now).start process.world.onConnectionCallback] }, .running⟩) ∨
    (∃ index step connection outcome, event = .connection index step ∧
      process.world.connections[index]? = some connection ∧
      connectionStep process.world.now connection step = some outcome ∧
      next = settle (outcome.map fun connection =>
        { process.world with connections := process.world.connections.set index connection }))) := by
  obtain ⟨world, ending⟩ := process
  cases ending with
  | escaped what => simp [httpStep] at taken
  | undefined => simp [httpStep] at taken
  | running =>
      refine ⟨rfl, ?_⟩
      cases event with
      | secondPassed =>
          cases taken
          exact .inl ⟨rfl, rfl⟩
      | accepted =>
          cases taken
          exact .inr (.inl ⟨rfl, rfl⟩)
      | connection index step =>
          simp only [httpStep, Option.bind_eq_some_iff, Option.map_eq_some_iff] at taken
          obtain ⟨connection, there, outcome, stepped, rfl⟩ := taken
          exact .inr (.inr ⟨index, step, connection, outcome, rfl, there, stepped, rfl⟩)

structure ConnectionRule (onConnectionCallback : Option OnConnection)
    (holds : Nat → List ConnectionEvent → HttpConnection → Prop) : Prop where
  begins : ∀ now, holds now [] ((HttpConnection.construct now).start onConnectionCallback)
  passes : ∀ now past connection, holds now past connection → holds (now + 1) past connection
  steps : ∀ now past connection event outcome, holds now past connection →
    connectionStep now connection event = some outcome → holds now (past ++ [event]) outcome.world

structure Obeys (onConnectionCallback : Option OnConnection) (holds : Nat → List ConnectionEvent → HttpConnection → Prop)
    (events : List HttpEvent) (serving : HttpServing) : Prop where
  callback : serving.onConnectionCallback = onConnectionCallback
  unborn : ∀ index, serving.connections.length ≤ index → ownEvents index events = []
  holds : ∀ index connection, serving.connections[index]? = some connection →
    holds serving.now (ownEvents index events) connection

theorem obeys_step (onConnectionCallback : Option OnConnection)
    (holds : Nat → List ConnectionEvent → HttpConnection → Prop) (rule : ConnectionRule onConnectionCallback holds)
    (events : List HttpEvent) (event : HttpEvent) (process next : Process HttpServing)
    (obeys : Obeys onConnectionCallback holds events process.world)
    (taken : httpStep process event = some next) :
    Obeys onConnectionCallback holds (events ++ [event]) next.world := by
  obtain ⟨callback, unborn, kept⟩ := obeys
  obtain ⟨_, ⟨rfl, rfl⟩ | ⟨rfl, rfl⟩ | ⟨index, step, connection, outcome, rfl, there, stepped, rfl⟩⟩ :=
    http_step_cases process next event taken
  · have silent (index : Nat) : ownEvents index (events ++ [.secondPassed]) = ownEvents index events := by
      rw [own_events_snoc]
      exact List.append_nil _
    refine ⟨callback, fun index beyond => (silent index).trans (unborn index beyond), fun index connection there => ?_⟩
    rw [silent]
    exact rule.passes _ _ _ (kept index connection there)
  · have silent (index : Nat) : ownEvents index (events ++ [.accepted]) = ownEvents index events := by
      rw [own_events_snoc]
      exact List.append_nil _
    refine ⟨callback, fun index beyond => ?_, fun index connection there => ?_⟩
    · rw [silent]
      simp only [List.length_append, List.length_singleton] at beyond
      exact unborn index (by omega)
    · rw [silent]
      rcases Nat.lt_or_ge index process.world.connections.length with before | after
      · rw [List.getElem?_append_left before] at there
        exact kept index connection there
      · rw [List.getElem?_append_right after, List.getElem?_singleton] at there
        split at there
        · cases there
          rw [unborn index after, callback]
          exact rule.begins process.world.now
        · cases there
  · have moved : (settle (outcome.map fun connection =>
        { process.world with connections := process.world.connections.set index connection })).world =
        { process.world with connections := process.world.connections.set index outcome.world } := by
      rw [settle_world, Outcome.map_world]
    rw [moved]
    have within := (List.getElem?_eq_some_iff.mp there).1
    refine ⟨callback, fun other beyond => ?_, fun other connection' there' => ?_⟩
    · simp only [List.length_set] at beyond
      have different : index ≠ other := by omega
      rw [own_events_snoc, unborn other beyond]
      simp [ownEvents, different]
    · rw [own_events_snoc]
      rcases Threads.stands_moved _ _ _ _ _ there' with ⟨rfl, rfl⟩ | ⟨different, before⟩
      · have own : ownEvents other [.connection other step] = [step] := by simp [ownEvents]
        rw [own]
        exact rule.steps _ _ _ _ _ (kept other connection there) stepped
      · have silent : ownEvents other [.connection index step] = [] := by simp [ownEvents, Ne.symm different]
        rw [silent, List.append_nil]
        exact kept other connection' before

theorem obeys_run (onConnectionCallback : Option OnConnection)
    (holds : Nat → List ConnectionEvent → HttpConnection → Prop) (rule : ConnectionRule onConnectionCallback holds)
    (events : List HttpEvent) (final : Process HttpServing)
    (reached : Transition.run httpStep (servingWith onConnectionCallback) events = some final) :
    Obeys onConnectionCallback holds events final.world :=
  Transition.run_history httpStep (fun past process => Obeys onConnectionCallback holds past process.world)
    (fun past process event next => obeys_step onConnectionCallback holds rule past event process next) events _ final
    ⟨rfl, fun _ _ => rfl, fun index connection there => by cases there⟩ reached

end NetworkWrapper
