import NetworkWrapper.ClientRuns
import NetworkWrapper.WasmClient

set_option autoImplicit false

-- One connection replayed on the native and on the wasm client: what the user of
-- the common interface can tell apart.
namespace NetworkWrapper.Parity

open WebSocketConnection

inductive CallbackKind where
  | opened
  | message (data : Bytes)
  | closed
  | error
deriving DecidableEq, Repr

def nativeKind : ClientCallback → CallbackKind
  | .onOpen => .opened
  | .onError _ => .error
  | .onMessage payload => .message payload

def wasmKind : Wasm.Callback → CallbackKind
  | .onOpen => .opened
  | .onError _ => .error
  | .onClose _ => .closed
  | .onMessage payload => .message payload

inductive Stage where
  | resolve
  | connect
  | handshake
deriving DecidableEq, Repr

-- received carries the bytes both transports hand over. written is the end of an
-- async_write, the browser has nothing like it.
inductive Exchange where
  | received (message : Bytes)
  | written
  | sendUtf8Text (inText : Bytes)
  | sendBinary (inData : Bytes)
deriving DecidableEq, Repr

-- byWrite: the native client hears of the error from a write first.
inductive ConnectionEnd where
  | peerClose (reason : String)
  | transportError (what : String) (byWrite : Bool)
  | localDisconnect (closeError : ErrorCode)
deriving DecidableEq, Repr

inductive TraceStep where
  | connect (inHost inPort : String)
  | opens
  | fails (stage : Stage) (what : String) (closeReported : Bool)
  | exchange (exchanged : Exchange)
  | ends (ending : ConnectionEnd)
  | disconnect
deriving DecidableEq, Repr

-- A message that does not fit into the read buffer ends the read with an error.
def nativeRead (message : Bytes) : ClientCompletion :=
  if message.length ≤ readBufferLimit then .received none message
  else .received (some "The dynamic buffer's maximum size would be exceeded") (message.take readBufferLimit)

-- A disconnect() of an open client stops the context, so nothing completes later.
def TraceStep.native : TraceStep → List ClientEvent
  | .connect inHost inPort => [.connect inHost inPort none]
  | .opens => [.completed (.resolved none), .completed (.connected none), .completed (.handshaken none)]
  | .fails .resolve what _ => [.completed (.resolved (some what))]
  | .fails .connect what _ => [.completed (.resolved none), .completed (.connected (some what))]
  | .fails .handshake what _ =>
      [.completed (.resolved none), .completed (.connected none), .completed (.handshaken (some what))]
  | .exchange (.received message) => [.completed (nativeRead message)]
  | .exchange .written => [.completed (.wrote 0 none)]
  | .exchange (.sendUtf8Text inText) => [.sendUtf8Text inText]
  | .exchange (.sendBinary inData) => [.sendBinary inData]
  | .ends (.peerClose reason) => [.completed (.received (some reason) [])]
  | .ends (.transportError what false) =>
      [.completed (.received (some what) []), .completed (.wrote 0 (some what))]
  | .ends (.transportError what true) =>
      [.completed (.wrote 0 (some what)), .completed (.received (some what) [])]
  | .ends (.localDisconnect closeError) => [.disconnect closeError]
  | .disconnect => [.disconnect none]

-- Every ending of an opened socket is followed by its close event, a failed
-- attempt by one or by none.
def TraceStep.wasm : TraceStep → List Wasm.Event
  | .connect inHost inPort => [.connect inHost inPort true]
  | .opens => [.delivered 0 .opened]
  | .fails _ _ closeReported => .delivered 0 .error :: if closeReported then [.delivered 0 (.closed "")] else []
  | .exchange (.received message) => [.delivered 0 (.message message)]
  | .exchange .written => []
  | .exchange (.sendUtf8Text _) => [.send 0]
  | .exchange (.sendBinary _) => [.send 0]
  | .ends (.peerClose reason) => [.delivered 0 (.closed reason)]
  | .ends (.transportError _ _) => [.delivered 0 .error, .delivered 0 (.closed "")]
  | .ends (.localDisconnect _) => [.disconnect, .delivered 0 (.closed "no reason")]
  | .disconnect => [.disconnect]

-- A whole connection, or as much of it as there has been so far. After an attempt
-- that failed neither transport has a message to deliver.
inductive ConnectionTrace where
  | opens (inHost inPort : String) (exchanges : List Exchange) (ending : Option ConnectionEnd)
  | fails (inHost inPort : String) (stage : Stage) (what : String) (closeReported : Bool) (exchanges : List Exchange)
      (disconnects : Bool)
deriving DecidableEq, Repr

def ConnectionTrace.steps : ConnectionTrace → List TraceStep
  | .opens inHost inPort exchanges ending =>
      .connect inHost inPort :: .opens :: (exchanges.map .exchange ++ ending.toList.map .ends)
  | .fails inHost inPort stage what closeReported exchanges disconnects =>
      .connect inHost inPort :: .fails stage what closeReported ::
        (exchanges.map .exchange ++ if disconnects then [.disconnect] else [])

structure Observed where
  callbacks : List CallbackKind
  isConnected : Bool
  result : Option (Outcome Bool)
deriving DecidableEq

def Agree (left right : List Observed) : Prop :=
  left.flatMap Observed.callbacks = right.flatMap Observed.callbacks ∧
    left.map Observed.isConnected = right.map Observed.isConnected ∧
      left.filterMap Observed.result = right.filterMap Observed.result

instance (left right : List Observed) : Decidable (Agree left right) := inferInstanceAs (Decidable (_ ∧ _))

-- An event the client does not wait for is not delivered.
def nativeAfter (process : Process WatchedClient) (step : TraceStep) : Process WatchedClient :=
  step.native.foldl (fun process event => (clientStep process event).getD process) process

def nativeResult (connection : WebSocketConnection) : TraceStep → Option (Outcome Bool)
  | .exchange (.sendUtf8Text inText) =>
      some ((connection.sendUtf8Text inText).2.map fun _ => (connection.sendUtf8Text inText).1)
  | .exchange (.sendBinary inData) =>
      some ((connection.sendBinary inData).2.map fun _ => (connection.sendBinary inData).1)
  | _ => none

def nativeObserved (process : Process WatchedClient) (step : TraceStep) : Observed :=
  let later := nativeAfter process step
  { callbacks := (later.world.app.drop process.world.app.length).map nativeKind
    isConnected := later.world.host.isConnected
    result := nativeResult process.world.host step }

def nativeRecord : Process WatchedClient → List TraceStep → List Observed
  | _, [] => []
  | process, step :: rest => nativeObserved process step :: nativeRecord (nativeAfter process step) rest

def wasmAfter (client : Wasm.Client) (step : TraceStep) : Wasm.Client :=
  step.wasm.foldl (fun client event => (Wasm.step client event).getD client) client

-- The browser accepts what is sent on an open socket.
def wasmResult (connection : Wasm.WebSocketConnection) : TraceStep → Option (Outcome Bool)
  | .exchange (.sendUtf8Text _) => some (.returned (Wasm.sendUtf8Text connection 0))
  | .exchange (.sendBinary _) => some (.returned (Wasm.sendBinary connection 0))
  | _ => none

def wasmObserved (client : Wasm.Client) (step : TraceStep) : Observed :=
  let later := wasmAfter client step
  { callbacks := (later.heard.drop client.heard.length).map fun heard => wasmKind heard.callback
    isConnected := later.connection.isConnected
    result := wasmResult client.connection step }

def wasmRecord : Wasm.Client → List TraceStep → List Observed
  | _, [] => []
  | client, step :: rest => wasmObserved client step :: wasmRecord (wasmAfter client step) rest

def Exchange.alike : Exchange → Bool
  | .received message => message.length ≤ readBufferLimit
  | .written => true
  | .sendUtf8Text inText => inText.takeWhile (· ≠ 0) ≠ []
  | .sendBinary inData => inData ≠ []

def ConnectionTrace.alike : ConnectionTrace → Bool
  | .opens _ _ exchanges ending => ending.isNone && exchanges.all Exchange.alike
  | .fails _ _ _ _ closeReported _ _ => !closeReported

def parity (trace : ConnectionTrace) : Prop := Agree (nativeRecord freshClient trace.steps) (wasmRecord .create trace.steps)

instance (trace : ConnectionTrace) : Decidable (parity trace) := inferInstanceAs (Decidable (Agree _ _))

theorem agree_cons (shown : Observed) (left right : List Observed) :
    Agree (shown :: left) (shown :: right) ↔ Agree left right := by
  cases returned : shown.result with
  | none => simp [Agree, returned]
  | some result => simp [Agree, returned]

theorem agree_callbacks (left right : Observed) (agree : Agree [left] [right]) : left.callbacks = right.callbacks := by
  simpa using agree.1

def Differs (left right : Observed) : Prop :=
  left.isConnected ≠ right.isConnected ∨
    ∃ first second, left.result = some first ∧ right.result = some second ∧ first ≠ second

theorem differs_disagree (first second : Observed) (left right : List Observed) (differs : Differs first second) :
    ¬ Agree (first :: left) (second :: right) := by
  rintro ⟨_, connected, returned⟩
  rcases differs with apart | ⟨one, other, here, there, unequal⟩
  · exact apart (List.cons.inj connected).1
  · simp only [List.filterMap_cons, here, there] at returned
    exact unequal (List.cons.inj returned).1

structure NativeOpen (process : Process WatchedClient) : Prop where
  running : process.ending = .running
  connected : process.world.host.isConnected = true
  reading : 0 < process.world.host.pendingReads
  unread : process.world.host.readBuffer = []

structure WasmOpen (client : Wasm.Client) : Prop where
  connected : client.connection.isConnected = true
  stored : client.connection.wsSocket = some 0
  alive : client.destroyed = false
  opened : ∃ url, client.sockets = [{ url := url, phase := .opened, disconnected := false }]

def exchangeShows : Exchange → Observed
  | .received message => { callbacks := [.message message], isConnected := true, result := none }
  | .written => { callbacks := [], isConnected := true, result := none }
  | .sendUtf8Text _ => { callbacks := [], isConnected := true, result := some (.returned true) }
  | .sendBinary _ => { callbacks := [], isConnected := true, result := some (.returned true) }

theorem native_received (process : Process WatchedClient) (message : Bytes) (opened : NativeOpen process)
    (fits : message.length ≤ readBufferLimit) :
    NativeOpen (nativeAfter process (.exchange (.received message))) ∧
      nativeObserved process (.exchange (.received message)) = exchangeShows (.received message) := by
  obtain ⟨⟨host, app⟩, ending⟩ := process
  obtain ⟨rfl, connected, reading, unread⟩ := opened
  dsimp only at connected reading unread
  have later : nativeAfter ⟨⟨host, app⟩, .running⟩ (.exchange (.received message)) =
      ⟨⟨{ host with readBuffer := [], pendingReads := host.pendingReads - 1 + 1 }, app ++ [.onMessage message]⟩, .running⟩ := by
    simp [nativeAfter, TraceStep.native, nativeRead, fits, clientStep, complete, reading, unread, onRead, connected,
      watching, noteClient, doRead, settle]
  refine ⟨?_, ?_⟩
  · rw [later]
    exact ⟨rfl, connected, Nat.succ_pos _, rfl⟩
  · simp [nativeObserved, later, connected, nativeKind, nativeResult, exchangeShows]

theorem native_written (process : Process WatchedClient) (opened : NativeOpen process) :
    NativeOpen (nativeAfter process (.exchange .written)) ∧
      nativeObserved process (.exchange .written) = exchangeShows .written := by
  obtain ⟨⟨host, app⟩, ending⟩ := process
  obtain ⟨rfl, connected, reading, unread⟩ := opened
  dsimp only at connected reading unread
  by_cases writing : 0 < host.pendingWrites.length
  · have later : nativeAfter ⟨⟨host, app⟩, .running⟩ (.exchange .written) =
        ⟨⟨{ host with
          buffersToSend := host.buffersToSend.tail
          pendingWrites := host.pendingWrites.eraseIdx 0 ++ host.buffersToSend.tail.take 1 }, app⟩, .running⟩ := by
      simp [nativeAfter, TraceStep.native, clientStep, complete, writing, onWrite, connected, pop_queued, settle]
    refine ⟨?_, ?_⟩
    · rw [later]
      exact ⟨rfl, connected, reading, unread⟩
    · simp [nativeObserved, later, connected, nativeResult, exchangeShows]
  · have same : nativeAfter ⟨⟨host, app⟩, .running⟩ (.exchange .written) = ⟨⟨host, app⟩, .running⟩ := by
      simp [nativeAfter, TraceStep.native, clientStep, complete, writing]
    refine ⟨?_, ?_⟩
    · rw [same]
      exact ⟨rfl, connected, reading, unread⟩
    · simp [nativeObserved, same, connected, nativeResult, exchangeShows]

theorem native_open_sent (process : Process WatchedClient) (inData : Bytes) (opened : NativeOpen process)
    (given : inData ≠ []) (sent : Process WatchedClient)
    (made : sent = settleCall (onClient process.world (process.world.host.sendBinary inData).2)) :
    NativeOpen sent ∧ sent.world.app = process.world.app := by
  obtain ⟨_, connected, reading, unread⟩ := opened
  subst made
  simp only [sendBinary, connected, if_true, locked_send_nonempty process.world.host inData given]
  exact ⟨⟨rfl, rfl, reading, unread⟩, rfl⟩

-- Both sends end in sendBinary, the text one with the text up to its first NUL.
def sendEnds (connection : WebSocketConnection) (inData : Bytes) : Outcome Bool :=
  (connection.sendBinary inData).2.map fun _ => (connection.sendBinary inData).1

theorem native_sends (process : Process WatchedClient) (exchanged : Exchange) (event : ClientEvent) (inData : Bytes)
    (opened : NativeOpen process) (given : inData ≠ []) (only : TraceStep.native (.exchange exchanged) = [event])
    (step : clientStep process event =
      some (settleCall (onClient process.world (process.world.host.sendBinary inData).2)))
    (result : nativeResult process.world.host (.exchange exchanged) = some (sendEnds process.world.host inData)) :
    NativeOpen (nativeAfter process (.exchange exchanged)) ∧
      nativeObserved process (.exchange exchanged) =
        { callbacks := [], isConnected := true, result := some (.returned true) } := by
  have later : nativeAfter process (.exchange exchanged) =
      settleCall (onClient process.world (process.world.host.sendBinary inData).2) := by
    simp [nativeAfter, only, step]
  obtain ⟨still, silent⟩ := native_open_sent process inData opened given _ later
  have returned : sendEnds process.world.host inData = .returned true := by
    simp [sendEnds, sendBinary, opened.connected, locked_send_nonempty process.world.host inData given]
  refine ⟨still, ?_⟩
  simp only [nativeObserved, silent, still.connected, result, returned, List.drop_length, List.map_nil]

theorem native_exchange (process : Process WatchedClient) (exchanged : Exchange) (opened : NativeOpen process)
    (alike : exchanged.alike = true) :
    NativeOpen (nativeAfter process (.exchange exchanged)) ∧
      nativeObserved process (.exchange exchanged) = exchangeShows exchanged := by
  have running : process = ⟨process.world, .running⟩ := by rw [← opened.running]
  cases exchanged with
  | received message => exact native_received process message opened (by simpa [Exchange.alike] using alike)
  | written => exact native_written process opened
  | sendUtf8Text inText =>
      have given : inText.takeWhile (· ≠ 0) ≠ [] := by simpa [Exchange.alike] using alike
      exact native_sends process (.sendUtf8Text inText) _ _ opened given rfl (by rw [running]; rfl) rfl
  | sendBinary inData =>
      have given : inData ≠ [] := by simpa [Exchange.alike] using alike
      exact native_sends process (.sendBinary inData) _ _ opened given rfl (by rw [running]; rfl) rfl

theorem native_refuses (process : Process WatchedClient) (exchanged : Exchange) (opened : NativeOpen process)
    (result : nativeResult process.world.host (.exchange exchanged) = some (sendEnds process.world.host []))
    (accepts : (exchangeShows exchanged).result = some (.returned true)) :
    Differs (nativeObserved process (.exchange exchanged)) (exchangeShows exchanged) := by
  have refused : sendEnds process.world.host [] = .threw emptySendBuffer true := by
    simp only [sendEnds, sendBinary, opened.connected, if_true, locked_send_empty]
    rfl
  refine .inr ⟨.threw emptySendBuffer true, .returned true, ?_, accepts, by simp⟩
  simp only [nativeObserved, result, refused]

theorem native_overflows (process : Process WatchedClient) (message : Bytes) (opened : NativeOpen process)
    (tooLong : ¬ message.length ≤ readBufferLimit) :
    (nativeObserved process (.exchange (.received message))).isConnected = false := by
  obtain ⟨⟨host, app⟩, ending⟩ := process
  obtain ⟨rfl, connected, reading, unread⟩ := opened
  dsimp only at connected reading unread
  have partly : min readBufferLimit message.length ≤ readBufferLimit := Nat.min_le_left _ _
  simp [partly, nativeObserved, nativeAfter, TraceStep.native, nativeRead, tooLong, clientStep, complete, reading, unread,
    onRead, connected, failed_watching, settle]

theorem native_exchange_differs (process : Process WatchedClient) (exchanged : Exchange) (opened : NativeOpen process)
    (unlike : exchanged.alike = false) :
    Differs (nativeObserved process (.exchange exchanged)) (exchangeShows exchanged) := by
  cases exchanged with
  | received message =>
      refine .inl ?_
      rw [native_overflows process message opened (by simpa [Exchange.alike] using unlike)]
      simp [exchangeShows]
  | written => cases unlike
  | sendUtf8Text inText =>
      have empty : inText.takeWhile (· ≠ 0) = [] := by simpa [Exchange.alike] using unlike
      exact native_refuses process (.sendUtf8Text inText) opened (by rw [← empty]; rfl) rfl
  | sendBinary inData =>
      have empty : inData = [] := by simpa [Exchange.alike] using unlike
      exact native_refuses process (.sendBinary inData) opened (by rw [empty]; rfl) rfl

theorem wasm_exchange (client : Wasm.Client) (exchanged : Exchange) (opened : WasmOpen client) :
    WasmOpen (wasmAfter client (.exchange exchanged)) ∧
      wasmObserved client (.exchange exchanged) = exchangeShows exchanged := by
  obtain ⟨⟨isConnected, wsSocket⟩, sockets, heard, destroyed, handledLate⟩ := client
  obtain ⟨rfl, rfl, rfl, url, rfl⟩ := opened
  cases exchanged with
  | received message =>
      refine ⟨⟨rfl, rfl, rfl, url, rfl⟩, ?_⟩
      simp [wasmObserved, wasmAfter, TraceStep.wasm, Wasm.step, Wasm.Client.deliver, Wasm.Socket.deliver,
        Wasm.SocketPhase.after, Wasm.handle, Wasm.onMessage, Wasm.watching, wasmKind, wasmResult, exchangeShows]
  | written => exact ⟨⟨rfl, rfl, rfl, url, rfl⟩, by simp [wasmObserved, wasmAfter, TraceStep.wasm, wasmResult, exchangeShows]⟩
  | sendUtf8Text inText =>
      refine ⟨⟨rfl, rfl, rfl, url, rfl⟩, ?_⟩
      simp [wasmObserved, wasmAfter, TraceStep.wasm, Wasm.step, wasmResult, Wasm.sendUtf8Text, exchangeShows]
  | sendBinary inData =>
      refine ⟨⟨rfl, rfl, rfl, url, rfl⟩, ?_⟩
      simp [wasmObserved, wasmAfter, TraceStep.wasm, Wasm.step, wasmResult, Wasm.sendBinary, exchangeShows]

theorem native_never_closes (process : Process WatchedClient) (step : TraceStep) :
    .closed ∉ (nativeObserved process step).callbacks := by
  intro member
  obtain ⟨callback, _, closed⟩ := List.mem_map.mp member
  cases callback <;> cases closed

theorem wasm_end_closes (client : Wasm.Client) (ending : ConnectionEnd) (opened : WasmOpen client) :
    .closed ∈ (wasmObserved client (.ends ending)).callbacks := by
  obtain ⟨⟨isConnected, wsSocket⟩, sockets, heard, destroyed, handledLate⟩ := client
  obtain ⟨rfl, rfl, rfl, url, rfl⟩ := opened
  cases ending with
  | peerClose reason =>
      simp [wasmObserved, wasmAfter, TraceStep.wasm, Wasm.step, Wasm.Client.deliver, Wasm.Socket.deliver,
        Wasm.SocketPhase.after, Wasm.handle, Wasm.onClose, Wasm.watching, wasmKind]
  | transportError what byWrite =>
      simp [wasmObserved, wasmAfter, TraceStep.wasm, Wasm.step, Wasm.Client.deliver, Wasm.Socket.deliver,
        Wasm.SocketPhase.after, Wasm.handle, Wasm.onError, Wasm.onClose, Wasm.watching, wasmKind]
  | localDisconnect closeError =>
      simp [wasmObserved, wasmAfter, TraceStep.wasm, Wasm.step, Wasm.Client.disconnect, Wasm.Client.closeSocket,
        Wasm.Client.deliver, Wasm.Socket.deliver, Wasm.SocketPhase.after, Wasm.handle, Wasm.onClose, Wasm.watching, wasmKind]

theorem open_agree_iff (exchanges : List Exchange) (ending : Option ConnectionEnd) (process : Process WatchedClient)
    (client : Wasm.Client) (native : NativeOpen process) (wasm : WasmOpen client) :
    Agree (nativeRecord process (exchanges.map .exchange ++ ending.toList.map .ends))
      (wasmRecord client (exchanges.map .exchange ++ ending.toList.map .ends)) ↔
        (ending.isNone && exchanges.all Exchange.alike) = true := by
  induction exchanges generalizing process client with
  | nil =>
      cases ending with
      | none => simp [nativeRecord, wasmRecord, Agree]
      | some ending =>
          refine iff_of_false (fun agree => ?_) (by simp)
          have same := agree_callbacks _ _ agree
          have closes := wasm_end_closes client ending wasm
          rw [← same] at closes
          exact native_never_closes process (.ends ending) closes
  | cons exchanged rest ih =>
      obtain ⟨wasmLater, wasmShows⟩ := wasm_exchange client exchanged wasm
      simp only [List.map_cons, List.cons_append, nativeRecord, wasmRecord, wasmShows]
      cases alike : exchanged.alike with
      | false =>
          refine iff_of_false ?_ (by simp [alike])
          exact differs_disagree _ _ _ _ (native_exchange_differs process exchanged native alike)
      | true =>
          obtain ⟨nativeLater, nativeShows⟩ := native_exchange process exchanged native alike
          rw [nativeShows, agree_cons, ih _ _ nativeLater wasmLater]
          simp [alike]

structure NativeApart (process : Process WatchedClient) : Prop where
  running : process.ending = .running
  apart : process.world.host.isConnected = false
  unread : process.world.host.pendingReads = 0
  unwritten : process.world.host.pendingWrites = []

structure WasmApart (client : Wasm.Client) : Prop where
  apart : client.connection.isConnected = false
  alive : client.destroyed = false
  silent : ∀ data, client.deliver 0 (.message data) = none

def apartShows : Exchange → Observed
  | .received _ => { callbacks := [], isConnected := false, result := none }
  | .written => { callbacks := [], isConnected := false, result := none }
  | .sendUtf8Text _ => { callbacks := [], isConnected := false, result := some (.returned false) }
  | .sendBinary _ => { callbacks := [], isConnected := false, result := some (.returned false) }

theorem native_apart_exchange (process : Process WatchedClient) (exchanged : Exchange) (apart : NativeApart process) :
    nativeAfter process (.exchange exchanged) = process ∧
      nativeObserved process (.exchange exchanged) = apartShows exchanged := by
  obtain ⟨⟨host, app⟩, ending⟩ := process
  obtain ⟨rfl, apart, unread, unwritten⟩ := apart
  dsimp only at apart unread unwritten
  have same : nativeAfter ⟨⟨host, app⟩, .running⟩ (.exchange exchanged) = ⟨⟨host, app⟩, .running⟩ := by
    cases exchanged with
    | received message =>
        by_cases fits : message.length ≤ readBufferLimit
        · simp [nativeAfter, TraceStep.native, nativeRead, fits, clientStep, complete, unread]
        · simp [nativeAfter, TraceStep.native, nativeRead, fits, clientStep, complete, unread]
    | written => simp [nativeAfter, TraceStep.native, clientStep, complete, unwritten]
    | sendUtf8Text inText =>
        simp [nativeAfter, TraceStep.native, clientStep, sendUtf8Text, sendBinary, apart, onClient, settleCall]
    | sendBinary inData => simp [nativeAfter, TraceStep.native, clientStep, sendBinary, apart, onClient, settleCall]
  refine ⟨same, ?_⟩
  cases exchanged with
  | received message => simp [nativeObserved, same, apart, nativeResult, apartShows]
  | written => simp [nativeObserved, same, apart, nativeResult, apartShows]
  | sendUtf8Text inText => simp [nativeObserved, same, apart, nativeResult, sendUtf8Text, sendBinary, apartShows]
  | sendBinary inData => simp [nativeObserved, same, apart, nativeResult, sendBinary, apartShows]

theorem wasm_apart_exchange (client : Wasm.Client) (exchanged : Exchange) (apart : WasmApart client) :
    wasmAfter client (.exchange exchanged) = client ∧
      wasmObserved client (.exchange exchanged) = apartShows exchanged := by
  have same : wasmAfter client (.exchange exchanged) = client := by
    cases exchanged with
    | received message => simp [wasmAfter, TraceStep.wasm, Wasm.step, apart.silent]
    | written => rfl
    | sendUtf8Text inText => simp [wasmAfter, TraceStep.wasm, Wasm.step, apart.alive]
    | sendBinary inData => simp [wasmAfter, TraceStep.wasm, Wasm.step, apart.alive]
  refine ⟨same, ?_⟩
  cases exchanged with
  | received message => simp [wasmObserved, same, apart.apart, wasmResult, apartShows]
  | written => simp [wasmObserved, same, apart.apart, wasmResult, apartShows]
  | sendUtf8Text inText => simp [wasmObserved, same, apart.apart, wasmResult, Wasm.sendUtf8Text, apartShows]
  | sendBinary inData => simp [wasmObserved, same, apart.apart, wasmResult, Wasm.sendBinary, apartShows]

theorem apart_agree (exchanges : List Exchange) (disconnects : Bool) (process : Process WatchedClient)
    (client : Wasm.Client) (native : NativeApart process) (wasm : WasmApart client) :
    Agree (nativeRecord process (exchanges.map .exchange ++ if disconnects then [.disconnect] else []))
      (wasmRecord client (exchanges.map .exchange ++ if disconnects then [.disconnect] else [])) := by
  induction exchanges with
  | nil =>
      cases disconnects with
      | false => exact ⟨rfl, rfl, rfl⟩
      | true =>
          have nativeSame : nativeAfter process .disconnect = process := by
            obtain ⟨⟨host, app⟩, ending⟩ := process
            obtain ⟨rfl, apart, _, _⟩ := native
            dsimp only at apart
            simp [nativeAfter, TraceStep.native, clientStep, disconnect, apart, onClient, settleCall]
          have wasmSame : wasmAfter client .disconnect = client := by
            simp [wasmAfter, TraceStep.wasm, Wasm.step, wasm.alive, Wasm.Client.disconnect, wasm.apart]
          simp [Agree, nativeRecord, wasmRecord, nativeObserved, wasmObserved, nativeSame, wasmSame, native.apart,
            wasm.apart, nativeResult, wasmResult]
  | cons exchanged rest ih =>
      obtain ⟨nativeSame, nativeShows⟩ := native_apart_exchange process exchanged native
      obtain ⟨wasmSame, wasmShows⟩ := wasm_apart_exchange client exchanged wasm
      simp only [List.map_cons, List.cons_append, nativeRecord, wasmRecord, nativeShows, wasmShows, nativeSame, wasmSame,
        agree_cons]
      exact ih

theorem connect_shows (inHost inPort : String) :
    nativeObserved freshClient (.connect inHost inPort) = wasmObserved .create (.connect inHost inPort) := rfl

def nativeConnected (inHost inPort : String) : Process WatchedClient := nativeAfter freshClient (.connect inHost inPort)

def wasmConnected (inHost inPort : String) : Wasm.Client := wasmAfter .create (.connect inHost inPort)

theorem opens_shows (inHost inPort : String) :
    nativeObserved (nativeConnected inHost inPort) .opens = wasmObserved (wasmConnected inHost inPort) .opens := rfl

theorem native_opens (inHost inPort : String) : NativeOpen (nativeAfter (nativeConnected inHost inPort) .opens) :=
  ⟨rfl, rfl, Nat.one_pos, rfl⟩

theorem wasm_opens (inHost inPort : String) : WasmOpen (wasmAfter (wasmConnected inHost inPort) .opens) :=
  ⟨rfl, rfl, rfl, _, rfl⟩

theorem native_fails (inHost inPort : String) (stage : Stage) (what : String) (closeReported : Bool) :
    NativeApart (nativeAfter (nativeConnected inHost inPort) (.fails stage what closeReported)) := by
  cases stage <;> exact ⟨rfl, rfl, rfl, rfl⟩

theorem wasm_fails (inHost inPort : String) (stage : Stage) (what : String) :
    WasmApart (wasmAfter (wasmConnected inHost inPort) (.fails stage what false)) :=
  ⟨rfl, rfl, fun _ => rfl⟩

theorem failure_shows (inHost inPort : String) (stage : Stage) (what : String) :
    nativeObserved (nativeConnected inHost inPort) (.fails stage what false) =
      wasmObserved (wasmConnected inHost inPort) (.fails stage what false) := by
  cases stage <;> rfl

theorem native_record_never_closes (process : Process WatchedClient) (steps : List TraceStep) :
    .closed ∉ (nativeRecord process steps).flatMap Observed.callbacks := by
  induction steps generalizing process with
  | nil => simp [nativeRecord]
  | cons step rest ih =>
      rw [nativeRecord, List.flatMap_cons, List.mem_append, not_or]
      exact ⟨native_never_closes process step, ih _⟩

theorem reported_failure_closes (inHost inPort : String) (stage : Stage) (what : String) :
    .closed ∈ (wasmObserved (wasmConnected inHost inPort) (.fails stage what true)).callbacks := by
  have shown : (wasmObserved (wasmConnected inHost inPort) (.fails stage what true)).callbacks = [.error, .closed] := by
    cases stage <;> rfl
  rw [shown]
  exact List.mem_cons_of_mem _ List.mem_cons_self

theorem parity_iff (trace : ConnectionTrace) : parity trace ↔ trace.alike = true := by
  cases trace with
  | opens inHost inPort exchanges ending =>
      simp only [parity, ConnectionTrace.steps, nativeRecord, wasmRecord, connect_shows, agree_cons]
      have opened := opens_shows inHost inPort
      simp only [nativeConnected, wasmConnected] at opened
      rw [opened, agree_cons]
      exact open_agree_iff exchanges ending _ _ (native_opens inHost inPort) (wasm_opens inHost inPort)
  | fails inHost inPort stage what closeReported exchanges disconnects =>
      simp only [parity, ConnectionTrace.steps, nativeRecord, wasmRecord, connect_shows, agree_cons]
      cases closeReported with
      | false =>
          refine iff_of_true ?_ rfl
          have failed := failure_shows inHost inPort stage what
          simp only [nativeConnected, wasmConnected] at failed
          rw [failed, agree_cons]
          exact apart_agree exchanges disconnects _ _ (native_fails inHost inPort stage what false)
            (wasm_fails inHost inPort stage what)
      | true =>
          refine iff_of_false (fun agree => ?_) (by simp [ConnectionTrace.alike])
          have closes := reported_failure_closes inHost inPort stage what
          refine native_record_never_closes (nativeConnected inHost inPort)
            (.fails stage what true :: (exchanges.map .exchange ++ if disconnects then [.disconnect] else [])) ?_
          rw [nativeRecord]
          simp only [nativeConnected]
          rw [agree.1, List.flatMap_cons]
          exact List.mem_append_left _ closes

theorem peer_close_differs : ¬ ∀ trace : ConnectionTrace, parity trace := by
  intro always
  have same := always (.opens "localhost" "7777" [.received [1]] (some (.peerClose "bye")))
  revert same
  decide

end NetworkWrapper.Parity
