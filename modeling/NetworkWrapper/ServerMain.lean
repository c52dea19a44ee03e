import NetworkWrapper.HttpAnswers
import NetworkWrapper.Servers
import NetworkWrapper.WebSocketConfig

set_option autoImplicit false

-- The server's main(): from the command line to the two servers.
namespace NetworkWrapper

-- std::isspace in the C locale
def isSpace (byte : UInt8) : Bool := byte = 32 || (9 ≤ byte && byte ≤ 13)

def signOf : Bytes → Int × Bytes
  | 45 :: rest => (-1, rest)
  | 43 :: rest => (1, rest)
  | digits => (1, digits)

-- std::atoi: the value of the text's first digits, undefined if it is no int.
def atoi (text : Bytes) : Option Int :=
  let (sign, digits) := signOf (text.dropWhile isSpace)
  let value := sign * UriAuthority.decimalValue (digits.takeWhile UriAuthority.isDigit)
  if -(2 ^ 31) ≤ value ∧ value < 2 ^ 31 then some value else none

-- static_cast<uint16_t>
def portOf (value : Int) : UInt16 := UInt16.ofInt value

-- std::max<uint32_t>(1, value)
def threadsOf (value : Int) : Nat := max 1 (value % 2 ^ 32).toNat

structure ServerArguments where
  ipAddress : Bytes
  httpPort : UInt16
  wsPort : UInt16
  httpThreads : Nat
  wsThreads : Nat
deriving DecidableEq

-- argv without the name of the program
def parseArguments : List Bytes → Option ServerArguments
  | [ipAddress, httpPort, wsPort, httpThreads, wsThreads] => do
      let httpPort ← atoi httpPort
      let wsPort ← atoi wsPort
      let httpThreads ← atoi httpThreads
      let wsThreads ← atoi wsThreads
      some ⟨ipAddress, portOf httpPort, portOf wsPort, threadsOf httpThreads, threadsOf wsThreads⟩
  | _ => none

-- boost::asio::ip::tcp::endpoint
structure TcpEndpoint where
  address : IpAddress
  port : UInt16
deriving DecidableEq

-- The constructor only stores the endpoint, it is start() that binds to it.
structure EndpointServer where
  server : TcpServer
  endpoint : TcpEndpoint
  bound : Option TcpEndpoint

-- What the system answers to a start(): to the calls on the acceptor, and the
-- port it chooses for an endpoint with port 0.
structure Binding where
  opening : Opening
  chosenPort : UInt16

def boundEndpoint (endpoint : TcpEndpoint) (binding : Binding) : Option TcpEndpoint :=
  if binding.opening.succeeds then
    some { endpoint with port := if endpoint.port = 0 then binding.chosenPort else endpoint.port }
  else none

def invalidAddress : String := "Invalid argument"

def constructServer (makeAddress : Bytes → Option IpAddress) (ipAddress : Bytes) (port : UInt16) (totalThreads : Nat) :
    Except String EndpointServer :=
  match TcpServer.construct totalThreads with
  | .error what => .error what
  | .ok server =>
      match makeAddress ipAddress with
      | none => .error invalidAddress
      | some address => .ok ⟨server, ⟨address, port⟩, none⟩

-- isLocking says which session manager the main logic has.
structure MainServers where
  httpFileServer : HttpFileServer
  httpServer : EndpointServer
  webSocketServer : EndpointServer
  isLocking : Bool
  useBoostStrands : Bool

inductive MainStart where
  | exitFailure
  | undefined
  | threw (what : String)
  | serving (servers : MainServers)

def useStrands : Bool := true

def constructServers (makeAddress : Bytes → Option IpAddress) (fileManager : Except String FileManager)
    (arguments : ServerArguments) : Except String MainServers := do
  let fileManager ← fileManager
  let httpServer ← constructServer makeAddress arguments.ipAddress arguments.httpPort arguments.httpThreads
  let webSocketServer ← constructServer makeAddress arguments.ipAddress arguments.wsPort arguments.wsThreads
  let webSocketConfigPayload := buildWebSocketUrl arguments.ipAddress arguments.wsPort
  .ok {
    httpFileServer := ⟨fileManager, some (webSocketConfigHandler webSocketConfigPayload)⟩
    httpServer := { httpServer with server := HttpServer.setOnConnectionCallback httpServer.server true }
    webSocketServer := webSocketServer
    isLocking := arguments.wsThreads > 1
    useBoostStrands := arguments.wsThreads > 1 && useStrands }

-- A listener that fails only prints, so a server can have started and not be bound.
def EndpointServer.started (server : EndpointServer) (binding : Binding) (started : TcpServer) : EndpointServer :=
  { server with server := started, bound := boundEndpoint server.endpoint binding }

def MainServers.start (servers : MainServers) (http webSocket : Binding) : Outcome MainServers :=
  ((HttpServer.start servers.httpServer.server http.opening).map fun started =>
    { servers with httpServer := servers.httpServer.started http started }).andThen fun servers =>
  (WebSocketServer.start servers.webSocketServer.server webSocket.opening).map fun started =>
    { servers with webSocketServer := servers.webSocketServer.started webSocket started }

def startMain (makeAddress : Bytes → Option IpAddress) (fileManager : Except String FileManager)
    (http webSocket : Binding) (argv : List Bytes) : MainStart :=
  if argv.length ≠ 5 then .exitFailure
  else
    match parseArguments argv with
    | none => .undefined
    | some arguments =>
        match constructServers makeAddress fileManager arguments with
        | .error what => .threw what
        | .ok servers =>
            match servers.start http webSocket with
            | .returned servers => .serving servers
            | .threw what _ => .threw what
            | .undefined _ => .undefined

theorem digit_no_space (byte : UInt8) (digit : UriAuthority.isDigit byte = true) : ¬ isSpace byte = true := by
  simp only [UriAuthority.isDigit, Bool.and_eq_true, decide_eq_true_eq, UInt8.le_iff_toNat_le] at digit
  simp only [isSpace, Bool.or_eq_true, Bool.and_eq_true, decide_eq_true_eq, UInt8.le_iff_toNat_le, ← UInt8.toNat_inj,
    UInt8.reduceToNat] at digit ⊢
  omega

theorem threads_of_positive (value : Int) : 0 < threadsOf value := Nat.lt_of_lt_of_le Nat.one_pos (Nat.le_max_left _ _)

theorem construct_server_endpoint (makeAddress : Bytes → Option IpAddress) (ipAddress : Bytes) (port : UInt16)
    (totalThreads : Nat) (constructed : EndpointServer)
    (done : constructServer makeAddress ipAddress port totalThreads = .ok constructed) :
    constructed.server.totalThreads = totalThreads ∧ constructed.endpoint.port = port ∧
      makeAddress ipAddress = some constructed.endpoint.address := by
  unfold constructServer TcpServer.construct at done
  by_cases some : 0 < totalThreads
  · rw [dif_pos some] at done
    cases made : makeAddress ipAddress with
    | none =>
        rw [made] at done
        cases done
    | some address =>
        rw [made] at done
        cases done
        exact ⟨rfl, rfl, rfl⟩
  · rw [dif_neg some] at done
    cases done

-- What the page makes of a configuration leads to the endpoint.
structure NamesServer (makeAddress : Bytes → Option IpAddress) (config : WebSocketAddress) (endpoint : TcpEndpoint) :
    Prop where
  address : makeAddress config.host = some endpoint.address
  port : config.port = toStdString endpoint.port.toNat
  authority : UriAuthority.authorityOf (utf8 "ws") (webSocketUrl config.host config.port) =
    some ⟨endpoint.address.uriHost config.host, some endpoint.port.toNat⟩

theorem bound_named_iff (makeAddress : Bytes → Option IpAddress) (config : WebSocketAddress)
    (endpoint bound : TcpEndpoint) (binding : Binding) (names : NamesServer makeAddress config endpoint)
    (binds : boundEndpoint endpoint binding = some bound) :
    NamesServer makeAddress config bound ↔ endpoint.port ≠ 0 ∨ bound.port = 0 := by
  simp only [boundEndpoint, Option.ite_none_right_eq_some, Option.some.injEq] at binds
  obtain ⟨_, rfl⟩ := binds
  by_cases open_ : endpoint.port = 0
  · simp only [open_, if_true, ne_eq, not_true_eq_false, false_or]
    constructor
    · intro chosen
      have same : toStdString endpoint.port.toNat = toStdString binding.chosenPort.toNat :=
        names.port.symm.trans chosen.port
      have equal := congrArg UriAuthority.decimalValue same
      rw [(to_std_string_value _).2.2, (to_std_string_value _).2.2, open_] at equal
      exact UInt16.toNat_inj.mp equal.symm
    · intro zero
      exact ⟨names.address, by rw [names.port, open_, zero], by rw [names.authority, open_, zero]⟩
  · simp only [open_, if_false, ne_eq, not_false_eq_true, true_or, iff_true]
    exact names

theorem sign_of_digits (digits : Bytes) (numeric : ∀ byte ∈ digits, UriAuthority.isDigit byte = true) :
    signOf digits = (1, digits) := by
  unfold signOf
  split
  · exact absurd (numeric 45 List.mem_cons_self) (by decide)
  · exact absurd (numeric 43 List.mem_cons_self) (by decide)
  · rfl

theorem no_leading_space (digits : Bytes) (numeric : ∀ byte ∈ digits, UriAuthority.isDigit byte = true) :
    digits.dropWhile isSpace = digits := by
  cases digits with
  | nil => rfl
  | cons byte rest => rw [List.dropWhile_cons_of_neg (digit_no_space byte (numeric byte List.mem_cons_self))]

theorem atoi_to_std_string (value : Nat) (small : value < 2 ^ 31) : atoi (toStdString value) = some (value : Int) := by
  obtain ⟨numeric, _, back⟩ := to_std_string_value value
  have whole : (toStdString value).takeWhile UriAuthority.isDigit = toStdString value :=
    List.takeWhile_eq_self_iff.mpr numeric
  simp only [atoi, no_leading_space _ numeric, sign_of_digits _ numeric, whole, back, one_mul]
  rw [if_pos (by omega)]

theorem port_of_text (port : UInt16) : (atoi (toStdString port.toNat)).map portOf = some port := by
  have bound := port.toNat_lt
  rw [atoi_to_std_string port.toNat (by omega), Option.map_some]
  have kept : ((port.toNat : Int) % 2 ^ 16).toNat = port.toNat := by omega
  rw [portOf, UInt16.ofInt, kept, UInt16.ofNat_toNat]

theorem construct_servers_ok (makeAddress : Bytes → Option IpAddress) (fileManager : Except String FileManager)
    (arguments : ServerArguments) (servers : MainServers)
    (constructed : constructServers makeAddress fileManager arguments = .ok servers) :
    makeAddress arguments.ipAddress = some servers.webSocketServer.endpoint.address ∧
      servers.webSocketServer.endpoint.port = arguments.wsPort ∧
      servers.webSocketServer.server.totalThreads = arguments.wsThreads ∧
      servers.isLocking = decide (arguments.wsThreads > 1) ∧ servers.useBoostStrands = servers.isLocking ∧
      servers.httpFileServer.customHandler =
        some (webSocketConfigHandler (buildWebSocketUrl arguments.ipAddress arguments.wsPort)) := by
  unfold constructServers at constructed
  cases files : fileManager with
  | error what =>
      rw [files] at constructed
      cases constructed
  | ok fileManager =>
      cases http : constructServer makeAddress arguments.ipAddress arguments.httpPort arguments.httpThreads with
      | error what =>
          rw [files, http] at constructed
          cases constructed
      | ok httpServer =>
          cases webSocket : constructServer makeAddress arguments.ipAddress arguments.wsPort arguments.wsThreads with
          | error what =>
              rw [files, http, webSocket] at constructed
              cases constructed
          | ok webSocketServer =>
              rw [files, http, webSocket] at constructed
              cases constructed
              obtain ⟨threads, port, address⟩ := construct_server_endpoint _ _ _ _ _ webSocket
              exact ⟨address, port, threads, rfl, Bool.and_true _, rfl⟩

theorem web_socket_start_returns (server : TcpServer) (opening : Opening) :
    ∃ started, WebSocketServer.start server opening = .returned started ∧
      started.totalThreads = server.totalThreads := by
  obtain ⟨listener, launched⟩ := TcpServer.launch_returns (WebSocketServer.stop server) opening
  refine ⟨_, launched, ?_⟩
  simp only [WebSocketServer.stop, TcpServer.stop]
  split <;> rfl

theorem servers_started (servers started : MainServers) (http webSocket : Binding)
    (done : servers.start http webSocket = .returned started) :
    started.httpFileServer = servers.httpFileServer ∧ started.isLocking = servers.isLocking ∧
      started.useBoostStrands = servers.useBoostStrands ∧
      started.webSocketServer.endpoint = servers.webSocketServer.endpoint ∧
      started.webSocketServer.server.totalThreads = servers.webSocketServer.server.totalThreads ∧
      started.webSocketServer.bound = boundEndpoint servers.webSocketServer.endpoint webSocket := by
  obtain ⟨server, launched, threads⟩ :=
    web_socket_start_returns servers.webSocketServer.server webSocket.opening
  unfold MainServers.start at done
  cases first : HttpServer.start servers.httpServer.server http.opening with
  | returned httpServer =>
      rw [first] at done
      simp only [Outcome.map_returned, Outcome.returned_and_then, launched] at done
      cases done
      exact ⟨rfl, rfl, rfl, rfl, threads, rfl⟩
  | threw what httpServer =>
      rw [first] at done
      cases done
  | undefined httpServer =>
      rw [first] at done
      cases done

theorem start_main_serving (makeAddress : Bytes → Option IpAddress) (fileManager : Except String FileManager)
    (http webSocket : Binding) (argv : List Bytes) (started : MainServers)
    (serving : startMain makeAddress fileManager http webSocket argv = .serving started) :
    ∃ arguments servers, parseArguments argv = some arguments ∧
      constructServers makeAddress fileManager arguments = .ok servers ∧
      servers.start http webSocket = .returned started := by
  unfold startMain at serving
  split at serving
  · cases serving
  · cases parsed : parseArguments argv with
    | none =>
        rw [parsed] at serving
        cases serving
    | some arguments =>
        cases constructed : constructServers makeAddress fileManager arguments with
        | error what =>
            simp only [parsed, constructed] at serving
            cases serving
        | ok servers =>
            simp only [parsed, constructed] at serving
            cases outcome : servers.start http webSocket with
            | returned after =>
                rw [outcome] at serving
                cases serving
                exact ⟨arguments, servers, rfl, constructed, outcome⟩
            | threw what after =>
                rw [outcome] at serving
                cases serving
            | undefined after =>
                rw [outcome] at serving
                cases serving

theorem parse_arguments_some (argv : List Bytes) (arguments : ServerArguments)
    (parsed : parseArguments argv = some arguments) :
    argv.head? = some arguments.ipAddress ∧
      (∃ wsPort, argv[2]? = some wsPort ∧ (atoi wsPort).map portOf = some arguments.wsPort) ∧
      0 < arguments.httpThreads ∧ 0 < arguments.wsThreads := by
  unfold parseArguments at parsed
  split at parsed
  · rename_i ipAddress httpPort wsPort httpThreads wsThreads
    simp only [Option.bind_eq_bind, Option.bind_eq_some_iff] at parsed
    obtain ⟨_, _, port, number, http, _, webSocket, _, same⟩ := parsed
    cases same
    exact ⟨rfl, ⟨wsPort, rfl, by rw [number]; rfl⟩, threads_of_positive http, threads_of_positive webSocket⟩
  · cases parsed

theorem threads_guarded (makeAddress : Bytes → Option IpAddress) (fileManager : Except String FileManager)
    (http webSocket : Binding) (argv : List Bytes) (started : MainServers)
    (serving : startMain makeAddress fileManager http webSocket argv = .serving started) :
    0 < started.webSocketServer.server.totalThreads ∧
      (started.webSocketServer.server.totalThreads = 1 ∨ started.isLocking = true ∧ started.useBoostStrands = true) := by
  obtain ⟨arguments, servers, parsed, constructed, done⟩ :=
    start_main_serving makeAddress fileManager http webSocket argv started serving
  obtain ⟨_, _, threads, locking, strands, _⟩ := construct_servers_ok makeAddress fileManager arguments servers constructed
  obtain ⟨_, sameLocking, sameStrands, _, sameThreads, _⟩ := servers_started servers started http webSocket done
  have positive := (parse_arguments_some argv arguments parsed).2.2.2
  rw [sameStrands, sameLocking, sameThreads, strands, locking, threads]
  refine ⟨positive, ?_⟩
  by_cases several : arguments.wsThreads > 1
  · exact .inr ⟨decide_eq_true several, decide_eq_true several⟩
  · exact .inl (by omega)

theorem config_request_answered (server : HttpFileServer) (payload : Bytes) (request : HttpRequest)
    (handled : server.customHandler = some (webSocketConfigHandler payload))
    (method : request.method = utf8 "GET") (target : request.target = webSocketConfigPath) :
    ∃ response, server.onNewConnection request .fresh = .returned response ∧ response.result = 200 ∧
      response.body = payload := by
  let prepared := { HttpResponse.fresh with version := request.version, keepAlive := false }
  refine ⟨(prepared.set .contentType "application/json").write payload, ?_, rfl, rfl⟩
  simp only [HttpFileServer.onNewConnection, method, HttpFileServer.onGetRequest, handled, webSocketConfigHandler, target,
    if_true]
  rfl

theorem published_names_server (makeAddress : Bytes → Option IpAddress)
    (dotted : ∀ text first second third fourth, makeAddress text = some (.v4 first second third fourth) →
      text = dottedDecimal first second third fourth)
    (ipAddress : Bytes) (endpoint : TcpEndpoint) (accepted : makeAddress ipAddress = some endpoint.address)
    (version4 : endpoint.address.isV4 = true) :
    getWebSocketConfig (buildWebSocketUrl ipAddress endpoint.port) = some ⟨ipAddress, toStdString endpoint.port.toNat⟩ ∧
      NamesServer makeAddress ⟨ipAddress, toStdString endpoint.port.toNat⟩ endpoint := by
  cases version : endpoint.address with
  | v6 bytes scopeId =>
      rw [version] at version4
      cases version4
  | v4 first second third fourth =>
      rw [version] at accepted
      obtain rfl := dotted ipAddress first second third fourth accepted
      have bytes := dotted_decimal_bytes first second third fourth
      obtain ⟨numeric, something, value⟩ := to_std_string_value endpoint.port.toNat
      have read := UriAuthority.ipv4_host_read_back (utf8 "ws") _ (toStdString endpoint.port.toNat)
        (dotted_decimal_address first second third fourth) bytes numeric something
      rw [value] at read
      refine ⟨config_read_back _ endpoint.port (dotted_plain _ bytes), ?_, rfl, ?_⟩
      · rw [version]
        exact accepted
      · rw [version]
        exact read

theorem served_config_names_server (makeAddress : Bytes → Option IpAddress)
    (dotted : ∀ text first second third fourth, makeAddress text = some (.v4 first second third fourth) →
      text = dottedDecimal first second third fourth)
    (fileManager : Except String FileManager) (http webSocket : Binding) (argv : List Bytes) (started : MainServers)
    (serving : startMain makeAddress fileManager http webSocket argv = .serving started)
    (version4 : started.webSocketServer.endpoint.address.isV4 = true) (events : List HttpEvent)
    (final : Process HttpServing)
    (reached : Transition.run httpStep (servingWith (some started.httpFileServer.onNewConnection)) events = some final) :
    final.ending = .running ∧
      ∀ index connection, final.world.connections[index]? = some connection →
        ∀ request, .connection index (.arrived request) ∈ events → request.method = utf8 "GET" →
          request.target = webSocketConfigPath → ∀ answer ∈ connection.transmitted,
            answer.response.result = 200 ∧ answer.contentLength = answer.response.body.length ∧
              ∃ config, getWebSocketConfig answer.response.body = some config ∧
                NamesServer makeAddress config started.webSocketServer.endpoint ∧
                (∀ bound, started.webSocketServer.bound = some bound → (NamesServer makeAddress config bound ↔
                  started.webSocketServer.endpoint.port ≠ 0 ∨ bound.port = 0)) ∧
                argv.head? = some config.host ∧
                ∀ port : UInt16, argv[2]? = some (toStdString port.toNat) → config.port = toStdString port.toNat := by
  obtain ⟨arguments, servers, parsed, constructed, done⟩ :=
    start_main_serving makeAddress fileManager http webSocket argv started serving
  obtain ⟨accepted, port, _, _, _, handled⟩ := construct_servers_ok makeAddress fileManager arguments servers constructed
  obtain ⟨sameFiles, _, _, sameEndpoint, _, binds⟩ := servers_started servers started http webSocket done
  obtain ⟨host, ⟨text, third, number⟩, _, _⟩ := parse_arguments_some argv arguments parsed
  rw [← sameEndpoint] at accepted port binds
  rw [← port, ← sameFiles] at handled
  obtain ⟨published, names⟩ := published_names_server makeAddress dotted arguments.ipAddress
    started.webSocketServer.endpoint accepted version4
  have survives : final.ending = .running :=
    responsive_runs _ events final (file_server_responsive started.httpFileServer (by rw [handled]; simp)) reached
  refine ⟨survives, fun index connection there request arrived method target answer transmitted => ?_⟩
  obtain ⟨response, given, result, body⟩ :=
    config_request_answered started.httpFileServer _ request handled method target
  obtain ⟨response', given', rfl⟩ := transmitted_answers_request _ events final reached index connection there request
    arrived answer transmitted
  obtain rfl : response = response' := Outcome.returned.inj (given.symm.trans given')
  refine ⟨result, rfl, _, (congrArg getWebSocketConfig body).trans published, names, fun bound listens => ?_, host,
    fun port' typed => ?_⟩
  · exact bound_named_iff makeAddress _ _ bound webSocket names (binds.symm.trans listens)
  · have same := third.symm.trans typed
    cases same
    rw [port_of_text port'] at number
    cases number
    rw [port]

def loopbackArguments : List Bytes := ["127.0.0.1", "7777", "8888", "1", "4"].map utf8

def bindsAtOnce : Binding := ⟨⟨none, none, none, none⟩, 49152⟩

def askedForConfig : List HttpEvent :=
  [.accepted, .connection 0 (.arrived (configRequest "GET")), .connection 0 .readDelivered, .connection 0 (.wrote none)]

theorem served_config_loopback :
    ∃ started, startMain loopbackAddress (.ok ⟨utf8 "./files", []⟩) bindsAtOnce bindsAtOnce loopbackArguments =
        .serving started ∧
      started.useBoostStrands = true ∧ started.webSocketServer.bound = some ⟨.v4 127 0 0 1, 8888⟩ ∧ ∃ final,
        Transition.run httpStep (servingWith (some started.httpFileServer.onNewConnection)) askedForConfig = some final ∧
        ∃ connection answer, final.world.connections[0]? = some connection ∧ connection.transmitted = [answer] ∧
          answer.response.result = 200 ∧
          getWebSocketConfig answer.response.body = some ⟨utf8 "127.0.0.1", utf8 "8888"⟩ := by
  have served := served_config_names_server loopbackAddress loopback_dotted (.ok ⟨utf8 "./files", []⟩) bindsAtOnce
    bindsAtOnce loopbackArguments _ rfl rfl askedForConfig _ rfl
  have answered := served.2 0 _ rfl (configRequest "GET") (by decide) rfl rfl _ List.mem_cons_self
  exact ⟨_, rfl, rfl, rfl, _, rfl, _, _, rfl, rfl, answered.1, by decide⟩

end NetworkWrapper
