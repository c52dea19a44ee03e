import NetworkWrapper.Transition
import NetworkWrapper.WasmClient

set_option autoImplicit false

-- The sockets one wasm client creates one after the other, and their events.
namespace NetworkWrapper.Wasm

def Client.current (client : Client) : Option Socket :=
  client.connection.wsSocket.bind fun handle => client.sockets[handle]?

def Socket.live (socket : Socket) : Bool := socket.phase = .opened && !socket.disconnected

def Client.live (client : Client) : Bool := client.current.any Socket.live

structure Undisturbed (client : Client) : Prop where
  connectedIff : client.connection.isConnected = client.live
  onlyCurrent : ∀ heard ∈ client.heard, heard.current = true
  nothingLate : client.handledLate = false

def Client.allClosed (client : Client) : Bool := client.sockets.all fun socket => socket.phase = .closed

-- A new socket is created, and the object destroyed, only after every socket has
-- delivered its close event.
def AfterClosed (client : Client) : Event → Prop
  | .connect _ _ _ => client.allClosed = true
  | .destroy => client.allClosed = true
  | _ => True

instance (client : Client) : (event : Event) → Decidable (AfterClosed client event)
  | .connect _ _ _ => inferInstanceAs (Decidable (_ = true))
  | .destroy => inferInstanceAs (Decidable (_ = true))
  | .disconnect => isTrue trivial
  | .send _ => isTrue trivial
  | .delivered _ _ => isTrue trivial

structure Orderly (client : Client) : Prop where
  undisturbed : Undisturbed client
  others : ∀ handle socket, client.sockets[handle]? = some socket → socket.phase ≠ .closed →
    client.connection.wsSocket = some handle
  gone : client.destroyed = true → client.allClosed = true

theorem all_closed_phase (client : Client) (all : client.allClosed = true) (handle : Nat) (socket : Socket)
    (reads : client.sockets[handle]? = some socket) : socket.phase = .closed := by
  have each := List.all_eq_true.mp all socket (List.mem_of_getElem? reads)
  simpa using each

theorem all_closed_dead (client : Client) (all : client.allClosed = true) : client.live = false := by
  unfold Client.live Client.current
  cases stored : client.connection.wsSocket with
  | none => rfl
  | some handle =>
      cases reads : client.sockets[handle]? with
      | none => simp [reads]
      | some socket => simp [reads, Socket.live, all_closed_phase client all handle socket reads]

theorem disconnect_idle (client : Client) (apart : client.connection.isConnected = false) :
    client.disconnect = client := by
  simp [Client.disconnect, apart]

theorem orderly_closed_apart (client : Client) (orderly : Orderly client) (all : client.allClosed = true) :
    client.connection.isConnected = false :=
  orderly.undisturbed.connectedIff.trans (all_closed_dead client all)

theorem orderly_connect (client : Client) (inHost inPort : String) (created : Bool) (orderly : Orderly client)
    (alive : client.destroyed = false) (all : client.allClosed = true) :
    Orderly (client.connect inHost inPort created) := by
  have apart := orderly_closed_apart client orderly all
  cases created with
  | false =>
      simp only [Client.connect, apart, Bool.false_eq_true, if_false]
      refine ⟨⟨rfl, orderly.undisturbed.onlyCurrent, orderly.undisturbed.nothingLate⟩, ?_, orderly.gone⟩
      intro handle socket reads unclosed
      exact absurd (all_closed_phase client all handle socket reads) unclosed
  | true =>
      simp only [Client.connect, apart, Bool.false_eq_true, if_false, if_true]
      refine ⟨⟨?_, orderly.undisturbed.onlyCurrent, orderly.undisturbed.nothingLate⟩, ?_, ?_⟩
      · simp [Client.live, Client.current, Socket.live]
      · intro handle socket reads unclosed
        by_cases last : handle < client.sockets.length
        · rw [List.getElem?_append_left last] at reads
          exact absurd (all_closed_phase client all handle socket reads) unclosed
        · have within := (List.getElem?_eq_some_iff.mp reads).1
          simp only [List.length_append, List.length_singleton] at within
          exact congrArg some (by omega)
      · intro destroyed
        rw [alive] at destroyed
        cases destroyed

theorem live_stored (client : Client) (live : client.live = true) :
    ∃ handle socket, client.connection.wsSocket = some handle ∧ client.sockets[handle]? = some socket ∧
      socket.live = true := by
  unfold Client.live Client.current at live
  cases stored : client.connection.wsSocket with
  | none => simp [stored] at live
  | some handle =>
      cases reads : client.sockets[handle]? with
      | none => simp [stored, reads] at live
      | some socket => exact ⟨handle, socket, rfl, reads, by simpa [stored, reads] using live⟩

theorem orderly_disconnect (client : Client) (orderly : Orderly client) (alive : client.destroyed = false) :
    Orderly client.disconnect := by
  by_cases apart : client.connection.isConnected = false
  · rw [disconnect_idle client apart]
    exact orderly
  · have live : client.live = true := by
      rw [← orderly.undisturbed.connectedIff]
      simpa using apart
    obtain ⟨handle, socket, stored, reads, _⟩ := live_stored client live
    have closed : client.closeSocket = client.sockets.modify handle fun socket => { socket with disconnected := true } := by
      simp [Client.closeSocket, stored]
    simp only [Client.disconnect, if_neg apart, closed]
    refine ⟨⟨?_, orderly.undisturbed.onlyCurrent, orderly.undisturbed.nothingLate⟩, ?_, ?_⟩
    · simp [Client.live, Client.current, stored, reads, Socket.live]
    · intro other found located unclosed
      by_cases same : other = handle
      · subst other
        exact stored
      · simp only [List.getElem?_modify_ne _ _ (Ne.symm same)] at located
        exact orderly.others other found located unclosed
    · intro destroyed
      rw [alive] at destroyed
      cases destroyed

theorem orderly_destroy (client : Client) (orderly : Orderly client) (all : client.allClosed = true) :
    Orderly client.destroy := by
  have apart := orderly_closed_apart client orderly all
  simp only [Client.destroy, disconnect_idle client apart]
  exact ⟨⟨orderly.undisturbed.connectedIff, orderly.undisturbed.onlyCurrent, orderly.undisturbed.nothingLate⟩,
    orderly.others, fun _ => all⟩

theorem delivered_unclosed (socket next : Socket) (event : SocketEvent) (delivered : socket.deliver event = some next) :
    socket.phase ≠ .closed := by
  intro closed
  cases event <;> simp [Socket.deliver, closed, SocketPhase.after] at delivered

theorem handled_live (connection : WebSocketConnection) (socket next : Socket) (event : SocketEvent)
    (follows : connection.isConnected = socket.live) (delivered : socket.deliver event = some next) :
    (handle watching { connection := connection, app := [] } event).connection.isConnected = next.live := by
  obtain ⟨phase, moved, rfl⟩ := Option.map_eq_some_iff.mp delivered
  obtain ⟨url, before, disconnected⟩ := socket
  cases event with
  | opened => cases before <;> cases moved; rfl
  | message data =>
      cases before <;> cases moved
      simpa [handle, onMessage, Socket.live] using follows
  | error => cases before <;> cases moved <;> rfl
  | closed reason => cases before <;> cases moved <;> rfl

theorem handle_keeps_socket (world : World (List Callback)) (event : SocketEvent) :
    (handle watching world event).connection.wsSocket = world.connection.wsSocket := by
  cases event <;> rfl

theorem orderly_delivered (client next : Client) (handle : Nat) (event : SocketEvent) (orderly : Orderly client)
    (taken : client.deliver handle event = some next) : Orderly next := by
  unfold Client.deliver at taken
  cases reads : client.sockets[handle]? with
  | none => simp [reads] at taken
  | some socket =>
      rw [reads] at taken
      obtain ⟨moved, delivered, rfl⟩ := Option.map_eq_some_iff.mp taken
      have unclosed := delivered_unclosed socket moved event delivered
      have stored := orderly.others handle socket reads unclosed
      have alive : client.destroyed = false := by
        by_contra destroyed
        exact unclosed (all_closed_phase client (orderly.gone (by simpa using destroyed)) handle socket reads)
      have follows : client.connection.isConnected = socket.live := by
        rw [orderly.undisturbed.connectedIff]
        simp [Client.live, Client.current, stored, reads]
      have within := (List.getElem?_eq_some_iff.mp reads).1
      simp only [alive, Bool.false_eq_true, if_false]
      refine ⟨⟨?_, ?_, orderly.undisturbed.nothingLate⟩, ?_, ?_⟩
      · dsimp only
        rw [handled_live client.connection socket moved event follows delivered]
        simp [Client.live, Client.current, handle_keeps_socket, stored, within]
      · intro heard member
        rcases List.mem_append.mp member with before | now
        · exact orderly.undisturbed.onlyCurrent heard before
        · obtain ⟨callback, _, rfl⟩ := List.mem_map.mp now
          simp [stored]
      · intro other found located unclosed
        dsimp only at located ⊢
        rw [handle_keeps_socket]
        by_cases same : other = handle
        · rw [same]
          exact stored
        · rw [List.getElem?_set_ne (Ne.symm same)] at located
          exact orderly.others other found located unclosed
      · intro destroyed
        cases destroyed

theorem orderly_step (client next : Client) (event : Event) (orderly : Orderly client)
    (closed : AfterClosed client event) (taken : step client event = some next) : Orderly next := by
  cases event with
  | connect inHost inPort created =>
      simp only [step, Option.ite_none_left_eq_some, Option.some.injEq] at taken
      obtain ⟨alive, rfl⟩ := taken
      exact orderly_connect client inHost inPort created orderly (by simpa using alive) closed
  | disconnect =>
      simp only [step, Option.ite_none_left_eq_some, Option.some.injEq] at taken
      obtain ⟨alive, rfl⟩ := taken
      exact orderly_disconnect client orderly (by simpa using alive)
  | send result =>
      simp only [step, Option.ite_none_left_eq_some, Option.some.injEq] at taken
      obtain ⟨_, rfl⟩ := taken
      exact orderly
  | destroy =>
      simp only [step, Option.ite_none_left_eq_some, Option.some.injEq] at taken
      obtain ⟨_, rfl⟩ := taken
      exact orderly_destroy client orderly closed
  | delivered handle event => exact orderly_delivered client next handle event orderly taken

theorem orderly_create : Orderly .create := by
  refine ⟨⟨rfl, by simp [Client.create], rfl⟩, ?_, by simp [Client.create]⟩
  intro handle socket reads
  simp [Client.create] at reads

theorem undisturbed_after_closed (events : List Event) (final : Client)
    (reached : Transition.run step .create events = some final)
    (closed : Transition.Meets step AfterClosed .create events) : Undisturbed final := by
  have orderly : Orderly final := Transition.run_keeps_guarded step AfterClosed Orderly
    (fun client event next sofar allowed taken => orderly_step client next event sofar allowed taken)
    events .create final orderly_create closed reached
  exact orderly.undisturbed

def reconnectsWhenClosed : List Event :=
  [.connect "localhost" "7777" true, .delivered 0 .opened, .disconnect, .delivered 0 (.message [1]),
    .delivered 0 (.closed "no reason"), .connect "localhost" "7777" true, .delivered 1 .opened, .delivered 1 .error,
    .delivered 1 (.closed ""), .destroy]

theorem undisturbed_reconnected :
    ∃ final, Transition.run step .create reconnectsWhenClosed = some final ∧ Undisturbed final :=
  ⟨_, rfl, undisturbed_after_closed reconnectsWhenClosed _ rfl (by decide)⟩

-- The close event of the first socket comes after the second one has opened.
def reconnectsAtOnce : List Event :=
  [.connect "localhost" "7777" true, .delivered 0 .opened, .connect "localhost" "7777" true, .delivered 1 .opened,
    .delivered 0 (.closed "no reason")]

theorem late_close_disturbs :
    ¬ ∀ (events : List Event) (final : Client), Transition.run step .create events = some final → Undisturbed final := by
  intro always
  have follows := (always reconnectsAtOnce _ rfl).connectedIff
  revert follows
  decide

end NetworkWrapper.Wasm
