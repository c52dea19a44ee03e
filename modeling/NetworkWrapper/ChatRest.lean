import NetworkWrapper.ChatProgress
import NetworkWrapper.Progress

set_option autoImplicit false

-- Nothing that has been accepted is stuck: left to itself, the chat brings it
-- where it belongs.
namespace NetworkWrapper

open WebSocketSession WebSocketMainLogicServer

theorem onward_says_nothing (event : ChatEvent) (goes : onward event = true) (inData : Bytes) :
    saying event ≠ some inData := by
  cases event with
  | network self step => cases step <;> simp [onward, saying] at goes ⊢
  | _ => simp [saying]

structure KeptUp (clients : List SessionId) (start chat : Chat) : Prop where
  tended : ChatTended chat
  offers : ∀ self, Offers Modest (chat.peers self).client (chat.peers self).sending
  runs : chat.server.ending = .running
  up : ∀ self ∈ clients, Up self chat
  accepted : ∀ self ∈ clients, (chat.link self).connection.accepted = (start.link self).connection.accepted

theorem up_elsewhere (self other : SessionId) (chat next : Chat)
    (log : next.log = chat.log ∨ ∃ message, next.log = chat.log ++ [.newMessage self message])
    (same : next.peers other = chat.peers other) (up : Up other chat) : Up other next := by
  have present : isPresent other next.log = true := by
    rcases log with unchanged | ⟨message, longer⟩
    · rw [unchanged]
      exact up.present
    · rw [longer, present_snoc]
      exact up.present
  exact ⟨present, by rw [same]; exact up.well, by rw [same]; exact up.clientRuns, by rw [same]; exact up.clientWell,
    by rw [same]; exact up.connected⟩

theorem kept_up_step (clients : List SessionId) (stale : Address → Option Int) (start chat next : Chat) (event : ChatEvent)
    (self : SessionId) (keptUp : KeptUp clients start chat) (goes : onward event = true)
    (taken : chatStep stale chat event = some next) (runs : next.server.ending = .running)
    (log : next.log = chat.log ∨ ∃ message, next.log = chat.log ++ [.newMessage self message])
    (peers : ∀ other, other ≠ self → next.peers other = chat.peers other) (up : Up self next)
    (accepted : (next.link self).connection.accepted = (chat.link self).connection.accepted) :
    KeptUp clients start next := by
  refine ⟨chat_step_tended stale chat event next keptUp.tended taken, ?_, runs, fun other member => ?_,
    fun other member => ?_⟩
  · exact offers_step Modest stale chat event next keptUp.offers
      (fun inData said => absurd said (onward_says_nothing event goes inData)) taken
  · by_cases same : other = self
    · exact same ▸ up
    · exact up_elsewhere self other chat next log (peers other same) (keptUp.up other member)
  · rw [← keptUp.accepted other member]
    by_cases same : other = self
    · exact same ▸ accepted
    · simp only [Link.connection, Chat.link, peers other same]

theorem messages_relayed (clients : List SessionId) (stale : Address → Option Int) (start chat : Chat)
    (keptUp : KeptUp clients start chat) :
    ∃ events final, Transition.run (chatStep stale) chat events = some final ∧
      (∀ event ∈ events, onward event = true) ∧ KeptUp clients start final ∧
      ∀ self ∈ clients, owedUp self final = 0 := by
  refine Transition.run_descends_all (chatStep stale) (fun event => onward event = true) (KeptUp clients start) clients
    owedUp (fun chat keptUp self member owes => ?_) chat keptUp
  obtain ⟨event, next, goes, taken, raised⟩ :=
    up_step stale chat self keptUp.tended keptUp.offers keptUp.runs (keptUp.up self member) owes
  refine ⟨event, next, goes, taken, ?_, raised.lower, fun other different => ?_⟩
  · exact kept_up_step clients stale start chat next event self keptUp goes taken raised.runs raised.log raised.peers
      raised.up raised.accepted
  · simp only [owedUp, raised.peers other different]

theorem texts_brought (clients : List SessionId) (stale : Address → Option Int) (start chat : Chat)
    (keptUp : KeptUp clients start chat) (relayed : ∀ self ∈ clients, owedUp self chat = 0) :
    ∃ events final, Transition.run (chatStep stale) chat events = some final ∧
      (∀ event ∈ events, onward event = true) ∧
      (KeptUp clients start final ∧ ∀ self ∈ clients, owedUp self final = 0) ∧
      ∀ self ∈ clients, owedDown self final = 0 := by
  refine Transition.run_descends_all (chatStep stale) (fun event => onward event = true)
    (fun chat => KeptUp clients start chat ∧ ∀ self ∈ clients, owedUp self chat = 0) clients owedDown ?_ chat
    ⟨keptUp, relayed⟩
  rintro chat ⟨keptUp, relayed⟩ self member owes
  obtain ⟨event, next, goes, taken, lowered⟩ :=
    down_step stale chat self keptUp.tended keptUp.offers keptUp.runs (keptUp.up self member) owes
  refine ⟨event, next, goes, taken, ⟨?_, fun other listed => ?_⟩, lowered.lower, fun other different => ?_⟩
  · exact kept_up_step clients stale start chat next event self keptUp goes taken lowered.runs (.inl lowered.log)
      lowered.peers lowered.up lowered.accepted
  · by_cases same : other = self
    · rw [same, lowered.upward]
      exact relayed self member
    · simp only [owedUp, lowered.peers other same]
      exact relayed other listed
  · simp only [owedDown, lowered.peers other different, lowered.hosts other different]

theorem chat_comes_to_rest (stale : Address → Option Int) (events : List ChatEvent) (final : Chat)
    (reached : Transition.run (chatStep stale) noChat events = some final)
    (modest : ∀ event ∈ events, ∀ inData, saying event = some inData → Modest inData)
    (runs : final.server.ending = .running) (clients : List SessionId) (up : ∀ self ∈ clients, Up self final) :
    ∃ more done, Transition.run (chatStep stale) final more = some done ∧ (∀ event ∈ more, onward event = true) ∧
      done.server.ending = .running ∧ ∀ self ∈ clients, Up self done ∧
        messagesFrom self done.log = (final.link self).connection.accepted ∧
        done.seen self = expectedTexts self done.log := by
  have keptUp : KeptUp clients final final := ⟨chat_run_tended stale events final reached,
    offers_run Modest stale events final modest reached, runs, up, fun _ _ => rfl⟩
  obtain ⟨upward, middle, relay, relays, between, relayed⟩ := messages_relayed clients stale final final keptUp
  obtain ⟨downward, done, bring, brings, ⟨after, stays⟩, brought⟩ :=
    texts_brought clients stale final middle between relayed
  refine ⟨upward ++ downward, done, (Transition.run_append _ _ _ _ _).mpr ⟨middle, relay, bring⟩, ?_, after.runs, ?_⟩
  · intro event member
    exact (List.mem_append.mp member).elim (relays event) (brings event)
  · intro self member
    have connected := after.up self member
    obtain ⟨clientSent, _, nothingUp⟩ := (effort_none _ _ _).mp (stays self member)
    obtain ⟨serverSent, _, nothingDown⟩ := (effort_none _ _ _).mp (brought self member)
    obtain ⟨shown, heard⟩ := chat_drained done after.tended.sound self after.runs connected.clientWell connected.well
      (List.eq_nil_of_length_eq_zero nothingDown) (List.eq_nil_of_length_eq_zero nothingUp)
      (List.eq_nil_of_length_eq_zero clientSent) (List.eq_nil_of_length_eq_zero serverSent)
    exact ⟨connected, heard.trans (after.accepted self member), shown⟩

instance (wsSession : SessionId) (chat : Chat) : Decidable (Up wsSession chat) :=
  decidable_of_iff (isPresent wsSession chat.log = true ∧ (chat.peers wsSession).broken = false ∧
      (chat.peers wsSession).client.process.ending = .running ∧ (chat.peers wsSession).client.broken = false ∧
      (chat.peers wsSession).client.process.world.host.isConnected = true)
    ⟨fun ⟨present, well, clientRuns, clientWell, connected⟩ => ⟨present, well, clientRuns, clientWell, connected⟩,
      fun up => ⟨up.present, up.well, up.clientRuns, up.clientWell, up.connected⟩⟩

theorem said_ok_up : ∃ final, Transition.run (chatStep undefinedRead) noChat saidOk = some final ∧
    final.server.ending = .running ∧ Up 0 final ∧ Up 1 final := by
  have ready : (Transition.run (chatStep undefinedRead) noChat saidOk).any (fun final =>
      decide (final.server.ending = .running ∧ Up 0 final ∧ Up 1 final)) = true := by decide +kernel
  cases reached : Transition.run (chatStep undefinedRead) noChat saidOk with
  | none =>
      rw [reached] at ready
      cases ready
  | some final =>
      rw [reached, Option.any_some] at ready
      exact ⟨final, rfl, of_decide_eq_true ready⟩

theorem chat_comes_to_rest_said_ok :
    ∃ final more done, Transition.run (chatStep undefinedRead) noChat saidOk = some final ∧
      Transition.run (chatStep undefinedRead) final more = some done ∧
      messagesFrom 1 done.log = (final.link 1).connection.accepted ∧ done.seen 0 = expectedTexts 0 done.log := by
  obtain ⟨final, reached, runs, first, second⟩ := said_ok_up
  obtain ⟨more, done, ran, _, _, rests⟩ := chat_comes_to_rest undefinedRead saidOk final reached said_ok_modest runs [0, 1]
    (by simp [first, second])
  exact ⟨final, more, done, reached, ran, (rests 1 (by simp)).2.1, (rests 0 (by simp)).2.2⟩

end NetworkWrapper
